import BoundSql.Draft
import BoundSql.Statement

/-!
# Logs of built statements

A log numbers the statements that are sent to it from one on, keeps each of them
with the snapshot of its draft, and counts them in all and by action.
-/

namespace BoundSql

/-- A statement in a log. -/
structure LogEntry where
  /-- The number of the statement in the log. -/
  id : Nat
  /-- The draft of the statement at the time. -/
  state : Snapshot
  /-- The statement. -/
  statement : Statement

/-- A log of built statements. -/
structure BuildLog where
  /-- The statements in the order in which they were sent. -/
  entries : List LogEntry := []
  /-- How many statements were sent. -/
  total : Nat := 0
  /-- How many statements of each action were sent. -/
  tally : Action → Nat := fun _ => 0

namespace BuildLog

/-- An empty log. -/
def empty : BuildLog := {}

/-- A log with one more statement. -/
def record (log : BuildLog) (state : Snapshot) (statement : Statement) : BuildLog where
  entries := log.entries ++ [⟨log.entries.length + 1, state, statement⟩]
  total := log.total + 1
  tally a := if a = statement.action then log.tally a + 1 else log.tally a

/-- The counts of a log under their names. -/
def metrics (log : BuildLog) : List (String × Nat) :=
  ("total_queries", log.total) :: Action.all.map fun a => (a.name ++ "_queries", log.tally a)

@[simp] theorem length_entries_record (log : BuildLog) (state : Snapshot)
    (statement : Statement) :
    (log.record state statement).entries.length = log.entries.length + 1 := by
  simp [record]

end BuildLog

end BoundSql
