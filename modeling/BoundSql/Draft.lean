import BoundSql.Refusal
import BoundSql.Value.Entries

/-!
# Drafts of statements

A draft holds every clause of one statement. The defaults of its fields are what
an empty clause is. A snapshot of a draft shows its clauses as they are written
into a log; a draft whose action is not one of the five has no snapshot.
-/

namespace BoundSql

/-- A joined table. -/
structure Join where
  /-- How its rows are matched. -/
  kind : JoinKind
  /-- The joined table. -/
  table : Value
  /-- The alias of the joined table, empty for none. -/
  tableAlias : Value
  /-- The condition on which rows match. -/
  condition : Value

/-- The action of a draft: one of the five, or a value that was put in its place. -/
inductive ActionSlot where
  /-- One of the five actions. -/
  | known (action : Action)
  /-- A value in place of an action. -/
  | foreign (value : Value)

/-- The clauses of one statement. -/
structure Draft where
  /-- The table that the statement is about. -/
  table : Value
  /-- The alias of the table, empty for none. -/
  tableAlias : Value := .text ""
  /-- The kind of statement. -/
  action : ActionSlot := .known .select
  /-- The columns to select; all when there are none. -/
  columns : List Value := []
  /-- The joined tables in order. -/
  joins : List Join := []
  /-- The texts of the filters, which all have to hold. -/
  filters : List String := []
  /-- The values of the placeholders of the filters. -/
  filterParams : List Value := []
  /-- What rows are grouped by, empty for no grouping. -/
  groupBy : Value := .text ""
  /-- What rows are ordered by, empty for no order. -/
  orderBy : Value := .text ""
  /-- The greatest number of rows, zero for no limit. -/
  limit : Value := .int 0
  /-- How many rows are skipped. -/
  offset : Value := .int 0
  /-- The data of the row to insert or update. -/
  data : Entries := []
  /-- The data to update when the row to insert exists already. -/
  duplicateData : Entries := []
  /-- What is counted. -/
  countColumn : Value := .text "*"

/-- The clauses of a draft as they are written into a log. -/
structure Snapshot where
  /-- The kind of statement. -/
  action : Action
  /-- The shown texts of the columns, a star when there are none. -/
  columns : List String
  /-- The draft that was taken down. -/
  draft : Draft

namespace ActionSlot

/-- The slot that a value gives: one of the five actions when it is named. -/
def ofValue (value : Value) : ActionSlot :=
  match value with
  | .text name =>
    match Action.ofName? name with
    | some action => .known action
    | none => .foreign value
  | value => .foreign value

/-- The action to be built. The name of an action that was put in its place stands
for the action. -/
def action : ActionSlot → Except Refusal Action
  | .known action => .ok action
  | .foreign (.text name) =>
    match Action.ofName? name with
    | some action => .ok action
    | none => .error (.unsupportedAction (.text name))
  | .foreign value =>
    if value.canBeKey then .error (.unsupportedAction value) else .error (.misuse .notKey)

end ActionSlot

namespace Draft

/-- The shown texts of the columns, a star when there are none. -/
def shownColumns (d : Draft) : List String :=
  if d.columns.isEmpty then ["*"] else d.columns.map Value.shown

/-- The draft as it is written into a log. -/
def snapshot (d : Draft) : Except Misuse Snapshot :=
  match d.action with
  | .known action => .ok ⟨action, d.shownColumns, d⟩
  | .foreign _ => .error .notAction

end Draft

end BoundSql
