import BoundSql.Builder
import BoundSql.Proofs.Result
import Mathlib.Data.List.DropRight
import Mathlib.Data.List.Induction

/-!
# Runs of calls on a builder

A run is a list of calls that are made one after the other, each of them whether
or not those before it were refused. A builder gives a statement when a build ends
in it, wherever the statement is sent, or when it is read without being sent.
-/

namespace BoundSql

namespace Builder

/-- A builder after a run of calls. -/
def after (b : Builder) (run : List Call) : Builder :=
  run.foldl (fun b c => (b.call c).1) b

/-- A new builder for a table without an alias, with the default switches and no sink. -/
def ofTable (name : String) : Builder :=
  ⟨{}, none, { table := .text name }⟩

/-- A builder for a table of the given name is created without a refusal. -/
theorem create_text (name : String) :
    Builder.create (.text name) (.text "") .null none = .ok (ofTable name) :=
  rfl

/-- Whether a builder accepts a call. -/
def accepts (b : Builder) (c : Call) : Bool :=
  (b.call c).2.isNone

/-- The calls of a run that are accepted, in order. -/
def accepted (b : Builder) : List Call → List Call
  | [] => []
  | c :: rest =>
    if b.accepts c then c :: accepted (b.call c).1 rest else accepted (b.call c).1 rest

/-- The calls of a run in order, each with the reason why it was refused if it was. -/
def outcomes (b : Builder) : List Call → List (Call × Option Refusal)
  | [] => []
  | c :: rest => (c, (b.call c).2) :: outcomes (b.call c).1 rest

/-- A statement that a builder gives, from a build with any sink or from a reading of
its text and parameters. -/
def Gives (b : Builder) (statement : Statement) : Prop :=
  b.preview = .ok statement ∨ ∃ sink, (b.build sink).result = .ok statement

/-- A run can be made in two parts. -/
theorem after_append (b : Builder) (run others : List Call) :
    b.after (run ++ others) = (b.after run).after others :=
  List.foldl_append

/-- The last call of a run is made on what the calls before it leave. -/
theorem after_concat (b : Builder) (run : List Call) (c : Call) :
    b.after (run ++ [c]) = ((b.after run).call c).1 := by
  rw [after_append]
  rfl

/-- A run changes the draft of a builder and nothing else. -/
theorem after_eq_calls (b : Builder) (run : List Call) :
    b.after run = { b with draft := b.draft.calls b.options run } := by
  induction run generalizing b with
  | nil => rfl
  | cons c rest ih => exact ih (b.call c).1

/-- No call changes the switches of a builder. -/
theorem options_after (b : Builder) (run : List Call) : (b.after run).options = b.options := by
  rw [after_eq_calls]

/-- The calls that are accepted in two parts of a run follow each other. -/
theorem accepted_append (b : Builder) (run others : List Call) :
    b.accepted (run ++ others) = b.accepted run ++ (b.after run).accepted others := by
  induction run generalizing b with
  | nil => rfl
  | cons c rest ih =>
    have hrest := ih (b.call c).1
    simp only [List.cons_append, accepted]
    split
    · rw [hrest]
      rfl
    · rw [hrest]
      rfl

/-- The last call of a run is accepted by the builder that the others leave. -/
theorem accepted_concat (b : Builder) (run : List Call) (c : Call) :
    b.accepted (run ++ [c]) =
      if (b.after run).accepts c then b.accepted run ++ [c] else b.accepted run := by
  rw [accepted_append]
  simp only [accepted]
  split
  · rfl
  · exact List.append_nil _

/-- An accepted call is one of the run. -/
theorem mem_of_mem_accepted {b : Builder} {run : List Call} {c : Call}
    (h : c ∈ b.accepted run) : c ∈ run := by
  induction run generalizing b with
  | nil => exact h
  | cons first rest ih =>
    simp only [accepted] at h
    split at h
    · rcases List.mem_cons.1 h with rfl | h
      · exact List.mem_cons_self
      · exact List.mem_cons_of_mem _ (ih h)
    · exact List.mem_cons_of_mem _ (ih h)

/-- Whatever becomes of it, a statement that is built is that of the draft. -/
theorem ofDraft_of_result_build {b : Builder} {sink : Option Sink} {statement : Statement}
    (h : (b.build sink).result = .ok statement) : Statement.ofDraft b.draft = .ok statement := by
  unfold build at h
  cases hdraft : Statement.ofDraft b.draft with
  | error refusal =>
    rw [hdraft] at h
    cases h
  | ok built =>
    rw [hdraft] at h
    dsimp only at h
    split at h
    · exact h
    · split at h
      · exact h
      · cases h

/-- What a build answers can be told from the sinks, the kind of statement and the statement. -/
theorem result_build_congr {b b' : Builder} (hsink : b.sink = b'.sink)
    (haction : b.draft.action = b'.draft.action)
    (hstatement : Statement.ofDraft b.draft = Statement.ofDraft b'.draft) (sink : Option Sink) :
    (b.build sink).result = (b'.build sink).result := by
  unfold build
  rw [hstatement, hsink]
  cases Statement.ofDraft b'.draft with
  | error refusal => rfl
  | ok statement =>
    dsimp only
    cases sink.or b'.sink with
    | none => rfl
    | some s =>
      simp only [send, Draft.snapshot, haction]
      cases b'.draft.action <;> cases s <;> rfl

/-- A builder gives no statement but that of its draft. -/
theorem gives_iff {b : Builder} {statement : Statement} :
    b.Gives statement ↔ Statement.ofDraft b.draft = .ok statement := by
  constructor
  · intro h
    rcases h with h | ⟨sink, h⟩
    · exact h
    · exact ofDraft_of_result_build h
  · exact Or.inl

section Create

variable {table tableAlias options : Value} {sink : Option Sink} {b : Builder}

/-- A new builder has the given sink and an empty draft. -/
theorem eq_of_create (h : Builder.create table tableAlias options sink = .ok b) :
    b = ⟨b.options, sink, { table := b.draft.table, tableAlias := b.draft.tableAlias }⟩ := by
  unfold create at h
  obtain ⟨switches, -, h⟩ := Result.bind_eq_ok_iff.1 h
  obtain ⟨name, -, h⟩ := Result.bind_eq_ok_iff.1 h
  obtain ⟨short, -, h⟩ := Result.bind_eq_ok_iff.1 h
  cases h
  rfl

/-- A new builder has an empty draft. -/
theorem draft_of_create (h : Builder.create table tableAlias options sink = .ok b) :
    b.draft = { table := b.draft.table, tableAlias := b.draft.tableAlias } :=
  congrArg Builder.draft (eq_of_create h)

end Create

end Builder

end BoundSql
