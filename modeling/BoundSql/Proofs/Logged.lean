import BoundSql.Proofs.AlikeRuns
import BoundSql.Proofs.Frame

/-!
# What logs hold

A log that builders share holds exactly the statements that were sent to it since it was last
emptied: each of them once, in the order in which they were sent and numbered from one on,
with the clauses that its builder had at the time. Its counts are those of the statements it
holds. Builds that fail, readings, and builds that go elsewhere leave no trace in it.
-/

namespace BoundSql

/-- A statement that was sent to a log, with the draft that it was built from. -/
structure Sending where
  /-- The draft of the builder at the time. -/
  draft : Draft
  /-- The statement that the build answered. -/
  statement : Statement

/-- The clauses of a sent statement as they are written into a log. -/
def Sending.state (e : Sending) : Snapshot :=
  ⟨e.statement.action, e.draft.shownColumns, e.draft⟩

namespace BuildLog

/-- A log that holds the given statements and no others, numbered from one on, each with the
clauses of its draft, and that counts them in all and by action. -/
structure Holds (log : BuildLog) (sent : List Sending) : Prop where
  /-- The statements are numbered from one on. -/
  ids : log.entries.map LogEntry.id = List.range' 1 sent.length
  /-- The statements are those that were sent, with their clauses. -/
  contents : log.entries.map (fun e => (e.state, e.statement)) =
    sent.map fun e => (e.state, e.statement)
  /-- The statements are counted. -/
  total : log.total = sent.length
  /-- The statements of each action are counted. -/
  tally : ∀ a, log.tally a = log.entries.countP fun e => e.statement.action = a

/-- A log has as many entries as statements were sent to it. -/
theorem Holds.length_entries {log : BuildLog} {sent : List Sending} (h : log.Holds sent) :
    log.entries.length = sent.length := by
  have hlength := congrArg List.length h.contents
  rwa [List.length_map, List.length_map] at hlength

/-- A log in which one more statement is recorded holds it behind the others. -/
theorem Holds.record {log : BuildLog} {sent : List Sending} (h : log.Holds sent) (e : Sending) :
    (log.record e.state e.statement).Holds (sent ++ [e]) := by
  constructor
  · have hnext : List.range' 1 (sent ++ [e]).length =
        List.range' 1 sent.length ++ [sent.length + 1] := by
      rw [List.length_append, List.length_singleton, List.range'_concat, Nat.one_mul,
        Nat.add_comm 1]
    rw [hnext, ← h.ids, ← h.length_entries]
    exact List.map_append
  · rw [List.map_append, ← h.contents]
    exact List.map_append
  · rw [List.length_append, ← h.total]
    rfl
  · intro a
    have hfirst := h.tally a
    unfold BuildLog.record
    rw [List.countP_append, List.countP_singleton, ← hfirst]
    by_cases ha : a = e.statement.action
    · simp [ha]
    · simp [ha, Ne.symm ha]

/-- The counts that a log shows are those of its entries. -/
theorem Holds.metrics {log : BuildLog} {sent : List Sending} (h : log.Holds sent) :
    log.metrics = ("total_queries", sent.length) :: Action.all.map fun a =>
      (a.name ++ "_queries", log.entries.countP fun e => e.statement.action = a) := by
  unfold BuildLog.metrics
  rw [h.total]
  simp only [h.tally]

end BuildLog

namespace Call

/-- The kind of statement that a call chooses, also when its data is refused. -/
def action? : Call → Option Action
  | .count _ => some .count
  | .insert _ => some .insert
  | .update _ => some .update
  | .delete => some .delete
  | _ => none

/-- Whether a call empties every clause. -/
def clearsAll : Call → Bool
  | .clearAll => true
  | _ => false

end Call

namespace Draft

/-- A call makes a draft one of a selection, or chooses its kind of statement, or leaves it of the
kind that it was. -/
theorem action_call (options : Options) (d : Draft) (c : Call) :
    (d.call options c).draft.action =
      if c.clearsAll then .known .select else (c.action?.map .known).getD d.action := by
  have hother : ∀ part, c.part? = some part → part ≠ .content →
      (d.call options c).draft.action = d.action := fun part hpart =>
    (sameBut_call options d hpart).action_eq
  cases c with
  | clear clause =>
    cases clause with
    | data => rfl
    | _ => exact hother _ rfl (by decide)
  | tableAlias | select | join | filter | groupBy | orderBy | limit | offset =>
    exact hother _ rfl (by decide)
  | _ => rfl

/-- Whether a draft is of one of the five kinds of statement. -/
def HasAction (d : Draft) : Prop :=
  ∃ a, d.action = .known a

/-- A call leaves a draft of one of the five kinds of statement. -/
theorem HasAction.call {d : Draft} (h : d.HasAction) (options : Options) (c : Call) :
    (d.call options c).draft.HasAction := by
  unfold HasAction
  rw [action_call]
  split
  · exact ⟨.select, rfl⟩
  · cases c.action? with
    | none => exact h
    | some a => exact ⟨a, rfl⟩

end Draft

namespace Builder

/-- A new builder selects. -/
theorem hasAction_of_create {table tableAlias options : Value} {sink : Option Sink} {b : Builder}
    (h : Builder.create table tableAlias options sink = .ok b) : b.draft.HasAction :=
  ⟨.select, congrArg Draft.action (draft_of_create h)⟩

end Builder

/-- Whether a step empties the log of a name. -/
def Step.empties (name : String) : Step → Bool
  | .resetLog other => other == name
  | _ => false

namespace Workspace

/-- What a step sends to the log of a name: the statement that a build answers, when the sink
of the build, or else the sink of the current builder, is that log. -/
def sending? (w : Workspace) (name : String) (s : Step) : Option Sending :=
  match s, w.builder?, (w.step s).2.finding with
  | .build sink, some b, .ok (.statement statement) =>
    if sink.or b.sink = some (.log name) then some ⟨b.draft, statement⟩ else none
  | _, _, _ => none

/-- The steps of a run in order, each with what it sends to the log of a name. -/
def history (w : Workspace) (name : String) : List Step → List (Step × Option Sending)
  | [] => []
  | s :: rest => (s, w.sending? name s) :: history (w.step s).1 name rest

/-- What a run sends to the log of a name behind the last step that empties it. -/
def sent (w : Workspace) (name : String) (steps : List Step) : List Sending :=
  ((w.history name steps).rtakeWhile fun e => !e.1.empties name).filterMap Prod.snd

/-- The last step of a run is made on what the steps before it leave. -/
theorem after_concat (w : Workspace) (steps : List Step) (s : Step) :
    w.after (steps ++ [s]) = ((w.after steps).step s).1 :=
  List.foldl_append

/-- A workspace at work: it has a current builder, and all of its builders are of one of the
five kinds of statement. -/
structure AtWork (w : Workspace) : Prop where
  /-- There is a current builder. -/
  current : w.current < w.builders.length
  /-- Every builder is of one of the five kinds of statement. -/
  hasAction : ∀ b ∈ w.builders, b.draft.HasAction

/-- A workspace at work has a current builder of one of the five kinds of statement. -/
theorem AtWork.exists_builder {w : Workspace} (h : w.AtWork) :
    ∃ b, w.builder? = some b ∧ b.draft.HasAction :=
  ⟨_, List.getElem?_eq_getElem h.current, h.hasAction _ (List.getElem_mem h.current)⟩

/-- A workspace stays at work when its current builder is put in order. -/
theorem AtWork.withBuilder {w : Workspace} (h : w.AtWork) {b : Builder}
    (hb : b.draft.HasAction) : (w.withBuilder b).AtWork := by
  constructor
  · have hlength : (w.builders.set w.current b).length = w.builders.length := List.length_set
    exact hlength ▸ h.current
  · intro other hother
    rcases List.mem_or_eq_of_mem_set hother with hother | rfl
    · exact h.hasAction other hother
    · exact hb

/-- A step that puts no value in the place of an action keeps a workspace at work. -/
theorem AtWork.step {w : Workspace} (h : w.AtWork) {s : Step}
    (hs : ∀ value, s ≠ .replaceAction value) : (w.step s).1.AtWork := by
  obtain ⟨b, hb, haction⟩ := h.exists_builder
  unfold Workspace.step
  rw [hb]
  cases s with
  | call c =>
    have hcall := h.withBuilder (b := (b.call c).1) (haction.call b.options c)
    simp only [stepOn]
    cases (b.call c).2 with
    | none => exact hcall
    | some refusal => exact hcall
  | build sink =>
    simp only [stepOn]
    cases (b.build sink).delivery? with
    | none => exact h
    | some d => exact ⟨h.current, h.hasAction⟩
  | create table tableAlias options sink =>
    simp only [stepOn]
    cases hmade : Builder.create table tableAlias options sink with
    | error refusal => exact h
    | ok made =>
      constructor
      · simp
      · intro other hother
        rcases List.mem_append.1 hother with hother | hother
        · exact h.hasAction other hother
        · rw [List.mem_singleton.1 hother]
          exact Builder.hasAction_of_create hmade
  | use index =>
    simp only [stepOn]
    split
    · next hindex => exact ⟨hindex, h.hasAction⟩
    · exact h
  | replaceAction value => exact absurd rfl (hs value)
  | resetLog name => exact ⟨h.current, h.hasAction⟩
  | _ => exact h

end Workspace

end BoundSql
