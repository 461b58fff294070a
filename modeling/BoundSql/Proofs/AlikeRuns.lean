import BoundSql.Proofs.AlikeStatements
import BoundSql.Proofs.Run

/-!
# Runs of the same shape

Two runs of steps whose arguments have the same shape are answered alike: a step is
accepted in both or refused in both for the same reason, statements have the same text,
kind and number of values, and the events are the same. So bound values have no effect
on the text of a statement or on what is reported of it.
-/

namespace BoundSql

open Result (Agree)

namespace Builder

/-- Builders with the same switches and sink whose drafts have the same shape. -/
structure Alike (b b' : Builder) : Prop where
  /-- The switches are the same. -/
  options : b.options = b'.options
  /-- The sinks are the same. -/
  sink : b.sink = b'.sink
  /-- The drafts have the same shape. -/
  draft : b.draft.Alike b'.draft

/-- A builder has the shape of itself. -/
theorem Alike.refl (b : Builder) : b.Alike b :=
  ⟨rfl, rfl, .refl b.draft⟩

/-- Calls with arguments of the same shape keep builders of the same shape, and they are
accepted or refused alike. -/
theorem Alike.call {b b' : Builder} (h : b.Alike b') {c c' : Call} (hcall : c.Alike c') :
    (b.call c).1.Alike (b'.call c').1 ∧ (b.call c).2 = (b'.call c').2 := by
  have houtcome := h.draft.call b.options hcall
  rw [h.options] at houtcome
  unfold Builder.call
  rw [h.options]
  exact ⟨⟨rfl, h.sink, houtcome.draft⟩, houtcome.refusal⟩

/-- Builders of the same shape read statements that are alike, or they are refused alike. -/
theorem Alike.preview {b b' : Builder} (h : b.Alike b') :
    Agree Statement.Alike b.preview b'.preview :=
  Statement.agree_ofDraft h.draft

/-- Statements of builders of the same shape are sent alike: they are delivered in both or
in neither, or the sending is refused alike. -/
theorem Alike.send {b b' : Builder} (h : b.Alike b') {s t : Statement} (hstatement : s.Alike t)
    (sink : Sink) :
    Agree (fun _ _ => True) (b.send s sink) (b'.send t sink) := by
  have hsnapshot : Agree (fun _ _ => True) b.draft.snapshot b'.draft.snapshot := by
    unfold Draft.snapshot
    rw [h.draft.action]
    split
    · exact .ok trivial
    · exact .error _
  unfold Builder.send
  apply (hsnapshot.mapError Refusal.misuse).bind
  intro state state' _
  cases sink with
  | log name => exact .ok trivial
  | refusing =>
    dsimp only
    rw [hstatement.action]
    exact .error _

/-- Builds of builders of the same shape end alike with the same events. -/
theorem Alike.build {b b' : Builder} (h : b.Alike b') (sink : Option Sink) :
    Agree Statement.Alike (b.build sink).result (b'.build sink).result ∧
      (b.build sink).events = (b'.build sink).events := by
  have hstatement := Statement.agree_ofDraft h.draft
  unfold Builder.build failureEvents
  rw [h.sink, h.draft.action, h.draft.table]
  generalize Statement.ofDraft b.draft = built at hstatement
  generalize Statement.ofDraft b'.draft = built' at hstatement
  cases hstatement with
  | error refusal => exact ⟨.error refusal, rfl⟩
  | @ok s t hstatement =>
    dsimp only
    rw [hstatement.sql, hstatement.params, hstatement.action]
    cases sink.or b'.sink with
    | none => exact ⟨.ok hstatement, rfl⟩
    | some sink =>
      have hsent := h.send hstatement sink
      dsimp only
      generalize b.send s sink = sent at hsent
      generalize b'.send t sink = sent' at hsent
      cases hsent with
      | ok => exact ⟨.ok hstatement, rfl⟩
      | error refusal => exact ⟨.error refusal, rfl⟩

end Builder

/-- Steps of the same kind with arguments of the same shape. The contents of logs are not
asked for, since statements are kept there with their values. -/
inductive Step.Alike : Step → Step → Prop where
  /-- Calls with arguments of the same shape. -/
  | call {c c' : Call} (h : c.Alike c') : Alike (.call c) (.call c')
  /-- Builds with the same sink. -/
  | build (sink : Option Sink) : Alike (.build sink) (.build sink)
  /-- Readings of the text. -/
  | sql : Alike .sql .sql
  /-- Readings of the parameters. -/
  | params : Alike .params .params
  /-- New builders with the same arguments. -/
  | create (table tableAlias options : Value) (sink : Option Sink) :
    Alike (.create table tableAlias options sink) (.create table tableAlias options sink)
  /-- Changes to the same builder. -/
  | use (index : Nat) : Alike (.use index) (.use index)
  /-- The same value in place of the action. -/
  | replaceAction (value : Value) : Alike (.replaceAction value) (.replaceAction value)
  /-- Emptyings of the same log. -/
  | resetLog (name : String) : Alike (.resetLog name) (.resetLog name)

/-- Findings that differ in bound values alone. -/
inductive Finding.Alike : Finding → Finding → Prop where
  /-- Nothing. -/
  | nothing : Alike .nothing .nothing
  /-- Statements of the same text and kind with as many values. -/
  | statement {s t : Statement} (h : s.Alike t) : Alike (.statement s) (.statement t)
  /-- The same text. -/
  | sql (text : String) : Alike (.sql text) (.sql text)
  /-- As many values. -/
  | params {values others : List Value} (h : values.length = others.length) :
    Alike (.params values) (.params others)

/-- Replies of the same finding up to bound values, or the same refusal, with the same
events. -/
structure Reply.Alike (r r' : Reply) : Prop where
  /-- The findings differ in bound values alone, or the refusals are the same. -/
  finding : Agree Finding.Alike r.finding r'.finding
  /-- The events are the same. -/
  events : r.events = r'.events

namespace Workspace

/-- The workspace after a list of steps. -/
def after (w : Workspace) (steps : List Step) : Workspace :=
  steps.foldl (fun w s => (w.step s).1) w

/-- What the steps of a list answer one after the other. -/
def replies (w : Workspace) : List Step → List Reply
  | [] => []
  | s :: rest => (w.step s).2 :: replies (w.step s).1 rest

/-- Workspaces whose builders have the same shape one by one, with the same one current. -/
structure Alike (w w' : Workspace) : Prop where
  /-- The builders have the same shape. -/
  builders : List.Forall₂ Builder.Alike w.builders w'.builders
  /-- The same builder is current. -/
  current : w.current = w'.current

/-- A workspace has the shape of itself. -/
theorem Alike.refl (w : Workspace) : w.Alike w :=
  ⟨List.forall₂_same.2 fun b _ => .refl b, rfl⟩

/-- A change of the current builders to ones of the same shape. -/
theorem Alike.withBuilder {w w' : Workspace} (h : w.Alike w') {b b' : Builder}
    (hb : b.Alike b') : (w.withBuilder b).Alike (w'.withBuilder b') := by
  have hset : ∀ {list others : List Builder} (index : Nat),
      List.Forall₂ Builder.Alike list others →
      List.Forall₂ Builder.Alike (list.set index b) (others.set index b') := by
    intro list others index hlist
    induction hlist generalizing index with
    | nil => exact .nil
    | cons hfirst hrest ih =>
      cases index with
      | zero => exact .cons hb hrest
      | succ index => exact .cons hfirst (ih index)
  constructor
  · unfold Workspace.withBuilder
    rw [h.current]
    exact hset _ h.builders
  · exact h.current

/-- A delivery changes no builder. -/
theorem Alike.deliver {w w' : Workspace} (h : w.Alike w') (d d' : Option Delivery) :
    (w.deliver d).Alike (w'.deliver d') := by
  have hkeep : ∀ (w : Workspace) (d : Option Delivery),
      (w.deliver d).builders = w.builders ∧ (w.deliver d).current = w.current := by
    intro w d
    cases d <;> exact ⟨rfl, rfl⟩
  constructor
  · rw [(hkeep w d).1, (hkeep w' d').1]
    exact h.builders
  · rw [(hkeep w d).2, (hkeep w' d').2]
    exact h.current

/-- The current builders of workspaces of the same shape have the same shape, or there is
none in both. -/
theorem Alike.builder? {w w' : Workspace} (h : w.Alike w') :
    Option.Rel Builder.Alike w.builder? w'.builder? := by
  have hget : ∀ {list others : List Builder} (index : Nat),
      List.Forall₂ Builder.Alike list others →
      Option.Rel Builder.Alike list[index]? others[index]? := by
    intro list others index hlist
    induction hlist generalizing index with
    | nil => exact .none
    | cons hfirst hrest ih =>
      cases index with
      | zero => exact .some hfirst
      | succ index => exact ih index
  unfold Workspace.builder?
  rw [h.current]
  exact hget _ h.builders

/-- A step of the same shape keeps workspaces of the same shape and is answered alike. -/
theorem Alike.stepOn {w w' : Workspace} (h : w.Alike w') {b b' : Builder} (hb : b.Alike b')
    {s s' : Step} (hs : s.Alike s') :
    (w.stepOn b s).1.Alike (w'.stepOn b' s').1 ∧ (w.stepOn b s).2.Alike (w'.stepOn b' s').2 := by
  have hnothing : Agree Finding.Alike (.ok .nothing : Except Refusal Finding) (.ok .nothing) :=
    .ok .nothing
  cases hs with
  | @call c c' hcall =>
    obtain ⟨hafter, hrefusal⟩ := hb.call hcall
    simp only [Workspace.stepOn]
    rw [hrefusal]
    cases (b'.call c').2 with
    | none => exact ⟨h.withBuilder hafter, hnothing, rfl⟩
    | some refusal => exact ⟨h.withBuilder hafter, .error refusal, rfl⟩
  | build sink =>
    obtain ⟨hresult, hevents⟩ := hb.build sink
    exact ⟨h.deliver _ _, hresult.map fun s t hstatement => .statement hstatement, hevents⟩
  | sql =>
    have htexts : Agree Finding.Alike (b.preview.map fun s => .sql s.sql)
        (b'.preview.map fun s => .sql s.sql) := by
      apply hb.preview.map
      intro s t hstatement
      rw [hstatement.sql]
      exact .sql _
    exact ⟨h, htexts, rfl⟩
  | params =>
    exact ⟨h, hb.preview.map fun s t hstatement => .params hstatement.params, rfl⟩
  | create table tableAlias options sink =>
    simp only [Workspace.stepOn]
    cases Builder.create table tableAlias options sink with
    | error refusal => exact ⟨h, .error refusal, rfl⟩
    | ok made =>
      have hlength := h.builders.length_eq
      exact ⟨⟨List.rel_append h.builders (.cons (.refl made) .nil), hlength⟩, hnothing, rfl⟩
  | use index =>
    have hlength := h.builders.length_eq
    simp only [Workspace.stepOn]
    rw [hlength]
    split
    · exact ⟨⟨h.builders, rfl⟩, hnothing, rfl⟩
    · exact ⟨h, hnothing, rfl⟩
  | replaceAction value =>
    have hdraft : Draft.Alike { b.draft with action := .foreign value }
        { b'.draft with action := .foreign value } := { hb.draft with action := rfl }
    exact ⟨h.withBuilder ⟨hb.options, hb.sink, hdraft⟩, hnothing, rfl⟩
  | resetLog name => exact ⟨⟨h.builders, h.current⟩, hnothing, rfl⟩

/-- A step of the same shape keeps workspaces of the same shape and is answered alike, also
when no builder is current. -/
theorem Alike.step {w w' : Workspace} (h : w.Alike w') {s s' : Step} (hs : s.Alike s') :
    (w.step s).1.Alike (w'.step s').1 ∧ (w.step s).2.Alike (w'.step s').2 := by
  have hcurrent := h.builder?
  unfold Workspace.step
  generalize w.builder? = found at hcurrent
  generalize w'.builder? = found' at hcurrent
  cases hcurrent with
  | none => exact ⟨h, .ok .nothing, rfl⟩
  | some hb => exact h.stepOn hb hs

/-- Two runs of steps of the same shape on workspaces of the same shape are answered alike,
step by step: with the same refusals, or with statements of the same text and kind and as
many values, and with the same events. The workspaces have the same shape again. -/
theorem Alike.replies {w w' : Workspace} (h : w.Alike w') {steps steps' : List Step}
    (hsteps : List.Forall₂ Step.Alike steps steps') :
    List.Forall₂ Reply.Alike (w.replies steps) (w'.replies steps') ∧
      (w.after steps).Alike (w'.after steps') := by
  induction hsteps generalizing w w' with
  | nil => exact ⟨.nil, h⟩
  | cons hfirst _ ih =>
    obtain ⟨hafter, hreply⟩ := h.step hfirst
    obtain ⟨hreplies, hend⟩ := ih hafter
    exact ⟨.cons hreply hreplies, hend⟩

/-- On any builders, bound values have no effect on the text of a statement or on what is
reported: two runs of calls, builds and readings that differ in bound values alone have the
same refusals at the same steps, statements of the same text and kind with as many values,
and the same events. -/
theorem replies_alike (w : Workspace) {steps steps' : List Step}
    (hsteps : List.Forall₂ Step.Alike steps steps') :
    List.Forall₂ Reply.Alike (w.replies steps) (w.replies steps') :=
  ((Alike.refl w).replies hsteps).1

/-- A run of a filter, a refused limit, an update and a build with some values. -/
def valuedRun (id low high name : Value) : List Step :=
  [.call (.filter .and (.mapping [(.text "id", id),
      (.text "age", .list [.text "between", .tuple [low, high]])])),
    .call (.limit (.int (-1)) (.int 0)),
    .build none,
    .call (.update (.mapping [(.text "name", name), (.text "seen", .raw ⟨"NOW(?)", [low]⟩)])),
    .build none]

/-- Texts in the place of numbers have no effect but on the values. -/
theorem replies_alike_valuedRun :
    List.Forall₂ Step.Alike (valuedRun (.int 1) (.int 2) (.int 3) .null)
        (valuedRun (.text "1 OR 1=1") .null (.text "?") (.list [.int 9])) ∧
      List.Forall₂ Reply.Alike
        ((single (Builder.ofTable "users")).replies (valuedRun (.int 1) (.int 2) (.int 3) .null))
        ((single (Builder.ofTable "users")).replies
          (valuedRun (.text "1 OR 1=1") .null (.text "?") (.list [.int 9]))) := by
  have hid : (Value.int 1).ConditionAlike (.text "1 OR 1=1") := .scalar rfl rfl
  have hage : (Value.list [.text "between", .tuple [.int 2, .int 3]]).ConditionAlike
      (.list [.text "between", .tuple [.null, .text "?"]]) := .list (.tuple rfl)
  have hname : Value.null.AssignedAlike (.list [.int 9]) :=
    .bound (fun _ h => by cases h) fun _ h => by cases h
  have hseen : (Value.raw ⟨"NOW(?)", [.int 2]⟩).AssignedAlike (.raw ⟨"NOW(?)", [.null]⟩) :=
    .raw ⟨rfl, rfl⟩
  have hsteps : List.Forall₂ Step.Alike (valuedRun (.int 1) (.int 2) (.int 3) .null)
      (valuedRun (.text "1 OR 1=1") .null (.text "?") (.list [.int 9])) :=
    .cons (.call (.filter .and (.mapping (.cons ⟨rfl, hid⟩ (.cons ⟨rfl, hage⟩ .nil)))))
      (.cons (.call (.limit _ _)) (.cons (.build none)
        (.cons (.call (.update (.mapping (.cons ⟨rfl, hname⟩ (.cons ⟨rfl, hseen⟩ .nil)))))
          (.cons (.build none) .nil))))
  exact ⟨hsteps, replies_alike (single (Builder.ofTable "users")) hsteps⟩

end Workspace

end BoundSql
