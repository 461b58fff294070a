import BoundSql.Proofs.Run

/-!
# Refused calls

A call that adds a filter or a join, or that sets the alias, the columns or the offset,
changes a builder only when it is accepted. A filter is refused for the first of its
conditions that cannot be resolved, whatever conditions stand around it. So the calls of
these kinds that are refused can be left out of a run without a trace.
-/

namespace BoundSql

/-- Whether a call makes all of its change or none of it. The others are never refused, or
make a part of their change when they are: a limit is set before its offset is looked at,
and data is merged up to the item that is refused. -/
def Call.isAllOrNothing : Call → Bool
  | .tableAlias _ | .select _ | .join .. | .filter .. | .offset _ => true
  | _ => false

/-- A refusal for the first of some conditions that cannot be resolved. -/
def Filter.RefusedFirst (conditions : List (Value × Value)) (refusal : Refusal) : Prop :=
  ∃ before column value behind,
    conditions = before ++ (column, value) :: behind ∧
      (∀ e ∈ before, ∃ c, Condition.resolve e.1 e.2 = .ok c) ∧
      Condition.resolve column value = .error refusal

/-- Conditions make no filter when one cannot be resolved, for the first such one. -/
theorem Filter.parts_eq_error_iff {conditions : List (Value × Value)} {refusal : Refusal} :
    parts conditions = .error refusal ↔ RefusedFirst conditions refusal := by
  unfold RefusedFirst
  induction conditions with
  | nil => simp [parts]
  | cons e rest ih =>
    obtain ⟨first, given⟩ := e
    rw [parts]
    simp only [List.cons_eq_append_iff]
    cases hgiven : Condition.resolve first given with
    | error found =>
      constructor
      · intro h
        cases h
        exact ⟨[], first, given, rest, .inl ⟨rfl, rfl⟩, by simp, hgiven⟩
      · rintro ⟨before, column, value, behind, ⟨rfl, hfirst⟩ | ⟨tail, rfl, -⟩, hbefore, hvalue⟩
        · cases hfirst
          rw [hgiven] at hvalue
          cases hvalue
          rfl
        · obtain ⟨c, hc⟩ := hbefore _ List.mem_cons_self
          rw [hgiven] at hc
          cases hc
    | ok c =>
      have hrest : (parts rest = .error refusal) ↔ ((do
          let others ← parts rest
          return c.render first.shown :: others) : Except Refusal (List Fragment)) =
            .error refusal := by
        cases parts rest with
        | error found => exact Iff.rfl
        | ok fragments => exact ⟨fun h => (by cases h), fun h => (by cases h)⟩
      refine hrest.symm.trans (ih.trans ?_)
      constructor
      · rintro ⟨before, column, value, behind, hsplit, hbefore, hvalue⟩
        refine ⟨(first, given) :: before, column, value, behind, .inr ⟨before, rfl, hsplit⟩, ?_,
          hvalue⟩
        intro e he
        rcases List.mem_cons.1 he with rfl | he
        · exact ⟨c, hgiven⟩
        · exact hbefore e he
      · rintro ⟨before, column, value, behind, ⟨rfl, hfirst⟩ | ⟨tail, rfl, hsplit⟩, hbefore, hvalue⟩
        · cases hfirst
          rw [hgiven] at hvalue
          cases hvalue
        · exact ⟨tail, column, value, behind, hsplit,
            fun e he => hbefore e (List.mem_cons_of_mem _ he), hvalue⟩

namespace Draft

/-- A change that can be refused is refused for its own reason, and the draft stays as it
was. -/
theorem settle_eq_of_refused {d : Draft} {result : Except Refusal Draft} {refusal : Refusal}
    (h : (d.settle result).refusal? = some refusal) :
    result = .error refusal ∧ (d.settle result).draft = d := by
  cases result with
  | ok changed => cases h
  | error found =>
    cases h
    exact ⟨rfl, rfl⟩

/-- A call that makes all of its change or none of it makes none when it is refused. -/
theorem draft_call_of_refused (options : Options) (d : Draft) {c : Call}
    (hc : c.isAllOrNothing = true) {refusal : Refusal}
    (h : (d.call options c).refusal? = some refusal) : (d.call options c).draft = d := by
  cases c with
  | tableAlias given => exact (settle_eq_of_refused h).2
  | select columns => exact (settle_eq_of_refused h).2
  | join table condition given kind => exact (settle_eq_of_refused h).2
  | filter connective conditions => exact (settle_eq_of_refused h).2
  | offset offset => exact (settle_eq_of_refused h).2
  | _ => cases hc

/-- A filter of a mapping is refused for the first condition that cannot be resolved. -/
theorem refusal?_call_filter_iff (options : Options) (d : Draft) (connective : Connective)
    (conditions : List (Value × Value)) (refusal : Refusal) :
    (d.call options (.filter connective (.mapping conditions))).refusal? = some refusal ↔
      Filter.RefusedFirst conditions refusal := by
  rw [← Filter.parts_eq_error_iff]
  change (d.settle (((Filter.parts conditions).map _).map _)).refusal? = some refusal ↔ _
  cases Filter.parts conditions with
  | ok fragments => simp [settle, Except.map]
  | error found => simp [settle, Except.map]

end Draft

namespace Builder

/-- Whether a call of a run, with what became of it, makes all of its change or none of it
and was refused. -/
def isRefusedWhole (o : Call × Option Refusal) : Bool :=
  o.1.isAllOrNothing && o.2.isSome

/-- A run without the calls that make all of their change or none of it and that were
refused in it. -/
def withoutRefused (b : Builder) (run : List Call) : List Call :=
  ((b.outcomes run).filter fun o => !isRefusedWhole o).map Prod.fst

/-- A call that makes all of its change or none of it changes no builder when it is
refused. -/
theorem call_of_refused (b : Builder) {c : Call} (hc : c.isAllOrNothing = true)
    (h : (b.call c).2.isSome = true) : (b.call c).1 = b := by
  obtain ⟨refusal, hrefusal⟩ := Option.isSome_iff_exists.1 h
  have hdraft := Draft.draft_call_of_refused b.options b.draft hc hrefusal
  change { b with draft := (b.draft.call b.options c).draft } = b
  rw [hdraft]

/-- A run ends in the same builder without its refused calls, and the calls that are left
are refused as before. -/
theorem after_withoutRefused (b : Builder) (run : List Call) :
    b.after (b.withoutRefused run) = b.after run ∧
      b.outcomes (b.withoutRefused run) =
        (b.outcomes run).filter fun o => !isRefusedWhole o := by
  induction run generalizing b with
  | nil => exact ⟨rfl, rfl⟩
  | cons c rest ih =>
    obtain ⟨hafter, houtcomes⟩ := ih (b.call c).1
    unfold withoutRefused at hafter houtcomes ⊢
    rw [outcomes, List.filter_cons]
    cases hrefused : isRefusedWhole (c, (b.call c).2) with
    | true =>
      obtain ⟨hc, hsome⟩ := Bool.and_eq_true_iff.1 hrefused
      have hcall := b.call_of_refused hc hsome
      rw [hcall] at hafter houtcomes ⊢
      rw [if_neg (by decide)]
      refine ⟨hafter.trans ?_, houtcomes⟩
      change b.after rest = (b.call c).1.after rest
      rw [hcall]
    | false =>
      rw [if_pos (by decide), List.map_cons]
      refine ⟨hafter, ?_⟩
      rw [outcomes, houtcomes]

/-- A refused call that adds a filter or a join, or that sets the alias, the columns or the
offset, leaves a builder as it was, whatever it was given. A filter of a mapping is refused
exactly for the first of its conditions that cannot be resolved, whatever conditions stand in
front of it and behind it. So a run without these refused calls ends in the same builder, which
builds the same, and its calls are accepted or refused as before. -/
theorem refused_calls_leave_no_trace (b : Builder) :
    (∀ c : Call, c.isAllOrNothing = true → (b.call c).2.isSome = true → (b.call c).1 = b) ∧
      (∀ connective conditions refusal,
        (b.call (.filter connective (.mapping conditions))).2 = some refusal ↔
          Filter.RefusedFirst conditions refusal) ∧
      ∀ run, b.after (b.withoutRefused run) = b.after run ∧
        (∀ sink, (b.after (b.withoutRefused run)).build sink = (b.after run).build sink) ∧
        b.outcomes (b.withoutRefused run) =
          (b.outcomes run).filter fun o => !isRefusedWhole o := by
  refine ⟨fun c => b.call_of_refused, ?_, ?_⟩
  · intro connective conditions refusal
    exact Draft.refusal?_call_filter_iff b.options b.draft connective conditions refusal
  · intro run
    obtain ⟨hafter, houtcomes⟩ := b.after_withoutRefused run
    refine ⟨hafter, ?_, houtcomes⟩
    intro sink
    rw [hafter]

/-- An alternative whose second and third conditions cannot be resolved. -/
def brokenFilter : Call :=
  .filter .or (.mapping [(.text "role", .text "admin"),
    (.text "age", .tuple [.text "between", .int 5]), (.text "id", .tuple [.text "in", .list []])])

/-- A run with two filters that are accepted and refused calls around them. -/
def scatteredRun : List Call :=
  [.offset (.int (-1)),
    .filter .and (.mapping [(.text "active", .bool true)]),
    brokenFilter,
    .join (.text "posts") (.text "users.id = p.user_id") (.text "p") (.text "sideways"),
    .filter .and (.mapping [(.text "id", .int 7)]),
    .select (.int 3)]

/-- The broken filter leaves no trace and is refused for its second condition, and of the run
only the two filters that are accepted count. -/
theorem refused_calls_leave_no_trace_scatteredRun :
    brokenFilter.isAllOrNothing = true ∧ ((ofTable "users").call brokenFilter).2.isSome = true ∧
      ((ofTable "users").call brokenFilter).1 = ofTable "users" ∧
      Filter.RefusedFirst
        [(.text "role", .text "admin"), (.text "age", .tuple [.text "between", .int 5]),
          (.text "id", .tuple [.text "in", .list []])]
        (.condition (.text "age") .boundsNotPair) ∧
      (ofTable "users").after
          [.filter .and (.mapping [(.text "active", .bool true)]),
            .filter .and (.mapping [(.text "id", .int 7)])] =
        (ofTable "users").after scatteredRun := by
  obtain ⟨hcall, hfilter, hrun⟩ := refused_calls_leave_no_trace (ofTable "users")
  refine ⟨rfl, rfl, hcall brokenFilter rfl rfl, (hfilter .or _ _).1 rfl, ?_⟩
  exact (hrun scatteredRun).1

end Builder

end BoundSql
