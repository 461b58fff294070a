import BoundSql.Proofs.Parts

/-!
# Emptied clauses

A clause that is emptied at the end of a run is as if it had never been filled: the draft
is that of the same run without the calls that fill the clause. When data is emptied, the
calls that bring it still choose the kind of statement. When all clauses are emptied, the
calls that set the alias are all that is left of the run.
-/

namespace BoundSql

namespace Call

/-- What is left of a call when a clause is never filled: nothing of a call that fills it,
the choice of the kind of statement when the call brings data, and else the call. -/
def without : ClauseName → Call → Option Call
  | .filters, .filter .. => none
  | .columns, .select _ => none
  | .joins, .join .. => none
  | .groupBy, .groupBy _ => none
  | .orderBy, .orderBy _ => none
  | .limit, .limit .. => none
  | .limit, .offset _ => none
  | .data, .insert _ => some (.insert (.mapping []))
  | .data, .update _ => some (.update (.mapping []))
  | .data, .onDuplicate _ => none
  | _, c => some c

/-- Whether a call sets the alias of the table. -/
def setsAlias : Call → Bool
  | .tableAlias _ => true
  | _ => false

/-- All of a call is left when it is not one on the part of the clause. -/
theorem without_of_not_concerns {clause : ClauseName} {c : Call}
    (h : c.concerns clause.part = false) : c.without clause = some c := by
  cases clause <;> cases c <;> first | rfl | cases h

/-- A call on the part of a clause other than the data fills the clause or empties it. -/
theorem without_of_part {clause : ClauseName} (hclause : clause ≠ .data) {c : Call}
    (h : c.part? = some clause.part) : c.without clause = none ∨ c = .clear clause := by
  cases clause with
  | data => exact absurd rfl hclause
  | _ =>
    cases c with
    | clear emptied => cases emptied <;> first | exact .inr rfl | cases h
    | _ => first | exact .inl rfl | cases h

end Call

namespace Draft

/-- Drafts that differ in the part of a clause alone are the same without the clause, unless
it is that of the data, whose part also holds the kind of statement. -/
theorem SameBut.clear_eq {d d' : Draft} {clause : ClauseName} (h : d.SameBut d' clause.part)
    (hclause : clause ≠ .data) : d'.clear clause = d.clear clause := by
  cases clause with
  | data => exact absurd rfl hclause
  | _ =>
    dsimp only [SameBut, ClauseName.part] at h
    rw [h]
    rfl

/-- A clause can be emptied before a call on another part instead of behind it. -/
theorem clear_call_of_not_concerns (options : Options) (d : Draft) {clause : ClauseName}
    {c : Call} (h : c.concerns clause.part = false) :
    (d.call options c).draft.clear clause = ((d.clear clause).call options c).draft := by
  have hsame : ∀ part, [c, .clear clause].filter (Call.concerns part) =
      [.clear clause, c].filter (Call.concerns part) := by
    intro part
    have hclear : (Call.clear clause).concerns part = decide (clause.part = part) := rfl
    by_cases hpart : clause.part = part
    · subst hpart
      simp [List.filter_cons, h]
    · simp [List.filter_cons, hclear, hpart]
  have hafter := Builder.after_eq_of_filter_concerns ⟨options, none, d⟩ hsame
  exact congrArg Builder.draft hafter

/-- Without its data, a draft behind a call is that behind what is left of the call. -/
theorem clear_data_call (options : Options) (d : Draft) {c : Call}
    (h : c.part? = some .content) :
    (d.call options c).draft.clear .data =
      (d.clear .data).calls options (c.without .data).toList := by
  cases c with
  | clear emptied => cases emptied <;> rfl
  | _ => first | rfl | cases h

/-- Without one of its clauses, a draft behind a call is that behind what is left of the
call. -/
theorem clear_call (options : Options) (d : Draft) (clause : ClauseName) (c : Call) :
    (d.call options c).draft.clear clause =
      (d.clear clause).calls options (c.without clause).toList := by
  cases hconcerns : c.concerns clause.part with
  | false =>
    rw [Call.without_of_not_concerns hconcerns]
    exact clear_call_of_not_concerns options d hconcerns
  | true =>
    cases hpart : c.part? with
    | none =>
      cases c with
      | clearAll => cases clause <;> rfl
      | _ => cases hpart
    | some own =>
      have hown : own = clause.part := by
        unfold Call.concerns at hconcerns
        rw [hpart] at hconcerns
        exact of_decide_eq_true hconcerns
      subst hown
      by_cases hclause : clause = .data
      · subst hclause
        exact clear_data_call options d hpart
      · have hclear := (sameBut_call options d hpart).clear_eq hclause
        rw [hclear]
        rcases Call.without_of_part hclause hpart with hwithout | rfl
        · rw [hwithout]
          rfl
        · rw [show (Call.clear clause).without clause = some (.clear clause) by
            cases clause <;> rfl]
          exact hclear.symm

/-- Without one of its clauses, a draft behind a run is that behind what is left of the
run. -/
theorem clear_calls (options : Options) (d : Draft) (clause : ClauseName) (run : List Call) :
    (d.calls options run).clear clause =
      (d.clear clause).calls options (run.filterMap (Call.without clause)) := by
  rw [List.filterMap_eq_flatMap_toList]
  induction run generalizing d with
  | nil => rfl
  | cons c rest ih =>
    have hfirst := clear_call options d clause c
    have hrest := ih (d.call options c).draft
    rw [calls_cons, hrest, hfirst, ← calls_append, List.flatMap_cons]

/-- A draft in which nothing but the table and its alias is given has no clause to empty. -/
theorem clear_of_eq {d : Draft} (h : d = { table := d.table, tableAlias := d.tableAlias })
    (clause : ClauseName) : d.clear clause = d := by
  rw [h]
  cases clause <;> rfl

end Draft

namespace Builder

/-- Of the part of the alias, a run leaves what its calls that set the alias do to it. -/
theorem only_tableAlias_after (b : Builder) (run : List Call) :
    (b.after run).only .tableAlias =
      (b.only .tableAlias).after (run.filter Call.setsAlias) := by
  induction run generalizing b with
  | nil => rfl
  | cons c rest ih =>
    have hrest := ih (b.call c).1
    change ((b.call c).1.after rest).only .tableAlias = _
    rw [hrest]
    cases c with
    | tableAlias given =>
      have hcall : ((b.only .tableAlias).call (.tableAlias given)).1 =
          (b.call (.tableAlias given)).1.only .tableAlias := congrArg Prod.fst (b.call_only rfl)
      rw [List.filter_cons_of_pos rfl, ← hcall]
      rfl
    | clear clause => cases clause <;> rfl
    | clearAll => rfl
    | _ =>
      rw [List.filter_cons_of_neg Bool.false_ne_true, b.only_call_of_not_concerns rfl]

/-- A clause that is emptied at the end of a run, whatever calls were refused and whatever was
emptied before, leaves a new builder as the run does without the calls that fill the clause;
for the data, the calls that bring it still choose the kind of statement. All clauses
emptied leave the new builder with the calls that set the alias made on it, so that all later
calls are accepted or refused, and all statements built, as on that builder. -/
theorem after_clear {table tableAlias options : Value} {sink : Option Sink} {b : Builder}
    (hb : Builder.create table tableAlias options sink = .ok b) (run : List Call) :
    (∀ clause, b.after (run ++ [.clear clause]) =
        b.after (run.filterMap (Call.without clause))) ∧
      b.after (run ++ [.clearAll]) = b.after (run.filter Call.setsAlias) ∧
      ∀ later,
        (b.after (run ++ [.clearAll])).outcomes later =
            (b.after (run.filter Call.setsAlias)).outcomes later ∧
          ∀ sink, ((b.after (run ++ [.clearAll])).after later).build sink =
            ((b.after (run.filter Call.setsAlias)).after later).build sink := by
  have hstart := draft_of_create hb
  have hclear : ∀ clause, b.after (run ++ [.clear clause]) =
      b.after (run.filterMap (Call.without clause)) := by
    intro clause
    have hcalls := Draft.clear_calls b.options b.draft clause run
    rw [Draft.clear_of_eq hstart] at hcalls
    rw [after_concat, after_eq_calls b (run.filterMap _), ← hcalls, after_eq_calls]
    rfl
  have hall : b.after (run ++ [.clearAll]) = b.after (run.filter Call.setsAlias) := by
    have honly : b.only .tableAlias = b := by
      change { b with draft := { table := b.draft.table, tableAlias := b.draft.tableAlias } } = b
      rw [← hstart]
    have halias := b.only_tableAlias_after run
    rw [honly] at halias
    rw [after_concat, ← halias]
    rfl
  refine ⟨hclear, hall, ?_⟩
  intro later
  rw [hall]
  exact ⟨rfl, fun _ => rfl⟩

/-- A run that fills clauses, with a refused item of data, a refused limit, a refused offset
and an emptied clause on the way. -/
def filledRun : List Call :=
  [.tableAlias (.text "u"),
    .filter .and (.mapping [(.text "id", .int 7)]),
    .insert (.list [.tuple [.text "name", .text "Ann"], .int 0]),
    .limit (.int 10) (.int (-1)),
    .onDuplicate (.mapping [(.text "name", .text "Bob")]),
    .clear .filters,
    .offset (.text "5"),
    .filter .or (.mapping [(.text "role", .text "admin"), (.text "vip", .bool true)])]

/-- The run without its filters, without its limit and without its data, and the alias that is
left when all clauses are emptied. -/
theorem after_clear_filledRun :
    Builder.create (.text "users") (.text "") .null none = .ok (ofTable "users") ∧
      (ofTable "users").after (filledRun ++ [.clear .filters]) =
        (ofTable "users").after
          [.tableAlias (.text "u"),
            .insert (.list [.tuple [.text "name", .text "Ann"], .int 0]),
            .limit (.int 10) (.int (-1)),
            .onDuplicate (.mapping [(.text "name", .text "Bob")]),
            .clear .filters,
            .offset (.text "5")] ∧
      (ofTable "users").after (filledRun ++ [.clear .data]) =
        (ofTable "users").after
          [.tableAlias (.text "u"),
            .filter .and (.mapping [(.text "id", .int 7)]),
            .insert (.mapping []),
            .limit (.int 10) (.int (-1)),
            .clear .filters,
            .offset (.text "5"),
            .filter .or (.mapping [(.text "role", .text "admin"), (.text "vip", .bool true)])] ∧
      (ofTable "users").after (filledRun ++ [.clearAll]) =
        (ofTable "users").after [.tableAlias (.text "u")] := by
  obtain ⟨hclear, hall, -⟩ := after_clear (create_text "users") filledRun
  exact ⟨create_text "users", hclear .filters, hclear .data, hall⟩

end Builder

end BoundSql
