import BoundSql.Proofs.Agreement
import BoundSql.Proofs.SameShape

/-!
# Conditions of the same shape

Values of the same shape in the place of a condition are refused alike, or resolved to
conditions that are written as the same text with as many values.
-/

namespace BoundSql

open Result (Agree)

namespace Fragment

/-- Fragments of the same text with as many values. -/
structure Alike (f g : Fragment) : Prop where
  /-- The texts are the same. -/
  sql : f.sql = g.sql
  /-- There are as many values. -/
  params : f.params.length = g.params.length

/-- A fragment has the shape of itself. -/
theorem Alike.refl (f : Fragment) : f.Alike f :=
  ⟨rfl, rfl⟩

/-- Fragments that are alike one by one have the same texts. -/
theorem map_sql_eq {fragments others : List Fragment} (h : List.Forall₂ Alike fragments others) :
    fragments.map (fun f => f.sql) = others.map (fun f => f.sql) := by
  induction h with
  | nil => rfl
  | cons hfirst _ ih => rw [List.map_cons, List.map_cons, hfirst.sql, ih]

/-- Fragments that are alike one by one have as many values in all. -/
theorem length_allParams_eq {fragments others : List Fragment}
    (h : List.Forall₂ Alike fragments others) :
    (allParams fragments).length = (allParams others).length := by
  induction h with
  | nil => rfl
  | cons hfirst _ ih =>
    rw [allParams_cons, allParams_cons, List.length_append, List.length_append, hfirst.params, ih]

/-- Fragments that are alike one by one are alike when a separator is put between them. -/
theorem alike_joined (separator : String) {fragments others : List Fragment}
    (h : List.Forall₂ Alike fragments others) :
    (joined separator fragments).Alike (joined separator others) where
  sql := congrArg separator.intercalate (map_sql_eq h)
  params := length_allParams_eq h

/-- Clauses that are alike one by one make statements that are alike. -/
theorem alike_clauses {fragments others : List Fragment}
    (h : List.Forall₂ Alike fragments others) :
    (clauses fragments).Alike (clauses others) where
  sql := by
    unfold clauses
    rw [map_sql_eq h]
  params := length_allParams_eq h

end Fragment

namespace Condition

/-- Conditions that are written as the same text with as many values. -/
def RenderAlike (c d : Condition Value) : Prop :=
  ∀ column, (c.render column).Alike (d.render column)

/-- A condition is written as itself. -/
theorem RenderAlike.refl (c : Condition Value) : c.RenderAlike c :=
  fun column => .refl (c.render column)

/-- As many values have the same question marks. -/
theorem placeholders_eq {values others : List Value} (h : values.length = others.length) :
    placeholders values = placeholders others := by
  unfold placeholders
  rw [List.map_const', List.map_const', h]

/-- Comparisons with an operator are written alike. -/
theorem renderAlike_compare (op : String) (v w : Value) :
    (compare op v).RenderAlike (compare op w) :=
  fun _ => ⟨rfl, rfl⟩

/-- Comparisons with raw SQL of the same shape are written alike. -/
theorem renderAlike_rawCompare (op : String) {expr other : RawSql Value} (h : expr.Alike other) :
    (rawCompare op expr).RenderAlike (rawCompare op other) := by
  intro column
  refine ⟨?_, h.bindings⟩
  simp only [render, h.sql]

/-- Lists of as many values to look among are written alike. -/
theorem renderAlike_inSet (first first' : Value) {rest others : List Value} (negated : Bool)
    (h : rest.length = others.length) :
    (inSet first rest negated).RenderAlike (inSet first' others negated) := by
  intro column
  have hlength : (first :: rest).length = (first' :: others).length := congrArg Nat.succ h
  refine ⟨?_, hlength⟩
  simp only [render, placeholders_eq hlength]

/-- A comparison with a value that is not missing where the operator tests for null is
accepted or refused by its operator alone. -/
theorem canonical_compare {column v : Value} {given : String} {op : Operator}
    (hop : Operator.ofText? given = some op) (hv : op.testsNull = true → v ≠ .null) :
    canonical column (.compare given v) = match op.role with
      | .bounds => .error (.condition column .rangeAsComparison)
      | .members _ => .error (.condition column (.membershipAsComparison op))
      | _ => .ok (.compare op.symbol v) := by
  unfold Operator.testsNull at hv
  simp only [canonical, checkedOperator, hop, bind, Except.bind]
  cases hrole : op.role with
  | single => rfl
  | bounds => rfl
  | members negated => rfl
  | nullOrSingle negated =>
    rw [hrole] at hv
    cases v with
    | null => exact absurd rfl (hv rfl)
    | _ => rfl

/-- Conditions of the same shape are accepted or refused alike, and then written alike. -/
theorem agree_canonical (column : Value) {c d : Condition Value} (h : c.Alike d) :
    Agree RenderAlike (canonical column c) (canonical column d) := by
  cases h with
  | between low high low' high' => exact .ok fun _ => ⟨rfl, rfl⟩
  | inSet first first' negated h => exact .ok (renderAlike_inSet first first' negated h)
  | isNull negated => exact .ok (.refl _)
  | @rawCompare given expr other h =>
    simp only [canonical]
    apply Agree.bind_same
    intro op
    cases op.role with
    | bounds => exact .error _
    | _ => exact .ok (renderAlike_rawCompare op.symbol h)
  | @compare given v w h =>
    cases hop : Operator.ofText? given with
    | none =>
      simp only [canonical, checkedOperator, hop]
      exact .error _
    | some op =>
      rcases h.both_or_neither hop with ⟨rfl, rfl⟩ | ⟨hv, hw⟩
      · exact .refl RenderAlike.refl _
      · rw [canonical_compare hop hv, canonical_compare hop hw]
        cases op.role with
        | bounds => exact .error _
        | members negated => exact .error _
        | _ => exact .ok (renderAlike_compare op.symbol v w)

/-- A scalar operand that is not missing where the operator tests for null is compared
with, unless the operator is that of ranges. -/
theorem ofPair_scalar {column v : Value} {given : String} {op : Operator}
    (hop : Operator.ofText? given = some op) (hv : v.isScalar = true)
    (hnull : op.testsNull = true → v ≠ .null) (hlooks : op.looksAmong = false) :
    ofPair column given v = match op.role with
      | .bounds => .error (.condition column .boundsNotPair)
      | _ => .ok (.compare op.symbol v) := by
  unfold Operator.testsNull at hnull
  unfold Operator.looksAmong at hlooks
  simp only [ofPair, checkedOperator, hop, bind, Except.bind]
  cases hrole : op.role with
  | single => cases v <;> first | rfl | cases hv
  | bounds => cases v <;> first | rfl | cases hv
  | members negated =>
    rw [hrole] at hlooks
    cases hlooks
  | nullOrSingle negated =>
    rw [hrole] at hnull
    cases v with
    | null => exact absurd rfl (hnull rfl)
    | _ => first | rfl | cases hv

/-- Raw SQL as an operand is compared with, unless the operator is that of ranges. -/
theorem ofPair_raw {column : Value} {given : String} {op : Operator}
    (hop : Operator.ofText? given = some op) (expr : RawSql Value) :
    ofPair column given (.raw expr) = match op.role with
      | .bounds => .error (.condition column .boundsNotPair)
      | _ => .ok (.rawCompare op.symbol expr) := by
  simp only [ofPair, checkedOperator, hop, bind, Except.bind]
  cases op.role <;> rfl

/-- The condition of an operator and a list or tuple of values. -/
def ofSequence (column : Value) (op : Operator) (operand : Value) (items : List Value) :
    Except Refusal (Condition Value) :=
  match op.role, items with
  | .bounds, [low, high] => .ok (.between low high)
  | .bounds, _ => .error (.condition column .boundsNotPair)
  | .members negated, first :: rest => .ok (.inSet first rest negated)
  | .members _, [] => .error (.condition column (.noMembers op))
  | _, _ => .ok (.compare op.symbol operand)

/-- The values of a list or a tuple are bounds or the values to look among. -/
theorem ofPair_sequence {column operand : Value} {given : String} {op : Operator}
    (hop : Operator.ofText? given = some op) {items : List Value}
    (hoperand : operand = .list items ∨ operand = .tuple items) :
    ofPair column given operand = ofSequence column op operand items := by
  simp only [ofPair, checkedOperator, hop, bind, Except.bind, ofSequence]
  rcases hoperand with rfl | rfl
  all_goals
    cases op.role with
    | bounds => rcases items with _ | ⟨_, _ | ⟨_, _ | ⟨_, _⟩⟩⟩ <;> rfl
    | members negated => cases items <;> rfl
    | _ => rfl

/-- Lists of as many values are accepted or refused alike. -/
theorem agree_ofSequence (column : Value) (op : Operator) (operand other : Value)
    {items others : List Value} (h : items.length = others.length) :
    Agree RenderAlike (ofSequence column op operand items)
      (ofSequence column op other others) := by
  unfold ofSequence
  cases op.role with
  | bounds =>
    rcases items with _ | ⟨low, _ | ⟨high, _ | ⟨third, items⟩⟩⟩ <;>
      rcases others with _ | ⟨low', _ | ⟨high', _ | ⟨third', others⟩⟩⟩
    case cons.cons.nil.cons.cons.nil => exact .ok fun _ => ⟨rfl, rfl⟩
    all_goals first | exact .error _ | simp at h
  | members negated =>
    cases items with
    | nil =>
      cases others with
      | nil => exact .error _
      | cons first' others => cases h
    | cons first items =>
      cases others with
      | nil => cases h
      | cons first' others => exact .ok (renderAlike_inSet first first' negated (Nat.succ.inj h))
  | _ => exact .ok (renderAlike_compare op.symbol operand other)

/-- Conditions of the same shape have as many fields, at least one. -/
theorem exists_fields_of_alike {c d : Condition Value} (h : c.Alike d) :
    ∃ first rest first' rest', fieldPairs c.fields = first :: rest ∧
      fieldPairs d.fields = first' :: rest' ∧ rest.length = rest'.length := by
  cases h with
  | _ => exact ⟨_, _, _, _, rfl, rfl, rfl⟩

/-- The condition of an operator with a condition as its operand. -/
theorem ofPair_condition {column : Value} {given : String} {op : Operator}
    (hop : Operator.ofText? given = some op) (c : Condition Value) {first : Value}
    {rest : List Value} (hfields : fieldPairs c.fields = first :: rest) :
    ofPair column given (.condition c) = match op.role with
      | .bounds => .error (.condition column .boundsNotPair)
      | .members negated => .ok (.inSet first rest negated)
      | _ => .ok (.compare op.symbol (.condition c)) := by
  simp only [ofPair, checkedOperator, hop, bind, Except.bind]
  cases op.role with
  | members negated =>
    have hmembers : members column op (.condition c) = .ok (first :: rest) := by
      rw [← hfields]
      rfl
    simp only [hmembers]
    rfl
  | _ => rfl

/-- Operands of the same shape make conditions that are accepted or refused alike. -/
theorem agree_ofPair (column : Value) {given : String} {operand other : Value}
    (h : operand.OperandAlike given other) :
    Agree RenderAlike (ofPair column given operand) (ofPair column given other) := by
  cases hop : Operator.ofText? given with
  | none =>
    simp only [ofPair, checkedOperator, hop]
    exact .error _
  | some op =>
    cases h with
    | same => exact .refl RenderAlike.refl _
    | scalar hv hw hlooks hnull =>
      rcases hnull.both_or_neither hop with ⟨rfl, rfl⟩ | ⟨hoperand, hother⟩
      · exact .refl RenderAlike.refl _
      · rw [ofPair_scalar hop hv hoperand (hlooks op hop),
          ofPair_scalar hop hw hother (hlooks op hop)]
        cases op.role with
        | bounds => exact .error _
        | _ => exact .ok (renderAlike_compare op.symbol operand other)
    | raw h =>
      rw [ofPair_raw hop, ofPair_raw hop]
      cases op.role with
      | bounds => exact .error _
      | _ => exact .ok (renderAlike_rawCompare op.symbol h)
    | list h =>
      rw [ofPair_sequence hop (.inl rfl), ofPair_sequence hop (.inl rfl)]
      exact agree_ofSequence column op _ _ h
    | tuple h =>
      rw [ofPair_sequence hop (.inr rfl), ofPair_sequence hop (.inr rfl)]
      exact agree_ofSequence column op _ _ h
    | condition h =>
      obtain ⟨first, rest, first', rest', hfirst, hsecond, hlength⟩ := exists_fields_of_alike h
      rw [ofPair_condition hop _ hfirst, ofPair_condition hop _ hsecond]
      cases op.role with
      | bounds => exact .error _
      | members negated => exact .ok (renderAlike_inSet first first' negated hlength)
      | _ => exact .ok (renderAlike_compare op.symbol _ _)

/-- A scalar in the place of a condition is one that the column is to be equal to. -/
theorem resolve_scalar {v : Value} (column : Value) (hv : v.isScalar = true) :
    resolve column v = .ok (.compare Operator.equal.symbol v) := by
  cases v <;> first | rfl | cases hv

/-- Values of the same shape are resolved to conditions that are written alike, or they are
refused alike. -/
theorem agree_resolve (column : Value) {v w : Value} (h : v.ConditionAlike w) :
    Agree RenderAlike (resolve column v) (resolve column w) := by
  cases h with
  | same => exact .refl RenderAlike.refl _
  | scalar hv hw =>
    rw [resolve_scalar column hv, resolve_scalar column hw]
    exact .ok (renderAlike_compare _ v w)
  | raw h => exact .ok (renderAlike_rawCompare _ h)
  | list h => exact agree_ofPair column h
  | tuple h => exact agree_ofPair column h
  | condition h => exact agree_canonical column h

end Condition

/-- Filters of the same shape have parts that are alike one by one, or they are refused
alike. -/
theorem Filter.agree_parts {entries others : List (Value × Value)}
    (h : Entries.Alike Value.ConditionAlike entries others) :
    Agree (List.Forall₂ Fragment.Alike) (parts entries) (parts others) := by
  induction h with
  | nil => exact .ok .nil
  | @cons e f rest others hfirst _ ih =>
    obtain ⟨column, v⟩ := e
    obtain ⟨column', w⟩ := f
    obtain ⟨rfl, hvalue⟩ := hfirst
    simp only [parts]
    apply (Condition.agree_resolve column hvalue).bind
    intro c d hcondition
    apply ih.bind
    intro fragments others hrest
    exact .ok (.cons (hcondition column.shown) hrest)

/-- Filters of the same shape are fragments that are alike, or they are refused alike. -/
theorem Filter.agree_ofValue (connective : Connective) {conditions others : Value}
    (h : conditions.FilterAlike others) :
    Agree Fragment.Alike (ofValue connective conditions) (ofValue connective others) := by
  cases h with
  | same => exact .refl Fragment.Alike.refl _
  | mapping h =>
    apply (agree_parts h).map
    intro fragments others hparts
    exact Fragment.alike_joined _ hparts

end BoundSql
