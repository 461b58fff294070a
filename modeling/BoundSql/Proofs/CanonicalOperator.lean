import BoundSql.Condition.Render
import BoundSql.Condition.Resolve
import BoundSql.Proofs.Result

/-!
# Canonical operators

However a caller spells an operator, the operator of a resolved condition is one of
the seventeen in canonical form, and of a kind that fits the condition. Raw SQL in a
resolved condition is raw SQL that the caller gave as an operand.
-/

namespace BoundSql

/-- Whether an operator compares a column with one bound value. -/
def Operator.comparesValue (op : Operator) : Bool :=
  match op.role with
  | .single => true
  | .nullOrSingle _ => true
  | _ => false

/-- An operator that is neither for ranges nor for membership compares with one value. -/
theorem Operator.comparesValue_of_role {op : Operator} (hbounds : op.role = .bounds → False)
    (hmembers : ∀ negated, op.role = .members negated → False) : op.comparesValue = true := by
  unfold comparesValue
  cases hrole : op.role with
  | single => rfl
  | bounds => exact absurd hrole hbounds
  | members negated => exact absurd hrole (hmembers negated)
  | nullOrSingle negated => rfl

/-- Canonical operators are written as they are. -/
theorem Condition.written_symbol (op : Operator) : Condition.written op.symbol = op.symbol := by
  cases op <;> rfl

/-- The raw SQL that a value in the place of a condition compares its column with. -/
def Value.rawOperand? : Value → Option (RawSql Value)
  | .raw expr => some expr
  | .condition (.rawCompare _ expr) => some expr
  | .list [_, .raw expr] => some expr
  | .tuple [_, .raw expr] => some expr
  | _ => none

namespace Condition

/-- The operator of a condition, if it has one, is a canonical one that fits it. -/
def Canonical : Condition Value → Prop
  | .compare op _ => ∃ o : Operator, o.symbol = op ∧ o.comparesValue = true
  | .rawCompare op _ => ∃ o : Operator, o.symbol = op ∧ o.role ≠ .bounds
  | _ => True

/-- The raw SQL that a condition compares its column with. -/
def raw? : Condition Value → Option (RawSql Value)
  | .rawCompare _ expr => some expr
  | _ => none

/-- A condition that was given already keeps its raw SQL, and its operator becomes
canonical. -/
theorem canonical_of_canonical {column : Value} {given c : Condition Value}
    (h : canonical column given = .ok c) : c.Canonical ∧ c.raw? = given.raw? := by
  cases given with
  | compare op value =>
    obtain ⟨o, -, hchosen⟩ := Result.bind_eq_ok_iff.1 h
    split at hchosen
    · cases hchosen
    · cases hchosen
    · cases hchosen
    · next hbounds hmembers hnull =>
      cases hchosen
      exact ⟨⟨o, rfl, Operator.comparesValue_of_role hbounds hmembers⟩, rfl⟩
  | rawCompare op expr =>
    obtain ⟨o, -, hchosen⟩ := Result.bind_eq_ok_iff.1 h
    split at hchosen
    · cases hchosen
    · next hrole =>
      cases hchosen
      exact ⟨⟨o, rfl, hrole⟩, rfl⟩
  | between low high =>
    cases h
    exact ⟨trivial, rfl⟩
  | inSet first rest negated =>
    cases h
    exact ⟨trivial, rfl⟩
  | isNull negated =>
    cases h
    exact ⟨trivial, rfl⟩

/-- The condition of an operator and its operand has that operator, and its raw SQL is
the operand. -/
theorem canonical_of_ofPair {column operand : Value} {given : String} {c : Condition Value}
    (h : ofPair column given operand = .ok c) :
    c.Canonical ∧ ∀ expr, c.raw? = some expr → operand = .raw expr := by
  have hother : ∀ expr, (none : Option (RawSql Value)) = some expr → operand = .raw expr := by
    intro expr hexpr
    cases hexpr
  obtain ⟨o, -, hchosen⟩ := Result.bind_eq_ok_iff.1 h
  split at hchosen
  · cases hchosen
    exact ⟨trivial, hother⟩
  · cases hchosen
    exact ⟨trivial, hother⟩
  · cases hchosen
  · cases hchosen
    exact ⟨trivial, hother⟩
  · next expr hbounds =>
    cases hchosen
    refine ⟨⟨o, rfl, hbounds⟩, ?_⟩
    intro found hfound
    cases hfound
    rfl
  · obtain ⟨values, -, hchosen⟩ := Result.bind_eq_ok_iff.1 hchosen
    split at hchosen
    · next found hfound =>
      cases hchosen
      cases values with
      | nil => cases hfound
      | cons first rest =>
        cases hfound
        exact ⟨trivial, hother⟩
    · cases hchosen
  · next hbounds hmembers _ _ _ =>
    cases hchosen
    exact ⟨⟨o, rfl, Operator.comparesValue_of_role hbounds hmembers⟩, hother⟩

/-- Every resolved condition has a canonical operator, and its raw SQL is that of the
value that it was resolved from. -/
theorem canonical_of_resolve {column value : Value} {c : Condition Value}
    (h : resolve column value = .ok c) :
    c.Canonical ∧ ∀ expr, c.raw? = some expr → value.rawOperand? = some expr := by
  have hitems : ∀ items, ofItems column items = .ok c →
      c.Canonical ∧ ∀ expr, c.raw? = some expr → ∃ first, items = [first, .raw expr] := by
    intro items hitems
    unfold ofItems at hitems
    split at hitems
    · next given operand =>
      obtain ⟨hcanonical, hraw⟩ := canonical_of_ofPair hitems
      refine ⟨hcanonical, ?_⟩
      intro expr hexpr
      exact ⟨.text given, by rw [hraw expr hexpr]⟩
    · cases hitems
  cases value with
  | condition given =>
    obtain ⟨hcanonical, hraw⟩ := canonical_of_canonical h
    refine ⟨hcanonical, ?_⟩
    intro expr hexpr
    rw [hraw] at hexpr
    cases given with
    | rawCompare op found =>
      cases hexpr
      rfl
    | _ => cases hexpr
  | raw found =>
    cases h
    refine ⟨⟨.equal, rfl, by decide⟩, ?_⟩
    intro expr hexpr
    cases hexpr
    rfl
  | list items =>
    obtain ⟨hcanonical, hraw⟩ := hitems items h
    refine ⟨hcanonical, ?_⟩
    intro expr hexpr
    obtain ⟨first, rfl⟩ := hraw expr hexpr
    rfl
  | tuple items =>
    obtain ⟨hcanonical, hraw⟩ := hitems items h
    refine ⟨hcanonical, ?_⟩
    intro expr hexpr
    obtain ⟨first, rfl⟩ := hraw expr hexpr
    rfl
  | _ =>
    cases h
    refine ⟨⟨.equal, rfl, rfl⟩, ?_⟩
    intro expr hexpr
    cases hexpr

end Condition

end BoundSql
