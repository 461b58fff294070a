import BoundSql.Condition.Resolve
import BoundSql.Proofs.Result

/-!
# The conditions that values describe

Which values describe a condition, and which condition that is, is said here as a
relation that does not look at how values are resolved. Resolving finds the described
condition, and every other value is refused as no condition on the column. There is one
more way to fail: the operand to look in can be a value with items whose reading ends
before all are read, and then the resolution ends with what ended the reading.
-/

namespace BoundSql

namespace Operator

/-- The operator that looks among values, or its negation. -/
def membership (negated : Bool) : Operator :=
  if negated then .notIn else .isIn

/-- The operator that tests for null, or its negation. -/
def nullTest (negated : Bool) : Operator :=
  if negated then .isNot else .is

/-- A text spells an operator when its normal form is the symbol of the operator. -/
def SpeltBy (op : Operator) (given : String) : Prop :=
  normalizedOperator given = op.symbol

/-- An operator compares a column with a bound value: it is neither that of ranges nor one
of membership, and when it tests for null the value is not the missing one. -/
structure ComparesWith (op : Operator) (value : Value) : Prop where
  /-- It is not the operator of ranges. -/
  not_range : op ≠ .between
  /-- It is not an operator of membership. -/
  not_membership : ∀ negated, op ≠ membership negated
  /-- It does not test for null when the value is missing. -/
  not_nullTest : ∀ negated, op = nullTest negated → value ≠ .null

/-- Only the operator of ranges takes bounds. -/
theorem role_eq_bounds_iff {op : Operator} : op.role = .bounds ↔ op = .between := by
  cases op <;> simp [role]

/-- Only the operators of membership take members. -/
theorem role_eq_members_iff {op : Operator} {negated : Bool} :
    op.role = .members negated ↔ op = membership negated := by
  cases op <;> cases negated <;> simp [role, membership]

/-- Only the operators that test for null take the missing value or another one. -/
theorem role_eq_nullOrSingle_iff {op : Operator} {negated : Bool} :
    op.role = .nullOrSingle negated ↔ op = nullTest negated := by
  cases op <;> cases negated <;> simp [role, nullTest]

end Operator

namespace Value

/-- A value is the list or the tuple of some items. -/
def IsSequence (v : Value) (items : List Value) : Prop :=
  v = .list items ∨ v = .tuple items

/-- Whether the items of a value are values to look among. Those of texts, bytes and
mappings are not. -/
def isCollection : Value → Bool
  | .text _ | .bytes _ | .mapping _ => false
  | v => v.isIterable

/-- The values that an operand holds to look among: those of a set in ascending order, and
those of any other collection in the order in which they are read. -/
inductive Holds : Value → List Value → Prop where
  /-- The members of a set or of a view of keys, which can be put in order. -/
  | sorted {operand : Value} {members values : List Value}
    (hset : operand.setMembers? = some members) (hsorted : ascending? members = some values) :
    Holds operand values
  /-- The items of another collection. -/
  | read {operand : Value} {values : List Value} (hset : operand.setMembers? = none)
    (hcollection : operand.isCollection = true) (hitems : operand.items = .ok values) :
    Holds operand values

end Value

/-- The condition that an operator describes together with an operand. -/
inductive Operator.Takes : Operator → Value → Condition Value → Prop where
  /-- Two bounds. -/
  | range {operand low high : Value} (h : operand.IsSequence [low, high]) :
    Takes .between operand (.between low high)
  /-- Raw SQL, for every operator but that of ranges. -/
  | raw {op : Operator} (expr : RawSql Value) (h : op ≠ .between) :
    Takes op (.raw expr) (.rawCompare op.symbol expr)
  /-- One or more values to look among. -/
  | members {operand first : Value} {rest : List Value} (negated : Bool)
    (hraw : ∀ expr, operand ≠ .raw expr) (h : operand.Holds (first :: rest)) :
    Takes (.membership negated) operand (.inSet first rest negated)
  /-- The missing value, where the operator tests for null. -/
  | null (negated : Bool) : Takes (.nullTest negated) .null (.isNull negated)
  /-- Any other value, where the operator compares with it. -/
  | value {op : Operator} {operand : Value} (hraw : ∀ expr, operand ≠ .raw expr)
    (h : op.ComparesWith operand) : Takes op operand (.compare op.symbol operand)

namespace Value

/-- The condition that a value in the place of a condition describes. -/
inductive Describes : Value → Condition Value → Prop where
  /-- A range condition, as it is. -/
  | between (low high : Value) : Describes (.condition (.between low high)) (.between low high)
  /-- A membership condition, as it is. -/
  | inSet (first : Value) (rest : List Value) (negated : Bool) :
    Describes (.condition (.inSet first rest negated)) (.inSet first rest negated)
  /-- A null test, as it is. -/
  | isNull (negated : Bool) : Describes (.condition (.isNull negated)) (.isNull negated)
  /-- A comparison with an operator that compares with the value, in canonical form. -/
  | compare {given : String} {op : Operator} {value : Value} (hop : op.SpeltBy given)
    (h : op.ComparesWith value) :
    Describes (.condition (.compare given value)) (.compare op.symbol value)
  /-- A comparison with raw SQL by any operator but that of ranges, in canonical form. -/
  | rawCompare {given : String} {op : Operator} (expr : RawSql Value) (hop : op.SpeltBy given)
    (h : op ≠ .between) :
    Describes (.condition (.rawCompare given expr)) (.rawCompare op.symbol expr)
  /-- Raw SQL that the column is to be equal to. -/
  | raw (expr : RawSql Value) : Describes (.raw expr) (.rawCompare "=" expr)
  /-- A list or tuple of an operator and its operand. -/
  | pair {v operand : Value} {given : String} {op : Operator} {c : Condition Value}
    (hv : v.IsSequence [.text given, operand]) (hop : op.SpeltBy given)
    (h : op.Takes operand c) : Describes v c
  /-- Any other value but a list or tuple, which the column is to be equal to. -/
  | scalar {v : Value} (hsequence : ∀ items, ¬ v.IsSequence items)
    (hraw : ∀ expr, v ≠ .raw expr) (hcondition : ∀ c, v ≠ .condition c) :
    Describes v (.compare "=" v)

end Value

/-- An operator with a role compares with a value when the role takes one. -/
theorem Operator.comparesWith_of_role {op : Operator} {value : Value}
    (hbounds : op.role ≠ .bounds) (hmembers : ∀ negated, op.role ≠ .members negated)
    (hnull : ∀ negated, op.role = .nullOrSingle negated → value ≠ .null) :
    op.ComparesWith value where
  not_range := mt role_eq_bounds_iff.2 hbounds
  not_membership negated := mt role_eq_members_iff.2 (hmembers negated)
  not_nullTest negated h := hnull negated (role_eq_nullOrSingle_iff.2 h)

/-- Equality compares with every value. -/
theorem Operator.equal_comparesWith (value : Value) : Operator.equal.ComparesWith value :=
  comparesWith_of_role (by decide) (by decide) fun _ h => by cases h

namespace Condition

/-- The operator that a text spells is found, and no other. -/
theorem checkedOperator_eq_ok_iff {column : Value} {given : String} {op : Operator} :
    checkedOperator column given = .ok op ↔ op.SpeltBy given := by
  have hfound : Operator.ofText? given = some op ↔ op.SpeltBy given := by
    constructor
    · exact Operator.normalizedOperator_of_ofText?
    · intro h
      unfold Operator.ofText?
      rw [h, Operator.ofSymbol?_symbol]
  unfold checkedOperator
  rw [← hfound]
  cases Operator.ofText? given <;> simp

/-- A condition that was given already is resolved to the one that it describes. -/
theorem describes_of_canonical {column : Value} {given c : Condition Value}
    (h : canonical column given = .ok c) : (Value.condition given).Describes c := by
  cases given with
  | compare text value =>
    obtain ⟨op, hop, hchosen⟩ := Result.bind_eq_ok_iff.1 h
    have hspelt := checkedOperator_eq_ok_iff.1 hop
    split at hchosen
    · cases hchosen
    · cases hchosen
    · cases hchosen
    · next hbounds hmembers hnull =>
      cases hchosen
      exact .compare hspelt (Operator.comparesWith_of_role hbounds hmembers hnull)
  | rawCompare text expr =>
    obtain ⟨op, hop, hchosen⟩ := Result.bind_eq_ok_iff.1 h
    have hspelt := checkedOperator_eq_ok_iff.1 hop
    split at hchosen
    · cases hchosen
    · next hrole =>
      cases hchosen
      exact .rawCompare expr hspelt (mt Operator.role_eq_bounds_iff.2 hrole)
  | between low high =>
    cases h
    exact .between low high
  | inSet first rest negated =>
    cases h
    exact .inSet first rest negated
  | isNull negated =>
    cases h
    exact .isNull negated

/-- The values in an operand that is a set are its members in ascending order. -/
theorem members_of_setMembers?_eq_some (column : Value) (op : Operator) {operand : Value}
    {found : List Value} (h : operand.setMembers? = some found) :
    members column op operand =
      (ascending? found).elim (.error (.condition column (.membersNotComparable op))) .ok := by
  unfold members
  rw [h]
  dsimp only
  cases ascending? found <;> rfl

/-- The values in an operand that is not a set are its items, when it is a collection. -/
theorem members_of_setMembers?_eq_none (column : Value) (op : Operator) {operand : Value}
    (h : operand.setMembers? = none) :
    members column op operand =
      if operand.isCollection then operand.items.mapError .misuse
      else .error (.condition column (.membersNotList op)) := by
  unfold members
  rw [h]
  cases operand <;> rfl

/-- The values that are found in an operand are those that it holds. -/
theorem members_eq_ok_iff {column operand : Value} {op : Operator} {values : List Value} :
    members column op operand = .ok values ↔ operand.Holds values := by
  cases hset : operand.setMembers? with
  | some found =>
    rw [members_of_setMembers?_eq_some column op hset]
    constructor
    · intro h
      cases hsorted : ascending? found with
      | none =>
        rw [hsorted] at h
        cases h
      | some sorted =>
        rw [hsorted] at h
        cases h
        exact .sorted hset hsorted
    · rintro (⟨hfound, hsorted⟩ | ⟨hnone, -, -⟩)
      · rw [hset] at hfound
        cases hfound
        rw [hsorted]
        rfl
      · rw [hset] at hnone
        cases hnone
  | none =>
    rw [members_of_setMembers?_eq_none column op hset]
    constructor
    · intro h
      split at h
      · next hcollection => exact .read hset hcollection (Result.mapError_eq_ok_iff.1 h)
      · cases h
    · rintro (⟨hfound, -⟩ | ⟨-, hcollection, hitems⟩)
      · rw [hset] at hfound
        cases hfound
      · rw [if_pos hcollection]
        exact Result.mapError_eq_ok_iff.2 hitems

/-- An operator with its operand is resolved to the condition that the two describe. -/
theorem takes_of_ofPair {column operand : Value} {given : String} {c : Condition Value}
    (h : ofPair column given operand = .ok c) :
    ∃ op : Operator, op.SpeltBy given ∧ op.Takes operand c := by
  obtain ⟨op, hop, hchosen⟩ := Result.bind_eq_ok_iff.1 h
  refine ⟨op, checkedOperator_eq_ok_iff.1 hop, ?_⟩
  split at hchosen
  · next hrole =>
    cases hchosen
    obtain rfl := Operator.role_eq_bounds_iff.1 hrole
    exact .range (.inl rfl)
  · next hrole =>
    cases hchosen
    obtain rfl := Operator.role_eq_bounds_iff.1 hrole
    exact .range (.inr rfl)
  · cases hchosen
  · next hrole =>
    cases hchosen
    obtain rfl := Operator.role_eq_nullOrSingle_iff.1 hrole
    exact .null _
  · next expr hrole =>
    cases hchosen
    exact .raw expr (mt Operator.role_eq_bounds_iff.2 hrole)
  · next negated hrole hraw =>
    obtain ⟨values, hvalues, hchosen⟩ := Result.bind_eq_ok_iff.1 hchosen
    split at hchosen
    · next found hfound =>
      cases hchosen
      obtain rfl := Operator.role_eq_members_iff.1 hrole
      cases values with
      | nil => cases hfound
      | cons first rest =>
        cases hfound
        exact .members negated hraw (members_eq_ok_iff.1 hvalues)
    · cases hchosen
  · next hraw hbounds hmembers _ _ hnull =>
    cases hchosen
    exact .value hraw (Operator.comparesWith_of_role hbounds hmembers hnull)

/-- A comparison with an operator that compares with the value has a canonical form. -/
theorem canonical_compare_of_comparesWith {column value : Value} {given : String} {op : Operator}
    (hop : op.SpeltBy given) (h : op.ComparesWith value) :
    canonical column (.compare given value) = .ok (.compare op.symbol value) := by
  refine Result.bind_eq_ok_iff.2 ⟨op, checkedOperator_eq_ok_iff.2 hop, ?_⟩
  split
  · next hrole => exact absurd (Operator.role_eq_bounds_iff.1 hrole) h.not_range
  · next negated hrole =>
    exact absurd (Operator.role_eq_members_iff.1 hrole) (h.not_membership negated)
  · next negated hrole =>
    exact absurd rfl (h.not_nullTest negated (Operator.role_eq_nullOrSingle_iff.1 hrole))
  · rfl

/-- A comparison with raw SQL has a canonical form when it is not by the operator of
ranges. -/
theorem canonical_rawCompare {column : Value} {given : String} {op : Operator}
    (expr : RawSql Value) (hop : op.SpeltBy given) (h : op ≠ .between) :
    canonical column (.rawCompare given expr) = .ok (.rawCompare op.symbol expr) := by
  refine Result.bind_eq_ok_iff.2 ⟨op, checkedOperator_eq_ok_iff.2 hop, ?_⟩
  split
  · next hrole => exact absurd (Operator.role_eq_bounds_iff.1 hrole) h
  · rfl

/-- An operator of membership looks among the values of its operand, unless the operand is
raw SQL. -/
theorem ofPair_membership {column operand : Value} {given : String} {negated : Bool}
    (hop : (Operator.membership negated).SpeltBy given) (hraw : ∀ expr, operand ≠ .raw expr) :
    ofPair column given operand =
      members column (.membership negated) operand >>= fun values =>
        match ofMembers? values negated with
        | some c => .ok c
        | none => .error (.condition column (.noMembers (.membership negated))) := by
  unfold ofPair
  rw [checkedOperator_eq_ok_iff.2 hop]
  cases negated with
  | _ => cases operand <;> first | rfl | exact absurd rfl (hraw _)

/-- An operator is resolved with every operand that it takes. -/
theorem ofPair_of_takes {column operand : Value} {given : String} {op : Operator}
    {c : Condition Value} (hop : op.SpeltBy given) (h : op.Takes operand c) :
    ofPair column given operand = .ok c := by
  have hchecked : checkedOperator column given = .ok op := checkedOperator_eq_ok_iff.2 hop
  cases h with
  | range hoperand =>
    refine Result.bind_eq_ok_iff.2 ⟨_, hchecked, ?_⟩
    rcases hoperand with rfl | rfl <;> rfl
  | raw expr hrange =>
    refine Result.bind_eq_ok_iff.2 ⟨op, hchecked, ?_⟩
    have hrole := mt Operator.role_eq_bounds_iff.1 hrange
    cases hfound : op.role with
    | bounds => exact absurd hfound hrole
    | _ => rfl
  | members negated hraw hholds =>
    rw [ofPair_membership hop hraw, members_eq_ok_iff.2 hholds]
    rfl
  | null negated =>
    refine Result.bind_eq_ok_iff.2 ⟨_, hchecked, ?_⟩
    cases negated <;> rfl
  | value hraw hcompares =>
    refine Result.bind_eq_ok_iff.2 ⟨op, hchecked, ?_⟩
    have hrange := mt Operator.role_eq_bounds_iff.1 hcompares.not_range
    split
    · next hrole => exact absurd hrole hrange
    · next hrole => exact absurd hrole hrange
    · next hrole _ _ => exact absurd hrole hrange
    · next negated hrole =>
      exact absurd rfl (hcompares.not_nullTest negated (Operator.role_eq_nullOrSingle_iff.1 hrole))
    · next expr _ => exact absurd rfl (hraw expr)
    · next negated hrole _ =>
      exact absurd (Operator.role_eq_members_iff.1 hrole) (hcompares.not_membership negated)
    · rfl

/-- A list or tuple of items is resolved as the items. -/
theorem resolve_of_isSequence (column : Value) {v : Value} {items : List Value}
    (h : v.IsSequence items) : resolve column v = ofItems column items := by
  rcases h with rfl | rfl <;> rfl

/-- Resolving finds the condition that a value describes, and finds none for any other
value. -/
theorem resolve_eq_ok_iff {column v : Value} {c : Condition Value} :
    resolve column v = .ok c ↔ v.Describes c := by
  constructor
  · intro h
    have hitems : ∀ items, v.IsSequence items → ofItems column items = .ok c → v.Describes c := by
      intro items hv hitems
      unfold ofItems at hitems
      split at hitems
      · obtain ⟨op, hop, htakes⟩ := takes_of_ofPair hitems
        exact .pair hv hop htakes
      · cases hitems
    cases v with
    | condition given => exact describes_of_canonical h
    | raw expr =>
      cases h
      exact .raw expr
    | list items => exact hitems items (.inl rfl) h
    | tuple items => exact hitems items (.inr rfl) h
    | _ =>
      cases h
      exact .scalar (fun _ h => by rcases h with h | h <;> cases h) (fun _ h => by cases h)
        (fun _ h => by cases h)
  · intro h
    cases h with
    | between low high => rfl
    | inSet first rest negated => rfl
    | isNull negated => rfl
    | compare hop hcompares => exact canonical_compare_of_comparesWith hop hcompares
    | rawCompare expr hop hrange => exact canonical_rawCompare expr hop hrange
    | raw expr => rfl
    | pair hv hop htakes =>
      rw [resolve_of_isSequence column hv]
      exact ofPair_of_takes hop htakes
    | scalar hsequence hraw hcondition =>
      cases v with
      | condition c => exact absurd rfl (hcondition c)
      | raw expr => exact absurd rfl (hraw expr)
      | list items => exact absurd (.inl rfl) (hsequence items)
      | tuple items => exact absurd (.inr rfl) (hsequence items)
      | _ => rfl

end Condition

end BoundSql
