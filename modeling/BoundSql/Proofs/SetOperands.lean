import BoundSql.Proofs.AscendingMerges
import BoundSql.Proofs.FrontEnds
import BoundSql.Proofs.ValueOrder
import Mathlib.Data.List.Pairwise

/-!
# Sets as operands

The members of a set have no order of their own, so those of an operand of a membership
operator are sorted, which they can be when any two of them can be compared. Then equal sets
make the same condition, whatever the order in which their members are read, and otherwise both
are refused: a sort that comes to an end has put every two members in order, by comparisons with
others where not with each other.
-/

namespace BoundSql

namespace Value

/-- A number, a text, a string of bytes or a tuple is not less than itself. -/
theorem IsSimple.less?_self {v : Value} (h : v.IsSimple) (hnull : v ≠ .null) :
    v.less? v = some false := by
  cases h with
  | null => exact absurd rfl hnull
  | number hn _ => rw [less?_of_number? hn, hn, Option.map_some, Number.less_irrefl]
  | text s => simp [less?]
  | bytes bs => simp [less?]
  | @tuple items hitems =>
    refine less?_tuple_eq_some_iff.2 ⟨items, rfl, ?_⟩
    clear hnull
    induction items with
    | nil => rfl
    | cons v rest ih =>
      obtain ⟨hv, hrest⟩ := List.forall_mem_cons.1 hitems
      rw [itemsLess?_cons_of_same hv.same_self]
      exact ih hrest

/-- A simple value may stand in front of another when this is not less. -/
def Precedes (v w : Value) : Prop :=
  v.IsSimple ∧ w.IsSimple ∧ w.less? v = some false

/-- Which values may stand in front of others is transitive. -/
theorem Precedes.trans {v w x : Value} (h : v.Precedes w) (h' : w.Precedes x) : v.Precedes x := by
  obtain ⟨hv, hw, hwv⟩ := h
  obtain ⟨-, hx, hxw⟩ := h'
  refine ⟨hv, hx, ?_⟩
  -- An equal value may take the place of the one between, so only two strict steps remain.
  rcases hx.isOrdered.connected w hw hxw with hsame | hwx
  · exact (hx.comparedAlike hw hsame v hv).1.trans hwv
  · rcases hw.isOrdered.connected v hv hwv with hsame | hvw
    · exact (hw.comparedAlike hv hsame x hx).2.symm.trans hxw
    · exact hv.isOrdered.asymm x hx (hv.isOrdered.trans w x hw hx hvw hwx)

/-- Of two values that are not equal the one in front is less. -/
theorem Precedes.less {v w : Value} (h : v.Precedes w) (hne : w.same v = false) :
    v.less? w = some true := by
  refine (h.2.1.isOrdered.connected v h.1 h.2.2).resolve_left ?_
  rw [hne]
  exact Bool.false_ne_true

/-- The comparisons of simple values fit the order in which they may stand. -/
theorem fits_precedes {members : List Value} (hsimple : ∀ v ∈ members, v.IsSimple) :
    Sorting.Fits (∀ v ∈ members, ∀ w ∈ members, v.less? w ≠ none) (· ∈ members) Precedes less?
      where
  outcome v w hv hw := by
    refine ⟨fun b hb => ?_, fun htotal => Option.isSome_iff_ne_none.2 (htotal v hv w hw)⟩
    cases b with
    | true =>
      exact ⟨hsimple v hv, hsimple w hw, (hsimple v hv).isOrdered.asymm w (hsimple w hw) hb⟩
    | false => exact ⟨hsimple w hw, hsimple v hv, hb⟩
  trans _ _ _ := Precedes.trans

/-- Simple values, no two of which are equal. -/
structure AreDistinct (members : List Value) : Prop where
  /-- All are simple. -/
  simple : ∀ v ∈ members, v.IsSimple
  /-- None is equal to a later one. -/
  distinct : members.Pairwise fun v w => v.same w = false

/-- Any two of some values can be compared. -/
def AreComparable (members : List Value) : Prop :=
  ∀ v ∈ members, ∀ w ∈ members, v ≠ w → v.less? w ≠ none

section Members

variable {members others : List Value}

/-- Distinct values stay so in any order. -/
theorem AreDistinct.perm (h : AreDistinct members) (hperm : members.Perm others) :
    AreDistinct others := by
  have hboth : members.Pairwise fun v w => v.same w = false ∧ w.same v = false :=
    h.distinct.imp_of_mem fun _ hw hne => ⟨hne, (h.simple _ hw).isKey.not_same_symm hne⟩
  refine ⟨fun v hv => h.simple v (hperm.mem_iff.2 hv), ?_⟩
  exact ((hperm.pairwise_iff And.symm).1 hboth).imp And.left

/-- Distinct values that are sorted are strictly ascending. -/
theorem AreDistinct.strictly_ascending {sorted : List Value} (h : AreDistinct members)
    (hsorted : ascending? members = some sorted) :
    sorted.Pairwise fun v w => v.less? w = some true := by
  have hordered := (Sorting.yields_sorted? (fits_precedes h.simple) fun _ => id).sound _ hsorted
  have hdistinct := h.perm (perm_of_ascending? hsorted).symm
  refine (hordered.and hdistinct.distinct).imp_of_mem fun _ hw hvw => ?_
  exact hvw.1.less ((hdistinct.simple _ hw).isKey.not_same_symm hvw.2)

/-- Distinct values that are sorted can be compared, any two of them. -/
theorem AreDistinct.areComparable {sorted : List Value} (h : AreDistinct members)
    (hsorted : ascending? members = some sorted) : AreComparable members := by
  have hperm := perm_of_ascending? hsorted
  have hboth : sorted.Pairwise fun v w => v.less? w ≠ none ∧ w.less? v ≠ none := by
    refine (h.strictly_ascending hsorted).imp_of_mem fun {v w} hv hw hvw => ?_
    have hwv := (h.simple v (hperm.mem_iff.1 hv)).isOrdered.asymm w
      (h.simple w (hperm.mem_iff.1 hw)) hvw
    rw [hvw, hwv]
    exact ⟨Option.some_ne_none _, Option.some_ne_none _⟩
  -- Two members stand in the sorted list in one order or the other.
  have : Std.Symm fun v w : Value => v.less? w ≠ none ∧ w.less? v ≠ none :=
    ⟨fun _ _ => And.symm⟩
  intro v hv w hw hne
  exact (hboth.forall (hperm.mem_iff.2 hv) (hperm.mem_iff.2 hw) hne).1

/-- Of two or more values that can be compared each can be compared with itself, because none
of them is the missing value. -/
theorem AreDistinct.less?_ne_none {v w : Value} {rest : List Value}
    (h : AreDistinct (v :: w :: rest)) (hcomparable : AreComparable (v :: w :: rest)) :
    ∀ x ∈ v :: w :: rest, ∀ y ∈ v :: w :: rest, x.less? y ≠ none := by
  intro x hx y hy
  by_cases hxy : x = y
  · subst hxy
    have hvw : v ≠ w := by
      rintro rfl
      have hsame := (List.pairwise_cons.1 h.distinct).1 v List.mem_cons_self
      rw [(h.simple v List.mem_cons_self).same_self] at hsame
      cases hsame
    obtain ⟨z, hz, hne⟩ : ∃ z ∈ v :: w :: rest, x ≠ z := by
      by_cases hxv : x = v
      · exact ⟨w, by simp, hxv ▸ hvw⟩
      · exact ⟨v, by simp, hxv⟩
    have hnull : x ≠ .null := by
      rintro rfl
      exact hcomparable .null hx z hz hne (by simp [less?])
    rw [(h.simple x hx).less?_self hnull]
    exact Option.some_ne_none _
  · exact hcomparable x hx y hy hxy

/-- Comparable values can be sorted. A value that is alone is not compared at all. -/
theorem AreDistinct.exists_ascending? (h : AreDistinct members)
    (hcomparable : AreComparable members) : ∃ sorted, ascending? members = some sorted := by
  match members, h, hcomparable with
  | [], _, _ => exact ⟨[], by simp [ascending?, Sorting.sorted?, Sorting.runs?,
      Sorting.collapsed?]⟩
  | [v], _, _ => exact ⟨[v], Sorting.sorted?_singleton _ v⟩
  | v :: w :: rest, h, hcomparable =>
    have hsorted := Sorting.yields_sorted? (fits_precedes h.simple) fun _ => id
    exact Option.isSome_iff_exists.1 (hsorted.isSome (h.less?_ne_none hcomparable))

/-- Two strictly ascending lists of the same simple values are equal. -/
theorem eq_of_strictly_ascending {sorted sorted' : List Value}
    (hsimple : ∀ v ∈ sorted, v.IsSimple)
    (h : sorted.Pairwise fun v w => v.less? w = some true)
    (h' : sorted'.Pairwise fun v w => v.less? w = some true) (hperm : sorted.Perm sorted') :
    sorted = sorted' := by
  refine hperm.eq_of_pairwise (fun v w hv hw hvw hwv => ?_) h h'
  have hgreater := (hsimple v hv).isOrdered.asymm w (hsimple w (hperm.mem_iff.2 hw)) hvw
  rw [hwv] at hgreater
  cases hgreater

/-- Distinct values can be sorted exactly when any two of them can be compared. -/
theorem AreDistinct.exists_ascending?_iff (h : AreDistinct members) :
    (∃ sorted, ascending? members = some sorted) ↔ AreComparable members :=
  ⟨fun ⟨_, hsorted⟩ => h.areComparable hsorted, h.exists_ascending?⟩

/-- The same values are sorted in the same way, or neither can be. -/
theorem AreDistinct.ascending?_eq_of_perm (h : AreDistinct members)
    (hperm : members.Perm others) : ascending? members = ascending? others := by
  have h' := h.perm hperm
  have hboth : AreComparable members ↔ AreComparable others := by
    simp only [AreComparable, hperm.mem_iff]
  rw [← h.exists_ascending?_iff, ← h'.exists_ascending?_iff] at hboth
  cases hsorted : ascending? members with
  | none =>
    cases hsorted' : ascending? others with
    | none => rfl
    | some sorted' =>
      obtain ⟨sorted, hsome⟩ := hboth.2 ⟨sorted', hsorted'⟩
      rw [hsorted] at hsome
      cases hsome
  | some sorted =>
    obtain ⟨sorted', hsorted'⟩ := hboth.1 ⟨sorted, hsorted⟩
    have hsorts := perm_of_ascending? hsorted
    have hsame : sorted.Perm sorted' :=
      (hsorts.trans hperm).trans (perm_of_ascending? hsorted').symm
    rw [hsorted', eq_of_strictly_ascending (fun v hv => h.simple v (hsorts.mem_iff.1 hv))
      (h.strictly_ascending hsorted) (h'.strictly_ascending hsorted') hsame]

end Members

end Value

namespace Filter

/-- The fragments of a filter are the same with another value for one column, when this is
resolved to the same. -/
theorem parts_replace {column value value' : Value}
    (h : Condition.resolve column value = Condition.resolve column value')
    (before after : List (Value × Value)) :
    parts (before ++ (column, value) :: after) = parts (before ++ (column, value') :: after) := by
  induction before with
  | nil => simp only [List.nil_append, parts, h]
  | cons e before ih => simp only [List.cons_append, parts, ih]

end Filter

namespace Condition

variable {operand pair : Value} {given : String} {negated : Bool} {members : List Value}

/-- A pair of an operator of membership and a set is resolved to a condition on the sorted
members. -/
theorem resolve_set_pair (column : Value) (hop : (Operator.membership negated).SpeltBy given)
    (hset : operand.setMembers? = some members) (h : pair.IsSequence [.text given, operand]) :
    resolve column pair =
      match ascending? members with
      | none => .error (.condition column (.membersNotComparable (.membership negated)))
      | some [] => .error (.condition column (.noMembers (.membership negated)))
      | some (first :: rest) => .ok (.inSet first rest negated) := by
  have hraw (expr : RawSql Value) : operand ≠ .raw expr := by
    rintro rfl
    cases hset
  rw [resolve_pair column h, ofPair_membership hop hraw,
    members_of_setMembers?_eq_some column _ hset]
  cases ascending? members with
  | none => rfl
  | some sorted => cases sorted <;> rfl

/-- The members of an operand that is a set are sorted for a membership operator, so the order in
which they are read does not matter: if some two of them cannot be compared, the operand is
refused, and otherwise the condition has all of them in strictly ascending order. In a filter
neither the text nor the values depend on that order. -/
theorem canonical_set_operands (column : Value) {given : String} {negated : Bool}
    (hop : (Operator.membership negated).SpeltBy given) {operand operand' : Value}
    {members members' : List Value} (hset : operand.setMembers? = some members)
    (hset' : operand'.setMembers? = some members') (hdistinct : Value.AreDistinct members)
    (hperm : members.Perm members') {pair pair' : Value}
    (hpair : pair.IsSequence [.text given, operand])
    (hpair' : pair'.IsSequence [.text given, operand']) :
    resolve column pair = resolve column pair' ∧
    ((∃ v ∈ members, ∃ w ∈ members, v ≠ w ∧ v.less? w = none) →
      resolve column pair =
        .error (.condition column (.membersNotComparable (.membership negated)))) ∧
    ((∀ v ∈ members, ∀ w ∈ members, v ≠ w → v.less? w ≠ none) → members ≠ [] →
      ∃ first rest, resolve column pair = .ok (.inSet first rest negated) ∧
        (first :: rest).Perm members ∧
        (first :: rest).Pairwise fun v w => v.less? w = some true) ∧
    ∀ connective before after,
      Filter.ofValue connective (.mapping (before ++ (column, pair) :: after)) =
        Filter.ofValue connective (.mapping (before ++ (column, pair') :: after)) := by
  have hresolve := resolve_set_pair column hop hset hpair
  have hsame : resolve column pair = resolve column pair' := by
    rw [hresolve, resolve_set_pair column hop hset' hpair', hdistinct.ascending?_eq_of_perm hperm]
  refine ⟨hsame, ?_, ?_, fun connective before after => ?_⟩
  · rintro ⟨v, hv, w, hw, hne, hnone⟩
    cases hsorted : ascending? members with
    | none => rw [hresolve, hsorted]
    | some sorted => exact absurd hnone (hdistinct.areComparable hsorted v hv w hw hne)
  · intro hcomparable hsome
    obtain ⟨sorted, hsorted⟩ := hdistinct.exists_ascending? hcomparable
    have hsorts := perm_of_ascending? hsorted
    have hstrict := hdistinct.strictly_ascending hsorted
    cases sorted with
    | nil => exact absurd hsorts.nil_eq.symm hsome
    | cons first rest =>
      refine ⟨first, rest, ?_, hsorts, hstrict⟩
      rw [hresolve, hsorted]
  · change (Filter.parts _).map _ = (Filter.parts _).map _
    rw [Filter.parts_replace hsame]

/-- Numbers of three kinds, in descending order. -/
def mixedNumbers : List Value :=
  [.float "2.5", .bool true, .int (-3)]

/-- Tuples of which two have a text and nothing in the place where they differ. -/
def unlikeTuples : List Value :=
  [.tuple [.text "b"], .tuple [.text "a", .null], .tuple [.text "a", .text "c"]]

/-- The decimal text of the first number is read exactly. -/
theorem ofLiteral_mixedNumbers : Number.ofLiteral "2.5" = .rational (5 / 2) := by decide +kernel

/-- Each of the numbers is rational. -/
theorem exists_rational_of_mem_mixedNumbers :
    ∀ v ∈ mixedNumbers, ∃ q, v.number? = some (.rational q) :=
  List.forall_mem_cons.2 ⟨⟨_, congrArg some ofLiteral_mixedNumbers⟩,
    List.forall_mem_cons.2 ⟨⟨_, rfl⟩, List.forall_mem_singleton.2 ⟨_, rfl⟩⟩⟩

/-- The numbers are distinct. -/
theorem areDistinct_mixedNumbers : Value.AreDistinct mixedNumbers := by
  refine ⟨fun v hv => ?_, ?_⟩
  · obtain ⟨q, hq⟩ := exists_rational_of_mem_mixedNumbers v hv
    exact .number hq Number.noConfusion
  · simp only [mixedNumbers, List.pairwise_cons, List.forall_mem_cons, Value.same,
      Value.same.sameNumber, Value.number?, ofLiteral_mixedNumbers, Number.same, Number.ofInt]
    decide +kernel

/-- Read backward the numbers are strictly ascending. -/
theorem ascending_reverse_mixedNumbers :
    mixedNumbers.reverse.Pairwise fun v w => v.less? w = some true := by
  simp only [mixedNumbers, List.pairwise_reverse, List.pairwise_cons, List.forall_mem_cons,
    Value.less?, Value.less?.numberLess?, Value.number?, ofLiteral_mixedNumbers, Number.less,
    Number.ofInt, Option.map_some]
  decide +kernel

/-- The tuples are distinct. -/
theorem areDistinct_unlikeTuples : Value.AreDistinct unlikeTuples := by
  refine ⟨List.forall_mem_cons.2 ⟨.tuple (List.forall_mem_singleton.2 (.text "b")),
    List.forall_mem_cons.2 ⟨.tuple ?_, List.forall_mem_singleton.2 (.tuple ?_)⟩⟩,
    by simp [unlikeTuples, Value.same, sameItems]⟩
  · exact List.forall_mem_cons.2 ⟨.text "a", List.forall_mem_singleton.2 .null⟩
  · exact List.forall_mem_cons.2 ⟨.text "a", List.forall_mem_singleton.2 (.text "c")⟩

/-- The numbers are sorted in either order, and the tuples are refused in either order. -/
theorem canonical_set_operands_unlikeTuples :
    (resolve (.text "rate") (.tuple [.text "not in", .set true mixedNumbers]) =
        .ok (.inSet (.int (-3)) [.bool true, .float "2.5"] true) ∧
      resolve (.text "rate") (.list [.text "not in", .keys mixedNumbers.reverse]) =
        .ok (.inSet (.int (-3)) [.bool true, .float "2.5"] true) ∧
      Value.AreDistinct mixedNumbers) ∧
    (resolve (.text "rate") (.tuple [.text "not in", .set false unlikeTuples]) =
        .error (.condition (.text "rate") (.membersNotComparable .notIn)) ∧
      resolve (.text "rate") (.tuple [.text "not in", .set false unlikeTuples.reverse]) =
        .error (.condition (.text "rate") (.membersNotComparable .notIn)) ∧
      Value.AreDistinct unlikeTuples) := by
  have hop : (Operator.membership true).SpeltBy "not in" := by
    unfold Operator.SpeltBy
    decide +kernel
  have hcomparable : ∀ v ∈ mixedNumbers, ∀ w ∈ mixedNumbers, v ≠ w → v.less? w ≠ none := by
    intro v hv w hw _
    obtain ⟨p, hp⟩ := exists_rational_of_mem_mixedNumbers v hv
    obtain ⟨q, hq⟩ := exists_rational_of_mem_mixedNumbers w hw
    rw [Value.less?_of_number? hp, hq]
    exact Option.some_ne_none _
  have hset : (Value.set true mixedNumbers).setMembers? = some mixedNumbers := rfl
  have hview : (Value.keys mixedNumbers.reverse).setMembers? = some mixedNumbers.reverse := rfl
  have hturned := (List.reverse_perm mixedNumbers).symm
  obtain ⟨hagree, -, haccepted, -⟩ := canonical_set_operands (.text "rate") hop hset hview
    areDistinct_mixedNumbers hturned (.inr rfl) (.inl rfl)
  obtain ⟨first, rest, hresolved, hperm, hstrict⟩ := haccepted hcomparable (List.cons_ne_nil _ _)
  have hsorted := Value.eq_of_strictly_ascending
    (fun v hv => areDistinct_mixedNumbers.simple v (hperm.mem_iff.1 hv)) hstrict
    ascending_reverse_mixedNumbers (hperm.trans hturned)
  cases hsorted
  have hopen : (Value.set false unlikeTuples).setMembers? = some unlikeTuples := rfl
  have hreverse : (Value.set false unlikeTuples.reverse).setMembers? = some unlikeTuples.reverse :=
    rfl
  obtain ⟨hsame, hrefused, -, -⟩ := canonical_set_operands (.text "rate") hop hopen hreverse
    areDistinct_unlikeTuples (List.reverse_perm _).symm (.inr rfl) (.inr rfl)
  have herror := hrefused ⟨.tuple [.text "a", .null], by simp [unlikeTuples],
    .tuple [.text "a", .text "c"], by simp [unlikeTuples], by simp,
    by simp [Value.less?, itemsLess?, Value.same]⟩
  exact ⟨⟨hresolved, hagree.symm.trans hresolved, areDistinct_mixedNumbers⟩, herror,
    hsame.symm.trans herror, areDistinct_unlikeTuples⟩

end Condition

end BoundSql
