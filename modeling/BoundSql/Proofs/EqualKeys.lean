import BoundSql.Value.Entries
import Mathlib.Data.List.Forall2
import Mathlib.Data.List.Induction

/-!
# Equality of keys

Values that are made of others, such as tuples and raw SQL, are equal when they have the
same form and equal parts, and sets are equal when they have as many members and each
member of one is equal to a member of the other. On keys, whose sets hold no two equal
members, equality is symmetric and transitive. A key need not be equal to itself, because
no number is equal to what is not a number.
-/

namespace BoundSql

section

variable {α : Type} {R : α → α → Prop} {l m n : List α}

/-- A relation between lists, item by item, is transitive when it is from the items of the
first list on. -/
theorem forall₂_trans_of_mem (htrans : ∀ a ∈ l, ∀ b c, R a b → R b c → R a c)
    (h : List.Forall₂ R l m) (h' : List.Forall₂ R m n) : List.Forall₂ R l n := by
  induction h generalizing n with
  | nil => exact h'
  | cons hab _ ih =>
    obtain _ | ⟨hbc, hrest⟩ := h'
    rw [List.forall_mem_cons] at htrans
    exact .cons (htrans.1 _ _ hab hbc) (ih htrans.2 hrest)

/-- A relation between lists, item by item, is symmetric when it is at the items of the first
list. -/
theorem forall₂_symm_of_mem (hsymm : ∀ a ∈ l, ∀ b, R a b → R b a) (h : List.Forall₂ R l m) :
    List.Forall₂ R m l := by
  induction h with
  | nil => exact .nil
  | cons hab _ ih =>
    rw [List.forall_mem_cons] at hsymm
    exact .cons (hsymm.1 _ hab) (ih hsymm.2)

/-- When two lists are equally long, each item of the first is related to one of the second
and no two of the first to the same one, each item of the second has one of the first that
is related to it. -/
theorem exists_related_of_length_eq (hlength : l.length = m.length)
    (hrelated : ∀ a ∈ l, ∃ b ∈ m, R a b)
    (hone : l.Pairwise fun a a' => ∀ b, R a b → ¬ R a' b) : ∀ b ∈ m, ∃ a ∈ l, R a b := by
  induction l generalizing m with
  | nil => simp [List.length_eq_zero_iff.mp hlength.symm]
  | cons a l ih =>
    obtain ⟨⟨b, hb, hab⟩, hrelated⟩ := List.forall_mem_cons.mp hrelated
    obtain ⟨hfirst, hone⟩ := List.pairwise_cons.mp hone
    obtain ⟨front, back, rfl⟩ := List.append_of_mem hb
    -- The others of the first list are related to others of the second.
    have hothers : ∀ a' ∈ l, ∃ c ∈ front ++ back, R a' c := by
      intro a' ha'
      obtain ⟨c, hc, hac⟩ := hrelated a' ha'
      have hne : c ≠ b := fun h => hfirst a' ha' b hab (h ▸ hac)
      exact ⟨c, by simpa [hne] using hc, hac⟩
    have hlength' : l.length = (front ++ back).length := by
      simp only [List.length_cons, List.length_append] at hlength ⊢
      omega
    intro c hc
    by_cases h : c = b
    · exact ⟨a, by simp, h ▸ hab⟩
    · obtain ⟨a', ha', hac⟩ := ih hlength' hothers hone c (by simpa [h] using hc)
      exact ⟨a', by simp [ha'], hac⟩

end

/-- Equality of numbers is transitive. -/
theorem Number.same_trans {a b c : Number} (h : a.same b = true) (h' : b.same c = true) :
    a.same c = true := by
  cases a <;> cases b <;> cases c <;> simp_all [same]

/-- Equality of numbers is symmetric. -/
theorem Number.same_symm {a b : Number} (h : a.same b = true) : b.same a = true := by
  cases a <;> cases b <;> simp_all [same]

/-- Lists are equal when their items are, one by one. -/
theorem sameItems_iff {items others : List Value} :
    sameItems items others = true ↔
      List.Forall₂ (fun v w => v.same w = true) items others := by
  induction items generalizing others with
  | nil => cases others <;> simp [sameItems]
  | cons v rest ih => cases others <;> simp [sameItems, ih]

/-- Values are among others when each of them is equal to one of these. -/
theorem itemsAmong_iff {items others : List Value} :
    itemsAmong items others = true ↔ ∀ v ∈ items, ∃ w ∈ others, v.same w = true := by
  induction items with
  | nil => simp [itemsAmong]
  | cons v rest ih => simp [itemsAmong, ih]

/-- Pieces of raw SQL are equal when they have the same text and equal bindings. -/
theorem sameRaw_iff {expr other : RawSql Value} :
    sameRaw expr other = true ↔
      expr.sql = other.sql ∧
        List.Forall₂ (fun v w => v.same w = true) expr.bindings other.bindings := by
  obtain ⟨sql, bindings⟩ := expr
  simp [sameRaw, sameItems_iff]

namespace Condition

/-- The values that a condition is made of, in order. -/
def parts : Condition Value → List Value
  | .compare _ value => [value]
  | .rawCompare _ raw => raw.bindings
  | .between low high => [low, high]
  | .inSet first rest _ => first :: rest
  | .isNull _ => []

/-- What a condition is apart from the values that it is made of. -/
def form : Condition Value → Condition Value
  | .compare op _ => .compare op .null
  | .rawCompare op raw => .rawCompare op ⟨raw.sql, []⟩
  | .between _ _ => .between .null .null
  | .inSet _ _ negated => .inSet .null [] negated
  | .isNull negated => .isNull negated

/-- Conditions are equal when they have the same form and equal parts. -/
theorem same_iff {c d : Condition Value} :
    sameCondition c d = true ↔
      c.form = d.form ∧ List.Forall₂ (fun v w => v.same w = true) c.parts d.parts := by
  cases c <;> cases d <;>
    simp [sameCondition, form, parts, sameRaw_iff, sameItems_iff, and_assoc, and_comm]

end Condition

namespace Value

/-- Whether a value is of a kind that is not made of other values. -/
def isAtom : Value → Bool
  | .null | .bool _ | .int _ | .float _ | .text _ | .bytes _ | .stream _ | .range .. | .options _ =>
    true
  | _ => false

/-- Whether a value is of a kind that is made of other values in a fixed order and that may
be a key. -/
def isRecord : Value → Bool
  | .tuple _ | .raw _ | .condition _ | .statement .. => true
  | _ => false

/-- The values that a value is made of in a fixed order. -/
def parts : Value → List Value
  | .tuple items => items
  | .raw expr => expr.bindings
  | .condition c => c.parts
  | .statement sql params action => [sql, params, action]
  | _ => []

/-- What a value is apart from the values that it is made of. -/
def form : Value → Value
  | .tuple _ => .tuple []
  | .raw expr => .raw ⟨expr.sql, []⟩
  | .condition c => .condition c.form
  | .statement _ _ _ => .statement .null .null .null
  | v => v

/-- A value that may be a key. Its parts may be keys as well, and a set is one that cannot
change and holds no two equal members. -/
inductive IsKey : Value → Prop where
  /-- A value that is not made of others. -/
  | atom {v : Value} (h : v.isAtom = true) : IsKey v
  /-- A value that is made of keys in a fixed order. -/
  | record {v : Value} (h : v.isRecord = true) (hparts : ∀ w ∈ v.parts, IsKey w) : IsKey v
  /-- A set of distinct keys. -/
  | set {members : List Value} (hmembers : ∀ v ∈ members, IsKey v)
      (hdistinct : members.Pairwise fun v w => v.same w = false) : IsKey (.set true members)

/-- A number is equal to the values that stand for an equal number. -/
theorem same_iff_of_number? {v : Value} {n : Number} (h : v.number? = some n) (w : Value) :
    v.same w = true ↔ ∃ m, w.number? = some m ∧ n.same m = true := by
  cases v <;> cases h <;> cases hw : w.number? <;> simp [same, same.sameNumber, hw]

/-- A range is equal to those with as many integers and, as far as these tell, the same start
and step. -/
theorem same_range_iff (start stop step : Int) (w : Value) :
    (range start stop step).same w = true ↔ ∃ start' stop' step', w = range start' stop' step' ∧
      rangeLength start stop step = rangeLength start' stop' step' ∧
        (rangeLength start stop step = 0 ∨
          start = start' ∧ (rangeLength start stop step = 1 ∨ step = step')) := by
  cases w <;> simp [same, sameRange]

/-- A set or a view of keys is equal to one with as many members, among which are all of
its own. -/
theorem same_iff_of_setMembers? {v : Value} {members : List Value}
    (h : v.setMembers? = some members) (w : Value) :
    v.same w = true ↔ ∃ others, w.setMembers? = some others ∧
      members.length = others.length ∧ ∀ v ∈ members, ∃ w ∈ others, v.same w = true := by
  cases v <;> cases h <;> cases hw : w.setMembers? <;>
    simp [same, sameMembers, itemsAmong_iff, hw]

/-- A value that is made of others in a fixed order is equal to those of its form with equal
parts. -/
theorem same_iff_of_isRecord {v : Value} (h : v.isRecord = true) (w : Value) :
    v.same w = true ↔
      v.form = w.form ∧ List.Forall₂ (fun v w => v.same w = true) v.parts w.parts := by
  cases v with
  | tuple items => cases w <;> simp [same, form, parts, sameItems_iff]
  | raw expr => cases w <;> simp [same, form, parts, sameRaw_iff]
  | condition c => cases w <;> simp [same, form, parts, Condition.same_iff]
  | statement sql params action => cases w <;> simp [same, form, parts, and_assoc]
  | _ => cases h

/-- A value of the form of a record is a record. -/
theorem isRecord_of_form_eq {v w : Value} (h : v.isRecord = true) (hform : v.form = w.form) :
    w.isRecord = true := by
  cases v <;> cases h <;> cases w <;> first | rfl | cases hform

/-- Equality is transitive from a value on that is not made of others. -/
theorem same_trans_of_isAtom {u v w : Value} (hu : u.isAtom = true) (h : u.same v = true)
    (h' : v.same w = true) : u.same w = true := by
  cases hn : u.number? with
  | some n =>
    obtain ⟨m, hm, hnm⟩ := (same_iff_of_number? hn v).mp h
    obtain ⟨k, hk, hmk⟩ := (same_iff_of_number? hm w).mp h'
    exact (same_iff_of_number? hn w).mpr ⟨k, hk, Number.same_trans hnm hmk⟩
  | none =>
    cases u with
    | range start stop step =>
      obtain ⟨start', stop', step', rfl, hfirst⟩ := (same_range_iff start stop step v).mp h
      obtain ⟨_, _, _, rfl, hsecond⟩ := (same_range_iff start' stop' step' w).mp h'
      refine (same_range_iff start stop step _).mpr ⟨_, _, _, rfl, ?_⟩
      omega
    | _ => cases v <;> simp_all [same, isAtom, number?]

/-- A value that is not made of others is equal to the same values from either side. -/
theorem same_symm_of_isAtom {u v : Value} (hu : u.isAtom = true) (h : u.same v = true) :
    v.same u = true := by
  cases hn : u.number? with
  | some n =>
    obtain ⟨m, hm, hnm⟩ := (same_iff_of_number? hn v).mp h
    exact (same_iff_of_number? hm u).mpr ⟨n, hn, Number.same_symm hnm⟩
  | none =>
    cases u with
    | range start stop step =>
      obtain ⟨start', stop', step', rfl, hsame⟩ := (same_range_iff start stop step v).mp h
      refine (same_range_iff start' stop' step' _).mpr ⟨_, _, _, rfl, ?_⟩
      omega
    | _ => cases v <;> simp_all [same, isAtom, number?]

/-- Equality is transitive from a key on. -/
theorem IsKey.same_trans {u : Value} (hu : u.IsKey) :
    ∀ v w : Value, u.same v = true → v.same w = true → u.same w = true := by
  induction hu with
  | atom hu => exact fun _ _ => same_trans_of_isAtom hu
  | record hu _ ih =>
    intro v w h h'
    obtain ⟨hform, hparts⟩ := (same_iff_of_isRecord hu v).mp h
    obtain ⟨hform', hparts'⟩ := (same_iff_of_isRecord (isRecord_of_form_eq hu hform) w).mp h'
    exact (same_iff_of_isRecord hu w).mpr
      ⟨hform.trans hform', forall₂_trans_of_mem ih hparts hparts'⟩
  | set _ _ ih =>
    intro v w h h'
    obtain ⟨others, hv, hlength, hamong⟩ := (same_iff_of_setMembers? rfl v).mp h
    obtain ⟨others', hw, hlength', hamong'⟩ := (same_iff_of_setMembers? hv w).mp h'
    refine (same_iff_of_setMembers? rfl w).mpr ⟨others', hw, hlength.trans hlength', ?_⟩
    intro a ha
    obtain ⟨b, hb, hab⟩ := hamong a ha
    obtain ⟨c, hc, hbc⟩ := hamong' b hb
    exact ⟨c, hc, ih a ha b c hab hbc⟩

/-- A key is equal to the same values from either side. -/
theorem IsKey.same_symm {u : Value} (hu : u.IsKey) :
    ∀ v : Value, u.same v = true → v.same u = true := by
  induction hu with
  | atom hu => exact fun _ => same_symm_of_isAtom hu
  | record hu _ ih =>
    intro v h
    obtain ⟨hform, hparts⟩ := (same_iff_of_isRecord hu v).mp h
    exact (same_iff_of_isRecord (isRecord_of_form_eq hu hform) _).mpr
      ⟨hform.symm, forall₂_symm_of_mem ih hparts⟩
  | set hmembers hdistinct ih =>
    intro v h
    obtain ⟨others, hv, hlength, hamong⟩ := (same_iff_of_setMembers? rfl v).mp h
    refine (same_iff_of_setMembers? hv _).mpr ⟨_, rfl, hlength.symm, ?_⟩
    -- Members that are equal to the same value would be equal to each other.
    have hone : List.Pairwise (fun a a' : Value => ∀ b, a.same b = true → ¬ a'.same b = true) _ :=
      hdistinct.imp_of_mem fun ha ha' hne b hab hab' => by
        have := (hmembers _ ha).same_trans b _ hab (ih _ ha' b hab')
        simp [hne] at this
    intro b hb
    obtain ⟨a, ha, hab⟩ := exists_related_of_length_eq hlength hamong hone b hb
    exact ⟨a, ha, ih a ha b hab⟩

/-- A key is not equal to a value that is not equal to it. -/
theorem IsKey.not_same_symm {u v : Value} (hu : u.IsKey) (h : v.same u = false) :
    u.same v = false := by
  refine Bool.eq_false_iff.2 fun hsame => ?_
  rw [hu.same_symm v hsame] at h
  cases h

/-- Keys that are equal to the same value are equal to each other. -/
theorem IsKey.same_of_same {k l key : Value} (hl : l.IsKey) (hk : k.IsKey)
    (h : k.same key = true) (h' : l.same key = true) : k.same l = true :=
  hk.same_trans key l h (hl.same_symm key h')

/-- The distinct values of a list are among its values, and none of them is equal to a later
one. -/
theorem distinct_spec (values : List Value) :
    (∀ v ∈ distinct values, v ∈ values) ∧
      (distinct values).Pairwise fun v w => v.same w = false := by
  unfold distinct
  simp only [List.mem_reverse, List.pairwise_reverse]
  induction values using List.reverseRecOn with
  | nil => simp
  | append_singleton values v ih =>
    obtain ⟨hmem, hdistinct⟩ := ih
    simp only [List.foldl_append, List.foldl_cons, List.foldl_nil]
    split
    · exact ⟨fun w hw => List.mem_append_left _ (hmem w hw), hdistinct⟩
    · next hnone =>
      refine ⟨?_, List.pairwise_cons.2 ⟨?_, hdistinct⟩⟩
      · rintro w (_ | ⟨_, hw⟩)
        · simp
        · exact List.mem_append_left _ (hmem w hw)
      · simpa using hnone

/-- A set of keys that cannot change is a key itself. -/
theorem isKey_of_setOf {values : List Value} {v : Value} (h : Value.setOf true values = .ok v)
    (hvalues : ∀ w ∈ values, w.IsKey) : v.IsKey := by
  unfold setOf at h
  split at h
  · cases h
    obtain ⟨hmem, hdistinct⟩ := distinct_spec values
    have hperm : ((ascending? (distinct values)).getD (distinct values)).Perm
        (distinct values) := by
      cases hsorted : ascending? (distinct values) with
      | none => exact .refl _
      | some sorted => exact perm_of_ascending? hsorted
    have hkeys : ∀ w ∈ distinct values, w.IsKey := fun w hw => hvalues w (hmem w hw)
    -- Sorting may turn two members round, so neither may be equal to the other.
    have hboth : (distinct values).Pairwise fun v w => v.same w = false ∧ w.same v = false :=
      hdistinct.imp_of_mem fun _ hw hne => ⟨hne, (hkeys _ hw).not_same_symm hne⟩
    have hsorted := (hperm.pairwise_iff fun h => h.symm).2 hboth
    exact .set (fun w hw => hkeys w (hperm.subset hw)) (hsorted.imp And.left)
  · cases h

end Value

end BoundSql
