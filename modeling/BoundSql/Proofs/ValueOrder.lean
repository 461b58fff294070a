import BoundSql.Proofs.EqualKeys

/-!
# The order of simple values

Numbers, texts, bytes, the missing value and tuples of these are simple. Two of them need not
be comparable, but where they are compared the order behaves like that of a line: of two
comparable values that are not equal exactly one is less, what is less than a lesser value is
less, and equal values are compared alike. For tuples all this is decided at the first
place where their items differ.
-/

namespace BoundSql

namespace Number

/-- Equal numbers are the same number. -/
theorem eq_of_same {a b : Number} (h : a.same b = true) : a = b := by
  cases a <;> cases b <;> simp_all [same]

/-- A number is equal to itself. -/
theorem same_self {a : Number} (h : a ≠ undefined) : a.same a = true := by
  cases a <;> simp_all [same]

/-- Of two numbers at most one is less. -/
theorem less_asymm {a b : Number} (h : a.less b = true) : b.less a = false := by
  cases a <;> cases b <;> first
    | rfl
    | exact absurd h Bool.false_ne_true
    | exact decide_eq_false (Rat.not_lt.2 (Rat.le_of_lt (of_decide_eq_true h)))

/-- Of two numbers that are not equal one is less. -/
theorem less_connected {a b : Number} (ha : a ≠ undefined) (hb : b ≠ undefined)
    (h : a.less b = false) : a = b ∨ b.less a = true := by
  cases a <;> cases b <;> simp_all [less]
  grind

/-- A number that is less than a lesser one is less. -/
theorem less_trans {a b c : Number} (h : a.less b = true) (h' : b.less c = true) :
    a.less c = true := by
  cases a <;> cases b <;> cases c <;> simp_all [less]
  grind

end Number

namespace Value

/-- A value that is not made of others but in tuples, and that has no part that is no number
although it is of the kind of numbers. -/
inductive IsSimple : Value → Prop where
  /-- The missing value. -/
  | null : IsSimple .null
  /-- A value that stands for a number. -/
  | number {v : Value} {n : Number} (h : v.number? = some n) (hn : n ≠ .undefined) : IsSimple v
  /-- A text. -/
  | text (s : String) : IsSimple (.text s)
  /-- A string of bytes. -/
  | bytes (bs : List UInt8) : IsSimple (.bytes bs)
  /-- A tuple of simple values. -/
  | tuple {items : List Value} (h : ∀ v ∈ items, IsSimple v) : IsSimple (.tuple items)

/-- A simple value may be a key. -/
theorem IsSimple.isKey {v : Value} (h : v.IsSimple) : v.IsKey := by
  induction h with
  | null => exact .atom rfl
  | @number v n h _ =>
    refine .atom ?_
    cases v <;> first | rfl | cases h
  | text s => exact .atom rfl
  | bytes bs => exact .atom rfl
  | tuple _ ih => exact .record rfl ih

/-- A simple value of the kind of numbers is a number. -/
theorem IsSimple.ne_undefined {v : Value} {n : Number} (h : v.IsSimple) (hn : v.number? = some n) :
    n ≠ .undefined := by
  cases h with
  | number hm hdefined =>
    rw [hm] at hn
    cases hn
    exact hdefined
  | _ => cases hn

/-- The items of a simple tuple are simple. -/
theorem IsSimple.items {items : List Value} (h : (Value.tuple items).IsSimple) :
    ∀ v ∈ items, v.IsSimple := by
  cases h with
  | number hn _ => cases hn
  | tuple hitems => exact hitems

/-- A simple value is equal to itself. -/
theorem IsSimple.same_self {v : Value} (h : v.IsSimple) : v.same v = true := by
  induction h with
  | null => simp [same]
  | number hn hdefined => exact (same_iff_of_number? hn _).2 ⟨_, hn, Number.same_self hdefined⟩
  | text s => simp [same]
  | bytes bs => simp [same]
  | tuple _ ih => exact (same_iff_of_isRecord rfl _).2 ⟨rfl, List.forall₂_same.2 ih⟩

/-- Keys that are equal are equal to the same values. -/
theorem IsKey.same_eq {v w : Value} (hv : v.IsKey) (hw : w.IsKey) (h : v.same w = true)
    (x : Value) : v.same x = w.same x := by
  rw [Bool.eq_iff_iff]
  exact ⟨hw.same_trans v x (hv.same_symm w h), hv.same_trans w x h⟩

/-- Keys that are equal have the same values equal to them. -/
theorem IsKey.same_eq_right {v w x : Value} (hv : v.IsKey) (hx : x.IsKey)
    (h : v.same w = true) : x.same v = x.same w := by
  rw [Bool.eq_iff_iff]
  refine ⟨fun hxv => hx.same_trans v w hxv h, fun hxw => ?_⟩
  exact hx.same_trans w v hxw (hv.same_symm w h)

/-- Two values that no simple value tells apart by the order. -/
def ComparedAlike (v w : Value) : Prop :=
  ∀ x : Value, x.IsSimple → v.less? x = w.less? x ∧ x.less? v = x.less? w

/-- How a value stands to all simple values: where it is compared with them, the order behaves
like that of a line. -/
structure IsOrdered (v : Value) : Prop where
  /-- A lesser value has no greater one that is less. -/
  asymm : ∀ w : Value, w.IsSimple → v.less? w = some true → w.less? v = some false
  /-- A comparable value that is not greater is equal or less. -/
  connected : ∀ w : Value, w.IsSimple → v.less? w = some false →
    v.same w = true ∨ w.less? v = some true
  /-- A value that is less than a lesser one is less. -/
  trans : ∀ w x : Value, w.IsSimple → x.IsSimple → v.less? w = some true →
    w.less? x = some true → v.less? x = some true

/-- A value that stands for a number is compared with the numbers alone. -/
theorem less?_of_number? {v : Value} {n : Number} (h : v.number? = some n) (w : Value) :
    v.less? w = w.number?.map n.less := by
  cases v <;> cases h <;> simp [less?, less?.numberLess?]

/-- Only numbers are compared with a value that stands for a number. -/
theorem less?_number? {v : Value} {n : Number} (h : v.number? = some n) (x : Value) :
    x.less? v = x.number?.map fun m => m.less n := by
  cases v <;> cases h <;> cases x <;>
    simp [less?, less?.numberLess?, less?.membersLess?, number?, setMembers?]

/-- A number stands to all simple values in order. -/
theorem isOrdered_of_number? {v : Value} {n : Number} (h : v.number? = some n)
    (hn : n ≠ .undefined) : v.IsOrdered where
  asymm w _ hless := by
    rw [less?_of_number? h] at hless
    obtain ⟨m, hm, hnm⟩ := Option.map_eq_some_iff.1 hless
    rw [less?_number? h, hm, Option.map_some, Number.less_asymm hnm]
  connected w hw hless := by
    rw [less?_of_number? h] at hless
    obtain ⟨m, hm, hnm⟩ := Option.map_eq_some_iff.1 hless
    rcases Number.less_connected hn (hw.ne_undefined hm) hnm with rfl | hmn
    · exact .inl ((same_iff_of_number? h w).2 ⟨n, hm, Number.same_self hn⟩)
    · rw [less?_number? h, hm, Option.map_some, hmn]
      exact .inr rfl
  trans w x _ _ hless hless' := by
    rw [less?_of_number? h] at hless
    obtain ⟨m, hm, hnm⟩ := Option.map_eq_some_iff.1 hless
    rw [less?_of_number? hm] at hless'
    obtain ⟨k, hk, hmk⟩ := Option.map_eq_some_iff.1 hless'
    rw [less?_of_number? h, hk, Option.map_some, Number.less_trans hnm hmk]

/-- The values of a kind that is compared with itself alone, by an order like that of a line,
stand to all simple values in order. -/
theorem isOrdered_of_kind {α : Type} (kind : α → Value) (less : α → α → Bool)
    (hless : ∀ a w r, (kind a).less? w = some r ↔ ∃ b, w = kind b ∧ less a b = r)
    (hsame : ∀ a w, (kind a).same w = true ↔ w = kind a)
    (hasymm : ∀ a b, less a b = true → less b a = false)
    (hconnected : ∀ a b, less a b = false → b = a ∨ less b a = true)
    (htrans : ∀ a b c, less a b = true → less b c = true → less a c = true) (a : α) :
    (kind a).IsOrdered where
  asymm w _ h := by
    obtain ⟨b, rfl, hab⟩ := (hless a w true).1 h
    exact (hless b _ false).2 ⟨a, rfl, hasymm a b hab⟩
  connected w _ h := by
    obtain ⟨b, rfl, hab⟩ := (hless a w false).1 h
    rcases hconnected a b hab with rfl | hba
    · exact .inl ((hsame b _).2 rfl)
    · exact .inr ((hless b _ true).2 ⟨a, rfl, hba⟩)
  trans w x _ _ h h' := by
    obtain ⟨b, rfl, hab⟩ := (hless a w true).1 h
    obtain ⟨c, rfl, hbc⟩ := (hless b x true).1 h'
    exact (hless a _ true).2 ⟨c, rfl, htrans a b c hab hbc⟩

/-- A text stands to all simple values in order. -/
theorem isOrdered_text (s : String) : (Value.text s).IsOrdered := by
  refine isOrdered_of_kind .text (fun s t => decide (s < t)) ?_ ?_ ?_ ?_ ?_ s
  · intro s w r
    cases w <;> simp [less?]
  · intro s w
    cases w <;> simp only [same, beq_iff_eq, reduceCtorEq, Bool.false_eq_true, text.injEq]
    exact eq_comm
  · intro s t h
    exact decide_eq_false (String.lt_asymm (of_decide_eq_true h))
  · intro s t h
    by_cases hts : t < s
    · exact .inr (decide_eq_true hts)
    · exact .inl (String.le_antisymm (String.not_lt.1 (of_decide_eq_false h)) (String.not_lt.1 hts))
  · intro s t u h h'
    exact decide_eq_true (String.lt_trans (of_decide_eq_true h) (of_decide_eq_true h'))

/-- A string of bytes stands to all simple values in order. -/
theorem isOrdered_bytes (bs : List UInt8) : (Value.bytes bs).IsOrdered := by
  refine isOrdered_of_kind .bytes (fun bs cs => decide (bs < cs)) ?_ ?_ ?_ ?_ ?_ bs
  · intro bs w r
    cases w <;> simp [less?]
  · intro bs w
    cases w <;> simp only [same, beq_iff_eq, reduceCtorEq, Bool.false_eq_true, bytes.injEq]
    exact eq_comm
  · intro bs cs h
    exact decide_eq_false (List.lt_asymm (of_decide_eq_true h))
  · intro bs cs h
    by_cases hcs : cs < bs
    · exact .inr (decide_eq_true hcs)
    · exact .inl (List.le_antisymm (List.not_lt.1 (of_decide_eq_false h)) (List.not_lt.1 hcs))
  · intro bs cs ds h h'
    exact decide_eq_true (List.lt_trans (of_decide_eq_true h) (of_decide_eq_true h'))

/-- A tuple is compared with the tuples alone. -/
theorem less?_tuple_eq_some_iff {items : List Value} {w : Value} {r : Bool} :
    (tuple items).less? w = some r ↔
      ∃ others, w = .tuple others ∧ itemsLess? items others = some r := by
  cases w <;> simp [less?]

/-- A tuple is equal to the tuples of equal items. -/
theorem same_tuple_iff {items : List Value} {w : Value} :
    (tuple items).same w = true ↔ ∃ others, w = .tuple others ∧
      List.Forall₂ (fun v w => v.same w = true) items others := by
  cases w <;> simp [same, sameItems_iff]

end Value

section Items

variable {items others more : List Value}

/-- Where the first items are equal, the others decide. -/
theorem itemsLess?_cons_of_same {v w : Value} (h : v.same w = true) (rest others : List Value) :
    itemsLess? (v :: rest) (w :: others) = itemsLess? rest others := by
  rw [itemsLess?, if_pos h]

/-- Where the first items are not equal, they decide. -/
theorem itemsLess?_cons_of_not_same {v w : Value} (h : v.same w = false)
    (rest others : List Value) : itemsLess? (v :: rest) (w :: others) = v.less? w := by
  rw [itemsLess?, if_neg (by simp [h])]

/-- Lists with equal items are compared alike, on either side. -/
theorem itemsLess?_congr
    (halike : ∀ v ∈ items, ∀ w : Value, w.IsSimple → v.same w = true → v.ComparedAlike w)
    (hitems : ∀ v ∈ items, v.IsSimple) (hothers : ∀ v ∈ others, v.IsSimple)
    (hmore : ∀ v ∈ more, v.IsSimple)
    (h : List.Forall₂ (fun v w => v.same w = true) items others) :
    itemsLess? items more = itemsLess? others more ∧
      itemsLess? more items = itemsLess? more others := by
  induction h generalizing more with
  | nil => exact ⟨rfl, rfl⟩
  | @cons v w rest others hvw _ ih =>
    obtain ⟨hfirst, halike⟩ := List.forall_mem_cons.1 halike
    obtain ⟨hv, hitems⟩ := List.forall_mem_cons.1 hitems
    obtain ⟨hw, hothers⟩ := List.forall_mem_cons.1 hothers
    cases more with
    | nil => simp [itemsLess?]
    | cons x more =>
      obtain ⟨hx, hmore⟩ := List.forall_mem_cons.1 hmore
      obtain ⟨hleft, hright⟩ := hfirst w hw hvw x hx
      obtain ⟨ihleft, ihright⟩ := ih halike hitems hothers hmore
      have hsame := hv.isKey.same_eq hw.isKey hvw x
      have hsame' := hv.isKey.same_eq_right hx.isKey hvw
      simp only [itemsLess?, hsame, hsame', hleft, hright, ihleft, ihright, and_self]

/-- Simple values that are equal are compared alike. -/
theorem Value.IsSimple.comparedAlike {v w : Value} (hv : v.IsSimple) (hw : w.IsSimple)
    (h : v.same w = true) : v.ComparedAlike w := by
  intro x hx
  induction hv generalizing w x with
  | null =>
    cases w <;> simp only [same, Bool.false_eq_true] at h
    exact ⟨rfl, rfl⟩
  | number hn _ =>
    obtain ⟨m, hm, hnm⟩ := (same_iff_of_number? hn w).1 h
    obtain rfl := Number.eq_of_same hnm
    rw [less?_of_number? hn, less?_of_number? hm, less?_number? hn, less?_number? hm]
    exact ⟨rfl, rfl⟩
  | text s =>
    cases w <;> simp only [same, beq_iff_eq, Bool.false_eq_true] at h
    exact h ▸ ⟨rfl, rfl⟩
  | bytes bs =>
    cases w <;> simp only [same, beq_iff_eq, Bool.false_eq_true] at h
    exact h ▸ ⟨rfl, rfl⟩
  | @tuple items hitems ih =>
    obtain ⟨others, rfl, hothers⟩ := same_tuple_iff.1 h
    cases hx with
    | tuple hmore =>
      simp only [less?]
      exact itemsLess?_congr (fun v hv w hw hvw x hx => ih v hv hw hvw x hx) hitems hw.items hmore
        hothers
    | number hk _ =>
      rw [less?_of_number? hk, less?_of_number? hk, less?_number? hk, less?_number? hk]
      exact ⟨rfl, rfl⟩
    | _ => exact ⟨by simp [less?], by simp [less?]⟩

/-- Of two lists at most one is less. -/
theorem itemsLess?_asymm (horder : ∀ v ∈ items, v.IsOrdered) (hitems : ∀ v ∈ items, v.IsSimple)
    (hothers : ∀ v ∈ others, v.IsSimple) (h : itemsLess? items others = some true) :
    itemsLess? others items = some false := by
  induction items generalizing others with
  | nil => cases others <;> simp_all [itemsLess?]
  | cons v rest ih =>
    obtain ⟨hordered, horder⟩ := List.forall_mem_cons.1 horder
    obtain ⟨hv, hitems⟩ := List.forall_mem_cons.1 hitems
    cases others with
    | nil => simp [itemsLess?] at h
    | cons w others =>
      obtain ⟨hw, hothers⟩ := List.forall_mem_cons.1 hothers
      cases hvw : v.same w with
      | true =>
        rw [itemsLess?_cons_of_same hvw] at h
        rw [itemsLess?_cons_of_same (hv.isKey.same_symm w hvw)]
        exact ih horder hitems hothers h
      | false =>
        rw [itemsLess?_cons_of_not_same hvw] at h
        rw [itemsLess?_cons_of_not_same (hw.isKey.not_same_symm hvw)]
        exact hordered.asymm w hw h

/-- Of two comparable lists whose items are not equal one is less. -/
theorem itemsLess?_connected (horder : ∀ v ∈ items, v.IsOrdered)
    (hitems : ∀ v ∈ items, v.IsSimple) (hothers : ∀ v ∈ others, v.IsSimple)
    (h : itemsLess? items others = some false) :
    List.Forall₂ (fun v w => v.same w = true) items others ∨
      itemsLess? others items = some true := by
  induction items generalizing others with
  | nil =>
    cases others with
    | nil => exact .inl .nil
    | cons w others => simp [itemsLess?] at h
  | cons v rest ih =>
    obtain ⟨hordered, horder⟩ := List.forall_mem_cons.1 horder
    obtain ⟨hv, hitems⟩ := List.forall_mem_cons.1 hitems
    cases others with
    | nil => exact .inr (by rw [itemsLess?])
    | cons w others =>
      obtain ⟨hw, hothers⟩ := List.forall_mem_cons.1 hothers
      cases hvw : v.same w with
      | true =>
        rw [itemsLess?_cons_of_same hvw] at h
        rw [itemsLess?_cons_of_same (hv.isKey.same_symm w hvw)]
        exact (ih horder hitems hothers h).imp (List.Forall₂.cons hvw) id
      | false =>
        rw [itemsLess?_cons_of_not_same hvw] at h
        rw [itemsLess?_cons_of_not_same (hw.isKey.not_same_symm hvw)]
        refine .inr ((hordered.connected w hw h).resolve_left ?_)
        rw [hvw]
        exact Bool.false_ne_true

/-- A list that is less than a lesser one is less. The first place where the two outer lists
differ is the lesser of the places where they differ from the one between. -/
theorem itemsLess?_trans (horder : ∀ v ∈ items, v.IsOrdered) (hitems : ∀ v ∈ items, v.IsSimple)
    (hothers : ∀ v ∈ others, v.IsSimple) (hmore : ∀ v ∈ more, v.IsSimple)
    (h : itemsLess? items others = some true) (h' : itemsLess? others more = some true) :
    itemsLess? items more = some true := by
  induction items generalizing others more with
  | nil =>
    cases more with
    | nil => cases others <;> simp [itemsLess?] at h h'
    | cons x more => rw [itemsLess?]
  | cons v rest ih =>
    obtain ⟨hordered, horder⟩ := List.forall_mem_cons.1 horder
    obtain ⟨hv, hitems⟩ := List.forall_mem_cons.1 hitems
    cases others with
    | nil => simp [itemsLess?] at h
    | cons w others =>
      cases more with
      | nil => simp [itemsLess?] at h'
      | cons x more =>
        obtain ⟨hw, hothers⟩ := List.forall_mem_cons.1 hothers
        obtain ⟨hx, hmore⟩ := List.forall_mem_cons.1 hmore
        cases hvw : v.same w with
        | true =>
          have hsame := hv.isKey.same_eq hw.isKey hvw x
          rw [itemsLess?_cons_of_same hvw] at h
          cases hwx : w.same x with
          | true =>
            rw [itemsLess?_cons_of_same hwx] at h'
            rw [itemsLess?_cons_of_same (hsame.trans hwx)]
            exact ih horder hitems hothers hmore h h'
          | false =>
            rw [itemsLess?_cons_of_not_same hwx] at h'
            rw [itemsLess?_cons_of_not_same (hsame.trans hwx)]
            exact (hv.comparedAlike hw hvw x hx).1.trans h'
        | false =>
          rw [itemsLess?_cons_of_not_same hvw] at h
          cases hwx : w.same x with
          | true =>
            have hsame := hw.isKey.same_eq_right hv.isKey hwx
            rw [itemsLess?_cons_of_not_same (hsame.symm.trans hvw)]
            exact (hw.comparedAlike hx hwx v hv).2.symm.trans h
          | false =>
            rw [itemsLess?_cons_of_not_same hwx] at h'
            -- If the outer items were equal, the one between would be greater and less than both.
            have hvx : v.same x = false := by
              rw [Bool.eq_false_iff]
              intro hvx
              have hgreater := hordered.asymm w hw h
              rw [(hv.comparedAlike hx hvx w hw).2, h'] at hgreater
              cases hgreater
            rw [itemsLess?_cons_of_not_same hvx]
            exact hordered.trans w x hw hx h h'

end Items

namespace Value

/-- A simple value stands to all simple values in order. -/
theorem IsSimple.isOrdered {v : Value} (h : v.IsSimple) : v.IsOrdered := by
  induction h with
  | null =>
    have hnone (w : Value) : Value.null.less? w = none := by simp [less?]
    exact ⟨by simp [hnone], by simp [hnone], by simp [hnone]⟩
  | number hn hdefined => exact isOrdered_of_number? hn hdefined
  | text s => exact isOrdered_text s
  | bytes bs => exact isOrdered_bytes bs
  | @tuple items hitems ih =>
    refine ⟨fun w hw h => ?_, fun w hw h => ?_, fun w x hw hx h h' => ?_⟩
    · obtain ⟨others, rfl, hothers⟩ := less?_tuple_eq_some_iff.1 h
      exact less?_tuple_eq_some_iff.2 ⟨items, rfl, itemsLess?_asymm ih hitems hw.items hothers⟩
    · obtain ⟨others, rfl, hothers⟩ := less?_tuple_eq_some_iff.1 h
      refine (itemsLess?_connected ih hitems hw.items hothers).imp (fun hsame => ?_) (fun h => ?_)
      · exact same_tuple_iff.2 ⟨others, rfl, hsame⟩
      · exact less?_tuple_eq_some_iff.2 ⟨items, rfl, h⟩
    · obtain ⟨others, rfl, hothers⟩ := less?_tuple_eq_some_iff.1 h
      obtain ⟨more, rfl, hmore⟩ := less?_tuple_eq_some_iff.1 h'
      exact less?_tuple_eq_some_iff.2
        ⟨more, rfl, itemsLess?_trans ih hitems hw.items hx.items hothers hmore⟩

end Value

end BoundSql
