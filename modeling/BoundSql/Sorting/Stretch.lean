/-!
# Where a stretch of a list ends

A list is searched for the place where the items that pass a test give way to
those that fail it. The search halves an interval, or strides away from the
front with steps that double and halves only the last of them, so that a short
stretch is found soon. What it finds is a place behind an item that passes and
in front of one that fails, whatever the test says elsewhere. A test may have no
outcome, and then the search has none.
-/

namespace BoundSql.Sorting

/-- The direction in which a list is read. One that is read backward is given with
its last item in front. -/
inductive Direction where
  /-- From the first item on. -/
  | forward
  /-- From the last item back. -/
  | backward
deriving DecidableEq

/-- The middle of an interval. Of two middle places the backward reader takes the one
that it reaches first. -/
def Direction.middle (d : Direction) (lo hi : Nat) : Nat :=
  match d with
  | .forward => lo + (hi - lo) / 2
  | .backward => lo + (hi - lo - 1) / 2

/-- The middle is not in front of an interval. -/
theorem Direction.le_middle (d : Direction) (lo hi : Nat) : lo ≤ d.middle lo hi := by
  cases d <;> exact Nat.le_add_right _ _

/-- The middle is in front of the end of an interval. -/
theorem Direction.middle_lt (d : Direction) {lo hi : Nat} (h : lo < hi) :
    d.middle lo hi < hi := by
  cases d <;> simp only [middle] <;> omega

/-- The place in an interval where a test on places first fails, by halving. -/
def halve? (d : Direction) (passes? : Nat → Option Bool) (lo hi : Nat) : Option Nat :=
  if h : lo < hi then
    (passes? (d.middle lo hi)).bind fun passes =>
      if passes then halve? d passes? (d.middle lo hi + 1) hi
      else halve? d passes? lo (d.middle lo hi)
  else some lo
termination_by hi - lo
decreasing_by
  · have := d.le_middle lo hi
    omega
  · have := d.middle_lt h
    omega

/-- The interval in which strides that double, the next of them to `hi`, find the first
of `count` places to fail a test. -/
def stride? (passes? : Nat → Option Bool) (count lo hi : Nat) : Option (Nat × Nat) :=
  if hi < count then
    (passes? hi).bind fun passes =>
      if passes then stride? passes? count (hi + 1) (2 * hi + 1) else some (lo, hi)
  else some (lo, count)
termination_by count - hi

/-- Whether the item at a place passes a test. -/
def passesAt? {α : Type} (test : α → Option Bool) (items : List α) (i : Nat) : Option Bool :=
  items[i]?.bind test

/-- How many items in front pass a test, by halving. -/
def halved? {α : Type} (test : α → Option Bool) (items : List α) : Option Nat :=
  halve? .forward (passesAt? test items) 0 items.length

/-- How many items in front pass a test, by strides that double. -/
def stretch? {α : Type} (d : Direction) (test : α → Option Bool) (items : List α) :
    Option Nat :=
  if items.isEmpty then some 0
  else
    (passesAt? test items 0).bind fun passes =>
      if passes then
        (stride? (passesAt? test items) items.length 1 1).bind fun bounds =>
          halve? d (passesAt? test items) bounds.1 bounds.2
      else some 0

/-- A place is the end of a stretch when the one in front of it passes the test and the
place itself fails it, unless there is none. -/
def EndsAt (passes? : Nat → Option Bool) (count k : Nat) : Prop :=
  k ≤ count ∧ (k = 0 ∨ passes? (k - 1) = some true) ∧ (k = count ∨ passes? k = some false)

/-- Halving finds the end of a stretch when what is in front of the interval passes and
what is behind it fails. -/
theorem endsAt_of_halve? {d : Direction} {passes? : Nat → Option Bool} {count lo hi k : Nat}
    (hlo : lo = 0 ∨ passes? (lo - 1) = some true)
    (hhi : hi = count ∨ passes? hi = some false) (hle : lo ≤ hi) (hcount : hi ≤ count)
    (h : halve? d passes? lo hi = some k) : EndsAt passes? count k := by
  fun_induction halve? d passes? lo hi with
  | case1 lo hi hlt ih₁ ih₂ =>
    have hlow := d.le_middle lo hi
    have hmid := d.middle_lt hlt
    obtain ⟨passes, hpasses, hrest⟩ := Option.bind_eq_some_iff.1 h
    cases passes with
    | true => exact ih₁ (.inr hpasses) hhi hmid hcount (by simpa using hrest)
    | false => exact ih₂ hlo (.inr hpasses) hlow (by omega) (by simpa using hrest)
  | case2 lo hi hlt =>
    obtain rfl : lo = k := by simpa using h
    obtain rfl : lo = hi := by omega
    exact ⟨hcount, hlo, hhi⟩

/-- Strides end in an interval with what passes in front and what fails behind. -/
theorem bounds_of_stride? {passes? : Nat → Option Bool} {count lo hi : Nat}
    {bounds : Nat × Nat} (hlo : passes? (lo - 1) = some true) (hle : lo ≤ hi)
    (hcount : lo ≤ count) (h : stride? passes? count lo hi = some bounds) :
    passes? (bounds.1 - 1) = some true ∧
      (bounds.2 = count ∨ passes? bounds.2 = some false) ∧
      bounds.1 ≤ bounds.2 ∧ bounds.2 ≤ count := by
  fun_induction stride? passes? count lo hi with
  | case1 lo hi hlt ih =>
    obtain ⟨passes, hpasses, hrest⟩ := Option.bind_eq_some_iff.1 h
    cases passes with
    | true => exact ih (by simpa using hpasses) (by omega) hlt (by simpa using hrest)
    | false =>
      obtain rfl : (lo, hi) = bounds := by simpa using hrest
      exact ⟨hlo, .inr hpasses, hle, Nat.le_of_lt hlt⟩
  | case2 lo hi hlt =>
    obtain rfl : (lo, count) = bounds := by simpa using h
    exact ⟨hlo, .inl rfl, hcount, Nat.le_refl _⟩

/-- Halving a whole list finds the end of a stretch. -/
theorem endsAt_of_halved? {α : Type} {test : α → Option Bool} {items : List α} {k : Nat}
    (h : halved? test items = some k) : EndsAt (passesAt? test items) items.length k :=
  endsAt_of_halve? (.inl rfl) (.inl rfl) (Nat.zero_le _) (Nat.le_refl _) h

/-- Strides find the end of a stretch. -/
theorem endsAt_of_stretch? {α : Type} {d : Direction} {test : α → Option Bool}
    {items : List α} {k : Nat} (h : stretch? d test items = some k) :
    EndsAt (passesAt? test items) items.length k := by
  cases items with
  | nil =>
    obtain rfl : 0 = k := by simpa [stretch?] using h
    exact ⟨Nat.le_refl _, .inl rfl, .inl rfl⟩
  | cons x rest =>
    simp only [stretch?, List.isEmpty_cons, Bool.false_eq_true, if_false] at h
    obtain ⟨passes, hpasses, hrest⟩ := Option.bind_eq_some_iff.1 h
    cases passes with
    | false =>
      obtain rfl : 0 = k := by simpa using hrest
      exact ⟨Nat.zero_le _, .inl rfl, .inr hpasses⟩
    | true =>
      rw [if_pos rfl] at hrest
      obtain ⟨bounds, hbounds, hk⟩ := Option.bind_eq_some_iff.1 hrest
      obtain ⟨hlo, hhi, hle, hcount⟩ :=
        bounds_of_stride? (by simpa using hpasses) (Nat.le_refl _) (by simp) hbounds
      exact endsAt_of_halve? (.inr hlo) hhi hle hcount hk

end BoundSql.Sorting
