import BoundSql.Sorting.Stretch

/-!
# Merging two runs

Two ascending runs become one. The shorter is held, the other is free, and it is
known that the last item of the held run goes behind all others, so that nothing
has to be compared any more when that item alone is left. Items are taken one at
a time until several in a row have come from one run; from then on whole
stretches are taken, for as long as they are long. How many wins in a row it takes
is a threshold that goes down while stretches are long and up when they end, and
that is handed on from one merge to the next. When the second run is the shorter
one, both are read backward.
-/

namespace BoundSql.Sorting

/-- How items are taken from two runs. -/
inductive Pace where
  /-- One at a time, with the number of those in a row that came from the held and
  from the free run. -/
  | single (fromHeld fromFree : Nat)
  /-- A whole stretch at a time. -/
  | stretches

/-- Two runs on the way to one. -/
structure Merging (α : Type) where
  /-- What has been taken, the last item in front. -/
  taken : List α
  /-- What is left of the run whose last item goes behind all others. -/
  held : List α
  /-- What is left of the other run. -/
  free : List α
  /-- How items are taken. -/
  pace : Pace
  /-- How many items in a row from one run change the pace to whole stretches. -/
  threshold : Nat

namespace Merging

variable {α : Type}

/-- The items of both runs, those taken in front. -/
def items (m : Merging α) : List α :=
  m.taken ++ m.held ++ m.free

/-- How many items have not been taken. -/
def remaining (m : Merging α) : Nat :=
  m.held.length + m.free.length

/-- Whether the place of every item is known. -/
def finished (m : Merging α) : Bool :=
  match m.held, m.free with
  | _ :: _ :: _, _ :: _ => false
  | _, _ => true

/-- The one run, once the place of every item is known. -/
def result (m : Merging α) : List α :=
  m.taken.reverse ++ m.free ++ m.held

/-- Whether an item of the free run is taken before one of the held run. Of equal
items the one of the first run comes first, so that it is the held one that is taken. -/
def overtakes? (less : α → α → Option Bool) (d : Direction) (held free : α) : Option Bool :=
  match d with
  | .forward => less free held
  | .backward => less held free

/-- Both runs after one comparison of their next items. -/
def takeOne? (less : α → α → Option Bool) (d : Direction) (fromHeld fromFree : Nat)
    (m : Merging α) : Option (Merging α) :=
  match m.held, m.free with
  | x :: held, y :: free =>
    (overtakes? less d x y).map fun overtakes =>
      if overtakes then
        { m with
          taken := y :: m.taken
          free
          pace := if m.threshold ≤ fromFree + 1 then .stretches else .single 0 (fromFree + 1) }
      else
        { m with
          taken := x :: m.taken
          held
          pace := if m.threshold ≤ fromHeld + 1 then .stretches else .single (fromHeld + 1) 0 }
  | _, _ => some m

/-- The runs after some items of the held run, and one of the free run unless all places
are known by then. -/
def takeHeld (k : Nat) (m : Merging α) : Merging α :=
  let after := { m with taken := (m.held.take k).reverse ++ m.taken, held := m.held.drop k }
  if after.finished then after
  else { after with taken := after.free.take 1 ++ after.taken, free := after.free.drop 1 }

/-- The runs after some items of the free run, and one of the held run unless all places
are known by then. -/
def takeFree (k : Nat) (m : Merging α) : Merging α :=
  let after := { m with taken := (m.free.take k).reverse ++ m.taken, free := m.free.drop k }
  if after.finished then after
  else { after with taken := after.held.take 1 ++ after.taken, held := after.held.drop 1 }

/-- The runs after the stretch of the held run that the next free item does not overtake,
and the length of the stretch. -/
def heldStretch? (less : α → α → Option Bool) (d : Direction) (m : Merging α) :
    Option (Merging α × Nat) :=
  match m.finished, m.free with
  | false, y :: _ =>
    (stretch? d (fun x => (overtakes? less d x y).map not) m.held).map fun k =>
      (m.takeHeld k, k)
  | _, _ => some (m, 0)

/-- The runs after the stretch of the free run that overtakes the next held item, and the
length of the stretch. -/
def freeStretch? (less : α → α → Option Bool) (d : Direction) (m : Merging α) :
    Option (Merging α × Nat) :=
  match m.finished, m.held with
  | false, x :: _ =>
    (stretch? d (overtakes? less d x) m.free).map fun k => (m.takeFree k, k)
  | _, _ => some (m, 0)

/-- The length from which on a stretch is long. -/
def longStretch : Nat := 7

/-- The runs with the pace that goes with the lengths of the last two stretches. -/
def paced (k l : Nat) (m : Merging α) : Merging α :=
  if m.finished then m
  else if longStretch ≤ k ∨ longStretch ≤ l then
    { m with threshold := max 1 (m.threshold - 1) }
  else { m with pace := .single 0 0, threshold := m.threshold + 1 }

/-- The runs after one stretch of each, first of the run that comes first. -/
def takeStretches? (less : α → α → Option Bool) (d : Direction) (m : Merging α) :
    Option (Merging α) :=
  match d with
  | .forward =>
    (m.heldStretch? less d).bind fun first =>
      (first.1.freeStretch? less d).map fun second => second.1.paced first.2 second.2
  | .backward =>
    (m.freeStretch? less d).bind fun first =>
      (first.1.heldStretch? less d).map fun second => second.1.paced first.2 second.2

/-- The runs after one step at their pace. -/
def step? (less : α → α → Option Bool) (d : Direction) (m : Merging α) :
    Option (Merging α) :=
  match m.pace with
  | .single fromHeld fromFree => m.takeOne? less d fromHeld fromFree
  | .stretches => m.takeStretches? less d

/-- An item stands as often in a list as in its two parts. -/
theorem count_take_add_count_drop [BEq α] (x : α) (k : Nat) (xs : List α) :
    (xs.take k).count x + (xs.drop k).count x = xs.count x := by
  rw [← List.count_append, List.take_append_drop]

/-- Taking from the held run keeps all items. -/
theorem perm_takeHeld (k : Nat) (m : Merging α) : (m.takeHeld k).items.Perm m.items := by
  classical
  refine List.perm_iff_count.2 fun x => ?_
  have hheld := count_take_add_count_drop x k m.held
  have hfree := count_take_add_count_drop x 1 m.free
  simp only [takeHeld]
  split <;> simp only [items, List.count_append, List.count_reverse] <;> omega

/-- Taking from the free run keeps all items. -/
theorem perm_takeFree (k : Nat) (m : Merging α) : (m.takeFree k).items.Perm m.items := by
  classical
  refine List.perm_iff_count.2 fun x => ?_
  have hheld := count_take_add_count_drop x 1 m.held
  have hfree := count_take_add_count_drop x k m.free
  simp only [takeFree]
  split <;> simp only [items, List.count_append, List.count_reverse] <;> omega

/-- Runs of which the place of some item is not known have two items and one. -/
theorem lengths_of_not_finished {m : Merging α} (h : m.finished = false) :
    2 ≤ m.held.length ∧ 1 ≤ m.free.length := by
  simp only [finished] at h
  split at h
  · rename_i hheld hfree
    simp [hheld, hfree]
  · contradiction

/-- Taking from the held run takes something. -/
theorem remaining_takeHeld_lt (k : Nat) {m : Merging α} (h : m.finished = false) :
    (m.takeHeld k).remaining < m.remaining := by
  obtain ⟨hheld, hfree⟩ := lengths_of_not_finished h
  cases k with
  | zero => simp only [takeHeld, List.take_zero, List.reverse_nil, List.nil_append,
      List.drop_zero, h, Bool.false_eq_true, if_false, remaining, List.length_drop]; omega
  | succ k =>
    simp only [takeHeld]
    split <;> simp only [remaining, List.length_drop] <;> omega

/-- Taking from the free run takes something. -/
theorem remaining_takeFree_lt (k : Nat) {m : Merging α} (h : m.finished = false) :
    (m.takeFree k).remaining < m.remaining := by
  obtain ⟨hheld, hfree⟩ := lengths_of_not_finished h
  cases k with
  | zero => simp only [takeFree, List.take_zero, List.reverse_nil, List.nil_append,
      List.drop_zero, h, Bool.false_eq_true, if_false, remaining, List.length_drop]; omega
  | succ k =>
    simp only [takeFree]
    split <;> simp only [remaining, List.length_drop] <;> omega

/-- What a step does to the items: it keeps all of them and leaves fewer to be taken,
unless none has to be. -/
def Advances (m next : Merging α) : Prop :=
  next.items.Perm m.items ∧ next.remaining ≤ m.remaining ∧
    (m.finished = false → next.remaining < m.remaining)

/-- Two parts of a step make a step, if the second leaves nothing more to be taken. -/
theorem Advances.trans {m next last : Merging α} (h : Advances m next)
    (h' : Advances next last) : Advances m last :=
  ⟨h'.1.trans h.1, Nat.le_trans h'.2.1 h.2.1,
    fun hm => Nat.lt_of_le_of_lt h'.2.1 (h.2.2 hm)⟩

/-- A stretch of the held run is a step. -/
theorem advances_of_heldStretch? {less : α → α → Option Bool} {d : Direction}
    {m : Merging α} {r : Merging α × Nat} (h : m.heldStretch? less d = some r) :
    Advances m r.1 := by
  simp only [heldStretch?] at h
  split at h
  · rename_i hm _
    obtain ⟨k, -, rfl⟩ := Option.map_eq_some_iff.1 h
    have hlt := remaining_takeHeld_lt k hm
    exact ⟨perm_takeHeld k m, Nat.le_of_lt hlt, fun _ => hlt⟩
  · rename_i hm
    obtain rfl : (m, 0) = r := by simpa using h
    refine ⟨List.Perm.refl _, Nat.le_refl _, fun hf => ?_⟩
    have hfree := (lengths_of_not_finished hf).2
    cases hy : m.free with
    | nil => simp [hy] at hfree
    | cons y rest => exact (hm y rest hf hy).elim

/-- A stretch of the free run is a step. -/
theorem advances_of_freeStretch? {less : α → α → Option Bool} {d : Direction}
    {m : Merging α} {r : Merging α × Nat} (h : m.freeStretch? less d = some r) :
    Advances m r.1 := by
  simp only [freeStretch?] at h
  split at h
  · rename_i hm _
    obtain ⟨k, -, rfl⟩ := Option.map_eq_some_iff.1 h
    have hlt := remaining_takeFree_lt k hm
    exact ⟨perm_takeFree k m, Nat.le_of_lt hlt, fun _ => hlt⟩
  · rename_i hm
    obtain rfl : (m, 0) = r := by simpa using h
    refine ⟨List.Perm.refl _, Nat.le_refl _, fun hf => ?_⟩
    have hheld := (lengths_of_not_finished hf).1
    cases hx : m.held with
    | nil => simp [hx] at hheld
    | cons x rest => exact (hm x rest hf hx).elim

/-- The pace changes no item. -/
theorem advances_paced (k l : Nat) {m next : Merging α} (h : Advances m next) :
    Advances m (next.paced k l) := by
  simp only [paced]
  split
  · exact h
  · split <;> exact h

/-- A comparison is a step. -/
theorem advances_of_takeOne? {less : α → α → Option Bool} {d : Direction}
    {fromHeld fromFree : Nat} {m next : Merging α}
    (h : m.takeOne? less d fromHeld fromFree = some next) : Advances m next := by
  simp only [takeOne?] at h
  split at h
  · rename_i x held y free hheld hfree
    obtain ⟨overtakes, -, rfl⟩ := Option.map_eq_some_iff.1 h
    refine ⟨?_, ?_⟩
    · classical
      refine List.perm_iff_count.2 fun z => ?_
      split <;> simp only [items, hheld, hfree, List.count_append, List.count_cons] <;> omega
    · split <;> simp only [remaining, hheld, hfree, List.length_cons] <;> omega
  · rename_i hm
    obtain rfl : m = next := by simpa using h
    refine ⟨List.Perm.refl _, Nat.le_refl _, fun hf => ?_⟩
    obtain ⟨hheld, hfree⟩ := lengths_of_not_finished hf
    cases hx : m.held with
    | nil => simp [hx] at hheld
    | cons x held =>
      cases hy : m.free with
      | nil => simp [hy] at hfree
      | cons y free => exact (hm x held y free hx hy).elim

/-- Every step at any pace advances. -/
theorem advances_of_step? {less : α → α → Option Bool} {d : Direction} {m next : Merging α}
    (h : m.step? less d = some next) : Advances m next := by
  simp only [step?] at h
  split at h
  · exact advances_of_takeOne? h
  · cases d with
    | forward =>
      obtain ⟨first, hfirst, hrest⟩ := Option.bind_eq_some_iff.1 h
      obtain ⟨second, hsecond, rfl⟩ := Option.map_eq_some_iff.1 hrest
      exact advances_paced _ _
        ((advances_of_heldStretch? hfirst).trans (advances_of_freeStretch? hsecond))
    | backward =>
      obtain ⟨first, hfirst, hrest⟩ := Option.bind_eq_some_iff.1 h
      obtain ⟨second, hsecond, rfl⟩ := Option.map_eq_some_iff.1 hrest
      exact advances_paced _ _
        ((advances_of_freeStretch? hfirst).trans (advances_of_heldStretch? hsecond))

/-- The runs after as many steps as it takes to know the place of every item. -/
def run? (less : α → α → Option Bool) (d : Direction) (m : Merging α) : Option (Merging α) :=
  if _hm : m.finished then some m
  else (m.step? less d).attach.bind fun next => next.1.run? less d
termination_by m.remaining
decreasing_by exact (advances_of_step? next.2).2.2 (by simpa using _hm)

/-- A merge ends with the place of every item known, and keeps all items. -/
theorem finished_and_perm_of_run? {less : α → α → Option Bool} {d : Direction}
    {m last : Merging α} (h : m.run? less d = some last) :
    last.finished = true ∧ last.items.Perm m.items := by
  fun_induction run? less d m with
  | case1 m hm =>
    obtain rfl : m = last := by simpa using h
    exact ⟨hm, List.Perm.refl _⟩
  | case2 m _ ih =>
    obtain ⟨next, -, hlast⟩ := Option.bind_eq_some_iff.1 h
    exact ⟨(ih next hlast).1, (ih next hlast).2.trans (advances_of_step? next.2).1⟩

/-- The one run has all items. -/
theorem perm_result (m : Merging α) : m.result.Perm m.items := by
  classical
  refine List.perm_iff_count.2 fun x => ?_
  simp only [result, items, List.count_append, List.count_reverse]
  omega

/-- Two runs of which the first item of the free one has been taken. -/
def start (threshold : Nat) (held free : List α) : Merging α :=
  ⟨free.take 1, held, free.drop 1, .single 0 0, threshold⟩

/-- The items of two runs at the start. -/
theorem perm_items_start (threshold : Nat) (held free : List α) :
    (start threshold held free).items.Perm (held ++ free) := by
  classical
  refine List.perm_iff_count.2 fun x => ?_
  have := count_take_add_count_drop x 1 free
  simp only [start, items, List.count_append]
  omega

end Merging

variable {α : Type}

/-- The one run that two ascending runs become, of which the first has the greatest item,
and the threshold that is handed on. -/
def joined? (less : α → α → Option Bool) (threshold : Nat) (left right : List α) :
    Option (List α × Nat) :=
  if left.length ≤ right.length then
    ((Merging.start threshold left right).run? less .forward).map fun m =>
      (m.result, m.threshold)
  else
    ((Merging.start threshold right.reverse left.reverse).run? less .backward).map fun m =>
      (m.result.reverse, m.threshold)

/-- Joining keeps all items. -/
theorem perm_of_joined? {less : α → α → Option Bool} {threshold : Nat} {left right : List α}
    {r : List α × Nat} (h : joined? less threshold left right = some r) :
    r.1.Perm (left ++ right) := by
  have hrun {d : Direction} {held free : List α} {m : Merging α}
      (hm : (Merging.start threshold held free).run? less d = some m) :
      m.result.Perm (held ++ free) :=
    (m.perm_result.trans (Merging.finished_and_perm_of_run? hm).2).trans
      (Merging.perm_items_start _ _ _)
  simp only [joined?] at h
  split at h
  · obtain ⟨m, hm, rfl⟩ := Option.map_eq_some_iff.1 h
    exact hrun hm
  · obtain ⟨m, hm, rfl⟩ := Option.map_eq_some_iff.1 h
    refine (List.reverse_perm _).trans ((hrun hm).trans ?_)
    rw [← List.reverse_append]
    exact List.reverse_perm _

/-- The one run that two ascending runs become, and the threshold that is handed on. Items
of the first run that belong in front of the whole second run stay there, and so do
items of the second run that belong behind the whole first run. -/
def merged? (less : α → α → Option Bool) (threshold : Nat) (left right : List α) :
    Option (List α × Nat) :=
  match right with
  | [] => some (left, threshold)
  | y :: _ =>
    (stretch? .forward (fun x => (less y x).map not) left).bind fun k =>
      match (left.drop k).getLast? with
      | none => some (left ++ right, threshold)
      | some last =>
        (stretch? .backward (fun z => (less z last).map not) right.reverse).bind fun l =>
          (joined? less threshold (left.drop k) (right.reverse.drop l).reverse).map fun r =>
            (left.take k ++ r.1 ++ (right.reverse.take l).reverse, r.2)

/-- Merging keeps all items. -/
theorem perm_of_merged? {less : α → α → Option Bool} {threshold : Nat} {left right : List α}
    {r : List α × Nat} (h : merged? less threshold left right = some r) :
    r.1.Perm (left ++ right) := by
  unfold merged? at h
  split at h
  · obtain rfl : (left, threshold) = r := by simpa using h
    simp
  · rename_i y rest
    obtain ⟨k, -, h⟩ := Option.bind_eq_some_iff.1 h
    split at h
    · simp only [Option.some.injEq] at h
      rw [← h]
    · obtain ⟨l, -, h⟩ := Option.bind_eq_some_iff.1 h
      obtain ⟨joined, hjoined, rfl⟩ := Option.map_eq_some_iff.1 h
      classical
      refine List.perm_iff_count.2 fun x => ?_
      have hleft := Merging.count_take_add_count_drop x k left
      have hright := Merging.count_take_add_count_drop x l (y :: rest).reverse
      have hcount := (perm_of_joined? hjoined).count_eq x
      simp only [List.count_append, List.count_reverse] at hcount hright ⊢
      omega

end BoundSql.Sorting
