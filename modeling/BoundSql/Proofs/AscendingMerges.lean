import BoundSql.Proofs.AscendingRuns
import BoundSql.Sorting.Pending

/-!
# Merging keeps the order

While two runs are merged, what has been taken stands in front of all that is left of either,
and the last item that is held stands behind all that is free. Items are only ever taken of
one run that may stand in front of all that is left of the other, one at a time or by
stretches, read forward or backward, so that every step keeps this. At the end the one run
stands in order. The runs that wait to be merged stand in order for as long as they wait, and
so does the one that they become.
-/

namespace BoundSql.Sorting

variable {α : Type} {total : Prop} {P : α → Prop} {R : α → α → Prop}
  {less : α → α → Option Bool}

namespace Merging

variable {d : Direction} {m : Merging α} {held free : List α}

/-- Two runs on the way to one that stands in order. -/
structure Orderly (R : α → α → Prop) (m : Merging α) : Prop where
  /-- What has been taken and what is held stand in order. -/
  held : (m.taken.reverse ++ m.held).Pairwise R
  /-- What has been taken and what is free stand in order. -/
  free : (m.taken.reverse ++ m.free).Pairwise R
  /-- The last item that is held stands behind all that are free. -/
  behind : ∀ x, m.held.getLast? = some x → ∀ y ∈ m.free, R y x

/-- Items of the held run are taken when they may stand in front of all that are free. -/
theorem Orderly.of_held (h : m.Orderly R) {front back : List α} (hheld : m.held = front ++ back)
    (hfront : ∀ x ∈ front, ∀ y ∈ m.free, R x y) (pace : Pace) (threshold : Nat) :
    Orderly R ⟨front.reverse ++ m.taken, back, m.free, pace, threshold⟩ := by
  have hall := h.held
  rw [hheld, ← List.append_assoc] at hall
  obtain ⟨-, hfree, htaken⟩ := List.pairwise_append.1 h.free
  refine ⟨?_, ?_, fun x hx => h.behind x ?_⟩
  · rwa [List.reverse_append, List.reverse_reverse]
  · rw [List.reverse_append, List.reverse_reverse]
    refine List.pairwise_append.2 ⟨(List.pairwise_append.1 hall).1, hfree, fun x hx y hy => ?_⟩
    rcases List.mem_append.1 hx with hx | hx
    · exact htaken x hx y hy
    · exact hfront x hx y hy
  · rw [hheld, List.getLast?_append, hx, Option.some_or]

/-- Items of the free run are taken when they may stand in front of all that are held. -/
theorem Orderly.of_free (h : m.Orderly R) {front back : List α} (hfree : m.free = front ++ back)
    (hfront : ∀ y ∈ front, ∀ x ∈ m.held, R y x) (pace : Pace) (threshold : Nat) :
    Orderly R ⟨front.reverse ++ m.taken, m.held, back, pace, threshold⟩ := by
  have hall := h.free
  rw [hfree, ← List.append_assoc] at hall
  obtain ⟨-, hheld, htaken⟩ := List.pairwise_append.1 h.held
  refine ⟨?_, ?_, fun x hx y hy => h.behind x hx y (hfree ▸ List.mem_append_right front hy)⟩
  · rw [List.reverse_append, List.reverse_reverse]
    refine List.pairwise_append.2 ⟨(List.pairwise_append.1 hall).1, hheld, fun y hy x hx => ?_⟩
    rcases List.mem_append.1 hy with hy | hy
    · exact htaken y hy x hx
    · exact hfront y hy x hx
  · rwa [List.reverse_append, List.reverse_reverse]

/-- A list of at most one item is its own reverse. -/
theorem reverse_take_one (items : List α) : (items.take 1).reverse = items.take 1 := by
  cases items <;> rfl

/-- A stretch of the held run is taken when it may stand in front of all that are free, and the
next free item when it may stand in front of what is left. -/
theorem Orderly.takeHeld (h : m.Orderly R) {k : Nat}
    (hfront : ∀ x ∈ m.held.take k, ∀ y ∈ m.free, R x y)
    (hnext : ∀ y ∈ m.free.take 1, ∀ x ∈ m.held.drop k, R y x) : (m.takeHeld k).Orderly R := by
  have hafter := h.of_held (List.take_append_drop k m.held).symm hfront m.pace m.threshold
  simp only [Merging.takeHeld]
  split
  · exact hafter
  · rw [← reverse_take_one]
    exact hafter.of_free (List.take_append_drop 1 m.free).symm hnext m.pace m.threshold

/-- A stretch of the free run is taken when it may stand in front of all that are held, and the
next held item when it may stand in front of what is left. -/
theorem Orderly.takeFree (h : m.Orderly R) {k : Nat}
    (hfront : ∀ y ∈ m.free.take k, ∀ x ∈ m.held, R y x)
    (hnext : ∀ x ∈ m.held.take 1, ∀ y ∈ m.free.drop k, R x y) : (m.takeFree k).Orderly R := by
  have hafter := h.of_free (List.take_append_drop k m.free).symm hfront m.pace m.threshold
  simp only [Merging.takeFree]
  split
  · exact hafter
  · rw [← reverse_take_one]
    exact hafter.of_held (List.take_append_drop 1 m.held).symm hnext m.pace m.threshold

/-- The pace does not matter to the order. -/
theorem Orderly.paced (h : m.Orderly R) (k l : Nat) : (m.paced k l).Orderly R := by
  simp only [Merging.paced]
  split
  · exact h
  · split <;> exact ⟨h.held, h.free, h.behind⟩

/-- Runs at the start, when the first free item may stand in front of all that are held. -/
theorem orderly_start (threshold : Nat) (hheld : held.Pairwise R) (hfree : free.Pairwise R)
    (hfirst : ∀ y, free.head? = some y → ∀ x ∈ held, R y x)
    (hlast : ∀ x, held.getLast? = some x → ∀ y ∈ free, R y x) :
    (start threshold held free).Orderly R := by
  -- The first free item is taken from two runs of which nothing has been taken.
  have hbefore : Orderly R ⟨[], held, free, .single 0 0, threshold⟩ := ⟨hheld, hfree, hlast⟩
  have hfront (y : α) (hy : y ∈ free.take 1) : ∀ x ∈ held, R y x :=
    hfirst y (by simpa [List.take_one] using hy)
  have hafter := hbefore.of_free (List.take_append_drop 1 free).symm hfront (.single 0 0) threshold
  rwa [reverse_take_one, List.append_nil] at hafter

/-- When the place of every item is known, one item alone is held while another is free. -/
theorem held_eq_of_finished (hm : m.finished = true) {x y : α} (hx : x ∈ m.held)
    (hy : y ∈ m.free) : m.held = [x] := by
  obtain ⟨z, free, hfree⟩ := List.exists_cons_of_ne_nil (List.ne_nil_of_mem hy)
  cases hheld : m.held with
  | nil => simp [hheld] at hx
  | cons w held =>
    cases held with
    | nil =>
      rw [hheld] at hx
      rw [List.mem_singleton.1 hx]
    | cons v held => simp [finished, hheld, hfree] at hm

/-- When the place of every item is known, the one run stands in order. -/
theorem Orderly.pairwise_result (h : m.Orderly R) (hm : m.finished = true) :
    m.result.Pairwise R := by
  obtain ⟨-, hheld, htaken⟩ := List.pairwise_append.1 h.held
  refine List.pairwise_append.2 ⟨h.free, hheld, fun y hy x hx => ?_⟩
  rcases List.mem_append.1 hy with hy | hy
  · exact htaken y hy x hx
  · exact h.behind x (by rw [held_eq_of_finished hm hx hy]; rfl) y hy

/-- What all items are is kept by a step. -/
theorem Advances.all {next : Merging α} (h : Advances m next) (hall : ∀ x ∈ m.items, P x) :
    ∀ x ∈ next.items, P x :=
  fun x hx => hall x (h.1.mem_iff.1 hx)

section Steps

variable (hless : Fits total P R fun y x => overtakes? less d x y)

include hless

/-- A comparison keeps the order. -/
theorem yields_takeOne? (hall : ∀ x ∈ m.items, P x) (h : m.Orderly R) (fromHeld fromFree : Nat) :
    Yields total (m.takeOne? less d fromHeld fromFree) (Orderly R) := by
  simp only [takeOne?]
  split
  · rename_i x held y free hheld hfree
    have hx : P x := hall x (by simp [items, hheld])
    have hy : P y := hall y (by simp [items, hfree])
    have hxs := hheld ▸ (List.pairwise_append.1 h.held).2.1
    have hys := hfree ▸ (List.pairwise_append.1 h.free).2.1
    refine Yields.map (hless.outcome y x hy hx) fun overtakes _ hfront => ?_
    cases overtakes with
    | true =>
      refine h.of_free (show m.free = [y] ++ free from hfree) (fun y' hy' => ?_) _ _
      obtain rfl := List.mem_singleton.1 hy'
      rw [hheld]
      exact hless.forall_mem hfront hxs
    | false =>
      refine h.of_held (show m.held = [x] ++ held from hheld) (fun x' hx' => ?_) _ _
      obtain rfl := List.mem_singleton.1 hx'
      rw [hfree]
      exact hless.forall_mem hfront hys
  · exact .some h

/-- A stretch of the held run keeps the order. -/
theorem yields_heldStretch? (hall : ∀ x ∈ m.items, P x) (h : m.Orderly R) :
    Yields total (m.heldStretch? less d) fun r => r.1.Orderly R := by
  simp only [heldStretch?]
  split
  · rename_i y free _ hfree
    have hy : P y := hall y (by simp [items, hfree])
    have hordered := (List.pairwise_append.1 h.held).2.1
    have hys := hfree ▸ (List.pairwise_append.1 h.free).2.1
    refine (yields_stretch? (fun x hx => (hless.outcome y x hy (hall x ?_)).not)
      (hordered.imp fun hxz hzy => hless.trans _ _ _ hxz hzy)
      (hordered.imp fun hxz hyx => hless.trans _ _ _ hyx hxz)).map fun k _ hparts => ?_
    · simp [items, hx]
    · refine h.takeHeld (fun x hx => ?_) ?_
      · rw [hfree]
        exact hless.forall_mem (hparts.1 x hx) hys
      · rw [hfree]
        exact List.forall_mem_singleton.2 hparts.2
  · exact .some h

/-- A stretch of the free run keeps the order. -/
theorem yields_freeStretch? (hall : ∀ x ∈ m.items, P x) (h : m.Orderly R) :
    Yields total (m.freeStretch? less d) fun r => r.1.Orderly R := by
  simp only [freeStretch?]
  split
  · rename_i x held _ hheld
    have hx : P x := hall x (by simp [items, hheld])
    have hordered := (List.pairwise_append.1 h.free).2.1
    have hxs := hheld ▸ (List.pairwise_append.1 h.held).2.1
    refine (yields_stretch? (fun y hy => hless.outcome y x (hall y ?_) hx)
      (hordered.imp fun hyz hzx => hless.trans _ _ _ hyz hzx)
      (hordered.imp fun hyz hxy => hless.trans _ _ _ hxy hyz)).map fun k _ hparts => ?_
    · simp [items, hy]
    · refine h.takeFree (fun y hy => ?_) ?_
      · rw [hheld]
        exact hless.forall_mem (hparts.1 y hy) hxs
      · rw [hheld]
        exact List.forall_mem_singleton.2 hparts.2
  · exact .some h

/-- A step at any pace keeps the order. -/
theorem yields_step? (hall : ∀ x ∈ m.items, P x) (h : m.Orderly R) :
    Yields total (m.step? less d) (Orderly R) := by
  simp only [step?]
  split
  · exact yields_takeOne? hless hall h _ _
  · cases d with
    | forward =>
      refine (yields_heldStretch? hless hall h).bind fun first hfirst h => ?_
      have hall := (advances_of_heldStretch? hfirst).all hall
      exact (yields_freeStretch? hless hall h).map fun second _ h => h.paced _ _
    | backward =>
      refine (yields_freeStretch? hless hall h).bind fun first hfirst h => ?_
      have hall := (advances_of_freeStretch? hfirst).all hall
      exact (yields_heldStretch? hless hall h).map fun second _ h => h.paced _ _

/-- A merge keeps the order until the place of every item is known. -/
theorem yields_run? (hall : ∀ x ∈ m.items, P x) (h : m.Orderly R) :
    Yields total (m.run? less d) (Orderly R) := by
  fun_induction run? less d m with
  | case1 m hm => exact .some h
  | case2 m _ ih =>
    refine (yields_step? hless hall h).bind_attach fun next hnext h => ?_
    exact ih ⟨next, hnext⟩ ((advances_of_step? hnext).all hall) h

/-- From the start on, a merge gives one run that stands in order. -/
theorem yields_run?_start {threshold : Nat} (hheld : Ascends P R held) (hfree : Ascends P R free)
    (hfirst : ∀ y, free.head? = some y → ∀ x ∈ held, R y x)
    (hlast : ∀ x, held.getLast? = some x → ∀ y ∈ free, R y x) :
    Yields total ((start threshold held free).run? less d) fun m => m.result.Pairwise R := by
  have h := orderly_start threshold hheld.ordered hfree.ordered hfirst hlast
  have hall (x : α) (hx : x ∈ (start threshold held free).items) : P x :=
    (List.mem_append.1 ((perm_items_start threshold held free).mem_iff.1 hx)).elim (hheld.all x)
      (hfree.all x)
  refine (yields_run? hless hall h).imp fun last hlast h => ?_
  exact h.pairwise_result (finished_and_perm_of_run? hlast).1

end Steps

end Merging

/-- Comparisons that fit an order, with their items the other way round, fit the order that is
read from the back. -/
theorem Fits.backward (hless : Fits total P R less) :
    Fits total P (fun x y => R y x) fun x y => less y x where
  outcome x y hx hy := hless.outcome y x hy hx
  trans x y z hxy hyz := hless.trans z y x hyz hxy

/-- A run that is read from the back stands in the order that is read from the back. -/
theorem Ascends.reverse {run : List α} (h : Ascends P R run) :
    Ascends P (fun x y => R y x) run.reverse :=
  ⟨fun x hx => h.all x (List.mem_reverse.1 hx), List.pairwise_reverse.2 h.ordered⟩

/-- What the last item of a run may stand in front of, all of it may stand in front of. -/
theorem Fits.forall_mem_of_getLast? (hless : Fits total P R less) {run : List α} {last z : α}
    (h : R last z) (hlast : run.getLast? = some last) (hrun : run.Pairwise R) :
    ∀ x ∈ run, R x z := by
  obtain ⟨front, rfl⟩ := List.getLast?_eq_some_iff.1 hlast
  have hreverse := List.pairwise_reverse.2 hrun
  rw [List.reverse_append, List.reverse_singleton, List.singleton_append] at hreverse
  intro x hx
  exact hless.backward.forall_mem h hreverse x (by simpa [or_comm] using hx)

/-- Of a list in order each item of a first part stands in front of all behind the part. -/
theorem rel_of_mem_take {run : List α} {k : Nat} {x y : α} (hrun : run.Pairwise R)
    (hx : x ∈ run.take k) (hy : y ∈ run.drop k) : R x y := by
  rw [← List.take_append_drop k run] at hrun
  exact (List.pairwise_append.1 hrun).2.2 x hx y hy

variable {left right : List α} {threshold : Nat}

/-- Two runs of which the first has the item that stands behind all others, and the second the
one that stands in front of all others, become one that stands in order. -/
theorem yields_joined? (hless : Fits total P R less) (hleft : Ascends P R left)
    (hright : Ascends P R right) (hfirst : ∀ y, right.head? = some y → ∀ x ∈ left, R y x)
    (hlast : ∀ x, left.getLast? = some x → ∀ y ∈ right, R y x) :
    Yields total (joined? less threshold left right) fun r => r.1.Pairwise R := by
  simp only [joined?]
  split
  · exact (Merging.yields_run?_start hless hleft hright hfirst hlast).map fun _ _ h => h
  · -- Read from the back, the second run is held, and its last item is the first one.
    refine (Merging.yields_run?_start hless.backward hright.reverse hleft.reverse
      (fun x hx y hy => ?_) (fun y hy x hx => ?_)).map fun _ _ h => List.pairwise_reverse.2 h
    · exact hlast x (by rwa [← List.head?_reverse]) y (List.mem_reverse.1 hy)
    · exact hfirst y (by rwa [← List.getLast?_reverse]) x (List.mem_reverse.1 hx)

/-- Two runs in order become one in order. What stays where it is in the first run stands in
front of the second, and what stays in the second behind the first. -/
theorem yields_merged?_ordered (hless : Fits total P R less) (hleft : Ascends P R left)
    (hright : Ascends P R right) :
    Yields total (merged? less threshold left right) fun r => r.1.Pairwise R := by
  unfold merged?
  split
  · exact .some hleft.ordered
  · rename_i y rest
    have hy := hright.all y List.mem_cons_self
    refine (yields_stretch? (fun x hx => (hless.outcome y x hy (hleft.all x hx)).not)
      (hleft.ordered.imp fun hxz hzy => hless.trans _ _ _ hxz hzy)
      (hleft.ordered.imp fun hxz hyx => hless.trans _ _ _ hyx hxz)).bind fun k _ hcut => ?_
    have hfront (x : α) (hx : x ∈ left.take k) : ∀ z ∈ y :: rest, R x z :=
      hless.forall_mem (hcut.1 x hx) hright.ordered
    split
    · rename_i hnone
      have hwhole := List.take_append_drop k left
      rw [List.getLast?_eq_none_iff.1 hnone, List.append_nil] at hwhole
      rw [hwhole] at hfront
      exact .some (List.pairwise_append.2 ⟨hleft.ordered, hright.ordered, hfront⟩)
    · rename_i last hlast
      have hlast' := hleft.all last (List.mem_of_mem_drop (List.mem_of_getLast? hlast))
      refine (yields_stretch?
        (fun z hz => (hless.outcome z last (hright.all z (List.mem_reverse.1 hz)) hlast').not)
        (List.pairwise_reverse.2 (hright.ordered.imp fun hxz hx => hless.trans _ _ _ hx hxz))
        (List.pairwise_reverse.2
          (hright.ordered.imp fun hxz hz => hless.trans _ _ _ hxz hz))).bind fun l _ hcut' => ?_
      -- What is cut off the second run read backward is a part at its end.
      simp only [List.take_reverse, List.drop_reverse, List.reverse_reverse, List.mem_reverse]
        at hcut' ⊢
      refine (yields_joined? hless ⟨fun x hx => hleft.all x (List.mem_of_mem_drop hx),
        hleft.ordered.drop⟩ ⟨fun z hz => hright.all z (List.mem_of_mem_take hz),
        hright.ordered.take⟩ (fun z hz => ?_) (fun x hx => ?_)).map fun r hr hordered => ?_
      · rw [List.head?_take] at hz
        split at hz
        · cases hz
        · cases hz
          exact hcut.2
      · obtain rfl := Option.some.inj (hlast.symm.trans hx)
        exact hcut'.2
      · -- An item of the one run in the middle is one that is left of either run.
        have hmem (z : α) (hz : z ∈ r.1) := List.mem_append.1 ((perm_of_joined? hr).mem_iff.1 hz)
        refine List.pairwise_append.2 ⟨List.pairwise_append.2
          ⟨hleft.ordered.take, hordered, fun x hx z hz => ?_⟩, hright.ordered.drop,
          fun x hx z hz => ?_⟩
        · rcases hmem z hz with hz | hz
          · exact rel_of_mem_take hleft.ordered hx hz
          · exact hfront x hx z (List.mem_of_mem_take hz)
        · rcases List.mem_append.1 hx with hx | hx
          · exact hfront x hx z (List.mem_of_mem_drop hz)
          · rcases hmem x hx with hx | hx
            · exact hless.forall_mem_of_getLast? (hcut'.1 z hz) hlast hleft.ordered.drop x hx
            · exact rel_of_mem_take hright.ordered hx hz

/-- Two runs in order become one in order, of the same items. -/
theorem yields_merged? (hless : Fits total P R less) (hleft : Ascends P R left)
    (hright : Ascends P R right) :
    Yields total (merged? less threshold left right) fun r => Ascends P R r.1 := by
  refine (yields_merged?_ordered hless hleft hright).imp fun r hr hordered =>
    ⟨fun x hx => ?_, hordered⟩
  exact (List.mem_append.1 ((perm_of_merged? hr).mem_iff.1 hx)).elim (hleft.all x) (hright.all x)

/-- The runs that wait stand in order after those on top have been merged. -/
theorem yields_settled? (hless : Fits total P R less) {depth : Nat} {top : List α}
    {below : List (Waiting α)} (htop : Ascends P R top)
    (hbelow : ∀ w ∈ below, Ascends P R w.run) :
    Yields total (settled? less depth threshold top below) fun p =>
      ∀ w ∈ p.stack, Ascends P R w.run := by
  induction below generalizing threshold top with
  | nil => exact .some (List.forall_mem_singleton.2 htop)
  | cons w below ih =>
    obtain ⟨hw, hrest⟩ := List.forall_mem_cons.1 hbelow
    simp only [settled?]
    split
    · exact (yields_merged? hless hw htop).bind fun r _ hr => ih hr hrest
    · exact .some (List.forall_mem_cons.2 ⟨htop, hbelow⟩)

/-- The runs that wait stand in order after one more has come. -/
theorem Pending.yields_push? (hless : Fits total P R less) {length : Nat} {p : Pending α}
    {run : List α} (hp : ∀ w ∈ p.stack, Ascends P R w.run) (hrun : Ascends P R run) :
    Yields total (p.push? less length run) fun q => ∀ w ∈ q.stack, Ascends P R w.run := by
  obtain ⟨stack, threshold⟩ := p
  cases stack with
  | nil => exact .some (List.forall_mem_singleton.2 hrun)
  | cons top below =>
    obtain ⟨htop, hbelow⟩ := List.forall_mem_cons.1 hp
    exact (yields_settled? hless htop hbelow).map fun q _ hq => List.forall_mem_cons.2 ⟨hrun, hq⟩

/-- The runs that wait stand in order after all have come. -/
theorem yields_foldlM_push? (hless : Fits total P R less) {length : Nat} {runs : List (List α)}
    {p : Pending α} (hp : ∀ w ∈ p.stack, Ascends P R w.run)
    (hruns : ∀ run ∈ runs, Ascends P R run) :
    Yields total (runs.foldlM (Pending.push? less length) p) fun q =>
      ∀ w ∈ q.stack, Ascends P R w.run := by
  induction runs generalizing p with
  | nil => exact .some hp
  | cons run rest ih =>
    obtain ⟨hrun, hrest⟩ := List.forall_mem_cons.1 hruns
    rw [List.foldlM_cons]
    exact (Pending.yields_push? hless hp hrun).bind fun q _ hq => ih hq hrest

/-- The one run that all runs become stands in order. -/
theorem yields_collapsed? (hless : Fits total P R less) {runs : List (List α)}
    (hruns : ∀ run ∈ runs, Ascends P R run) :
    Yields total (collapsed? less threshold runs) (Ascends P R) := by
  fun_induction collapsed? less threshold runs with
  | case1 => exact .some ⟨by simp, .nil⟩
  | case2 threshold last => exact .some (hruns last List.mem_cons_self)
  | case3 threshold last middle =>
    obtain ⟨hlast, hmiddle⟩ := List.forall_mem_cons.1 hruns
    exact (yields_merged? hless (List.forall_mem_singleton.1 hmiddle) hlast).map fun _ _ h => h
  | case4 threshold last middle first rest _ ih =>
    obtain ⟨hlast, hmiddle, hfirst, hrest⟩ := by simpa only [List.forall_mem_cons] using hruns
    exact (yields_merged? hless hfirst hmiddle).bind fun r _ hr =>
      ih r (by simpa only [List.forall_mem_cons] using ⟨hlast, hr, hrest⟩)
  | case5 threshold last middle first rest _ ih =>
    obtain ⟨hlast, hmiddle, hfirst, hrest⟩ := by simpa only [List.forall_mem_cons] using hruns
    exact (yields_merged? hless hmiddle hlast).bind fun r _ hr =>
      ih r (by simpa only [List.forall_mem_cons] using ⟨hr, hfirst, hrest⟩)

/-- Sorting puts items in order, and it comes to an end when every comparison has an outcome. -/
theorem yields_sorted? (hless : Fits total P R less) {items : List α} (hitems : ∀ x ∈ items, P x) :
    Yields total (sorted? less items) fun sorted => sorted.Pairwise R := by
  refine (yields_runs? hless hitems).bind fun runs _ hruns => ?_
  refine (yields_foldlM_push? hless (by simp) hruns).bind fun p _ hp => ?_
  exact (yields_collapsed? hless (List.forall_mem_map.2 hp)).imp fun _ _ h => h.ordered

/-- One item is sorted without a comparison. -/
theorem sorted?_singleton (less : α → α → Option Bool) (x : α) :
    sorted? less [x] = some [x] := by
  simp [sorted?, runs?, filledRun?, firstRun?, leastLength, collapsed?, Pending.push?]

end BoundSql.Sorting
