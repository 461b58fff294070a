import BoundSql.Sorting.Run

/-!
# Runs are ascending

A sort sees its order one comparison at a time, and a comparison may have no outcome. For
every search on the way it is said at once what comes out of it and that something does
when every comparison has an outcome. All that is needed of the order is that it is
transitive and that each comparison tells a pair of items that stand in it, so that of the
two parts in which a search cuts a run all items of one stand in front of what is compared
and all items of the other behind it.
-/

namespace BoundSql.Sorting

/-- What comes out of a search that may have no outcome: nothing without a property, and, when
every comparison has an outcome, something. -/
structure Yields {β : Type} (total : Prop) (found : Option β) (Q : β → Prop) : Prop where
  /-- What comes out has the property. -/
  sound : ∀ r, found = some r → Q r
  /-- Something comes out when every comparison has an outcome. -/
  isSome : total → found.isSome = true

/-- A comparison tells which of two facts holds. -/
def Decides (total : Prop) (outcome : Option Bool) (yes no : Prop) : Prop :=
  Yields total outcome fun b => if b then yes else no

section Rules

variable {β γ : Type} {total : Prop} {found : Option β} {Q : β → Prop} {Q' : γ → Prop}

/-- What is there already comes out. -/
theorem Yields.some {r : β} (h : Q r) : Yields total (some r) Q :=
  ⟨fun _ hr => Option.some.inj hr ▸ h, fun _ => rfl⟩

/-- A search that goes on from what an earlier one has found. -/
theorem Yields.bind {f : β → Option γ} (h : Yields total found Q)
    (hf : ∀ r, found = .some r → Q r → Yields total (f r) Q') :
    Yields total (found.bind f) Q' where
  sound r hr := by
    obtain ⟨r', hr', hr⟩ := Option.bind_eq_some_iff.1 hr
    exact (hf r' hr' (h.sound r' hr')).sound r hr
  isSome htotal := by
    obtain ⟨r', hr'⟩ := Option.isSome_iff_exists.1 (h.isSome htotal)
    rw [hr', Option.bind_some]
    exact (hf r' hr' (h.sound r' hr')).isSome htotal

/-- A search that goes on from what an earlier one has found, and from the fact that it has. -/
theorem Yields.bind_attach {f : { r // found = .some r } → Option γ} (h : Yields total found Q)
    (hf : ∀ r, (hr : found = .some r) → Q r → Yields total (f ⟨r, hr⟩) Q') :
    Yields total (found.attach.bind f) Q' where
  sound r hr := by
    obtain ⟨⟨r', hr'⟩, -, hr⟩ := Option.bind_eq_some_iff.1 hr
    exact (hf r' hr' (h.sound r' hr')).sound r hr
  isSome htotal := by
    obtain ⟨r', hr'⟩ := Option.isSome_iff_exists.1 (h.isSome htotal)
    subst hr'
    exact (hf r' rfl (h.sound r' rfl)).isSome htotal

/-- What is made of what a search has found. -/
theorem Yields.map {f : β → γ} (h : Yields total found Q)
    (hf : ∀ r, found = .some r → Q r → Q' (f r)) : Yields total (found.map f) Q' := by
  rw [Option.map_eq_bind]
  exact h.bind fun r hr hq => .some (hf r hr hq)

/-- What is found has what follows from its property. -/
theorem Yields.imp {Q' : β → Prop} (h : Yields total found Q)
    (hq : ∀ r, found = .some r → Q r → Q' r) : Yields total found Q' :=
  ⟨fun r hr => hq r hr (h.sound r hr), h.isSome⟩

/-- The opposite outcome tells the other fact. -/
theorem Decides.not {outcome : Option Bool} {yes no : Prop} (h : Decides total outcome yes no) :
    Decides total (outcome.map Bool.not) no yes := by
  refine Yields.map h fun b _ hb => ?_
  cases b <;> exact hb

end Rules

section Stretches

variable {α : Type} {total : Prop} {test : α → Option Bool} {items : List α} {k : Nat}
  {Q Q' : α → Prop}

/-- Halving an interval comes to an end when the test has an outcome at every place of it. -/
theorem isSome_halve? {d : Direction} {passes? : Nat → Option Bool} {lo hi : Nat}
    (h : ∀ i < hi, (passes? i).isSome = true) : (halve? d passes? lo hi).isSome = true := by
  fun_induction halve? d passes? lo hi with
  | case1 lo hi hlt ih₁ ih₂ =>
    obtain ⟨passes, hpasses⟩ := Option.isSome_iff_exists.1 (h _ (d.middle_lt hlt))
    rw [hpasses, Option.bind_some]
    split
    · exact ih₁ h
    · exact ih₂ fun i hi' => h i (Nat.lt_trans hi' (d.middle_lt hlt))
  | case2 => rfl

/-- Strides come to an end when the test has an outcome at every place. -/
theorem isSome_stride? {passes? : Nat → Option Bool} {count lo hi : Nat}
    (h : ∀ i < count, (passes? i).isSome = true) :
    (stride? passes? count lo hi).isSome = true := by
  fun_induction stride? passes? count lo hi with
  | case1 lo hi hlt ih =>
    obtain ⟨passes, hpasses⟩ := Option.isSome_iff_exists.1 (h hi hlt)
    rw [hpasses, Option.bind_some]
    split
    · exact ih
    · rfl
  | case2 => rfl

/-- A test that has an outcome at every item has one at every place. -/
theorem isSome_passesAt? (h : ∀ x ∈ items, (test x).isSome = true) :
    ∀ i < items.length, (passesAt? test items i).isSome = true := by
  intro i hi
  rw [passesAt?, List.getElem?_eq_getElem hi]
  exact h _ (List.getElem_mem hi)

/-- The length of a stretch is found when the test has an outcome at every item. -/
theorem isSome_stretch? {d : Direction} (h : ∀ x ∈ items, (test x).isSome = true) :
    (stretch? d test items).isSome = true := by
  cases items with
  | nil => rfl
  | cons x rest =>
    have hplaces := isSome_passesAt? h
    obtain ⟨passes, hpasses⟩ := Option.isSome_iff_exists.1 (hplaces 0 (by simp))
    simp only [stretch?, List.isEmpty_cons, Bool.false_eq_true, if_false, hpasses,
      Option.bind_some]
    split
    · rename_i hfirst
      subst hfirst
      have hstrides : (stride? (passesAt? test (x :: rest)) (x :: rest).length 1 1).isSome = true :=
        isSome_stride? hplaces
      obtain ⟨bounds, hbounds⟩ := Option.isSome_iff_exists.1 hstrides
      have hcount := (bounds_of_stride? hpasses (Nat.le_refl 1) (by simp) hbounds).2.2.2
      rw [hbounds, Option.bind_some]
      exact isSome_halve? fun i hi => hplaces i (Nat.lt_of_lt_of_le hi hcount)
    · rfl

/-- In front of the end of a stretch every item is as one that passes the test, when each is
as those behind it. -/
theorem EndsAt.forall_take (h : EndsAt (passesAt? test items) items.length k)
    (hpass : ∀ x ∈ items, test x = some true → Q x)
    (hdown : items.Pairwise fun x y => Q y → Q x) : ∀ x ∈ items.take k, Q x := by
  cases k with
  | zero => simp
  | succ k =>
    have hk : k < items.length := h.1
    -- Only the last item in front of the end is known to pass the test.
    have hlast : Q items[k] := by
      have htest := h.2.1.resolve_left (Nat.succ_ne_zero k)
      rw [Nat.add_sub_cancel, passesAt?, List.getElem?_eq_getElem hk] at htest
      exact hpass _ (List.getElem_mem hk) htest
    have hpairs := hdown.sublist (List.take_sublist (k + 1) items)
    rw [List.take_add_one, List.getElem?_eq_getElem hk] at hpairs ⊢
    intro x hx
    rcases List.mem_append.1 hx with hx | hx
    · exact (List.pairwise_append.1 hpairs).2.2 x hx _ (List.mem_singleton_self _) hlast
    · exact List.mem_singleton.1 hx ▸ hlast

/-- From the end of a stretch on every item is as one that fails the test, when each is as
those in front of it. -/
theorem EndsAt.forall_drop (h : EndsAt (passesAt? test items) items.length k)
    (hfail : ∀ x ∈ items, test x = some false → Q' x)
    (hup : items.Pairwise fun x y => Q' x → Q' y) : ∀ x ∈ items.drop k, Q' x := by
  rcases h.2.2 with hk | htest
  · simp [hk]
  · cases hrest : items.drop k with
    | nil => simp
    | cons y rest =>
      have hy : items[k]? = some y := by
        rw [← List.head?_drop, hrest, List.head?_cons]
      have hfirst : Q' y := by
        rw [passesAt?, hy] at htest
        exact hfail y (List.mem_of_getElem? hy) htest
      have hpairs := hup.sublist (List.drop_sublist k items)
      rw [hrest] at hpairs
      refine List.forall_mem_cons.2 ⟨hfirst, fun x hx => ?_⟩
      exact (List.pairwise_cons.1 hpairs).1 x hx hfirst

/-- A search for the end of a stretch cuts a list in two, when its test decides between two
properties of which one goes over to the items in front and the other to those behind. -/
theorem yields_of_endsAt {found : Option Nat}
    (hends : ∀ k, found = some k → EndsAt (passesAt? test items) items.length k)
    (hsome : (∀ x ∈ items, (test x).isSome = true) → found.isSome = true)
    (htest : ∀ x ∈ items, Decides total (test x) (Q x) (Q' x))
    (hdown : items.Pairwise fun x y => Q y → Q x) (hup : items.Pairwise fun x y => Q' x → Q' y) :
    Yields total found fun k => (∀ x ∈ items.take k, Q x) ∧ ∀ x ∈ items.drop k, Q' x where
  sound k hk := by
    refine ⟨(hends k hk).forall_take (fun x hx h => ?_) hdown,
      (hends k hk).forall_drop (fun x hx h => ?_) hup⟩
    · exact (htest x hx).sound _ h
    · simpa using (htest x hx).sound _ h
  isSome htotal := hsome fun x hx => (htest x hx).isSome htotal

/-- Strides cut a list in two. -/
theorem yields_stretch? {d : Direction} (htest : ∀ x ∈ items, Decides total (test x) (Q x) (Q' x))
    (hdown : items.Pairwise fun x y => Q y → Q x) (hup : items.Pairwise fun x y => Q' x → Q' y) :
    Yields total (stretch? d test items) fun k =>
      (∀ x ∈ items.take k, Q x) ∧ ∀ x ∈ items.drop k, Q' x :=
  yields_of_endsAt (fun _ => endsAt_of_stretch?) isSome_stretch? htest hdown hup

/-- Halving cuts a list in two. -/
theorem yields_halved? (htest : ∀ x ∈ items, Decides total (test x) (Q x) (Q' x))
    (hdown : items.Pairwise fun x y => Q y → Q x) (hup : items.Pairwise fun x y => Q' x → Q' y) :
    Yields total (halved? test items) fun k =>
      (∀ x ∈ items.take k, Q x) ∧ ∀ x ∈ items.drop k, Q' x :=
  yields_of_endsAt (fun _ => endsAt_of_halved?) (fun h => isSome_halve? (isSome_passesAt? h))
    htest hdown hup

end Stretches

/-- Comparisons that fit an order of some items: each tells which of two items may stand in
front of the other, and what may stand in front of one item may stand in front of all behind
it. -/
structure Fits {α : Type} (total : Prop) (P : α → Prop) (R : α → α → Prop)
    (less : α → α → Option Bool) : Prop where
  /-- The lesser of two items may stand in front; if the first is not less, the other may. -/
  outcome : ∀ x y, P x → P y → Decides total (less x y) (R x y) (R y x)
  /-- The order is transitive. -/
  trans : ∀ x y z, R x y → R y z → R x z

/-- Items that are put in order and stand in it. -/
structure Ascends {α : Type} (P : α → Prop) (R : α → α → Prop) (run : List α) : Prop where
  /-- All are items that the order is of. -/
  all : ∀ x ∈ run, P x
  /-- Each may stand in front of those behind it. -/
  ordered : run.Pairwise R

section Runs

variable {α : Type} {total : Prop} {P : α → Prop} {R : α → α → Prop}
  {less : α → α → Option Bool} {items : List α}

/-- What may stand in front of the first item of a run may stand in front of all of it. -/
theorem Fits.forall_mem (hless : Fits total P R less) {x y : α} {rest : List α} (h : R x y)
    (hrest : (y :: rest).Pairwise R) : ∀ z ∈ y :: rest, R x z :=
  List.forall_mem_cons.2
    ⟨h, fun z hz => hless.trans x y z h ((List.pairwise_cons.1 hrest).1 z hz)⟩

/-- A chain from an item on stands in order from front to back, or, when it descends, from
back to front. -/
theorem yields_chain? (hless : Fits total P R less) {descends : Bool} {before : α}
    (hbefore : P before) (hitems : ∀ x ∈ items, P x) :
    Yields total (chain? less descends before items) fun parts =>
      (before :: parts.1).Pairwise fun x y => if descends then R y x else R x y := by
  induction items generalizing before with
  | nil => exact .some (List.pairwise_singleton _ _)
  | cons x rest ih =>
    obtain ⟨hx, hrest⟩ := List.forall_mem_cons.1 hitems
    refine Yields.bind (hless.outcome x before hx hbefore) fun b _ hb => ?_
    split
    · rename_i hlink
      subst hlink
      refine (ih hx hrest).map fun parts _ hparts => ?_
      refine List.pairwise_cons.2 ⟨List.forall_mem_cons.2 ⟨hb, fun z hz => ?_⟩, hparts⟩
      -- The link in front of the chain goes the same way as all others.
      have hxz := (List.pairwise_cons.1 hparts).1 z hz
      cases b with
      | true => exact hless.trans z x before hxz hb
      | false => exact hless.trans before x z hb hxz
    · exact .some (List.pairwise_singleton _ _)

/-- The first run of a list stands in order. -/
theorem yields_firstRun? (hless : Fits total P R less) (hitems : ∀ x ∈ items, P x) :
    Yields total (firstRun? less items) fun parts => parts.1.Pairwise R := by
  unfold firstRun?
  split
  · rename_i x y rest
    obtain ⟨hx, hrest⟩ := List.forall_mem_cons.1 hitems
    have hy := (List.forall_mem_cons.1 hrest).1
    refine Yields.bind (hless.outcome y x hy hx) fun descends _ _ => ?_
    refine (yields_chain? hless hx hrest).map fun parts _ hparts => ?_
    cases descends with
    | true => exact List.pairwise_reverse.2 hparts
    | false => exact hparts
  · rename_i hshort
    refine .some ?_
    match items, hshort with
    | [], _ => exact .nil
    | [x], _ => exact List.pairwise_singleton _ _
    | x :: y :: rest, hshort => exact (hshort x y rest rfl).elim

/-- An item is placed behind those that may stand in front of it. -/
theorem yields_placed? (hless : Fits total P R less) {run : List α} (hrun : Ascends P R run)
    {x : α} (hx : P x) : Yields total (placed? less run x) (Ascends P R) := by
  have hsplit : Yields total (halved? (fun y => (less x y).map Bool.not) run) fun k =>
      (∀ y ∈ run.take k, R y x) ∧ ∀ y ∈ run.drop k, R x y :=
    yields_halved? (fun y hy => (hless.outcome x y hx (hrun.all y hy)).not)
      (hrun.ordered.imp fun hyz hzx => hless.trans _ _ _ hyz hzx)
      (hrun.ordered.imp fun hyz hxy => hless.trans _ _ _ hxy hyz)
  refine hsplit.map fun k hk hparts => ?_
  have hperm := perm_of_placed? (Option.map_eq_some_iff.2 ⟨k, hk, rfl⟩)
  refine ⟨fun y hy => ?_, List.pairwise_append.2 ⟨hrun.ordered.take, ?_, fun y hy z hz => ?_⟩⟩
  · exact List.forall_mem_cons.2 ⟨hx, hrun.all⟩ y (hperm.mem_iff.1 hy)
  · exact List.pairwise_cons.2 ⟨hparts.2, hrun.ordered.drop⟩
  · have hyx := hparts.1 y hy
    rcases List.mem_cons.1 hz with rfl | hz
    · exact hyx
    · exact hless.trans y x z hyx (hparts.2 z hz)

/-- Items that are placed one after the other leave the run in order. -/
theorem yields_foldlM_placed? (hless : Fits total P R less) {run : List α}
    (hrun : Ascends P R run) (hitems : ∀ x ∈ items, P x) :
    Yields total (items.foldlM (placed? less) run) (Ascends P R) := by
  induction items generalizing run with
  | nil => exact .some hrun
  | cons x rest ih =>
    obtain ⟨hx, hrest⟩ := List.forall_mem_cons.1 hitems
    rw [List.foldlM_cons]
    exact (yields_placed? hless hrun hx).bind fun placed _ hplaced => ih hplaced hrest

/-- A run that is filled up stands in order. -/
theorem yields_filledRun? (hless : Fits total P R less) {length : Nat} (hitems : ∀ x ∈ items, P x) :
    Yields total (filledRun? less length items) fun parts => Ascends P R parts.1 := by
  refine (yields_firstRun? hless hitems).bind fun parts hparts hordered => ?_
  have hall (x : α) (hx : x ∈ parts.1 ++ parts.2) : P x :=
    hitems x ((perm_of_firstRun? hparts).mem_iff.1 hx)
  have hrun : Ascends P R parts.1 := ⟨fun x hx => hall x (List.mem_append_left _ hx), hordered⟩
  refine (yields_foldlM_placed? hless hrun fun x hx => ?_).map fun _ _ h => h
  exact hall x (List.mem_append_right _ (List.mem_of_mem_take hx))

/-- All runs of a list stand in order. -/
theorem yields_runs? (hless : Fits total P R less) {length : Nat} (hitems : ∀ x ∈ items, P x) :
    Yields total (runs? less length items) fun runs => ∀ run ∈ runs, Ascends P R run := by
  fun_induction runs? less length items with
  | case1 => exact .some (by simp)
  | case2 x rest ih =>
    refine (yields_filledRun? hless hitems).bind_attach fun parts hparts hrun => ?_
    have hrest (y : α) (hy : y ∈ parts.2) : P y :=
      hitems y ((perm_of_filledRun? hparts).mem_iff.1 (List.mem_append_right _ hy))
    refine (ih ⟨parts, hparts⟩ hrest).map fun runs _ hruns => ?_
    exact List.forall_mem_cons.2 ⟨hrun, hruns⟩

end Runs

end BoundSql.Sorting
