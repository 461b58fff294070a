import BoundSql.Sorting.Merging
import BoundSql.Sorting.Run

/-!
# Sorting by merging runs

The runs of a list wait in a stack, the last one on top. Every border between two
runs that wait has a depth: how often the list has to be cut in half before a cut
falls between the middles of the two. Before a run is added, the runs on top are
merged while the border below the top is deeper than the new one, so that runs
that are merged are of like lengths. In the end all are merged. A list has no
sorted form when a comparison on the way has no outcome. An order that is not
consistent still gives all items, in an order that depends on where they stood.
-/

namespace BoundSql.Sorting

variable {α : Type}

/-- A run that waits to be merged. -/
structure Waiting (α : Type) where
  /-- The items. -/
  run : List α
  /-- The depth of the border behind the run, once there is a run behind it. -/
  depth : Nat

/-- The runs that wait to be merged. -/
structure Pending (α : Type) where
  /-- The runs, the last one in front. -/
  stack : List (Waiting α)
  /-- The threshold of the next merge. -/
  threshold : Nat

/-- How often a list of some length has to be cut in half before a cut falls between the
middles of two runs. Of the first run the place and the length are given, of the
second one the length. -/
def borderDepth (total start left right : Nat) : Nat :=
  let middle := 2 * start + left
  let nextMiddle := middle + left + right
  ((List.range (total.log2 + 3)).find? fun n =>
    (middle <<< n) / (2 * total) != (nextMiddle <<< n) / (2 * total)).getD 0

/-- The runs after those on top have been merged while the border below the top is deeper
than the one behind it. -/
def settled? (less : α → α → Option Bool) (depth threshold : Nat) (top : List α) :
    List (Waiting α) → Option (Pending α)
  | [] => some ⟨[⟨top, depth⟩], threshold⟩
  | w :: below =>
    if depth < w.depth then
      (merged? less threshold w.run top).bind fun r => settled? less depth r.2 r.1 below
    else some ⟨⟨top, depth⟩ :: w :: below, threshold⟩

/-- The runs of a list of some length with one more run. -/
def Pending.push? (less : α → α → Option Bool) (total : Nat) (p : Pending α) (run : List α) :
    Option (Pending α) :=
  match p.stack with
  | [] => some ⟨[⟨run, 0⟩], p.threshold⟩
  | top :: below =>
    let start := below.foldl (fun n w => n + w.run.length) 0
    let depth := borderDepth total start top.run.length run.length
    (settled? less depth p.threshold top.run below).map fun q =>
      ⟨⟨run, 0⟩ :: q.stack, q.threshold⟩

/-- The one run that all runs become, the last of them given in front. The last two are
merged, but the two before the last one when those are shorter. -/
def collapsed? (less : α → α → Option Bool) (threshold : Nat) :
    List (List α) → Option (List α)
  | [] => some []
  | [last] => some last
  | [last, middle] => (merged? less threshold middle last).map Prod.fst
  | last :: middle :: first :: rest =>
    if first.length < last.length then
      (merged? less threshold first middle).bind fun r =>
        collapsed? less r.2 (last :: r.1 :: rest)
    else
      (merged? less threshold middle last).bind fun r =>
        collapsed? less r.2 (r.1 :: first :: rest)
termination_by runs => runs.length

/-- The least length of a run, so chosen that a list falls into a number of runs that is a
power of two or a little less. A short list is one run. -/
def leastLength (total : Nat) : Nat :=
  if total < 64 then total
  else
    let scale := 1 <<< (total.log2 - 5)
    total / scale + if total % scale = 0 then 0 else 1

/-- The items in ascending order. -/
def sorted? (less : α → α → Option Bool) (items : List α) : Option (List α) :=
  (runs? less (leastLength items.length) items).bind fun runs =>
    (runs.foldlM (Pending.push? less items.length) ⟨[], Merging.longStretch⟩).bind fun p =>
      collapsed? less p.threshold (p.stack.map Waiting.run)

/-- The items of all runs. -/
def Pending.items (p : Pending α) : List α :=
  (p.stack.map Waiting.run).flatten

/-- Merging the runs on top keeps all items. -/
theorem perm_of_settled? {less : α → α → Option Bool} {depth threshold : Nat} {top : List α}
    {below : List (Waiting α)} {p : Pending α}
    (h : settled? less depth threshold top below = some p) :
    p.items.Perm (top ++ (below.map Waiting.run).flatten) := by
  induction below generalizing threshold top with
  | nil =>
    obtain rfl : ⟨[⟨top, depth⟩], threshold⟩ = p := by simpa [settled?] using h
    exact List.Perm.refl _
  | cons w below ih =>
    simp only [settled?] at h
    split at h
    · obtain ⟨r, hr, hrest⟩ := Option.bind_eq_some_iff.1 h
      refine (ih hrest).trans ((perm_of_merged? hr).append_right _ |>.trans ?_)
      rw [List.map_cons, List.flatten_cons, ← List.append_assoc]
      exact List.perm_append_comm.append_right _
    · obtain rfl : ⟨⟨top, depth⟩ :: w :: below, threshold⟩ = p := by simpa using h
      exact List.Perm.refl _

/-- Adding a run keeps all items and adds those of the run. -/
theorem Pending.perm_of_push? {less : α → α → Option Bool} {total : Nat} {p q : Pending α}
    {run : List α} (h : p.push? less total run = some q) : q.items.Perm (p.items ++ run) := by
  obtain ⟨stack, threshold⟩ := p
  cases stack with
  | nil =>
    obtain rfl : ⟨[⟨run, 0⟩], threshold⟩ = q := by simpa [push?] using h
    simp [items]
  | cons top below =>
    obtain ⟨settled, hsettled, rfl⟩ := Option.map_eq_some_iff.1 h
    exact ((perm_of_settled? hsettled).append_left run).trans List.perm_append_comm

/-- Adding runs one after the other keeps all items. -/
theorem perm_of_foldlM_push? {less : α → α → Option Bool} {total : Nat}
    {runs : List (List α)} {p q : Pending α}
    (h : runs.foldlM (Pending.push? less total) p = some q) :
    q.items.Perm (p.items ++ runs.flatten) := by
  induction runs generalizing p with
  | nil =>
    obtain rfl : p = q := by simpa using h
    simp
  | cons run rest ih =>
    rw [List.foldlM_cons] at h
    obtain ⟨next, hnext, hrest⟩ := Option.bind_eq_some_iff.1 h
    refine (ih hrest).trans (((Pending.perm_of_push? hnext).append_right _).trans ?_)
    rw [List.flatten_cons, List.append_assoc]

/-- Merging all runs keeps all items. -/
theorem perm_of_collapsed? {less : α → α → Option Bool} {threshold : Nat}
    {runs : List (List α)} {result : List α} (h : collapsed? less threshold runs = some result) :
    result.Perm runs.flatten := by
  fun_induction collapsed? less threshold runs with
  | case1 =>
    obtain rfl : [] = result := by simpa using h
    exact List.Perm.refl _
  | case2 threshold last =>
    obtain rfl : last = result := by simpa using h
    simp
  | case3 threshold last middle =>
    obtain ⟨r, hr, rfl⟩ := Option.map_eq_some_iff.1 h
    simpa using (perm_of_merged? hr).trans List.perm_append_comm
  | case4 threshold last middle first rest _ ih =>
    obtain ⟨r, hr, hrest⟩ := Option.bind_eq_some_iff.1 h
    refine (ih r hrest).trans ?_
    simp only [List.flatten_cons]
    rw [← List.append_assoc middle]
    exact (((perm_of_merged? hr).trans List.perm_append_comm).append_right _).append_left _
  | case5 threshold last middle first rest _ ih =>
    obtain ⟨r, hr, hrest⟩ := Option.bind_eq_some_iff.1 h
    refine (ih r hrest).trans ?_
    simp only [List.flatten_cons]
    rw [← List.append_assoc last]
    exact ((perm_of_merged? hr).trans List.perm_append_comm).append_right _

/-- Sorting keeps all items. -/
theorem perm_of_sorted? {less : α → α → Option Bool} {items result : List α}
    (h : sorted? less items = some result) : result.Perm items := by
  obtain ⟨runs, hruns, h⟩ := Option.bind_eq_some_iff.1 h
  obtain ⟨p, hp, hresult⟩ := Option.bind_eq_some_iff.1 h
  refine (perm_of_collapsed? hresult).trans ((perm_of_foldlM_push? hp).trans ?_)
  exact perm_of_runs? hruns

end BoundSql.Sorting
