import BoundSql.Sorting.Stretch

/-!
# Cutting a list into ascending runs

A list is cut where it stops ascending, or, where it begins with a descent, where it
stops descending; a descent is turned round. A run that comes out too short
takes in further items, each of which is put in its place by halving.
-/

namespace BoundSql.Sorting

variable {α : Type}

/-- The longest first part of a list in which every item, the first one seen from the
given one, is less than the one in front of it or is not, as wanted; and the rest. -/
def chain? (less : α → α → Option Bool) (descends : Bool) (before : α) :
    List α → Option (List α × List α)
  | [] => some ([], [])
  | x :: rest =>
    (less x before).bind fun b =>
      if b = descends then
        (chain? less descends x rest).map fun parts => (x :: parts.1, parts.2)
      else some ([], x :: rest)

/-- The longest ascent that a list begins with, or the longest descent turned round, and
the rest of the list. -/
def firstRun? (less : α → α → Option Bool) : List α → Option (List α × List α)
  | x :: y :: rest =>
    (less y x).bind fun descends =>
      (chain? less descends x (y :: rest)).map fun parts =>
        (if descends then (x :: parts.1).reverse else x :: parts.1, parts.2)
  | items => some (items, [])

/-- An ascending run with one more item, behind all that are not greater. -/
def placed? (less : α → α → Option Bool) (run : List α) (x : α) : Option (List α) :=
  (halved? (fun y => (less x y).map not) run).map fun k => run.take k ++ x :: run.drop k

/-- The first run of a list, filled up to a length from what is behind it, and the rest of
the list. -/
def filledRun? (less : α → α → Option Bool) (length : Nat) (items : List α) :
    Option (List α × List α) :=
  (firstRun? less items).bind fun parts =>
    ((parts.2.take (length - parts.1.length)).foldlM (placed? less) parts.1).map fun run =>
      (run, parts.2.drop (length - parts.1.length))

/-- A chain and the rest make up the list. -/
theorem append_eq_of_chain? {less : α → α → Option Bool} {descends : Bool} {before : α}
    {items : List α} {parts : List α × List α}
    (h : chain? less descends before items = some parts) : parts.1 ++ parts.2 = items := by
  induction items generalizing before parts with
  | nil =>
    obtain rfl : ([], []) = parts := by simpa [chain?] using h
    rfl
  | cons x rest ih =>
    simp only [chain?] at h
    obtain ⟨b, -, h⟩ := Option.bind_eq_some_iff.1 h
    split at h
    · obtain ⟨parts', hparts, rfl⟩ := Option.map_eq_some_iff.1 h
      simp only [List.cons_append, ih hparts]
    · obtain rfl : ([], x :: rest) = parts := by simpa using h
      rfl

/-- The first run and the rest have all items of the list. -/
theorem perm_of_firstRun? {less : α → α → Option Bool} {items : List α}
    {parts : List α × List α} (h : firstRun? less items = some parts) :
    (parts.1 ++ parts.2).Perm items := by
  unfold firstRun? at h
  split at h
  · rename_i x y rest
    obtain ⟨descends, -, h⟩ := Option.bind_eq_some_iff.1 h
    obtain ⟨parts', hparts, rfl⟩ := Option.map_eq_some_iff.1 h
    have hitems : x :: parts'.1 ++ parts'.2 = x :: y :: rest := by
      rw [List.cons_append, append_eq_of_chain? hparts]
    rw [← hitems]
    cases descends with
    | true => exact (List.reverse_perm _).append_right _
    | false => exact List.Perm.refl _
  · obtain rfl : (items, []) = parts := by simpa using h
    rw [List.append_nil]

/-- The first run of a list takes something. -/
theorem length_pos_of_firstRun? {less : α → α → Option Bool} {x : α} {rest : List α}
    {parts : List α × List α} (h : firstRun? less (x :: rest) = some parts) :
    0 < parts.1.length := by
  unfold firstRun? at h
  split at h
  · obtain ⟨descends, -, h⟩ := Option.bind_eq_some_iff.1 h
    obtain ⟨parts', -, rfl⟩ := Option.map_eq_some_iff.1 h
    cases descends <;> simp
  · obtain rfl : (x :: rest, []) = parts := by simpa using h
    simp

/-- Placing an item keeps all items and adds the one. -/
theorem perm_of_placed? {less : α → α → Option Bool} {run result : List α} {x : α}
    (h : placed? less run x = some result) : result.Perm (x :: run) := by
  obtain ⟨k, -, rfl⟩ := Option.map_eq_some_iff.1 h
  refine List.perm_middle.trans ?_
  rw [List.take_append_drop]

/-- Placing items one after the other keeps all of them. -/
theorem perm_of_foldlM_placed? {less : α → α → Option Bool} {items run result : List α}
    (h : items.foldlM (placed? less) run = some result) : result.Perm (run ++ items) := by
  induction items generalizing run with
  | nil =>
    obtain rfl : run = result := by simpa using h
    rw [List.append_nil]
  | cons x rest ih =>
    rw [List.foldlM_cons] at h
    obtain ⟨placed, hplaced, hrest⟩ := Option.bind_eq_some_iff.1 h
    exact ((ih hrest).trans ((perm_of_placed? hplaced).append_right rest)).trans
      List.perm_middle.symm

/-- A filled run and the rest have all items of the list. -/
theorem perm_of_filledRun? {less : α → α → Option Bool} {length : Nat} {items : List α}
    {parts : List α × List α} (h : filledRun? less length items = some parts) :
    (parts.1 ++ parts.2).Perm items := by
  obtain ⟨first, hfirst, h⟩ := Option.bind_eq_some_iff.1 h
  obtain ⟨run, hrun, rfl⟩ := Option.map_eq_some_iff.1 h
  refine ((perm_of_foldlM_placed? hrun).append_right _).trans ?_
  rw [List.append_assoc, List.take_append_drop]
  exact perm_of_firstRun? hfirst

/-- What a filled run leaves is shorter than the list. -/
theorem length_lt_of_filledRun? {less : α → α → Option Bool} {length : Nat} {x : α}
    {rest : List α} {parts : List α × List α}
    (h : filledRun? less length (x :: rest) = some parts) :
    parts.2.length < (x :: rest).length := by
  obtain ⟨first, hfirst, h⟩ := Option.bind_eq_some_iff.1 h
  obtain ⟨run, -, rfl⟩ := Option.map_eq_some_iff.1 h
  have hlength := (perm_of_firstRun? hfirst).length_eq
  have hpos := length_pos_of_firstRun? hfirst
  simp only [List.length_append, List.length_drop] at hlength ⊢
  omega

/-- A list cut into runs of at least a length, the last one apart. -/
def runs? (less : α → α → Option Bool) (length : Nat) (items : List α) :
    Option (List (List α)) :=
  match items with
  | [] => some []
  | x :: rest =>
    (filledRun? less length (x :: rest)).attach.bind fun parts =>
      (runs? less length parts.1.2).map (parts.1.1 :: ·)
termination_by items.length
decreasing_by exact length_lt_of_filledRun? parts.2

/-- The runs have all items of the list. -/
theorem perm_of_runs? {less : α → α → Option Bool} {length : Nat} {items : List α}
    {runs : List (List α)} (h : runs? less length items = some runs) :
    runs.flatten.Perm items := by
  fun_induction runs? less length items generalizing runs with
  | case1 =>
    obtain rfl : [] = runs := by simpa using h
    exact List.Perm.refl _
  | case2 x rest ih =>
    obtain ⟨parts, -, h⟩ := Option.bind_eq_some_iff.1 h
    obtain ⟨others, hothers, rfl⟩ := Option.map_eq_some_iff.1 h
    rw [List.flatten_cons]
    exact ((ih parts hothers).append_left _).trans (perm_of_filledRun? parts.2)

end BoundSql.Sorting
