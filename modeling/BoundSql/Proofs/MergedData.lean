import BoundSql.Value.Entries
import BoundSql.Proofs.Result
import Mathlib.Data.List.TakeWhile

/-!
# Data after a merge

Data is made of entries that were put in one after the other. A merge puts in what a value
gives up to the item that ends it. Each key of the data is one that was put in, and so is
each of its values, though the two need not have come together: a key that is given again
keeps its place and takes the new value.
-/

namespace BoundSql.Entries

/-- The entry that an item is, if it is a pair. -/
def pair? (item : Value) : Option (Value × Value) :=
  (pair item).toOption

/-- The entries that a value brings when it is merged: those of a mapping, or the pairs
among the items that are read of it. -/
def pairsOf : Value → Entries
  | .mapping added => added
  | data => data.reading.1.filterMap pair?

/-- The entry that an item gives when it is put in: it has to be a pair with a key in
front. -/
def given? (item : Value) : Option (Value × Value) :=
  (pair? item).filter fun e => e.1.canBeKey

/-- The entries that items give, up to the first item that gives none. -/
def leading (items : List Value) : Entries :=
  (items.takeWhile fun item => (given? item).isSome).filterMap given?

/-- The entries that are put in when a value is merged: those of a mapping, or those that
the items give that are read of it, up to the item that ends the merge if one does. -/
def brought : Value → Entries
  | .mapping added => added
  | data => leading data.reading.1

/-- Entries with others put in one after the other. -/
def putAll (entries given : Entries) : Entries :=
  given.foldl (fun entries e => entries.put e.1 e.2) entries

/-- Data that is no mapping is merged by its items. -/
theorem merge_of_not_mapping (entries : Entries) {data : Value}
    (h : ∀ added, data ≠ .mapping added) :
    entries.merge data = match entries.putPairs data.reading.1 with
      | (merged, none) => (merged, data.reading.2)
      | (merged, some misuse) => (merged, some misuse) := by
  unfold merge
  split
  · next added => exact absurd rfl (h added)
  · rfl

/-- A value that is no mapping brings what its items give. -/
theorem brought_of_not_mapping {data : Value} (h : ∀ added, data ≠ .mapping added) :
    brought data = leading data.reading.1 := by
  unfold brought
  split
  · next added => exact absurd rfl (h added)
  · rfl

/-- The entry of the first item stands in front of those of the others. -/
theorem leading_cons_of_some {item : Value} {e : Value × Value} (h : given? item = some e)
    (rest : List Value) : leading (item :: rest) = e :: leading rest := by
  unfold leading
  rw [List.takeWhile_cons_of_pos (by simp [h]), List.filterMap_cons_some h]

/-- Nothing is given behind an item that gives no entry. -/
theorem leading_cons_of_none {item : Value} (h : given? item = none) (rest : List Value) :
    leading (item :: rest) = [] := by
  unfold leading
  rw [List.takeWhile_cons_of_neg (by simp [h])]
  rfl

/-- Behind items that all give an entry, the others give what they give on their own. -/
theorem leading_append {items : List Value} (h : ∀ item ∈ items, (given? item).isSome = true)
    (others : List Value) : leading (items ++ others) = leading items ++ leading others := by
  unfold leading
  rw [List.takeWhile_append_of_pos h, List.takeWhile_eq_self_iff.2 h, List.filterMap_append]

/-- What is brought is among the pairs that a value holds. -/
theorem mem_pairsOf_of_mem_brought {data : Value} {e : Value × Value} (h : e ∈ brought data) :
    e ∈ pairsOf data := by
  have hread : ∀ items, e ∈ leading items → e ∈ items.filterMap pair? := by
    intro items he
    obtain ⟨item, hitem, hentry⟩ := List.mem_filterMap.1 he
    have hpair : pair? item = some e := (Option.filter_eq_some_iff.1 hentry).1
    exact List.mem_filterMap.2 ⟨item, (List.takeWhile_prefix _).subset hitem, hpair⟩
  cases data with
  | mapping added => exact h
  | _ => exact hread _ h

/-- Entries can be put in in two runs. -/
theorem putAll_append (entries given others : Entries) :
    entries.putAll (given ++ others) = (entries.putAll given).putAll others :=
  List.foldl_append

/-- Items are put in up to the first one that gives no entry. -/
theorem fst_putPairs (entries : Entries) (items : List Value) :
    (entries.putPairs items).1 = entries.putAll (leading items) := by
  induction items generalizing entries with
  | nil => rfl
  | cons item rest ih =>
    rw [putPairs]
    cases hpair : pair item with
    | error misuse =>
      have hentry : given? item = none := by simp [given?, pair?, hpair, Except.toOption]
      rw [leading_cons_of_none hentry]
      rfl
    | ok e =>
      obtain ⟨key, value⟩ := e
      dsimp only
      split
      · next hkey =>
        have hentry : given? item = some (key, value) := by
          simp [given?, pair?, hpair, Except.toOption, hkey]
        rw [leading_cons_of_some hentry, ih]
        rfl
      · next hkey =>
        have hentry : given? item = none := by
          simp [given?, pair?, hpair, Except.toOption, hkey]
        rw [leading_cons_of_none hentry]
        rfl

/-- A merge puts in what the value brings. -/
theorem fst_merge (entries : Entries) (data : Value) :
    (entries.merge data).1 = entries.putAll (brought data) := by
  by_cases hdata : ∃ added, data = .mapping added
  · obtain ⟨added, rfl⟩ := hdata
    rfl
  · have hother : ∀ added, data ≠ .mapping added := fun added h => hdata ⟨added, h⟩
    have hput := fst_putPairs entries data.reading.1
    rw [merge_of_not_mapping entries hother, brought_of_not_mapping hother, ← hput]
    split <;> rename_i h <;> rw [h]

variable {K V : Value → Prop}

/-- What holds of all keys and of all values still does when a value is put under a key. -/
theorem forall_mem_put {entries : Entries} {key value : Value}
    (h : ∀ e ∈ entries, K e.1 ∧ V e.2) (hkey : K key) (hvalue : V value) :
    ∀ e ∈ entries.put key value, K e.1 ∧ V e.2 := by
  induction entries with
  | nil =>
    intro e he
    rw [put, List.mem_singleton] at he
    subst he
    exact ⟨hkey, hvalue⟩
  | cons first rest ih =>
    obtain ⟨k, v⟩ := first
    have hfirst := h _ List.mem_cons_self
    have hrest := fun e he => h e (List.mem_cons_of_mem _ he)
    intro e he
    rw [put] at he
    by_cases hsame : k.same key = true
    · rw [if_pos hsame, List.mem_cons] at he
      rcases he with rfl | he
      · exact ⟨hfirst.1, hvalue⟩
      · exact hrest e he
    · rw [if_neg hsame, List.mem_cons] at he
      rcases he with rfl | he
      · exact hfirst
      · exact ih hrest e he

/-- What holds of all keys and of all values still does when entries are put in. -/
theorem forall_mem_putAll {entries given : Entries} (h : ∀ e ∈ entries, K e.1 ∧ V e.2)
    (hgiven : ∀ e ∈ given, K e.1 ∧ V e.2) : ∀ e ∈ entries.putAll given, K e.1 ∧ V e.2 := by
  induction given generalizing entries with
  | nil => exact h
  | cons first rest ih =>
    have hfirst := hgiven _ List.mem_cons_self
    exact ih (forall_mem_put h hfirst.1 hfirst.2) fun e he => hgiven e (List.mem_cons_of_mem _ he)

/-- What holds of all keys and of all values still does when data is merged that it
holds of as well, up to the item that ends the merge if one does. -/
theorem forall_mem_merge {entries : Entries} {data : Value}
    (h : ∀ e ∈ entries, K e.1 ∧ V e.2) (hdata : ∀ e ∈ pairsOf data, K e.1 ∧ V e.2) :
    ∀ e ∈ (entries.merge data).1, K e.1 ∧ V e.2 := by
  rw [fst_merge]
  exact forall_mem_putAll h fun e he => hdata e (mem_pairsOf_of_mem_brought he)

end BoundSql.Entries
