import BoundSql.Proofs.EqualKeys
import BoundSql.Proofs.MergedData
import BoundSql.Value.Shown
import Mathlib.Data.List.Induction

/-!
# Replayed entries

Entries that are put in one after the other leave one entry for each key. It stands where
the key was first given, and holds the value that was given last under the key or under one
equal to it.
-/

namespace BoundSql

/-- A last value is kept when no value in front of it is equal to it. -/
theorem eraseDupsBy_concat {α : Type} (r : α → α → Bool) (values : List α) (v : α) :
    (values ++ [v]).eraseDupsBy r =
      if (values.eraseDupsBy r).any (r v) then values.eraseDupsBy r
      else values.eraseDupsBy r ++ [v] := by
  have hloop : ∀ kept, List.eraseDupsBy.loop r (values ++ [v]) kept =
      if (List.eraseDupsBy.loop r values kept).any (r v) then List.eraseDupsBy.loop r values kept
      else List.eraseDupsBy.loop r values kept ++ [v] := by
    induction values with
    | nil =>
      intro kept
      cases h : kept.any (r v) <;> simp [List.eraseDupsBy.loop, h]
    | cons w rest ih =>
      intro kept
      rw [List.cons_append]
      unfold List.eraseDupsBy.loop
      split
      · exact ih kept
      · exact ih (w :: kept)
  exact hloop []

namespace Entries

/-- Entries are what is left of others that were given one after the other. -/
structure Replays (entries given : Entries) : Prop where
  /-- The keys are those that were given, in the order in which they were first given. -/
  keys : entries.map Prod.fst = (given.map Prod.fst).eraseDupsBy fun key first => first.same key
  /-- No two keys are equal. -/
  distinct : (entries.map Prod.fst).Pairwise fun k l => k.same l = false ∧ l.same k = false
  /-- Each value is the last one that was given under the key or under one equal to it. -/
  last : ∀ e ∈ entries, ∃ before key behind, given = before ++ (key, e.2) :: behind ∧
    (key = e.1 ∨ e.1.same key = true) ∧ ∀ later ∈ behind, e.1.same later.1 = false

/-- The names of columns that are replayed are different when they are texts. -/
theorem Replays.nodup_shown {entries given : Entries} (h : entries.Replays given)
    (htexts : ∀ e ∈ entries, ∃ name, e.1 = .text name) :
    (entries.map fun e => e.1.shown).Nodup := by
  have hdistinct := List.pairwise_map.1 h.distinct
  refine List.pairwise_map.2 (hdistinct.imp_of_mem ?_)
  intro e f he hf hne
  obtain ⟨name, hname⟩ := htexts e he
  obtain ⟨other, hother⟩ := htexts f hf
  rw [hname, hother] at hne ⊢
  simpa [Value.same] using hne.1

/-- A value takes the place of the one under the first key that is equal to its own, and
stands behind all others when there is none. -/
theorem put_cases (key value : Value) (entries : Entries) :
    ((∀ e ∈ entries, e.1.same key = false) ∧ entries.put key value = entries ++ [(key, value)]) ∨
      ∃ front k v back, entries = front ++ (k, v) :: back ∧ k.same key = true ∧
        (∀ e ∈ front, e.1.same key = false) ∧
        entries.put key value = front ++ (k, value) :: back := by
  induction entries with
  | nil => exact .inl ⟨by simp, rfl⟩
  | cons e rest ih =>
    obtain ⟨k, v⟩ := e
    rw [put]
    by_cases hsame : k.same key = true
    · rw [if_pos hsame]
      exact .inr ⟨[], k, v, rest, rfl, hsame, by simp, rfl⟩
    · rw [if_neg hsame]
      have hfirst : k.same key = false := Bool.eq_false_iff.2 hsame
      rcases ih with ⟨hnone, hput⟩ | ⟨front, k', v', back, rfl, hsame', hfront, hput⟩
      · exact .inl ⟨List.forall_mem_cons.2 ⟨hfirst, hnone⟩, by rw [hput, List.cons_append]⟩
      · refine .inr ⟨(k, v) :: front, k', v', back, rfl, hsame', ?_, ?_⟩
        · exact List.forall_mem_cons.2 ⟨hfirst, hfront⟩
        · rw [hput, List.cons_append]

/-- Distinct keys stay distinct when a value is put in. -/
theorem distinct_put {entries : Entries} {key value : Value} (hkey : key.IsKey)
    (hentries : ∀ e ∈ entries, e.1.IsKey)
    (h : (entries.map Prod.fst).Pairwise fun k l => k.same l = false ∧ l.same k = false) :
    ((entries.put key value).map Prod.fst).Pairwise
      fun k l => k.same l = false ∧ l.same k = false := by
  rcases put_cases key value entries with ⟨hnone, hput⟩ | ⟨front, k, v, back, rfl, -, -, hput⟩
  · rw [hput, List.map_append, List.pairwise_append]
    refine ⟨h, List.pairwise_singleton _ _, ?_⟩
    rintro k hk l hl
    obtain ⟨e, he, rfl⟩ := List.mem_map.1 hk
    obtain rfl := List.mem_singleton.1 hl
    exact ⟨hnone e he, hkey.not_same_symm (hnone e he)⟩
  · rw [hput]
    simpa using h

/-- Putting in one more entry replays one more. -/
theorem Replays.put {entries given : Entries} (h : entries.Replays given)
    (hentries : ∀ e ∈ entries, e.1.IsKey) {key value : Value} (hkey : key.IsKey) :
    (entries.put key value).Replays (given ++ [(key, value)]) where
  keys := by
    rw [map_fst_put, List.map_append, List.map_singleton, eraseDupsBy_concat, ← h.keys,
      List.any_map]
    rfl
  distinct := distinct_put hkey hentries h.distinct
  last := by
    -- An entry whose key is not given again keeps its value.
    have hkept : ∀ e ∈ entries, e.1.same key = false → ∃ before k behind,
        given ++ [(key, value)] = before ++ (k, e.2) :: behind ∧
          (k = e.1 ∨ e.1.same k = true) ∧ ∀ later ∈ behind, e.1.same later.1 = false := by
      intro e he hother
      obtain ⟨before, k, behind, rfl, hk, hbehind⟩ := h.last e he
      refine ⟨before, k, behind ++ [(key, value)], by simp, hk, ?_⟩
      intro later hlater
      rcases List.mem_append.1 hlater with hlater | hlater
      · exact hbehind later hlater
      · rwa [List.mem_singleton.1 hlater]
    rcases put_cases key value entries with
      ⟨hnone, hput⟩ | ⟨front, k, v, back, rfl, hsame, hfront, hput⟩
    · rw [hput]
      intro e he
      rcases List.mem_append.1 he with he | he
      · exact hkept e he (hnone e he)
      · obtain rfl := List.mem_singleton.1 he
        exact ⟨given, key, [], rfl, .inl rfl, by simp⟩
    · rw [hput]
      intro e he
      rcases List.mem_append.1 he with he | he
      · exact hkept e (by simp [he]) (hfront e he)
      · rcases List.mem_cons.1 he with rfl | he
        · exact ⟨given, key, [], rfl, .inr hsame, by simp⟩
        · -- Its key would be equal to the one whose value is replaced.
          have hmem : e ∈ front ++ (k, v) :: back := by simp [he]
          have hdistinct := h.distinct
          rw [List.map_append, List.map_cons] at hdistinct
          have hne := (List.pairwise_cons.1 (List.pairwise_append.1 hdistinct).2.1).1 e.1
            (List.mem_map_of_mem he)
          refine hkept e hmem (Bool.eq_false_iff.2 fun hagain => ?_)
          have hk : k.IsKey := hentries (k, v) (by simp)
          have hequal := (hentries e hmem).same_of_same hk hsame hagain
          simp [hne.1] at hequal

/-- Entries that are put in where there are none are replayed. -/
theorem replays_putAll {given : Entries} (hgiven : ∀ e ∈ given, e.1.IsKey) :
    (putAll [] given).Replays given := by
  induction given using List.reverseRecOn with
  | nil => exact ⟨rfl, List.Pairwise.nil, by simp [putAll]⟩
  | append_singleton given e ih =>
    have hbefore : ∀ e ∈ given, e.1.IsKey := fun e he => hgiven e (List.mem_append_left _ he)
    have hentries : ∀ e ∈ putAll [] given, e.1.IsKey := fun e he =>
      (forall_mem_putAll (V := fun _ => True) (by simp) (fun e he => ⟨hbefore e he, trivial⟩)
        e he).1
    rw [putAll_append]
    exact (ih hbefore).put hentries (hgiven e (by simp))

end Entries

end BoundSql
