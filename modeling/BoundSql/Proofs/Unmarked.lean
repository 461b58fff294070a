import BoundSql.Value.Items
import BoundSql.Value.Shown
import Mathlib.Data.List.Basic

/-!
# Texts without question marks

A value is unmarked when its shown text is without question marks. Numbers are, and
so is whatever is cut out of an unmarked value. Texts that are put together of others
have a question mark only where one of the others has one.
-/

namespace BoundSql

/-- A value that is shown without question marks. -/
def Value.Unmarked (v : Value) : Prop :=
  '?' ∉ v.shown.toList

instance (v : Value) : Decidable v.Unmarked :=
  inferInstanceAs (Decidable ('?' ∉ v.shown.toList))

namespace Text

/-- Two texts have a question mark between them exactly when one of them has. -/
theorem not_mem_append_iff (s t : String) :
    '?' ∉ (s ++ t).toList ↔ '?' ∉ s.toList ∧ '?' ∉ t.toList := by
  rw [String.toList_append, List.mem_append, not_or]

/-- A character that the separator does not have is not in the whole exactly when it is in
none of the texts that are put together. -/
theorem not_mem_intercalate_iff {c : Char} {separator : String} (h : c ∉ separator.toList)
    (texts : List String) :
    c ∉ (separator.intercalate texts).toList ↔ ∀ text ∈ texts, c ∉ text.toList := by
  induction texts with
  | nil => simp
  | cons text rest ih =>
    cases rest with
    | nil => simp
    | cons second rest =>
      rw [String.intercalate_cons_cons, String.toList_append, String.toList_append,
        List.mem_append, List.mem_append, List.forall_mem_cons, ← ih]
      simp only [h, or_false, not_or]

/-- Members between two texts without question marks have one exactly when the whole has. -/
theorem not_mem_enclosed_iff {opening closing : String} (hopening : '?' ∉ opening.toList)
    (hclosing : '?' ∉ closing.toList) (members : List String) :
    '?' ∉ (enclosed opening closing members).toList ↔ ∀ m ∈ members, '?' ∉ m.toList := by
  unfold enclosed
  rw [← not_mem_intercalate_iff (by decide : '?' ∉ ", ".toList), String.toList_append,
    String.toList_append, List.mem_append, List.mem_append]
  simp only [hopening, hclosing, false_or, or_false]

/-- The members of a tuple have a question mark exactly when the tuple has. -/
theorem not_mem_shownTuple_iff (members : List String) :
    '?' ∉ (shownTuple members).toList ↔ ∀ m ∈ members, '?' ∉ m.toList := by
  unfold shownTuple
  split
  · next member =>
    have hopening : '?' ∉ "(".toList := by decide
    have hclosing : '?' ∉ ",)".toList := by decide
    rw [String.toList_append, String.toList_append, List.mem_append, List.mem_append,
      List.forall_mem_singleton]
    simp only [hopening, hclosing, false_or, or_false]
  · exact not_mem_enclosed_iff (by decide) (by decide) members

/-- No digit is a question mark. -/
theorem not_mem_toDigits {base : Nat} (hbase : 1 < base) (n : Nat) :
    '?' ∉ Nat.toDigits base n := by
  have hdigit : ∀ d : Nat, '?' ≠ d.digitChar :=
    fun d => (Nat.digitChar_ne '?' (by decide)).symm
  induction n using Nat.strongRecOn with
  | ind n ih =>
    rw [Nat.toDigits_eq_if hbase]
    by_cases hlt : n < base
    · rw [if_pos hlt, List.mem_singleton]
      exact hdigit n
    · have hless : n / base < n := Nat.div_lt_self (by omega) hbase
      rw [if_neg hlt, List.mem_append, List.mem_singleton]
      intro h
      rcases h with h | h
      · exact ih _ hless h
      · exact hdigit _ h

/-- An integer is written without question marks. -/
theorem not_mem_toString (n : Int) : '?' ∉ (toString n).toList := by
  have hnat : ∀ m : Nat, '?' ∉ m.repr.toList := by
    intro m
    rw [Nat.toList_repr]
    exact not_mem_toDigits (by decide) m
  cases n with
  | ofNat m => exact hnat m
  | negSucc m =>
    have hsign : '?' ∉ "-".toList := by decide
    change '?' ∉ ("-" ++ m.succ.repr).toList
    rw [String.toList_append, List.mem_append]
    intro h
    rcases h with h | h
    · exact hsign h
    · exact hnat _ h

/-- The escape of a code point is without question marks. -/
theorem not_mem_codeEscape (n : Nat) : '?' ∉ codeEscape n := by
  have hdigits : ∀ width, '?' ∉ hexadecimal width n := by
    intro width h
    rcases List.mem_append.1 h with h | h
    · exact absurd (List.mem_replicate.1 h).2 (by decide)
    · exact not_mem_toDigits (by decide) n h
  unfold codeEscape
  split
  · exact fun h => hdigits 2 ((List.mem_append.1 h).resolve_left (by decide))
  · split
    · exact fun h => hdigits 4 ((List.mem_append.1 h).resolve_left (by decide))
    · exact fun h => hdigits 8 ((List.mem_append.1 h).resolve_left (by decide))

/-- Only a question mark is written with a question mark between quotes. -/
theorem mem_escapedChar_iff {printable : Char → Bool} (hprintable : printable '?' = true)
    {quote : Char} (hquote : quote ≠ '?') (c : Char) :
    '?' ∈ escapedChar printable quote c ↔ c = '?' := by
  constructor
  · intro h
    unfold escapedChar at h
    split at h
    · rcases List.mem_cons.1 h with h | h
      · exact absurd h (by decide)
      · exact (List.mem_singleton.1 h).symm
    · split at h
      · exact absurd h (by decide)
      · split at h
        · exact absurd h (by decide)
        · split at h
          · exact absurd h (by decide)
          · split at h
            · exact (List.mem_singleton.1 h).symm
            · exact absurd h (not_mem_codeEscape _)
  · rintro rfl
    have hplain : escapedChar printable quote '?' = ['?'] := by
      unfold escapedChar
      rw [if_neg (by simpa using fun h => hquote h.symm)]
      simp [hprintable]
    rw [hplain]
    exact List.mem_singleton_self _

/-- A text is quoted with a question mark exactly when it has one that is printed as it is. -/
theorem mem_quotedBy_iff {printable : Char → Bool} (hprintable : printable '?' = true)
    (text : List Char) : '?' ∈ quotedBy printable text ↔ '?' ∈ text := by
  have hquote : quoteFor text ≠ '?' := by
    unfold quoteFor
    split <;> decide
  unfold quotedBy
  simp only [List.mem_append, List.mem_singleton, hquote.symm, false_or, or_false,
    List.mem_flatMap, mem_escapedChar_iff hprintable hquote, exists_eq_right]

/-- Bytes are quoted with a question mark exactly when one of them is one. -/
theorem mem_quotedBytes_iff (bytes : List UInt8) :
    '?' ∈ (quotedBytes bytes).toList ↔ '?' ∈ bytes.map fun b => Char.ofNat b.toNat := by
  have hletter : '?' ∉ "b".toList := by decide
  unfold quotedBytes
  rw [String.toList_append, List.mem_append, or_iff_right hletter, String.toList_ofList,
    mem_quotedBy_iff (by decide)]

/-- A range is written without question marks. -/
theorem not_mem_shownRange (start stop step : Int) :
    '?' ∉ (shownRange start stop step).toList := by
  have hall : ∀ numbers : List Int, ∀ m ∈ numbers.map toString, '?' ∉ m.toList := by
    intro numbers m hm
    obtain ⟨n, -, rfl⟩ := List.mem_map.1 hm
    exact not_mem_toString n
  unfold shownRange
  split
  · exact (not_mem_enclosed_iff (by decide) (by decide) _).2 (hall [start, stop])
  · exact (not_mem_enclosed_iff (by decide) (by decide) _).2 (hall [start, stop, step])

end Text

/-- The first item of an unmarked value is unmarked. -/
theorem Value.Unmarked.firstLetter {v letter : Value} (h : v.Unmarked)
    (hletter : v.firstLetter = .ok letter) : letter.Unmarked := by
  have hitems : ∀ items : List Value, (∀ m ∈ quotedItems items, '?' ∉ m.toList) →
      ∀ m ∈ quotedItems (items.take 1), '?' ∉ m.toList := by
    intro items hall m hm
    rw [quotedItems_eq_map, List.map_take, ← quotedItems_eq_map] at hm
    exact hall m (List.mem_of_mem_take hm)
  cases v with
  | text s =>
    cases hletter
    intro hmem
    rw [Value.shown_text, String.toList_ofList] at hmem
    exact h (List.mem_of_mem_take hmem)
  | bytes bs =>
    cases hletter
    intro hmem
    have hcut := (Text.mem_quotedBytes_iff _).1 hmem
    rw [List.map_take] at hcut
    exact h ((Text.mem_quotedBytes_iff _).2 (List.mem_of_mem_take hcut))
  | list items =>
    cases hletter
    have hall := (Text.not_mem_enclosed_iff (by decide) (by decide) _).1 h
    exact (Text.not_mem_enclosed_iff (by decide) (by decide) _).2 (hitems items hall)
  | tuple items =>
    cases hletter
    have hall := (Text.not_mem_shownTuple_iff _).1 h
    exact (Text.not_mem_shownTuple_iff _).2 (hitems items hall)
  | range start stop step =>
    simp only [Value.firstLetter] at hletter
    split at hletter
    · cases hletter
      exact Text.not_mem_shownRange _ _ _
    · cases hletter
      exact Text.not_mem_shownRange _ _ _
  | _ => cases hletter

end BoundSql
