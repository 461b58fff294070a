import BoundSql.Text.CodeRanges

/-!
# Blank characters, words and trimming

Twenty-nine characters count as blank: the white space of Unicode and the four
separators U+001C to U+001F. A text is cut into words at its blanks, and blanks
are trimmed from both of its ends.
-/

namespace BoundSql.Text

/-- The blank characters. -/
def blankRanges : List (Nat × Nat) :=
  [(0x09, 0x0D), (0x1C, 0x20), (0x85, 0x85), (0xA0, 0xA0), (0x1680, 0x1680),
    (0x2000, 0x200A), (0x2028, 0x2029), (0x202F, 0x202F), (0x205F, 0x205F),
    (0x3000, 0x3000)]

/-- Whether the character is blank. -/
def isBlank (c : Char) : Bool :=
  inRanges blankRanges c.toNat

/-- Words of a text whose last word so far, possibly still empty, is given. -/
def wordsFrom (word : List Char) : List Char → List (List Char)
  | [] => if word.isEmpty then [] else [word]
  | c :: rest =>
    if isBlank c then
      if word.isEmpty then wordsFrom [] rest else word :: wordsFrom [] rest
    else wordsFrom (word ++ [c]) rest

/-- The maximal runs of characters that are not blank, in order. -/
def words (text : List Char) : List (List Char) :=
  wordsFrom [] text

/-- The text without the blanks at its two ends. -/
def trim (text : List Char) : List Char :=
  ((text.dropWhile isBlank).reverse.dropWhile isBlank).reverse

/-- Every character that the core library calls white space is blank. -/
theorem isBlank_of_isWhitespace {c : Char} (h : c.isWhitespace = true) : isBlank c = true := by
  simp only [Char.isWhitespace, Bool.or_eq_true, decide_eq_true_eq] at h
  rcases h with ((h | h) | h) | h <;> subst h <;> decide

/-- The ranges are well formed. -/
theorem ascending_blankRanges : ascending blankRanges = true := by decide

/-- Words are cut out without losing a character that is not blank. -/
theorem flatten_wordsFrom (word text : List Char) :
    (wordsFrom word text).flatten = word ++ text.filter fun c => !isBlank c := by
  induction text generalizing word with
  | nil =>
    rw [wordsFrom]
    split
    · next h => simp [List.isEmpty_iff.1 h]
    · simp
  | cons c rest ih =>
    rw [wordsFrom]
    split
    · next hblank =>
      split
      · next h => simp [ih, hblank, List.isEmpty_iff.1 h]
      · simp [ih, hblank]
    · next hblank => simp [ih, hblank]

/-- A text is the same as the text of its words up to blanks. -/
theorem flatten_words (text : List Char) :
    (words text).flatten = text.filter fun c => !isBlank c :=
  flatten_wordsFrom [] text

/-- No word is empty. -/
theorem ne_nil_of_mem_wordsFrom {word text w : List Char} (h : w ∈ wordsFrom word text) :
    w ≠ [] := by
  induction text generalizing word with
  | nil =>
    rw [wordsFrom] at h
    split at h
    · simp at h
    · next hword =>
      rw [List.mem_singleton] at h
      subst h
      exact fun hnil => hword (List.isEmpty_iff.2 hnil)
  | cons c rest ih =>
    rw [wordsFrom] at h
    split at h
    · split at h
      · exact ih h
      · next hword =>
        rcases List.mem_cons.1 h with rfl | h
        · exact fun hnil => hword (List.isEmpty_iff.2 hnil)
        · exact ih h
    · exact ih h

/-- A character of a word is not blank, if none of the word so far is. -/
theorem isBlank_of_mem_wordsFrom {word text w : List Char} {c : Char}
    (hword : ∀ d ∈ word, isBlank d = false) (hw : w ∈ wordsFrom word text) (hc : c ∈ w) :
    isBlank c = false := by
  have hflat : c ∈ (wordsFrom word text).flatten := List.mem_flatten.2 ⟨w, hw, hc⟩
  rw [flatten_wordsFrom, List.mem_append] at hflat
  rcases hflat with hc | hc
  · exact hword c hc
  · simpa using (List.mem_filter.1 hc).2

end BoundSql.Text
