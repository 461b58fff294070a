import BoundSql.Identifier
import BoundSql.Value.Items
import Mathlib.Data.List.TakeWhile

/-!
# The grammar of identifiers

What an identifier is, said character by character and without a search for the dot: a name,
or two names with a dot between them. The check of identifiers accepts exactly these.
-/

namespace BoundSql

namespace Identifier

/-- An ASCII digit. -/
def IsDigit (c : Char) : Prop :=
  '0' ≤ c ∧ c ≤ '9'

/-- An ASCII letter, an ASCII digit or an underscore. -/
def IsWordChar (c : Char) : Prop :=
  ('a' ≤ c ∧ c ≤ 'z') ∨ ('A' ≤ c ∧ c ≤ 'Z') ∨ IsDigit c ∨ c = '_'

/-- One or more letters, digits and underscores, of which the first is not a digit. -/
structure IsName (text : List Char) : Prop where
  /-- There is a character. -/
  ne_nil : text ≠ []
  /-- Every character is a letter, a digit or an underscore. -/
  isWordChar : ∀ c ∈ text, IsWordChar c
  /-- The first character is not a digit. -/
  first : ∀ c ∈ text.head?, ¬ IsDigit c

/-- A name, or two names with a dot between them. -/
def IsIdentifier (text : List Char) : Prop :=
  IsName text ∨ ∃ first second, text = first ++ '.' :: second ∧ IsName first ∧ IsName second

/-- The digits are ten neighbours. -/
theorem isDigit_iff (c : Char) : c.isDigit = true ↔ IsDigit c := by
  change (decide ('0' ≤ c) && decide (c ≤ '9')) = true ↔ _
  simp only [Bool.and_eq_true, decide_eq_true_eq, IsDigit]

/-- The letters are two runs of neighbours. -/
theorem isAlpha_iff (c : Char) :
    c.isAlpha = true ↔ ('A' ≤ c ∧ c ≤ 'Z') ∨ ('a' ≤ c ∧ c ≤ 'z') := by
  change (decide ('A' ≤ c ∧ c ≤ 'Z') || (decide ('a' ≤ c) && decide (c ≤ 'z'))) = true ↔ _
  simp only [Bool.or_eq_true, Bool.and_eq_true, decide_eq_true_eq]

/-- The characters of names are those that the check allows in them. -/
theorem isNameChar_iff (c : Char) : isNameChar c = true ↔ IsWordChar c := by
  simp only [isNameChar, IsWordChar, Char.isAlphanum, Bool.or_eq_true, beq_iff_eq, isAlpha_iff,
    isDigit_iff]
  grind

/-- A letter is not a digit. -/
theorem not_isDigit_of_isAlpha {c : Char} (h : c.isAlpha = true) : ¬ IsDigit c := by
  intro hdigit
  rcases (isAlpha_iff c).1 h with hupper | hlower
  · exact absurd (Char.le_trans hupper.1 hdigit.2) (by decide)
  · exact absurd (Char.le_trans hlower.1 hdigit.2) (by decide)

/-- A name may begin with those of its characters that are not digits. -/
theorem isNameStart_iff (c : Char) : isNameStart c = true ↔ IsWordChar c ∧ ¬ IsDigit c := by
  rw [← isNameChar_iff]
  simp only [isNameStart, isNameChar, Char.isAlphanum, Bool.or_eq_true, beq_iff_eq, isDigit_iff]
  constructor
  · intro h
    rcases h with h | rfl
    · exact ⟨Or.inl (Or.inl h), not_isDigit_of_isAlpha h⟩
    · exact ⟨Or.inr rfl, by simp [IsDigit]⟩
  · rintro ⟨(h | h) | h, hdigit⟩
    · exact Or.inl h
    · exact absurd h hdigit
    · exact Or.inr h

/-- The check of names accepts the names. -/
theorem isName_iff (text : List Char) : isName text = true ↔ IsName text := by
  cases text with
  | nil =>
    constructor
    · intro h
      cases h
    · intro h
      exact absurd rfl h.ne_nil
  | cons c rest =>
    simp only [isName, Bool.and_eq_true, List.all_eq_true, isNameStart_iff, isNameChar_iff]
    constructor
    · rintro ⟨⟨hc, hdigit⟩, hrest⟩
      exact ⟨List.cons_ne_nil c rest, List.forall_mem_cons.2 ⟨hc, hrest⟩, by simpa using hdigit⟩
    · intro h
      obtain ⟨hc, hrest⟩ := List.forall_mem_cons.1 h.isWordChar
      exact ⟨⟨hc, h.first c rfl⟩, hrest⟩

/-- A dot is no character of a name. -/
theorem IsName.ne_dot {text : List Char} (h : IsName text) {c : Char} (hc : c ∈ text) :
    c ≠ '.' := by
  rintro rfl
  have hdot := (isNameChar_iff '.').2 (h.isWordChar '.' hc)
  exact absurd hdot (by decide)

/-- The check accepts a text exactly when it is a name or two names with a dot between
them. -/
theorem isWellFormed_iff (text : List Char) : isWellFormed text = true ↔ IsIdentifier text := by
  unfold isWellFormed IsIdentifier
  constructor
  · intro h
    split at h
    · exact Or.inl ((isName_iff text).1 h)
    · next c rest hrest =>
      obtain ⟨hfirst, hsecond⟩ := Bool.and_eq_true_iff.1 h
      have hc : c = '.' := by
        have hhead := List.head?_dropWhile_not (· != '.') text
        rw [hrest] at hhead
        simpa using hhead
      have htext := List.takeWhile_append_dropWhile (p := (· != '.')) (l := text)
      rw [hrest, hc] at htext
      exact Or.inr ⟨_, _, htext.symm, (isName_iff _).1 hfirst, (isName_iff _).1 hsecond⟩
  · rintro (h | ⟨first, second, rfl, hfirst, hsecond⟩)
    · have hdots : ∀ c ∈ text, (c != '.') = true := fun c hc => by simpa using h.ne_dot hc
      rw [List.dropWhile_eq_nil_iff.2 hdots]
      exact (isName_iff text).2 h
    · have hdots : ∀ c ∈ first, (c != '.') = true := fun c hc => by simpa using hfirst.ne_dot hc
      rw [List.dropWhile_append_of_pos hdots, List.takeWhile_append_of_pos hdots,
        List.dropWhile_cons_of_neg (by simp), List.takeWhile_cons_of_neg (by simp),
        List.append_nil]
      exact Bool.and_eq_true_iff.2 ⟨(isName_iff _).2 hfirst, (isName_iff _).2 hsecond⟩

/-- The first character of a name is a name. -/
theorem IsName.take_one {text : List Char} (h : IsName text) : IsName (text.take 1) := by
  cases text with
  | nil => exact absurd rfl h.ne_nil
  | cons c rest =>
    have hc := h.isWordChar c List.mem_cons_self
    exact ⟨List.cons_ne_nil c [], by simpa using hc, by simpa using h.first c rfl⟩

/-- The first character of an identifier is a name. -/
theorem IsIdentifier.take_one {text : List Char} (h : IsIdentifier text) :
    IsName (text.take 1) := by
  rcases h with h | ⟨first, second, rfl, hfirst, -⟩
  · exact h.take_one
  · have hlength := List.length_pos_iff.2 hfirst.ne_nil
    rw [List.take_append_of_le_length hlength]
    exact hfirst.take_one

end Identifier

namespace Value

/-- A text that is the identifier of the given name. -/
def Names (v : Value) (name : String) : Prop :=
  v = .text name ∧ Identifier.IsIdentifier name.toList

/-- A text that is an identifier. -/
def IsIdentifier (v : Value) : Prop :=
  ∃ name, v.Names name

/-- The check of values accepts the texts that are identifiers. -/
theorem isIdentifier_iff (v : Value) : v.isIdentifier = true ↔ v.IsIdentifier := by
  unfold IsIdentifier Names
  cases v <;> simp [isIdentifier, Identifier.isWellFormed_iff]

/-- An identifier is not empty. -/
theorem IsIdentifier.isFull {v : Value} (h : v.IsIdentifier) : v.isFull = true := by
  obtain ⟨name, rfl, hname⟩ := h
  rw [isFull_text]
  rintro rfl
  rcases hname with hname | ⟨first, second, hempty, -⟩
  · exact hname.ne_nil rfl
  · simp at hempty

/-- The check returns the text of an identifier. -/
theorem IsIdentifier.checked {v : Value} (h : v.IsIdentifier) :
    checkedIdentifier v = .ok v.shown := by
  obtain ⟨name, rfl, hname⟩ := h
  exact checkedIdentifier_eq_ok_iff.2 ⟨rfl, (Identifier.isWellFormed_iff name.toList).2 hname⟩

end Value

end BoundSql
