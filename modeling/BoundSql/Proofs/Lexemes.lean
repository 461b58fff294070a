import BoundSql.Identifier
import BoundSql.Operator

/-!
# Texts cut into lexemes

A text is read as lexemes: names, signs of comparison, and marks that stand alone, such
as parentheses, commas and question marks. A name or a sign goes as far as characters of
its kind do. Blanks only keep lexemes apart.
-/

namespace BoundSql

/-- A piece of a text that is read as one. -/
abbrev Lexeme : Type := List Char

namespace Lexeme

/-- The kinds of character that a text is cut by. -/
inductive Kind where
  /-- A blank. -/
  | blank
  /-- A part of a name, also of one with a dot. -/
  | name
  /-- A part of a sign of comparison. -/
  | sign
  /-- A character that stands alone. -/
  | mark
deriving DecidableEq

/-- The kind of a character. -/
def kind (c : Char) : Kind :=
  if Identifier.isNameChar c || c = '.' then .name
  else if Text.isBlank c then .blank
  else if c ∈ ['<', '>', '=', '!'] then .sign
  else .mark

/-- Whether a lexeme that has come to a character goes on with the text behind it. -/
def goesOn (c : Char) (rest : List Char) : Bool :=
  decide (kind c ≠ .mark) && rest.head?.any fun d => decide (kind d = kind c)

/-- The lexemes with a character in front of the first one. -/
def extend (c : Char) : List Lexeme → List Lexeme
  | [] => [[c]]
  | first :: rest => (c :: first) :: rest

end Lexeme

open Lexeme

/-- The lexemes of a text in order. -/
def lexemes : List Char → List Lexeme
  | [] => []
  | c :: rest =>
    if kind c = .blank then lexemes rest
    else if goesOn c rest then extend c (lexemes rest)
    else [c] :: lexemes rest

/-- A text in front of which a lexeme of a kind ends. -/
def Lexeme.EndsBefore (k : Kind) (rest : List Char) : Prop :=
  ∀ d ∈ rest.head?, kind d ≠ k

/-- A name or a sign is read whole when it ends before the rest. -/
theorem lexemes_append {k : Kind} (hk : k ≠ .mark) (hblank : k ≠ .blank) {word : Lexeme}
    (hne : word ≠ []) (hword : ∀ c ∈ word, kind c = k) {rest : List Char}
    (hrest : EndsBefore k rest) : lexemes (word ++ rest) = word :: lexemes rest := by
  induction word with
  | nil => exact absurd rfl hne
  | cons c others ih =>
    have hc : kind c = k := hword c List.mem_cons_self
    have hnot : ¬ kind c = .blank := fun h => hblank (hc.symm.trans h)
    cases others with
    | nil =>
      have hends : goesOn c rest = false := by
        cases rest with
        | nil => simp [goesOn]
        | cons d rest =>
          have hd : kind d ≠ k := hrest d rfl
          simp [goesOn, hc, hd]
      simp only [List.singleton_append, lexemes, if_neg hnot, hends, Bool.false_eq_true, if_false]
    | cons d others =>
      have hd : kind d = k := hword d (List.mem_cons_of_mem _ List.mem_cons_self)
      have hgoes : goesOn c (d :: others ++ rest) = true := by
        simp [goesOn, hc, hd, hk]
      have hothers := ih (List.cons_ne_nil _ _) fun e he => hword e (List.mem_cons_of_mem _ he)
      rw [List.cons_append, lexemes, if_neg hnot, if_pos hgoes, hothers]
      rfl

namespace Identifier

/-- The characters of a name are all of one kind. -/
theorem kind_of_mem_name {text : List Char} (h : isName text = true) :
    ∀ c ∈ text, kind c = .name := by
  have hchar : ∀ c, isNameChar c = true → kind c = .name := by
    intro c hc
    unfold kind
    rw [if_pos (by simp [hc])]
  cases text with
  | nil => exact List.forall_mem_nil _
  | cons first rest =>
    simp only [isName, isNameStart, Bool.and_eq_true, Bool.or_eq_true, List.all_eq_true] at h
    refine List.forall_mem_cons.2 ⟨hchar first ?_, fun c hc => hchar c (h.2 c hc)⟩
    unfold isNameChar Char.isAlphanum
    rcases h.1 with halpha | hline
    · simp [halpha]
    · simp [hline]

/-- The characters of an identifier are all of one kind, its dot included. -/
theorem kind_of_mem {text : List Char} (h : isWellFormed text = true) :
    ∀ c ∈ text, kind c = .name := by
  have hparts : text.takeWhile (· != '.') ++ text.dropWhile (· != '.') = text :=
    List.takeWhile_append_dropWhile
  unfold isWellFormed at h
  split at h
  · exact kind_of_mem_name h
  · next dot rest hdrop =>
    rw [Bool.and_eq_true] at h
    have hhead := List.head?_dropWhile_not (· != '.') text
    rw [hdrop] at hhead hparts
    have hdot : dot = '.' := by simpa using hhead
    rw [← hparts, hdot]
    intro c hc
    rcases List.mem_append.1 hc with hc | hc
    · exact kind_of_mem_name h.1 c hc
    · rcases List.mem_cons.1 hc with rfl | hc
      · rfl
      · exact kind_of_mem_name h.2 c hc

/-- An identifier is not empty. -/
theorem ne_nil {text : List Char} (h : isWellFormed text = true) : text ≠ [] := by
  rintro rfl
  cases h

/-- An identifier is read whole in front of a blank. -/
theorem lexemes_append_blank {text : List Char} (h : isWellFormed text = true)
    (rest : List Char) : lexemes (text ++ ' ' :: rest) = text :: lexemes rest := by
  have hends : EndsBefore .name (' ' :: rest) := by
    intro d hd
    cases hd
    decide
  rw [lexemes_append (by decide) (by decide) (ne_nil h) (kind_of_mem h) hends]
  rfl

end Identifier

end BoundSql
