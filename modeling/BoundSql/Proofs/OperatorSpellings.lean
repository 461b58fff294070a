import BoundSql.Proofs.Described
import BoundSql.Proofs.StableUpperCase
import Mathlib.Data.List.Chain
import Mathlib.Data.List.Forall2

/-!
# Spellings of operators

An operator is recognised by its normal form: its words in upper case with one space between
them. The normal form is its own normal form, and it is evenly spaced. It does not depend on the
blanks around and between the words, nor on the case of their ASCII letters, so neither does what
an operator describes together with its operand.
-/

namespace BoundSql

namespace Text

/-- A text of one or more characters that are not blank. -/
structure IsWord (text : List Char) : Prop where
  /-- There is a character. -/
  ne_nil : text ≠ []
  /-- No character is blank. -/
  not_blank : ∀ c ∈ text, isBlank c = false

/-- No blank stands at an end of the text or beside another one, and all blanks are spaces. -/
structure EvenlySpaced (text : List Char) : Prop where
  /-- The text does not begin with a blank. -/
  not_leading : ∀ c ∈ text.head?, isBlank c = false
  /-- The text does not end with a blank. -/
  not_trailing : ∀ c ∈ text.getLast?, isBlank c = false
  /-- The character behind a blank is not blank. -/
  not_doubled : text.IsChain fun c d => isBlank c = true → isBlank d = false
  /-- A blank is a space. -/
  only_spaces : ∀ c ∈ text, isBlank c = true → c = ' '

/-- A text is cut into words. -/
theorem isWord_of_mem_words {text word : List Char} (h : word ∈ words text) : IsWord word where
  ne_nil := ne_nil_of_mem_wordsFrom h
  not_blank _ hc := isBlank_of_mem_wordsFrom (fun _ hd => absurd hd List.not_mem_nil) h hc

/-- Words are words in upper case. -/
theorem IsWord.upper {word : List Char} (h : IsWord word) : IsWord (upper word) where
  ne_nil := upper_ne_nil h.ne_nil
  not_blank := isBlank_of_mem_upper h.not_blank

/-- Characters that are not blank go on with a word. -/
theorem wordsFrom_append (word : List Char) {more : List Char} (h : ∀ c ∈ more, isBlank c = false)
    (rest : List Char) : wordsFrom word (more ++ rest) = wordsFrom (word ++ more) rest := by
  induction more generalizing word with
  | nil => rw [List.nil_append, List.append_nil]
  | cons c more ih =>
    obtain ⟨hc, hmore⟩ := List.forall_mem_cons.1 h
    rw [List.cons_append, wordsFrom, if_neg (by simp [hc]), ih _ hmore, List.append_assoc]
    rfl

/-- Words with one space between them are cut into the same words again. -/
theorem words_intercalate {list : List (List Char)} (h : ∀ word ∈ list, IsWord word) :
    words ([' '].intercalate list) = list := by
  induction list with
  | nil => rfl
  | cons word rest ih =>
    obtain ⟨hword, hrest⟩ := List.forall_mem_cons.1 h
    have hne : word.isEmpty = false := by simpa using hword.ne_nil
    cases rest with
    | nil =>
      rw [List.intercalate_singleton]
      have hwhole := wordsFrom_append [] hword.not_blank []
      rw [List.append_nil, List.nil_append] at hwhole
      rw [words, hwhole, wordsFrom, if_neg (by simp [hne])]
    | cons second rest =>
      have hspace : isBlank ' ' = true := by decide
      rw [List.intercalate_cons_cons, List.append_assoc, words,
        wordsFrom_append [] hword.not_blank, List.nil_append, List.singleton_append, wordsFrom,
        if_pos hspace, if_neg (by simp [hne])]
      exact congrArg (word :: ·) (ih hrest)

/-- Upper case is taken word by word. -/
theorem upper_intercalate (list : List (List Char)) :
    upper ([' '].intercalate list) = [' '].intercalate (list.map upper) := by
  have hspace : upper [' '] = [' '] := by decide +kernel
  induction list with
  | nil => rfl
  | cons word rest ih =>
    cases rest with
    | nil => rw [List.map_singleton, List.intercalate_singleton, List.intercalate_singleton]
    | cons second rest =>
      simp only [List.map_cons] at ih ⊢
      rw [List.intercalate_cons_cons, upper_append, upper_append, hspace, ih,
        List.intercalate_cons_cons]

/-- A word is evenly spaced. -/
theorem IsWord.evenlySpaced {word : List Char} (h : IsWord word) : EvenlySpaced word where
  not_leading c hc := h.not_blank c (List.mem_of_mem_head? hc)
  not_trailing c hc := h.not_blank c (List.mem_of_mem_getLast? hc)
  not_doubled := by
    refine (List.pairwise_of_forall_mem_list ?_).isChain
    intro _ _ d hd _
    exact h.not_blank d hd
  only_spaces c hc hblank := by
    rw [h.not_blank c hc] at hblank
    cases hblank

/-- A word may stand with a space in front of an evenly spaced text. -/
theorem EvenlySpaced.cons_word {word rest : List Char} (hword : IsWord word)
    (hrest : EvenlySpaced rest) (hne : rest ≠ []) : EvenlySpaced (word ++ ' ' :: rest) where
  not_leading c hc := by
    rw [List.head?_append_of_ne_nil _ hword.ne_nil] at hc
    exact hword.evenlySpaced.not_leading c hc
  not_trailing c hc := by
    rw [List.getLast?_append_of_ne_nil _ (List.cons_ne_nil _ _), List.getLast?_cons_of_ne_nil hne]
      at hc
    exact hrest.not_trailing c hc
  not_doubled := by
    refine List.isChain_append.2 ⟨hword.evenlySpaced.not_doubled, ?_, ?_⟩
    · exact List.isChain_cons.2 ⟨fun d hd _ => hrest.not_leading d hd, hrest.not_doubled⟩
    · intro c hc d _ hblank
      rw [hword.evenlySpaced.not_trailing c hc] at hblank
      cases hblank
  only_spaces c hc hblank := by
    rcases List.mem_append.1 hc with hc | hc
    · exact hword.evenlySpaced.only_spaces c hc hblank
    · rcases List.mem_cons.1 hc with hc | hc
      · exact hc
      · exact hrest.only_spaces c hc hblank

/-- Words with one space between them are evenly spaced. -/
theorem evenlySpaced_intercalate {list : List (List Char)} (h : ∀ word ∈ list, IsWord word) :
    EvenlySpaced ([' '].intercalate list) := by
  induction list with
  | nil => exact ⟨by simp, by simp, List.isChain_nil, by simp⟩
  | cons word rest ih =>
    obtain ⟨hword, hrest⟩ := List.forall_mem_cons.1 h
    cases rest with
    | nil =>
      rw [List.intercalate_singleton]
      exact hword.evenlySpaced
    | cons second rest =>
      have hne : [' '].intercalate (second :: rest) ≠ [] := by
        have hwords := words_intercalate hrest
        intro hnil
        rw [hnil] at hwords
        cases hwords
      rw [List.intercalate_cons_cons, List.append_assoc, List.singleton_append]
      exact (ih hrest).cons_word hword hne

end Text

open Text

/-- The normal form of an operator is made of its words in upper case. -/
theorem toList_normalizedOperator (text : String) :
    (normalizedOperator text).toList = [' '].intercalate ((words text.toList).map upper) := by
  rw [normalizedOperator, String.toList_ofList, upper_intercalate]

/-- They are words. -/
theorem isWord_of_mem_map_upper (text : String) :
    ∀ word ∈ (words text.toList).map upper, IsWord word := by
  intro word hword
  obtain ⟨source, hsource, rfl⟩ := List.mem_map.1 hword
  exact (isWord_of_mem_words hsource).upper

/-- The words of a normal form are those of the text in upper case. -/
theorem words_normalizedOperator (text : String) :
    words (normalizedOperator text).toList = (words text.toList).map upper := by
  rw [toList_normalizedOperator, words_intercalate (isWord_of_mem_map_upper text)]

/-- A normal form is its own normal form. -/
theorem normalizedOperator_normalizedOperator (text : String) :
    normalizedOperator (normalizedOperator text) = normalizedOperator text := by
  rw [← String.toList_inj, toList_normalizedOperator, words_normalizedOperator,
    toList_normalizedOperator, List.map_map]
  exact congrArg _ (List.map_congr_left fun word _ => upper_upper word)

/-- A normal form is evenly spaced. -/
theorem evenlySpaced_normalizedOperator (text : String) :
    EvenlySpaced (normalizedOperator text).toList := by
  rw [toList_normalizedOperator]
  exact evenlySpaced_intercalate (isWord_of_mem_map_upper text)

/-- Two texts have as many words, and each word of one differs from that of the other only in
the case of ASCII letters. -/
def SpeltAlike (s t : String) : Prop :=
  List.Forall₂ (fun v w => v.map Char.toLower = w.map Char.toLower) (words s.toList)
    (words t.toList)

/-- Texts that are spelt alike have the same normal form. -/
theorem SpeltAlike.normalizedOperator_eq {s t : String} (h : SpeltAlike s t) :
    normalizedOperator s = normalizedOperator t := by
  have hwords : (words s.toList).map upper = (words t.toList).map upper := by
    refine List.forall₂_eq_eq_eq ▸ ?_
    rw [List.forall₂_map_left_iff, List.forall₂_map_right_iff]
    exact h.imp fun _ _ => upper_eq_of_map_toLower_eq
  rw [← String.toList_inj, toList_normalizedOperator, toList_normalizedOperator, hwords]

namespace Condition

/-- A text that spells no operator is refused for that, whatever its operand is. -/
theorem resolve_of_ofText?_eq_none {given : String} (h : Operator.ofText? given = none)
    (column : Value) {operand v : Value} (hv : v.IsSequence [.text given, operand]) :
    resolve column v = .error (.condition column (.unsupportedOperator given)) := by
  rw [resolve_of_isSequence column hv]
  change ofPair column given operand = _
  simp only [ofPair, checkedOperator, h]
  rfl

/-- An operator with its operand is resolved as any operator of the same normal form, or no
operator has this normal form, which is refused for the text that was given. -/
theorem resolve_eq_of_normalizedOperator_eq {s t : String}
    (h : normalizedOperator s = normalizedOperator t) (column : Value) {operand v w : Value}
    (hv : v.IsSequence [.text s, operand]) (hw : w.IsSequence [.text t, operand]) :
    resolve column v = resolve column w ∨
      resolve column v = .error (.condition column (.unsupportedOperator s)) ∧
        resolve column w = .error (.condition column (.unsupportedOperator t)) := by
  have hfound : Operator.ofText? s = Operator.ofText? t := congrArg Operator.ofSymbol? h
  cases hop : Operator.ofText? t with
  | none =>
    exact .inr ⟨resolve_of_ofText?_eq_none (hfound.trans hop) column hv,
      resolve_of_ofText?_eq_none hop column hw⟩
  | some op =>
    refine .inl ?_
    rw [resolve_of_isSequence column hv, resolve_of_isSequence column hw]
    change ofPair column s operand = ofPair column t operand
    simp only [ofPair, checkedOperator, hfound, hop]

/-- The normal form of an operator is its own normal form and evenly spaced. Texts that are cut
into as many words, of which corresponding ones differ only in the case of ASCII letters, have the
same normal form, and with an operand they are resolved alike: to the same condition, or refused
for the same reason, which is named with the text itself when that text is no operator. -/
theorem normal_forms_ignore_spelling :
    (∀ text, normalizedOperator (normalizedOperator text) = normalizedOperator text ∧
      EvenlySpaced (normalizedOperator text).toList) ∧
    ∀ s t, SpeltAlike s t → normalizedOperator s = normalizedOperator t ∧
      ∀ column operand v w, v.IsSequence [.text s, operand] → w.IsSequence [.text t, operand] →
        resolve column v = resolve column w ∨
          resolve column v = .error (.condition column (.unsupportedOperator s)) ∧
            resolve column w = .error (.condition column (.unsupportedOperator t)) := by
  refine ⟨?_, ?_⟩
  · intro text
    exact ⟨normalizedOperator_normalizedOperator text, evenlySpaced_normalizedOperator text⟩
  · intro s t h
    refine ⟨h.normalizedOperator_eq, ?_⟩
    intro column operand v w hv hw
    exact resolve_eq_of_normalizedOperator_eq h.normalizedOperator_eq column hv hw

/-- A spelling of an operator with blanks of several kinds. -/
def blankSpelling : String := "\t not\u00a0Like\u3000"

/-- Two spellings of the same operator, the normal form of which is the canonical one, describe the
same condition together with an operand. Two spellings of no operator are both refused. -/
theorem normal_forms_ignore_spelling_blankSpelling :
    SpeltAlike blankSpelling "NOT  like" ∧
      normalizedOperator blankSpelling = "NOT LIKE" ∧
      normalizedOperator "NOT  like" = "NOT LIKE" ∧
      resolve (.text "name") (.tuple [.text blankSpelling, .text "a%"]) =
        resolve (.text "name") (.list [.text "NOT  like", .text "a%"]) ∧
      resolve (.text "name") (.list [.text "NOT  like", .text "a%"]) =
        .ok (.compare "NOT LIKE" (.text "a%")) ∧
      SpeltAlike "ßoo" " ßOO" ∧ normalizedOperator "ßoo" = "SSOO" ∧
      resolve (.text "name") (.tuple [.text "ßoo", .null]) =
        .error (.condition (.text "name") (.unsupportedOperator "ßoo")) ∧
      resolve (.text "name") (.tuple [.text " ßOO", .null]) =
        .error (.condition (.text "name") (.unsupportedOperator " ßOO")) := by
  have hspelt : SpeltAlike blankSpelling "NOT  like" := by
    have hleft : words blankSpelling.toList = [['n', 'o', 't'], ['L', 'i', 'k', 'e']] := by
      decide +kernel
    have hright : words "NOT  like".toList = [['N', 'O', 'T'], ['l', 'i', 'k', 'e']] := by
      decide +kernel
    unfold SpeltAlike
    rw [hleft, hright]
    exact .cons (by decide) (.cons (by decide) .nil)
  have hother : SpeltAlike "ßoo" " ßOO" := by
    have hleft : words "ßoo".toList = [['ß', 'o', 'o']] := by decide +kernel
    have hright : words " ßOO".toList = [['ß', 'O', 'O']] := by decide +kernel
    unfold SpeltAlike
    rw [hleft, hright]
    exact .cons (by decide) .nil
  have hnormal : normalizedOperator "NOT  like" = "NOT LIKE" := by decide +kernel
  have hnone : normalizedOperator " ßOO" = "SSOO" := by decide +kernel
  obtain ⟨heq, halike⟩ := normal_forms_ignore_spelling.2 _ _ hspelt
  have hotherEq := (normal_forms_ignore_spelling.2 _ _ hother).1
  have hresolved : resolve (.text "name") (.list [.text "NOT  like", .text "a%"]) =
      .ok (.compare "NOT LIKE" (.text "a%")) := by
    have hcompares : Operator.notLike.ComparesWith (.text "a%") :=
      Operator.comparesWith_of_role (by decide) (by decide) fun _ h => by cases h
    have hop : Operator.notLike.SpeltBy "NOT  like" := hnormal
    exact resolve_eq_ok_iff.2 (.pair (.inl rfl) hop (.value (fun _ h => by cases h) hcompares))
  have hlike := (halike (.text "name") (.text "a%") _ _ (.inr rfl) (.inl rfl)).resolve_right
    fun h => by
      rw [hresolved] at h
      cases h.2
  exact ⟨hspelt, heq.trans hnormal, hnormal, hlike, hresolved, hother, hotherEq.trans hnone,
    resolve_of_ofText?_eq_none (by decide +kernel) _ (.inr rfl),
    resolve_of_ofText?_eq_none (by decide +kernel) _ (.inr rfl)⟩

end Condition

end BoundSql
