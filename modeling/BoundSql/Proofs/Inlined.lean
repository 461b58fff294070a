import BoundSql.Fragment
import BoundSql.Proofs.Layout
import Mathlib.Data.List.Forall2

/-!
# Values put in the place of their marks

A question mark of a text stands for a value. With the values in order, each mark can
be replaced by a text of its value. A fragment is aligned with a text when it has a
value for each of its marks and becomes the text in this way. Whatever is put together
of aligned fragments is aligned with what is put together of their texts.
-/

namespace BoundSql

/-- A text in which the question marks are replaced, from left to right, by the texts of
values. A mark without a value stays. -/
def Text.inlined (lit : Value → String) : List Char → List Value → List Char
  | [], _ => []
  | c :: rest, values =>
    if c = '?' then
      match values with
      | [] => c :: inlined lit rest []
      | v :: others => (lit v).toList ++ inlined lit rest others
    else c :: inlined lit rest values

/-- A text without question marks stays as it is. -/
theorem Text.inlined_of_not_mem (lit : Value → String) {text : List Char} (h : '?' ∉ text)
    (values : List Value) : inlined lit text values = text := by
  induction text with
  | nil => rfl
  | cons c rest ih =>
    have hc : c ≠ '?' := fun hc => h (hc ▸ List.mem_cons_self)
    have hrest : '?' ∉ rest := fun hmem => h (List.mem_cons_of_mem _ hmem)
    simp only [inlined, if_neg hc]
    rw [ih hrest]

/-- The values of a text are put in before those of the text behind it, when there is one
for each of its marks. -/
theorem Text.inlined_append (lit : Value → String) {text : List Char} {values : List Value}
    (h : text.count '?' = values.length) (others : List Char) (rest : List Value) :
    inlined lit (text ++ others) (values ++ rest) =
      inlined lit text values ++ inlined lit others rest := by
  induction text generalizing values with
  | nil =>
    have hvalues : values = [] := List.length_eq_zero_iff.1 h.symm
    rw [hvalues]
    rfl
  | cons c text ih =>
    by_cases hc : c = '?'
    · subst hc
      cases values with
      | nil => simp at h
      | cons v values =>
        rw [List.count_cons_self, List.length_cons] at h
        have hrest := ih (Nat.succ.inj h)
        simp only [List.cons_append, inlined, if_true]
        rw [hrest, List.append_assoc]
    · rw [List.count_cons_of_ne hc] at h
      simp only [List.cons_append, inlined, if_neg hc]
      rw [ih h]

/-- Raw SQL has a value for each of its question marks. -/
def RawSql.Matched (expr : RawSql Value) : Prop :=
  expr.sql.toList.count '?' = expr.bindings.length

instance (expr : RawSql Value) : Decidable expr.Matched :=
  inferInstanceAs (Decidable (expr.sql.toList.count '?' = expr.bindings.length))

namespace Fragment

/-- A fragment has a value for each of its question marks, and is a given text when they
are put in. -/
structure Aligned (lit : Value → String) (f : Fragment) (text : String) : Prop where
  /-- Each question mark has a value. -/
  count : f.sql.toList.count '?' = f.params.length
  /-- With the values put in, the fragment is the text. -/
  inlined : Text.inlined lit f.sql.toList f.params = text.toList

variable {lit : Value → String}

/-- A text without question marks is aligned with itself. -/
theorem aligned_text {text : String} (h : '?' ∉ text.toList) : Aligned lit ⟨text, []⟩ text where
  count := List.count_eq_zero_of_not_mem h
  inlined := Text.inlined_of_not_mem lit h []

/-- A question mark is aligned with the text of its value. -/
theorem aligned_mark (v : Value) : Aligned lit ⟨"?", [v]⟩ (lit v) where
  count := (by decide : "?".toList.count '?' = 1)
  inlined := by simp [Text.inlined]

/-- Raw SQL is aligned with its text in which its values are put in. -/
theorem aligned_raw {expr : RawSql Value} (h : expr.Matched) :
    Aligned lit ⟨expr.sql, expr.bindings⟩
      (String.ofList (Text.inlined lit expr.sql.toList expr.bindings)) where
  count := h
  inlined := String.toList_ofList.symm

/-- A fragment behind another one is aligned with the text of the one behind that of the
other. -/
theorem Aligned.append {sql other text behind : String} {values rest : List Value}
    (h : Aligned lit ⟨sql, values⟩ text) (hbehind : Aligned lit ⟨other, rest⟩ behind) :
    Aligned lit ⟨sql ++ other, values ++ rest⟩ (text ++ behind) where
  count := by
    rw [String.toList_append, List.count_append, List.length_append]
    exact congrArg₂ _ h.count hbehind.count
  inlined := by
    rw [String.toList_append, String.toList_append, Text.inlined_append lit h.count]
    exact congrArg₂ _ h.inlined hbehind.inlined

/-- A text without question marks behind a fragment. -/
theorem Aligned.append_text {sql text : String} {values : List Value}
    (h : Aligned lit ⟨sql, values⟩ text) {behind : String} (hbehind : '?' ∉ behind.toList) :
    Aligned lit ⟨sql ++ behind, values⟩ (text ++ behind) := by
  have happend := h.append (aligned_text hbehind)
  rwa [List.append_nil] at happend

/-- A text without question marks in front of a fragment. -/
theorem Aligned.text_append {sql text : String} {values : List Value}
    (h : Aligned lit ⟨sql, values⟩ text) {front : String} (hfront : '?' ∉ front.toList) :
    Aligned lit ⟨front ++ sql, values⟩ (front ++ text) :=
  (aligned_text hfront).append h

/-- Fragments with a separator between them are aligned with their texts with the same
separator between them. -/
theorem aligned_joined {separator : String} (hseparator : '?' ∉ separator.toList)
    {fragments : List Fragment} {texts : List String}
    (h : List.Forall₂ (Aligned lit) fragments texts) :
    Aligned lit (joined separator fragments) (separator.intercalate texts) := by
  induction h with
  | nil => exact ⟨rfl, rfl⟩
  | @cons f text fragments texts hfirst hrest ih =>
    cases hrest with
    | nil =>
      unfold joined
      rw [List.map_singleton, String.intercalate_singleton, String.intercalate_singleton,
        allParams_cons, allParams_nil, List.append_nil]
      exact hfirst
    | cons hsecond hrest =>
      have hboth := (hfirst.append_text hseparator).append ih
      unfold joined at hboth ⊢
      rw [List.map_cons, List.map_cons, String.intercalate_cons_cons,
        String.intercalate_cons_cons, allParams_cons]
      exact hboth

/-- Fragments of the items of a list are aligned with the texts of the items, with the same
separator between them. -/
theorem aligned_joined_map {α : Type} {separator : String} (hseparator : '?' ∉ separator.toList)
    {list : List α} {part : α → Fragment} {text : α → String}
    (h : ∀ a ∈ list, Aligned lit (part a) (text a)) :
    Aligned lit (joined separator (list.map part)) (separator.intercalate (list.map text)) := by
  apply aligned_joined hseparator
  rw [List.forall₂_map_left_iff, List.forall₂_map_right_iff]
  exact List.forall₂_same.2 h

/-- A clause is aligned with a text that is present, or it is empty and the text is absent. -/
def ClauseAligned (lit : Value → String) (f : Fragment) (text? : Option String) : Prop :=
  match text? with
  | some text => f.sql ≠ "" ∧ Aligned lit f text
  | none => f.sql = "" ∧ f.params = []

/-- The clauses that are present are aligned with the texts that are present, and the
absent ones have neither text nor values. -/
theorem exists_present_of_clauses {fragments : List Fragment} {texts : List (Option String)}
    (h : List.Forall₂ (ClauseAligned lit) fragments texts) :
    ∃ present, List.Forall₂ (Aligned lit) present texts.reduceOption ∧
      (fragments.map fun f => f.sql).filter (· != "") = present.map (fun f => f.sql) ∧
      allParams fragments = allParams present := by
  induction h with
  | nil => exact ⟨[], .nil, rfl, rfl⟩
  | @cons f text? fragments texts hfirst hrest ih =>
    obtain ⟨present, haligned, hsql, hparams⟩ := ih
    cases text? with
    | none =>
      refine ⟨present, haligned, ?_, ?_⟩
      · rw [List.map_cons, List.filter_cons_of_neg (by simp [hfirst.1]), hsql]
      · rw [allParams_cons, hfirst.2, hparams]
        rfl
    | some text =>
      refine ⟨f :: present, .cons hfirst.2 haligned, ?_, ?_⟩
      · rw [List.map_cons, List.filter_cons_of_pos (by simp [hfirst.1]), hsql, List.map_cons]
      · rw [allParams_cons, allParams_cons, hparams]

/-- The clauses of a statement are aligned with the texts of those that are present. -/
theorem aligned_clauses {fragments : List Fragment} {texts : List (Option String)}
    (h : List.Forall₂ (ClauseAligned lit) fragments texts) :
    Aligned lit (clauses fragments) (spaced texts) := by
  obtain ⟨present, haligned, hsql, hparams⟩ := exists_present_of_clauses h
  unfold clauses spaced
  rw [hsql, hparams]
  exact aligned_joined (by decide) haligned

end Fragment

end BoundSql
