/-!
# Replacing every occurrence of a text

Occurrences are looked for from the left and do not overlap: after one that is
replaced the search goes on behind it, and what was written in its place is
not searched again.
-/

namespace BoundSql.Text

/-- Replacement in the rest of a text whose first `skip` characters belong to an
occurrence that has already been replaced. -/
def substitutedFrom (old new : List Char) : Nat → List Char → List Char
  | _, [] => []
  | skip + 1, _ :: rest => substitutedFrom old new skip rest
  | 0, c :: rest =>
    if old.isPrefixOf (c :: rest) then new ++ substitutedFrom old new (old.length - 1) rest
    else c :: substitutedFrom old new 0 rest

/-- The text with every occurrence of the nonempty text `old` replaced by `new`. -/
def substituted (old new text : List Char) : List Char :=
  substitutedFrom old new 0 text

/-- Skipping drops characters. -/
theorem substitutedFrom_skip (old new text : List Char) (skip : Nat) :
    substitutedFrom old new skip text = substitutedFrom old new 0 (text.drop skip) := by
  induction text generalizing skip with
  | nil => cases skip <;> simp [substitutedFrom]
  | cons c rest ih =>
    cases skip with
    | zero => rfl
    | succ skip => rw [substitutedFrom, ih, List.drop_succ_cons]

/-- An occurrence in front is replaced, and the rest is searched on its own. -/
theorem substituted_append {old : List Char} (hold : old ≠ []) (new back : List Char) :
    substituted old new (old ++ back) = new ++ substituted old new back := by
  cases old with
  | nil => exact absurd rfl hold
  | cons c old =>
    have hprefix : (c :: old).isPrefixOf (c :: (old ++ back)) = true :=
      List.isPrefixOf_iff_prefix.2 (List.prefix_append (c :: old) back)
    have hlength : (c :: old).length - 1 = old.length := rfl
    rw [substituted, List.cons_append, substitutedFrom, if_pos hprefix, substitutedFrom_skip,
      hlength, List.drop_left]
    rfl

/-- A character at which no occurrence begins stays. -/
theorem substituted_cons {old : List Char} {c : Char} {rest : List Char}
    (h : ¬ old <+: c :: rest) (new : List Char) :
    substituted old new (c :: rest) = c :: substituted old new rest := by
  rw [substituted, substitutedFrom, if_neg (mt List.isPrefixOf_iff_prefix.1 h)]
  rfl

/-- What holds of the empty text, and of a text when it holds of the rest behind an
occurrence, or behind a character at which none begins, holds of every text. -/
theorem occurrence_induction {old : List Char} (hold : old ≠ []) {motive : List Char → Prop}
    (nil : motive []) (found : ∀ back, motive back → motive (old ++ back))
    (other : ∀ c rest, ¬ old <+: c :: rest → motive rest → motive (c :: rest))
    (text : List Char) : motive text := by
  induction hn : text.length using Nat.strongRecOn generalizing text with
  | ind n ih =>
    cases text with
    | nil => exact nil
    | cons c rest =>
      by_cases h : old <+: c :: rest
      · obtain ⟨back, hback⟩ := h
        have hpos : 0 < old.length := List.length_pos_iff.2 hold
        have hlength : old.length + back.length = n := by
          rw [← hn, ← hback, List.length_append]
        rw [← hback]
        exact found back (ih back.length (by omega) back rfl)
      · have hlength : rest.length + 1 = n := hn
        exact other c rest h (ih rest.length (by omega) rest rfl)

end BoundSql.Text
