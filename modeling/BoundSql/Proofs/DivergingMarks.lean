import BoundSql.Proofs.UndisturbedMarks

/-!
# Results that diverge

A name without braces cannot take away an opening brace that begins the mark of another name, or
that has such a brace behind it before any closing one. When one of two texts has such a brace
where the other one goes on with another character, filling the same marks in both keeps them
apart: either the character stays, or an identifier comes to stand where the text in front of it
was, and the brace that it took away stays in the other text.
-/

namespace BoundSql

namespace Text

variable {old : List Char}

/-- Two texts in a row are searched on their own, unless an occurrence begins in the first one and
ends in the second one. -/
theorem substituted_append_cases (hold : old ≠ []) (new front back : List Char) :
    substituted old new (front ++ back) = substituted old new front ++ substituted old new back ∨
      ∃ before opening closing behind, front = before ++ opening ∧ back = closing ++ behind ∧
        old = opening ++ closing ∧ opening ≠ [] ∧ closing ≠ [] ∧
        substituted old new front = substituted old new before ++ opening ∧
        substituted old new (front ++ back) =
          substituted old new before ++ (new ++ substituted old new behind) := by
  induction front using occurrence_induction hold with
  | nil => exact .inl rfl
  | found rest ih =>
    rw [List.append_assoc, substituted_append hold, substituted_append hold]
    rcases ih with ih | ⟨before, opening, closing, behind, hrest, hback, hparts, hopening, hclosing,
      hfront, hwhole⟩
    · exact .inl (by rw [ih, List.append_assoc])
    · refine .inr ⟨old ++ before, opening, closing, behind, ?_, hback, hparts, hopening, hclosing,
        ?_⟩
      · rw [hrest, List.append_assoc]
      · rw [substituted_append hold, hfront, hwhole]
        exact ⟨(List.append_assoc _ _ _).symm, (List.append_assoc _ _ _).symm⟩
  | other c rest hother ih =>
    by_cases hstarts : old <+: c :: (rest ++ back)
    · -- The occurrence begins in front of all and is longer than the first text.
      obtain ⟨behind, hbehind⟩ := hstarts
      rw [← List.cons_append] at hbehind
      rcases List.append_eq_append_iff.1 hbehind with ⟨cut, hcut, -⟩ | ⟨closing, hparts, hback⟩
      · exact absurd ⟨cut, hcut.symm⟩ hother
      · have hclosing : closing ≠ [] := by
          rintro rfl
          rw [List.append_nil] at hparts
          exact hother (hparts ▸ List.prefix_refl _)
        have hlength : (c :: rest).length < old.length := by
          rw [hparts, List.length_append]
          exact Nat.lt_add_of_pos_right (List.length_pos_iff.2 hclosing)
        refine .inr ⟨[], c :: rest, closing, behind, rfl, hback, hparts, List.cons_ne_nil _ _,
          hclosing, substituted_of_length_lt hlength, ?_⟩
        rw [← hbehind, substituted_append hold]
        rfl
    · rw [List.cons_append, substituted_cons hstarts, substituted_cons hother]
      rcases ih with ih | ⟨before, opening, closing, behind, hrest, hback, hparts, hopening,
        hclosing, hfront, hwhole⟩
      · exact .inl (by rw [ih, List.cons_append])
      · have hbefore : ¬ old <+: c :: before := fun h =>
          hother (h.trans ⟨opening, by rw [hrest, List.cons_append]⟩)
        refine .inr ⟨c :: before, opening, closing, behind, ?_, hback, hparts, hopening, hclosing,
          ?_⟩
        · rw [hrest, List.cons_append]
        · rw [substituted_cons hbefore, hfront, hwhole]
          exact ⟨rfl, rfl⟩

end Text

namespace RawSql

/-- A text has no braces. -/
def NoBraces (text : List Char) : Prop :=
  ∀ c ∈ text, c ≠ '\x7b' ∧ c ≠ '\x7d'

variable {m k : String × Value} {names : List String} {text other rest : List Char}

/-- What begins a mark without being all of it is a brace and a part of the name, and the rest of
the mark ends in a brace. -/
theorem parts_of_mark {name : String} {opening closing : List Char}
    (h : (mark name).toList = opening ++ closing) (hopening : opening ≠ [])
    (hclosing : closing ≠ []) :
    ∃ part ending, opening = '\x7b' :: part ∧ closing = ending ++ ['\x7d'] ∧
      name.toList = part ++ ending := by
  obtain ⟨c, part, rfl⟩ := List.exists_cons_of_ne_nil hopening
  obtain ⟨ending, d, rfl⟩ := (List.eq_nil_or_concat' closing).resolve_left hclosing
  rw [toList_mark, List.cons_append, List.cons_append, List.cons.injEq, ← List.append_assoc] at h
  obtain ⟨hname, hend⟩ := List.append_inj' h.2 rfl
  exact ⟨part, ending, by rw [h.1], by rw [hend], hname⟩

/-- What is in front of an opening brace is filled on its own, because the name of a mark has
no such brace. -/
theorem fillMark_append_brace (hname : Braceless m.1) (front rest : List Char) :
    fillMark m (front ++ '\x7b' :: rest) = fillMark m front ++ fillMark m ('\x7b' :: rest) := by
  have hcases := Text.substituted_append_cases (mark_ne_nil m.1) m.2.shown.toList front
    ('\x7b' :: rest)
  rcases hcases with
    h | ⟨before, opening, closing, behind, -, hback, hparts, hopening, hclosing, -, -⟩
  · exact h
  · obtain ⟨part, ending, -, rfl, hends⟩ := parts_of_mark hparts hopening hclosing
    -- The rest of the mark begins with the brace, so the name has one.
    cases ending with
    | nil => simp at hback
    | cons c ending =>
      simp only [List.cons_append, List.cons.injEq] at hback
      exact absurd hback.1.symm (hname c (by rw [hends]; simp)).1

/-- A text without closing braces has no mark in it. -/
theorem fillMark_of_ne (m : String × Value) (h : ∀ c ∈ text, c ≠ '\x7d') :
    fillMark m text = text := by
  induction text with
  | nil => rfl
  | cons c rest ih =>
    have hother : ¬ (mark m.1).toList <+: c :: rest := fun hbegins =>
      h '\x7d' (hbegins.subset (by rw [toList_mark]; simp)) rfl
    rw [fillMark_cons hother, ih (List.forall_mem_cons.1 h).2]

/-- In front of a text, the mark of another name stays and the text is filled on its own. -/
theorem fillMark_mark_append (hname : Braceless m.1) {other : String} (hother : Braceless other)
    (hne : other ≠ m.1) (rest : List Char) :
    fillMark m ((mark other).toList ++ rest) = (mark other).toList ++ fillMark m rest := by
  have hpiece := substituted_written_append hname m.2.shown (p := .marker other) hother rest
  rw [Piece.replaced, if_neg hne] at hpiece
  exact hpiece

/-- Texts that begin with a brace that none of the given names removes: the brace begins the mark
of another name, or it stands in front of such a brace without a closing one between them. -/
inductive Stuck (names : List String) : List Char → Prop
  /-- The mark of another name stays. -/
  | closed {other : String} {rest : List Char} : Braceless other → other ∉ names →
    Stuck names ((mark other).toList ++ rest)
  /-- A brace is not closed before one that stays. -/
  | opened {part rest : List Char} : NoBraces part → Stuck names rest →
    Stuck names ('\x7b' :: (part ++ rest))

namespace Stuck

/-- A text that is stuck begins with an opening brace. -/
theorem exists_eq_cons (h : Stuck names text) : ∃ rest, text = '\x7b' :: rest := by
  cases h with
  | closed hother hnot =>
    rw [toList_mark]
    exact ⟨_, rfl⟩
  | opened hpart hrest => exact ⟨_, rfl⟩

/-- What follows does not matter. -/
theorem append (h : Stuck names text) (back : List Char) : Stuck names (text ++ back) := by
  induction h with
  | closed hother hnot =>
    rw [List.append_assoc]
    exact .closed hother hnot
  | opened hpart hrest ih =>
    rw [List.cons_append, List.append_assoc]
    exact .opened hpart ih

/-- Filling the marks of one of the names leaves a text stuck. -/
theorem fillMark (hname : Braceless m.1) (hm : m.1 ∈ names) (h : Stuck names text) :
    Stuck names (RawSql.fillMark m text) := by
  induction h with
  | @closed other rest hother hnot =>
    have hne : other ≠ m.1 := fun heq => hnot (heq ▸ hm)
    rw [fillMark_mark_append hname hother hne]
    exact .closed hother hnot
  | @opened part rest hpart hrest ih =>
    obtain ⟨back, rfl⟩ := hrest.exists_eq_cons
    have hclosing : ∀ c ∈ '\x7b' :: part, c ≠ '\x7d' :=
      List.forall_mem_cons.2 ⟨by decide, fun c hc => (hpart c hc).2⟩
    rw [← List.cons_append, fillMark_append_brace hname, fillMark_of_ne m hclosing]
    exact .opened hpart ih

end Stuck

/-- The second of two texts has a brace that none of the given names removes, where the first one
goes on with another character. -/
def FallsBehind (names : List String) (text other : List Char) : Prop :=
  ∃ front c rest stuck, text = front ++ c :: rest ∧ other = front ++ stuck ∧ c ≠ '\x7b' ∧
    Stuck names stuck

namespace FallsBehind

/-- Such texts are different. -/
theorem ne (h : FallsBehind names text other) : text ≠ other := by
  obtain ⟨front, c, rest, stuck, rfl, rfl, hc, hstuck⟩ := h
  obtain ⟨back, rfl⟩ := hstuck.exists_eq_cons
  intro heq
  have htails := List.append_cancel_left heq
  rw [List.cons.injEq] at htails
  exact hc htails.1

/-- What follows the texts does not matter. -/
theorem append (h : FallsBehind names text other) (back behind : List Char) :
    FallsBehind names (text ++ back) (other ++ behind) := by
  obtain ⟨front, c, rest, stuck, rfl, rfl, hc, hstuck⟩ := h
  exact ⟨front, c, rest ++ back, stuck ++ behind, by simp, by simp, hc, hstuck.append behind⟩

/-- A text goes on falling behind when the marks of one of the names are filled in both. -/
theorem fillMark (hname : Braceless m.1) (hvalue : m.2.IsIdentifier) (hm : m.1 ∈ names)
    (h : FallsBehind names text other) :
    FallsBehind names (RawSql.fillMark m text) (RawSql.fillMark m other) := by
  obtain ⟨front, c, rest, stuck, rfl, rfl, hc, hstuck⟩ := h
  have hfilled := hstuck.fillMark hname hm
  obtain ⟨back, rfl⟩ := hstuck.exists_eq_cons
  rw [fillMark_append_brace hname]
  rcases Text.substituted_append_cases (mark_ne_nil m.1) m.2.shown.toList front (c :: rest) with
    hsplit | ⟨before, opening, closing, behind, -, -, hparts, hopening, hclosing, hfront, hwhole⟩
  · refine ⟨RawSql.fillMark m front, c, RawSql.fillMark m rest, _, ?_, rfl, hc, hfilled⟩
    rw [← fillMark_cons (not_mark_prefix_of_ne hc m.1 rest)]
    exact hsplit
  · -- A mark begins in the common front: its opening brace is not closed in the second text.
    obtain ⟨part, ending, rfl, -, hends⟩ := parts_of_mark hparts hopening hclosing
    have hpart : NoBraces part := fun d hd => hname d (by rw [hends]; simp [hd])
    obtain ⟨d, others, hshown, hd⟩ := exists_shown_eq_cons hvalue
    refine ⟨RawSql.fillMark m before, d, others ++ RawSql.fillMark m behind, _, ?_, ?_, hd,
      .opened hpart hfilled⟩
    · have hstarts (back : List Char) : m.2.shown.toList ++ back = d :: (others ++ back) := by
        rw [hshown, List.cons_append]
      exact hwhole.trans (congrArg _ (hstarts _))
    · rw [RawSql.fillMark, hfront, List.append_assoc]
      rfl

/-- A text goes on falling behind when the marks of some of the names are filled in both. -/
theorem fillEach {marks : List (String × Value)}
    (hmarks : ∀ m ∈ marks, Braceless m.1 ∧ m.2.IsIdentifier ∧ m.1 ∈ names)
    (h : FallsBehind names text other) :
    FallsBehind names (RawSql.fillEach marks text) (RawSql.fillEach marks other) := by
  induction marks generalizing text other with
  | nil => exact h
  | cons m rest ih =>
    obtain ⟨⟨hname, hvalue, hm⟩, hrest⟩ := List.forall_mem_cons.1 hmarks
    exact ih hrest (h.fillMark hname hvalue hm)

end FallsBehind

/-- One of two texts falls behind the other one. -/
def Diverge (names : List String) (text other : List Char) : Prop :=
  FallsBehind names text other ∨ FallsBehind names other text

namespace Diverge

/-- It does not matter which of the texts is the first. -/
theorem symm (h : Diverge names text other) : Diverge names other text :=
  Or.symm h

/-- Texts that diverge are different. -/
theorem ne (h : Diverge names text other) : text ≠ other := by
  rcases h with h | h
  · exact h.ne
  · exact h.ne.symm

/-- What follows the texts does not matter. -/
theorem append (h : Diverge names text other) (back behind : List Char) :
    Diverge names (text ++ back) (other ++ behind) :=
  h.imp (fun h => h.append back behind) fun h => h.append behind back

/-- Texts go on diverging when the marks of some of the names are filled in both. -/
theorem fillEach {marks : List (String × Value)}
    (hmarks : ∀ m ∈ marks, Braceless m.1 ∧ m.2.IsIdentifier ∧ m.1 ∈ names)
    (h : Diverge names text other) :
    Diverge names (RawSql.fillEach marks text) (RawSql.fillEach marks other) :=
  h.imp (fun h => h.fillEach hmarks) fun h => h.fillEach hmarks

end Diverge

end RawSql

end BoundSql
