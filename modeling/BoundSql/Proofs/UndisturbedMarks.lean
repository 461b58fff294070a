import BoundSql.Proofs.MarkedTemplates

/-!
# Marks that are not disturbed

Marks are replaced name by name, and each name is looked for in what the names before it have
left. When filling the marks of a name makes none of a later name and takes none away, each
mark that is replaced is one of the template itself, and the result is that of replacing all
marks in one pass over the template. The names may have braces in them, so that marks may
overlap; a mark that another one overlaps is taken away with it.
-/

namespace BoundSql

namespace Text

variable {old new : List Char} {first : Char}

/-- In front of a text that replacing leaves in its place, no occurrence is replaced, however
much of the text behind it is cut off. -/
theorem substituted_append_of_kept (hfirst : old.head? = some first) (hne : new ≠ [])
    (hnew : ∀ c ∈ new, c ≠ first) {front back rest text : List Char}
    (hkept : substituted old new (front ++ back) = front ++ rest) (htext : text <+: back) :
    substituted old new (front ++ text) = front ++ substituted old new text := by
  have hold : old ≠ [] := by
    rintro rfl
    cases hfirst
  induction front with
  | nil => rfl
  | cons c front ih =>
    have hother : ¬ old <+: c :: (front ++ back) := by
      -- The first character of the new text would stand in the place of an occurrence.
      rintro ⟨behind, hbehind⟩
      obtain ⟨d, others, rfl⟩ := List.exists_cons_of_ne_nil hne
      obtain ⟨o, olds, rfl⟩ := List.exists_cons_of_ne_nil hold
      cases hfirst
      rw [List.cons_append, ← hbehind, substituted_append hold] at hkept
      simp only [List.cons_append, List.cons.injEq] at hkept hbehind
      exact hnew d List.mem_cons_self (hkept.1.trans hbehind.1.symm)
    have hcut : ¬ old <+: c :: (front ++ text) := fun h => hother
      (h.trans ((List.prefix_append_right_inj (c :: front)).2 htext))
    rw [List.cons_append, substituted_cons hother, List.cons_append, List.cons.injEq] at hkept
    rw [List.cons_append, substituted_cons hcut, ih hkept.2, List.cons_append]

/-- Replacing changes nothing in a text that is shorter than an occurrence. -/
theorem substituted_of_length_lt {text : List Char} (h : text.length < old.length) :
    substituted old new text = text := by
  induction text with
  | nil => rfl
  | cons c rest ih =>
    have hother : ¬ old <+: c :: rest := fun hbegins => absurd hbegins.length_le (by omega)
    rw [substituted_cons hother, ih (by rw [List.length_cons] at h; omega)]

end Text

namespace RawSql

/-- A text with the marks of a name replaced by the identifier of that name. -/
def fillMark (m : String × Value) (text : List Char) : List Char :=
  Text.substituted (mark m.1).toList m.2.shown.toList text

/-- A text with the marks of several names replaced, one name after the other. -/
def fillEach (marks : List (String × Value)) (text : List Char) : List Char :=
  marks.foldl (fun text m => fillMark m text) text

/-- Filling the marks of a name leaves alone those of another name: the marks of the other name
in what the text becomes are those that the text had, each in the place to which it is moved by
what is filled in front of it. -/
def LeavesAlone (m : String × Value) (other : String) (text : List Char) : Prop :=
  ∀ front back, fillMark m text = front ++ ((mark other).toList ++ back) ↔
    ∃ before behind, text = before ++ ((mark other).toList ++ behind) ∧
      fillMark m before = front ∧ fillMark m behind = back

/-- When marks are filled name by name, each name leaves alone the marks of all later names. -/
def Undisturbed : List (String × Value) → List Char → Prop
  | [], _ => True
  | m :: rest, text => (∀ k ∈ rest, LeavesAlone m k.1 text) ∧ Undisturbed rest (fillMark m text)

/-- One pass over a text replaces all marks that it meets, and copies each character at which no
mark begins. -/
inductive FillsAtOnce (marks : List (String × Value)) : List Char → List Char → Prop
  /-- Nothing is left to be read. -/
  | nil : FillsAtOnce marks [] []
  /-- A mark is replaced, and the pass goes on behind it. -/
  | marker {m : String × Value} {back result : List Char} : m ∈ marks →
    FillsAtOnce marks back result →
      FillsAtOnce marks ((mark m.1).toList ++ back) (m.2.shown.toList ++ result)
  /-- A character at which no mark begins stays. -/
  | other {c : Char} {rest result : List Char} :
    (∀ m ∈ marks, ¬ (mark m.1).toList <+: c :: rest) → FillsAtOnce marks rest result →
      FillsAtOnce marks (c :: rest) (c :: result)

/-- The characters of a template with the marks of several names replaced. -/
theorem toList_filledInTurn (template : String) (marks : List (String × Value)) :
    (filledInTurn template marks).toList = fillEach marks template.toList := by
  induction marks generalizing template with
  | nil => rfl
  | cons m rest ih =>
    have hrest := ih (filled template m.1 m.2.shown)
    rw [toList_filled] at hrest
    exact hrest

/-- A mark begins with an opening brace. -/
theorem head?_mark (name : String) : (mark name).toList.head? = some '\x7b' := by
  rw [toList_mark]
  rfl

/-- A mark in front of a text: a brace, the name and another brace. -/
theorem mark_append (name : String) (back : List Char) :
    (mark name).toList ++ back = '\x7b' :: (name.toList ++ '\x7d' :: back) := by
  rw [toList_mark]
  simp

/-- A mark begins with an opening brace, so no other character begins one. -/
theorem not_mark_prefix_of_ne {c : Char} (h : c ≠ '\x7b') (name : String) (rest : List Char) :
    ¬ (mark name).toList <+: c :: rest := by
  rintro ⟨back, hback⟩
  rw [mark_append, List.cons.injEq] at hback
  exact h hback.1.symm

/-- An identifier is not empty. -/
theorem shown_ne_nil_of_isIdentifier {v : Value} (h : v.IsIdentifier) : v.shown.toList ≠ [] := by
  have hfull := h.isFull
  obtain ⟨identifier, rfl, -⟩ := h
  rw [Value.isFull_text] at hfull
  simpa using hfull

/-- An identifier begins with a character that is no brace. -/
theorem exists_shown_eq_cons {v : Value} (h : v.IsIdentifier) :
    ∃ c rest, v.shown.toList = c :: rest ∧ c ≠ '\x7b' := by
  obtain ⟨c, rest, hshown⟩ := List.exists_cons_of_ne_nil (shown_ne_nil_of_isIdentifier h)
  exact ⟨c, rest, hshown, (braceless_of_isIdentifier h c (hshown ▸ List.mem_cons_self)).1⟩

variable {m : String × Value}

@[simp] theorem fillMark_nil (m : String × Value) : fillMark m [] = [] := rfl

/-- A mark in front is replaced. -/
theorem fillMark_append (m : String × Value) (back : List Char) :
    fillMark m ((mark m.1).toList ++ back) = m.2.shown.toList ++ fillMark m back :=
  Text.substituted_append (mark_ne_nil m.1) _ back

/-- A character at which no mark begins stays. -/
theorem fillMark_cons {c : Char} {rest : List Char} (h : ¬ (mark m.1).toList <+: c :: rest) :
    fillMark m (c :: rest) = c :: fillMark m rest :=
  Text.substituted_cons h _

/-- A text without opening braces stays. -/
theorem fillMark_append_of_ne (m : String × Value) {front : List Char}
    (h : ∀ c ∈ front, c ≠ '\x7b') (rest : List Char) :
    fillMark m (front ++ rest) = front ++ fillMark m rest :=
  Text.substituted_append_of_ne (head?_mark m.1) _ h rest

/-- A closing brace in front stays. -/
theorem fillMark_closing (m : String × Value) (back : List Char) :
    fillMark m ('\x7d' :: back) = '\x7d' :: fillMark m back :=
  fillMark_cons (not_mark_prefix_of_ne (by decide) m.1 back)

/-- Behind a text that filling leaves in its place the rest is filled on its own, however much
of it is cut off. -/
theorem fillMark_append_of_kept (hm : m.2.IsIdentifier) {front back rest text : List Char}
    (hkept : fillMark m (front ++ back) = front ++ rest) (htext : text <+: back) :
    fillMark m (front ++ text) = front ++ fillMark m text :=
  Text.substituted_append_of_kept (head?_mark m.1) (shown_ne_nil_of_isIdentifier hm)
    (fun c hc => (braceless_of_isIdentifier hm c hc).1) hkept htext

/-- Nothing but the empty text becomes empty. -/
theorem eq_nil_of_fillMark_eq_nil (hm : m.2.IsIdentifier) {text : List Char}
    (h : fillMark m text = []) : text = [] := by
  cases text with
  | nil => rfl
  | cons c rest =>
    by_cases hbegins : (mark m.1).toList <+: c :: rest
    · obtain ⟨back, hback⟩ := hbegins
      rw [← hback, fillMark_append, List.append_eq_nil_iff] at h
      exact absurd h.1 (shown_ne_nil_of_isIdentifier hm)
    · rw [fillMark_cons hbegins] at h
      cases h

namespace LeavesAlone

variable {other : String} {back : List Char}

/-- What leaves the marks of a whole text alone leaves those behind a front alone, when the front
becomes a text that no shorter part of it becomes. -/
theorem of_append {front filled : List Char} (h : LeavesAlone m other (front ++ back))
    (hfront : ∀ text, text <+: back → fillMark m (front ++ text) = filled ++ fillMark m text)
    (hpart : ∀ part rest text, front = part ++ rest → fillMark m part = filled ++ text →
      rest = []) :
    LeavesAlone m other back := by
  have hwhole := hfront back (List.prefix_refl back)
  intro start finish
  constructor
  · intro hfilled
    have hmoved : fillMark m (front ++ back) =
        (filled ++ start) ++ ((mark other).toList ++ finish) := by
      rw [hwhole, hfilled, List.append_assoc]
    obtain ⟨before, behind, htext, hbefore, hbehind⟩ := (h _ _).1 hmoved
    obtain ⟨rest, hrest, hback⟩ : ∃ rest, before = front ++ rest ∧
        back = rest ++ ((mark other).toList ++ behind) := by
      rcases List.append_eq_append_iff.1 htext with ⟨rest, hrest, hback⟩ | ⟨rest, hrest, hback⟩
      · exact ⟨rest, hrest, hback⟩
      · have hnone := hpart before rest start hrest hbefore
        subst hnone
        exact ⟨[], by simpa using hrest.symm, by simpa using hback.symm⟩
    refine ⟨rest, behind, hback, ?_, hbehind⟩
    have hbegins : rest <+: back := hback ▸ List.prefix_append _ _
    rw [hrest, hfront rest hbegins] at hbefore
    exact List.append_cancel_left hbefore
  · rintro ⟨before, behind, hback, hbefore, hbehind⟩
    have hbegins : before <+: back := hback ▸ List.prefix_append _ _
    have hmoved := (h (filled ++ start) finish).2 ⟨front ++ before, behind,
      by rw [hback, List.append_assoc], by rw [hfront before hbegins, hbefore], hbehind⟩
    rw [hwhole, List.append_assoc] at hmoved
    exact List.append_cancel_left hmoved

/-- The marks behind a text that stays in its place are left alone. -/
theorem of_kept (hm : m.2.IsIdentifier) {front rest : List Char}
    (h : LeavesAlone m other (front ++ back)) (hkept : fillMark m (front ++ back) = front ++ rest) :
    LeavesAlone m other back := by
  refine h.of_append (fun text htext => fillMark_append_of_kept hm hkept htext) ?_
  rintro part cut text rfl hpart
  rw [List.append_assoc, List.append_assoc] at hkept
  have hstays := fillMark_append_of_kept hm hkept List.nil_prefix
  rw [List.append_nil, fillMark_nil, List.append_nil] at hstays
  rw [hstays, List.append_assoc] at hpart
  exact (List.append_eq_nil_iff.1 (List.self_eq_append_right.1 hpart)).1

/-- The marks behind one that is replaced are left alone. -/
theorem of_found (hm : m.2.IsIdentifier) (h : LeavesAlone m other ((mark m.1).toList ++ back)) :
    LeavesAlone m other back := by
  refine h.of_append (fun text _ => fillMark_append m text) ?_
  intro part rest text hfront hpart
  by_contra hrest
  have hlength : part.length < (mark m.1).toList.length := by
    rw [hfront, List.length_append]
    exact Nat.lt_add_of_pos_right (List.length_pos_iff.2 hrest)
  -- The part stays as it is and begins with a brace, but an identifier does not.
  have hstays : fillMark m part = part := Text.substituted_of_length_lt hlength
  obtain ⟨c, others, hshown, hc⟩ := exists_shown_eq_cons hm
  rw [hstays, hshown] at hpart
  rw [hpart, toList_mark] at hfront
  simp only [List.cons_append, List.cons.injEq] at hfront
  exact hc hfront.1.symm

end LeavesAlone

namespace FillsAtOnce

variable {marks others : List (String × Value)} {text result : List Char}

/-- The order of the names does not matter to one pass. -/
theorem of_perm (hperm : marks.Perm others) (h : FillsAtOnce marks text result) :
    FillsAtOnce others text result := by
  induction h with
  | nil => exact .nil
  | marker hm _ ih => exact .marker (hperm.mem_iff.1 hm) ih
  | other hnone _ ih => exact .other (fun m hm => hnone m (hperm.mem_iff.2 hm)) ih

/-- Every text can be read in one pass. -/
theorem exists_result (marks : List (String × Value)) (text : List Char) :
    ∃ result, FillsAtOnce marks text result := by
  induction hn : text.length using Nat.strongRecOn generalizing text with
  | ind n ih =>
    subst hn
    cases text with
    | nil => exact ⟨[], .nil⟩
    | cons c rest =>
      by_cases hfound : ∃ m ∈ marks, (mark m.1).toList <+: c :: rest
      · obtain ⟨m, hm, back, hback⟩ := hfound
        have hshorter : back.length < (c :: rest).length := by
          have hpos := List.length_pos_iff.2 (mark_ne_nil m.1)
          rw [← hback, List.length_append]
          omega
        obtain ⟨result, hresult⟩ := ih back.length hshorter back rfl
        rw [← hback]
        exact ⟨_, .marker hm hresult⟩
      · have hnone : ∀ m ∈ marks, ¬ (mark m.1).toList <+: c :: rest :=
          fun m hm hbegins => hfound ⟨m, hm, hbegins⟩
        obtain ⟨result, hresult⟩ := ih rest.length (Nat.lt_succ_self _) rest rfl
        exact ⟨_, .other hnone hresult⟩

/-- Characters with which no mark begins are copied. -/
theorem append_of_ne {front : List Char} (hfront : ∀ c ∈ front, c ≠ '\x7b')
    (h : FillsAtOnce marks text result) : FillsAtOnce marks (front ++ text) (front ++ result) := by
  induction front with
  | nil => exact h
  | cons c front ih =>
    obtain ⟨hc, hothers⟩ := List.forall_mem_cons.1 hfront
    exact .other (fun m _ => not_mark_prefix_of_ne hc m.1 _) (ih hothers)

/-- When filling the marks of a name leaves those of all other names alone, one pass for all
names is one pass for the other names over what filling makes of the text. -/
theorem fillMark (hm : m.2.IsIdentifier) (h : FillsAtOnce (m :: others) text result)
    (halone : ∀ k ∈ others, LeavesAlone m k.1 text) :
    FillsAtOnce others (RawSql.fillMark m text) result := by
  induction h with
  | nil => exact .nil
  | @marker k back result hk _ ih =>
    rcases List.mem_cons.1 hk with rfl | hk
    · rw [fillMark_append]
      exact (ih fun j hj => (halone j hj).of_found hm).append_of_ne
        fun c hc => (braceless_of_isIdentifier hm c hc).1
    · have hkept := (halone k hk [] (RawSql.fillMark m back)).2 ⟨[], back, rfl, rfl, rfl⟩
      rw [List.nil_append] at hkept
      rw [hkept]
      exact .marker hk (ih fun j hj => (halone j hj).of_kept hm hkept)
  | @other c rest result hnone _ ih =>
    have hkept := fillMark_cons (hnone m List.mem_cons_self)
    rw [hkept]
    have hrest : ∀ j ∈ others, LeavesAlone m j.1 rest := by
      intro j hj
      have hwhole : LeavesAlone m j.1 ([c] ++ rest) := halone j hj
      exact hwhole.of_kept hm hkept
    refine .other ?_ (ih hrest)
    -- A mark in front of what is left would be one in front of the text.
    rintro k hk ⟨finish, hfinish⟩
    rw [← hkept] at hfinish
    obtain ⟨before, behind, htext, hbefore, -⟩ := (halone k hk [] finish).1 hfinish.symm
    rw [eq_nil_of_fillMark_eq_nil hm hbefore, List.nil_append] at htext
    exact hnone k (List.mem_cons_of_mem m hk) ⟨behind, htext.symm⟩

/-- One pass without any name copies the text. -/
theorem eq_of_nil (h : FillsAtOnce [] text result) : result = text := by
  induction h with
  | nil => rfl
  | marker hm => cases hm
  | other _ _ ih => rw [ih]

/-- Names that are filled in turn and leave the later ones alone give the result of one pass, which
is its only one. -/
theorem eq_fillEach (hvalues : ∀ m ∈ marks, m.2.IsIdentifier)
    (h : FillsAtOnce marks text result) (hapart : Undisturbed marks text) :
    result = fillEach marks text := by
  induction marks generalizing text with
  | nil => exact h.eq_of_nil
  | cons m rest ih =>
    obtain ⟨hm, hrest⟩ := List.forall_mem_cons.1 hvalues
    exact ih hrest (h.fillMark hm hapart.1) hapart.2

end FillsAtOnce

/-- When each name leaves the marks of later names alone, one pass has exactly one result, and
filling the names in turn gives it. -/
theorem fillsAtOnce_iff {marks : List (String × Value)} (hvalues : ∀ m ∈ marks, m.2.IsIdentifier)
    {text : List Char} (h : Undisturbed marks text) (result : List Char) :
    FillsAtOnce marks text result ↔ result = fillEach marks text := by
  constructor
  · exact fun hresult => hresult.eq_fillEach hvalues h
  · rintro rfl
    obtain ⟨result, hresult⟩ := FillsAtOnce.exists_result marks text
    rwa [← hresult.eq_fillEach hvalues h]

/-- Two orders in which each name leaves the marks of later names alone give the same text. -/
theorem fillEach_eq_of_perm {marks others : List (String × Value)} (hperm : others.Perm marks)
    (hvalues : ∀ m ∈ marks, m.2.IsIdentifier) {text : List Char} (h : Undisturbed marks text)
    (hothers : Undisturbed others text) : fillEach others text = fillEach marks text := by
  have hidentifiers : ∀ m ∈ others, m.2.IsIdentifier := fun m hm => hvalues m (hperm.mem_iff.1 hm)
  have honce := (fillsAtOnce_iff hidentifiers hothers _).2 rfl
  exact (fillsAtOnce_iff hvalues h _).1 (honce.of_perm hperm)

end RawSql

end BoundSql
