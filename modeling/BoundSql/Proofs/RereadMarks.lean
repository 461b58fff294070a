import BoundSql.Proofs.DivergingMarks
import Mathlib.Data.List.Permutation

/-!
# Identifiers that are read again

When filling the marks of a name makes a new mark of a name that is still to be filled, an
identifier that was put into the template is read again as a part of that mark. Another order
of the names does not read it again: there the mark is made when its own name is done, so that
it stays. Behind the text in front of it, where the one result goes on with an identifier, the
other one has a brace that no further name removes. So the two results differ, and the order of
names without braces is of no importance exactly when none of them is ever disturbed.
-/

namespace BoundSql

namespace Text

variable {old new : List Char}

/-- A character that replacing does not put into a text was in it, and what is in front of it and
behind it is searched on its own. -/
theorem exists_of_substituted_eq_append_cons (hold : old ≠ []) {c : Char} (hc : c ∉ new)
    {text front back : List Char} (h : substituted old new text = front ++ c :: back) :
    ∃ before behind, text = before ++ c :: behind ∧ substituted old new before = front ∧
      substituted old new behind = back := by
  induction text using occurrence_induction hold generalizing front with
  | nil => simp [substituted, substitutedFrom] at h
  | found rest ih =>
    rw [substituted_append hold] at h
    rcases List.append_eq_append_iff.1 h with ⟨cut, hfront, hrest⟩ | ⟨cut, hnew, hcut⟩
    · obtain ⟨before, behind, hrest, hbefore, hbehind⟩ := ih hrest
      refine ⟨old ++ before, behind, ?_, ?_, hbehind⟩
      · rw [hrest, List.append_assoc]
      · rw [substituted_append hold, hbefore, hfront]
    · cases cut with
      | nil =>
        have hfirst : substituted old new rest = [] ++ c :: back := hcut.symm
        obtain ⟨before, behind, hrest, hbefore, hbehind⟩ := ih hfirst
        refine ⟨old ++ before, behind, ?_, ?_, hbehind⟩
        · rw [hrest, List.append_assoc]
        · rw [substituted_append hold, hbefore, List.append_nil, hnew, List.append_nil]
      | cons d cut =>
        rw [List.cons_append, List.cons.injEq] at hcut
        exact absurd (by rw [hnew, hcut.1]; simp) hc
  | other d rest hother ih =>
    rw [substituted_cons hother] at h
    cases front with
    | nil =>
      rw [List.nil_append, List.cons.injEq] at h
      exact ⟨[], rest, by rw [h.1, List.nil_append], rfl, h.2⟩
    | cons e front =>
      rw [List.cons_append, List.cons.injEq] at h
      obtain ⟨before, behind, hrest, hbefore, hbehind⟩ := ih h.2
      have hcut : ¬ old <+: d :: before := fun hbegins =>
        hother (hbegins.trans ⟨c :: behind, by rw [hrest, List.cons_append]⟩)
      refine ⟨d :: before, behind, ?_, ?_, hbehind⟩
      · rw [hrest, List.cons_append]
      · rw [substituted_cons hcut, hbefore, h.1]

end Text

namespace RawSql

variable {m k : String × Value} {names : List String} {text : List Char}

/-- The marks of another name that filling leaves in a text are those of the text, unless one of
them is made of more than its name. -/
theorem exists_of_not_leavesAlone (hm : m.2.IsIdentifier) (hname : Braceless m.1)
    {other : String} (hother : Braceless other) (hne : other ≠ m.1)
    (h : ¬ LeavesAlone m other text) :
    ∃ before inner behind, text = before ++ '\x7b' :: (inner ++ '\x7d' :: behind) ∧
      fillMark m inner = other.toList ∧ inner ≠ other.toList := by
  by_contra hnone
  refine h fun front back => ⟨?_, ?_⟩
  · intro hfilled
    have hbraces := braceless_of_isIdentifier hm
    rw [mark_append] at hfilled
    obtain ⟨before, rest, rfl, hbefore, hrest⟩ := Text.exists_of_substituted_eq_append_cons
      (mark_ne_nil m.1) (fun hc => (hbraces _ hc).1 rfl) hfilled
    obtain ⟨inner, behind, rfl, hinner, hbehind⟩ := Text.exists_of_substituted_eq_append_cons
      (mark_ne_nil m.1) (fun hc => (hbraces _ hc).2 rfl) hrest
    have hsame : inner = other.toList := by
      by_contra hdiffers
      exact hnone ⟨before, inner, behind, rfl, hinner, hdiffers⟩
    refine ⟨before, behind, ?_, hbefore, hbehind⟩
    rw [hsame, mark_append]
  · rintro ⟨before, behind, rfl, rfl, rfl⟩
    rw [← fillMark_mark_append hname hother hne behind, mark_append]
    exact fillMark_append_brace hname before _

/-- A text that filling leaves without braces is made of marks that are filled and of characters
that are no braces: what holds of the empty text, and of a text when it holds of the rest behind
such a mark or such a character, holds of it. -/
theorem filled_induction {motive : List Char → Prop} (nil : motive [])
    (found : ∀ rest, motive rest → motive ((mark m.1).toList ++ rest))
    (char : ∀ c rest, c ≠ '\x7b' → motive rest → motive (c :: rest))
    (h : NoBraces (fillMark m text)) : motive text := by
  induction text using Text.occurrence_induction (mark_ne_nil m.1) with
  | nil => exact nil
  | found rest ih =>
    rw [fillMark_append] at h
    exact found rest (ih fun c hc => h c (List.mem_append_right _ hc))
  | other c rest hother ih =>
    rw [fillMark_cons hother] at h
    obtain ⟨hc, hrest⟩ := List.forall_mem_cons.1 h
    exact char c rest hc.1 (ih hrest)

/-- A text that filling leaves without braces is filled on its own in front of another one, with
the marks of any name. -/
theorem fillMark_append_of_filled (hm : Braceless m.1) (hk : Braceless k.1)
    (h : NoBraces (fillMark m text)) (back : List Char) :
    fillMark k (text ++ back) = fillMark k text ++ fillMark k back := by
  refine filled_induction
    (motive := fun text => fillMark k (text ++ back) = fillMark k text ++ fillMark k back)
    rfl ?_ ?_ h
  · intro rest ih
    have hpiece := substituted_written_append hk k.2.shown (p := .marker m.1) hm
    change ∀ rest, fillMark k ((mark m.1).toList ++ rest) = _ ++ fillMark k rest at hpiece
    rw [List.append_assoc, hpiece, hpiece, ih, List.append_assoc]
  · intro c rest hc ih
    rw [List.cons_append, fillMark_cons (not_mark_prefix_of_ne hc k.1 _), ih,
      fillMark_cons (not_mark_prefix_of_ne hc k.1 _), List.cons_append]

/-- A text that filling the marks of one name leaves without braces has no mark of another one. -/
theorem fillMark_of_filled (hm : Braceless m.1) (hk : Braceless k.1) (hne : m.1 ≠ k.1)
    (h : NoBraces (fillMark m text)) : fillMark k text = text := by
  refine filled_induction (motive := fun text => fillMark k text = text) rfl ?_ ?_ h
  · intro rest ih
    rw [fillMark_mark_append hk hm hne, ih]
  · intro c rest hc ih
    rw [fillMark_cons (not_mark_prefix_of_ne hc k.1 _), ih]

/-- When a text that filling leaves without braces stands between two braces, and a mark begins
with the first one, the text is the name of the mark. -/
theorem eq_of_mark_begins (h : NoBraces (fillMark m text)) {name : String} (hname : Braceless name)
    {back : List Char} (hbegins : (mark name).toList <+: '\x7b' :: (text ++ '\x7d' :: back)) :
    text = name.toList := by
  obtain ⟨behind, hbehind⟩ := hbegins
  rw [mark_append, List.cons.injEq] at hbehind
  rcases List.append_eq_append_iff.1 hbehind.2 with ⟨cut, htext, hcut⟩ | ⟨cut, hends, hcut⟩
  · cases cut with
    | nil => rw [htext, List.append_nil]
    | cons c cut =>
      -- The text would have the closing brace behind the name, and keep it.
      rw [List.cons_append, List.cons.injEq] at hcut
      obtain ⟨rfl, -⟩ := hcut
      have hopen : ∀ c ∈ name.toList ++ ['\x7d'], c ≠ '\x7b' := by
        intro c hc
        rcases List.mem_append.1 hc with hc | hc
        · exact (hname c hc).1
        · rw [List.mem_singleton.1 hc]
          decide
      rw [htext, List.append_cons, fillMark_append_of_ne m hopen] at h
      exact absurd rfl (h '\x7d' (by simp)).2
  · cases cut with
    | nil => rw [hends, List.append_nil]
    | cons c cut =>
      rw [List.cons_append, List.cons.injEq] at hcut
      exact absurd hcut.1.symm (hname c (by rw [hends]; simp)).2

section Reread

variable {inner behind : List Char}

/-- A pair of braces around a text that becomes another name becomes the mark of that name. -/
theorem fillMark_inner (hm : Braceless m.1) (hk : Braceless k.1) (hne : m.1 ≠ k.1)
    (hinner : fillMark m inner = k.1.toList) (back : List Char) :
    fillMark m ('\x7b' :: (inner ++ '\x7d' :: back)) = (mark k.1).toList ++ fillMark m back := by
  have hbraces : NoBraces (fillMark m inner) := hinner ▸ hk
  have hother : ¬ (mark m.1).toList <+: '\x7b' :: (inner ++ '\x7d' :: back) := by
    intro hbegins
    -- The name itself has no braces to be filled.
    have hname := eq_of_mark_begins hbraces hm hbegins
    rw [hname, fillMark_of_ne m fun c hc => (hm c hc).2] at hinner
    exact hne (String.toList_inj.1 hinner)
  rw [fillMark_cons hother, fillMark_append_of_filled hm hm hbraces, fillMark_closing, hinner,
    mark_append]

/-- Filling the marks of that name first leaves the braces and the text between them. -/
theorem fillMark_unread (hm : Braceless m.1) (hk : Braceless k.1) (hne : m.1 ≠ k.1)
    (hinner : fillMark m inner = k.1.toList) (hdiffers : inner ≠ k.1.toList) (back : List Char) :
    fillMark k ('\x7b' :: (inner ++ '\x7d' :: back)) =
      '\x7b' :: (inner ++ '\x7d' :: fillMark k back) := by
  have hbraces : NoBraces (fillMark m inner) := hinner ▸ hk
  have hother : ¬ (mark k.1).toList <+: '\x7b' :: (inner ++ '\x7d' :: back) :=
    fun hbegins => hdiffers (eq_of_mark_begins hbraces hk hbegins)
  rw [fillMark_cons hother, fillMark_append_of_filled hm hk hbraces,
    fillMark_of_filled hm hk hne hbraces, fillMark_closing]

/-- When a text that becomes the name `k` stands between braces, filling the marks of `m` in front
of those of `k` reads the identifiers in it again, and filling them behind those of `k` leaves a
mark of `k`. The results diverge, if not before. -/
theorem diverge_of_reread (hm : Braceless m.1) (hk : Braceless k.1) (hne : m.1 ≠ k.1)
    (hvalue : k.2.IsIdentifier) (hnames : k.1 ∉ names) (hinner : fillMark m inner = k.1.toList)
    (hdiffers : inner ≠ k.1.toList) {before : List Char}
    (hbefore : fillMark k (fillMark m before) = fillMark m (fillMark k before) ∨
      Diverge names (fillMark k (fillMark m before)) (fillMark m (fillMark k before)))
    (htext : text = before ++ '\x7b' :: (inner ++ '\x7d' :: behind)) :
    Diverge names (fillMark k (fillMark m text)) (fillMark m (fillMark k text)) := by
  have hread : fillMark k (fillMark m text) = fillMark k (fillMark m before) ++
      (k.2.shown.toList ++ fillMark k (fillMark m behind)) := by
    rw [htext, fillMark_append_brace hm, fillMark_inner hm hk hne hinner, mark_append,
      fillMark_append_brace hk, ← mark_append, fillMark_append]
  have hunread : fillMark m (fillMark k text) = fillMark m (fillMark k before) ++
      ((mark k.1).toList ++ fillMark m (fillMark k behind)) := by
    rw [htext, fillMark_append_brace hk, fillMark_unread hm hk hne hinner hdiffers,
      fillMark_append_brace hm, fillMark_inner hm hk hne hinner]
  rw [hread, hunread]
  rcases hbefore with hsame | hdiverge
  · obtain ⟨c, others, hshown, hc⟩ := exists_shown_eq_cons hvalue
    rw [hsame, hshown]
    exact .inl ⟨_, c, _, _, rfl, rfl, hc, .closed hk hnames⟩
  · exact hdiverge.append _ _

end Reread

/-- Two names of which each leaves the marks of the other one alone can be filled in either
order. -/
theorem fillMark_comm (hm : m.2.IsIdentifier) (hk : k.2.IsIdentifier)
    (h : LeavesAlone m k.1 text ∧ LeavesAlone k m.1 text) :
    fillMark k (fillMark m text) = fillMark m (fillMark k text) := by
  have hvalues : ∀ j ∈ [k, m], j.2.IsIdentifier := by simp [hm, hk]
  exact fillEach_eq_of_perm (List.Perm.swap k m []) hvalues
    ⟨by simpa using h.2, by simp [Undisturbed]⟩ ⟨by simpa using h.1, by simp [Undisturbed]⟩

/-- Of two names of which one disturbs the marks of the other, the two orders diverge. -/
theorem diverge_of_disturbed (hm : Braceless m.1) (hk : Braceless k.1) (hne : m.1 ≠ k.1)
    (hvalue : m.2.IsIdentifier) (hvalue' : k.2.IsIdentifier) (hnames : m.1 ∉ names)
    (hnames' : k.1 ∉ names) (h : ¬ (LeavesAlone m k.1 text ∧ LeavesAlone k m.1 text)) :
    Diverge names (fillMark k (fillMark m text)) (fillMark m (fillMark k text)) := by
  induction hn : text.length using Nat.strongRecOn generalizing text with
  | ind n ih =>
    subst hn
    -- In front of the marks that are disturbed the orders agree, or they diverge there.
    have hfront (before rest : List Char) (htext : text = before ++ '\x7b' :: rest) :
        fillMark k (fillMark m before) = fillMark m (fillMark k before) ∨
          Diverge names (fillMark k (fillMark m before)) (fillMark m (fillMark k before)) := by
      by_cases halone : LeavesAlone m k.1 before ∧ LeavesAlone k m.1 before
      · exact .inl (fillMark_comm hvalue hvalue' halone)
      · exact .inr (ih before.length (by rw [htext]; simp) halone rfl)
    rcases not_and_or.1 h with h | h
    · obtain ⟨before, inner, behind, htext, hinner, hdiffers⟩ :=
        exists_of_not_leavesAlone hvalue hm hk hne.symm h
      exact diverge_of_reread hm hk hne hvalue' hnames' hinner hdiffers (hfront _ _ htext) htext
    · obtain ⟨before, inner, behind, htext, hinner, hdiffers⟩ :=
        exists_of_not_leavesAlone hvalue' hk hm hne h
      have hbefore := (hfront _ _ htext).imp Eq.symm Diverge.symm
      exact (diverge_of_reread hk hm hne.symm hvalue hnames hinner hdiffers hbefore htext).symm

/-- When filling names in any order gives the same text, no order disturbs a mark. -/
theorem undisturbed_of_same {marks : List (String × Value)} (hdistinct : (marks.map Prod.fst).Nodup)
    (hmarks : ∀ m ∈ marks, Braceless m.1 ∧ m.2.IsIdentifier)
    (h : ∀ order, order.Perm marks → fillEach order text = fillEach marks text) :
    Undisturbed marks text := by
  induction marks generalizing text with
  | nil => trivial
  | cons m rest ih =>
    obtain ⟨⟨hm, hvalue⟩, hrest⟩ := List.forall_mem_cons.1 hmarks
    rw [List.map_cons, List.nodup_cons] at hdistinct
    refine ⟨?_, ih hdistinct.2 hrest fun order horder => h (m :: order) (horder.cons m)⟩
    intro k hk
    by_contra hdisturbed
    -- The two orders that begin with the two names would diverge.
    obtain ⟨front, back, rfl⟩ := List.append_of_mem hk
    have hothers : (k :: (front ++ back)).Perm (front ++ k :: back) := List.perm_middle.symm
    obtain ⟨hm', hdistinct⟩ := hdistinct
    rw [(hothers.map Prod.fst).mem_iff.symm, List.map_cons, List.mem_cons, not_or] at hm'
    rw [(hothers.map Prod.fst).nodup_iff.symm, List.map_cons, List.nodup_cons] at hdistinct
    obtain ⟨hk', hvalue'⟩ := hrest k hk
    have hdiverge := diverge_of_disturbed hm hk' hm'.1 hvalue hvalue' hm'.2 hdistinct.1
      fun halone => hdisturbed halone.1
    have hfurther : ∀ j ∈ front ++ back, Braceless j.1 ∧ j.2.IsIdentifier ∧
        j.1 ∈ (front ++ back).map Prod.fst := by
      intro j hj
      obtain ⟨hj', hfilled⟩ := hrest j (hothers.mem_iff.1 (List.mem_cons_of_mem k hj))
      exact ⟨hj', hfilled, List.mem_map_of_mem hj⟩
    have hresults := hdiverge.fillEach hfurther
    have hfirst := h (m :: k :: (front ++ back)) (hothers.cons m)
    have hsecond := h (k :: m :: (front ++ back))
      ((List.Perm.swap m k (front ++ back)).trans (hothers.cons m))
    exact hresults.ne (hfirst.trans hsecond.symm)

/-- Two orders of the same names, both with identifiers for them, make the same raw SQL of a
template when in both each name leaves the marks of later names alone. It is then the one text
that a single pass over the template gives. When the names are distinct and without braces,
this is what the order depends on: all orders make the same raw SQL if and only if none of them
disturbs a mark. -/
theorem fills_undisturbed_marks_in_any_order (template : String)
    {marks : List (String × Value)} (hvalues : ∀ m ∈ marks, m.2.IsIdentifier)
    (bindings : List Value) :
    (∀ others, others.Perm marks → Undisturbed marks template.toList →
      Undisturbed others template.toList →
        ∃ sql, ofTemplate (.text template) (.mapping (namedEntries marks)) (.list bindings) =
            .ok ⟨sql, bindings⟩ ∧
          ofTemplate (.text template) (.mapping (namedEntries others)) (.list bindings) =
            .ok ⟨sql, bindings⟩ ∧
          ∀ result, FillsAtOnce marks template.toList result ↔ result = sql.toList) ∧
    ((marks.map Prod.fst).Nodup → (∀ m ∈ marks, Braceless m.1) →
      ((∀ order, order.Perm marks →
          ofTemplate (.text template) (.mapping (namedEntries order)) (.list bindings) =
            ofTemplate (.text template) (.mapping (namedEntries marks)) (.list bindings)) ↔
        ∀ order, order.Perm marks → Undisturbed order template.toList)) := by
  have hmade (order : List (String × Value)) (horder : order.Perm marks) :
      ofTemplate (.text template) (.mapping (namedEntries order)) (.list bindings) =
        .ok ⟨filledInTurn template order, bindings⟩ :=
    ofTemplate_of_isIdentifier (fun m hm => hvalues m (horder.mem_iff.1 hm)) template bindings
  have hsame (others : List (String × Value)) (hperm : others.Perm marks)
      (h : Undisturbed marks template.toList) (hothers : Undisturbed others template.toList) :
      filledInTurn template others = filledInTurn template marks := by
    rw [← String.toList_inj, toList_filledInTurn, toList_filledInTurn]
    exact fillEach_eq_of_perm hperm hvalues h hothers
  refine ⟨?_, ?_⟩
  · intro others hperm h hothers
    refine ⟨filledInTurn template marks, hmade marks (.refl _), ?_, ?_⟩
    · rw [hmade others hperm, hsame others hperm h hothers]
    · rw [toList_filledInTurn]
      exact fillsAtOnce_iff hvalues h
  · intro hdistinct hnames
    constructor
    · intro hequal order horder
      have hfilled (other : List (String × Value)) (hother : other.Perm marks) :
          fillEach other template.toList = fillEach marks template.toList := by
        have hresults := hequal other hother
        rw [hmade other hother, hmade marks (.refl _), Except.ok.injEq, RawSql.mk.injEq] at hresults
        rw [← toList_filledInTurn, ← toList_filledInTurn, hresults.1]
      refine undisturbed_of_same ((horder.map Prod.fst).nodup_iff.2 hdistinct) ?_ ?_
      · intro m hm
        have hmark := horder.mem_iff.1 hm
        exact ⟨hnames m hmark, hvalues m hmark⟩
      · intro other hother
        rw [hfilled other (hother.trans horder), hfilled order horder]
    · intro h order horder
      rw [hmade order horder, hmade marks (.refl _),
        hsame order horder (h marks (.refl _)) (h order horder)]

/-- In this template the identifier of the first name becomes a part of a mark of the second name,
when the first one is filled first. The two orders of the names then make different raw SQL, and in
one of them the identifier is read again. -/
theorem identifier_read_again :
    [("b", Value.text "c"), ("a", .text "b")].Perm [("a", .text "b"), ("b", .text "c")] ∧
      (∀ m ∈ [("a", Value.text "b"), ("b", .text "c")], m.2.isIdentifier = true) ∧
      ofTemplate (.text "\x7b\x7ba\x7d\x7d")
          (.mapping (namedEntries [("a", .text "b"), ("b", .text "c")])) (.list []) =
        .ok ⟨"c", []⟩ ∧
      ofTemplate (.text "\x7b\x7ba\x7d\x7d")
          (.mapping (namedEntries [("b", .text "c"), ("a", .text "b")])) (.list []) =
        .ok ⟨"\x7bb\x7d", []⟩ :=
  ⟨List.Perm.swap _ _ [], by decide +kernel, rfl, rfl⟩

/-- A template in which marks touch each other and stand between further braces. -/
def nestedTemplate : String :=
  "\x7b\x7bcol\x7d\x7d > \x7btab\x7d\x7bcol\x7d + ?"

/-- Identifiers for its marks, of which one is the name of the other mark. -/
def nestedMarks : List (String × Value) :=
  [("col", .text "tax"), ("tab", .text "col")]

/-- Both orders make the same raw SQL of the template, in which the identifier `col` stays. -/
theorem fills_undisturbed_marks_in_any_order_nestedTemplate :
    (∀ m ∈ nestedMarks, m.2.IsIdentifier) ∧ (nestedMarks.map Prod.fst).Nodup ∧
      (∀ m ∈ nestedMarks, Braceless m.1) ∧
      (∀ order, order.Perm nestedMarks → Undisturbed order nestedTemplate.toList) ∧
      ∃ sql, ofTemplate (.text nestedTemplate) (.mapping (namedEntries nestedMarks))
            (.list [.int 5]) = .ok ⟨sql, [.int 5]⟩ ∧
        ofTemplate (.text nestedTemplate) (.mapping (namedEntries nestedMarks.reverse))
            (.list [.int 5]) = .ok ⟨sql, [.int 5]⟩ ∧
        sql = "\x7btax\x7d > coltax + ?" ∧
        ∀ result, FillsAtOnce nestedMarks nestedTemplate.toList result ↔ result = sql.toList := by
  have hvalues : ∀ m ∈ nestedMarks, m.2.IsIdentifier := by
    have hchecked : ∀ m ∈ nestedMarks, m.2.isIdentifier = true := by decide +kernel
    exact fun m hm => (Value.isIdentifier_iff m.2).1 (hchecked m hm)
  have hdistinct : (nestedMarks.map Prod.fst).Nodup := by decide +kernel
  have hnames : ∀ m ∈ nestedMarks, Braceless m.1 := by simp [nestedMarks, Braceless]
  have hmade : ∀ order, order.Perm nestedMarks →
      ofTemplate (.text nestedTemplate) (.mapping (namedEntries order)) (.list [.int 5]) =
        .ok ⟨"\x7btax\x7d > coltax + ?", [.int 5]⟩ := by
    intro order horder
    have horders := List.mem_permutations'.2 horder
    simp only [nestedMarks, List.permutations', List.permutations'Aux, List.flatMap_cons,
      List.flatMap_nil, List.map_cons, List.map_nil, List.append_nil, List.mem_pair] at horders
    rcases horders with rfl | rfl
    · rfl
    · rfl
  obtain ⟨honce, hiff⟩ :=
    fills_undisturbed_marks_in_any_order nestedTemplate hvalues [.int 5]
  have hundisturbed := (hiff hdistinct hnames).1 fun order horder =>
    (hmade order horder).trans (hmade nestedMarks (.refl _)).symm
  have hreverse := List.reverse_perm nestedMarks
  obtain ⟨sql, hsql, hothers, hresult⟩ :=
    honce nestedMarks.reverse hreverse (hundisturbed _ (.refl _)) (hundisturbed _ hreverse)
  have hshown : sql = "\x7btax\x7d > coltax + ?" := by
    rw [hmade nestedMarks (.refl _)] at hsql
    cases hsql
    rfl
  exact ⟨hvalues, hdistinct, hnames, hundisturbed, sql, hsql, hothers, hshown, hresult⟩

end RawSql

end BoundSql
