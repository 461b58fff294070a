import BoundSql.Proofs.FilledTemplates

/-!
# Templates of texts and markers

A template as it is meant is made of texts without braces and of markers, each a name without
braces between two braces. In such a template the marks of a name are found exactly at the
markers of that name, and an identifier in the place of a marker is a text without braces again.
So replacing the marks name by name is the same as replacing all markers at once.
-/

namespace BoundSql

namespace Text

/-- Characters with which no occurrence begins stay. -/
theorem substituted_append_of_ne {old : List Char} {first : Char} (hfirst : old.head? = some first)
    (new : List Char) {front : List Char} (hfront : ∀ c ∈ front, c ≠ first) (rest : List Char) :
    substituted old new (front ++ rest) = front ++ substituted old new rest := by
  induction front with
  | nil => rfl
  | cons c front ih =>
    obtain ⟨hc, hothers⟩ := List.forall_mem_cons.1 hfront
    have hprefix : ¬ old <+: c :: (front ++ rest) := by
      rintro ⟨back, hback⟩
      cases old with
      | nil => cases hfirst
      | cons d old =>
        cases hfirst
        rw [List.cons_append, List.cons.injEq] at hback
        exact hc hback.1.symm
    rw [List.cons_append, substituted_cons hprefix, ih hothers, List.cons_append]

end Text

namespace RawSql

open Identifier

/-- A text has no braces. -/
def Braceless (s : String) : Prop :=
  ∀ c ∈ s.toList, c ≠ '\x7b' ∧ c ≠ '\x7d'

/-- A part of a template. -/
inductive Piece where
  /-- A text that stays as it is. -/
  | text (s : String)
  /-- The place of an identifier. -/
  | marker (name : String)

namespace Piece

/-- How a part stands in a template. -/
def written : Piece → String
  | text s => s
  | marker name => mark name

/-- There are no braces in a text, and none in the name of a marker. -/
def IsPlain : Piece → Prop
  | text s => Braceless s
  | marker name => Braceless name

/-- A part with an identifier in its place, if it is a marker of the given name. -/
def replaced (name identifier : String) : Piece → Piece
  | text s => text s
  | marker other => if other = name then text identifier else marker other

/-- What stands in the place of a part when all markers are replaced at once. A marker whose
name is not given stays. -/
def filledBy (marks : List (String × Value)) : Piece → String
  | text s => s
  | marker name =>
    match marks.lookup name with
    | some v => v.shown
    | none => mark name

end Piece

/-- An identifier has no braces. -/
theorem braceless_of_isIdentifier {v : Value} (h : v.IsIdentifier) : Braceless v.shown := by
  obtain ⟨identifier, rfl, hidentifier⟩ := h
  intro c hc
  have hchar := hidentifier.isReferenceChar c hc
  constructor
  · rintro rfl
    revert hchar
    decide
  · rintro rfl
    revert hchar
    decide

/-- Replacing puts identifiers without braces in the places of some markers. -/
theorem Piece.IsPlain.replaced {p : Piece} (h : p.IsPlain) (name : String) {identifier : String}
    (hidentifier : Braceless identifier) : (p.replaced name identifier).IsPlain := by
  cases p with
  | text s => exact h
  | marker other =>
    rw [Piece.replaced]
    split
    · exact hidentifier
    · exact h

/-- The first of several names is replaced, and the others in what it leaves. -/
theorem Piece.filledBy_cons (m : String × Value) (rest : List (String × Value)) (p : Piece) :
    p.filledBy (m :: rest) = (p.replaced m.1 m.2.shown).filledBy rest := by
  cases p with
  | text s => rfl
  | marker other =>
    rw [Piece.replaced, Piece.filledBy, List.lookup_cons]
    by_cases h : other = m.1
    · rw [if_pos h, h, beq_self_eq_true]
      rfl
    · rw [if_neg h, beq_eq_false_iff_ne.2 h]
      rfl

/-- The mark of a name does not begin a text that begins with the mark of another name. -/
theorem not_mark_prefix {name other : String} (hname : Braceless name) (hother : Braceless other)
    (hne : other ≠ name) (rest : List Char) :
    ¬ (mark name).toList <+: (mark other).toList ++ rest := by
  rintro ⟨back, hback⟩
  simp only [toList_mark, List.cons_append, List.append_assoc, List.cons.injEq, true_and,
    List.nil_append] at hback
  -- Both names end at the first closing brace.
  have hends : ∀ s : String, Braceless s → ∀ text : List Char,
      (s.toList ++ '\x7d' :: text).takeWhile (· != '\x7d') = s.toList := by
    intro s hs text
    have hkept : ∀ c ∈ s.toList, (c != '\x7d') = true := fun c hc => by simpa using (hs c hc).2
    rw [List.takeWhile_append_of_pos hkept, List.takeWhile_cons_of_neg (by simp),
      List.append_nil]
  have hnames := congrArg (List.takeWhile (· != '\x7d')) hback
  rw [hends name hname, hends other hother] at hnames
  exact hne (String.toList_inj.1 hnames.symm)

/-- In front of a text, a part is replaced and the rest is searched on its own. -/
theorem substituted_written_append {name : String} (hname : Braceless name) (identifier : String)
    {p : Piece} (hp : p.IsPlain) (rest : List Char) :
    Text.substituted (mark name).toList identifier.toList (p.written.toList ++ rest) =
      (p.replaced name identifier).written.toList ++
        Text.substituted (mark name).toList identifier.toList rest := by
  have hopening : (mark name).toList.head? = some '\x7b' := by
    rw [toList_mark]
    rfl
  cases p with
  | text s => exact Text.substituted_append_of_ne hopening _ (fun c hc => (hp c hc).1) rest
  | marker other =>
    rw [Piece.replaced]
    split
    · next h =>
      subst h
      exact Text.substituted_append (mark_ne_nil other) _ rest
    · next h =>
      have hprefix := not_mark_prefix hname hp h rest
      have hrest : ∀ c ∈ other.toList ++ ['\x7d'], c ≠ '\x7b' := by
        intro c hc
        rcases List.mem_append.1 hc with hc | hc
        · exact (hp c hc).1
        · rw [List.mem_singleton.1 hc]
          decide
      change Text.substituted _ _ ((mark other).toList ++ rest) = (mark other).toList ++ _
      rw [toList_mark other, List.cons_append, List.cons_append] at hprefix ⊢
      rw [Text.substituted_cons hprefix, Text.substituted_append_of_ne hopening _ hrest]
      rfl

/-- Replacing the marks of a name in a template replaces the markers of that name. -/
theorem filled_join {name : String} (hname : Braceless name) (identifier : String)
    {pieces : List Piece} (hpieces : ∀ p ∈ pieces, p.IsPlain) :
    filled (String.join (pieces.map Piece.written)) name identifier =
      String.join ((pieces.map (Piece.replaced name identifier)).map Piece.written) := by
  rw [← String.toList_inj, toList_filled]
  induction pieces with
  | nil => rfl
  | cons p rest ih =>
    obtain ⟨hp, hrest⟩ := List.forall_mem_cons.1 hpieces
    simp only [List.map_cons, String.join_cons, String.toList_append]
    rw [substituted_written_append hname identifier hp, ih hrest]

/-- Replacing the marks of several names in a template, one name after the other, replaces all
markers at once. -/
theorem filledInTurn_join {marks : List (String × Value)} (hnames : ∀ m ∈ marks, Braceless m.1)
    (hvalues : ∀ m ∈ marks, m.2.IsIdentifier) {pieces : List Piece}
    (hpieces : ∀ p ∈ pieces, p.IsPlain) :
    filledInTurn (String.join (pieces.map Piece.written)) marks =
      String.join (pieces.map (Piece.filledBy marks)) := by
  induction marks generalizing pieces with
  | nil =>
    have hwritten : Piece.filledBy [] = Piece.written := by
      funext p
      cases p <;> rfl
    rw [hwritten]
    rfl
  | cons m rest ih =>
    obtain ⟨hname, hnames⟩ := List.forall_mem_cons.1 hnames
    obtain ⟨hvalue, hvalues⟩ := List.forall_mem_cons.1 hvalues
    have hplain : ∀ p ∈ pieces.map (Piece.replaced m.1 m.2.shown), p.IsPlain := by
      intro q hq
      obtain ⟨p, hp, rfl⟩ := List.mem_map.1 hq
      exact (hpieces p hp).replaced m.1 (braceless_of_isIdentifier hvalue)
    calc filledInTurn (String.join (pieces.map Piece.written)) (m :: rest)
        = filledInTurn (filled (String.join (pieces.map Piece.written)) m.1 m.2.shown) rest := rfl
      _ = filledInTurn
            (String.join ((pieces.map (Piece.replaced m.1 m.2.shown)).map Piece.written)) rest := by
          rw [filled_join hname m.2.shown hpieces]
      _ = String.join ((pieces.map (Piece.replaced m.1 m.2.shown)).map (Piece.filledBy rest)) :=
          ih hnames hvalues hplain
      _ = String.join (pieces.map (Piece.filledBy (m :: rest))) := by
          rw [List.map_map]
          exact congrArg String.join (List.map_congr_left fun p _ => (p.filledBy_cons m rest).symm)

/-- A template of texts without braces and markers, with identifiers for names without
braces, becomes raw SQL in which each marker of one of the names is replaced by the identifier
of that name, and everything else is as in the template. -/
theorem fills_markers_at_once {pieces : List Piece} (hpieces : ∀ p ∈ pieces, p.IsPlain)
    {marks : List (String × Value)} (hnames : ∀ m ∈ marks, Braceless m.1)
    (hvalues : ∀ m ∈ marks, m.2.IsIdentifier) (bindings : List Value) :
    ofTemplate (.text (String.join (pieces.map Piece.written))) (.mapping (namedEntries marks))
        (.list bindings) =
      .ok ⟨String.join (pieces.map (Piece.filledBy marks)), bindings⟩ := by
  rw [ofTemplate_of_isIdentifier hvalues, filledInTurn_join hnames hvalues hpieces]

/-- A template in which a marker occurs twice and another one is unknown. -/
def repeatedPieces : List Piece :=
  [.marker "col", .text " > ", .marker "col", .marker "tab", .text ".x < ? ", .marker "no"]

/-- Identifiers for two of its markers, of which one is the name of the other. -/
def repeatedMarks : List (String × Value) :=
  [("tab", .text "col"), ("col", .text "u.age")]

/-- The identifier in the place of the second marker is not taken for the first one. -/
theorem fills_markers_at_once_repeatedPieces :
    (∀ p ∈ repeatedPieces, p.IsPlain) ∧ (∀ m ∈ repeatedMarks, Braceless m.1) ∧
      (∀ m ∈ repeatedMarks, m.2.IsIdentifier) ∧
      String.join (repeatedPieces.map (Piece.filledBy repeatedMarks)) =
        "u.age > u.agecol.x < ? \x7bno\x7d" ∧
      ofTemplate (.text (String.join (repeatedPieces.map Piece.written)))
          (.mapping (namedEntries repeatedMarks)) (.list [.int 7]) =
        .ok ⟨String.join (repeatedPieces.map (Piece.filledBy repeatedMarks)), [.int 7]⟩ := by
  have hpieces : ∀ p ∈ repeatedPieces, p.IsPlain := by
    simp [repeatedPieces, Piece.IsPlain, Braceless]
  have hnames : ∀ m ∈ repeatedMarks, Braceless m.1 := by
    simp [repeatedMarks, Braceless]
  have hvalues : ∀ m ∈ repeatedMarks, m.2.IsIdentifier := by
    have hchecked : ∀ m ∈ repeatedMarks, m.2.isIdentifier = true := by decide +kernel
    exact fun m hm => (Value.isIdentifier_iff m.2).1 (hchecked m hm)
  exact ⟨hpieces, hnames, hvalues, by decide +kernel,
    fills_markers_at_once hpieces hnames hvalues [.int 7]⟩

end RawSql

end BoundSql
