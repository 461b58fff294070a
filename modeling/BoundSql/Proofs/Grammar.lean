import BoundSql.Proofs.CanonicalOperator
import BoundSql.Proofs.Lexemes

/-!
# The grammar of conditions

What stands behind the keyword of the filters is read as a disjunction of conjunctions.
Their factors are predicates on one column and disjunctions in parentheses. So a
conjunction binds closer than a disjunction unless parentheses say otherwise. The
grammar is unambiguous: no lexemes are those of two trees. A predicate starts with its
column, whatever name the column has, and can be told to be complete where it ends,
which keeps the conjunction within a range apart from the one between predicates.
-/

namespace BoundSql.Grammar

/-- A question mark in the place of a value. -/
def mark : Lexeme := ['?']

/-- The name of a column. -/
structure Column where
  /-- The name, with that of a table in front of a dot if there is one. -/
  text : Lexeme
  /-- The name is an identifier. -/
  wellFormed : Identifier.isWellFormed text = true

/-- What a predicate says of its column, up to the values. -/
inductive Shape where
  /-- It compares with one value. -/
  | compare (op : Operator) (comparesValue : op.comparesValue = true)
  /-- It lies between two values. -/
  | between
  /-- It is, or is not, one of some values, with the number of those behind the first. -/
  | members (negated : Bool) (more : Nat)
  /-- It is, or is not, null. -/
  | null (negated : Bool)

/-- A predicate on a column. -/
structure Predicate where
  /-- The column. -/
  column : Column
  /-- What is said of it. -/
  shape : Shape

mutual

/-- Conjunctions of which one holds. -/
inductive Disjunction where
  /-- A last conjunction. -/
  | last (c : Conjunction)
  /-- A conjunction in front of others. -/
  | or (c : Conjunction) (rest : Disjunction)

/-- Factors that all hold. -/
inductive Conjunction where
  /-- A last factor. -/
  | last (f : Factor)
  /-- A factor in front of others. -/
  | and (f : Factor) (rest : Conjunction)

/-- A part that is complete in itself. -/
inductive Factor where
  /-- A predicate. -/
  | predicate (p : Predicate)
  /-- A disjunction in parentheses. -/
  | group (d : Disjunction)

end

namespace Shape

/-- The operator of a predicate. -/
def operator : Shape → Operator
  | compare op _ => op
  | between => .between
  | members negated _ => if negated then .notIn else .isIn
  | null negated => if negated then .isNot else .is

/-- Question marks behind a first one, with a comma in front of each. -/
def marks : Nat → List Lexeme
  | 0 => []
  | more + 1 => [','] :: mark :: marks more

/-- What stands behind the operator of a predicate. -/
def operand : Shape → List Lexeme
  | compare _ _ => [mark]
  | between => [mark, "AND".toList, mark]
  | members _ more => ['('] :: mark :: marks more ++ [[')']]
  | null _ => ["NULL".toList]

/-- The lexemes of what a predicate says. -/
def lexemes (s : Shape) : List Lexeme :=
  BoundSql.lexemes s.operator.symbol.toList ++ s.operand

end Shape

/-- The lexemes of a predicate. -/
def Predicate.lexemes (p : Predicate) : List Lexeme :=
  p.column.text :: p.shape.lexemes

mutual

/-- The lexemes of a disjunction. -/
def Disjunction.lexemes : Disjunction → List Lexeme
  | .last c => c.lexemes
  | .or c rest => c.lexemes ++ "OR".toList :: rest.lexemes

/-- The lexemes of a conjunction. -/
def Conjunction.lexemes : Conjunction → List Lexeme
  | .last f => f.lexemes
  | .and f rest => f.lexemes ++ "AND".toList :: rest.lexemes

/-- The lexemes of a factor. -/
def Factor.lexemes : Factor → List Lexeme
  | .predicate p => p.lexemes
  | .group d => ['('] :: d.lexemes ++ [[')']]

end

/-- Lists that go on with an item of a class behind items that are not of it are equal
up to that item and behind it. -/
theorem eq_of_append_cons {α : Type} {stops : List α} {xs ys rest others : List α} {x y : α}
    (hxs : ∀ a ∈ xs, a ∉ stops) (hys : ∀ a ∈ ys, a ∉ stops) (hx : x ∈ stops) (hy : y ∈ stops)
    (h : xs ++ x :: rest = ys ++ y :: others) : xs = ys ∧ x :: rest = y :: others := by
  induction xs generalizing ys with
  | nil =>
    cases ys with
    | nil => exact ⟨rfl, h⟩
    | cons b ys =>
      rw [List.nil_append, List.cons_append] at h
      have hb := hys b List.mem_cons_self
      rw [← (List.cons.inj h).1] at hb
      exact absurd hx hb
  | cons a xs ih =>
    cases ys with
    | nil =>
      rw [List.nil_append, List.cons_append] at h
      have ha := hxs a List.mem_cons_self
      rw [(List.cons.inj h).1] at ha
      exact absurd hy ha
    | cons b ys =>
      rw [List.cons_append, List.cons_append] at h
      obtain ⟨rfl, htail⟩ := List.cons.inj h
      obtain ⟨rfl, hrest⟩ := ih (fun c hc => hxs c (List.mem_cons_of_mem _ hc))
        (fun c hc => hys c (List.mem_cons_of_mem _ hc)) htail
      exact ⟨rfl, hrest⟩

namespace Shape

/-- The lexemes that an operand can start with. -/
def operandStarts : List Lexeme :=
  [mark, ['('], "NULL".toList]

/-- An operator has none of the lexemes that an operand can start with. -/
theorem not_mem_operandStarts (op : Operator) :
    ∀ w ∈ BoundSql.lexemes op.symbol.toList, w ∉ operandStarts := by
  cases op <;> decide

/-- An operand starts with one of the lexemes that it can start with. -/
theorem exists_operand_eq_cons (s : Shape) :
    ∃ first rest, s.operand = first :: rest ∧ first ∈ operandStarts := by
  cases s with
  | compare op h => exact ⟨mark, [], rfl, by decide⟩
  | between => exact ⟨mark, _, rfl, by decide⟩
  | members negated more => exact ⟨['('], _, rfl, by decide⟩
  | null negated => exact ⟨"NULL".toList, [], rfl, by decide⟩

/-- An operator is known by its lexemes. -/
theorem operator_eq_of_lexemes {op other : Operator}
    (h : BoundSql.lexemes op.symbol.toList = BoundSql.lexemes other.symbol.toList) :
    op = other := by
  have hwords : ∀ o : Operator,
      o.symbol = String.ofList ([' '].intercalate (BoundSql.lexemes o.symbol.toList)) := by
    intro o
    cases o <;> rfl
  have hsymbol : op.symbol = other.symbol := by rw [hwords op, hwords other, h]
  have hfound := Operator.ofSymbol?_symbol op
  rw [hsymbol, Operator.ofSymbol?_symbol other] at hfound
  exact (Option.some.inj hfound).symm

/-- The number of question marks in a list is known by the lexemes up to its end. -/
theorem eq_of_marks_append {more others : Nat} {rest tail : List Lexeme}
    (h : marks more ++ [')'] :: rest = marks others ++ [')'] :: tail) :
    more = others ∧ rest = tail := by
  induction more generalizing others with
  | zero =>
    cases others with
    | zero => exact ⟨rfl, (List.cons.inj h).2⟩
    | succ others => exact absurd (List.cons.inj h).1 (by decide)
  | succ more ih =>
    cases others with
    | zero => exact absurd (List.cons.inj h).1 (by decide)
    | succ others =>
      obtain ⟨hmore, hrest⟩ := ih (List.cons.inj (List.cons.inj h).2).2
      exact ⟨congrArg Nat.succ hmore, hrest⟩

/-- What a predicate says is known by its operator and the lexemes of its operand. -/
theorem eq_of_operand_append {s t : Shape} (hoperator : s.operator = t.operator)
    {rest tail : List Lexeme} (h : s.operand ++ rest = t.operand ++ tail) :
    s = t ∧ rest = tail := by
  cases s with
  | compare op hop =>
    cases t with
    | compare other hother =>
      cases hoperator
      exact ⟨rfl, (List.cons.inj h).2⟩
    | between =>
      cases hoperator
      cases hop
    | members negated more =>
      cases hoperator
      cases negated <;> cases hop
    | null negated => exact absurd (List.cons.inj h).1 (by decide)
  | between =>
    cases t with
    | compare other hother =>
      cases hoperator
      cases hother
    | between => exact ⟨rfl, (List.cons.inj (List.cons.inj (List.cons.inj h).2).2).2⟩
    | members negated more => cases negated <;> cases hoperator
    | null negated => cases negated <;> cases hoperator
  | members negated more =>
    cases t with
    | compare other hother =>
      cases hoperator
      cases negated <;> cases hother
    | between => cases negated <;> cases hoperator
    | members denied others =>
      have hnegated : negated = denied := by
        cases negated <;> cases denied <;> first | rfl | cases hoperator
      have hmarks : marks more ++ [')'] :: rest = marks others ++ [')'] :: tail := by
        simpa [operand] using h
      obtain ⟨hmore, hrest⟩ := eq_of_marks_append hmarks
      exact ⟨by rw [hnegated, hmore], hrest⟩
    | null denied => cases negated <;> cases denied <;> cases hoperator
  | null negated =>
    cases t with
    | compare other hother => exact absurd (List.cons.inj h).1 (by decide)
    | between => cases negated <;> cases hoperator
    | members denied others => cases negated <;> cases denied <;> cases hoperator
    | null denied =>
      have hnegated : negated = denied := by
        cases negated <;> cases denied <;> first | rfl | cases hoperator
      exact ⟨by rw [hnegated], (List.cons.inj h).2⟩

/-- What a predicate says can be read off the lexemes that start with it. -/
theorem eq_of_append {s t : Shape} {rest tail : List Lexeme}
    (h : s.lexemes ++ rest = t.lexemes ++ tail) : s = t ∧ rest = tail := by
  obtain ⟨first, more, hs, hfirst⟩ := exists_operand_eq_cons s
  obtain ⟨second, others, ht, hsecond⟩ := exists_operand_eq_cons t
  have hsplit : BoundSql.lexemes s.operator.symbol.toList ++ (s.operand ++ rest) =
      BoundSql.lexemes t.operator.symbol.toList ++ (t.operand ++ tail) := by
    rw [← List.append_assoc, ← List.append_assoc]
    exact h
  rw [hs, ht, List.cons_append, List.cons_append] at hsplit
  obtain ⟨hwords, hoperand⟩ := eq_of_append_cons (not_mem_operandStarts _)
    (not_mem_operandStarts _) hfirst hsecond hsplit
  rw [← List.cons_append, ← List.cons_append, ← hs, ← ht] at hoperand
  exact eq_of_operand_append (operator_eq_of_lexemes hwords) hoperand

end Shape

/-- A predicate can be read off the lexemes that start with it. -/
theorem Predicate.eq_of_append {p q : Predicate} {rest tail : List Lexeme}
    (h : p.lexemes ++ rest = q.lexemes ++ tail) : p = q ∧ rest = tail := by
  obtain ⟨⟨text, hp⟩, s⟩ := p
  obtain ⟨⟨name, hq⟩, t⟩ := q
  obtain ⟨hcolumn, hshape⟩ := List.cons.inj h
  obtain ⟨rfl, hrest⟩ := Shape.eq_of_append hshape
  cases hcolumn
  exact ⟨rfl, hrest⟩

/-- No column is a parenthesis. -/
theorem Predicate.lexemes_ne_group (p : Predicate) (rest tail : List Lexeme) :
    p.lexemes ++ rest ≠ ['('] :: tail := by
  intro h
  have hcolumn : p.column.text = ['('] := (List.cons.inj h).1
  have hform := p.column.wellFormed
  rw [hcolumn] at hform
  exact absurd hform (by decide)

/-- Lexemes that do not go on with a given one. -/
def Without (keyword : Lexeme) (rest : List Lexeme) : Prop :=
  rest.head? ≠ some keyword

mutual

/-- A disjunction can be read off the lexemes that start with it, when no conjunction or
disjunction goes on behind it. -/
theorem Disjunction.eq_of_append (d e : Disjunction) (rest tail : List Lexeme)
    (hrest : Without "AND".toList rest ∧ Without "OR".toList rest)
    (htail : Without "AND".toList tail ∧ Without "OR".toList tail)
    (h : d.lexemes ++ rest = e.lexemes ++ tail) : d = e ∧ rest = tail := by
  have hor : ∀ others, Without "AND".toList ("OR".toList :: others) := by
    intro others hhead
    exact absurd (Option.some.inj hhead) (by decide)
  cases d with
  | last c =>
    cases e with
    | last c' =>
      obtain ⟨rfl, hequal⟩ := Conjunction.eq_of_append c c' rest tail hrest.1 htail.1 h
      exact ⟨rfl, hequal⟩
    | or c' others =>
      rw [Disjunction.lexemes, Disjunction.lexemes, List.append_assoc, List.cons_append] at h
      obtain ⟨rfl, hequal⟩ := Conjunction.eq_of_append c c' rest _ hrest.1 (hor _) h
      exact absurd (by rw [hequal]; rfl) hrest.2
  | or c more =>
    cases e with
    | last c' =>
      rw [Disjunction.lexemes, Disjunction.lexemes, List.append_assoc, List.cons_append] at h
      obtain ⟨rfl, hequal⟩ := Conjunction.eq_of_append c c' _ tail (hor _) htail.1 h
      exact absurd (by rw [← hequal]; rfl) htail.2
    | or c' others =>
      rw [Disjunction.lexemes, Disjunction.lexemes, List.append_assoc, List.append_assoc,
        List.cons_append, List.cons_append] at h
      obtain ⟨rfl, hequal⟩ := Conjunction.eq_of_append c c' _ _ (hor _) (hor _) h
      obtain ⟨rfl, hend⟩ :=
        Disjunction.eq_of_append more others rest tail hrest htail (List.cons.inj hequal).2
      exact ⟨rfl, hend⟩

/-- A conjunction can be read off the lexemes that start with it, when no conjunction goes
on behind it. -/
theorem Conjunction.eq_of_append (c e : Conjunction) (rest tail : List Lexeme)
    (hrest : Without "AND".toList rest) (htail : Without "AND".toList tail)
    (h : c.lexemes ++ rest = e.lexemes ++ tail) : c = e ∧ rest = tail := by
  cases c with
  | last f =>
    cases e with
    | last f' =>
      obtain ⟨rfl, hequal⟩ := Factor.eq_of_append f f' rest tail h
      exact ⟨rfl, hequal⟩
    | and f' others =>
      rw [Conjunction.lexemes, Conjunction.lexemes, List.append_assoc, List.cons_append] at h
      obtain ⟨rfl, hequal⟩ := Factor.eq_of_append f f' rest _ h
      exact absurd (by rw [hequal]; rfl) hrest
  | and f more =>
    cases e with
    | last f' =>
      rw [Conjunction.lexemes, Conjunction.lexemes, List.append_assoc, List.cons_append] at h
      obtain ⟨rfl, hequal⟩ := Factor.eq_of_append f f' _ tail h
      exact absurd (by rw [← hequal]; rfl) htail
    | and f' others =>
      rw [Conjunction.lexemes, Conjunction.lexemes, List.append_assoc, List.append_assoc,
        List.cons_append, List.cons_append] at h
      obtain ⟨rfl, hequal⟩ := Factor.eq_of_append f f' _ _ h
      obtain ⟨rfl, hend⟩ :=
        Conjunction.eq_of_append more others rest tail hrest htail (List.cons.inj hequal).2
      exact ⟨rfl, hend⟩

/-- A factor can be read off the lexemes that start with it. -/
theorem Factor.eq_of_append (f e : Factor) (rest tail : List Lexeme)
    (h : f.lexemes ++ rest = e.lexemes ++ tail) : f = e ∧ rest = tail := by
  have hclose : ∀ others, Without "AND".toList ([')'] :: others) ∧
      Without "OR".toList ([')'] :: others) := by
    intro others
    constructor
    · exact fun hhead => absurd (Option.some.inj hhead) (by decide)
    · exact fun hhead => absurd (Option.some.inj hhead) (by decide)
  cases f with
  | predicate p =>
    cases e with
    | predicate q =>
      obtain ⟨rfl, hequal⟩ := Predicate.eq_of_append h
      exact ⟨rfl, hequal⟩
    | group d => exact absurd h (p.lexemes_ne_group rest _)
  | group d =>
    cases e with
    | predicate q => exact absurd h.symm (q.lexemes_ne_group tail _)
    | group d' =>
      rw [Factor.lexemes, Factor.lexemes, List.cons_append, List.cons_append, List.append_assoc,
        List.append_assoc, List.cons_append, List.cons_append] at h
      obtain ⟨rfl, hequal⟩ := Disjunction.eq_of_append d d' _ _ (hclose _) (hclose _)
        (List.cons.inj h).2
      exact ⟨rfl, (List.cons.inj hequal).2⟩

end

/-- The grammar is unambiguous. -/
theorem Disjunction.eq_of_lexemes {d e : Disjunction} (h : d.lexemes = e.lexemes) : d = e := by
  have hend : ∀ keyword, Without keyword [] := by
    intro keyword hhead
    cases hhead
  have happend : d.lexemes ++ [] = e.lexemes ++ [] := by rw [h]
  exact (Disjunction.eq_of_append d e [] [] ⟨hend _, hend _⟩ ⟨hend _, hend _⟩ happend).1

end BoundSql.Grammar
