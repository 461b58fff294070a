import BoundSql.Filter
import BoundSql.Proofs.Grammar

/-!
# The truth of conditions

Predicates are true, false or unknown, and a tree has a truth value once each predicate
has one. The question marks of a tree take the values of a list from left to right, so
that its evaluation gives back the values that are left over.
-/

namespace BoundSql

/-- A truth value of three. -/
inductive Truth where
  /-- False. -/
  | no
  /-- Neither known to be true nor known to be false. -/
  | unknown
  /-- True. -/
  | yes
deriving DecidableEq

namespace Truth

/-- Whether both hold. -/
def and : Truth → Truth → Truth
  | no, _ => no
  | unknown, no => no
  | unknown, _ => unknown
  | yes, t => t

/-- Whether one holds. -/
def or : Truth → Truth → Truth
  | yes, _ => yes
  | unknown, yes => yes
  | unknown, _ => unknown
  | no, t => t

/-- Two truth values under a connective. -/
def connect : Connective → Truth → Truth → Truth
  | .and => and
  | .or => or

/-- The truth value under a connective of no truth values at all. -/
def neutral : Connective → Truth
  | .and => yes
  | .or => no

/-- A list of truth values under a connective: whether all hold, or whether one does. -/
def connectAll (connective : Connective) (list : List Truth) : Truth :=
  list.foldr (connect connective) (neutral connective)

/-- The neutral truth value changes no other one. -/
theorem connect_neutral (connective : Connective) (t : Truth) :
    connect connective t (neutral connective) = t := by
  cases connective <;> cases t <;> rfl

/-- Truth values may be connected in any grouping. -/
theorem connect_assoc (connective : Connective) (s t u : Truth) :
    connect connective (connect connective s t) u =
      connect connective s (connect connective t u) := by
  cases connective <;> cases s <;> cases t <;> cases u <;> rfl

end Truth

namespace Grammar

/-- A truth value for each predicate: a column with a condition on it. -/
abbrev Assignment : Type := String → Condition Value → Truth

/-- The truth value of a part of a tree under an assignment, with the values that are
left over, unless there are too few values. -/
abbrev Evaluation : Type := Assignment → List Value → Option (Truth × List Value)

/-- What a predicate says once its question marks have taken the first of some values,
with the values that are left over. -/
def Shape.fill : Shape → List Value → Option (Condition Value × List Value)
  | compare op _, v :: rest => some (.compare op.symbol v, rest)
  | between, low :: high :: rest => some (.between low high, rest)
  | members negated more, first :: rest =>
    if more ≤ rest.length then some (.inSet first (rest.take more) negated, rest.drop more)
    else none
  | null negated, rest => some (.isNull negated, rest)
  | _, _ => none

/-- The truth value of a predicate. -/
def Predicate.eval (p : Predicate) (τ : Assignment) (values : List Value) :
    Option (Truth × List Value) :=
  (p.shape.fill values).map fun filled =>
    (τ (String.ofList p.column.text) filled.1, filled.2)

/-- The truth value of two parts under a connective, the first of which takes its values
first. -/
def connected (connective : Connective) (first second : Evaluation) : Evaluation :=
  fun τ values => do
    let (t, values) ← first τ values
    let (u, values) ← second τ values
    return (Truth.connect connective t u, values)

mutual

/-- The truth value of a disjunction. -/
def Disjunction.eval : Disjunction → Evaluation
  | .last c => c.eval
  | .or c rest => connected .or c.eval rest.eval

/-- The truth value of a conjunction. -/
def Conjunction.eval : Conjunction → Evaluation
  | .last f => f.eval
  | .and f rest => connected .and f.eval rest.eval

/-- The truth value of a factor. -/
def Factor.eval : Factor → Evaluation
  | .predicate p => p.eval
  | .group d => d.eval

end

/-- Parts may be connected in any grouping. -/
theorem connected_assoc (connective : Connective) (first second third : Evaluation) :
    connected connective (connected connective first second) third =
      connected connective first (connected connective second third) := by
  funext τ values
  unfold connected
  cases first τ values with
  | none => rfl
  | some s =>
    simp only [Option.bind_eq_bind, Option.bind_some]
    cases second τ s.2 with
    | none => rfl
    | some u =>
      simp only [Option.bind_some, Option.pure_def]
      cases third τ u.2 with
      | none => rfl
      | some w => simp only [Option.bind_some, Truth.connect_assoc]

/-- The conjunction of all factors of two conjunctions. -/
def Conjunction.append : Conjunction → Conjunction → Conjunction
  | .last f, d => .and f d
  | .and f rest, d => .and f (rest.append d)

/-- The disjunction of all conjunctions of two disjunctions. -/
def Disjunction.append : Disjunction → Disjunction → Disjunction
  | .last c, e => .or c e
  | .or c rest, e => .or c (rest.append e)

/-- A way to put trees together that puts the keyword of a connective between their lexemes
and connects their truth values by it. -/
structure Connects {T : Type} (connective : Connective) (lexemes : T → List Lexeme)
    (eval : T → Evaluation) (append : T → T → T) : Prop where
  /-- The keyword stands between the lexemes. -/
  lexemes_append : ∀ c d, lexemes (append c d) =
    lexemes c ++ connective.keyword.toList :: lexemes d
  /-- The truth values are connected. -/
  eval_append : ∀ c d, eval (append c d) = connected connective (eval c) (eval d)

/-- Conjunctions are put together by a conjunction. -/
theorem Conjunction.connects :
    Connects .and Conjunction.lexemes Conjunction.eval Conjunction.append where
  lexemes_append := lexemes_append
  eval_append := eval_append
where
  /-- The keyword stands between the lexemes. -/
  lexemes_append : ∀ c d : Conjunction, (c.append d).lexemes =
      c.lexemes ++ "AND".toList :: d.lexemes
    | .last f, d => rfl
    | .and f rest, d => by
      rw [append, lexemes, lexemes, lexemes_append rest d, List.append_assoc, List.cons_append]
  /-- The truth values are connected. -/
  eval_append : ∀ c d : Conjunction, (c.append d).eval = connected .and c.eval d.eval
    | .last f, d => rfl
    | .and f rest, d => by rw [append, eval, eval, eval_append rest d, connected_assoc]

/-- Disjunctions are put together by a disjunction. -/
theorem Disjunction.connects :
    Connects .or Disjunction.lexemes Disjunction.eval Disjunction.append where
  lexemes_append := lexemes_append
  eval_append := eval_append
where
  /-- The keyword stands between the lexemes. -/
  lexemes_append : ∀ c d : Disjunction, (c.append d).lexemes =
      c.lexemes ++ "OR".toList :: d.lexemes
    | .last f, d => rfl
    | .or f rest, d => by
      rw [append, lexemes, lexemes, lexemes_append rest d, List.append_assoc, List.cons_append]
  /-- The truth values are connected. -/
  eval_append : ∀ c d : Disjunction, (c.append d).eval = connected .or c.eval d.eval
    | .last f, d => rfl
    | .or f rest, d => by rw [append, eval, eval, eval_append rest d, connected_assoc]

end Grammar

end BoundSql
