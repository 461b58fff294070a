import BoundSql.Condition.Render
import BoundSql.Condition.Resolve

/-!
# Filters

A filter is made of conditions on columns that all hold, or of which one holds.
The conditions are resolved in order, and the first one that is refused refuses
the filter.
-/

namespace BoundSql

/-- How the conditions of a filter are connected. -/
inductive Connective where
  /-- All conditions hold. -/
  | and
  /-- One of the conditions holds. -/
  | or
deriving DecidableEq

namespace Connective

/-- The keyword of a connective. -/
def keyword : Connective → String
  | and => "AND"
  | or => "OR"

/-- The connective that a value names. -/
def ofValue : Value → Except Refusal Connective
  | .text "AND" => .ok and
  | .text "OR" => .ok or
  | given => .error (.connective given)

end Connective

namespace Filter

/-- The fragments of conditions on columns, in order. -/
def parts : List (Value × Value) → Except Refusal (List Fragment)
  | [] => .ok []
  | (column, value) :: rest => do
    let c ← Condition.resolve column value
    let others ← parts rest
    return c.render column.shown :: others

/-- The fragment of conditions on columns; it is empty when there are none. -/
def ofEntries (connective : Connective) (conditions : List (Value × Value)) :
    Except Refusal Fragment :=
  (parts conditions).map (Fragment.joined (" " ++ connective.keyword ++ " "))

/-- The fragment of a value that has to be a mapping of columns to conditions. -/
def ofValue (connective : Connective) (conditions : Value) : Except Refusal Fragment := do
  let conditions ← conditions.entries.mapError .misuse
  ofEntries connective conditions

/-- No conditions make an empty fragment. -/
theorem ofEntries_nil (connective : Connective) : ofEntries connective [] = .ok ⟨"", []⟩ := rfl

end Filter

end BoundSql
