import BoundSql.Refusal
import BoundSql.Value.Order

/-!
# Conditions from values

A value in the place of a condition is a condition already, raw SQL or a scalar
that the column is to be equal to, or an operator with its operand. Conditions
that are given are checked like the others, so that every resolved condition
has a canonical operator that fits its kind.
-/

namespace BoundSql

namespace Condition

/-- The operator that a text spells. -/
def checkedOperator (column : Value) (given : String) : Except Refusal Operator :=
  match Operator.ofText? given with
  | some op => .ok op
  | none => .error (.condition column (.unsupportedOperator given))

/-- A given condition with its operator in canonical form. A comparison may not use
an operator that belongs to a condition of another kind. -/
def canonical (column : Value) : Condition Value → Except Refusal (Condition Value)
  | .compare given value => do
    let op ← checkedOperator column given
    match op.role, value with
    | .bounds, _ => throw (.condition column .rangeAsComparison)
    | .members _, _ => throw (.condition column (.membershipAsComparison op))
    | .nullOrSingle _, .null => throw (.condition column (.nullTestAsComparison op))
    | _, value => return .compare op.symbol value
  | .rawCompare given raw => do
    let op ← checkedOperator column given
    match op.role with
    | .bounds => throw (.condition column .rangeAsComparison)
    | _ => return .rawCompare op.symbol raw
  | c => .ok c

/-- The values that an operand of a membership operator holds. Those of a set are
put in ascending order, so that equal sets give equal parameters. -/
def members (column : Value) (op : Operator) (operand : Value) : Except Refusal (List Value) :=
  match operand.setMembers? with
  | some members =>
    match ascending? members with
    | some sorted => .ok sorted
    | none => .error (.condition column (.membersNotComparable op))
  | none =>
    match operand with
    | .text _ | .bytes _ | .mapping _ => .error (.condition column (.membersNotList op))
    | operand =>
      if operand.isIterable then operand.items.mapError .misuse
      else .error (.condition column (.membersNotList op))

/-- The condition of an operator and its operand. -/
def ofPair (column : Value) (given : String) (operand : Value) :
    Except Refusal (Condition Value) := do
  let op ← checkedOperator column given
  match op.role, operand with
  | .bounds, .list [low, high] => return .between low high
  | .bounds, .tuple [low, high] => return .between low high
  | .bounds, _ => throw (.condition column .boundsNotPair)
  | .nullOrSingle negated, .null => return .isNull negated
  | _, .raw expr => return .rawCompare op.symbol expr
  | .members negated, operand =>
    match ofMembers? (← members column op operand) negated with
    | some c => return c
    | none => throw (.condition column (.noMembers op))
  | _, operand => return .compare op.symbol operand

/-- The condition that a list or tuple of an operator and its operand describes. -/
def ofItems (column : Value) : List Value → Except Refusal (Condition Value)
  | [.text given, operand] => ofPair column given operand
  | _ => .error (.condition column .notPair)

/-- The condition on a column that a value describes. -/
def resolve (column : Value) : Value → Except Refusal (Condition Value)
  | .condition c => canonical column c
  | .raw expr => .ok (.rawCompare Operator.equal.symbol expr)
  | .list items => ofItems column items
  | .tuple items => ofItems column items
  | v => .ok (.compare Operator.equal.symbol v)

end Condition

end BoundSql
