import BoundSql.Text.Blank
import BoundSql.Text.Case

/-!
# Operators

Seventeen operators may stand between a column and its operand. An operator is
recognised in any case and with any blanks around and between its words, and is
always written in its canonical form.
-/

namespace BoundSql

/-- The words of a text in upper case with one space between them. -/
def normalizedOperator (text : String) : String :=
  String.ofList (Text.upper ([' '].intercalate (Text.words text.toList)))

/-- An operator that may be written into a statement. -/
inductive Operator where
  /-- The column is equal to the operand. -/
  | equal
  /-- The column is less than the operand. -/
  | less
  /-- The column is greater than the operand. -/
  | greater
  /-- The column is at most the operand. -/
  | lessEqual
  /-- The column is at least the operand. -/
  | greaterEqual
  /-- The column is not equal to the operand. -/
  | unequal
  /-- The column is not equal to the operand, in the spelling of the standard. -/
  | lessGreater
  /-- The column is equal to the operand, where null is equal to null. -/
  | nullSafeEqual
  /-- The column matches a pattern. -/
  | like
  /-- The column does not match a pattern. -/
  | notLike
  /-- The column matches a regular expression. -/
  | regexp
  /-- The column does not match a regular expression. -/
  | notRegexp
  /-- The column lies between two bounds. -/
  | between
  /-- The column is among some values. -/
  | isIn
  /-- The column is not among some values. -/
  | notIn
  /-- The column is null, or is identical to the operand. -/
  | is
  /-- The column is not null, or is not identical to the operand. -/
  | isNot
deriving DecidableEq

/-- What an operator expects as its operand. -/
inductive OperandRole where
  /-- One value. -/
  | single
  /-- Two bounds. -/
  | bounds
  /-- One or more values. -/
  | members (negated : Bool)
  /-- The missing value, or one other value. -/
  | nullOrSingle (negated : Bool)
deriving DecidableEq

namespace Operator

/-- All operators. -/
def all : List Operator :=
  [equal, less, greater, lessEqual, greaterEqual, unequal, lessGreater, nullSafeEqual,
    like, notLike, regexp, notRegexp, between, isIn, notIn, is, isNot]

/-- The canonical form of an operator. -/
def symbol : Operator → String
  | equal => "="
  | less => "<"
  | greater => ">"
  | lessEqual => "<="
  | greaterEqual => ">="
  | unequal => "!="
  | lessGreater => "<>"
  | nullSafeEqual => "<=>"
  | like => "LIKE"
  | notLike => "NOT LIKE"
  | regexp => "REGEXP"
  | notRegexp => "NOT REGEXP"
  | between => "BETWEEN"
  | isIn => "IN"
  | notIn => "NOT IN"
  | is => "IS"
  | isNot => "IS NOT"

/-- What an operator expects as its operand. -/
def role : Operator → OperandRole
  | between => .bounds
  | isIn => .members false
  | notIn => .members true
  | is => .nullOrSingle false
  | isNot => .nullOrSingle true
  | _ => .single

/-- The operator with a given symbol. -/
def ofSymbol? (symbol : String) : Option Operator :=
  all.find? fun op => op.symbol == symbol

/-- The operator that a text spells. -/
def ofText? (text : String) : Option Operator :=
  ofSymbol? (normalizedOperator text)

/-- Every operator is listed. -/
theorem mem_all (op : Operator) : op ∈ all := by
  cases op <;> decide

/-- Only the operator itself is found by its symbol. -/
theorem symbol_of_ofSymbol? {symbol : String} {op : Operator} (h : ofSymbol? symbol = some op) :
    op.symbol = symbol := by
  unfold ofSymbol? at h
  simpa using List.find?_some h

/-- Every operator is found by its symbol. -/
theorem ofSymbol?_symbol (op : Operator) : ofSymbol? op.symbol = some op := by
  cases op <;> rfl

/-- A text spells an operator only when its normal form is the operator's symbol. -/
theorem normalizedOperator_of_ofText? {text : String} {op : Operator}
    (h : ofText? text = some op) : normalizedOperator text = op.symbol :=
  (symbol_of_ofSymbol? h).symm

end Operator

end BoundSql
