import BoundSql.Fragment
import BoundSql.Refusal
import BoundSql.Text.Blank

/-!
# Conditions as fragments

A condition is written behind its column, with one placeholder for each bound
value. Raw SQL is written as it is and brings its own values.
-/

namespace BoundSql

namespace Condition

/-- An operator as it is written, without blanks around it. -/
def written (op : String) : String :=
  String.ofList (Text.trim op.toList)

/-- A comma-separated placeholder for each value. -/
def placeholders (values : List Value) : String :=
  ", ".intercalate (values.map fun _ => "?")

/-- The fragment of a condition on a column. -/
def render (column : String) : Condition Value → Fragment
  | .compare op value => ⟨column ++ " " ++ written op ++ " ?", [value]⟩
  | .rawCompare op raw => ⟨column ++ " " ++ written op ++ " " ++ raw.sql, raw.bindings⟩
  | .between low high => ⟨column ++ " BETWEEN ? AND ?", [low, high]⟩
  | .inSet first rest negated =>
    ⟨column ++ (if negated then " NOT IN (" else " IN (") ++ placeholders (first :: rest) ++ ")",
      first :: rest⟩
  | .isNull negated => ⟨column ++ (if negated then " IS NOT NULL" else " IS NULL"), []⟩

/-- The fragment of a value that has to be a condition. -/
def renderValue (column : Value) : Value → Except Refusal Fragment
  | .condition c => .ok (c.render column.shown)
  | given => .error (.notCondition column given)

end Condition

end BoundSql
