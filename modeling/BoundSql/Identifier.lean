import BoundSql.Refusal

/-!
# Identifiers

Names of tables and columns cannot be bound to placeholders. One that comes
from outside has to be an identifier: a name, or two names joined by a dot,
where a name is made of ASCII letters, digits and underscores and does not
begin with a digit.
-/

namespace BoundSql

namespace Identifier

/-- Whether a character may begin a name. -/
def isNameStart (c : Char) : Bool :=
  c.isAlpha || c == '_'

/-- Whether a character may stand in a name. -/
def isNameChar (c : Char) : Bool :=
  c.isAlphanum || c == '_'

/-- Whether a text is a name. -/
def isName : List Char → Bool
  | [] => false
  | c :: rest => isNameStart c && rest.all isNameChar

/-- Whether a text is a name or two names joined by a dot. -/
def isWellFormed (text : List Char) : Bool :=
  match text.dropWhile (· != '.') with
  | [] => isName text
  | _ :: rest => isName (text.takeWhile (· != '.')) && isName rest

end Identifier

/-- Whether a value is an identifier. -/
def Value.isIdentifier : Value → Bool
  | .text s => Identifier.isWellFormed s.toList
  | _ => false

/-- The text of a value that is an identifier. -/
def checkedIdentifier : Value → Except Refusal String
  | .text s =>
    if Identifier.isWellFormed s.toList then .ok s else .error (.identifier (.text s))
  | v => .error (.identifier v)

/-- What passes the check is the identifier itself. -/
theorem checkedIdentifier_eq_ok_iff {v : Value} {s : String} :
    checkedIdentifier v = .ok s ↔ v = .text s ∧ v.isIdentifier = true := by
  cases v <;> simp [checkedIdentifier, Value.isIdentifier]
  case text t =>
    split <;> simp_all

end BoundSql
