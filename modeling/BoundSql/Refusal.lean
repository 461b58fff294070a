import BoundSql.Action
import BoundSql.Operator
import BoundSql.Value.Items
import BoundSql.Value.Shown

/-!
# Refusals

Whatever a builder does not accept is refused with its cause. A refusal by one
of the library's own rules has a report: a message for people, a code for
programs and the details of the value that was refused.
-/

namespace BoundSql

/-- Why a value does not describe a condition. -/
inductive ConditionFault where
  /-- A list or tuple is not an operator with its operand. -/
  | notPair
  /-- The operator is not a supported one. -/
  | unsupportedOperator (given : String)
  /-- The operand of a range is not a pair of bounds. -/
  | boundsNotPair
  /-- There are no values to look among. -/
  | noMembers (op : Operator)
  /-- The values of a set to look among cannot be put in order. -/
  | membersNotComparable (op : Operator)
  /-- The operand to look in is not a collection of values. -/
  | membersNotList (op : Operator)
  /-- A comparison uses the operator of ranges. -/
  | rangeAsComparison
  /-- A comparison with a value uses an operator of membership. -/
  | membershipAsComparison (op : Operator)
  /-- A comparison with the missing value uses an operator of null tests. -/
  | nullTestAsComparison (op : Operator)

/-- The message of a fault. -/
def ConditionFault.message : ConditionFault → String
  | notPair => "expected a scalar, a RawExpr, or an (operator, operand) pair"
  | unsupportedOperator given => "unsupported operator " ++ Text.quoted given
  | boundsNotPair => "BETWEEN expects a [low, high] pair"
  | noMembers op => op.symbol ++ " expects at least one value"
  | membersNotComparable op =>
    op.symbol ++ " set values must be mutually comparable; pass a list"
  | membersNotList op => op.symbol ++ " expects a list of values"
  | rangeAsComparison => "use Between for BETWEEN conditions"
  | membershipAsComparison op => "use InSet for " ++ op.symbol ++ " conditions"
  | nullTestAsComparison op => "use IsNull for " ++ op.symbol ++ " NULL conditions"

/-- What is wrong with a field of a record. -/
inductive ProblemKind where
  /-- The field has no default and is not given. -/
  | missing
  /-- The record has no such field. -/
  | unknownField
  /-- The name of the field is not a text. -/
  | nameNotText
  /-- The value is neither a text nor bytes. -/
  | notText
  /-- The bytes are not valid text. -/
  | badEncoding
  /-- The value is not a sequence of items. -/
  | notSequence
  /-- An item of the value cannot be read. -/
  | unreadableItem
  /-- The value is not of a kind that stands for a truth value. -/
  | notTruthValue
  /-- The value is of such a kind but stands for no truth value. -/
  | badTruthValue
  /-- The value is not a record. -/
  | notRecord
deriving DecidableEq

/-- How a path leads from a record to one of its fields. -/
inductive PathStep where
  /-- To the field of a name. -/
  | name (s : String)
  /-- To the field at a position. -/
  | position (n : Int)
deriving DecidableEq

/-- A problem with a field of a record. -/
structure Problem where
  /-- The steps from the outermost record to the field. -/
  path : List PathStep
  /-- What is wrong with the field. -/
  kind : ProblemKind

/-- Why a call, a record or a statement is refused. -/
inductive Refusal where
  /-- The value is not an identifier. -/
  | identifier (given : Value)
  /-- The value is not the keyword of a kind of join. -/
  | joinKind (given : Value)
  /-- The value is not a connective of conditions. -/
  | connective (given : Value)
  /-- The value in the place of a condition on a column is no condition. -/
  | notCondition (column given : Value)
  /-- The value of a numeric setting is not a natural number. -/
  | notNatural (setting : String) (given : Value)
  /-- The value does not describe a condition on the column. -/
  | condition (column : Value) (fault : ConditionFault)
  /-- A row is to be inserted or updated without any data. -/
  | emptyData (action : Action)
  /-- The value is not a kind of statement. -/
  | unsupportedAction (given : Value)
  /-- A value is used in a way that its kind or content does not allow. -/
  | misuse (misuse : Misuse)
  /-- Fields of a record have problems. -/
  | badRecord (problems : List Problem)
  /-- The observer of finished statements refused one. -/
  | sink (action : Action)

/-- The families of reports. -/
inductive ReportKind where
  /-- Any report. -/
  | general
  /-- A value that is not an identifier. -/
  | identifier
  /-- An argument of a call. -/
  | argument
  /-- A value that does not describe a condition. -/
  | condition
  /-- Missing data of a row. -/
  | emptyData
  /-- A value that is not a kind of statement. -/
  | unsupportedAction
deriving DecidableEq

/-- What a refusal says to people and to programs. -/
structure Report where
  /-- The family of the report. -/
  kind : ReportKind
  /-- The message for people. -/
  message : String
  /-- The code for programs. -/
  code : Value
  /-- Named details of what was refused. -/
  details : List (Value × Value)

namespace Report

/-- The details that a value gives: those of a mapping, none for an empty value. -/
def detailsOf (details : Value) : Except Misuse (List (Value × Value)) :=
  if details.isFull then details.entries else .ok []

/-- A report of any kind. -/
def general (message code details : Value) : Except Misuse Report :=
  (detailsOf details).map fun details => ⟨.general, message.shown, code, details⟩

/-- A report on an argument with a code of its own. -/
def argument (message code details : Value) : Except Misuse Report :=
  (detailsOf details).map fun details => ⟨.argument, message.shown, code, details⟩

/-- The code of reports that have none of their own. -/
def generalCode : Value := .text "EASYQUERY_ERROR"

/-- The code of reports on arguments. -/
def argumentCode : Value := .text "INVALID_ARGUMENT"

/-- A report on an argument with named details. -/
def ofArgument (message : String) (details : List (Value × Value)) : Report :=
  ⟨.argument, message, argumentCode, details⟩

/-- A report on a value that is not an identifier. -/
def identifier (given : Value) : Report where
  kind := .identifier
  message := "Invalid identifier: " ++ given.quoted ++ ". Only alphanumeric characters, " ++
    "underscores, and a single dot (table.column) are allowed."
  code := .text "INVALID_IDENTIFIER"
  details := [(.text "identifier", given)]

/-- A report on a condition; an empty column is not named. -/
def condition (column message : Value) : Report where
  kind := .condition
  message :=
    (if column.isFull then "Invalid condition for column '" ++ column.shown ++ "'"
      else "Invalid condition") ++ ": " ++ message.shown
  code := .text "INVALID_CONDITION"
  details := if column.isFull then [(.text "column", column)] else []

/-- A text or bytes with the first letter in title case and the others in lower case. -/
def capitalized : Value → Except Misuse String
  | .text s => .ok (String.ofList (Text.capitalized s.toList))
  | .bytes [] => .ok (Text.quotedBytes [])
  | .bytes (b :: bs) =>
    .ok (Text.quotedBytes
      ((Char.ofNat b.toNat).toUpper.toNat.toUInt8 ::
        bs.map fun b => (Char.ofNat b.toNat).toLower.toNat.toUInt8))
  | _ => .error .notText

/-- A report on missing data for a kind of statement, given its capitalized name. -/
def emptyDataNamed (name : String) (action : Value) : Report where
  kind := .emptyData
  message := name ++ " data is empty"
  code := .text "EMPTY_MUTATION_DATA"
  details := [(.text "action", action)]

/-- A report on missing data for a kind of statement. -/
def emptyData (action : Value) : Except Misuse Report :=
  (capitalized action).map fun name => emptyDataNamed name action

/-- A report on a value that is not a kind of statement. -/
def unsupportedAction (given : Value) : Report where
  kind := .unsupportedAction
  message := "Unsupported build action: " ++ given.shown
  code := .text "UNSUPPORTED_ACTION"
  details := [(.text "action", .text given.shown)]

end Report

/-- The report of a refusal by one of the library's own rules. -/
def Refusal.report? : Refusal → Option Report
  | .identifier given => some (.identifier given)
  | .joinKind given =>
    some (.ofArgument ("Unsupported join type: " ++ given.quoted)
      [(.text "type", given),
        (.text "allowed", .list (JoinKind.all.map fun k => .text k.keyword))])
  | .connective given => some (.ofArgument ("Unknown connective: " ++ given.quoted) [])
  | .notCondition column given =>
    some (.ofArgument ("Unknown condition type: " ++ given.kindName) [(.text "column", column)])
  | .notNatural setting given =>
    some (.ofArgument (setting ++ " must be a non-negative integer, got " ++ given.quoted)
      [(.text setting, given)])
  | .condition column fault => some (.condition column (.text fault.message))
  | .emptyData action =>
    some (.emptyDataNamed (String.ofList (Text.capitalized action.name.toList))
      (.text action.name))
  | .unsupportedAction given => some (.unsupportedAction given)
  | .misuse _ | .badRecord _ | .sink _ => none

end BoundSql
