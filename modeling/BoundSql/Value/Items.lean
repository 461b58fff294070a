import BoundSql.Value.Equality

/-!
# The items of a value

Containers can be read item by item. So can texts, by character, bytes, mappings,
by key, and the library's records, field by field. Reading can fail behind an
item: of a finished statement the SQL is read even if its parameters cannot be.
A value also counts as full or empty: zero, the missing value and everything
without items are empty.
-/

namespace BoundSql

/-- A use of a value that its kind or content does not allow. -/
inductive Misuse where
  /-- The items of a value that has none are read. -/
  | notIterable
  /-- A value that can change is used as a key. -/
  | notKey
  /-- The beginning is taken of a value that cannot be cut. -/
  | notSliceable
  /-- A text is put into a string of bytes. -/
  | textInBytes
  /-- A column to select is neither a text nor raw SQL. -/
  | columnNotText
  /-- A value is compared with zero that is not a number. -/
  | notNumber
  /-- A method is called with too many, too few or unknown arguments. -/
  | arguments
  /-- The entries of a value that is no mapping are read. -/
  | notMapping
  /-- An operation of texts is applied to another value. -/
  | notText
  /-- The switches of a builder are read from another value. -/
  | notOptions
  /-- The name of an action is read from a value that is no action. -/
  | notAction
  /-- An item that should be a pair does not have two items. -/
  | notPair
  /-- A range is given with a step of zero. -/
  | zeroStep
deriving DecidableEq

/-- What is wrong with a misused value. -/
inductive MisuseKind where
  /-- A value of the wrong kind. -/
  | wrongKind
  /-- A value without the operation or field that is asked for. -/
  | missingOperation
  /-- A value of the right kind with the wrong content. -/
  | wrongContent
deriving DecidableEq

/-- What is wrong with the value in each misuse. -/
def Misuse.kind : Misuse → MisuseKind
  | notMapping | notText | notOptions | notAction => .missingOperation
  | notPair | zeroStep => .wrongContent
  | _ => .wrongKind

/-- The integers of a range in order. -/
def rangeItems (start stop step : Int) : List Value :=
  (List.range (rangeLength start stop step)).map fun i : Nat => .int (start + i * step)

/-- The fields of raw SQL. -/
def RawSql.fields (expr : RawSql Value) : List (String × Value) :=
  [("sql", .text expr.sql), ("bindings", .tuple expr.bindings)]

/-- The fields of a condition. -/
def Condition.fields : Condition Value → List (String × Value)
  | .compare op value => [("op", .text op), ("value", value)]
  | .rawCompare op raw => [("op", .text op), ("raw", .raw raw)]
  | .between low high => [("low", low), ("high", high)]
  | .inSet first rest negated => [("values", .tuple (first :: rest)), ("negated", .bool negated)]
  | .isNull negated => [("negated", .bool negated)]

/-- The fields of the switches of a builder. -/
def Options.fields (o : Options) : List (String × Value) :=
  [("implicit_join_alias", .bool o.implicitJoinAlias),
    ("validate_table_names", .bool o.validateTableNames)]

/-- Fields as pairs of name and value. -/
def fieldPairs (fields : List (String × Value)) : List Value :=
  fields.map fun f => .tuple [.text f.1, f.2]

namespace Value

/-- The items of a value in order. A finished statement has two items, its SQL and
the list of its parameters. -/
def items : Value → Except Misuse (List Value)
  | .null | .bool _ | .int _ | .float _ => .error .notIterable
  | .text s => .ok (s.toList.map fun c => .text (String.singleton c))
  | .bytes bs => .ok (bs.map fun b => .int b.toNat)
  | .list items => .ok items
  | .tuple items => .ok items
  | .mapping entries => .ok (entries.map Prod.fst)
  | .set _ members => .ok members
  | .keys members => .ok members
  | .stream items => .ok items
  | .range start stop step => .ok (rangeItems start stop step)
  | .raw expr => .ok (fieldPairs expr.fields)
  | .condition c => .ok (fieldPairs c.fields)
  | .options o => .ok (fieldPairs o.fields)
  | .statement sql params _ => do
    let params ← params.items
    return [sql, .list params]

/-- The items that are read of a value, and what ends the reading before all are read. -/
def reading : Value → List Value × Option Misuse
  | .statement sql params _ =>
    match params.items with
    | .ok params => ([sql, .list params], none)
    | .error misuse => ([sql], some misuse)
  | v =>
    match v.items with
    | .ok items => (items, none)
    | .error misuse => ([], some misuse)

/-- The items of a value are those that are read, when nothing ends the reading. -/
theorem items_eq_reading (v : Value) :
    v.items = match v.reading with
      | (items, none) => .ok items
      | (_, some misuse) => .error misuse := by
  cases v with
  | statement sql params action =>
    simp only [items, reading]
    cases params.items <;> rfl
  | _ => rfl

/-- Whether a value is of a kind that has items. -/
def isIterable : Value → Bool
  | .null | .bool _ | .int _ | .float _ => false
  | _ => true

/-- Whether a value counts as full. -/
def isFull : Value → Bool
  | .null => false
  | .bool b => b
  | .int n => n != 0
  | .float literal => !(Number.ofLiteral literal).same (.ofInt 0)
  | .text s => s != ""
  | .bytes bs => !bs.isEmpty
  | .list items => !items.isEmpty
  | .tuple items => !items.isEmpty
  | .mapping entries => !entries.isEmpty
  | .set _ members => !members.isEmpty
  | .keys members => !members.isEmpty
  | .range start stop step => rangeLength start stop step != 0
  | _ => true

/-- The name of the kind of a value. -/
def kindName : Value → String
  | .null => "NoneType"
  | .bool _ => "bool"
  | .int _ => "int"
  | .float _ => "float"
  | .text _ => "str"
  | .bytes _ => "bytes"
  | .list _ => "list"
  | .tuple _ => "tuple"
  | .mapping _ => "dict"
  | .set false _ => "set"
  | .set true _ => "frozenset"
  | .keys _ => "dict_keys"
  | .stream _ => "generator"
  | .range .. => "range"
  | .raw _ => "RawExpr"
  | .condition (.compare ..) => "Compare"
  | .condition (.rawCompare ..) => "RawCompare"
  | .condition (.between ..) => "Between"
  | .condition (.inSet ..) => "InSet"
  | .condition (.isNull ..) => "IsNull"
  | .options _ => "BuilderOptions"
  | .statement .. => "CompiledSQL"

/-- The entries of a mapping. -/
def entries : Value → Except Misuse (List (Value × Value))
  | .mapping entries => .ok entries
  | _ => .error .notMapping

/-- The first item of a value that can be cut, as a value of the same kind. -/
def firstLetter : Value → Except Misuse Value
  | .text s => .ok (.text (String.ofList (s.toList.take 1)))
  | .bytes bs => .ok (.bytes (bs.take 1))
  | .list items => .ok (.list (items.take 1))
  | .tuple items => .ok (.tuple (items.take 1))
  | .range start stop step =>
    if rangeLength start stop step = 0 then .ok (.range start start step)
    else .ok (.range start (start + step) step)
  | _ => .error .notSliceable

/-- An empty text counts as empty and every other text as full. -/
theorem isFull_text (s : String) : (Value.text s).isFull = true ↔ s ≠ "" := by
  simp [isFull]

end Value

end BoundSql
