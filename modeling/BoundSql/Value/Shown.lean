import BoundSql.Text.Quoted
import BoundSql.Value

/-!
# Values as text

A value has two texts. Its quoted text tells values of different kinds apart:
texts stand in quotes, containers show their members quoted, and the library's
records name their fields. Its shown text is what goes into a statement or a
message: a text as it is, raw SQL as its SQL, a record as its fields alone.
-/

namespace BoundSql

/-- The text of a truth value. -/
def shownBool (b : Bool) : String :=
  if b then "True" else "False"

/-- The named fields of a record, with a separator between them. -/
def shownFields (separator : String) (fields : List (String × String)) : String :=
  separator.intercalate (fields.map fun f => f.1 ++ "=" ++ f.2)

/-- A record: its name, then its fields in parentheses. -/
def shownRecord (name : String) (fields : List (String × String)) : String :=
  name ++ "(" ++ shownFields ", " fields ++ ")"

/-- Members between an opening and a closing text. -/
def enclosed (opening closing : String) (members : List String) : String :=
  opening ++ ", ".intercalate members ++ closing

/-- A tuple, where a single member is followed by a comma. -/
def shownTuple : List String → String
  | [member] => "(" ++ member ++ ",)"
  | members => enclosed "(" ")" members

/-- A set, where a frozen set and an empty set are named. -/
def shownSet (frozen : Bool) (members : List String) : String :=
  match frozen, members with
  | false, [] => "set()"
  | false, _ => enclosed "\x7b" "\x7d" members
  | true, [] => "frozenset()"
  | true, _ => enclosed "frozenset(\x7b" "\x7d)" members

/-- The integers from one on, short of another, with the step unless it is one. -/
def shownRange (start stop step : Int) : String :=
  if step = 1 then enclosed "range(" ")" [toString start, toString stop]
  else enclosed "range(" ")" [toString start, toString stop, toString step]

/-- The fields of the switches of a builder. -/
def Options.quotedFields (o : Options) : List (String × String) :=
  [("implicit_join_alias", shownBool o.implicitJoinAlias),
    ("validate_table_names", shownBool o.validateTableNames)]

/-- The name of a condition as a record. -/
def Condition.recordName {α : Type} : Condition α → String
  | .compare .. => "Compare"
  | .rawCompare .. => "RawCompare"
  | .between .. => "Between"
  | .inSet .. => "InSet"
  | .isNull .. => "IsNull"

mutual

/-- The quoted text of a value. -/
def Value.quoted : Value → String
  | .null => "None"
  | .bool b => shownBool b
  | .int n => toString n
  | .float literal => literal
  | .text s => Text.quoted s
  | .bytes bs => Text.quotedBytes bs
  | .list items => enclosed "[" "]" (quotedItems items)
  | .tuple items => shownTuple (quotedItems items)
  | .mapping entries => enclosed "\x7b" "\x7d" (quotedEntries entries)
  | .set frozen members => shownSet frozen (quotedItems members)
  | .keys members => enclosed "dict_keys([" "])" (quotedItems members)
  | .stream _ => "<generator object>"
  | .range start stop step => shownRange start stop step
  | .raw expr => quotedRaw expr
  | .condition c => shownRecord c.recordName (quotedCondition c)
  | .options o => shownRecord "BuilderOptions" o.quotedFields
  | .statement sql params action =>
    shownRecord "CompiledSQL"
      [("sql", sql.quoted), ("params", params.quoted), ("action", action.quoted)]

/-- The quoted texts of the values of a list. -/
def quotedItems : List Value → List String
  | [] => []
  | v :: rest => v.quoted :: quotedItems rest

/-- The quoted texts of the entries of a mapping. -/
def quotedEntries : List (Value × Value) → List String
  | [] => []
  | e :: rest => quotedEntry e :: quotedEntries rest

/-- The quoted text of an entry of a mapping. -/
def quotedEntry : Value × Value → String
  | (k, v) => k.quoted ++ ": " ++ v.quoted

/-- The quoted text of raw SQL. -/
def quotedRaw : RawSql Value → String
  | ⟨sql, bindings⟩ =>
    shownRecord "RawExpr"
      [("sql", Text.quoted sql), ("bindings", shownTuple (quotedItems bindings))]

/-- The fields of a condition with their quoted texts. -/
def quotedCondition : Condition Value → List (String × String)
  | .compare op value => [("op", Text.quoted op), ("value", value.quoted)]
  | .rawCompare op raw => [("op", Text.quoted op), ("raw", quotedRaw raw)]
  | .between low high => [("low", low.quoted), ("high", high.quoted)]
  | .inSet first rest negated =>
    [("values", shownTuple (first.quoted :: quotedItems rest)), ("negated", shownBool negated)]
  | .isNull negated => [("negated", shownBool negated)]

end

/-- The shown text of a value. -/
def Value.shown : Value → String
  | .text s => s
  | .raw expr => expr.sql
  | .condition c => shownFields " " (quotedCondition c)
  | .options o => shownFields " " o.quotedFields
  | v => v.quoted

@[simp] theorem Value.shown_text (s : String) : (Value.text s).shown = s := rfl

@[simp] theorem Value.shown_raw (expr : RawSql Value) : (Value.raw expr).shown = expr.sql := rfl

/-- The members of a list are quoted one by one. -/
theorem quotedItems_eq_map (items : List Value) : quotedItems items = items.map Value.quoted := by
  induction items with
  | nil => rfl
  | cons v rest ih => rw [quotedItems, ih, List.map_cons]

end BoundSql
