import BoundSql.Refusal
import BoundSql.Value.Entries

/-!
# Records from named fields

Raw SQL, conditions and options can be given as named fields. Every field is
read leniently: bytes are read as text, any sequence of items as a tuple, and
several spellings as truth values. All problems are found at once: first those of
the fields that a record has, in their order, then the fields that it does not have,
in the order in which they are given.
-/

namespace BoundSql

namespace Record

/-- A result, or all problems that stand in its way. -/
abbrev Checked (α : Type) : Type := Except (List Problem) α

/-- Both results, or the problems of both. -/
def both {α β : Type} : Checked α → Checked β → Checked (α × β)
  | .ok a, .ok b => .ok (a, b)
  | .ok _, .error problems => .error problems
  | .error problems, .ok _ => .error problems
  | .error problems, .error others => .error (problems ++ others)

/-- A value that is refused for one problem with itself. -/
def refused {α : Type} (kind : ProblemKind) : Checked α :=
  .error [⟨[], kind⟩]

/-- A result inside the field of a name. -/
def within {α : Type} (name : String) (result : Checked α) : Checked α :=
  result.mapError fun problems => problems.map fun p => { p with path := .name name :: p.path }

/-- The value of the field of a name. -/
def field? (name : String) (fields : Entries) : Option Value :=
  (fields.find? fun f => match f.1 with
    | .text s => s == name
    | _ => false).map Prod.snd

/-- A field that has to be given. -/
def required {α : Type} (name : String) (read : Value → Checked α) (fields : Entries) :
    Checked α :=
  within name <|
    match field? name fields with
    | some v => read v
    | none => refused .missing

/-- A field that has a default. -/
def optional {α : Type} (name : String) (default : α) (read : Value → Checked α)
    (fields : Entries) : Checked α :=
  match field? name fields with
  | some v => within name (read v)
  | none => .ok default

/-- Whether an integer fits 64 bits, one of which is its sign. -/
def fitsWord (n : Int) : Bool :=
  decide (Int64.minValue.toInt ≤ n ∧ n ≤ Int64.maxValue.toInt)

/-- How a path leads to a field. A name that is a number of at most 64 bits, or a truth
value, is a position; any other name that is not a text is quoted. -/
def pathStep : Value → PathStep
  | .text s => .name s
  | .bool b => .position (if b then 1 else 0)
  | .int n => if fitsWord n then .position n else .name (Value.int n).quoted
  | v => .name v.quoted

/-- The problem with a field whose name is not among the given ones. -/
def strayField? (names : List String) : Value × Value → Option Problem
  | (.text s, _) => if names.contains s then none else some ⟨[pathStep (.text s)], .unknownField⟩
  | (name, _) => some ⟨[pathStep name], .nameNotText⟩

/-- No field has a name other than the given ones. -/
def noOthers (names : List String) (fields : Entries) : Checked Unit :=
  match fields.filterMap (strayField? names) with
  | [] => .ok ()
  | problems => .error problems

/-- A result for fields of which no other is given. -/
def closed {α : Type} (names : List String) (fields : Entries) (result : Checked α) :
    Checked α :=
  (both result (noOthers names fields)).map Prod.fst

/-- Any value, taken as it is. -/
def readAny (v : Value) : Checked Value :=
  .ok v

/-- The text that bytes encode. -/
def decodedText? (bytes : List UInt8) : Option String :=
  String.fromUTF8? ⟨bytes.toArray⟩

/-- A text, or bytes that encode one. -/
def readText : Value → Checked String
  | .text s => .ok s
  | .bytes bs =>
    match decodedText? bs with
    | some s => .ok s
    | none => refused .badEncoding
  | _ => refused .notText

/-- The items of any sequence; texts, bytes and mappings are not sequences. An item that
cannot be read is a problem at its position. -/
def readItems (v : Value) : Checked (List Value) :=
  match v with
  | .text _ | .bytes _ | .mapping _ => refused .notSequence
  | v =>
    if v.isIterable then
      match v.reading with
      | (items, none) => .ok items
      | (items, some _) => .error [⟨[.position items.length], .unreadableItem⟩]
    else refused .notSequence

/-- Spellings of the true value. -/
def trueWords : List String := ["1", "on", "t", "true", "y", "yes"]

/-- Spellings of the false value. -/
def falseWords : List String := ["0", "off", "f", "false", "n", "no"]

/-- The truth value that a text spells in any case. -/
def readTruthWord (text : String) : Checked Bool :=
  let word := String.ofList (text.toList.map Char.toLower)
  if trueWords.contains word then .ok true
  else if falseWords.contains word then .ok false
  else refused .badTruthValue

/-- The truth value that an integer stands for. -/
def readTruthInt (n : Int) : Checked Bool :=
  if n = 0 then .ok false else if n = 1 then .ok true else refused .badTruthValue

/-- A truth value, a number that is zero or one, or a spelling of a truth value. A number
that is not an integer of 64 bits is not of a kind that stands for a truth value. -/
def readBool : Value → Checked Bool
  | .bool b => .ok b
  | .int n => if fitsWord n then readTruthInt n else refused .notTruthValue
  | .float literal =>
    match Number.ofLiteral literal with
    | .rational q =>
      if q.den = 1 ∧ Int64.minValue.toInt < q.num ∧ fitsWord q.num then readTruthInt q.num
      else refused .notTruthValue
    | _ => refused .notTruthValue
  | .text s => readTruthWord s
  | .bytes bs =>
    match decodedText? bs with
    | some s => readTruthWord s
    | none => refused .badTruthValue
  | _ => refused .notTruthValue

/-- Raw SQL from its fields. -/
def rawSql (fields : Entries) : Checked (RawSql Value) :=
  closed ["sql", "bindings"] fields <|
    (both (required "sql" readText fields) (optional "bindings" [] readItems fields)).map
      fun r => ⟨r.1, r.2⟩

/-- Raw SQL, or its fields. -/
def readRaw : Value → Checked (RawSql Value)
  | .raw expr => .ok expr
  | .mapping fields => rawSql fields
  | _ => refused .notRecord

/-- A comparison from its fields. -/
def compare (fields : Entries) : Checked (Condition Value) :=
  closed ["op", "value"] fields <|
    (both (optional "op" Operator.equal.symbol readText fields)
      (optional "value" .null readAny fields)).map fun r => .compare r.1 r.2

/-- A comparison with raw SQL from its fields. -/
def rawCompare (fields : Entries) : Checked (Condition Value) :=
  closed ["op", "raw"] fields <|
    (both (optional "op" Operator.equal.symbol readText fields)
      (required "raw" readRaw fields)).map fun r => .rawCompare r.1 r.2

/-- A range condition from its fields. -/
def between (fields : Entries) : Checked (Condition Value) :=
  closed ["low", "high"] fields <|
    (both (required "low" readAny fields) (required "high" readAny fields)).map
      fun r => .between r.1 r.2

/-- The values and the sign of a membership condition from its fields. -/
def membership (fields : Entries) : Checked (List Value × Bool) :=
  closed ["values", "negated"] fields <|
    both (required "values" readItems fields) (optional "negated" false readBool fields)

/-- A null test from its fields. -/
def isNull (fields : Entries) : Checked (Condition Value) :=
  closed ["negated"] fields <|
    (optional "negated" false readBool fields).map .isNull

/-- The switches of a builder from their fields. -/
def options (fields : Entries) : Checked Options :=
  let names := ["implicit_join_alias", "validate_table_names"]
  closed names fields <|
    (both (optional "implicit_join_alias" true readBool fields)
      (optional "validate_table_names" false readBool fields)).map fun r => ⟨r.1, r.2⟩

/-- A result, refused with its problems. -/
def settle {α : Type} (result : Checked α) : Except Refusal α :=
  result.mapError .badRecord

/-- The kinds of record that can be given by their fields. -/
inductive Kind where
  /-- Raw SQL. -/
  | rawSql
  /-- A comparison. -/
  | compare
  /-- A comparison with raw SQL. -/
  | rawCompare
  /-- A range condition. -/
  | between
  /-- A membership condition. -/
  | inSet
  /-- A null test. -/
  | isNull
  /-- The switches of a builder. -/
  | options

/-- A membership condition from its fields. Without any value it is refused before
the other fields are looked at. -/
def inSet (fields : Entries) : Except Refusal (Condition Value) :=
  match required "values" readItems fields with
  | .ok [] => .error (.condition .null (.noMembers .isIn))
  | _ => do
    match ← settle (membership fields) with
    | ([], _) => throw (.condition .null (.noMembers .isIn))
    | (first :: rest, negated) => return .inSet first rest negated

/-- The record of a kind from its fields. -/
def ofFields (fields : Entries) : Kind → Except Refusal Value
  | .rawSql => (settle (rawSql fields)).map .raw
  | .compare => (settle (compare fields)).map .condition
  | .rawCompare => (settle (rawCompare fields)).map .condition
  | .between => (settle (between fields)).map .condition
  | .inSet => (inSet fields).map .condition
  | .isNull => (settle (isNull fields)).map .condition
  | .options => (settle (options fields)).map .options

end Record

end BoundSql
