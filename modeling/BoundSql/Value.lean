/-!
# Values

Builders are handed values of many kinds: scalars, which are bound to
placeholders, containers, which describe operands and data, and the library's
own records. Raw SQL, conditions and options are values too, because they may
stand wherever a value may.
-/

namespace BoundSql

/-- SQL text written by the caller, with the values of its placeholders. -/
structure RawSql (α : Type) where
  /-- The text, taken as it is. -/
  sql : String
  /-- The values of the placeholders of the text, in order. -/
  bindings : List α

/-- A condition on one column. -/
inductive Condition (α : Type) where
  /-- Comparison of the column with one bound value. -/
  | compare (op : String) (value : α)
  /-- Comparison of the column with raw SQL. -/
  | rawCompare (op : String) (raw : RawSql α)
  /-- The column lies between two bound values. -/
  | between (low high : α)
  /-- The column is, or is not, among one or more bound values. -/
  | inSet (first : α) (rest : List α) (negated : Bool)
  /-- The column is, or is not, null. -/
  | isNull (negated : Bool)

/-- Switches of a builder. -/
structure Options where
  /-- A join without an alias is given the first letter of its table as alias. -/
  implicitJoinAlias : Bool := true
  /-- Table names and aliases have to be identifiers. -/
  validateTableNames : Bool := false
deriving DecidableEq

/-- A value of any kind that a builder may be handed. -/
inductive Value where
  /-- The missing value. -/
  | null
  /-- A truth value, which also counts as the number 0 or 1. -/
  | bool (b : Bool)
  /-- An integer of any size. -/
  | int (n : Int)
  /-- A binary floating-point number, kept as its shortest decimal text. -/
  | float (literal : String)
  /-- A text. -/
  | text (s : String)
  /-- A string of bytes. -/
  | bytes (bs : List UInt8)
  /-- A list. -/
  | list (items : List Value)
  /-- A tuple. -/
  | tuple (items : List Value)
  /-- A mapping, with its entries in the order in which their keys were first given. -/
  | mapping (entries : List (Value × Value))
  /-- A set, open to change or frozen. -/
  | set (frozen : Bool) (members : List Value)
  /-- A view of the keys of a mapping, in its order. -/
  | keys (members : List Value)
  /-- Items that can be read once and are neither counted nor indexed. -/
  | stream (items : List Value)
  /-- The integers from `start` on in steps of `step`, short of `stop`. -/
  | range (start stop step : Int)
  /-- Raw SQL. -/
  | raw (expr : RawSql Value)
  /-- A condition on a column that is not named yet. -/
  | condition (c : Condition Value)
  /-- The switches of a builder. -/
  | options (o : Options)
  /-- A finished statement, with whatever was given for its three fields. -/
  | statement (sql params action : Value)

instance : Inhabited Value := ⟨.null⟩

/-- The members of a condition on a set of values. -/
def Condition.setMembers {α : Type} : Condition α → List α
  | .inSet first rest _ => first :: rest
  | _ => []

/-- A condition on the values of a list, unless the list is empty. -/
def Condition.ofMembers? {α : Type} (members : List α) (negated : Bool) :
    Option (Condition α) :=
  match members with
  | [] => none
  | first :: rest => some (.inSet first rest negated)

/-- A condition on the values of a list holds all of them in order. -/
theorem Condition.setMembers_of_ofMembers? {α : Type} {members : List α} {negated : Bool}
    {c : Condition α} (h : Condition.ofMembers? members negated = some c) :
    c.setMembers = members := by
  cases members with
  | nil => simp [Condition.ofMembers?] at h
  | cons first rest =>
    simp only [Condition.ofMembers?, Option.some.injEq] at h
    subst h
    rfl

end BoundSql
