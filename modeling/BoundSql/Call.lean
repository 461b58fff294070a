import BoundSql.Draft
import BoundSql.Filter
import BoundSql.Identifier

/-!
# Calls on drafts

A call changes one clause of a draft. A call that is refused leaves the draft as
it is, except that data is merged up to the first item that is refused, and that
a limit is set before its offset is looked at.
-/

namespace BoundSql

/-- A clause that can be emptied. -/
inductive ClauseName where
  /-- The filters with their values. -/
  | filters
  /-- The columns to select. -/
  | columns
  /-- The joined tables. -/
  | joins
  /-- The grouping. -/
  | groupBy
  /-- The order. -/
  | orderBy
  /-- The limit and the offset. -/
  | limit
  /-- The data of the row and of its update. -/
  | data
deriving DecidableEq

/-- A call on a draft with its arguments. -/
inductive Call where
  /-- Sets the alias of the table. -/
  | tableAlias (given : Value)
  /-- Sets the columns to select. -/
  | select (columns : Value)
  /-- Counts rows or the values of a column. -/
  | count (column : Value)
  /-- Inserts a row, with more data. -/
  | insert (data : Value)
  /-- Updates rows, with more data. -/
  | update (data : Value)
  /-- Deletes rows. -/
  | delete
  /-- Updates the row to insert when it exists already, with more data. -/
  | onDuplicate (data : Value)
  /-- Joins a table. -/
  | join (table condition tableAlias kind : Value)
  /-- Adds a filter. -/
  | filter (connective : Connective) (conditions : Value)
  /-- Sets the grouping. -/
  | groupBy (given : Value)
  /-- Sets the order. -/
  | orderBy (given : Value)
  /-- Sets the limit and the offset. -/
  | limit (limit offset : Value)
  /-- Sets the offset. -/
  | offset (offset : Value)
  /-- Empties a clause. -/
  | clear (clause : ClauseName)
  /-- Empties every clause but the table and its alias. -/
  | clearAll

/-- What a call leaves behind. -/
structure Outcome where
  /-- The draft after the call. -/
  draft : Draft
  /-- Why the call was refused, if it was. -/
  refusal? : Option Refusal := none

namespace Draft

/-- The outcome of a call that changes nothing when it is refused. -/
def settle (d : Draft) (result : Except Refusal Draft) : Outcome :=
  match result with
  | .ok changed => ⟨changed, none⟩
  | .error refusal => ⟨d, some refusal⟩

/-- The name of a table, which may have to be an identifier. -/
def tableName (options : Options) (given : Value) : Except Refusal Value :=
  if options.validateTableNames then (checkedIdentifier given).map .text else .ok given

/-- The alias of a table; an empty value is no alias. -/
def aliasName (options : Options) (given : Value) : Except Refusal Value :=
  if given.isFull then tableName options given else .ok (.text "")

/-- The columns that a value gives: itself when it is a text or raw SQL, else its
items. A star gives none. -/
def columnsOf : Value → Except Refusal (List Value)
  | .text "*" => .ok []
  | .text s => .ok [.text s]
  | .raw expr => .ok [.raw expr]
  | v => v.items.mapError .misuse

/-- The kind of join that a value names in any case and between any blanks. -/
def joinKind (given : Value) : Except Refusal JoinKind :=
  match given with
  | .text s =>
    match JoinKind.ofKeyword? (String.ofList (Text.upper (Text.trim s.toList))) with
    | some kind => .ok kind
    | none => .error (.joinKind given)
  | .bytes _ => .error (.joinKind given)
  | _ => .error (.misuse .notText)

/-- The alias that a join is given: the first letter of its table when it has none of
its own and the options ask for one. -/
def joinAlias (options : Options) (table given : Value) : Except Refusal Value :=
  if !given.isFull && options.implicitJoinAlias then table.firstLetter.mapError .misuse
  else .ok given

/-- The join that a call describes. -/
def joinOf (options : Options) (table condition given kind : Value) : Except Refusal Join := do
  let kind ← joinKind kind
  let given ← joinAlias options table given
  let table ← tableName options table
  let tableAlias ← aliasName options given
  return ⟨kind, table, tableAlias, condition⟩

/-- A draft with one more filter, unless the filter is empty. The conditions of an
alternative stand in parentheses. -/
def withFilter (d : Draft) (connective : Connective) (filter : Fragment) : Draft :=
  if filter.sql = "" then d
  else
    let text := match connective with
      | .and => filter.sql
      | .or => "(" ++ filter.sql ++ ")"
    { d with
      filters := d.filters ++ [text]
      filterParams := d.filterParams ++ filter.params }

/-- A natural number for a setting; truth values are not accepted. -/
def natural (setting : String) (given : Value) : Except Refusal Value :=
  match given with
  | .int n => if 0 ≤ n then .ok given else .error (.notNatural setting given)
  | _ => .error (.notNatural setting given)

/-- A draft with data merged into that of the row. -/
def mergeData (d : Draft) (data : Value) : Outcome :=
  let merged := d.data.merge data
  ⟨{ d with data := merged.1 }, merged.2.map .misuse⟩

/-- A draft with data merged into that of the update. -/
def mergeDuplicateData (d : Draft) (data : Value) : Outcome :=
  let merged := d.duplicateData.merge data
  ⟨{ d with duplicateData := merged.1 }, merged.2.map .misuse⟩

/-- A draft with its offset set. -/
def setOffset (d : Draft) (offset : Value) : Outcome :=
  d.settle ((natural "offset" offset).map fun offset => { d with offset })

/-- A draft with its limit set, and then its offset. -/
def setLimit (d : Draft) (limit offset : Value) : Outcome :=
  match natural "limit" limit with
  | .error refusal => ⟨d, some refusal⟩
  | .ok limit => setOffset { d with limit } offset

/-- A draft with one clause emptied. -/
def clear (d : Draft) : ClauseName → Draft
  | .filters => { d with filters := [], filterParams := [] }
  | .columns => { d with columns := [] }
  | .joins => { d with joins := [] }
  | .groupBy => { d with groupBy := .text "" }
  | .orderBy => { d with orderBy := .text "" }
  | .limit => { d with limit := .int 0, offset := .int 0 }
  | .data => { d with data := [], duplicateData := [] }

/-- A draft after a call. -/
def call (options : Options) (d : Draft) : Call → Outcome
  | .tableAlias given =>
    d.settle ((aliasName options given).map fun tableAlias => { d with tableAlias })
  | .select columns => d.settle ((columnsOf columns).map fun columns => { d with columns })
  | .count column => ⟨{ d with action := .known .count, countColumn := column }, none⟩
  | .insert data => mergeData { d with action := .known .insert } data
  | .update data => mergeData { d with action := .known .update } data
  | .delete => ⟨{ d with action := .known .delete }, none⟩
  | .onDuplicate data => d.mergeDuplicateData data
  | .join table condition given kind =>
    d.settle ((joinOf options table condition given kind).map fun join =>
      { d with joins := d.joins ++ [join] })
  | .filter connective conditions =>
    d.settle ((Filter.ofValue connective conditions).map (d.withFilter connective))
  | .groupBy given => ⟨{ d with groupBy := given }, none⟩
  | .orderBy given => ⟨{ d with orderBy := given }, none⟩
  | .limit limit offset => d.setLimit limit offset
  | .offset offset => d.setOffset offset
  | .clear clause => ⟨d.clear clause, none⟩
  | .clearAll => ⟨{ table := d.table, tableAlias := d.tableAlias }, none⟩

/-- A draft after a list of calls, each made whether or not those before it were refused. -/
def calls (options : Options) (d : Draft) (list : List Call) : Draft :=
  list.foldl (fun d c => (d.call options c).draft) d

@[simp] theorem calls_nil (options : Options) (d : Draft) : d.calls options [] = d := rfl

@[simp] theorem calls_cons (options : Options) (d : Draft) (c : Call) (rest : List Call) :
    d.calls options (c :: rest) = (d.call options c).draft.calls options rest := rfl

/-- Calls can be made in two runs. -/
theorem calls_append (options : Options) (d : Draft) (list others : List Call) :
    d.calls options (list ++ others) = (d.calls options list).calls options others :=
  List.foldl_append

/-- A refused change leaves the draft as it is. -/
theorem settle_draft_of_error (d : Draft) (refusal : Refusal) :
    (d.settle (.error refusal)).draft = d := rfl

end Draft

end BoundSql
