import BoundSql.Draft
import BoundSql.Fragment

/-!
# Statements from drafts

Each clause of a draft is a fragment, and a statement is the fragments of its
clauses in the order of the grammar. Clauses with nothing to say are left out.
A draft is only read, so that it can be built any number of times.
-/

namespace BoundSql

/-- A finished statement. -/
structure Statement where
  /-- The text, with a question mark for each value. -/
  sql : String
  /-- The values in the order of their placeholders. -/
  params : List Value
  /-- The kind of statement. -/
  action : Action

namespace Clause

/-- A name with its alias, unless the alias is empty. -/
def aliased (name tableAlias : Value) : String :=
  if tableAlias.isFull then name.shown ++ " AS " ++ tableAlias.shown else name.shown

/-- A keyword and its text, or nothing when the text is empty. -/
def keyed (keyword : String) (text : Value) : Fragment where
  sql := if text.isFull then keyword ++ text.shown else ""

/-- One column to select. -/
def column : Value → Except Refusal Fragment
  | .text s => .ok ⟨s, []⟩
  | .raw expr => .ok ⟨expr.sql, expr.bindings⟩
  | _ => .error (.misuse .columnNotText)

/-- The columns to select. -/
def columns (columns : List Value) : Except Refusal Fragment :=
  if columns.isEmpty then .ok ⟨"SELECT *", []⟩
  else do
    let list := Fragment.joined ", " (← columns.mapM column)
    return ⟨"SELECT " ++ list.sql, list.params⟩

/-- The count to select. -/
def count (d : Draft) : Fragment where
  sql := "SELECT COUNT(" ++ d.countColumn.shown ++ ") AS cnt"

/-- The table that rows come from, with its alias. -/
def source (keyword : String) (d : Draft) : Fragment where
  sql := keyword ++ aliased d.table d.tableAlias

/-- The table that a row is written to, without an alias. -/
def target (keyword : String) (d : Draft) : Fragment where
  sql := keyword ++ d.table.shown ++ " SET"

/-- One joined table. -/
def join (j : Join) : String :=
  j.kind.keyword ++ " JOIN " ++ aliased j.table j.tableAlias ++ " ON " ++ j.condition.shown

/-- All joined tables. -/
def joins (d : Draft) : Fragment where
  sql := " ".intercalate (d.joins.map join)

/-- The filters, all of which have to hold. -/
def filters (d : Draft) : Fragment :=
  if d.filters.isEmpty then ⟨"", []⟩
  else ⟨"WHERE " ++ " AND ".intercalate d.filters, d.filterParams⟩

/-- One column with its new value, which is bound unless it is raw SQL. -/
def assignment : Value × Value → Fragment
  | (column, .raw expr) => ⟨column.shown ++ " = " ++ expr.sql, expr.bindings⟩
  | (column, value) => ⟨column.shown ++ " = ?", [value]⟩

/-- Columns with their new values. -/
def assignments (data : Entries) : Fragment :=
  Fragment.joined ", " (data.map assignment)

/-- What is updated when the row to insert exists already. -/
def onDuplicate (d : Draft) : Fragment :=
  if d.duplicateData.isEmpty then ⟨"", []⟩
  else
    let updates := assignments d.duplicateData
    ⟨"ON DUPLICATE KEY UPDATE " ++ updates.sql, updates.params⟩

/-- The number that a setting of paging stands for. -/
def number (setting : Value) : Except Refusal Number :=
  match setting.number? with
  | some n => .ok n
  | none => .error (.misuse .notNumber)

/-- The limit when it is not zero or less, and behind it the offset when it is more
than zero. -/
def paging (d : Draft) : Except Refusal Fragment := do
  let zero := Number.ofInt 0
  let limit ← number d.limit
  if limit.less zero || limit.same zero then return ⟨"", []⟩
  let offset ← number d.offset
  let skipped := if zero.less offset then " OFFSET " ++ d.offset.shown else ""
  return ⟨"LIMIT " ++ d.limit.shown ++ skipped, []⟩

/-- The clauses that rows are taken from, the same for rows and for their count. -/
def rows (d : Draft) : List Fragment :=
  [source "FROM " d, joins d, filters d, keyed "GROUP BY " d.groupBy]

end Clause

namespace Statement

/-- The clauses of a selection. -/
def selectClauses (d : Draft) : Except Refusal (List Fragment) := do
  let columns ← Clause.columns d.columns
  let paging ← Clause.paging d
  return [columns] ++ Clause.rows d ++ [Clause.keyed "ORDER BY " d.orderBy, paging]

/-- The clauses of a count. -/
def countClauses (d : Draft) : List Fragment :=
  [Clause.count d] ++ Clause.rows d

/-- The clauses of an insertion. -/
def insertClauses (d : Draft) : Except Refusal (List Fragment) :=
  if d.data.isEmpty then .error (.emptyData .insert)
  else
    .ok [Clause.target "INSERT INTO " d, Clause.assignments d.data, Clause.onDuplicate d]

/-- The clauses of an update. -/
def updateClauses (d : Draft) : Except Refusal (List Fragment) :=
  if d.data.isEmpty then .error (.emptyData .update)
  else .ok [Clause.target "UPDATE " d, Clause.assignments d.data, Clause.filters d]

/-- The clauses of a deletion. -/
def deleteClauses (d : Draft) : List Fragment :=
  [Clause.source "DELETE FROM " d, Clause.filters d]

/-- The clauses of the statement of an action. -/
def clauses (d : Draft) : Action → Except Refusal (List Fragment)
  | .select => selectClauses d
  | .count => .ok (countClauses d)
  | .insert => insertClauses d
  | .update => updateClauses d
  | .delete => .ok (deleteClauses d)

/-- The statement of an action that clauses make. -/
def ofClauses (action : Action) (fragments : List Fragment) : Statement :=
  let whole := Fragment.clauses fragments
  ⟨whole.sql, whole.params, action⟩

/-- The statement of a draft. -/
def ofDraft (d : Draft) : Except Refusal Statement := do
  let action ← d.action.action
  (clauses d action).map (ofClauses action)

/-- A draft with one of the five actions is built from the clauses of that action. -/
theorem ofDraft_of_known {d : Draft} {a : Action} (h : d.action = .known a) :
    ofDraft d = (clauses d a).map (ofClauses a) := by
  unfold ofDraft
  rw [h]
  rfl

end Statement

end BoundSql
