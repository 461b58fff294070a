import BoundSql.Proofs.MergedData
import BoundSql.Workspace
import Mathlib.Data.List.Forall2

/-!
# Arguments of the same shape

Two arguments have the same shape when they differ in bound values alone. A scalar may
stand for another one, a list of values for one of the same length, and raw SQL for raw
SQL of the same text with as many values. What decides about text stays: columns,
operators, whether a value that is tested for null is missing, and whether a value is
raw SQL.
-/

namespace BoundSql

/-- Raw SQL of the same text with as many values. -/
structure RawSql.Alike (expr other : RawSql Value) : Prop where
  /-- The texts are the same. -/
  sql : expr.sql = other.sql
  /-- There are as many values. -/
  bindings : expr.bindings.length = other.bindings.length

/-- Raw SQL has the shape of itself. -/
theorem RawSql.Alike.refl (expr : RawSql Value) : expr.Alike expr :=
  ⟨rfl, rfl⟩

/-- Whether an operator looks among values. -/
def Operator.looksAmong (op : Operator) : Bool :=
  match op.role with
  | .members _ => true
  | _ => false

/-- Whether an operator tests for null when its operand is missing. -/
def Operator.testsNull (op : Operator) : Bool :=
  match op.role with
  | .nullOrSingle _ => true
  | _ => false

/-- Two operands of which both are missing or neither is, if the operator tests for null. -/
def NullAlike (given : String) (v w : Value) : Prop :=
  ∀ op, Operator.ofText? given = some op → op.testsNull = true → (v = .null ↔ w = .null)

/-- Where the operator tests for null, both operands are missing or neither is. -/
theorem NullAlike.both_or_neither {given : String} {v w : Value} (h : NullAlike given v w)
    {op : Operator} (hop : Operator.ofText? given = some op) :
    (v = .null ∧ w = .null) ∨
      ((op.testsNull = true → v ≠ .null) ∧ (op.testsNull = true → w ≠ .null)) := by
  by_cases hboth : op.testsNull = true ∧ v = .null
  · obtain ⟨htests, hv⟩ := hboth
    exact .inl ⟨hv, (h op hop htests).1 hv⟩
  · have hv : op.testsNull = true → v ≠ .null := fun htests hv => hboth ⟨htests, hv⟩
    exact .inr ⟨hv, fun htests hw => hv htests ((h op hop htests).2 hw)⟩

/-- Conditions of the same variant with the same operator, negation and number of values. -/
inductive Condition.Alike : Condition Value → Condition Value → Prop where
  /-- Comparisons with any two values, unless the operator tests for null. -/
  | compare {op : String} {v w : Value} (h : NullAlike op v w) :
    Alike (.compare op v) (.compare op w)
  /-- Comparisons with raw SQL. -/
  | rawCompare {op : String} {expr other : RawSql Value} (h : expr.Alike other) :
    Alike (.rawCompare op expr) (.rawCompare op other)
  /-- Ranges with any bounds. -/
  | between (low high low' high' : Value) : Alike (.between low high) (.between low' high')
  /-- Lists of as many values to look among. -/
  | inSet (first first' : Value) {rest others : List Value} (negated : Bool)
    (h : rest.length = others.length) :
    Alike (.inSet first rest negated) (.inSet first' others negated)
  /-- Tests for null. -/
  | isNull (negated : Bool) : Alike (.isNull negated) (.isNull negated)

namespace Value

/-- Whether a value is neither a list, a tuple, raw SQL nor a condition. -/
def isScalar : Value → Bool
  | .list _ | .tuple _ | .raw _ | .condition _ => false
  | _ => true

/-- Operands of the same shape under the operator that a text spells. -/
inductive OperandAlike (given : String) : Value → Value → Prop where
  /-- The same operand. -/
  | same (v : Value) : OperandAlike given v v
  /-- Any two scalars, unless the operator looks among values or tests for null. -/
  | scalar {v w : Value} (hv : v.isScalar = true) (hw : w.isScalar = true)
    (hop : ∀ op, Operator.ofText? given = some op → op.looksAmong = false)
    (hnull : NullAlike given v w) : OperandAlike given v w
  /-- Raw SQL. -/
  | raw {expr other : RawSql Value} (h : expr.Alike other) :
    OperandAlike given (.raw expr) (.raw other)
  /-- Lists of as many values. -/
  | list {items others : List Value} (h : items.length = others.length) :
    OperandAlike given (.list items) (.list others)
  /-- Tuples of as many values. -/
  | tuple {items others : List Value} (h : items.length = others.length) :
    OperandAlike given (.tuple items) (.tuple others)
  /-- Conditions. -/
  | condition {c d : Condition Value} (h : c.Alike d) :
    OperandAlike given (.condition c) (.condition d)

/-- Values of the same shape in the place of a condition. -/
inductive ConditionAlike : Value → Value → Prop where
  /-- The same value. -/
  | same (v : Value) : ConditionAlike v v
  /-- Any two scalars. -/
  | scalar {v w : Value} (hv : v.isScalar = true) (hw : w.isScalar = true) : ConditionAlike v w
  /-- Raw SQL. -/
  | raw {expr other : RawSql Value} (h : expr.Alike other) :
    ConditionAlike (.raw expr) (.raw other)
  /-- Lists of the same operator with its operands. -/
  | list {given : String} {operand other : Value} (h : OperandAlike given operand other) :
    ConditionAlike (.list [.text given, operand]) (.list [.text given, other])
  /-- Tuples of the same operator with its operands. -/
  | tuple {given : String} {operand other : Value} (h : OperandAlike given operand other) :
    ConditionAlike (.tuple [.text given, operand]) (.tuple [.text given, other])
  /-- Conditions. -/
  | condition {c d : Condition Value} (h : c.Alike d) : ConditionAlike (.condition c) (.condition d)

/-- Values of the same shape in the place of a text: the same value, or raw SQL. -/
inductive TextAlike : Value → Value → Prop where
  /-- The same value. -/
  | same (v : Value) : TextAlike v v
  /-- Raw SQL. -/
  | raw {expr other : RawSql Value} (h : expr.Alike other) : TextAlike (.raw expr) (.raw other)

/-- Values of the same shape that are assigned to a column: raw SQL, or any two values of
which neither is raw SQL. -/
inductive AssignedAlike : Value → Value → Prop where
  /-- Raw SQL. -/
  | raw {expr other : RawSql Value} (h : expr.Alike other) :
    AssignedAlike (.raw expr) (.raw other)
  /-- Any two values that are bound. -/
  | bound {v w : Value} (hv : ∀ expr, v ≠ .raw expr) (hw : ∀ expr, w ≠ .raw expr) :
    AssignedAlike v w

/-- A value that is assigned has the shape of itself. -/
theorem AssignedAlike.refl (v : Value) : v.AssignedAlike v := by
  cases v with
  | raw expr => exact .raw (.refl expr)
  | _ => exact .bound (fun _ h => by cases h) fun _ h => by cases h

end Value

/-- Entries under the same keys in the same order, with related values. -/
def Entries.Alike (R : Value → Value → Prop) (entries others : Entries) : Prop :=
  List.Forall₂ (fun e f => e.1 = f.1 ∧ R e.2 f.2) entries others

/-- Entries have the shape of themselves. -/
theorem Entries.Alike.refl {R : Value → Value → Prop} (h : ∀ v, R v v) (entries : Entries) :
    Entries.Alike R entries entries :=
  List.forall₂_same.2 fun e _ => ⟨rfl, h e.2⟩

namespace Value

/-- Items of data of the same shape: pairs of the same key, or the same item. -/
inductive ItemAlike : Value → Value → Prop where
  /-- The same item. -/
  | same (item : Value) : ItemAlike item item
  /-- Pairs of the same key. -/
  | pair {item other key v w : Value} (hitem : Entries.pair item = .ok (key, v))
    (hother : Entries.pair other = .ok (key, w)) (h : v.AssignedAlike w) : ItemAlike item other

/-- Data of the same shape. -/
inductive DataAlike : Value → Value → Prop where
  /-- The same data. -/
  | same (data : Value) : DataAlike data data
  /-- Mappings of the same keys. -/
  | mapping {entries others : Entries} (h : Entries.Alike AssignedAlike entries others) :
    DataAlike (.mapping entries) (.mapping others)
  /-- Data other than mappings whose items are alike, and whose reading ends alike. -/
  | items {data other : Value} (hdata : ∀ entries, data ≠ .mapping entries)
    (hother : ∀ entries, other ≠ .mapping entries)
    (hitems : List.Forall₂ ItemAlike data.reading.1 other.reading.1)
    (hend : data.reading.2 = other.reading.2) : DataAlike data other

/-- Columns to select of the same shape. -/
inductive ColumnsAlike : Value → Value → Prop where
  /-- The same columns. -/
  | same (columns : Value) : ColumnsAlike columns columns
  /-- Columns that are alike one by one. -/
  | each {columns others : Value} {list list' : List Value}
    (hcolumns : Draft.columnsOf columns = .ok list) (hothers : Draft.columnsOf others = .ok list')
    (h : List.Forall₂ TextAlike list list') : ColumnsAlike columns others

/-- Filters of the same shape: the same, or mappings of the same columns. -/
inductive FilterAlike : Value → Value → Prop where
  /-- The same filter. -/
  | same (conditions : Value) : FilterAlike conditions conditions
  /-- Mappings of the same columns. -/
  | mapping {entries others : List (Value × Value)}
    (h : Entries.Alike ConditionAlike entries others) :
    FilterAlike (.mapping entries) (.mapping others)

end Value

/-- Calls of the same kind with arguments of the same shape. -/
inductive Call.Alike : Call → Call → Prop where
  /-- The same alias. -/
  | tableAlias (given : Value) : Alike (.tableAlias given) (.tableAlias given)
  /-- Columns of the same shape. -/
  | select {columns others : Value} (h : columns.ColumnsAlike others) :
    Alike (.select columns) (.select others)
  /-- The same column, or raw SQL. -/
  | count {column other : Value} (h : column.TextAlike other) :
    Alike (.count column) (.count other)
  /-- Data of the same shape. -/
  | insert {data other : Value} (h : data.DataAlike other) : Alike (.insert data) (.insert other)
  /-- Data of the same shape. -/
  | update {data other : Value} (h : data.DataAlike other) : Alike (.update data) (.update other)
  /-- Deletions. -/
  | delete : Alike .delete .delete
  /-- Data of the same shape. -/
  | onDuplicate {data other : Value} (h : data.DataAlike other) :
    Alike (.onDuplicate data) (.onDuplicate other)
  /-- The same table, alias and kind, under the same condition or raw SQL. -/
  | join (table given kind : Value) {condition other : Value} (h : condition.TextAlike other) :
    Alike (.join table condition given kind) (.join table other given kind)
  /-- The same connective with filters of the same shape. -/
  | filter (connective : Connective) {conditions others : Value}
    (h : conditions.FilterAlike others) :
    Alike (.filter connective conditions) (.filter connective others)
  /-- The same grouping, or raw SQL. -/
  | groupBy {given other : Value} (h : given.TextAlike other) :
    Alike (.groupBy given) (.groupBy other)
  /-- The same order, or raw SQL. -/
  | orderBy {given other : Value} (h : given.TextAlike other) :
    Alike (.orderBy given) (.orderBy other)
  /-- The same limit and offset. -/
  | limit (limit offset : Value) : Alike (.limit limit offset) (.limit limit offset)
  /-- The same offset. -/
  | offset (offset : Value) : Alike (.offset offset) (.offset offset)
  /-- The same clause. -/
  | clear (clause : ClauseName) : Alike (.clear clause) (.clear clause)
  /-- Emptying all clauses. -/
  | clearAll : Alike .clearAll .clearAll

end BoundSql
