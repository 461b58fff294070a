/-!
# The kinds of statement and of join
-/

namespace BoundSql

/-- The kind of statement that a builder makes. -/
inductive Action where
  /-- Rows are selected. -/
  | select
  /-- A row is inserted. -/
  | insert
  /-- Rows are updated. -/
  | update
  /-- Rows are deleted. -/
  | delete
  /-- Rows are counted. -/
  | count
deriving DecidableEq

namespace Action

/-- All kinds of statement. -/
def all : List Action :=
  [select, insert, update, delete, count]

/-- The name of a kind of statement. -/
def name : Action → String
  | select => "select"
  | insert => "insert"
  | update => "update"
  | delete => "delete"
  | count => "count"

/-- The kind of statement with a given name. -/
def ofName? (name : String) : Option Action :=
  all.find? fun a => a.name == name

/-- Every kind of statement is found by its name. -/
theorem ofName?_name (a : Action) : ofName? a.name = some a := by
  cases a <;> rfl

end Action

/-- How a joined table's rows are matched. -/
inductive JoinKind where
  /-- Only matched rows are kept. -/
  | inner
  /-- Unmatched rows of the left side are kept. -/
  | left
  /-- Unmatched rows of the right side are kept. -/
  | right
  /-- Unmatched rows of both sides are kept. -/
  | full
deriving DecidableEq

namespace JoinKind

/-- All kinds of join. -/
def all : List JoinKind :=
  [inner, left, right, full]

/-- The keyword of a kind of join. -/
def keyword : JoinKind → String
  | inner => "INNER"
  | left => "LEFT"
  | right => "RIGHT"
  | full => "FULL"

/-- The kind of join with a given keyword. -/
def ofKeyword? (keyword : String) : Option JoinKind :=
  all.find? fun k => k.keyword == keyword

/-- Every kind of join is found by its keyword. -/
theorem ofKeyword?_keyword (k : JoinKind) : ofKeyword? k.keyword = some k := by
  cases k <;> rfl

end JoinKind

end BoundSql
