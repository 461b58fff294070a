import BoundSql.Value

/-!
# Fragments of statements

A fragment is SQL text together with the values that its placeholders take, in
order. Fragments are put together left to right, so that the values of a whole
follow the order of its placeholders.
-/

namespace BoundSql

/-- SQL text and the values of its placeholders. -/
structure Fragment where
  /-- The text, with a question mark for each value. -/
  sql : String
  /-- The values in the order of their placeholders. -/
  params : List Value := []

namespace Fragment

/-- The values of all fragments in order. -/
def allParams (fragments : List Fragment) : List Value :=
  fragments.flatMap fun f => f.params

/-- Fragments with a separator between neighbours. -/
def joined (separator : String) (fragments : List Fragment) : Fragment where
  sql := separator.intercalate (fragments.map fun f => f.sql)
  params := allParams fragments

/-- The clauses of a statement with a space between neighbours. A clause without any
text is left out. -/
def clauses (fragments : List Fragment) : Fragment where
  sql := " ".intercalate ((fragments.map fun f => f.sql).filter (· != ""))
  params := allParams fragments

@[simp] theorem allParams_nil : allParams [] = [] := rfl

@[simp] theorem allParams_cons (f : Fragment) (rest : List Fragment) :
    allParams (f :: rest) = f.params ++ allParams rest := rfl

/-- The values of two runs of fragments follow each other. -/
theorem allParams_append (fragments others : List Fragment) :
    allParams (fragments ++ others) = allParams fragments ++ allParams others :=
  List.flatMap_append

end Fragment

end BoundSql
