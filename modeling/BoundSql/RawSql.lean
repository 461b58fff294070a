import BoundSql.Identifier
import BoundSql.Record
import BoundSql.Text.Substituted

/-!
# Raw SQL

Raw SQL is text that goes into a statement as it is, with the values of its
placeholders. A template is raw SQL in which names in braces mark the places of
identifiers. Each identifier is checked before it replaces its marks.
-/

namespace BoundSql

namespace RawSql

/-- Raw SQL of a text and the items of another value. -/
def of (sql bindings : Value) : Except Refusal (RawSql Value) := do
  let bindings ← bindings.items.mapError .misuse
  Record.settle (Record.rawSql [(.text "sql", sql), (.text "bindings", .tuple bindings)])

/-- The mark of a name in a template: the name in braces. -/
def mark (name : String) : String :=
  "\x7b" ++ name ++ "\x7d"

/-- A template with every mark of a name replaced by an identifier. -/
def filled (template name identifier : String) : String :=
  String.ofList (Text.substituted (mark name).toList identifier.toList template.toList)

/-- A template with every mark of a name replaced by a value that has to be an
identifier. -/
def fill (template : Value) (mark : Value × Value) : Except Refusal Value :=
  match template with
  | .text t => do
    let identifier ← checkedIdentifier mark.2
    return .text (filled t mark.1.shown identifier)
  | .bytes _ => do
    let _ ← checkedIdentifier mark.2
    throw (.misuse .textInBytes)
  | _ => .error (.misuse .notText)

/-- Raw SQL of a template, the identifiers of its marks and the values of its
placeholders. The marks are replaced name by name in the order of the mapping. -/
def ofTemplate (template identifiers bindings : Value) : Except Refusal (RawSql Value) := do
  let marks ← identifiers.entries.mapError .misuse
  let sql ← marks.foldlM fill template
  of sql bindings

/-- Whether raw SQL has values for placeholders. -/
def hasBindings (expr : RawSql Value) : Bool :=
  !expr.bindings.isEmpty

/-- The items of a list become the bindings of a text unchanged. -/
theorem of_text_list (sql : String) (bindings : List Value) :
    of (.text sql) (.list bindings) = .ok ⟨sql, bindings⟩ := rfl

end RawSql

end BoundSql
