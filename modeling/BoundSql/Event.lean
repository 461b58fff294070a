import BoundSql.Draft

/-!
# Events

Refused identifiers and builds are reported as events.
-/

namespace BoundSql

/-- Something worth a line in a debug log. -/
inductive Event where
  /-- A value was not an identifier; its quoted text is reported. -/
  | identifierRejected (identifier : String)
  /-- A statement was built. -/
  | built (action : Action) (table : Value) (sql : String) (paramCount : Nat)
  /-- A statement could not be built, for the reason with the given code. -/
  | buildFailed (action : ActionSlot) (table code : Value)

/-- The events of a refusal that is met anywhere but in a build. -/
def Refusal.events : Refusal → List Event
  | .identifier given => [.identifierRejected given.quoted]
  | _ => []

end BoundSql
