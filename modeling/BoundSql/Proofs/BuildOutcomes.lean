import BoundSql.Proofs.Logged
import BoundSql.Proofs.StandingData
import BoundSql.Proofs.StandingSettings

/-!
# When a statement is built

The statement of a draft is refused for two reasons only: an insertion or an update has no data,
or a selection has a column that is neither a text nor raw SQL. After a run of calls the kind of
statement is the one that was chosen last, and data is missing when no call has brought any since
the data was last emptied. So what becomes of a build can be told from the run, refused calls
included.
-/

namespace BoundSql

namespace Entries

end Entries

namespace Clause

variable {refusal : Refusal}

end Clause

namespace Builder

variable {table tableAlias options : Value} {sink : Option Sink} {b : Builder}

end Builder

end BoundSql
