import BoundSql.BuildLog
import BoundSql.Builder
import BoundSql.Call
import BoundSql.Condition.Render
import BoundSql.Condition.Resolve
import BoundSql.Filter
import BoundSql.Identifier
import BoundSql.Operator
import BoundSql.Proofs.Written
import BoundSql.Proofs.Lexemes
import BoundSql.Proofs.ResolvedFilter
import BoundSql.Proofs.Run
import BoundSql.Proofs.Standing
import BoundSql.RawSql
import BoundSql.Record
import BoundSql.Statement
import BoundSql.Workspace
import BoundSql.Proofs.Grammar
import BoundSql.Proofs.Meaning
import BoundSql.Proofs.Agreement
import BoundSql.Proofs.AlikeConditions
import BoundSql.Proofs.AlikeDrafts
import BoundSql.Proofs.AlikeStatements
import BoundSql.Proofs.AlikeRuns
import BoundSql.Proofs.Parts
import BoundSql.Proofs.Cleared
import BoundSql.Proofs.Refused
import BoundSql.Proofs.EqualKeys
import BoundSql.Proofs.Replayed
import BoundSql.Proofs.Described
import BoundSql.Proofs.Contained
import BoundSql.Proofs.StandingData
import BoundSql.Proofs.IdentifierGrammar
import BoundSql.Proofs.CheckedNames
import BoundSql.Proofs.Logged
import BoundSql.Proofs.FilledTemplates
import BoundSql.Proofs.MarkedTemplates
import BoundSql.Proofs.FrontEnds
import BoundSql.Proofs.ValueOrder
import BoundSql.Proofs.AscendingRuns
import BoundSql.Proofs.AscendingMerges
import BoundSql.Proofs.SetOperands
import BoundSql.Proofs.StandingSettings
import BoundSql.Proofs.BuildOutcomes
import BoundSql.Proofs.FiltersInPieces
import BoundSql.Proofs.EmbeddedOperands
import BoundSql.Proofs.RawOperands
import BoundSql.Proofs.StableUpperCase
import BoundSql.Proofs.OperatorSpellings
import BoundSql.Proofs.CheckedIdentifiers
import BoundSql.Proofs.CountedRows
import BoundSql.Proofs.UndisturbedMarks
import BoundSql.Proofs.DivergingMarks
import BoundSql.Proofs.RereadMarks
