import BoundSql.BuildLog
import BoundSql.Call
import BoundSql.Event

/-!
# Builders

A builder keeps one draft, changes it by calls and builds statements from it. A
statement that was built is sent to a sink, that of the build or else that of
the builder, together with the snapshot of the draft.
-/

namespace BoundSql

/-- Where built statements are sent. -/
inductive Sink where
  /-- The log of a name. -/
  | log (name : String)
  /-- A sink that refuses every statement. -/
  | refusing
deriving DecidableEq

/-- A builder of statements. -/
structure Builder where
  /-- The switches of the builder. -/
  options : Options
  /-- Where its statements are sent, if anywhere. -/
  sink : Option Sink
  /-- The draft of its statements. -/
  draft : Draft

/-- A statement with its snapshot on the way to the log of a name. -/
structure Delivery where
  /-- The name of the log. -/
  log : String
  /-- The draft of the statement at the time. -/
  state : Snapshot
  /-- The statement. -/
  statement : Statement

/-- What a build brings about. -/
structure Build where
  /-- The statement, or why there is none. -/
  result : Except Refusal Statement
  /-- The events in order. -/
  events : List Event
  /-- What is sent to a log, if anything. -/
  delivery? : Option Delivery := none

namespace Builder

/-- The switches that a value gives; an empty value gives the default ones. -/
def optionsOf (given : Value) : Except Refusal Options :=
  if given.isFull then
    match given with
    | .options options => .ok options
    | _ => .error (.misuse .notOptions)
  else .ok {}

/-- A builder for a table. -/
def create (table tableAlias options : Value) (sink : Option Sink) : Except Refusal Builder := do
  let options ← optionsOf options
  let table ← Draft.tableName options table
  let tableAlias ← Draft.aliasName options tableAlias
  return ⟨options, sink, { table, tableAlias }⟩

/-- A builder after a call, and why the call was refused if it was. -/
def call (b : Builder) (c : Call) : Builder × Option Refusal :=
  let outcome := b.draft.call b.options c
  ({ b with draft := outcome.draft }, outcome.refusal?)

/-- The event of a failed build, when it failed by one of the library's own rules. -/
def failureEvents (b : Builder) (refusal : Refusal) : List Event :=
  match refusal.report? with
  | some report => [.buildFailed b.draft.action b.draft.table report.code]
  | none => []

/-- Sends a statement to a sink. -/
def send (b : Builder) (statement : Statement) (sink : Sink) :
    Except Refusal (Option Delivery) := do
  let state ← b.draft.snapshot.mapError .misuse
  match sink with
  | .log name => return some ⟨name, state, statement⟩
  | .refusing => throw (.sink statement.action)

/-- Builds the statement of the draft and sends it to the given sink, or else to the
sink of the builder. -/
def build (b : Builder) (sink : Option Sink) : Build :=
  match Statement.ofDraft b.draft with
  | .error refusal => { result := .error refusal, events := b.failureEvents refusal }
  | .ok statement =>
    let events := [.built statement.action b.draft.table statement.sql statement.params.length]
    match sink.or b.sink with
    | none => { result := .ok statement, events }
    | some sink =>
      match b.send statement sink with
      | .ok delivery? => { result := .ok statement, events, delivery? }
      | .error refusal => { result := .error refusal, events }

/-- The statement of the draft, sent nowhere. -/
def preview (b : Builder) : Except Refusal Statement :=
  Statement.ofDraft b.draft

end Builder

end BoundSql
