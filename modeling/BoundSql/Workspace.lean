import BoundSql.Builder

/-!
# Builders at work side by side

A workspace holds builders, of which one is current, and logs that all of them
share by name. Its steps are calls and builds on the current builder, changes of
the current builder and questions to the logs.
-/

namespace BoundSql

/-- Builders and the logs that they share. -/
structure Workspace where
  /-- The builders in the order in which they were made. -/
  builders : List Builder
  /-- The position of the current builder. -/
  current : Nat
  /-- The logs by name; one that is not listed is empty. -/
  logs : List (String × BuildLog) := []

/-- A step of work. -/
inductive Step where
  /-- A call on the current builder. -/
  | call (c : Call)
  /-- A build of the current builder, with a sink of its own if one is given. -/
  | build (sink : Option Sink)
  /-- The SQL of the current builder, sent nowhere. -/
  | sql
  /-- The parameters of the current builder, sent nowhere. -/
  | params
  /-- Another builder, which becomes the current one. -/
  | create (table tableAlias options : Value) (sink : Option Sink)
  /-- The builder at a position becomes the current one. -/
  | use (index : Nat)
  /-- A value is put in place of the action of the current builder. -/
  | replaceAction (value : Value)
  /-- The log of a name is read. -/
  | readLog (name : String)
  /-- The log of a name is emptied. -/
  | resetLog (name : String)

/-- What a step finds. -/
inductive Finding where
  /-- Nothing beyond the state. -/
  | nothing
  /-- A statement. -/
  | statement (s : Statement)
  /-- The text of a statement. -/
  | sql (text : String)
  /-- The parameters of a statement. -/
  | params (values : List Value)
  /-- A log. -/
  | log (log : BuildLog)

/-- What a step answers. -/
structure Reply where
  /-- What the step finds, or why it is refused. -/
  finding : Except Refusal Finding
  /-- The events in order. -/
  events : List Event := []

namespace Workspace

/-- A workspace with one builder. -/
def single (b : Builder) : Workspace :=
  { builders := [b], current := 0 }

/-- The current builder. -/
def builder? (w : Workspace) : Option Builder :=
  w.builders[w.current]?

/-- The workspace with the current builder changed. -/
def withBuilder (w : Workspace) (b : Builder) : Workspace :=
  { w with builders := w.builders.set w.current b }

/-- The log of a name. -/
def log (w : Workspace) (name : String) : BuildLog :=
  (w.logs.lookup name).getD .empty

/-- The workspace with the log of a name replaced. -/
def withLog (w : Workspace) (name : String) (log : BuildLog) : Workspace :=
  { w with logs := (name, log) :: w.logs.filter fun entry => entry.1 != name }

/-- The workspace after a statement was sent to its log. -/
def deliver (w : Workspace) : Option Delivery → Workspace
  | none => w
  | some d => w.withLog d.log ((w.log d.log).record d.state d.statement)

/-- A step of the current builder. -/
def stepOn (w : Workspace) (b : Builder) : Step → Workspace × Reply
  | .call c =>
    let (b, refusal?) := b.call c
    match refusal? with
    | none => (w.withBuilder b, { finding := .ok .nothing })
    | some refusal =>
      (w.withBuilder b, { finding := .error refusal, events := refusal.events })
  | .build sink =>
    let build := b.build sink
    (w.deliver build.delivery?,
      { finding := build.result.map .statement, events := build.events })
  | .sql => (w, { finding := b.preview.map fun s => .sql s.sql })
  | .params => (w, { finding := b.preview.map fun s => .params s.params })
  | .create table tableAlias options sink =>
    match Builder.create table tableAlias options sink with
    | .ok b =>
      ({ w with builders := w.builders ++ [b], current := w.builders.length },
        { finding := .ok .nothing })
    | .error refusal => (w, { finding := .error refusal, events := refusal.events })
  | .use index =>
    (if index < w.builders.length then { w with current := index } else w,
      { finding := .ok .nothing })
  | .replaceAction value =>
    (w.withBuilder { b with draft := { b.draft with action := .foreign value } },
      { finding := .ok .nothing })
  | .readLog name => (w, { finding := .ok (.log (w.log name)) })
  | .resetLog name => (w.withLog name .empty, { finding := .ok .nothing })

/-- A step, which does nothing when there is no current builder. -/
def step (w : Workspace) (s : Step) : Workspace × Reply :=
  match w.builder? with
  | some b => w.stepOn b s
  | none => (w, { finding := .ok .nothing })

end Workspace

end BoundSql
