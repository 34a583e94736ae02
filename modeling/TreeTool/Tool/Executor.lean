import TreeTool.Command.Arguments
import TreeTool.Document.Names
import TreeTool.Journal.Event
import TreeTool.Number.Digits
import TreeTool.Outcome.Basic
import TreeTool.Tool.Behaviour

/-!
# Running the tool

An executor knows the program, a default time limit and what to do with the tool's standard error.
A `Call` is one run it is asked for, and `Call.run` says what comes of the call for each behaviour
of the tool: an outcome or a report, and the three journal events of the run.
-/

namespace TreeTool

open Text (Bytes)
open Journal (Event Fields FieldValue)

inductive StderrMode
  | capture | inherit
  deriving DecidableEq, Repr, Inhabited

instance : Document.Named StderrMode where
  table := [("capture", .capture), ("inherit", .inherit)]
  name
    | .capture => "capture"
    | .inherit => "inherit"

structure Executor where
  program : String := "vata"
  timeout : Option Duration := none
  stderr : StderrMode := .capture
  deriving DecidableEq, Repr, Inhabited

/-- A run that is asked for. The label names the operation in journal and reports. -/
structure Call where
  executor : Executor
  label : Option String
  arguments : List String
  timeout : Option Duration := none
  deriving DecidableEq, Repr

namespace Executor

def call (x : Executor) (arguments : List String) (timeout : Option Duration := none) : Call :=
  ⟨x, none, arguments, timeout⟩

def callOf (x : Executor) (c : Command) (timeout : Option Duration := none) : Call :=
  ⟨x, some (Coded.token c.operation), c.arguments, timeout⟩

end Executor

/-- What comes of a call: the outcome for the caller, the journal events in order, and what the
tool wrote to the caller's own standard error. -/
structure Run where
  outcome : Except Report Outcome
  events : List Event
  passedOn : Bytes := []

namespace Call

/-- The time limit in force: the call's own if it has one, else the executor's; zero is none. -/
def limit (c : Call) : Option Duration :=
  (c.timeout.or c.executor.timeout).filter fun d => !d.isZero

def operation (c : Call) : String := c.label.getD "-"

def component : String := "vata_engine::executor"

def activity : String := "execute"

def identity (c : Call) (id : RequestId) : Fields :=
  [("request_id", .text id.text), ("operation", .text c.operation)]

def started (c : Call) (id : RequestId) : Event :=
  Event.started component activity
    (c.identity id ++ [("program", .text c.executor.program),
      ("argc", .number c.arguments.length)])

def announced (c : Call) (id : RequestId) : Event :=
  Event.remark component "vata argument vector"
    [("request_id", .text id.text), ("args", .text (Text.quotedList c.arguments))]

def reported (l : Duration) : Fault := .timeout (min l.wholeMillis Number.greatestWord)

/-- The outcome of a finished tool; an inherited standard error is not part of it. -/
def collected (c : Call) (out err : Bytes) (ending : Ending) : Outcome where
  stdout := some (Text.Utf8.decode out)
  stderr :=
    match c.executor.stderr with
    | .capture => some (Text.Utf8.decode err)
    | .inherit => none
  exitStatus := ending.status?

def closed (c : Call) (id : RequestId) : Observation → Except Report Outcome × Event
  | .notStarted reason =>
    let fault := Fault.spawn c.executor.program reason
    (.ok (.notStarted fault.text),
      Event.failed component activity fault.report 0 (c.identity id))
  | .ended elapsed out err ending =>
    (.ok (c.collected out err ending),
      Event.ended component activity elapsed.wholeMillis
        (c.identity id ++ [("exit_status", .text (Journal.statusText ending.status?))]))
  | .expired l =>
    (.error ((reported l).report.withOperation c.operation),
      Event.failed component activity (reported l).report l.wholeMillis (c.identity id))

def passedOn (c : Call) : Behaviour → Bytes
  | .notStarted _ => []
  | .ends _ _ err _ =>
    match c.executor.stderr with
    | .capture => []
    | .inherit => err

def run (c : Call) (id : RequestId) (b : Behaviour) : Run where
  outcome := (c.closed id (b.observed c.limit)).1
  events := [c.started id, c.announced id, (c.closed id (b.observed c.limit)).2]
  passedOn := c.passedOn b

def unawaitedReport (c : Call) (reason : String) : Report :=
  (Report.ofTransfer activity reason).withOperation c.operation

/-- A run whose tool was started and then could not be waited for; `err` is what it has written to
its standard error. -/
def unawaited (c : Call) (id : RequestId) (elapsed : Duration) (err : Bytes) (reason : String) :
    Run where
  outcome := .error (c.unawaitedReport reason)
  events := [c.started id, c.announced id,
    Event.failed component activity (c.unawaitedReport reason) elapsed.wholeMillis
      (c.identity id)]
  passedOn :=
    match c.executor.stderr with
    | .capture => []
    | .inherit => err

/-- A blocking call from inside a running event loop is refused before anything happens. -/
def nested : Except Report Outcome :=
  .error (Fault.internal "blocking execute called inside a tokio runtime; use run").report

/-- A blocking call that gets no event loop of its own comes to nothing either. -/
def unhosted (reason : String) : Except Report Outcome :=
  .error (Report.ofTransfer "runtime_build" reason)

end Call

end TreeTool
