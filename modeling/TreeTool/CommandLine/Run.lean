import TreeTool.CommandLine.Reader
import TreeTool.EnvironmentFile
import TreeTool.Journal.Logging
import TreeTool.Outcome.Saving
import TreeTool.Settings.Toml

/-!
# Running a command line

A command line is read, the settings are resolved, the command is built, and then either shown or
run; the outcome of a run is forwarded. Each step happens only if those before it succeeded, so a
fault in the settings wins over one in the command, and neither starts the tool.

Standard streams and files can refuse what is written to them. A line that is printed has to be
taken, or else the process ends; where an outcome is forwarded a refusal is a fault like any other.
-/

namespace TreeTool.CommandLine

open Text (Bytes)

namespace Invocation

def flags (i : Invocation) : Flags where
  showTime := i.on .time
  verbose := i.on .verbose
  quiet := i.on .noOutput
  prune :=
    if i.on .pruneUnreachable then .unreachable
    else if i.on .pruneUseless then .useless
    else .nothing

/-- The settings of file and environment, with the options of the command line on top. -/
def settings (i : Invocation) (m : Machine) : Except Fault Settings :=
  match Settings.load m.files m.here m.environment.get? (i.value? .config) with
  | .error f => .error f
  | .ok s =>
    let millis := (i.value? .timeoutMs).bind fun v => (Number.readWord v.toList).toOption
    .ok { s with binary := (i.value? .vata).getD s.binary
                 timeoutMillis := millis.or s.timeoutMillis }

def encoding (i : Invocation) (s : Settings) : Encoding :=
  ((i.value? .encoding).bind fun v => (Encoding.read v).toOption).getD s.encoding

def direction? (i : Invocation) : Option Direction :=
  (i.value? .direction).bind fun v => (Direction.read v).toOption

def algorithm? (i : Invocation) : Option Algorithm :=
  (i.value? .algorithm).bind fun v => (Algorithm.read v).toOption

def order? (i : Invocation) : Option Order :=
  (i.value? .order).bind fun v => (Order.read v).toOption

def simulationTime? (i : Invocation) : Option Bool :=
  (i.value? .simulationTime).bind boolValue?

def inclusion? (i : Invocation) : Option InclusionOptions :=
  if i.direction?.isSome || i.algorithm?.isSome || i.on .simulation || i.order?.isSome ||
      i.on .cacheOptimization || i.on .recursion || i.simulationTime?.isSome then
    let d : InclusionOptions := {}
    some {
      direction := i.direction?.getD d.direction
      algorithm := i.algorithm?.getD d.algorithm
      simulation := i.on .simulation
      order := i.order?.getD d.order
      cacheOptimization := i.on .cacheOptimization
      recursion := i.on .recursion
      simulationTime := i.simulationTime?.getD d.simulationTime }
  else none

def typed? (i : Invocation) : Option Bundle :=
  match i.operation with
  | .simulation | .reduction => i.direction?.map .direction
  | .equivalence => i.order?.map .equivalence
  | .inclusion => i.inclusion?.map .inclusion
  | _ => none

def bundle (i : Invocation) (e : Encoding) : Except Fault (Option Bundle) :=
  match i.value? .options with
  | some text => (Bundle.read i.operation e text).map some
  | none => .ok i.typed?

def command (i : Invocation) (e : Encoding) : Except Fault Command :=
  match i.bundle e with
  | .error f => .error f
  | .ok b => (Command.make e i.operation i.operands b).map (·.withFlags i.flags)

def shown (i : Invocation) (vector : List String) : String :=
  if i.on .json then (Json.Value.strings vector).line else " ".intercalate vector

end Invocation

inductive Plan
  | refused (f : Fault)
  | shown (line : String)
  | run (s : Settings) (c : Command)

/-- The settings come first, then the command; only a plan to run starts the tool. -/
def Invocation.plan (i : Invocation) (m : Machine) : Plan :=
  match i.settings m with
  | .error f => .refused f
  | .ok s =>
    match i.command (i.encoding s) with
    | .error f => .refused f
    | .ok c =>
      if i.on .dryRun then .shown (i.shown (s.binary :: c.arguments)) else .run s c

/-! ## Standard streams -/

inductive Channel
  | output | errors
  deriving DecidableEq, Repr

/-- What is refused of what is written: a text by a standard stream, in words, or the rest of some
bytes by a file that has been opened. By default everything is taken. -/
structure Outlets where
  stream? : Channel → String → Option String := fun _ _ => none
  file? : Bytes → Option Outcome.Shortfall := fun _ => none

namespace Outlets

/-- Nothing is written of an empty text, so it cannot be refused. -/
def refusal? (out : Outlets) (c : Channel) (text : String) : Option String :=
  if text.isEmpty then none else out.stream? c text

/-- What is written of a text if nothing depends on it. -/
def taken (out : Outlets) (c : Channel) (text : String) : String :=
  if (out.refusal? c text).isSome then "" else text

end Outlets

/-! ## Answers -/

def timeoutStatus : Int := 124

def noStatus : Int := 1

def faultStatus : Int := 2

/-- The status of a process that ends at a defect of its environment, or at a line that standard
output or standard error does not take. -/
def stoppedStatus : Int := 101

/-- What a command line leaves behind: an exit status, output, files and journal entries. Of a text
that a stream has refused nothing counts as output. -/
structure Answer where
  exit : Int
  stdout : String := ""
  stderr : Bytes := []
  files : Files.Tree
  journal : List Journal.Entry := []

def bytes (s : String) : Bytes := Text.Utf8.encode s.toList

def errorLine (r : Report) : String := "Error: " ++ r.text ++ "\n"

/-- What ends a command line: a fault to report, or the end of the process. -/
inductive Halt
  | reported (r : Report)
  | stopped

structure Forwarded where
  stdout : String := ""
  stderr : String := ""
  files : Files.Tree

namespace Forwarded

def add (f : Forwarded) (text : String) : Channel → Forwarded
  | .output => { f with stdout := f.stdout ++ text }
  | .errors => { f with stderr := f.stderr ++ text }

/-- Writes a text to a stream; `halt` is what a refusal leads to. -/
def put (out : Outlets) (f : Forwarded) (c : Channel) (text : String) (halt : String → Halt) :
    Forwarded × Option Halt :=
  match out.refusal? c text with
  | some reason => (f, some (halt reason))
  | none => (f.add text c, none)

def answer (f : Forwarded) (exit : Int) : Answer where
  exit := exit
  stdout := f.stdout
  stderr := bytes f.stderr
  files := f.files

def print (out : Outlets) (f : Forwarded) (c : Channel) (line : String) (status : Int) : Answer :=
  match f.put out c line fun _ => .stopped with
  | (f, none) => f.answer status
  | (f, some _) => f.answer stoppedStatus

def report (out : Outlets) (f : Forwarded) (r : Report) (status : Int) : Answer :=
  f.print out .errors (errorLine r) status

end Forwarded

namespace Invocation

def activity (i : Invocation) : String := if i.on .json then "write_json" else "write_result"

def delivered (i : Invocation) (out : Outlets) (m : Machine) (text : String)
    (save : String → Files.Tree × Option Report) : Forwarded × Option Halt :=
  let f : Forwarded := { files := m.files }
  let unsaved := fun reason => Halt.reported (.ofTransfer i.activity reason)
  match i.value? .output with
  | none =>
    f.put out .output text fun reason =>
      if i.on .json then .stopped else .reported (.ofTransfer "forward_stdout" reason)
  | some path =>
    match m.files.stream? m.here path with
    | some 1 => f.put out .output text unsaved
    | some 2 => f.put out .errors text unsaved
    | _ =>
      let (files, failure) := save path
      ({ files }, failure.map .reported)

/-- Forwards an outcome; what has been written by then comes with what has ended it. -/
def forward (i : Invocation) (out : Outlets) (m : Machine) (o : Outcome) :
    Forwarded × Option Halt :=
  if i.on .json then
    let document := o.json.page ++ "\n"
    i.delivered out m document fun path =>
      let (files, failure) :=
        Outcome.store m.files m.here path (bytes document) (out.file? (bytes document))
      (files, failure.map (.ofTransfer i.activity))
  else
    match i.delivered out m (String.join o.writtenStdout) (o.saveOnto .stdout
        (out.file? (o.rendering .stdout)) m.files m.here) with
    | (f, none) =>
      f.put out .errors (String.join o.writtenStderr) fun reason =>
        .reported (.ofTransfer "forward_stderr" reason)
    | halted => halted

def concluded (i : Invocation) (out : Outlets) (m : Machine) (o : Outcome) : Answer :=
  match i.forward out m o with
  | (f, none) => f.answer (o.exitStatus.getD noStatus)
  | (f, some (.reported r)) => f.report out r faultStatus
  | (f, some .stopped) => f.answer stoppedStatus

def answered (i : Invocation) (out : Outlets) (m : Machine) : Except Report Outcome → Answer
  | .ok o => i.concluded out m o
  | .error r =>
    Forwarded.report out { files := m.files } r
      (if r.kind = .timeout then timeoutStatus else faultStatus)

/-- Runs the command. On standard error the overflow of the journal comes first, then what the tool
passed on. -/
def executed (i : Invocation) (out : Outlets) (start : Starter) (id : RequestId)
    (log : Journal.Logging) (m : Machine) (s : Settings) (c : Command) : Answer :=
  let (r, m') := (s.executor.callOf c).on start id m
  let a := i.answered out m' r.outcome
  let log := log.logAll r.events
  { a with
    stderr := bytes (out.taken .errors log.overflow) ++ r.passedOn ++ a.stderr
    journal := log.written }

def perform (i : Invocation) (out : Outlets) (start : Starter) (id : RequestId)
    (log : Journal.Logging) (m : Machine) : Answer :=
  let f : Forwarded := { files := m.files }
  match i.plan m with
  | .refused x => f.report out x.report faultStatus
  | .shown line => f.print out .output (line ++ "\n") 0
  | .run s c => i.executed out start id log m s c

end Invocation

def journalVariable : String := "RUST_LOG"

/-- The journal that an environment asks for. A variable that cannot be set ends the process. -/
def logging (e : Environment) : Journal.Logging :=
  if !e.isSettable then { stopped := true }
  else if e.isSet journalVariable then
    Journal.Logging.apply {} (e.get? journalVariable) .development
  else {}

/-- The answer to a misuse; its styles are for a terminal only. -/
def misused (out : Outlets) (files : Files.Tree) (u : Misuse) : Answer where
  exit := faultStatus
  stderr := Text.Terminal.stripped (bytes (out.taken .errors u.page))
  files := files

/-- Runs a command line on a machine, after its environment file has been read and a journal, if
one is asked for, has been started. -/
def runOnto (out : Outlets) (start : Starter) (id : RequestId) (m : Machine)
    (args : List String) : Answer :=
  let m := { m with environment := EnvironmentFile.load m }
  let log := logging m.environment
  if log.stopped then { exit := stoppedStatus, files := m.files }
  else match read args with
    | .error u => misused out m.files u
    | .ok .help => { exit := 0, stdout := out.taken .output Misuse.overview.page, files := m.files }
    | .ok (.invocation i) => i.perform out start id log m

/-- Runs a command line whose standard streams and files take everything. -/
def run (start : Starter) (id : RequestId) (m : Machine) (args : List String) : Answer :=
  runOnto {} start id m args

end TreeTool.CommandLine
