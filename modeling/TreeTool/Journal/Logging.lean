import TreeTool.Journal.Filter
import TreeTool.Json.Value

/-!
# Where the journal goes

A process has room for one subscriber, and the first one installed stays. A profile is applied at
most once; a capture is asked for separately and shared by all who ask. The capture records events
only if its subscriber was the first. A profile whose filter is torn ends the process.
-/

namespace TreeTool.Journal

inductive Profile
  | development | production | test
  deriving DecidableEq, Repr

inductive Subscriber
  | lines (f : Filter)
  | records (f : Filter)
  | silent
  | capture
  deriving DecidableEq, Repr

inductive Entry
  | line (level : Level) (target : String)
  | record (e : Event)
  deriving DecidableEq, Repr

/-- What an event written as a line leaves for the lines below it: a newline in a field ends the line
early. -/
def Event.overflow (e : Event) : String :=
  let line := " ".intercalate (e.fields.map fun (n, v) => n ++ "=" ++ v.rendered) ++ "\n"
  String.ofList ((line.toList.dropWhile (· ≠ '\n')).drop 1)

/-- The state of logging in a process. `overflow` is what is written besides the entries. -/
structure Logging where
  settled : Bool := false
  stopped : Bool := false
  subscriber : Option Subscriber := none
  capturing : Bool := false
  captured : List Captured := []
  written : List Entry := []
  overflow : String := ""
  deriving DecidableEq, Repr

def components : List String := ["vata_core", "vata_engine", "vata_cli"]

def Profile.filter (detail : Nat) : Filter :=
  components.map fun c => { target := some c, detail := detail }

/-- The filter from the environment if there is a well-formed one, else the profile's own. A torn
filter is neither. -/
def filterOr (detail : Nat) (filterText? : Option String) : Option Filter :=
  match filterText?.map Filter.read with
  | some (.ok f) => some f
  | some (.error .torn) => none
  | some (.error .malformed) | none => some (Profile.filter detail)

namespace Profile

def subscriber (filterText? : Option String) : Profile → Option Subscriber
  | development => (filterOr 4 filterText?).map .lines
  | production => (filterOr 3 filterText?).map .records
  | test => some .silent

end Profile

namespace Logging

/-- Takes effect only where no subscriber is installed yet. -/
def install (l : Logging) (s : Subscriber) : Logging :=
  { l with subscriber := l.subscriber.or (some s) }

def apply (l : Logging) (filterText? : Option String) (p : Profile) : Logging :=
  if l.settled then l
  else match p.subscriber filterText? with
    | some s => { l.install s with settled := true }
    | none => { l with stopped := true }

def startCapture (l : Logging) : Logging :=
  if l.capturing then l else { l.install .capture with capturing := true }

def log (l : Logging) (e : Event) : Logging :=
  match l.subscriber with
  | none => l
  | some .silent => l
  | some .capture => { l with captured := l.captured ++ [.ofEvent e] }
  | some (.lines f) =>
    if f.passes e then
      { l with written := l.written ++ [.line e.level e.target], overflow := l.overflow ++ e.overflow }
    else l
  | some (.records f) =>
    if f.passes e then { l with written := l.written ++ [.record e] } else l

def logAll (l : Logging) (es : List Event) : Logging := es.foldl log l

end Logging

def FieldValue.json : FieldValue → Json.Value
  | text s => .text s
  | number n => .integer n

namespace Event

def json (e : Event) : Json.Value :=
  .object [("level", .text e.level.name), ("target", .text e.target),
    ("fields", .object (e.fields.map fun (n, v) => (n, v.json)))]

end Event

end TreeTool.Journal
