import TreeTool.Kernel.Schedule
import TreeTool.Tool.Executor

/-!
# The machine a tool runs on

A machine has files, a directory to work in and an environment, and processes may be going on that
earlier programs have left behind. A `Starter` says how a program behaves on a machine and what it
leaves there; it is told what becomes of standard error, and the time limit, beyond which the
program is not waited for.
-/

namespace TreeTool

open Text (Bytes)

/-- What a variable is set to: a text, or bytes that are none. Who asks for the text of a variable
does not learn that the latter is set at all. -/
inductive Environment.Value
  | text (s : String)
  | bytes (bs : Bytes) (h : Text.Utf8.strict bs = none)
  deriving DecidableEq, Repr

namespace Environment.Value

instance : Coe String Value := ⟨text⟩

def ofBytes (bs : Bytes) : Value :=
  match h : Text.Utf8.strict bs with
  | some cs => text (String.ofList cs)
  | none => bytes bs h

def text? : Value → Option String
  | text s => some s
  | bytes _ _ => none

def raw : Value → Bytes
  | text s => Text.Utf8.encode s.toList
  | bytes bs _ => bs

/-- The system takes no value with a NUL in it. -/
def isSettable : Value → Bool
  | text s => !s.toList.contains '\x00'
  | bytes bs _ => !bs.contains 0

end Environment.Value

abbrev Environment := List (String × Environment.Value)

namespace Environment

def isSet (e : Environment) (name : String) : Bool := (e.lookup name).isSome

def get? (e : Environment) (name : String) : Option String := (e.lookup name).bind Value.text?

def put (e : Environment) (name : String) (v : Value) : Environment :=
  (name, v) :: e.filter (·.1 ≠ name)

def default (e : Environment) (name value : String) : Environment :=
  match e.get? name with
  | some _ => e
  | none => e.put name value

def isSettable (e : Environment) : Bool := e.all (·.2.isSettable)

def ofRaw (vs : Kernel.Variables) : Environment :=
  vs.map fun (x, v) => (Text.Raw.toText x, .ofBytes (Text.Raw.toBytes v))

def raw (e : Environment) : Kernel.Variables :=
  e.map fun (x, v) => (Text.Raw.ofText x, Text.Raw.ofBytes v.raw)

end Environment

structure Machine where
  files : Files.Tree
  here : Files.Place
  environment : Environment
  leftover : Option Kernel.Schedule := none
  deriving Inhabited

abbrev Starter :=
  Machine → StderrMode → (limit : Option Duration) → (program : String) →
    (arguments : List String) → Behaviour × Machine

namespace Call

def on (c : Call) (start : Starter) (id : RequestId) (m : Machine) : Run × Machine :=
  let (b, m') := start m c.executor.stderr c.limit c.executor.program c.arguments
  (c.run id b, m')

end Call

end TreeTool
