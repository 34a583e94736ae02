import TreeTool.Text.Utf8

/-!
# What a started tool does

A program cannot be started, or it comes to an end after some time with what it wrote until then.
A run with a limit sees the end only if it comes within the limit.
-/

namespace TreeTool

open Text (Bytes)

/-- A length of time, in nanoseconds. -/
structure Duration where
  nanos : Nat
  deriving DecidableEq, Repr, Inhabited

namespace Duration

def ofMillis (n : Nat) : Duration := ⟨n * 1000000⟩

def wholeMillis (d : Duration) : Nat := d.nanos / 1000000

def isZero (d : Duration) : Bool := d.nanos == 0

end Duration

inductive Ending
  | exited (status : Nat)
  | killed (signal : Nat)
  deriving DecidableEq, Repr

namespace Ending

def status? : Ending → Option Int
  | exited n => some n
  | killed _ => none

end Ending

inductive Behaviour
  | notStarted (reason : String)
  | ends (elapsed : Duration) (stdout stderr : Bytes) (ending : Ending)
  deriving DecidableEq, Repr

inductive Observation
  | notStarted (reason : String)
  | ended (elapsed : Duration) (stdout stderr : Bytes) (ending : Ending)
  | expired (limit : Duration)
  deriving DecidableEq, Repr

namespace Behaviour

def observed (limit : Option Duration) : Behaviour → Observation
  | notStarted reason => .notStarted reason
  | ends elapsed out err ending =>
    match limit with
    | none => .ended elapsed out err ending
    | some l => if elapsed.nanos ≤ l.nanos then .ended elapsed out err ending else .expired l

end Behaviour

end TreeTool
