import TreeTool.Json.Value
import TreeTool.Text.Utf8

/-!
# Outcomes

An outcome is what a run of the tool leaves behind: its standard output and standard error as
text, and its exit status. A missing stream was not captured, which differs from an empty one; a
missing status means that the tool did not start or was killed. Two renderings put the streams
one after the other, standard output first: bare, or with a newline after each stream.
-/

namespace TreeTool

structure Outcome where
  stdout : Option String := none
  stderr : Option String := none
  exitStatus : Option Int := none
  deriving DecidableEq, Repr, Inhabited

namespace Outcome

def success (o : Outcome) : Bool := o.exitStatus == some 0

def notStarted (message : String) : Outcome := { stderr := some message }

def bare (stream : Option String) : List String := stream.toList

def lined (stream : Option String) : List String :=
  match stream with
  | none => []
  | some s => [s, "\n"]

/-! The parts that each way of writing hands to its target, in order. -/

def printed (o : Outcome) : List String := lined o.stdout ++ lined o.stderr

def written (o : Outcome) : List String := bare o.stdout ++ bare o.stderr

def writtenStdout (o : Outcome) : List String := bare o.stdout

def writtenStderr (o : Outcome) : List String := bare o.stderr

def json (o : Outcome) : Json.Value :=
  .object [("stdout", .optional .text o.stdout), ("stderr", .optional .text o.stderr),
    ("exit_status", .optional .integer o.exitStatus)]

end Outcome

end TreeTool
