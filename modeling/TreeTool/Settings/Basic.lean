import TreeTool.Files.Tree
import TreeTool.Json.Value
import TreeTool.Text.Blank
import TreeTool.Tool.Handle

/-!
# Settings

Settings locate the tool and fix its default limit, encoding and standard error mode. They come
from a document or are the defaults; two environment variables override two of them.
-/

namespace TreeTool

structure Settings where
  binary : String := "vata"
  timeoutMillis : Option Nat := none
  encoding : Encoding := .explicit
  stderr : StderrMode := .capture
  deriving DecidableEq, Repr, Inhabited

namespace Settings

/-- A limit of zero is no limit. -/
def timeout (s : Settings) : Option Duration :=
  (s.timeoutMillis.filter (0 < ·)).map Duration.ofMillis

def executor (s : Settings) : Executor := ⟨s.binary, s.timeout, s.stderr⟩

def handle (s : Settings) : Handle := { executor := s.executor, encoding := s.encoding }

def json (s : Settings) : Json.Value :=
  .object [("binary", .text s.binary),
    ("timeout_ms", .optional (fun n => .integer n) s.timeoutMillis),
    ("encoding", .text (Document.Named.name s.encoding)),
    ("stderr", .text (Document.Named.name s.stderr))]

def fieldNames : List String := ["binary", "timeout_ms", "encoding", "stderr"]

def binaryVariable : String := "VATA_BIN"

def timeoutVariable : String := "VATA_TIMEOUT_MS"

/-- A variable that is set to the empty text counts as not set. -/
def override? (lookup : String → Option String) (name : String) : Option String :=
  (lookup name).filter fun v => !v.isEmpty

def millisOf (raw : String) : Except Fault Nat :=
  match Number.readWord (Text.trim raw.toList) with
  | .ok n => .ok n
  | .error _ =>
    .error (.settings
      (timeoutVariable ++ " must be a number of milliseconds, got '" ++ raw ++ "'"))

def withOverrides (s : Settings) (lookup : String → Option String) : Except Fault Settings :=
  let s := { s with binary := (override? lookup binaryVariable).getD s.binary }
  match override? lookup timeoutVariable with
  | none => .ok s
  | some raw => (millisOf raw).map fun n => { s with timeoutMillis := some n }

end Settings

end TreeTool
