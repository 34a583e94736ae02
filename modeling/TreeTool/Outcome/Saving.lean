import TreeTool.Fault
import TreeTool.Files.Tree
import TreeTool.Outcome.Basic

/-!
# Saving an outcome to a file

A save creates the file or replaces what it held. It fails when the path cannot be opened for
writing, and then no file changes. `saveOnto` is told what the opened file refuses, and leaves there
what it has kept; `save` is for files that take everything.
-/

namespace TreeTool.Outcome

open Files (Tree Place)

inductive Part
  | both | stdout | stderr
  deriving DecidableEq, Repr

def Part.parts (o : Outcome) : Part → List String
  | both => o.written
  | stdout => o.writtenStdout
  | stderr => o.writtenStderr

def rendering (o : Outcome) (p : Part) : Text.Bytes :=
  (p.parts o).flatMap fun s => Text.Utf8.encode s.toList

/-- An opened file or device has kept a number of bytes and takes no more, for a reason. -/
structure Shortfall where
  kept : Nat
  reason : String
  deriving DecidableEq, Repr

/-- Opens a path and writes to it. The files are those that are left; a failure is named by its
words. -/
def store (t : Tree) (here : Place) (path : String) (content : Text.Bytes)
    (short? : Option Shortfall) : Tree × Option String :=
  let short? := short?.filter (·.kept < content.length)
  match t.write here path (content.take ((short?.map (·.kept)).getD content.length)) with
  | .error problem => (t, some problem.text)
  | .ok t' => (t', short?.map (·.reason))

def saveOnto (o : Outcome) (p : Part) (short? : Option Shortfall) (t : Tree) (here : Place)
    (path : String) : Tree × Option Report :=
  let (t', failure) := store t here path (o.rendering p) short?
  (t', failure.map (.ofTransfer "write_result"))

def save (o : Outcome) (p : Part) (t : Tree) (here : Place) (path : String) :
    Except Report Tree :=
  match t.write here path (o.rendering p) with
  | .ok t' => .ok t'
  | .error problem => .error (.ofTransfer "write_result" problem.text)

end TreeTool.Outcome
