import TreeTool.Kernel.Course
import TreeTool.Program.Image
import TreeTool.Tool.Machine

/-!
# The work of a utility

A utility reads and writes descriptors and files, and ends with a status. What it prints is kept
and written when it ends. A failure to write is reported and changes the status.
-/

namespace TreeTool.Program

open Files (Entry Place Problem Tree)
open Kernel (Access Activity Course World)

/-- A running utility: its process, its image and environment, what it has printed so far, and the
status with which it ends. -/
structure Run where
  me : Nat
  image : Image
  environment : Kernel.Variables
  output : String := ""
  status : Nat := 0

abbrev Work := StateT Run Activity

namespace Work

def arguments : Work (List String) := return (← get).image.arguments

def look {α : Type} (f : World → Nat → α) : Work α := do
  let me := (← get).me
  Activity.look fun w => f w me

def act {α : Type} (f : World → Nat → World × α) : Work α := do
  let me := (← get).me
  Activity.act fun w => f w me

def complain (message : String) : Work Unit := do
  let r ← get
  discard (Activity.write r.me 2 (r.image.name ++ ": " ++ message ++ "\n") : Activity _)

def warn (text : String) : Work Unit := do
  discard (Activity.write (← get).me 2 text : Activity _)

def setStatus (n : Nat) : Work Unit := modify fun r => { r with status := n }

def put (text : String) : Work Unit := modify fun r => { r with output := r.output ++ text }

def putLine (text : String) : Work Unit := put (text ++ "\n")

def writeFailure : Nat := 1

def flush : Work Unit := do
  let r ← get
  if !r.output.isEmpty then
    set { r with output := "" }
    match ← (Activity.write r.me 1 r.output : Activity _) with
    | none => return
    | some p => do
      complain ("write error: " ++ p.words)
      setStatus writeFailure

def exit {α : Type} (status : Nat) : Work α := do
  setStatus status
  flush
  let r ← get
  (Activity.exit (if r.status = writeFailure then writeFailure else status) : Activity α)

def fail {α : Type} (message : String) (status : Nat := 1) : Work α := do
  complain message
  exit status

/-! ## Files -/

def raw (path : String) : String := Text.Raw.toText path

def find (path : String) : Work (Except Problem (Place × Entry)) :=
  look fun w me => w.files.find (w.here me) (raw path)

def findItself (path : String) : Work (Except Problem (Place × Entry)) :=
  look fun w me => w.files.findItself (w.here me) (raw path)

def changeFiles (f : Tree → Tree) : Work Unit :=
  act fun w _ => ({ w with files := f w.files }, ())

def openPath (a : Access) (path : String) : Work (Except Problem Nat) :=
  act fun w me =>
    match w.openPath me a path with
    | .error p => (w, .error p)
    | .ok (w, o) =>
      let (w, d) := w.attach me o
      (w, .ok d)

def close (d : Nat) : Work Unit := act fun w me => (w.close me d, ())

def readAll (d : Nat) : Work (Except Problem String) := do
  (Activity.readAll (← get).me d : Activity _)

def writeTo (d : Nat) (text : String) : Work (Option Problem) := do
  (Activity.write (← get).me d text : Activity _)

def content (path : String) : Work (Except Problem String) := do
  if path = "-" then readAll 0
  else
    match ← openPath .read path with
    | .error p => return .error p
    | .ok d => do
      let text ← readAll d
      close d
      return text

def unreadable (path : String) (e : Problem) : String := path ++ ": " ++ e.words

def contents (paths : List String) (message : String → Problem → String := unreadable) :
    Work (List String) := do
  let paths := if paths.isEmpty then ["-"] else paths
  let texts ← paths.mapM fun p => do
    match ← content p with
    | .ok t => return [t]
    | .error e => do
      complain (message p e)
      setStatus 1
      return []
  return texts.flatten

/-! ## Lines -/

def linesFrom (line : List Char) : List Char → List String
  | [] => if line.isEmpty then [] else [String.ofList line.reverse]
  | c :: cs =>
    if c = '\n' then String.ofList ('\n' :: line).reverse :: linesFrom [] cs
    else linesFrom (c :: line) cs

def lines (text : String) : List String := linesFrom [] text.toList

def withoutEnd (line : String) : String :=
  if line.toList.getLast? = some '\n' then String.ofList line.toList.dropLast else line

def plainLines (text : String) : List String := (lines text).map withoutEnd

def putLines (ls : List String) : Work Unit := put (String.join (ls.map (· ++ "\n")))

/-! ## Carrying out -/

def course (work : Work Unit) (image : Image) (environment : Kernel.Variables) (me : Nat) : Course :=
  let whole : Work Unit := do
    work
    flush
  whole.run { me, image, environment } fun (_, r) => .ended r.status

end Work

end TreeTool.Program
