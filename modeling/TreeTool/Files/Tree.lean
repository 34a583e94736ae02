import TreeTool.Text.Utf8

/-!
# A tree of files

A tree maps absolute paths, as lists of names, to what stands there. Relative paths start from a
given directory and are resolved name by name, so a path through something that is not a
directory is refused even if a later `..` leaves it again. A link stands for the path that it
holds, seen from the directory that it is in.
-/

namespace TreeTool.Files

open Text (Bytes)

inductive Problem
  | missing | noDevice | tooManyArguments | badFormat | badDescriptor | denied | exists
  | notDirectory | isDirectory | invalid | noSpace | brokenPipe | nameTooLong | notEmpty | loop
  | nulInName | nulInData | notText
  deriving DecidableEq, Repr

namespace Problem

def words : Problem → String
  | missing => "No such file or directory"
  | noDevice => "No such device or address"
  | tooManyArguments => "Argument list too long"
  | badFormat => "Exec format error"
  | badDescriptor => "Bad file descriptor"
  | denied => "Permission denied"
  | «exists» => "File exists"
  | notDirectory => "Not a directory"
  | isDirectory => "Is a directory"
  | invalid => "Invalid argument"
  | noSpace => "No space left on device"
  | brokenPipe => "Broken pipe"
  | nameTooLong => "File name too long"
  | notEmpty => "Directory not empty"
  | loop => "Too many levels of symbolic links"
  | nulInName => "file name contained an unexpected NUL byte"
  | nulInData => "nul byte found in provided data"
  | notText => "stream did not contain valid UTF-8"

def number? : Problem → Option Nat
  | missing => some 2
  | noDevice => some 6
  | tooManyArguments => some 7
  | badFormat => some 8
  | badDescriptor => some 9
  | denied => some 13
  | «exists» => some 17
  | notDirectory => some 20
  | isDirectory => some 21
  | invalid => some 22
  | noSpace => some 28
  | brokenPipe => some 32
  | nameTooLong => some 36
  | notEmpty => some 39
  | loop => some 40
  | nulInName | nulInData | notText => none

def text (p : Problem) : String :=
  match p.number? with
  | some n => p.words ++ " (os error " ++ toString n ++ ")"
  | none => p.words

end Problem

/-- Devices. A stream is what the process that opens it has open under a number. -/
inductive Device
  | null | zero | full | terminal
  | stream (descriptor : Nat)
  deriving DecidableEq, Repr

namespace Device

/-- Whether a process that has no more than the standard streams can open a device. -/
def isThere : Device → Bool
  | terminal => false
  | stream n => n < 3
  | _ => true

def absence : Device → Problem
  | stream _ => .missing
  | _ => .noDevice

end Device

inductive Entry
  | file (content : Bytes) (executable : Bool)
  | directory
  | link (path : String)
  | utility (name : String)
  | device (d : Device)
  deriving DecidableEq, Repr

/-- What can be read from a utility, of which nothing but its kind matters. -/
def utilityContent : Bytes := [0x7F, 0x45, 0x4C, 0x46, 0xFF]

def Entry.content? : Entry → Option Bytes
  | file content _ => some content
  | utility _ => some utilityContent
  | _ => none

abbrev Place := List String

structure Tree where
  entries : List (Place × Entry) := []
  deriving DecidableEq, Repr, Inhabited

namespace Tree

def get? (t : Tree) (p : Place) : Option Entry :=
  if p = [] then some .directory else t.entries.lookup p

def replace (p : Place) (e : Entry) : List (Place × Entry) → List (Place × Entry)
  | [] => [(p, e)]
  | (q, f) :: es => if q = p then (p, e) :: es else (q, f) :: replace p e es

def put (t : Tree) (p : Place) (e : Entry) : Tree := ⟨replace p e t.entries⟩

def remove (t : Tree) (p : Place) : Tree := ⟨t.entries.filter fun (q, _) => q ≠ p⟩

def makeDirectories (t : Tree) (above : Place) : List String → Tree
  | [] => t
  | n :: ns =>
    let here := above ++ [n]
    let t := match t.get? here with
      | some _ => t
      | none => t.put here .directory
    t.makeDirectories here ns

end Tree

/-- The names on a path, and whether it asks for a directory by a slash at its end. -/
structure Path where
  absolute : Bool
  names : List String
  slashed : Bool
  deriving DecidableEq, Repr

def splitNames : List Char → List Char → List String
  | [], acc => if acc.isEmpty then [] else [String.ofList acc.reverse]
  | c :: cs, acc =>
    if c = '/' then
      if acc.isEmpty then splitNames cs [] else String.ofList acc.reverse :: splitNames cs []
    else splitNames cs (c :: acc)

namespace Path

def ofString (s : String) : Path where
  absolute := s.toList.head? == some '/'
  names := splitNames s.toList []
  slashed := s.toList.getLast? == some '/'

def start (p : Path) (here : Place) : Place := if p.absolute then [] else here

end Path

def nameFits (n : String) : Bool := n.utf8ByteSize ≤ 255

def greatestLinks : Nat := 40

namespace Tree

def walk (t : Tree) (links : Nat) (here : Place) (names : List String) : Except Problem Place :=
  match names with
  | [] => .ok here
  | n :: ns =>
    match t.get? here with
    | some .directory =>
      if n = "." then t.walk links here ns
      else if n = ".." then t.walk links here.dropLast ns
      else if !nameFits n then .error .nameTooLong
      else match t.get? (here ++ [n]) with
        | none => .error .missing
        | some (.link path) =>
          match links with
          | 0 => .error .loop
          | links + 1 =>
            let p := Path.ofString path
            t.walk links (p.start here) (p.names ++ ns)
        | some _ => t.walk links (here ++ [n]) ns
    | some _ => .error .notDirectory
    | none => .error .missing
termination_by (links, names.length)

def checked (s : String) : Except Problem Path :=
  if s.toList.contains '\x00' then .error .nulInName
  else if s.isEmpty then .error .missing
  else if s.utf8ByteSize > 4095 then .error .nameTooLong
  else .ok (Path.ofString s)

def find (t : Tree) (here : Place) (s : String) : Except Problem (Place × Entry) := do
  let p ← checked s
  let place ← t.walk greatestLinks (p.start here) p.names
  match t.get? place with
  | none => .error .missing
  | some e => if p.slashed && e ≠ .directory then .error .notDirectory else .ok (place, e)

def readBytes (t : Tree) (here : Place) (s : String) : Except Problem Bytes := do
  match ← t.find here s with
  | (_, .file content _) => .ok content
  | (_, .directory) => .error .isDirectory
  | (_, .utility _) => .ok utilityContent
  | (_, .device d) => if d.isThere then .ok [] else .error d.absence
  | (_, .link _) => .ok []

def readText (t : Tree) (here : Place) (s : String) : Except Problem String := do
  match Text.Utf8.strict (← t.readBytes here s) with
  | some cs => .ok (String.ofList cs)
  | none => .error .notText

def ending (t : Tree) (start : Place) (p : Path) : Except Problem (Place × String) :=
  match p.names.getLast? with
  | none => .error .isDirectory
  | some n =>
    match t.walk greatestLinks start p.names.dropLast with
    | .error problem => .error problem
    | .ok above =>
      if t.get? above ≠ some .directory then .error .notDirectory
      else if p.slashed || n = "." || n = ".." then .error .isDirectory
      else if !nameFits n then .error .nameTooLong
      else .ok (above, n)

/-- The place that a path for writing names below a start, and what stands there. A link at the
end leads on. -/
def targetFrom (t : Tree) (start : Place) (p : Path) (links : Nat) :
    Except Problem (Place × Option Entry) :=
  match t.ending start p with
  | .error problem => .error problem
  | .ok (above, n) =>
    match t.get? (above ++ [n]) with
    | some .directory => .error .isDirectory
    | some (.link path) =>
      match links with
      | 0 => .error .loop
      | links + 1 => t.targetFrom ((Path.ofString path).start above) (Path.ofString path) links
    | e => .ok (above ++ [n], e)

/-- The place that opening a path for writing creates or truncates. -/
def target (t : Tree) (here : Place) (s : String) : Except Problem (Place × Option Entry) := do
  let p ← checked s
  t.targetFrom (p.start here) p greatestLinks

/-- Creates or truncates a file and fills it. What is written to a device leaves the tree as it
is. -/
def write (t : Tree) (here : Place) (s : String) (content : Bytes) : Except Problem Tree := do
  match ← t.target here s with
  | (place, some (.file _ executable)) => .ok (t.put place (.file content executable))
  | (place, some (.utility _)) => .ok (t.put place (.file content true))
  | (_, some (.device .full)) => if content.isEmpty then .ok t else .error .noSpace
  | (_, some (.device d)) => if d.isThere then .ok t else .error d.absence
  | (place, none) => .ok (t.put place (.file content false))
  | _ => .ok t

def findItself (t : Tree) (here : Place) (s : String) : Except Problem (Place × Entry) := do
  let p ← checked s
  match p.names.getLast? with
  | none => t.find here s
  | some n =>
    if p.slashed || n = "." || n = ".." then t.find here s
    else
      let above ← t.walk greatestLinks (p.start here) p.names.dropLast
      if t.get? above ≠ some .directory then .error .notDirectory
      else if !nameFits n then .error .nameTooLong
      else match t.get? (above ++ [n]) with
        | none => .error .missing
        | some e => .ok (above ++ [n], e)

def names (t : Tree) (p : Place) : List String :=
  (t.entries.filterMap fun (q, _) =>
    if q.dropLast = p && q.length = p.length + 1 then q.getLast? else none).mergeSort (· ≤ ·)

def stream? (t : Tree) (here : Place) (s : String) : Option Nat :=
  match t.target here s with
  | .ok (_, some (.device (.stream n))) => some n
  | _ => none

end Tree

end TreeTool.Files
