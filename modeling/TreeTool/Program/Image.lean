import TreeTool.Files.Tree
import TreeTool.Text.Pieces
import TreeTool.Text.Raw

/-!
# Programs and their images

What is started in the end is one of the machine's utilities. A script names its interpreter on its
first line, and the interpreter is started with the path of the script before the arguments. A name
with a slash is a path; any other name is looked for in the directories of a search path. Names and
arguments are raw texts.
-/

namespace TreeTool.Program

open Files (Tree Place Entry Problem)

structure Image where
  utility : String
  name : String
  arguments : List String
  deriving DecidableEq, Repr

/-! ## Interpreters -/

def headSize : Nat := 256

def isBlank (b : UInt8) : Bool := b = 32 || b = 9

def indexWhere (p : UInt8 → Bool) (bs : Text.Bytes) (first last : Nat) : Option Nat :=
  (List.range (last + 1 - first)).map (first + ·) |>.find? fun i => p (bs.getD i 0)

def lineEnd? (head : Text.Bytes) : Option Nat :=
  let text := head.takeWhile fun b => b ≠ 10 && b ≠ 0
  if head.getD text.length 0 = 10 && text.length < head.length then some text.length
  else do
    let first ← indexWhere (!isBlank ·) head 2 (headSize - 1)
    let _ ← indexWhere (fun b => isBlank b || b = 0) head first (headSize - 1)
    return headSize - 1

def stretch (bs : Text.Bytes) (first last : Nat) : String :=
  Text.Raw.ofBytes (((bs.take last).drop first).takeWhile (· ≠ 0))

def interpreter? (content : Text.Bytes) : Option (String × List String) :=
  match content with
  | 0x23 :: 0x21 :: _ => do
    let bytes := content.take headSize
    let head := bytes ++ List.replicate (headSize - bytes.length) 0
    let line ← lineEnd? head
    let last := line - ((head.take line).reverse.takeWhile isBlank).length
    let first ← indexWhere (!isBlank ·) head 2 last
    if first = last then none
    else
      let argument? := do
        let cut ← indexWhere (fun b => isBlank b || b = 0) head first last
        if head.getD cut 0 = 0 then none
        else
          let i ← indexWhere (!isBlank ·) head cut last
          return (cut, i)
      match argument? with
      | none => return (stretch head first last, [])
      | some (cut, i) => return (stretch head first cut, [stretch head i last])
  | _ => none

/-! ## Finding programs -/

def greatestDepth : Nat := 5

def imageFrom (t : Tree) (here : Place) :
    Nat → (path name : String) → List String → Except Problem Image
  | depth, path, name, as =>
    match t.find here (Text.Raw.toText path) with
    | .error p => .error p
    | .ok (_, .utility u) => .ok ⟨u, name, as⟩
    | .ok (_, .file content true) =>
      match interpreter? content, depth with
      | none, _ => .error .badFormat
      | some _, 0 => .error .loop
      | some (program, argument), depth + 1 =>
        if program.isEmpty then .error .denied
        else imageFrom t here depth program program (argument ++ path :: as)
    | .ok _ => .error .denied

def imageAt (t : Tree) (here : Place) (path name : String) (as : List String) :
    Except Problem Image :=
  imageFrom t here greatestDepth path name as

def directories (path : String) : List String :=
  (Text.pieces ':' path.toList).map String.ofList

def below (directory name : String) : String :=
  if directory.isEmpty then name else directory ++ "/" ++ name

def search (t : Tree) (here : Place) (name : String) (as : List String) (denied : Bool)
    (last : Problem) : List String → Except Problem Image
  | [] => .error (if denied then .denied else last)
  | d :: ds =>
    match imageAt t here (below d name) name as with
    | .ok image => .ok image
    | .error .denied => search t here name as true .denied ds
    | .error .missing => search t here name as denied .missing ds
    | .error .notDirectory => search t here name as denied .notDirectory ds
    | .error p => .error p

def defaultPath : String := "/bin:/usr/bin"

def findImage (t : Tree) (here : Place) (path program : String) (as : List String) :
    Except Problem Image :=
  if program.isEmpty then .error .missing
  else if program.toList.contains '/' then imageAt t here program program as
  else search t here program as false .missing (directories path)

end TreeTool.Program
