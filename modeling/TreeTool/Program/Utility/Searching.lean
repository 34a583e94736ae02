import TreeTool.Program.Regular
import TreeTool.Program.Utility.Copying

/-!
# Searching for lines
-/

namespace TreeTool.Program

open Work
open Regular (Expression)

structure Search where
  expressions : List Expression
  wanted : Array Char → Nat → Nat → Bool
  inverted : Bool := false
  given : Given
  named : Bool := false
  most : Option Nat := none
  before : Nat := 0
  after : Nat := 0

namespace Search

def has (s : Search) (c : Char) : Bool := s.given.has c

def match? (s : Search) (line : Array Char) (i : Nat) : Option (Nat × Nat) :=
  (Regular.search? s.expressions line (s.wanted line) i).map fun (i, r) => (i, r.position)

def selects (s : Search) (line : String) : Bool :=
  (s.match? line.toList.toArray 0).isSome ≠ s.inverted

def matchesFrom (s : Search) (line : Array Char) : Nat → Nat → List String
  | 0, _ => []
  | n + 1, i =>
    match s.match? line i with
    | none => []
    | some (a, b) =>
      if a = b then (if a < line.size then s.matchesFrom line n (a + 1) else [])
      else String.ofList (line.extract a b).toList :: s.matchesFrom line n b

def marked (s : Search) (text : String) : List (String × Nat × Bool) :=
  let all := (plainLines text).zipIdx 1 |>.map fun (l, n) => (l, n, s.selects l)
  match s.most with
  | none => all
  | some m => upTo m all
where
  upTo : Nat → List (String × Nat × Bool) → List (String × Nat × Bool)
    | _, [] => []
    | m, x :: xs =>
      if x.2.2 then
        match m with
        | 0 => []
        | m + 1 => x :: upTo m xs
      else match m with
        | 0 => x :: (xs.takeWhile fun x => !x.2.2)
        | m => x :: upTo m xs

def front (s : Search) (name : String) (number : Nat) (mark : String) : String :=
  (if s.named then name ++ mark else "") ++
    (if s.has 'n' then toString number ++ mark else "")

/-- The selected lines as they are shown, with those around them. `gap` counts the lines that were
not shown since the last one that was, if there was one. -/
def shownFrom (s : Search) (name : String) (around : List (String × Nat × Bool)) (left : Nat)
    (gap : Option Nat) : List (String × Nat × Bool) → List String
  | [] => []
  | x :: xs =>
    let (line, number, isSelected) := x
    if isSelected then
      let earlier := around.reverse
      let separated := (s.before ≠ 0 || s.after ≠ 0) && gap.any (earlier.length < ·)
      (if separated then ["--"] else []) ++
        (earlier.map fun (l, n, _) => s.front name n "-" ++ l) ++
        (s.front name number ":" ++ line) :: s.shownFrom name [] s.after (some 0) xs
    else if left ≠ 0 then
      (s.front name number "-" ++ line) :: s.shownFrom name [] (left - 1) (some 0) xs
    else
      s.shownFrom name ((x :: around).take s.before) 0 (gap.map (· + 1)) xs

def parts (s : Search) (name : String) (ls : List (String × Nat × Bool)) : List String :=
  if s.inverted then []
  else ls.flatMap fun (l, n, isSelected) =>
    if isSelected then
      (s.matchesFrom l.toList.toArray (l.length + 1) 0).map (s.front name n ":" ++ ·)
    else []

def isDecided (s : Search) (text : String) : Bool :=
  (s.has 'q' || s.has 'l' || s.most.isSome) &&
    (let n := ((lines text).filter fun l => s.selects (withoutEnd l)).length
     s.most.getD 1 < n || (s.most.isNone && n ≠ 0) || (s.has 'q' && n ≠ 0))

def run (s : Search) (name text : String) : Work Bool := do
  let ls := s.marked text
  let count := (ls.filter (·.2.2)).length
  let found := count ≠ 0
  if s.has 'q' then
    if found then exit 0
    return false
  else if s.has 'l' || s.has 'L' then
    let listed := found ≠ s.has 'L'
    if listed then putLine name
    return listed
  else
    if s.has 'c' then putLine ((if s.named then name ++ ":" else "") ++ toString count)
    else if text.contains '\x00' && !s.has 'a' then
      if found then
        flush
        complain (name ++ ": binary file matches")
    else if s.has 'o' then putLines (s.parts name ls)
    else putLines (s.shownFrom name [] 0 none ls)
    return found

end Search

/-! ## Files -/

def filesBelow (t : Files.Tree) (path : String) (place : Files.Place) : Nat → List String
  | 0 => []
  | n + 1 => (t.names place).flatMap fun name =>
    let path := (if path.isEmpty then "" else path ++ "/") ++ Text.Raw.ofText name
    match t.get? (place ++ [name]) with
    | some .directory => filesBelow t path (place ++ [name]) n
    | some (.file ..) => [path]
    | _ => []

def searchAll (s : Search) (recursive : Bool) (paths : List String) : Work Unit := do
  let results ← paths.mapM fun p => do
    let name := if p = "-" then "(standard input)" else p
    let refuse := fun (e : Files.Problem) => do
      if !s.has 's' then
        flush
        complain (name ++ ": " ++ e.words)
      setStatus 2
      return false
    if p = "-" then
      match ← readEnough s.isDecided 0 10000000 "" with
      | .ok text => s.run name text
      | .error e => refuse e
    else
      match ← find p with
      | .ok (place, .directory) =>
        if recursive then
          let inside ← look fun w _ => filesBelow w.files p place 1000
          let found ← inside.mapM fun q => do
            match ← content q with
            | .ok text => s.run q text
            | .error e => refuse e
          return found.any id
        else refuse .isDirectory
      | _ =>
        match ← content p with
        | .ok text => s.run name text
        | .error e => refuse e
  if (← get).status ≠ 2 then setStatus (if results.any id then 0 else 1)

def grepSwitches : List Switch :=
  [⟨'E', "extended-regexp", .nothing⟩, ⟨'F', "fixed-strings", .nothing⟩,
    ⟨'G', "basic-regexp", .nothing⟩, ⟨'P', "perl-regexp", .nothing⟩, ⟨'e', "regexp", .argument⟩,
    ⟨'f', "file", .argument⟩, ⟨'i', "ignore-case", .nothing⟩, ⟨'y', "", .nothing⟩,
    ⟨'w', "word-regexp", .nothing⟩, ⟨'x', "line-regexp", .nothing⟩, ⟨'s', "no-messages", .nothing⟩,
    ⟨'v', "invert-match", .nothing⟩, ⟨'m', "max-count", .argument⟩,
    ⟨'n', "line-number", .nothing⟩, ⟨'H', "with-filename", .nothing⟩,
    ⟨'h', "no-filename", .nothing⟩, ⟨'o', "only-matching", .nothing⟩, ⟨'q', "quiet", .nothing⟩,
    ⟨'q', "silent", .nothing⟩, ⟨'a', "text", .nothing⟩, ⟨'r', "recursive", .nothing⟩,
    ⟨'R', "dereference-recursive", .nothing⟩, ⟨'L', "files-without-match", .nothing⟩,
    ⟨'l', "files-with-matches", .nothing⟩, ⟨'c', "count", .nothing⟩,
    ⟨'A', "after-context", .argument⟩, ⟨'B', "before-context", .argument⟩,
    ⟨'C', "context", .argument⟩, ⟨'U', "binary", .nothing⟩, ⟨'Z', "color", .joined⟩,
    ⟨'Z', "colour", .joined⟩, ⟨'u', "line-buffered", .nothing⟩]

def grepUsage {α : Type} : Work α := do
  warn ("Usage: grep [OPTION]... PATTERNS [FILE]...\n" ++
    "Try 'grep --help' for more information.\n")
  exit 2

def patternsOf (g : Given) : Work (List String × List String) := do
  let split := fun (s : String) => (Text.pieces '\n' s.toList).map String.ofList
  let sources ← g.options.mapM fun (c, v) => do
    if c = 'e' then return [split v]
    else if c = 'f' then
      match ← content v with
      | .ok text => return [plainLines text]
      | .error e => fail (v ++ ": " ++ e.words) 2
    else return []
  match sources.flatten, g.operands with
  | [], [] => grepUsage
  | [], p :: paths => return (split p, paths)
  | patterns, paths => return (patterns.flatten, paths)

def contextOf (g : Given) (letters : List Char) (what : String → String) : Work (Option Nat) := do
  match g.options.reverse.find? fun o => o.1 ∈ letters with
  | none => return none
  | some (_, v) =>
    if !v.isEmpty && v.toList.all Char.isDigit then return some (Number.ofDigits 10 v.toList)
    else fail (what v) 2

def grep : Work Unit := do
  let g ← (do
    match Switch.read grepSwitches true (← arguments) with
    | .ok g => return g
    | .error message => do
      complain message
      grepUsage)
  let (patterns, paths) ← patternsOf g
  let name := (← get).image.name
  let kind := (g.last? ['E', 'F', 'G', 'P']).getD
    (if name = "egrep" then 'E' else if name = "fgrep" then 'F' else 'G')
  let style : Regular.Style :=
    { extended := kind = 'E' || kind = 'P', caseless := g.has 'i' || g.has 'y' }
  let expressions ← patterns.mapM fun p =>
    if kind = 'F' then return Regular.verbatim style p
    else match Regular.read style p with
      | .ok e => return e
      | .error f => fail f.text 2
  let invalid := fun (v : String) => v ++ ": invalid context length argument"
  let most ← contextOf g ['m'] fun _ => "invalid max count"
  let after ← contextOf g ['A', 'C'] invalid
  let before ← contextOf g ['B', 'C'] invalid
  let recursive := g.has 'r' || g.has 'R'
  let wanted := fun (text : Array Char) (i j : Nat) =>
    if g.has 'x' then i = 0 && j = text.size
    else if g.has 'w' then
      !((0 < i && (text[i - 1]?).any Regular.isWord) || (text[j]?).any Regular.isWord)
    else true
  let s : Search :=
    { expressions, wanted, inverted := g.has 'v', given := g, most
      named := match g.last? ['h', 'H'] with
        | some c => c = 'H'
        | none => 1 < paths.length || recursive
      before := before.getD 0, after := after.getD 0 }
  if paths.isEmpty && recursive then
    let inside ← look fun w me => filesBelow w.files "" (w.here me) 1000
    searchAll s true inside
  else searchAll s recursive (if paths.isEmpty then ["-"] else paths)

end TreeTool.Program
