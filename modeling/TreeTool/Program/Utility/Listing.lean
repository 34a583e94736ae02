import TreeTool.Program.Utility.Arranging

/-!
# Listing directories
-/

namespace TreeTool.Program

open Files (Entry Place Problem Tree)
open Work

structure Listed where
  name : String
  place : Place
  entry : Entry
  deriving DecidableEq, Repr

def extent : Entry → Nat
  | .file content _ => content.length
  | .link path => path.utf8ByteSize
  | .directory => 4096
  | _ => 0

def kindMark (g : Given) : Entry → String
  | .directory => if g.has 'F' || g.has 'p' then "/" else ""
  | .link _ => if g.has 'F' then "@" else ""
  | .file _ true | .utility _ => if g.has 'F' then "*" else ""
  | _ => ""

def arranged (g : Given) (ls : List Listed) : List Listed :=
  let sorted := if g.has 'U' || g.has 'f' then ls
    else if g.has 'S' then ls.mergeSort fun a b =>
      extent b.entry < extent a.entry || (extent a.entry = extent b.entry && a.name ≤ b.name)
    else ls.mergeSort fun a b => a.name ≤ b.name
  if g.has 'r' then sorted.reverse else sorted

def showNames (g : Given) (ls : List Listed) : Work Unit :=
  let names := ls.map fun l => l.name ++ kindMark g l.entry
  if g.has 'm' then
    if names.isEmpty then return else putLine (", ".intercalate names)
  else putLines names

def inside (g : Given) (t : Tree) (place : Place) : List Listed :=
  let named := (t.names place).filterMap fun n =>
    (t.get? (place ++ [n])).map fun e => (⟨Text.Raw.ofText n, place ++ [n], e⟩ : Listed)
  let all := g.has 'a' || g.has 'f'
  let visible := named.filter fun l => all || g.has 'A' || l.name.toList.head? ≠ some '.'
  let own := if all then
      [⟨".", place, .directory⟩, ⟨"..", place.dropLast, .directory⟩] else []
  arranged g (own ++ visible)

def showDirectories (g : Given) (t : Tree) : Nat → (first titled : Bool) →
    List (String × Place) → Work Unit
  | 0, _, _, _ => return
  | _, _, _, [] => return
  | n + 1, first, titled, (path, place) :: ds => do
    if !first then put "\n"
    if titled then putLine (path ++ ":")
    let ls := inside g t place
    showNames g ls
    let below := if g.has 'R' then
        ls.filterMap fun l =>
          if l.entry = .directory && l.name ≠ "." && l.name ≠ ".." then
            some (path ++ (if path.toList.getLast? = some '/' then "" else "/") ++ l.name, l.place)
          else none
      else []
    showDirectories g t n false titled (below ++ ds)

def ls : Work Unit := do
  let g ← given [⟨'a', "all", .nothing⟩, ⟨'A', "almost-all", .nothing⟩, ⟨'1', "", .nothing⟩,
    ⟨'C', "", .nothing⟩, ⟨'d', "directory", .nothing⟩, ⟨'f', "", .nothing⟩,
    ⟨'F', "classify", .joined⟩, ⟨'m', "", .nothing⟩, ⟨'p', "", .nothing⟩,
    ⟨'r', "reverse", .nothing⟩, ⟨'R', "recursive", .nothing⟩, ⟨'S', "", .nothing⟩,
    ⟨'U', "", .nothing⟩, ⟨'L', "dereference", .nothing⟩, ⟨'q', "", .nothing⟩,
    ⟨'N', "literal", .nothing⟩, ⟨'x', "", .nothing⟩, ⟨'H', "", .nothing⟩,
    ⟨'c', "color", .joined⟩, ⟨'h', "human-readable", .nothing⟩] 2
  let paths := if g.operands.isEmpty then ["."] else g.operands
  let found ← paths.mapM fun p => do
    match ← findItself p with
    | .error e => do
      complain ("cannot access " ++ quoted p ++ ": " ++ e.words)
      setStatus 2
      return []
    | .ok (place, .link target) =>
      match ← find p with
      | .ok (there, .directory) =>
        return if g.has 'd' || g.has 'F' then [(⟨p, place, .link target⟩ : Listed)]
          else [⟨p, there, .directory⟩]
      | _ => return [⟨p, place, .link target⟩]
    | .ok (place, e) => return [⟨p, place, e⟩]
  let listed := arranged g found.flatten
  let isOpened := fun (l : Listed) => l.entry = .directory && !g.has 'd'
  let names := listed.filter fun l => !isOpened l
  let directories := listed.filter isOpened
  showNames g names
  let t ← look fun w _ => w.files
  let titled := 1 < paths.length || g.has 'R'
  showDirectories g t 100000 names.isEmpty titled (directories.map fun l => (l.name, l.place))

end TreeTool.Program
