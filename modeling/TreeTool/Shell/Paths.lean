import TreeTool.Files.Tree
import TreeTool.Shell.Pattern
import TreeTool.Text.Raw

/-!
# Patterns of paths

A pattern whose parts between slashes are matched against the names in directories stands for the
paths that fit. A name that begins with a dot is matched only by a part that does. The texts here
are raw.
-/

namespace TreeTool.Shell.Paths

open Files (Tree Place Entry)

def parts : List Glyph → List (List Glyph)
  | [] => [[]]
  | g :: gs =>
    if g.char = '/' then [] :: parts gs
    else match parts gs with
      | [] => [[g]]
      | p :: ps => (g :: p) :: ps

def textOf (gs : List Glyph) : String := String.ofList (gs.map (·.char))

def isActive (part : List Glyph) : Bool :=
  (Pattern.atomsFrom part.length part).any fun a =>
    match a with
    | .char _ => false
    | _ => true

def names (t : Tree) (here : Place) (path : String) (part : List Glyph) : List String :=
  let path := if path.isEmpty then "." else Text.Raw.toText path
  match t.find here path with
  | .ok (place, .directory) =>
    let hidden := part.head?.any fun g => g.char = '.'
    let all := "." :: ".." :: (t.names place).map Text.Raw.ofText
    let atoms := Pattern.atomsFrom part.length part
    all.filter fun n => (hidden || n.toList.head? ≠ some '.') && Pattern.fits atoms n.toList
  | _ => []

def below (t : Tree) (here : Place) : String → List (List Glyph) → List String
  | before, [] => [before]
  | before, [part] =>
    if isActive part then (names t here before part).map (before ++ ·)
    else
      let path := before ++ textOf part
      match t.findItself here (Text.Raw.toText path) with
      | .ok _ => [path]
      | .error _ => []
  | before, part :: p :: ps =>
    if isActive part then
      (names t here before part).flatMap fun n => below t here (before ++ n ++ "/") (p :: ps)
    else below t here (before ++ textOf part ++ "/") (p :: ps)

def fitting (t : Tree) (here : Place) (pattern : List Glyph) : List String :=
  let ps := parts (Pattern.protect pattern)
  if ps.any isActive then (below t here "" ps).mergeSort (· ≤ ·) else []

end TreeTool.Shell.Paths
