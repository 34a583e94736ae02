import TreeTool.Shell.Evaluator

/-!
# Fields

An expanded word is cut into fields at separators. A blank among the separators joins with those
around it into one cut, and with one separator of another kind; at the front of a field blanks are
dropped. What was not expanded is never cut.
-/

namespace TreeTool.Shell

namespace Piece

def chars (ps : List Piece) : List Glyph :=
  ps.filterMap fun p =>
    match p with
    | .char g _ => some g
    | _ => none

def text (ps : List Piece) : String := String.ofList ((chars ps).map (·.char))

end Piece

/-- The fields finished so far, last one first; the pieces of the one that is being made, last one
first; and what matters for the next separator: whether the last one was a blank, and whether the
present stretch and the one before it hold arguments that are kept apart. Where the number of
fields is limited, `left` is the number of those that may still come, and `ending` the length up to
which the last one is not blank. -/
structure Cutting where
  done : List (List Piece) := []
  current : List Piece := []
  blank : Bool := false
  apart : Bool := false
  afterApart : Bool := false
  left : Option Nat := none
  ending : Option Nat := none

namespace Cutting

def isBlank (c : Char) : Bool := c = ' ' || c = '\t' || c = '\n' || c = '\x00'

def close (f : Cutting) : Cutting :=
  { f with done := f.current.reverse :: f.done, current := [] }

def keep (f : Cutting) (p : Piece) : Cutting := { f with current := p :: f.current }

def takeLast (f : Cutting) (p : Piece) (separates blank : Bool) : Cutting :=
  let f := if blank then { f with ending := f.ending.or (some f.current.length) }
    else { f with ending := if separates && f.blank then f.ending else none, blank := false }
  f.keep p

def separate (f : Cutting) (p : Piece) (blank : Bool) : Cutting :=
  let f := if f.afterApart || f.apart then f else { f with blank }
  if f.current.isEmpty && f.blank then { f with blank := false }
  else if f.left = some 1 then
    { f with left := some 0, ending := some f.current.length }.keep p
  else { f.close with left := f.left.map (· - 1) }

def takeOpen (separators : String) (f : Cutting) (g : Glyph) (r : Region) : Cutting :=
  let p := Piece.char g r
  let separates := g.char = '\x00' || (!f.apart && separators.contains g.char)
  let blank := separates && isBlank g.char
  if f.left = some 0 then f.takeLast p separates blank
  else if f.blank then
    let f := { f with current := [] }
    if blank then f
    else if separates then { f with blank := false }
    else { f with blank := false }.keep p
  else if separates then f.separate p blank
  else f.keep p

def take (separators : String) (f : Cutting) : Piece → Cutting
  | .stretch apart => { f with blank := false, afterApart := f.apart, apart }
  | .mark => f.keep .mark
  | .char g .solid => f.keep (.char g .solid)
  | .char g r => f.takeOpen separators g r

def fields (separators : String) (limit : Option Nat) (ps : List Piece) : List (List Piece) :=
  let f := ps.foldl (take separators) { left := limit }
  let last := f.current.reverse
  if f.apart then (last :: f.done).reverse
  else
    let last := match f.ending with
      | some n => last.take n
      | none => last
    if last.isEmpty then f.done.reverse else (last :: f.done).reverse

end Cutting

end TreeTool.Shell
