import TreeTool.Program.Image
import TreeTool.Shell.Pattern
import TreeTool.Shell.State

/-!
# What commands are carried out with

Commands contain words, words contain commands. The rules for the ones are given for any
`Evaluator` that carries out the others.
-/

namespace TreeTool.Shell

/-- Where a character comes from: the script itself or a quoted expansion, an expansion that is
split into fields, or arguments that are kept apart. -/
inductive Region
  | solid | open_ | apart
  deriving DecidableEq, Repr

/-- A piece of an expanded word. A mark shows that something was quoted; each stretch that comes
from one expansion is announced. The character NUL stands between arguments. -/
inductive Piece
  | char (g : Glyph) (r : Region)
  | mark
  | stretch (apart : Bool)
  deriving DecidableEq, Repr, Inhabited

/-- What a word is expanded for: whether it may become several fields, whether its own text is
split because it stands in for a parameter, and whether it is an assignment, in which a tilde may
follow an equals sign or a colon. -/
structure Purpose where
  full : Bool := false
  standIn : Bool := false
  assigns : Bool := false

/-- How a command is carried out: whether its failure is forgiven, and whether it is the last thing
that the process does. The lines of a text may be shown as they are read. -/
structure Manner where
  tested : Bool := false
  last : Bool := false
  shown : Bool := false

/-- How words are expanded, commands and texts carried out, and programs started. The answer of a
text says whether there was a command in it. -/
structure Evaluator where
  pieces : Purpose → List Part → Step (List Piece)
  run : Manner → Option Command → Step Unit
  text : Manner → Source → Step Bool
  start : Program.Image → Kernel.Variables → (me : Nat) → Kernel.Course

end TreeTool.Shell
