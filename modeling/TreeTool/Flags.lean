/-!
# Run flags

The flags that change how the tool runs and not what it computes. They are written in a fixed
order; the two ways of pruning exclude each other by type.
-/

namespace TreeTool

inductive Prune
  | nothing | unreachable | useless
  deriving DecidableEq, Repr

namespace Prune

def flag : Prune → Option String
  | nothing => none
  | unreachable => some "-p"
  | useless => some "-s"

end Prune

structure Flags where
  showTime : Bool := false
  verbose : Bool := false
  quiet : Bool := false
  prune : Prune := .nothing
  deriving DecidableEq, Repr

namespace Flags

def tokens (f : Flags) : List String :=
  (if f.showTime then ["-t"] else []) ++
  (if f.verbose then ["-v"] else []) ++
  (if f.quiet then ["-n"] else []) ++
  f.prune.flag.toList

end Flags

end TreeTool
