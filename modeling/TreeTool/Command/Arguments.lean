import TreeTool.Command.Basic

/-!
# Argument vectors

`Command.arguments` writes a command as the tool's argument vector: encoding, flags, operation,
an option text if there is a bundle, operands. `Canonical` states the same grammar on its own.
-/

namespace TreeTool

namespace Command

def optionArguments (c : Command) : List String :=
  match c.bundle with
  | none => []
  | some b => ["-o", b.text c.encoding]

def arguments (c : Command) : List String :=
  ["-r", Coded.token c.encoding] ++ c.flags.tokens ++ [Coded.token c.operation] ++
    c.optionArguments ++ c.operands

end Command

/-- Switches in the order time, verbose, quiet, each at most once, then at most one pruning flag. -/
inductive FlagTokens : List String → Prop
  | intro (time verbose quiet : Bool) (prune : List String) :
    prune = [] ∨ prune = ["-p"] ∨ prune = ["-s"] →
    FlagTokens ((if time then ["-t"] else []) ++ (if verbose then ["-v"] else []) ++
      (if quiet then ["-n"] else []) ++ prune)

/-- The option pair is absent, or holds the text of a bundle of the operation's kind. -/
inductive OptionTokens (e : Encoding) (op : Operation) : List String → Prop
  | absent : OptionTokens e op []
  | present (b : Bundle) : op.bundleKind = some b.kind → OptionTokens e op ["-o", b.text e]

/-- The argument vectors of the tool's grammar. -/
inductive Canonical : List String → Prop
  | intro (e : Encoding) (op : Operation) (flags options operands : List String) :
    FlagTokens flags → OptionTokens e op options → operands.length = op.arity →
    Canonical (["-r", Coded.token e] ++ flags ++ [Coded.token op] ++ options ++ operands)

end TreeTool
