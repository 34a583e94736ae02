import TreeTool.Number.Digits
import TreeTool.Text.Terminal
import TreeTool.Vocabulary

/-!
# The grammar of the command line

Options are switches or take a value. Some belong to a subcommand; the others are global and may
stand on either side of it. A `Misuse` says how a command line breaks the grammar, and
`Misuse.page` is what it is reported with.
-/

namespace TreeTool.CommandLine

inductive Switch
  | time | verbose | noOutput | pruneUnreachable | pruneUseless | dryRun | json
  | simulation | cacheOptimization | recursion
  deriving DecidableEq, Repr

inductive Setting
  | config | vata | encoding | timeoutMs | output
  | direction | algorithm | order | options | simulationTime
  deriving DecidableEq, Repr

inductive Opt
  | switch (s : Switch)
  | setting (s : Setting)
  | help
  deriving DecidableEq, Repr

namespace Switch

def name : Switch → String
  | time => "time"
  | verbose => "verbose"
  | noOutput => "no-output"
  | pruneUnreachable => "prune-unreachable"
  | pruneUseless => "prune-useless"
  | dryRun => "dry-run"
  | json => "json"
  | simulation => "sim"
  | cacheOptimization => "optc"
  | recursion => "rec"

def letter? : Switch → Option Char
  | time => some 't'
  | verbose => some 'v'
  | noOutput => some 'n'
  | pruneUnreachable => some 'p'
  | pruneUseless => some 's'
  | _ => none

end Switch

namespace Setting

def name : Setting → String
  | config => "config"
  | vata => "vata"
  | encoding => "encoding"
  | timeoutMs => "timeout-ms"
  | output => "output"
  | direction => "dir"
  | algorithm => "alg"
  | order => "order"
  | options => "options"
  | simulationTime => "sim-time"

def letter? : Setting → Option Char
  | encoding => some 'r'
  | _ => none

def valueName : Setting → String
  | config | output => "FILE"
  | vata => "PATH"
  | encoding => "ENCODING"
  | timeoutMs => "MS"
  | direction => "DIR"
  | algorithm => "ALG"
  | order => "ORDER"
  | options => "OPTIONS"
  | simulationTime => "BOOL"

end Setting

namespace Opt

def name : Opt → String
  | switch s => s.name
  | setting s => s.name
  | help => "help"

def letter? : Opt → Option Char
  | switch s => s.letter?
  | setting s => s.letter?
  | help => some 'h'

def shown : Opt → String
  | switch s => "--" ++ s.name
  | setting s => "--" ++ s.name ++ " <" ++ s.valueName ++ ">"
  | help => "--help"

end Opt

inductive Misuse
  | overview
  | noSubcommand
  | unknownSubcommand (word : String)
  | unexpectedArgument (word : String)
  | unexpectedValue (value : String) (o : Opt)
  | missingValue (o : Opt)
  | invalidValue (value : String) (o : Opt) (reason : Option String)
  | repeated (o : Opt)
  | conflict (o : Opt) (others : List Opt)
  | missingOperands
  deriving DecidableEq, Repr

namespace Misuse

def marked (s : String) : String := "'" ++ Text.Terminal.styled s ++ "'"

def text : Misuse → String
  | overview => "Validated front end for the VATA tool"
  | noSubcommand => marked "vata-wrap" ++ " requires a subcommand but one was not provided"
  | unknownSubcommand w => "unrecognized subcommand " ++ marked w
  | unexpectedArgument w => "unexpected argument " ++ marked w ++ " found"
  | unexpectedValue v o =>
    "unexpected value " ++ marked v ++ " for " ++ marked o.shown ++
      " found; no more were expected"
  | missingValue o => "a value is required for " ++ marked o.shown ++ " but none was supplied"
  | invalidValue v o none => "invalid value " ++ marked v ++ " for " ++ marked o.shown
  | invalidValue v o (some reason) =>
    "invalid value " ++ marked v ++ " for " ++ marked o.shown ++ ": " ++ reason
  | repeated o => "the argument " ++ marked o.shown ++ " cannot be used multiple times"
  | conflict o [p] => "the argument " ++ marked o.shown ++ " cannot be used with " ++ marked p.shown
  | conflict o _ => "the argument " ++ marked o.shown ++ " cannot be used with:"
  | missingOperands => "the following required arguments were not provided:"

/-- The report with its styles. Without any argument it is an overview. -/
def page (m : Misuse) : String :=
  match m with
  | overview => m.text ++ "\n"
  | _ =>
    Text.Terminal.styled "error:" ++ " " ++ m.text ++ "\n\nFor more information, try " ++
      marked "--help" ++ ".\n"

end Misuse

/-! ## Subcommands -/

def globals : List Opt :=
  [.setting .config, .setting .vata, .setting .encoding, .setting .timeoutMs, .switch .time,
    .switch .verbose, .switch .noOutput, .switch .pruneUnreachable, .switch .pruneUseless,
    .switch .dryRun, .setting .output, .switch .json, .help]

def ownOptions : Operation → List Opt
  | .simulation | .reduction => [.setting .direction, .setting .options]
  | .equivalence => [.setting .order, .setting .options]
  | .inclusion =>
    [.setting .direction, .setting .algorithm, .switch .simulation, .setting .order,
      .switch .cacheOptimization, .switch .recursion, .setting .simulationTime, .setting .options]
  | _ => []

structure Side where
  options : List Opt
  operands : Nat
  /-- Whether words are names of subcommands here. -/
  outer : Bool
  deriving Repr

def outerSide : Side := ⟨globals, 0, true⟩

def innerSide (op : Operation) : Side := ⟨ownOptions op ++ globals, op.arity, false⟩

def operation? (word : String) : Option Operation :=
  match Coded.ofToken Operation word with
  | .ok op => some op
  | .error _ => none

namespace Side

def named? (s : Side) (name : String) : Option Opt := s.options.find? (·.name == name)

def lettered? (s : Side) (c : Char) : Option Opt := s.options.find? (·.letter? == some c)

def subcommand? (s : Side) (word : String) : Option Operation :=
  if s.outer then operation? word else none

end Side

def excludes (a b : Opt) : Bool :=
  (a = .switch .pruneUnreachable && b = .switch .pruneUseless) ||
    (a = .switch .pruneUseless && b = .switch .pruneUnreachable) ||
    (a = .setting .options && b ∉ globals && b ≠ .setting .options) ||
    (b = .setting .options && a ∉ globals && a ≠ .setting .options)

/-! ## Values -/

def faultText {α : Type} : Except Fault α → Option String
  | .ok _ => none
  | .error f => some f.text

def boolValue? (v : String) : Option Bool :=
  if v = "true" then some true else if v = "false" then some false else none

/-- Why a value does not fit its setting; paths and truth values may not be empty. -/
def refusal (s : Setting) (v : String) : Option Misuse :=
  let o := Opt.setting s
  let invalid := fun (reason : Option String) =>
    match reason with
    | none => none
    | some r => some (Misuse.invalidValue v o (some r))
  match s with
  | .config | .vata | .output => if v.isEmpty then some (.missingValue o) else none
  | .encoding => invalid (faultText (Encoding.read v))
  | .direction => invalid (faultText (Direction.read v))
  | .algorithm => invalid (faultText (Algorithm.read v))
  | .order => invalid (faultText (Order.read v))
  | .options => none
  | .timeoutMs =>
    match Number.readWord v.toList with
    | .ok _ => none
    | .error r => some (.invalidValue v o (some r.text))
  | .simulationTime =>
    if v.isEmpty then some (.missingValue o)
    else if (boolValue? v).isNone then some (.invalidValue v o none)
    else none

end TreeTool.CommandLine
