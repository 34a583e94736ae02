import TreeTool.CommandLine.Grammar
import TreeTool.Text.Pieces

/-!
# Reading a command line

Each side of the subcommand name is read from the left. A setting whose value stands apart is kept
back, and its value is looked at only when the next option, operand or the end of the side comes;
the outer side ends after the inner one. Of a line with several faults this order decides which
one is reported.
-/

namespace TreeTool.CommandLine

structure Given where
  option : Opt
  value : Option String := none
  deriving DecidableEq, Repr

/-- A setting that is kept back: its name has been read, and perhaps its value. -/
structure Pending where
  setting : Setting
  value : Option String
  deriving DecidableEq, Repr

structure Progress where
  given : List Given := []
  operands : List String := []
  pending : Option Pending := none
  /-- After two dashes every argument is an operand. -/
  escaped : Bool := false
  deriving DecidableEq, Repr

namespace Progress

def has (p : Progress) (o : Opt) : Bool := p.given.any (·.option == o)

def give (p : Progress) (g : Given) : Except Misuse Progress :=
  if p.has g.option then .error (.repeated g.option)
  else .ok { p with given := p.given ++ [g] }

def giveSetting (p : Progress) (s : Setting) (v : String) : Except Misuse Progress :=
  match p.give ⟨.setting s, some v⟩ with
  | .error m => .error m
  | .ok p =>
    match refusal s v with
    | some m => .error m
    | none => .ok p

def settle (p : Progress) : Except Misuse Progress :=
  match p.pending with
  | none => .ok p
  | some ⟨s, none⟩ => .error (.missingValue (.setting s))
  | some ⟨s, some v⟩ => { p with pending := none }.giveSetting s v

def awaits (p : Progress) : Option Setting :=
  match p.pending with
  | some ⟨s, none⟩ => some s
  | _ => none

def option (p : Progress) (o : Opt) (attached : Option String) : Except Misuse Progress :=
  match o with
  | .help | .switch _ =>
    match attached with
    | some v => .error (.unexpectedValue v o)
    | none => do (← p.settle).give ⟨o, none⟩
  | .setting s => do
    let p ← p.settle
    match attached with
    | some v => p.giveSetting s v
    | none => return { p with pending := some ⟨s, none⟩ }

end Progress

def long (side : Side) (p : Progress) (cs : List Char) : Except Misuse Progress :=
  let (name, value) := match Text.cutFirst '=' cs with
    | some (name, value) => (String.ofList name, some (String.ofList value))
    | none => (String.ofList cs, none)
  match side.named? name with
  | none => .error (.unexpectedArgument ("--" ++ name))
  | some o => p.option o value

/-- Letters after one dash. A setting takes what follows its letter as its value; after the letter
for help no other is looked at. -/
def letters (side : Side) (p : Progress) : List Char → Except Misuse Progress
  | [] => .ok p
  | c :: cs =>
    match side.lettered? c with
    | none => .error (.unexpectedArgument (String.ofList ['-', c]))
    | some (.setting s) =>
      match cs with
      | [] => p.option (.setting s) none
      | '=' :: v => p.option (.setting s) (some (String.ofList v))
      | v => p.option (.setting s) (some (String.ofList v))
    | some .help => p.option .help none
    | some (.switch s) =>
      match p.option (.switch s) none with
      | .error m => .error m
      | .ok p => letters side p cs

def operand (side : Side) (p : Progress) (a : String) : Except Misuse Progress :=
  if p.operands.length < side.operands then do
    let p ← p.settle
    return { p with operands := p.operands ++ [a] }
  else if side.outer && !(p.escaped && (operation? a).isSome) then
    .error (.unknownSubcommand a)
  else .error (.unexpectedArgument a)

def argument (side : Side) (p : Progress) (a : String) : Except Misuse Progress :=
  match a.toList with
  | ['-', '-'] => .ok { p with escaped := true }
  | '-' :: '-' :: cs => long side p cs
  | '-' :: c :: cs => letters side p (c :: cs)
  | _ =>
    match p.awaits with
    | some s => .ok { p with pending := some ⟨s, some a⟩ }
    | none => operand side p a

def readSide (side : Side) (p : Progress) :
    List String → Except Misuse (Progress × Option (Operation × List String))
  | [] => .ok (p, none)
  | a :: as =>
    if p.escaped then
      match operand side p a with
      | .error m => .error m
      | .ok p => readSide side p as
    else
      match (if p.awaits.isNone then side.subcommand? a else none) with
      | some op => .ok (p, some (op, as))
      | none =>
        if (Opt.help ∈ p.given.map (·.option)) then .ok (p, none)
        else match argument side p a with
          | .error m => .error m
          | .ok p => readSide side p as

def conflict? (p : Progress) : List Given → Option Misuse
  | [] => none
  | g :: gs =>
    match (p.given.map (·.option)).filter (excludes g.option) with
    | [] => conflict? p gs
    | others => some (.conflict g.option others)

def finish (side : Side) (p : Progress) : Except Misuse Progress := do
  let p ← p.settle
  match conflict? p p.given with
  | some m => throw m
  | none => if p.operands.length < side.operands then throw .missingOperands else return p

/-- A command line: the options of both sides, the operation and its operands. -/
structure Invocation where
  outer : List Given
  inner : List Given
  operation : Operation
  operands : List String
  deriving DecidableEq, Repr

inductive Reading
  | help
  | invocation (i : Invocation)
  deriving DecidableEq, Repr

def read (args : List String) : Except Misuse Reading := do
  let (outer, rest) ← readSide outerSide {} args
  if outer.has .help then return .help
  match rest with
  | none => do
    let outer ← outer.settle
    if outer.given.isEmpty then throw .overview else throw .noSubcommand
  | some (op, as) => do
    let (inner, _) ← readSide (innerSide op) {} as
    if inner.has .help then return .help
    let inner ← finish (innerSide op) inner
    let outer ← finish outerSide outer
    return .invocation ⟨outer.given, inner.given, op, inner.operands⟩

namespace Invocation

def on (i : Invocation) (s : Switch) : Bool :=
  (i.outer ++ i.inner).any (·.option == .switch s)

/-- The value of a setting; the one after the subcommand name wins. -/
def value? (i : Invocation) (s : Setting) : Option String :=
  match (i.inner ++ i.outer).find? (·.option == .setting s) with
  | some g => g.value
  | none => none

end Invocation

end TreeTool.CommandLine
