import TreeTool.Shell.Grammar
import TreeTool.Kernel.Course
import TreeTool.Tool.Machine

/-!
# The state of a shell

A shell is a process with a state of its own: variables, functions, options, arguments and what it
does about signals. A `Step` is a part of what it does; it ends in a result, or in an `Escape` that
leaves the commands around it.
-/

namespace TreeTool.Shell

open Kernel (World Course Activity)
open Files (Problem)

structure Variable where
  value : Option String := none
  exported : Bool := false
  fixed : Bool := false
  deriving DecidableEq, Repr, Inhabited

/-- How commands are left. An error and an end leave the shell, unless the command that they come
from is one whose errors are forgiven. -/
inductive Escape
  | error | exit | finished
  deriving DecidableEq, Repr

/-- Commands that are not carried out: the rest of a number of loops, or of a function, which may
have been left with a status of its own. -/
inductive Skip
  | breaks (levels : Nat)
  | continues (levels : Nat)
  | returns (explicit : Bool)
  deriving DecidableEq, Repr

structure Arguments where
  list : List String := []
  index : Nat := 1
  offset : Option Nat := none
  deriving DecidableEq, Repr, Inhabited

structure Job where
  number : Nat
  process : Nat
  others : List Nat := []
  ending : Option Ending := none
  waited : Bool := false
  deriving DecidableEq, Repr, Inhabited

structure State where
  me : Nat
  root : Nat
  name : String
  bindings : List (String × Variable)
  functions : List (String × Command) := []
  aliases : List (String × String) := []
  options : List Char := []
  arguments : Arguments := {}
  status : Nat := 0
  outputStatus : Nat := 0
  line : Nat := 1
  command : Option String := none
  skip : Option Skip := none
  loops : Nat := 0
  locals : List (List (String × Option Variable)) := []
  traps : List (Nat × String) := []
  lastBackground : Option Nat := none
  jobs : List Job := []
  documents : List (Nat × Word) := []
  serial : Nat := 0
  tracing : Bool := false
  tracer : Nat := 2
  exiting : Option Nat := none
  redirected : List (List (Nat × Option Nat)) := []
  directory : String := "/"
  mask : Nat := 0o022
  known : List String := []
  output : String := ""
  reading : Nat := 1

def Step (α : Type) : Type := State → (Except Escape α → State → Course) → Course

namespace Step

instance : Monad Step where
  pure a := fun s k => k (.ok a) s
  bind x f := fun s k => x s fun r s =>
    match r with
    | .ok a => f a s k
    | .error e => k (.error e) s

instance : MonadStateOf State Step where
  get := fun s k => k (.ok s) s
  set s := fun _ k => k (.ok ()) s
  modifyGet f := fun s k =>
    let (a, s) := f s
    k (.ok a) s

instance : MonadLift Activity Step where
  monadLift t := fun s k => t fun a => k (.ok a) s

def escape {α : Type} (e : Escape) : Step α := fun s k => k (.error e) s

def attempt {α : Type} (x : Step α) : Step (Except Escape α) := fun s k =>
  x s fun r s => k (.ok r) s

def finally_ {α : Type} (x : Step α) (last : Step Unit) : Step α := do
  match ← attempt x with
  | .ok a =>
    last
    return a
  | .error e =>
    last
    escape e

end Step

def setStatus (n : Nat) : Step Unit := modify fun s => { s with status := n }

/-! ## The world -/

def act {α : Type} (f : World → Nat → World × α) : Step α := do
  let me := (← get).me
  Activity.act fun w => f w me

def change (f : World → Nat → World) : Step Unit := act fun w me => (f w me, ())

def look {α : Type} (f : World → Nat → α) : Step α := act fun w me => (w, f w me)

def spend (nanos : Nat) : Step Unit := Activity.sleep nanos

def commandCost : Nat := 2000

def startCost : Nat := 400000

def writeTo (descriptor : Nat) (s : String) : Step (Option Problem) := do
  Activity.write (← get).me descriptor s

/-! ## Messages -/

def State.has (s : State) (option : Char) : Bool := s.options.contains option

def warn (message : String) : Step Unit := do
  let s ← get
  let command := match s.command with
    | some c => c ++ ": "
    | none => ""
  discard <| writeTo 2 (s.name ++ ": " ++ toString s.line ++ ": " ++ command ++ message ++ "\n")

def put (text : String) : Step Unit := modify fun s => { s with output := s.output ++ text }

def flush : Step Bool := do
  let text := (← get).output
  if text.isEmpty then return true
  else
    modify fun s => { s with output := "" }
    return (← writeTo 1 text).isNone

def fail {α : Type} (message : String) : Step α := do
  setStatus 2
  warn message
  discard flush
  Step.escape .error

/-! ## Variables -/

namespace State

def binding? (s : State) (x : String) : Option Variable := s.bindings.lookup x

def get? (s : State) (x : String) : Option String := (s.binding? x).bind (·.value)

def bind (s : State) (x : String) (v : Variable) : State :=
  let rec replaced : List (String × Variable) → List (String × Variable)
    | [] => [(x, v)]
    | (y, u) :: bs => if y = x then (x, v) :: bs else (y, u) :: replaced bs
  { s with bindings := replaced s.bindings }

def unbind (s : State) (x : String) : State :=
  { s with bindings := s.bindings.filter (·.1 ≠ x) }

def shelves : Nat := 39

def shelf (x : String) : Nat :=
  let cs := x.toList
  (cs.foldl (fun n c => n + c.toNat) ((cs.head?.map fun c => c.toNat * 16).getD 0)) % shelves

def environment (s : State) : Kernel.Variables :=
  let exported := s.bindings.filterMap fun (x, v) =>
    if v.exported then v.value.map fun t => (x, t) else none
  (List.range shelves).flatMap fun n => exported.filter fun (x, _) => shelf x = n

def path (s : State) : String := (s.get? "PATH").getD ""

end State

def greatestCount : Nat := 0x7FFFFFFF

def integer? (s : String) : Option Int :=
  let isSpace := fun (c : Char) => c = ' ' || (9 ≤ c.toNat && c.toNat ≤ 13)
  let cs := s.toList.dropWhile isSpace
  let (negative, cs) := match cs with
    | '-' :: cs => (true, cs)
    | '+' :: cs => (false, cs)
    | cs => (false, cs)
  let ds := cs.takeWhile Char.isDigit
  let rest := cs.dropWhile Char.isDigit
  let n : Int := Number.ofDigits 10 ds
  if ds.isEmpty || !rest.all isSpace then none
  else (some (if negative then -n else n)).filter Number.isInteger

def numberOf (s : String) : Step Nat := do
  match (integer? s).filter fun (n : Int) => 0 ≤ n && n ≤ greatestCount with
  | some n => return n.toNat
  | none => fail ("Illegal number: " ++ s)

def assign (x value : String) (exported : Bool := false) : Step Unit := do
  if !isName x then fail (x ++ ": bad variable name")
  let s ← get
  let v := (s.binding? x).getD {}
  if v.fixed then fail (x ++ ": is read only")
  else
    if x = "OPTIND" then
      let n ← numberOf value
      modify fun s => { s with arguments := { s.arguments with index := max 1 n, offset := none } }
    modify fun s =>
      { s.bind x { v with value := some value, exported := v.exported || exported || s.has 'a' } with
        known := if x = "PATH" then [] else s.known }

def unassign (x : String) : Step Unit := do
  match (← get).binding? x with
  | none => return
  | some v =>
    if v.fixed then fail (x ++ ": is read only")
    else modify fun s => s.unbind x

def makeLocal (x : String) : Step Unit :=
  modify fun s =>
    match s.locals with
    | [] => s
    | frame :: frames =>
      if frame.any (·.1 = x) then s
      else { s with locals := ((x, s.binding? x) :: frame) :: frames }

def restoreFrame (frame : List (String × Option Variable)) : Step Unit :=
  modify fun s => frame.foldl (fun s (x, v?) =>
    match v? with
    | some v => s.bind x v
    | none => s.unbind x) s

def inFrame {α : Type} (x : Step α) : Step α := do
  modify fun s => { s with locals := [] :: s.locals }
  let a ← x
  match (← get).locals with
  | frame :: frames =>
    modify fun s => { s with locals := frames }
    restoreFrame frame
  | [] => return a
  return a

/-! ## Separators and options -/

def separators (s : State) : String :=
  match s.binding? "IFS" with
  | some v => v.value.getD ""
  | none => " \t\n"

def optionNames : List (String × Char) :=
  [("errexit", 'e'), ("noglob", 'f'), ("ignoreeof", 'I'), ("interactive", 'i'), ("monitor", 'm'),
    ("noexec", 'n'), ("stdin", 's'), ("xtrace", 'x'), ("verbose", 'v'), ("vi", 'V'),
    ("emacs", 'E'), ("noclobber", 'C'), ("allexport", 'a'), ("notify", 'b'), ("nounset", 'u'),
    ("privileged", 'p'), ("nolog", '1'), ("debug", '2')]

def optionLetters : List Char := (optionNames.map (·.2)).filter fun c => !c.isDigit

/-! ## Signals -/

def react (n : Nat) (action : Option String) : Step Unit :=
  if n = 0 then return
  else
    let r := match action with
      | none => Kernel.Reaction.usual
      | some "" => .ignored
      | some _ => .noted
    change fun w me => w.setReaction me n r

end TreeTool.Shell
