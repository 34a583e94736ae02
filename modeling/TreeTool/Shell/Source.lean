import TreeTool.Shell.Script

/-!
# The text of a script

A `Source` is what is left of a script, with the line it is at. Documents are announced on one line
and stand below it; they are numbered, and kept apart from the commands that read them. A `Reader`
takes a part off the front of a source, or fails at a line with a message.
-/

namespace TreeTool.Shell

/-- A document that has been announced: its number, the line that closes it, whether tabs in front
of its lines are dropped, and whether it is taken as it stands. -/
structure Announced where
  index : Nat
  last : String
  indented : Bool
  exact : Bool

inductive Token
  | eof | newline | semicolon | ampersand | andIf | orIf | bar | open | close | endCase
  | redirection (descriptor : Option Nat) (operator : String)
  | word (w : Word) (quoted : Bool)
  | keyword (k : String)

instance : Inhabited Token := ⟨.eof⟩

structure Source where
  rest : List Char
  line : Nat := 1
  bound : Nat
  last : Token := .newline
  pushed : Bool := false
  literal : Bool := false
  announced : List Announced := []
  documents : List (Nat × Word) := []
  serial : Nat := 0
  aliases : List (String × String) := []
  busy : List (String × Nat) := []

structure Misprint where
  line : Nat
  message : String
  deriving DecidableEq, Repr

abbrev Reader := StateT Source (Except Misprint)

namespace Source

def ofText (s : String) (line : Nat := 1) : Source :=
  { rest := s.toList, line, bound := 2 * s.length + 16 }

end Source

namespace Reader

def fail {α : Type} (message : String) : Reader α := do
  throw ⟨(← get).line, message⟩

def joined : Nat → List Char → Nat × List Char
  | n, '\\' :: '\n' :: cs => joined (n + 1) cs
  | n, cs => (n, cs)

def peek : Reader (Option Char) := do
  let s ← get
  let (line, rest) := joined s.line s.rest
  set { s with line, rest }
  return rest.head?

def take : Reader (Option Char) := do
  let s ← get
  match s.rest with
  | [] => return none
  | c :: cs =>
    set { s with rest := cs, line := if c = '\n' then s.line + 1 else s.line }
    return some c

def skip : Reader Unit := do
  discard take

def pass : Reader Unit := modify fun s => { s with rest := s.rest.tail }

def takeWhile (p : Char → Bool) : Nat → Reader String
  | 0 => return ""
  | n + 1 => do
    match ← peek with
    | some c =>
      if p c then
        skip
        return c.toString ++ (← takeWhile p n)
      else return ""
    | none => return ""

def repeatFrom {σ α : Type} (f : σ → Reader (σ ⊕ α)) : Nat → σ → Reader α
  | 0, _ => fail "Syntax error: word too long"
  | n + 1, x => do
    match ← f x with
    | .inl y => repeatFrom f n y
    | .inr a => return a

def repeating {σ α : Type} (x : σ) (f : σ → Reader (σ ⊕ α)) : Reader α := do
  repeatFrom f (← get).bound x

end Reader

end TreeTool.Shell
