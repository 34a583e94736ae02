/-!
# Shell scripts

A script is a sequence of commands. A word is a list of parts, each of which says whether it was
quoted: what is quoted is neither split into fields nor a pattern. The texts of a script are raw.
-/

namespace TreeTool.Shell

/-- What is asked of a parameter. Where `orEmpty` holds, a parameter that is empty counts as one
that is not set. -/
inductive Operation
  | value
  | length
  | default (orEmpty : Bool)
  | assign (orEmpty : Bool)
  | required (orEmpty : Bool)
  | alternative (orEmpty : Bool)
  | trim (fromEnd longest : Bool)
  | bad
  deriving DecidableEq, Repr

inductive Connection
  | read | create | clobber | append | update | duplicate
  deriving DecidableEq, Repr

mutual

inductive Part
  | text (s : String) (quoted : Bool)
  | mark
  | parameter (name : String) (operation : Operation) (quoted : Bool) (word : List Part)
  | arithmetic (parts : List Part) (quoted : Bool)
  | output (script : Option Command) (quoted : Bool)

inductive Command
  | simple (line : Nat) (assignments : List (List Part)) (words : List (List Part))
    (redirections : List Redirection)
  | pipeline (background : Bool) (commands : List Command)
  | negated (c : Command)
  | both (a b : Command)
  | either (a b : Command)
  | sequence (a b : Command)
  | conditional (test body : Command) (other : Option Command)
  | loop (negated : Bool) (test body : Command)
  | each (line : Nat) (name : String) (words : Option (List (List Part))) (body : Command)
  | choice (line : Nat) (word : List Part) (branches : List (List (List Part) × Option Command))
  | subshell (line : Nat) (body : Command) (redirections : List Redirection)
  | background (line : Nat) (body : Command) (redirections : List Redirection)
  | define (line : Nat) (name : String) (body : Command)
  | redirected (line : Nat) (body : Command) (redirections : List Redirection)

inductive Redirection
  | path (descriptor : Nat) (connection : Connection) (target : List Part)
  | document (descriptor index : Nat)

end

abbrev Word := List Part

instance : Inhabited Part := ⟨.mark⟩
instance : Inhabited Command := ⟨.pipeline false []⟩

def isLetter (c : Char) : Bool := c.isAlpha || c = '_'

def isNameChar (c : Char) : Bool := isLetter c || c.isDigit

def isSpecial (c : Char) : Bool := "!#$*@-?".contains c || c.isDigit

def isName (s : String) : Bool :=
  match s.toList with
  | c :: cs => isLetter c && cs.all isNameChar
  | [] => false

def assignment? (s : String) : Option (String × String) :=
  let name := s.toList.takeWhile (· ≠ '=')
  match s.toList.dropWhile (· ≠ '=') with
  | _ :: value =>
    if isName (String.ofList name) then some (String.ofList name, String.ofList value) else none
  | [] => none

def Part.isAssignment : List Part → Bool
  | .text s false :: _ => (assignment? s).isSome
  | _ => false

def Part.plain? : List Part → Option String
  | [.text s false] => some s
  | _ => none

end TreeTool.Shell
