import TreeTool.Shell.Source

/-!
# Reading words

What a character means in a word depends on what it stands in: `Setting` says so. `Nested` reads
the scripts whose output a word stands for.
-/

namespace TreeTool.Shell

/-- What the characters of a word stand in: nothing, the braces of a parameter, double quotes, the
braces of a parameter within those, a document, or arithmetic within parentheses. Double quotes
within the last braces make a closing brace an ordinary character. -/
inductive Setting
  | bare
  | braced
  | double
  | bracedDouble (inner : Bool)
  | document
  | arithmetic (depth : Nat)
  deriving DecidableEq, Repr

namespace Setting

def quoted : Setting → Bool
  | bare | braced => false
  | _ => true

def inBraces : Setting → Setting
  | bare | braced => .braced
  | _ => .bracedDouble false

def protects (s : Setting) (c : Char) : Bool :=
  match s with
  | bare | braced => true
  | _ => c = '\\' || c = '\x60' || c = '$' || (c = '"' && s ≠ document) ||
      (c = '\x7d' && s matches bracedDouble _)

end Setting

structure Nested where
  parenthesized : Reader (Option Command)
  whole : String → Reader (Option Command)

def isMeta (c : Char) : Bool :=
  c = ' ' || c = '\t' || c = '\n' || c = ';' || c = '&' || c = '|' || c = '<' || c = '>' ||
    c = '(' || c = ')'

namespace Word

open Reader

def add (s : String) (quoted : Bool) : List Part → List Part
  | .text t q :: ps => if q = quoted then .text (s ++ t) q :: ps else .text s quoted :: .text t q :: ps
  | ps => .text s quoted :: ps

def unfinished : Setting → String
  | .braced => "Missing '\x7d'"
  | .arithmetic _ => "Missing '))'"
  | _ => "Unterminated quoted string"

def misprint {α : Type} (message : String) : Reader α := fail ("Syntax error: " ++ message)

def singleQuoted : Nat → Reader String
  | 0 => misprint "Unterminated quoted string"
  | n + 1 => do
    match ← take with
    | none => misprint "Unterminated quoted string"
    | some '\'' => return ""
    | some c => return c.toString ++ (← singleQuoted n)

def backquoted (double : Bool) : Nat → Reader String
  | 0 => misprint "EOF in backquote substitution"
  | n + 1 => do
    match ← peek with
    | none => misprint "EOF in backquote substitution"
    | some '\x60' =>
      skip
      return ""
    | some '\\' => do
      skip
      match ← take with
      | none => misprint "EOF in backquote substitution"
      | some c =>
        let kept := if c = '\\' || c = '\x60' || c = '$' || (double && c = '"') then "" else "\\"
        return kept ++ c.toString ++ (← backquoted double n)
    | some c => do
      skip
      return c.toString ++ (← backquoted double n)

def operation : Reader (Operation × Bool) := do
  let known := fun (orEmpty : Bool) => do
    match ← peek with
    | some '\x7d' =>
      skip
      return (if orEmpty then Operation.bad else .value, orEmpty)
    | some c => do
      pass
      return (match c with
        | '-' => .default orEmpty
        | '+' => .alternative orEmpty
        | '?' => .required orEmpty
        | '=' => .assign orEmpty
        | _ => .bad, true)
    | none => return (.bad, true)
  let trimming := fun (c : Char) => do
    skip
    if (← peek) = some c then
      skip
      return (Operation.trim (c = '%') true, true)
    else return (.trim (c = '%') false, true)
  match ← peek with
  | some ':' =>
    skip
    known true
  | some '%' => trimming '%'
  | some '#' => trimming '#'
  | _ => known false

def braced (self : Setting → Reader (List Part)) (s : Setting) : Reader Part := do
  let bound := (← get).bound
  let name : Reader String := do
    match ← peek with
    | some c =>
      if isLetter c then takeWhile isNameChar bound
      else if c.isDigit then takeWhile Char.isDigit bound
      else return ""
    | none => return ""
  let withWord := fun (x : String) (o : Operation) => do
    let inside := match o with
      | .trim .. => .braced
      | _ => s.inBraces
    return Part.parameter x o s.quoted (← self inside)
  let operated := fun (x : String) => do
    let (o, more) ← operation
    if more then withWord x o else return .parameter x o s.quoted []
  let x ← name
  if !x.isEmpty then operated x
  else match ← peek with
    | none | some '\x7d' => withWord "" .bad
    | some '#' => do
      skip
      let x ← name
      let lengthOf := fun (x : String) => do
        withWord x (if (← peek) = some '\x7d' then .length else .bad)
      if !x.isEmpty then lengthOf x
      else do
        let source ← get
        match ← peek with
        | none | some '\x7d' => operated "#"
        | some c => do
          pass
          if (← peek) = some '\x7d' then
            if isSpecial c then lengthOf c.toString else withWord c.toString .bad
          else
            set source
            operated "#"
    | some c => do
      pass
      if isSpecial c then operated c.toString else withWord c.toString .bad

def expansion (nested : Nested) (self : Setting → Reader (List Part)) (s : Setting) :
    Reader Part := do
  if (← get).literal then return .text "$" s.quoted
  else match ← peek with
    | some '(' => do
      skip
      if (← peek) = some '(' then
        skip
        return .arithmetic (← self (.arithmetic 0)) s.quoted
      else return .output (← nested.parenthesized) s.quoted
    | some '\x7b' => do
      skip
      braced self s
    | some c =>
      if isLetter c then
        return .parameter (← takeWhile isNameChar (← get).bound) .value s.quoted []
      else if isSpecial c then
        skip
        return .parameter c.toString .value s.quoted []
      else return .text "$" s.quoted
    | none => return .text "$" s.quoted

def step (nested : Nested) (self : Setting → Reader (List Part)) (s : Setting) :
    Reader (List Part) := do
  let goOn := fun (p : Part) (s : Setting) => do
    match p with
    | .text t q => return add t q (← self s)
    | p => return p :: (← self s)
  let plain := fun (c : Char) => do
    skip
    goOn (.text c.toString s.quoted) s
  match ← peek with
  | none => if s = .bare || s = .document then return [] else misprint (unfinished s)
  | some '\\' => do
    skip
    match ← take with
    | none => goOn (.text "\\" true) s
    | some c => goOn (.text ((if s.protects c then "" else "\\") ++ c.toString) true) s
  | some '\'' =>
    if s = .bare || s = .braced then
      skip
      let t ← singleQuoted (← get).bound
      let ps ← self s
      return .mark :: (if t.isEmpty then ps else add t true ps)
    else plain '\''
  | some '"' =>
    match s with
    | .bare | .braced => do
      skip
      let inside ← self .double
      return .mark :: inside ++ (← self s)
    | .double =>
      skip
      return []
    | .bracedDouble inner =>
      skip
      self (.bracedDouble !inner)
    | _ => plain '"'
  | some '\x60' =>
    skip
    if (← get).literal then goOn (.text "\x60" true) s
    else
      let t ← backquoted s.quoted (← get).bound
      goOn (.output (← nested.whole t) s.quoted) s
  | some '$' => do
    skip
    goOn (← expansion nested self s) s
  | some '\x7d' =>
    if s = .braced || s = .bracedDouble false then
      skip
      return []
    else plain '\x7d'
  | some c =>
    match s with
    | .arithmetic depth =>
      if c = '(' then
        skip
        goOn (.text "(" true) (.arithmetic (depth + 1))
      else if c = ')' then
        skip
        if 0 < depth then goOn (.text ")" true) (.arithmetic (depth - 1))
        else if (← peek) = some ')' then
          skip
          return []
        else goOn (.text ")" true) s
      else plain c
    | .bare => if isMeta c then return [] else plain c
    | _ => plain c

def parts (nested : Nested) : Nat → Setting → Reader (List Part)
  | 0, _ => misprint "word too long"
  | n + 1, s => step nested (parts nested n) s

def read (nested : Nested) : Reader Word := do
  parts nested (← get).bound .bare

def isQuoted : Word → Bool
  | [] => false
  | .mark :: _ => true
  | .text _ q :: w => q || isQuoted w
  | _ :: w => isQuoted w

def literalText (w : Word) : String :=
  String.join (w.map fun p =>
    match p with
    | .text s _ => s
    | _ => "")

end Word

end TreeTool.Shell
