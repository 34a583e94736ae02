import TreeTool.Number.Digits
import TreeTool.Text.Alphanumeric
import TreeTool.Text.Blank
import TreeTool.Tool.Machine

/-!
# Environment files

A file of `NAME=value` lines supplies variables that the environment does not set. Values may be
quoted, and a quoted value may run over several lines; outside single quotes `$NAME` stands for
the value of a variable. The first line that is malformed, or no text at all, ends the reading, and
the variables before it stay.
-/

namespace TreeTool.EnvironmentFile

/-! ## Lines -/

inductive Quoting
  | bare | blank | escaped | weak | weakEscaped | strong | strongEscaped
  deriving DecidableEq, Repr

namespace Quoting

def opening (c : Char) : Quoting :=
  if c = '\\' then escaped
  else if c = '"' then weak
  else if c = '\'' then strong
  else bare

def step (q : Quoting) (c : Char) : Quoting :=
  match q with
  | blank => opening c
  | escaped => bare
  | bare => if Text.isBlank c && c ≠ '\n' && c ≠ '\r' then blank else opening c
  | weak => if c = '\\' then weakEscaped else if c = '"' then bare else weak
  | weakEscaped => weak
  | strong => if c = '\\' then strongEscaped else if c = '\'' then bare else strong
  | strongEscaped => strong

end Quoting

def scan (q : Quoting) (before : List Char) : List Char → Quoting ⊕ List Char
  | [] => .inl q
  | c :: cs => if q = .blank ∧ c = '#' then .inr before.reverse else scan (q.step c) (c :: before) cs

def newline : UInt8 := 10

def physicalLines : Text.Bytes → List Text.Bytes
  | [] => []
  | b :: bs =>
    if b = newline then [b] :: physicalLines bs
    else match physicalLines bs with
      | [] => [[b]]
      | l :: ls => (b :: l) :: ls

def readable : List Text.Bytes → List (List Char)
  | [] => []
  | l :: ls =>
    match Text.Utf8.strict l with
    | some cs => cs :: readable ls
    | none => []

def withoutMark : List (List Char) → List (List Char)
  | ('\uFEFF' :: l) :: ls => l :: ls
  | ls => ls

def withoutEnd (cs : List Char) : List Char :=
  match cs.reverse with
  | '\n' :: '\r' :: r => r.reverse
  | '\n' :: r => r.reverse
  | _ => cs

/-- Joins lines as long as a quote is open. A line that starts a comment is empty; a text that
ends inside a quote has no last line. -/
def logicalLines (begun : List Char) (q : Quoting) : List (List Char) → List (Option (List Char))
  | [] => if q = .bare then [] else [none]
  | l :: ls =>
    if (Text.trimStart (begun ++ l)).head? = some '#' then some [] :: logicalLines [] .bare ls
    else match scan q [] l with
      | .inr before => some (begun ++ before) :: logicalLines [] .bare ls
      | .inl .bare => some (withoutEnd (begun ++ l)) :: logicalLines [] .bare ls
      | .inl q => logicalLines (begun ++ l) q ls

def lines (content : Text.Bytes) : List (Option (List Char)) :=
  logicalLines [] .bare (withoutMark (readable (physicalLines content)))

/-! ## Values -/

inductive Naming
  | off | plain | braced
  deriving DecidableEq, Repr

structure Reading where
  strong : Bool := false
  weak : Bool := false
  escaped : Bool := false
  ending : Bool := false
  naming : Naming := .off
  name : List Char := []
  output : List Char := []

namespace Reading

def push (r : Reading) (cs : List Char) : Reading := { r with output := r.output ++ cs }

def substitute (r : Reading) (lookup : String → String) : Reading :=
  { r.push (lookup (String.ofList r.name)).toList with name := [], naming := .off }

def inName (r : Reading) (lookup : String → String) (c : Char) : Reading :=
  if Text.isAlphanumeric c then { r with name := r.name ++ [c] }
  else if r.naming = .braced then
    if c = '\x7d' then r.substitute lookup else { r with name := r.name ++ [c] }
  else if c = '\x7b' && r.name.isEmpty then { r with naming := .braced }
  else if c = '$' then { r.substitute lookup with naming := .plain }
  else (r.substitute lookup).push [c]

def escapes : List Char := ['\\', '\'', '"', '$', ' ']

end Reading

def finished (lookup : String → String) (r : Reading) : Option Reading :=
  if r.naming = .braced || r.strong || r.weak then none else some (r.substitute lookup)

/-- The value of the rest of a line. After a blank outside quotes only a comment may follow. -/
def valueFrom (lookup : String → String) (r : Reading) : List Char → Option Reading
  | [] => finished lookup r
  | c :: cs =>
    if r.ending then
      if c = ' ' || c = '\t' then valueFrom lookup r cs
      else if c = '#' then finished lookup r
      else none
    else if r.escaped then
      if c ∈ Reading.escapes then valueFrom lookup { r.push [c] with escaped := false } cs
      else if c = 'n' then valueFrom lookup { r.push ['\n'] with escaped := false } cs
      else none
    else if r.strong then
      if c = '\'' then valueFrom lookup { r with strong := false } cs
      else valueFrom lookup (r.push [c]) cs
    else if r.naming ≠ .off then valueFrom lookup (r.inName lookup c) cs
    else if c = '$' then valueFrom lookup { r with naming := .plain } cs
    else if c = '\\' then valueFrom lookup { r with escaped := true } cs
    else if r.weak then
      if c = '"' then valueFrom lookup { r with weak := false } cs
      else valueFrom lookup (r.push [c]) cs
    else if c = '\'' then valueFrom lookup { r with strong := true } cs
    else if c = '"' then valueFrom lookup { r with weak := true } cs
    else if c = ' ' || c = '\t' then valueFrom lookup { r with ending := true } cs
    else valueFrom lookup (r.push [c]) cs

/-! ## Entries -/

def isLetter (c : Char) : Bool := ('a' ≤ c && c ≤ 'z') || ('A' ≤ c && c ≤ 'Z')

def startsName (c : Char) : Bool := isLetter c || c = '_'

def continuesName (c : Char) : Bool := startsName c || Number.isDigit c || c = '.'

def name? (cs : List Char) : Option (List Char × List Char) :=
  if cs.head?.any startsName then some (cs.takeWhile continuesName, cs.dropWhile continuesName)
  else none

def binding? (cs : List Char) : Option (List Char × List Char) := do
  let (name, cs) ← name? cs
  match Text.trimStart cs with
  | '=' :: cs => return (name, cs)
  | cs =>
    if name = "export".toList then
      let (name, cs) ← name? cs
      match Text.trimStart cs with
      | '=' :: cs => return (name, cs)
      | _ => none
    else none

/-- The variables known while a file is read: the environment's, and those the file has given. -/
structure Known where
  environment : Environment
  given : List (String × String) := []

namespace Known

/-- What stands for a name; no variable has the empty one. -/
def value (k : Known) (name : String) : String :=
  if name.isEmpty then ""
  else (k.environment.get? name).getD ((k.given.lookup name).getD "")

/-- An entry is given, and sets the variable unless that has a text already. -/
def add (k : Known) (name value : String) : Known :=
  ⟨k.environment.default name value, (name, value) :: k.given⟩

end Known

def entry? (k : Known) (line : List Char) : Option (Option (String × String)) :=
  let cs := Text.trim line
  if cs.isEmpty || cs.head? = some '#' then some none
  else do
    let (name, rest) ← binding? cs
    let rest := Text.trimStart rest
    if rest.isEmpty || rest.head? = some '#' then return some (String.ofList name, "")
    else
      let r ← valueFrom k.value {} rest
      return some (String.ofList name, String.ofList r.output)

def readLines (k : Known) : List (Option (List Char)) → Environment
  | [] => k.environment
  | none :: _ => k.environment
  | some l :: ls =>
    match entry? k l with
    | none => k.environment
    | some none => readLines k ls
    | some (some (name, value)) => readLines (k.add name value) ls

def read (e : Environment) (content : Text.Bytes) : Environment :=
  readLines { environment := e } (lines content)

def contentAt (files : Files.Tree) (here : Files.Place) (name : String) :
    Except Files.Problem (Option Text.Bytes) :=
  match files.get? (here ++ [name]) with
  | none => .ok none
  | some (.link _) =>
    match files.find here name with
    | .ok (_, e) => .ok e.content?
    | .error .missing => .ok none
    | .error problem => .error problem
  | some e => .ok e.content?

/-- The nearest file of this name in a directory or above it; `depth` counts the directories
above. Something else of that name is passed over, but not one that cannot be looked at. -/
def nearest (files : Files.Tree) (here : Files.Place) (name : String) : Nat → Option Text.Bytes
  | 0 => none
  | depth + 1 =>
    match contentAt files here name with
    | .ok (some content) => some content
    | .ok none => nearest files here.dropLast name depth
    | .error _ => none

def fileName : String := ".env"

def load (m : Machine) : Environment :=
  match nearest m.files m.here fileName (m.here.length + 1) with
  | none => m.environment
  | some content => read m.environment content

end TreeTool.EnvironmentFile
