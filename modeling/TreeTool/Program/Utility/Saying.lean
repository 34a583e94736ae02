import TreeTool.Program.Format
import TreeTool.Program.Options
import TreeTool.Shell.Condition

/-!
# Utilities that print their arguments and test them
-/

namespace TreeTool.Program

open Work

/-! ## Statuses -/

def answer (status : Nat) : Work Unit := setStatus status

/-! ## Texts -/

def isEchoOption (a : String) : Bool :=
  match a.toList with
  | '-' :: cs => !cs.isEmpty && cs.all ("neE".contains ·)
  | _ => false

def echo : Work Unit := do
  let as ← arguments
  let letters := (as.takeWhile isEchoOption).flatMap String.toList
  let text := " ".intercalate (as.dropWhile isEchoOption)
  let reads := (letters.reverse.find? fun c => c = 'e' || c = 'E') = some 'e'
  let (text, stop) := if reads then Escaped.argument text else (text, false)
  put (if stop || 'n' ∈ letters then text else text ++ "\n")

def doubtText : String × Doubt → String
  | (a, .notNumber) => quoted a ++ ": expected a numeric value"
  | (a, .partly) => quoted a ++ ": value not completely converted"
  | (a, .outOfRange) => quoted a ++ ": Numerical result out of range"

def printf : Work Unit := do
  let as := match ← arguments with
    | "--" :: as => as
    | as => as
  match as with
  | [] => misuse "missing operand"
  | format :: as => do
    let f := formatted format as
    put f.text
    f.doubts.forM fun d => complain (doubtText d)
    if !f.doubts.isEmpty then setStatus 1
    match f.badDirective, f.rest with
    | some d, _ => fail ((if d.isEmpty then "%" else d) ++ ": invalid conversion specification")
    | none, a :: _ =>
      complain ("warning: ignoring excess arguments, starting with " ++ quoted a)
    | none, [] => return

/-! ## Conditions -/

def faultText (as : List String) : Shell.Condition.Fault → String
  | .unexpected op =>
    match as with
    | [_, b] => "missing argument after " ++ quoted b
    | [_, b, _] => quoted b ++ ": binary operator expected"
    | _ => "extra argument " ++ quoted op
  | .missing op => "missing argument after " ++ quoted op
  | .unclosed => "')' expected"
  | .notNumber s => "invalid integer " ++ quoted s

def testOf (as : List String) : Work Unit := do
  match ← look fun w me => Shell.Condition.value (Shell.Condition.facts w me) as with
  | .ok b => setStatus (if b then 0 else 1)
  | .error f => fail (faultText as f) 2

def test : Work Unit := do testOf (← arguments)

def bracketedTest : Work Unit := do
  let as ← arguments
  if as.getLast? = some "]" then testOf as.dropLast else fail "missing ']'" 2

/-! ## The machine -/

def whoami : Work Unit := putLine "root"

def userIdentity : Work Unit := do
  let g ← given [⟨'u', "user", .nothing⟩, ⟨'g', "group", .nothing⟩, ⟨'G', "groups", .nothing⟩,
    ⟨'n', "name", .nothing⟩, ⟨'r', "real", .nothing⟩]
  if g.has 'u' || g.has 'g' || g.has 'G' then putLine (if g.has 'n' then "root" else "0")
  else putLine "uid=0(root) gid=0(root) groups=0(root)"

def uname : Work Unit := do
  let g ← given [⟨'s', "kernel-name", .nothing⟩, ⟨'m', "machine", .nothing⟩,
    ⟨'o', "operating-system", .nothing⟩, ⟨'p', "processor", .nothing⟩]
  let parts := (if g.has 's' || g.options.isEmpty then ["Linux"] else []) ++
    (if g.has 'm' then ["x86_64"] else []) ++ (if g.has 'p' then ["unknown"] else []) ++
    (if g.has 'o' then ["GNU/Linux"] else [])
  putLine (" ".intercalate parts)

def tty : Work Unit := do
  putLine "not a tty"
  setStatus 1

end TreeTool.Program
