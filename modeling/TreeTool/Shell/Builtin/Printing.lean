import TreeTool.Program.Format
import TreeTool.Shell.Builtin.Options
import TreeTool.Shell.Condition

/-!
# Built-in commands that print and test
-/

namespace TreeTool.Shell.Builtin

def echo (as : List String) : Step Nat := do
  let (newline, as) := match as with
    | "-n" :: as => (false, as)
    | as => (true, as)
  let (text, stop) := Program.Escaped.argument (" ".intercalate as)
  put (if newline && !stop then text ++ "\n" else text)
  return 0

def doubtText : String × Program.Doubt → String
  | (a, .notNumber) => a ++ ": expected numeric value"
  | (a, .partly) => a ++ ": not completely converted"
  | (a, .outOfRange) => a ++ ": Numerical result out of range"

def printf (as : List String) : Step Nat := do
  let (_, as) ← options "" as
  match as with
  | [] => fail "usage: printf format [arg ...]"
  | format :: as => do
    let f := Program.formatted format as
    put f.text
    f.doubts.forM fun d => warn (doubtText d)
    match f.badDirective with
    | some "" => fail "missing format character"
    | some directive => fail (directive ++ ": invalid directive")
    | none => return if f.doubts.isEmpty then 0 else 1

def test (as : List String) : Step Nat := do
  match ← look fun w me => Condition.value (Condition.facts w me) as with
  | .ok b => return if b then 0 else 1
  | .error f => fail f.message

def bracketed (as : List String) : Step Nat :=
  if as.getLast? = some "]" then test as.dropLast else fail "missing ]"

end TreeTool.Shell.Builtin
