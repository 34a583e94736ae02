import TreeTool.Program.Work

/-!
# Options of utilities

Options are letters after a dash or words after two dashes, and may stand between the operands; a
word may be cut short as long as it is clear which one is meant. What is wrong with options is
reported with a hint.
-/

namespace TreeTool.Program

inductive Takes
  | nothing | argument | joined
  deriving DecidableEq, Repr

structure Switch where
  letter : Char
  word : String := ""
  takes : Takes := .nothing
  deriving DecidableEq, Repr

structure Given where
  options : List (Char × String) := []
  operands : List String := []

namespace Given

def has (g : Given) (c : Char) : Bool := g.options.any (·.1 = c)

def value? (g : Given) (c : Char) : Option String :=
  (g.options.reverse.find? (·.1 = c)).map (·.2)

def last? (g : Given) (cs : List Char) : Option Char :=
  (g.options.reverse.find? fun o => o.1 ∈ cs).map (·.1)

def add (g : Given) (c : Char) (value : String) : Given :=
  { g with options := (c, value) :: g.options }

end Given

namespace Switch

def readLetters (switches : List Switch) (g : Given) (as : List String) :
    List Char → Except String (Given × List String)
  | [] => .ok (g, as)
  | c :: cs =>
    match switches.find? (·.letter = c) with
    | none => .error ("invalid option -- '" ++ c.toString ++ "'")
    | some s =>
      match s.takes with
      | .nothing => readLetters switches (g.add c "") as cs
      | .joined => .ok (g.add c (String.ofList cs), as)
      | .argument =>
        match cs, as with
        | [], [] => .error ("option requires an argument -- '" ++ c.toString ++ "'")
        | [], a :: as => .ok (g.add c a, as)
        | cs, as => .ok (g.add c (String.ofList cs), as)

def readWord (switches : List Switch) (g : Given) (as : List String) (text : String) :
    Except String (Given × List String) :=
  let name := String.ofList (text.toList.takeWhile (· ≠ '='))
  let value? := match text.toList.dropWhile (· ≠ '=') with
    | _ :: v => some (String.ofList v)
    | [] => none
  let known := switches.filter fun s => !s.word.isEmpty && name.toList.isPrefixOf s.word.toList
  let chosen := match known.find? (·.word = name), known with
    | some s, _ => some s
    | none, [s] => some s
    | none, _ => none
  match chosen with
  | none =>
    if known.isEmpty then .error ("unrecognized option '--" ++ text ++ "'")
    else .error ("option '--" ++ text ++ "' is ambiguous; possibilities:" ++
      String.join (known.map fun s => " '--" ++ s.word ++ "'"))
  | some s =>
    match s.takes, value? with
    | .nothing, some _ => .error ("option '--" ++ s.word ++ "' doesn't allow an argument")
    | .argument, none =>
      match as with
      | [] => .error ("option '--" ++ s.word ++ "' requires an argument")
      | a :: as => .ok (g.add s.letter a, as)
    | _, v => .ok (g.add s.letter (v.getD ""), as)

def readFrom (switches : List Switch) (mixed : Bool) : Nat → Given → List String →
    Except String Given
  | 0, g, as => .ok { g with operands := as.reverse ++ g.operands }
  | _, g, [] => .ok g
  | n + 1, g, a :: as =>
    match a.toList with
    | ['-', '-'] => .ok { g with operands := as.reverse ++ g.operands }
    | '-' :: '-' :: text => do
      let (g, as) ← readWord switches g as (String.ofList text)
      readFrom switches mixed n g as
    | '-' :: c :: cs => do
      let (g, as) ← readLetters switches g as (c :: cs)
      readFrom switches mixed n g as
    | _ =>
      if mixed then readFrom switches mixed n { g with operands := a :: g.operands } as
      else .ok { g with operands := (a :: as).reverse ++ g.operands }

def read (switches : List Switch) (mixed : Bool) (as : List String) : Except String Given :=
  (readFrom switches mixed (as.length + 1) {} as).map fun g =>
    ⟨g.options.reverse, g.operands.reverse⟩

end Switch

namespace Work

def misuse {α : Type} (message : String) (status : Nat := 1) (signed : Bool := false) :
    Work α := do
  complain message
  let name := (← get).image.name
  let hint := "Try '" ++ name ++ " --help' for more information."
  if signed then complain hint else warn (hint ++ "\n")
  exit status

def given (switches : List Switch) (status : Nat := 1) (mixed : Bool := true)
    (signed : Bool := false) : Work Given := do
  match Switch.read switches mixed (← arguments) with
  | .ok g => return g
  | .error message => misuse message status signed

def operands (g : Given) (status : Nat := 1) : Work (List String) :=
  if g.operands.isEmpty then misuse "missing operand" status else return g.operands

def quoted (name : String) : String :=
  let cs := name.toList
  let plain := fun (c : Char) => 32 ≤ c.toNat && c.toNat < 127 && c ≠ '\''
  if cs.all plain then "'" ++ name ++ "'"
  else if cs.all (fun c => plain c || c = '\'') then "\"" ++ name ++ "\""
  else "'" ++ String.join (cs.map fun c =>
    if c = '\'' then "'\\''"
    else if plain c then c.toString
    else "'$'" ++ (match c with
      | '\n' => "\\n"
      | '\t' => "\\t"
      | '\r' => "\\r"
      | c =>
        let ds := String.ofList (Nat.toDigits 8 c.toNat)
        "\\" ++ String.ofList (List.replicate (3 - ds.length) '0') ++ ds) ++ "''") ++ "'"

end Work

end TreeTool.Program
