import TreeTool.Program.Regular

/-!
# Scripts of the stream editor

A script is a sequence of commands, each with at most two addresses that say on which lines it is
carried out. Commands in braces belong together. `read` reads a script, or says what is wrong with
it and after how many characters that was seen.
-/

namespace TreeTool.Program.Editing

open Regular (Expression)

/-- A line that is meant: by its number, as the last one, by a match, or every so many lines. An
empty expression stands for the one that was used last. -/
inductive Address
  | line (n : Nat)
  | last
  | fits (e : Option Expression)
  | step (first step : Nat)

inductive Ending
  | at_ (a : Address)
  | after (n : Nat)
  | multiple (n : Nat)

inductive Portion
  | text (s : String)
  | group (n : Nat)
  | case_ (letter : Char)

/-- A substitution: what is looked for, what is put there, which of the matches are meant, and what
is done when there was one. -/
structure Substitution where
  pattern : Option Expression
  replacement : List Portion
  number : Nat := 1
  all : Bool := false
  prints : Bool := false
  target : Option String := none

inductive Action
  | open_ | close | label (name : String)
  | jump (kind : Char) (label : String)
  | text (kind : Char) (s : String)
  | letter (c : Char)
  | list (width : Option Nat)
  | quit (silent : Bool) (status : Nat)
  | file (kind : Char) (path : String)
  | substitute (s : Substitution)
  | translate (table : List (Char × Char))

structure Command where
  first : Option Address := none
  ending : Option Ending := none
  negated : Bool := false
  action : Action

/-! ## Reading -/

structure Reading where
  rest : List Char
  taken : Nat := 0

abbrev Reader := StateT Reading (Except (Nat × String))

namespace Reader

def peek : Reader (Option Char) := return (← get).rest.head?

def skip : Reader Unit :=
  modify fun r => { rest := r.rest.tail, taken := r.taken + (if r.rest.isEmpty then 0 else 1) }

def take : Reader (Option Char) := do
  let c ← peek
  skip
  return c

def fail {α : Type} (message : String) : Reader α := do throw ((← get).taken, message)

def failAt {α : Type} (n : Nat) (message : String) : Reader α := throw (n, message)

def takeWhile (p : Char → Bool) : Reader (List Char) := do
  let r ← get
  let cs := r.rest.takeWhile p
  set { r with rest := r.rest.drop cs.length, taken := r.taken + cs.length }
  return cs

end Reader

open Reader

def isBlank (c : Char) : Bool := c = ' ' || c = '\t'

def isSpace (c : Char) : Bool := c = ' ' || (9 ≤ c.toNat && c.toNat ≤ 13)

def number : Reader Nat := return Number.ofDigits 10 (← takeWhile Char.isDigit)

def bracketed : Nat → (front : Bool) → Reader (Option (List Char))
  | 0, _ => return none
  | n + 1, front => do
    match ← take with
    | none => return none
    | some '\\' =>
      if (← peek) = some 'n' then
        skip
        return (← bracketed n false).map ('\n' :: ·)
      else return (← bracketed n false).map ('\\' :: ·)
    | some '[' =>
      match ← peek with
      | some ':' | some '.' | some '=' => do
        let cs ← takeWhile (· ≠ ']')
        skip
        return (← bracketed n false).map fun rest => '[' :: cs ++ ']' :: rest
      | _ => return (← bracketed n false).map ('[' :: ·)
    | some c =>
      if c = ']' && !front then return some [']']
      else return (← bracketed n (front && c = '^')).map (c :: ·)

/-- The text up to a mark, in which a backslash keeps the mark; a backslash before anything else is
kept as well. In a pattern a mark between brackets is none. Nothing, if the mark does not come. -/
def upTo (pattern : Bool) (mark : Char) : Nat → Reader (Option (List Char))
  | 0 => return none
  | n + 1 => do
    match ← take with
    | none => return none
    | some '\\' =>
      match ← take with
      | none => return none
      | some c =>
        let kept := if c = mark then [c] else ['\\', c]
        return (← upTo pattern mark n).map (kept ++ ·)
    | some '\n' => do
      modify fun r => { rest := '\n' :: r.rest, taken := r.taken - 1 }
      return none
    | some c =>
      if c = mark then return some []
      else if c = '[' && pattern then
        match ← bracketed n true with
        | none => return none
        | some cs => return (← upTo pattern mark n).map (c :: cs ++ ·)
      else return (← upTo pattern mark n).map (c :: ·)

def segment (pattern : Bool) (mark : Char) : Reader (Option (List Char)) := do
  upTo pattern mark ((← get).rest.length + 1)

def escapeLetters : List (Char × Char) :=
  [('a', '\x07'), ('f', '\x0c'), ('t', '\t'), ('v', '\x0b'), ('r', '\r')]

def withEscapes : List Char → List Char
  | [] => []
  | [c] => [c]
  | '\\' :: c :: cs =>
    match escapeLetters.lookup c with
    | some d => d :: withEscapes cs
    | none => '\\' :: c :: withEscapes cs
  | c :: cs => c :: withEscapes cs

def withCodes : Nat → List Char → List Char
  | 0, cs => cs
  | _, [] => []
  | n + 1, '\\' :: 'x' :: a :: b :: cs =>
    if Number.isHex a && Number.isHex b then
      Char.ofNat (Number.ofDigits 16 [a, b]) :: withCodes n cs
    else '\\' :: 'x' :: withCodes n (a :: b :: cs)
  | n + 1, '\\' :: c :: cs => '\\' :: c :: withCodes n cs
  | n + 1, c :: cs => c :: withCodes n cs

def groupsIn : Expression → Nat
  | .both a b | .either a b => max (groupsIn a) (groupsIn b)
  | .group n a => max n (groupsIn a)
  | .rounds a _ _ => groupsIn a
  | _ => 0

def expression (extended caseless : Bool) (cs : List Char) : Reader (Option Expression) := do
  if cs.isEmpty then return none
  let cs := withCodes cs.length (withEscapes cs)
  let starts := match cs with
    | c :: _ => extended && (c = '*' || c = '+' || c = '?')
    | [] => false
  if starts then fail Regular.Flaw.nothingBefore.text
  match Regular.read { extended, caseless } (String.ofList cs) with
  | .ok e => return some e
  | .error f => fail f.text

/-! ## Addresses -/

def addressFlags : Reader Bool := do
  let cs ← takeWhile fun c => c = 'I' || c = 'M'
  return 'I' ∈ cs

def address? (extended : Bool) : Reader (Option Address) := do
  let pattern := fun (mark : Char) => do
    match ← segment true mark with
    | none => fail "unterminated address regex"
    | some cs => do
      let caseless ← addressFlags
      return some (Address.fits (← expression extended caseless cs))
  match ← peek with
  | some '/' => do
    skip
    pattern '/'
  | some '\\' => do
    skip
    match ← take with
    | none => fail "unterminated address regex"
    | some mark => pattern mark
  | some '$' => do
    skip
    return some .last
  | some c =>
    if c.isDigit then
      let n ← number
      if (← peek) = some '~' then
        skip
        return some (.step n (← number))
      else return some (.line n)
    else return none
  | none => return none

def ending? (extended : Bool) : Reader Ending := do
  discard (takeWhile isBlank)
  match ← peek with
  | some '+' => do
    skip
    return .after (← number)
  | some '~' => do
    skip
    return .multiple (← number)
  | _ =>
    match ← address? extended with
    | some a => return .at_ a
    | none => do
      skip
      fail "unexpected \x60,'"

/-! ## Commands -/

def commandEnd : Reader Unit := do
  discard (takeWhile isBlank)
  match ← peek with
  | none | some '\x7d' | some '#' => return
  | some '\n' | some ';' => skip
  | some _ => do
    skip
    fail "extra characters after command"

def textLines : Nat → Reader (List Char)
  | 0 => return []
  | n + 1 => do
    match ← take with
    | none => return []
    | some '\n' => return ['\n']
    | some '\\' =>
      match ← take with
      | none => return []
      | some c => return ((escapeLetters.lookup c).getD c) :: (← textLines n)
    | some c => return c :: (← textLines n)

def commandText : Reader String := do
  discard (takeWhile isBlank)
  if (← peek).isNone then fail "expected \\ after \x60a', \x60c' or \x60i'"
  if (← peek) = some '\\' then
    skip
    let blanks ← takeWhile isBlank
    if (← peek).isNone then return ""
    else if (← peek) = some '\n' then
      skip
    else modify fun r =>
      { rest := blanks ++ r.rest, taken := r.taken - blanks.length }
  let cs ← textLines ((← get).rest.length + 1)
  return String.ofList (if cs.getLast? = some '\n' then cs else cs ++ ['\n'])

def filePath : Reader String := do
  discard (takeWhile isBlank)
  let cs ← takeWhile (· ≠ '\n')
  skip
  if cs.isEmpty then fail "missing filename in r/R/w/W commands"
  return String.ofList cs

def labelName : Reader String := do
  discard (takeWhile isBlank)
  let cs ← takeWhile fun c => !isSpace c && c ≠ ';'
  return String.ofList cs

def addText (s : String) : List Portion → List Portion
  | .text t :: ps => .text (s ++ t) :: ps
  | ps => .text s :: ps

def portions : List Char → List Portion
  | [] => []
  | '&' :: cs => .group 0 :: portions cs
  | '\\' :: c :: cs =>
    if c.isDigit then .group (c.toNat - 48) :: portions cs
    else if "LUEul".contains c then .case_ c :: portions cs
    else if c = 'n' then addText "\n" (portions cs)
    else addText ((escapeLetters.lookup c).getD c).toString (portions cs)
  | c :: cs => addText c.toString (portions cs)

def substitutionFlags (numbered : Bool) : Nat → Bool → Substitution →
    Reader (Substitution × Bool)
  | 0, caseless, s => return (s, caseless)
  | n + 1, caseless, s => do
    match ← peek with
    | some 'g' => do
      skip
      if s.all then fail "multiple \x60g' options to \x60s' command"
      substitutionFlags numbered n caseless { s with all := true }
    | some 'p' => do
      skip
      if s.prints then fail "multiple \x60p' options to \x60s' command"
      substitutionFlags numbered n caseless { s with prints := true }
    | some 'i' | some 'I' => do
      skip
      substitutionFlags numbered n true s
    | some 'm' | some 'M' => do
      skip
      substitutionFlags numbered n caseless s
    | some 'w' => do
      skip
      return ({ s with target := some (← filePath) }, caseless)
    | some c =>
      if c.isDigit then
        let k ← number
        if numbered then fail "multiple number options to \x60s' command"
        if k = 0 then fail "number option to \x60s' command may not be zero"
        substitutionFlags true n caseless { s with number := k }
      else if c = '\n' || c = ';' then
        skip
        return (s, caseless)
      else if c = '\x7d' || c = '#' then return (s, caseless)
      else if isBlank c then
        skip
        substitutionFlags numbered n caseless s
      else do
        skip
        fail "unknown option to \x60s'"
    | none => return (s, caseless)

def substitution (extended : Bool) : Reader Substitution := do
  let unterminated := fun {α : Type} => (fail "unterminated \x60s' command" : Reader α)
  match ← take with
  | none => unterminated
  | some mark =>
    match ← segment true mark with
    | none => unterminated
    | some pattern =>
      match ← segment false mark with
      | none => unterminated
      | some replacement => do
        let ps := portions (withCodes replacement.length replacement)
        let (s, caseless) ← substitutionFlags false ((← get).rest.length + 1) false
          { pattern := none, replacement := ps }
        let e ← expression extended caseless pattern
        let most := ps.foldl (fun (m : Nat) p =>
          match p with
          | .group n => max m n
          | _ => m) 0
        if e.any fun e => groupsIn e < most then
          fail ("invalid reference \\" ++ toString most ++ " on \x60s' command's RHS")
        return { s with pattern := e }

def translated : List Char → List Char
  | [] => []
  | '\\' :: c :: cs =>
    (if c = '\\' then '\\' else if c = 'n' then '\n' else (escapeLetters.lookup c).getD c) ::
      translated cs
  | c :: cs => c :: translated cs

def translation : Reader Action := do
  let unterminated := fun {α : Type} => (fail "unterminated \x60y' command" : Reader α)
  match ← take with
  | none => unterminated
  | some mark =>
    match ← segment false mark, ← segment false mark with
    | some a, some b => do
      let a := translated a
      let b := translated b
      if a.length ≠ b.length then fail "strings for \x60y' command are different lengths"
      commandEnd
      return .translate (a.zip b)
    | _, _ => unterminated

def plainLetters : List Char :=
  ['=', 'd', 'D', 'F', 'g', 'G', 'h', 'H', 'n', 'N', 'p', 'P', 'x', 'z', 'v']

def action (extended : Bool) (c : Char) : Reader Action := do
  let status := do
    discard (takeWhile isBlank)
    let n ← number
    commandEnd
    return n
  match c with
  | '\x7b' => return .open_
  | '\x7d' => do
    commandEnd
    return .close
  | 'a' | 'i' | 'c' => return .text c (← commandText)
  | ':' => do
    let name ← labelName
    if name.isEmpty then fail "\":\" lacks a label"
    return .label name
  | 'b' | 't' | 'T' => do
    let name ← labelName
    if (← peek) = some ';' then skip
    let brace := name.toList.getLast? = some '\x7d'
    if brace then
      modify fun r => { rest := '\x7d' :: r.rest, taken := r.taken - 1 }
      return .jump c (String.ofList name.toList.dropLast)
    else return .jump c name
  | 'l' => do
    discard (takeWhile isBlank)
    let ds ← takeWhile Char.isDigit
    commandEnd
    return .list (if ds.isEmpty then none else some (Number.ofDigits 10 ds))
  | 'q' => return .quit false (← status)
  | 'Q' => return .quit true (← status)
  | 'r' | 'w' => return .file c (← filePath)
  | 's' => return .substitute (← substitution extended)
  | 'y' => translation
  | c =>
    if c ∈ plainLetters then
      commandEnd
      return .letter c
    else fail ("unknown command: \x60" ++ c.toString ++ "'")

def isSingle : Address → Bool
  | .line _ => true
  | _ => false

def command (extended : Bool) : Reader (Option Command) := do
  discard (takeWhile fun c => isSpace c || c = ';')
  if (← peek).isNone then return none
  let first ← address? extended
  discard (takeWhile isBlank)
  let ending ← (do
    if first.isSome && (← peek) = some ',' then
      skip
      return some (← ending? extended)
    else return none)
  let fromZero := match first, ending with
    | some (.line 0), some (.at_ (.fits _)) => false
    | some (.line 0), _ => true
    | _, _ => false
  discard (takeWhile isBlank)
  let negated := (← peek) = some '!'
  if negated then
    skip
    discard (takeWhile isBlank)
    if (← peek) = some '!' then
      skip
      fail "multiple \x60!'s"
  match ← take with
  | none => fail "missing command"
  | some c => do
    if fromZero then fail "invalid usage of line address 0"
    if c = '#' then
      if first.isSome then fail "comments don't accept any addresses"
      discard (takeWhile (· ≠ '\n'))
      return some { action := .label "" }
    if c = ':' && first.isSome then fail ": doesn't want any addresses"
    if (c = 'q' || c = 'Q') && ending.isSome then fail "command only uses one address"
    return some { first, ending, negated, action := ← action extended c }

def commandsFrom (extended : Bool) : Nat → (depth : Nat) → Reader (List Command × Nat)
  | 0, depth => return ([], depth)
  | n + 1, depth => do
    match ← command extended with
    | none => return ([], depth)
    | some c => do
      let goOn := fun (depth : Nat) => do
        let (cs, d) ← commandsFrom extended n depth
        return (c :: cs, d)
      match c.action with
      | .open_ => goOn (depth + 1)
      | .close =>
        if depth = 0 then do
          fail "unexpected \x60\x7d'"
        else goOn (depth - 1)
      | _ => goOn depth

def read (extended : Bool) (depth : Nat) (text : String) :
    Except (Nat × String) (List Command × Nat) :=
  ((commandsFrom extended (text.length + 1) depth).run { rest := text.toList }).map (·.1)

def isQuiet (text : String) : Bool := ['#', 'n'].isPrefixOf text.toList

end TreeTool.Program.Editing
