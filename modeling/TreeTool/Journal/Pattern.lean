import TreeTool.Number.Digits
import TreeTool.Text.Alphanumeric
import TreeTool.Text.Blank

/-!
# Patterns for field values

A filter may ask for a field whose value fits a regular expression. This journal has no values
that such a condition applies to, but a pattern that is not well-formed spoils the filter, so
`Pattern.isWellFormed` decides which texts are patterns.

Characters are those of Unicode, of which no tables are at hand: the classes of digits, blanks and
word characters, word boundaries and the folding of letters are refused, except where the flag `u`
is taken away and they mean those of ASCII.
-/

namespace TreeTool.Journal.Pattern

/-- The flags that decide what is well-formed: blanks are ignored, the characters are those of
Unicode, letters are folded. -/
structure Mode where
  spaced : Bool := false
  unicode : Bool := true
  folded : Bool := false
  deriving DecidableEq, Repr

/-- What stands before a place: whether it can be repeated, the modes of the groups around it,
and the names of the groups so far. -/
structure State where
  mode : Mode := {}
  repeatable : Bool := false
  outer : List Mode := []
  names : List (List Char) := []
  deriving DecidableEq, Repr

def skip (m : Mode) : List Char → List Char
  | [] => []
  | c :: cs =>
    if !m.spaced then c :: cs
    else if Text.isBlank c then skip m cs
    else if c = '#' then afterComment m cs
    else c :: cs
where
  afterComment (m : Mode) : List Char → List Char
    | [] => []
    | c :: cs => if c = '\n' then skip m cs else afterComment m cs

inductive Escape
  | literal (code : Nat) (byte : Bool)
  | shorthand (negated : Bool)
  | anchor
  | boundary
  deriving DecidableEq, Repr

def hexDigits (m : Mode) : Nat → List Char → Option (List Char × List Char)
  | 0, cs => some ([], cs)
  | n + 1, cs =>
    match skip m cs with
    | [] => none
    | c :: cs =>
      if Number.isHex c then (hexDigits m n cs).map fun (ds, rest) => (c :: ds, rest) else none

def isCodePoint (n : Nat) : Bool := n < 0xD800 || (0xDFFF < n && n ≤ 0x10FFFF)

def controls : List (Char × Nat) :=
  [('a', 7), ('f', 12), ('t', 9), ('n', 10), ('r', 13), ('v', 11)]

def escape (m : Mode) : List Char → Option (Escape × List Char)
  | [] => none
  | c :: cs =>
    let hex := fun (n : Nat) =>
      match hexDigits m n cs with
      | none => none
      | some (ds, rest) =>
        let code := Number.ofDigits 16 ds
        if isCodePoint code then some (.literal code (n = 2), rest) else none
    if c = 'x' then hex 2
    else if c = 'u' then hex 4
    else if c = 'U' then hex 8
    else if "dsw".contains c then some (.shorthand false, cs)
    else if "DSW".contains c then some (.shorthand true, cs)
    else if let some code := controls.lookup c then some (.literal code false, cs)
    else if c = 'A' || c = 'z' then some (.anchor, cs)
    else if c = 'b' then
      if cs.head? = some '\x7b' then none else some (.boundary, cs)
    else if c = 'B' || c = '<' || c = '>' then some (.boundary, cs)
    else if c.toNat < 128 && !c.isAlphanum then some (.literal c.toNat false, cs)
    else none

def literalFits (m : Mode) (code : Nat) (byte : Bool) : Bool :=
  if m.unicode then !m.folded else !byte || code ≤ 0x7F

def classNames : List String :=
  ["alnum", "alpha", "ascii", "blank", "cntrl", "digit", "graph", "lower", "print", "punct",
    "space", "upper", "word", "xdigit"]

def namedClass : List Char → Option (Bool × List Char)
  | ':' :: cs =>
    let negated := cs.head? = some '^'
    let cs := if negated then cs.drop 1 else cs
    let name := cs.takeWhile (· ≠ ':')
    match cs.dropWhile (· ≠ ':') with
    | ':' :: ']' :: rest =>
      if String.ofList name ∈ classNames then some (negated, rest) else none
    | _ => none
  | _ => none

inductive Element
  | literal (code : Nat)
  | shorthand

def element (m : Mode) : List Char → Option (Element × List Char)
  | [] => none
  | '\\' :: cs =>
    match escape m cs with
    | some (.literal code byte, rest) =>
      if m.unicode || !byte || code ≤ 0x7F then some (.literal code, rest) else none
    | some (.shorthand negated, rest) =>
      if m.unicode || negated then none else some (.shorthand, rest)
    | _ => none
  | c :: cs => if m.unicode || c.toNat < 128 then some (.literal c.toNat, cs) else none

def range (m : Mode) (cs : List Char) : Option (List Char) :=
  match element m cs with
  | none => none
  | some (e, rest) =>
    match skip m rest with
    | [] => none
    | '-' :: after =>
      match skip m after with
      | [] => none
      | d :: more =>
        if d = ']' || d = '-' then some ('-' :: after)
        else match e, element m (d :: more) with
          | .literal a, some (.literal b, rest) => if a ≤ b then some rest else none
          | _, _ => none
    | rest => some rest

/-- The part of a class after its opening bracket that cannot be its end: a circumflex, hyphens,
and a closing bracket that stands first. -/
def classStart (m : Mode) (cs : List Char) : Option (List Char) :=
  let cs := skip m cs
  let negated := cs.head? = some '^'
  let cs := if negated then skip m (cs.drop 1) else cs
  if negated && !m.unicode then none
  else
    match hyphens cs.length cs with
    | (_, []) => none
    | (false, ']' :: cs) => some (skip m cs)
    | (_, cs) => some cs
where
  hyphens : Nat → List Char → Bool × List Char
    | n + 1, '-' :: cs => (true, (hyphens n (skip m cs)).2)
    | _, cs => (false, cs)

def classEnd (m : Mode) : Nat → (depth : Nat) → List Char → Option (List Char)
  | 0, _, _ => none
  | n + 1, depth, cs =>
    match skip m cs with
    | [] => none
    | ']' :: cs => if depth = 1 then some cs else classEnd m n (depth - 1) cs
    | '[' :: cs =>
      match namedClass cs with
      | some (negated, rest) =>
        if negated && !m.unicode then none else classEnd m n depth rest
      | none => (classStart m cs).bind (classEnd m n (depth + 1))
    | '&' :: '&' :: cs => classEnd m n depth cs
    | '-' :: '-' :: cs => classEnd m n depth cs
    | '~' :: '~' :: cs => classEnd m n depth cs
    | cs => (range m cs).bind (classEnd m n depth)

def flags (seen : List Char) (away : Bool) (m : Mode) : List Char → Option (Mode × List Char)
  | [] => none
  | c :: cs =>
    if c = ':' || c = ')' then
      if seen.head? = some '-' then none else some (m, c :: cs)
    else if c ∈ seen then none
    else if c = '-' then flags (c :: seen) true m cs
    else if c = 'x' then flags (c :: seen) away { m with spaced := !away } cs
    else if c = 'u' then flags (c :: seen) away { m with unicode := !away } cs
    else if c = 'i' then flags (c :: seen) away { m with folded := !away } cs
    else if "msUR".contains c then flags (c :: seen) away m cs
    else none

def isNameStart (c : Char) : Bool := c = '_' || (Text.isAlphanumeric c && !c.isDigit)

def isNameChar (c : Char) : Bool :=
  c = '_' || c = '.' || c = '[' || c = ']' || Text.isAlphanumeric c

def opened (s : State) (cs : List Char) : Option (State × List Char) :=
  let inside : State := { s with outer := s.mode :: s.outer, repeatable := false }
  let named := fun (cs : List Char) =>
    let name := cs.takeWhile (· ≠ '>')
    match cs.dropWhile (· ≠ '>') with
    | _ :: rest =>
      if name.head?.any isNameStart && name.all isNameChar && name ∉ s.names then
        some ({ inside with names := name :: s.names }, rest)
      else none
    | [] => none
  match skip s.mode cs with
  | '?' :: '=' :: _ | '?' :: '!' :: _ | '?' :: '<' :: '=' :: _ | '?' :: '<' :: '!' :: _ => none
  | '?' :: 'P' :: '<' :: cs => named cs
  | '?' :: '<' :: cs => named cs
  | '?' :: ')' :: _ => none
  | '?' :: cs =>
    match flags [] false s.mode cs with
    | some (m, ':' :: rest) => some ({ inside with mode := m }, rest)
    | some (m, _ :: rest) => some ({ s with mode := m, repeatable := false }, rest)
    | _ => none
  | cs => some (inside, cs)

def goesOn : Nat → State → List Char → Bool
  | 0, _, _ => false
  | n + 1, s, cs =>
    let after := fun (rest : List Char) => goesOn n { s with repeatable := true } rest
    match skip s.mode cs with
    | [] => s.outer.isEmpty
    | c :: cs =>
      if c = '(' then
        match opened s cs with
        | some (s, rest) => goesOn n s rest
        | none => false
      else if c = ')' then
        match s.outer with
        | m :: outer => goesOn n { s with mode := m, outer, repeatable := true } cs
        | [] => false
      else if c = '|' then goesOn n { s with repeatable := false } cs
      else if c = '[' then
        match (classStart s.mode cs).bind (classEnd s.mode n 1) with
        | some rest => !(s.mode.folded && s.mode.unicode) && after rest
        | none => false
      else if c = '?' || c = '*' || c = '+' then
        s.repeatable && after (match cs with
          | '?' :: cs => cs
          | cs => cs)
      else if c = '\x7b' then false
      else if c = '\\' then
        match escape s.mode cs with
        | some (.literal code byte, rest) => literalFits s.mode code byte && after rest
        | some (.shorthand negated, rest) => !s.mode.unicode && !negated && after rest
        | some (.anchor, rest) => after rest
        | some (.boundary, rest) => !s.mode.unicode && after rest
        | none => false
      else if c = '.' then s.mode.unicode && after cs
      else if c = '^' || c = '$' then after cs
      else literalFits s.mode c.toNat false && after cs

def isWellFormed (cs : List Char) : Bool := goesOn (cs.length + 1) {} cs

end TreeTool.Journal.Pattern
