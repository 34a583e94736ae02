import TreeTool.Number.Binary64
import TreeTool.Number.Digits
import TreeTool.Toml.Table

/-!
# Reading TOML text

Each reader takes something off the front of a text and returns the rest, or refuses the text.
A refusal is final: no reader is tried where another one has begun to fit. `Document.read` reads
a whole text into lines and blocks, which `rootOf` then puts together.
-/

namespace TreeTool.Toml

abbrev Rest := List Char

/-! ## Blanks, comments and ends of lines -/

def isBlank (c : Char) : Bool := c = ' ' || c = '\t'

def skipBlank (cs : List Char) : Rest := cs.dropWhile isBlank

def isPlain (c : Char) : Bool := c = '\t' || (32 ≤ c.toNat && c.toNat ≠ 127)

def lineEnd? : List Char → Option Rest
  | '\n' :: cs => some cs
  | '\r' :: '\n' :: cs => some cs
  | _ => none

def trailing (cs : List Char) : Option Rest :=
  let cs := skipBlank cs
  let cs := match cs with
    | '#' :: cs => cs.dropWhile isPlain
    | cs => cs
  if cs.isEmpty then some [] else lineEnd? cs

def skipLines : Nat → List Char → Rest
  | 0, cs => cs
  | n + 1, cs =>
    match skipBlank cs with
    | '#' :: cs =>
      match lineEnd? (cs.dropWhile isPlain) with
      | some cs => skipLines n cs
      | none => '#' :: cs
    | cs =>
      match lineEnd? cs with
      | some cs => skipLines n cs
      | none => cs

/-! ## Strings -/

def isScalar (n : Nat) : Bool := n < 0xD800 || (0xDFFF < n && n < 0x110000)

def scalarOf (ds : List Char) : Option Char :=
  if ds.all Number.isHex && isScalar (Number.ofDigits 16 ds) then
    some (Char.ofNat (Number.ofDigits 16 ds))
  else none

def escape : List Char → Option (Char × Rest)
  | 'b' :: cs => some ('\x08', cs)
  | 't' :: cs => some ('\t', cs)
  | 'n' :: cs => some ('\n', cs)
  | 'f' :: cs => some ('\x0c', cs)
  | 'r' :: cs => some ('\r', cs)
  | '"' :: cs => some ('"', cs)
  | '\\' :: cs => some ('\\', cs)
  | 'u' :: a :: b :: c :: d :: cs => (scalarOf [a, b, c, d]).map fun x => (x, cs)
  | 'U' :: a :: b :: c :: d :: e :: f :: g :: h :: cs =>
    (scalarOf [a, b, c, d, e, f, g, h]).map fun x => (x, cs)
  | _ => none

/-- A basic string after its opening quote. Every step takes a character, so the length of the
text is fuel enough. -/
def basicBody : Nat → List Char → Option (List Char × Rest)
  | 0, _ => none
  | _, [] => none
  | n + 1, c :: cs =>
    if c = '"' then some ([], cs)
    else if c = '\\' then do
      let (x, cs) ← escape cs
      let (xs, cs) ← basicBody n cs
      return (x :: xs, cs)
    else if isPlain c then (basicBody n cs).map fun (xs, cs) => (c :: xs, cs)
    else none

def literalBody (cs : List Char) : Option (List Char × Rest) :=
  match cs.dropWhile fun c => isPlain c && c ≠ '\'' with
  | '\'' :: rest => some (cs.takeWhile fun c => isPlain c && c ≠ '\'', rest)
  | _ => none

/-- A run of quotes inside a string of several lines: up to two are content, three to five close
the string and those before the last three are content. -/
def quoteRun (q : Char) (cs : List Char) : Nat × Bool × Rest :=
  let n := (cs.takeWhile (· = q)).length
  let n := min n 5
  (if n < 3 then n else n - 3, decide (3 ≤ n), cs.drop n)

def skipEnds : List Char → Rest
  | '\r' :: '\n' :: cs => skipEnds cs
  | c :: cs => if c = '\n' || isBlank c then skipEnds cs else c :: cs
  | [] => []

def basicLines : Nat → List Char → Option (List Char × Rest)
  | 0, _ => none
  | _, [] => none
  | n + 1, c :: cs =>
    if c = '"' then
      match quoteRun '"' (c :: cs) with
      | (k, true, rest) => some (List.replicate k '"', rest)
      | (k, false, rest) =>
        (basicLines n rest).map fun (xs, cs) => (List.replicate k '"' ++ xs, cs)
    else if c = '\\' then
      match lineEnd? (skipBlank cs) with
      | some rest => basicLines n (skipEnds rest)
      | none => do
        let (x, cs) ← escape cs
        let (xs, cs) ← basicLines n cs
        return (x :: xs, cs)
    else match lineEnd? (c :: cs) with
      | some rest => (basicLines n rest).map fun (xs, cs) => ('\n' :: xs, cs)
      | none =>
        if isPlain c then (basicLines n cs).map fun (xs, cs) => (c :: xs, cs) else none

def literalLines : Nat → List Char → Option (List Char × Rest)
  | 0, _ => none
  | _, [] => none
  | n + 1, c :: cs =>
    if c = '\'' then
      match quoteRun '\'' (c :: cs) with
      | (k, true, rest) => some (List.replicate k '\'', rest)
      | (k, false, rest) =>
        (literalLines n rest).map fun (xs, cs) => (List.replicate k '\'' ++ xs, cs)
    else match lineEnd? (c :: cs) with
      | some rest => (literalLines n rest).map fun (xs, cs) => ('\n' :: xs, cs)
      | none =>
        if isPlain c then (literalLines n cs).map fun (xs, cs) => (c :: xs, cs) else none

def afterOpening (cs : List Char) : Rest := (lineEnd? cs).getD cs

def string (cs : List Char) : Option (String × Rest) :=
  let made := fun (r : Option (List Char × Rest)) => r.map fun (xs, cs) => (String.ofList xs, cs)
  match cs with
  | '"' :: '"' :: '"' :: cs => made (basicLines (cs.length + 1) (afterOpening cs))
  | '"' :: cs => made (basicBody (cs.length + 1) cs)
  | '\'' :: '\'' :: '\'' :: cs => made (literalLines (cs.length + 1) (afterOpening cs))
  | '\'' :: cs => made (literalBody cs)
  | _ => none

/-! ## Keys -/

def isBare (c : Char) : Bool :=
  Number.isDigit c || ('a' ≤ c && c ≤ 'z') || ('A' ≤ c && c ≤ 'Z') || c = '-' || c = '_'

def simpleKey : List Char → Option (String × Rest)
  | '"' :: cs => (basicBody (cs.length + 1) cs).map fun (xs, cs) => (String.ofList xs, cs)
  | '\'' :: cs => (literalBody cs).map fun (xs, cs) => (String.ofList xs, cs)
  | cs =>
    if (cs.takeWhile isBare).isEmpty then none
    else some (String.ofList (cs.takeWhile isBare), cs.dropWhile isBare)

/-- Names with dots between them and blanks around each; no key has more than 79 names. -/
def keyFrom (above : List String) : Nat → List Char → Option (Key × Rest)
  | 0, _ => none
  | n + 1, cs => do
    let (k, cs) ← simpleKey (skipBlank cs)
    match skipBlank cs with
    | '.' :: cs => keyFrom (above ++ [k]) n cs
    | cs => return (⟨above, k⟩, cs)

def key (cs : List Char) : Option (Key × Rest) := keyFrom [] 79 cs

/-! ## Numbers and dates -/

def digits (n : Nat) (cs : List Char) : Option (Nat × Rest) :=
  if (cs.take n).length = n && (cs.take n).all Number.isDigit then
    some (Number.ofDigits 10 (cs.take n), cs.drop n)
  else none

def expect (c : Char) : List Char → Option Rest
  | d :: cs => if d = c then some cs else none
  | [] => none

def daysIn (year month : Nat) : Nat :=
  if month = 2 then
    if year % 4 = 0 && (year % 100 ≠ 0 || year % 400 = 0) then 29 else 28
  else if month ∈ [4, 6, 9, 11] then 30
  else 31

def fullDate (cs : List Char) : Option Rest := do
  let (y, cs) ← digits 4 cs
  let cs ← expect '-' cs
  let (m, cs) ← digits 2 cs
  let cs ← expect '-' cs
  let (d, cs) ← digits 2 cs
  if 1 ≤ m && m ≤ 12 && 1 ≤ d && d ≤ daysIn y m then some cs else none

def hour (cs : List Char) : Option Rest := do
  let (h, cs) ← digits 2 cs
  if h ≤ 23 then some cs else none

def minute (cs : List Char) : Option Rest := do
  let (m, cs) ← digits 2 cs
  if m ≤ 59 then some cs else none

def partialTime (cs : List Char) : Option Rest := do
  let cs ← hour cs
  let cs ← expect ':' cs
  let cs ← minute cs
  let cs ← expect ':' cs
  let (s, cs) ← digits 2 cs
  if s > 60 then none
  match cs with
  | '.' :: cs =>
    if (cs.takeWhile Number.isDigit).isEmpty then some ('.' :: cs)
    else some (cs.dropWhile Number.isDigit)
  | cs => some cs

def timeOffset : List Char → Option Rest
  | 'Z' :: cs | 'z' :: cs => some cs
  | '+' :: cs | '-' :: cs => do
    match hour cs with
    | none => none
    | some cs => minute (← expect ':' cs)
  | cs => some cs

def looksLikeDate (cs : List Char) : Bool :=
  ((digits 4 cs).any fun (_, cs) => cs.head? == some '-') ||
    ((digits 2 cs).any fun (_, cs) => cs.head? == some ':')

def dateTime (cs : List Char) : Option Rest :=
  match digits 2 cs with
  | some (_, ':' :: _) => partialTime cs
  | _ => do
    let cs ← fullDate cs
    match cs with
    | 'T' :: rest | 't' :: rest | ' ' :: rest =>
      if (hour rest).any fun r => r.head? == some ':' then timeOffset (← partialTime rest)
      else return cs
    | cs => return cs

def underscored (digit : Char → Bool) : List Char → Option (List Char × Rest)
  | [] => none
  | c :: cs =>
    if !digit c then none
    else match cs with
      | '_' :: cs => (underscored digit cs).map fun (ds, cs) => (c :: ds, cs)
      | d :: cs =>
        if digit d then (underscored digit (d :: cs)).map fun (ds, cs) => (c :: ds, cs)
        else some ([c], d :: cs)
      | [] => some ([c], [])

def sign : List Char → Bool × Rest
  | '+' :: cs => (false, cs)
  | '-' :: cs => (true, cs)
  | cs => (false, cs)

def wholeDigits : List Char → Option (List Char × Rest)
  | '0' :: cs => some (['0'], cs)
  | cs => underscored Number.isDigit cs

def exponent (cs : List Char) : Option (Int × Rest) := do
  let (negative, cs) := sign cs
  let (ds, cs) ← underscored Number.isDigit cs
  let n : Int := Number.ofDigits 10 ds
  return (if negative then -n else n, cs)

def inRange (n : Int) : Option Node :=
  if Number.isInteger n then some (.integer n) else none

/-- A float from its digits. Only a positive one may not be too large. -/
def decimal (negative : Bool) (mantissa : Nat) (e : Int) : Option Node :=
  match Number.Binary64.ofDecimal mantissa e with
  | some _ => some (.float (.decimal negative mantissa e))
  | none => if negative then some (.float (.infinite true)) else none

def number (cs : List Char) : Option (Node × Rest) := do
  let (negative, cs) := sign cs
  match cs with
  | 'i' :: 'n' :: 'f' :: cs => return (.float (.infinite negative), cs)
  | 'n' :: 'a' :: 'n' :: cs => return (.float .notANumber, cs)
  | cs =>
    let (whole, cs) ← wholeDigits cs
    match cs with
    | '.' :: cs =>
      let (fraction, cs) ← underscored Number.isDigit cs
      let m := Number.ofDigits 10 (whole ++ fraction)
      match cs with
      | 'e' :: cs | 'E' :: cs =>
        let (e, cs) ← exponent cs
        return (← decimal negative m (e - fraction.length), cs)
      | cs => return (← decimal negative m (-fraction.length), cs)
    | 'e' :: cs | 'E' :: cs =>
      let (e, cs) ← exponent cs
      return (← decimal negative (Number.ofDigits 10 whole) e, cs)
    | cs =>
      let n : Int := Number.ofDigits 10 whole
      return (← inRange (if negative then -n else n), cs)

def based (base : Nat) (cs : List Char) : Option (Node × Rest) := do
  let (ds, cs) ← underscored (Number.isDigitOf base) cs
  return (← inRange (Number.ofDigits base ds), cs)

def numberOrDate (cs : List Char) : Option (Node × Rest) :=
  if looksLikeDate cs then (dateTime cs).map fun cs => (.date, cs)
  else match cs with
    | '0' :: 'x' :: cs => based 16 cs
    | '0' :: 'o' :: cs => based 8 cs
    | '0' :: 'b' :: cs => based 2 cs
    | cs => number cs

/-! ## Values -/

def keyword (word : String) (n : Node) (cs : List Char) : Option (Node × Rest) :=
  if word.toList.isPrefixOf cs then some (n, cs.drop word.length) else none

mutual

/-- A value. `depth` counts the arrays and inline tables that may still be opened. -/
def value (depth : Nat) : Nat → List Char → Option (Node × Rest)
  | 0, _ => none
  | n + 1, cs =>
    match cs with
    | '"' :: _ | '\'' :: _ => (string cs).map fun (s, cs) => (.text s, cs)
    | 't' :: _ => keyword "true" (.boolean true) cs
    | 'f' :: _ => keyword "false" (.boolean false) cs
    | '[' :: cs => if depth = 0 then none else items (depth - 1) n [] cs
    | '\x7b' :: cs =>
      if depth = 0 then none
      else match skipBlank cs with
        | '\x7d' :: cs => some (.inlineTable .written [], cs)
        | cs => pairs (depth - 1) n [] cs
    | cs => numberOrDate cs

def items (depth : Nat) : Nat → List Node → List Char → Option (Node × Rest)
  | 0, _, _ => none
  | n + 1, done, cs =>
    match skipLines (cs.length + 1) cs with
    | ']' :: cs => some (.array done.reverse, cs)
    | cs =>
      match value depth n cs with
      | none => none
      | some (v, cs) =>
        match skipLines (cs.length + 1) cs with
        | ']' :: cs => some (.array (v :: done).reverse, cs)
        | ',' :: cs => items depth n (v :: done) cs
        | _ => none

def pairs (depth : Nat) : Nat → List Pair → List Char → Option (Node × Rest)
  | 0, _, _ => none
  | n + 1, done, cs =>
    match key cs with
    | some (k, '=' :: cs) =>
      match value depth n (skipBlank cs) with
      | none => none
      | some (v, cs) =>
        match skipBlank cs with
        | '\x7d' :: cs => (inlineTableOf ((k, v) :: done).reverse).map fun t => (t, cs)
        | ',' :: cs => pairs depth n ((k, v) :: done) cs
        | _ => none
    | _ => none

end

def greatestDepth : Nat := 79

/-! ## Lines -/

inductive Line
  | pair (p : Pair)
  | header (h : Header)
  deriving Repr

def headerLine (cs : List Char) : Option (Header × Rest) :=
  match cs with
  | '[' :: '[' :: cs =>
    match key cs with
    | some (k, ']' :: ']' :: cs) => some (.arrayTable k, cs)
    | _ => none
  | '[' :: cs =>
    match key cs with
    | some (k, ']' :: cs) => some (.table k, cs)
    | _ => none
  | _ => none

def pairLine (cs : List Char) : Option (Pair × Rest) :=
  match key cs with
  | some (k, '=' :: cs) =>
    (value greatestDepth (2 * cs.length + 2) (skipBlank cs)).map fun (v, cs) => ((k, v), cs)
  | _ => none

def lines : Nat → List Char → Option (List Line)
  | 0, _ => none
  | n + 1, cs =>
    match skipBlank cs with
    | [] => some []
    | '#' :: cs => do lines n (← trailing ('#' :: cs))
    | '\n' :: cs => lines n cs
    | '\r' :: '\n' :: cs => lines n cs
    | '[' :: cs => do
      let (h, cs) ← headerLine ('[' :: cs)
      let ls ← lines n (← trailing cs)
      return .header h :: ls
    | cs => do
      let (p, cs) ← pairLine cs
      let ls ← lines n (← trailing cs)
      return .pair p :: ls

namespace Document

def ofLines : List Line → Document
  | [] => ⟨[], []⟩
  | .pair p :: ls =>
    let d := ofLines ls
    { d with pairs := p :: d.pairs }
  | .header h :: ls =>
    let d := ofLines ls
    ⟨[], ⟨h, d.pairs⟩ :: d.blocks⟩

def read (s : String) : Option Document :=
  let cs := match s.toList with
    | '\uFEFF' :: cs => cs
    | cs => cs
  (lines (cs.length + 1) cs).map ofLines

end Document

def read (s : String) : Option Members := Document.read s >>= rootOf

end TreeTool.Toml
