import TreeTool.Number.Conversion

/-!
# Formats

A format is text with escapes, and with conversions that take arguments; it is used again as long
as it takes arguments and some are left. The texts here are raw.
-/

namespace TreeTool.Program

open Number (Conversion Real64 Binary64)

namespace Escaped

def isOctal (c : Char) : Bool := Number.isDigitOf 8 c

def letter? (c : Char) : Option Char :=
  [('a', '\x07'), ('b', '\x08'), ('t', '\t'), ('n', '\n'), ('v', '\x0b'), ('f', '\x0c'),
    ('r', '\r'), ('\\', '\\')].lookup c

/-- The character that an escape after its backslash stands for, and what follows. An octal escape
has up to three digits; what is no escape leaves the backslash as it is. -/
def character (cs : List Char) : Char × List Char :=
  let ds := (cs.take 3).takeWhile isOctal
  if !ds.isEmpty then (Char.ofNat (Number.ofDigits 8 ds % 256), cs.drop ds.length)
  else match cs with
    | c :: rest =>
      match letter? c with
      | some d => (d, rest)
      | none => ('\\', cs)
    | [] => ('\\', [])

/-- The text of an argument with escapes, where an octal escape may begin with a further zero. A
backslash with the letter c ends all output, which the second component reports. -/
def argumentFrom : Nat → List Char → List Char × Bool
  | 0, _ => ([], false)
  | _, [] => ([], false)
  | n + 1, '\\' :: cs =>
    match cs with
    | 'c' :: _ => ([], true)
    | _ =>
      let cs := match cs with
        | '0' :: d :: ds => if isOctal d then d :: ds else cs
        | cs => cs
      let (c, rest) := character cs
      let (out, stop) := argumentFrom n rest
      (c :: out, stop)
  | n + 1, c :: cs =>
    let (out, stop) := argumentFrom n cs
    (c :: out, stop)

def argument (s : String) : String × Bool :=
  let (out, stop) := argumentFrom (s.length + 1) s.toList
  (String.ofList out, stop)

end Escaped

inductive Doubt
  | notNumber | partly | outOfRange
  deriving DecidableEq, Repr

/-- What comes of a format: text, the arguments left, whether output ends, what is wrong with
arguments, and a directive that is none; an empty one lacks its letter. -/
structure Formatted where
  text : String := ""
  rest : List String
  stopped : Bool := false
  doubts : List (String × Doubt) := []
  badDirective : Option String := none

namespace Formatted

def doubt? (argument : String) (rest : Option (List Char)) (fits : Bool) :
    Option (String × Doubt) :=
  match rest with
  | none => if argument.isEmpty then none else some (argument, .notNumber)
  | some [] => if fits then none else some (argument, .outOfRange)
  | some _ => some (argument, .partly)

def quoted? (argument : String) : Option Nat :=
  match argument.toList with
  | '"' :: cs | '\'' :: cs => some ((cs.head?.map Char.toNat).getD 0)
  | _ => none

def integerOf (isSigned : Bool) (argument : String) : Int × Option (String × Doubt) :=
  match quoted? argument with
  | some n => (n, none)
  | none =>
    let scanned := Number.scanInteger argument
    let n := (scanned.map (·.1)).getD 0
    let fits := if isSigned then Number.isInteger n else decide (n.natAbs ≤ Number.greatestWord)
    let n : Int := if fits then n
      else if !isSigned then Number.greatestWord
      else if n < 0 then Number.leastInteger else Number.greatestInteger
    (n, doubt? argument (scanned.map (·.2)) fits)

def realOf (argument : String) : Real64 × Option (String × Doubt) :=
  match quoted? argument with
  | some n => (.finite false ((Binary64.ofNat n).getD ⟨0, -1074⟩), none)
  | none =>
    match Number.scanReal argument with
    | some (x, rest) => (x, doubt? argument (some rest) true)
    | none => (.finite false ⟨0, -1074⟩, doubt? argument none true)

def cut (c : Conversion) (s : String) : String :=
  match c.precision with
  | none => s
  | some p => String.ofList (s.toList.take p)

def converted? (c : Conversion) (argument? : Option String) :
    Option (String × Option (String × Doubt) × Bool) :=
  let argument := argument?.getD ""
  match c.letter with
  | 's' => some (c.placed (cut c argument), none, false)
  | 'b' =>
    let (s, stop) := Escaped.argument argument
    some (c.placed (cut c s), none, stop)
  | 'c' => some (c.placed ((argument.toList.head?).getD '\x00').toString, none, false)
  | 'd' | 'i' =>
    let (n, w) := integerOf true argument
    some (c.integer n, w, false)
  | 'o' | 'u' | 'x' | 'X' =>
    let (n, w) := integerOf false argument
    some (c.integer n, w, false)
  | 'a' | 'A' | 'e' | 'E' | 'f' | 'F' | 'g' | 'G' =>
    let (x, w) := realOf argument
    some (c.real x, w, false)
  | _ => none

def count (cs : List Char) (as : List String) :
    Option Int × List Char × List String × List (String × Doubt) :=
  match cs with
  | '*' :: cs =>
    let (n, w) := integerOf true (as.head?.getD "")
    (some n, cs, as.tail, w.toList)
  | cs =>
    let ds := cs.takeWhile Number.isDigit
    (if ds.isEmpty then none else some (Number.ofDigits 10 ds : Nat), cs.drop ds.length, as, [])

def conversion? (cs : List Char) (as : List String) :
    Option (Conversion × List Char × List String × List (String × Doubt)) :=
  let isFlag := fun (c : Char) => "#-+ 0".contains c
  let flags := cs.takeWhile isFlag
  let (width, cs, as, ws) := count (cs.dropWhile isFlag) as
  let (precision, cs, as, ws') := match cs with
    | '.' :: cs =>
      let (p, r) := count cs as
      (some (p.getD 0), r)
    | cs => (none, cs, as, [])
  let width := width.getD 0
  match cs with
  | c :: cs =>
    some (⟨if width < 0 then '-' :: flags else flags, width.natAbs,
      (precision.filter fun p => 0 ≤ p).map Int.toNat, c⟩, cs, as, ws ++ ws')
  | [] => none

def once : Nat → List Char → List String → Formatted
  | 0, _, as => { rest := as }
  | _, [], as => { rest := as }
  | n + 1, c :: cs, as =>
    let go := fun (s : String) (rest : List Char) (as : List String) (ws : List (String × Doubt)) =>
      let f := once n rest as
      { f with text := s ++ f.text, doubts := ws ++ f.doubts }
    if c = '%' then
      match cs with
      | '%' :: cs => go "%" cs as []
      | cs =>
        match conversion? cs as with
        | none => { rest := as, badDirective := some "" }
        | some (k, rest, as, ws) =>
          match converted? k as.head? with
          | none =>
            let directive := String.ofList ('%' :: cs.take (cs.length - rest.length))
            { rest := as, doubts := ws, badDirective := some directive }
          | some (s, w, stop) =>
            if stop then { text := s, rest := as.tail, stopped := true, doubts := ws }
            else go s rest as.tail (ws ++ w.toList)
    else if c = '\\' then
      let (d, rest) := Escaped.character cs
      go d.toString rest as []
    else go c.toString cs as []

def all (format : List Char) : Nat → List String → Formatted
  | 0, as => { rest := as }
  | n + 1, as =>
    let f := once (format.length + 1) format as
    if f.stopped || f.badDirective.isSome || f.rest.isEmpty || f.rest.length = as.length then f
    else
      let g := all format n f.rest
      { g with text := f.text ++ g.text, doubts := f.doubts ++ g.doubts }

end Formatted

def formatted (format : String) (as : List String) : Formatted :=
  Formatted.all format.toList (as.length + 1) as

end TreeTool.Program
