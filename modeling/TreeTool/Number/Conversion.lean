import TreeTool.Number.Binary64
import TreeTool.Number.Digits

/-!
# Conversions of numbers to text

A conversion says how a number is written: in which form, in how many places and with how many
digits. Floating-point numbers are written from their exact values, a half going to the even
digit. `scanInteger` and `scanReal` read the number at the front of a text.
-/

namespace TreeTool.Number

inductive Real64
  | finite (negative : Bool) (b : Binary64)
  | infinite (negative : Bool)
  | nan (negative : Bool)
  deriving DecidableEq, Repr

structure Conversion where
  flags : List Char := []
  width : Nat := 0
  precision : Option Nat := none
  letter : Char
  deriving DecidableEq, Repr

namespace Conversion

def hasFlag (c : Conversion) (f : Char) : Bool := f ∈ c.flags

def placed (c : Conversion) (s : String) : String :=
  let fill := String.ofList (List.replicate (c.width - s.length) ' ')
  if c.hasFlag '-' then s ++ fill else fill ++ s

/-- A sign and the digits after it, in their place. Zeros may fill the place. -/
def signed (c : Conversion) (sign digits : String) (zeros : Bool) : String :=
  if zeros && c.hasFlag '0' && !c.hasFlag '-' then
    sign ++ String.ofList (List.replicate (c.width - sign.length - digits.length) '0') ++ digits
  else c.placed (sign ++ digits)

def signOf (c : Conversion) (negative : Bool) : String :=
  if negative then "-" else if c.hasFlag '+' then "+" else if c.hasFlag ' ' then " " else ""

def zeros (n : Nat) : String := String.ofList (List.replicate n '0')

def withPrecision (c : Conversion) (n base : Nat) : String :=
  let ds := if n = 0 && c.precision = some 0 then "" else String.ofList (Nat.toDigits base n)
  zeros (c.precision.getD 1 - ds.length) ++ ds

def integer (c : Conversion) (n : Int) : String :=
  let whole := (n % wordCount).toNat
  let fills := c.precision.isNone
  match c.letter with
  | 'o' =>
    let ds := c.withPrecision whole 8
    c.signed "" (if c.hasFlag '#' && ds.toList.head? ≠ some '0' then "0" ++ ds else ds) fills
  | 'x' => c.signed (if c.hasFlag '#' && whole ≠ 0 then "0x" else "") (c.withPrecision whole 16) fills
  | 'X' =>
    let ds := String.ofList ((c.withPrecision whole 16).toList.map Char.toUpper)
    c.signed (if c.hasFlag '#' && whole ≠ 0 then "0X" else "") ds fills
  | 'u' => c.signed "" (c.withPrecision whole 10) fills
  | _ => c.signed (c.signOf (n < 0)) (c.withPrecision n.natAbs 10) fills

/-! ## Floating-point numbers -/

def pointed (c : Conversion) (n places : Nat) : String :=
  let ds := toString n
  let ds := (zeros (places + 1 - ds.length) ++ ds).toList
  let whole := String.ofList (ds.take (ds.length - places))
  if places = 0 then (if c.hasFlag '#' then whole ++ "." else whole)
  else whole ++ "." ++ String.ofList (ds.drop (ds.length - places))

def units (b : Binary64) (places : Int) : Nat :=
  roundedQuotient (b.mantissa * pow2 b.power * pow10 places) (pow2 (-b.power) * pow10 (-places))

def scientific (b : Binary64) (places : Nat) : Int × Nat :=
  if b.mantissa = 0 then (0, 0)
  else
    let whole := b.mantissa * pow2 b.power / pow2 (-b.power)
    let guess : Int :=
      if whole > 0 then (toString whole).length - 1
      else -((toString (pow2 (-b.power) / b.mantissa)).length : Int)
    let reaches := fun (e : Int) =>
      pow10 e * pow2 (-b.power) ≤ b.mantissa * pow2 b.power * pow10 (-e)
    let e := if reaches (guess + 1) then guess + 1 else if reaches guess then guess else guess - 1
    let n := units b (places - e)
    if n = pow10 (places + 1) then (e + 1, n / 10) else (e, n)

def exponentText (letter : Char) (e : Int) : String :=
  let ds := toString e.natAbs
  letter.toString ++ (if e < 0 then "-" else "+") ++ zeros (2 - ds.length) ++ ds

def withoutZeros (s : String) : String :=
  if s.contains '.' then
    let ds := s.toList.reverse.dropWhile (· = '0')
    String.ofList (match ds with
      | '.' :: ds => ds.reverse
      | ds => ds.reverse)
  else s

def hexadecimal (c : Conversion) (b : Binary64) : String :=
  let bits := b.mantissa.log2
  let (n, e) : Nat × Int :=
    if b.mantissa = 0 then (0, 0)
    else (b.mantissa * pow2 (52 - bits), b.power + bits)
  let cut := match c.precision with
    | some p => if p < 13 then roundedQuotient n (pow2 (52 - 4 * p)) * pow2 (52 - 4 * p) else n
    | none => n
  let ds := Nat.toDigits 16 (cut % pow2 52)
  let ds := List.replicate (13 - ds.length) '0' ++ ds
  let fraction := match c.precision with
    | some p => ds.take p ++ List.replicate (p - 13) '0'
    | none => (ds.reverse.dropWhile (· = '0')).reverse
  "0x" ++ toString (cut / pow2 52) ++
    (if fraction.isEmpty && !c.hasFlag '#' then "" else "." ++ String.ofList fraction) ++
    "p" ++ (if e < 0 then "-" else "+") ++ toString e.natAbs

def digitsOf (c : Conversion) (b : Binary64) : String :=
  let places := c.precision.getD 6
  match c.letter with
  | 'f' | 'F' => c.pointed (units b places) places
  | 'e' | 'E' =>
    let (e, n) := scientific b places
    c.pointed n places ++ exponentText c.letter e
  | 'a' => c.hexadecimal b
  | 'A' => String.ofList ((c.hexadecimal b).toList.map Char.toUpper)
  | _ =>
    let p := max places 1
    let (e, n) := scientific b (p - 1)
    let trim := fun (s : String) => if c.hasFlag '#' then s else withoutZeros s
    if -4 ≤ e && e < p then
      let places := (p - 1 - e).toNat
      trim (c.pointed (units b places) places)
    else
      trim (c.pointed n (p - 1)) ++ exponentText (if c.letter = 'G' then 'E' else 'e') e

def real (c : Conversion) (x : Real64) : String :=
  let named := fun (negative : Bool) (s : String) =>
    c.placed (c.signOf negative ++
      (if c.letter.isUpper then String.ofList (s.toList.map Char.toUpper) else s))
  match x with
  | .infinite negative => named negative "inf"
  | .nan negative => named negative "nan"
  | .finite negative b => c.signed (c.signOf negative) (c.digitsOf b) true

end Conversion

/-! ## Reading -/

def isSpace (c : Char) : Bool := c = ' ' || (9 ≤ c.toNat && c.toNat ≤ 13)

def takeSign : List Char → Bool × List Char
  | '-' :: cs => (true, cs)
  | '+' :: cs => (false, cs)
  | cs => (false, cs)

/-- The whole number at the front, after blanks, in base ten, or in base eight or sixteen after a
zero, and what follows it. -/
def scanInteger (s : String) : Option (Int × List Char) :=
  let (negative, cs) := takeSign (s.toList.dropWhile isSpace)
  let inBase := fun (base : Nat) (cs : List Char) =>
    (ofDigits base (cs.takeWhile (isDigitOf base)), cs.dropWhile (isDigitOf base))
  if !cs.head?.any isDigit then none
  else
    let (n, rest) := match cs with
      | '0' :: x :: d :: ds =>
        if (x = 'x' || x = 'X') && isHex d then inBase 16 (d :: ds) else inBase 8 cs
      | '0' :: _ => inBase 8 cs
      | cs => inBase 10 cs
    some (if negative then -(n : Int) else n, rest)

def afterWord? (word : String) (cs : List Char) : Option (List Char) :=
  if (cs.take word.length).map Char.toLower = word.toList then some (cs.drop word.length) else none

def scanPointed (base : Nat) (cs : List Char) : Option (Nat × Nat × List Char) :=
  let whole := cs.takeWhile (isDigitOf base)
  let rest := cs.dropWhile (isDigitOf base)
  let (fraction, rest') := match rest with
    | '.' :: cs => (cs.takeWhile (isDigitOf base), cs.dropWhile (isDigitOf base))
    | cs => ([], cs)
  if whole.isEmpty && fraction.isEmpty then none
  else some (ofDigits base (whole ++ fraction), fraction.length, rest')

def scanExponent (letter : Char) (cs : List Char) : Int × List Char :=
  match cs with
  | c :: ds =>
    if c.toLower = letter then
      let (negative, ds) := takeSign ds
      let digits := ds.takeWhile isDigit
      if digits.isEmpty then (0, cs)
      else
        let n : Int := min (ofDigits 10 digits) 100000
        (if negative then -n else n, ds.dropWhile isDigit)
    else (0, cs)
  | [] => (0, [])

def scanReal (s : String) : Option (Real64 × List Char) :=
  let (negative, cs) := takeSign (s.toList.dropWhile isSpace)
  let finite := fun (b? : Option Binary64) =>
    match b? with
    | some b => Real64.finite negative b
    | none => .infinite negative
  let decimal := do
    let (n, places, rest) ← scanPointed 10 cs
    let (e, rest) := scanExponent 'e' rest
    return (finite (Binary64.ofDecimal n (e - places)), rest)
  match afterWord? "infinity" cs, afterWord? "inf" cs, afterWord? "nan" cs with
  | some rest, _, _ => some (.infinite negative, rest)
  | _, some rest, _ => some (.infinite negative, rest)
  | _, _, some rest => some (.nan negative, rest)
  | _, _, _ =>
    match cs with
    | '0' :: x :: ds =>
      if x = 'x' || x = 'X' then
        match scanPointed 16 ds with
        | some (n, places, rest) =>
          let (e, rest) := scanExponent 'p' rest
          let q := e - 4 * places
          let q := max (-2000) (min q 2000)
          some (finite (Binary64.nearest (n * pow2 q) (pow2 (-q))), rest)
        | none => decimal
      else decimal
    | _ => decimal

end TreeTool.Number
