import TreeTool.Number.Whole

/-!
# Binary floating-point numbers

A positive binary64 number is `mantissa * 2 ^ power`. `nearest` rounds a fraction to one, a half
going to the even mantissa; `product` rounds the exact product of two in the same way. `shortest`
finds the fewest decimal digits that round back to a number, of two equally near ones the greater,
and `positional` writes them out with a point and no exponent.
-/

namespace TreeTool.Number

structure Binary64 where
  mantissa : Nat
  power : Int
  deriving DecidableEq, Repr

def roundedQuotient (num den : Nat) : Nat :=
  let q := num / den
  let r := num % den
  if 2 * r < den then q
  else if 2 * r > den then q + 1
  else if q % 2 = 0 then q else q + 1

namespace Binary64

def exponentOf (num den : Nat) : Int :=
  let e : Int := (num.log2 : Int) - den.log2
  if den * pow2 e ≤ num * pow2 (-e) then e else e - 1

def nearest (num den : Nat) : Option Binary64 :=
  if num = 0 then some ⟨0, -1074⟩
  else
    let q := max (exponentOf num den - 52) (-1074)
    let m := roundedQuotient (num * pow2 (-q)) (den * pow2 q)
    let (m, q) := if m = pow2 53 then (pow2 52, q + 1) else (m, q)
    if q > 971 then none else some ⟨m, q⟩

def ofNat (n : Nat) : Option Binary64 := nearest n 1

def powerOfTen (n : Nat) : Option Binary64 := nearest (pow10 n) 1

def product (a b : Binary64) : Option Binary64 :=
  let q := a.power + b.power
  nearest (a.mantissa * b.mantissa * pow2 q) (pow2 (-q))

def ofDecimal (mantissa : Nat) (exponent : Int) : Option Binary64 :=
  let digits : Int := (toString mantissa).length
  if mantissa = 0 then some ⟨0, -1074⟩
  else if digits + exponent > 400 then none
  else if digits + exponent < -400 then some ⟨0, -1074⟩
  else nearest (mantissa * pow10 exponent) (pow10 (-exponent))

/-- Whether `d * 10 ^ k` rounds to the number: it lies between the midpoints to both neighbours,
the midpoints included when the mantissa is even. -/
def roundsBack (b : Binary64) (d : Nat) (k : Int) : Bool :=
  let scale := fun (n : Nat) (p2 p10 : Int) => n * pow2 p2 * pow10 p10
  let p := b.power - 2
  let x := scale d (-p) k
  let unit := fun (n : Nat) => scale n p (-k)
  let below := if b.mantissa = pow2 52 && b.power > -1074 then 4 * b.mantissa - 1
    else 4 * b.mantissa - 2
  let above := 4 * b.mantissa + 2
  if b.mantissa % 2 = 0 then decide (unit below ≤ x ∧ x ≤ unit above)
  else decide (unit below < x ∧ x < unit above)

def distance (b : Binary64) (d : Nat) (k : Int) : Nat :=
  let x : Int := d * pow2 (-b.power) * pow10 k
  let y : Int := b.mantissa * pow2 b.power * pow10 (-k)
  (x - y).natAbs

def onGrid (b : Binary64) (k : Int) : Option Nat :=
  let d := b.mantissa * pow2 b.power * pow10 (-k) / (pow2 (-b.power) * pow10 k)
  match b.roundsBack d k, b.roundsBack (d + 1) k with
  | true, true => some (if b.distance d k < b.distance (d + 1) k then d else d + 1)
  | true, false => some d
  | false, true => some (d + 1)
  | false, false => none

/-- Tries finer and finer grids; seventeen digits always suffice. -/
def firstGrid (b : Binary64) (k : Int) : Nat → Nat × Int
  | 0 => (b.mantissa, 0)
  | n + 1 =>
    match b.onGrid k with
    | some d => (d, k)
    | none => firstGrid b (k - 1) n

def trimZeros (d : Nat) (k : Int) : Nat → Nat × Int
  | 0 => (d, k)
  | n + 1 => if d ≠ 0 && d % 10 = 0 then trimZeros (d / 10) (k + 1) n else (d, k)

def shortest (b : Binary64) : Nat × Int :=
  if b.mantissa = 0 then (0, 0)
  else
    let whole := b.mantissa * pow2 b.power / pow2 (-b.power)
    let start : Int :=
      if whole > 0 then (toString whole).length
      else -((toString (pow2 (-b.power) / b.mantissa)).length : Int) + 1
    let (d, k) := b.firstGrid start 20
    trimZeros d k 20

end Binary64

def positional (d : Nat) (k : Int) : String :=
  let ds := (toString d).toList
  if k ≥ 0 then String.ofList (ds ++ List.replicate k.toNat '0') ++ ".0"
  else
    let n := (-k).toNat
    let padded := List.replicate (n + 1 - ds.length) '0' ++ ds
    String.ofList (padded.take (padded.length - n) ++ '.' :: padded.drop (padded.length - n))

end TreeTool.Number
