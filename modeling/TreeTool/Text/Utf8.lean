/-!
# UTF-8

Bytes are decoded from the left. `strict` refuses ill-formed bytes; `lossy` puts one replacement
character in place of each maximal ill-formed piece, which is a lead byte with as many of the
following bytes as could still continue it, or a single byte that can start nothing.
-/

namespace TreeTool.Text

abbrev Bytes := List UInt8

namespace Utf8

def encode (cs : List Char) : Bytes := cs.flatMap String.utf8EncodeChar

def replacement : Char := Char.ofNat 0xFFFD

/-- The ranges in which the bytes after a lead byte have to lie; no lead byte, no ranges. -/
def tails (b : UInt8) : Option (List (UInt8 × UInt8)) :=
  if b < 0x80 then some []
  else if b < 0xC2 then none
  else if b < 0xE0 then some [(0x80, 0xBF)]
  else if b = 0xE0 then some [(0xA0, 0xBF), (0x80, 0xBF)]
  else if b = 0xED then some [(0x80, 0x9F), (0x80, 0xBF)]
  else if b < 0xF0 then some [(0x80, 0xBF), (0x80, 0xBF)]
  else if b = 0xF0 then some [(0x90, 0xBF), (0x80, 0xBF), (0x80, 0xBF)]
  else if b < 0xF4 then some [(0x80, 0xBF), (0x80, 0xBF), (0x80, 0xBF)]
  else if b = 0xF4 then some [(0x80, 0x8F), (0x80, 0xBF), (0x80, 0xBF)]
  else none

/-- Takes bytes as long as each lies in its range; whether all ranges were used, the bytes taken
and the bytes left. -/
def fit : List (UInt8 × UInt8) → Bytes → Bool × Bytes × Bytes
  | [], bs => (true, [], bs)
  | _ :: _, [] => (false, [], [])
  | (lo, hi) :: rs, b :: bs =>
    if lo ≤ b && b ≤ hi then
      let (all, taken, left) := fit rs bs
      (all, b :: taken, left)
    else (false, [], b :: bs)

def scalar (b : UInt8) (tail : Bytes) : Char :=
  let lead :=
    if b < 0x80 then b.toNat
    else if b < 0xE0 then b.toNat % 32
    else if b < 0xF0 then b.toNat % 16
    else b.toNat % 8
  Char.ofNat (tail.foldl (fun n t => n * 64 + t.toNat % 64) lead)

def step (b : UInt8) (bs : Bytes) : Option Char × Bytes :=
  match tails b with
  | none => (none, bs)
  | some rs =>
    match fit rs bs with
    | (true, taken, left) => (some (scalar b taken), left)
    | (false, _, left) => (none, left)

theorem fit_length_le (rs : List (UInt8 × UInt8)) (bs : Bytes) :
    (fit rs bs).2.2.length ≤ bs.length := by
  induction rs generalizing bs with
  | nil => simp [fit]
  | cons r rs ih =>
    cases bs with
    | nil => simp [fit]
    | cons b bs =>
      unfold fit
      split
      · simpa using Nat.le_succ_of_le (ih bs)
      · simp

theorem step_length_le (b : UInt8) (bs : Bytes) : (step b bs).2.length ≤ bs.length := by
  unfold step
  split
  · simp
  · rename_i rs _
    have h := fit_length_le rs bs
    split <;> simp_all

def lossyOnto (acc : List Char) : Bytes → List Char
  | [] => acc.reverse
  | b :: bs => lossyOnto ((step b bs).1.getD replacement :: acc) (step b bs).2
  termination_by bs => bs.length
  decreasing_by exact Nat.lt_succ_of_le (step_length_le b bs)

def lossy (bs : Bytes) : List Char := lossyOnto [] bs

def strictOnto (acc : List Char) : Bytes → Option (List Char)
  | [] => some acc.reverse
  | b :: bs =>
    match (step b bs).1 with
    | none => none
    | some c => strictOnto (c :: acc) (step b bs).2
  termination_by bs => bs.length
  decreasing_by exact Nat.lt_succ_of_le (step_length_le b bs)

def strict (bs : Bytes) : Option (List Char) := strictOnto [] bs

/-- The text of a stream: its strict reading where there is one, and otherwise the lossy one. -/
def decode (bs : Bytes) : String :=
  match strict bs with
  | some cs => String.ofList cs
  | none => String.ofList (lossy bs)

end Utf8

end TreeTool.Text
