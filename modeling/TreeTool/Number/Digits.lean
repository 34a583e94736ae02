import TreeTool.Number.Whole

/-!
# Digits

Reading of unsigned numbers digit by digit, in any base up to sixteen, and the bounded reading
used for limits in milliseconds.
-/

namespace TreeTool.Number

def digitValue (c : Char) : Nat :=
  if '0' ≤ c ∧ c ≤ '9' then c.toNat - 48
  else if 'a' ≤ c ∧ c ≤ 'f' then c.toNat - 87
  else if 'A' ≤ c ∧ c ≤ 'F' then c.toNat - 55
  else 16

def isDigitOf (base : Nat) (c : Char) : Bool := digitValue c < base

def isDigit (c : Char) : Bool := isDigitOf 10 c

def isHex (c : Char) : Bool := isDigitOf 16 c

def ofDigits (base : Nat) (ds : List Char) : Nat :=
  ds.foldl (fun n c => n * base + digitValue c) 0

inductive Refusal
  | empty | badDigit | tooLarge
  deriving DecidableEq, Repr

namespace Refusal

def text : Refusal → String
  | empty => "cannot parse integer from empty string"
  | badDigit => "invalid digit found in string"
  | tooLarge => "number too large to fit in target type"

end Refusal

def readFrom (n : Nat) : List Char → Except Refusal Nat
  | [] => .ok n
  | c :: cs =>
    if isDigit c then
      let m := n * 10 + digitValue c
      if m ≤ greatestWord then readFrom m cs else .error .tooLarge
    else .error .badDigit

/-- One or more decimal digits, after a plus sign or none, whose value fits in 64 bits. -/
def readWord : List Char → Except Refusal Nat
  | [] => .error .empty
  | ['+'] => .error .badDigit
  | '+' :: ds => readFrom 0 ds
  | ds => readFrom 0 ds

end TreeTool.Number
