/-!
# Request identifiers

An identifier tells the journal entries of one run from those of another. Any text can be one;
fresh ones are time-ordered version-7 identifiers made from a clock value and a serial number.
-/

namespace TreeTool

structure RequestId where
  text : String
  deriving DecidableEq, Repr

namespace RequestId

def hexChar (n : Nat) : Char := if n < 10 then Char.ofNat (48 + n) else Char.ofNat (87 + n)

def hex (n : Nat) : (width : Nat) → List Char
  | 0 => []
  | w + 1 => hex (n / 16) w ++ [hexChar (n % 16)]

def groups : List Nat := [8, 4, 4, 4, 12]

/-- 48 bits of time in milliseconds, the version 7, and the serial number in the random bits. -/
def fresh (millis serial : Nat) : RequestId where
  text := String.ofList <|
    hex (millis / 65536) 8 ++ '-' :: (hex millis 4 ++ '-' :: '7' :: (hex 0 3 ++
      '-' :: '8' :: (hex 0 3 ++ '-' :: hex serial 12)))

def isLowerHex (c : Char) : Bool := ('0' ≤ c && c ≤ '9') || ('a' ≤ c && c ≤ 'f')

def isHex (c : Char) : Bool := isLowerHex c || ('A' ≤ c && c ≤ 'F')

def isVersion7 (s : String) : Bool :=
  let cs := s.toList
  cs.length = 36 &&
    (List.range 36).all fun i =>
      match cs[i]? with
      | none => false
      | some c => if i = 8 || i = 13 || i = 18 || i = 23 then c = '-' else isHex c
    && cs[14]? == some '7'

end RequestId

end TreeTool
