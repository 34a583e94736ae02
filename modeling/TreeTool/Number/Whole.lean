/-!
# Whole numbers

Powers and sums of whole numbers, and the numbers that fit words of 64 bits.
-/

namespace TreeTool.Number

def pow2 (n : Int) : Nat := Nat.pow 2 n.toNat

def pow10 (n : Int) : Nat := Nat.pow 10 n.toNat

def total (ns : List Nat) : Nat := ns.foldl (· + ·) 0

def wordCount : Nat := 0x10000000000000000

def greatestWord : Nat := 0xFFFFFFFFFFFFFFFF

def greatestInteger : Int := 0x7FFFFFFFFFFFFFFF

def leastInteger : Int := -0x8000000000000000

def isInteger (n : Int) : Bool := leastInteger ≤ n && n ≤ greatestInteger

end TreeTool.Number
