import TreeTool.Number.Digits
import TreeTool.Shell.Script

/-!
# Arithmetic in shell scripts

Integer expressions over 64 bits with the usual operators, from loosest to tightest: assignment,
choice, or, and, bitwise or, exclusive or, bitwise and, equality, order, shift, sum, product, sign.
A name stands for the number in its variable. What the result of an operator does not depend on is
read but not computed.
-/

namespace TreeTool.Shell.Arithmetic

inductive Token
  | number (n : Int)
  | name (x : String)
  | operator (s : String)
  | bad
  | finished
  deriving DecidableEq, Repr, Inhabited

inductive Fault
  | divisionByZero | noOperand | leftOver | unclosed | noChoice
  | notNumber (text : String)
  deriving DecidableEq, Repr

def Fault.message (expression : String) : Fault → String
  | notNumber s => "Illegal number: " ++ s
  | f =>
    let reason := match f with
      | divisionByZero => "division by zero"
      | noOperand => "expecting primary"
      | leftOver => "expecting EOF"
      | unclosed => "expecting ')'"
      | _ => "expecting ':'"
    "arithmetic expression: " ++ reason ++ ": \"" ++ expression ++ "\""

def word (n : Int) : Int := n.bmod Number.wordCount

def isOctal (c : Char) : Bool := Number.isDigitOf 8 c

def unsigned (cs : List Char) : Nat × List Char :=
  let inBase := fun (base : Nat) (cs : List Char) =>
    (Number.ofDigits base (cs.takeWhile (Number.isDigitOf base)),
      cs.dropWhile (Number.isDigitOf base))
  match cs with
  | '0' :: x :: d :: ds =>
    if (x = 'x' || x = 'X') && Number.isHex d then inBase 16 (d :: ds) else inBase 8 cs
  | '0' :: _ => inBase 8 cs
  | cs => inBase 10 cs

def isSpace (c : Char) : Bool := c = ' ' || (9 ≤ c.toNat && c.toNat ≤ 13)

def numberIn (s : String) : Except Fault Int :=
  let cs := s.toList.dropWhile isSpace
  let (negative, ds) := match cs with
    | '-' :: ds => (true, ds)
    | '+' :: ds => (false, ds)
    | ds => (false, ds)
  let hasDigit := ds.head?.any Number.isDigit
  let (n, rest) := if hasDigit then unsigned ds else (0, s.toList)
  let z : Int := if negative then -n else n
  if (rest.dropWhile isSpace).isEmpty && Number.isInteger z then .ok z
  else .error (.notNumber s)

def wide : List String :=
  ["<<=", ">>=", "<<", ">>", "<=", ">=", "==", "!=", "&&", "||", "*=", "/=", "%=", "+=", "-=",
    "&=", "^=", "|="]

def narrow : String := "<>=!&|*/%+-^~?:()"

def operator? (cs : List Char) : Option (String × List Char) :=
  match wide.find? fun w => w.toList.isPrefixOf cs with
  | some w => some (w, cs.drop w.length)
  | none =>
    match cs with
    | c :: cs => if narrow.contains c then some (c.toString, cs) else none
    | [] => none

def tokens : Nat → List Char → List Token
  | 0, _ => []
  | _, [] => []
  | n + 1, c :: cs =>
    if c = ' ' || c = '\t' || c = '\n' then tokens n cs
    else if Number.isDigit c then
      let (x, rest) := unsigned (c :: cs)
      .number (min x Number.greatestInteger) :: tokens n rest
    else if isLetter c then
      .name (String.ofList ((c :: cs).takeWhile isNameChar)) :: tokens n (cs.dropWhile isNameChar)
    else match operator? (c :: cs) with
      | some (s, rest) => .operator s :: tokens n rest
      | none => [.bad]

structure State where
  tokens : List Token
  assigned : List (String × Int) := []

abbrev Reading := StateT State (Except Fault)

def ahead : Reading Token := return (← get).tokens.head?.getD .finished

def advance : Reading Unit := modify fun s => { s with tokens := s.tokens.tail }

def tightness? (op : String) : Option Nat :=
  match op with
  | "*" | "/" | "%" => some 0
  | "+" | "-" => some 1
  | "<<" | ">>" => some 2
  | "<" | ">" | "<=" | ">=" => some 3
  | "==" | "!=" => some 4
  | "&" => some 5
  | "^" => some 6
  | "|" => some 7
  | _ => none

def truth (b : Bool) : Int := if b then 1 else 0

def bits (a : Int) : Nat := (a % Number.wordCount).toNat

def apply (op : String) (a b : Int) : Except Fault Int :=
  match op with
  | "|" => .ok (word (bits a ||| bits b : Nat))
  | "^" => .ok (word (bits a ^^^ bits b : Nat))
  | "&" => .ok (word (bits a &&& bits b : Nat))
  | "==" => .ok (truth (a = b))
  | "!=" => .ok (truth (a ≠ b))
  | "<" => .ok (truth (a < b))
  | ">" => .ok (truth (a > b))
  | "<=" => .ok (truth (a ≤ b))
  | ">=" => .ok (truth (a ≥ b))
  | "<<" => .ok (word (a * Number.pow2 (b % 64)))
  | ">>" => .ok (a / Number.pow2 (b % 64))
  | "+" => .ok (word (a + b))
  | "-" => .ok (word (a - b))
  | "*" => .ok (word (a * b))
  | "/" => if b = 0 then .error .divisionByZero else .ok (word (a.tdiv b))
  | _ => if b = 0 then .error .divisionByZero else .ok (a.tmod b)

def compound? (op : String) : Option String :=
  if op ∈ ["*=", "/=", "%=", "+=", "-=", "<<=", ">>=", "&=", "^=", "|="] then
    some (String.ofList op.toList.dropLast)
  else none

def valueOf (lookup : String → String) (x : String) : Reading Int := do
  match (← get).assigned.lookup x with
  | some n => return n
  | none => numberIn (lookup x)

mutual

def primary (lookup : String → String) (idle : Bool) : Nat → Reading Int
  | 0 => throw .noOperand
  | n + 1 => do
    match ← ahead with
    | .number a =>
      advance
      return a
    | .name x =>
      advance
      if idle then return 0 else valueOf lookup x
    | .operator "+" =>
      advance
      primary lookup idle n
    | .operator "-" =>
      advance
      return word (-(← primary lookup idle n))
    | .operator "!" =>
      advance
      return truth ((← primary lookup idle n) = 0)
    | .operator "~" =>
      advance
      return -(← primary lookup idle n) - 1
    | .operator "(" => do
      advance
      let a ← assignment lookup idle n
      if (← ahead) = .operator ")" then
        advance
        return a
      else throw .unclosed
    | _ => throw .noOperand

def operation (lookup : String → String) (idle : Bool) : Nat → Nat → Int → Reading Int
  | 0, _, _ => throw .noOperand
  | n + 1, bound, a => do
    match ← ahead with
    | .operator op =>
      match tightness? op with
      | none => return a
      | some t =>
        if bound ≤ t then return a
        else do
          advance
          let b ← primary lookup idle n
          let b ← operation lookup idle n t b
          let c ← if idle then pure b else (apply op a b : Except Fault Int)
          operation lookup idle n bound c
    | _ => return a

def conjunction (lookup : String → String) (idle : Bool) : Nat → Reading Int
  | 0 => throw .noOperand
  | n + 1 => do
    let a ← primary lookup idle n
    let a ← operation lookup idle n 8 a
    if (← ahead) = .operator "&&" then
      advance
      let b ← conjunction lookup (idle || a = 0) n
      return truth (a ≠ 0 && b ≠ 0)
    else return a

def disjunction (lookup : String → String) (idle : Bool) : Nat → Reading Int
  | 0 => throw .noOperand
  | n + 1 => do
    let a ← conjunction lookup idle n
    if (← ahead) = .operator "||" then
      advance
      let b ← disjunction lookup (idle || a ≠ 0) n
      return truth (a ≠ 0 || b ≠ 0)
    else return a

def choice (lookup : String → String) (idle : Bool) : Nat → Reading Int
  | 0 => throw .noOperand
  | n + 1 => do
    let a ← disjunction lookup idle n
    if (← ahead) = .operator "?" then
      advance
      let b ← assignment lookup (idle || a = 0) n
      if (← ahead) = .operator ":" then
        advance
        let c ← choice lookup (idle || a ≠ 0) n
        return if a ≠ 0 then b else c
      else throw .noChoice
    else return a

def assignment (lookup : String → String) (idle : Bool) : Nat → Reading Int
  | 0 => throw .noOperand
  | n + 1 => do
    match (← get).tokens with
    | .name x :: .operator op :: rest =>
      if op = "=" || (compound? op).isSome then
        modify fun s => { s with tokens := rest }
        let b ← assignment lookup idle n
        if idle then return b
        else
          let c ← match compound? op with
            | none => pure b
            | some op => do
              let a ← valueOf lookup x
              (apply op a b : Except Fault Int)
          modify fun s => { s with assigned := (x, c) :: s.assigned }
          return c
      else choice lookup idle n
    | _ => choice lookup idle n

end

def value (lookup : String → String) (text : String) : Except Fault (Int × List (String × Int)) := do
  let ts := tokens text.length text.toList
  let (a, s) ← (assignment lookup false (16 * (ts.length + 2))).run { tokens := ts }
  if s.tokens.isEmpty then return (a, s.assigned.reverse) else throw .leftOver

end TreeTool.Shell.Arithmetic
