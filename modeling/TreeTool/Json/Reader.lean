import TreeTool.Document.Names
import TreeTool.Json.Value
import TreeTool.Number.Binary64
import TreeTool.Number.Digits

/-!
# Reading JSON text

A reader takes a value off the front of a text and returns the rest. Text is read from the left,
and the first character that rules the text out decides between three sorts of fault: the text
ends too early, it is malformed, or it is well formed and holds something else than was wanted.
`Value.read` reads any value; `text`, `word`, `optional` and `named` want one of a given type.
-/

namespace TreeTool.Json

inductive Fault
  | cutShort
  | malformed
  | mistyped
  | unknownName (m : Document.Mismatch)
  deriving DecidableEq, Repr

abbrev Rest := List Char

abbrev Reader (α : Type) := List Char → Except Fault (α × Rest)

def isBlank (c : Char) : Bool := c = ' ' || c = '\n' || c = '\t' || c = '\r'

def skipBlank (cs : List Char) : Rest := cs.dropWhile isBlank

def whole {α : Type} (r : Reader α) (s : String) : Except Fault α :=
  match r s.toList with
  | .error f => .error f
  | .ok (a, rest) => if (skipBlank rest).isEmpty then .ok a else .error .malformed

def keyword : List Char → List Char → Except Fault Rest
  | [], cs => .ok cs
  | _ :: _, [] => .error .cutShort
  | w :: ws, c :: cs => if c = w then keyword ws cs else .error .malformed

/-! ## Strings -/

/-- Four hexadecimal digits; the text is cut short when fewer than four bytes are left. -/
def hexQuad (cs : List Char) : Except Fault (Nat × Rest) :=
  if Number.total ((cs.take 4).map Char.utf8Size) < 4 then .error .cutShort
  else match cs with
    | a :: b :: c :: d :: rest =>
      if [a, b, c, d].all Number.isHex then .ok (Number.ofDigits 16 [a, b, c, d], rest)
      else .error .malformed
    | _ => .error .malformed

def isHighSurrogate (n : Nat) : Bool := 0xD800 ≤ n && n ≤ 0xDBFF

def isLowSurrogate (n : Nat) : Bool := 0xDC00 ≤ n && n ≤ 0xDFFF

def pairValue (high low : Nat) : Nat := (high - 0xD800) * 0x400 + (low - 0xDC00) + 0x10000

/-- The rest of a `\u` escape; surrogates have to come in pairs, the high one first. -/
def unicodeEscape (cs : List Char) : Except Fault (Char × Rest) :=
  match hexQuad cs with
  | .error f => .error f
  | .ok (n, rest) =>
    if isLowSurrogate n then .error .malformed
    else if isHighSurrogate n then
      match rest with
      | [] => .error .cutShort
      | ['\\'] => .error .cutShort
      | '\\' :: 'u' :: rest' =>
        match hexQuad rest' with
        | .error f => .error f
        | .ok (m, rest'') =>
          if isLowSurrogate m then .ok (Char.ofNat (pairValue n m), rest'')
          else .error .malformed
      | _ => .error .malformed
    else .ok (Char.ofNat n, rest)

def shortEscape (c : Char) : Option Char :=
  if c = '"' then some '"'
  else if c = '\\' then some '\\'
  else if c = '/' then some '/'
  else if c = 'b' then some '\x08'
  else if c = 'f' then some '\x0c'
  else if c = 'n' then some '\n'
  else if c = 'r' then some '\r'
  else if c = 't' then some '\t'
  else none

def stringStep : List Char → Except Fault (Option Char × Rest)
  | [] => .error .cutShort
  | '"' :: cs => .ok (none, cs)
  | ['\\'] => .error .cutShort
  | '\\' :: 'u' :: cs =>
    match unicodeEscape cs with
    | .ok (c, rest) => .ok (some c, rest)
    | .error f => .error f
  | '\\' :: e :: cs =>
    match shortEscape e with
    | some c => .ok (some c, cs)
    | none => .error .malformed
  | c :: cs => if c.toNat < 32 then .error .malformed else .ok (some c, cs)

/-- The rest of a string whose opening quote has been taken; `acc` holds what came before,
last character first. Every step takes a character, so the length of the text is fuel enough. -/
def stringBody : Nat → List Char → List Char → Except Fault (String × Rest)
  | 0, _, _ => .error .cutShort
  | n + 1, acc, cs =>
    match stringStep cs with
    | .error f => .error f
    | .ok (none, rest) => .ok (String.ofList acc.reverse, rest)
    | .ok (some c, rest) => stringBody n (c :: acc) rest

def stringRest (cs : List Char) : Except Fault (String × Rest) :=
  stringBody (cs.length + 1) [] cs

/-! ## Numbers -/

/-- A number as it is written: sign, digits before the point, digits after it, exponent. -/
structure Numeral where
  negative : Bool
  whole : List Char
  fraction : List Char
  exponent : Option Int
  deriving DecidableEq, Repr

namespace Numeral

def mantissa (n : Numeral) : Int :=
  let m : Int := Number.ofDigits 10 (n.whole ++ n.fraction)
  if n.negative then -m else m

def power (n : Numeral) : Int := n.exponent.getD 0 - n.fraction.length

def isInteger (n : Numeral) : Bool := n.fraction.isEmpty && n.exponent.isNone

def appended (word : Nat) : List Char → Nat × List Char
  | [] => (word, [])
  | d :: ds =>
    let more := word * 10 + Number.ofDigits 10 [d]
    if more ≤ Number.greatestWord then appended more ds else (word, d :: ds)

/-- The digits that fit a word, and the power of ten it stands for. Digits before the point that
do not fit count as zeros; those after the point are dropped from the first that does not fit. -/
def leading (n : Numeral) : Nat × Int :=
  let (w, beyond) := appended 0 n.whole
  let (m, rest) := appended w n.fraction
  (m, beyond.length - (n.fraction.length - rest.length : Nat))

def greatestExponent : Int := 0x7FFFFFFF

def saturated (e : Int) : Int := max (-0x80000000) (min e greatestExponent)

def greatestPower : Int := 308

/-- A numeral without a value: the product of its leading digits and its power of ten, each of
them rounded, lies beyond the greatest binary64 number. -/
def overflows (n : Numeral) : Bool :=
  let (m, shift) := n.leading
  let e := n.exponent.getD 0
  let power := saturated (shift + e)
  if m = 0 then false
  else if e > greatestExponent then true
  else if e < -greatestExponent then false
  else if power > greatestPower then true
  else if power < 0 then false
  else
    (((Number.Binary64.ofNat m).bind fun a =>
      (Number.Binary64.powerOfTen power.toNat).bind a.product)).isNone

end Numeral

def fractionPart : List Char → Except Fault (List Char × Rest)
  | '.' :: cs =>
    if (cs.takeWhile Number.isDigit).isEmpty then
      .error (if cs.isEmpty then .cutShort else .malformed)
    else .ok (cs.takeWhile Number.isDigit, cs.dropWhile Number.isDigit)
  | cs => .ok ([], cs)

def exponentDigits (negative : Bool) (cs : List Char) : Except Fault (Option Int × Rest) :=
  if (cs.takeWhile Number.isDigit).isEmpty then
    .error (if cs.isEmpty then .cutShort else .malformed)
  else
    let n : Int := Number.ofDigits 10 (cs.takeWhile Number.isDigit)
    .ok (some (if negative then -n else n), cs.dropWhile Number.isDigit)

def exponentPart : List Char → Except Fault (Option Int × Rest)
  | 'e' :: cs | 'E' :: cs =>
    match cs with
    | '+' :: ds => exponentDigits false ds
    | '-' :: ds => exponentDigits true ds
    | ds => exponentDigits false ds
  | cs => .ok (none, cs)

def wholePart : List Char → Except Fault (List Char × Rest)
  | [] => .error .cutShort
  | '0' :: c :: cs => if Number.isDigit c then .error .malformed else .ok (['0'], c :: cs)
  | cs =>
    if (cs.takeWhile Number.isDigit).isEmpty then .error .malformed
    else .ok (cs.takeWhile Number.isDigit, cs.dropWhile Number.isDigit)

def unsignedNumeral (negative : Bool) (cs : List Char) : Except Fault (Numeral × Rest) := do
  let (w, cs) ← wholePart cs
  let (f, cs) ← fractionPart cs
  let (e, cs) ← exponentPart cs
  let n : Numeral := ⟨negative, w, f, e⟩
  if n.overflows then .error .malformed else .ok (n, cs)

/-! ## Any value -/

mutual

def anyValue : Nat → List Char → Except Fault (Value × Rest)
  | 0, _ => .error .malformed
  | n + 1, cs =>
    match skipBlank cs with
    | [] => .error .cutShort
    | 'n' :: r => (keyword "ull".toList r).map fun r => (.null, r)
    | 't' :: r => (keyword "rue".toList r).map fun r => (.bool true, r)
    | 'f' :: r => (keyword "alse".toList r).map fun r => (.bool false, r)
    | '"' :: r => (stringRest r).map fun (s, r) => (.text s, r)
    | '-' :: r => (unsignedNumeral true r).map fun (x, r) => (.number x.mantissa x.power, r)
    | '[' :: r =>
      match skipBlank r with
      | ']' :: r => .ok (.array [], r)
      | r => (elements n r).map fun (vs, r) => (.array vs, r)
    | '\x7b' :: r =>
      match skipBlank r with
      | '\x7d' :: r => .ok (.object [], r)
      | r => (members n r).map fun (ms, r) => (.object ms, r)
    | c :: r =>
      if Number.isDigit c then
        (unsignedNumeral false (c :: r)).map fun (x, r) => (.number x.mantissa x.power, r)
      else .error .malformed

def elements : Nat → List Char → Except Fault (List Value × Rest)
  | 0, _ => .error .malformed
  | n + 1, cs =>
    match anyValue n cs with
    | .error f => .error f
    | .ok (v, r) =>
      match skipBlank r with
      | [] => .error .cutShort
      | ']' :: r => .ok ([v], r)
      | ',' :: r => (elements n r).map fun (vs, r) => (v :: vs, r)
      | _ => .error .malformed

def members : Nat → List Char → Except Fault (List (String × Value) × Rest)
  | 0, _ => .error .malformed
  | n + 1, cs =>
    match skipBlank cs with
    | [] => .error .cutShort
    | '"' :: r =>
      match stringRest r with
      | .error f => .error f
      | .ok (k, r) =>
        match skipBlank r with
        | [] => .error .cutShort
        | ':' :: r =>
          match anyValue n r with
          | .error f => .error f
          | .ok (v, r) =>
            match skipBlank r with
            | [] => .error .cutShort
            | '\x7d' :: r => .ok ([(k, v)], r)
            | ',' :: r => (members n r).map fun (ms, r) => ((k, v) :: ms, r)
            | _ => .error .malformed
        | _ => .error .malformed
    | _ => .error .malformed

end

def Value.read (s : String) : Except Fault Value :=
  whole (anyValue (2 * s.length + 2)) s

/-! ## Values of a wanted type -/

/-- What is reported where a value of another type stands: the fault in that value if it is a
scalar and malformed, and otherwise that it has the wrong type. -/
def unwanted (cs : List Char) : Fault :=
  let judge {α : Type} : Except Fault α → Fault
    | .error f => f
    | .ok _ => .mistyped
  match cs with
  | [] => .cutShort
  | 'n' :: r => judge (keyword "ull".toList r)
  | 't' :: r => judge (keyword "rue".toList r)
  | 'f' :: r => judge (keyword "alse".toList r)
  | '"' :: r => judge (stringRest r)
  | '-' :: r => judge (unsignedNumeral true r)
  | '[' :: _ => .mistyped
  | '\x7b' :: _ => .mistyped
  | c :: r => if Number.isDigit c then judge (unsignedNumeral false (c :: r)) else .malformed

def text : Reader String := fun cs =>
  match skipBlank cs with
  | '"' :: r => stringRest r
  | r => .error (unwanted r)

def word : Reader Nat := fun cs =>
  match skipBlank cs with
  | '-' :: r =>
    match unsignedNumeral true r with
    | .error f => .error f
    | .ok _ => .error .mistyped
  | r =>
    if r.head?.any Number.isDigit then
      match unsignedNumeral false r with
      | .error f => .error f
      | .ok (n, rest) =>
        if n.isInteger && decide (n.mantissa.natAbs ≤ Number.greatestWord) then
          .ok (n.mantissa.natAbs, rest)
        else .error .mistyped
    else .error (unwanted r)

def null : Reader Unit := fun cs =>
  match skipBlank cs with
  | 'n' :: r => (keyword "ull".toList r).map fun r => ((), r)
  | r => .error (unwanted r)

def optional {α : Type} (reader : Reader α) : Reader (Option α) := fun cs =>
  match skipBlank cs with
  | 'n' :: r => (keyword "ull".toList r).map fun r => (none, r)
  | r => (reader r).map fun (a, r) => (some a, r)

def variantOf {α : Type} [Document.Named α] (name : String) : Except Fault α :=
  match Document.Named.read name with
  | .ok a => .ok a
  | .error m => .error (.unknownName m)

def colon (cs : List Char) : Except Fault Rest :=
  match skipBlank cs with
  | [] => .error .cutShort
  | ':' :: r => .ok r
  | _ => .error .malformed

/-- A value of an enumeration: its name as a string, or an object with the name as its only key
and null as the value. No other kind of value is looked into. -/
def named {α : Type} [Document.Named α] : Reader α := fun cs =>
  match skipBlank cs with
  | [] => .error .cutShort
  | '"' :: r => do
    let (name, r) ← stringRest r
    return (← variantOf name, r)
  | '\x7b' :: r => do
    let (name, r) ← text r
    let a ← variantOf name
    let r ← colon r
    let ((), r) ← null r
    match skipBlank r with
    | [] => .error .cutShort
    | '\x7d' :: r => .ok (a, r)
    | _ => .error .malformed
  | _ => .error .malformed

end TreeTool.Json
