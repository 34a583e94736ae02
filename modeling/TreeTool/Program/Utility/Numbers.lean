import TreeTool.Program.Format
import TreeTool.Program.Regular
import TreeTool.Program.Utility.Copying

/-!
# Utilities about numbers and time
-/

namespace TreeTool.Program

open Work

/-! ## Decimal numbers -/

structure Decimal where
  units : Int
  places : Nat
  deriving DecidableEq, Repr

namespace Decimal

def ofText? (s : String) : Option Decimal := do
  let (negative, cs) := Number.takeSign s.toList
  let (n, places, rest) ← Number.scanPointed 10 cs
  if rest.isEmpty then return ⟨if negative then -n else n, places⟩ else none

def inPlaces (d : Decimal) (places : Nat) : Int := d.units * Number.pow10 (places - d.places : Nat)

def text (d : Decimal) : String :=
  let ds := toString d.units.natAbs
  let ds := (String.ofList (List.replicate (d.places + 1 - ds.length) '0') ++ ds).toList
  let whole := String.ofList (ds.take (ds.length - d.places))
  (if d.units < 0 then "-" else "") ++
    (if d.places = 0 then whole
      else whole ++ "." ++ String.ofList (ds.drop (ds.length - d.places)))

def filled (width : Nat) (s : String) : String :=
  let zeros := String.ofList (List.replicate (width - s.length) '0')
  match s.toList with
  | '-' :: cs => "-" ++ zeros ++ String.ofList cs
  | _ => zeros ++ s

end Decimal

def progression (first step last : Int) : Nat → List Int
  | 0 => []
  | n + 1 =>
    if (0 < step && last < first) || (step < 0 && first < last) then []
    else first :: progression (first + step) step last n

def seq : Work Unit := do
  let as ← arguments
  let isNumber := fun (a : String) =>
    match a.toList with
    | '-' :: c :: _ => c.isDigit || c = '.'
    | _ => false
  let switches := [⟨'s', "separator", .argument⟩, ⟨'w', "equal-width", .nothing⟩,
    ⟨'f', "format", .argument⟩]
  let front := as.takeWhile fun a => !isNumber a
  let behind := as.drop front.length
  let startsNegative := !behind.isEmpty && (match Switch.read switches false front with
    | .ok g => g.operands.isEmpty
    | .error _ => false)
  if startsNegative then
    modify fun r => { r with image := { r.image with arguments := front ++ "--" :: behind } }
  let g ← given switches 1 false
  let numbers ← g.operands.mapM fun a => do
    match Decimal.ofText? a with
    | some d => return (a, d)
    | none => misuse ("invalid floating point argument: " ++ quoted a)
  let one : String × Decimal := ("1", ⟨1, 0⟩)
  let (first, step, last) ← (do
    match numbers with
    | [] => misuse "missing operand"
    | [last] => return (one, one, last)
    | [first, last] => return (first, one, last)
    | [first, step, last] => return (first, step, last)
    | _ :: _ :: _ :: extra :: _ => misuse ("extra operand " ++ quoted extra.1))
  if step.2.units = 0 then misuse ("invalid Zero increment value: " ++ quoted step.1)
  let shown := max first.2.places step.2.places
  let places := max shown last.2.places
  let first := first.2.inPlaces places
  let step := step.2.inPlaces places
  let last := last.2.inPlaces places
  let values := progression first step last ((last - first).natAbs / step.natAbs + 2)
  let texts := values.map fun v => (Decimal.mk (v / Number.pow10 (places - shown : Nat)) shown).text
  let width := if g.has 'w' then
      (texts.map String.length).foldl max (Decimal.mk (last / Number.pow10 (places - shown : Nat)) shown).text.length
    else 0
  let texts := match g.value? 'f' with
    | some format => texts.map fun t => (formatted format [t]).text
    | none => texts.map (Decimal.filled width)
  if !texts.isEmpty then putLine (((g.value? 's').getD "\n").intercalate texts)

/-! ## Time -/

def nanoseconds? (s : String) : Option Nat := do
  let cs := s.toList
  let (number, unit) := match cs.getLast? with
    | some 's' => (cs.dropLast, 1)
    | some 'm' => (cs.dropLast, 60)
    | some 'h' => (cs.dropLast, 3600)
    | some 'd' => (cs.dropLast, 86400)
    | _ => (cs, 1)
  if number.head? = some '-' then none
  else if String.ofList number = "inf" || String.ofList number = "infinity" then return Number.pow10 24
  else
    let d ← Decimal.ofText? (String.ofList number)
    return (d.units.toNat * unit * Number.pow10 9 + Number.pow10 d.places - 1) / Number.pow10 d.places

def sleep : Work Unit := do
  let as := match ← arguments with
    | "--" :: as => as
    | as => as
  match as with
  | [] => misuse "missing operand"
  | a :: _ =>
    match a.toList with
    | '-' :: c :: _ => misuse ("invalid option -- '" ++ c.toString ++ "'")
    | _ => pure ()
  let times ← as.mapM fun a => do
    match nanoseconds? a with
    | some n => return n
    | none => do
      complain ("invalid time interval " ++ quoted a)
      return 0
  if as.any fun a => (nanoseconds? a).isNone then
    warn ("Try '" ++ (← get).image.name ++ " --help' for more information.\n")
    exit 1
  (Kernel.Activity.sleep (Number.total times) : Kernel.Activity Unit)

/-! ## Expressions -/

namespace Expr

abbrev Reading := StateT (List String) (Except String)

def integer? (s : String) : Option Int :=
  match s.toList with
  | '-' :: ds => if ds.isEmpty || !ds.all Char.isDigit then none else some (-Number.ofDigits 10 ds)
  | ds => if ds.isEmpty || !ds.all Char.isDigit then none else some (Number.ofDigits 10 ds)

def isNull (s : String) : Bool := s.isEmpty || integer? s = some 0

def missing (last : String) : String :=
  "syntax error: missing argument after " ++ quoted last

def next (last : String) : Reading String := do
  match ← get with
  | [] => throw (missing last)
  | a :: as => do
    set as
    return a

def operator? (ops : List String) : Reading (Option String) := do
  match ← get with
  | a :: as =>
    if a ∈ ops then
      set as
      return some a
    else return none
  | [] => return none

def matched (text pattern : String) : Reading String := do
  match Regular.read {} pattern with
  | .error f =>
    throw (if f = .unmatchedBracket && pattern.toList.getLast? = some '[' then
      "Invalid regular expression" else f.text)
  | .ok e =>
    let cs := text.toList.toArray
    let grouped := (pattern.splitOn "\\(").length ≠ 1
    match e.matchAt? cs (fun _ _ => true) 0 with
    | none => return if grouped then "" else "0"
    | some r =>
      if grouped then
        return match r.groups.lookup 1 with
          | some (i, j) => String.ofList (cs.extract i j).toList
          | none => ""
      else return toString r.position

def integerOf (s : String) : Reading Int :=
  match integer? s with
  | some n => return n
  | none => throw "non-integer argument"

def truth (b : Bool) : String := if b then "1" else "0"

def compared (op a b : String) : String :=
  let byOrder := fun (o : Ordering) =>
    match op with
    | "<" => o = .lt
    | "<=" => o ≠ .gt
    | "=" | "==" => o = .eq
    | "!=" => o ≠ .eq
    | ">=" => o ≠ .lt
    | _ => o = .gt
  truth (match integer? a, integer? b with
    | some m, some n => byOrder (compare m n)
    | _, _ => byOrder (compare a b))

def substring (s : String) (position length : String) : String :=
  match integer? position, integer? length with
  | some p, some n =>
    if p ≤ 0 || n ≤ 0 then "" else String.ofList ((s.toList.drop (p.toNat - 1)).take n.toNat)
  | _, _ => ""

def chain (operand : Reading String) (ops : List String)
    (apply : String → String → String → Reading String) : Nat → String → Reading String
  | 0, a => return a
  | n + 1, a => do
    match ← operator? ops with
    | none => return a
    | some op => do
      if (← get).isEmpty then throw (missing op)
      let b ← operand
      chain operand ops apply n (← apply op a b)

def arithmetic (op a b : String) : Reading String := do
  let m ← integerOf a
  let n ← integerOf b
  match op with
  | "+" => return toString (m + n)
  | "-" => return toString (m - n)
  | "*" => return toString (m * n)
  | _ =>
    if n = 0 then throw "division by zero"
    else return toString (if op = "/" then m.tdiv n else m.tmod n)

def whole : Nat → Reading String
  | 0 => throw "syntax error"
  | n + 1 => do
    let many := (← get).length + 1
    let primary : Reading String := do
      let a ← next ""
      match a with
      | "(" => do
        if (← get).isEmpty then throw (missing a)
        let v ← whole n
        match ← get with
        | ")" :: as => do
          set as
          return v
        | x :: _ => throw ("syntax error: expecting ')' instead of " ++ quoted x)
        | [] => throw ("syntax error: expecting ')' after " ++ quoted v)
      | ")" => throw ("syntax error: unexpected ')'")
      | a => return a
    let special : Reading String := do
      match ← get with
      | "+" :: a :: as => do
        set as
        return a
      | "length" :: as => do
        set as
        return toString (← next "length").length
      | "match" :: as => do
        set as
        let a ← next "match"
        let b ← next a
        matched a b
      | "index" :: as => do
        set as
        let a ← next "index"
        let b ← next a
        return toString (match a.toList.findIdx? (b.contains ·) with
          | some i => i + 1
          | none => 0)
      | "substr" :: as => do
        set as
        let a ← next "substr"
        let b ← next a
        let c ← next b
        return substring a b c
      | _ => primary
    let level := fun (operand : Reading String) (ops : List String)
        (apply : String → String → String → Reading String) => do
      let a ← operand
      chain operand ops apply many a
    let colon := level special [":"] fun _ a b => matched a b
    let product := level colon ["*", "/", "%"] arithmetic
    let sum := level product ["+", "-"] arithmetic
    let comparison := level sum ["<", "<=", "=", "==", "!=", ">=", ">"] fun op a b =>
      return compared op a b
    let conjunction := level comparison ["&"] fun _ a b =>
      return if isNull a || isNull b then "0" else a
    level conjunction ["|"] fun _ a b =>
      return if !isNull a then a else if isNull b then "0" else b

end Expr

def expr : Work Unit := do
  let as := match ← arguments with
    | "--" :: as => as
    | as => as
  if as.isEmpty then misuse "missing operand" 2
  match (Expr.whole (as.length + 1)).run as with
  | .error message => fail message 2
  | .ok (_, a :: _) => fail ("syntax error: unexpected argument " ++ quoted a) 2
  | .ok (v, []) => do
    putLine v
    setStatus (if Expr.isNull v then 1 else 0)

end TreeTool.Program
