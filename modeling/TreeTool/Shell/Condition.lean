import TreeTool.Kernel.World
import TreeTool.Shell.State

/-!
# Conditions

A test compares texts and numbers and looks at files. Operands may look like operators: what an
argument is depends on those after it, and a test of three or four arguments is first tried in the
forms that it most likely has.
-/

namespace TreeTool.Shell.Condition

open Files (Entry)
open Kernel (World)

inductive Token
  | finished
  | operand
  | unary (op : String)
  | binary (op : String)
  | negation | and_ | or_ | open_ | close
  deriving DecidableEq, Repr

def token (s : String) : Token :=
  if s ∈ ["-r", "-w", "-x", "-e", "-f", "-d", "-c", "-b", "-p", "-u", "-g", "-k", "-s", "-t", "-z",
      "-n", "-h", "-L", "-O", "-G", "-S"] then .unary s
  else if s ∈ ["=", "!=", "<", ">", "-eq", "-ne", "-gt", "-ge", "-lt", "-le", "-nt", "-ot",
      "-ef"] then .binary s
  else match s with
    | "!" => .negation
    | "-a" => .and_
    | "-o" => .or_
    | "(" => .open_
    | ")" => .close
    | _ => .operand

def Token.isBinary : Token → Bool
  | binary _ => true
  | _ => false

inductive Fault
  | unexpected (operator : String)
  | missing (operator : String)
  | unclosed
  | notNumber (text : String)
  deriving DecidableEq, Repr

def Fault.message : Fault → String
  | unexpected op => (if op.isEmpty then "" else op ++ ": ") ++ "unexpected operator"
  | missing op => op ++ ": argument expected"
  | unclosed => "closing paren expected"
  | notNumber s => "Illegal number: " ++ s

structure Facts where
  one : String → String → Bool
  two : String → String → String → Bool

abbrev Reading := StateT Nat (Except Fault)

def numberOf (s : String) : Except Fault Int :=
  match integer? s with
  | some n => .ok n
  | none => .error (.notNumber s)

def compare (facts : Facts) (op a b : String) : Except Fault Bool :=
  let numbers := fun (p : Int → Int → Bool) => return p (← numberOf a) (← numberOf b)
  match op with
  | "=" => .ok (a = b)
  | "!=" => .ok (a ≠ b)
  | "<" => .ok (a < b)
  | ">" => .ok (b < a)
  | "-eq" => numbers (· == ·)
  | "-ne" => numbers (· != ·)
  | "-lt" => numbers fun x y => x < y
  | "-le" => numbers fun x y => x ≤ y
  | "-gt" => numbers fun x y => y < x
  | "-ge" => numbers fun x y => y ≤ x
  | _ => .ok (facts.two op a b)

section

variable (facts : Facts) (as : Array String)

def lex (i : Nat) : Token :=
  match as[i]? with
  | none => .finished
  | some s =>
    match token s with
    | .unary op =>
      let isOperand := match as[i + 1]?, as[i + 2]? with
        | none, _ => true
        | some _, none => false
        | some t, some _ => (token t).isBinary
      if isOperand then .operand else .unary op
    | .open_ => if as[i + 1]?.isNone then .operand else .open_
    | t => t

def here : Reading String := return as.getD (← get) ""

def single (op : String) : Reading Bool := do
  modify (· + 1)
  match as[← get]? with
  | none => throw (.missing op)
  | some x =>
    match op with
    | "-z" => return x.isEmpty
    | "-n" => return !x.isEmpty
    | "-t" => do
      discard (numberOf x : Except Fault Int)
      return false
    | op => return facts.one op x

def pair (op : String) : Reading Bool := do
  let a ← here as
  modify (· + 2)
  match as[← get]? with
  | none => throw (.missing op)
  | some b => compare facts op a b

mutual

def disjunction : Nat → Token → Reading Bool
  | 0, _ => return false
  | n + 1, t => do
    let a ← conjunction n t
    if lex as ((← get) + 1) = .or_ then
      modify (· + 2)
      let b ← disjunction n (lex as (← get))
      return a || b
    else return a

def conjunction : Nat → Token → Reading Bool
  | 0, _ => return false
  | n + 1, t => do
    let a ← negation n t
    if lex as ((← get) + 1) = .and_ then
      modify (· + 2)
      let b ← conjunction n (lex as (← get))
      return a && b
    else return a

def negation : Nat → Token → Reading Bool
  | 0, _ => return false
  | n + 1, t => do
    if t = .negation then
      let t := lex as ((← get) + 1)
      if t ≠ .finished then modify (· + 1)
      return !(← negation n t)
    else primary n t

def primary : Nat → Token → Reading Bool
  | 0, _ => return false
  | n + 1, t => do
    match t with
    | .finished => return false
    | .open_ => do
      modify (· + 1)
      let t := lex as (← get)
      if t = .close then return false
      else
        let a ← disjunction n t
        modify (· + 1)
        if lex as (← get) = .close then return a else throw .unclosed
    | .unary op => single facts as op
    | _ =>
      match lex as ((← get) + 1) with
      | .binary op => pair facts as op
      | _ => return !(← here as).isEmpty

end

def whole (start : Token) : Except Fault Bool := do
  let (a, i) ← (disjunction facts as (8 * as.size + 8) start).run 0
  match as[i]?, as[i + 1]? with
  | some op, some _ => throw (.unexpected op)
  | _, _ => return a

end

def value (facts : Facts) : List String → Except Fault Bool
  | [] => .ok false
  | as =>
    let middle := match as with
      | [_, op, _] => (token op).isBinary
      | _ => false
    if middle then whole facts as.toArray .operand
    else
      let few := as.length = 3 || as.length = 4
      match as with
      | "(" :: rest =>
        if few && as.getLast? = some ")" then
          let inside := rest.dropLast
          whole facts inside.toArray (lex inside.toArray 0)
        else whole facts as.toArray (lex as.toArray 0)
      | "!" :: rest =>
        if few then (value facts rest).map (!·) else whole facts as.toArray (lex as.toArray 0)
      | as => whole facts as.toArray (lex as.toArray 0)

/-! ## Files -/

def isExecutable : Entry → Bool
  | .file _ x => x
  | .directory | .utility _ => true
  | _ => false

def holdsOf (op : String) (e itself : Option Entry) : Bool :=
  match op with
  | "-e" | "-r" | "-w" | "-O" | "-G" => e.isSome
  | "-f" => (e matches some (.file ..)) || (e matches some (.utility _))
  | "-d" => e == some .directory
  | "-x" => e.any isExecutable
  | "-s" =>
    match e with
    | some (.file content _) => !content.isEmpty
    | some .directory | some (.utility _) => true
    | _ => false
  | "-c" => (e matches some (.device _))
  | "-h" | "-L" => (itself matches some (.link _))
  | _ => false

def facts (w : World) (me : Nat) : Facts where
  one op path :=
    let path := Text.Raw.toText path
    let entry := fun (r : Except Files.Problem (Files.Place × Entry)) => r.toOption.map (·.2)
    holdsOf op (entry (w.files.find (w.here me) path)) (entry (w.files.findItself (w.here me) path))
  two op a b :=
    let place := fun (path : String) =>
      ((w.files.find (w.here me) (Text.Raw.toText path)).toOption).map (·.1)
    op = "-ef" && (place a).isSome && place a = place b

end TreeTool.Shell.Condition
