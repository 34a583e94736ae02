import TreeTool.Fault

/-!
# Coded enumerations

The tool knows a handful of small enumerations. Each value has an integer code in a contiguous
range and one canonical token. The range, the list of values and the code table are written down
separately; `Coded.ofCode` reports a range that the list does not fill as an internal fault.
-/

namespace TreeTool

class Coded (α : Type) where
  label : String
  least : Int
  greatest : Int
  values : List α
  code : α → Int
  token : α → String

namespace Coded

variable (α : Type) [Coded α]

def validCode (c : Int) : Bool := decide (least α ≤ c ∧ c ≤ greatest α)

def ofCode (c : Int) : Except Fault α :=
  if validCode α c then
    match (values : List α).find? (fun v => code v == c) with
    | some v => .ok v
    | none => .error (.internal (label α ++ " code " ++ toString c ++ " has no variant"))
  else .error (.invalidCode (label α) c (least α) (greatest α))

def ofToken (t : String) : Except Fault α :=
  match (values : List α).find? (fun v => token v == t) with
  | some v => .ok v
  | none => .error (.unknownToken (label α) t)

end Coded

def boolToken (b : Bool) : String := if b then "yes" else "no"

end TreeTool
