import TreeTool.Vocabulary

/-!
# Names in documents

Settings and enumerations are also written in documents, under names of their own. `Named` gives
an enumeration its names; `Mismatch` says how the content of a document differs from what was
wanted there, and has one wording for every document format.
-/

namespace TreeTool.Document

inductive Mismatch
  | unknownField (name : String) (known : List String)
  | unknownVariant (name : String) (known : List String)
  | wrongType (found expected : String)
  | wrongValue (found expected : String)
  deriving DecidableEq, Repr

def ticked (s : String) : String := "`" ++ s ++ "`"

def alternatives : List String → String
  | [] => ""
  | [a] => "expected " ++ ticked a
  | [a, b] => "expected " ++ ticked a ++ " or " ++ ticked b
  | as => "expected one of " ++ ", ".intercalate (as.map ticked)

namespace Mismatch

def text : Mismatch → String
  | unknownField name known => "unknown field " ++ ticked name ++ ", " ++ alternatives known
  | unknownVariant name known => "unknown variant " ++ ticked name ++ ", " ++ alternatives known
  | wrongType found expected => "invalid type: " ++ found ++ ", expected " ++ expected
  | wrongValue found expected => "invalid value: " ++ found ++ ", expected " ++ expected

end Mismatch

class Named (α : Type) where
  table : List (String × α)
  name : α → String

namespace Named

variable {α : Type} [Named α]

def known (α : Type) [Named α] : List String := (table (α := α)).map (·.1)

def read (name : String) : Except Mismatch α :=
  match (table (α := α)).lookup name with
  | some v => .ok v
  | none => .error (.unknownVariant name (known α))

end Named

instance : Named Encoding where
  table := [("expl", .explicit), ("bdd-td", .bddTopDown), ("bdd-bu", .bddBottomUp),
    ("expl_fa", .explicitFa)]
  name
    | .explicit => "expl"
    | .bddTopDown => "bdd-td"
    | .bddBottomUp => "bdd-bu"
    | .explicitFa => "expl_fa"

instance : Named Direction where
  table := [("down", .down), ("fwd", .down), ("bwd", .up), ("up", .up)]
  name
    | .down => "down"
    | .up => "up"

instance : Named Order where
  table := [("breadth", .breadth), ("depth", .depth)]
  name
    | .breadth => "breadth"
    | .depth => "depth"

instance : Named Algorithm where
  table := [("antichains", .antichains), ("congr", .congruence)]
  name
    | .antichains => "antichains"
    | .congruence => "congr"

instance : Named Operation where
  table := [("load", .load), ("witness", .witness), ("cmpl", .complement), ("union", .union),
    ("isect", .intersection), ("sim", .simulation), ("red", .reduction),
    ("equiv", .equivalence), ("incl", .inclusion), ("help", .help)]
  name
    | .load => "load"
    | .witness => "witness"
    | .complement => "cmpl"
    | .union => "union"
    | .intersection => "isect"
    | .simulation => "sim"
    | .reduction => "red"
    | .equivalence => "equiv"
    | .inclusion => "incl"
    | .help => "help"

end TreeTool.Document
