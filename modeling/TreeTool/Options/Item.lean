import TreeTool.Text.Pieces

/-!
# Option texts as lists of items

An option text is a comma-separated list of `key=value` items. `Item.split` reads one; it refuses
an empty text, an empty item, an item without a value, an empty key or value, and a key that an
earlier item used. `Item.joined` writes items back.
-/

namespace TreeTool.Options

structure Item where
  key : String
  value : String
  deriving DecidableEq, Repr

inductive Refusal
  | emptyText
  | emptyItem
  | noValue (item : String)
  | malformed (item : String)
  | repeatedKey (key : String)
  | unknownKey (key kind : String)
  | notBool (key value : String)
  | unknownToken (enumeration value : String)
  deriving DecidableEq, Repr

namespace Refusal

def text : Refusal → String
  | emptyText => "empty option string"
  | emptyItem => "empty option item"
  | noValue item => "option '" ++ item ++ "' has no value"
  | malformed item => "malformed option '" ++ item ++ "'"
  | repeatedKey key => "option '" ++ key ++ "' specified more than once"
  | unknownKey key kind => "unknown option '" ++ key ++ "' for " ++ kind ++ " options"
  | notBool key value => "option '" ++ key ++ "' expects yes or no, got '" ++ value ++ "'"
  | unknownToken enumeration value => "Unknown " ++ enumeration ++ " token: '" ++ value ++ "'"

end Refusal

namespace Item

def ofPiece (p : List Char) : Except Refusal Item :=
  if p.isEmpty then .error .emptyItem
  else match Text.cutFirst '=' p with
    | none => .error (.noValue (String.ofList p))
    | some (k, v) =>
      if k.isEmpty || v.isEmpty then .error (.malformed (String.ofList p))
      else .ok ⟨String.ofList k, String.ofList v⟩

def ofPieces (seen : List String) : List (List Char) → Except Refusal (List Item)
  | [] => .ok []
  | p :: ps =>
    match ofPiece p with
    | .error r => .error r
    | .ok i =>
      if i.key ∈ seen then .error (.repeatedKey i.key)
      else match ofPieces (i.key :: seen) ps with
        | .error r => .error r
        | .ok is => .ok (i :: is)

def split (text : String) : Except Refusal (List Item) :=
  if text.isEmpty then .error .emptyText
  else ofPieces [] (Text.pieces ',' text.toList)

def text (i : Item) : String := i.key ++ "=" ++ i.value

def joined (is : List Item) : String := ",".intercalate (is.map text)

end Item

end TreeTool.Options
