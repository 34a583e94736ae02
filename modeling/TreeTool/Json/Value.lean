/-!
# JSON values and their text

A value is written compactly or indented by two spaces. Strings are quoted with the short escapes
where there is one and a four-digit escape for the other control characters; nothing else is
escaped. A number is a mantissa and a power of ten, so an integer is written by its digits alone.
-/

namespace TreeTool.Json

inductive Value
  | null
  | bool (b : Bool)
  | number (mantissa exponent : Int)
  | text (s : String)
  | array (vs : List Value)
  | object (members : List (String × Value))
  deriving Repr, Inhabited

namespace Value

def integer (n : Int) : Value := number n 0

def strings (ss : List String) : Value := array (ss.map text)

def optional {α : Type} (f : α → Value) : Option α → Value
  | none => null
  | some a => f a

end Value

def hexDigit (n : Nat) : Char :=
  if n < 10 then Char.ofNat (48 + n) else Char.ofNat (87 + n)

def escape (c : Char) : List Char :=
  if c = '"' then ['\\', '"']
  else if c = '\\' then ['\\', '\\']
  else if c = '\n' then ['\\', 'n']
  else if c = '\r' then ['\\', 'r']
  else if c = '\t' then ['\\', 't']
  else if c = '\x08' then ['\\', 'b']
  else if c = '\x0c' then ['\\', 'f']
  else if c.toNat < 32 then
    ['\\', 'u', '0', '0', hexDigit (c.toNat / 16), hexDigit (c.toNat % 16)]
  else [c]

def quote (s : String) : List Char := '"' :: (s.toList.flatMap escape ++ ['"'])

def numeral (mantissa exponent : Int) : List Char :=
  if exponent = 0 then (toString mantissa).toList
  else (toString mantissa).toList ++ 'e' :: (toString exponent).toList

namespace Value

mutual

def compact : Value → List Char
  | null => "null".toList
  | bool b => (if b then "true" else "false").toList
  | number m e => numeral m e
  | text s => quote s
  | array vs => '[' :: (compactElements vs ++ [']'])
  | object ms => '\x7b' :: (compactMembers ms ++ ['\x7d'])

def compactElements : List Value → List Char
  | [] => []
  | [v] => compact v
  | v :: w :: vs => compact v ++ ',' :: compactElements (w :: vs)

def compactMembers : List (String × Value) → List Char
  | [] => []
  | [(k, v)] => quote k ++ ':' :: compact v
  | (k, v) :: m :: ms => quote k ++ ':' :: (compact v ++ ',' :: compactMembers (m :: ms))

end

def lineAt (depth : Nat) : List Char := '\n' :: List.replicate (2 * depth) ' '

mutual

def indented (depth : Nat) : Value → List Char
  | array (v :: vs) =>
    '[' :: (lineAt (depth + 1) ++ indentedElements (depth + 1) (v :: vs) ++
      lineAt depth ++ [']'])
  | object (m :: ms) =>
    '\x7b' :: (lineAt (depth + 1) ++ indentedMembers (depth + 1) (m :: ms) ++
      lineAt depth ++ ['\x7d'])
  | array [] => ['[', ']']
  | object [] => ['\x7b', '\x7d']
  | null => "null".toList
  | bool b => (if b then "true" else "false").toList
  | number m e => numeral m e
  | text s => quote s

def indentedElements (depth : Nat) : List Value → List Char
  | [] => []
  | [v] => indented depth v
  | v :: w :: vs =>
    indented depth v ++ ',' :: (lineAt depth ++ indentedElements depth (w :: vs))

def indentedMembers (depth : Nat) : List (String × Value) → List Char
  | [] => []
  | [(k, v)] => quote k ++ ':' :: ' ' :: indented depth v
  | (k, v) :: m :: ms =>
    quote k ++ ':' :: ' ' :: (indented depth v ++ ',' ::
      (lineAt depth ++ indentedMembers depth (m :: ms)))

end

def line (v : Value) : String := String.ofList v.compact

def page (v : Value) : String := String.ofList (v.indented 0)

end Value

end TreeTool.Json
