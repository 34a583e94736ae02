import TreeTool.Shell.Script
import TreeTool.Text.CharacterClass

/-!
# Patterns

A pattern is a text of which some characters are quoted and stand for themselves. `*` stands for
any text, `?` for any character, and brackets for one of the characters and ranges in them.
-/

namespace TreeTool.Shell

structure Glyph where
  char : Char
  quoted : Bool
  deriving DecidableEq, Repr, Inhabited

namespace Pattern

inductive Element
  | range (first last : Char)
  | named (name : String)
  deriving DecidableEq, Repr

inductive Atom
  | any
  | one
  | set (negated : Bool) (elements : List Element)
  | char (c : Char)
  deriving DecidableEq, Repr

def Element.has (c : Char) : Element → Bool
  | range a b => a ≤ c && c ≤ b
  | named name => Text.CharacterClass.has name c

def protect : List Glyph → List Glyph
  | [] => []
  | ⟨'\\', false⟩ :: g :: gs => ⟨g.char, true⟩ :: protect gs
  | g :: gs => g :: protect gs

def named? (gs : List Glyph) : Option (Element × List Glyph) :=
  match gs with
  | ⟨':', false⟩ :: gs =>
    let name := String.ofList ((gs.takeWhile fun g => g.char ≠ ':').map (·.char))
    match gs.dropWhile fun g => g.char ≠ ':' with
    | ⟨':', false⟩ :: ⟨']', false⟩ :: rest =>
      if name ∈ Text.CharacterClass.names then some (.named name, rest) else none
    | _ => none
  | _ => none

def element? : List Glyph → Option (Element × List Glyph)
  | [] => none
  | g :: gs =>
    match if g = ⟨'[', false⟩ then named? gs else none with
    | some r => some r
    | none =>
      match gs with
      | ⟨'-', false⟩ :: h :: rest =>
        if h = ⟨']', false⟩ then some (.range g.char g.char, gs)
        else some (.range g.char h.char, rest)
      | gs => some (.range g.char g.char, gs)

def elements? : Nat → List Glyph → Option (List Element × List Glyph)
  | 0, _ => none
  | n + 1, gs =>
    match element? gs with
    | none => none
    | some (e, ⟨']', false⟩ :: rest) => some ([e], rest)
    | some (e, rest) => (elements? n rest).map fun (es, rest) => (e :: es, rest)

def atomsFrom : Nat → List Glyph → List Atom
  | 0, _ => []
  | _, [] => []
  | n + 1, g :: gs =>
    if g.quoted then .char g.char :: atomsFrom n gs
    else match g.char with
      | '*' => .any :: atomsFrom n gs
      | '?' => .one :: atomsFrom n gs
      | '[' =>
        let (negated, inside) := match gs with
          | ⟨'!', false⟩ :: gs => (true, gs)
          | gs => (false, gs)
        match elements? inside.length inside with
        | some (es, rest) => .set negated es :: atomsFrom n rest
        | none => .char '[' :: atomsFrom n gs
      | c => .char c :: atomsFrom n gs

def atoms (gs : List Glyph) : List Atom := atomsFrom gs.length (protect gs)

def Atom.fits (a : Atom) (c : Char) : Bool :=
  match a with
  | any => false
  | one => true
  | set negated es => es.any (·.has c) ≠ negated
  | char d => d = c

def anySuffix (p : List Char → Bool) : List Char → Bool
  | [] => p []
  | c :: cs => p (c :: cs) || anySuffix p cs

def fits : List Atom → List Char → Bool
  | [], cs => cs.isEmpty
  | .any :: as, cs => anySuffix (fits as) cs
  | a :: as, c :: cs => a.fits c && fits as cs
  | _ :: _, [] => false

def isActive (gs : List Glyph) : Bool :=
  (atoms gs).any fun a =>
    match a with
    | .char _ => false
    | _ => true

def trimmed (fromEnd longest : Bool) (as : List Atom) (text : String) : String :=
  let cs := text.toList
  let cuts := (List.range (cs.length + 1)).filter fun n =>
    fits as (if fromEnd then cs.drop (cs.length - n) else cs.take n)
  match if longest then cuts.getLast? else cuts.head? with
  | none => text
  | some n => String.ofList (if fromEnd then cs.take (cs.length - n) else cs.drop n)

end Pattern

end TreeTool.Shell
