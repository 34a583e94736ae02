import TreeTool.Number.Digits
import TreeTool.Program.Options
import TreeTool.Text.CharacterClass

/-!
# Utilities that choose and replace characters
-/

namespace TreeTool.Program

open Work

/-! ## Sets of characters -/

namespace CharacterSet

/-- An element of a set: a character, a range, a class of a name, or a repetition, which fills the
set where it has no count. -/
inductive Element
  | one (c : Char)
  | range (first last : Char)
  | named (name : String)
  | repeated (c : Char) (count : Option Nat)
  deriving DecidableEq, Repr

def character? : List Char → Option (Char × Bool × List Char)
  | [] => none
  | '\\' :: c :: cs =>
    let ds := ((c :: cs).take 3).takeWhile (Number.isDigitOf 8)
    if !ds.isEmpty then
      let ds := if Number.ofDigits 8 ds < 256 then ds else ds.take 2
      some (Char.ofNat (Number.ofDigits 8 ds), true, (c :: cs).drop ds.length)
    else
      let known := [('a', '\x07'), ('b', '\x08'), ('f', '\x0c'), ('n', '\n'), ('r', '\r'),
        ('t', '\t'), ('v', '\x0b')]
      some ((known.lookup c).getD c, true, cs)
  | c :: cs => some (c, false, cs)

def bracketed? : List Char → Option (Except String Element × List Char)
  | '[' :: ':' :: cs =>
    let name := cs.takeWhile (· ≠ ':')
    match cs.drop name.length with
    | ':' :: ']' :: rest =>
      let name := String.ofList name
      if name ∈ Text.CharacterClass.names then some (.ok (.named name), rest)
      else some (.error ("invalid character class " ++ quoted name), rest)
    | _ => none
  | '[' :: '=' :: c :: '=' :: ']' :: rest => some (.ok (.one c), rest)
  | '[' :: cs =>
    match character? cs with
    | some (c, _, '*' :: cs) =>
      let ds := cs.takeWhile Char.isDigit
      match cs.drop ds.length with
      | ']' :: rest =>
        let n := Number.ofDigits (if ds.head? = some '0' then 8 else 10) ds
        some (.ok (.repeated c (if n = 0 then none else some n)), rest)
      | _ => none
    | _ => none
  | _ => none

def elementsFrom : Nat → List Char → Except String (List Element)
  | 0, _ => .ok []
  | n + 1, cs =>
    match bracketed? cs with
    | some (e, rest) => do
      let e ← e
      return e :: (← elementsFrom n rest)
    | none =>
      match character? cs with
      | none => .ok []
      | some (c, _, '-' :: rest) =>
        match character? rest with
        | some (d, _, rest') =>
          if d < c then
            .error ("range-endpoints of '" ++ c.toString ++ "-" ++ d.toString ++
              "' are in reverse collating sequence order")
          else do return .range c d :: (← elementsFrom n rest')
        | none => do return .one c :: (← elementsFrom n ('-' :: rest))
      | some (c, _, rest) => do return .one c :: (← elementsFrom n rest)

def elements (s : String) : Except String (List Element) := elementsFrom (s.length + 1) s.toList

def allCharacters : List Char := (List.range 256).map Char.ofNat

def Element.characters (fill : Nat) : Element → List Char
  | one c => [c]
  | range c d => (List.range (d.toNat + 1 - c.toNat)).map fun i => Char.ofNat (c.toNat + i)
  | named name => allCharacters.filter (Text.CharacterClass.has name)
  | repeated c n => List.replicate (n.getD fill) c

def characters (es : List Element) (length : Nat) : List Char :=
  let fixed := Number.total (es.map fun e => (e.characters 0).length)
  es.flatMap (Element.characters (length - fixed))

end CharacterSet

open CharacterSet

def squeezed (set : Char → Bool) : Option Char → List Char → List Char
  | _, [] => []
  | last, c :: cs =>
    if last = some c && set c then squeezed set last cs else c :: squeezed set (some c) cs

def checkSets (translates : Bool) (first second : List Element) : Work Unit := do
  if first.any fun e => e matches .repeated .. then
    fail "the [c*] repeat construct may not appear in string1"
  if translates then
    let isCase := fun (name : String) => name = "upper" || name = "lower"
    if second.any fun e =>
        match e with
        | .named name => !isCase name
        | _ => false then
      fail ("when translating, the only character classes that may appear in\n" ++
        "string2 are 'upper' and 'lower'")

def elementsOf (s : String) : Work (List Element) :=
  match elements s with
  | .ok es => return es
  | .error message => fail message

def chosen (complement : Bool) (es : List Element) : List Char :=
  let cs := characters es 0
  if complement then allCharacters.filter fun c => c ∉ cs else cs

def translation (cut : Bool) (first second : List Char) : Char → Char :=
  let second := match second.getLast? with
    | some c => if cut then second else second ++ List.replicate (first.length - second.length) c
    | none => []
  let table := (first.zip second).reverse
  fun c => (table.lookup c).getD c

def tr : Work Unit := do
  let g ← given [⟨'c', "complement", .nothing⟩, ⟨'C', "", .nothing⟩, ⟨'d', "delete", .nothing⟩,
    ⟨'s', "squeeze-repeats", .nothing⟩, ⟨'t', "truncate-set1", .nothing⟩] 1 false
  let complement := g.has 'c' || g.has 'C'
  let deletes := g.has 'd'
  let squeezes := g.has 's'
  let most := if deletes && !squeezes then 1 else 2
  let least := if deletes = squeezes then 2 else 1
  let hint := if deletes then
      if squeezes then "Two strings must be given when both deleting and squeezing repeats."
      else "Only one string may be given when deleting without squeezing repeats."
    else "Two strings must be given when translating."
  match g.operands, g.operands.drop most with
  | [], _ => misuse "missing operand"
  | _, extra :: _ => do
    complain ("extra operand " ++ quoted extra)
    if most = 1 then warn (hint ++ "\n")
    warn ("Try '" ++ (← get).image.name ++ " --help' for more information.\n")
    exit 1
  | a :: rest, [] => do
    if g.operands.length < least then
      complain ("missing operand after " ++ quoted a)
      warn (hint ++ "\n")
      warn ("Try '" ++ (← get).image.name ++ " --help' for more information.\n")
      exit 1
    let first ← elementsOf a
    let second ← elementsOf (rest.head?.getD "")
    let translates := !deletes && !rest.isEmpty
    checkSets translates first second
    let from_ := chosen complement first
    let others := characters second from_.length
    if translates && !g.has 't' && others.isEmpty then
      fail "when not truncating set1, string2 must be non-empty"
    let f := translation (g.has 't') from_ others
    let last := if rest.isEmpty then from_ else others
    let text ← (do
      match ← readAll 0 with
      | .ok text => return text
      | .error e => fail ("read error: " ++ e.words))
    let cs := text.toList
    let cs := if deletes then cs.filter fun c => c ∉ from_ else if translates then cs.map f else cs
    put (String.ofList (if squeezes then squeezed (· ∈ last) none cs else cs))

/-! ## Parts of lines -/

structure Span where
  first : Nat
  last : Option Nat
  deriving DecidableEq, Repr

def Span.has (s : Span) (i : Nat) : Bool := s.first ≤ i && s.last.all (i ≤ ·)

def spans (fields : Bool) (s : String) : Except String (List Span) := do
  let zero := if fields then "fields are numbered from 1"
    else "byte/character positions are numbered from 1"
  let invalid := fun (cs : List Char) =>
    (if fields then "invalid field value " else "invalid byte/character position ") ++
      quoted (String.ofList cs)
  let number := fun (cs : List Char) =>
    if cs.all Char.isDigit then Except.ok (Number.ofDigits 10 cs) else .error (invalid cs)
  let isBlank := fun (c : Char) => c = ' ' || c = '\t'
  let cs := s.toList.map fun c => if isBlank c then ',' else c
  (Text.pieces ',' cs).mapM fun piece => do
    match Text.cutFirst '-' piece with
    | none =>
      let n ← number piece
      if piece.isEmpty || n = 0 then .error zero else return ⟨n, some n⟩
    | some (a, b) =>
      if a.isEmpty && b.isEmpty then .error "invalid range with no endpoint: -"
      else
        let first ← if a.isEmpty then pure 1 else number a
        if first = 0 then .error zero
        if b.isEmpty then return ⟨first, none⟩
        else
          let last ← number b
          if last < first then .error "invalid decreasing range" else return ⟨first, some last⟩

def startsRange (ss : List Span) (i : Nat) : Bool := ss.any (·.first = i)

def cutCharacters (has : Nat → Bool) (starts : Nat → Bool) (joint : String) (line : String) :
    String :=
  let chosen := (line.toList.zipIdx 1).filter fun (_, i) => has i
  String.join (chosen.zipIdx.map fun ((c, i), n) =>
    (if n ≠ 0 && starts i && !joint.isEmpty then joint else "") ++ c.toString)

def cutFields (has : Nat → Bool) (separator : Char) (joint : String) (only : Bool)
    (line : String) : Option String :=
  if !line.contains separator then (if only then none else some line)
  else
    let fields := (Text.pieces separator line.toList).map String.ofList
    some (joint.intercalate (((fields.zipIdx 1).filter fun (_, i) => has i).map (·.1)))

def cut : Work Unit := do
  let g ← given [⟨'b', "bytes", .argument⟩, ⟨'c', "characters", .argument⟩,
    ⟨'f', "fields", .argument⟩, ⟨'d', "delimiter", .argument⟩, ⟨'s', "only-delimited", .nothing⟩,
    ⟨'n', "", .nothing⟩, ⟨'O', "output-delimiter", .argument⟩, ⟨'X', "complement", .nothing⟩,
    ⟨'z', "zero-terminated", .nothing⟩]
  match g.options.filter fun o => o.1 = 'b' || o.1 = 'c' || o.1 = 'f' with
  | [] => misuse "you must specify a list of bytes, characters, or fields"
  | _ :: _ :: _ => misuse "only one list may be specified"
  | [(kind, list)] => do
    let fields := kind = 'f'
    match g.value? 'd' with
    | some d =>
      if 1 < d.length then misuse "the delimiter must be a single character"
      if !fields then
        misuse "an input delimiter may be specified only when operating on fields"
    | none => pure ()
    if g.has 's' && !fields then
      misuse "suppressing non-delimited lines makes sense\n\tonly when operating on fields"
    match spans fields list with
    | .error message => misuse message
    | .ok ss => do
      let has := fun (i : Nat) => (ss.any (·.has i)) ≠ g.has 'X'
      let separator := match g.value? 'd' with
        | some d => d.toList.head?.getD '\x00'
        | none => '\t'
      let joint := g.value? 'O'
      let texts ← contents g.operands
      texts.forM fun text =>
        (plainLines text).forM fun line =>
          if fields then
            match cutFields has separator (joint.getD separator.toString) (g.has 's') line with
            | some l => putLine l
            | none => return
          else
            let starts := fun (i : Nat) =>
              if g.has 'X' then i ≠ 1 && !has (i - 1) else startsRange ss i && !has (i - 1)
            putLine (cutCharacters has starts (joint.getD "") line)

/-! ## Whole lines -/

def reversedLine (l : String) : String :=
  let body := withoutEnd l
  String.ofList body.toList.reverse ++ (if body.length < l.length then "\n" else "")

def rev : Work Unit := do
  let g ← given []
  let message := fun (p : String) (e : Files.Problem) => "cannot open " ++ p ++ ": " ++ e.words
  (← contents g.operands message).forM fun text =>
    (lines text).forM fun l => put (reversedLine l)

def folded (width : Nat) (atBlanks : Bool) : Nat → List Char → List (List Char)
  | 0, cs => [cs]
  | n + 1, cs =>
    if cs.length ≤ width || width = 0 then [cs]
    else
      let piece := cs.take width
      let upToBlank := (piece.reverse.dropWhile fun c => c ≠ ' ' && c ≠ '\t').length
      let size := if atBlanks && 0 < upToBlank then upToBlank else width
      cs.take size :: folded width atBlanks n (cs.drop size)

def fold : Work Unit := do
  let g ← given [⟨'b', "bytes", .nothing⟩, ⟨'s', "spaces", .nothing⟩, ⟨'w', "width", .argument⟩]
  let width ← (do
    match g.value? 'w' with
    | none => return 80
    | some w =>
      if !w.isEmpty && w.toList.all Char.isDigit && Number.ofDigits 10 w.toList ≠ 0 then
        return Number.ofDigits 10 w.toList
      else fail ("invalid number of columns: " ++ quoted w))
  (← contents g.operands).forM fun text =>
    (lines text).forM fun l => do
      let body := withoutEnd l
      let pieces := folded width (g.has 's') (body.length + 1) body.toList
      put ("\n".intercalate (pieces.map String.ofList))
      if body.length < l.length then put "\n"

end TreeTool.Program
