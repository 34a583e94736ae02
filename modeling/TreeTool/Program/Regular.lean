import TreeTool.Text.CharacterClass

/-!
# Regular expressions

An expression is written in one of two forms: in the basic one the operators are marked with
backslashes, in the extended one the plain characters are. Of several matches that begin at one
place the longest counts.
-/

namespace TreeTool.Program.Regular

inductive Anchor
  | lineStart | lineEnd | wordStart | wordEnd | wordEdge | notWordEdge
  deriving DecidableEq, Repr

inductive Expression
  | empty
  | one (p : Char → Bool)
  | anchor (a : Anchor)
  | both (a b : Expression)
  | either (a b : Expression)
  | group (n : Nat) (a : Expression)
  | same (n : Nat)
  | rounds (a : Expression) (least : Nat) (most : Option Nat)

/-! ## Matching -/

structure Reached where
  position : Nat
  groups : List (Nat × Nat × Nat) := []
  deriving DecidableEq, Repr

def isWord (c : Char) : Bool := c.isAlphanum || c = '_'

def Anchor.holds (text : Array Char) (i : Nat) (a : Anchor) : Bool :=
  let before := 0 < i && (text[i - 1]?).any isWord
  let after := (text[i]?).any isWord
  match a with
  | lineStart => i = 0
  | lineEnd => i = text.size
  | wordStart => !before && after
  | wordEnd => before && !after
  | wordEdge => before ≠ after
  | notWordEdge => before = after

def distinct (rs : List Reached) : List Reached :=
  rs.foldl (fun seen r => if seen.any (·.position = r.position) then seen else r :: seen) [] |>.reverse

def roundsFrom (once : Reached → List Reached) : (least : Nat) → (most : Nat) → List Reached →
    List Reached
  | 0, 0, rs => rs
  | _ + 1, 0, _ => []
  | least, most + 1, rs =>
    if rs.isEmpty then []
    else
      let next := distinct (rs.flatMap fun r =>
        (once r).filter fun s => least ≠ 0 || r.position < s.position)
      let later := roundsFrom once (least - 1) most next
      if least = 0 then later ++ rs else later

def Expression.reached (text : Array Char) : Expression → Reached → List Reached
  | empty, r => [r]
  | one p, r =>
    match text[r.position]? with
    | some c => if p c then [{ r with position := r.position + 1 }] else []
    | none => []
  | anchor a, r => if a.holds text r.position then [r] else []
  | both a b, r => distinct ((a.reached text r).flatMap (b.reached text))
  | either a b, r => distinct (a.reached text r ++ b.reached text r)
  | group n a, r =>
    (a.reached text r).map fun s =>
      { s with groups := (n, r.position, s.position) :: s.groups.filter (·.1 ≠ n) }
  | same n, r =>
    match r.groups.lookup n with
    | none => []
    | some (i, j) =>
      let size := j - i
      if text.extract i j = text.extract r.position (r.position + size) then
        [{ r with position := r.position + size }]
      else []
  | rounds a least most, r =>
    roundsFrom (a.reached text) least (most.getD (least + text.size + 1)) [r]

def Expression.matchAt? (e : Expression) (text : Array Char) (wanted : Nat → Nat → Bool) (i : Nat) :
    Option Reached :=
  (e.reached text ⟨i, []⟩).foldl (fun best r =>
    if !wanted i r.position then best
    else match best with
      | none => some r
      | some b => if b.position < r.position then some r else some b) none

def searchFrom (es : List Expression) (text : Array Char) (wanted : Nat → Nat → Bool) :
    Nat → Nat → Option (Nat × Reached)
  | 0, _ => none
  | n + 1, i =>
    let best := (es.filterMap fun e => e.matchAt? text wanted i).foldl (fun best r =>
      match best with
      | none => some r
      | some b => if b.position < r.position then some r else some b) none
    match best with
    | some r => some (i, r)
    | none => searchFrom es text wanted n (i + 1)

def search? (es : List Expression) (text : Array Char) (wanted : Nat → Nat → Bool) (i : Nat) :
    Option (Nat × Reached) :=
  searchFrom es text wanted (text.size + 1 - i) i

/-! ## Reading expressions -/

inductive Flaw
  | unmatchedBracket | unmatchedOpen | unmatchedClose | unmatchedBrace | badBraces | badClass
  | badRange | badReference | trailingBackslash | nothingBefore | classSyntax
  deriving DecidableEq, Repr

def Flaw.text : Flaw → String
  | unmatchedBracket => "Unmatched [, [^, [:, [., or [="
  | unmatchedOpen => "Unmatched ( or \\("
  | unmatchedClose => "Unmatched ) or \\)"
  | unmatchedBrace => "Unmatched \\\x7b"
  | badBraces => "Invalid content of \\\x7b\\\x7d"
  | badClass => "Invalid character class name"
  | badRange => "Invalid range end"
  | badReference => "Invalid back reference"
  | trailingBackslash => "Trailing backslash"
  | nothingBefore => "Invalid preceding regular expression"
  | classSyntax => "character class syntax is [[:space:]], not [:space:]"

structure Style where
  extended : Bool := false
  caseless : Bool := false

inductive Token
  | one (p : Char → Bool)
  | anchor (a : Anchor)
  | times (least : Nat) (most : Option Nat)
  | open_ | close | bar
  | same (n : Nat)

def Style.folded (s : Style) (p : Char → Bool) : Char → Bool :=
  if s.caseless then fun c => p c || p c.toLower || p c.toUpper else p

def elements : Nat → (first : Bool) → List Char → Except Flaw ((Char → Bool) × List Char)
  | 0, _, _ => .error .unmatchedBracket
  | _, _, [] => .error .unmatchedBracket
  | n + 1, first, c :: cs =>
    if c = ']' && !first then .ok (fun _ => false, cs)
    else
      let go := fun (p : Char → Bool) (cs : List Char) => do
        let (q, rest) ← elements n false cs
        return ((fun c => p c || q c), rest)
      match c, cs with
      | '[', ':' :: rest =>
        let name := rest.takeWhile (· ≠ ':')
        match rest.drop name.length with
        | ':' :: ']' :: rest =>
          let name := String.ofList name
          if name ∈ Text.CharacterClass.names then go (Text.CharacterClass.has name) rest
          else .error .badClass
        | _ => .error .unmatchedBracket
      | '[', '=' :: d :: '=' :: ']' :: rest => go (· = d) rest
      | '[', '.' :: d :: '.' :: ']' :: rest => go (· = d) rest
      | c, '-' :: d :: rest =>
        if d = ']' then go (· = c) cs
        else if d < c then .error .badRange
        else go (fun x => c ≤ x && x ≤ d) rest
      | c, cs => go (· = c) cs

def bracketed (cs : List Char) : Except Flaw ((Char → Bool) × List Char) := do
  let read := fun (cs : List Char) => elements (cs.length + 1) true cs
  match cs with
  | '^' :: cs =>
    let (p, rest) ← read cs
    return ((fun c => !p c), rest)
  | ':' :: _ =>
    let (p, rest) ← read cs
    let inside := cs.take (cs.length - rest.length - 1)
    if 1 < inside.length && inside.getLast? = some ':' then .error .classSyntax
    else return (p, rest)
  | cs => read cs

def greatestTimes : Nat := 32767

def bounds? (close : List Char) (cs : List Char) : Option (Nat × Option Nat × List Char) :=
  let number := fun (ds : List Char) => Number.ofDigits 10 ds
  let low := cs.takeWhile Char.isDigit
  let rest := cs.drop low.length
  let closed := fun (least : Nat) (most : Option Nat) (rest : List Char) =>
    if close.isPrefixOf rest then some (least, most, rest.drop close.length) else none
  match rest with
  | ',' :: rest =>
    let high := rest.takeWhile Char.isDigit
    closed (number low) (if high.isEmpty then none else some (number high)) (rest.drop high.length)
  | rest => if low.isEmpty then none else closed (number low) (some (number low)) rest

def timesOf (least : Nat) (most : Option Nat) : Except Flaw Token :=
  if most.any (· < least) || greatestTimes < least || most.any (greatestTimes < ·) then
    .error .badBraces
  else .ok (.times least most)

def literal (s : Style) (c : Char) : Token := .one (s.folded (· = c))

def escape? (c : Char) : Option Token :=
  match c with
  | 'w' => some (.one isWord)
  | 'W' => some (.one fun c => !isWord c)
  | 's' => some (.one (Text.CharacterClass.has "space"))
  | 'S' => some (.one fun c => !Text.CharacterClass.has "space" c)
  | 'b' => some (.anchor .wordEdge)
  | 'B' => some (.anchor .notWordEdge)
  | '<' => some (.anchor .wordStart)
  | '>' => some (.anchor .wordEnd)
  | '\x60' => some (.anchor .lineStart)
  | '\'' => some (.anchor .lineEnd)
  | 'n' => some (.one (· = '\n'))
  | c => if c.isDigit && c ≠ '0' then some (.same (c.toNat - 48)) else none

def isFresh : Option Token → Bool
  | none | some .open_ | some .bar => true
  | some (.anchor .lineStart) => true
  | _ => false

def endsBefore : List Char → Bool
  | [] | '\\' :: ')' :: _ | '\\' :: '|' :: _ => true
  | _ => false

def tokens (s : Style) : Nat → Option Token → List Char → Except Flaw (List Token)
  | 0, _, _ => .ok []
  | _, _, [] => .ok []
  | n + 1, last, c :: cs =>
    let go := fun (t : Token) (rest : List Char) => do
      return t :: (← tokens s n (some t) rest)
    let times := fun (least : Nat) (most : Option Nat) (rest : List Char) => do
      if isFresh last then tokens s n last rest else go (← timesOf least most) rest
    let starts := match last with
      | none | some .open_ | some .bar => true
      | _ => false
    match c with
    | '[' => do
      let (p, rest) ← bracketed cs
      go (.one (s.folded p)) rest
    | '.' => go (.one fun _ => true) cs
    | '*' =>
      if s.extended then times 0 none cs
      else if isFresh last then go (literal s '*') cs
      else go (.times 0 none) cs
    | '^' => if s.extended || starts then go (.anchor .lineStart) cs else go (literal s '^') cs
    | '$' => if s.extended || endsBefore cs then go (.anchor .lineEnd) cs else go (literal s '$') cs
    | '\\' =>
      match cs with
      | [] => .error .trailingBackslash
      | d :: rest =>
        match s.extended, d with
        | false, '(' => go .open_ rest
        | false, ')' => go .close rest
        | false, '|' => go .bar rest
        | false, '+' => if isFresh last then go (literal s '+') rest else go (.times 1 none) rest
        | false, '?' => if isFresh last then go (literal s '?') rest else go (.times 0 (some 1)) rest
        | false, '\x7b' =>
          if last.isNone then .error .nothingBefore
          else match bounds? ['\\', '\x7d'] rest with
            | some (least, most, rest) => do go (← timesOf least most) rest
            | none =>
              let isBound := fun (c : Char) => c.isDigit || c = ','
              .error (if (rest.dropWhile isBound).isEmpty then .unmatchedBrace else .badBraces)
        | _, d => go ((escape? d).getD (literal s d)) rest
    | c =>
      if !s.extended then go (literal s c) cs
      else match c with
        | '(' => go .open_ cs
        | ')' => go .close cs
        | '|' => go .bar cs
        | '+' => times 1 none cs
        | '?' => times 0 (some 1) cs
        | '\x7b' =>
          match bounds? ['\x7d'] cs with
          | some (least, most, rest) => if isFresh last then go (literal s c) cs else times least most rest
          | none => go (literal s c) cs
        | c => go (literal s c) cs

def repeatLast (least : Nat) (most : Option Nat) : List Expression → List Expression
  | [] => []
  | e :: es => .rounds e least most :: es

def joined (es : List Expression) : Expression :=
  match es with
  | [] => .empty
  | e :: es => es.foldl (fun later e => .both e later) e

/-- An expression that is being read: what stands before the next token in its branch, the last one
first, and the branches before that one. -/
structure Frame where
  number : Nat
  branch : List Expression := []
  branches : List Expression := []

def Frame.whole (f : Frame) : Expression :=
  f.branches.foldl (fun later e => .either e later) (joined f.branch)

/-- Puts tokens together. The frames are those of the open groups; `closed` holds the numbers of the
groups that are over. A close without an open is literal in the extended form. -/
def assembled (s : Style) (frame : Frame) (outer : List Frame) (groups : Nat) (closed : List Nat) :
    List Token → Except Flaw Expression
  | [] => if outer.isEmpty then .ok frame.whole else .error .unmatchedOpen
  | t :: ts =>
    let add := fun (e : Expression) =>
      assembled s { frame with branch := e :: frame.branch } outer groups closed ts
    match t with
    | .one p => add (.one p)
    | .anchor a => add (.anchor a)
    | .same n => if n ∈ closed then add (.same n) else .error .badReference
    | .times least most =>
      assembled s { frame with branch := repeatLast least most frame.branch } outer groups closed ts
    | .bar =>
      assembled s { frame with branch := [], branches := joined frame.branch :: frame.branches }
        outer groups closed ts
    | .open_ => assembled s { number := groups + 1 } (frame :: outer) (groups + 1) closed ts
    | .close =>
      match outer with
      | f :: outer =>
        assembled s { f with branch := .group frame.number frame.whole :: f.branch } outer groups
          (frame.number :: closed) ts
      | [] => if s.extended then add (.one (· = ')')) else .error .unmatchedClose

def read (s : Style) (text : String) : Except Flaw Expression := do
  let ts ← tokens s (text.length + 1) none text.toList
  assembled s { number := 0 } [] 0 [] ts

def verbatim (s : Style) (text : String) : Expression :=
  joined (text.toList.reverse.map fun c => .one (s.folded (· = c)))

end TreeTool.Program.Regular
