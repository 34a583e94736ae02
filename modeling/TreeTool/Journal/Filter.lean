import TreeTool.Journal.Event
import TreeTool.Journal.Pattern
import TreeTool.Text.Pieces

/-!
# Journal filters

A filter is a list of directives. Of the directives that concern an event the most specific one
decides: it lets events up to its level of detail pass. An event that no directive concerns does
not pass. Directives can also name a span or ask for the value of a field in one; this journal has
no spans, so these concern no event.

Directives stand between commas. The places where a directive is cut are found in its text without
the blanks around it, but the parts are taken, by bytes, from the text as it is: blanks before a
directive shift its parts. A cut inside a character ends the process that reads the filter.
-/

namespace TreeTool.Journal

structure Directive where
  target : Option String := none
  inSpan : Bool := false
  fields : List String := []
  detail : Nat := 5
  deriving DecidableEq, Repr

abbrev Filter := List Directive

inductive Defect
  | malformed
  | torn
  deriving DecidableEq, Repr

/-- How far the reading of a directive has come, with the byte at which the present part starts. -/
inductive Stage
  | start
  | word (first : Nat)
  | span (first : Nat)
  | field (first : Nat)
  | fields
  | target
  | level (first : Nat)
  deriving DecidableEq, Repr

def dropBytes : Nat → List Char → Option (List Char)
  | 0, cs => some cs
  | _, [] => none
  | n, c :: cs => if c.utf8Size ≤ n then dropBytes (n - c.utf8Size) cs else none

def takeBytes : Nat → List Char → Option (List Char)
  | 0, _ => some []
  | _, [] => none
  | n, c :: cs =>
    if c.utf8Size ≤ n then (takeBytes (n - c.utf8Size) cs).map (c :: ·) else none

namespace Directive

def levelWords : List (String × Nat) :=
  [("off", 0), ("error", 1), ("warn", 2), ("info", 3), ("debug", 4), ("trace", 5)]

def detailOf (cs : List Char) : Option Nat :=
  match Number.readWord cs with
  | .ok n => if n ≤ 5 then some n else none
  | .error _ => levelWords.lookup (String.ofList (cs.map Char.toLower))

def withLevel (d : Directive) (cs : List Char) : Except Defect Directive :=
  if cs.isEmpty then .ok d
  else match detailOf cs with
    | some n => .ok { d with detail := n }
    | none => .error .malformed

def withWord (d : Directive) (cs : List Char) : Directive :=
  match detailOf cs with
  | some n => { d with detail := n }
  | none => { d with target := some (String.ofList cs) }

def withSpan (d : Directive) (cs : List Char) : Directive := { d with inSpan := !cs.isEmpty }

def isSigned : List Char → Bool
  | '+' :: cs =>
    let whole := cs.takeWhile Number.isDigit
    let rest := cs.dropWhile Number.isDigit
    let (fraction, rest) := match rest with
      | '.' :: ds => (ds.takeWhile Number.isDigit, ds.dropWhile Number.isDigit)
      | ds => ([], ds)
    let digits := match rest with
      | [] => true
      | e :: ds =>
        let ds := match ds with
          | '+' :: ds | '-' :: ds => ds
          | ds => ds
        (e = 'e' || e = 'E') && !ds.isEmpty && ds.all Number.isDigit
    (!(whole ++ fraction).isEmpty && digits) ||
      ["inf", "infinity", "nan"].contains (String.ofList (cs.map Char.toLower))
  | _ => false

def isValue (cs : List Char) : Bool := Pattern.isWellFormed cs || isSigned cs

/-- A field that must be there. One on the value of a field belongs to spans. -/
def withField (d : Directive) (cs : List Char) : Except Defect Directive :=
  match Text.pieces '=' cs with
  | name :: value :: _ =>
    if isValue value then .ok { d with fields := [String.ofList name], inSpan := true }
    else .error .malformed
  | _ =>
    if cs.isEmpty then .error .malformed else .ok { d with fields := [String.ofList cs] }

def part (text : List Char) (first last : Nat) : Except Defect (List Char) :=
  match (dropBytes first text).bind (takeBytes (last - first)) with
  | some cs => .ok cs
  | none => .error .torn

def partFrom (text : List Char) (first : Nat) : Except Defect (List Char) :=
  match dropBytes first text with
  | some cs => .ok cs
  | none => .error .torn

def startsWord (c : Char) : Bool := c = '-' || c = ':' || c = '_' || Text.isAlphanumeric c

def step (text : List Char) (d : Directive) (i : Nat) (c : Char) :
    Stage → Except Defect (Stage × Directive)
  | .start =>
    if c = '[' then .ok (.span (i + 1), d)
    else if startsWord c then .ok (.word i, d)
    else .error .malformed
  | .word first =>
    if c = '=' then
      (part text first i).map fun t => (.level (i + 1), { d with target := some (String.ofList t) })
    else if c = '[' then
      (part text first i).map fun t => (.span (i + 1), { d with target := some (String.ofList t) })
    else .ok (.word first, d)
  | .span first =>
    if c = ']' then (part text first i).map fun _ => (.target, { d with inSpan := true })
    else if c = '\x7b' then (part text first i).map fun t => (.field (i + 1), d.withSpan t)
    else .ok (.span first, d)
  | .field first =>
    if c = '\x7d' then do
      let t ← part text first i
      return (.fields, ← d.withField t)
    else .ok (.field first, d)
  | .fields => if c = ']' then .ok (.target, d) else .error .malformed
  | .target => if c = '=' then .ok (.level (i + 1), d) else .error .malformed
  | .level first => .ok (.level first, d)

def steps (text : List Char) : Nat → List Char → Stage → Directive →
    Except Defect (Stage × Directive)
  | _, [], stage, d => .ok (stage, d)
  | i, c :: cs, stage, d =>
    match step text d i c stage with
    | .ok (stage, d) => steps text (i + c.utf8Size) cs stage d
    | .error e => .error e

def ofPiece (text : List Char) : Except Defect Directive :=
  match steps text 0 (Text.trim text) .start {} with
  | .error e => .error e
  | .ok (.word first, d) => (partFrom text first).map d.withWord
  | .ok (.level first, d) =>
    match partFrom text first with
    | .ok cs => d.withLevel cs
    | .error e => .error e
  | .ok (.target, d) => .ok d
  | .ok _ => .error .malformed

def concerns (d : Directive) (e : Event) : Bool :=
  !d.inSpan && d.target.all (fun t => t.toList.isPrefixOf e.target.toList) &&
    d.fields.all fun f => (e.fields.lookup f).isSome

def reach (d : Directive) : Nat := (d.target.map fun t => t.utf8ByteSize + 1).getD 0

/-- A longer target is more specific, then more fields, then a field later in the alphabet. -/
def atLeast (d c : Directive) : Bool :=
  d.reach > c.reach || (d.reach = c.reach &&
    (d.fields.length > c.fields.length || (d.fields.length = c.fields.length &&
      !decide (d.fields < c.fields))))

end Directive

namespace Filter

/-- The directive that decides about an event; of equally specific ones the last. -/
def decisive (f : Filter) (e : Event) : Option Directive :=
  (f.filter (·.concerns e)).foldl (fun best d =>
    match best with
    | none => some d
    | some b => if d.atLeast b then some d else some b) none

def passes (f : Filter) (e : Event) : Bool :=
  match f.decisive e with
  | none => false
  | some d => decide (e.level.detail ≤ d.detail)

/-- Reads directives with commas between them; the first one with a defect spoils the filter. -/
def read (s : String) : Except Defect Filter :=
  ((Text.pieces ',' s.toList).filter fun p => !p.isEmpty).mapM Directive.ofPiece

end Filter

end TreeTool.Journal
