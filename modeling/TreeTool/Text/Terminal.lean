import TreeTool.Text.Utf8

/-!
# Text without terminal controls

A text for a terminal may hold control sequences. Where there is no terminal they are left out,
together with every control that is not white space. `stripped` reads the bytes once: a byte is
dropped or it starts a stretch that is kept, and a stretch ends at the first byte that would not
show on its own.
-/

namespace TreeTool.Text.Terminal

inductive Mode
  | ground | character
  | escape | escapeIntermediate
  | control | parameter | intermediate | controlIgnored
  | device | deviceParameter | deviceIntermediate | deviceIgnored | devicePassed
  | command | string
  deriving DecidableEq, Repr

inductive Action
  | none | show | begin | run
  deriving DecidableEq, Repr

def within (lo hi b : UInt8) : Bool := lo ≤ b && b ≤ hi

def isControl (b : UInt8) : Bool := b ≤ 0x17 || b = 0x19 || within 0x1C 0x1F b

def startsCharacter (b : UInt8) : Bool := within 0xC2 0xF4 b

def ground (b : UInt8) : Option Mode × Action :=
  if isControl b || within 0x80 0x8F b || within 0x91 0x9A b || b = 0x9C then (none, .run)
  else if within 0x20 0x7F b then (none, .show)
  else if startsCharacter b then (some .character, .begin)
  else (none, .none)

def afterEscape (b : UInt8) : Option Mode :=
  if within 0x20 0x2F b then some .escapeIntermediate
  else if b = 0x50 then some .device
  else if b = 0x5B then some .control
  else if b = 0x5D then some .command
  else if b = 0x58 || b = 0x5E || b = 0x5F then some .string
  else if within 0x30 0x7E b then some .ground
  else none

def inControl (m between ignored ended : Mode) (b : UInt8) : Option Mode :=
  let atEntry := m = .control || m = .device
  let amidParameters := atEntry || m = .parameter || m = .deviceParameter
  let parameters : Mode := if m = .control || m = .parameter then .parameter else .deviceParameter
  if within 0x20 0x2F b then some between
  else if within 0x30 0x3B b then if amidParameters then some parameters else some ignored
  else if within 0x3C 0x3F b then if atEntry then some parameters else some ignored
  else if within 0x40 0x7E b then some ended
  else none

def controlled (b : UInt8) (next : Option Mode) : Option Mode × Action :=
  if isControl b then (none, .run) else (next, .none)

def change (m : Mode) (b : UInt8) : Option Mode × Action :=
  if b = 0x18 || b = 0x1A then (some .ground, .run)
  else if b = 0x1B then (some .escape, .none)
  else match m with
    | .ground => ground b
    | .character => (none, .none)
    | .escape => controlled b (afterEscape b)
    | .escapeIntermediate =>
      controlled b (if within 0x30 0x7E b then some .ground else none)
    | .control | .parameter | .intermediate =>
      controlled b (inControl m .intermediate .controlIgnored .ground b)
    | .controlIgnored => controlled b (if within 0x40 0x7E b then some .ground else none)
    | .device | .deviceParameter | .deviceIntermediate =>
      (inControl m .deviceIntermediate .deviceIgnored .devicePassed b, .none)
    | .deviceIgnored | .devicePassed | .string =>
      (if b = 0x9C then some .ground else none, .none)
    | .command => (if b = 0x07 then some .ground else none, .none)

def isSpace (b : UInt8) : Bool := b = 0x20 || b = 0x09 || b = 0x0A || b = 0x0C || b = 0x0D

def shows (a : Action) (b : UInt8) : Bool :=
  match a with
  | .show => b ≠ 0x7F
  | .begin => true
  | .run => isSpace b
  | .none => false

/-- How far a text has been read: the mode, the bytes left of a character, and whether the last
byte was kept. -/
structure Progress where
  mode : Mode := .ground
  left : Nat := 0
  keeping : Bool := false
  deriving DecidableEq, Repr

namespace Progress

def enter (p : Progress) (m : Option Mode) : Progress := { p with mode := m.getD p.mode }

def following (b : UInt8) : Nat := if b < 0xE0 then 1 else if b < 0xF0 then 2 else 3

def inside (p : Progress) (b : UInt8) : Progress :=
  let left := if p.left = 0 then following b else p.left - 1
  { p with left := left, mode := if left = 0 then .ground else .character }

def keep (p : Progress) (b : UInt8) : Progress × Bool :=
  if p.mode = .character then (p.inside b, true)
  else
    let (m, a) := change .ground b
    let p := p.enter m
    if p.mode = .character then (p.inside b, true) else (p, shows a b)

def drop (p : Progress) (b : UInt8) : Progress × Bool :=
  if p.mode = .character then ({ p with keeping := true }).keep b
  else
    let (m, a) := change p.mode b
    let p := p.enter m
    if shows a b then ({ p with keeping := true }).keep b else (p, false)

def read (p : Progress) (b : UInt8) : Progress × Bool :=
  if p.keeping then
    match p.keep b with
    | (p, true) => (p, true)
    | (p, false) => ({ p with keeping := false }).drop b
  else p.drop b

end Progress

def shown (p : Progress) : Bytes → Bytes
  | [] => []
  | b :: bs =>
    let (p, kept) := p.read b
    if kept then b :: shown p bs else shown p bs

def stripped (bs : Bytes) : Bytes := shown {} bs

def styled (s : String) : String := "\x1B[1m" ++ s ++ "\x1B[0m"

end TreeTool.Text.Terminal
