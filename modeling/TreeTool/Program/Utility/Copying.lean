import TreeTool.Number.Digits
import TreeTool.Program.Options

/-!
# Utilities that copy and count what they read
-/

namespace TreeTool.Program

open Files (Problem)
open Work

/-! ## Showing files -/

def visible (c : Char) : String :=
  let low := fun (n : Nat) =>
    if n < 32 then "^" ++ (Char.ofNat (n + 64)).toString
    else if n = 127 then "^?" else (Char.ofNat n).toString
  if c = '\t' || c = '\n' then c.toString
  else if c.toNat < 128 then low c.toNat else "M-" ++ low (c.toNat - 128)

def padLeft (width : Nat) (s : String) : String :=
  String.ofList (List.replicate (width - s.length) ' ') ++ s

def padRight (width : Nat) (s : String) : String :=
  s ++ String.ofList (List.replicate (width - s.length) ' ')

structure Showing where
  numbers : Bool := false
  filled : Bool := false
  squeezed : Bool := false
  ends : Bool := false
  tabs : Bool := false
  hidden : Bool := false

namespace Showing

def isPlain (o : Showing) : Bool :=
  !(o.numbers || o.filled || o.squeezed || o.ends || o.tabs || o.hidden)

def line (o : Showing) (number : Nat) (l : String) : String :=
  let body := withoutEnd l
  let ended := body.length < l.length
  let shown := String.join (body.toList.map fun c =>
    if c = '\t' then (if o.tabs then "^I" else "\t")
    else if o.hidden then visible c else c.toString)
  (if o.numbers || o.filled && !(body.isEmpty && ended) then
    padLeft 6 (toString number) ++ "\t" else "") ++
    shown ++ (if ended then (if o.ends then "$\n" else "\n") else "")

def render (o : Showing) (number : Nat) (afterEmpty : Bool) : List String → List String
  | [] => []
  | l :: ls =>
    let isEmpty := l = "\n"
    if o.squeezed && isEmpty && afterEmpty then o.render number true ls
    else
      let counts := !(o.filled && isEmpty)
      o.line number l :: o.render (if counts then number + 1 else number) isEmpty ls

end Showing

def copyAll (paths : List String) : Work Unit :=
  paths.forM fun p => do
    let d? ← (do if p = "-" then return Except.ok 0 else openPath .read p)
    match d? with
    | .error e => do
      complain (p ++ ": " ++ e.words)
      setStatus 1
    | .ok d => do
      copyFrom p d 1000000
      if p ≠ "-" then close d
where
  copyFrom (p : String) (d : Nat) : Nat → Work Unit
    | 0 => return
    | n + 1 => do
      match ← (Kernel.Activity.read (← get).me d 65536 : Kernel.Activity _) with
      | .error e => do
        complain (p ++ ": " ++ e.words)
        if e = .badDescriptor then complain ("closing standard input: " ++ e.words)
        setStatus 1
      | .ok b => do
        if b.isEmpty then return
        match ← writeTo 1 (Text.Raw.ofArray b) with
        | some e => fail ("write error: " ++ e.words)
        | none => copyFrom p d n

def cat : Work Unit := do
  let g ← given [⟨'A', "show-all", .nothing⟩, ⟨'b', "number-nonblank", .nothing⟩,
    ⟨'e', "", .nothing⟩, ⟨'E', "show-ends", .nothing⟩, ⟨'n', "number", .nothing⟩,
    ⟨'s', "squeeze-blank", .nothing⟩, ⟨'t', "", .nothing⟩, ⟨'T', "show-tabs", .nothing⟩,
    ⟨'u', "", .nothing⟩, ⟨'v', "show-nonprinting", .nothing⟩]
  let o : Showing :=
    { numbers := g.has 'n' && !g.has 'b', filled := g.has 'b', squeezed := g.has 's'
      ends := g.has 'E' || g.has 'e' || g.has 'A', tabs := g.has 'T' || g.has 't' || g.has 'A'
      hidden := g.has 'v' || g.has 'e' || g.has 't' || g.has 'A' }
  let paths := if g.operands.isEmpty then ["-"] else g.operands
  if o.isPlain then copyAll paths
  else
    let text := String.join (← contents paths)
    put (String.join (o.render 1 false (lines text)))

/-! ## Starts and ends -/

def count? (s : String) : Option Nat :=
  let ds := s.toList.takeWhile Char.isDigit
  let unit := match String.ofList (s.toList.dropWhile Char.isDigit) with
    | "" => some 1
    | "b" => some 512
    | "k" | "K" | "KiB" => some 1024
    | "kB" | "KB" => some 1000
    | "M" | "MiB" => some 1048576
    | "MB" => some 1000000
    | "G" | "GiB" => some 1073741824
    | _ => none
  if ds.isEmpty then none else unit.map (Number.ofDigits 10 ds * ·)

structure Amount where
  bytes : Bool := false
  sign : Option Char := none
  number : Nat := 10

def amount (bytes : Bool) (s : String) : Work Amount := do
  let (sign, digits) := match s.toList with
    | '-' :: ds => (some '-', ds)
    | '+' :: ds => (some '+', ds)
    | ds => (none, ds)
  match count? (String.ofList digits) with
  | some number => return { bytes, sign, number }
  | none =>
    fail ("invalid number of " ++ (if bytes then "bytes" else "lines") ++ ": " ++ quoted s)

def amountOf (g : Given) : Work Amount := do
  match g.options.reverse.find? fun o => o.1 = 'n' || o.1 = 'c' with
  | some (c, v) => amount (c = 'c') v
  | none => return {}

def numbered (signs : List Char) (as : List String) : List String :=
  match as with
  | a :: rest =>
    match a.toList with
    | s :: d :: ds =>
      if s ∈ signs && d.isDigit then
        let number := String.ofList ((d :: ds).takeWhile Char.isDigit)
        let letter := if (d :: ds).getLast? = some 'c' then "-c" else "-n"
        letter :: (if s = '+' then "+" ++ number else number) :: rest
      else as
    | _ => as
  | [] => []

def headOf (a : Amount) (text : String) : String :=
  let cut := fun {α : Type} (xs : List α) =>
    if a.sign = some '-' then xs.take (xs.length - a.number) else xs.take a.number
  if a.bytes then String.ofList (cut text.toList) else String.join (cut (lines text))

def tailOf (a : Amount) (text : String) : String :=
  let cut := fun {α : Type} (xs : List α) =>
    if a.sign = some '+' then xs.drop (a.number - 1) else xs.drop (xs.length - a.number)
  if a.bytes then String.ofList (cut text.toList) else String.join (cut (lines text))

def readEnough (enough : String → Bool) (d : Nat) : Nat → String → Work (Except Problem String)
  | 0, text => return .ok text
  | n + 1, text => do
    if enough text then return .ok text
    match ← (Kernel.Activity.read (← get).me d 8192 : Kernel.Activity _) with
    | .error e => return .error e
    | .ok b =>
      if b.isEmpty then return .ok text
      else readEnough enough d n (text ++ Text.Raw.ofArray b)

def giveBack (d unused : Nat) : Work Unit :=
  act fun w me =>
    match w.opening? me d with
    | some (i, o) =>
      match o.channel with
      | .file _ => (w.setPosition i (o.position - unused), ())
      | _ => (w, ())
    | none => (w, ())

def Amount.isIn (a : Amount) (text : String) : Bool :=
  a.sign ≠ some '-' &&
    (if a.bytes then decide (a.number ≤ text.length) else decide (a.number ≤ text.toList.count '\n'))

def printParts (enough : String → Bool) (part : String → String) (named : Bool) : (first : Bool) → List String → Work Unit
  | _, [] => return
  | first, p :: ps => do
    let title := (if first then "" else "\n") ++ "==> " ++
      (if p = "-" then "standard input" else p) ++ " <==\n"
    let shown := if p = "-" then "standard input" else quoted p
    match ← (do if p = "-" then return Except.ok 0 else openPath .read p) with
    | .error e => do
      complain ("cannot open " ++ shown ++ " for reading: " ++ e.words)
      setStatus 1
      printParts enough part named first ps
    | .ok d => do
      if named then put title
      match ← readEnough enough d 10000000 "" with
      | .ok text => do
        let shown := part text
        put shown
        if enough text then giveBack d (text.length - shown.length)
      | .error e => do
        flush
        complain ("error reading " ++ shown ++ ": " ++ e.words)
        setStatus 1
      if p ≠ "-" then close d
      printParts enough part named false ps

def partsOf (signs : List Char) (enough : Amount → String → Bool)
    (part : Amount → String → String) : Work Unit := do
  modify fun r =>
    { r with image := { r.image with arguments := numbered signs r.image.arguments } }
  let g ← given [⟨'n', "lines", .argument⟩, ⟨'c', "bytes", .argument⟩, ⟨'q', "quiet", .nothing⟩,
    ⟨'q', "silent", .nothing⟩, ⟨'v', "verbose", .nothing⟩, ⟨'f', "follow", .nothing⟩,
    ⟨'z', "zero-terminated", .nothing⟩]
  let a ← amountOf g
  let paths := if g.operands.isEmpty then ["-"] else g.operands
  let named := match g.last? ['q', 'v'] with
    | some c => c = 'v'
    | none => 1 < paths.length
  printParts (enough a) (part a) named true paths

def head : Work Unit := partsOf ['-'] Amount.isIn headOf

def tail : Work Unit := partsOf ['-', '+'] (fun _ _ => false) tailOf

def tac : Work Unit := do
  let g ← given []
  let message := fun (p : String) (e : Problem) =>
    "failed to open " ++ quoted p ++ " for reading: " ++ e.words
  (← contents g.operands message).forM fun text => put (String.join (lines text).reverse)

/-! ## Counting -/

def widthFrom (n : Nat) : List Char → Nat
  | [] => n
  | c :: cs =>
    if c = '\t' then widthFrom (n + 8 - n % 8) cs
    else if 32 ≤ c.toNat && c.toNat < 127 then widthFrom (n + 1) cs
    else widthFrom n cs

def counts (text : String) : List (Char × Nat) :=
  let cs := text.toList
  let isSpace := fun (c : Char) => c = ' ' || (9 ≤ c.toNat && c.toNat ≤ 13)
  let words := (cs.foldl (fun (p : Nat × Bool) c =>
    if isSpace c then (p.1, false) else (if p.2 then p.1 else p.1 + 1, true)) (0, false)).1
  let longest := ((plainLines text).map fun l => widthFrom 0 l.toList).foldl max 0
  [('l', cs.count '\n'), ('w', words), ('m', cs.length), ('c', cs.length), ('L', longest)]

def inputSize? : Work (Option Nat) :=
  look fun w me =>
    match w.opening? me 0 with
    | some (_, ⟨.file place, _, _, _, _⟩) => some (w.contentAt place).length
    | _ => none

def countWidth (paths : List String) : Work Nat := do
  let sizes ← (if paths.isEmpty then ["-"] else paths).mapM fun p => do
    if p = "-" then inputSize?
    else
      match ← find p with
      | .ok (_, .file content _) => return some content.length
      | .ok _ => return none
      | .error _ => return some 0
  let total := Number.total (sizes.map (·.getD 0))
  let width := (toString total).length
  return if sizes.any Option.isNone then max 7 width else width

def countLine (width : Nat) (chosen : List Char) (ns : List (Char × Nat)) (name : String) : String :=
  let shown := (ns.filter fun n => n.1 ∈ chosen).map fun n => padLeft width (toString n.2)
  " ".intercalate shown ++ (if name.isEmpty then "" else " " ++ name) ++ "\n"

def wc : Work Unit := do
  let g ← given [⟨'c', "bytes", .nothing⟩, ⟨'m', "chars", .nothing⟩, ⟨'l', "lines", .nothing⟩,
    ⟨'L', "max-line-length", .nothing⟩, ⟨'w', "words", .nothing⟩]
  let asked := ['l', 'w', 'm', 'c', 'L'].filter g.has
  let chosen := if asked.isEmpty then ['l', 'w', 'c'] else asked
  let width ← (do
    if chosen.length = 1 && g.operands.length ≤ 1 then return 1 else countWidth g.operands)
  let zero := counts ""
  let total ← (if g.operands.isEmpty then ["-"] else g.operands).foldlM (fun total p => do
    let d? ← (do if p = "-" then return Except.ok 0 else openPath .read p)
    match d? with
    | .error e => do
      complain (p ++ ": " ++ e.words)
      setStatus 1
      return total
    | .ok d => do
      let text ← (do
        match ← readAll d with
        | .ok text => return text
        | .error e => do
          complain ((if p = "-" then "standard input" else p) ++ ": " ++ e.words)
          setStatus 1
          return "")
      if p ≠ "-" then close d
      let ns := counts text
      put (countLine width chosen ns (if g.operands.isEmpty then "" else p))
      return (total.zip ns).map fun (a, b) => (a.1, if a.1 = 'L' then max a.2 b.2 else a.2 + b.2))
    zero
  if 1 < g.operands.length then put (countLine width chosen total "total")

/-! ## Copies -/

def tee : Work Unit := do
  let g ← given [⟨'a', "append", .nothing⟩, ⟨'i', "ignore-interrupts", .nothing⟩]
  let targets ← g.operands.mapM fun p => do
    match ← openPath (if g.has 'a' then .append else .create) p with
    | .ok d => return [(d, p)]
    | .error e => do
      complain (p ++ ": " ++ e.words)
      setStatus 1
      return []
  copyFrom ((1, "standard output") :: targets.flatten) 1000000
where
  copyFrom (targets : List (Nat × String)) : Nat → Work Unit
    | 0 => return
    | n + 1 => do
      match ← (Kernel.Activity.read (← get).me 0 65536 : Kernel.Activity _) with
      | .error e => do
        complain ("read error: " ++ e.words)
        setStatus 1
      | .ok b => do
        if b.isEmpty then return
        let left ← targets.mapM fun (d, p) => do
          match ← writeTo d (Text.Raw.ofArray b) with
          | none => return [(d, p)]
          | some e => do
            complain (p ++ ": " ++ e.words)
            setStatus 1
            return []
        copyFrom left.flatten n

def yes : Work Unit := do
  let as ← arguments
  let line := (if as.isEmpty then "y" else " ".intercalate as) ++ "\n"
  let block := String.join (List.replicate (4096 / line.length + 1) line)
  repeated block 1000000000
where
  repeated (block : String) : Nat → Work Unit
    | 0 => return
    | n + 1 => do
      match ← writeTo 1 block with
      | none => repeated block n
      | some e => fail ("standard output: " ++ e.words)

end TreeTool.Program
