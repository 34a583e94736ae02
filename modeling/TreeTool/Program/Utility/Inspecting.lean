import TreeTool.Number.Conversion
import TreeTool.Program.Utility.Arranging
import TreeTool.Program.Utility.Copying

/-!
# Utilities that look at bytes and compare files
-/

namespace TreeTool.Program

open Files (Entry Problem)
open Work

/-! ## Dumps -/

inductive DumpForm
  | characters
  | names
  | numbers (letter : Char) (size : Nat)
  deriving DecidableEq, Repr

namespace DumpForm

def ofText? (s : String) : Option DumpForm :=
  match s.toList with
  | ['c'] => some .characters
  | ['a'] => some .names
  | letter :: size =>
    if !"dxou".contains letter then none
    else match size with
      | [] => some (.numbers letter 4)
      | ['1'] | ['C'] => some (.numbers letter 1)
      | ['2'] | ['S'] => some (.numbers letter 2)
      | ['4'] | ['I'] => some (.numbers letter 4)
      | ['8'] | ['L'] => some (.numbers letter 8)
      | _ => none
  | [] => none

def size : DumpForm → Nat
  | numbers _ n => n
  | _ => 1

def width : DumpForm → Nat
  | numbers 'x' n => 2 * n + 1
  | numbers 'o' n => (8 * n + 2) / 3 + 1
  | numbers letter n =>
    (toString (Number.pow2 (8 * n))).length + (if letter = 'd' then 1 else 0) + 1
  | _ => 4

def octal (n : Nat) : String :=
  let ds := String.ofList (Nat.toDigits 8 n)
  String.ofList (List.replicate (3 - ds.length) '0') ++ ds

def characterText (n : Nat) : String :=
  match [(0, "\\0"), (7, "\\a"), (8, "\\b"), (9, "\\t"), (10, "\\n"), (11, "\\v"), (12, "\\f"),
      (13, "\\r")].lookup n with
  | some s => s
  | none => if 32 ≤ n && n < 127 then (Char.ofNat n).toString else octal n

def controlNames : List String :=
  ["nul", "soh", "stx", "etx", "eot", "enq", "ack", "bel", "bs", "ht", "nl", "vt", "ff", "cr",
    "so", "si", "dle", "dc1", "dc2", "dc3", "dc4", "nak", "syn", "etb", "can", "em", "sub", "esc",
    "fs", "gs", "rs", "us", "sp"]

def nameText (n : Nat) : String :=
  let n := n % 128
  if n = 127 then "del" else (controlNames[n]?).getD (Char.ofNat n).toString

def numberOf (bs : List Nat) : Nat := bs.foldr (fun b n => b + 256 * n) 0

def item (f : DumpForm) (bs : List Nat) : String :=
  match f with
  | characters => characterText (numberOf bs)
  | names => nameText (numberOf bs)
  | numbers letter size =>
    let n := numberOf bs
    let digits := f.width - 1
    let filled := fun (base : Nat) =>
      let ds := String.ofList (Nat.toDigits base n)
      String.ofList (List.replicate (digits - ds.length) '0') ++ ds
    match letter with
    | 'x' => filled 16
    | 'o' => filled 8
    | 'd' => if 2 * n < Number.pow2 (8 * size) then toString n else "-" ++ toString (Number.pow2 (8 * size) - n)
    | _ => toString n

def inGroups (size : Nat) : Nat → List Nat → List (List Nat)
  | 0, _ => []
  | n + 1, bs => if bs.isEmpty then [] else bs.take size :: inGroups size n (bs.drop size)

def rowWidth (f : DumpForm) : Nat := 16 / f.size * f.width

def row (f : DumpForm) (wide : Nat) (bs : List Nat) : String :=
  let count := 16 / f.size
  let spare := wide - f.rowWidth
  String.join ((inGroups f.size (bs.length + 1) bs).zipIdx.map fun (g, i) =>
    let extra := spare * (count - i) / count - spare * (count - i - 1) / count
    padLeft (f.width + extra) (f.item g))

end DumpForm

def DumpForm.textBeside (bs : List Nat) : String :=
  "  >" ++ String.ofList (bs.map fun n =>
    if 32 ≤ n && n < 127 then Char.ofNat n else '.') ++ "<"

def dumpRows (forms : List (DumpForm × Bool)) (address : Nat → String) (all : Bool) :
    Nat → Nat → (last : List Nat) → (starred : Bool) → List Nat → List String
  | 0, _, _, _, _ => []
  | n + 1, position, last, starred, bs =>
    if bs.isEmpty then []
    else
      let block := bs.take 16
      let rest := dumpRows forms address all n (position + block.length) block
      if !all && block.length = 16 && block = last then
        (if starred then [] else ["*"]) ++ rest true (bs.drop 16)
      else
        let shown := forms.zipIdx.map fun ((f, beside), i) =>
          let wide := (forms.map (·.1.rowWidth)).foldl max 0
          let row := f.row wide block
          (if i = 0 then address position
            else String.ofList (List.replicate (address position).length ' ')) ++
            if beside then padRight wide row ++ DumpForm.textBeside block
            else row
        shown ++ rest false (bs.drop 16)

def od : Work Unit := do
  let g ← given [⟨'A', "address-radix", .argument⟩, ⟨'t', "format", .argument⟩,
    ⟨'v', "output-duplicates", .nothing⟩, ⟨'N', "read-bytes", .argument⟩,
    ⟨'j', "skip-bytes", .argument⟩, ⟨'c', "", .nothing⟩, ⟨'a', "", .nothing⟩, ⟨'b', "", .nothing⟩,
    ⟨'d', "", .nothing⟩, ⟨'o', "", .nothing⟩, ⟨'x', "", .nothing⟩, ⟨'w', "width", .joined⟩]
  let forms ← g.options.mapM fun (k, v) => do
    match k with
    | 'c' => return [(DumpForm.characters, false)]
    | 'a' => return [(.names, false)]
    | 'b' => return [(.numbers 'o' 1, false)]
    | 'd' => return [(.numbers 'u' 2, false)]
    | 'o' => return [(.numbers 'o' 2, false)]
    | 'x' => return [(.numbers 'x' 2, false)]
    | 't' =>
      let beside := v.toList.getLast? = some 'z'
      match DumpForm.ofText? (if beside then String.ofList v.toList.dropLast else v) with
      | some f => return [(f, beside)]
      | none => fail ("invalid type string " ++ quoted v)
    | _ => return []
  let forms := if forms.flatten.isEmpty then [(.numbers 'o' 2, false)] else forms.flatten
  let radix := (g.value? 'A').getD "o"
  let digits := fun (n base width : Nat) =>
    let ds := String.ofList (Nat.toDigits base n)
    String.ofList (List.replicate (width - ds.length) '0') ++ ds
  let address ← (do
    match radix with
    | "o" => return fun n => digits n 8 7
    | "d" => return fun n => digits n 10 7
    | "x" => return fun n => digits n 16 6
    | "n" => return fun _ => ""
    | r => fail ("invalid output address radix '" ++ r ++
        "'; it must be one character from [doxn]"))
  let number := fun (k : Char) =>
    (g.value? k).bind fun v => Program.count? v
  let texts ← contents g.operands
  if texts.isEmpty then exit 1
  let text := String.join texts
  let skipped := (number 'j').getD 0
  let bytes := (text.toList.drop skipped).map Char.toNat
  let bytes := match number 'N' with
    | some n => bytes.take n
    | none => bytes
  putLines (dumpRows forms address (g.has 'v') (bytes.length + 1) skipped [] false bytes)
  if radix ≠ "n" then putLine (address (skipped + bytes.length))

/-! ## Base 64 -/

def base64Digits : List Char :=
  ((List.range 26).map fun i => Char.ofNat (65 + i)) ++
    ((List.range 26).map fun i => Char.ofNat (97 + i)) ++
    ((List.range 10).map fun i => Char.ofNat (48 + i)) ++ ['+', '/']

def base64Digit (n : Nat) : Char := base64Digits.getD n '='

def base64Encoded : List Nat → List Char
  | a :: b :: c :: rest =>
    let n := (a * 256 + b) * 256 + c
    base64Digit (n / 262144) :: base64Digit (n / 4096 % 64) :: base64Digit (n / 64 % 64) ::
      base64Digit (n % 64) :: base64Encoded rest
  | [a, b] =>
    let n := (a * 256 + b) * 4
    [base64Digit (n / 4096), base64Digit (n / 64 % 64), base64Digit (n % 64), '=']
  | [a] => [base64Digit (a / 4), base64Digit (a % 4 * 16), '=', '=']
  | [] => []

def base64Value? (c : Char) : Option Nat := base64Digits.findIdx? (· = c)

/-- The bytes for digits up to the first one that is wrong, and whether all digits were right. Equal
signs stand for the digits that a last byte does not need. -/
def base64Decoded : List Char → List Nat × Bool
  | [] => ([], true)
  | a :: b :: cs =>
    match base64Value? a, base64Value? b, cs with
    | some i, some j, c :: d :: rest =>
      let first := i * 4 + j / 16
      match base64Value? c, base64Value? d with
      | some k, some l =>
        let (bs, ok) := base64Decoded rest
        (first :: (j * 16 % 256 + k / 4) :: (k * 64 % 256 + l) :: bs, ok)
      | some k, none =>
        let (bs, ok) := if d = '=' then base64Decoded rest else ([], false)
        (first :: (j * 16 % 256 + k / 4) :: bs, ok)
      | none, _ =>
        let (bs, ok) := if c = '=' && d = '=' then base64Decoded rest else ([], false)
        (first :: bs, ok)
    | some i, some j, [c] =>
      let first := i * 4 + j / 16
      match base64Value? c with
      | some k => ([first, j * 16 % 256 + k / 4], false)
      | none => ([first], false)
    | some i, some j, [] => ([i * 4 + j / 16], false)
    | _, _, _ => ([], false)
  | _ => ([], false)

def wrapped (width : Nat) : Nat → List Char → List String
  | 0, _ => []
  | n + 1, cs =>
    if cs.isEmpty then [] else String.ofList (cs.take width) :: wrapped width n (cs.drop width)

def base64 : Work Unit := do
  let g ← given [⟨'d', "decode", .nothing⟩, ⟨'i', "ignore-garbage", .nothing⟩,
    ⟨'w', "wrap", .argument⟩]
  match g.operands with
  | _ :: extra :: _ => misuse ("extra operand " ++ quoted extra)
  | _ => pure ()
  let width ← (do
    match g.value? 'w' with
    | none => return 76
    | some v =>
      if !v.isEmpty && v.toList.all Char.isDigit then return Number.ofDigits 10 v.toList
      else fail ("invalid wrap size: " ++ quoted v))
  let text := String.join (← contents g.operands)
  if g.has 'd' then
    let isDigit := fun (c : Char) => c = '=' || c ∈ base64Digits
    let cs := text.toList.filter fun c => c ≠ '\n' && (!g.has 'i' || isDigit c)
    let (bs, ok) := base64Decoded cs
    put (String.ofList (bs.map Char.ofNat))
    if !ok then
      flush
      fail "invalid input"
  else
    let cs := base64Encoded (text.toList.map Char.toNat)
    if width = 0 then put (String.ofList cs) else putLines (wrapped width (cs.length + 1) cs)

/-! ## Comparing -/

def firstDifference (position line : Nat) : List Char → List Char →
    Option (Nat × Nat)
  | a :: as, b :: bs =>
    if a = b then firstDifference (position + 1) (if a = '\n' then line + 1 else line) as bs
    else some (position, line)
  | [], [] => none
  | _, _ => some (position, line)

def cmp : Work Unit := do
  let g ← given [⟨'s', "quiet", .nothing⟩, ⟨'s', "silent", .nothing⟩, ⟨'l', "verbose", .nothing⟩,
    ⟨'b', "print-bytes", .nothing⟩] 2 true true
  let (p, q) ← (do
    match g.operands with
    | [] => misuse "missing operand after 'cmp'" 2 true
    | [p] => return (p, "-")
    | [p, q] => return (p, q)
    | _ :: _ :: extra :: _ =>
      misuse ("invalid --ignore-initial value " ++ quoted extra) 2 true)
  let read := fun (p : String) => do
    match ← content p with
    | .ok text => return text.toList
    | .error e => do
      if !g.has 's' then complain (p ++ ": " ++ e.words)
      exit 2
  let a ← read p
  let b ← read q
  let shorter := if a.length < b.length then p else q
  let size := min a.length b.length
  if g.has 'l' then
    let width := (toString (max a.length b.length)).length
    (a.zip b).zipIdx.forM fun ((x, y), i) => do
      let octal := fun (c : Char) => padLeft 3 (String.ofList (Nat.toDigits 8 c.toNat))
      if x ≠ y then
        putLine (padLeft width (toString (i + 1)) ++ " " ++ octal x ++ " " ++ octal y)
  match firstDifference 1 1 a b with
  | none => return
  | some (position, line) => do
    if g.has 's' then exit 1
    else if size < position then
      flush
      if size = 0 then complain ("EOF on " ++ shorter ++ " which is empty")
      else
        let last := (a.take size).getLast? = some '\n'
        complain ("EOF on " ++ shorter ++ " after byte " ++ toString size ++
          (if last then ", line " ++ toString (line - 1) else ", in line " ++ toString line))
    else if !g.has 'l' then
      putLine (p ++ " " ++ q ++ " differ: char " ++ toString position ++ ", line " ++ toString line)
    setStatus 1

/-! ## Differences -/

/-- How the lines of two files belong together: a line of the first that is left out, one of the
second that is put in, or one of both. -/
inductive Edit
  | both | left | right
  deriving DecidableEq, Repr

def commonRow (a : String) (below : List Nat) : List String → List Nat
  | [] => [0]
  | b :: bs =>
    let rest := commonRow a below.tail bs
    (if a = b then below.tail.headD 0 + 1 else max (below.headD 0) (rest.headD 0)) :: rest

def commonTable (bs : List String) : List String → List (List Nat)
  | [] => [List.replicate (bs.length + 1) 0]
  | a :: as =>
    let rest := commonTable bs as
    commonRow a (rest.headD []) bs :: rest

def edits : Nat → List (List Nat) → List String → List String → List Edit
  | 0, _, _, _ => []
  | _, _, [], bs => bs.map fun _ => .right
  | _, _, as, [] => as.map fun _ => .left
  | n + 1, table, a :: as, b :: bs =>
    if a = b then .both :: edits n (table.tail.map List.tail) as bs
    else
      let down := (table.tail.headD []).headD 0
      let right := ((table.headD []).tail).headD 0
      if right ≤ down then .left :: edits n table.tail as (b :: bs)
      else .right :: edits n (table.map List.tail) (a :: as) bs

structure Hunk where
  left : Nat
  right : Nat
  removed : Nat := 0
  added : Nat := 0
  deriving DecidableEq, Repr

def hunks (open_ : Option Hunk) (i j : Nat) : List Edit → List Hunk
  | [] => open_.toList
  | .both :: es => open_.toList ++ hunks none (i + 1) (j + 1) es
  | .left :: es =>
    let h := open_.getD { left := i, right := j }
    hunks (some { h with removed := h.removed + 1 }) (i + 1) j es
  | .right :: es =>
    let h := open_.getD { left := i, right := j }
    hunks (some { h with added := h.added + 1 }) i (j + 1) es

def rangeText (start size : Nat) : String :=
  if size = 0 then toString start
  else if size = 1 then toString (start + 1)
  else toString (start + 1) ++ "," ++ toString (start + size)

def differenceLine (mark l : String) : String :=
  if l.toList.getLast? = some '\n' then mark ++ l
  else mark ++ l ++ "\n\\ No newline at end of file\n"

namespace Hunk

def text (as bs : List String) (h : Hunk) : String :=
  let kind := if h.removed = 0 then "a" else if h.added = 0 then "d" else "c"
  let removed := (as.drop h.left).take h.removed
  let added := (bs.drop h.right).take h.added
  rangeText h.left h.removed ++ kind ++ rangeText h.right h.added ++ "\n" ++
    String.join (removed.map (differenceLine "< ")) ++
    (if kind = "c" then "---\n" else "") ++ String.join (added.map (differenceLine "> "))

def groups (near : Nat) : List Hunk → List (List Hunk)
  | [] => []
  | h :: hs =>
    match groups near hs with
    | (k :: ks) :: rest =>
      if k.left ≤ h.left + h.removed + near then (h :: k :: ks) :: rest
      else [h] :: (k :: ks) :: rest
    | rest => [h] :: rest

def body (as bs : List String) (i : Nat) : List Hunk → String
  | [] => ""
  | h :: hs =>
    String.join (((as.drop i).take (h.left - i)).map (differenceLine " ")) ++
      String.join (((as.drop h.left).take h.removed).map (differenceLine "-")) ++
      String.join (((bs.drop h.right).take h.added).map (differenceLine "+")) ++
      body as bs (h.left + h.removed) hs

def extentText (start size : Nat) : String :=
  if size = 1 then toString (start + 1)
  else toString (if size = 0 then start else start + 1) ++ "," ++ toString size

def unified (context : Nat) (as bs : List String) (hs : List Hunk) : String :=
  match hs.head?, hs.getLast? with
  | some first, some last =>
    let before := min context first.left
    let stop := last.left + last.removed
    let after := min context (as.length - stop)
    let start := first.left - before
    let leftSize := stop + after - start
    let rightStart := first.right - before
    let rightSize := last.right + last.added + after - rightStart
    "@@ -" ++ extentText start leftSize ++ " +" ++ extentText rightStart rightSize ++ " @@\n" ++
      body as bs start hs ++ String.join (((as.drop stop).take after).map (differenceLine " "))
  | _, _ => ""

end Hunk

/-- How differences are looked for and shown: what makes two lines one, whether only their being
there is told, whether likeness is told, the lines around a stretch, and the words of the options. -/
structure Comparison where
  key : String → String
  brief : Bool
  telling : Bool
  context? : Option Nat
  recursive : Bool
  words : String

namespace Comparison

def signs : List Switch :=
  [⟨'q', "brief", .nothing⟩, ⟨'s', "report-identical-files", .nothing⟩,
    ⟨'i', "ignore-case", .nothing⟩, ⟨'w', "ignore-all-space", .nothing⟩,
    ⟨'b', "ignore-space-change", .nothing⟩, ⟨'a', "text", .nothing⟩, ⟨'u', "unified", .nothing⟩,
    ⟨'U', "", .argument⟩, ⟨'r', "recursive", .nothing⟩]

def squeezed : List Char → List Char
  | [] => []
  | c :: cs =>
    let rest := squeezed cs
    if c = ' ' || c = '\t' then
      match rest with
      | ' ' :: _ | '\n' :: _ | [] => rest
      | _ => ' ' :: rest
    else c :: rest

def ofGiven (g : Given) (words : String) : Comparison where
  key l :=
    let cs := if g.has 'w' then l.toList.filter fun c => c ≠ ' ' && c ≠ '\t'
      else if g.has 'b' then squeezed l.toList else l.toList
    String.ofList (if g.has 'i' then cs.map Char.toLower else cs)
  brief := g.has 'q'
  telling := g.has 's'
  context? := match (g.value? 'U').bind count? with
    | some n => some n
    | none => if g.has 'u' then some 3 else none
  recursive := g.has 'r'
  words := words

def texts (o : Comparison) (p q : String) (title : String) (a b : String) : Work Bool := do
  let as := lines a
  let bs := lines b
  let ka := as.map o.key
  let kb := bs.map o.key
  if ka = kb then
    if o.telling then putLine ("Files " ++ p ++ " and " ++ q ++ " are identical")
    return false
  if o.brief then
    putLine ("Files " ++ p ++ " and " ++ q ++ " differ")
    return true
  let hs := hunks none 0 0 (edits (ka.length + kb.length + 1) (commonTable kb ka) ka kb)
  put title
  match o.context? with
  | none => put (String.join (hs.map (Hunk.text as bs)))
  | some n =>
    put ("--- " ++ p ++ "\n+++ " ++ q ++ "\n" ++
      String.join ((Hunk.groups (2 * n) hs).map (Hunk.unified n as bs)))
  return true

def paths (o : Comparison) (nested : Bool) (p q : String) : Nat → Work Nat
  | 0 => return 2
  | n + 1 => do
    let inside := fun (dir name : String) =>
      if dir.toList.getLast? = some '/' then dir ++ name else dir ++ "/" ++ name
    let entry := fun (path : String) => do
      if path = "-" then return some (Entry.file [] false)
      match ← find path with
      | .ok (_, e) => return some e
      | .error e => do
        flush
        complain (path ++ ": " ++ e.words)
        return none
    let names := fun (path : String) => look fun w me =>
      match w.files.find (w.here me) (raw path) with
      | .ok (place, _) => (w.files.names place).map Text.Raw.ofText
      | .error _ => []
    match ← entry p, ← entry q with
    | some .directory, some .directory => do
      if nested && !o.recursive then
        putLine ("Common subdirectories: " ++ p ++ " and " ++ q)
        return 0
      let left ← names p
      let right ← names q
      let all := (left ++ right.filter (· ∉ left)).mergeSort (fun a b => decide (a ≤ b))
      all.foldlM (fun status name => do
        if name ∉ right then
          putLine ("Only in " ++ p ++ ": " ++ name)
          return max status 1
        else if name ∉ left then
          putLine ("Only in " ++ q ++ ": " ++ name)
          return max status 1
        else return max status (← paths o true (inside p name) (inside q name) n)) 0
    | some a, some b =>
      if nested && (a = .directory || b = .directory) then
        let kind := fun (e : Entry) =>
          if e = .directory then "directory"
          else if e = .file [] false || e = .file [] true then "regular empty file"
          else "regular file"
        putLine ("File " ++ p ++ " is a " ++ kind a ++ " while file " ++ q ++ " is a " ++ kind b)
        return 1
      else if a = .directory then paths o nested (inside p (lastName q)) q n
      else if b = .directory then paths o nested p (inside q (lastName p)) n
      else
        match ← content p, ← content q with
        | .ok a, .ok b => do
          let title := if nested then "diff " ++ o.words ++ p ++ " " ++ q ++ "\n" else ""
          return if ← o.texts p q title a b then 1 else 0
        | .error e, _ | _, .error e => do
          flush
          complain (e.words)
          return 2
    | _, _ => return 2

end Comparison

def diff : Work Unit := do
  let g ← given Comparison.signs 2 true true
  match g.operands with
  | [] => misuse "missing operand after 'diff'" 2 true
  | [p] => misuse ("missing operand after " ++ quoted p) 2 true
  | _ :: _ :: extra :: _ => misuse ("extra operand " ++ quoted extra) 2 true
  | [p, q] => do
    let words := String.join (((← arguments).filter fun a => a ≠ "-" && a.toList.head? = some '-').map
      (· ++ " "))
    setStatus (← (Comparison.ofGiven g words).paths false p q 1000)

end TreeTool.Program
