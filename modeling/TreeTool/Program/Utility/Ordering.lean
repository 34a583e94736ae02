import TreeTool.Number.Conversion
import TreeTool.Program.Utility.Copying

/-!
# Utilities that order lines and join them
-/

namespace TreeTool.Program

open Work

/-! ## Sorting -/

/-- A part of lines that is compared: from a field and a character on, up to another one, in the
way that the letters say. Fields and characters are counted from zero. -/
structure SortKey where
  field : Nat := 0
  offset : Nat := 0
  last : Option (Nat × Nat) := none
  startBlanks : Bool := false
  endBlanks : Bool := false
  letters : List Char := []
  deriving DecidableEq, Repr

namespace SortKey

def isBlank (c : Char) : Bool := c = ' ' || c = '\t' || c = '\n'

def skipBlanks (cs : List Char) : List Char := cs.dropWhile isBlank

def skipFields (separator : Option Char) : Nat → List Char → List Char
  | 0, cs => cs
  | n + 1, cs =>
    match separator with
    | some s =>
      match cs.dropWhile (· ≠ s) with
      | [] => []
      | _ :: cs => skipFields separator n cs
    | none => skipFields separator n ((skipBlanks cs).dropWhile fun c => !isBlank c)

def limit (k : SortKey) (separator : Option Char) (cs : List Char) : Nat :=
  match k.last with
  | none => cs.length
  | some (field, 0) =>
    match separator with
    | some s =>
      let rest := skipFields separator field cs
      cs.length - (rest.dropWhile (· ≠ s)).length
    | none => cs.length - (skipFields separator (field + 1) cs).length
  | some (field, n) =>
    let rest := skipFields separator field cs
    let rest := if k.endBlanks then skipBlanks rest else rest
    cs.length - (rest.drop n).length

def part (k : SortKey) (separator : Option Char) (line : String) : List Char :=
  let cs := line.toList
  let rest := skipFields separator k.field cs
  let rest := (if k.startBlanks then skipBlanks rest else rest).drop k.offset
  rest.take (k.limit separator cs - (cs.length - rest.length))

def number (cs : List Char) : Int × Nat × List Char :=
  let (negative, cs) := match skipBlanks cs with
    | '-' :: cs => (true, cs)
    | cs => (false, cs)
  match Number.scanPointed 10 cs with
  | some (n, places, rest) => (if negative then -n else n, places, rest)
  | none => (0, 0, cs)

def compareNumbers (a b : List Char) : Ordering :=
  let (m, p, _) := number a
  let (n, q, _) := number b
  compare (m * Number.pow10 q) (n * Number.pow10 p)

def magnitude (cs : List Char) : Int :=
  let (n, _, rest) := number cs
  let power : Nat := match rest.head? with
    | some c => (("KMGTPEZY".toList.findIdx? (· = c.toUpper)).map (· + 1)).getD 0
    | none => 0
  let m : Int := power
  if n = 0 then 0 else if n < 0 then -m else m

def real (cs : List Char) : Option (Int × Int) :=
  match Number.scanReal (String.ofList cs) with
  | some (.finite negative b, _) => some (if negative then -b.mantissa else b.mantissa, b.power)
  | some (.infinite negative, _) => some (if negative then -1 else 1, 2000)
  | _ => none

def compareReals (a b : Int × Int) : Ordering :=
  let least := min a.2 b.2
  compare (a.1 * Number.pow2 (a.2 - least)) (b.1 * Number.pow2 (b.2 - least))

def monthNames : List String :=
  ["JAN", "FEB", "MAR", "APR", "MAY", "JUN", "JUL", "AUG", "SEP", "OCT", "NOV", "DEC"]

def month (cs : List Char) : Nat :=
  let name := String.ofList ((skipBlanks cs).take 3 |>.map Char.toUpper)
  ((monthNames.findIdx? (· = name)).map (· + 1)).getD 0

def versionRank (c : Char) : Nat :=
  if c = '~' then 0 else if c.isDigit then 1 else if c.isAlpha then c.toNat + 1 else c.toNat + 1000

def compareVersions : Nat → List Char → List Char → Ordering
  | 0, _, _ => .eq
  | n + 1, a, b =>
    let isText := fun (c : Char) => !c.isDigit
    let ta := a.takeWhile isText
    let tb := b.takeWhile isText
    let ranks := fun (cs : List Char) => cs.map versionRank ++ [1]
    match compare (ranks ta) (ranks tb) with
    | .eq =>
      let a := a.drop ta.length
      let b := b.drop tb.length
      let na := a.takeWhile Char.isDigit
      let nb := b.takeWhile Char.isDigit
      match compare (Number.ofDigits 10 na) (Number.ofDigits 10 nb) with
      | .eq =>
        if a.isEmpty && b.isEmpty then .eq
        else compareVersions n (a.drop na.length) (b.drop nb.length)
      | o => o
    | o => o

def counted (letters : List Char) (cs : List Char) : List Char :=
  let cs := if 'd' ∈ letters then cs.filter fun c => isBlank c || c.isAlphanum
    else if 'i' ∈ letters then cs.filter fun c => 32 ≤ c.toNat && c.toNat < 127
    else cs
  if 'f' ∈ letters then cs.map Char.toUpper else cs

def compareParts (letters : List Char) (a b : List Char) : Ordering :=
  if 'n' ∈ letters then compareNumbers a b
  else if 'h' ∈ letters then (compare (magnitude a) (magnitude b)).then (compareNumbers a b)
  else if 'g' ∈ letters then
    match real a, real b with
    | some x, some y => compareReals x y
    | none, some _ => .lt
    | some _, none => .gt
    | none, none => .eq
  else if 'M' ∈ letters then compare (month a) (month b)
  else
    let a := counted letters a
    let b := counted letters b
    if 'V' ∈ letters then compareVersions (a.length + b.length + 1) a b else compare a b

def compareLines (k : SortKey) (separator : Option Char) (a b : String) : Ordering :=
  let o := compareParts k.letters (k.part separator a) (k.part separator b)
  if 'r' ∈ k.letters then o.swap else o

/-! ### Reading keys -/

def sortLetters : List Char := ['d', 'f', 'g', 'h', 'i', 'M', 'n', 'R', 'r', 'V']

def count? (cs : List Char) : Option (Nat × List Char) :=
  let ds := cs.takeWhile Char.isDigit
  if ds.isEmpty then none else some (Number.ofDigits 10 ds, cs.drop ds.length)

def invalid (what text : String) : String := what ++ ": invalid field specification " ++ quoted text

def offset? (least : Nat) (text : String) (cs : List Char) : Except String (Nat × List Char) :=
  match cs with
  | '.' :: cs =>
    match count? cs with
    | none => .error ("invalid number after '.': invalid count at start of " ++
        quoted (String.ofList cs))
    | some (n, rest) =>
      if n < least then .error (invalid "character offset is zero" text) else .ok (n, rest)
  | cs => .ok (least, cs)

def isLetter (c : Char) : Bool := c = 'b' || c ∈ sortLetters

def ofText (text : String) : Except String SortKey := do
  let start := fun (what : String) (cs : List Char) =>
    match count? cs with
    | none => Except.error ("invalid number " ++ what ++ ": invalid count at start of " ++
        quoted (String.ofList cs))
    | some (0, _) => .error (invalid "field number is zero" text)
    | some r => .ok r
  let (field, cs) ← start "at field start" text.toList
  let (offset, cs) ← offset? 1 text cs
  let first := cs.takeWhile isLetter
  match cs.drop first.length with
  | [] =>
    return { field := field - 1, offset := offset - 1, startBlanks := 'b' ∈ first
             letters := first.filter (· ≠ 'b') }
  | ',' :: cs => do
    let (last, cs) ← start "after ','" cs
    let (size, cs) ← offset? 0 text cs
    let second := cs.takeWhile isLetter
    if !(cs.drop second.length).isEmpty then
      .error (invalid "stray character in field spec" text)
    else
      return { field := field - 1, offset := offset - 1, last := some (last - 1, size)
               startBlanks := 'b' ∈ first, endBlanks := 'b' ∈ second
               letters := (first ++ second).filter (· ≠ 'b') }
  | _ => .error (invalid "stray character in field spec" text)

end SortKey

structure Sorting where
  keys : List SortKey
  separator : Option Char := none
  reversed : Bool := false
  stable : Bool := false
  unique : Bool := false

namespace Sorting

def byKeys (s : Sorting) (a b : String) : Ordering :=
  s.keys.foldl (fun o k => o.then (k.compareLines s.separator a b)) .eq

def compare (s : Sorting) (a b : String) : Ordering :=
  match s.byKeys a b with
  | .eq =>
    if s.stable || s.unique then .eq
    else
      let o := Ord.compare a b
      if s.reversed then o.swap else o
  | o => o

def withoutRepeats (s : Sorting) : List String → List String
  | [] => []
  | l :: ls => l :: withoutRepeatsOf l ls
where
  withoutRepeatsOf (last : String) : List String → List String
    | [] => []
    | l :: ls =>
      if s.byKeys last l = .eq then withoutRepeatsOf last ls else l :: withoutRepeatsOf l ls

def sorted (s : Sorting) (ls : List String) : List String :=
  let ls := ls.mergeSort fun a b => s.compare a b ≠ .gt
  if s.unique then s.withoutRepeats ls else ls

def mergedWith (s : Sorting) : List String → List String → List String
  | [], bs => bs
  | as, [] => as
  | a :: as, b :: bs =>
    if s.compare b a = .lt then b :: s.mergedWith (a :: as) bs
    else a :: s.mergedWith as (b :: bs)
termination_by as bs => as.length + bs.length

def merged (s : Sorting) (lists : List (List String)) : List String :=
  let ls := lists.foldl s.mergedWith []
  if s.unique then s.withoutRepeats ls else ls

def disorder (s : Sorting) : Nat → List String → Option (Nat × String)
  | n, a :: b :: ls =>
    let o := s.compare a b
    if o = .gt || (s.unique && o = .eq) then some (n + 1, b) else s.disorder (n + 1) (b :: ls)
  | _, _ => none

end Sorting

def conflict? (letters : List Char) : Option String :=
  let has := fun (c : Char) => c ∈ letters
  let kinds := ['g', 'h', 'M', 'n'].filter has
  let other := has 'd' || has 'i' || has 'R' || has 'V'
  if kinds.length + (if other then 1 else 0) ≤ 1 then none
  else some (String.ofList (['d', 'f', 'g', 'h', 'i', 'M', 'n', 'R', 'V'].filter has))

def sortSwitches : List Switch :=
  [⟨'b', "ignore-leading-blanks", .nothing⟩, ⟨'c', "check", .nothing⟩, ⟨'C', "", .nothing⟩,
    ⟨'d', "dictionary-order", .nothing⟩, ⟨'f', "ignore-case", .nothing⟩,
    ⟨'g', "general-numeric-sort", .nothing⟩, ⟨'h', "human-numeric-sort", .nothing⟩,
    ⟨'i', "ignore-nonprinting", .nothing⟩, ⟨'k', "key", .argument⟩, ⟨'m', "merge", .nothing⟩,
    ⟨'M', "month-sort", .nothing⟩, ⟨'n', "numeric-sort", .nothing⟩, ⟨'o', "output", .argument⟩,
    ⟨'r', "reverse", .nothing⟩, ⟨'R', "random-sort", .nothing⟩, ⟨'s', "stable", .nothing⟩,
    ⟨'S', "buffer-size", .argument⟩, ⟨'t', "field-separator", .argument⟩,
    ⟨'T', "temporary-directory", .argument⟩, ⟨'u', "unique", .nothing⟩,
    ⟨'V', "version-sort", .nothing⟩, ⟨'z', "zero-terminated", .nothing⟩]

def sortingOf (g : Given) : Work Sorting := do
  let letters := SortKey.sortLetters.filter g.has
  let keys ← (g.options.filter (·.1 = 'k')).mapM fun (_, text) =>
    match SortKey.ofText text with
    | .ok k => return k
    | .error message => fail message 2
  let separator ← (do
    match g.value? 't' with
    | none => return none
    | some t =>
      match t.toList with
      | [] => fail "empty tab" 2
      | [c] => return some c
      | ['\\', '0'] => return some '\x00'
      | _ => fail ("multi-character tab " ++ quoted t) 2)
  let keys := if keys.isEmpty then [{ letters, startBlanks := g.has 'b', endBlanks := g.has 'b' }]
    else keys.map fun k =>
      if k.letters.isEmpty && !k.startBlanks && !k.endBlanks then
        { k with letters, startBlanks := g.has 'b', endBlanks := g.has 'b' }
      else k
  match keys.findSome? fun k => conflict? k.letters with
  | some cs => fail ("options '-" ++ cs ++ "' are incompatible") 2
  | none =>
    return { keys, separator, reversed := g.has 'r', stable := g.has 's', unique := g.has 'u' }

def sort : Work Unit := do
  let g ← given sortSwitches 2
  let s ← sortingOf g
  let checks := g.last? ['c', 'C']
  match checks, g.operands with
  | some c, _ :: extra :: _ =>
    fail ("extra operand " ++ quoted extra ++ " not allowed with -" ++ c.toString) 2
  | _, _ => pure ()
  match checks, g.has 'o' with
  | some c, true => fail ("options '-" ++ c.toString ++ "o' are incompatible") 2
  | _, _ => pure ()
  let paths := if g.operands.isEmpty then ["-"] else g.operands
  let texts ← paths.mapM fun p => do
    match ← content p with
    | .ok text => return text
    | .error .isDirectory => fail ("read failed: " ++ p ++ ": Is a directory") 2
    | .error e => fail ("cannot read: " ++ p ++ ": " ++ e.words) 2
  let all := texts.map plainLines
  match checks with
  | some c =>
    match s.disorder 1 all.flatten with
    | none => return
    | some (n, line) => do
      if c = 'c' then complain (paths.headD "-" ++ ":" ++ toString n ++ ": disorder: " ++ line)
      exit 1
  | none => do
    let ordered := if g.has 'm' then s.merged all else s.sorted all.flatten
    let result := String.join (ordered.map (· ++ "\n"))
    match g.value? 'o' with
    | none => put result
    | some p =>
      match ← openPath .create p with
      | .error e => fail ("open failed: " ++ p ++ ": " ++ e.words) 2
      | .ok d => do
        discard (writeTo d result)
        close d

/-! ## Repeated lines -/

def grouped (key : String → String) : List String → List (String × Nat × List String)
  | [] => []
  | l :: ls =>
    match grouped key ls with
    | (m, n, rest) :: gs =>
      if key l = key m then (l, n + 1, m :: rest) :: gs else (l, 1, []) :: (m, n, rest) :: gs
    | [] => [(l, 1, [])]

def countOf (g : Given) (letter : Char) (what : String) : Work (Option Nat) := do
  match g.value? letter with
  | none => return none
  | some v =>
    if !v.isEmpty && v.toList.all Char.isDigit then return some (Number.ofDigits 10 v.toList)
    else fail (v ++ ": invalid number of " ++ what)

def uniq : Work Unit := do
  let g ← given [⟨'c', "count", .nothing⟩, ⟨'d', "repeated", .nothing⟩,
    ⟨'D', "all-repeated", .joined⟩, ⟨'f', "skip-fields", .argument⟩, ⟨'i', "ignore-case", .nothing⟩,
    ⟨'s', "skip-chars", .argument⟩, ⟨'u', "unique", .nothing⟩, ⟨'w', "check-chars", .argument⟩,
    ⟨'z', "zero-terminated", .nothing⟩]
  let fields ← countOf g 'f' "fields to skip"
  let skipped ← countOf g 's' "bytes to skip"
  let size ← countOf g 'w' "bytes to compare"
  match g.operands with
  | _ :: _ :: extra :: _ => misuse ("extra operand " ++ quoted extra)
  | _ => pure ()
  if g.has 'c' && g.has 'D' then
    misuse "printing all duplicated lines and repeat counts is meaningless"
  let key := fun (l : String) =>
    let cs := (SortKey.skipFields none (fields.getD 0) l.toList).drop (skipped.getD 0)
    let cs := match size with
      | some n => cs.take n
      | none => cs
    String.ofList (if g.has 'i' then cs.map Char.toUpper else cs)
  let path := g.operands.headD "-"
  let text ← (do
    match ← content path with
    | .ok text => return text
    | .error e => fail ((if e = .isDirectory then "error reading " ++ quoted path else path) ++
        ": " ++ e.words))
  let shown := (grouped key (plainLines text)).flatMap fun (l, n, rest) =>
    if (n = 1 && (g.has 'd' || g.has 'D')) || (n ≠ 1 && g.has 'u') then []
    else if g.has 'D' then l :: rest
    else if g.has 'c' then [padLeft 7 (toString n) ++ " " ++ l]
    else [l]
  match g.operands with
  | [_, target] =>
    match ← openPath .create target with
    | .error e => fail (target ++ ": " ++ e.words)
    | .ok d => do
      discard (writeTo d (String.join (shown.map (· ++ "\n"))))
      close d
  | _ => putLines shown

/-! ## Lines of several files -/

def merged : List String → List String → List (Nat × String)
  | [], bs => bs.map ((1, ·))
  | as, [] => as.map ((0, ·))
  | a :: as, b :: bs =>
    if a = b then (2, a) :: merged as bs
    else if a < b then (0, a) :: merged as (b :: bs)
    else (1, b) :: merged (a :: as) bs
termination_by as bs => as.length + bs.length

def isOrdered : List String → Bool
  | a :: b :: ls => a ≤ b && isOrdered (b :: ls)
  | _ => true

def comm : Work Unit := do
  let g ← given [⟨'1', "", .nothing⟩, ⟨'2', "", .nothing⟩, ⟨'3', "", .nothing⟩,
    ⟨'o', "output-delimiter", .argument⟩, ⟨'n', "nocheck-order", .nothing⟩,
    ⟨'c', "check-order", .nothing⟩, ⟨'z', "zero-terminated", .nothing⟩]
  match g.operands with
  | [] => misuse "missing operand"
  | [p] => misuse ("missing operand after " ++ quoted p)
  | _ :: _ :: extra :: _ => misuse ("extra operand " ++ quoted extra)
  | [p, q] => do
    let read := fun (p : String) => do
      match ← content p with
      | .ok text => return plainLines text
      | .error e => fail (p ++ ": " ++ e.words)
    let as ← read p
    let bs ← read q
    let tab := (g.value? 'o').getD "\t"
    let shown := fun (c : Char) => !g.has c
    let indent := fun (k : Nat) =>
      String.join (List.replicate ((if 1 ≤ k && shown '1' then 1 else 0) +
        (if k = 2 && shown '2' then 1 else 0)) tab)
    let all := merged as bs
    all.forM fun (k, l) => do
      if shown (['1', '2', '3'].getD k '3') then putLine (indent k ++ l)
    if !g.has 'n' && all.any (·.1 ≠ 2) && !(isOrdered as && isOrdered bs) then
      flush
      if !isOrdered as then complain "file 1 is not in sorted order"
      if !isOrdered bs then complain "file 2 is not in sorted order"
      fail "input is not in sorted order"

def delimiters : List Char → List String
  | [] => []
  | '\\' :: c :: cs =>
    (match c with
      | 'n' => "\n"
      | 't' => "\t"
      | '0' => ""
      | c => c.toString) :: delimiters cs
  | c :: cs => c.toString :: delimiters cs

def joinedBy (ds : Array String) : Nat → List String → String
  | _, [] => ""
  | _, [s] => s
  | n, s :: ss => s ++ (if ds.size = 0 then "" else ds[n % ds.size]?.getD "") ++ joinedBy ds (n + 1) ss

def takeRow (queues : List (Nat × List String)) : List Nat → List String × List (Nat × List String)
  | [] => ([], queues)
  | c :: cs =>
    let line := ((queues.lookup c).bind List.head?).getD ""
    let queues := queues.map fun (i, ls) => (i, if i = c then ls.tail else ls)
    let (row, queues) := takeRow queues cs
    (line :: row, queues)

def rows (columns : List Nat) : Nat → List (Nat × List String) → List (List String)
  | 0, _ => []
  | n + 1, queues =>
    if queues.all (·.2.isEmpty) then []
    else
      let (row, queues) := takeRow queues columns
      row :: rows columns n queues

def paste : Work Unit := do
  let g ← given [⟨'d', "delimiters", .argument⟩, ⟨'s', "serial", .nothing⟩,
    ⟨'z', "zero-terminated", .nothing⟩]
  let ds := (delimiters ((g.value? 'd').getD "\t").toList).toArray
  let paths := if g.operands.isEmpty then ["-"] else g.operands
  let names := paths.eraseDups
  let texts ← names.mapM fun p => do
    match ← content p with
    | .ok text => return plainLines text
    | .error e => fail (p ++ ": " ++ e.words)
  let numbered := fun (p : String) => (names.findIdx? (· = p)).getD 0
  if g.has 's' then
    texts.forM fun ls => putLine (joinedBy ds 0 ls)
  else
    let queues := paths.zipIdx.map fun (p, i) => if p = "-" then 1000000 + numbered p else i
    let contents := paths.zipIdx.map fun (p, i) =>
      (if p = "-" then 1000000 + numbered p else i, texts.getD (numbered p) [])
    let contents := contents.foldl (fun seen c =>
      if seen.any (·.1 = c.1) then seen else seen ++ [c]) []
    let most := (contents.map (·.2.length)).foldl max 0
    putLines ((rows queues (most + 1) contents).map (joinedBy ds 0))

/-! ## Numbered lines -/

def numberText (format : String) (width : Nat) (n : Int) : String :=
  let s := toString n
  match format with
  | "ln" => s ++ String.ofList (List.replicate (width - s.length) ' ')
  | "rz" => ({ flags := ['0'], width, letter := 'd' } : Number.Conversion).integer n
  | _ => padLeft width s

def nl : Work Unit := do
  let g ← given [⟨'b', "body-numbering", .argument⟩, ⟨'w', "number-width", .argument⟩,
    ⟨'s', "number-separator", .argument⟩, ⟨'n', "number-format", .argument⟩,
    ⟨'v', "starting-line-number", .argument⟩, ⟨'i', "line-increment", .argument⟩,
    ⟨'p', "no-renumber", .nothing⟩]
  let number := fun (letter : Char) (usual : Nat) (what : String) => do
    match g.value? letter with
    | none => return usual
    | some v =>
      if !v.isEmpty && v.toList.all Char.isDigit then return Number.ofDigits 10 v.toList
      else fail ("invalid " ++ what ++ ": " ++ quoted v)
  let width ← number 'w' 6 "line number field width"
  let first ← number 'v' 1 "starting line number"
  let step ← number 'i' 1 "line number increment"
  if width = 0 then
    fail "invalid line number field width: '0': Numerical result out of range"
  let style := (g.value? 'b').getD "t"
  if style ∉ ["a", "t", "n"] then misuse ("invalid body numbering style: " ++ quoted style)
  let format := (g.value? 'n').getD "rn"
  if format ∉ ["ln", "rn", "rz"] then misuse ("invalid line numbering format: " ++ quoted format)
  let separator := (g.value? 's').getD "\t"
  let blank := String.ofList (List.replicate (width + separator.length) ' ')
  let ls := (← contents g.operands).flatMap plainLines
  discard (ls.foldlM (fun (n : Int) l => do
    if style = "a" || (style = "t" && !l.isEmpty) then
      putLine (numberText format width n ++ separator ++ l)
      return n + step
    else
      putLine (blank ++ l)
      return n) (first : Int))

end TreeTool.Program
