import TreeTool.Program.Utility.Arranging
import TreeTool.Program.Utility.Running
import TreeTool.Shell.Pattern

/-!
# Finding files
-/

namespace TreeTool.Program

open Files (Entry Place Problem Tree)
open Work

namespace Finding

inductive Test
  | always (b : Bool)
  | name (caseless whole : Bool) (pattern : String)
  | kind (cs : List Char)
  | mode (part : Option Bool) (bits : Nat)
  | empty
  | executable
  | size (order : Ordering) (n unit : Nat)
  | print (ending : String)
  | show_ (form : List Char)
  | delete
  | prune
  | quit
  | run (command : List String)
  | gather (command : List String)
  | not_ (t : Test)
  | both (a b : Test)
  | either (a b : Test)

structure Item where
  path : String
  place : Place
  entry : Entry
  depth : Nat
  top : String

namespace Item

def kind (i : Item) : Char :=
  match i.entry with
  | .directory => 'd'
  | .link _ => 'l'
  | .device _ => 'c'
  | _ => 'f'

def mode (i : Item) : Nat :=
  match i.entry with
  | .directory | .file _ true => 0o755
  | .link _ => 0o777
  | .device _ => 0o666
  | _ => 0o644

def size (i : Item) : Nat :=
  match i.entry with
  | .file content _ => content.length
  | .directory => 4096
  | .link target => (Text.Raw.ofText target).length
  | _ => 0

def attribute? (i : Item) (c : Char) : Option String :=
  let slash := i.path.toList.reverse.dropWhile (· ≠ '/')
  match c with
  | 'p' => some i.path
  | 'f' => some (lastName i.path)
  | 'h' => some (if slash.isEmpty then "." else String.ofList slash.tail.reverse)
  | 'P' => some (String.ofList ((i.path.toList.drop i.top.length).dropWhile (· = '/')))
  | 's' => some (toString i.size)
  | 'y' => some i.kind.toString
  | 'd' => some (toString i.depth)
  | 'm' => some (String.ofList (Nat.toDigits 8 i.mode))
  | 'l' => some (match i.entry with
    | .link target => Text.Raw.ofText target
    | _ => "")
  | 'u' | 'g' => some "root"
  | 'U' | 'G' => some "0"
  | '%' => some "%"
  | _ => none

def filled (i : Item) : List Char → String
  | '\\' :: c :: cs =>
    (match [('n', "\n"), ('t', "\t"), ('r', "\r"), ('0', "\x00"), ('a', "\x07"), ('b', "\x08"),
        ('f', "\x0c"), ('v', "\x0b"), ('\\', "\\")].lookup c with
      | some s => s
      | none => "\\" ++ c.toString) ++ filled i cs
  | '%' :: c :: cs => (i.attribute? c).getD ("%" ++ c.toString) ++ filled i cs
  | c :: cs => c.toString ++ filled i cs
  | [] => ""

end Item

/-- The course of a search: whether what is below the present file is left out, whether the search
is over, and the files that are gathered for commands. -/
structure Search where
  pruned : Bool := false
  ended : Bool := false
  gathered : List (List String × String) := []

def fits (caseless : Bool) (pattern text : String) : Bool :=
  let fold := fun (c : Char) => if caseless then c.toLower else c
  let glyphs := pattern.toList.map fun c => (⟨fold c, false⟩ : Shell.Glyph)
  Shell.Pattern.fits (Shell.Pattern.atoms (Shell.Pattern.protect glyphs)) (text.toList.map fold)

def filledIn (path : String) (command : List String) : List String :=
  command.map (substituted "\x7b\x7d" path)

def runCommand (start : Start) (command : List String) : Work Bool := do
  flush
  match command with
  | [] => return true
  | name :: as => do
    let environment := (← get).environment
    match ← imageOf environment name as with
    | .error p => do
      complain (quoted name ++ ": " ++ p.words)
      return false
    | .ok image => do
      let id ← startChild start image environment fun w _ => w
      return (← awaitEnd id) = .exited 0

def evaluate (start : Start) (i : Item) : Test → StateT Search Work Bool
  | .always b => return b
  | .name caseless whole pattern =>
    return fits caseless pattern (if whole then i.path else lastName i.path)
  | .kind cs => return i.kind ∈ cs
  | .mode part bits =>
    return match part with
      | none => i.mode = bits
      | some true => i.mode &&& bits = bits
      | some false => bits = 0 || i.mode &&& bits ≠ 0
  | .empty => do
    match i.entry with
    | .directory => do
      let names ← (look fun w _ => w.files.names i.place : Work _)
      return names.isEmpty
    | .file content _ => return content.isEmpty
    | _ => return false
  | .executable => do
    match ← (find i.path : Work _) with
    | .ok (_, .directory) | .ok (_, .file _ true) => return true
    | _ => return false
  | .size order n unit => return compare ((i.size + unit - 1) / unit) n = order
  | .print ending => do
    put (i.path ++ ending)
    return true
  | .show_ form => do
    put (i.filled form)
    return true
  | .delete => do
    let t ← (look fun w _ => w.files : Work _)
    if i.entry = .directory && !(t.names i.place).isEmpty then
      report ("cannot delete " ++ quoted i.path ++ ": " ++ Problem.notEmpty.words)
      return false
    else
      if i.place ≠ [] && i.path ≠ "." then changeFiles (·.remove i.place)
      return true
  | .prune => do
    modify fun s => { s with pruned := true }
    return true
  | .quit => do
    modify fun s => { s with ended := true }
    return false
  | .run command => (runCommand start (filledIn i.path command) : Work _)
  | .gather command => do
    modify fun s => { s with gathered := s.gathered ++ [(command, i.path)] }
    return true
  | .not_ t => return !(← evaluate start i t)
  | .both a b => do if ← evaluate start i a then evaluate start i b else return false
  | .either a b => do if ← evaluate start i a then return true else evaluate start i b

/-! ## Reading tests -/

abbrev Reading := StateT (List String) (Except String)

structure Limits where
  least : Nat := 0
  most : Nat := 10000
  deepFirst : Bool := false

def argument (name : String) : Reading String := do
  match ← get with
  | [] => throw ("missing argument to \x60" ++ name ++ "'")
  | a :: as => do
    set as
    return a

def commandWords (name : String) (before : List String) : List String →
    Except String (Test × List String)
  | [] => .error ("missing argument to \x60" ++ name ++ "'")
  | ";" :: as => .ok (.run before.reverse, as)
  | "+" :: as =>
    match before with
    | "\x7b\x7d" :: words => .ok (.gather words.reverse, as)
    | _ => commandWords name ("+" :: before) as
  | a :: as => commandWords name (a :: before) as

def sizeTest (v : String) : Except String Test :=
  let (order, cs) := match v.toList with
    | '+' :: cs => (Ordering.gt, cs)
    | '-' :: cs => (.lt, cs)
    | cs => (.eq, cs)
  let ds := cs.takeWhile Char.isDigit
  let unit? := match cs.drop ds.length with
    | [] | ['b'] => some 512
    | ['c'] => some 1
    | ['w'] => some 2
    | ['k'] => some 1024
    | ['M'] => some 1048576
    | _ => none
  match unit?, ds with
  | some unit, _ :: _ => .ok (.size order (Number.ofDigits 10 ds) unit)
  | _, _ => .error ("invalid -size type \x60" ++ v ++ "'")

def modeBits? (cs : List Char) : Option Nat :=
  if !cs.isEmpty && cs.all fun c => '0' ≤ c && c ≤ '7' then some (Number.ofDigits 8 cs)
  else
    let who := cs.takeWhile ("ugoa".contains ·)
    match cs.drop who.length with
    | sign :: letters =>
      let shifts := if who.isEmpty || 'a' ∈ who then [6, 3, 0]
        else who.map fun c => if c = 'u' then 6 else if c = 'g' then 3 else 0
      let bit := fun (c : Char) => if c = 'r' then 4 else if c = 'w' then 2 else 1
      if (sign = '+' || sign = '=') && letters.all ("rwxX".contains ·) then
        some ((letters.flatMap fun c => shifts.map fun n => bit c <<< n).foldl (· ||| ·) 0)
      else none
    | [] => none

def modeTest (v : String) : Except String Test :=
  let (part, cs) := match v.toList with
    | '-' :: cs => (some true, cs)
    | '/' :: cs => (some false, cs)
    | cs => (none, cs)
  match modeBits? cs with
  | some bits => .ok (.mode part bits)
  | none => .error ("invalid mode " ++ quoted v)

def kinds (v : String) : Except String Test :=
  let isKind := fun (c : Char) => "bcdpflsD".contains c
  let rec letters : List Char → Except String (List Char)
    | [] => .error "Arguments to -type should contain at least one letter"
    | [c] => if isKind c then .ok [c] else .error ("Unknown argument to -type: " ++ c.toString)
    | [c, ','] =>
      if isKind c then
        .error ("Last file type in list argument to -type is missing, i.e., list is ending on: ','")
      else .error ("Unknown argument to -type: " ++ c.toString)
    | c :: ',' :: cs =>
      if isKind c then (letters cs).map (c :: ·)
      else .error ("Unknown argument to -type: " ++ c.toString)
    | c :: _ =>
      if isKind c then .error "Must separate multiple arguments to -type using: ','"
      else .error ("Unknown argument to -type: " ++ c.toString)
  (letters v.toList).map .kind

def binaryNames : List String := ["-o", "-or", "-a", "-and", ","]

def globNames : List String := ["-name", "-iname", "-path", "-wholename", "-ipath"]

def named (word : String) : Reading Test := do
  let checked := fun (r : Except String Test) => do
    match r with
    | .ok t => return t
    | .error message => throw message
  match word with
  | "-name" => return .name false false (← argument word)
  | "-iname" => return .name true false (← argument word)
  | "-path" | "-wholename" => return .name false true (← argument word)
  | "-ipath" => return .name true true (← argument word)
  | "-type" => checked (kinds (← argument word))
  | "-perm" => checked (modeTest (← argument word))
  | "-size" => checked (sizeTest (← argument word))
  | "-executable" => return .executable
  | "-readable" | "-writable" | "-true" => return .always true
  | "-empty" => return .empty
  | "-false" => return .always false
  | "-print" => return .print "\n"
  | "-print0" => return .print "\x00"
  | "-printf" => return .show_ (← argument word).toList
  | "-delete" => return .delete
  | "-prune" => return .prune
  | "-quit" => return .quit
  | "-maxdepth" | "-mindepth" => do
    let v ← argument word
    if v.isEmpty || !v.toList.all Char.isDigit then
      throw ("Expected a positive decimal integer argument to " ++ word ++ ", but got " ++ quoted v)
    return .always true
  | "-depth" | "-mount" | "-xdev" | "-follow" | "-noleaf" => return .always true
  | "-exec" | "-execdir" => do
    match commandWords word [] (← get) with
    | .ok (t, as) => do
      set as
      return t
    | .error message => throw message
  | _ => throw ("unknown predicate \x60" ++ word ++ "'")

mutual

def disjunction : (n : Nat) → (before : String) → Reading Test
  | 0, _ => throw "expression too long"
  | n + 1, before => do
    let a ← conjunction n before
    match ← get with
    | op@"-o" :: as | op@"-or" :: as => do
      set as
      return .either a (← disjunction n op)
    | "," :: as => do
      set as
      return .either (.both a (.always false)) (← disjunction n ",")
    | _ => return a

def conjunction : (n : Nat) → (before : String) → Reading Test
  | 0, _ => throw "expression too long"
  | n + 1, before => do
    let a ← single n before
    match ← get with
    | [] | "-o" :: _ | "-or" :: _ | ")" :: _ | "," :: _ => return a
    | op@"-a" :: as | op@"-and" :: as => do
      set as
      return .both a (← conjunction n op)
    | _ => return .both a (← conjunction n "")

def single : (n : Nat) → (before : String) → Reading Test
  | 0, _ => throw "expression too long"
  | n + 1, before => do
    match ← get with
    | [] =>
      if before = "(" then
        throw ("invalid expression; expected to find a ')' but didn't see one. " ++
          "Perhaps you need an extra predicate after '('")
      else throw ("expected an expression after '" ++ before ++ "'")
    | word :: as => do
      set as
      match word with
      | "(" => do
        let t ← disjunction n "("
        match ← get with
        | ")" :: as => do
          set as
          return t
        | _ => throw ("invalid expression; " ++
            "I was expecting to find a ')' somewhere but did not see one.")
      | ")" =>
        if before = "(" then throw "invalid expression; empty parentheses are not allowed."
        else throw "you have too many ')'"
      | "!" | "-not" => return .not_ (← single n word)
      | _ =>
        if word ∈ binaryNames then
          throw ("invalid expression; you have used a binary operator '" ++ word ++
            "' with nothing before it.")
        else named word

end

def stray? (last : String) : Nat → List String → Option (String × String)
  | 0, _ => none
  | _, [] => none
  | n + 1, a :: as =>
    if a.toList.head? ≠ some '-' && a ∉ ["(", ")", "!", ","] then some (a, last)
    else if a ∈ ["(", ")", "!", "-not"] || a ∈ binaryNames then stray? last n as
    else
      match (named a).run as with
      | .ok (_, rest) => stray? a n rest
      | .error _ => none

def acts : Test → Bool
  | .print _ | .show_ _ | .delete | .run _ | .gather _ => true
  | .not_ t => acts t
  | .both a b | .either a b => acts a || acts b
  | _ => false

def limitsOf (l : Limits) : List String → Limits
  | "-maxdepth" :: v :: as => limitsOf { l with most := Number.ofDigits 10 v.toList } as
  | "-mindepth" :: v :: as => limitsOf { l with least := Number.ofDigits 10 v.toList } as
  | "-depth" :: as | "-delete" :: as => limitsOf { l with deepFirst := true } as
  | _ :: as => limitsOf l as
  | [] => l

/-! ## Searching -/

def visit (start : Start) (l : Limits) (t : Test) (i : Item) :
    Nat → StateT Search Work Unit
  | 0 => return
  | n + 1 => do
    if (← get).ended then return
    modify fun s => { s with pruned := false }
    let own := do if l.least ≤ i.depth then discard (evaluate start i t)
    if !l.deepFirst then own
    let s ← get
    if i.entry = .directory && i.depth < l.most && !s.pruned && !s.ended then
      let tree ← (look fun w _ => w.files : Work _)
      (tree.names i.place).forM fun name => do
        match tree.get? (i.place ++ [name]) with
        | none => return
        | some e =>
          let path := i.path ++ (if i.path.toList.getLast? = some '/' then "" else "/") ++
            Text.Raw.ofText name
          visit start l t ⟨path, i.place ++ [name], e, i.depth + 1, i.top⟩ n
    if l.deepFirst then own

end Finding

open Finding in
def find_ (start : Start) : Work Unit := do
  let as ← arguments
  let isPath := fun (a : String) =>
    a ≠ "(" && a ≠ "!" && a.toList.head? ≠ some '-'
  let paths := as.takeWhile isPath
  let rest := as.drop paths.length
  let paths := if paths.isEmpty then ["."] else paths
  match stray? "" (rest.length + 1) rest with
  | none => pure ()
  | some (word, before) => do
    complain ("paths must precede expression: \x60" ++ word ++ "'")
    if before ∈ globNames && (← findItself word).toOption.isSome then
      complain ("possible unquoted pattern after predicate \x60" ++ before ++ "'?")
    exit 1
  let t ← (do
    if rest.isEmpty then return Test.print "\n"
    match (disjunction (3 * rest.length + 3) "").run rest with
    | .error message => fail message
    | .ok (_, _ :: _) => fail "you have too many ')'"
    | .ok (t, []) => return if acts t then t else .both t (.print "\n"))
  let l := limitsOf {} rest
  let (_, s) ← (paths.forM fun p => do
    match ← (findItself p : Work _) with
    | .error e => do
      flush
      report (quoted p ++ ": " ++ e.words)
    | .ok (place, e) => visit start l t ⟨p, place, e, 0, p⟩ 1000 : StateT Search Work Unit).run {}
  let commands := (s.gathered.map (·.1)).eraseDups
  commands.forM fun c => do
    let files := (s.gathered.filter (·.1 = c)).map (·.2)
    if !(← runCommand start (c ++ files)) then setStatus 1

/-! ## Names for temporary files -/

def temporaryName (t : Tree) (here : Place) (front : String) (size : Nat) : String :=
  let candidate := fun (n : Nat) =>
    let ds := toString n
    front ++ String.ofList (List.replicate (size - ds.length) '0') ++ ds
  let isFree := fun (n : Nat) => (t.findItself here (Text.Raw.toText (candidate n))).toOption.isNone
  candidate (((List.range 10000).find? isFree).getD 0)

def mktemp : Work Unit := do
  let g ← given [⟨'d', "directory", .nothing⟩, ⟨'u', "dry-run", .nothing⟩,
    ⟨'q', "quiet", .nothing⟩, ⟨'t', "", .nothing⟩, ⟨'p', "", .argument⟩, ⟨'P', "tmpdir", .joined⟩]
  let directory := match (g.value? 'p').or (g.value? 'P') with
    | some "" => some "/tmp"
    | d => d
  let template ← (do
    match g.operands with
    | [] => return directory.getD "/tmp" ++ "/tmp.XXXXXXXXXX"
    | [p] =>
      match directory with
      | some d => return d ++ "/" ++ p
      | none => return if g.has 't' then "/tmp/" ++ p else p
    | _ => misuse "too many templates")
  let size := (template.toList.reverse.takeWhile (· = 'X')).length
  if size < 3 then fail ("too few X's in template " ++ quoted template)
  let front := String.ofList (template.toList.take (template.length - size))
  let path ← look fun w me => temporaryName w.files (w.here me) front size
  if !g.has 'u' then
    match ← look fun w me => newPlace w.files (w.here me) path with
    | .ok place => changeFiles (·.put place (if g.has 'd' then .directory else .file [] false))
    | .error e =>
      fail ("failed to create " ++ (if g.has 'd' then "directory" else "file") ++
        " via template " ++ quoted template ++ ": " ++ e.words)
  putLine path

end TreeTool.Program
