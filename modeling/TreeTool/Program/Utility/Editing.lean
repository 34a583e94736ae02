import TreeTool.Program.Editing.Script
import TreeTool.Program.Options
import TreeTool.Program.Supply

/-!
# The stream editor

The editor goes through lines in cycles: it reads a line into the pattern space, carries out its
commands, and prints what the pattern space holds then.
-/

namespace TreeTool.Program.Editing

open Regular (Expression)
open Work

inductive Pending
  | text (s : String)
  | file (path : String)

/-- The state of the editor. A range that is open has the line at which it ends, if that is known.
`unfinished` holds while the last line that was printed has no end. -/
structure Editor where
  supply : Supply
  space : String := ""
  ended : Bool := true
  hold : String := ""
  line : Nat := 0
  pending : List Pending := []
  ranges : List (Nat × Option Nat) := []
  replaced : Bool := false
  lastUsed : Option Expression := none
  unfinished : Bool := false
  targets : List (String × Nat) := []

abbrev Session := StateT Editor Work

/-- What comes after a command: another one, the end of the cycle, a new cycle with what the
pattern space still holds, or the end of everything. -/
inductive Flow
  | go (index : Nat)
  | finish (prints : Bool)
  | again
  | stop (prints : Bool) (status : Nat)

structure Plan where
  commands : Array Command
  quiet : Bool := false

def refusal : Supply.Refusal where
  cannotOpen p e := do
    complain ("can't read " ++ p ++ ": " ++ e.words)
    setStatus 2
  cannotRead p e := do
    complain ((if p = "-" then "read error on stdin: " else "read error on " ++ p ++ ": ") ++
      e.words)
    exit 4

/-! ## Output -/

def emit (s : String) : Session Unit := do
  if (← get).unfinished then
    put "\n"
    modify fun d => { d with unfinished := false }
  put s

def emitLine (s : String) (ended : Bool := true) : Session Unit := do
  emit (if ended then s ++ "\n" else s)
  if !ended then modify fun d => { d with unfinished := true }

def printSpace : Session Unit := do
  let d ← get
  emitLine d.space d.ended

def printPending : Session Unit := do
  let d ← get
  set { d with pending := [] }
  d.pending.reverse.forM fun p => do
    match p with
    | .text s => emit s
    | .file path =>
      match ← (content path : Work _) with
      | .ok s => if s.isEmpty then return else emit s
      | .error _ => return

def writeLine (path s : String) : Session Unit := do
  if path = "/dev/stdout" then emitLine s
  else match (← get).targets.lookup path with
    | some target => discard (writeTo target (s ++ "\n") : Work _)
    | none => return

/-! ## Input -/

def readLine (append : Bool) : Session Bool := do
  let (l?, supply) ← ((← get).supply.next? refusal : Work _)
  modify fun d => { d with supply }
  match l? with
  | none => return false
  | some l => do
    let body := withoutEnd l
    modify fun d =>
      { d with
        space := if append then d.space ++ "\n" ++ body else body
        ended := body.length < l.length, line := d.line + 1 }
    return true

def isLast : Session Bool := do
  let (more, supply) ← ((← get).supply.hasNext refusal : Work _)
  modify fun d => { d with supply }
  return !more

/-! ## Addresses -/

def usedExpression (e : Option Expression) : Session Expression := do
  match e, (← get).lastUsed with
  | some e, _ => do
    modify fun d => { d with lastUsed := some e }
    return e
  | none, some e => return e
  | none, none =>
    (fail "-e expression #1, char 0: no previous regular expression" : Work _)

def fits (a : Address) : Session Bool := do
  let d ← get
  match a with
  | .line n => return d.line = n
  | .last => isLast
  | .step first step =>
    return if step = 0 then d.line = first
      else first ≤ d.line && (d.line - first) % step = 0
  | .fits e => do
    let e ← usedExpression e
    return (Regular.search? [e] d.space.toList.toArray (fun _ _ => true) 0).isSome

def rangeEnd (e : Ending) : Session (Option Nat × Bool) := do
  let line := (← get).line
  match e with
  | .at_ (.line n) => return (some n, n ≤ line)
  | .at_ .last => return (none, ← isLast)
  | .at_ _ => return (none, false)
  | .after n => return (some (line + n), n = 0)
  | .multiple n =>
    if n = 0 then return (some line, true)
    else
      let last := (line + n - 1) / n * n
      return (some last, last = line)

def selected (i : Nat) (c : Command) : Session Bool := do
  match c.first, c.ending with
  | none, _ => return true
  | some a, none => fits a
  | some a, some e => do
    let d ← get
    let close : Session Unit :=
      modify fun d => { d with ranges := d.ranges.filter (·.1 ≠ i) }
    match d.ranges.lookup i with
    | none =>
      if ← fits a then
        let (last, isOver) ← rangeEnd e
        if !isOver then modify fun d => { d with ranges := (i, last) :: d.ranges }
        return true
      else return false
    | some (some last) => do
      if last ≤ d.line then close
      return d.line ≤ last
    | some none =>
      match e with
      | .at_ b => do
        if ← fits b then close
        return true
      | _ => return true

def openRanges (p : Plan) : List (Nat × Option Nat) :=
  p.commands.toList.zipIdx.filterMap fun (c, i) =>
    match c.first, c.ending with
    | some (.line 0), some _ => some (i, none)
    | _, _ => none

/-! ## Substitutions -/

structure Casing where
  all : Option Char := none
  next : Option Char := none

def Casing.apply (c : Casing) (s : String) : String × Casing :=
  let shift := fun (k : Option Char) (x : Char) =>
    match k with
    | some 'U' | some 'u' => x.toUpper
    | some 'L' | some 'l' => x.toLower
    | _ => x
  match s.toList with
  | [] => (s, c)
  | x :: xs =>
    (String.ofList (shift (c.next.or c.all) x :: xs.map (shift c.all)), { c with next := none })

def replacementText (text : Array Char) (start : Nat) (r : Regular.Reached) (c : Casing) :
    List Portion → String
  | [] => ""
  | .text s :: ps =>
    let (s, c) := c.apply s
    s ++ replacementText text start r c ps
  | .group n :: ps =>
    let (i, j) := if n = 0 then (start, r.position) else (r.groups.lookup n).getD (0, 0)
    let (s, c) := c.apply (String.ofList (text.extract i j).toList)
    s ++ replacementText text start r c ps
  | .case_ k :: ps =>
    let c : Casing := match k with
      | 'E' => {}
      | 'u' | 'l' => { c with next := some k }
      | k => { all := some k }
    replacementText text start r c ps

/-- Replaces matches from a place on; `count` is the number of those before it, and `last` the end
of the one just before it. Says whether something was replaced. -/
def replacedFrom (e : Expression) (s : Substitution) (text : Array Char) (count : Nat)
    (last : Option Nat) : Nat → Nat → String × Bool
  | 0, _ => ("", false)
  | n + 1, start =>
    let piece := fun (i j : Nat) => String.ofList (text.extract i j).toList
    match Regular.search? [e] text (fun _ _ => true) start with
    | none => (piece start text.size, false)
    | some (a, r) =>
      let b := r.position
      let onwards := fun (next : Nat) (count : Nat) (last : Option Nat) =>
        if next < text.size then
          let (rest, found) := replacedFrom e s text count last n (next + 1)
          (piece next (next + 1) ++ rest, found)
        else ("", false)
      if a = b && last = some a then
        let (rest, found) := onwards a count none
        (piece start a ++ rest, found)
      else
        let isMeant := s.number ≤ count + 1
        let shown := if isMeant then replacementText text a r {} s.replacement else piece a b
        if isMeant && !s.all then (piece start a ++ shown ++ piece b text.size, true)
        else
          let (rest, found) := if a = b then onwards b (count + 1) none
            else replacedFrom e s text (count + 1) (some b) n b
          (piece start a ++ shown ++ rest, found || isMeant)

def substitute (s : Substitution) : Session Unit := do
  let e ← usedExpression s.pattern
  let d ← get
  let text := d.space.toList.toArray
  let (result, found) := replacedFrom e s text 0 none (text.size + 2) 0
  if found then
    set { d with space := result, replaced := true }
    if s.prints then printSpace
    match s.target with
    | some path => writeLine path result
    | none => return

/-! ## Listing -/

def listedCharacter (c : Char) : String :=
  match c with
  | '\\' => "\\\\"
  | '\x07' => "\\a"
  | '\x08' => "\\b"
  | '\x0c' => "\\f"
  | '\n' => "\\n"
  | '\r' => "\\r"
  | '\t' => "\\t"
  | '\x0b' => "\\v"
  | c =>
    if 32 ≤ c.toNat && c.toNat < 127 then c.toString
    else
      let ds := String.ofList (Nat.toDigits 8 c.toNat)
      "\\" ++ String.ofList (List.replicate (3 - ds.length) '0') ++ ds

def listed (width : Nat) : Nat → List Char → String
  | _, [] => "$\n"
  | column, c :: cs =>
    let s := listedCharacter c
    if 0 < width && width - 1 < column + s.length then "\\\n" ++ s ++ listed width s.length cs
    else s ++ listed width (column + s.length) cs

/-! ## Commands -/

def behindClose (p : Plan) : Nat → Nat → Nat → Nat
  | 0, _, i => i
  | n + 1, depth, i =>
    match p.commands[i]? with
    | none => i
    | some c =>
      match c.action with
      | .open_ => behindClose p n (depth + 1) (i + 1)
      | .close => if depth = 0 then i + 1 else behindClose p n (depth - 1) (i + 1)
      | _ => behindClose p n depth (i + 1)

def labelIndex? (p : Plan) (name : String) : Option Nat :=
  if name.isEmpty then some p.commands.size
  else p.commands.toList.findIdx? fun c =>
    match c.action with
    | .label x => x = name
    | _ => false

def cutLine (s : String) : String × Option String :=
  match Text.cutFirst '\n' s.toList with
  | some (a, b) => (String.ofList a, some (String.ofList b))
  | none => (s, none)

def perform (p : Plan) (i : Nat) (c : Char) : Session Flow := do
  let d ← get
  let change := fun (f : Editor → Editor) => do
    modify f
    return Flow.go (i + 1)
  match c with
  | '=' => do
    emitLine (toString d.line)
    return .go (i + 1)
  | 'd' => return .finish false
  | 'D' =>
    match cutLine d.space with
    | (_, none) => return .finish false
    | (_, some rest) => do
      set { d with space := rest }
      return .again
  | 'F' => do
    emitLine d.supply.name
    return .go (i + 1)
  | 'g' => change fun d => { d with space := d.hold }
  | 'G' => change fun d => { d with space := d.space ++ "\n" ++ d.hold }
  | 'h' => change fun d => { d with hold := d.space }
  | 'H' => change fun d => { d with hold := d.hold ++ "\n" ++ d.space }
  | 'x' => change fun d => { d with space := d.hold, hold := d.space }
  | 'z' => change fun d => { d with space := "" }
  | 'n' => do
    if ← isLast then return .stop true 0
    if !p.quiet then printSpace
    printPending
    discard (readLine false)
    return .go (i + 1)
  | 'N' => do
    if ← isLast then return .stop true 0
    printPending
    discard (readLine true)
    return .go (i + 1)
  | 'p' => do
    printSpace
    return .go (i + 1)
  | 'P' => do
    emitLine (cutLine d.space).1
    return .go (i + 1)
  | _ => return .go (i + 1)

def carryOut (p : Plan) (i : Nat) (c : Command) : Session Flow := do
  let next := Flow.go (i + 1)
  let d ← get
  match c.action with
  | .open_ | .close | .label _ => return next
  | .jump kind name => do
    let jumps := kind = 'b' || d.replaced = (kind = 't')
    if kind ≠ 'b' then set { d with replaced := false }
    return if jumps then .go ((labelIndex? p name).getD p.commands.size) else next
  | .text 'a' s => do
    set { d with pending := .text s :: d.pending }
    return next
  | .text 'i' s => do
    emit s
    return next
  | .text _ s => do
    if c.negated || (d.ranges.lookup i).isNone then emit s
    return .finish false
  | .letter k => perform p i k
  | .list width => do
    emit (listed (width.getD 70) 0 d.space.toList)
    return next
  | .quit silent status => return .stop (!silent) status
  | .file 'r' path => do
    set { d with pending := .file path :: d.pending }
    return next
  | .file _ path => do
    writeLine path d.space
    return next
  | .substitute s => do
    substitute s
    return next
  | .translate table => do
    set { d with space := String.ofList (d.space.toList.map fun c => (table.lookup c).getD c) }
    return next

def carryOutFrom (p : Plan) : Nat → Nat → Session Flow
  | 0, _ => return .finish true
  | n + 1, i => do
    match p.commands[i]? with
    | none => return .finish true
    | some c => do
      let isMeant := (← selected i c) ≠ c.negated
      let flow ← (do
        if isMeant then carryOut p i c
        else match c.action with
          | .open_ => return .go (behindClose p p.commands.size 0 (i + 1))
          | _ => return .go (i + 1))
      match flow with
      | .go i => carryOutFrom p n i
      | flow => return flow

def greatestWork : Nat := 100000000

def cycles (p : Plan) : Nat → (fresh : Bool) → Session (Option Nat)
  | 0, _ => return none
  | n + 1, fresh => do
    let more ← (do if fresh then readLine false else return true)
    if !more then return none
    if fresh then modify fun d => { d with replaced := false }
    match ← carryOutFrom p greatestWork 0 with
    | .go _ | .finish true => do
      if !p.quiet then printSpace
      printPending
      cycles p n true
    | .finish false => do
      printPending
      cycles p n true
    | .again => do
      printPending
      cycles p n false
    | .stop prints status => do
      if prints && !p.quiet then printSpace
      if prints then printPending
      return some status

def run (p : Plan) : Session (Option Nat) := cycles p greatestWork true

/-! ## The utility -/

def usage : String :=
  "Usage: sed [OPTION]... \x7bscript-only-if-no-other-script\x7d [input-file]...\n\n" ++
  "  -n, --quiet, --silent\n                 suppress automatic printing of pattern space\n" ++
  "      --debug\n                 annotate program execution\n" ++
  "  -e script, --expression=script\n" ++
  "                 add the script to the commands to be executed\n" ++
  "  -f script-file, --file=script-file\n" ++
  "                 add the contents of script-file to the commands to be executed\n" ++
  "  --follow-symlinks\n                 follow symlinks when processing in place\n" ++
  "  -i[SUFFIX], --in-place[=SUFFIX]\n" ++
  "                 edit files in place (makes backup if SUFFIX supplied)\n" ++
  "  -l N, --line-length=N\n" ++
  "                 specify the desired line-wrap length for the \x60l' command\n" ++
  "  --posix\n                 disable all GNU extensions.\n" ++
  "  -E, -r, --regexp-extended\n" ++
  "                 use extended regular expressions in the script\n" ++
  "                 (for portability use POSIX -E).\n" ++
  "  -s, --separate\n                 consider files as separate rather than as a single,\n" ++
  "                 continuous long stream.\n" ++
  "      --sandbox\n                 operate in sandbox mode (disable e/r/w commands).\n" ++
  "  -u, --unbuffered\n" ++
  "                 load minimal amounts of data from the input files and flush\n" ++
  "                 the output buffers more often\n" ++
  "  -z, --null-data\n                 separate lines by NUL characters\n" ++
  "      --help     display this help and exit\n" ++
  "      --version  output version information and exit\n\n" ++
  "If no -e, --expression, -f, or --file option is given, then the first\n" ++
  "non-option argument is taken as the sed script to interpret.  All\n" ++
  "remaining arguments are names of input files; if no input files are\n" ++
  "specified, then the standard input is read.\n\n"

def switches : List Switch :=
  [⟨'n', "quiet", .nothing⟩, ⟨'n', "silent", .nothing⟩, ⟨'e', "expression", .argument⟩,
    ⟨'f', "file", .argument⟩, ⟨'E', "regexp-extended", .nothing⟩, ⟨'r', "", .nothing⟩,
    ⟨'i', "in-place", .joined⟩, ⟨'l', "line-length", .argument⟩, ⟨'s', "separate", .nothing⟩,
    ⟨'u', "unbuffered", .nothing⟩, ⟨'P', "posix", .nothing⟩]

structure Chunk where
  text : String
  place : Nat → String

def linePlace (path text : String) (n : Nat) : String :=
  "file " ++ path ++ " line " ++ toString (1 + (text.toList.take (n - 1)).count '\n')

def chunksOf (g : Given) : Work (List Chunk) := do
  let parts ← (g.options.filter fun o => o.1 = 'e' || o.1 = 'f').mapM fun (k, v) => do
    if k = 'e' then return (k, v, v)
    else match ← content v with
      | .ok text => return (k, v, text)
      | .error e => fail ("couldn't open file " ++ v ++ ": " ++ e.words) 4
  return (parts.zipIdx 1).map fun ((k, v, text), i) =>
    ⟨text, fun n =>
      if k = 'f' then linePlace v text n
      else "-e expression #" ++ toString i ++ ", char " ++ toString n⟩

def commandsOf (extended : Bool) (depth : Nat) (last : Chunk) :
    List Chunk → Work (List Command)
  | [] => do
    if depth ≠ 0 then fail (last.place 0 ++ ": unmatched \x60\x7b'")
    return []
  | c :: cs => do
    match read extended depth c.text with
    | .error (n, message) => fail (c.place n ++ ": " ++ message)
    | .ok (commands, depth) => return commands ++ (← commandsOf extended depth c cs)

def targetsIn (cs : List Command) : List String :=
  (cs.filterMap fun c =>
    match c.action with
    | .file 'w' path => some path
    | .substitute s => s.target
    | _ => none).eraseDups

def editInPlace (p : Plan) (suffix : String) (d : Editor) (path : String) :
    Work (Editor × Option Nat) := do
  match ← find path with
  | .error e => do
    refusal.cannotOpen path e
    return (d, none)
  | .ok (_, .file old _) => do
    let before := (← get).output
    modify fun r => { r with output := "" }
    let (status, d) ← (run p).run
      { d with supply := Supply.ofFiles [path], line := 0, ranges := openRanges p
               unfinished := false }
    let rest := String.join (d.supply.begun :: d.supply.ready)
    let result := (← get).output ++ (if status.isSome then rest else "")
    modify fun r => { r with output := before }
    if !suffix.isEmpty then
      let copy := if suffix.contains '*' then suffix.replace "*" path else path ++ suffix
      match ← openPath .create copy with
      | .ok k => do
        discard (writeTo k (Text.Raw.ofBytes old))
        close k
      | .error _ => pure ()
    match ← openPath .create path with
    | .ok k => do
      discard (writeTo k result)
      close k
    | .error _ => pure ()
    return (d, status)
  | .ok _ => do
    complain ("couldn't edit " ++ path ++ ": not a regular file")
    setStatus 4
    return (d, none)

def editEach (edit : Editor → String → Work (Editor × Option Nat)) (d : Editor) :
    List String → Work (Option Nat)
  | [] => return none
  | p :: ps => do
    match ← edit d p with
    | (_, some status) => return some status
    | (d, none) => editEach edit d ps

def editor : Work Unit := do
  let g ← (do
    match Switch.read switches true (← arguments) with
    | .ok g => return g
    | .error message => do
      complain message
      warn usage
      exit 1)
  let chunks ← chunksOf g
  let (chunks, files) ← (do
    match chunks, g.operands with
    | [], [] => do
      warn usage
      exit 1
    | [], script :: files =>
      let place := fun (n : Nat) => "-e expression #1, char " ++ toString n
      return ([(⟨script, place⟩ : Chunk)], files)
    | chunks, files => return (chunks, files))
  let extended := g.has 'E' || g.has 'r'
  let commands ← commandsOf extended 0 ⟨"", fun _ => ""⟩ chunks
  let p : Plan :=
    { commands := commands.toArray, quiet := g.has 'n' || chunks.head?.any (isQuiet ·.text) }
  commands.forM fun c =>
    match c.action with
    | .jump _ name =>
      if (labelIndex? p name).isNone then
        fail ("can't find label for jump to \x60" ++ name ++ "'") 4
      else return
    | _ => return
  let targets ← (targetsIn commands).mapM fun path => do
    if path = "/dev/stdout" then return []
    else match ← openPath .create path with
      | .ok d => return [(path, d)]
      | .error e => fail ("couldn't open file " ++ path ++ ": " ++ e.words) 4
  let d : Editor :=
    { supply := Supply.ofFiles files, ranges := openRanges p, targets := targets.flatten }
  let status ← (do
    if g.has 'i' then
      if files.isEmpty then fail "no input files" 4
      editEach (editInPlace p ((g.value? 'i').getD "")) d files
    else if g.has 's' then
      editEach (fun d path => do
        let (status, d) ← (run p).run
          { d with supply := Supply.ofFiles [path], line := 0, ranges := openRanges p }
        return (d, status)) d (if files.isEmpty then ["-"] else files)
    else
      let (status, _) ← (run p).run d
      return status)
  match status with
  | some n => if n ≠ 0 then setStatus n
  | none => return

end TreeTool.Program.Editing
