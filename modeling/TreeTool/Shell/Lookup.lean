import TreeTool.Shell.Processes

/-!
# What a name stands for

The first word of a command is the name of a function, of a built-in command or of a program that
is looked for along the search path.
-/

namespace TreeTool.Shell

open Files (Entry Place Problem Tree)

/-! ## Quoted texts -/

def quotedParts : Nat → List Char → String
  | 0, _ => ""
  | n + 1, cs =>
    let isQuote := fun (c : Char) => c = '\''
    let text := "'" ++ String.ofList (cs.takeWhile fun c => !isQuote c) ++ "'"
    let rest := cs.dropWhile fun c => !isQuote c
    let quotes := rest.takeWhile isQuote
    let rest := rest.dropWhile isQuote
    if quotes.isEmpty then text
    else
      let text := text ++ "\"" ++ String.ofList quotes ++ "\""
      if rest.isEmpty then text else text ++ quotedParts n rest

def singleQuoted (s : String) : String := quotedParts (s.length + 1) s.toList

/-! ## Built-in commands -/

def assigningCommands : List String := ["export", "readonly", "local"]

def regularCommands : List String :=
  ["alias", "bg", "cd", "chdir", "command", "echo", "false", "fg", "getopts", "hash", "jobs",
    "kill", "printf", "pwd", "read", "test", "[", "true", "type", "ulimit", "umask", "unalias",
    "wait"]

def isSpecialCommand (name : String) : Bool := name ∈ specialCommands

def isBuiltIn (name : String) : Bool := isSpecialCommand name || name ∈ regularCommands

/-! ## Programs -/

def standardPath : String := "/usr/local/sbin:/usr/local/bin:/usr/sbin:/usr/bin:/sbin:/bin"

def mayStart : Entry → Bool
  | .file _ x => x
  | .utility _ => true
  | _ => false

def locate (t : Tree) (here : Place) (name : String) (e : Problem) :
    List String → Except Problem String
  | [] => .error e
  | d :: ds =>
    let path := Program.below d name
    match t.find here (Text.Raw.toText path) with
    | .error .missing | .error .notDirectory => locate t here name e ds
    | .error p => locate t here name p ds
    | .ok (_, entry) => if mayStart entry then .ok path else locate t here name .denied ds

inductive Found
  | builtIn
  | function (body : Command)
  | program (path : String)
  | nothing (p : Problem)

def found (name : String) (path : String) (functions : Bool := true) : Step Found := do
  let s ← get
  if name.contains '/' then return .program name
  else match if functions then s.functions.lookup name else none with
    | some body => return .function body
    | none =>
      if isBuiltIn name then return .builtIn
      else
        match ← look fun w me =>
          locate w.files (w.here me) name .missing (Program.directories path) with
        | .ok p => do
          if name ∉ s.known then modify fun s => { s with known := s.known ++ [name] }
          return .program p
        | .error p => return .nothing p

def startReason (p : Problem) : String := Redirect.reason "not found" p

/-! ## Descriptions -/

def describe (verbose : Bool) (path : String) (name : String) : Step Nat := do
  let s ← get
  let say := fun (short long : String) => do
    put ((if verbose then name ++ long else short) ++ "\n")
    return 0
  if name ∈ reservedWords then say name " is a shell keyword"
  else match s.aliases.lookup name with
    | some v => say ("alias " ++ name ++ "=" ++ singleQuoted v) (" is an alias for " ++ v)
    | none =>
      let known := name ∈ s.known
      match ← found name path with
      | .builtIn =>
        say name (if isSpecialCommand name then " is a special shell builtin"
          else " is a shell builtin")
      | .function _ => say name " is a shell function"
      | .program p => do
        modify fun t => { t with known := s.known }
        let there ← look fun w me =>
          match w.files.find (w.here me) (Text.Raw.toText p) with
          | .ok (_, entry) => mayStart entry
          | .error _ => false
        if there then say p ((if known then " is a tracked alias for " else " is ") ++ p)
        else missing
      | .nothing _ => missing
where
  missing : Step Nat := do
    if verbose then put (name ++ ": not found\n")
    return 127

/-! ## Starting programs -/

def loadCost : Nat := 100000

def becomeImage (e : Evaluator) (image : Program.Image) : Step Unit := do
  let environment := (← get).environment
  change fun w me => w.renew me
  spend loadCost
  fun s _ => e.start image environment s.me

def textHead : Nat := 128

def isText (content : Text.Bytes) : Bool :=
  ((content.take textHead).takeWhile (· ≠ 10)).all fun b =>
    (9 ≤ b && b ≤ 15) || b = 27 || (32 ≤ b && b ≠ 127)

def imageOf (t : Tree) (here : Place) (path name : String) (as : List String) :
    Except Problem Program.Image :=
  match Program.imageAt t here path name as with
  | .error .badFormat =>
    match t.readBytes here (Text.Raw.toText path) with
    | .ok content => if isText content then .ok ⟨"sh", "/bin/sh", path :: as⟩ else .error .badFormat
    | .error p => .error p
  | r => r

def firstImage (t : Tree) (here : Place) (name : String) (as : List String) (e : Problem) :
    List String → Except Problem Program.Image
  | [] => .error e
  | p :: ps =>
    match imageOf t here p name as with
    | .ok image => .ok image
    | .error .missing | .error .notDirectory => firstImage t here name as e ps
    | .error p => firstImage t here name as p ps

def becomeProgram (e : Evaluator) (path name : String) (as : List String) : Step Unit := do
  let paths := if name.contains '/' then [name]
    else (Program.directories path).map fun d => Program.below d name
  match ← look fun w me => firstImage w.files (w.here me) name as .missing paths with
  | .ok image => becomeImage e image
  | .error p => do
    setStatus (if p = .missing || p = .notDirectory || p = .loop || p = .nameTooLong then 127
      else 126)
    warn (name ++ ": " ++ startReason p)
    discard flush
    Step.escape .finished

end TreeTool.Shell
