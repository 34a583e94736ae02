import TreeTool.Shell.Builtin.Options

/-!
# Built-in commands that change the course of a script
-/

namespace TreeTool.Shell.Builtin

open Files (Entry Problem)

/-! ## Leaving -/

def exit (as : List String) : Step Nat := do
  match as with
  | [] => Step.escape .exit
  | a :: _ => do
    let n ← numberOf a
    modify fun s => { s with exiting := some n }
    Step.escape .exit

def «return» (as : List String) : Step Nat := do
  match as with
  | [] => do
    modify fun s => { s with skip := some (.returns false) }
    return (← get).status
  | a :: _ => do
    let n ← numberOf a
    modify fun s => { s with skip := some (.returns true) }
    return n

def leaveLoops (way : Nat → Skip) (as : List String) : Step Nat := do
  let n ← match as with
    | [] => pure 1
    | a :: _ => do
      let n ← numberOf a
      if n = 0 then fail ("Illegal number: " ++ a) else pure n
  let n := min n (← get).loops
  if 0 < n then modify fun s => { s with skip := some (way n) }
  return 0

/-! ## Directories -/

def plainNames (names above : List String) : List String :=
  names.foldl (fun above n =>
    if n = "." then above else if n = ".." then above.tail else n :: above) above

def directoryPath (s : State) (path : String) : String :=
  let p := Files.Path.ofString path
  let above := if p.absolute then [] else (Files.Path.ofString s.directory).names.reverse
  "/" ++ "/".intercalate (plainNames p.names above).reverse

def enter (physical : Bool) (path : String) : Step Bool := do
  let s ← get
  let path := if physical then path else directoryPath s path
  let there ← act fun w me =>
    match w.files.find (w.here me) (Text.Raw.toText path) with
    | .ok (place, .directory) => (w.modify me fun p => { p with here := place }, some place)
    | _ => (w, none)
  match there with
  | none => return false
  | some place =>
    let directory := if physical then Text.Raw.ofText ("/" ++ "/".intercalate place) else path
    assign "OLDPWD" s.directory true
    modify fun s => { s with directory }
    assign "PWD" directory true
    return true

def isDirectory (path : String) : Step Bool :=
  look fun w me =>
    match w.files.find (w.here me) (Text.Raw.toText path) with
    | .ok (_, .directory) => true
    | _ => false

def firstDirectory (name : String) : List String → Step (Option (String × Bool))
  | [] => return none
  | d :: ds => do
    let path := Program.below d name
    if ← isDirectory path then return some (path, !d.isEmpty) else firstDirectory name ds

def isAnchored (path : String) : Bool :=
  path.toList.head? = some '/' ||
    (((Text.pieces '/' path.toList).head?.map String.ofList).any fun n => n = "." || n = "..")

def asksForPlace (os : List (Char × String)) : Bool := (os.getLast?.map (·.1)) = some 'P'

def cd (as : List String) : Step Nat := do
  let (os, as) ← options "LP" as
  let s ← get
  let (target, shown) := match as with
    | [] => ((s.get? "HOME").getD "", false)
    | "-" :: _ => ((s.get? "OLDPWD").getD "", true)
    | a :: _ => (a, false)
  let found ← (do
    if isAnchored target then return none
    else
      match s.get? "CDPATH" with
      | none => return none
      | some path =>
        firstDirectory (if target.isEmpty then "." else target) (Program.directories path))
  let (path, shown) := match found with
    | some (path, here) => (path, shown || here)
    | none => (if target.isEmpty then "." else target, shown)
  if ← enter (asksForPlace os) path then
    if shown then put ((← get).directory ++ "\n")
    return 0
  else fail ("can't cd to " ++ target)

def pwd (as : List String) : Step Nat := do
  let (os, _) ← options "LP" as
  if asksForPlace os then
    let place ← look fun w me => w.here me
    put (Text.Raw.ofText ("/" ++ "/".intercalate place) ++ "\n")
  else put ((← get).directory ++ "\n")
  return 0

/-! ## Scripts -/

def textStatus (ran : Bool) : Step Nat := do
  if ran then return (← get).status else return 0

def eval (e : Evaluator) (m : Manner) (as : List String) : Step Nat := do
  let text := " ".intercalate as
  textStatus (← e.text { tested := m.tested } ((← get).source text))

def scriptPath (name : String) : Step String := do
  if name.contains '/' then return name
  else
    let directories := Program.directories (← get).path
    let found ← look fun w me =>
      (directories.map fun d => Program.below d name).find? fun p =>
        match w.files.find (w.here me) (Text.Raw.toText p) with
        | .ok (_, .file ..) => true
        | _ => false
    match found with
    | some p => return p
    | none => fail (name ++ ": not found")

def scriptText (path : String) : Step (Except Problem String) := do
  match ← Redirect.opened .read path with
  | .error p => return .error p
  | .ok i => do
    let d ← act fun w me => w.attachNumber me i
    let text ← Kernel.Activity.readAll (← get).me d
    closeDescriptor d
    match text with
    | .ok t => return .ok t
    | .error _ => return .ok ""

def source (e : Evaluator) (as : List String) : Step Nat := do
  let (_, as) ← options "" as
  match as with
  | [] => return 0
  | a :: _ => do
    let path ← scriptPath a
    match ← scriptText path with
    | .error p => Redirect.cannotOpen path p
    | .ok text => do
      modify fun s => { s with command := some path }
      let ran ← e.text { shown := true } ((← get).source text)
      modify fun s =>
        { s with skip := match s.skip with
            | some (.returns _) => none
            | x => x }
      textStatus ran

def exec (e : Evaluator) (as : List String) : Step Nat := do
  match as with
  | [] => return 0
  | name :: as => do
    becomeProgram e (← get).path name as
    return 0

/-! ## Names -/

def describeAll (status : Nat) : List String → Step Nat
  | [] => return status
  | a :: as => do
    let n ← describe true (← get).path a
    describeAll (status ||| n) as

def command (as : List String) : Step Nat := do
  let (os, as) ← options "pvV" as
  let s ← get
  match as with
  | [] => return 0
  | a :: _ =>
    describe (os.any (·.1 = 'V')) (if os.any (·.1 = 'p') then standardPath else s.path) a

def shelved {α : Type} (xs : List (String × α)) : List (String × α) :=
  (List.range State.shelves).flatMap fun n => xs.filter fun (x, _) => State.shelf x = n

def showAlias (name value : String) : Step Unit := put (name ++ "=" ++ singleQuoted value ++ "\n")

def aliasFrom (status : Nat) : List String → Step Nat
  | [] => return status
  | a :: as => do
    let name := a.toList.take 1 ++ (a.toList.drop 1).takeWhile (· ≠ '=')
    let s ← get
    match a.toList.drop name.length with
    | _ :: value => do
      let name := String.ofList name
      let entry := (name, String.ofList value)
      if (s.aliases.lookup name).isSome then
        set { s with aliases := s.aliases.map fun (x, v) => if x = name then entry else (x, v) }
      else set { s with aliases := s.aliases ++ [entry] }
      aliasFrom status as
    | [] =>
      match s.aliases.lookup a with
      | some v => do
        showAlias a v
        aliasFrom status as
      | none => do
        discard <| writeTo 2 ("alias: " ++ a ++ " not found\n")
        aliasFrom 1 as

def makeAlias (as : List String) : Step Nat := do
  if as.isEmpty then
    (shelved (← get).aliases).forM fun (x, v) => showAlias x v
    return 0
  else aliasFrom 0 as

def unaliasFrom (status : Nat) : List String → Step Nat
  | [] => return status
  | a :: as => do
    let s ← get
    if (s.aliases.lookup a).isSome then
      set { s with aliases := s.aliases.filter (·.1 ≠ a) }
      unaliasFrom status as
    else
      discard <| writeTo 2 ("unalias: " ++ a ++ " not found\n")
      unaliasFrom 1 as

def unalias (as : List String) : Step Nat := do
  let (os, as) ← options "a" as
  if !os.isEmpty then
    modify fun s => { s with aliases := [] }
    return 0
  else unaliasFrom 0 as

def hashFrom (status : Nat) : List String → Step Nat
  | [] => return status
  | a :: as => do
    match ← found a (← get).path with
    | .nothing p => do
      warn (a ++ ": " ++ startReason p)
      hashFrom 1 as
    | _ => hashFrom status as

def hash (as : List String) : Step Nat := do
  let (os, as) ← options "r" as
  if !os.isEmpty then
    modify fun s => { s with known := [] }
    return 0
  else if !as.isEmpty then hashFrom 0 as
  else
    let s ← get
    (shelved (s.known.map fun x => (x, ()))).forM fun (x, _) => do
      match ← look fun w me => locate w.files (w.here me) x .missing (Program.directories s.path) with
      | .ok p => put (p ++ "\n")
      | .error _ => return
    return 0

end TreeTool.Shell.Builtin
