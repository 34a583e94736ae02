import TreeTool.Shell.SimpleCommand

/-!
# Carrying out commands

The rules for all commands that contain others. After a command whose failure is not forgiven a
strict shell ends; after a command that is the last thing to be done the shell ends as well.
-/

namespace TreeTool.Shell.Evaluation

/-! ## Loops -/

def skipInLoop : Step Bool := do
  let s ← get
  match s.skip with
  | none => return false
  | some (.breaks n) => do
    set { s with skip := if n ≤ 1 then none else some (.breaks (n - 1)) }
    return true
  | some (.continues n) =>
    if n ≤ 1 then
      set { s with skip := none }
      return false
    else
      set { s with skip := some (.continues (n - 1)) }
      return true
  | some (.returns _) => return true

def greatestRounds : Nat := 1000000000000

def loopFrom (e : Evaluator) (m : Manner) (negated : Bool) (test body : Command) :
    Nat → (status : Nat) → Step Unit
  | 0, status => setStatus status
  | n + 1, status => do
    spend commandCost
    e.run { tested := true } (some test)
    let tested := (← get).status
    let skipped := (← get).skip
    if ← skipInLoop then
      setStatus (if skipped matches some (.returns _) then tested else status)
    else if skipped.isSome then loopFrom e m negated test body n status
    else if (tested = 0) = negated then setStatus status
    else
      e.run { tested := m.tested } (some body)
      let status := (← get).status
      if ← skipInLoop then setStatus status
      else loopFrom e m negated test body n status

def inLoop (x : Step Unit) : Step Unit := do
  modify fun s => { s with loops := s.loops + 1 }
  x
  modify fun s => { s with loops := s.loops - 1 }

def eachOf (e : Evaluator) (m : Manner) (name : String) (body : Command) :
    (status : Nat) → List String → Step Unit
  | status, [] => setStatus status
  | _, x :: xs => do
    spend commandCost
    assign name x
    e.run { tested := m.tested } (some body)
    let status := (← get).status
    if ← skipInLoop then setStatus status else eachOf e m name body status xs

/-! ## Choices -/

def anyFits (e : Evaluator) (text : String) : List Word → Step Bool
  | [] => return false
  | w :: ws => do
    let pattern ← Expansion.patternOf e w
    if Pattern.fits (Pattern.atoms pattern) text.toList then return true else anyFits e text ws

def choose (e : Evaluator) (m : Manner) (text : String) :
    List (List Word × Option Command) → Step Unit
  | [] => setStatus 0
  | (patterns, body) :: branches => do
    if ← anyFits e text patterns then
      match body with
      | none => setStatus 0
      | some c => e.run m (some c)
    else choose e m text branches

/-! ## Children -/

def closeInput : Step Unit := do
  match ← Redirect.opened .read "/dev/null" with
  | .ok i => Redirect.connect 0 (some i)
  | .error _ => return

def addJob (ids : List Nat) : Step Unit := do
  match ids.getLast? with
  | none => return
  | some process =>
    modify fun s =>
      let number := Kernel.World.free (s.jobs.map (·.number)) 1
      { s with jobs := s.jobs ++ [⟨number, process, ids.dropLast, none, false⟩],
               lastBackground := some process }

def startAll (e : Evaluator) (m : Manner) (background : Bool) :
    (source : Option Nat) → List Command → Step (List Nat)
  | _, [] => return []
  | source, c :: cs => do
    let pipe ← (do if cs.isEmpty then return none else return some (← openPipe))
    let id ← forked e background do
      if background && source.isNone then closeInput
      match pipe with
      | some (next, _) => closeDescriptor next
      | none => pure ()
      match source with
      | some d => moveDescriptor d 0
      | none => pure ()
      match pipe with
      | some (_, sink) => moveDescriptor sink 1
      | none => pure ()
      e.run { tested := m.tested, last := true } (some c)
    match source with
    | some d => closeDescriptor d
    | none => pure ()
    match pipe with
    | some (_, sink) => closeDescriptor sink
    | none => pure ()
    return id :: (← startAll e m background (pipe.map (·.1)) cs)

def lookAhead : Command → Step Unit
  | .simple _ _ (w :: _) _ => do
    match Part.plain? w with
    | some name => if isName name then discard <| found name (← get).path
    | none => return
  | _ => return

def pipeline (e : Evaluator) (m : Manner) (background : Bool) (cs : List Command) :
    Step Unit := do
  cs.forM lookAhead
  let ids ← startAll e m background none cs
  if background then
    addJob ids
    setStatus 0
  else awaitAll ids

def subshell (e : Evaluator) (m : Manner) (body : Command) (redirections : List Redirection) :
    Step Unit := do
  let rs ← Redirect.allExpanded e redirections
  let inside := do
    Redirect.apply e false rs
    e.run { m with last := true } (some body)
  if m.last && !hasTraps (← get) then
    modify fun s => { s with redirected := [], loops := 0 }
    clearTraps
    inside
  else
    let id ← forked e false inside
    awaitAll [id]

def inBackground (e : Evaluator) (body : Command) (redirections : List Redirection) :
    Step Unit := do
  let rs ← Redirect.allExpanded e redirections
  let id ← forked e true do
    closeInput
    Redirect.apply e false rs
    e.run { last := true } (some body)
  addJob [id]
  setStatus 0

/-! ## Commands -/

def redirected (e : Evaluator) (m : Manner) (body : Command) (redirections : List Redirection) :
    Step Unit := do
  let rs ← Redirect.allExpanded e redirections
  Redirect.push
  if ← Redirect.applySafely e rs then e.run { tested := m.tested } (some body) else setStatus 2
  Redirect.pop

def define (name : String) (body : Command) : Step Unit :=
  modify fun s =>
    { s with functions := (name, body) :: s.functions.filter (·.1 ≠ name), status := 0 }

def andThen (e : Evaluator) (m : Manner) (wanted : Nat → Bool) (c : Command) : Step Unit := do
  let s ← get
  if s.skip.isNone && wanted s.status then e.run m (some c)

def atLine (line : Nat) : Step Unit := modify fun s => { s with line }

def node (e : Evaluator) (m : Manner) : Command → Step Unit
  | .simple line assignments words rs => SimpleCommand.run e m line assignments words rs
  | .pipeline background cs => pipeline e m background cs
  | .negated c => do
    e.run { tested := true } (some c)
    modify fun s =>
      if s.skip.isSome then s else { s with status := if s.status = 0 then 1 else 0 }
  | .both a b => do
    e.run { tested := true } (some a)
    andThen e m (· = 0) b
  | .either a b => do
    e.run { tested := true } (some a)
    andThen e m (· ≠ 0) b
  | .sequence a b => do
    e.run { tested := m.tested } (some a)
    andThen e m (fun _ => true) b
  | .conditional test body other => do
    e.run { tested := true } (some test)
    let s ← get
    if s.skip.isSome then return
    else if s.status = 0 then e.run m (some body)
    else match other with
      | some c => e.run m (some c)
      | none => setStatus 0
  | .loop negated test body => inLoop (loopFrom e m negated test body greatestRounds 0)
  | .each line name words body => do
    atLine line
    let items ← match words with
      | some ws => Expansion.allFields e ws
      | none => do pure (← get).arguments.list
    inLoop (eachOf e m name body 0 items)
  | .choice line word branches => do
    atLine line
    choose e m (← Expansion.textOf e word) branches
  | .subshell line body rs => do
    atLine line
    subshell e m body rs
  | .background line body rs => do
    atLine line
    inBackground e body rs
  | .define _ name body => define name body
  | .redirected line body rs => do
    atLine line
    redirected e m body rs

def isChecked : Command → Bool
  | .simple .. | .pipeline .. | .subshell .. | .background .. => true
  | _ => false

def run (e : Evaluator) (m : Manner) (c? : Option Command) : Step Unit := do
  let checked ← (do
    match c? with
    | none => return false
    | some c => do
      if (← get).has 'n' then return false
      runTraps e
      node e m c
      return isChecked c)
  runTraps e
  let s ← get
  if checked && s.has 'e' && !m.tested && s.status ≠ 0 then Step.escape .finished
  else if m.last then Step.escape .finished

/-! ## Texts -/

def readBetween (before after : Source) : String :=
  String.ofList (before.rest.take (before.rest.length - after.rest.length))

def textFrom (e : Evaluator) (m : Manner) (ran : Bool) : Nat → Source → Step Bool
  | 0, _ => return ran
  | n + 1, source => do
    let source := { source with aliases := (← get).aliases, documents := [] }
    match source.nextLine with
    | .error misprint => do
      modify fun s => { s with line := misprint.line, reading := misprint.line }
      fail misprint.message
    | .ok .finished => return ran
    | .ok (.command c rest) => do
      if m.shown && (← get).has 'v' then discard <| writeTo 2 (readBetween source rest)
      modify fun s =>
        { s with documents := rest.documents ++ s.documents, serial := rest.serial,
                 reading := rest.line }
      e.run { m with last := m.last && rest.atEnd } c
      let ran := ran || c.isSome
      if (← get).skip.isSome then return ran else textFrom e m ran n rest

def text (e : Evaluator) (m : Manner) (source : Source) : Step Bool :=
  textFrom e m false (source.rest.length + 2) source

end TreeTool.Shell.Evaluation
