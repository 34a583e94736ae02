import TreeTool.Shell.Redirection

/-!
# Processes of a shell

A shell starts children, waits for them and takes note of signals. A trap is a script that is
carried out for a signal, or at the end of the shell. A child begins with the state of its parent
except for traps, redirections that would come back, and jobs.
-/

namespace TreeTool.Shell

open Kernel (Activity)

/-! ## Traps -/

def takeNoted : Step (Option Nat) :=
  act fun w me =>
    let ns := ((w.process? me).map (·.noted)).getD []
    match (List.range Kernel.Signal.count).find? (· ∈ ns) with
    | none => (w, none)
    | some n => (w.modify me fun p => { p with noted := p.noted.filter (· ≠ n) }, some n)

def hasTraps (s : State) : Bool := s.traps.any fun (_, script) => !script.isEmpty

def State.source (s : State) (text : String) : Source :=
  { Source.ofText text with serial := s.serial, aliases := s.aliases }

def runTrapsFrom (e : Evaluator) (status : Nat) : Nat → Step Unit
  | 0 => return
  | n + 1 => do
    if (← get).skip.isSome then return
    match ← takeNoted with
    | none => return
    | some signal =>
      match (← get).traps.lookup signal with
      | none => return
      | some script =>
        discard <| e.text {} ((← get).source script)
        match (← get).skip with
        | some (.returns true) => return
        | _ => setStatus status
      runTrapsFrom e status n

def runTraps (e : Evaluator) : Step Unit := do
  let s ← get
  if hasTraps s && s.skip.isNone then
    let status := s.exiting.getD s.status
    set { s with exiting := some status }
    runTrapsFrom e status Kernel.Signal.count
    modify fun t => { t with exiting := s.exiting }

def clearTraps : Step Unit := do
  (← get).traps.forM fun (n, script) => if script.isEmpty then return else react n none
  modify fun s => { s with traps := s.traps.filter (·.2.isEmpty) }

/-! ## The end of a shell -/

def settle (how : Escape) : Step Unit := do
  modify fun s =>
    { s with
      status := if how = .exit then s.exiting.getD s.status else s.status, exiting := none,
      skip := none, loops := 0, tracing := false }
  Redirect.popAll

def runLastTrap (e : Evaluator) : Step Unit := do
  let s ← get
  match s.traps.lookup 0 with
  | none => return
  | some script =>
    set { s with traps := s.traps.filter (·.1 ≠ 0), exiting := some s.status, skip := none }
    match ← Step.attempt (e.text {} (s.source script)) with
    | .ok _ => settle .exit
    | .error how => settle how

def toItsEnd (e : Evaluator) (body : Step Unit) : Step Unit := do
  match ← Step.attempt body with
  | .ok _ => pure ()
  | .error how => settle how
  runLastTrap e
  discard flush

/-! ## Children -/

def forgetJob : Step Unit :=
  modify fun s =>
    match s.jobs.find? fun j => j.ending.isSome && j.waited with
    | some j => { s with jobs := s.jobs.filter (·.number ≠ j.number) }
    | none => s

def startChild (course : State → Kernel.Course) : Step Nat := fun s k =>
  Activity.fork startCost (fun id => course { s with me := id }) fun id => k (.ok id) s

def forked (e : Evaluator) (background : Bool) (body : Step Unit) : Step Nat := do
  forgetJob
  startChild fun s =>
    let child : Step Unit := do
      modify fun s => { s with redirected := [], skip := none, loops := 0, jobs := [], output := "" }
      clearTraps
      if background then
        change fun w me => (w.setReaction me 2 .ignored).setReaction me 3 .ignored
      body
    toItsEnd e child s fun _ s => .ended s.status

def spawned (becomes : Step Unit) : Step Nat := do
  forgetJob
  startChild fun s =>
    let child : Step Unit := do
      clearTraps
      becomes
    child s fun _ s => .ended s.status

def awaitEnd (id : Nat) : Step Ending := do
  Activity.await fun w => w.hasEnded id
  act fun w _ => (w.remove id, ((w.process? id).bind (·.ending)).getD (.exited 127))

def statusOf : Ending → Nat
  | .exited n => n
  | .killed n => 128 + n

def reportKilled : Ending → Step Unit
  | .killed n => do
    if n ≠ 2 && n ≠ 13 then
      discard <| writeTo 2 (String.ofList ((Kernel.Signal.description n).toList.take 32) ++ "\n")
  | .exited _ => return

def refreshJobs : Step Unit := do
  let jobs ← (← get).jobs.mapM fun j => do
    if j.ending.isSome then return j
    else
      let ending ← look fun w _ =>
        if j.others.all w.hasEnded then (w.process? j.process).bind (·.ending) else none
      return { j with ending }
  modify fun s => { s with jobs }

/-- Waits for processes in the foreground, in the order in which they end. The status is that of
the last one. Note is taken of jobs that end in the meantime. -/
def awaitFrom (last : Option Nat) : Nat → List Nat → Step Unit
  | 0, _ => return
  | _, [] => refreshJobs
  | n + 1, ids => do
    Activity.await fun w => ids.any fun id => w.hasEnded id
    match ← look fun w _ => ids.find? fun id => w.hasEnded id with
    | none => return
    | some id =>
      let x ← awaitEnd id
      reportKilled x
      if last = some id then setStatus (statusOf x)
      awaitFrom last n (ids.filter (· ≠ id))

def awaitAll (ids : List Nat) : Step Unit := awaitFrom ids.getLast? (ids.length + 1) ids

/-! ## Pipes -/

def openPipe : Step (Nat × Nat) :=
  act fun w me =>
    let (w, r, x) := w.addPipe
    let (w, first) := w.attachNumber me r
    let (w, second) := w.attachNumber me x
    (w, first, second)

def closeDescriptor (d : Nat) : Step Unit := change fun w me => w.close me d

def moveDescriptor (d target : Nat) : Step Unit :=
  if d = target then return
  else
    change fun w me =>
      match w.opening? me d with
      | some (i, _) => (w.setDescriptor me target i).close me d
      | none => w

def outputOf (e : Evaluator) (c : Option Command) : Step String := do
  match c with
  | none =>
    modify fun s => { s with outputStatus := 0 }
    return ""
  | some c => do
    let (source, sink) ← openPipe
    let id ← forked e false do
      closeDescriptor source
      moveDescriptor sink 1
      e.run { last := true } (some c)
    closeDescriptor sink
    let text ← Activity.readAll (← get).me source
    closeDescriptor source
    let x ← awaitEnd id
    refreshJobs
    reportKilled x
    modify fun s => { s with outputStatus := statusOf x }
    match text with
    | .ok t => return String.ofList (t.toList.filter (· ≠ '\x00'))
    | .error _ => return ""

end TreeTool.Shell
