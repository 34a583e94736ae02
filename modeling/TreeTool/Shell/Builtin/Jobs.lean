import TreeTool.Shell.Builtin.Options

/-!
# Built-in commands about processes and signals
-/

namespace TreeTool.Shell.Builtin

open Kernel (Activity)

/-! ## Signals -/

def signalNames : List (Nat × String) := (0, "EXIT") :: Kernel.Signal.names

def signal? (least : Nat) (s : String) : Option Nat :=
  let cs := s.toList
  if !cs.isEmpty && cs.all Char.isDigit then
    (some (Number.ofDigits 10 cs)).filter (· < Kernel.Signal.count)
  else
    let name := String.ofList (cs.map Char.toUpper)
    (signalNames.find? fun (n, x) => least ≤ n && x = name).map (·.1)

def showTraps : Step Unit := do
  let traps := (← get).traps
  signalNames.forM fun (n, name) =>
    match traps.lookup n with
    | some script => put ("trap -- " ++ singleQuoted script ++ " " ++ name ++ "\n")
    | none => return

def setTraps (script? : Option String) : List String → Step Nat
  | [] => return 0
  | a :: as => do
    match signal? 0 a with
    | none => do
      discard <| writeTo 2 ("trap: " ++ a ++ ": bad trap\n")
      return 1
    | some n => do
      modify fun s =>
        let others := s.traps.filter (·.1 ≠ n)
        { s with traps := match script? with
            | some script => (n, script) :: others
            | none => others }
      react n script?
      setTraps script? as

def trap (as : List String) : Step Nat := do
  let (_, as) ← options "" as
  match as with
  | [] => do
    showTraps
    return 0
  | [a] => setTraps none [a]
  | a :: rest =>
    if isNumber a then setTraps none (a :: rest)
    else setTraps (if a = "-" then none else some a) rest
where
  isNumber (a : String) : Bool := a.toList.all Char.isDigit && (signal? 0 a).isSome

/-! ## Jobs -/

def stateText : Option Ending → String
  | none => "Running"
  | some (.exited 0) => "Done"
  | some (.exited n) => "Done(" ++ toString n ++ ")"
  | some (.killed n) => Kernel.Signal.description n

def jobs (as : List String) : Step Nat := do
  let (os, as) ← options "lp" as
  match as with
  | a :: _ => fail ("No such job: " ++ a)
  | [] => do
    refreshJobs
    let all := (← get).jobs.reverse
    let marked := all.zipIdx
    marked.forM fun (j, i) =>
      if os.any (·.1 = 'p') then
        put (toString ((j.others ++ [j.process]).head?.getD j.process) ++ "\n")
      else
        let mark := if i = 0 then "+ " else if i = 1 then "- " else "  "
        let number := if os.any (·.1 = 'l') then toString j.process ++ " " else ""
        let text := "[" ++ toString j.number ++ "] " ++ mark ++ number ++ stateText j.ending
        let bars := String.join (j.others.map fun _ => " | ")
        put (text ++ String.ofList (List.replicate (33 - text.length) ' ') ++ bars ++ "\n")
    modify fun s => { s with jobs := s.jobs.filter (·.ending.isNone) }
    return 0

def awaitOrSignal (ready : Kernel.World → Bool) : Step (Option Nat) := do
  let me := (← get).me
  let noted := fun (w : Kernel.World) => ((w.process? me).map (·.noted)).getD []
  Activity.await fun w => ready w || !(noted w).isEmpty
  look fun w _ => if ready w then none else (noted w).head?

def markWaited (p : Job → Bool) : Step Unit := do
  refreshJobs
  modify fun s => { s with jobs := s.jobs.map fun j => if p j then { j with waited := true } else j }

def awaitJob (j : Job) : Step (Except Nat Nat) := do
  match j.ending with
  | some x => return .ok (statusOf x)
  | none => do
    match ← awaitOrSignal fun w => (j.process :: j.others).all w.hasEnded with
    | some n => return .error (128 + n)
    | none => do
      let endings ← look fun w _ =>
        (j.others ++ [j.process]).filterMap fun id => (w.process? id).bind (·.ending)
      endings.forM reportKilled
      markWaited (·.number = j.number)
      let ending := ((← get).jobs.find? (·.number = j.number)).bind (·.ending)
      return .ok ((ending.map statusOf).getD 127)

def awaitJobs (status : Nat) : List String → Step Nat
  | [] => return status
  | a :: as => do
    if a.toList.head? = some '%' then fail ("No such job: " ++ a)
    else
      let n ← numberOf a
      match (← get).jobs.find? (·.process = n) with
      | none => awaitJobs 127 as
      | some j =>
        match ← awaitJob j with
        | .error status => return status
        | .ok status => awaitJobs status as

def wait (as : List String) : Step Nat := do
  let (_, as) ← options "" as
  if !as.isEmpty then awaitJobs 127 as
  else
    let ids := (← get).jobs.flatMap fun j => j.process :: j.others
    match ← awaitOrSignal fun w => ids.all w.hasEnded with
    | some n => return 128 + n
    | none => do
      markWaited fun _ => true
      return 0

def foreground (as : List String) : Step Nat :=
  match as with
  | [] => fail "No current job"
  | a :: _ => fail ("No such job: " ++ a)

/-! ## Sending signals -/

def killUsage : String :=
  "Usage: kill [-s sigspec | -signum | -sigspec] [pid | job]... or\nkill -l [exitstatus]"

def listSignals : List String → Step Nat
  | [] => do
    put "0\n"
    Kernel.Signal.names.forM fun (_, name) => put (name ++ "\n")
    return 0
  | a :: _ => do
    let n ← numberOf a
    let n := if n > 128 then n - 128 else n
    match if n = 0 then none else Kernel.Signal.name? n with
    | some name => do
      put (name ++ "\n")
      return 0
    | none => fail ("invalid signal number or exit status: " ++ a)

def sendAll (n status : Nat) : List String → Step Nat
  | [] => return status
  | a :: as => do
    match a.toList with
    | '%' :: _ => fail ("No such job: " ++ a)
    | '-' :: cs => do
      discard (numberOf (String.ofList cs))
      send none as
    | _ => do send (some (← numberOf a)) as
where
  send (target : Option Nat) (as : List String) : Step Nat := do
    let sent ← act fun w _ =>
      match target with
      | none => (w, false)
      | some 0 =>
        (w.processes.foldl (fun (w : Kernel.World) (id, _) => (w.signal id n).1) w, true)
      | some id => w.signal id n
    if sent then sendAll n status as
    else
      warn "No such process\n"
      sendAll n 1 as

def kill (as : List String) : Step Nat := do
  match as with
  | [] => fail killUsage
  | a :: rest => do
    let direct := match a.toList with
      | '-' :: cs => signal? 1 (String.ofList cs)
      | _ => none
    let (signal, list, as) ← (do
      match direct with
      | some n => return (some n, false, rest)
      | none =>
        let (os, as) ← options "ls:" (a :: rest)
        match os.find? (·.1 = 's') with
        | some (_, name) =>
          match signal? 1 name with
          | some n => return (some n, os.any (·.1 = 'l'), as)
          | none => fail ("invalid signal number or name: " ++ name)
        | none => return (none, os.any (·.1 = 'l'), as))
    if list then
      if signal.isSome then fail killUsage else listSignals as
    else if as.isEmpty then fail killUsage
    else sendAll (signal.getD 15) 0 as

/-! ## Masks and limits -/

def octal (n : Nat) : String :=
  let ds := String.ofList (Nat.toDigits 8 n)
  String.ofList (List.replicate (4 - ds.length) '0') ++ ds

def permissions (mask shift : Nat) : String :=
  let bits := mask / Number.pow2 shift % 8
  (if bits &&& 4 = 0 then "r" else "") ++ (if bits &&& 2 = 0 then "w" else "") ++
    (if bits &&& 1 = 0 then "x" else "")

def changedModes (modes : Nat) : List (List Char) → Option Nat
  | [] => some modes
  | clause :: clauses =>
    let who := clause.takeWhile fun c => "ugoa".contains c
    let shifts := if who.isEmpty || 'a' ∈ who then [6, 3, 0]
      else ([('u', 6), ('g', 3), ('o', 0)].filter fun p => p.1 ∈ who).map (·.2)
    match clause.drop who.length with
    | op :: letters =>
      if !letters.all fun c => "rwx".contains c then none
      else
        let bits := (if 'r' ∈ letters then 4 else 0) + (if 'w' ∈ letters then 2 else 0) +
          (if 'x' ∈ letters then 1 else 0)
        let all := Number.total (shifts.map fun i => 7 * Number.pow2 i)
        let chosen := Number.total (shifts.map fun i => bits * Number.pow2 i)
        match op with
        | '+' => changedModes (modes ||| chosen) clauses
        | '-' => changedModes (modes &&& (0o777 - chosen)) clauses
        | '=' => changedModes ((modes &&& (0o777 - all)) ||| chosen) clauses
        | _ => none
    | [] => none

def umask (as : List String) : Step Nat := do
  let (os, as) ← options "S" as
  let mask := (← get).mask
  match as with
  | [] =>
    if os.isEmpty then put (octal mask ++ "\n")
    else put ("u=" ++ permissions mask 6 ++ ",g=" ++ permissions mask 3 ++ ",o=" ++
      permissions mask 0 ++ "\n")
    return 0
  | a :: _ =>
    let cs := a.toList
    if cs.head?.any Char.isDigit then
      if cs.all (Number.isDigitOf 8) then
        modify fun s => { s with mask := Number.ofDigits 8 cs % 0o1000 }
        return 0
      else fail ("Illegal number: " ++ a)
    else
      match changedModes (0o777 - mask) ((Text.pieces ',' cs)) with
      | some modes => do
        modify fun s => { s with mask := 0o777 - modes }
        return 0
      | none => fail ("Illegal mode: " ++ a)

def ulimit (as : List String) : Step Nat := do
  let (os, as) ← options "HSatfdscmlpnvwr" as
  if as.isEmpty && !os.any (·.1 = 'a') then put "unlimited\n"
  return 0

def times : Step Nat := do
  put "0m0.000000s 0m0.000000s\n0m0.000000s 0m0.000000s\n"
  return 0

end TreeTool.Shell.Builtin
