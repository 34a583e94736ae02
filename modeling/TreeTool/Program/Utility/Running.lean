import TreeTool.Kernel.Schedule
import TreeTool.Program.Utility.Numbers

/-!
# Utilities that run programs

What a program does once it is found is given by `start`.
-/

namespace TreeTool.Program

open Files (Problem)
open Kernel (Course)
open Work

abbrev Start := Image → Kernel.Variables → (me : Nat) → Course

/-! ## Becoming a program -/

def imageOf (environment : Kernel.Variables) (name : String) (as : List String) :
    Work (Except Problem Image) :=
  look fun w me =>
    let path := (environment.get? "PATH").getD defaultPath
    match findImage w.files (w.here me) path name as with
    | .error .badFormat => .ok ⟨"sh", "/bin/sh", name :: as⟩
    | r => r

def become (start : Start) (image : Image) (environment : Kernel.Variables) : Work Unit := do
  flush
  act fun w me => (w.renew me, ())
  fun r _ => start image environment r.me

def failureStatus (p : Problem) : Nat := if p = .missing then 127 else 126

def becomeNamed (start : Start) (environment : Kernel.Variables) (name : String) (as : List String)
    (message : String) : Work Unit := do
  match ← imageOf environment name as with
  | .ok image => become start image environment
  | .error p => fail (message ++ ": " ++ p.words) (failureStatus p)

/-! ## The environment -/

def replaceVariable (x v : String) : Kernel.Variables → Kernel.Variables
  | [] => [(x, v)]
  | (y, u) :: e => if y = x then (x, v) :: e else (y, u) :: replaceVariable x v e

def assignment? (a : String) : Option (String × String) :=
  (Text.cutFirst '=' a.toList).map fun (x, v) => (String.ofList x, String.ofList v)

def env (start : Start) : Work Unit := do
  let g ← given [⟨'i', "ignore-environment", .nothing⟩, ⟨'u', "unset", .argument⟩,
    ⟨'0', "null", .nothing⟩, ⟨'C', "chdir", .argument⟩, ⟨'v', "debug", .nothing⟩] 125 false
  let (dash, operands) := match g.operands with
    | "-" :: os => (true, os)
    | os => (false, os)
  let inherited := (← get).environment
  let base := if g.has 'i' || dash then [] else inherited
  let base := (g.options.filter (·.1 = 'u')).foldl (fun (e : Kernel.Variables) (_, x) => e.remove x) base
  let settings := operands.takeWhile fun a => (assignment? a).isSome
  let environment := (settings.filterMap assignment?).foldl
    (fun e (x, v) => replaceVariable x v e) base
  match g.value? 'C' with
  | some d =>
    match ← find d with
    | .ok (place, .directory) =>
      act fun w me => (w.modify me fun p => { p with here := place }, ())
    | .ok _ => fail ("cannot change directory to " ++ quoted d ++ ": Not a directory") 125
    | .error e => fail ("cannot change directory to " ++ quoted d ++ ": " ++ e.words) 125
  | none => pure ()
  match operands.drop settings.length with
  | [] =>
    environment.forM fun (x, v) => put (x ++ "=" ++ v ++ (if g.has '0' then "\x00" else "\n"))
  | name :: as => becomeNamed start environment name as (quoted name)

def printenv : Work Unit := do
  let g ← given [⟨'0', "null", .nothing⟩] 2 false
  let ending := if g.has '0' then "\x00" else "\n"
  let e := (← get).environment
  if g.operands.isEmpty then
    e.forM fun (x, v) => put (x ++ "=" ++ v ++ ending)
  else
    g.operands.forM fun x =>
      match e.get? x with
      | some v => put (v ++ ending)
      | none => setStatus 1

/-! ## Going on as another program -/

def nohup (start : Start) : Work Unit := do
  match ← arguments with
  | [] => misuse "missing operand" 125
  | name :: as =>
    act fun w me => (w.setReaction me 1 .ignored, ())
    becomeNamed start (← get).environment name as ("failed to run command " ++ quoted name)

def nice (start : Start) : Work Unit := do
  let g ← given [⟨'n', "adjustment", .argument⟩] 125 false
  match g.operands with
  | [] => putLine "0"
  | name :: as => becomeNamed start (← get).environment name as (quoted name)

def passOn (start : Start) (switches : List Switch) : Work Unit := do
  let g ← given switches 125 false
  match g.operands with
  | [] => misuse "missing operand" 125
  | name :: as =>
    becomeNamed start (← get).environment name as ("failed to run command " ++ quoted name)

def stdbuf (start : Start) : Work Unit :=
  passOn start [⟨'i', "input", .argument⟩, ⟨'o', "output", .argument⟩, ⟨'e', "error", .argument⟩]

def setsid (start : Start) : Work Unit :=
  passOn start [⟨'c', "ctty", .nothing⟩, ⟨'f', "fork", .nothing⟩, ⟨'w', "wait", .nothing⟩]

/-! ## Children -/

def startCost : Nat := 400000

def startChild (start : Start) (image : Image) (environment : Kernel.Variables)
    (prepare : Kernel.World → Nat → Kernel.World) : Work Nat :=
  (Kernel.Activity.fork startCost (fun id =>
    .act fun w => ⟨(prepare w id).renew id, start image environment id⟩) : Kernel.Activity Nat)

def endingOf (id : Nat) : Work Ending :=
  act fun w _ => (w.remove id, ((w.process? id).bind (·.ending)).getD (.exited 127))

def awaitEnd (id : Nat) : Work Ending := do
  (Kernel.Activity.await (fun w => w.hasEnded id) : Kernel.Activity Unit)
  endingOf id

def signal? (s : String) : Option Nat :=
  let cs := s.toList
  if !cs.isEmpty && cs.all Char.isDigit then
    (some (Number.ofDigits 10 cs)).filter (· < Kernel.Signal.count)
  else
    let name := cs.map Char.toUpper
    let name := if "SIG".toList.isPrefixOf name then name.drop 3 else name
    (Kernel.Signal.names.find? fun (_, x) => x.toList = name).map (·.1)

def timeoutStatus : Nat := 124

def timeout (start : Start) : Work Unit := do
  let g ← given [⟨'s', "signal", .argument⟩, ⟨'k', "kill-after", .argument⟩,
    ⟨'v', "verbose", .nothing⟩, ⟨'p', "preserve-status", .nothing⟩,
    ⟨'f', "foreground", .nothing⟩] 125 false
  let name := (← get).image.name
  let duration := fun (s : String) => do
    match nanoseconds? s with
    | some n => return n
    | none => misuse ("invalid time interval " ++ quoted s) 125
  let n ← (do
    match g.value? 's' with
    | none => return 15
    | some s =>
      match signal? s with
      | some n => return n
      | none => misuse (quoted s ++ ": invalid signal") 125)
  let grace ← (do
    match g.value? 'k' with
    | none => return none
    | some s => return some (← duration s))
  match g.operands with
  | [] | [_] => do
    warn ("Try '" ++ name ++ " --help' for more information.\n")
    exit 125
  | limit :: program :: as => do
    let limit ← duration limit
    let environment := (← get).environment
    match ← imageOf environment program as with
    | .error p =>
      fail ("failed to run command " ++ quoted program ++ ": " ++ p.words) (failureStatus p)
    | .ok image => do
      let id ← startChild start image environment fun w _ => w
      let wait := fun (nanos : Nat) => do
        if nanos = 0 then
          (Kernel.Activity.await (fun w => w.hasEnded id) : Kernel.Activity Unit)
        else (Kernel.Activity.awaitFor nanos (fun w => w.hasEnded id) : Kernel.Activity Unit)
        look fun w _ => w.hasEnded id
      let send := fun (n : Nat) => do
        if g.has 'v' then
          complain ("sending signal " ++ (Kernel.Signal.name? n).getD (toString n) ++
            " to command " ++ quoted program)
        act fun w _ => ((w.signal id n).1, ())
      if ← wait limit then
        match ← endingOf id with
        | .exited s => setStatus s
        | .killed s => act fun w me => ((w.signal me s).1, ())
      else
        send n
        let ended ← (do
          match grace with
          | none => do
            discard (wait 0)
            return true
          | some nanos => wait nanos)
        let last ← (do
          if ended then return n
          else
            send 9
            discard (wait 0)
            return 9)
        let ending ← endingOf id
        if last = 9 then act fun w me => ((w.signal me 9).1, ())
        else if g.has 'p' then
          match ending with
          | .exited s => setStatus s
          | .killed s => setStatus (128 + s)
        else setStatus timeoutStatus

/-! ## Arguments from input -/

inductive Quoting
  | plain | single | double | backslash
  deriving DecidableEq, Repr

def unmatched (q : Quoting) : String :=
  "unmatched " ++ (if q = .single then "single" else "double") ++
    " quote; by default quotes are special to xargs unless you use the -0 option"

def itemsFrom (splits : Bool) (q : Quoting) (item : Option (List Char))
    (done : List (String × Bool)) : List Char → Except String (List (String × Bool))
  | [] =>
    if q = .single || q = .double then .error (unmatched q)
    else .ok (match item with
      | some cs => ((String.ofList cs.reverse, true) :: done).reverse
      | none => done.reverse)
  | c :: cs =>
    let finished := match item with
      | some cs => (String.ofList cs.reverse, false) :: done
      | none => done
    let opened := some (item.getD [])
    let longer := some (c :: item.getD [])
    match q with
    | .backslash => itemsFrom splits .plain longer done cs
    | .single =>
      if c = '\n' then .error (unmatched q)
      else if c = '\'' then itemsFrom splits .plain opened done cs
      else itemsFrom splits q longer done cs
    | .double =>
      if c = '\n' then .error (unmatched q)
      else if c = '"' then itemsFrom splits .plain opened done cs
      else itemsFrom splits q longer done cs
    | .plain =>
      if c = '\'' then itemsFrom splits .single opened done cs
      else if c = '"' then itemsFrom splits .double opened done cs
      else if c = '\\' then itemsFrom splits .backslash opened done cs
      else if c = '\n' then
        itemsFrom splits .plain none (match finished with
          | (s, _) :: rest => (s, true) :: rest
          | [] => []) cs
      else if splits && (c = ' ' || c = '\t') then itemsFrom splits .plain none finished cs
      else itemsFrom splits .plain longer done cs

def separatedItems (separator : Char) (text : String) : List (String × Bool) :=
  let parts := (Text.pieces separator text.toList).map String.ofList
  (if parts.getLast? = some "" then parts.dropLast else parts).map fun s => (s, true)

def lineItems (text : String) : Except String (List (String × Bool)) := do
  let items ← (plainLines text).mapM fun line =>
    itemsFrom false .plain none [] (line.toList.dropWhile fun c => c = ' ' || c = '\t')
  return items.flatten

def inGroups (size : Nat) : Nat → List String → List (List String)
  | 0, _ => []
  | n + 1, as => if as.isEmpty then [] else as.take size :: inGroups size n (as.drop size)

def inLines (size : Nat) : (left : Nat) → List String → List (String × Bool) → List (List String)
  | _, group, [] => if group.isEmpty then [] else [group.reverse]
  | left, group, (s, isLast) :: rest =>
    if isLast && left ≤ 1 then (s :: group).reverse :: inLines size size [] rest
    else inLines size (if isLast then left - 1 else left) (s :: group) rest

def replaceAll (mark by_ : List Char) : Nat → List Char → List Char
  | 0, cs => cs
  | _, [] => []
  | n + 1, c :: cs =>
    if !mark.isEmpty && mark.isPrefixOf (c :: cs) then
      by_ ++ replaceAll mark by_ n ((c :: cs).drop mark.length)
    else c :: replaceAll mark by_ n cs

def substituted (mark item a : String) : String :=
  String.ofList (replaceAll mark.toList item.toList (a.length + 1) a.toList)

def shownWord (s : String) : String :=
  let isPlain := fun (c : Char) => c.isAlphanum || "%+,-./:=@_".contains c
  if !s.isEmpty && s.toList.all isPlain then s else quoted s

def runGroups (start : Start) (loud : Bool) : List (List String) → Work Unit
  | [] => return
  | [] :: groups => runGroups start loud groups
  | (name :: as) :: groups => do
    let environment := (← get).environment
    if loud then warn (" ".intercalate ((name :: as).map shownWord) ++ "\n")
    match ← imageOf environment name as with
    | .error p => fail (name ++ ": " ++ p.words) (failureStatus p)
    | .ok image => do
      let id ← startChild start image environment fun w id =>
        let (w, i) := w.addOpening { channel := .device .null, reads := true }
        w.setDescriptor id 0 i
      match ← awaitEnd id with
      | .exited 0 => runGroups start loud groups
      | .exited 255 => fail (name ++ ": exited with status 255; aborting") 124
      | .killed n => fail (name ++ ": terminated by signal " ++ toString n) 125
      | .exited _ => do
        setStatus 123
        runGroups start loud groups

def xargs (start : Start) : Work Unit := do
  let g ← given [⟨'0', "null", .nothing⟩, ⟨'a', "arg-file", .argument⟩,
    ⟨'d', "delimiter", .argument⟩, ⟨'I', "", .argument⟩, ⟨'i', "replace", .joined⟩,
    ⟨'L', "max-lines", .argument⟩, ⟨'l', "", .joined⟩, ⟨'n', "max-args", .argument⟩,
    ⟨'P', "max-procs", .argument⟩, ⟨'r', "no-run-if-empty", .nothing⟩,
    ⟨'s', "max-chars", .argument⟩, ⟨'t', "verbose", .nothing⟩, ⟨'x', "exit", .nothing⟩,
    ⟨'E', "", .argument⟩] 1 false
  let count := fun (c : Char) (usual : Option Nat) => do
    match g.value? c with
    | none => return none
    | some "" => return usual
    | some v =>
      if v.toList.all Char.isDigit then
        let n := Number.ofDigits 10 v.toList
        if n = 0 then
          misuse ("value " ++ v ++ " for -" ++ c.toString ++ " option should be >= 1")
        return some n
      else misuse ("invalid number \"" ++ v ++ "\" for -" ++ c.toString ++ " option")
  let size ← count 'n' none
  let ls ← count 'L' none
  let ls := ls.or (← count 'l' (some 1))
  let mark? : Option String := do
    let m ← g.value? (← g.last? ['I', 'i'])
    return if m.isEmpty then "\x7b\x7d" else m
  let separator? := if g.has '0' then some '\x00'
    else (g.value? 'd').map fun d =>
      match d.toList with
      | ['\\', 'n'] => '\n'
      | ['\\', 't'] => '\t'
      | ['\\', '0'] => '\x00'
      | c :: _ => c
      | [] => '\x00'
  let command := if g.operands.isEmpty then ["echo"] else g.operands
  let text ← (do
    match ← content ((g.value? 'a').getD "-") with
    | .ok text => return text
    | .error e => fail ((g.value? 'a').getD "-" ++ ": " ++ e.words))
  let items : Except String (List (String × Bool)) := match separator?, mark? with
    | some c, _ => .ok (separatedItems c text)
    | none, some _ => lineItems text
    | none, none => itemsFrom true .plain none [] text.toList
  match items with
  | .error message => fail message
  | .ok items => do
    let all := items.map (·.1)
    let groups := match mark? with
      | some mark => all.map fun item => command.map (substituted mark item)
      | none =>
        let parts := match ls, size with
          | some n, _ => inLines n n [] items
          | none, some n => inGroups n (all.length + 1) all
          | none, none => if all.isEmpty then [] else [all]
        (if parts.isEmpty && !g.has 'r' then [[]] else parts).map (command ++ ·)
    runGroups start (g.has 't') groups

end TreeTool.Program
