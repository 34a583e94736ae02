import TreeTool.Shell.Builtin.Table

/-!
# Simple commands

A simple command consists of assignments, words and redirections. Its words are expanded first,
then its redirections take place, then its assignments; the first word says what is carried out.
-/

namespace TreeTool.Shell.SimpleCommand

inductive Kind
  | nothing
  | builtIn
  | function (body : Command)
  | program

/-- A command whose words have been expanded as far as it takes to see what it is: the words that
only lead to it, its own words, those that have not been expanded, whether the first built-in
command among them is a special one, whether programs are looked for along the standard path, and
whether it may be a function. -/
structure Line where
  leading : List String := []
  fields : List String
  rest : List Word
  kind : Kind := .nothing
  special : Option Bool := none
  standard : Bool := false
  functions : Bool := true

def firstFields (e : Evaluator) : List Word → Step (List String × List Word)
  | [] => return ([], [])
  | w :: ws => do
    let fs ← Expansion.fields e w
    if fs.isEmpty then firstFields e ws else return (fs, ws)

def behind (e : Evaluator) : Nat → (l : Line) → Step (Line × Bool)
  | 0, l => return (l, false)
  | n + 1, l => do
    let l ← (do
      if l.fields.isEmpty then
        let (fields, rest) ← firstFields e l.rest
        return { l with fields, rest }
      else return l)
    match l.fields with
    | [] => return (l, false)
    | f :: fs =>
      let leading := l.leading ++ [f]
      match f.toList with
      | ['-', '-'] => do
        let (fs, rest) ← (do if fs.isEmpty then firstFields e l.rest else return (fs, l.rest))
        return ({ l with leading, fields := fs, rest }, !fs.isEmpty)
      | '-' :: c :: cs =>
        if (c :: cs).all (· = 'p') then behind e n { l with leading, fields := fs, standard := true }
        else return (l, false)
      | _ => return (l, true)

def resolve (e : Evaluator) : Nat → Line → Step Line
  | 0, l => return l
  | n + 1, l => do
    let s ← get
    match l.fields with
    | [] => return l
    | name :: fs =>
      match if l.functions then s.functions.lookup name else none with
      | some body => return { l with kind := .function body }
      | none =>
        if !isBuiltIn name then return { l with kind := .program }
        else
          let special := l.special.or (some (isSpecialCommand name))
          if name ≠ "command" then return { l with kind := .builtIn, special }
          else
            let start := { l with leading := l.leading ++ [name], fields := fs }
            let (found, ahead) ← behind e (fs.length + l.rest.length + 64) start
            if ahead then resolve e n { found with special, functions := false }
            else
              return { l with fields := l.fields.take 1 ++ found.leading.drop (l.leading.length + 1) ++
                                found.fields, rest := found.rest, kind := .builtIn, special }

def otherFields (e : Evaluator) (assigning : Bool) : List Word → Step (List String)
  | [] => return []
  | w :: ws => do
    let fs ← (do
      if assigning && Part.isAssignment w then return [← Expansion.assignment e w]
      else Expansion.fields e w)
    return fs ++ (← otherFields e assigning ws)

/-! ## Assignments -/

def assignAll (e : Evaluator) (forCommand exported : Bool) : List Word → Step (List String)
  | [] => return []
  | w :: ws => do
    let text ← Expansion.assignment e w
    match assignment? text with
    | none => return []
    | some (x, value) => do
      if forCommand then makeLocal x
      assign x value (forCommand || exported)
      return text :: (← assignAll e forCommand exported ws)

/-! ## Tracing -/

def tracePrompt (e : Evaluator) : Step String := do
  let text := ((← get).get? "PS4").getD ""
  let noScripts : Nested := ⟨Word.misprint "no script", fun _ => Word.misprint "no script"⟩
  match (Word.parts noScripts (2 * text.length + 16) .document).run (Source.ofText text) with
  | .ok (w, _) => do
    modify fun s => { s with tracing := true }
    let t ← Expansion.textOf e w
    modify fun s => { s with tracing := false }
    return t
  | .error _ => return text

def trace (e : Evaluator) (texts : List String) : Step Unit := do
  let s ← get
  if s.has 'x' && !s.tracing then
    let lead ← tracePrompt e
    let d := match (s.redirected.head?.bind (·.lookup 2)).join with
      | some n => n
      | none => 2
    discard <| writeTo d (lead ++ " ".intercalate texts ++ "\n")

/-! ## Carrying out -/

def runBuiltIn (e : Evaluator) (m : Manner) (special : Bool) (name : String) (as : List String) :
    Step Unit := do
  let outer := (← get).command
  modify fun s => { s with command := some name }
  let r ← Step.attempt do
    let status ← builtIn e m name as
    modify fun s => { s with command := some name }
    if ← flush then setStatus status
    else
      warn (name ++ ": I/O error")
      setStatus (status ||| 1)
  modify fun s => { s with command := outer, output := "" }
  match r with
  | .ok _ => return
  | .error .error => if special then Step.escape .error
  | .error how => Step.escape how

def callFunction (e : Evaluator) (m : Manner) (body : Command) (as : List String) : Step Unit := do
  let s ← get
  set { s with arguments := { list := as }, loops := 0 }
  let r ← Step.attempt (e.run { tested := m.tested } (some body))
  modify fun t =>
    { t with
      arguments := s.arguments, loops := s.loops,
      skip := match t.skip with
        | some (.returns _) => none
        | x => x }
  match r with
  | .ok _ => return
  | .error how => Step.escape how

def runProgram (e : Evaluator) (m : Manner) (path name : String) (as : List String) :
    Step Unit := do
  match ← found name path false with
  | .nothing p => do
    warn (name ++ ": " ++ startReason p)
    setStatus 127
  | _ =>
    if m.last && !hasTraps (← get) then becomeProgram e path name as
    else
      let id ← spawned (discard <| Step.attempt (becomeProgram e path name as))
      awaitAll [id]

def execute (e : Evaluator) (m : Manner) (l : Line) : Step Unit := do
  match l.kind, l.fields with
  | .builtIn, name :: as => runBuiltIn e m (l.special = some true) name as
  | .function body, _ :: as => callFunction e m body as
  | .program, name :: as => do
    let s ← get
    runProgram e m (if l.standard then standardPath else s.path) name as
  | _, _ => modify fun s => { s with status := s.outputStatus }

def carryOut (e : Evaluator) (m : Manner) (l : Line) (assignments : List Word)
    (redirections : List Redirection) : Step Unit := do
  let forCommand := !l.fields.isEmpty && l.special ≠ some true
  let replaces := l.kind matches .builtIn && l.fields.head? = some "exec"
  let rs ← Redirect.allExpanded e redirections
  if !rs.isEmpty then Redirect.push
  if ← Redirect.applySafely e rs then
    let texts ← assignAll e forCommand (replaces && 1 < l.fields.length) assignments
    trace e (texts ++ l.leading ++ l.fields)
    execute e m l
    if !rs.isEmpty then Redirect.pop replaces
  else
    setStatus 2
    if l.special = some true then Step.escape .error
    if !rs.isEmpty then Redirect.pop

def run (e : Evaluator) (m : Manner) (line : Nat) (assignments words : List Word)
    (redirections : List Redirection) : Step Unit := do
  spend commandCost
  modify fun s => { s with line, outputStatus := 0 }
  let (fields, rest) ← firstFields e words
  let l ← resolve e 16 { fields, rest }
  let assigning := (l.kind matches .builtIn) && l.fields.head?.any (· ∈ assigningCommands)
  let l := { l with fields := l.fields ++ (← otherFields e assigning l.rest) }
  let body := carryOut e m l assignments redirections
  if !l.fields.isEmpty && l.special ≠ some true then inFrame body else body

end TreeTool.Shell.SimpleCommand
