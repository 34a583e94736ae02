import TreeTool.Shell.Evaluation

/-!
# Starting a shell

A shell is started with options and then a text, the path of a script, or nothing; then it reads
its script from standard input. `course` is what a process does that has become a shell.
-/

namespace TreeTool.Shell

open Kernel (Course World)

namespace Invocation

/-- What a shell is asked for: to carry out the next argument as a text, to read its script from
standard input, and the arguments after the options. -/
structure Request where
  inline : Bool := false
  arguments : List String := []

def letters (on : Bool) (r : Request) (as : List String) : List Char → Step (Request × List String)
  | [] => return (r, as)
  | 'c' :: cs => letters on { r with inline := true } as cs
  | 'l' :: cs => letters on r as cs
  | 'o' :: cs =>
    match as with
    | [] => do
      Builtin.showOptions on
      letters on r [] cs
    | name :: as => do
      Builtin.setNamedOption name on
      letters on r as cs
  | c :: cs => do
    if c.isDigit then fail ("Illegal option -" ++ c.toString)
    Builtin.setOption c on
    letters on r as cs

def options : Nat → Request → List String → Step Request
  | 0, r, as => return { r with arguments := as }
  | _, r, [] => return r
  | n + 1, r, a :: as => do
    match a.toList with
    | ['-'] | ['-', '-'] => return { r with arguments := as }
    | '-' :: cs => do
      let (r, as) ← letters true r as cs
      options n r as
    | '+' :: cs => do
      let (r, as) ← letters false r as cs
      options n r as
    | _ => return { r with arguments := a :: as }

def setName (as : List String) : Step Unit :=
  match as with
  | [] => return
  | name :: as => modify fun s => { s with name, arguments := { list := as } }

def readInput (e : Evaluator) : Step Unit := do
  match ← Kernel.Activity.readAll (← get).me 0 with
  | .ok text => do
    atStart
    discard <| e.text { shown := true } ((← get).source text)
  | .error _ => return
where
  atStart : Step Unit := modify fun s => { s with line := 1 }

def perform (e : Evaluator) (as : List String) : Step Unit := do
  let r ← options (as.length + 1) {} as
  discard flush
  match r.inline, r.arguments with
  | true, [] => fail "-c requires an argument"
  | true, text :: as => do
    setName as
    let s ← get
    discard <| e.text { last := !s.has 's' } (s.source text)
    if s.has 's' then readInput e
  | false, [] => do
    Builtin.setOption 's' true
    readInput e
  | false, path :: as =>
    if (← get).has 's' then
      modify fun s => { s with arguments := { list := path :: as } }
      readInput e
    else
      match ← Builtin.scriptText path with
      | .error p => Redirect.cannotOpen path p
      | .ok text => do
        setName (path :: as)
        discard <| e.text { shown := true } ((← get).source text)

/-! ## The first state -/

def standardVariables : List (String × Variable) :=
  [("IFS", { value := some " \t\n" }), ("PATH", { value := some standardPath }),
    ("PS1", { value := some "# " }), ("PS2", { value := some "> " }),
    ("PS4", { value := some "+ " }), ("OPTIND", { value := some "1" })]

def directoryIn (environment : Kernel.Variables) (w : World) (me : Nat) : String :=
  let place := w.here me
  let named := (environment.get? "PWD").filter fun d =>
    d.toList.head? = some '/' &&
      (match w.files.find place (Text.Raw.toText d) with
        | .ok (there, _) => there = place
        | .error _ => false)
  named.getD (Text.Raw.ofText ("/" ++ "/".intercalate place))

def initial (name : String) (environment : Kernel.Variables) (w : World) (me : Nat) : State :=
  let start : State := { me, root := me, name, bindings := standardVariables, line := 0 }
  let s := environment.foldl (fun (s : State) (x, v) =>
    if isName x then s.bind x { value := some v, exported := true } else s) start
  let reset := fun (s : State) (x v : String) =>
    s.bind x { (s.binding? x).getD {} with value := some v }
  let s := reset (reset s "IFS" " \t\n") "OPTIND" "1"
  let parent := ((w.process? me).map (·.parent)).getD 1
  let s := reset s "PPID" (toString parent)
  let directory := directoryIn environment w me
  { s.bind "PWD" { value := some directory, exported := true } with directory }

end Invocation

/-! ## The evaluator -/

def overflow {α : Type} : Step α := do
  change fun w me => (w.signal me 11).1
  Step.escape .finished

def evaluator (start : Program.Image → Kernel.Variables → Nat → Course) : Nat → Evaluator
  | 0 => ⟨fun _ _ => overflow, fun _ _ => overflow, fun _ _ => overflow, start⟩
  | n + 1 =>
    { pieces := fun p ps =>
        Expansion.pieces (evaluator start n) (outputOf (evaluator start n)) p true ps
      run := fun m c => Evaluation.run (evaluator start n) m c
      text := fun m source => Evaluation.text (evaluator start n) m source
      start }

def greatestNesting : Nat := 200000

def course (start : Program.Image → Kernel.Variables → Nat → Course) (image : Program.Image)
    (environment : Kernel.Variables) (me : Nat) : Course :=
  let e := evaluator start greatestNesting
  .act fun w =>
    ⟨w, toItsEnd e (Invocation.perform e image.arguments)
      (Invocation.initial image.name environment w me) fun _ s => .ended s.status⟩

end TreeTool.Shell
