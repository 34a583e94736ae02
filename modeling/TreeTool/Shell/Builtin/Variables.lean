import TreeTool.Shell.Builtin.Options

/-!
# Built-in commands about variables, options and arguments
-/

namespace TreeTool.Shell.Builtin

/-! ## Lists of variables -/

def showVariables (lead : String) (p : Variable → Bool) : Step Unit := do
  let chosen := (← get).bindings.filter fun (_, v) => p v
  (chosen.mergeSort fun a b => a.1 ≤ b.1).forM fun (x, v) =>
    put (lead ++ x ++ (match v.value with
      | some t => "=" ++ singleQuoted t
      | none => "") ++ "\n")

def named (a : String) : String × Option String :=
  let name := a.toList.takeWhile (· ≠ '=')
  match a.toList.dropWhile (· ≠ '=') with
  | _ :: value => (String.ofList name, some (String.ofList value))
  | [] => (a, none)

def declare (change : Variable → Variable) (a : String) : Step Unit := do
  let (x, value?) := named a
  match value?, (← get).binding? x with
  | none, some v => modify fun s => s.bind x (change v)
  | none, none =>
    if isName x then modify fun s => s.bind x (change {}) else fail (x ++ ": bad variable name")
  | some value, _ => do
    assign x value
    modify fun s => s.bind x (change ((s.binding? x).getD {}))

def declareAll (name : String) (change : Variable → Variable) (p : Variable → Bool)
    (as : List String) : Step Nat := do
  let (os, as) ← options "p" as
  if os.isEmpty && !as.isEmpty then as.forM (declare change)
  else showVariables (name ++ " ") p
  return 0

def «export» : List String → Step Nat :=
  declareAll "export" (fun v => { v with exported := true }) (·.exported)

def readonly : List String → Step Nat :=
  declareAll "readonly" (fun v => { v with fixed := true }) (·.fixed)

def unset (as : List String) : Step Nat := do
  let (os, as) ← options "vf" as
  as.forM fun x => do
    if (os.getLast?).any (·.1 = 'f') then
      modify fun s => { s with functions := s.functions.filter (·.1 ≠ x) }
    else if isName x then unassign x
    else fail (x ++ ": bad variable name")
  return 0

def makeAllLocal (as : List String) : Step Nat := do
  if (← get).locals.isEmpty then fail "not in a function"
  as.forM fun a => do
    let (x, value?) := named a
    if a = "-" then return
    else if !isName x then fail (x ++ ": bad variable name")
    else
      makeLocal x
      match value? with
      | some v => assign x v
      | none => return
  return 0

/-! ## Options and arguments -/

def setArguments (as : List String) : Step Unit :=
  modify fun s => { s with arguments := { list := as } }

def setOption (c : Char) (on : Bool) : Step Unit :=
  if c ∈ optionLetters || c.isDigit then
    modify fun s =>
      let others := s.options.filter (· ≠ c)
      { s with options := if on then c :: others else others }
  else fail ("Illegal option -" ++ c.toString)

def showOptions (on : Bool) : Step Unit := do
  let s ← get
  if on then put "Current option settings\n"
  optionNames.forM fun (name, c) =>
    if on then
      put (name ++ String.ofList (List.replicate (16 - name.length) ' ') ++
        (if s.has c then "on\n" else "off\n"))
    else put ("set " ++ (if s.has c then "-o " else "+o ") ++ name ++ "\n")

def setNamedOption (name : String) (on : Bool) : Step Unit :=
  match optionNames.lookup name with
  | some c => setOption c on
  | none => fail ("Illegal option -o " ++ name)

def setLetters (on : Bool) (as : List String) : List Char → Step (List String)
  | [] => return as
  | 'o' :: cs =>
    match as with
    | [] => do
      showOptions on
      setLetters on [] cs
    | name :: as => do
      setNamedOption name on
      setLetters on as cs
  | c :: cs => do
    if c.isDigit then fail ("Illegal option -" ++ c.toString)
    setOption c on
    setLetters on as cs

def setFrom : Nat → List String → Step Unit
  | 0, _ => return
  | _, [] => return
  | n + 1, a :: as => do
    match a.toList with
    | ['-'] => do
      setOption 'x' false
      setOption 'v' false
      if !as.isEmpty then setArguments as
    | ['-', '-'] => setArguments as
    | '-' :: cs => do setFrom n (← setLetters true as cs)
    | '+' :: cs => do setFrom n (← setLetters false as cs)
    | _ => setArguments (a :: as)

def set (as : List String) : Step Nat := do
  if as.isEmpty then showVariables "" (·.value.isSome) else setFrom (as.length + 1) as
  return 0

def shift (as : List String) : Step Nat := do
  let n ← match as with
    | [] => pure 1
    | a :: _ => numberOf a
  let list := (← get).arguments.list
  if list.length < n then fail "can't shift that many"
  else
    setArguments (list.drop n)
    return 0

/-! ## Options of scripts -/

structure Scan where
  index : Nat
  left : List Char

def setOptionArgument (silent : Bool) (c : Char) (message : String) : Step Unit := do
  if silent then assign "OPTARG" c.toString
  else
    discard <| writeTo 2 message
    unassign "OPTARG"

def keepScan (target : String) (c : Char) (index : Nat) (offset : Option Nat) : Step Unit := do
  modify fun s =>
    s.bind "OPTIND" { (s.binding? "OPTIND").getD {} with value := some (toString index) }
  assign target c.toString
  modify fun s => { s with arguments := { s.arguments with index, offset } }

def nextOption (allowed target : String) (as : List String) : Step Nat := do
  let place := (← get).arguments
  let silent := allowed.toList.head? = some ':'
  let current := match place.offset with
    | some n => if 1 < place.index then ((as[place.index - 2]?.getD "").toList).drop n else []
    | none => []
  let next : Option Scan :=
    if !current.isEmpty then some ⟨place.index, current⟩
    else match (as[place.index - 1]?.getD "").toList with
      | '-' :: c :: cs => some ⟨place.index + 1, c :: cs⟩
      | _ => none
  match next with
  | none => do
    keepScan target '?' place.index none
    return 1
  | some ⟨index, ['-']⟩ => do
    if current.isEmpty then
      keepScan target '?' index none
      return 1
    else
      report silent target '-' index none
      return 0
  | some ⟨index, c :: cs⟩ =>
    let whole := (as[index - 2]?.getD "").length
    let offset := fun (left : List Char) => some (whole - left.length)
    match if c = ':' then none else option? allowed.toList c with
    | none => do
      report silent target c index (offset cs)
      return 0
    | some false => do
      assign "OPTARG" ""
      keepScan target c index (offset cs)
      return 0
    | some true =>
      match cs, as[index - 1]? with
      | [], none => do
        setOptionArgument silent c ("No arg for -" ++ c.toString ++ " option\n")
        keepScan target (if silent then ':' else '?') index none
        return 0
      | [], some a => do
        assign "OPTARG" a
        keepScan target c (index + 1) none
        return 0
      | cs, _ => do
        assign "OPTARG" (String.ofList cs)
        keepScan target c index none
        return 0
  | some ⟨_, []⟩ => return 1
where
  report (silent : Bool) (target : String) (c : Char) (index : Nat) (offset : Option Nat) :
      Step Unit := do
    setOptionArgument silent c ("Illegal option -" ++ c.toString ++ "\n")
    keepScan target '?' index offset

def getopts (as : List String) : Step Nat := do
  let (_, as) ← options "" as
  match as with
  | allowed :: target :: rest =>
    let s ← get
    let list := if rest.isEmpty then s.arguments.list else rest
    if s.arguments.index > list.length + 1 then
      modify fun s => { s with arguments := { s.arguments with index := 1, offset := none } }
    nextOption allowed target list
  | _ => fail "Usage: getopts optstring var [arg...]"

/-! ## Reading a line -/

structure Line where
  pieces : List Piece := [.stretch false]
  ended : Bool := false

def readLine (raw : Bool) : Nat → (escaped : Bool) → Line → Step Line
  | 0, _, l => return l
  | n + 1, escaped, l => do
    match ← Kernel.Activity.read (← get).me 0 1 with
    | .error _ => return l
    | .ok b =>
      match b.toList with
      | [] => return l
      | x :: _ =>
        let c := Char.ofNat x.toNat
        if c = '\x00' then readLine raw n escaped l
        else if escaped then
          let added := if c = '\n' then [] else [Piece.char ⟨c, true⟩ .solid]
          readLine raw n false { l with pieces := .stretch false :: added ++ l.pieces }
        else if c = '\\' && !raw then readLine raw n true l
        else if c = '\n' then return { l with ended := true }
        else readLine raw n false { l with pieces := .char ⟨c, false⟩ .open_ :: l.pieces }

def longestLine : Nat := 1000000000

def assignFields : List String → List String → Step Unit
  | [], _ => return
  | x :: xs, fields => do
    assign x (fields.head?.getD "")
    assignFields xs fields.tail

def read (as : List String) : Step Nat := do
  let (os, as) ← options "p:r" as
  if as.isEmpty then fail "arg count"
  let l ← readLine (os.any (·.1 = 'r')) longestLine false {}
  let fields := Cutting.fields (separators (← get)) (some as.length) l.pieces.reverse
  assignFields as (fields.map Piece.text)
  return if l.ended then 0 else 1

end TreeTool.Shell.Builtin
