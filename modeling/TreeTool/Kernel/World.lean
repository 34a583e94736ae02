import TreeTool.Files.Tree
import TreeTool.Kernel.Signal
import TreeTool.Text.Raw
import TreeTool.Tool.Behaviour

/-!
# The world of processes

Processes share files, pipes and a clock. A process reaches files and pipes through numbered
descriptors; a descriptor leads to an opening, which several descriptors and processes may share,
together with its position. A pipe is at its end when nobody can write to it any more, and broken
when nobody can read from it.
-/

namespace TreeTool.Kernel

open Files (Place Tree Entry Problem Device)

inductive Channel
  | file (place : Place)
  | directory
  | pipe (index : Nat)
  | device (d : Device)
  deriving DecidableEq, Repr

structure Opening where
  channel : Channel
  position : Nat := 0
  reads : Bool := false
  writes : Bool := false
  appends : Bool := false
  deriving DecidableEq, Repr

instance : Inhabited Opening := ⟨⟨.device .null, 0, false, false, false⟩⟩

structure Pipe where
  content : ByteArray := .empty
  taken : Nat := 0
  watched : Bool := false

instance : Inhabited Pipe := ⟨{}⟩

abbrev Variables := List (String × String)

namespace Variables

def get? (vs : Variables) (x : String) : Option String := vs.lookup x

def remove (vs : Variables) (x : String) : Variables := vs.filter (·.1 ≠ x)

end Variables

inductive Reaction
  | usual | ignored | noted
  deriving DecidableEq, Repr

structure Process where
  parent : Nat
  descriptors : List (Nat × Nat)
  here : Place
  reactions : List (Nat × Reaction) := []
  noted : List Nat := []
  stopped : Bool := false
  doom : Option Nat := none
  ending : Option Ending := none

structure World where
  files : Tree
  clock : Nat := 0
  openings : Array Opening := #[]
  pipes : Array Pipe := #[]
  processes : List (Nat × Process) := []
  next : Nat := 4242

instance : Inhabited World := ⟨{ files := {} }⟩

inductive Access
  | read | create | append | update
  deriving DecidableEq, Repr

namespace Access

def opening (a : Access) (c : Channel) : Opening where
  channel := c
  reads := a = .read || a = .update
  writes := a ≠ .read
  appends := a = .append

end Access

namespace World

def process? (w : World) (id : Nat) : Option Process := w.processes.lookup id

def modify (w : World) (id : Nat) (f : Process → Process) : World :=
  { w with processes := w.processes.map fun (i, p) => (i, if i = id then f p else p) }

def here (w : World) (me : Nat) : Place := ((w.process? me).map (·.here)).getD []

/-! ## Descriptors -/

def descriptors (w : World) (me : Nat) : List (Nat × Nat) :=
  ((w.process? me).map (·.descriptors)).getD []

def opening? (w : World) (me d : Nat) : Option (Nat × Opening) :=
  match (w.descriptors me).lookup d with
  | none => none
  | some i => w.openings[i]?.map fun o => (i, o)

def holds (w : World) (p : Opening → Bool) : Bool :=
  w.processes.any fun (_, x) => x.ending.isNone &&
    x.descriptors.any fun (_, i) => (w.openings[i]?.map p).getD false

def hasReader (w : World) (pipe : Nat) : Bool :=
  (w.pipes[pipe]?.map (·.watched)).getD false || w.holds fun o => o.channel = .pipe pipe && o.reads

def hasWriter (w : World) (pipe : Nat) : Bool := w.holds fun o => o.channel = .pipe pipe && o.writes

def free (used : List Nat) (n : Nat) : Nat :=
  ((List.range (used.length + 1)).map (n + ·)).find? (fun d => d ∉ used) |>.getD n

def setDescriptor (w : World) (me d i : Nat) : World :=
  w.modify me fun p => { p with descriptors := (d, i) :: p.descriptors.filter (·.1 ≠ d) }

def close (w : World) (me d : Nat) : World :=
  w.modify me fun p => { p with descriptors := p.descriptors.filter (·.1 ≠ d) }

def addOpening (w : World) (o : Opening) : World × Nat :=
  ({ w with openings := w.openings.push o }, w.openings.size)

def attachNumber (w : World) (me i : Nat) : World × Nat :=
  let d := free ((w.descriptors me).map (·.1)) 0
  (w.setDescriptor me d i, d)

def attach (w : World) (me : Nat) (o : Opening) : World × Nat :=
  let (w, i) := w.addOpening o
  w.attachNumber me i

def addPipe (w : World) : World × Nat × Nat :=
  let k := w.pipes.size
  let w := { w with pipes := w.pipes.push {} }
  let (w, i) := w.addOpening { channel := .pipe k, reads := true }
  let (w, j) := w.addOpening { channel := .pipe k, writes := true }
  (w, i, j)

/-! ## Opening paths -/

def openDevice (w : World) (me : Nat) (a : Access) (d : Device) : Except Problem Opening :=
  match d with
  | .terminal => .error .noDevice
  | .stream n =>
    match w.opening? me n with
    | some (_, o) => .ok { a.opening o.channel with appends := o.appends || a = .append }
    | none => .error .missing
  | d => .ok (a.opening (.device d))

def openPath (w : World) (me : Nat) (a : Access) (path : String) : Except Problem (World × Opening) :=
  let path := Text.Raw.toText path
  match a with
  | .read =>
    match w.files.find (w.here me) path with
    | .error p => .error p
    | .ok (_, .directory) => .ok (w, a.opening .directory)
    | .ok (_, .device d) => (w.openDevice me a d).map fun o => (w, o)
    | .ok (place, _) => .ok (w, a.opening (.file place))
  | _ =>
    match w.files.target (w.here me) path with
    | .error p => .error p
    | .ok (_, some (.device d)) =>
      match d with
      | .stream n =>
        match w.openDevice me a (.stream n) with
        | .ok o =>
          match o.channel, a with
          | .file place, .create =>
            match w.files.get? place with
            | some (.file _ x) => .ok ({ w with files := w.files.put place (.file [] x) }, o)
            | _ => .ok (w, o)
          | _, _ => .ok (w, o)
        | .error p => .error p
      | d => (w.openDevice me a d).map fun o => (w, o)
    | .ok (place, some (.file old x)) =>
      let content := if a = .create then [] else old
      .ok ({ w with files := w.files.put place (.file content x) }, a.opening (.file place))
    | .ok (place, _) =>
      .ok ({ w with files := w.files.put place (.file [] false) }, a.opening (.file place))

/-! ## Reading and writing -/

inductive Received
  | bytes (b : ByteArray)
  | finished
  | later
  | problem (p : Problem)

def setPosition (w : World) (i n : Nat) : World :=
  { w with openings := w.openings.modify i fun o => { o with position := n } }

def contentAt (w : World) (place : Place) : Text.Bytes :=
  match w.files.get? place with
  | some (.file bs _) => bs
  | some (.utility _) => Files.utilityContent
  | _ => []

def read (w : World) (me d n : Nat) : World × Received :=
  match w.opening? me d with
  | none => (w, .problem .badDescriptor)
  | some (i, o) =>
    if !o.reads then (w, .problem .badDescriptor)
    else match o.channel with
      | .directory => (w, .problem .isDirectory)
      | .file place =>
        let bs := ((w.contentAt place).drop o.position).take n
        if bs.isEmpty then (w, .finished)
        else (w.setPosition i (o.position + bs.length), .bytes ⟨bs.toArray⟩)
      | .pipe k =>
        let p := w.pipes[k]?.getD {}
        let n := min n (p.content.size - p.taken)
        if 0 < n then
          let bs := p.content.extract p.taken (p.taken + n)
          ({ w with pipes := w.pipes.modify k fun p => { p with taken := p.taken + n } }, .bytes bs)
        else if w.hasWriter k then (w, .later)
        else (w, .finished)
      | .device .zero | .device .full => (w, .bytes ⟨Array.replicate n 0⟩)
      | .device _ => (w, .finished)

def readable (w : World) (me d : Nat) : Bool :=
  match (w.read me d 1).2 with
  | .later => false
  | _ => true

def pipeRoom : Nat := 65536

def writable (w : World) (me d : Nat) : Bool :=
  match w.opening? me d with
  | some (_, ⟨.pipe k, _, _, _, _⟩) =>
    let p := w.pipes[k]?.getD {}
    p.watched || p.content.size - p.taken < pipeRoom || !w.hasReader k
  | _ => true

def overlaid (old : Text.Bytes) (position : Nat) (bs : Text.Bytes) : Text.Bytes :=
  old.take position ++ List.replicate (position - old.length) 0 ++ bs ++
    old.drop (position + bs.length)

def write (w : World) (me d : Nat) (s : String) : World × Option Problem :=
  match w.opening? me d with
  | none => (w, some .badDescriptor)
  | some (i, o) =>
    if !o.writes then (w, some .badDescriptor)
    else if s.isEmpty then (w, none)
    else match o.channel with
      | .directory => (w, some .badDescriptor)
      | .file place =>
        match w.files.get? place with
        | some (.file old x) =>
          let bs := Text.Raw.toBytes s
          let position := if o.appends then old.length else o.position
          let w := w.setPosition i (position + bs.length)
          ({ w with files := w.files.put place (.file (overlaid old position bs) x) }, none)
        | _ => (w, none)
      | .pipe k =>
        if w.hasReader k then
          ({ w with pipes := w.pipes.modify k fun p =>
              { p with content := Text.Raw.pushTo p.content s } }, none)
        else (w, some .brokenPipe)
      | .device .full => (w, some .noSpace)
      | .device _ => (w, none)

/-! ## Processes and signals -/

def reaction (w : World) (id signal : Nat) : Reaction :=
  (((w.process? id).map (·.reactions)).bind fun rs => rs.lookup signal).getD .usual

def setReaction (w : World) (id signal : Nat) (r : Reaction) : World :=
  w.modify id fun p =>
    { p with reactions := (signal, r) :: p.reactions.filter (·.1 ≠ signal) }

def addChild (w : World) (parent : Nat) : World × Nat :=
  match w.process? parent with
  | none => (w, w.next)
  | some p =>
    ({ w with
        processes := (w.next, { p with parent := parent, noted := [], doom := none }) :: w.processes,
        next := w.next + 1 }, w.next)

def remove (w : World) (id : Nat) : World :=
  { w with processes := w.processes.filter (·.1 ≠ id) }

def hasEnded (w : World) (id : Nat) : Bool :=
  match w.process? id with
  | none => true
  | some p => p.ending.isSome

def firstOwn : Nat := 10

def renew (w : World) (id : Nat) : World :=
  w.modify id fun p =>
    { p with
      descriptors := p.descriptors.filter (·.1 < firstOwn),
      reactions := p.reactions.filter (·.2 ≠ .noted), noted := [] }

def signal (w : World) (id n : Nat) : World × Bool :=
  match w.process? id with
  | none => (w, false)
  | some p =>
    if n = 0 || p.ending.isSome then (w, true)
    else match if Signal.isFinal n then .usual else w.reaction id n with
      | .ignored => (w, true)
      | .noted =>
        (w.modify id fun p => { p with noted := p.noted ++ [n], stopped := p.stopped && n ≠ 18 },
          true)
      | .usual =>
        match Signal.effect n with
        | .ends => (w.modify id fun p => { p with doom := p.doom.or (some n) }, true)
        | .stops => (w.modify id fun p => { p with stopped := true }, true)
        | .resumes => (w.modify id fun p => { p with stopped := false }, true)
        | .nothing => (w, true)

def finish (w : World) (id : Nat) (e : Ending) : World :=
  let parent := ((w.process? id).map (·.parent)).getD 0
  ((w.modify id fun p => { p with descriptors := [], ending := some e }).signal parent 17).1

end World

end TreeTool.Kernel
