import TreeTool.CommandLine.Run
import TreeTool.Program.Table
import TreeTool.Shell.Invocation

/-!
# A machine with a shell

`start` runs a program on a machine whose programs are a shell, utilities, scripts for them, and the
command line itself, which is what the parent of a program runs. `standard` is such a machine with
an empty directory to work in.
-/

namespace TreeTool.Host

open Files (Device Entry Place Problem Tree)
open Kernel (Schedule Strand World)
open Program (Image)

/-! ## Starting programs -/

def longestArgument : Nat := 131071

def image (m : Machine) (program : String) (as : List String) : Except Problem Image :=
  if (program :: as).any fun a => a.toList.contains '\x00' then .error .nulInData
  else if as.any fun a => a.utf8ByteSize > longestArgument then .error .tooManyArguments
  else
    let path := (m.environment.raw.get? (Text.Raw.ofText "PATH")).getD Program.defaultPath
    Program.findImage m.files m.here path (Text.Raw.ofText program) (as.map Text.Raw.ofText)

/-- The process that a program runs as, the pipes that its output and errors go to, and the
schedule in which it has not begun. -/
structure Started where
  process : Nat
  output : Nat
  errors : Nat
  schedule : Schedule

section

variable (course : Program.Start)

/-- Starts a program in a world. Its input is empty, and somebody reads what it writes. -/
def started (m : Machine) (image : Image) : Started :=
  let before := m.leftover.getD { world := { files := m.files }, strands := [] }
  let w := { before.world with files := m.files }
  let (w, input) := w.addOpening { channel := .device .null, reads := true }
  let output := w.pipes.size
  let (w, _, toOutput) := w.addPipe
  let (w, _, toErrors) := w.addPipe
  let id := w.next
  let w := { w with
    pipes := w.pipes.map fun p => { p with watched := true }
    processes := (id, { parent := 1, descriptors := [(0, input), (1, toOutput), (2, toErrors)]
                        here := m.here }) :: w.processes
    next := id + 1 }
  let strand : Strand := ⟨id, w.clock, course image m.environment.raw id⟩
  ⟨id, output, output + 1, ⟨w, before.strands ++ [strand]⟩⟩

def Started.isOver (s : Started) (mode : StderrMode) (w : World) : Bool :=
  w.hasEnded s.process && !w.hasWriter s.output &&
    (mode = .inherit || !w.hasWriter s.errors)

def greatestWork : Nat := 1000000000

def never : Nat := Number.pow10 30

def written (w : World) (pipe : Nat) : Text.Bytes := (w.pipes[pipe]?.map (·.content.toList)).getD []

def unwatch (w : World) (pipe : Nat) : World :=
  { w with pipes := w.pipes.modify pipe fun p => { p with watched := false } }

/-- Ends a program that has run too long. Nobody reads what others go on writing. -/
def Started.abandoned (s : Started) (mode : StderrMode) (c : Schedule) : Schedule :=
  let w := unwatch c.world s.output
  let w := if mode = .capture then unwatch w s.errors else w
  (Schedule.run (·.hasEnded s.process) none greatestWork ⟨(w.signal s.process 9).1, c.strands⟩).2

def startBy : Starter := fun m mode limit program as =>
  match image m program as with
  | .error p => (.notStarted p.text, m)
  | .ok i =>
    let s := started course m i
    let begun := s.schedule.world.clock
    let deadline := limit.map fun d => begun + d.nanos
    let (stop, c) := Schedule.run (s.isOver mode) deadline greatestWork s.schedule
    let ending := ((c.world.process? s.process).bind (·.ending)).getD (.exited 0)
    let elapsed := match stop with
      | .done => c.world.clock - begun
      | .late => never
    let behaviour := Behaviour.ends ⟨elapsed⟩ (written c.world s.output) (written c.world s.errors)
      ending
    let c := match stop with
      | .done => c
      | .late => s.abandoned mode c
    let left : Schedule := ⟨c.world.remove s.process, c.strands⟩
    (behaviour, { m with files := c.world.files, leftover := some left })

end

/-! ## Programs -/

/-- What the standard streams of a process refuse. Nothing is said of one that is not open. -/
def outlets (w : World) (me : Nat) : CommandLine.Outlets where
  stream? c text :=
    let descriptor := match c with
      | .output => 1
      | .errors => 2
    match (w.write me descriptor (Text.Raw.ofText text)).2 with
    | none | some .badDescriptor => none
    | some problem => some problem.text

/-- The command line as a program. It does all its work in one step, and its tool does not meet the
other processes. -/
def commandLine (start : Starter) : Program.Work Unit := do
  let r ← get
  let answer ← Program.Work.act fun w me =>
    let m : Machine :=
      { files := w.files, here := w.here me, environment := .ofRaw r.environment }
    let a := CommandLine.runOnto (outlets w me) start (RequestId.fresh w.clock me) m
      (r.image.arguments.map Text.Raw.toText)
    ({ w with files := a.files }, a)
  discard <| Program.Work.writeTo 1 (Text.Raw.ofText answer.stdout)
  discard <| Program.Work.writeTo 2 (Text.Raw.ofBytes answer.stderr)
  Program.Work.setStatus answer.exit.toNat

def commandLineName : String := "vata-wrap"

/-- What a process does that has become a program. Programs start programs, at most so often one
from another. -/
def course : Nat → Program.Start
  | 0 => fun _ _ _ => .ended 126
  | n + 1 => fun image environment me =>
    if image.utility = "sh" then Shell.course (course n) image environment me
    else if image.utility = commandLineName then
      (commandLine (startBy (course n))).course image environment me
    else match Program.utility? (course n) image.utility with
      | some work => work.course image environment me
      | none => .ended 126

def greatestChain : Nat := 1000000

def start : Starter := startBy (course greatestChain)

/-! ## The standard machine -/

def directoryNames : List Place :=
  [["bin"], ["usr"], ["usr", "bin"], ["usr", "local"], ["usr", "local", "bin"], ["etc"], ["dev"],
    ["tmp"], ["root"], ["home"], ["proc"], ["proc", "1"], ["proc", "self"], ["proc", "self", "fd"],
    ["sbin"], ["var"]]

def utilityNames : List String :=
  "sh" :: (Program.utilities fun _ _ _ => .ended 0).map (·.1)

def devices : List (Place × Entry) :=
  [(["dev", "null"], .device .null), (["dev", "zero"], .device .zero),
    (["dev", "full"], .device .full), (["dev", "tty"], .device .terminal),
    (["dev", "fd"], .link "/proc/self/fd"), (["dev", "stdin"], .link "/proc/self/fd/0"),
    (["dev", "stdout"], .link "/proc/self/fd/1"), (["dev", "stderr"], .link "/proc/self/fd/2")]

def greatestDescriptor : Nat := 64

def standardTree : Tree where
  entries :=
    directoryNames.map (fun p => (p, Entry.directory)) ++
    utilityNames.flatMap (fun u => [(["bin", u], Entry.utility u), (["usr", "bin", u], .utility u)]) ++
    [(["bin", "dash"], .utility "sh"), (["usr", "bin", "dash"], .utility "sh"),
      (["proc", "1", "exe"], .utility commandLineName)] ++ devices ++
    (List.range greatestDescriptor).map fun n =>
      (["proc", "self", "fd", toString n], .device (.stream n))

def standardEnvironment : Environment :=
  [("PATH", "/usr/local/sbin:/usr/local/bin:/usr/sbin:/usr/bin:/sbin:/bin")]

def workPlace : Place := ["tmp", "work"]

def standard : Machine where
  files := standardTree.makeDirectories [] workPlace
  here := workPlace
  environment := standardEnvironment

end TreeTool.Host
