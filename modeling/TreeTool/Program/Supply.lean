import TreeTool.Program.Work

/-!
# Lines of several files

A supply hands out the lines of files one after the other, and reads no further than it has to. A
file that cannot be read is reported when its turn comes.
-/

namespace TreeTool.Program

open Files (Problem)

/-- Lines that have been read but not handed out, a line whose end has not been read, the file that
is being read, and those whose turn will come. -/
structure Supply where
  ready : List String := []
  begun : String := ""
  current : Option Nat := none
  name : String := "-"
  files : List String := []

namespace Supply

def ofFiles (files : List String) : Supply :=
  { files := if files.isEmpty then ["-"] else files }

structure Refusal where
  cannotOpen : String → Problem → Work Unit
  cannotRead : String → Problem → Work Unit

def openNext (r : Refusal) (s : Supply) : Work Supply := do
  match s.files with
  | [] => return s
  | p :: ps => do
    let s := { s with files := ps }
    if p = "-" then return { s with current := some 0, name := p }
    else match ← Work.openPath .read p with
      | .ok d => return { s with current := some d, name := p }
      | .error e => do
        r.cannotOpen p e
        return s

def split (begun : String) (block : String) : List String × String :=
  let ls := Work.lines (begun ++ block)
  match ls.getLast? with
  | some l => if l.toList.getLast? = some '\n' then (ls, "") else (ls.dropLast, l)
  | none => ([], "")

def filled (r : Refusal) : Nat → Supply → Work Supply
  | 0, s => return s
  | n + 1, s => do
    if !s.ready.isEmpty then return s
    match s.current with
    | none => if s.files.isEmpty then return s else filled r n (← s.openNext r)
    | some d => do
      let finish := fun (s : Supply) => do
        if d ≠ 0 then Work.close d
        let rest := if s.begun.isEmpty then [] else [s.begun]
        return { s with ready := rest, begun := "", current := none }
      match ← (Kernel.Activity.read (← get).me d 4096 : Kernel.Activity _) with
      | .error e => do
        r.cannotRead s.name e
        filled r n (← finish s)
      | .ok b =>
        if b.isEmpty then filled r n (← finish s)
        else
          let (ready, begun) := split s.begun (Text.Raw.ofArray b)
          filled r n { s with ready, begun }

def greatestBlocks : Nat := 1000000000

def next? (r : Refusal) (s : Supply) : Work (Option String × Supply) := do
  let s ← s.filled r greatestBlocks
  match s.ready with
  | [] => return (none, s)
  | l :: ls => return (some l, { s with ready := ls })

def hasNext (r : Refusal) (s : Supply) : Work (Bool × Supply) := do
  let s ← s.filled r greatestBlocks
  return (!s.ready.isEmpty, s)

end Supply

end TreeTool.Program
