import TreeTool.Kernel.Course

/-!
# Carrying out courses

Processes take turns: the one that can go on at the earliest time does, of several the one that
has been going on. The clock moves only when every process waits. `Schedule.run` goes on until the
world is as wanted or a deadline has passed; a world in which nothing can ever go on stays so until
its deadline.
-/

namespace TreeTool.Kernel

structure Strand where
  id : Nat
  since : Nat
  course : Course

instance : Inhabited Strand := ⟨⟨0, 0, .ended 0⟩⟩

namespace Strand

def due (s : Strand) (w : World) : Option Nat :=
  match w.process? s.id with
  | none => some w.clock
  | some p =>
    if p.doom.isSome then some w.clock
    else if p.stopped then none
    else match s.course with
      | .pause duration ready _ =>
        if ready w then some w.clock else duration.map fun d => max w.clock (s.since + d)
      | _ => some (max w.clock s.since)

end Strand

structure Schedule where
  world : World
  strands : List Strand

namespace Schedule

def first (w : World) : List Strand → Option (Nat × Strand × List Strand)
  | [] => none
  | s :: ss =>
    match s.due w, first w ss with
    | none, none => none
    | none, some (t, r, others) => some (t, r, s :: others)
    | some t, none => some (t, s, ss)
    | some t, some (u, r, others) => if t ≤ u then some (t, s, ss) else some (u, r, s :: others)

def forkCost : Nat := 100000

def placed (s : Strand) (others : List Strand) : List Strand :=
  match s.course with
  | .pause .. => others ++ [s]
  | _ => s :: others

def advance (w : World) (s : Strand) (others : List Strand) : Schedule :=
  let goOn := fun (w : World) (next : Course) =>
    (⟨w, placed { s with since := w.clock, course := next } others⟩ : Schedule)
  match w.process? s.id with
  | none => ⟨w, others⟩
  | some p =>
    match p.doom with
    | some n => ⟨w.finish s.id (.killed n), others⟩
    | none =>
      match s.course with
      | .ended status => ⟨w.finish s.id (.exited (status % 256)), others⟩
      | .act f =>
        match f w with
        | ⟨w, next⟩ => goOn w next
      | .pause _ _ next => goOn w next
      | .fork delay child next =>
        let (w, id) := w.addChild s.id
        let started : Strand := ⟨id, w.clock, .pause (some delay) (fun _ => false) (child id)⟩
        let goesOn : Strand :=
          ⟨s.id, w.clock, .pause (some forkCost) (fun _ => false) (next id)⟩
        ⟨w, others ++ [started, goesOn]⟩

inductive Stop
  | done
  | late
  deriving DecidableEq, Repr

/-- Runs until the world is as wanted, but not beyond the deadline. The first argument bounds the
number of steps; a run that uses it up counts as one that does not end. -/
def run (wanted : World → Bool) (deadline : Option Nat) : Nat → Schedule → Stop × Schedule
  | 0, c => (.late, c)
  | n + 1, c =>
    if wanted c.world then (.done, c)
    else match first c.world c.strands with
      | none => (.late, c)
      | some (t, s, others) =>
        if deadline.any (· < t) then (.late, c)
        else run wanted deadline n (advance { c.world with clock := t } s others)

end Schedule

end TreeTool.Kernel
