import TreeTool.Outcome.Saving

/-!
# Writing to a target of limited room

A writer takes a bounded number of bytes in all. Each time it is offered bytes it may take fewer
than there is room for, but at least one as long as there is room; `stride` says how many at most.
`Writer.put` offers the rest again until everything is taken or nothing is. An outcome is written in
one of four renderings, and a write fails when the writer takes nothing more.
-/

namespace TreeTool

open Text (Bytes)

structure Writer where
  room : Nat
  written : Bytes := []
  stride : Nat → Nat := id

namespace Writer

def takes (w : Writer) (n : Nat) : Nat := min (min n w.room) (max 1 (w.stride w.room))

def accept (w : Writer) (bs : Bytes) : Writer :=
  { w with room := w.room - w.takes bs.length,
           written := w.written ++ bs.take (w.takes bs.length) }

def put (w : Writer) (bs : Bytes) : Writer × Bool :=
  if _ : bs = [] then (w, true)
  else if _ : w.room = 0 then (w, false)
  else (w.accept bs).put (bs.drop (w.takes bs.length))
  termination_by bs.length
  decreasing_by
    have : 0 < bs.length := List.length_pos_iff.2 ‹_›
    simp only [List.length_drop, takes]
    omega

def putAll (w : Writer) : List String → Writer × Bool
  | [] => (w, true)
  | s :: ss =>
    match w.put (Text.Utf8.encode s.toList) with
    | (w', true) => w'.putAll ss
    | (w', false) => (w', false)

inductive Failure
  | writeZero
  deriving DecidableEq, Repr

def Failure.name : Failure → String
  | writeZero => "WriteZero"

end Writer

namespace Outcome

/-- How an outcome is written: each stream with a newline after it, or a part of it bare. -/
inductive Rendering
  | lines
  | bare (p : Part)
  deriving DecidableEq, Repr

def Rendering.parts (o : Outcome) : Rendering → List String
  | lines => o.printed
  | bare p => p.parts o

def writeTo (o : Outcome) (r : Rendering) (w : Writer) : Writer × Except Writer.Failure Unit :=
  match w.putAll (r.parts o) with
  | (w', true) => (w', .ok ())
  | (w', false) => (w', .error .writeZero)

end Outcome

end TreeTool
