import TreeTool.Kernel.World

/-!
# Courses of processes

The course of a process is what it does from now on: it acts on the world, pauses, starts a child
or ends. A pause is over after its time, or as soon as the world is as it waits for.

An `Activity` is a part of a course that comes to a result.
-/

namespace TreeTool.Kernel

open Files (Problem)

mutual

inductive Course
  | ended (status : Nat)
  | act (f : World → Turn)
  | pause (duration : Option Nat) (ready : World → Bool) (next : Course)
  | fork (delay : Nat) (child next : Nat → Course)

inductive Turn
  | mk (w : World) (next : Course)

end

instance : Inhabited Course := ⟨.ended 0⟩

def Activity (α : Type) : Type := (α → Course) → Course

namespace Activity

instance : Monad Activity where
  pure a := fun k => k a
  bind t f := fun k => t fun a => f a k

def act {α : Type} (f : World → World × α) : Activity α := fun k =>
  .act fun w =>
    let (w, a) := f w
    ⟨w, k a⟩

def change (f : World → World) : Activity Unit := act fun w => (f w, ())

def look {α : Type} (f : World → α) : Activity α := act fun w => (w, f w)

def await (ready : World → Bool) : Activity Unit := fun k => .pause none ready (k ())

def sleep (nanos : Nat) : Activity Unit := fun k => .pause (some nanos) (fun _ => false) (k ())

def awaitFor (nanos : Nat) (ready : World → Bool) : Activity Unit := fun k =>
  .pause (some nanos) ready (k ())

def fork (delay : Nat) (child : Nat → Course) : Activity Nat := fun k => .fork delay child k

def exit {α : Type} (status : Nat) : Activity α := fun _ => .ended status

/-! ## Reading and writing -/

def read (me d n : Nat) : Activity (Except Problem ByteArray) := do
  await fun w => w.readable me d
  act fun w =>
    match w.read me d n with
    | (w, .bytes b) => (w, .ok b)
    | (w, .problem p) => (w, .error p)
    | (w, _) => (w, .ok .empty)

def blockSize : Nat := 65536

def readAllFrom (me d : Nat) : Nat → ByteArray → Activity (Except Problem ByteArray)
  | 0, b => return .ok b
  | n + 1, b => do
    match ← read me d blockSize with
    | .error p => return .error p
    | .ok c => if c.isEmpty then return .ok b else readAllFrom me d n (b ++ c)

def greatestBlocks : Nat := 100000

def readAll (me d : Nat) : Activity (Except Problem String) := do
  match ← readAllFrom me d greatestBlocks .empty with
  | .ok b => return .ok (Text.Raw.ofArray b)
  | .error p => return .error p

def write (me d : Nat) (s : String) : Activity (Option Problem) := do
  await fun w => w.writable me d
  act fun w =>
    match w.write me d s with
    | (w, some .brokenPipe) => ((w.signal me 13).1, some .brokenPipe)
    | r => r

end Activity

end TreeTool.Kernel
