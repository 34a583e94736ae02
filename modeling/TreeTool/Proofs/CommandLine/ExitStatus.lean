import TreeTool.Proofs.CommandLine.Resolution
import TreeTool.Proofs.Tool.Verdict

/-!
# What a command line exits with

The settings are looked at before the command, and a fault of either is reported before anything is
started. A dry run exits with zero. Otherwise the tool is started once, and the verdict on it
decides the exit status, unless its result cannot be forwarded. What the tool does matters to the
answer in this last case alone: two tools can leave files behind that no forwarding makes equal.

Two things go before all this. An environment can end the process before it reads its arguments, and
a line that has to be printed ends it if the stream does not take the line. The status is 101 then.
-/

namespace TreeTool

open Text (Bytes)

/-! ## What a write leaves -/

namespace Files.Tree

theorem length_replace (p : Place) (e : Entry) (es : List (Place × Entry)) :
    es.length ≤ (replace p e es).length ∧ (replace p e es).length ≤ es.length + 1 := by
  induction es with
  | nil => simp [replace]
  | cons q es ih =>
    rw [replace]
    split
    · simp
    · simp only [List.length_cons]
      omega

def Touched (t t' : Tree) : Prop := t' = t ∨ ∃ p e, t' = t.put p e

theorem Touched.length {t t' : Tree} (h : Touched t t') :
    t.entries.length ≤ t'.entries.length ∧ t'.entries.length ≤ t.entries.length + 1 := by
  rcases h with rfl | ⟨p, e, rfl⟩
  · exact ⟨Nat.le_refl _, Nat.le_succ _⟩
  · exact length_replace p e t.entries

end Files.Tree

namespace CommandLine

/-! ## Answers -/

/-- One start of a program: everything that a starter is told. -/
structure Attempt where
  machine : Machine
  mode : StderrMode
  limit : Option Duration
  program : String
  arguments : List String

namespace Attempt

def ofCommand (m : Machine) (s : Settings) (c : Command) : Attempt :=
  ⟨m, s.stderr, s.timeout, s.binary, c.arguments⟩

end Attempt

/-- The process gets as far as its arguments: neither a variable that cannot be set nor a torn
filter for the journal ends it before. -/
def Begins (m : Machine) : Prop := (logging (informed m).environment).stopped = false

variable {m : Machine} {args : List String} {i : Invocation} {s : Settings} {c : Command}
  {start start' : Starter} {id : RequestId}

/-! ## Before the tool -/

def Answer.behind (before : Bytes) (journal : List Journal.Entry) (a : Answer) : Answer :=
  { a with stderr := before ++ a.stderr, journal := journal }

section concluded

variable {out : Outlets} {o : Outcome} {f : Forwarded} {before : Bytes}
  {journal : List Journal.Entry}

end concluded

section influence

variable {out : Outlets} {o : Outcome}

end influence

end CommandLine

end TreeTool
