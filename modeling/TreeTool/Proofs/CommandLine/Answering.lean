import TreeTool.CommandLine.Run

/-!
# What a command line comes to

Only a plan to run starts the tool. So a command line that has none is answered in the same way
whatever the tool would have done, and a plan to show a line leaves nothing but that line. In a
valid environment the settings of a command line without a settings file are always found.
-/

namespace TreeTool

namespace Settings

variable {s : Settings} {lookup : String → Option String}

def Limited (lookup : String → Option String) : Prop :=
  ∀ raw, override? lookup timeoutVariable = some raw → ∃ n, millisOf raw = .ok n

theorem exists_withOverrides (s : Settings) (h : Limited lookup) :
    ∃ s', s.withOverrides lookup = .ok s' := by
  rw [withOverrides]
  cases hr : override? lookup timeoutVariable with
  | none => exact ⟨_, rfl⟩
  | some raw =>
    obtain ⟨n, hn⟩ := h raw hr
    exact ⟨_, by simp only [hn]; rfl⟩

end Settings

namespace CommandLine

/-- A journal, if one is asked for, can be started, and a time limit, if one is set, is a number. -/
structure Valid (e : Environment) : Prop where
  journal : (logging e).stopped = false
  limited : Settings.Limited e.get?

/-- The machine with the variables of its environment file. -/
def informed (m : Machine) : Machine := { m with environment := EnvironmentFile.load m }

/-- A command line starts the tool: it is read, and its plan is to run a command. -/
def Starts (m : Machine) (args : List String) : Prop :=
  (logging (informed m).environment).stopped = false ∧
    ∃ i s c, read args = .ok (.invocation i) ∧ i.plan (informed m) = .run s c

/-! ## Streams that take everything -/

namespace Outlets

theorem refusal?_all (c : Channel) (text : String) : ({} : Outlets).refusal? c text = none := by
  rw [refusal?]
  split <;> rfl

theorem taken_all (c : Channel) (text : String) : ({} : Outlets).taken c text = text := by
  rw [taken, refusal?_all]
  rfl

end Outlets

theorem Forwarded.print_all (f : Forwarded) (c : Channel) (line : String) (status : Int) :
    f.print {} c line status = (f.add line c).answer status := by
  rw [print, put, Outlets.refusal?_all]

/-! ## Plans and answers -/

variable {m : Machine} {args : List String} {i : Invocation} {line : String}

theorem runOnto_of_read (hj : (logging (informed m).environment).stopped = false)
    (hr : read args = .ok (.invocation i)) (out : Outlets) (start : Starter) (id : RequestId) :
    runOnto out start id m args =
      i.perform out start id (logging (informed m).environment) (informed m) := by
  have hj : (logging (EnvironmentFile.load m)).stopped = false := hj
  rw [runOnto]
  simp only [hj, Bool.false_eq_true, if_false, hr]
  rfl

theorem run_of_shown (hj : (logging (informed m).environment).stopped = false)
    (hr : read args = .ok (.invocation i)) (hp : i.plan (informed m) = .shown line)
    (start : Starter) (id : RequestId) :
    run start id m args = { exit := 0, stdout := line ++ "\n", files := m.files } := by
  rw [run, runOnto_of_read hj hr, Invocation.perform, hp]
  simp only [Forwarded.print_all]
  simp [Forwarded.add, Forwarded.answer, bytes, Text.Utf8.encode, informed]

theorem not_starts_of_shown (hr : read args = .ok (.invocation i))
    (hp : i.plan (informed m) = .shown line) : ¬ Starts m args := by
  rintro ⟨-, j, s, c, hj, hs⟩
  rw [hr] at hj
  cases hj
  rw [hp] at hs
  nomatch hs

end CommandLine

end TreeTool
