import TreeTool.Proofs.Command.Building
import TreeTool.Proofs.Lookup

/-!
# Sessions at a workbench

A step stores exactly the command it asks for, under its target, or it fails and leaves the
workbench as it was. By induction over the steps, each command held after a run is what some step
of the run has returned. Whatever way it was made, its operands and bundle fit its operation, and
the text behind `-o` in its argument vector is read back as its bundle.
-/

namespace TreeTool

def following (mark : String) : List String → Option String
  | t :: u :: ts => if t = mark then some u else following mark (u :: ts)
  | _ => none

theorem following_append {mark t : String} {as : List String} (h : mark ∉ as) (bs : List String) :
    following mark (as ++ mark :: t :: bs) = some t := by
  induction as with
  | nil => simp [following]
  | cons a as ih =>
    obtain ⟨ha, has⟩ := List.ne_and_not_mem_of_not_mem_cons h
    obtain ⟨u, us, hu⟩ := List.exists_cons_of_ne_nil
      (show as ++ mark :: t :: bs ≠ [] by simp)
    rw [List.cons_append, hu, following, if_neg (Ne.symm ha), ← hu, ih has]

namespace Command

/-- What holds of every command, however it was made. -/
structure Coherent (c : Command) : Prop where
  count : c.operands.length = c.operation.arity
  kind : ∀ b, c.bundle = some b → c.operation.bundleKind = some b.kind
  reread : ∀ b, c.bundle = some b →
    ∃ t, following "-o" c.arguments = some t ∧ Bundle.read c.operation c.encoding t = .ok b

theorem option_mark_not_mem (e : Encoding) (f : Flags) (op : Operation) :
    "-o" ∉ ["-r", Coded.token e] ++ f.tokens ++ [Coded.token op] := by
  have hf : "-o" ∉ f.tokens := fun h => absurd (f.mem_words_of_mem_tokens _ h) (by decide)
  have he : "-o" ≠ Coded.token e := by cases e <;> decide
  have ho : "-o" ≠ Coded.token op := by cases op <;> decide
  simp [hf, he, ho]

theorem following_arguments {c : Command} {b : Bundle} (h : c.bundle = some b) :
    following "-o" c.arguments = some (b.text c.encoding) := by
  rw [arguments, optionArguments, h]
  simpa using following_append (option_mark_not_mem c.encoding c.flags c.operation) c.operands

theorem coherent (c : Command) : c.Coherent where
  count := c.operands_length
  kind := c.bundle_kind
  reread b hb :=
    ⟨b.text c.encoding, following_arguments hb, Bundle.read_text (c.bundle_kind b hb) c.encoding⟩

end Command

namespace Workbench

/-! ## One step -/

theorem get?_put_self (w : Workbench) (name : String) (c : Command) :
    (w.put name c).get? name = some c := by
  simp [put, get?]

theorem get?_put_of_ne {name other : String} (h : other ≠ name) (w : Workbench) (c : Command) :
    (w.put name c).get? other = w.get? other := by
  rw [get?, put, lookup_cons_of_ne h, lookup_filter_ne h]
  rfl

/-- What a step does in terms of what it asks for. -/
structure Exact (w : Workbench) (s : Step) : Prop where
  unknown : ∀ x, s.request w = .error x → w.run s = (w, .error x)
  built : ∀ q, s.request w = .ok q →
    (q.Sound ↔ ∃ c, c.request = q ∧ w.run s = (w.put s.target c, .ok c))
  miscounted : ∀ q, s.request w = .ok q →
    (q.operands.length ≠ q.operation.arity ↔ w.run s = (w, .error (.fault q.miscount)))
  mismatched : ∀ q, s.request w = .ok q →
    (q.operands.length = q.operation.arity ∧ ¬ Command.Fits q.operation q.bundle ↔
      w.run s = (w, .error (.fault (Command.mismatch q.operation q.bundle))))
  stored : ∀ c, (w.run s).2 = .ok c → (w.run s).1.get? s.target = some c
  kept : ∀ name, name ≠ s.target → (w.run s).1.get? name = w.get? name

theorem run_of_command_ok {w : Workbench} {s : Step} {c : Command} (h : s.command w = .ok c) :
    w.run s = (w.put s.target c, .ok c) := by
  rw [run, h]

theorem run_of_command_error {w : Workbench} {s : Step} {x : Failure}
    (h : s.command w = .error x) : w.run s = (w, .error x) := by
  rw [run, h]

theorem run_cases {w : Workbench} {s : Step} {q : Request} (h : s.request w = .ok q) :
    (q.Sound ∧ ∃ c, c.request = q ∧ w.run s = (w.put s.target c, .ok c)) ∨
    (q.operands.length ≠ q.operation.arity ∧ w.run s = (w, .error (.fault q.miscount))) ∨
    (q.operands.length = q.operation.arity ∧ ¬ Command.Fits q.operation q.bundle ∧
      w.run s = (w, .error (.fault (Command.mismatch q.operation q.bundle)))) := by
  have hc : s.command w = q.build.mapError .fault := by
    rw [s.command_eq, h]
    rfl
  rcases q.build_cases with ⟨hq, c, hb, hr⟩ | ⟨hn, hb⟩ | ⟨hn, hk, hb⟩ <;> rw [hb] at hc
  · exact Or.inl ⟨hq, c, hr, run_of_command_ok hc⟩
  · exact Or.inr (Or.inl ⟨hn, run_of_command_error hc⟩)
  · exact Or.inr (Or.inr ⟨hn, hk, run_of_command_error hc⟩)

theorem run_exact (w : Workbench) (s : Step) : w.Exact s where
  unknown x hx := by
    refine run_of_command_error ?_
    rw [s.command_eq, hx]
    rfl
  built q hq := by
    constructor
    · intro hs
      rcases run_cases hq with ⟨-, h⟩ | ⟨hn, -⟩ | ⟨-, hk, -⟩
      · exact h
      · exact absurd hs.count hn
      · exact absurd hs.kind hk
    · rintro ⟨c, rfl, -⟩
      exact ⟨c.operands_length, c.bundle_kind⟩
  miscounted q hq := by
    rcases run_cases hq with ⟨hs, c, -, hr⟩ | ⟨hn, hr⟩ | ⟨hn, hk, hr⟩
    · simp [hs.count, hr]
    · simp [hn, hr]
    · simp [hn, hr, Request.miscount, Command.mismatch]
  mismatched q hq := by
    rcases run_cases hq with ⟨hs, c, -, hr⟩ | ⟨hn, hr⟩ | ⟨hn, hk, hr⟩
    · simp [hs.kind, hr]
    · simp [hn, hr, Request.miscount, Command.mismatch]
    · simp [hn, hk, hr]
  stored c hc := by
    rw [run] at hc ⊢
    cases hs : s.command w with
    | error x => simp [hs] at hc
    | ok d =>
      simp only [hs, Except.ok.injEq] at hc
      rw [hc]
      exact get?_put_self w s.target c
  kept name hn := by
    rw [run]
    cases s.command w with
    | error x => rfl
    | ok c => exact get?_put_of_ne hn w c

/-! ## A run -/

theorem runAll_origin {w : Workbench} {ss : List Step} {name : String} {c : Command}
    (h : (w.runAll ss).get? name = some c) :
    w.get? name = some c ∨ ∃ before s after, ss = before ++ s :: after ∧ s.target = name ∧
      ((w.runAll before).run s).2 = .ok c := by
  induction ss generalizing w with
  | nil => exact Or.inl h
  | cons s ss ih =>
    rcases ih h with h | ⟨before, t, after, rfl, ht, hc⟩
    · by_cases hn : name = s.target
      · subst hn
        cases hs : s.command w with
        | error x =>
          rw [run_of_command_error hs] at h
          exact Or.inl h
        | ok d =>
          rw [run_of_command_ok hs, get?_put_self] at h
          refine Or.inr ⟨[], s, ss, rfl, rfl, ?_⟩
          rw [runAll, run_of_command_ok hs, Option.some.inj h]
      · rw [(w.run_exact s).kept name hn] at h
        exact Or.inl h
    · exact Or.inr ⟨s :: before, t, after, rfl, ht, hc⟩

/-- After any run every command held is coherent and is the one that a step of the run returned,
and the next step, whichever it is, does exactly what it asks for. -/
theorem session (ss : List Step) :
    (∀ name c, (runAll [] ss).get? name = some c → c.Coherent ∧
      ∃ before s after, ss = before ++ s :: after ∧ s.target = name ∧
        ((runAll [] before).run s).2 = .ok c) ∧
    ∀ s, (runAll [] ss).Exact s := by
  refine ⟨fun name c h => ⟨c.coherent, ?_⟩, fun s => run_exact _ s⟩
  rcases runAll_origin h with h | h
  · cases h
  · exact h

theorem session_moved :
    (runAll [] [.build "a" (.reduction .explicit "x" (some .up)) none,
      .move "a" "b" (some .explicitFa) (some .simulation)]).get? "b" =
        some (.simulation .explicitFa "x" (some .up)) ∧
    (Command.simulation .explicitFa "x" (some .up)).Coherent ∧
    (Command.simulation .explicitFa "x" (some .up)).arguments =
      ["-r", "expl_fa", "sim", "-o", "dir=bwd", "x"] ∧
    ((runAll [] [.build "a" (.reduction .explicit "x" (some .up)) none]).run
      (.move "a" "b" none (some .equivalence))).2 =
        .error (.fault (.operandCount "equiv" 2 1)) := by
  have hb : (runAll [] [.build "a" (.reduction .explicit "x" (some .up)) none,
      .move "a" "b" (some .explicitFa) (some .simulation)]).get? "b" =
        some (.simulation .explicitFa "x" (some .up)) := rfl
  have hm := ((session [.build "a" (.reduction .explicit "x" (some .up)) none]).2
    (.move "a" "b" none (some .equivalence))).miscounted _ rfl
  exact ⟨hb, ((session _).1 "b" _ hb).1, rfl, congrArg Prod.snd (hm.mp (by decide))⟩

end Workbench

end TreeTool
