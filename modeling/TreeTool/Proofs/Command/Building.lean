import TreeTool.Proofs.Command.Readability

/-!
# What building a command can do

A `Request` is what a step of a workbench asks for before anything is checked. `Step.command_eq`
reduces every kind of step to one checked construction of its request, and `build_cases` lists the
three outcomes of that: the command asked for, a miscount, or only then a mismatch.
-/

namespace TreeTool

/-- The parts a command is asked for with. -/
structure Request where
  encoding : Encoding
  operation : Operation
  operands : List String
  bundle : Option Bundle
  flags : Flags := {}
  deriving DecidableEq

namespace Request

/-- The two conditions on a command. -/
structure Sound (q : Request) : Prop where
  count : q.operands.length = q.operation.arity
  kind : Command.Fits q.operation q.bundle

def withFlags (q : Request) (f : Flags) : Request := { q with flags := f }

def build (q : Request) : Except Fault Command :=
  (Command.make q.encoding q.operation q.operands q.bundle).map (·.withFlags q.flags)

def miscount (q : Request) : Fault :=
  .operandCount (Coded.token q.operation) q.operation.arity q.operands.length

end Request

def Command.request (c : Command) : Request :=
  ⟨c.encoding, c.operation, c.operands, c.bundle, c.flags⟩

namespace Recipe

def request : Recipe → Request
  | parts e op operands bundle => ⟨e, op, operands, bundle, {}⟩
  | load e a => ⟨e, .load, [a], none, {}⟩
  | witness e a => ⟨e, .witness, [a], none, {}⟩
  | complement e a => ⟨e, .complement, [a], none, {}⟩
  | union e a b => ⟨e, .union, [a, b], none, {}⟩
  | intersection e a b => ⟨e, .intersection, [a, b], none, {}⟩
  | simulation e a d => ⟨e, .simulation, [a], d.map .direction, {}⟩
  | reduction e a d => ⟨e, .reduction, [a], d.map .direction, {}⟩
  | equivalence e a b o => ⟨e, .equivalence, [a, b], o.map .equivalence, {}⟩
  | inclusion e a b o => ⟨e, .inclusion, [a, b], o.map .inclusion, {}⟩
  | help e => ⟨e, .help, [], none, {}⟩

end Recipe

namespace Workbench

def Step.request (w : Workbench) : Step → Except Failure Request
  | .build _ r flags => .ok (match flags with
    | some f => r.request.withFlags f
    | none => r.request)
  | .reflag source _ f => (w.named source).map (·.request.withFlags f)
  | .move source _ e op =>
    (w.named source).map fun c =>
      ⟨e.getD c.encoding, op.getD c.operation, c.operands, c.bundle, {}⟩

end Workbench

/-! ## One request -/

namespace Request

theorem build_of_sound {q : Request} (h : q.Sound) :
    ∃ c, q.build = .ok c ∧ c.request = q := by
  refine ⟨⟨q.encoding, q.operation, q.operands, q.bundle, q.flags, h.count, h.kind⟩, ?_, rfl⟩
  rw [build, Command.make, dif_pos h.count, dif_pos h.kind]
  rfl

theorem build_of_miscounted {q : Request} (h : q.operands.length ≠ q.operation.arity) :
    q.build = .error q.miscount := by
  rw [build, Command.make, dif_neg h]
  rfl

theorem build_of_mismatched {q : Request} (hn : q.operands.length = q.operation.arity)
    (hk : ¬ Command.Fits q.operation q.bundle) :
    q.build = .error (Command.mismatch q.operation q.bundle) := by
  rw [build, Command.make, dif_pos hn, dif_neg hk]
  rfl

theorem build_cases (q : Request) :
    (q.Sound ∧ ∃ c, q.build = .ok c ∧ c.request = q) ∨
    (q.operands.length ≠ q.operation.arity ∧ q.build = .error q.miscount) ∨
    (q.operands.length = q.operation.arity ∧ ¬ Command.Fits q.operation q.bundle ∧
      q.build = .error (Command.mismatch q.operation q.bundle)) := by
  by_cases hn : q.operands.length = q.operation.arity
  · by_cases hk : Command.Fits q.operation q.bundle
    · exact Or.inl ⟨⟨hn, hk⟩, build_of_sound ⟨hn, hk⟩⟩
    · exact Or.inr (Or.inr ⟨hn, hk, build_of_mismatched hn hk⟩)
  · exact Or.inr (Or.inl ⟨hn, build_of_miscounted hn⟩)

end Request

theorem Command.map_withFlags_make (e : Encoding) (op : Operation) (operands : List String)
    (bundle : Option Bundle) :
    (make e op operands bundle).map (·.withFlags {}) = make e op operands bundle := by
  rw [make]
  split
  · split <;> rfl
  · rfl

theorem Recipe.command_eq_build (r : Recipe) : r.command = r.request.build := by
  cases r with
  | parts e op operands bundle => exact (Command.map_withFlags_make e op operands bundle).symm
  | simulation e a d => cases d <;> rfl
  | reduction e a d => cases d <;> rfl
  | equivalence e a b o => cases o <;> rfl
  | inclusion e a b o => cases o <;> rfl
  | _ => rfl

theorem Request.build_withFlags (q : Request) (f : Flags) :
    (q.withFlags f).build = q.build.map (·.withFlags f) := by
  rw [build, build, withFlags]
  cases Command.make q.encoding q.operation q.operands q.bundle <;> rfl

theorem Command.build_request (c : Command) : c.request.build = .ok c := by
  rw [Request.build, request, c.make_parts]
  rfl

namespace Workbench

theorem Step.command_eq (w : Workbench) (s : Step) :
    s.command w = (s.request w).bind fun q => q.build.mapError .fault := by
  cases s with
  | build name r flags =>
    rw [command, r.command_eq_build]
    cases flags with
    | none => cases hr : r.request.build <;> simp [request, Except.bind, Except.mapError, hr]
    | some f =>
      cases hr : r.request.build <;>
        simp [request, Except.bind, Except.mapError, Except.map, hr, Request.build_withFlags]
  | reflag source target f =>
    rw [command, request]
    cases w.named source with
    | error x => rfl
    | ok c => simp [Except.map, Except.bind, Except.mapError, Request.build_withFlags,
        c.build_request]
  | move source target e op =>
    rw [command, request]
    cases w.named source with
    | error x => rfl
    | ok c =>
      have hb : Request.build ⟨e.getD c.encoding, op.getD c.operation, c.operands, c.bundle, {}⟩ =
          c.move (e.getD c.encoding) (op.getD c.operation) := Command.map_withFlags_make _ _ _ _
      simp only [Except.map, Except.bind, hb]
      cases c.move (e.getD c.encoding) (op.getD c.operation) <;> rfl

end Workbench

end TreeTool
