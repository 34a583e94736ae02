import TreeTool.Proofs.Command.Building
import TreeTool.Tool.Handle
import TreeTool.Tool.Machine

/-!
# Every way to a run

An errand is one operation with what its constructor and its helper are given. The constructor and
the checked construction make the same command of it, and the helper asks for one run of that
command. A run of plain arguments differs from the run of the command with these arguments in its
label alone.
-/

namespace TreeTool

open Text (Bytes)
open Journal (Event)

/-- An operation with its operands, and with the options that it takes. -/
inductive Errand
  | load (aut : String)
  | witness (aut : String)
  | complement (aut : String)
  | union (lhs rhs : String)
  | intersection (lhs rhs : String)
  | simulation (aut : String) (d : Option Direction)
  | reduction (aut : String) (d : Option Direction)
  | equivalence (lhs rhs : String) (o : Option Order)
  | inclusion (lhs rhs : String) (o : Option InclusionOptions)
  | help

namespace Errand

def operation : Errand → Operation
  | load _ => .load
  | witness _ => .witness
  | complement _ => .complement
  | union _ _ => .union
  | intersection _ _ => .intersection
  | simulation _ _ => .simulation
  | reduction _ _ => .reduction
  | equivalence _ _ _ => .equivalence
  | inclusion _ _ _ => .inclusion
  | help => .help

def operands : Errand → List String
  | load a | witness a | complement a | simulation a _ | reduction a _ => [a]
  | union a b | intersection a b | equivalence a b _ | inclusion a b _ => [a, b]
  | help => []

def bundle : Errand → Option Bundle
  | simulation _ d | reduction _ d => d.map .direction
  | equivalence _ _ o => o.map .equivalence
  | inclusion _ _ o => o.map .inclusion
  | _ => none

def recipe (e : Encoding) : Errand → Recipe
  | load a => .load e a
  | witness a => .witness e a
  | complement a => .complement e a
  | union a b => .union e a b
  | intersection a b => .intersection e a b
  | simulation a d => .simulation e a d
  | reduction a d => .reduction e a d
  | equivalence a b o => .equivalence e a b o
  | inclusion a b o => .inclusion e a b o
  | help => .help e

def call (h : Handle) : Errand → Call
  | load a => h.load a
  | witness a => h.witness a
  | complement a => h.complement a
  | union a b => h.union a b
  | intersection a b => h.intersection a b
  | simulation a d => h.simulation a d
  | reduction a d => h.reduction a d
  | equivalence a b o => h.equivalence a b o
  | inclusion a b o => h.inclusion a b o
  | help => h.help

end Errand

/-! ## One run -/

namespace Call

/-- What a caller can get of a call: the outcome of its run, the report of a failed wait, or that
of a blocking call that never comes to a run. -/
inductive Replies (k : Call) : Except Report Outcome → Prop
  | run (id : RequestId) (b : Behaviour) : Replies k (k.run id b).outcome
  | unawaited (id : RequestId) (elapsed : Duration) (err : Bytes) (reason : String) :
    Replies k (k.unawaited id elapsed err reason).outcome
  | nested : Replies k Call.nested
  | unhosted (reason : String) : Replies k (Call.unhosted reason)

/-- A call that comes to one run: the executor's program is started once, under the executor's own
limit, and whatever becomes of it the request is not to blame. -/
structure Once (k : Call) (x : Executor) (label : String) (arguments : List String) : Prop where
  asks : k = ⟨x, some label, arguments, none⟩
  starts : ∀ (start : Starter) (id : RequestId) (m : Machine),
    let (b, m') := start m x.stderr (x.timeout.filter fun d => !d.isZero) x.program arguments
    k.on start id m = (k.run id b, m')
  valid : ∀ r, k.Replies (.error r) → r.kind.isValidation = false

theorem kind_of_run {k : Call} {id : RequestId} {b : Behaviour} {r : Report}
    (h : (k.run id b).outcome = .error r) : r.kind = .timeout := by
  rw [run] at h
  cases hb : b.observed k.limit with
  | notStarted reason => simp [hb, closed] at h
  | ended elapsed out err ending => simp [hb, closed] at h
  | expired l =>
    simp only [hb, closed, Except.error.injEq] at h
    subst h
    rfl

theorem kind_of_replies {k : Call} {o : Except Report Outcome} {r : Report} (h : k.Replies o)
    (ho : o = .error r) : r.kind = .timeout ∨ r.kind = .transfer ∨ r.kind = .internal := by
  cases h with
  | run id b => exact Or.inl (kind_of_run ho)
  | unawaited => cases ho; exact Or.inr (Or.inl rfl)
  | nested => cases ho; exact Or.inr (Or.inr rfl)
  | unhosted => cases ho; exact Or.inr (Or.inl rfl)

theorem isValidation_of_replies {k : Call} {r : Report} (h : k.Replies (.error r)) :
    r.kind.isValidation = false := by
  rcases kind_of_replies h rfl with hr | hr | hr <;> rw [hr] <;> rfl

theorem once_callOf (x : Executor) (c : Command) :
    (x.callOf c).Once x (Coded.token c.operation) c.arguments where
  asks := rfl
  starts _ _ _ := rfl
  valid _ h := isValidation_of_replies h

end Call

/-! ## Constructors and helpers -/

namespace Errand

/-- The constructor and the helper of an errand, both seen from the checked construction. -/
structure Agrees (w : Errand) (h : Handle) : Prop where
  constructed : ∀ e, ∃ c, (w.recipe e).command = .ok c ∧
    Command.make e w.operation w.operands w.bundle = .ok c
  helped : ∃ c, Command.make h.encoding w.operation w.operands w.bundle = .ok c ∧
    (w.call h).Once h.executor (Coded.token w.operation) (c.withFlags h.flags).arguments

theorem request_recipe (w : Errand) (e : Encoding) :
    (w.recipe e).request = ⟨e, w.operation, w.operands, w.bundle, {}⟩ := by
  cases w <;> rfl

theorem exists_command (w : Errand) (e : Encoding) : ∃ c, (w.recipe e).command = .ok c := by
  cases w <;> exact ⟨_, rfl⟩

theorem make_of_command {w : Errand} {e : Encoding} {c : Command}
    (h : (w.recipe e).command = .ok c) :
    Command.make e w.operation w.operands w.bundle = .ok c := by
  rw [Recipe.command_eq_build, request_recipe, Request.build, Command.map_withFlags_make] at h
  exact h

theorem call_eq {w : Errand} {h : Handle} {c : Command}
    (hc : (w.recipe h.encoding).command = .ok c) :
    w.call h = h.executor.callOf (c.withFlags h.flags) := by
  cases w <;> cases hc <;> rfl

theorem agrees (w : Errand) (h : Handle) : w.Agrees h where
  constructed e := by
    obtain ⟨c, hc⟩ := w.exists_command e
    exact ⟨c, hc, make_of_command hc⟩
  helped := by
    obtain ⟨c, hc⟩ := w.exists_command h.encoding
    have hop : c.operation = w.operation := by
      cases w <;> cases hc <;> rfl
    refine ⟨c, make_of_command hc, ?_⟩
    rw [call_eq hc, ← hop]
    exact Call.once_callOf h.executor (c.withFlags h.flags)

end Errand

/-! ## Plain arguments -/

def Journal.Event.relabelled (label : String) (e : Event) : Event :=
  { e with fields := e.fields.map fun (n, v) => (n, if n = "operation" then .text label else v) }

namespace Call

/-- Two calls that start the program in the same way and come to the same, but for the operation
that a report and the events name. -/
structure SameButLabel (label : String) (k k' : Call) : Prop where
  outcome : ∀ (start : Starter) (id id' : RequestId) (m : Machine),
    (k'.on start id' m).1.outcome =
      (k.on start id m).1.outcome.mapError (·.withOperation label)
  events : ∀ (start : Starter) (id : RequestId) (m : Machine),
    (k'.on start id m).1.events = (k.on start id m).1.events.map (·.relabelled label)
  passedOn : ∀ (start : Starter) (id id' : RequestId) (m : Machine),
    (k'.on start id' m).1.passedOn = (k.on start id m).1.passedOn
  machine : ∀ (start : Starter) (id id' : RequestId) (m : Machine),
    (k'.on start id' m).2 = (k.on start id m).2
  unawaited : ∀ (id id' : RequestId) (elapsed : Duration) (err : Bytes) (reason : String),
    (k'.unawaited id' elapsed err reason).outcome =
      (k.unawaited id elapsed err reason).outcome.mapError (·.withOperation label) ∧
    (k'.unawaited id elapsed err reason).events =
      (k.unawaited id elapsed err reason).events.map (·.relabelled label) ∧
    (k'.unawaited id' elapsed err reason).passedOn = (k.unawaited id elapsed err reason).passedOn

def plain (k : Call) : Call := { k with label := none }

theorem outcome_plain (k : Call) (id id' : RequestId) (b : Behaviour) :
    (k.plain.run id' b).outcome = (k.run id b).outcome.mapError (·.withOperation "-") := by
  show (k.plain.closed id' (b.observed k.limit)).1 =
    (k.closed id (b.observed k.limit)).1.mapError (·.withOperation "-")
  cases b.observed k.limit <;> rfl

theorem events_plain (k : Call) (id : RequestId) (b : Behaviour) :
    (k.plain.run id b).events = (k.run id b).events.map (·.relabelled "-") := by
  show [k.plain.started id, k.plain.announced id, (k.plain.closed id (b.observed k.limit)).2] =
    [(k.started id).relabelled "-", (k.announced id).relabelled "-",
      (k.closed id (b.observed k.limit)).2.relabelled "-"]
  cases b.observed k.limit <;> rfl

theorem sameButLabel_plain (k : Call) : SameButLabel "-" k k.plain where
  outcome _ _ _ _ := outcome_plain k _ _ _
  events _ _ _ := events_plain k _ _
  passedOn _ _ _ _ := rfl
  machine _ _ _ _ := rfl
  unawaited _ _ _ _ _ := ⟨rfl, rfl, rfl⟩

end Call

/-- Every constructor makes the command of the checked construction, and every helper comes to one
run of it with the handle's flags. A command that is run as it is keeps its own encoding and flags,
and running its argument vector instead changes only the label. -/
theorem paths_agree (h : Handle) (w : Errand) :
    w.Agrees h ∧
    (∀ c, (h.call c).Once h.executor (Coded.token c.operation) c.arguments) ∧
    ∀ (x : Executor) (c : Command) (t : Option Duration),
      Call.SameButLabel "-" (x.callOf c t) (x.call c.arguments t) :=
  ⟨w.agrees h, fun c => Call.once_callOf h.executor c,
    fun x c t => Call.sameButLabel_plain (x.callOf c t)⟩

end TreeTool
