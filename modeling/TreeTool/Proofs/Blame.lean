import TreeTool.CommandLine.Run
import TreeTool.Proofs.Settings.Loading
import TreeTool.Proofs.Tool.Errands
import TreeTool.Settings.Json

/-!
# What a failure blames

Asking about codes, tokens, option texts and commands needs nothing but the request, and a failure
blames the request. Whatever is done with files, the environment and the tool can fail as well, and
then never blames it. Every inquiry and every undertaking has its own few kinds of failure, and the
two families have none in common.
-/

namespace TreeTool

/-! ## Inquiries -/

inductive Enumeration
  | encoding | direction | order | algorithm | operation
  deriving DecidableEq, Repr

namespace Enumeration

def Value : Enumeration → Type
  | encoding => Encoding
  | direction => Direction
  | order => Order
  | algorithm => Algorithm
  | operation => Operation

instance : (n : Enumeration) → Coded n.Value
  | encoding => inferInstanceAs (Coded Encoding)
  | direction => inferInstanceAs (Coded Direction)
  | order => inferInstanceAs (Coded Order)
  | algorithm => inferInstanceAs (Coded Algorithm)
  | operation => inferInstanceAs (Coded Operation)

instance : (n : Enumeration) → Coded.Filled n.Value
  | encoding => inferInstanceAs (Coded.Filled Encoding)
  | direction => inferInstanceAs (Coded.Filled Direction)
  | order => inferInstanceAs (Coded.Filled Order)
  | algorithm => inferInstanceAs (Coded.Filled Algorithm)
  | operation => inferInstanceAs (Coded.Filled Operation)

def read : (n : Enumeration) → String → Except Fault n.Value
  | encoding => Encoding.read
  | direction => Direction.read
  | order => Order.read
  | algorithm => Algorithm.read
  | operation => Operation.read

end Enumeration

/-- A question that the request alone answers. -/
inductive Inquiry
  | code (n : Enumeration) (c : Int)
  | token (n : Enumeration) (t : String)
  | word (n : Enumeration) (t : String)
  | directionFor (e : Encoding) (t : String)
  | inclusionOfCodes (direction algorithm : Int) (simulation : Bool) (order : Int)
      (cacheOptimization recursion simulationTime : Bool)
  | directionOfCode (c : Int)
  | equivalenceOfCode (c : Int)
  | bundle (k : BundleKind) (e : Encoding) (text : String)
  | options (op : Operation) (e : Encoding) (text : String)
  | command (r : Recipe)

def failure {α : Type} : Except Fault α → Option Fault
  | .ok _ => none
  | .error f => some f

theorem failure_eq_some_iff {α : Type} {r : Except Fault α} {f : Fault} :
    failure r = some f ↔ r = .error f := by
  cases r <;> simp [failure]

namespace Inquiry

def fault? : Inquiry → Option Fault
  | code n c => failure (Coded.ofCode n.Value c)
  | token n t => failure (Coded.ofToken n.Value t)
  | word n t => failure (n.read t)
  | directionFor e t => failure (Direction.ofTokenFor e t)
  | inclusionOfCodes d a s o c r t => failure (InclusionOptions.ofCodes d a s o c r t)
  | directionOfCode c => failure (Bundle.directionOfCode c)
  | equivalenceOfCode c => failure (Bundle.equivalenceOfCode c)
  | bundle k e text => failure (Bundle.readAs k e text)
  | options op e text => failure (Bundle.read op e text)
  | command r => failure r.command

def asked : Inquiry → Option Operation
  | options op _ _ => some op
  | command r => some r.request.operation
  | _ => none

def kinds : Inquiry → List Kind
  | code _ _ | inclusionOfCodes .. | directionOfCode _ | equivalenceOfCode _ => [.invalidCode]
  | token _ _ | word _ _ | directionFor _ _ => [.invalidInput]
  | bundle _ _ _ => [.malformedOptions]
  | options _ _ _ => [.optionsMismatch, .malformedOptions]
  | command _ => [.operandCount, .optionsMismatch]

/-- A fault that blames the request, and names the operation asked for if that is what the request
does not fit. -/
structure Blamed (q : Inquiry) (f : Fault) : Prop where
  kind : f.report.kind ∈ q.kinds
  isValidation : f.report.kind.isValidation
  notInternal : f.report.kind ≠ .internal
  message : f.report.message = f.text
  names : f.report.operation.isSome ↔
    f.report.kind = .operandCount ∨ f.report.kind = .optionsMismatch
  operation : ∀ t, f.report.operation = some t → ∃ op, q.asked = some op ∧ t = Coded.token op

variable {q : Inquiry} {f : Fault}

theorem isValidation_of_mem {k : Kind} (h : k ∈ q.kinds) : k.isValidation := by
  cases q <;> simp only [kinds, List.mem_cons, List.not_mem_nil, or_false] at h
  all_goals rcases h with rfl | rfl <;> rfl

theorem ne_internal_of_isValidation {k : Kind} (h : k.isValidation) : k ≠ .internal := by
  rintro rfl
  cases h

theorem isSome_operation_iff (f : Fault) :
    f.report.operation.isSome ↔
      f.report.kind = .operandCount ∨ f.report.kind = .optionsMismatch := by
  cases f <;> simp [Fault.report, Fault.operation, Fault.kind]

theorem blamed_of_kind (hk : f.kind ∈ q.kinds)
    (ho : ∀ t, f.operation = some t → ∃ op, q.asked = some op ∧ t = Coded.token op) :
    Blamed q f where
  kind := hk
  isValidation := isValidation_of_mem hk
  notInternal := ne_internal_of_isValidation (isValidation_of_mem hk)
  message := rfl
  names := isSome_operation_iff f
  operation := ho

theorem blamed_of_unnamed (hk : f.kind ∈ q.kinds) (ho : f.operation = none) : Blamed q f :=
  blamed_of_kind hk fun t ht => by
    rw [ho] at ht
    cases ht

/-! ### Codes and tokens -/

theorem blamed_of_code {α : Type} [Coded α] [Coded.Filled α] {c : Int}
    (h : Coded.ofCode α c = .error f) (hq : Kind.invalidCode ∈ q.kinds) : Blamed q f := by
  rw [Coded.ofCode_eq_error h]
  exact blamed_of_unnamed hq rfl

theorem error_of_bind {α β : Type} {r : Except Fault α} {g : α → Except Fault β}
    (h : (r >>= g) = .error f) : r = .error f ∨ ∃ a, g a = .error f := by
  cases r with
  | error f' =>
    cases h
    exact Or.inl rfl
  | ok a => exact Or.inr ⟨a, h⟩

theorem exists_code_of_inclusion {d a o : Int} {s c r t : Bool}
    (h : InclusionOptions.ofCodes d a s o c r t = .error f) :
    ∃ (n : Enumeration) (x : Int), Coded.ofCode n.Value x = .error f := by
  rw [InclusionOptions.ofCodes] at h
  rcases error_of_bind h with hd | ⟨_, h⟩
  · exact ⟨.direction, d, hd⟩
  rcases error_of_bind h with ha | ⟨_, h⟩
  · exact ⟨.algorithm, a, ha⟩
  rcases error_of_bind h with ho | ⟨_, h⟩
  · exact ⟨.order, o, ho⟩
  · cases h

theorem read_eq_error {n : Enumeration} {t : String} (h : n.read t = .error f) :
    f = .unknownToken (Coded.label n.Value) t := by
  cases n with
  | direction => exact Direction.read_eq_error h
  | _ => exact Coded.ofToken_eq_error h

theorem blamed_of_token {enumeration t : String} (h : f = .unknownToken enumeration t)
    (hq : Kind.invalidInput ∈ q.kinds) : Blamed q f := by
  rw [h]
  exact blamed_of_unnamed hq rfl

/-! ### Option texts and commands -/

theorem blamed_of_text {k : BundleKind} {e : Encoding} {text : String}
    (h : Bundle.readAs k e text = .error f) (hq : Kind.malformedOptions ∈ q.kinds) :
    Blamed q f := by
  rw [Bundle.readAs] at h
  cases hr : Bundle.readKind k e text with
  | ok b =>
    rw [hr] at h
    cases h
  | error r =>
    rw [hr] at h
    cases h
    exact blamed_of_unnamed hq rfl

theorem read_eq_readAs {op : Operation} {k : BundleKind} (hk : op.bundleKind = some k)
    (e : Encoding) (text : String) : Bundle.read op e text = Bundle.readAs k e text := by
  simp only [Bundle.read, hk, Bundle.readAs]
  cases Bundle.readKind k e text <;> rfl

theorem blamed_of_fault (h : q.fault? = some f) : Blamed q f := by
  cases q with
  | code n c => exact blamed_of_code (failure_eq_some_iff.mp h) List.mem_cons_self
  | token n t =>
    have ht := Coded.ofToken_eq_error (failure_eq_some_iff.mp h)
    exact blamed_of_token ht List.mem_cons_self
  | word n t =>
    have ht := read_eq_error (failure_eq_some_iff.mp h)
    exact blamed_of_token ht List.mem_cons_self
  | directionFor e t =>
    have ht := Direction.ofTokenFor_eq_error (failure_eq_some_iff.mp h)
    exact blamed_of_token ht List.mem_cons_self
  | inclusionOfCodes d a s o c r t =>
    obtain ⟨n, x, hx⟩ := exists_code_of_inclusion (failure_eq_some_iff.mp h)
    exact blamed_of_code hx List.mem_cons_self
  | directionOfCode c =>
    have hc : Coded.ofCode Direction c = .error f :=
      Settings.map_eq_error_iff.mp (failure_eq_some_iff.mp h)
    exact blamed_of_code hc List.mem_cons_self
  | equivalenceOfCode c =>
    have hc : Coded.ofCode Order c = .error f :=
      Settings.map_eq_error_iff.mp (failure_eq_some_iff.mp h)
    exact blamed_of_code hc List.mem_cons_self
  | bundle k e text => exact blamed_of_text (failure_eq_some_iff.mp h) List.mem_cons_self
  | options op e text =>
    have hr : Bundle.read op e text = .error f := failure_eq_some_iff.mp h
    cases hk : op.bundleKind with
    | none =>
      rw [Bundle.read, hk] at hr
      cases hr
      exact blamed_of_kind List.mem_cons_self fun t ht => ⟨op, rfl, (Option.some.inj ht).symm⟩
    | some k =>
      rw [read_eq_readAs hk] at hr
      exact blamed_of_text hr (List.mem_cons_of_mem _ List.mem_cons_self)
  | command r =>
    have hr : r.request.build = .error f :=
      r.command_eq_build ▸ failure_eq_some_iff.mp h
    rcases r.request.build_cases with ⟨-, c, hc, -⟩ | ⟨-, hc⟩ | ⟨-, -, hc⟩
    · rw [hc] at hr
      cases hr
    · rw [hc] at hr
      cases hr
      exact blamed_of_kind List.mem_cons_self fun t ht => ⟨_, rfl, (Option.some.inj ht).symm⟩
    · rw [hc] at hr
      cases hr
      exact blamed_of_kind (List.mem_cons_of_mem _ List.mem_cons_self)
        fun t ht => ⟨_, rfl, (Option.some.inj ht).symm⟩

end Inquiry

/-! ## Undertakings -/

/-- Something that is done with files, the environment or the tool. -/
inductive Undertaking
  | readingText (text : String)
  | readingFile (files : Files.Tree) (here : Files.Place) (path : String)
  | loading (files : Files.Tree) (here : Files.Place) (lookup : String → Option String)
      (path : Option String)
  | overriding (s : Settings) (lookup : String → Option String)
  | readingJson (words : Json.Fault → String) (text : String)
  | calling (k : Call)
  | helping (h : Handle) (w : Errand)
  | saving (o : Outcome) (p : Outcome.Part) (short? : Option Outcome.Shortfall)
      (files : Files.Tree) (here : Files.Place) (path : String)
  | forwarding (i : CommandLine.Invocation) (out : CommandLine.Outlets) (m : Machine)
      (o : Outcome)

namespace Undertaking

inductive Fails : Undertaking → Report → Prop
  | refusedText {text : String} {f : Fault} :
    Settings.ofToml text = .error f → Fails (.readingText text) f.report
  | refusedFile {files : Files.Tree} {here : Files.Place} {path : String} {f : Fault} :
    Settings.ofFile files here path = .error f → Fails (.readingFile files here path) f.report
  | unloaded {files : Files.Tree} {here : Files.Place} {lookup : String → Option String}
      {path : Option String} {f : Fault} :
    Settings.load files here lookup path = .error f →
    Fails (.loading files here lookup path) f.report
  | refusedLimit {s : Settings} {lookup : String → Option String} {f : Fault} :
    s.withOverrides lookup = .error f → Fails (.overriding s lookup) f.report
  | undecoded {words : Json.Fault → String} {text : String} {f : Fault} :
    Settings.decode words text = .error f → Fails (.readingJson words text) f.report
  | called {k : Call} {r : Report} : k.Replies (.error r) → Fails (.calling k) r
  | unbuilt {h : Handle} {w : Errand} {f : Fault} :
    (w.recipe h.encoding).command = .error f → Fails (.helping h w) f.report
  | helped {h : Handle} {w : Errand} {c : Command} {r : Report} :
    (w.recipe h.encoding).command = .ok c →
    (h.call (c.withFlags h.flags)).Replies (.error r) → Fails (.helping h w) r
  /-- A path is not opened, or what is opened refuses some of what is written. -/
  | unsaved {o : Outcome} {p : Outcome.Part} {short? : Option Outcome.Shortfall}
      {files : Files.Tree} {here : Files.Place} {path : String} {r : Report} :
    (o.saveOnto p short? files here path).2 = some r →
    Fails (.saving o p short? files here path) r
  | unforwarded {i : CommandLine.Invocation} {out : CommandLine.Outlets} {m : Machine}
      {o : Outcome} {r : Report} :
    (i.forward out m o).2 = some (.reported r) → Fails (.forwarding i out m o) r

def kinds : Undertaking → List Kind
  | readingText _ | readingFile _ _ _ | loading _ _ _ _ | overriding _ _ => [.settings]
  | readingJson _ _ => [.serialization]
  | calling _ | helping _ _ => [.timeout, .transfer, .internal]
  | saving .. | forwarding .. => [.transfer]

theorem isValidation_of_mem {u : Undertaking} {k : Kind} (h : k ∈ u.kinds) :
    k.isValidation = false := by
  cases u <;> simp only [kinds, List.mem_cons, List.not_mem_nil, or_false] at h
  all_goals rcases h with rfl | rfl | rfl <;> rfl

/-! ### Settings -/

theorem kind_of_ofToml {text : String} {f : Fault} (h : Settings.ofToml text = .error f) :
    f.kind = .settings := by
  rw [Settings.ofToml] at h
  split at h <;> cases h
  rfl

theorem kind_of_ofFile {files : Files.Tree} {here : Files.Place} {path : String} {f : Fault}
    (h : Settings.ofFile files here path = .error f) : f.kind = .settings := by
  rw [Settings.ofFile] at h
  split at h
  · cases h
    rfl
  · exact kind_of_ofToml h

theorem kind_of_withOverrides {s : Settings} {lookup : String → Option String} {f : Fault}
    (h : s.withOverrides lookup = .error f) : f.kind = .settings := by
  rw [Settings.withOverrides] at h
  split at h
  · cases h
  · rw [Settings.map_eq_error_iff, Settings.millisOf] at h
    split at h <;> cases h
    rfl

theorem kind_of_load {files : Files.Tree} {here : Files.Place} {lookup : String → Option String}
    {path : Option String} {f : Fault} (h : Settings.load files here lookup path = .error f) :
    f.kind = .settings := by
  cases path with
  | none => exact kind_of_withOverrides h
  | some path =>
    rw [Settings.load] at h
    split at h
    · rename_i hf
      cases h
      exact kind_of_ofFile hf
    · exact kind_of_withOverrides h

theorem kind_of_decode {words : Json.Fault → String} {text : String} {f : Fault}
    (h : Settings.decode words text = .error f) : f.kind = .serialization := by
  rw [Settings.decode] at h
  split at h <;> cases h
  rfl

/-! ### Results -/

theorem kind_of_saveOnto {o : Outcome} {p : Outcome.Part} {short? : Option Outcome.Shortfall}
    {files : Files.Tree} {here : Files.Place} {path : String} {r : Report}
    (h : (o.saveOnto p short? files here path).2 = some r) : r.kind = .transfer := by
  obtain ⟨words, -, rfl⟩ := Option.map_eq_some_iff.mp h
  rfl

section forwarding

open CommandLine (Channel Forwarded Halt Outlets)

variable {i : CommandLine.Invocation} {out : Outlets} {m : Machine} {r : Report}

theorem kind_of_put {f : Forwarded} {c : Channel} {text : String} {halt : String → Halt}
    (hh : ∀ reason, halt reason = .reported r → r.kind = .transfer)
    (h : (f.put out c text halt).2 = some (.reported r)) : r.kind = .transfer := by
  rw [Forwarded.put] at h
  cases hr : out.refusal? c text with
  | none => simp [hr] at h
  | some reason =>
    rw [hr] at h
    exact hh reason (Option.some.inj h)

theorem kind_of_reported {activity : String} (reason : String)
    (h : Halt.reported (.ofTransfer activity reason) = .reported r) : r.kind = .transfer := by
  cases h
  rfl

theorem kind_of_delivered {text : String} {save : String → Files.Tree × Option Report}
    (hs : ∀ path, (save path).2 = some r → r.kind = .transfer)
    (h : (i.delivered out m text save).2 = some (.reported r)) : r.kind = .transfer := by
  rw [CommandLine.Invocation.delivered] at h
  split at h
  · refine kind_of_put (fun reason hr => ?_) h
    split at hr
    · cases hr
    · exact kind_of_reported reason hr
  · split at h
    · exact kind_of_put kind_of_reported h
    · exact kind_of_put kind_of_reported h
    · obtain ⟨r', hr, he⟩ := Option.map_eq_some_iff.mp h
      cases he
      exact hs _ hr

theorem kind_of_forward {o : Outcome} (h : (i.forward out m o).2 = some (.reported r)) :
    r.kind = .transfer := by
  rw [CommandLine.Invocation.forward] at h
  split at h
  · refine kind_of_delivered (fun path hp => ?_) h
    obtain ⟨words, -, rfl⟩ := Option.map_eq_some_iff.mp hp
    rfl
  · split at h
    · exact kind_of_put kind_of_reported h
    · exact kind_of_delivered (fun path hp => kind_of_saveOnto hp) h

end forwarding

/-! ### The tool -/

theorem mem_kinds_of_replies {k : Call} {r : Report} (h : k.Replies (.error r)) :
    r.kind ∈ [Kind.timeout, .transfer, .internal] := by
  rcases Call.kind_of_replies h rfl with hr | hr | hr <;> simp [hr]

theorem kind_of_fails {u : Undertaking} {r : Report} (h : u.Fails r) : r.kind ∈ u.kinds := by
  cases h with
  | refusedText h => exact List.mem_singleton.mpr (kind_of_ofToml h)
  | refusedFile h => exact List.mem_singleton.mpr (kind_of_ofFile h)
  | unloaded h => exact List.mem_singleton.mpr (kind_of_load h)
  | refusedLimit h => exact List.mem_singleton.mpr (kind_of_withOverrides h)
  | undecoded h => exact List.mem_singleton.mpr (kind_of_decode h)
  | called h => exact mem_kinds_of_replies h
  | @unbuilt h w f hf =>
    -- the constructor of an errand leaves nothing to refuse
    obtain ⟨c, hc⟩ := w.exists_command h.encoding
    rw [hc] at hf
    cases hf
  | helped _ h => exact mem_kinds_of_replies h
  | unsaved h => exact List.mem_singleton.mpr (kind_of_saveOnto h)
  | unforwarded h => exact List.mem_singleton.mpr (kind_of_forward h)

end Undertaking

/-- A failed inquiry blames the request, a failed undertaking never does. -/
theorem failures_told_apart :
    (∀ (q : Inquiry) (f : Fault), q.fault? = some f → q.Blamed f) ∧
    ∀ (u : Undertaking) (r : Report), u.Fails r → r.kind ∈ u.kinds ∧ r.kind.isValidation = false :=
  ⟨fun _ _ h => Inquiry.blamed_of_fault h, fun _ _ h =>
    ⟨Undertaking.kind_of_fails h, Undertaking.isValidation_of_mem (Undertaking.kind_of_fails h)⟩⟩

theorem failures_told_apart_union :
    Inquiry.Blamed (.command (.parts .explicit .union ["a"] none)) (.operandCount "union" 2 1) ∧
    (Settings.limitFault "soon").report.kind.isValidation = false := by
  have hlimit : Settings.withOverrides {} (fun _ => some "soon") =
      .error (Settings.limitFault "soon") := by decide
  exact ⟨failures_told_apart.1 _ _ rfl,
    (failures_told_apart.2 (.overriding {} fun _ => some "soon") _ (.refusedLimit hlimit)).2⟩

end TreeTool
