import TreeTool.Proofs.Command.Building
import TreeTool.Proofs.CommandLine.Answering
import TreeTool.Proofs.CommandLine.Reading
import TreeTool.Proofs.Json.Documents

/-!
# Dry runs

A command line that names every part of a command, and asks to be shown its argument vector, is
read back as these parts. `DryRun.read_line` reads both sides of it; from there on the settings,
the bundle and the flags are the ones named, so the plan is to show the vector.
-/

namespace TreeTool.CommandLine

/-- A dry run: the path of the tool, the parts of a command, and perhaps an option text. -/
structure DryRun where
  binary : String
  encoding : Encoding
  flags : Flags
  operation : Operation
  options : Option String
  operands : List String

namespace DryRun

def optionWords (d : DryRun) : List String :=
  match d.options with
  | none => []
  | some t => ["--options", t]

def line (d : DryRun) (json : Bool) : List String :=
  ["--dry-run"] ++ (if json then ["--json"] else []) ++
    ["--vata=" ++ d.binary, "-r", Coded.token d.encoding] ++ d.flags.tokens ++
    [Coded.token d.operation] ++ d.optionWords ++ operandWords d.operands

def bundle (d : DryRun) : Except Fault (Option Bundle) :=
  match d.options with
  | none => .ok none
  | some t => (Bundle.read d.operation d.encoding t).map some

def request (d : DryRun) (b : Option Bundle) : Request :=
  ⟨d.encoding, d.operation, d.operands, b, d.flags⟩

end DryRun

/-! ## What is given -/

def flagSwitches (f : Flags) : List Switch :=
  (if f.showTime then [.time] else []) ++
  (if f.verbose then [.verbose] else []) ++
  (if f.quiet then [.noOutput] else []) ++
  match f.prune with
  | .nothing => []
  | .unreachable => [.pruneUnreachable]
  | .useless => [.pruneUseless]

theorem contains_flagSwitches (f : Flags) (s : Switch) :
    (flagSwitches f).contains s =
      match s with
      | .time => f.showTime
      | .verbose => f.verbose
      | .noOutput => f.quiet
      | .pruneUnreachable => f.prune = .unreachable
      | .pruneUseless => f.prune = .useless
      | _ => false := by
  rw [flagSwitches]
  cases s <;> cases hp : f.prune <;> simp

namespace DryRun

variable (d : DryRun)

def modes (json : Bool) : List Switch := .dryRun :: if json then [.json] else []

def outer (json : Bool) : List Given :=
  (modes json).map Switch.given ++
    [Setting.vata.given d.binary, Setting.encoding.given (Coded.token d.encoding)] ++
    (flagSwitches d.flags).map Switch.given

def outerOptions (json : Bool) (f : Flags) : List Opt :=
  (modes json).map .switch ++ [.setting .vata, .setting .encoding] ++
    (flagSwitches f).map .switch

def inner : List Given :=
  match d.options with
  | none => []
  | some t => [Setting.options.given t]

def invocation (json : Bool) : Invocation := ⟨d.outer json, d.inner, d.operation, d.operands⟩

end DryRun

/-! ## Reading both sides -/

theorem spells_letter {side : Side} {a : String} {s : Switch} (c : Char)
    (hs : side.subcommand? a = none) (hc : side.lettered? c = some (.switch s))
    (ha : ∀ p, argument side p a = letters side p [c]) : Spells side a (.switch s) where
  subcommand := hs
  argument p := by
    rw [ha, letters, hc]
    simp only [letters]
    cases p.option (.switch s) none <;> rfl

theorem forall₂_tokens (f : Flags) :
    List.Forall₂ (fun t s => Spells outerSide t (.switch s)) f.tokens (flagSwitches f) := by
  have ht : Spells outerSide "-t" (.switch .time) := spells_letter 't' rfl rfl fun _ => rfl
  have hv : Spells outerSide "-v" (.switch .verbose) := spells_letter 'v' rfl rfl fun _ => rfl
  have hn : Spells outerSide "-n" (.switch .noOutput) := spells_letter 'n' rfl rfl fun _ => rfl
  have hp : Spells outerSide "-p" (.switch .pruneUnreachable) :=
    spells_letter 'p' rfl rfl fun _ => rfl
  have hs : Spells outerSide "-s" (.switch .pruneUseless) :=
    spells_letter 's' rfl rfl fun _ => rfl
  obtain ⟨time, verbose, quiet, prune⟩ := f
  cases time <;> cases verbose <;> cases quiet <;> cases prune <;>
    simp [Flags.tokens, flagSwitches, Prune.flag, ht, hv, hn, hp, hs]

theorem forall₂_modes (json : Bool) :
    List.Forall₂ (fun t s => Spells outerSide t (.switch s))
      (["--dry-run"] ++ if json then ["--json"] else []) (DryRun.modes json) := by
  have hd : Spells outerSide "--dry-run" (.switch .dryRun) := ⟨rfl, fun _ => rfl⟩
  have hj : Spells outerSide "--json" (.switch .json) := ⟨rfl, fun _ => rfl⟩
  cases json <;> simp [DryRun.modes, hd, hj]

theorem spells_options {op : Operation} (h : op.bundleKind ≠ none) :
    Spells (innerSide op) "--options" (.setting .options) where
  subcommand := rfl
  argument _ := by cases op <;> first | rfl | exact absurd rfl h

theorem toList_vata (path : String) :
    ("--vata=" ++ path).toList = '-' :: '-' :: ("vata".toList ++ '=' :: path.toList) := by
  rw [String.toList_append]
  rfl

theorem argument_vata (p : Progress) (path : String) :
    argument outerSide p ("--vata=" ++ path) = p.option (.setting .vata) (some path) := by
  rw [argument, toList_vata]
  show long outerSide p _ = _
  rw [long, Text.cutFirst_append_mark (by decide)]
  simp only [String.ofList_toList]
  rfl

theorem refusal_encoding (e : Encoding) : refusal .encoding (Coded.token e) = none := by
  have h : Encoding.read (Coded.token e) = .ok e := Coded.ofToken_token e
  simp [refusal, h, faultText]

namespace DryRun

variable {d : DryRun} {b : Option Bundle} {json : Bool}

theorem outer_options (json : Bool) :
    (d.outer json).map (·.option) = outerOptions json d.flags := by
  simp [outer, outerOptions, Function.comp_def]

theorem outerOptions_sound (json : Bool) (f : Flags) :
    (outerOptions json f).Nodup ∧ Opt.help ∉ outerOptions json f ∧
      ∀ a ∈ outerOptions json f, ∀ b ∈ outerOptions json f, excludes a b = false := by
  obtain ⟨time, verbose, quiet, prune⟩ := f
  cases json <;> cases time <;> cases verbose <;> cases quiet <;> cases prune <;> decide

theorem readSide_modes (json : Bool) (as : List String) :
    ∃ q, Ready q ((modes json).map Switch.given) ∧
      readSide outerSide {} ((["--dry-run"] ++ if json then ["--json"] else []) ++ as) =
        readSide outerSide q as := by
  have hr : Ready {} [] := ready_given List.not_mem_nil
  have hn : (([] : List Given).map Given.option ++ (modes json).map Opt.switch).Nodup := by
    cases json <;> decide
  exact readSide_switches as (forall₂_modes json) hr List.not_mem_nil hn

theorem readSide_located {p : Progress} (hp : Ready p ((modes json).map Switch.given))
    (hb : d.binary ≠ "") (as : List String) :
    ∃ q, Ready q ((modes json).map Switch.given ++ [Setting.vata.given d.binary] ++
        [Setting.encoding.given (Coded.token d.encoding)]) ∧
      readSide outerSide p (("--vata=" ++ d.binary) :: "-r" :: Coded.token d.encoding :: as) =
        readSide outerSide q as := by
  have hv : refusal .vata d.binary = none := by simpa [refusal] using hb
  have hs : outerSide.subcommand? ("--vata=" ++ d.binary) = none :=
    operation?_of_dash (toList_vata d.binary)
  have hr : Spells outerSide "-r" (.setting .encoding) := ⟨rfl, fun _ => rfl⟩
  have hd : (Coded.token d.encoding).toList.head? ≠ some '-' := by
    cases d.encoding <;> decide
  have hn : Opt.setting .vata ∉ ((modes json).map Switch.given).map (·.option) := by
    simp
  have hh : Opt.help ∉ ((modes json).map Switch.given ++
      [Setting.vata.given d.binary]).map (·.option) := by
    simp
  refine ⟨_, ready_pending hh (by simp) (refusal_encoding d.encoding), ?_⟩
  have hg : Gives outerSide ("--vata=" ++ d.binary) (Setting.vata.given d.binary) :=
    gives_attached hs (fun p => argument_vata p d.binary) hv
  rw [readSide_given _ hp hg hn,
    readSide_apart _ (ready_given hh) hr hh hd]

theorem readSide_outer (hb : d.binary ≠ "") (json : Bool) :
    ∃ q, Ready q (d.outer json) ∧ readSide outerSide {} (d.line json) =
      .ok (q, some (d.operation, d.optionWords ++ operandWords d.operands)) := by
  let inner := d.optionWords ++ operandWords d.operands
  have hs : outerSide.subcommand? (Coded.token d.operation) = some d.operation :=
    operation?_token d.operation
  obtain ⟨hn, -, -⟩ := outerOptions_sound json d.flags
  have hl : d.line json = (["--dry-run"] ++ if json then ["--json"] else []) ++
      ("--vata=" ++ d.binary) :: "-r" :: Coded.token d.encoding ::
        (d.flags.tokens ++ Coded.token d.operation :: inner) := by
    simp [line, inner]
  obtain ⟨q₁, hq₁, h₁⟩ := readSide_modes json _
  obtain ⟨q₂, hq₂, h₂⟩ := readSide_located hq₁ hb _
  obtain ⟨q₃, hq₃, h₃⟩ := readSide_switches (Coded.token d.operation :: inner)
    (forall₂_tokens d.flags) hq₂ (by simp)
    (by simpa [outerOptions, Function.comp_def] using hn)
  refine ⟨q₃, by simpa [outer] using hq₃, ?_⟩
  rw [hl, h₁, h₂, h₃, readSide_subcommand _ hq₃ hs]

theorem readSide_inner (hb : d.bundle = .ok b) (hn : d.operands.length = d.operation.arity) :
    ∃ q, readSide (innerSide d.operation) {} (d.optionWords ++ operandWords d.operands) =
        .ok (q, none) ∧ q.has .help = false ∧
      ∃ escaped, q.settle = .ok { given := d.inner, operands := d.operands, escaped } := by
  have hr : Ready {} [] := ready_given List.not_mem_nil
  have hl : d.operands.length ≤ (innerSide d.operation).operands := hn.le
  rw [optionWords, inner]
  cases ht : d.options with
  | none => exact readSide_operandWords hr rfl List.not_mem_nil hl
  | some t =>
    rw [bundle, ht] at hb
    cases hread : Bundle.read d.operation d.encoding t with
    | error f => simp [hread, Except.map] at hb
    | ok b' =>
      have hd : t.toList.head? ≠ some '-' := Bundle.head?_of_read hread
      have hk : d.operation.bundleKind ≠ none := by
        rw [Bundle.bundleKind_of_read hread]
        exact Option.some_ne_none _
      have ho : Spells (innerSide d.operation) "--options" (.setting .options) :=
        spells_options hk
      have h := readSide_apart (operandWords d.operands) hr ho List.not_mem_nil hd
      rw [List.cons_append, List.cons_append, List.nil_append, h]
      apply readSide_operandWords _ rfl _ hl
      · exact ready_pending List.not_mem_nil List.not_mem_nil rfl
      · simp

theorem inner_compatible (d : DryRun) :
    ∀ a ∈ d.inner.map (·.option), ∀ b ∈ d.inner.map (·.option), excludes a b = false := by
  rw [inner]
  cases d.options with
  | none => simp
  | some t => simp [excludes, globals]

theorem read_line (hb : d.binary ≠ "") (ho : d.bundle = .ok b)
    (hn : d.operands.length = d.operation.arity) (json : Bool) :
    read (d.line json) = .ok (.invocation (d.invocation json)) := by
  obtain ⟨-, -, hc⟩ := outerOptions_sound json d.flags
  obtain ⟨p, hp, houter⟩ := readSide_outer hb json
  obtain ⟨q, hinner, hq, escaped, hs⟩ := readSide_inner ho hn
  have hh : p.has .help = false := by simpa [Progress.has] using hp.no_help
  have hi : finish (innerSide d.operation) q =
      .ok { given := d.inner, operands := d.operands, escaped } :=
    finish_eq_ok hs hn d.inner_compatible
  have ho : finish outerSide p = .ok { given := d.outer json } :=
    finish_eq_ok hp.settled rfl (by simpa only [outer_options] using hc)
  simp [read, houter, hinner, hh, hq, hi, ho, bind, Except.bind, pure, Except.pure, invocation]

/-! ## What it asks for -/

theorem any_given (ss : List Switch) (s : Switch) :
    (ss.map Switch.given).any (·.option == .switch s) = ss.contains s := by
  have h (t : Switch) : (t.given.option == Opt.switch s) = (s == t) := by
    simp [Bool.beq_eq_decide_eq, eq_comm]
  rw [List.any_map, List.contains_eq_any_beq]
  simp only [Function.comp_def, h]

theorem contains_switches (json : Bool) (f : Flags) (s : Switch) :
    (modes json ++ flagSwitches f).contains s =
      match s with
      | .dryRun => true
      | .json => json
      | .time => f.showTime
      | .verbose => f.verbose
      | .noOutput => f.quiet
      | .pruneUnreachable => f.prune = .unreachable
      | .pruneUseless => f.prune = .useless
      | _ => false := by
  rw [List.contains_append, contains_flagSwitches, modes]
  cases s <;> simp

theorem on_invocation (d : DryRun) (json : Bool) (s : Switch) :
    (d.invocation json).on s =
      match s with
      | .dryRun => true
      | .json => json
      | .time => d.flags.showTime
      | .verbose => d.flags.verbose
      | .noOutput => d.flags.quiet
      | .pruneUnreachable => d.flags.prune = .unreachable
      | .pruneUseless => d.flags.prune = .useless
      | _ => false := by
  have hs (k : Setting) : (Opt.setting k == Opt.switch s) = false := by simp
  have hi : d.inner.any (·.option == .switch s) = false := by
    rw [inner]
    cases d.options <;> simp
  rw [← contains_switches, Invocation.on]
  simp only [invocation, outer, List.any_append, any_given, hi, List.any_cons, List.any_nil,
    Setting.option_given, hs, Bool.or_false, List.contains_append]

theorem find?_given (ss : List Switch) (k : Setting) :
    (ss.map Switch.given).find? (·.option == .setting k) = none := by
  simp

theorem value?_invocation (d : DryRun) (json : Bool) (k : Setting) :
    (d.invocation json).value? k =
      match k with
      | .vata => some d.binary
      | .encoding => some (Coded.token d.encoding)
      | .options => d.options
      | _ => none := by
  rw [Invocation.value?]
  simp only [invocation, outer, List.find?_append, find?_given, inner]
  cases d.options <;> cases k <;> rfl

theorem flags_invocation (d : DryRun) (json : Bool) : (d.invocation json).flags = d.flags := by
  rw [Invocation.flags]
  simp only [on_invocation]
  obtain ⟨_, _, ⟨time, verbose, quiet, prune⟩, _, _, _⟩ := d
  cases prune <;> rfl

theorem typed?_invocation (d : DryRun) (json : Bool) : (d.invocation json).typed? = none := by
  have hd : (d.invocation json).direction? = none := by
    rw [Invocation.direction?, value?_invocation]
    rfl
  have ha : (d.invocation json).algorithm? = none := by
    rw [Invocation.algorithm?, value?_invocation]
    rfl
  have hr : (d.invocation json).order? = none := by
    rw [Invocation.order?, value?_invocation]
    rfl
  have ht : (d.invocation json).simulationTime? = none := by
    rw [Invocation.simulationTime?, value?_invocation]
    rfl
  have hs : (d.invocation json).on .simulation = false := on_invocation d json _
  have hc : (d.invocation json).on .cacheOptimization = false := on_invocation d json _
  have hn : (d.invocation json).on .recursion = false := on_invocation d json _
  rw [Invocation.typed?, Invocation.inclusion?, hd, ha, hr, ht, hs, hc, hn]
  split <;> rfl

theorem bundle_invocation (d : DryRun) (json : Bool) :
    (d.invocation json).bundle d.encoding = d.bundle := by
  rw [Invocation.bundle, value?_invocation, typed?_invocation, bundle]
  cases d.options <;> rfl

theorem command_invocation (ho : d.bundle = .ok b) (json : Bool) :
    (d.invocation json).command d.encoding = (d.request b).build := by
  rw [Invocation.command, bundle_invocation, ho, flags_invocation]
  rfl

theorem settings_invocation {m : Machine} (hm : Settings.Limited m.environment.get?) (d : DryRun)
    (json : Bool) : ∃ s, (d.invocation json).settings m = .ok s ∧ s.binary = d.binary := by
  obtain ⟨s, hs⟩ := Settings.exists_withOverrides {} hm
  rw [Invocation.settings, value?_invocation, value?_invocation, value?_invocation]
  simp only [Settings.load, hs]
  exact ⟨_, rfl, rfl⟩

theorem encoding_invocation (d : DryRun) (json : Bool) (s : Settings) :
    (d.invocation json).encoding s = d.encoding := by
  have h : Encoding.read (Coded.token d.encoding) = .ok d.encoding := Coded.ofToken_token _
  rw [Invocation.encoding, value?_invocation]
  simp [h, Except.toOption]

theorem shown_invocation (d : DryRun) (json : Bool) (vector : List String) :
    (d.invocation json).shown vector =
      if json then (Json.Value.strings vector).line else " ".intercalate vector := by
  rw [Invocation.shown, on_invocation]

theorem plan_invocation {m : Machine} {c : Command} (hm : Settings.Limited m.environment.get?)
    (ho : d.bundle = .ok b) (hc : (d.request b).build = .ok c) (json : Bool) :
    (d.invocation json).plan m = .shown
      (if json then (Json.Value.strings (d.binary :: c.arguments)).line
        else " ".intercalate (d.binary :: c.arguments)) := by
  obtain ⟨s, hs, hbin⟩ := settings_invocation hm d json
  have hd : (d.invocation json).on .dryRun = true := on_invocation d json _
  rw [Invocation.plan, hs]
  simp only [encoding_invocation, command_invocation ho, hc, hd, hbin, shown_invocation, if_true]

end DryRun

/-! ## What it leaves -/

/-- A dry run shows a vector: it leaves one line, which is read back as the vector, and does not
start the tool. -/
structure Shows (m : Machine) (d : DryRun) (vector : List String) : Prop where
  not_started : ∀ json, ¬ Starts m (d.line json)
  json : ∃ text, Json.Value.read text = .ok (Json.Value.strings vector) ∧
    ∀ start id, run start id m (d.line true) =
      { exit := 0, stdout := text ++ "\n", files := m.files }
  plain : ∀ start id, run start id m (d.line false) =
    { exit := 0, stdout := " ".intercalate vector ++ "\n", files := m.files }
  splits : (∀ a ∈ vector, ' ' ∉ a.toList) →
    Text.pieces ' ' (" ".intercalate vector).toList = vector.map String.toList

theorem shows_of_request {m : Machine} {d : DryRun} {b : Option Bundle} {c : Command}
    (hm : Valid (informed m).environment) (hb : d.binary ≠ "") (ho : d.bundle = .ok b)
    (hc : c.request = d.request b) : Shows m d (d.binary :: c.arguments) := by
  have hs : c.operands = d.operands := congrArg Request.operands hc
  have hp : c.operation = d.operation := congrArg Request.operation hc
  have hn : d.operands.length = d.operation.arity := by
    rw [← hs, ← hp, c.operands_length]
  have hbuild : (d.request b).build = .ok c := by rw [← hc, c.build_request]
  have hread := DryRun.read_line hb ho hn
  have hplan := DryRun.plan_invocation hm.limited ho hbuild
  refine ⟨fun json => not_starts_of_shown (hread json) (hplan json), ?_, ?_, ?_⟩
  · exact ⟨_, Json.read_strings _, run_of_shown hm.journal (hread true) (hplan true)⟩
  · exact run_of_shown hm.journal (hread false) (hplan false)
  · exact Text.pieces_intercalate (List.cons_ne_nil _ _)

theorem DryRun.fits_of_bundle {d : DryRun} {b : Option Bundle} (h : d.bundle = .ok b) :
    Command.Fits d.operation b := by
  rw [bundle] at h
  cases ht : d.options with
  | none =>
    obtain ⟨rfl⟩ : none = b := by simpa [ht] using h
    rintro b' ⟨⟩
  | some t =>
    cases hread : Bundle.read d.operation d.encoding t with
    | error f => simp [ht, hread, Except.map] at h
    | ok b' =>
      obtain ⟨rfl⟩ : some b' = b := by simpa [ht, hread, Except.map] using h
      rintro b' ⟨rfl⟩
      exact Bundle.bundleKind_of_read hread

def DryRun.ofCommand (binary : String) (c : Command) : DryRun where
  binary := binary
  encoding := c.encoding
  flags := c.flags
  operation := c.operation
  options := c.bundle.map (·.text c.encoding)
  operands := c.operands

theorem DryRun.bundle_ofCommand (binary : String) (c : Command) :
    (ofCommand binary c).bundle = .ok c.bundle := by
  rw [bundle, ofCommand]
  cases hb : c.bundle with
  | none => rfl
  | some b =>
    have h := Bundle.read_text (c.bundle_kind b hb) c.encoding
    simp [h, Except.map]

/-- A dry run shows the vector of the command that has the parts it names, and every command is
shown by one. -/
theorem dryRun_shows {m : Machine} (hm : Valid (informed m).environment) :
    (∀ (d : DryRun) (b : Option Bundle), d.binary ≠ "" → d.bundle = .ok b →
      d.operands.length = d.operation.arity →
      ∃ c : Command, c.request = d.request b ∧ Shows m d (d.binary :: c.arguments)) ∧
    ∀ (c : Command) (binary : String), binary ≠ "" →
      ∃ d : DryRun, d.binary = binary ∧ d.bundle = .ok c.bundle ∧
        d.request c.bundle = c.request ∧ Shows m d (binary :: c.arguments) := by
  constructor
  · intro d b hb ho hn
    obtain ⟨c, -, hc⟩ := Request.build_of_sound (q := d.request b) ⟨hn, DryRun.fits_of_bundle ho⟩
    exact ⟨c, hc, shows_of_request hm hb ho hc⟩
  · intro c binary hb
    have ho := DryRun.bundle_ofCommand binary c
    exact ⟨DryRun.ofCommand binary c, rfl, ho, rfl, shows_of_request hm hb ho rfl⟩

theorem dryRun_shows_backward :
    Valid (informed ⟨{}, [], [("VATA_TIMEOUT_MS", "250")], none⟩).environment ∧
    Shows ⟨{}, [], [("VATA_TIMEOUT_MS", "250")], none⟩
      ⟨"my vata", .explicitFa, { verbose := true, prune := .useless }, .reduction, some "dir=bwd",
        ["--json \"a\""]⟩
      ["my vata", "-r", "expl_fa", "-v", "-s", "red", "-o", "dir=bwd", "--json \"a\""] := by
  have hm : Valid (informed ⟨{}, [], [("VATA_TIMEOUT_MS", "250")], none⟩).environment := by
    refine ⟨rfl, ?_⟩
    rintro raw ⟨rfl⟩
    exact ⟨250, rfl⟩
  let d : DryRun := ⟨"my vata", .explicitFa, { verbose := true, prune := .useless }, .reduction,
    some "dir=bwd", ["--json \"a\""]⟩
  obtain ⟨c, hc, hs⟩ := (dryRun_shows hm).1 d (some (.direction .up)) (by decide) rfl rfl
  have hb : (d.request (some (.direction .up))).build = .ok c := by rw [← hc, c.build_request]
  cases hb
  exact ⟨hm, hs⟩

end TreeTool.CommandLine
