import TreeTool.Proofs.CommandLine.Answering
import TreeTool.Proofs.CommandLine.Given
import TreeTool.Proofs.EnvironmentFile.Plain
import TreeTool.Proofs.Settings.Loading

/-!
# Where the settings come from

A setting can be given by an option, a variable of the environment, the settings file and a
default, in this order, and not every setting by each of them. Every source counts as absent in its
own way: an option that is not given, a variable that is empty, not set or set to no text, a name
that the file does not state. The resolved settings take each value from the highest source that has
one. A fault of the file or, after that, of the variable with the time limit stands whatever options
are given.

What the environment file supplies is told from the files alone: it is the nearest one, and if that
is plain it supplies what it shows.
-/

namespace TreeTool.CommandLine

open Settings (Stated States Faulty binaryVariable timeoutVariable limitFault)

/-- The value of the highest source that has one; the sources are listed from the highest on. -/
def highest {α : Type} (sources : List (Option α)) : Option α := sources.findSome? id

/-- The text of a variable that counts: of the environment if it has one there at all, else of the
environment file, and not empty. Bytes that are no text are passed over like a variable that is not
set. -/
def inForce? (m : Machine) (name : String) : Option String :=
  ((m.environment.get? name).or ((EnvironmentFile.entries m).lookup name)).filter fun v =>
    !v.isEmpty

/-- The settings of a command line on a machine whose settings file states `d`. -/
structure Resolved (m : Machine) (i : Invocation) (d : Stated) (s : Settings) : Prop where
  binary : s.binary =
    (highest [i.value? .vata, inForce? m "VATA_BIN", d.binary]).getD "vata"
  timeout : ∃ own found,
    Option.Rel (fun v n => Number.Numeral v.toList n) (i.value? .timeoutMs) own ∧
    Option.Rel (fun v n => Number.Numeral (Text.trim v.toList) n)
      (inForce? m "VATA_TIMEOUT_MS") found ∧
    s.timeoutMillis = highest [own, found, d.timeoutMillis]
  encoding : ∃ own,
    Option.Rel (fun v e => v = Coded.token e) (i.value? .encoding) own ∧
    i.encoding s = (highest [own, d.encoding]).getD .explicit
  stderr : s.stderr = d.stderr.getD .capture

/-- Why the settings cannot be resolved, in terms of the settings file alone and the machine: the
file is faulty, or else a variable with text in it denotes no time limit. -/
inductive Unresolved (m : Machine) : Option String → Fault → Prop
  | file {path : String} {f : Fault} (h : Faulty m.files m.here path f) :
      Unresolved m (some path) f
  | limit {config : Option String} {d : Stated} {raw : String}
      (hd : States m.files m.here config d) (hv : inForce? m "VATA_TIMEOUT_MS" = some raw)
      (hn : ∀ n, ¬ Number.Numeral (Text.trim raw.toList) n) :
      Unresolved m config (limitFault raw)

variable {m : Machine} {args : List String} {i : Invocation} {config : Option String} {d : Stated}
  {f : Fault}

@[simp]
theorem highest_nil {α : Type} : highest ([] : List (Option α)) = none := rfl

@[simp]
theorem highest_cons {α : Type} (source : Option α) (sources : List (Option α)) :
    highest (source :: sources) = source.or (highest sources) := by
  cases source <;> rfl

/-! ## File and environment -/

theorem override?_informed (m : Machine) (name : String) :
    Settings.override? (informed m).environment.get? name = inForce? m name := by
  rw [Settings.override?, informed, EnvironmentFile.get?_load]
  rfl

theorem load_of_states (h : States m.files m.here config d) (lookup : String → Option String) :
    Settings.load m.files m.here lookup config = (d.onto {}).withOverrides lookup := by
  cases config with
  | none =>
    cases h
    rfl
  | some path =>
    simp only [Settings.load, Settings.ofFile_of_states h]

theorem load_informed (h : States m.files m.here config d) {found : Option Nat}
    (hf : Settings.Limits (informed m).environment.get? found) :
    Settings.load (informed m).files (informed m).here (informed m).environment.get? config =
      .ok { d.onto {} with
        binary := (inForce? m "VATA_BIN").getD (d.binary.getD "vata")
        timeoutMillis := found.or d.timeoutMillis } := by
  show Settings.load m.files m.here _ config = _
  rw [load_of_states h, Settings.withOverrides_of_limits hf, override?_informed]
  simp [Stated.onto, binaryVariable]

theorem load_of_unresolved (h : Unresolved m config f) :
    Settings.load (informed m).files (informed m).here (informed m).environment.get? config =
      .error f := by
  show Settings.load m.files m.here _ config = _
  cases h with
  | file h => simp only [Settings.load, Settings.ofFile_of_faulty h]
  | limit hd hv hn =>
    rw [load_of_states hd]
    exact Settings.withOverrides_of_no_limit ((override?_informed m _).trans hv) hn _

theorem resolvable (m : Machine) (config : Option String) :
    (∃ d found, States m.files m.here config d ∧
      Settings.Limits (informed m).environment.get? found) ∨ ∃ f, Unresolved m config f := by
  have hd : (∃ d, States m.files m.here config d) ∨ ∃ f, Unresolved m config f := by
    cases config with
    | none => exact Or.inl ⟨_, .nothing⟩
    | some path =>
      exact (Settings.states_or_faulty m.files m.here path).imp_right fun ⟨f, hf⟩ => ⟨f, .file hf⟩
  rcases hd with ⟨d, hd⟩ | hd
  · rcases Settings.limits_or_not (informed m).environment.get? with ⟨t, ht⟩ | ⟨raw, hr, hn⟩
    · exact Or.inl ⟨d, t, hd, ht⟩
    · exact Or.inr ⟨_, .limit hd ((override?_informed m _).symm.trans hr) hn⟩
  · exact Or.inr hd

/-! ## Options on top -/

namespace Invocation

theorem settings_of_unresolved (h : Unresolved m (i.value? .config) f) :
    i.settings (informed m) = .error f := by
  rw [settings, load_of_unresolved h]

theorem denoted_of_read (hr : read args = .ok (.invocation i)) :
    (∃ own, Option.Rel (fun v n => Number.Numeral v.toList n) (i.value? .timeoutMs) own ∧
      ((i.value? .timeoutMs).bind fun v => (Number.readWord v.toList).toOption) = own) ∧
    ∃ own, Option.Rel (fun v e => v = Coded.token e) (i.value? .encoding) own ∧
      ((i.value? .encoding).bind fun v => (Encoding.read v).toOption) = own := by
  constructor
  · cases hv : i.value? .timeoutMs with
    | none => exact ⟨none, .none, rfl⟩
    | some v =>
      obtain ⟨n, hn⟩ := millis_of_refusal (refusal_of_value? hr hv)
      exact ⟨some n, .some (Number.readWord_eq_ok_iff.mp hn), by simp [hn, Except.toOption]⟩
  · cases hv : i.value? .encoding with
    | none => exact ⟨none, .none, rfl⟩
    | some v =>
      obtain ⟨e, he⟩ := encoding_of_refusal (refusal_of_value? hr hv)
      exact ⟨some e, .some (Coded.eq_token_of_ofToken he), by simp [he, Except.toOption]⟩

theorem exists_settings (hr : read args = .ok (.invocation i))
    (hd : States m.files m.here (i.value? .config) d) {found : Option Nat}
    (hf : Settings.Limits (informed m).environment.get? found) :
    ∃ s, i.settings (informed m) = .ok s ∧ Resolved m i d s := by
  obtain ⟨⟨ownLimit, hl, hol⟩, ownEncoding, he, hoe⟩ := denoted_of_read hr
  rw [settings, load_informed hd hf]
  simp only [hol]
  refine ⟨_, rfl, ?_, ⟨ownLimit, found, hl, ?_, ?_⟩, ⟨ownEncoding, he, ?_⟩, rfl⟩
  · simp [Option.getD_or]
  · rwa [Settings.Limits, override?_informed] at hf
  · simp
  · rw [encoding, hoe]
    simp [Stated.onto, Option.getD_or]

theorem settings_eq_error_iff (hr : read args = .ok (.invocation i)) :
    i.settings (informed m) = .error f ↔ Unresolved m (i.value? .config) f := by
  refine ⟨fun h => ?_, settings_of_unresolved⟩
  rcases resolvable m (i.value? .config) with ⟨d, found, hd, hf⟩ | ⟨f', hu⟩
  · obtain ⟨s, hs, -⟩ := exists_settings hr hd hf
    rw [hs] at h
    cases h
  · rw [settings_of_unresolved hu] at h
    cases h
    exact hu

theorem resolved_of_settings (hr : read args = .ok (.invocation i)) {s : Settings}
    (hs : i.settings (informed m) = .ok s) :
    ∃ d, States m.files m.here (i.value? .config) d ∧ Resolved m i d s := by
  rcases resolvable m (i.value? .config) with ⟨d, found, hd, hf⟩ | ⟨f, hu⟩
  · obtain ⟨s', hs', hres⟩ := exists_settings hr hd hf
    rw [hs'] at hs
    cases hs
    exact ⟨d, hd, hres⟩
  · rw [settings_of_unresolved hu] at hs
    cases hs

end Invocation

/-- The settings of a command line come from their highest sources, of which the environment file
is one as far as it supplies anything. They cannot be resolved exactly if the settings file or the
time limit of the environment is at fault, and then no option of a command line with the same
settings file makes up for it. -/
theorem settings_ranked (hr : read args = .ok (.invocation i)) (m : Machine) :
    EnvironmentFile.Supplies m (EnvironmentFile.entries m) ∧
    (∀ s, i.settings (informed m) = .ok s →
      ∃ d, States m.files m.here (i.value? .config) d ∧ Resolved m i d s) ∧
    (∀ f, i.settings (informed m) = .error f ↔ Unresolved m (i.value? .config) f) ∧
    ∀ j : Invocation, j.value? .config = i.value? .config →
      ∀ f, i.settings (informed m) = .error f → j.settings (informed m) = .error f := by
  refine ⟨EnvironmentFile.supplies_entries m, fun s hs => Invocation.resolved_of_settings hr hs,
    fun f => Invocation.settings_eq_error_iff hr, fun j hj f hf => ?_⟩
  have hu : Unresolved m (i.value? .config) f := (Invocation.settings_eq_error_iff hr).mp hf
  exact Invocation.settings_of_unresolved (hj ▸ hu)

def plainFile : String := "# the tool\nVATA_BIN=tool\nVATA_TIMEOUT_MS=250\n"

/-- A machine with a plain environment file above its directory, and one of the variables set. -/
def below : Machine where
  files := ⟨[(["work"], .directory), ([".env"], .file (bytes plainFile) false)]⟩
  here := ["work"]
  environment := [("VATA_BIN", "")]

theorem nearest_below : EnvironmentFile.Nearest below.files below.here (bytes plainFile) := by
  refine ⟨0, Nat.zero_le _, ⟨_, .itself rfl nofun, rfl⟩, fun j hj hle => ?_⟩
  obtain rfl : j = 1 := Nat.le_antisymm hle hj
  exact .unnamed rfl

theorem plain_plainFile : EnvironmentFile.Plain (bytes plainFile)
    [("VATA_BIN", "tool"), ("VATA_TIMEOUT_MS", "250")] := by
  have hcomment : '\n' ∉ " the tool".toList := by decide
  have hbin : EnvironmentFile.IsName "VATA_BIN".toList :=
    ⟨⟨'V', rfl, rfl⟩, List.forall_iff_forall_mem.mp (by decide)⟩
  have htool := List.forall_iff_forall_mem (l := "tool".toList) (p := EnvironmentFile.IsBare)
  have hlimit : EnvironmentFile.IsName "VATA_TIMEOUT_MS".toList :=
    ⟨⟨'V', rfl, rfl⟩, List.forall_iff_forall_mem.mp (by decide)⟩
  have hdigits := List.forall_iff_forall_mem (l := "250".toList) (p := EnvironmentFile.IsBare)
  exact ⟨_, .line (.comment hcomment) (.line (.bare hbin (htool.mp (by decide)))
    (.line (.bare hlimit (hdigits.mp (by decide))) .nil)), rfl⟩

/-- The file supplies the limit, but no binary: that variable is set, if only to nothing. -/
theorem settings_ranked_below :
    ∃ i s, read ["load", "a"] = .ok (.invocation i) ∧ i.settings (informed below) = .ok s ∧
      Resolved below i {} s ∧ s.binary = "vata" ∧ s.timeoutMillis = some 250 := by
  let i : Invocation := ⟨[], [], .load, ["a"]⟩
  have hr : read ["load", "a"] = .ok (.invocation i) := rfl
  obtain ⟨hsupplies, hok, herror, -⟩ := settings_ranked hr below
  have hes := hsupplies.plain _ _ nearest_below plain_plainFile
  have hbinary : inForce? below "VATA_BIN" = none := rfl
  have htimeout : inForce? below "VATA_TIMEOUT_MS" = some "250" := by
    rw [inForce?, hes]
    rfl
  have hnumeral {n : Nat} : Number.Numeral (Text.trim "250".toList) n ↔ n = 250 := by
    rw [← Number.readWord_eq_ok_iff]
    exact ⟨fun h => (Except.ok.inj h).symm, fun h => h ▸ rfl⟩
  obtain ⟨s, hs⟩ : ∃ s, i.settings (informed below) = .ok s := by
    cases hs : i.settings (informed below) with
    | ok s => exact ⟨s, rfl⟩
    | error f =>
      cases (herror f).mp hs with
      | limit hd hv hn =>
        rw [htimeout] at hv
        cases hv
        exact absurd (hnumeral.mpr rfl) (hn 250)
  obtain ⟨d, hd, hres⟩ := hok s hs
  cases hd
  refine ⟨i, s, hr, hs, hres, ?_, ?_⟩
  · rw [hres.binary, hbinary]
    rfl
  · obtain ⟨own, found, hown, hfound, hmillis⟩ := hres.timeout
    rw [htimeout] at hfound
    cases hown
    cases hfound with
    | some hn => rw [hmillis, hnumeral.mp hn]; rfl

/-- A limit that is no text at all counts as not set, and nothing is reported. -/
theorem run_past_unreadable_limit :
    ∃ h, ∀ start id, run start id
      ⟨{}, [], [("VATA_TIMEOUT_MS", .bytes [0xFF] h)], none⟩ ["--dry-run", "load", "a"] =
        { exit := 0, stdout := "vata -r expl load a\n", files := {} } := by
  have h : Text.Utf8.strict [0xFF] = none := by
    rw [Text.Utf8.strict_cons]
    rfl
  refine ⟨h, fun start id => ?_⟩
  let m : Machine := ⟨{}, [], [("VATA_TIMEOUT_MS", .bytes [0xFF] h)], none⟩
  let i : Invocation := ⟨[⟨.switch .dryRun, none⟩], [], .load, ["a"]⟩
  have hp : i.plan (informed m) = .shown "vata -r expl load a" := rfl
  exact run_of_shown rfl rfl hp start id

end TreeTool.CommandLine
