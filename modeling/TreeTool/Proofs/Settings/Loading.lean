import Mathlib.Data.Option.Defs
import TreeTool.Proofs.Number.Numerals
import TreeTool.Proofs.Settings.Stated

/-!
# Loading settings

A settings file that is read and accepted states settings, and any other is reported with its own
fault. Two variables of the environment go over what the file states; only the time limit can be
refused there, and it is looked at only after the file has been accepted.
-/

namespace TreeTool.Settings

open Toml (Members)

variable {files : Files.Tree} {here : Files.Place} {path : String} {s s' : Settings} {f : Fault}

/-! ## The file -/

/-- What the settings file states; without one nothing is stated. -/
inductive States (files : Files.Tree) (here : Files.Place) : Option String → Stated → Prop
  | nothing : States files here none {}
  | file {path text : String} {ms : Members} (hr : files.readText here path = .ok text)
      (ht : Toml.read text = some ms) (hl : ∀ m ∈ ms, Legal m.1 m.2) :
      States files here (some path) (Stated.ofMembers ms)

/-- Why a settings file states nothing: it cannot be read, or it is no document, or a member of it
does not fit. -/
inductive Faulty (files : Files.Tree) (here : Files.Place) (path : String) : Fault → Prop
  | unreadable {p : Files.Problem} (hr : files.readText here path = .error p) :
      Faulty files here path (.settings ("cannot read " ++ path ++ ": " ++ p.text))
  | malformed {text : String} (hr : files.readText here path = .ok text)
      (ht : Toml.read text = none) : Faulty files here path (.settings Refusal.malformed.text)
  | refused {text : String} {ms : Members} {r : Refusal}
      (hr : files.readText here path = .ok text) (ht : Toml.read text = some ms)
      (hm : Refused r ms) : Faulty files here path (.settings r.text)

theorem ofFile_of_states {d : Stated} (h : States files here (some path) d) :
    ofFile files here path = .ok (d.onto {}) := by
  cases h with
  | file hr ht hl =>
    have hm := (ofMembers_eq_ok_iff (Toml.distinct_of_read ht)).mpr ⟨hl, rfl⟩
    simp only [ofFile, hr, ofToml, readToml, ht, hm]

theorem ofFile_of_faulty (h : Faulty files here path f) :
    ofFile files here path = .error f := by
  cases h with
  | unreadable hr => simp only [ofFile, hr]
  | malformed hr ht => simp only [ofFile, hr, ofToml, readToml, ht]
  | refused hr ht hm =>
    simp only [ofFile, hr, ofToml, readToml, ht, ofMembers_eq_error_iff.mpr hm]

theorem states_or_faulty (files : Files.Tree) (here : Files.Place) (path : String) :
    (∃ d, States files here (some path) d) ∨ ∃ f, Faulty files here path f := by
  cases hr : files.readText here path with
  | error p => exact Or.inr ⟨_, .unreadable hr⟩
  | ok text =>
    cases ht : Toml.read text with
    | none => exact Or.inr ⟨_, .malformed hr ht⟩
    | some ms =>
      cases hm : ofMembers ms with
      | error r => exact Or.inr ⟨_, .refused hr ht (ofMembers_eq_error_iff.mp hm)⟩
      | ok s =>
        obtain ⟨hl, -⟩ := (ofMembers_eq_ok_iff (Toml.distinct_of_read ht)).mp hm
        exact Or.inl ⟨_, .file hr ht hl⟩

/-! ## The environment -/

theorem millisOf_eq_ok_iff {raw : String} {n : Nat} :
    millisOf raw = .ok n ↔ Number.Numeral (Text.trim raw.toList) n := by
  rw [← Number.readWord_eq_ok_iff, millisOf]
  cases Number.readWord (Text.trim raw.toList) <;> simp

def limitFault (raw : String) : Fault :=
  .settings ("VATA_TIMEOUT_MS must be a number of milliseconds, got '" ++ raw ++ "'")

theorem millisOf_eq_error_iff {raw : String} :
    millisOf raw = .error f ↔ (∀ n, ¬ Number.Numeral (Text.trim raw.toList) n) ∧
      f = limitFault raw := by
  simp only [← Number.readWord_eq_ok_iff]
  rw [millisOf]
  cases Number.readWord (Text.trim raw.toList) with
  | ok n => simp
  | error r => simp [limitFault, timeoutVariable, eq_comm, String.append_assoc]

/-- The time limit of an environment: none is set, or it is a number. -/
def Limits (lookup : String → Option String) (t : Option Nat) : Prop :=
  Option.Rel (fun raw n => Number.Numeral (Text.trim raw.toList) n)
    (override? lookup timeoutVariable) t

theorem limits_or_not (lookup : String → Option String) :
    (∃ t, Limits lookup t) ∨ ∃ raw, override? lookup timeoutVariable = some raw ∧
      ∀ n, ¬ Number.Numeral (Text.trim raw.toList) n := by
  cases hr : override? lookup timeoutVariable with
  | none => exact Or.inl ⟨none, by rw [Limits, hr]; exact .none⟩
  | some raw =>
    cases hm : millisOf raw with
    | ok n => exact Or.inl ⟨some n, by rw [Limits, hr]; exact .some (millisOf_eq_ok_iff.mp hm)⟩
    | error f => exact Or.inr ⟨raw, rfl, (millisOf_eq_error_iff.mp hm).1⟩

theorem withOverrides_of_limits {lookup : String → Option String} {t : Option Nat}
    (h : Limits lookup t) (s : Settings) :
    s.withOverrides lookup = .ok { s with
      binary := (override? lookup binaryVariable).getD s.binary
      timeoutMillis := t.or s.timeoutMillis } := by
  rw [withOverrides]
  cases hr : override? lookup timeoutVariable with
  | none =>
    rw [Limits, hr] at h
    cases h
    rfl
  | some raw =>
    rw [Limits, hr] at h
    obtain ⟨hn⟩ := h
    simp only [millisOf_eq_ok_iff.mpr hn]
    rfl

theorem withOverrides_of_no_limit {lookup : String → Option String} {raw : String}
    (hr : override? lookup timeoutVariable = some raw)
    (hn : ∀ n, ¬ Number.Numeral (Text.trim raw.toList) n) (s : Settings) :
    s.withOverrides lookup = .error (limitFault raw) := by
  rw [withOverrides, hr]
  simp only [millisOf_eq_error_iff.mpr ⟨hn, rfl⟩]
  rfl

end TreeTool.Settings
