import Mathlib.Data.List.TakeWhile
import TreeTool.Proofs.Settings.Loading

/-!
# Settings overridden by variables

Two variables go over settings, each with a notion of its own of what it says. A variable without
text says nothing. The text of the first is taken as it stands; that of the second has to be a
numeral, and blanks around it do not count. A numeral holds no blank itself, so what is left after
trimming is a numeral exactly if the text is one between blanks, and a text of blanks alone is none.
-/

namespace TreeTool

namespace Text

variable {before body after cs : List Char}

theorem trimEnd_append (h : ∀ c ∈ after, isBlank c) : trimEnd (cs ++ after) = trimEnd cs := by
  have hr : ∀ c ∈ after.reverse, isBlank c := fun c hc => h c (List.mem_reverse.mp hc)
  rw [trimEnd, List.reverse_append, List.dropWhile_append_of_pos hr, trimEnd]

theorem dropWhile_isBlank_of_solid (h : ∀ c ∈ cs, isBlank c = false) :
    cs.dropWhile isBlank = cs := by
  cases cs with
  | nil => rfl
  | cons c cs =>
    have hc : ¬ isBlank c := by simp [h c List.mem_cons_self]
    rw [List.dropWhile_cons_of_neg hc]

theorem trim_between (hb : ∀ c ∈ before, isBlank c) (ha : ∀ c ∈ after, isBlank c)
    (hbody : ∀ c ∈ body, isBlank c = false) : trim (before ++ body ++ after) = body := by
  have hstart : trimStart (before ++ body ++ after) = trimStart (body ++ after) := by
    rw [List.append_assoc, trimStart, List.dropWhile_append_of_pos hb, trimStart]
  rw [trim, hstart]
  cases body with
  | nil =>
    have hnil : trimStart after = [] := List.dropWhile_eq_nil_iff.mpr ha
    rw [List.nil_append, hnil]
    rfl
  | cons c body =>
    have hc : ¬ isBlank c := by simp [hbody c List.mem_cons_self]
    have hr : ∀ d ∈ (c :: body).reverse, isBlank d = false :=
      fun d hd => hbody d (List.mem_reverse.mp hd)
    rw [trimStart, List.cons_append, List.dropWhile_cons_of_neg hc, ← List.cons_append,
      trimEnd_append ha, trimEnd, dropWhile_isBlank_of_solid hr, List.reverse_reverse]

theorem exists_trim (cs : List Char) : ∃ before after, cs = before ++ trim cs ++ after ∧
    (∀ c ∈ before, isBlank c) ∧ ∀ c ∈ after, isBlank c := by
  have hstart : cs.takeWhile isBlank ++ trimStart cs = cs := List.takeWhile_append_dropWhile
  have hend : trim cs ++ ((trimStart cs).reverse.takeWhile isBlank).reverse = trimStart cs := by
    rw [trim, trimEnd, ← List.reverse_append, List.takeWhile_append_dropWhile,
      List.reverse_reverse]
  refine ⟨cs.takeWhile isBlank, ((trimStart cs).reverse.takeWhile isBlank).reverse, ?_,
    fun c hc => List.mem_takeWhile_imp hc, fun c hc => ?_⟩
  · rw [List.append_assoc, hend, hstart]
  · exact List.mem_takeWhile_imp (List.mem_reverse.mp hc)

end Text

namespace Settings

variable {lookup : String → Option String} {name : String} {s s' : Settings} {f : Fault}

/-- A text that denotes a number of milliseconds: a numeral, and blanks around it. -/
def Denotes (raw : String) (n : Nat) : Prop :=
  ∃ before numeral after, raw.toList = before ++ numeral ++ after ∧
    (∀ c ∈ before, Text.isBlank c) ∧ (∀ c ∈ after, Text.isBlank c) ∧ Number.Numeral numeral n

/-- The value after a variable has gone over an old one. -/
inductive Overlaid {α : Type} (lookup : String → Option String) (name : String)
    (Reads : String → α → Prop) (old : α) : α → Prop
  | unset : lookup name = none → Overlaid lookup name Reads old old
  | empty : lookup name = some "" → Overlaid lookup name Reads old old
  | set (raw : String) (a : α) : lookup name = some raw → raw ≠ "" → Reads raw a →
    Overlaid lookup name Reads old a

structure Overridden (lookup : String → Option String) (s s' : Settings) : Prop where
  binary : Overlaid lookup "VATA_BIN" (fun raw b => b = raw) s.binary s'.binary
  timeout : Overlaid lookup "VATA_TIMEOUT_MS" (fun raw t => ∃ n, Denotes raw n ∧ t = some n)
    s.timeoutMillis s'.timeoutMillis
  encoding : s'.encoding = s.encoding
  stderr : s'.stderr = s.stderr

structure Unlimited (lookup : String → Option String) (raw : String) : Prop where
  set : lookup "VATA_TIMEOUT_MS" = some raw
  nonempty : raw ≠ ""
  undenoted : ∀ n, ¬ Denotes raw n

/-- What a lookup does to settings. -/
structure OverriddenBy (lookup : String → Option String) (s : Settings) : Prop where
  succeeds : ∀ s', s.withOverrides lookup = .ok s' ↔ Overridden lookup s s'
  fails : ∀ f, s.withOverrides lookup = .error f ↔
    ∃ raw, Unlimited lookup raw ∧
      f = .settings ("VATA_TIMEOUT_MS must be a number of milliseconds, got '" ++ raw ++ "'")
  coded : ∀ f, s.withOverrides lookup = .error f → f.report.code = "ERR_CONFIG"
  blank : ∀ raw, lookup "VATA_TIMEOUT_MS" = some raw → raw ≠ "" →
    (∀ c ∈ raw.toList, Text.isBlank c) → ∃ f, s.withOverrides lookup = .error f
  empty : lookup "VATA_TIMEOUT_MS" = some "" → ∃ s', s.withOverrides lookup = .ok s'
  again : ∀ s', s.withOverrides lookup = .ok s' → s'.withOverrides lookup = .ok s'

/-! ## Numerals between blanks -/

theorem solid_of_numeral {cs : List Char} {n : Nat} (h : Number.Numeral cs n) :
    ∀ c ∈ cs, Text.isBlank c = false := by
  obtain ⟨ds, -, hcs, hds, -⟩ := h.written
  have hdigit : ∀ c ∈ ds, Text.isBlank c = false := by
    intro c hc
    have hlow : 48 ≤ c.toNat := (hds c hc).1
    have hhigh : c.toNat ≤ 57 := (hds c hc).2
    simp [Text.isBlank]
    omega
  rcases hcs with rfl | rfl
  · exact hdigit
  · intro c hc
    rcases List.mem_cons.mp hc with rfl | hc
    · rfl
    · exact hdigit c hc

theorem numeral_trim_iff {raw : String} {n : Nat} :
    Number.Numeral (Text.trim raw.toList) n ↔ Denotes raw n := by
  constructor
  · intro h
    obtain ⟨before, after, hcs, hb, ha⟩ := Text.exists_trim raw.toList
    exact ⟨before, _, after, hcs, hb, ha, h⟩
  · rintro ⟨before, numeral, after, hcs, hb, ha, h⟩
    rwa [hcs, Text.trim_between hb ha (solid_of_numeral h)]

theorem not_denotes_of_blank {raw : String} (h : ∀ c ∈ raw.toList, Text.isBlank c) (n : Nat) :
    ¬ Denotes raw n := by
  rintro ⟨before, numeral, after, hcs, -, -, hn⟩
  obtain ⟨ds, hne, hds, -⟩ := hn.written
  obtain ⟨c, hc⟩ : ∃ c, c ∈ numeral := by
    obtain ⟨d, hd⟩ := List.exists_mem_of_ne_nil ds hne
    rcases hds with rfl | rfl
    · exact ⟨d, hd⟩
    · exact ⟨d, List.mem_cons_of_mem _ hd⟩
  have hblank : Text.isBlank c := h c (by simp [hcs, hc])
  rw [solid_of_numeral hn c hc] at hblank
  cases hblank

/-! ## One variable -/

theorem overlaid_iff {α : Type} {Reads : String → α → Prop} {old a : α} :
    Overlaid lookup name Reads old a ↔
      match override? lookup name with
      | none => a = old
      | some raw => Reads raw a := by
  have hempty : ∀ raw : String, raw ≠ "" ↔ (!raw.isEmpty) = true := by simp
  constructor
  · intro h
    cases h with
    | unset hl => simp [override?, hl]
    | empty hl => simp [override?, hl, Option.filter]
    | set raw a hl hne hr => simpa [override?, hl, Option.filter, (hempty raw).mp hne] using hr
  · intro h
    cases hl : lookup name with
    | none =>
      simp only [override?, hl, Option.filter_none] at h
      exact h ▸ .unset hl
    | some raw =>
      by_cases hne : raw = ""
      · subst hne
        simp only [override?, hl, Option.filter] at h
        exact h ▸ .empty hl
      · simp only [override?, hl, Option.filter, (hempty raw).mp hne, if_true] at h
        exact .set raw a hl hne h

theorem unlimited_iff {raw : String} :
    Unlimited lookup raw ↔
      override? lookup timeoutVariable = some raw ∧ ∀ n, ¬ Denotes raw n := by
  rw [override?, Option.filter_eq_some_iff]
  constructor
  · rintro ⟨hset, hne, hn⟩
    exact ⟨⟨hset, by simpa using hne⟩, hn⟩
  · rintro ⟨⟨hset, hne⟩, hn⟩
    exact ⟨hset, by simpa using hne, hn⟩

/-! ## Both variables -/

theorem overridden_of_limits {t : Option Nat} (h : Limits lookup t) (s : Settings) :
    Overridden lookup s { s with
      binary := (override? lookup binaryVariable).getD s.binary
      timeoutMillis := t.or s.timeoutMillis } where
  binary := by
    rw [overlaid_iff, binaryVariable]
    cases override? lookup "VATA_BIN" <;> rfl
  timeout := by
    rw [Limits, timeoutVariable] at h
    rw [overlaid_iff]
    cases hr : override? lookup "VATA_TIMEOUT_MS" with
    | none =>
      rw [hr] at h
      cases h
      rfl
    | some raw =>
      rw [hr] at h
      obtain ⟨hn⟩ := h
      exact ⟨_, numeral_trim_iff.mp hn, rfl⟩
  encoding := rfl
  stderr := rfl

theorem limits_of_overridden (h : Overridden lookup s s') :
    ∃ t, Limits lookup t ∧ s'.timeoutMillis = t.or s.timeoutMillis := by
  have ht := overlaid_iff.mp h.timeout
  cases hr : override? lookup "VATA_TIMEOUT_MS" with
  | none =>
    rw [hr] at ht
    exact ⟨none, by rw [Limits, timeoutVariable, hr]; exact .none, ht⟩
  | some raw =>
    rw [hr] at ht
    obtain ⟨n, hn, ht⟩ := ht
    refine ⟨some n, ?_, ht⟩
    rw [Limits, timeoutVariable, hr]
    exact .some (numeral_trim_iff.mpr hn)

theorem binary_of_overridden (h : Overridden lookup s s') :
    s'.binary = (override? lookup binaryVariable).getD s.binary := by
  have hb := overlaid_iff.mp h.binary
  rw [binaryVariable]
  cases hr : override? lookup "VATA_BIN" with
  | none => simpa [hr] using hb
  | some raw => simpa [hr] using hb

theorem withOverrides_eq_ok_iff :
    s.withOverrides lookup = .ok s' ↔ Overridden lookup s s' := by
  constructor
  · intro h
    rcases limits_or_not lookup with ⟨t, ht⟩ | ⟨raw, hr, hn⟩
    · rw [withOverrides_of_limits ht, Except.ok.injEq] at h
      exact h ▸ overridden_of_limits ht s
    · rw [withOverrides_of_no_limit hr hn] at h
      cases h
  · intro h
    obtain ⟨t, ht, htimeout⟩ := limits_of_overridden h
    have hbinary := binary_of_overridden h
    have hencoding := h.encoding
    have hstderr := h.stderr
    rw [withOverrides_of_limits ht, ← hbinary, ← htimeout, ← hencoding, ← hstderr]

theorem withOverrides_eq_error_iff :
    s.withOverrides lookup = .error f ↔ ∃ raw, Unlimited lookup raw ∧ f = limitFault raw := by
  simp only [unlimited_iff, ← numeral_trim_iff]
  constructor
  · intro h
    rcases limits_or_not lookup with ⟨t, ht⟩ | ⟨raw, hr, hn⟩
    · rw [withOverrides_of_limits ht] at h
      cases h
    · rw [withOverrides_of_no_limit hr hn] at h
      exact ⟨raw, ⟨hr, hn⟩, (Except.error.inj h).symm⟩
  · rintro ⟨raw, ⟨hr, hn⟩, rfl⟩
    exact withOverrides_of_no_limit hr hn s

theorem Overridden.again (h : Overridden lookup s s') : Overridden lookup s' s' where
  binary := by
    have hb := overlaid_iff.mp h.binary
    rw [overlaid_iff]
    cases hr : override? lookup "VATA_BIN" with
    | none => rfl
    | some raw => simpa [hr] using hb
  timeout := by
    have ht := overlaid_iff.mp h.timeout
    rw [overlaid_iff]
    cases hr : override? lookup "VATA_TIMEOUT_MS" with
    | none => rfl
    | some raw => simpa [hr] using ht
  encoding := rfl
  stderr := rfl

/-- A variable without text is passed over, and every other text of the time limit either denotes a
number below `2 ^ 64` or is refused and quoted as it is. -/
theorem overriddenBy (lookup : String → Option String) (s : Settings) :
    OverriddenBy lookup s where
  succeeds _ := withOverrides_eq_ok_iff
  fails _ := withOverrides_eq_error_iff
  coded f h := by
    obtain ⟨raw, -, rfl⟩ := withOverrides_eq_error_iff.mp h
    rfl
  blank raw hset hne hb :=
    ⟨_, withOverrides_eq_error_iff.mpr ⟨raw, ⟨hset, hne, not_denotes_of_blank hb⟩, rfl⟩⟩
  empty hset := by
    have hr : override? lookup timeoutVariable = none := by
      simp [override?, timeoutVariable, hset, Option.filter]
    have ht : Limits lookup none := by
      rw [Limits, hr]
      exact .none
    exact ⟨_, withOverrides_of_limits ht s⟩
  again _ h := withOverrides_eq_ok_iff.mpr (withOverrides_eq_ok_iff.mp h).again

end Settings

end TreeTool
