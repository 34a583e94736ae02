import TreeTool.CommandLine.Reader
import TreeTool.Proofs.Vocabulary

/-!
# What a command line holds once it is read

No setting is given before its value has been looked at, and no operand is taken that its side has
no room for. Every step of a reader keeps this, so it holds of both sides of every command line
that is read: each setting has a value that it accepts, and the operands are as many as the
operation works on.
-/

namespace TreeTool.CommandLine

def Given.Accepted (g : Given) : Prop :=
  match g.option with
  | .setting s => ∃ v, g.value = some v ∧ refusal s v = none
  | .switch _ | .help => g.value = none

structure Progress.Sound (side : Side) (p : Progress) : Prop where
  accepted : ∀ g ∈ p.given, g.Accepted
  count : p.operands.length ≤ side.operands

namespace Progress

variable {side : Side} {p q : Progress}

/-! ## One option -/

theorem give_eq_ok {g : Given} (h : p.give g = .ok q) :
    q = { p with given := p.given ++ [g] } := by
  rw [give] at h
  split at h
  · cases h
  · exact (Except.ok.inj h).symm

theorem giveSetting_eq_ok {s : Setting} {v : String} (h : p.giveSetting s v = .ok q) :
    q = { p with given := p.given ++ [⟨.setting s, some v⟩] } ∧ refusal s v = none := by
  rw [giveSetting] at h
  cases hg : p.give ⟨.setting s, some v⟩ with
  | error m => simp [hg] at h
  | ok r =>
    cases hr : refusal s v with
    | some m => simp [hg, hr] at h
    | none =>
      simp only [hg, hr, Except.ok.injEq] at h
      exact ⟨h ▸ give_eq_ok hg, rfl⟩

theorem operands_settle (h : p.settle = .ok q) : q.operands = p.operands := by
  rw [settle] at h
  split at h
  · cases h
    rfl
  · cases h
  · rw [(giveSetting_eq_ok h).1]

theorem Sound.given {g : Given} (hp : p.Sound side) (hg : g.Accepted) :
    Sound side { p with given := p.given ++ [g] } where
  accepted g' hg' := by
    rcases List.mem_append.mp hg' with hm | hm
    · exact hp.accepted g' hm
    · rw [List.mem_singleton.mp hm]
      exact hg
  count := hp.count

theorem Sound.give {g : Given} (hp : p.Sound side) (hg : g.Accepted) (h : p.give g = .ok q) :
    q.Sound side := by
  rw [give_eq_ok h]
  exact hp.given hg

theorem Sound.giveSetting {s : Setting} {v : String} (hp : p.Sound side)
    (h : p.giveSetting s v = .ok q) : q.Sound side := by
  obtain ⟨rfl, hr⟩ := giveSetting_eq_ok h
  have hg : Given.Accepted ⟨.setting s, some v⟩ := ⟨v, rfl, hr⟩
  exact hp.given hg

theorem Sound.withPending (hp : p.Sound side) (pending : Option Pending) :
    Sound side { p with pending } :=
  ⟨hp.accepted, hp.count⟩

theorem Sound.settle (hp : p.Sound side) (h : p.settle = .ok q) : q.Sound side := by
  rw [Progress.settle] at h
  split at h
  · cases h
    exact hp
  · cases h
  · exact (hp.withPending none).giveSetting h

theorem Sound.option {o : Opt} {attached : Option String} (hp : p.Sound side)
    (h : p.option o attached = .ok q) : q.Sound side := by
  cases hs : p.settle with
  | error m => cases o <;> cases attached <;> simp [Progress.option, hs, bind, Except.bind] at h
  | ok r =>
    have hr : r.Sound side := hp.settle hs
    cases o with
    | setting s =>
      simp only [Progress.option, hs, bind, Except.bind] at h
      cases attached with
      | some v => exact hr.giveSetting h
      | none => exact Except.ok.inj h ▸ hr.withPending _
    | switch s =>
      have hg : Given.Accepted ⟨.switch s, none⟩ := rfl
      cases attached with
      | some v => cases h
      | none => exact hr.give hg (by simpa [Progress.option, hs, bind, Except.bind] using h)
    | help =>
      have hg : Given.Accepted ⟨.help, none⟩ := rfl
      cases attached with
      | some v => cases h
      | none => exact hr.give hg (by simpa [Progress.option, hs, bind, Except.bind] using h)

/-! ## One argument -/

theorem Sound.long {cs : List Char} (hp : p.Sound side) (h : long side p cs = .ok q) :
    q.Sound side := by
  simp only [CommandLine.long] at h
  split at h
  · cases h
  · exact hp.option h

theorem Sound.letters {cs : List Char} (hp : p.Sound side) (h : letters side p cs = .ok q) :
    q.Sound side := by
  induction cs generalizing p with
  | nil =>
    cases h
    exact hp
  | cons c cs ih =>
    rw [CommandLine.letters] at h
    split at h
    · cases h
    · split at h <;> exact hp.option h
    · exact hp.option h
    · rename_i s _
      cases ho : p.option (.switch s) none with
      | error m => simp [ho] at h
      | ok r => exact ih (hp.option ho) (by simpa only [ho] using h)

theorem Sound.operand {a : String} (hp : p.Sound side) (h : operand side p a = .ok q) :
    q.Sound side := by
  rw [CommandLine.operand] at h
  split at h
  · rename_i hl
    cases hs : p.settle with
    | error m => simp [hs, bind, Except.bind] at h
    | ok r =>
      have hr : r.Sound side := hp.settle hs
      simp only [hs, bind, Except.bind, pure, Except.pure, Except.ok.injEq] at h
      subst h
      refine ⟨hr.accepted, ?_⟩
      rw [List.length_append, List.length_singleton, operands_settle hs]
      omega
  · split at h <;> cases h

theorem Sound.argument {a : String} (hp : p.Sound side) (h : argument side p a = .ok q) :
    q.Sound side := by
  rw [CommandLine.argument] at h
  split at h
  · exact Except.ok.inj h ▸ ⟨hp.accepted, hp.count⟩
  · exact hp.long h
  · exact hp.letters h
  · split at h
    · exact Except.ok.inj h ▸ hp.withPending _
    · exact hp.operand h

/-! ## One side -/

theorem Sound.readSide {as : List String} {r : Option (Operation × List String)}
    (hp : p.Sound side) (h : readSide side p as = .ok (q, r)) : q.Sound side := by
  induction as generalizing p with
  | nil =>
    cases h
    exact hp
  | cons a as ih =>
    rw [CommandLine.readSide] at h
    split at h
    · cases ho : CommandLine.operand side p a with
      | error m => simp [ho] at h
      | ok p' => exact ih (hp.operand ho) (by simpa only [ho] using h)
    · split at h
      · cases h
        exact hp
      · split at h
        · cases h
          exact hp
        · cases ha : CommandLine.argument side p a with
          | error m => simp [ha] at h
          | ok p' => exact ih (hp.argument ha) (by simpa only [ha] using h)

theorem sound_empty (side : Side) : Sound side {} where
  accepted _ hg := nomatch hg
  count := Nat.zero_le _

theorem settle_of_finish (h : finish side p = .ok q) :
    p.settle = .ok q ∧ side.operands ≤ q.operands.length := by
  rw [finish] at h
  cases hs : p.settle with
  | error m => simp [hs, bind, Except.bind] at h
  | ok r =>
    simp only [hs, bind, Except.bind] at h
    split at h
    · cases h
    · split at h
      · cases h
      · rename_i hl
        cases h
        exact ⟨rfl, Nat.le_of_not_lt hl⟩

end Progress

/-! ## Both sides -/

theorem read_sides {args : List String} {i : Invocation} (h : read args = .ok (.invocation i)) :
    ∃ as outer inner p q r,
      readSide outerSide {} args = .ok (outer, some (i.operation, as)) ∧
      finish outerSide outer = .ok p ∧
      readSide (innerSide i.operation) {} as = .ok (inner, r) ∧
      finish (innerSide i.operation) inner = .ok q ∧
      i.outer = p.given ∧ i.inner = q.given ∧ i.operands = q.operands := by
  rw [read] at h
  cases ho : readSide outerSide {} args with
  | error m => simp [ho, bind, Except.bind] at h
  | ok outer =>
    obtain ⟨outer, _ | ⟨op, as⟩⟩ := outer
    · simp only [ho, bind, Except.bind] at h
      split at h
      · cases h
      · split at h
        · cases h
        · split at h <;> cases h
    · cases hi : readSide (innerSide op) {} as with
      | error m =>
        simp only [ho, hi, bind, Except.bind] at h
        split at h <;> cases h
      | ok inner =>
        obtain ⟨inner, r⟩ := inner
        simp only [ho, hi, bind, Except.bind] at h
        split at h
        · cases h
        · split at h
          · cases h
          · cases hq : finish (innerSide op) inner with
            | error m => simp [hq] at h
            | ok q =>
              cases hp : finish outerSide outer with
              | error m => simp [hq, hp] at h
              | ok p =>
                simp only [hq, hp, pure, Except.pure, Except.ok.injEq,
                  Reading.invocation.injEq] at h
                subst h
                exact ⟨as, outer, inner, p, q, r, rfl, hp, hi, hq, rfl, rfl, rfl⟩

namespace Invocation

variable {args : List String} {i : Invocation}

theorem accepted_of_read (h : read args = .ok (.invocation i)) :
    ∀ g ∈ i.inner ++ i.outer, g.Accepted := by
  obtain ⟨as, outer, inner, p, q, r, ho, hp, hi, hq, hgo, hgi, -⟩ := read_sides h
  have hso := (Progress.sound_empty outerSide).readSide ho
  have hsi := (Progress.sound_empty (innerSide i.operation)).readSide hi
  intro g hg
  rcases List.mem_append.mp hg with hg | hg
  · exact (hsi.settle (Progress.settle_of_finish hq).1).accepted g (hgi ▸ hg)
  · exact (hso.settle (Progress.settle_of_finish hp).1).accepted g (hgo ▸ hg)

theorem length_operands_of_read (h : read args = .ok (.invocation i)) :
    i.operands.length = i.operation.arity := by
  obtain ⟨as, outer, inner, p, q, r, -, -, hi, hq, -, -, hs⟩ := read_sides h
  obtain ⟨hq, hl⟩ := Progress.settle_of_finish hq
  have hc := (((Progress.sound_empty _).readSide hi).settle hq).count
  rw [hs]
  exact Nat.le_antisymm hc hl

theorem refusal_of_value? (h : read args = .ok (.invocation i)) {s : Setting} {v : String}
    (hv : i.value? s = some v) : refusal s v = none := by
  rw [value?] at hv
  cases hf : (i.inner ++ i.outer).find? (·.option == .setting s) with
  | none => simp [hf] at hv
  | some g =>
    have hg : g.Accepted := accepted_of_read h g (List.mem_of_find?_eq_some hf)
    have ho : g.option = .setting s := by simpa using List.find?_some hf
    simp only [hf] at hv
    rw [Given.Accepted, ho] at hg
    obtain ⟨w, hw, hr⟩ := hg
    rw [hw] at hv
    exact Option.some.inj hv ▸ hr

end Invocation

/-! ## What a setting accepts -/

theorem faultText_eq_none_iff {α : Type} {r : Except Fault α} :
    faultText r = none ↔ ∃ a, r = .ok a := by
  cases r <;> simp [faultText]

theorem encoding_of_refusal {v : String} (h : refusal .encoding v = none) :
    ∃ e, Encoding.read v = .ok e := by
  apply faultText_eq_none_iff.mp
  cases hf : faultText (Encoding.read v) <;> simp_all [refusal]

theorem millis_of_refusal {v : String} (h : refusal .timeoutMs v = none) :
    ∃ n, Number.readWord v.toList = .ok n := by
  cases hr : Number.readWord v.toList with
  | error r => simp [refusal, hr] at h
  | ok n => exact ⟨n, rfl⟩

end TreeTool.CommandLine
