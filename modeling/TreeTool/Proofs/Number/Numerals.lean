import Mathlib.Algebra.Group.Nat.Defs
import Mathlib.Tactic.SplitIfs
import TreeTool.Number.Digits

/-!
# Numerals that fit a word

A numeral is one or more decimal digits, perhaps behind a plus sign, whose value fits in 64 bits.
`readWord` reads exactly the numerals. The value only grows from digit to digit, so it stays in
range all the way if it does so at the end.
-/

namespace TreeTool.Number

/-- A text that is written with decimal digits and has the value `n`. -/
structure Numeral (cs : List Char) (n : Nat) : Prop where
  written : ∃ ds, ds ≠ [] ∧ (cs = ds ∨ cs = '+' :: ds) ∧ (∀ c ∈ ds, '0' ≤ c ∧ c ≤ '9') ∧
    n = ofDigits 10 ds
  fits : n < 2 ^ 64

theorem le_iff_toNat_le {a b : Char} : a ≤ b ↔ a.toNat ≤ b.toNat := Iff.rfl

theorem isDigit_iff {c : Char} : isDigit c ↔ '0' ≤ c ∧ c ≤ '9' := by
  have h9 : '9'.toNat = 57 := rfl
  have ha : 'a'.toNat = 97 := rfl
  have hA : 'A'.toNat = 65 := rfl
  rw [isDigit, isDigitOf, decide_eq_true_iff, digitValue]
  simp only [le_iff_toNat_le]
  split_ifs <;> omega

theorem le_foldl_digits (n : Nat) (ds : List Char) :
    n ≤ ds.foldl (fun n c => n * 10 + digitValue c) n := by
  induction ds generalizing n with
  | nil => exact Nat.le_refl n
  | cons c ds ih =>
    have h := ih (n * 10 + digitValue c)
    rw [List.foldl_cons]
    omega

theorem readFrom_eq_ok_iff {n m : Nat} {ds : List Char} (hn : n ≤ greatestWord) :
    readFrom n ds = .ok m ↔
      (∀ c ∈ ds, '0' ≤ c ∧ c ≤ '9') ∧ m = ds.foldl (fun n c => n * 10 + digitValue c) n ∧
        m ≤ greatestWord := by
  induction ds generalizing n with
  | nil =>
    simp only [readFrom, Except.ok.injEq, List.not_mem_nil, List.foldl_nil]
    constructor
    · rintro rfl
      exact ⟨fun _ h => h.elim, rfl, hn⟩
    · rintro ⟨-, rfl, -⟩
      rfl
  | cons c ds ih =>
    rw [readFrom, List.forall_mem_cons, List.foldl_cons]
    by_cases hc : isDigit c
    · have hd : '0' ≤ c ∧ c ≤ '9' := isDigit_iff.mp hc
      by_cases hm : n * 10 + digitValue c ≤ greatestWord
      · simp [hc, hd, hm, ih hm]
      · have hg := le_foldl_digits (n * 10 + digitValue c) ds
        simp only [hc, if_true, hm, if_false, reduceCtorEq, false_iff]
        rintro ⟨-, rfl, hle⟩
        omega
    · have hd : ¬ ('0' ≤ c ∧ c ≤ '9') := fun h => hc (isDigit_iff.mpr h)
      simp [hc, hd]

theorem readWord_eq_ok_iff {cs : List Char} {n : Nat} :
    readWord cs = .ok n ↔ Numeral cs n := by
  have hf : ∀ ds, readFrom 0 ds = .ok n ↔ (∀ c ∈ ds, '0' ≤ c ∧ c ≤ '9') ∧
      n = ofDigits 10 ds ∧ n ≤ greatestWord := fun ds => readFrom_eq_ok_iff (Nat.zero_le _)
  have hfits : n ≤ greatestWord ↔ n < 2 ^ 64 := by
    rw [greatestWord]
    omega
  rw [readWord.eq_def]
  split
  · simp only [reduceCtorEq, false_iff]
    rintro ⟨⟨ds, hne, rfl | h, -⟩, -⟩
    · exact hne rfl
    · cases h
  · simp only [reduceCtorEq, false_iff]
    rintro ⟨⟨ds, hne, rfl | h, hd, -⟩, -⟩
    · exact absurd (hd '+' List.mem_cons_self) (by decide)
    · exact hne (List.cons.inj h).2.symm
  · rename_i ds hds
    rw [hf]
    constructor
    · rintro ⟨hd, hn, hle⟩
      exact ⟨⟨ds, fun h => hds (h ▸ rfl), Or.inr rfl, hd, hn⟩, hfits.mp hle⟩
    · rintro ⟨⟨es, hne, rfl | h, hd, hn⟩, hlt⟩
      · exact absurd (hd '+' List.mem_cons_self) (by decide)
      · cases h
        exact ⟨hd, hn, hfits.mpr hlt⟩
  · rename_i hne hplus hplus'
    rw [hf]
    constructor
    · rintro ⟨hd, hn, hle⟩
      exact ⟨⟨cs, hne, Or.inl rfl, hd, hn⟩, hfits.mp hle⟩
    · rintro ⟨⟨ds, _, rfl | rfl, hd, hn⟩, hlt⟩
      · exact ⟨hd, hn, hfits.mpr hlt⟩
      · exact absurd rfl (hplus' ds)

end TreeTool.Number
