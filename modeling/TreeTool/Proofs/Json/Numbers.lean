import Mathlib.Algebra.Order.Ring.Nat
import Mathlib.Tactic.IntervalCases
import TreeTool.Json.Reader
import TreeTool.Proofs.Number.Numerals
import TreeTool.Proofs.Text.Cutting

/-!
# Whole numbers in JSON text

The digits that a whole number is written with are read back as that number, whatever follows that
is no part of a numeral. A numeral is refused if its value lies beyond the greatest binary64 number,
which that of a word never does: rounding one to 53 bits adds one unit at most.
-/

namespace TreeTool

namespace Number

/-! ## Rounding a word -/

theorem pow2_pos (n : Int) : 0 < pow2 n := Nat.pow_pos (by decide)

theorem roundedQuotient_le (num den : Nat) : roundedQuotient num den ≤ num + 1 := by
  have h : num / den ≤ num := Nat.div_le_self num den
  simp only [roundedQuotient]
  split <;> [skip; split <;> [skip; split]] <;> omega

namespace Binary64

theorem exponentOf_le (num den : Nat) : exponentOf num den ≤ num.log2 := by
  simp only [exponentOf]
  split <;> omega

theorem exponentOf_one {num : Nat} (h : num ≠ 0) : exponentOf num 1 = num.log2 := by
  have hle : 2 ^ num.log2 ≤ num := Nat.log2_self_le h
  have h1 : ((Nat.log2 1 : Nat) : Int) = 0 := by decide
  have hpow : pow2 (num.log2 : Int) = 2 ^ num.log2 := by simp [pow2]
  have hfits : 1 * pow2 (num.log2 : Int) ≤ num * pow2 (-(num.log2 : Int)) := by
    rw [hpow, Nat.one_mul]
    exact Nat.le_trans hle (Nat.le_mul_of_pos_right _ (pow2_pos _))
  simp only [exponentOf, h1, Int.sub_zero, if_pos hfits]

theorem exists_nearest {num : Nat} (den : Nat) {q : Int} (h : num ≠ 0)
    (hq : q = max (exponentOf num den - 52) (-1074)) (hle : q ≤ 970) :
    ∃ b, nearest num den = some b ∧ (b = ⟨pow2 52, q + 1⟩ ∨
      b = ⟨roundedQuotient (num * pow2 (-q)) (den * pow2 q), q⟩) := by
  have hnext : ¬ q + 1 > 971 := by omega
  have hsame : ¬ q > 971 := by omega
  rw [nearest, if_neg h]
  simp only [← hq]
  by_cases hm : roundedQuotient (num * pow2 (-q)) (den * pow2 q) = pow2 53
  · rw [if_pos hm]
    exact ⟨_, if_neg hnext, Or.inl rfl⟩
  · rw [if_neg hm]
    exact ⟨_, if_neg hsame, Or.inr rfl⟩

theorem isSome_nearest {num den : Nat} (h : num < 2 ^ 200) : (nearest num den).isSome := by
  by_cases hz : num = 0
  · simp [nearest, hz]
  · have hlog : num.log2 < 200 := (Nat.log2_lt hz).mpr h
    have he := exponentOf_le num den
    obtain ⟨b, hb, -⟩ := exists_nearest den hz rfl (by omega)
    simp [hb]

theorem exists_ofNat {n : Nat} (hz : n ≠ 0) (hn : n ≤ greatestWord) :
    ∃ b, ofNat n = some b ∧ b.mantissa < 2 ^ 117 ∧ b.power ≤ 12 := by
  have hlt : n < 2 ^ 64 := Nat.lt_of_le_of_lt hn (by decide)
  have hlog : n.log2 < 64 := (Nat.log2_lt hz).mpr hlt
  have he := exponentOf_one hz
  obtain ⟨q, hq⟩ : ∃ q, q = max (exponentOf n 1 - 52) (-1074) := ⟨_, rfl⟩
  have hlow : (-q).toNat ≤ 52 := by omega
  have hhigh : q ≤ 11 := by omega
  obtain ⟨b, hb, rfl | rfl⟩ := exists_nearest 1 hz hq (by omega)
  · have hcarried : pow2 52 < 2 ^ 117 := by decide
    exact ⟨_, hb, hcarried, by simp only; omega⟩
  · refine ⟨_, hb, ?_, by simp only; omega⟩
    have hpow : pow2 (-q) ≤ 2 ^ 52 := Nat.pow_le_pow_right (by decide) hlow
    have hprod : n * pow2 (-q) ≤ 2 ^ 64 * 2 ^ 52 := Nat.mul_le_mul (Nat.le_of_lt hlt) hpow
    have hround := roundedQuotient_le (n * pow2 (-q)) (1 * pow2 q)
    have hbound : 2 ^ 64 * 2 ^ 52 + 1 < 2 ^ 117 := by decide
    exact Nat.lt_of_le_of_lt (Nat.le_trans hround (Nat.succ_le_succ hprod)) hbound

theorem powerOfTen_zero : powerOfTen 0 = some ⟨2 ^ 52, -52⟩ := by decide

theorem isSome_product_one {b : Binary64} (hm : b.mantissa < 2 ^ 117) (hp : b.power ≤ 12) :
    (b.product ⟨2 ^ 52, -52⟩).isSome := by
  have hone : pow2 (b.power + -52) = 1 := by
    rw [pow2, show (b.power + -52).toNat = 0 by omega]
  have hlt : b.mantissa * 2 ^ 52 * 1 < 2 ^ 200 := by
    have h := Nat.mul_lt_mul_of_pos_right hm (show 0 < 2 ^ 52 by decide)
    have hbound : 2 ^ 117 * 2 ^ 52 < 2 ^ 200 := by decide
    omega
  simp only [product, hone]
  exact isSome_nearest hlt

end Binary64

/-! ## Digits of a whole number -/

theorem ne_of_isDigit {c d : Char} (hc : isDigit c) (hd : isDigit d = false) : c ≠ d := by
  rintro rfl
  rw [hd] at hc
  cases hc

theorem digitValue_digitChar {d : Nat} (h : d < 10) : digitValue d.digitChar = d := by
  interval_cases d <;> rfl

theorem isDigit_digitChar {d : Nat} (h : d < 10) : isDigit d.digitChar := by
  rw [isDigit, isDigitOf, digitValue_digitChar h]
  exact decide_eq_true h

theorem ofDigits_concat (base : Nat) (ds : List Char) (c : Char) :
    ofDigits base (ds ++ [c]) = ofDigits base ds * base + digitValue c := by
  simp [ofDigits]

structure Written (ds : List Char) (n : Nat) : Prop where
  digits : ∀ c ∈ ds, isDigit c
  value : ofDigits 10 ds = n
  head : ds = ['0'] ∨ ∃ c cs, ds = c :: cs ∧ c ≠ '0'

theorem Written.opens {ds : List Char} {n : Nat} (h : Written ds n) :
    ∃ c cs, ds = c :: cs ∧ isDigit c := by
  rcases h.head with rfl | ⟨c, cs, rfl, -⟩
  · exact ⟨_, _, rfl, by decide⟩
  · exact ⟨c, cs, rfl, h.digits c List.mem_cons_self⟩

theorem written_toDigits (n : Nat) : Written (Nat.toDigits 10 n) n := by
  induction n using Nat.strongRecOn with
  | ind n ih =>
    by_cases h : n < 10
    · rw [Nat.toDigits_of_lt_base h]
      refine ⟨by simpa using isDigit_digitChar h, ?_, ?_⟩
      · simpa [ofDigits] using digitValue_digitChar h
      · interval_cases n <;> simp
    · have hd : n % 10 < 10 := Nat.mod_lt n (by decide)
      obtain ⟨hdigits, hvalue, hhead⟩ := ih (n / 10) (by omega)
      rw [Nat.toDigits_of_base_le (by decide) (by omega)]
      refine ⟨?_, ?_, Or.inr ?_⟩
      · intro c hc
        rcases List.mem_append.mp hc with hc | hc
        · exact hdigits c hc
        · rw [List.mem_singleton.mp hc]
          exact isDigit_digitChar hd
      · rw [ofDigits_concat, hvalue, digitValue_digitChar hd]
        omega
      · rcases hhead with hz | ⟨c, cs, hcs, hne⟩
        · -- only zero is written with a zero in front, and this number is no single digit
          rw [hz] at hvalue
          have hzero : n / 10 = 0 := hvalue.symm
          omega
        · exact ⟨c, cs ++ [(n % 10).digitChar], by rw [hcs, List.cons_append], hne⟩

end Number

namespace Json

open Number (Written isDigit greatestWord)

def Apart (rest : List Char) : Prop :=
  ∀ c ∈ rest.head?, isDigit c = false ∧ c ≠ '.' ∧ c ≠ 'e' ∧ c ≠ 'E'

variable {ds rest : List Char} {n : Nat}

theorem takeWhile_digits (hd : ∀ c ∈ ds, isDigit c) (hr : Apart rest) :
    (ds ++ rest).takeWhile isDigit = ds ∧ (ds ++ rest).dropWhile isDigit = rest :=
  Text.span_append hd fun c hc => (hr c hc).1

theorem wholePart_written (h : Written ds n) (hr : Apart rest) :
    wholePart (ds ++ rest) = .ok (ds, rest) := by
  obtain ⟨htake, hdrop⟩ := takeWhile_digits h.digits hr
  rcases h.head with rfl | ⟨c, cs, rfl, hne⟩
  · cases rest with
    | nil => rfl
    | cons c rest =>
      have hc := (hr c rfl).1
      simp [wholePart, hc]
  · have hc : isDigit c := h.digits c List.mem_cons_self
    rw [wholePart.eq_def]
    split
    · simp_all
    · simp_all
    · rw [htake, hdrop]
      simp

theorem fractionPart_apart (hr : Apart rest) : fractionPart rest = .ok ([], rest) := by
  cases rest with
  | nil => rfl
  | cons c rest =>
    have hc := (hr c rfl).2.1
    simp [fractionPart, hc]

theorem exponentPart_apart (hr : Apart rest) : exponentPart rest = .ok (none, rest) := by
  cases rest with
  | nil => rfl
  | cons c rest =>
    have hc := (hr c rfl).2.2
    simp [exponentPart, hc]

theorem appended_digits {w : Nat} (hd : ∀ c ∈ ds, isDigit c)
    (hle : ds.foldl (fun n c => n * 10 + Number.digitValue c) w ≤ greatestWord) :
    Numeral.appended w ds = (ds.foldl (fun n c => n * 10 + Number.digitValue c) w, []) := by
  induction ds generalizing w with
  | nil => rfl
  | cons c ds ih =>
    rw [List.foldl_cons] at hle ⊢
    have hgrow := Number.le_foldl_digits (w * 10 + Number.digitValue c) ds
    have hone : Number.ofDigits 10 [c] = Number.digitValue c := by simp [Number.ofDigits]
    have hfits : w * 10 + Number.digitValue c ≤ greatestWord := by omega
    rw [Numeral.appended, hone, if_pos hfits]
    exact ih (fun d hd' => hd d (List.mem_cons_of_mem _ hd')) hle

theorem overflows_written (negative : Bool) (h : Written ds n) (hn : n ≤ greatestWord) :
    (⟨negative, ds, [], none⟩ : Numeral).overflows = false := by
  have hfold : ds.foldl (fun n c => n * 10 + Number.digitValue c) 0 = n := h.value
  have hleading : (⟨negative, ds, [], none⟩ : Numeral).leading = (n, 0) := by
    simp [Numeral.leading, appended_digits h.digits (hfold ▸ hn), hfold, Numeral.appended]
  have hpower : Numeral.saturated (0 + Option.getD none 0) = 0 := by
    simp [Numeral.saturated, Numeral.greatestExponent]
  have hvalue : n ≠ 0 → ((Number.Binary64.ofNat n).bind fun a =>
      (Number.Binary64.powerOfTen (Int.toNat 0)).bind a.product).isNone = false := by
    intro hz
    obtain ⟨b, hb, hm, hp⟩ := Number.Binary64.exists_ofNat hz hn
    rw [hb, Int.toNat_zero, Number.Binary64.powerOfTen_zero, Option.bind_some, Option.bind_some,
      Option.isNone_eq_false_iff]
    exact Number.Binary64.isSome_product_one hm hp
  have hmost : ¬ Option.getD none 0 > Numeral.greatestExponent := by
    simp [Numeral.greatestExponent]
  have hleast : ¬ Option.getD none 0 < -Numeral.greatestExponent := by
    simp [Numeral.greatestExponent]
  have hten : ¬ (0 : Int) > Numeral.greatestPower := by
    simp [Numeral.greatestPower]
  simp only [Numeral.overflows, hleading, hpower, hmost, hleast, hten, Int.lt_irrefl, if_false]
  split
  · rfl
  · rename_i hz
    exact hvalue hz

theorem unsignedNumeral_written (negative : Bool) (h : Written ds n) (hn : n ≤ greatestWord)
    (hr : Apart rest) :
    unsignedNumeral negative (ds ++ rest) = .ok (⟨negative, ds, [], none⟩, rest) := by
  simp only [unsignedNumeral, wholePart_written h hr, fractionPart_apart hr,
    exponentPart_apart hr, bind, Except.bind, overflows_written negative h hn]
  rfl

theorem numeral_ofNat (n : Nat) : numeral n 0 = Nat.toDigits 10 n := Nat.toList_repr

theorem numeral_neg {n : Nat} (h : 0 < n) : numeral (-n) 0 = '-' :: Nat.toDigits 10 n := by
  obtain ⟨k, rfl⟩ : ∃ k, n = k + 1 := ⟨n - 1, by omega⟩
  have htext : (toString (Int.negSucc k)).toList = '-' :: (k + 1).repr.toList := by
    show ("-" ++ (k + 1).repr).toList = _
    rw [String.toList_append]
    rfl
  have hneg : (-((k + 1 : Nat) : Int)) = Int.negSucc k := rfl
  rw [hneg, numeral, if_pos rfl, htext, Nat.toList_repr]

theorem skipBlank_cons {c : Char} (h : isBlank c = false) (cs : List Char) :
    skipBlank (c :: cs) = c :: cs := by
  have hc : ¬ isBlank c := by simp [h]
  exact List.dropWhile_cons_of_neg hc

theorem isBlank_of_isDigit {c : Char} (h : isDigit c) : isBlank c = false := by
  have hno : ∀ d, isDigit d = false → c ≠ d := fun d => Number.ne_of_isDigit h
  simp [isBlank, hno ' ' (by decide), hno '\n' (by decide), hno '\t' (by decide),
    hno '\r' (by decide)]

theorem anyValue_of_digit {c : Char} (hc : isDigit c) (fuel : Nat) (cs : List Char) :
    anyValue (fuel + 1) (c :: cs) = (unsignedNumeral false (c :: cs)).map fun (x, r) =>
      (.number x.mantissa x.power, r) := by
  have hno : ∀ d, isDigit d = false → c ≠ d := fun d => Number.ne_of_isDigit hc
  have hword : c ≠ 'n' ∧ c ≠ 't' ∧ c ≠ 'f' :=
    ⟨hno _ (by decide), hno _ (by decide), hno _ (by decide)⟩
  have hmark : c ≠ '"' ∧ c ≠ '-' ∧ c ≠ '[' ∧ c ≠ '\x7b' :=
    ⟨hno _ (by decide), hno _ (by decide), hno _ (by decide), hno _ (by decide)⟩
  rw [anyValue, skipBlank_cons (isBlank_of_isDigit hc)]
  split <;> simp_all

theorem anyValue_digits (fuel : Nat) (h : Written ds n) (hn : n ≤ greatestWord)
    (hr : Apart rest) : anyValue (fuel + 1) (ds ++ rest) = .ok (.number n 0, rest) := by
  have hread := unsignedNumeral_written false h hn hr
  have hvalue : (⟨false, ds, [], none⟩ : Numeral).mantissa = n := by
    simp [Numeral.mantissa, h.value]
  obtain ⟨c, cs, rfl, hc⟩ := h.opens
  rw [List.cons_append] at hread ⊢
  rw [anyValue_of_digit hc, hread]
  simp only [Except.map, hvalue]
  rfl

theorem anyValue_numeral (fuel : Nat) {m : Int} (hm : m.natAbs ≤ greatestWord)
    (hr : Apart rest) :
    anyValue (fuel + 1) (numeral m 0 ++ rest) = .ok (.number m 0, rest) := by
  rcases Int.lt_or_le m 0 with hneg | hpos
  · obtain ⟨n, rfl⟩ : ∃ n : Nat, m = -n := ⟨m.natAbs, by omega⟩
    have hn : 0 < n := by omega
    have hw := Number.written_toDigits n
    have hread := unsignedNumeral_written true hw (by simpa using hm) hr
    have hvalue : (⟨true, Nat.toDigits 10 n, [], none⟩ : Numeral).mantissa = -n := by
      simp [Numeral.mantissa, hw.value]
    rw [numeral_neg hn, List.cons_append, anyValue, skipBlank_cons (by decide)]
    simp only [hread, Except.map, hvalue]
    rfl
  · obtain ⟨n, rfl⟩ := Int.eq_ofNat_of_zero_le hpos
    rw [numeral_ofNat]
    exact anyValue_digits fuel (Number.written_toDigits n) (by simpa using hm) hr

end Json

end TreeTool
