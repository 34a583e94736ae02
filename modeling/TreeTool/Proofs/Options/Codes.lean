import TreeTool.Options.Bundle
import TreeTool.Proofs.Vocabulary

/-!
# Codes

The range of an enumeration, the list of its values and its table of codes are three definitions. A
code of the range has a value, every value has a code of the range, and no two values share one; so
reading codes is the inverse of the table on the range and is refused outside of it. The codes of an
inclusion are read one after the other, and the first bad one is what is reported.
-/

namespace TreeTool

namespace Coded

/-- The codes tell the values apart, and all of them are in the range. -/
class Numbered (α : Type) [Coded α] : Prop where
  code_injective : Function.Injective (code : α → Int)
  validCode_code : ∀ v : α, validCode α (code v)

instance : Numbered Encoding where
  code_injective := by intro a b; cases a <;> cases b <;> decide
  validCode_code v := by cases v <;> decide

instance : Numbered Direction where
  code_injective := by intro a b; cases a <;> cases b <;> decide
  validCode_code v := by cases v <;> decide

instance : Numbered Order where
  code_injective := by intro a b; cases a <;> cases b <;> decide
  validCode_code v := by cases v <;> decide

instance : Numbered Algorithm where
  code_injective := by intro a b; cases a <;> cases b <;> decide
  validCode_code v := by cases v <;> decide

instance : Numbered Operation where
  code_injective := by intro a b; cases a <;> cases b <;> decide
  validCode_code v := by cases v <;> decide

variable {α : Type} [Coded α] {c : Int} {v : α} {f : Fault}

theorem validCode_iff : validCode α c ↔ least α ≤ c ∧ c ≤ greatest α := by
  rw [validCode, decide_eq_true_iff]

theorem code_of_ofCode (h : ofCode α c = .ok v) : code v = c := by
  rw [ofCode] at h
  split at h
  · split at h
    · rename_i w hw
      obtain rfl := Except.ok.inj h
      simpa using List.find?_some hw
    · cases h
  · cases h

theorem exists_ofCode [Filled α] (h : validCode α c) : ∃ v, ofCode α c = .ok v := by
  cases hc : ofCode α c with
  | ok v => exact ⟨v, rfl⟩
  | error f =>
    obtain ⟨v, hv, hcode⟩ := Filled.exists_code c h
    rw [ofCode, if_pos h] at hc
    split at hc
    · cases hc
    · rename_i hnone
      exact absurd hcode (by simpa using List.find?_eq_none.mp hnone v hv)

theorem ofCode_eq_ok_iff [Filled α] [Numbered α] : ofCode α c = .ok v ↔ code v = c := by
  constructor
  · exact code_of_ofCode
  · rintro rfl
    obtain ⟨w, hw⟩ := exists_ofCode (Numbered.validCode_code v)
    rw [hw, Numbered.code_injective (code_of_ofCode hw)]

theorem exists_ofCode_iff [Filled α] [Numbered α] :
    (∃ v, ofCode α c = .ok v) ↔ least α ≤ c ∧ c ≤ greatest α := by
  rw [← validCode_iff]
  constructor
  · rintro ⟨v, hv⟩
    exact code_of_ofCode hv ▸ Numbered.validCode_code v
  · exact exists_ofCode

theorem ofCode_eq_error_iff [Filled α] [Numbered α] : ofCode α c = .error f ↔
    ¬ (least α ≤ c ∧ c ≤ greatest α) ∧
      f = .invalidCode (label α) c (least α) (greatest α) := by
  constructor
  · intro h
    refine ⟨fun hc => ?_, ofCode_eq_error h⟩
    obtain ⟨v, hv⟩ := exists_ofCode (validCode_iff.mpr hc)
    rw [hv] at h
    cases h
  · rintro ⟨hc, rfl⟩
    rw [ofCode, if_neg (fun h => hc (validCode_iff.mp h))]

/-- What the codes of an enumeration with this name and this range are read as. -/
structure Numbers (α : Type) [Coded α] (name : String) (low high : Int) : Prop where
  valid : ∀ c, validCode α c = true ↔ low ≤ c ∧ c ≤ high
  succeeds : ∀ c, (∃ v, ofCode α c = .ok v) ↔ low ≤ c ∧ c ≤ high
  only : ∀ c v, ofCode α c = .ok v → code v = c ∧ ∀ w, code w = c → w = v
  fails : ∀ c f, ofCode α c = .error f → f = .invalidCode name c low high
  notInternal : ∀ c message, ofCode α c ≠ .error (.internal message)

theorem numbers [Filled α] [Numbered α] :
    Numbers α (label α) (least α) (greatest α) where
  valid _ := validCode_iff
  succeeds _ := exists_ofCode_iff
  only c v h := by
    have hv := ofCode_eq_ok_iff.mp h
    exact ⟨hv, fun w hw => Numbered.code_injective (hw.trans hv.symm)⟩
  fails _ _ h := ofCode_eq_error h
  notInternal _ _ h := nomatch ofCode_eq_error h

end Coded

namespace InclusionOptions

open Coded (ofCode Numbers)

/-- Every option has the value of its own code, or is its own switch. -/
structure Decoded (direction algorithm : Int) (simulation : Bool) (order : Int)
    (cacheOptimization recursion simulationTime : Bool) (o : InclusionOptions) : Prop where
  direction : ofCode Direction direction = .ok o.direction
  algorithm : ofCode Algorithm algorithm = .ok o.algorithm
  simulation : o.simulation = simulation
  order : ofCode Order order = .ok o.order
  cacheOptimization : o.cacheOptimization = cacheOptimization
  recursion : o.recursion = recursion
  simulationTime : o.simulationTime = simulationTime

/-- The fault of the first bad code: of the direction, then of the algorithm, then of the order. -/
inductive FirstBad (direction algorithm order : Int) : Fault → Prop
  | direction : ¬ (0 ≤ direction ∧ direction ≤ 1) →
    FirstBad direction algorithm order (.invalidCode "direction" direction 0 1)
  | algorithm : 0 ≤ direction ∧ direction ≤ 1 → ¬ (0 ≤ algorithm ∧ algorithm ≤ 1) →
    FirstBad direction algorithm order (.invalidCode "algorithm" algorithm 0 1)
  | order : 0 ≤ direction ∧ direction ≤ 1 → 0 ≤ algorithm ∧ algorithm ≤ 1 →
    ¬ (0 ≤ order ∧ order ≤ 1) →
    FirstBad direction algorithm order (.invalidCode "order" order 0 1)

variable {d a r : Int} {s c n t : Bool} {o : InclusionOptions} {f : Fault}

theorem ofCodes_of_decoded (h : Decoded d a s r c n t o) : ofCodes d a s r c n t = .ok o := by
  obtain ⟨hd, ha, rfl, hr, rfl, rfl, rfl⟩ := h
  rw [ofCodes, hd, ha, hr]
  rfl

theorem ofCodes_of_firstBad (h : FirstBad d a r f) : ofCodes d a s r c n t = .error f := by
  cases h with
  | direction hd =>
    have hd : ofCode Direction d = .error _ := Coded.ofCode_eq_error_iff.mpr ⟨hd, rfl⟩
    rw [ofCodes, hd]
    rfl
  | algorithm hd ha =>
    obtain ⟨x, hd⟩ : ∃ x, ofCode Direction d = .ok x := Coded.exists_ofCode_iff.mpr hd
    have ha : ofCode Algorithm a = .error _ := Coded.ofCode_eq_error_iff.mpr ⟨ha, rfl⟩
    rw [ofCodes, hd, ha]
    rfl
  | order hd ha hr =>
    obtain ⟨x, hd⟩ : ∃ x, ofCode Direction d = .ok x := Coded.exists_ofCode_iff.mpr hd
    obtain ⟨y, ha⟩ : ∃ y, ofCode Algorithm a = .ok y := Coded.exists_ofCode_iff.mpr ha
    have hr : ofCode Order r = .error _ := Coded.ofCode_eq_error_iff.mpr ⟨hr, rfl⟩
    rw [ofCodes, hd, ha, hr]
    rfl

theorem decoded_or_firstBad (d a : Int) (s : Bool) (r : Int) (c n t : Bool) :
    (∃ o, Decoded d a s r c n t o) ∧ (0 ≤ d ∧ d ≤ 1) ∧ (0 ≤ a ∧ a ≤ 1) ∧ (0 ≤ r ∧ r ≤ 1) ∨
      (∃ f, FirstBad d a r f) ∧ ¬ ((0 ≤ d ∧ d ≤ 1) ∧ (0 ≤ a ∧ a ≤ 1) ∧ (0 ≤ r ∧ r ≤ 1)) := by
  by_cases hd : 0 ≤ d ∧ d ≤ 1
  · by_cases ha : 0 ≤ a ∧ a ≤ 1
    · by_cases hr : 0 ≤ r ∧ r ≤ 1
      · obtain ⟨x, hx⟩ : ∃ x, ofCode Direction d = .ok x := Coded.exists_ofCode_iff.mpr hd
        obtain ⟨y, hy⟩ : ∃ y, ofCode Algorithm a = .ok y := Coded.exists_ofCode_iff.mpr ha
        obtain ⟨z, hz⟩ : ∃ z, ofCode Order r = .ok z := Coded.exists_ofCode_iff.mpr hr
        exact Or.inl ⟨⟨⟨x, y, s, z, c, n, t⟩, hx, hy, rfl, hz, rfl, rfl, rfl⟩, hd, ha, hr⟩
      · exact Or.inr ⟨⟨_, .order hd ha hr⟩, fun h => hr h.2.2⟩
    · exact Or.inr ⟨⟨_, .algorithm hd ha⟩, fun h => ha h.2.1⟩
  · exact Or.inr ⟨⟨_, .direction hd⟩, fun h => hd h.1⟩

structure OfCodes (d a : Int) (s : Bool) (r : Int) (c n t : Bool) : Prop where
  succeeds : (∃ o, ofCodes d a s r c n t = .ok o) ↔
    (0 ≤ d ∧ d ≤ 1) ∧ (0 ≤ a ∧ a ≤ 1) ∧ (0 ≤ r ∧ r ≤ 1)
  decoded : ∀ o, ofCodes d a s r c n t = .ok o ↔ Decoded d a s r c n t o
  fails : ∀ f, ofCodes d a s r c n t = .error f ↔ FirstBad d a r f

theorem ofCodes_reads (d a : Int) (s : Bool) (r : Int) (c n t : Bool) : OfCodes d a s r c n t := by
  rcases decoded_or_firstBad d a s r c n t with ⟨⟨o, ho⟩, hrange⟩ | ⟨⟨f, hf⟩, hrange⟩
  · have hok := ofCodes_of_decoded ho
    refine ⟨⟨fun _ => hrange, fun _ => ⟨o, hok⟩⟩, fun o' => ⟨fun h => ?_, ofCodes_of_decoded⟩,
      fun f => ⟨fun h => ?_, ofCodes_of_firstBad⟩⟩
    · obtain rfl : o = o' := Except.ok.inj (hok.symm.trans h)
      exact ho
    · rw [hok] at h
      cases h
  · have herror : ∀ {s c n t}, ofCodes d a s r c n t = .error f := ofCodes_of_firstBad hf
    refine ⟨⟨?_, fun h => absurd h hrange⟩, fun o => ⟨fun h => ?_, ofCodes_of_decoded⟩,
      fun f' => ⟨fun h => ?_, ofCodes_of_firstBad⟩⟩
    · rintro ⟨o, h⟩
      rw [herror] at h
      cases h
    · rw [herror] at h
      cases h
    · obtain rfl : f = f' := Except.error.inj (herror.symm.trans h)
      exact hf

end InclusionOptions

/-- A code is read as the one value that has it, and refused with itself and the range if there is
none; the codes of an inclusion are read each as its own option. -/
theorem codes_read :
    Coded.Numbers Encoding "encoding" 0 3 ∧ Coded.Numbers Direction "direction" 0 1 ∧
      Coded.Numbers Order "order" 0 1 ∧ Coded.Numbers Algorithm "algorithm" 0 1 ∧
      Coded.Numbers Operation "operation" 0 9 ∧
      ∀ d a s r c n t, InclusionOptions.OfCodes d a s r c n t :=
  ⟨Coded.numbers, Coded.numbers, Coded.numbers, Coded.numbers, Coded.numbers,
    InclusionOptions.ofCodes_reads⟩

end TreeTool
