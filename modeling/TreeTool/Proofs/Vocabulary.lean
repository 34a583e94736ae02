import Mathlib.Logic.Function.Basic
import TreeTool.Vocabulary

/-!
# Tokens and codes of the vocabulary

In a lawful enumeration every value is listed and no two values share a token, so reading a token
is looking it up in the table of all tokens, and every token is read back as its value. Directions
have a second table, and both are lawful in this sense under their encodings. Every enumeration of
the vocabulary also fills its range of codes, so a code is refused only outside the range.
-/

namespace TreeTool

namespace Coded

/-- The list of values is complete, and the tokens tell them apart. -/
class Lawful (α : Type) [Coded α] : Prop where
  mem_values : ∀ v : α, v ∈ (values : List α)
  token_injective : Function.Injective (token : α → String)

instance : Lawful Encoding where
  mem_values v := by cases v <;> decide
  token_injective := by intro a b; cases a <;> cases b <;> decide

instance : Lawful Direction where
  mem_values v := by cases v <;> decide
  token_injective := by intro a b; cases a <;> cases b <;> decide

instance : Lawful Order where
  mem_values v := by cases v <;> decide
  token_injective := by intro a b; cases a <;> cases b <;> decide

instance : Lawful Algorithm where
  mem_values v := by cases v <;> decide
  token_injective := by intro a b; cases a <;> cases b <;> decide

instance : Lawful Operation where
  mem_values v := by cases v <;> decide
  token_injective := by intro a b; cases a <;> cases b <;> decide

variable {α : Type} [Coded α]

def words (α : Type) [Coded α] : List (String × α) := (values : List α).map fun v => (token v, v)

theorem lookup_map_token (vs : List α) (t : String) :
    (vs.map fun v => (token v, v)).lookup t = vs.find? fun v => token v == t := by
  induction vs with
  | nil => rfl
  | cons v vs ih =>
    rw [List.map_cons, List.lookup_cons, List.find?_cons, ih, Bool.beq_comm]

theorem ofToken_eq_ok_iff {t : String} {v : α} :
    ofToken α t = .ok v ↔ (words α).lookup t = some v := by
  rw [ofToken, words, lookup_map_token]
  cases (values : List α).find? fun v => token v == t with
  | none => simp
  | some w => simp

theorem eq_token_of_ofToken {t : String} {v : α} (h : ofToken α t = .ok v) : t = token v := by
  rw [ofToken] at h
  cases hf : (values : List α).find? fun w => token w == t with
  | none => simp [hf] at h
  | some w =>
    simp only [hf, Except.ok.injEq] at h
    have hw : token w = t := by simpa using List.find?_some hf
    rw [← hw, h]

theorem ofToken_eq_error {t : String} {f : Fault} (h : ofToken α t = .error f) :
    f = .unknownToken (label α) t := by
  rw [ofToken] at h
  split at h <;> cases h
  rfl

theorem ofToken_token [Lawful α] (v : α) : ofToken α (token v) = .ok v := by
  rw [ofToken]
  cases h : (values : List α).find? fun w => token w == token v with
  | none =>
    have hv := List.find?_eq_none.mp h v (Lawful.mem_values v)
    exact absurd (beq_self_eq_true _) hv
  | some w =>
    have hw : token w = token v := by simpa using List.find?_some h
    rw [Lawful.token_injective hw]

theorem ofToken_iff_eq_token [Lawful α] {t : String} {v : α} :
    ofToken α t = .ok v ↔ t = token v := by
  constructor
  · exact eq_token_of_ofToken
  · rintro rfl
    exact ofToken_token v

/-! ## Codes -/

/-- Every code of the range belongs to a listed value. -/
class Filled (α : Type) [Coded α] : Prop where
  exists_code : ∀ c, validCode α c → ∃ v ∈ (values : List α), code v = c

theorem filled_of_table (h : ∀ k < (greatest α + 1 - least α).toNat,
    ∃ v ∈ (values : List α), code v = least α + k) : Filled α where
  exists_code c hc := by
    obtain ⟨hl, hg⟩ : least α ≤ c ∧ c ≤ greatest α := of_decide_eq_true hc
    obtain ⟨v, hv, hcode⟩ := h (c - least α).toNat (by omega)
    exact ⟨v, hv, by omega⟩

instance : Filled Encoding := filled_of_table (by decide)

instance : Filled Direction := filled_of_table (by decide)

instance : Filled Order := filled_of_table (by decide)

instance : Filled Algorithm := filled_of_table (by decide)

instance : Filled Operation := filled_of_table (by decide)

theorem ofCode_eq_error [Filled α] {c : Int} {f : Fault} (h : ofCode α c = .error f) :
    f = .invalidCode (label α) c (least α) (greatest α) := by
  rw [ofCode] at h
  split at h
  · rename_i hc
    obtain ⟨v, hv, hcode⟩ := Filled.exists_code c hc
    split at h
    · cases h
    · rename_i hf
      exact absurd hcode (by simpa using List.find?_eq_none.mp hf v hv)
  · cases h
    rfl

end Coded

namespace Direction

theorem ofTokenFor_explicitFa_eq_ok_iff {t : String} {d : Direction} :
    ofTokenFor .explicitFa t = .ok d ↔ [("fwd", down), ("bwd", up)].lookup t = some d := by
  rw [ofTokenFor]
  by_cases hf : t = "fwd"
  · simp [hf]
  · by_cases hb : t = "bwd"
    · simp [hb, List.lookup_cons]
    · simp [hf, hb, List.lookup_cons, beq_eq_false_iff_ne.mpr hf, beq_eq_false_iff_ne.mpr hb]

theorem ofTokenFor_of_ne {e : Encoding} (he : e ≠ .explicitFa) (t : String) :
    ofTokenFor e t = Coded.ofToken Direction t := by
  cases e <;> first | rfl | exact absurd rfl he

theorem ofTokenFor_eq_error {e : Encoding} {t : String} {f : Fault}
    (h : ofTokenFor e t = .error f) : f = .unknownToken (Coded.label Direction) t := by
  by_cases he : e = .explicitFa
  · subst he
    rw [ofTokenFor] at h
    split at h
    · cases h
    · split at h
      · cases h
      · cases h
        rfl
  · rw [ofTokenFor_of_ne he] at h
    exact Coded.ofToken_eq_error h

theorem ofTokenFor_explicitFa_of_ofToken {t : String} {d : Direction}
    (h : Coded.ofToken Direction t = .ok d) (d' : Direction) :
    ofTokenFor .explicitFa t ≠ .ok d' := by
  rw [Coded.eq_token_of_ofToken h]
  cases d <;> exact nofun

theorem read_eq_ok_iff {t : String} {d : Direction} :
    read t = .ok d ↔ Coded.ofToken Direction t = .ok d ∨ ofTokenFor .explicitFa t = .ok d := by
  rw [read]
  cases h : Coded.ofToken Direction t with
  | error f => simp
  | ok d' => simpa using fun hd => absurd hd (ofTokenFor_explicitFa_of_ofToken h d)

theorem read_eq_error {t : String} {f : Fault} (h : read t = .error f) :
    f = .unknownToken (Coded.label Direction) t := by
  rw [read] at h
  split at h
  · cases h
  · exact ofTokenFor_eq_error h

theorem tokenFor_of_ne {e : Encoding} (he : e ≠ .explicitFa) (d : Direction) :
    d.tokenFor e = Coded.token d := by
  cases e <;> first | rfl | exact absurd rfl he

theorem ofTokenFor_tokenFor (e : Encoding) (d : Direction) :
    ofTokenFor e (d.tokenFor e) = .ok d := by
  by_cases he : e = .explicitFa
  · subst he
    cases d <;> rfl
  · rw [tokenFor_of_ne he, ofTokenFor_of_ne he, Coded.ofToken_token]

end Direction

end TreeTool
