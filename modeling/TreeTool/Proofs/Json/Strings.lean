import Mathlib.Data.List.Forall2
import Mathlib.Tactic.IntervalCases
import TreeTool.Json.Reader

/-!
# Strings in JSON text

A character of a string stands for itself, or is escaped by a letter or by one or two groups of four
digits. A string is read back however each of its characters is written, so in particular as it is
quoted. The induction is over the characters, for any text that follows and any fuel that covers
them.
-/

namespace TreeTool.Json

open Number (isHex ofDigits)

def shortEscapes : List (Char × Char) :=
  [('"', '"'), ('\\', '\\'), ('/', '/'), ('b', '\x08'), ('f', '\x0c'), ('n', '\n'), ('r', '\r'),
    ('t', '\t')]

structure Quad (ds : List Char) (n : Nat) : Prop where
  length : ds.length = 4
  digits : ∀ d ∈ ds, isHex d
  value : ofDigits 16 ds = n

inductive Spelling (c : Char) : List Char → Prop
  | plain : 32 ≤ c.toNat → c ≠ '"' → c ≠ '\\' → Spelling c [c]
  | short {e : Char} : (e, c) ∈ shortEscapes → Spelling c ['\\', e]
  | unit {ds : List Char} : Quad ds c.toNat → Spelling c ('\\' :: 'u' :: ds)
  | pair {high low : Nat} {ds es : List Char} : isHighSurrogate high → isLowSurrogate low →
    pairValue high low = c.toNat → Quad ds high → Quad es low →
    Spelling c ('\\' :: 'u' :: (ds ++ '\\' :: 'u' :: es))

def StringText (s : String) (cs : List Char) : Prop :=
  ∃ pieces, List.Forall₂ Spelling s.toList pieces ∧ cs = '"' :: (pieces.flatten ++ ['"'])

variable {c : Char} {s : String} {cs ds xs rest : List Char} {pieces : List (List Char)} {n : Nat}

/-! ## One character -/

theorem hexQuad_quad (h : Quad ds n) (rest : List Char) :
    hexQuad (ds ++ rest) = .ok (n, rest) := by
  obtain ⟨hl, hd, rfl⟩ := h
  match ds, hl with
  | [a, b, c, d], _ =>
    have hall : [a, b, c, d].all isHex := List.all_eq_true.mpr hd
    have hsize : ¬ Number.total ([a, b, c, d].map Char.utf8Size) < 4 := by
      have ha := a.utf8Size_pos
      have hb := b.utf8Size_pos
      have hc := c.utf8Size_pos
      have hd := d.utf8Size_pos
      simp only [Number.total, List.map_cons, List.map_nil, List.foldl_cons, List.foldl_nil]
      omega
    exact (if_neg hsize).trans (if_pos hall)

theorem unicodeEscape_unit (h : Quad ds c.toNat) (rest : List Char) :
    unicodeEscape (ds ++ rest) = .ok (c, rest) := by
  have hvalid : c.toNat < 0xD800 ∨ 0xDFFF < c.toNat ∧ c.toNat < 0x110000 := c.valid
  have hlow : isLowSurrogate c.toNat = false := by
    simp only [isLowSurrogate, Bool.and_eq_false_iff, decide_eq_false_iff_not]
    omega
  have hhigh : isHighSurrogate c.toNat = false := by
    simp only [isHighSurrogate, Bool.and_eq_false_iff, decide_eq_false_iff_not]
    omega
  rw [unicodeEscape, hexQuad_quad h]
  simp [hlow, hhigh]

theorem unicodeEscape_pair {high low : Nat} {es : List Char} (hh : isHighSurrogate high)
    (hl : isLowSurrogate low) (hc : pairValue high low = c.toNat) (hd : Quad ds high)
    (he : Quad es low) (rest : List Char) :
    unicodeEscape (ds ++ '\\' :: 'u' :: (es ++ rest)) = .ok (c, rest) := by
  have hfirst : isLowSurrogate high = false := by
    simp only [isHighSurrogate, Bool.and_eq_true, decide_eq_true_eq] at hh
    simp only [isLowSurrogate, Bool.and_eq_false_iff, decide_eq_false_iff_not]
    omega
  rw [unicodeEscape, hexQuad_quad hd]
  simp only [hfirst, hh, hexQuad_quad he, hl, hc, Bool.false_eq_true, if_false, if_true,
    Char.ofNat_toNat]

theorem stringStep_spelling (h : Spelling c cs) (rest : List Char) :
    stringStep (cs ++ rest) = .ok (some c, rest) := by
  cases h with
  | plain hc hq hb =>
    rw [List.singleton_append, stringStep.eq_def]
    split <;> simp_all
  | @short e he =>
    simp only [shortEscapes, List.mem_cons, Prod.mk.injEq, List.not_mem_nil, or_false] at he
    rcases he with ⟨rfl, rfl⟩ | ⟨rfl, rfl⟩ | ⟨rfl, rfl⟩ | ⟨rfl, rfl⟩ | ⟨rfl, rfl⟩ | ⟨rfl, rfl⟩ |
      ⟨rfl, rfl⟩ | ⟨rfl, rfl⟩ <;> rfl
  | unit hd => simp only [List.cons_append, stringStep, unicodeEscape_unit hd]
  | pair hh hl hc hd he =>
    have hread := unicodeEscape_pair hh hl hc hd he rest
    simp only [List.cons_append, List.append_assoc, stringStep, hread]

theorem Spelling.ne_nil (h : Spelling c cs) : cs ≠ [] := by
  cases h <;> exact List.cons_ne_nil _ _

/-! ## One string -/

theorem stringBody_spelled (h : List.Forall₂ Spelling xs pieces) (acc rest : List Char)
    (hn : xs.length < n) :
    stringBody n acc (pieces.flatten ++ '"' :: rest) =
      .ok (String.ofList (acc.reverse ++ xs), rest) := by
  induction h generalizing n acc with
  | nil =>
    obtain ⟨n, rfl⟩ : ∃ m, n = m + 1 := ⟨n - 1, by omega⟩
    simp [stringBody, stringStep]
  | @cons c cs xs pieces hc _ ih =>
    rw [List.length_cons] at hn
    obtain ⟨n, rfl⟩ : ∃ m, n = m + 1 := ⟨n - 1, by omega⟩
    have hmore := ih (c :: acc) (n := n) (by omega)
    rw [List.flatten_cons, List.append_assoc, stringBody, stringStep_spelling hc]
    simpa using hmore

theorem length_le_of_spelled (h : List.Forall₂ Spelling xs pieces) :
    xs.length ≤ pieces.flatten.length := by
  induction h with
  | nil => exact Nat.le_refl 0
  | @cons c cs xs pieces hc _ ih =>
    have hpos := List.length_pos_iff.mpr hc.ne_nil
    rw [List.flatten_cons, List.length_append, List.length_cons]
    omega

theorem StringText.read (h : StringText s cs) (rest : List Char) :
    ∃ body, cs ++ rest = '"' :: body ∧ stringRest body = .ok (s, rest) := by
  obtain ⟨pieces, hp, rfl⟩ := h
  have hl := length_le_of_spelled hp
  have hlength : (pieces.flatten ++ '"' :: rest).length =
      pieces.flatten.length + (rest.length + 1) := List.length_append
  refine ⟨pieces.flatten ++ '"' :: rest, by simp, ?_⟩
  rw [stringRest, stringBody_spelled hp [] rest (by omega), List.reverse_nil, List.nil_append,
    String.ofList_toList]

/-! ## Quoted strings -/

theorem spelling_escape_control {n : Nat} (h : n < 32) :
    Spelling (Char.ofNat n) (escape (Char.ofNat n)) := by
  interval_cases n <;> first
    | exact .short (by decide)
    | exact .unit ⟨rfl, List.all_eq_true.mp (by decide), rfl⟩

theorem escape_of_plain (hq : c ≠ '"') (hb : c ≠ '\\') (hc : 32 ≤ c.toNat) : escape c = [c] := by
  have h : ∀ d : Char, d.toNat < 32 → c ≠ d := by
    rintro d hd rfl
    omega
  rw [escape, if_neg hq, if_neg hb, if_neg (h '\n' (by decide)), if_neg (h '\r' (by decide)),
    if_neg (h '\t' (by decide)), if_neg (h '\x08' (by decide)), if_neg (h '\x0c' (by decide)),
    if_neg (Nat.not_lt.mpr hc)]

theorem spelling_escape (c : Char) : Spelling c (escape c) := by
  by_cases hc : c.toNat < 32
  · have h := spelling_escape_control hc
    rwa [Char.ofNat_toNat] at h
  · have hc : 32 ≤ c.toNat := Nat.le_of_not_lt hc
    by_cases hq : c = '"'
    · exact hq ▸ .short (by decide)
    · by_cases hb : c = '\\'
      · exact hb ▸ .short (by decide)
      · rw [escape_of_plain hq hb hc]
        exact .plain hc hq hb

theorem stringText_quote (s : String) : StringText s (quote s) := by
  refine ⟨s.toList.map escape, ?_, by rw [quote, List.flatMap_def]⟩
  rw [List.forall₂_map_right_iff, List.forall₂_same]
  exact fun c _ => spelling_escape c

theorem quote_append (s : String) (rest : List Char) :
    quote s ++ rest = '"' :: (s.toList.flatMap escape ++ '"' :: rest) := by
  simp [quote]

theorem stringRest_escaped (s : String) (rest : List Char) :
    stringRest (s.toList.flatMap escape ++ '"' :: rest) = .ok (s, rest) := by
  obtain ⟨body, hbody, hread⟩ := (stringText_quote s).read rest
  rw [quote_append] at hbody
  exact (List.cons.inj hbody).2 ▸ hread

theorem anyValue_quote (n : Nat) (s : String) (rest : List Char) :
    anyValue (n + 1) (quote s ++ rest) = .ok (.text s, rest) := by
  have hb : ∀ cs, skipBlank ('"' :: cs) = '"' :: cs := fun cs => rfl
  rw [quote_append, anyValue, hb]
  simp [stringRest_escaped, Except.map]

end TreeTool.Json
