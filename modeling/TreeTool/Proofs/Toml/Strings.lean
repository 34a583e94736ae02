import Mathlib.Data.List.Forall2
import TreeTool.Proofs.Text.Cutting
import TreeTool.Toml.Reader

/-!
# Strings in TOML text

A character of a basic string stands for itself, or is escaped by a letter or by the digits of its
number. A string is read back however each of its characters is written; the induction is over the
characters, for any text that follows and any fuel that covers them. A key is bare or a string.
-/

namespace TreeTool.Toml

open Number (digitValue isHex ofDigits)

def shortEscapes : List (Char × Char) :=
  [('b', '\x08'), ('t', '\t'), ('n', '\n'), ('f', '\x0c'), ('r', '\r'), ('"', '"'), ('\\', '\\')]

/-- The ways to write a character in a basic string. -/
inductive Spelling (c : Char) : List Char → Prop
  | plain : isPlain c → c ≠ '"' → c ≠ '\\' → Spelling c [c]
  | short {e : Char} : (e, c) ∈ shortEscapes → Spelling c ['\\', e]
  | four {ds : List Char} : ds.length = 4 → (∀ d ∈ ds, isHex d) → ofDigits 16 ds = c.toNat →
    Spelling c ('\\' :: 'u' :: ds)
  | eight {ds : List Char} : ds.length = 8 → (∀ d ∈ ds, isHex d) → ofDigits 16 ds = c.toNat →
    Spelling c ('\\' :: 'U' :: ds)

def BasicString (s : String) (cs : List Char) : Prop :=
  ∃ pieces, List.Forall₂ Spelling s.toList pieces ∧ cs = '"' :: (pieces.flatten ++ ['"'])

variable {c : Char} {s : String} {cs ds rest xs : List Char} {n : Nat}

theorem scalarOf_digits (hd : ∀ d ∈ ds, isHex d) (hc : ofDigits 16 ds = c.toNat) :
    scalarOf ds = some c := by
  have hscalar : isScalar c.toNat := by
    have hvalid : c.toNat < 0xD800 ∨ 0xDFFF < c.toNat ∧ c.toNat < 0x110000 := c.valid
    simp only [isScalar, Bool.or_eq_true, Bool.and_eq_true, decide_eq_true_eq]
    exact hvalid
  have hall : ds.all isHex := List.all_eq_true.mpr hd
  simp only [scalarOf, hc, hscalar, hall, Bool.and_true, if_true, Char.ofNat_toNat]

theorem escape_short {e : Char} (h : (e, c) ∈ shortEscapes) (rest : List Char) :
    escape (e :: rest) = some (c, rest) := by
  simp only [shortEscapes, List.mem_cons, Prod.mk.injEq, List.not_mem_nil, or_false] at h
  rcases h with ⟨rfl, rfl⟩ | ⟨rfl, rfl⟩ | ⟨rfl, rfl⟩ | ⟨rfl, rfl⟩ | ⟨rfl, rfl⟩ | ⟨rfl, rfl⟩ |
    ⟨rfl, rfl⟩ <;> rfl

theorem escape_four (hl : ds.length = 4) (hs : scalarOf ds = some c) (rest : List Char) :
    escape ('u' :: (ds ++ rest)) = some (c, rest) := by
  match ds, hl with
  | [d1, d2, d3, d4], _ =>
    show (scalarOf [d1, d2, d3, d4]).map _ = _
    rw [hs]
    rfl

theorem escape_eight (hl : ds.length = 8) (hs : scalarOf ds = some c) (rest : List Char) :
    escape ('U' :: (ds ++ rest)) = some (c, rest) := by
  match ds, hl with
  | [d1, d2, d3, d4, d5, d6, d7, d8], _ =>
    show (scalarOf [d1, d2, d3, d4, d5, d6, d7, d8]).map _ = _
    rw [hs]
    rfl

theorem basicBody_escape (h : escape cs = some (c, rest)) (n : Nat) :
    basicBody (n + 1) ('\\' :: cs) = (basicBody n rest).map fun (xs, cs) => (c :: xs, cs) := by
  rw [basicBody, if_neg (by decide), if_pos rfl, h]
  simp only [Option.bind_eq_bind, Option.bind_some]
  cases basicBody n rest <;> rfl

theorem basicBody_spelling (h : Spelling c cs) (n : Nat) (rest : List Char) :
    basicBody (n + 1) (cs ++ rest) = (basicBody n rest).map fun (xs, cs) => (c :: xs, cs) := by
  cases h with
  | plain hp hq hb =>
    rw [List.singleton_append, basicBody, if_neg hq, if_neg hb, if_pos hp]
  | short he => exact basicBody_escape (escape_short he rest) n
  | four hl hd hc => exact basicBody_escape (escape_four hl (scalarOf_digits hd hc) rest) n
  | eight hl hd hc => exact basicBody_escape (escape_eight hl (scalarOf_digits hd hc) rest) n

theorem basicBody_spelled {pieces : List (List Char)} (h : List.Forall₂ Spelling xs pieces)
    (rest : List Char) (hn : xs.length < n) :
    basicBody n (pieces.flatten ++ '"' :: rest) = some (xs, rest) := by
  obtain ⟨n, rfl⟩ : ∃ m, n = m + 1 := ⟨n - 1, by omega⟩
  induction h generalizing n with
  | nil => rfl
  | @cons c cs xs pieces hc _ ih =>
    rw [List.length_cons] at hn
    obtain ⟨n, rfl⟩ : ∃ m, n = m + 1 := ⟨n - 1, by omega⟩
    rw [List.flatten_cons, List.append_assoc, basicBody_spelling hc, ih n (by omega)]
    rfl

theorem Spelling.head (h : Spelling c cs) : ∃ d ds, cs = d :: ds ∧ d ≠ '"' := by
  cases h with
  | plain _ hq _ => exact ⟨c, [], rfl, hq⟩
  | short => exact ⟨_, _, rfl, by decide⟩
  | four => exact ⟨_, _, rfl, by decide⟩
  | eight => exact ⟨_, _, rfl, by decide⟩

theorem length_le_of_spelled {pieces : List (List Char)} (h : List.Forall₂ Spelling xs pieces) :
    xs.length ≤ pieces.flatten.length := by
  induction h with
  | nil => exact Nat.le_refl 0
  | @cons c cs xs pieces hc _ ih =>
    obtain ⟨d, ds, rfl, -⟩ := hc.head
    rw [List.flatten_cons, List.length_append, List.length_cons, List.length_cons]
    omega

theorem BasicString.read (h : BasicString s cs) (rest : List Char) :
    ∃ body, cs ++ rest = '"' :: body ∧ (∀ ds, body = '"' :: '"' :: ds → rest.head? = some '"') ∧
      basicBody (body.length + 1) body = some (s.toList, rest) := by
  obtain ⟨pieces, hp, rfl⟩ := h
  refine ⟨pieces.flatten ++ '"' :: rest, by simp, ?_, ?_⟩
  · intro ds hds
    generalize s.toList = xs at hp
    cases hp with
    | nil =>
      obtain rfl : rest = '"' :: ds := (List.cons.inj hds).2
      rfl
    | cons hc _ =>
      obtain ⟨d, cs, rfl, hd⟩ := hc.head
      exact absurd (List.cons.inj hds).1 hd
  · have hl := length_le_of_spelled hp
    have hlength : (pieces.flatten ++ '"' :: rest).length =
        pieces.flatten.length + (rest.length + 1) := List.length_append
    exact basicBody_spelled hp rest (by omega)

theorem string_basicString (h : BasicString s cs) (hr : rest.head? ≠ some '"') :
    string (cs ++ rest) = some (s, rest) := by
  obtain ⟨body, hcs, hquotes, hread⟩ := h.read rest
  rw [hcs, string.eq_def]
  split
  · rename_i ds hds
    exact absurd (hquotes ds (List.cons.inj hds).2) hr
  · rename_i hds
    obtain rfl := (List.cons.inj hds).2
    rw [hread]
    simp
  · rename_i hds
    exact absurd (List.cons.inj hds).1 (by decide)
  · rename_i hds
    exact absurd (List.cons.inj hds).1 (by decide)
  · rename_i hno _ _
    exact absurd rfl (hno body)

theorem digits_of_control : ∀ n < 128,
    ['0', '0', Nat.digitChar (n / 16), Nat.digitChar (n % 16)].all isHex ∧
      ofDigits 16 ['0', '0', Nat.digitChar (n / 16), Nat.digitChar (n % 16)] = n := by
  decide

theorem exists_spelling (c : Char) : ∃ cs, Spelling c cs := by
  by_cases hq : c = '"'
  · subst hq
    exact ⟨['\\', '"'], .short (by decide)⟩
  · by_cases hb : c = '\\'
    · subst hb
      exact ⟨['\\', '\\'], .short (by decide)⟩
    · by_cases hp : isPlain c
      · exact ⟨_, .plain hp hq hb⟩
      · have hcontrol : c.toNat < 128 := by
          simp only [isPlain, Bool.or_eq_true, Bool.and_eq_true, decide_eq_true_eq] at hp
          omega
        obtain ⟨hd, hc⟩ := digits_of_control c.toNat hcontrol
        exact ⟨_, .four rfl (List.all_eq_true.mp hd) hc⟩

theorem exists_basicString (s : String) : ∃ cs, BasicString s cs := by
  have hpieces : ∀ xs : List Char, ∃ pieces, List.Forall₂ Spelling xs pieces := by
    intro xs
    induction xs with
    | nil => exact ⟨[], .nil⟩
    | cons c xs ih =>
      obtain ⟨cs, hc⟩ := exists_spelling c
      obtain ⟨pieces, hp⟩ := ih
      exact ⟨cs :: pieces, .cons hc hp⟩
  obtain ⟨pieces, hp⟩ := hpieces s.toList
  exact ⟨_, pieces, hp, rfl⟩

/-! ## Keys -/

inductive KeyText (k : String) : List Char → Prop
  | bare : k.toList ≠ [] → (∀ c ∈ k.toList, isBare c) → KeyText k k.toList
  | basic {cs : List Char} : BasicString k cs → KeyText k cs
  | literal : (∀ c ∈ k.toList, isPlain c ∧ c ≠ '\'') → KeyText k ('\'' :: (k.toList ++ ['\'']))

theorem literalBody_append (h : ∀ c ∈ xs, isPlain c ∧ c ≠ '\'') (rest : List Char) :
    literalBody (xs ++ '\'' :: rest) = some (xs, rest) := by
  obtain ⟨htake, hdrop⟩ := Text.span_append (p := fun c => isPlain c && c ≠ '\'') (a := xs)
    (b := '\'' :: rest) (by simpa using h) (by simp)
  simp only [literalBody, hdrop, htake]

theorem ne_of_isBare {d : Char} (hc : isBare c) (hd : isBare d = false) : c ≠ d := by
  rintro rfl
  rw [hd] at hc
  cases hc

theorem simpleKey_keyText {k : String} (h : KeyText k cs)
    (hr : ∀ c ∈ rest.head?, isBare c = false) :
    simpleKey (cs ++ rest) = some (k, rest) := by
  cases h with
  | bare hne hk =>
    obtain ⟨htake, hdrop⟩ := Text.span_append hk hr
    obtain ⟨c, ds, hcs⟩ := List.exists_cons_of_ne_nil hne
    have hc : isBare c := hk c (hcs ▸ List.mem_cons_self)
    rw [simpleKey.eq_def]
    split
    · rename_i heq
      rw [hcs, List.cons_append] at heq
      exact absurd (List.cons.inj heq).1 (ne_of_isBare hc (by decide))
    · rename_i heq
      rw [hcs, List.cons_append] at heq
      exact absurd (List.cons.inj heq).1 (ne_of_isBare hc (by decide))
    · rw [htake, hdrop, if_neg (by simpa using hne), String.ofList_toList]
  | basic hs =>
    obtain ⟨body, hcs, -, hread⟩ := hs.read rest
    rw [hcs]
    simp only [simpleKey, hread]
    simp
  | literal hk =>
    rw [List.cons_append, List.append_assoc, List.singleton_append]
    simp only [simpleKey, literalBody_append hk]
    simp

end TreeTool.Toml
