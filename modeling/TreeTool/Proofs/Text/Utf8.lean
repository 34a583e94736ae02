import Mathlib.Data.List.Forall2
import Mathlib.Tactic.SplitIfs
import TreeTool.Text.Utf8

/-!
# Decoding bytes

The table of lead bytes says what the bytes of a character look like, so what one step takes off the
front is either the encoding of a character or a maximal ill-formed piece: as many bytes as begin
such an encoding, which the least byte of each range left would make complete. All readings follow
from that by induction on the bytes, and the strict and the lossy one agree on what is valid.
-/

namespace TreeTool.Text.Utf8

variable {b x y z : UInt8} {rs : List (UInt8 × UInt8)} {bs : Bytes} {n : Nat}

/-! ## The table of lead bytes -/

def leastSecond (b : UInt8) : UInt8 :=
  if b = 0xE0 then 0xA0 else if b = 0xF0 then 0x90 else 0x80

/-- The greatest byte that may follow a lead byte: no surrogate is encoded, and nothing beyond the
last character. -/
def greatestSecond (b : UInt8) : UInt8 :=
  if b = 0xED then 0x9F else if b = 0xF4 then 0x8F else 0xBF

def row (b : UInt8) : Option (List (UInt8 × UInt8)) :=
  if b.toNat < 0x80 then some []
  else if b.toNat < 0xC2 then none
  else if b.toNat < 0xE0 then some [(0x80, 0xBF)]
  else if b.toNat < 0xF0 then some [(leastSecond b, greatestSecond b), (0x80, 0xBF)]
  else if b.toNat < 0xF5 then
    some [(leastSecond b, greatestSecond b), (0x80, 0xBF), (0x80, 0xBF)]
  else none

set_option maxRecDepth 10000 in
theorem tails_ofNat : ∀ n < 256, tails (UInt8.ofNat n) = row (UInt8.ofNat n) := by
  decide

theorem tails_eq_row (b : UInt8) : tails b = row b := by
  have h := tails_ofNat b.toNat b.toNat_lt
  rwa [UInt8.ofNat_toNat] at h

def Fits (rs : List (UInt8 × UInt8)) (bs : Bytes) : Prop :=
  List.Forall₂ (fun r b => r.1 ≤ b ∧ b ≤ r.2) rs bs

def Trails (b : UInt8) : Prop := 0x80 ≤ b.toNat ∧ b.toNat ≤ 0xBF

structure Seconds (b x : UInt8) : Prop where
  trails : Trails x
  needsThree : b.toNat = 0xE0 → 0xA0 ≤ x.toNat
  notSurrogate : b.toNat = 0xED → x.toNat ≤ 0x9F
  needsFour : b.toNat = 0xF0 → 0x90 ≤ x.toNat
  notBeyond : b.toNat = 0xF4 → x.toNat ≤ 0x8F

theorem seconds_iff : leastSecond b ≤ x ∧ x ≤ greatestSecond b ↔ Seconds b x := by
  simp only [leastSecond, greatestSecond, UInt8.le_iff_toNat_le, ← UInt8.toNat_inj,
    UInt8.reduceToNat]
  constructor
  · rintro ⟨hl, hg⟩
    -- a lead byte is one of the four at most, so every other condition is void
    split_ifs at hl hg <;> simp only [UInt8.reduceToNat] at hl hg <;>
      exact ⟨⟨by omega, by omega⟩, by omega, by omega, by omega, by omega⟩
  · rintro ⟨⟨hl, hg⟩, h1, h2, h3, h4⟩
    split_ifs <;> simp only [UInt8.reduceToNat] <;> omega

/-- A lead byte and the bytes behind it that make up a character. -/
inductive Encoded (b : UInt8) : Bytes → Prop
  | one : b.toNat < 0x80 → Encoded b []
  | two {x : UInt8} : 0xC2 ≤ b.toNat → b.toNat < 0xE0 → Trails x → Encoded b [x]
  | three {x y : UInt8} : 0xE0 ≤ b.toNat → b.toNat < 0xF0 → Seconds b x → Trails y →
    Encoded b [x, y]
  | four {x y z : UInt8} : 0xF0 ≤ b.toNat → b.toNat < 0xF5 → Seconds b x → Trails y → Trails z →
    Encoded b [x, y, z]

theorem trails_iff : (0x80 : UInt8) ≤ x ∧ x ≤ 0xBF ↔ Trails x := by
  rw [UInt8.le_iff_toNat_le, UInt8.le_iff_toNat_le]
  rfl

theorem encoded_iff : Encoded b bs ↔ ∃ rs, tails b = some rs ∧ Fits rs bs := by
  rw [tails_eq_row, row]
  constructor
  · intro h
    cases h with
    | one h => exact ⟨[], by rw [if_pos h], .nil⟩
    | two h h' hx =>
      refine ⟨_, by rw [if_neg (by omega), if_neg (by omega), if_pos (by omega)], ?_⟩
      exact .cons (trails_iff.mpr hx) .nil
    | three h h' hx hy =>
      refine ⟨_, by rw [if_neg (by omega), if_neg (by omega), if_neg (by omega),
        if_pos (by omega)], ?_⟩
      exact .cons (seconds_iff.mpr hx) (.cons (trails_iff.mpr hy) .nil)
    | four h h' hx hy hz =>
      refine ⟨_, by rw [if_neg (by omega), if_neg (by omega), if_neg (by omega),
        if_neg (by omega), if_pos (by omega)], ?_⟩
      exact .cons (seconds_iff.mpr hx) (.cons (trails_iff.mpr hy) (.cons (trails_iff.mpr hz) .nil))
  · rintro ⟨rs, h, hf⟩
    split_ifs at h
    all_goals cases h
    · cases hf
      exact .one ‹_›
    · obtain _ | ⟨hx, _ | _⟩ := hf
      exact .two (by omega) (by omega) (trails_iff.mp hx)
    · obtain _ | ⟨hx, _ | ⟨hy, _ | _⟩⟩ := hf
      exact .three (by omega) (by omega) (seconds_iff.mp hx) (trails_iff.mp hy)
    · obtain _ | ⟨hx, _ | ⟨hy, _ | ⟨hz, _ | _⟩⟩⟩ := hf
      exact .four (by omega) (by omega) (seconds_iff.mp hx) (trails_iff.mp hy) (trails_iff.mp hz)

/-! ## One character -/

theorem encodeChar_ofNat (h : n.isValidChar) :
    String.utf8EncodeChar (Char.ofNat n) =
      if n < 0x80 then [UInt8.ofNat n]
      else if n < 0x800 then [UInt8.ofNat (n / 64 % 32 + 192), UInt8.ofNat (n % 64 + 128)]
      else if n < 0x10000 then [UInt8.ofNat (n / 4096 % 16 + 224),
        UInt8.ofNat (n / 64 % 64 + 128), UInt8.ofNat (n % 64 + 128)]
      else [UInt8.ofNat (n / 262144 % 8 + 240), UInt8.ofNat (n / 4096 % 64 + 128),
        UInt8.ofNat (n / 64 % 64 + 128), UInt8.ofNat (n % 64 + 128)] := by
  have hn : (Char.ofNat n).val.toNat = n := by
    rw [Char.ofNat, dif_pos h]
    rfl
  simp only [String.utf8EncodeChar, hn, ← Nat.lt_succ_iff]

theorem ofNat_eq_iff : UInt8.ofNat n = b ↔ n % 256 = b.toNat := by
  rw [← UInt8.toNat_inj, UInt8.toNat_ofNat']

theorem scalar_one (h : b.toNat < 0x80) : scalar b [] = Char.ofNat b.toNat := by
  simp only [scalar, UInt8.lt_iff_toNat_lt, UInt8.reduceToNat, List.foldl_nil, if_pos h]

theorem scalar_two (h : 0x80 ≤ b.toNat) (h' : b.toNat < 0xE0) :
    scalar b [x] = Char.ofNat (b.toNat % 32 * 64 + x.toNat % 64) := by
  simp only [scalar, UInt8.lt_iff_toNat_lt, UInt8.reduceToNat, List.foldl_nil, List.foldl_cons,
    if_neg (Nat.not_lt.mpr h), if_pos h']

theorem scalar_three (h : 0xE0 ≤ b.toNat) (h' : b.toNat < 0xF0) :
    scalar b [x, y] =
      Char.ofNat ((b.toNat % 16 * 64 + x.toNat % 64) * 64 + y.toNat % 64) := by
  have h0 : ¬ b.toNat < 0x80 := by omega
  simp only [scalar, UInt8.lt_iff_toNat_lt, UInt8.reduceToNat, List.foldl_nil, List.foldl_cons,
    if_neg h0, if_neg (Nat.not_lt.mpr h), if_pos h']

theorem scalar_four (h : 0xF0 ≤ b.toNat) :
    scalar b [x, y, z] = Char.ofNat
      (((b.toNat % 8 * 64 + x.toNat % 64) * 64 + y.toNat % 64) * 64 + z.toNat % 64) := by
  have h0 : ¬ b.toNat < 0x80 := by omega
  have h1 : ¬ b.toNat < 0xE0 := by omega
  simp only [scalar, UInt8.lt_iff_toNat_lt, UInt8.reduceToNat, List.foldl_nil, List.foldl_cons,
    if_neg h0, if_neg h1, if_neg (Nat.not_lt.mpr h)]

theorem encodeChar_scalar (h : Encoded b bs) : String.utf8EncodeChar (scalar b bs) = b :: bs := by
  cases h with
  | one h =>
    rw [scalar_one h, encodeChar_ofNat (by rw [Nat.isValidChar]; omega), if_pos h,
      UInt8.ofNat_toNat]
  | two h h' hx =>
    obtain ⟨hx, hx'⟩ := hx
    rw [scalar_two (by omega) h', encodeChar_ofNat (by rw [Nat.isValidChar]; omega),
      if_neg (by omega), if_pos (by omega)]
    simp only [List.cons.injEq, ofNat_eq_iff, and_true]
    omega
  | three h h' hx hy =>
    -- no shorter encoding, and no surrogate
    obtain ⟨⟨hx, hx'⟩, hlow, hhigh, -, -⟩ := hx
    obtain ⟨hy, hy'⟩ := hy
    rw [scalar_three h h', encodeChar_ofNat (by rw [Nat.isValidChar]; omega), if_neg (by omega),
      if_neg (by omega), if_pos (by omega)]
    simp only [List.cons.injEq, ofNat_eq_iff, and_true]
    omega
  | four h h' hx hy hz =>
    -- no shorter encoding, and no number beyond the last character
    obtain ⟨⟨hx, hx'⟩, -, -, hlow, hhigh⟩ := hx
    obtain ⟨hy, hy'⟩ := hy
    obtain ⟨hz, hz'⟩ := hz
    rw [scalar_four h, encodeChar_ofNat (by rw [Nat.isValidChar]; omega), if_neg (by omega),
      if_neg (by omega), if_neg (by omega)]
    simp only [List.cons.injEq, ofNat_eq_iff, and_true]
    omega

theorem exists_encoded (c : Char) :
    ∃ b bs, String.utf8EncodeChar c = b :: bs ∧ Encoded b bs ∧ scalar b bs = c := by
  obtain ⟨n, hn, rfl⟩ : ∃ n, n.isValidChar ∧ c = Char.ofNat n :=
    ⟨c.toNat, c.valid, (Char.ofNat_toNat c).symm⟩
  have hvalid : n < 0xD800 ∨ 0xDFFF < n ∧ n < 0x110000 := hn
  rw [encodeChar_ofNat hn]
  split_ifs with h1 h2 h3
  · generalize hb : UInt8.ofNat n = b
    rw [ofNat_eq_iff] at hb
    have hlead : b.toNat < 0x80 := by omega
    refine ⟨b, [], rfl, .one hlead, ?_⟩
    rw [scalar_one hlead]
    congr 1
    omega
  · generalize hb : UInt8.ofNat (n / 64 % 32 + 192) = b
    generalize hx : UInt8.ofNat (n % 64 + 128) = x
    rw [ofNat_eq_iff] at hb hx
    refine ⟨b, [x], rfl, .two (by omega) (by omega) ⟨by omega, by omega⟩, ?_⟩
    rw [scalar_two (by omega) (by omega)]
    congr 1
    omega
  · generalize hb : UInt8.ofNat (n / 4096 % 16 + 224) = b
    generalize hx : UInt8.ofNat (n / 64 % 64 + 128) = x
    generalize hy : UInt8.ofNat (n % 64 + 128) = y
    rw [ofNat_eq_iff] at hb hx hy
    have hsecond : Seconds b x :=
      ⟨⟨by omega, by omega⟩, by omega, by omega, by omega, by omega⟩
    refine ⟨b, [x, y], rfl, .three (by omega) (by omega) hsecond ⟨by omega, by omega⟩, ?_⟩
    rw [scalar_three (by omega) (by omega)]
    congr 1
    omega
  · generalize hb : UInt8.ofNat (n / 262144 % 8 + 240) = b
    generalize hx : UInt8.ofNat (n / 4096 % 64 + 128) = x
    generalize hy : UInt8.ofNat (n / 64 % 64 + 128) = y
    generalize hz : UInt8.ofNat (n % 64 + 128) = z
    rw [ofNat_eq_iff] at hb hx hy hz
    have hsecond : Seconds b x :=
      ⟨⟨by omega, by omega⟩, by omega, by omega, by omega, by omega⟩
    refine ⟨b, [x, y, z], rfl,
      .four (by omega) (by omega) hsecond ⟨by omega, by omega⟩ ⟨by omega, by omega⟩, ?_⟩
    rw [scalar_four (by omega)]
    congr 1
    omega

/-! ## The piece at the front -/

variable {c : Char} {p q t rest : Bytes}

theorem exists_tails (c : Char) : ∃ b rs bs, String.utf8EncodeChar c = b :: bs ∧
    tails b = some rs ∧ Fits rs bs ∧ scalar b bs = c := by
  obtain ⟨b, bs, hc, he, hs⟩ := exists_encoded c
  obtain ⟨rs, hrs, hf⟩ := encoded_iff.mp he
  exact ⟨b, rs, bs, hc, hrs, hf, hs⟩

theorem fit_of_fits (h : Fits rs t) (rest : Bytes) : fit rs (t ++ rest) = (true, t, rest) := by
  induction h with
  | nil => rfl
  | cons hb _ ih => simp [fit, hb, ih]

theorem fits_of_fit {taken left : Bytes} (h : fit rs bs = (true, taken, left)) :
    bs = taken ++ left ∧ Fits rs taken := by
  induction rs generalizing bs taken with
  | nil =>
    cases h
    exact ⟨rfl, .nil⟩
  | cons r rs ih =>
    cases bs with
    | nil => cases h
    | cons b bs =>
      rw [fit] at h
      split at h
      · rename_i hb
        obtain ⟨hall, htaken, hleft⟩ : (fit rs bs).1 = true ∧ b :: (fit rs bs).2.1 = taken ∧
            (fit rs bs).2.2 = left := by simpa using h
        obtain ⟨hbs, hf⟩ := ih (Prod.ext hall (Prod.ext rfl hleft))
        exact ⟨by rw [← htaken, List.cons_append, ← hbs], htaken ▸ .cons (by simpa using hb) hf⟩
      · cases h

theorem stops_of_fit {taken left : Bytes} (h : fit rs bs = (false, taken, left)) :
    bs = taken ++ left ∧ ∃ before r after, rs = before ++ r :: after ∧ Fits before taken ∧
      ∀ b ∈ left.head?, ¬ (r.1 ≤ b ∧ b ≤ r.2) := by
  induction rs generalizing bs taken with
  | nil => cases h
  | cons r rs ih =>
    cases bs with
    | nil =>
      cases h
      exact ⟨rfl, [], r, rs, rfl, .nil, by simp⟩
    | cons b bs =>
      rw [fit] at h
      split at h
      · rename_i hb
        obtain ⟨hall, htaken, hleft⟩ : (fit rs bs).1 = false ∧ b :: (fit rs bs).2.1 = taken ∧
            (fit rs bs).2.2 = left := by simpa using h
        obtain ⟨hbs, before, s, after, hrs, hf, hnext⟩ := ih (Prod.ext hall (Prod.ext rfl hleft))
        exact ⟨by rw [← htaken, List.cons_append, ← hbs], r :: before, s, after,
          by rw [hrs, List.cons_append], htaken ▸ .cons (by simpa using hb) hf, hnext⟩
      · rename_i hb
        cases h
        exact ⟨rfl, [], r, rs, rfl, .nil, by simpa using hb⟩

def Begins (p : Bytes) : Prop := ∃ c, p <+: String.utf8EncodeChar c

/-- A maximal ill-formed piece in front of other bytes: no character stands there, and the piece has
all the bytes that begin one, or is a single byte. -/
structure IllFormed (p rest : Bytes) : Prop where
  no_character : ∀ c, ¬ String.utf8EncodeChar c <+: p ++ rest
  nonempty : p ≠ []
  begins : Begins p ∨ p.length = 1
  maximal : ∀ q, q <+: p ++ rest → Begins q → q.length ≤ p.length

theorem tails_of_begins (h : Begins (b :: p)) : ∃ rs t, tails b = some rs ∧ Fits rs (p ++ t) := by
  obtain ⟨c, t, ht⟩ := h
  obtain ⟨b', rs, bs, hc, hrs, hf, -⟩ := exists_tails c
  obtain ⟨rfl, rfl⟩ : b = b' ∧ p ++ t = bs := by simpa using ht.trans hc
  exact ⟨rs, t, hrs, hf⟩

theorem begins_encodeChar (c : Char) : Begins (String.utf8EncodeChar c) := ⟨c, List.prefix_rfl⟩

set_option maxRecDepth 10000 in
theorem range_tails_ofNat : ∀ n < 256,
    (tails (UInt8.ofNat n)).all fun rs => rs.all fun r => decide (r.1 ≤ r.2) := by
  decide

theorem range_tails {rs : List (UInt8 × UInt8)} (h : tails b = some rs) :
    ∀ r ∈ rs, r.1 ≤ r.2 := by
  have hall := range_tails_ofNat b.toNat b.toNat_lt
  rw [UInt8.ofNat_toNat, h, Option.all_some] at hall
  exact fun r hr => of_decide_eq_true (List.all_eq_true.mp hall r hr)

theorem begins_of_fits {before after : List (UInt8 × UInt8)}
    (h : tails b = some (before ++ after)) (hf : Fits before p) : Begins (b :: p) := by
  have hrange := range_tails h
  have hrest : Fits after (after.map (·.1)) := by
    rw [Fits, List.forall₂_map_right_iff, List.forall₂_same]
    exact fun r hr => ⟨UInt8.le_refl _, hrange r (List.mem_append_right _ hr)⟩
  have hall : Fits (before ++ after) (p ++ after.map (·.1)) := List.rel_append hf hrest
  have he := encodeChar_scalar (encoded_iff.mpr ⟨_, h, hall⟩)
  exact ⟨_, after.map (·.1), by rw [he, List.cons_append]⟩

theorem step_encodeChar (c : Char) (rest : Bytes) : ∃ b bs, String.utf8EncodeChar c = b :: bs ∧
    step b (bs ++ rest) = (some c, rest) := by
  obtain ⟨b, rs, bs, hc, hrs, hf, hs⟩ := exists_tails c
  refine ⟨b, bs, hc, ?_⟩
  simp only [step, hrs, fit_of_fits hf, hs]

theorem eq_of_step {left : Bytes} (h : step b bs = (some c, left)) :
    b :: bs = String.utf8EncodeChar c ++ left := by
  rw [step] at h
  split at h
  · cases h
  · rename_i rs hrs
    split at h
    · rename_i taken left' hfit
      obtain ⟨rfl, rfl⟩ : scalar b taken = c ∧ left' = left := by simpa using h
      obtain ⟨hbs, hf⟩ := fits_of_fit hfit
      rw [encodeChar_scalar (encoded_iff.mpr ⟨rs, hrs, hf⟩), hbs, List.cons_append]
    · cases h

theorem not_begins_of_tails (h : tails b = none) : ¬ Begins (b :: p) := by
  intro hb
  obtain ⟨rs, t, hrs, -⟩ := tails_of_begins hb
  rw [h] at hrs
  cases hrs

theorem length_le_of_begins {before after : List (UInt8 × UInt8)} {r : UInt8 × UInt8}
    (h : tails b = some (before ++ r :: after)) (hf : Fits before t)
    (hnext : ∀ x ∈ rest.head?, ¬ (r.1 ≤ x ∧ x ≤ r.2)) (hq : q <+: b :: t ++ rest)
    (hb : Begins q) : q.length ≤ (b :: t).length := by
  by_contra hlong
  -- a longer beginning would put the next byte in the range that it is outside of
  obtain ⟨s, rfl⟩ : b :: t <+: q :=
    List.prefix_of_prefix_length_le (List.prefix_append _ _) hq (by omega)
  obtain _ | ⟨x, s⟩ := s
  · simp at hlong
  · obtain ⟨u, rfl⟩ : x :: s <+: rest := (List.prefix_append_right_inj _).mp hq
    rw [List.cons_append] at hb
    obtain ⟨rs, v, hrs, hall⟩ := tails_of_begins hb
    obtain rfl : before ++ r :: after = rs := Option.some.inj (h.symm.trans hrs)
    rw [List.append_assoc] at hall
    have hdrop := List.forall₂_drop_append _ _ _ hall
    rw [List.drop_left' hf.length_eq] at hdrop
    obtain _ | ⟨hx, -⟩ := hdrop
    exact hnext x rfl hx

theorem illFormed_of_step {left : Bytes} (h : step b bs = (none, left)) :
    ∃ p, b :: bs = p ++ left ∧ IllFormed p left := by
  rw [step] at h
  split at h
  · rename_i hrs
    obtain rfl : bs = left := by simpa using h
    refine ⟨[b], rfl, ?_, List.cons_ne_nil b [], Or.inr rfl, ?_⟩
    · rintro c ⟨t, ht⟩
      obtain ⟨b', rs, bs, hc, hrs', -⟩ := exists_tails c
      obtain ⟨rfl, -⟩ : b' = b ∧ _ := by simpa [hc] using ht
      rw [hrs] at hrs'
      cases hrs'
    · intro q hq hb
      obtain _ | ⟨x, q⟩ := q
      · exact Nat.zero_le _
      · obtain ⟨t, ht⟩ := hq
        obtain ⟨rfl, -⟩ : x = b ∧ _ := by simpa using ht
        exact absurd hb (not_begins_of_tails hrs)
  · rename_i rs hrs
    split at h
    · cases h
    · rename_i taken left' hfit
      obtain rfl : left' = left := by simpa using h
      obtain ⟨rfl, before, r, after, rfl, hf, hnext⟩ := stops_of_fit hfit
      have hmaximal := fun q hq hb => length_le_of_begins (q := q) hrs hf hnext hq hb
      refine ⟨b :: taken, rfl, ?_, List.cons_ne_nil b taken, Or.inl (begins_of_fits hrs hf),
        hmaximal⟩
      intro c hc
      have hle := hmaximal _ hc (begins_encodeChar c)
      obtain ⟨b', rs, bs, he, hrs', hf', -⟩ := exists_tails c
      rw [he] at hc hle
      obtain ⟨t, ht⟩ := hc
      obtain ⟨rfl, -⟩ : b' = b ∧ _ := by simpa using ht
      obtain rfl : before ++ r :: after = rs := Option.some.inj (hrs.symm.trans hrs')
      have hlength := hf'.length_eq
      have htaken := hf.length_eq
      simp only [List.length_append, List.length_cons] at hlength hle
      omega

theorem IllFormed.unique {p' rest' : Bytes} (h : IllFormed p rest) (h' : IllFormed p' rest')
    (he : p ++ rest = p' ++ rest') : p = p' := by
  have hlength : ∀ {p p' rest rest' : Bytes}, IllFormed p rest → IllFormed p' rest' →
      p ++ rest = p' ++ rest' → p.length ≤ p'.length := by
    intro p p' rest rest' h h' he
    rcases h.begins with hb | hone
    · exact h'.maximal p (he ▸ List.prefix_append p rest) hb
    · rw [hone]
      exact List.length_pos_iff.mpr h'.nonempty
  have hle := hlength h h' he
  have hge := hlength h' h he.symm
  exact (List.append_inj he (by omega)).1

theorem step_illFormed (h : IllFormed (b :: p) rest) : step b (p ++ rest) = (none, rest) := by
  rcases hs : step b (p ++ rest) with ⟨- | c, left⟩
  · obtain ⟨p', he, h'⟩ := illFormed_of_step hs
    obtain rfl := h.unique h' he
    have hrest : p ++ rest = p ++ left := (List.cons.inj he).2
    rw [List.append_cancel_left hrest]
  · exact absurd ⟨left, (eq_of_step hs).symm⟩ (h.no_character c)

/-! ## All bytes -/

theorem lossyOnto_append (acc before : List Char) (bs : Bytes) :
    lossyOnto (acc ++ before) bs = before.reverse ++ lossyOnto acc bs := by
  induction acc, bs using lossyOnto.induct with
  | case1 acc => simp [lossyOnto]
  | case2 acc b bs ih => rw [lossyOnto, lossyOnto, ← List.cons_append, ih]

theorem strictOnto_append (acc before : List Char) (bs : Bytes) :
    strictOnto (acc ++ before) bs = (strictOnto acc bs).map (before.reverse ++ ·) := by
  induction acc, bs using strictOnto.induct with
  | case1 acc => simp [strictOnto]
  | case2 acc b bs h => simp only [strictOnto, h, Option.map_none]
  | case3 acc b bs c h ih =>
    simp only [strictOnto, h]
    rw [← List.cons_append, ih]

theorem lossy_cons (b : UInt8) (bs : Bytes) :
    lossy (b :: bs) = (step b bs).1.getD replacement :: lossy (step b bs).2 := by
  have h := lossyOnto_append [] [(step b bs).1.getD replacement] (step b bs).2
  rw [lossy, lossyOnto]
  exact h

theorem strict_cons (b : UInt8) (bs : Bytes) :
    strict (b :: bs) = (step b bs).1.bind fun c => (strict (step b bs).2).map (c :: ·) := by
  rw [strict, strictOnto]
  cases h : (step b bs).1 with
  | none => rfl
  | some c => exact strictOnto_append [] [c] (step b bs).2

theorem lossy_encodeChar_append (c : Char) (bs : Bytes) :
    lossy (String.utf8EncodeChar c ++ bs) = c :: lossy bs := by
  obtain ⟨b, t, hc, hs⟩ := step_encodeChar c bs
  rw [hc, List.cons_append, lossy_cons, hs]
  rfl

theorem lossy_illFormed_append (h : IllFormed p rest) :
    lossy (p ++ rest) = replacement :: lossy rest := by
  obtain ⟨b, p, rfl⟩ := List.exists_cons_of_ne_nil h.nonempty
  rw [List.cons_append, lossy_cons, step_illFormed h]
  rfl

theorem lossy_nil : lossy [] = [] := by simp [lossy, lossyOnto]

theorem encode_cons (c : Char) (cs : List Char) :
    encode (c :: cs) = String.utf8EncodeChar c ++ encode cs :=
  List.flatMap_cons

theorem lossy_encode_append (cs : List Char) (bs : Bytes) :
    lossy (encode cs ++ bs) = cs ++ lossy bs := by
  induction cs with
  | nil => rfl
  | cons c cs ih =>
    rw [encode_cons, List.append_assoc, lossy_encodeChar_append, ih, List.cons_append]

theorem strict_encode (cs : List Char) : strict (encode cs) = some cs := by
  induction cs with
  | nil => simp [encode, strict, strictOnto]
  | cons c cs ih =>
    obtain ⟨b, t, hc, hs⟩ := step_encodeChar c (encode cs)
    rw [encode_cons, hc, List.cons_append, strict_cons, hs]
    simp only [Option.bind_some, ih, Option.map_some]

theorem encode_of_strict {cs : List Char} (h : strict bs = some cs) : bs = encode cs := by
  induction hn : bs.length using Nat.strongRecOn generalizing bs cs with
  | ind n ih =>
    subst hn
    cases bs with
    | nil =>
      obtain rfl : [] = cs := by simpa [strict, strictOnto] using h
      rfl
    | cons b bs =>
      have hle := step_length_le b bs
      rw [strict_cons] at h
      obtain ⟨c, hc, h⟩ := Option.bind_eq_some_iff.mp h
      obtain ⟨ds, hds, rfl⟩ := Option.map_eq_some_iff.mp h
      have hrest := ih _ (Nat.lt_succ_of_le hle) hds rfl
      rw [encode_cons, ← hrest]
      exact eq_of_step (Prod.ext hc rfl)

theorem lossy_encode (cs : List Char) : lossy (encode cs) = cs := by
  have h := lossy_encode_append cs []
  rwa [List.append_nil, lossy_nil, List.append_nil] at h

theorem decode_eq_lossy (bs : Bytes) : decode bs = String.ofList (lossy bs) := by
  rw [decode]
  split
  · rename_i cs h
    rw [encode_of_strict h, lossy_encode]
  · rfl

/-- What bytes stand for: a character for its encoding, and one replacement for each maximal
ill-formed piece. -/
inductive Decodes : Bytes → List Char → Prop
  | nil : Decodes [] []
  | character {bs : Bytes} {cs : List Char} (c : Char) : Decodes bs cs →
    Decodes (String.utf8EncodeChar c ++ bs) (c :: cs)
  | piece {p bs : Bytes} {cs : List Char} : IllFormed p bs → Decodes bs cs →
    Decodes (p ++ bs) ('\uFFFD' :: cs)

theorem decodes_lossy (bs : Bytes) : Decodes bs (lossy bs) := by
  induction hn : bs.length using Nat.strongRecOn generalizing bs with
  | ind n ih =>
    subst hn
    cases bs with
    | nil =>
      rw [lossy_nil]
      exact .nil
    | cons b bs =>
      have hle := step_length_le b bs
      have hrest := ih _ (Nat.lt_succ_of_le hle) _ rfl
      rw [lossy_cons]
      rcases hs : step b bs with ⟨- | c, left⟩
      · rw [hs] at hrest
        obtain ⟨p, he, hp⟩ := illFormed_of_step hs
        rw [he]
        exact .piece hp hrest
      · rw [hs] at hrest
        rw [eq_of_step hs]
        exact .character c hrest

theorem decodes_iff {cs : List Char} : Decodes bs cs ↔ lossy bs = cs := by
  constructor
  · intro h
    induction h with
    | nil => exact lossy_nil
    | character c _ ih => rw [lossy_encodeChar_append, ih]
    | piece hp _ ih =>
      rw [lossy_illFormed_append hp, ih]
      rfl
  · rintro rfl
    exact decodes_lossy bs

/-- What decoding makes of bytes, alone, behind valid ones and behind an ill-formed piece. -/
structure Faithful (bs : Bytes) : Prop where
  exact : ∀ text, decode bs = text ↔ Decodes bs text.toList
  valid : ∀ cs, bs = encode cs → decode bs = String.ofList cs
  behind : ∀ cs, decode (encode cs ++ bs) = String.ofList cs ++ decode bs
  replaced : ∀ p, IllFormed p bs → decode (p ++ bs) = "\uFFFD" ++ decode bs
  accepted : ∀ cs, strict bs = some cs ↔ bs = encode cs
  agrees : ∀ cs, strict bs = some cs → lossy bs = cs

/-- Bytes are decoded to one text whatever they are: valid ones to what they encode, and each
maximal ill-formed piece to one replacement with everything around it kept. -/
theorem decode_faithful (bs : Bytes) : Faithful bs where
  exact text := by
    rw [decode_eq_lossy, decodes_iff, ← String.toList_inj, String.toList_ofList]
  valid cs h := by rw [h, decode_eq_lossy, lossy_encode]
  behind cs := by
    rw [decode_eq_lossy, decode_eq_lossy, lossy_encode_append, String.ofList_append]
  replaced p h := by
    rw [decode_eq_lossy, decode_eq_lossy, lossy_illFormed_append h]
    have hsplit : replacement :: lossy bs = ['\uFFFD'] ++ lossy bs := rfl
    rw [hsplit, String.ofList_append]
  accepted cs := ⟨encode_of_strict, fun h => h ▸ strict_encode cs⟩
  agrees cs h := by rw [encode_of_strict h, lossy_encode]

end TreeTool.Text.Utf8
