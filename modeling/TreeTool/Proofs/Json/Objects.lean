import Mathlib.Data.List.DropRight
import TreeTool.Proofs.Document.Names
import TreeTool.Proofs.Json.Documents

/-!
# Objects with given members

An object is laid out from the names of its members and the texts of their values. What a reader of
a wanted type takes off the front is one value, so it ends where the reader of any value ends; this
is what keeps the readers of an object in step with its text, whatever its values are.
-/

namespace TreeTool.Json

open Document (Named)
open Number (Written greatestWord)

def ReadsAs (v : Value) (cs : List Char) : Prop :=
  ∀ rest n, Apart rest → 2 * (cs ++ rest).length < n → anyValue n (cs ++ rest) = .ok (v, rest)

def TakesValue {α : Type} (reader : Reader α) : Prop :=
  ∀ {cs rest : List Char} {a : α} (n : Nat), reader cs = .ok (a, rest) →
    ∃ v, anyValue (n + 3) cs = .ok (v, rest)

inductive LaysMembers : List (String × List Char) → List Char → Prop
  | last {name : String} {value before key between gap after : List Char} :
    Gap before → StringText name key → Gap between → Gap gap → Gap after →
    LaysMembers [(name, value)]
      (before ++ (key ++ (between ++ ':' :: (gap ++ (value ++ (after ++ ['\x7d']))))))
  | more {name : String} {value before key between gap after cs : List Char}
    {rows : List (String × List Char)} :
    Gap before → StringText name key → Gap between → Gap gap → Gap after → LaysMembers rows cs →
    LaysMembers ((name, value) :: rows)
      (before ++ (key ++ (between ++ ':' :: (gap ++ (value ++ (after ++ ',' :: cs))))))

/-- The objects with the given members. -/
inductive Lays : List (String × List Char) → List Char → Prop
  | empty {before gap after : List Char} : Gap before → Gap gap → Gap after →
    Lays [] (before ++ '\x7b' :: (gap ++ '\x7d' :: after))
  | members {rows : List (String × List Char)} {before cs after : List Char} :
    Gap before → LaysMembers rows cs → Gap after → Lays rows (before ++ '\x7b' :: (cs ++ after))

variable {α : Type} {s : String} {v : Value} {ms : List (String × Value)}
  {cs ds gap rest : List Char} {n : Nat}

theorem Spells.readsAs (h : Spells v cs) : ReadsAs v cs := by
  intro rest n hr hn
  rw [List.length_append] at hn
  exact (reads n).value rest h (by omega) hr

theorem LaysMembers.of_spells (h : SpellsMembers ms cs) :
    ∃ rows, LaysMembers rows cs ∧
      List.Forall₂ (fun row m => row.1 = m.1 ∧ Spells m.2 row.2) rows ms := by
  induction ms generalizing cs with
  | nil => cases h
  | cons m ms ih =>
    cases h with
    | @last k v before gap cs after hb hg hv ha =>
      exact ⟨[(k, cs)], .last hb (stringText_quote k) .nil hg ha, .cons ⟨rfl, hv⟩ .nil⟩
    | @more k v _ before gap cs after ds hb hg hv ha hms =>
      obtain ⟨rows, hrows, hread⟩ := ih hms
      exact ⟨(k, cs) :: rows, .more hb (stringText_quote k) .nil hg ha hrows,
        .cons ⟨rfl, hv⟩ hread⟩

theorem exists_lays (rows : List (String × List Char)) : ∃ cs, Lays rows cs := by
  cases rows with
  | nil => exact ⟨_, .empty .nil .nil .nil⟩
  | cons row rows =>
    have hmembers : ∃ cs, LaysMembers (row :: rows) cs := by
      induction rows generalizing row with
      | nil => exact ⟨_, .last .nil (stringText_quote row.1) .nil .nil .nil⟩
      | cons next rows ih =>
        obtain ⟨cs, hcs⟩ := ih next
        exact ⟨_, .more .nil (stringText_quote row.1) .nil .nil .nil hcs⟩
    obtain ⟨cs, hcs⟩ := hmembers
    exact ⟨_, .members .nil hcs .nil⟩

/-! ## Values of a wanted type -/

theorem bind_eq_ok {α β ε : Type} {m : Except ε α} {k : α → Except ε β} {b : β}
    (h : m >>= k = .ok b) : ∃ a, m = .ok a ∧ k a = .ok b := by
  cases m with
  | error x => cases h
  | ok a => exact ⟨a, rfl, h⟩

theorem map_eq_ok {α β ε : Type} {m : Except ε α} {f : α → β} {b : β} (h : m.map f = .ok b) :
    ∃ a, m = .ok a ∧ f a = b := by
  cases m with
  | error x => cases h
  | ok a => exact ⟨a, rfl, Except.ok.inj h⟩

theorem anyValue_skipBlank (n : Nat) (cs : List Char) :
    anyValue (n + 1) (skipBlank cs) = anyValue (n + 1) cs := by
  have hskip : skipBlank (skipBlank cs) = skipBlank cs := List.dropWhile_idempotent _ _
  rw [anyValue, anyValue, hskip]

theorem text_stringText (h : StringText s cs) (rest : List Char) :
    text (cs ++ rest) = .ok (s, rest) := by
  obtain ⟨body, hcs, hread⟩ := h.read rest
  rw [hcs, text, skipBlank_cons (by decide)]
  exact hread

theorem anyValue_of_text (h : text cs = .ok (s, rest)) (n : Nat) :
    anyValue (n + 1) cs = .ok (.text s, rest) := by
  obtain ⟨r, hcs, hr⟩ := exists_of_text h
  rw [anyValue, hcs]
  simp only [hr, Except.map]

theorem takesValue_text : TakesValue text := fun _ h => ⟨_, anyValue_of_text h _⟩

theorem StringText.readsAs (h : StringText s cs) : ReadsAs (.text s) cs := by
  intro rest n _ hn
  obtain ⟨n, rfl⟩ : ∃ m, n = m + 1 := ⟨n - 1, by omega⟩
  exact anyValue_of_text (text_stringText h rest) n

theorem word_written (h : Written ds n) (hn : n ≤ greatestWord) (hr : Apart rest) :
    word (ds ++ rest) = .ok (n, rest) := by
  have hread := unsignedNumeral_written false h hn hr
  have hmantissa : (⟨false, ds, [], none⟩ : Numeral).mantissa.natAbs = n := by
    simp [Numeral.mantissa, h.value]
  obtain ⟨c, cs, rfl, hc⟩ := h.opens
  have hno : c ≠ '-' := Number.ne_of_isDigit hc (by decide)
  rw [List.cons_append] at hread ⊢
  rw [word, skipBlank_cons (isBlank_of_isDigit hc)]
  split
  · rename_i heq
    exact absurd (List.cons.inj heq).1 hno
  · rw [if_pos (by exact hc), hread]
    simp only [hmantissa, Numeral.isInteger]
    simp [hn]

theorem takesValue_word : TakesValue word := by
  intro cs rest m n h
  rw [word] at h
  rw [← anyValue_skipBlank]
  split at h
  · split at h <;> cases h
  · split at h
    · rename_i hdigit
      obtain ⟨c, r, hcs, hc⟩ : ∃ c r, skipBlank cs = c :: r ∧ Number.isDigit c := by
        cases hcs : skipBlank cs with
        | nil =>
          rw [hcs] at hdigit
          cases hdigit
        | cons c r => exact ⟨c, r, rfl, by rwa [hcs] at hdigit⟩
      rw [hcs] at h ⊢
      rw [anyValue_of_digit hc]
      cases hread : unsignedNumeral false (c :: r) with
      | error f =>
        rw [hread] at h
        cases h
      | ok read =>
        obtain ⟨x, r'⟩ := read
        simp only [hread] at h
        split at h
        · obtain ⟨-, rfl⟩ := Prod.mk.inj (Except.ok.inj h)
          exact ⟨_, rfl⟩
        · cases h
    · cases h

theorem readsAs_digits (h : Written cs n) (hn : n ≤ greatestWord) : ReadsAs (.number n 0) cs := by
  intro rest m hr hm
  obtain ⟨m, rfl⟩ : ∃ k, m = k + 1 := ⟨m - 1, by omega⟩
  exact anyValue_digits m h hn hr

theorem anyValue_of_null {r : List Char} (hcs : skipBlank cs = 'n' :: r)
    (h : keyword "ull".toList r = .ok rest) (n : Nat) :
    anyValue (n + 1) cs = .ok (.null, rest) := by
  rw [anyValue, hcs]
  simp only [h, Except.map]

theorem takesValue_optional {reader : Reader α} (h : TakesValue reader) :
    TakesValue (optional reader) := by
  intro cs rest a n ho
  rw [optional] at ho
  split at ho
  · rename_i r hcs
    obtain ⟨r', hr, heq⟩ := map_eq_ok ho
    obtain ⟨-, rfl⟩ := Prod.mk.inj heq
    exact ⟨_, anyValue_of_null hcs hr _⟩
  · obtain ⟨⟨b, r'⟩, hr, heq⟩ := map_eq_ok ho
    obtain ⟨-, rfl⟩ := Prod.mk.inj heq
    rw [← anyValue_skipBlank]
    exact h n hr

theorem exists_of_null {u : Unit} (h : null cs = .ok (u, rest)) :
    ∃ r, skipBlank cs = 'n' :: r ∧ keyword "ull".toList r = .ok rest := by
  rw [null] at h
  split at h
  · rename_i r hcs
    obtain ⟨r', hr, heq⟩ := map_eq_ok h
    obtain ⟨-, rfl⟩ := Prod.mk.inj heq
    exact ⟨r, hcs, hr⟩
  · cases h

theorem colon_eq_ok (h : colon cs = .ok rest) : skipBlank cs = ':' :: rest := by
  rw [colon] at h
  split at h
  · cases h
  · rename_i hcs
    rw [hcs, Except.ok.inj h]
  · cases h

theorem takesValue_named [Named α] : TakesValue (named (α := α)) := by
  intro cs rest a n h
  rw [named] at h
  split at h
  · cases h
  · rename_i r hcs
    obtain ⟨⟨name, r'⟩, hname, h⟩ := bind_eq_ok h
    obtain ⟨b, -, h⟩ := bind_eq_ok h
    obtain ⟨-, rfl⟩ := Prod.mk.inj (Except.ok.inj h)
    have htext : text cs = .ok (name, r') := by
      rw [text, hcs]
      exact hname
    exact ⟨_, anyValue_of_text htext _⟩
  · rename_i r hcs
    obtain ⟨⟨name, r1⟩, hname, h⟩ := bind_eq_ok h
    obtain ⟨b, -, h⟩ := bind_eq_ok h
    obtain ⟨r2, hcolon, h⟩ := bind_eq_ok h
    obtain ⟨⟨u, r3⟩, hnull, h⟩ := bind_eq_ok h
    obtain ⟨r0, hr, hkey⟩ := exists_of_text hname
    obtain ⟨r4, hr2, hword⟩ := exists_of_null hnull
    have hclose : skipBlank r3 = '\x7d' :: rest := by
      dsimp only at h
      split at h
      · cases h
      · rename_i heq
        obtain ⟨-, rfl⟩ := Prod.mk.inj (Except.ok.inj h)
        exact heq
      · cases h
    have hmember : members (n + 2) ('"' :: r0) = .ok ([(name, .null)], rest) := by
      rw [members, skipBlank_cons (by decide)]
      simp only [hkey, colon_eq_ok hcolon, anyValue_of_null hr2 hword, hclose]
    refine ⟨.object [(name, .null)], ?_⟩
    rw [anyValue, hcs]
    simp only [hr]
    exact congrArg (Except.map fun read => (Value.object read.1, read.2)) hmember
  · cases h

theorem named_stringText [Named α] {name : String} {a : α} (h : StringText name cs)
    (ha : (Named.table (α := α)).lookup name = some a) (rest : List Char) :
    named (cs ++ rest) = .ok (a, rest) := by
  rw [named_of_text (text_stringText h rest), variantOf_eq_ok_iff.mpr ha]
  rfl

end TreeTool.Json
