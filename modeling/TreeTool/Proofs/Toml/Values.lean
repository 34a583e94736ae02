import TreeTool.Proofs.Json.Numbers
import TreeTool.Proofs.Toml.Strings

/-!
# Values in TOML text

The text of a value is judged together with what ends its line, so that a reader cannot run on into
a comment or take a number for the beginning of a date. Strings and whole numbers are read back
however their lines end.
-/

namespace TreeTool.Toml

open Number (Written isDigit)

def Gap (cs : List Char) : Prop := ∀ c ∈ cs, isBlank c

inductive Margin : List Char → Prop
  | blank {gap : List Char} : Gap gap → Margin gap
  | comment {gap cs : List Char} : Gap gap → (∀ c ∈ cs, isPlain c) → Margin (gap ++ '#' :: cs)

def NewLine (cs : List Char) : Prop := cs = ['\n'] ∨ cs = ['\r', '\n']

/-- The end of a line, with the lines after it: there are none, or a new line begins. -/
inductive Ends : List Char → List Char → Prop
  | last {margin : List Char} : Margin margin → Ends margin []
  | line {margin mark rest : List Char} : Margin margin → NewLine mark →
    Ends (margin ++ (mark ++ rest)) rest

/-- A text is read as a value whatever ends its line. -/
def ReadsAs (v : Node) (cs : List Char) : Prop :=
  ∀ after rest n, Ends after rest → 2 * (cs ++ after).length < n →
    value greatestDepth n (skipBlank (cs ++ after)) = some (v, after)

variable {v : Node} {gap margin mark after rest cs ds : List Char} {n : Nat}

/-! ## Ends of lines -/

theorem skipBlank_append (h : Gap gap) (cs : List Char) : skipBlank (gap ++ cs) = skipBlank cs :=
  List.dropWhile_append_of_pos h

theorem skipBlank_cons {c : Char} (h : isBlank c = false) (cs : List Char) :
    skipBlank (c :: cs) = c :: cs := by
  have hc : ¬ isBlank c := by simp [h]
  exact List.dropWhile_cons_of_neg hc

theorem skipBlank_gap (h : Gap gap) : skipBlank gap = [] := by
  have hskip := skipBlank_append h []
  rwa [List.append_nil] at hskip

theorem lineEnd?_mark (h : NewLine mark) (rest : List Char) :
    lineEnd? (mark ++ rest) = some rest := by
  rcases h with rfl | rfl <;> rfl

theorem NewLine.head (h : NewLine mark) (rest : List Char) :
    ∃ c cs, mark ++ rest = c :: cs ∧ isBlank c = false ∧ isPlain c = false := by
  rcases h with rfl | rfl
  · exact ⟨_, _, rfl, by decide, by decide⟩
  · exact ⟨_, _, rfl, by decide, by decide⟩

theorem trailing_margin (hm : Margin margin) (tail : List Char)
    (ht : ∀ c ∈ tail.head?, isBlank c = false ∧ isPlain c = false) :
    trailing (margin ++ tail) = if tail.isEmpty then some [] else lineEnd? tail := by
  cases hm with
  | blank hg =>
    have hskip : skipBlank tail = tail :=
      (Text.span_append (a := []) (by simp) fun c hc => (ht c hc).1).2
    rw [trailing, skipBlank_append hg, hskip]
    split
    · exact absurd (ht '#' rfl).2 (by decide)
    · rfl
  | @comment gap cs hg hc =>
    have hdrop : (cs ++ tail).dropWhile isPlain = tail :=
      (Text.span_append hc fun c hc => (ht c hc).2).2
    rw [trailing, List.append_assoc, skipBlank_append hg, List.cons_append,
      skipBlank_cons (by decide)]
    simp only [hdrop]

theorem trailing_of_ends (h : Ends after rest) : trailing after = some rest := by
  cases h with
  | last hm =>
    have hread := trailing_margin hm [] (by simp)
    rwa [List.append_nil] at hread
  | @line margin mark rest hm he =>
    obtain ⟨c, cs, hmark, hb, hp⟩ := he.head rest
    rw [trailing_margin hm (mark ++ rest), lineEnd?_mark he, hmark]
    · rfl
    · rw [hmark]
      rintro d ⟨⟩
      exact ⟨hb, hp⟩

theorem Margin.head (h : Margin margin) (tail : List Char) :
    ∀ c ∈ (margin ++ tail).head?, isBlank c ∨ c = '#' ∨ c ∈ tail.head? := by
  intro c hc
  cases h with
  | blank hg =>
    cases margin with
    | nil => exact Or.inr (Or.inr hc)
    | cons b gap =>
      cases hc
      exact Or.inl (hg c List.mem_cons_self)
  | @comment gap cs hg _ =>
    cases gap with
    | nil =>
      cases hc
      exact Or.inr (Or.inl rfl)
    | cons b gap =>
      cases hc
      exact Or.inl (hg c List.mem_cons_self)

def endMarks : List Char := [' ', '\t', '#', '\n', '\r']

theorem forall_endMarks {p : Char → Prop} (h : p ' ' ∧ p '\t' ∧ p '#' ∧ p '\n' ∧ p '\r') :
    ∀ c ∈ endMarks, p c := by
  simpa [endMarks] using h

theorem Ends.head (h : Ends after rest) : ∀ c ∈ after.head?, c ∈ endMarks := by
  have hmargin : ∀ {margin : List Char} (tail : List Char), Margin margin →
      (∀ c ∈ tail.head?, c ∈ endMarks) → ∀ c ∈ (margin ++ tail).head?, c ∈ endMarks := by
    intro margin tail hm ht c hc
    rcases hm.head tail c hc with hb | rfl | hc
    · have hblank : c = ' ' ∨ c = '\t' := by simpa [isBlank] using hb
      rcases hblank with rfl | rfl <;> decide
    · decide
    · exact ht c hc
  cases h with
  | last hm =>
    have hlast := hmargin [] hm nofun
    rwa [List.append_nil] at hlast
  | line hm he =>
    refine hmargin _ hm ?_
    rcases he with rfl | rfl <;>
    · rintro c ⟨⟩
      decide

theorem Ends.length_lt (h : Ends after rest) : rest.length < after.length ∨ rest = [] := by
  cases h with
  | last => exact Or.inr rfl
  | line hm he =>
    refine Or.inl ?_
    rcases he with rfl | rfl
    all_goals
      simp only [List.length_append, List.length_cons]
      omega

/-! ## Values -/

theorem head?_of_digits {m : Nat} {r : List Char} (hd : ∀ c ∈ ds, isDigit c)
    (hr : ∀ c ∈ after.head?, isDigit c = false) (h : digits n (ds ++ after) = some (m, r)) :
    ∀ c ∈ r.head?, isDigit c ∨ c ∈ after.head? := by
  intro c hc
  rw [digits] at h
  split at h
  · rename_i htake
    obtain ⟨hlen, hall⟩ := Bool.and_eq_true_iff.mp htake
    obtain ⟨-, rfl⟩ := Prod.mk.inj (Option.some.inj h)
    have hle : n ≤ ds.length := by
      -- otherwise the digits that were counted reach into what follows
      by_contra hlt
      obtain ⟨k, hk⟩ : ∃ k, n = ds.length + (k + 1) := ⟨n - ds.length - 1, by omega⟩
      rw [hk, List.take_length_add_append] at hlen hall
      cases after with
      | nil => simp at hlen
      | cons d after =>
        have hdigit : isDigit d := by simp at hall; exact hall.2.1
        rw [hr d rfl] at hdigit
        cases hdigit
    rw [List.drop_append_of_le_length hle] at hc
    cases hdrop : ds.drop n with
    | nil => exact Or.inr (by rwa [hdrop] at hc)
    | cons d ds' =>
      rw [hdrop] at hc
      cases hc
      exact Or.inl (hd c (List.mem_of_mem_drop (hdrop ▸ List.mem_cons_self)))
  · cases h

theorem looksLikeDate_digits (hd : ∀ c ∈ ds, isDigit c)
    (hr : ∀ c ∈ after.head?, isDigit c = false ∧ c ≠ '-' ∧ c ≠ ':') :
    looksLikeDate (ds ++ after) = false := by
  have hno : ∀ (n : Nat) (c : Char), isDigit c = false → c ∉ after.head? →
      (digits n (ds ++ after)).any (fun read => read.2.head? == some c) = false := by
    intro n c hc hno
    cases hread : digits n (ds ++ after) with
    | none => rfl
    | some read =>
      obtain ⟨m, r⟩ := read
      rw [Option.any_some, beq_eq_false_iff_ne]
      intro hr'
      rcases head?_of_digits hd (fun c hc => (hr c hc).1) hread c hr' with h | h
      · rw [hc] at h
        cases h
      · exact hno h
  rw [looksLikeDate, hno 4 '-' (by decide) fun h => (hr _ h).2.1 rfl,
    hno 2 ':' (by decide) fun h => (hr _ h).2.2 rfl]
  rfl

theorem underscored_digits (hne : ds ≠ []) (hd : ∀ c ∈ ds, isDigit c)
    (hr : ∀ c ∈ after.head?, isDigit c = false ∧ c ≠ '_') :
    underscored isDigit (ds ++ after) = some (ds, after) := by
  induction ds with
  | nil => exact absurd rfl hne
  | cons c ds ih =>
    obtain ⟨hc, hds⟩ := List.forall_mem_cons.mp hd
    rw [List.cons_append, underscored.eq_def]
    cases ds with
    | nil =>
      cases after with
      | nil => simp [hc]
      | cons d after =>
        obtain ⟨hdigit, hmark⟩ := hr d rfl
        simp [hc, hdigit]
    | cons d ds =>
      have hdigit : isDigit d := hds d List.mem_cons_self
      have hmark : d ≠ '_' := Number.ne_of_isDigit hdigit (by decide)
      have hmore := ih (List.cons_ne_nil d ds) hds
      rw [List.cons_append] at hmore ⊢
      simp [hc, hdigit, hmore]

theorem wholeDigits_written (h : Written ds n)
    (hr : ∀ c ∈ after.head?, isDigit c = false ∧ c ≠ '_') :
    wholeDigits (ds ++ after) = some (ds, after) := by
  rcases h.head with rfl | ⟨c, cs, rfl, hne⟩
  · rfl
  · rw [← underscored_digits (List.cons_ne_nil c cs) h.digits hr, List.cons_append]
    simp [wholeDigits, hne]

theorem number_written (h : Written ds n) (hn : n < 2 ^ 63)
    (hr : ∀ c ∈ after.head?, c ∈ endMarks) :
    number (ds ++ after) = some (.integer n, after) := by
  have hmarks : ∀ c ∈ endMarks, isDigit c = false ∧ c ≠ '_' := forall_endMarks (by decide)
  have hwhole := wholeDigits_written h fun c hc => hmarks c (hr c hc)
  have hrange : Number.isInteger n := by
    have hleast : Number.leastInteger ≤ n := by
      rw [Number.leastInteger]
      omega
    have hgreatest : (n : Int) ≤ Number.greatestInteger := by
      rw [Number.greatestInteger]
      omega
    rw [Number.isInteger, decide_eq_true hleast, decide_eq_true hgreatest]
    rfl
  obtain ⟨c, cs, rfl, hc⟩ := h.opens
  have hno : ∀ d, isDigit d = false → c ≠ d := fun d => Number.ne_of_isDigit hc
  have hsign : sign (c :: cs ++ after) = (false, c :: cs ++ after) := by
    simp [sign, hno '+' (by decide), hno '-' (by decide)]
  rw [number, hsign]
  dsimp only
  split
  · rename_i heq
    exact absurd (List.cons.inj heq).1 (hno 'i' (by decide))
  · rename_i heq
    exact absurd (List.cons.inj heq).1 (hno 'n' (by decide))
  · rw [hwhole]
    simp only [Option.bind_eq_bind, Option.bind_some]
    split
    · exact absurd (hr '.' rfl) (by decide)
    · exact absurd (hr 'e' rfl) (by decide)
    · exact absurd (hr 'E' rfl) (by decide)
    · simp [inRange, h.value, hrange]

theorem value_of_digit {c : Char} (hc : isDigit c) (depth n : Nat) (cs : List Char) :
    value depth (n + 1) (c :: cs) = numberOrDate (c :: cs) := by
  have hno : ∀ d, isDigit d = false → c ≠ d := fun d => Number.ne_of_isDigit hc
  have hmark : c ≠ '"' ∧ c ≠ '\'' ∧ c ≠ '[' ∧ c ≠ '\x7b' :=
    ⟨hno _ (by decide), hno _ (by decide), hno _ (by decide), hno _ (by decide)⟩
  have hword : c ≠ 't' ∧ c ≠ 'f' := ⟨hno _ (by decide), hno _ (by decide)⟩
  rw [value.eq_def]
  split <;> simp_all

theorem numberOrDate_written (h : Written ds n) (hn : n < 2 ^ 63)
    (hr : ∀ c ∈ after.head?, c ∈ endMarks) :
    numberOrDate (ds ++ after) = some (.integer n, after) := by
  have hmarks : ∀ c ∈ endMarks, isDigit c = false ∧ c ≠ '-' ∧ c ≠ ':' :=
    forall_endMarks (by decide)
  have hdate := looksLikeDate_digits h.digits fun c hc => hmarks c (hr c hc)
  have hletter : ∀ {c : Char} {cs : List Char}, isDigit c = false → c ∉ endMarks →
      ds ++ after ≠ '0' :: c :: cs := by
    intro c cs hc hm heq
    rcases h.head with rfl | ⟨d, ds, rfl, hne⟩
    · obtain rfl : after = c :: cs := (List.cons.inj heq).2
      exact hm (hr c rfl)
    · exact hne (List.cons.inj heq).1
  rw [numberOrDate, hdate, if_neg Bool.false_ne_true]
  · exact number_written h hn hr
  · exact fun _ => hletter (by decide) (by decide)
  · exact fun _ => hletter (by decide) (by decide)
  · exact fun _ => hletter (by decide) (by decide)

theorem reads_integer (h : Written ds n) (hn : n < 2 ^ 63) : ReadsAs (.integer n) ds := by
  intro after rest fuel hafter hfuel
  obtain ⟨fuel, rfl⟩ : ∃ m, fuel = m + 1 := ⟨fuel - 1, by omega⟩
  have hread := numberOrDate_written h hn hafter.head
  obtain ⟨c, cs, rfl, hc⟩ := h.opens
  have hno : ∀ d, isDigit d = false → c ≠ d := fun d => Number.ne_of_isDigit hc
  have hblank : isBlank c = false := by
    simp [isBlank, hno ' ' (by decide), hno '\t' (by decide)]
  rw [List.cons_append] at hread ⊢
  rw [skipBlank_cons hblank, value_of_digit hc, hread]

theorem reads_text {s : String} (h : BasicString s cs) : ReadsAs (.text s) cs := by
  intro after rest fuel hafter hfuel
  obtain ⟨fuel, rfl⟩ : ∃ m, fuel = m + 1 := ⟨fuel - 1, by omega⟩
  have hquote : after.head? ≠ some '"' := fun hq =>
    absurd (hafter.head '"' hq) (by decide)
  have hread := string_basicString h hquote
  obtain ⟨body, hcs, -, -⟩ := h.read after
  rw [hcs] at hread ⊢
  rw [skipBlank_cons (by decide), value.eq_def]
  simp only [hread]
  rfl

end TreeTool.Toml
