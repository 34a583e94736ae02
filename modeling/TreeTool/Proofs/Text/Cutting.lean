import TreeTool.Text.Pieces

/-!
# Cutting and joining

Pieces without the mark in them are what `pieces` finds in their join, and the first cut of a text
falls at the first mark. Together with the lemmas beside `pieces` this makes cutting and joining
inverse to each other. Numbers, bare names and blanks are cut off where their characters end.
-/

namespace TreeTool.Text

variable {m : Char} {a b : List Char}

theorem pieces_of_not_mem (h : m ∉ a) : pieces m a = [a] := by
  induction a with
  | nil => rfl
  | cons c cs ih =>
    obtain ⟨hc, hcs⟩ := List.ne_and_not_mem_of_not_mem_cons h
    rw [pieces, if_neg (Ne.symm hc), ih hcs]

theorem pieces_append_mark (h : m ∉ a) (b : List Char) :
    pieces m (a ++ m :: b) = a :: pieces m b := by
  induction a with
  | nil => simp [pieces]
  | cons c cs ih =>
    obtain ⟨hc, hcs⟩ := List.ne_and_not_mem_of_not_mem_cons h
    rw [List.cons_append, pieces, if_neg (Ne.symm hc), ih hcs]

theorem pieces_joined {ps : List (List Char)} (hne : ps ≠ []) (h : ∀ p ∈ ps, m ∉ p) :
    pieces m (joined m ps) = ps := by
  induction ps with
  | nil => exact absurd rfl hne
  | cons p ps ih =>
    have hp : m ∉ p := h p List.mem_cons_self
    cases ps with
    | nil => exact pieces_of_not_mem hp
    | cons q qs =>
      rw [joined, pieces_append_mark hp,
        ih (List.cons_ne_nil _ _) fun r hr => h r (List.mem_cons_of_mem _ hr)]

theorem not_mem_of_mem_pieces {cs p : List Char} (h : p ∈ pieces m cs) : m ∉ p := by
  induction cs generalizing p with
  | nil => simp_all [pieces]
  | cons c cs ih =>
    rw [pieces] at h
    split at h
    · rcases List.mem_cons.mp h with rfl | h
      · exact List.not_mem_nil
      · exact ih h
    · rename_i hc
      split at h
      · rcases List.mem_singleton.mp h with rfl
        exact List.not_mem_cons_of_ne_of_not_mem (Ne.symm hc) List.not_mem_nil
      · rename_i q qs hq
        rw [hq] at ih
        rcases List.mem_cons.mp h with rfl | h
        · exact List.not_mem_cons_of_ne_of_not_mem (Ne.symm hc) (ih List.mem_cons_self)
        · exact ih (List.mem_cons_of_mem _ h)

theorem cutFirst_append_mark (h : m ∉ a) (b : List Char) :
    cutFirst m (a ++ m :: b) = some (a, b) := by
  induction a with
  | nil => simp [cutFirst]
  | cons c cs ih =>
    obtain ⟨hc, hcs⟩ := List.ne_and_not_mem_of_not_mem_cons h
    rw [List.cons_append, cutFirst, if_neg (Ne.symm hc), ih hcs]
    rfl

theorem joined_eq_intercalate (ps : List (List Char)) : joined m ps = [m].intercalate ps := by
  induction ps with
  | nil => rfl
  | cons p ps ih =>
    cases ps with
    | nil => simp [joined]
    | cons q qs => simp [joined, ih]

theorem head?_joined {p : List Char} (hp : p ≠ []) (ps : List (List Char)) :
    (joined m (p :: ps)).head? = p.head? := by
  obtain ⟨c, cs, rfl⟩ := List.exists_cons_of_ne_nil hp
  cases ps <;> rfl

theorem pieces_intercalate {ts : List String} (hne : ts ≠ []) (h : ∀ t ∈ ts, m ∉ t.toList) :
    pieces m ((String.singleton m).intercalate ts).toList = ts.map String.toList := by
  rw [String.toList_intercalate, String.toList_singleton, ← joined_eq_intercalate]
  apply pieces_joined
  · simpa using hne
  · intro p hp
    obtain ⟨t, ht, rfl⟩ := List.mem_map.mp hp
    exact h t ht

theorem span_append {p : Char → Bool} (ha : ∀ c ∈ a, p c) (hb : ∀ c ∈ b.head?, p c = false) :
    (a ++ b).takeWhile p = a ∧ (a ++ b).dropWhile p = b := by
  have hrest : b.takeWhile p = [] ∧ b.dropWhile p = b := by
    cases b with
    | nil => exact ⟨rfl, rfl⟩
    | cons c b =>
      have hc : ¬ p c := by simp [hb c rfl]
      exact ⟨List.takeWhile_cons_of_neg hc, List.dropWhile_cons_of_neg hc⟩
  rw [List.takeWhile_append_of_pos ha, List.dropWhile_append_of_pos ha, hrest.1, hrest.2,
    List.append_nil]
  exact ⟨rfl, rfl⟩

end TreeTool.Text
