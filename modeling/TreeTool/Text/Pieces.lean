/-!
# Cutting a text at a mark

`pieces m` cuts at every mark and always yields one piece more than there are marks;
`cutFirst m` cuts at the first mark only. `joined m` puts pieces together again.
-/

namespace TreeTool.Text

def pieces (m : Char) : List Char → List (List Char)
  | [] => [[]]
  | c :: cs =>
    if c = m then [] :: pieces m cs
    else match pieces m cs with
      | [] => [[c]]
      | p :: ps => (c :: p) :: ps

def cutFirst (m : Char) : List Char → Option (List Char × List Char)
  | [] => none
  | c :: cs =>
    if c = m then some ([], cs)
    else (cutFirst m cs).map fun (a, b) => (c :: a, b)

def joined (m : Char) : List (List Char) → List Char
  | [] => []
  | [p] => p
  | p :: q :: ps => p ++ m :: joined m (q :: ps)

theorem pieces_ne_nil (m : Char) (cs : List Char) : pieces m cs ≠ [] := by
  cases cs with
  | nil => simp [pieces]
  | cons c cs =>
    unfold pieces
    split
    · simp
    · split <;> simp

theorem joined_pieces (m : Char) (cs : List Char) : joined m (pieces m cs) = cs := by
  induction cs with
  | nil => rfl
  | cons c cs ih =>
    unfold pieces
    split
    · rename_i h
      cases hp : pieces m cs with
      | nil => exact absurd hp (pieces_ne_nil m cs)
      | cons p ps => simp [joined, ← hp, ih, h]
    · cases hp : pieces m cs with
      | nil => exact absurd hp (pieces_ne_nil m cs)
      | cons p ps =>
        rw [hp] at ih
        cases ps with
        | nil => simpa [joined] using ih
        | cons q qs => simpa [joined] using ih

theorem cutFirst_eq_some {m : Char} {cs a b : List Char} (h : cutFirst m cs = some (a, b)) :
    cs = a ++ m :: b ∧ m ∉ a := by
  induction cs generalizing a with
  | nil => simp [cutFirst] at h
  | cons c cs ih =>
    unfold cutFirst at h
    split at h
    · simp_all
    · cases hc : cutFirst m cs with
      | none => simp [hc] at h
      | some p =>
        obtain ⟨x, y⟩ := p
        simp only [hc, Option.map_some, Option.some.injEq, Prod.mk.injEq] at h
        obtain ⟨rfl, rfl⟩ := h
        obtain ⟨hcs, hx⟩ := ih hc
        refine ⟨by simp [hcs], ?_⟩
        simp only [List.mem_cons, not_or]
        exact ⟨fun e => by simp_all, hx⟩

theorem cutFirst_eq_none_iff {m : Char} {cs : List Char} : cutFirst m cs = none ↔ m ∉ cs := by
  induction cs with
  | nil => simp [cutFirst]
  | cons c cs ih =>
    unfold cutFirst
    split
    · simp_all
    · rename_i h
      simp [ih, Ne.symm h]

end TreeTool.Text
