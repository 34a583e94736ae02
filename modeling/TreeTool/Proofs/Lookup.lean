import Mathlib.Data.List.Basic

/-!
# Looking up names

Names in association lists: what a lookup finds behind a first pair, beside pairs that are removed,
and when it finds nothing.
-/

namespace TreeTool

variable {α : Type} {name other : String}

theorem lookup_cons_self (name : String) (a : α) (l : List (String × α)) :
    ((name, a) :: l).lookup name = some a := by
  simp

theorem lookup_cons_of_ne (h : other ≠ name) (a : α) (l : List (String × α)) :
    ((name, a) :: l).lookup other = l.lookup other := by
  rw [List.lookup_cons, beq_eq_false_iff_ne.mpr h]

theorem lookup_filter_ne (h : other ≠ name) (l : List (String × α)) :
    (l.filter (·.1 ≠ name)).lookup other = l.lookup other := by
  induction l with
  | nil => rfl
  | cons p l ih =>
    by_cases hp : p.1 = name
    · rw [List.filter_cons_of_neg (by simpa using hp), ih, lookup_cons_of_ne (hp ▸ h)]
    · rw [List.filter_cons_of_pos (by simpa using hp), List.lookup_cons, List.lookup_cons, ih]

theorem lookup_eq_none_iff {l : List (String × α)} :
    l.lookup name = none ↔ name ∉ l.map (·.1) := by
  rw [List.lookup_eq_none_iff, List.mem_map]
  constructor
  · rintro h ⟨p, hp, hn⟩
    exact bne_iff_ne.mp (h p hp) hn.symm
  · intro h p hp
    exact bne_iff_ne.mpr fun hn => h ⟨p, hp, hn.symm⟩

end TreeTool
