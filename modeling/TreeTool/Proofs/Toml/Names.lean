import Mathlib.Data.List.Nodup
import TreeTool.Proofs.Lookup
import TreeTool.Toml.Reader

/-!
# The names in a table

A member is replaced in its place, or put under a name that is not used yet. So every step that
puts a document together leaves a table whose names are distinct, and so does the whole.
-/

namespace TreeTool.Toml

namespace Members

def Distinct (ms : Members) : Prop := (ms.map (·.1)).Nodup

variable {ms ms' : Members}

theorem distinct_nil : Distinct [] := List.nodup_nil

/-! ## One member -/

theorem mem_names_put {name other : String} {n : Node} (h : other ∈ (ms.put name n).map (·.1)) :
    other = name ∨ other ∈ ms.map (·.1) := by
  induction ms with
  | nil => exact Or.inl (by simpa [put] using h)
  | cons m ms ih =>
    obtain ⟨k, a⟩ := m
    rw [put] at h
    split at h
    · rcases List.mem_cons.mp h with h | h
      · exact Or.inl h
      · exact Or.inr (List.mem_cons_of_mem k h)
    · rcases List.mem_cons.mp h with h | h
      · exact Or.inr (h ▸ List.mem_cons_self)
      · exact (ih h).imp_right (List.mem_cons_of_mem k)

theorem Distinct.put (h : ms.Distinct) (name : String) (n : Node) :
    (ms.put name n).Distinct := by
  induction ms with
  | nil => exact List.nodup_singleton name
  | cons m ms ih =>
    obtain ⟨k, a⟩ := m
    obtain ⟨hk, hms⟩ := List.nodup_cons.mp h
    rw [Members.put]
    split
    · rename_i hn
      exact List.nodup_cons.mpr ⟨hn ▸ hk, hms⟩
    · rename_i hn
      refine List.nodup_cons.mpr ⟨fun hm => ?_, ih hms⟩
      exact (mem_names_put hm).elim hn hk

theorem Distinct.remove (h : ms.Distinct) (name : String) : (ms.remove name).Distinct :=
  h.sublist (List.filter_sublist.map _)

theorem Distinct.add {name : String} {n : Node} (h : ms.Distinct)
    (hs : ms.add name n = some ms') : ms'.Distinct := by
  rw [Members.add] at hs
  split at hs
  · rename_i hg
    obtain rfl := Option.some.inj hs
    have hn : name ∉ ms.map (·.1) := lookup_eq_none_iff.mp hg
    show ((ms ++ [(name, n)]).map (·.1)).Nodup
    rw [List.map_append]
    exact List.Nodup.append h (List.nodup_singleton name) (by simpa using hn)
  · cases hs

theorem Distinct.addBelow {last k : String} {v : Node} {ks : List String} {o : Origin}
    (h : ms.Distinct) (hs : addBelow last v (k :: ks) o ms = some ms') : ms'.Distinct := by
  rw [Members.addBelow] at hs
  split at hs
  · obtain ⟨inner, -, rfl⟩ := Option.map_eq_some_iff.mp hs
    exact h.put k _
  · cases hs
  · obtain ⟨inner, -, rfl⟩ := Option.map_eq_some_iff.mp hs
    exact h.put k _
  · obtain ⟨inner, -, rfl⟩ := Option.map_eq_some_iff.mp hs
    exact h.put k _
  · cases hs

theorem Distinct.addPair {p : Pair} (h : ms.Distinct) (hs : ms.addPair p = some ms') :
    ms'.Distinct := by
  obtain ⟨⟨above, last⟩, v⟩ := p
  cases above with
  | nil => exact h.add hs
  | cons k ks => exact Distinct.addBelow (o := .written) h hs

/-! ## A whole document -/

theorem Distinct.foldlM {α : Type} {f : Members → α → Option Members}
    (hf : ∀ {ms ms' : Members} {a : α}, ms.Distinct → f ms a = some ms' → ms'.Distinct)
    {as : List α} (h : ms.Distinct) (hs : as.foldlM f ms = some ms') : ms'.Distinct := by
  induction as generalizing ms with
  | nil =>
    obtain rfl := Option.some.inj hs
    exact h
  | cons a as ih =>
    rw [List.foldlM_cons] at hs
    obtain ⟨next, hn, hs⟩ := Option.bind_eq_some_iff.mp hs
    exact ih (hf h hn) hs

theorem Distinct.addAll {ps : List Pair} (h : ms.Distinct) (hs : ms.addAll ps = some ms') :
    ms'.Distinct :=
  h.foldlM Distinct.addPair hs

theorem Distinct.within {f : Members → Option Members}
    (hf : ∀ {ms ms' : Members}, ms.Distinct → f ms = some ms' → ms'.Distinct)
    {path : List String} (h : ms.Distinct) (hs : within f path ms = some ms') :
    ms'.Distinct := by
  cases path with
  | nil => exact hf h hs
  | cons k ks =>
    rw [Members.within] at hs
    split at hs
    · obtain ⟨inner, -, rfl⟩ := Option.map_eq_some_iff.mp hs
      exact h.put k _
    · obtain ⟨inner, -, rfl⟩ := Option.map_eq_some_iff.mp hs
      exact h.put k _
    · obtain ⟨inner, -, rfl⟩ := Option.map_eq_some_iff.mp hs
      exact h.put k _
    · cases hs

theorem Distinct.place {b : Block} (h : ms.Distinct) (hs : b.place ms = some ms') :
    ms'.Distinct := by
  rw [Block.place] at hs
  split at hs
  · refine h.within (fun {parent _} hp hf => ?_) hs
    split at hf
    · obtain ⟨inner, -, rfl⟩ := Option.map_eq_some_iff.mp hf
      exact hp.put _ _
    · obtain ⟨inner, -, rfl⟩ := Option.map_eq_some_iff.mp hf
      exact (hp.remove _).put _ _
    · cases hf
  · refine h.within (fun {parent _} hp hf => ?_) hs
    split at hf
    · obtain ⟨inner, -, rfl⟩ := Option.map_eq_some_iff.mp hf
      exact hp.put _ _
    · obtain ⟨inner, -, rfl⟩ := Option.map_eq_some_iff.mp hf
      exact hp.put _ _
    · cases hf

end Members

theorem distinct_of_read {text : String} {ms : Members} (h : read text = some ms) :
    ms.Distinct := by
  obtain ⟨d, -, h⟩ := Option.bind_eq_some_iff.mp h
  obtain ⟨root, hr, h⟩ := Option.bind_eq_some_iff.mp h
  exact (Members.distinct_nil.addAll hr).foldlM Members.Distinct.place h

end TreeTool.Toml
