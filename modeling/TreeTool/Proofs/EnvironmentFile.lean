import Mathlib.Data.List.Induction
import TreeTool.EnvironmentFile
import TreeTool.Proofs.Lookup

/-!
# What an environment file adds

The entries of a file are read one after the other, up to the first malformed line. A variable that
has a text in the environment keeps it, even an empty one; any other gets the value of its first
entry. Each entry is added to what those before it have left, so the induction is over the lines
for any variables known so far.

The file is the one in the nearest directory that has one, `here` itself or above it. `Nearest` says
so by the length of the directory's path, and the search agrees with it by induction on the path.
-/

namespace TreeTool

open Files (Entry Place Tree)
open Text (Bytes)

namespace Environment

theorem get?_put_self (e : Environment) (name : String) (v : Value) :
    (e.put name v).get? name = v.text? := by
  rw [get?, put, lookup_cons_self]
  rfl

theorem get?_put_of_ne {name other : String} (h : other ≠ name) (e : Environment) (v : Value) :
    (e.put name v).get? other = e.get? other := by
  rw [get?, put, lookup_cons_of_ne h, lookup_filter_ne h]
  rfl

def defaults (e : Environment) (es : List (String × String)) : Environment :=
  es.foldl (fun e p => e.default p.1 p.2) e

theorem get?_default_self (e : Environment) (name value : String) :
    (e.default name value).get? name = (e.get? name).or (some value) := by
  rw [default]
  cases h : e.get? name with
  | none => exact get?_put_self e name value
  | some v => rw [h, Option.some_or]

theorem get?_default_of_ne {name other : String} (h : other ≠ name) (e : Environment)
    (value : String) : (e.default name value).get? other = e.get? other := by
  rw [default]
  split
  · rfl
  · exact get?_put_of_ne h e value

theorem get?_defaults (e : Environment) (es : List (String × String)) (name : String) :
    (e.defaults es).get? name = (e.get? name).or (es.lookup name) := by
  induction es generalizing e with
  | nil => simp [defaults]
  | cons p es ih =>
    have hd : e.defaults (p :: es) = (e.default p.1 p.2).defaults es := rfl
    rw [hd, ih]
    by_cases hn : name = p.1
    · subst hn
      rw [get?_default_self, lookup_cons_self]
      cases e.get? p.1 <;> rfl
    · rw [get?_default_of_ne hn, lookup_cons_of_ne hn]

end Environment

namespace EnvironmentFile

/-! ## Entries -/

def entriesOf (k : Known) : List (Option (List Char)) → List (String × String)
  | [] | none :: _ => []
  | some l :: ls =>
    match entry? k l with
    | none => []
    | some none => entriesOf k ls
    | some (some (name, value)) => (name, value) :: entriesOf (k.add name value) ls

def entriesIn (e : Environment) (content : Bytes) : List (String × String) :=
  entriesOf { environment := e } (lines content)

def entries (m : Machine) : List (String × String) :=
  match nearest m.files m.here fileName (m.here.length + 1) with
  | none => []
  | some content => entriesIn m.environment content

theorem readLines_eq_defaults (k : Known) (ls : List (Option (List Char))) :
    readLines k ls = k.environment.defaults (entriesOf k ls) := by
  induction ls generalizing k with
  | nil => rfl
  | cons l ls ih =>
    cases l with
    | none => rfl
    | some l =>
      rw [readLines, entriesOf]
      cases entry? k l with
      | none => rfl
      | some entry =>
        cases entry with
        | none => exact ih k
        | some entry => exact ih _

theorem get?_load (m : Machine) (name : String) :
    (load m).get? name = (m.environment.get? name).or ((entries m).lookup name) := by
  rw [load, entries]
  cases nearest m.files m.here fileName (m.here.length + 1) with
  | none => simp
  | some content =>
    show (readLines { environment := m.environment } (lines content)).get? name = _
    rw [readLines_eq_defaults, Environment.get?_defaults]
    rfl

/-! ## The nearest file -/

/-- What the name of environment files leads to in a directory. -/
inductive StandsAt (t : Tree) (p : Place) : Entry → Prop
  | itself {e : Entry} (h : t.get? (p ++ [fileName]) = some e) (hl : ∀ path, e ≠ .link path) :
    StandsAt t p e
  | linked {path : String} {q : Place} {e : Entry}
      (h : t.get? (p ++ [fileName]) = some (.link path)) (hf : t.find p fileName = .ok (q, e)) :
    StandsAt t p e

/-- A directory has no environment file: nothing has its name there, or a link that leads nowhere,
or something that is no regular file. -/
inductive Passed (t : Tree) (p : Place) : Prop
  | unnamed (h : t.get? (p ++ [fileName]) = none)
  | dangling {path : String} (h : t.get? (p ++ [fileName]) = some (.link path))
      (hf : t.find p fileName = .error .missing)
  | irregular {e : Entry} (h : StandsAt t p e) (he : e.content? = none)

def HasFile (t : Tree) (p : Place) (content : Bytes) : Prop :=
  ∃ e, StandsAt t p e ∧ e.content? = some content

/-- The environment file of a directory: the directory that it stands in is `here` or above it, and
those further down have none. -/
def Nearest (t : Tree) (here : Place) (content : Bytes) : Prop :=
  ∃ k ≤ here.length, HasFile t (here.take k) content ∧
    ∀ j, k < j → j ≤ here.length → Passed t (here.take j)

variable {t : Tree} {p : Place} {content : Bytes}

theorem contentAt_of_standsAt {e : Entry} (h : StandsAt t p e) :
    contentAt t p fileName = .ok e.content? := by
  cases h with
  | itself h hl =>
    rw [contentAt, h]
    cases e with
    | link path => exact absurd rfl (hl path)
    | _ => rfl
  | linked h hf => simp only [contentAt, h, hf]

theorem contentAt_of_passed (h : Passed t p) : contentAt t p fileName = .ok none := by
  cases h with
  | unnamed h => simp only [contentAt, h]
  | dangling h hf => simp only [contentAt, h, hf]
  | irregular h he => rw [contentAt_of_standsAt h, he]

theorem standsAt_or_passed (t : Tree) (p : Place) :
    (∃ content, HasFile t p content) ∨ Passed t p ∨
      ∃ problem, contentAt t p fileName = .error problem := by
  have hregular {e : Entry} (h : StandsAt t p e) : (∃ content, HasFile t p content) ∨ Passed t p := by
    cases he : e.content? with
    | none => exact Or.inr (.irregular h he)
    | some content => exact Or.inl ⟨content, e, h, he⟩
  cases hg : t.get? (p ++ [fileName]) with
  | none => exact Or.inr (Or.inl (.unnamed hg))
  | some e =>
    by_cases hl : ∃ path, e = .link path
    · obtain ⟨path, rfl⟩ := hl
      cases hf : t.find p fileName with
      | ok found => exact or_assoc.mp (Or.inl (hregular (.linked hg hf)))
      | error problem =>
        by_cases hm : problem = .missing
        · exact Or.inr (Or.inl (.dangling hg (hm ▸ hf)))
        · refine Or.inr (Or.inr ⟨problem, ?_⟩)
          simp only [contentAt, hg, hf]
    · exact or_assoc.mp (Or.inl (hregular (.itself hg fun path h => hl ⟨path, h⟩)))

theorem hasFile_iff : HasFile t p content ↔ contentAt t p fileName = .ok (some content) := by
  constructor
  · rintro ⟨e, h, he⟩
    rw [contentAt_of_standsAt h, he]
  · intro h
    rcases standsAt_or_passed t p with ⟨content', e, hs, he⟩ | hp | ⟨problem, hp⟩
    · rw [contentAt_of_standsAt hs, he] at h
      cases h
      exact ⟨e, hs, he⟩
    · simp [contentAt_of_passed hp] at h
    · simp [hp] at h

theorem passed_iff : Passed t p ↔ contentAt t p fileName = .ok none := by
  refine ⟨contentAt_of_passed, fun h => ?_⟩
  rcases standsAt_or_passed t p with ⟨content, hs⟩ | hp | ⟨problem, hp⟩
  · simp [hasFile_iff.mp hs] at h
  · exact hp
  · simp [hp] at h

theorem nearest_root_iff : Nearest t [] content ↔ HasFile t [] content := by
  constructor
  · rintro ⟨k, hk, hf, -⟩
    rwa [List.take_nil] at hf
  · exact fun h => ⟨0, Nat.le_refl 0, h, fun j hj hle => absurd hle (Nat.not_le.mpr hj)⟩

theorem nearest_append_iff {n : String} : Nearest t (p ++ [n]) content ↔
    HasFile t (p ++ [n]) content ∨ Passed t (p ++ [n]) ∧ Nearest t p content := by
  have hall : (p ++ [n]).take (p.length + 1) = p ++ [n] := List.take_of_length_le (by simp)
  have htake {j : Nat} (hj : j ≤ p.length) : (p ++ [n]).take j = p.take j :=
    List.take_append_of_le_length hj
  rw [Nearest, List.length_append, List.length_singleton]
  constructor
  · rintro ⟨k, hk, hf, hp⟩
    rcases Nat.lt_or_ge p.length k with hlt | hle
    · obtain rfl : k = p.length + 1 := by omega
      exact Or.inl (hall ▸ hf)
    · refine Or.inr ⟨hall ▸ hp _ (by omega) (Nat.le_refl _), k, hle, htake hle ▸ hf, ?_⟩
      intro j hj hjl
      exact htake hjl ▸ hp j hj (by omega)
  · rintro (hf | ⟨hp, k, hk, hf, hps⟩)
    · exact ⟨p.length + 1, Nat.le_refl _, hall.symm ▸ hf, fun j hj hjl => by omega⟩
    · refine ⟨k, by omega, (htake hk).symm ▸ hf, fun j hj hjl => ?_⟩
      rcases Nat.lt_or_ge p.length j with hlt | hle
      · obtain rfl : j = p.length + 1 := by omega
        exact hall.symm ▸ hp
      · exact (htake hle).symm ▸ hps j hj hle

theorem nearest_eq_some_iff :
    nearest t p fileName (p.length + 1) = some content ↔ Nearest t p content := by
  induction p using List.reverseRecOn with
  | nil =>
    rw [nearest_root_iff, hasFile_iff, List.length_nil, nearest]
    rcases contentAt t [] fileName with problem | (- | content') <;> simp [nearest]
  | append_singleton p n ih =>
    rw [nearest_append_iff, hasFile_iff, passed_iff, ← ih, nearest, List.dropLast_concat,
      List.length_append, List.length_singleton]
    rcases contentAt t (p ++ [n]) fileName with problem | (- | content') <;> simp

theorem entries_of_nearest {m : Machine} (h : Nearest m.files m.here content) :
    entries m = entriesIn m.environment content := by
  rw [entries, nearest_eq_some_iff.mpr h]

theorem entries_of_not_nearest {m : Machine} (h : ∀ content, ¬ Nearest m.files m.here content) :
    entries m = [] := by
  rw [entries]
  cases hn : nearest m.files m.here fileName (m.here.length + 1) with
  | none => rfl
  | some content => exact absurd (nearest_eq_some_iff.mp hn) (h content)

end EnvironmentFile

end TreeTool
