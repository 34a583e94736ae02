import Mathlib.Tactic.SplitIfs
import TreeTool.Proofs.Toml.Names
import TreeTool.Settings.Toml

/-!
# What a settings file states

A document that is accepted states each setting once or not at all, whatever the order of its
members; what it does not state stays as it was. The members are taken in one by one, so the
induction is over them for any settings so far, and a later member never touches what an earlier
one has stated because their names differ. A table is refused for its first member that does not
fit.
-/

namespace TreeTool.Settings

open Toml (Node Members)

/-- What a document says about each setting. -/
structure Stated where
  binary : Option String := none
  timeoutMillis : Option Nat := none
  encoding : Option Encoding := none
  stderr : Option StderrMode := none

def stated? {α : Type} (read : Node → Except Refusal α) (ms : Members) (name : String) :
    Option α :=
  (ms.get? name).bind fun n => (read n).toOption

namespace Stated

def ofMembers (ms : Members) : Stated where
  binary := stated? pathOf ms "binary"
  timeoutMillis := stated? wordOf ms "timeout_ms"
  encoding := stated? variantOf ms "encoding"
  stderr := stated? variantOf ms "stderr"

def onto (d : Stated) (s : Settings) : Settings where
  binary := d.binary.getD s.binary
  timeoutMillis := d.timeoutMillis.or s.timeoutMillis
  encoding := d.encoding.getD s.encoding
  stderr := d.stderr.getD s.stderr

end Stated

/-- A member that names a setting and has a value for it. -/
inductive Legal : String → Node → Prop
  | binary {n : Node} {b : String} (h : pathOf n = .ok b) : Legal "binary" n
  | timeout {n : Node} {t : Nat} (h : wordOf n = .ok t) : Legal "timeout_ms" n
  | encoding {n : Node} {e : Encoding} (h : variantOf n = .ok e) : Legal "encoding" n
  | stderr {n : Node} {m : StderrMode} (h : variantOf n = .ok m) : Legal "stderr" n

/-! ## One member -/

section stated

variable {α : Type} {read : Node → Except Refusal α} {ms : Members} {name other : String} {n : Node}

theorem stated?_nil : stated? read [] name = none := rfl

theorem stated?_cons_self : stated? read ((name, n) :: ms) name = (read n).toOption := by
  rw [stated?, Members.get?, lookup_cons_self, Option.bind_some]

theorem stated?_cons_of_ne (h : other ≠ name) :
    stated? read ((name, n) :: ms) other = stated? read ms other := by
  rw [stated?, Members.get?, lookup_cons_of_ne h]
  rfl

theorem stated?_cons (h : name ∉ ms.map (·.1)) (other : String) :
    stated? read ((name, n) :: ms) other =
      (stated? read ms other).or (stated? read [(name, n)] other) := by
  by_cases ho : other = name
  · subst ho
    have hn : stated? read ms other = none := by
      rw [stated?, Members.get?, lookup_eq_none_iff.mpr h, Option.bind_none]
    rw [hn, Option.none_or, stated?_cons_self, stated?_cons_self]
  · rw [stated?_cons_of_ne ho, stated?_cons_of_ne ho, stated?_nil, Option.or_none]

end stated

theorem Stated.onto_cons {m : String × Node} {ms : Members} (h : m.1 ∉ ms.map (·.1))
    (s : Settings) :
    (Stated.ofMembers (m :: ms)).onto s =
      (Stated.ofMembers ms).onto ((Stated.ofMembers [m]).onto s) := by
  obtain ⟨name, n⟩ := m
  simp only [onto, ofMembers, stated?_cons h, Option.getD_or, Option.or_assoc]

variable {s s' : Settings} {name : String} {n : Node}

theorem setMember_of_legal (h : Legal name n) (s : Settings) :
    setMember s name n = .ok ((Stated.ofMembers [(name, n)]).onto s) := by
  cases h with
  | binary h | timeout h | encoding h | stderr h =>
    simp [setMember, h, Except.map, Except.toOption, Stated.onto, Stated.ofMembers,
      stated?_cons_self, stated?_cons_of_ne, stated?_nil]

theorem exists_of_map_eq_ok {α β ε : Type} {r : Except ε α} {f : α → β} {b : β}
    (h : r.map f = .ok b) : ∃ a, r = .ok a := by
  cases r with
  | error x => cases h
  | ok a => exact ⟨a, rfl⟩

theorem legal_of_setMember (h : setMember s name n = .ok s') : Legal name n := by
  rw [setMember] at h
  split_ifs at h with hb ht he hm
  · obtain ⟨b, hr⟩ := exists_of_map_eq_ok h
    exact hb ▸ .binary hr
  · obtain ⟨t, hr⟩ := exists_of_map_eq_ok h
    exact ht ▸ .timeout hr
  · obtain ⟨e, hr⟩ := exists_of_map_eq_ok h
    exact he ▸ .encoding hr
  · obtain ⟨m, hr⟩ := exists_of_map_eq_ok h
    exact hm ▸ .stderr hr

theorem map_eq_error_iff {α β ε : Type} {r : Except ε α} {f : α → β} {x : ε} :
    r.map f = .error x ↔ r = .error x := by
  cases r <;> simp [Except.map]

theorem setMember_eq_error_iff {r : Refusal} (s s' : Settings) :
    setMember s name n = .error r ↔ setMember s' name n = .error r := by
  rw [setMember, setMember]
  split_ifs
  all_goals simp only [map_eq_error_iff]

/-! ## All members -/

def setAll (s : Settings) (ms : Members) : Except Refusal Settings :=
  ms.foldlM (fun s (m : String × Node) => setMember s m.1 m.2) s

theorem setAll_cons (s : Settings) (m : String × Node) (ms : Members) :
    setAll s (m :: ms) = setMember s m.1 m.2 >>= fun s => setAll s ms := by
  rw [setAll, List.foldlM_cons]
  rfl

theorem setAll_of_legal {ms : Members} (hd : ms.Distinct) (hl : ∀ m ∈ ms, Legal m.1 m.2)
    (s : Settings) : setAll s ms = .ok ((Stated.ofMembers ms).onto s) := by
  induction ms generalizing s with
  | nil => rfl
  | cons m ms ih =>
    obtain ⟨hm, hms⟩ := List.forall_mem_cons.mp hl
    obtain ⟨hn, hd⟩ := List.nodup_cons.mp hd
    rw [setAll_cons, setMember_of_legal hm, Stated.onto_cons hn]
    exact ih hd hms _

inductive Refused (r : Refusal) : Members → Prop
  | here {m : String × Node} {ms : Members} (h : setMember {} m.1 m.2 = .error r) :
      Refused r (m :: ms)
  | later {m : String × Node} {ms : Members} (hm : Legal m.1 m.2) (h : Refused r ms) :
      Refused r (m :: ms)

theorem setAll_eq_error_iff {ms : Members} {r : Refusal} :
    setAll s ms = .error r ↔ Refused r ms := by
  induction ms generalizing s with
  | nil => exact ⟨nofun, nofun⟩
  | cons m ms ih =>
    rw [setAll_cons]
    cases hm : setMember s m.1 m.2 with
    | error x =>
      have hx : setMember {} m.1 m.2 = .error x := (setMember_eq_error_iff s {}).mp hm
      constructor
      · intro h
        cases h
        exact .here hx
      · rintro (h | ⟨hl, -⟩)
        · rw [hx] at h
          exact h
        · rw [setMember_of_legal hl] at hm
          cases hm
    | ok next =>
      have hl : Legal m.1 m.2 := legal_of_setMember hm
      constructor
      · intro h
        exact .later hl (ih.mp h)
      · rintro (h | ⟨-, h⟩)
        · rw [setMember_of_legal hl] at h
          cases h
        · exact ih.mpr h

theorem legal_of_setAll {ms : Members} (h : setAll s ms = .ok s') :
    ∀ m ∈ ms, Legal m.1 m.2 := by
  induction ms generalizing s with
  | nil => exact fun _ hm => nomatch hm
  | cons m ms ih =>
    rw [setAll_cons] at h
    cases hm : setMember s m.1 m.2 with
    | error x =>
      rw [hm] at h
      cases h
    | ok next =>
      rw [hm] at h
      exact List.forall_mem_cons.mpr ⟨legal_of_setMember hm, ih h⟩

theorem ofMembers_eq_ok_iff {ms : Members} (hd : ms.Distinct) :
    ofMembers ms = .ok s ↔ (∀ m ∈ ms, Legal m.1 m.2) ∧ s = (Stated.ofMembers ms).onto {} := by
  show setAll {} ms = .ok s ↔ _
  constructor
  · intro h
    have hl := legal_of_setAll h
    rw [setAll_of_legal hd hl] at h
    exact ⟨hl, (Except.ok.inj h).symm⟩
  · rintro ⟨hl, rfl⟩
    exact setAll_of_legal hd hl {}

theorem ofMembers_eq_error_iff {ms : Members} {r : Refusal} :
    ofMembers ms = .error r ↔ Refused r ms :=
  setAll_eq_error_iff

end TreeTool.Settings
