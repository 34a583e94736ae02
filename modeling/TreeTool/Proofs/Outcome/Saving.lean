import TreeTool.Proofs.Files.Opening
import TreeTool.Proofs.Outcome.Writing

/-!
# Saving one outcome after the other

A save fills the file that its path leads to, or nothing. As it moves no path, the path of every
later save leads where it led at first, so after any number of saves a file holds what the last of
those that lead to it has put there. The tree may hold more than files: what is saved at a device
goes out of the tree, and a full device is opened and then takes nothing.
-/

namespace TreeTool.Outcome

open Files (Device Place Tree)
open Text (Bytes)

/-! ## What a file refuses -/

section refusals

variable {t t' : Tree} {here : Place} {path : String} {content : Bytes}

theorem store_none (t : Tree) (here : Place) (path : String) (content : Bytes) :
    store t here path content none = match t.write here path content with
      | .error problem => (t, some problem.text)
      | .ok t' => (t', none) := by
  have htake : content.take (((none : Option Shortfall).map (·.kept)).getD content.length) =
      content := List.take_length
  rw [store, Option.filter_none, htake]
  rfl

theorem saveOnto_none (o : Outcome) (p : Part) (t : Tree) (here : Place) (path : String) :
    o.saveOnto p none t here path = match o.save p t here path with
      | .error r => (t, some r)
      | .ok t' => (t', none) := by
  rw [saveOnto, store_none, save]
  cases t.write here path (o.rendering p) <;> rfl

end refusals

/-! ## Saves in a row -/

/-- One call that saves a part of an outcome at a path. -/
structure Save where
  outcome : Outcome
  part : Part
  path : String

namespace Save

def bytes (c : Save) : Bytes := c.outcome.rendered (.bare c.part)

def run (here : Place) (t : Tree) (c : Save) : Except Report Tree :=
  c.outcome.save c.part t here c.path

def after (here : Place) (t : Tree) (c : Save) : Tree :=
  match c.run here t with
  | .ok t' => t'
  | .error _ => t

def afterAll (here : Place) (t : Tree) (cs : List Save) : Tree := cs.foldl (after here) t

/-- What one call does to a tree. -/
structure Exact (here : Place) (t : Tree) (c : Save) : Prop where
  filled : ∀ q, t.Leads here c.path q → c.run here t = .ok (c.after here t) ∧
    ∃ executable, (c.after here t).get? q = some (.file c.bytes executable)
  fails : (∃ r, c.run here t = .error r) ↔
    ¬ t.Opens here c.path ∨ (t.LeadsOut here c.path .full ∧ c.bytes ≠ [])
  reported : ∀ r, c.run here t = .error r →
    r.code = "ERR_IO" ∧ r.activity = some "write_result" ∧ c.after here t = t
  spared : ∀ q, ¬ t.Leads here c.path q → (c.after here t).get? q = t.get? q

/-- What a sequence of calls leaves behind. -/
structure Leaves (here : Place) (t : Tree) (cs : List Save) : Prop where
  /-- Every call meets a tree in which all paths lead where they led at first. -/
  each : ∀ before c after, cs = before ++ c :: after →
    Exact here (afterAll here t before) c ∧
      ∀ path q, (afterAll here t before).Leads here path q ↔ t.Leads here path q
  last : ∀ before c after q, cs = before ++ c :: after → t.Leads here c.path q →
    (∀ d ∈ after, ¬ t.Leads here d.path q) →
      ∃ executable, (afterAll here t cs).get? q = some (.file c.bytes executable)
  kept : ∀ q, (∀ c ∈ cs, ¬ t.Leads here c.path q) → (afterAll here t cs).get? q = t.get? q

variable {here q : Place} {t t' : Tree} {c : Save}

/-! ## One call -/

theorem rendering_eq (o : Outcome) (p : Part) : o.rendering p = o.rendered (.bare p) :=
  partBytes_parts o (.bare p)

theorem run_eq (here : Place) (t : Tree) (c : Save) :
    c.run here t = match t.write here c.path c.bytes with
      | .ok t' => .ok t'
      | .error problem => .error (.ofTransfer "write_result" problem.text) := by
  rw [run, save, rendering_eq]
  rfl

theorem run_of_leads (h : t.Leads here c.path q) :
    ∃ executable, c.run here t = .ok (t.put q (.file c.bytes executable)) := by
  obtain ⟨executable, hw⟩ := Tree.write_of_leads h c.bytes
  exact ⟨executable, by rw [run_eq, hw]⟩

theorem after_of_leads (h : t.Leads here c.path q) :
    ∃ executable, c.after here t = t.put q (.file c.bytes executable) := by
  obtain ⟨executable, hr⟩ := run_of_leads h
  exact ⟨executable, by rw [after, hr]⟩

theorem run_of_error {problem : Files.Problem} (h : t.target here c.path = .error problem) :
    ∃ r, c.run here t = .error r := by
  rw [run_eq, Tree.write_of_error h]
  exact ⟨_, rfl⟩

theorem after_of_run_error {r : Report} (h : c.run here t = .error r) : c.after here t = t := by
  rw [after, h]

theorem after_of_not_leads (h : ∀ q, ¬ t.Leads here c.path q) : c.after here t = t := by
  rcases t.target_cases here c.path with ⟨q, hq⟩ | ⟨d, hd⟩ | ⟨problem, hp⟩
  · exact absurd hq (h q)
  · rcases Tree.write_of_leadsOut hd c.bytes with ⟨-, hw⟩ | ⟨-, problem, hw⟩
    · rw [after, run_eq, hw]
    · rw [after, run_eq, hw]
  · obtain ⟨r, hr⟩ := run_of_error hp
    exact after_of_run_error hr

theorem get?_after_of_not_leads (h : ¬ t.Leads here c.path q) :
    (c.after here t).get? q = t.get? q := by
  by_cases hl : ∃ q', t.Leads here c.path q'
  · obtain ⟨q', hq'⟩ := hl
    obtain ⟨executable, ha⟩ := after_of_leads hq'
    have hne : q ≠ q' := fun he => h (he ▸ hq')
    rw [ha, Tree.get?_put_of_ne hne]
  · rw [after_of_not_leads fun q' hq' => hl ⟨q', hq'⟩]

theorem get?_after_of_leads (h : t.Leads here c.path q) :
    ∃ executable, (c.after here t).get? q = some (.file c.bytes executable) := by
  obtain ⟨executable, ha⟩ := after_of_leads h
  exact ⟨executable, by rw [ha, Tree.get?_put_self h.named]⟩

theorem alike_after (here : Place) (t : Tree) (c : Save) : t.Alike (c.after here t) := by
  by_cases hl : ∃ q, t.Leads here c.path q
  · obtain ⟨q, hq⟩ := hl
    obtain ⟨executable, ha⟩ := after_of_leads hq
    exact ha ▸ hq.alike c.bytes executable
  · rw [after_of_not_leads fun q hq => hl ⟨q, hq⟩]
    exact .refl t

theorem fails_iff (here : Place) (t : Tree) (c : Save) : (∃ r, c.run here t = .error r) ↔
    ¬ t.Opens here c.path ∨ (t.LeadsOut here c.path .full ∧ c.bytes ≠ []) := by
  rw [← Tree.write_fails_iff, run_eq]
  cases t.write here c.path c.bytes <;> simp

theorem exact (here : Place) (t : Tree) (c : Save) : Exact here t c where
  filled q hq := by
    obtain ⟨executable, hr⟩ := run_of_leads hq
    refine ⟨?_, get?_after_of_leads hq⟩
    rw [after, hr]
  fails := fails_iff here t c
  reported r hr := by
    have hafter := after_of_run_error hr
    rw [run_eq] at hr
    split at hr
    · cases hr
    · cases hr
      exact ⟨rfl, rfl, hafter⟩
  spared q hq := get?_after_of_not_leads hq

/-- A full device is opened, and a save there fails all the same. -/
theorem fails_of_full :
    (⟨[(["dev"], .directory), (["dev", "full"], .device .full)]⟩ : Tree).Opens [] "/dev/full" ∧
      ∃ r, run [] ⟨[(["dev"], .directory), (["dev", "full"], .device .full)]⟩
        ⟨{ stdout := some "out" }, .stdout, "/dev/full"⟩ = .error r := by
  let t : Tree := ⟨[(["dev"], .directory), (["dev", "full"], .device .full)]⟩
  let c : Save := ⟨{ stdout := some "out" }, .stdout, "/dev/full"⟩
  have hpath : Tree.checked "/dev/full" = .ok ⟨true, ["dev"] ++ ["full"], false⟩ := by rfl
  have hentry : t.get? ([] ++ ["dev"] ++ ["full"]) = some (.device .full) := rfl
  have hd : t.LeadsOut [] c.path .full :=
    ⟨_, Tree.target_of_directories hpath rfl (by decide) (by decide) hentry nofun nofun⟩
  have hbytes : c.bytes ≠ [] := by decide
  exact ⟨Or.inr ⟨.full, hd, rfl⟩, (fails_iff [] t c).mpr (Or.inr ⟨hd, hbytes⟩)⟩

/-! ## Sequences of calls -/

theorem afterAll_append (here : Place) (t : Tree) (cs ds : List Save) :
    afterAll here t (cs ++ ds) = afterAll here (afterAll here t cs) ds :=
  List.foldl_append

theorem alike_afterAll (here : Place) (t : Tree) (cs : List Save) :
    t.Alike (afterAll here t cs) := by
  induction cs generalizing t with
  | nil => exact .refl t
  | cons c cs ih => exact (alike_after here t c).trans (ih (c.after here t))

theorem get?_afterAll_of_not_leads {cs : List Save} (h : ∀ c ∈ cs, ¬ t.Leads here c.path q) :
    (afterAll here t cs).get? q = t.get? q := by
  induction cs generalizing t with
  | nil => rfl
  | cons c cs ih =>
    have hrest : ∀ d ∈ cs, ¬ (c.after here t).Leads here d.path q := fun d hd hl =>
      h d (List.mem_cons_of_mem _ hd) ((alike_after here t c).leads_iff.mpr hl)
    have hc := get?_after_of_not_leads (h c List.mem_cons_self)
    exact (ih hrest).trans hc

/-- After a sequence of saves every file holds what was saved last at it, and what was never saved
at is as it was. -/
theorem leaves (here : Place) (t : Tree) (cs : List Save) : Leaves here t cs where
  each before c after _ :=
    ⟨exact here _ c, fun _ _ => (alike_afterAll here t before).leads_iff.symm⟩
  last before c after q hcs hq hafter := by
    subst hcs
    have ha := alike_afterAll here t before
    have hq' : (afterAll here t before).Leads here c.path q := ha.leads_iff.mp hq
    obtain ⟨executable, hget⟩ := get?_after_of_leads hq'
    have hrest : ∀ d ∈ after, ¬ (c.after here (afterAll here t before)).Leads here d.path q :=
      fun d hd hl => hafter d hd ((ha.trans (alike_after here _ c)).leads_iff.mpr hl)
    refine ⟨executable, ?_⟩
    rw [afterAll_append]
    exact (get?_afterAll_of_not_leads hrest).trans hget
  kept _ h := get?_afterAll_of_not_leads h

end Save

end TreeTool.Outcome
