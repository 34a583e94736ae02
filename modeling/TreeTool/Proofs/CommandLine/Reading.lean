import Mathlib.Data.List.Nodup
import TreeTool.CommandLine.Reader
import TreeTool.Proofs.Text.Cutting
import TreeTool.Proofs.Vocabulary

/-!
# Reading one side of a command line

A setting that stands apart from its value is kept back until something follows, so what has been
read so far is `Ready p gs`: once the setting kept back is taken in, exactly `gs` is given. Each
lemma takes one argument, or a setting with its value, from one such state to the next; after two
dashes every argument is an operand.
-/

namespace TreeTool.CommandLine

/-! ## Words -/

theorem operation?_token (op : Operation) : operation? (Coded.token op) = some op := by
  rw [operation?, Coded.ofToken_token]

theorem operation?_of_dash {a : String} {cs : List Char} (h : a.toList = '-' :: cs) :
    operation? a = none := by
  rw [operation?]
  cases ha : Coded.ofToken Operation a with
  | error f => rfl
  | ok op =>
    have hd : (Coded.token op).toList.head? ≠ some '-' := by cases op <;> decide
    rw [← Coded.eq_token_of_ofToken ha, h] at hd
    exact absurd rfl hd

namespace Progress

theorem settle_of_pending {p : Progress} {s : Setting} {v : String}
    (h : p.pending = some ⟨s, some v⟩) :
    p.settle = { p with pending := none }.giveSetting s v := by
  rw [settle, h]

theorem give_of_not_given {p : Progress} {g : Given} (h : ∀ g' ∈ p.given, g'.option ≠ g.option) :
    p.give g = .ok { p with given := p.given ++ [g] } := by
  have hn : p.has g.option = false := by simpa [has] using h
  rw [give, hn]
  rfl

theorem giveSetting_of_not_given {p : Progress} {s : Setting} {v : String}
    (h : ∀ g' ∈ p.given, g'.option ≠ .setting s) (hr : refusal s v = none) :
    p.giveSetting s v = .ok { p with given := p.given ++ [⟨.setting s, some v⟩] } := by
  rw [giveSetting, give_of_not_given h]
  simp [hr]

end Progress

/-! ## Before two dashes -/

def Switch.given (s : Switch) : Given := ⟨.switch s, none⟩

def Setting.given (k : Setting) (v : String) : Given := ⟨.setting k, some v⟩

@[simp] theorem Switch.option_given (s : Switch) : s.given.option = .switch s := rfl

@[simp] theorem Setting.option_given (k : Setting) (v : String) :
    (k.given v).option = .setting k := rfl

/-- What has been read is not over, waits for no value, and comes to exactly `gs`. -/
structure Ready (p : Progress) (gs : List Given) : Prop where
  settled : p.settle = .ok { given := gs }
  awaits : p.awaits = none
  escaped : p.escaped = false
  no_operands : p.operands = []
  no_help : Opt.help ∉ p.given.map (·.option)

/-- A word that is an option and nothing else, and that has no value attached to it. -/
structure Spells (side : Side) (a : String) (o : Opt) : Prop where
  subcommand : side.subcommand? a = none
  argument (p : Progress) : argument side p a = p.option o none

section

variable {side : Side} {p : Progress} {gs : List Given} {a v : String} {s : Switch} {k : Setting}

theorem ready_given (h : Opt.help ∉ gs.map (·.option)) : Ready { given := gs } gs where
  settled := rfl
  awaits := rfl
  escaped := rfl
  no_operands := rfl
  no_help := h

theorem readSide_argument {p' : Progress} (as : List String) (he : p.escaped = false)
    (hh : Opt.help ∉ p.given.map (·.option)) (hs : side.subcommand? a = none)
    (ha : argument side p a = .ok p') : readSide side p (a :: as) = readSide side p' as := by
  rw [readSide, he]
  simp [hs, hh, ha]

theorem readSide_subcommand {op : Operation} (as : List String) (hr : Ready p gs)
    (ha : side.subcommand? a = some op) :
    readSide side p (a :: as) = .ok (p, some (op, as)) := by
  rw [readSide, hr.escaped]
  simp [hr.awaits, ha]

structure Gives (side : Side) (a : String) (g : Given) : Prop where
  subcommand : side.subcommand? a = none
  argument {p : Progress} {gs : List Given} (hr : Ready p gs)
    (hn : g.option ∉ gs.map (·.option)) : argument side p a = .ok { given := gs ++ [g] }

theorem Spells.gives (h : Spells side a (.switch s)) : Gives side a s.given where
  subcommand := h.subcommand
  argument hr hn := by
    rw [h.argument, Progress.option, hr.settled]
    exact Progress.give_of_not_given (by simpa using hn)

theorem gives_attached (hs : side.subcommand? a = none)
    (ha : ∀ p, argument side p a = p.option (.setting k) (some v)) (hv : refusal k v = none) :
    Gives side a (k.given v) where
  subcommand := hs
  argument hr hn := by
    rw [ha, Progress.option, hr.settled]
    exact Progress.giveSetting_of_not_given (by simpa using hn) hv

theorem readSide_given {g : Given} (as : List String) (hr : Ready p gs) (hg : Gives side a g)
    (hn : g.option ∉ gs.map (·.option)) :
    readSide side p (a :: as) = readSide side { given := gs ++ [g] } as :=
  readSide_argument as hr.escaped hr.no_help hg.subcommand (hg.argument hr hn)

theorem readSide_givens {ws : List String} {gs' : List Given} (as : List String)
    (h : List.Forall₂ (Gives side) ws gs') (hr : Ready p gs)
    (hh : Opt.help ∉ (gs ++ gs').map (·.option)) (hn : ((gs ++ gs').map Given.option).Nodup) :
    ∃ q, Ready q (gs ++ gs') ∧ readSide side p (ws ++ as) = readSide side q as := by
  induction h generalizing p gs with
  | nil => exact ⟨p, by simpa using hr, rfl⟩
  | @cons a g ws gs' hd _ ih =>
    have hg : g.option ∉ gs.map (·.option) := by
      intro hm
      rw [List.map_append] at hn
      exact List.disjoint_of_nodup_append hn hm (by simp)
    -- what is given by this word is among what is given before the next one
    rw [← List.singleton_append, ← List.append_assoc] at hh hn ⊢
    have hh' : Opt.help ∉ (gs ++ [g]).map (·.option) := by
      rw [List.map_append] at hh
      exact fun hm => hh (List.mem_append_left _ hm)
    obtain ⟨q, hq, hread⟩ := ih (ready_given hh') hh hn
    exact ⟨q, hq, by rw [List.cons_append, readSide_given _ hr hd hg, hread]⟩

theorem readSide_switches {ts : List String} {ss : List Switch} (as : List String)
    (h : List.Forall₂ (fun t s => Spells side t (.switch s)) ts ss) (hr : Ready p gs)
    (hh : Opt.help ∉ gs.map (·.option))
    (hn : (gs.map Given.option ++ ss.map Opt.switch).Nodup) :
    ∃ q, Ready q (gs ++ ss.map Switch.given) ∧
      readSide side p (ts ++ as) = readSide side q as := by
  have hg : List.Forall₂ (Gives side) ts (ss.map Switch.given) :=
    List.forall₂_map_right_iff.mpr (h.imp fun _ _ hs => hs.gives)
  exact readSide_givens as hg hr (by simpa using hh) (by simpa [Function.comp_def] using hn)

theorem argument_awaited (ha : p.awaits = some k) (hv : v.toList.head? ≠ some '-') :
    argument side p v = .ok { p with pending := some ⟨k, some v⟩ } := by
  rw [argument]
  split <;> simp_all

theorem readSide_apart (as : List String) (hr : Ready p gs) (ha : Spells side a (.setting k))
    (hh : Opt.help ∉ gs.map (·.option)) (hd : v.toList.head? ≠ some '-') :
    readSide side p (a :: v :: as) =
      readSide side { given := gs, pending := some ⟨k, some v⟩ } as := by
  have hs : argument side p a = .ok { given := gs, pending := some ⟨k, none⟩ } := by
    rw [ha.argument, Progress.option, hr.settled]
    rfl
  have hv : argument side { given := gs, pending := some ⟨k, none⟩ } v =
      .ok { given := gs, pending := some ⟨k, some v⟩ } := argument_awaited rfl hd
  rw [readSide_argument _ hr.escaped hr.no_help ha.subcommand hs, readSide, hv]
  simp [Progress.awaits, hh]

theorem ready_pending (hh : Opt.help ∉ gs.map (·.option))
    (hn : Opt.setting k ∉ gs.map (·.option)) (hv : refusal k v = none) :
    Ready { given := gs, pending := some ⟨k, some v⟩ } (gs ++ [k.given v]) where
  settled := by
    have hn : ∀ g ∈ gs, g.option ≠ Opt.setting k := by simpa using hn
    rw [Progress.settle_of_pending rfl]
    exact Progress.giveSetting_of_not_given hn hv
  awaits := rfl
  escaped := rfl
  no_operands := rfl
  no_help := hh

/-! ## After two dashes -/

theorem Progress.give_escape (g : Given) :
    { p with escaped := true }.give g = (p.give g).map ({ · with escaped := true }) := by
  have hg : { p with escaped := true }.has g.option = p.has g.option := rfl
  rw [give, give, hg]
  cases p.has g.option <;> rfl

theorem Progress.settle_escape :
    { p with escaped := true }.settle = p.settle.map ({ · with escaped := true }) := by
  rw [settle, settle]
  obtain ⟨given, operands, _ | ⟨k, _ | v⟩, escaped⟩ := p
  · rfl
  · rfl
  · have hg := give_escape (p := { given, operands, escaped }) ⟨.setting k, some v⟩
    simp only [giveSetting, hg]
    cases { given, operands, escaped : Progress }.give ⟨.setting k, some v⟩ with
    | error m => rfl
    | ok q => cases refusal k v <;> rfl

theorem readSide_operands {ps os : List String} (hl : ps.length + os.length ≤ side.operands) :
    readSide side { given := gs, operands := ps, escaped := true } os =
      .ok ({ given := gs, operands := ps ++ os, escaped := true }, none) := by
  induction os generalizing ps with
  | nil => simp [readSide]
  | cons a os ih =>
    rw [List.length_cons] at hl
    have ha : operand side { given := gs, operands := ps, escaped := true } a =
        .ok { given := gs, operands := ps ++ [a], escaped := true } := by
      rw [operand, if_pos (show ps.length < side.operands by omega)]
      rfl
    have hl : (ps ++ [a]).length + os.length ≤ side.operands := by
      rw [List.length_append, List.length_singleton]
      omega
    rw [readSide, ha]
    simp only [if_true]
    rw [ih hl, List.append_assoc, List.singleton_append]

def operandWords : List String → List String
  | [] => []
  | a :: os => "--" :: a :: os

theorem readSide_operandWords {os : List String} (hr : Ready p gs) (ho : side.outer = false)
    (hh : Opt.help ∉ gs.map (·.option)) (hl : os.length ≤ side.operands) :
    ∃ q, readSide side p (operandWords os) = .ok (q, none) ∧ q.has .help = false ∧
      ∃ escaped, q.settle = .ok { given := gs, operands := os, escaped := escaped } := by
  cases os with
  | nil => exact ⟨p, rfl, by simpa [Progress.has] using hr.no_help, _, hr.settled⟩
  | cons a os =>
    rw [List.length_cons] at hl
    have hs : side.subcommand? "--" = none := by
      rw [Side.subcommand?, ho]
      rfl
    have ha : operand side { p with escaped := true } a =
        .ok { given := gs, operands := [a], escaped := true } := by
      rw [operand, if_pos (by rw [hr.no_operands, List.length_nil]; omega),
        Progress.settle_escape, hr.settled]
      rfl
    refine ⟨{ given := gs, operands := a :: os, escaped := true }, ?_, ?_, _, rfl⟩
    · rw [operandWords, readSide_argument _ hr.escaped hr.no_help hs rfl, readSide, ha]
      simp only [if_true]
      rw [readSide_operands (by rw [List.length_singleton]; omega)]
      rfl
    · simpa [Progress.has] using hh

/-! ## The end of a side -/

theorem conflict?_eq_none {gs' : List Given}
    (h : ∀ g ∈ gs', ∀ g' ∈ p.given, excludes g.option g'.option = false) :
    conflict? p gs' = none := by
  induction gs' with
  | nil => rfl
  | cons g gs' ih =>
    rw [List.forall_mem_cons] at h
    have hf : (p.given.map (·.option)).filter (excludes g.option) = [] := by
      simpa [List.filter_eq_nil_iff] using h.1
    rw [conflict?, hf]
    exact ih h.2

theorem finish_eq_ok {q : Progress} (h : p.settle = .ok q) (hl : q.operands.length = side.operands)
    (hc : ∀ a ∈ q.given.map (·.option), ∀ b ∈ q.given.map (·.option), excludes a b = false) :
    finish side p = .ok q := by
  have hc : conflict? q q.given = none := by
    apply conflict?_eq_none
    simpa using hc
  rw [finish, h]
  simp only [bind, Except.bind, hc]
  rw [if_neg (by omega)]
  rfl

end

end TreeTool.CommandLine
