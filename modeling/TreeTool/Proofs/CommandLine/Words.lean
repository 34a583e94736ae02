import TreeTool.Proofs.CommandLine.DryRun
import TreeTool.Proofs.CommandLine.Given

/-!
# Command lines in words

Every option can be given in one word, with its value attached. A wording lists run flags, and the
settings and switches of a subcommand, and is written down with one word for each of them. It is
read back as what it lists, so that settings, switches and flags can be looked up in the lists.
-/

namespace TreeTool.CommandLine

/-! ## One word -/

def Given.word (g : Given) : String :=
  match g.value with
  | none => "--" ++ g.option.name
  | some v => "--" ++ g.option.name ++ "=" ++ v

theorem name_sound (o : Opt) : o.name.toList ≠ [] ∧ '=' ∉ o.name.toList := by
  cases o with
  | help => decide
  | switch s => cases s <;> decide
  | setting s => cases s <;> decide

theorem argument_long {side : Side} {p : Progress} {a : String} {cs : List Char}
    (h : a.toList = '-' :: '-' :: cs) (hc : cs ≠ []) : argument side p a = long side p cs := by
  obtain ⟨c, cs, rfl⟩ := List.exists_cons_of_ne_nil hc
  rw [argument, h]
  rfl

theorem long_switch {side : Side} {o : Opt} (hn : side.named? o.name = some o) (p : Progress) :
    long side p o.name.toList = p.option o none := by
  rw [long, Text.cutFirst_eq_none_iff.mpr (name_sound o).2]
  simp only [String.ofList_toList, hn]

theorem long_setting {side : Side} {o : Opt} (hn : side.named? o.name = some o) (p : Progress)
    (v : String) : long side p (o.name.toList ++ '=' :: v.toList) = p.option o (some v) := by
  rw [long, Text.cutFirst_append_mark (name_sound o).2]
  simp only [String.ofList_toList, hn]

theorem gives_word {side : Side} {g : Given} (hn : side.named? g.option.name = some g.option)
    (ha : g.Accepted) (hh : g.option ≠ .help) : Gives side g.word g := by
  have hsub {a : String} {cs : List Char} (h : a.toList = '-' :: cs) :
      side.subcommand? a = none := by
    rw [Side.subcommand?, operation?_of_dash h, ite_self]
  obtain ⟨o, value⟩ := g
  cases o with
  | help => exact absurd rfl hh
  | switch s =>
    obtain rfl : value = none := ha
    have hw : (Given.word ⟨.switch s, none⟩).toList =
        '-' :: '-' :: (Opt.switch s).name.toList := by
      simp [Given.word]
    refine Spells.gives ⟨hsub hw, fun p => ?_⟩
    rw [argument_long hw (name_sound _).1, long_switch hn]
  | setting k =>
    obtain ⟨v, rfl, hr⟩ := ha
    have hw : (Given.word ⟨.setting k, some v⟩).toList =
        '-' :: '-' :: ((Opt.setting k).name.toList ++ '=' :: v.toList) := by
      simp [Given.word]
    refine gives_attached (hsub hw) (fun p => ?_) hr
    rw [argument_long hw (by simp), long_setting hn]

/-! ## A wording -/

/-- What a command line gives: run flags, options of the subcommand, and operands. -/
structure Wording where
  flags : Flags
  operation : Operation
  settings : List (Setting × String)
  switches : List Switch
  operands : List String

namespace Wording

def given (w : Wording) : List Given :=
  w.settings.map (fun p => p.1.given p.2) ++ w.switches.map Switch.given

def options (w : Wording) : List Opt :=
  w.settings.map (fun p => .setting p.1) ++ w.switches.map .switch

def line (w : Wording) : List String :=
  w.flags.tokens ++ Coded.token w.operation ::
    (w.given.map Given.word ++ operandWords w.operands)

def invocation (w : Wording) : Invocation :=
  ⟨(flagSwitches w.flags).map Switch.given, w.given, w.operation, w.operands⟩

/-- The subcommand has these options, and they can be given together with these values. -/
structure Sound (w : Wording) : Prop where
  own : ∀ o ∈ w.options, o ∈ ownOptions w.operation
  accepted : ∀ p ∈ w.settings, refusal p.1 p.2 = none
  distinct : w.options.Nodup
  compatible : ∀ a ∈ w.options, ∀ b ∈ w.options, excludes a b = false
  count : w.operands.length = w.operation.arity

variable {w : Wording}

theorem option_given (w : Wording) : w.given.map (·.option) = w.options := by
  simp [given, options, Function.comp_def]

theorem accepted_given (h : w.Sound) : ∀ g ∈ w.given, g.Accepted := by
  intro g hg
  rcases List.mem_append.mp hg with hg | hg
  · obtain ⟨p, hp, rfl⟩ := List.mem_map.mp hg
    exact ⟨p.2, rfl, h.accepted p hp⟩
  · obtain ⟨s, -, rfl⟩ := List.mem_map.mp hg
    rfl

theorem own_sound (op : Operation) : ∀ o ∈ ownOptions op,
    (innerSide op).named? o.name = some o ∧ o ≠ .help := by
  cases op <;> decide

theorem gives_given (h : w.Sound) :
    List.Forall₂ (Gives (innerSide w.operation)) (w.given.map Given.word) w.given := by
  rw [List.forall₂_map_left_iff, List.forall₂_same]
  intro g hg
  have ho : g.option ∈ w.options := w.option_given ▸ List.mem_map_of_mem hg
  obtain ⟨hnamed, hhelp⟩ := own_sound w.operation g.option (h.own _ ho)
  exact gives_word hnamed (accepted_given h g hg) hhelp

theorem help_not_mem (h : w.Sound) : Opt.help ∉ w.given.map (·.option) := by
  rw [option_given]
  exact fun hm => (own_sound w.operation .help (h.own _ hm)).2 rfl

theorem flagSwitches_sound (f : Flags) :
    ((flagSwitches f).map Opt.switch).Nodup ∧
      ∀ a ∈ (flagSwitches f).map Opt.switch, ∀ b ∈ (flagSwitches f).map Opt.switch,
        excludes a b = false := by
  obtain ⟨time, verbose, quiet, prune⟩ := f
  cases time <;> cases verbose <;> cases quiet <;> cases prune <;> decide

theorem readSide_outer (w : Wording) :
    ∃ p, Ready p ((flagSwitches w.flags).map Switch.given) ∧ readSide outerSide {} w.line =
      .ok (p, some (w.operation, w.given.map Given.word ++ operandWords w.operands)) := by
  let inner := w.given.map Given.word ++ operandWords w.operands
  have hr : Ready {} [] := ready_given List.not_mem_nil
  have hs : outerSide.subcommand? (Coded.token w.operation) = some w.operation :=
    operation?_token w.operation
  obtain ⟨p, hp, hread⟩ := readSide_switches (Coded.token w.operation :: inner)
    (forall₂_tokens w.flags) hr List.not_mem_nil (by simpa using (flagSwitches_sound w.flags).1)
  exact ⟨p, hp, by rw [line, hread, readSide_subcommand _ hp hs]⟩

theorem readSide_inner (h : w.Sound) :
    ∃ q, readSide (innerSide w.operation) {}
        (w.given.map Given.word ++ operandWords w.operands) = .ok (q, none) ∧
      q.has .help = false ∧
      ∃ escaped, q.settle = .ok { given := w.given, operands := w.operands, escaped } := by
  have hr : Ready {} [] := ready_given List.not_mem_nil
  have hl : w.operands.length ≤ (innerSide w.operation).operands := h.count.le
  obtain ⟨q, hq, hread⟩ := readSide_givens (operandWords w.operands) (gives_given h) hr
    (by simpa using help_not_mem h) (by simpa only [List.nil_append, option_given] using h.distinct)
  rw [hread]
  exact readSide_operandWords hq rfl (help_not_mem h) hl

theorem read_line (h : w.Sound) : read w.line = .ok (.invocation w.invocation) := by
  obtain ⟨p, hp, houter⟩ := w.readSide_outer
  obtain ⟨q, hinner, hq, escaped, hs⟩ := readSide_inner h
  have hh : p.has .help = false := by simpa [Progress.has] using hp.no_help
  have hi : finish (innerSide w.operation) q =
      .ok { given := w.given, operands := w.operands, escaped } :=
    finish_eq_ok hs h.count (by simpa only [option_given] using h.compatible)
  have ho : finish outerSide p = .ok { given := (flagSwitches w.flags).map Switch.given } :=
    finish_eq_ok hp.settled rfl
      (by simpa [Function.comp_def] using (flagSwitches_sound w.flags).2)
  simp [read, houter, hinner, hh, hq, hi, ho, bind, Except.bind, pure, Except.pure, invocation]

/-! ## What it gives -/

theorem on_invocation (w : Wording) (s : Switch) :
    w.invocation.on s = ((flagSwitches w.flags).contains s || w.switches.contains s) := by
  have hs : (w.settings.map fun p => p.1.given p.2).any (·.option == .switch s) = false := by
    simp
  rw [Invocation.on, invocation, given, List.any_append, List.any_append, hs, Bool.false_or,
    DryRun.any_given, DryRun.any_given]

theorem find?_settings (ps : List (Setting × String)) (k : Setting) :
    (ps.map fun p => p.1.given p.2).find? (·.option == .setting k) =
      (ps.lookup k).map k.given := by
  induction ps with
  | nil => rfl
  | cons p ps ih =>
    rw [List.map_cons, List.find?_cons, List.lookup_cons, Setting.option_given, ih]
    by_cases hk : p.1 = k
    · subst hk
      simp
    · have ho : (Opt.setting p.1 == Opt.setting k) = false :=
        beq_eq_false_iff_ne.mpr fun h => hk (Opt.setting.inj h)
      rw [ho, beq_eq_false_iff_ne.mpr (Ne.symm hk)]

theorem value?_invocation (w : Wording) (k : Setting) :
    w.invocation.value? k = w.settings.lookup k := by
  rw [Invocation.value?]
  simp only [invocation, given, List.find?_append, DryRun.find?_given, find?_settings,
    Option.or_none]
  cases w.settings.lookup k <;> rfl

theorem flags_invocation (h : w.Sound) : w.invocation.flags = w.flags := by
  have hs (s : Switch) (hm : ∀ op, Opt.switch s ∉ ownOptions op) :
      w.switches.contains s = false := by
    rw [List.contains_eq_mem, decide_eq_false_iff_not]
    intro hw
    exact hm w.operation (h.own _ (List.mem_append_right _ (List.mem_map_of_mem hw)))
  have ht := hs .time (by intro op; cases op <;> decide)
  have hv := hs .verbose (by intro op; cases op <;> decide)
  have hn := hs .noOutput (by intro op; cases op <;> decide)
  have hp := hs .pruneUnreachable (by intro op; cases op <;> decide)
  have hu := hs .pruneUseless (by intro op; cases op <;> decide)
  rw [Invocation.flags]
  simp only [on_invocation, contains_flagSwitches, ht, hv, hn, hp, hu, Bool.or_false]
  obtain ⟨⟨time, verbose, quiet, prune⟩, _, _, _, _⟩ := w
  cases prune <;> rfl

end Wording

end TreeTool.CommandLine
