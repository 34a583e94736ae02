import TreeTool.Proofs.CommandLine.Words

/-!
# Pruning flags on a command line

A reader drops no switch: each one that occurs in the words it takes is given once they are read.
At the end of a side nothing is given that excludes something else there, so a side on which both
pruning switches occur is refused. The two sides are not held against each other: of one switch
before the subcommand name and the other one behind it, the flags keep `-p`.
-/

namespace TreeTool.CommandLine

/-! ## Switches in words -/

/-- Whether a word is a switch, or a letter of it is. The letter of a setting takes the letters
behind it as its value. -/
def Switch.occursIn (s : Switch) (a : String) : Bool :=
  match a.toList with
  | '-' :: '-' :: cs => cs = s.name.toList
  | '-' :: cs => (cs.takeWhile (· ≠ 'r')).any (s.letter? = some ·)
  | _ => false

def Switch.occurs (s : Switch) (args : List String) : Bool :=
  (args.takeWhile (· ≠ "--")).any s.occursIn

structure Side.Knows (side : Side) (s : Switch) : Prop where
  named : side.named? s.name = some (.switch s)
  lettered : ∀ c, s.letter? = some c → side.lettered? c = some (.switch s)

section

variable {side : Side} {s : Switch} {p q : Progress} {a : String} {args : List String}

theorem Switch.occurs_cons {as : List String} :
    s.occurs (a :: as) ↔ a ≠ "--" ∧ (s.occursIn a ∨ s.occurs as) := by
  by_cases ha : a = "--" <;> simp [occurs, ha]

theorem Switch.occurs_append {as bs : List String} (h : "--" ∉ as) :
    s.occurs (as ++ bs) ↔ s.occurs as ∨ s.occurs bs := by
  induction as with
  | nil => simp [occurs]
  | cons a as ih =>
    obtain ⟨ha, has⟩ := List.ne_and_not_mem_of_not_mem_cons h
    rw [List.cons_append, occurs_cons, occurs_cons, ih has]
    tauto

theorem Switch.occursIn_token (s : Switch) (op : Operation) :
    s.occursIn (Coded.token op) = false := by
  cases op <;> rfl

theorem Side.lettered?_setting {c : Char} {k : Setting}
    (h : side.lettered? c = some (.setting k)) : c = 'r' := by
  have hc : (Opt.setting k).letter? = some c := by simpa using List.find?_some h
  cases k <;> simp_all [Opt.letter?, Setting.letter?, eq_comm]

theorem Side.knows_global (h : .switch s ∈ globals) :
    outerSide.Knows s ∧ ∀ op, (innerSide op).Knows s := by
  refine ⟨⟨?_, ?_⟩, fun op => ⟨?_, ?_⟩⟩
  · cases s <;> first | rfl | exact absurd h (by decide)
  · cases s <;> first | exact absurd h (by decide) | (rintro c ⟨⟩ <;> rfl)
  · cases op <;> cases s <;> first | rfl | exact absurd h (by decide)
  · cases op <;> cases s <;> first | exact absurd h (by decide) | (rintro c ⟨⟩ <;> rfl)

/-! ## What a reader keeps -/

namespace Progress

/-- Nothing that was given is lost, and two dashes have not been seen in between. -/
structure Grows (p q : Progress) : Prop where
  given : p.given ⊆ q.given
  escaped : q.escaped = p.escaped

theorem Grows.refl (p : Progress) : Grows p p := ⟨List.Subset.refl _, rfl⟩

theorem Grows.trans {r : Progress} (h : Grows p q) (h' : Grows q r) : Grows p r where
  given := List.Subset.trans h.given h'.given
  escaped := h'.escaped.trans h.escaped

theorem grows_append (p : Progress) (gs : List Given) :
    Grows p { p with given := p.given ++ gs } :=
  ⟨List.subset_append_left _ _, rfl⟩

theorem grows_pending (p : Progress) (pending : Option Pending) : Grows p { p with pending } :=
  ⟨List.Subset.refl _, rfl⟩

theorem grows_giveSetting {k : Setting} {v : String} (h : p.giveSetting k v = .ok q) :
    Grows p q := by
  rw [(giveSetting_eq_ok h).1]
  exact p.grows_append _

theorem grows_settle (h : p.settle = .ok q) : Grows p q := by
  rw [settle] at h
  split at h
  · cases h
    exact .refl _
  · cases h
  · exact (p.grows_pending none).trans (grows_giveSetting h)

theorem settle_give_of_option {o : Opt} (h : p.option o none = .ok q)
    (ho : ∀ k, o ≠ .setting k) : ∃ r, p.settle = .ok r ∧ r.give ⟨o, none⟩ = .ok q := by
  cases hs : p.settle with
  | error m => cases o <;> simp_all [option, bind, Except.bind]
  | ok r =>
    refine ⟨r, rfl, ?_⟩
    cases o with
    | setting k => exact absurd rfl (ho k)
    | switch s => simpa [option, hs, bind, Except.bind] using h
    | help => simpa [option, hs, bind, Except.bind] using h

theorem given_of_option {o : Opt} (h : p.option o none = .ok q) (ho : ∀ k, o ≠ .setting k) :
    (⟨o, none⟩ : Given) ∈ q.given := by
  obtain ⟨r, -, hg⟩ := settle_give_of_option h ho
  rw [give_eq_ok hg]
  exact List.mem_append_right _ (List.mem_singleton_self _)

theorem help_of_option (h : p.option .help none = .ok q) :
    Opt.help ∈ q.given.map (·.option) :=
  List.mem_map_of_mem (given_of_option h (by simp))

theorem grows_option {o : Opt} {attached : Option String} (h : p.option o attached = .ok q) :
    Grows p q := by
  have hgive (o : Opt) (ho : ∀ k, o ≠ .setting k) (h : p.option o none = .ok q) : Grows p q := by
    obtain ⟨r, hr, hg⟩ := settle_give_of_option h ho
    rw [give_eq_ok hg]
    exact (grows_settle hr).trans (r.grows_append _)
  cases o with
  | switch s =>
    cases attached with
    | none => exact hgive _ (by simp) h
    | some v => cases h
  | help =>
    cases attached with
    | none => exact hgive _ (by simp) h
    | some v => cases h
  | setting k =>
    cases hs : p.settle with
    | error m => simp [option, hs, bind, Except.bind] at h
    | ok r =>
      simp only [option, hs, bind, Except.bind] at h
      cases attached with
      | none => exact Except.ok.inj h ▸ (grows_settle hs).trans (r.grows_pending _)
      | some v => exact (grows_settle hs).trans (grows_giveSetting h)

theorem grows_long {cs : List Char} (h : long side p cs = .ok q) : Grows p q := by
  simp only [long] at h
  split at h
  · cases h
  · exact grows_option h

theorem grows_letters {cs : List Char} (h : letters side p cs = .ok q) : Grows p q := by
  induction cs generalizing p with
  | nil =>
    cases h
    exact .refl _
  | cons c cs ih =>
    rw [letters] at h
    split at h
    · cases h
    · split at h <;> exact grows_option h
    · exact grows_option h
    · rename_i s _
      cases ho : p.option (.switch s) none with
      | error m => simp [ho] at h
      | ok r => exact (grows_option ho).trans (ih (by simpa only [ho] using h))

theorem grows_operand (h : operand side p a = .ok q) : Grows p q := by
  rw [operand] at h
  split at h
  · cases hs : p.settle with
    | error m => simp [hs, bind, Except.bind] at h
    | ok r =>
      simp only [hs, bind, Except.bind, pure, Except.pure, Except.ok.injEq] at h
      subst h
      exact ⟨(grows_settle hs).given, (grows_settle hs).escaped⟩
  · split at h <;> cases h

theorem grows_argument (ha : a ≠ "--") (h : argument side p a = .ok q) : Grows p q := by
  rw [argument] at h
  split at h
  · rename_i hd
    exact absurd (String.toList_injective hd) ha
  · exact grows_long h
  · exact grows_letters h
  · split at h
    · exact Except.ok.inj h ▸ p.grows_pending _
    · exact grows_operand h

/-! ## What a word gives -/

theorem switch_of_letters {cs : List Char} {c : Char} (hk : side.Knows s)
    (hl : s.letter? = some c) (hc : c ∈ cs.takeWhile (· ≠ 'r')) (h : letters side p cs = .ok q)
    (hh : Opt.help ∉ q.given.map (·.option)) : s.given ∈ q.given := by
  induction cs generalizing p with
  | nil => cases hc
  | cons d cs ih =>
    rw [letters] at h
    split at h
    · cases h
    · -- nothing is read as a letter behind that of a setting
      rename_i k hd
      rw [Side.lettered?_setting hd] at hc
      simp at hc
    · exact absurd (help_of_option h) hh
    · rename_i s' hd
      cases ho : p.option (.switch s') none with
      | error m => simp [ho] at h
      | ok r =>
        simp only [ho] at h
        by_cases hcd : c = d
        · subst hcd
          rw [hk.lettered c hl, Option.some.injEq] at hd
          cases hd
          exact (grows_letters h).given (given_of_option ho (by simp))
        · have hr : d ≠ 'r' := by
            rintro rfl
            simp at hc
          rw [List.takeWhile_cons_of_pos (by simpa using hr)] at hc
          exact ih ((List.mem_cons.mp hc).resolve_left hcd) h

theorem switch_of_argument (hk : side.Knows s) (hs : s.occursIn a)
    (h : argument side p a = .ok q) (hh : Opt.help ∉ q.given.map (·.option)) :
    s.given ∈ q.given := by
  rw [Switch.occursIn] at hs
  split at hs
  · rename_i cs ha
    have hc : cs = (Opt.switch s).name.toList := of_decide_eq_true hs
    rw [argument_long ha (hc ▸ (name_sound _).1), hc, long_switch hk.named] at h
    exact given_of_option h (by simp)
  · rename_i cs hn ha
    obtain ⟨c, hc, hl⟩ : ∃ c ∈ cs.takeWhile (· ≠ 'r'), s.letter? = some c := by simpa using hs
    obtain ⟨d, ds, rfl⟩ := List.exists_cons_of_ne_nil (l := cs) (by rintro rfl; cases hc)
    have hargument : argument side p a = letters side p (d :: ds) := by
      rw [argument, ha]
      split <;> simp_all
    exact switch_of_letters hk hl hc (hargument ▸ h) hh
  · cases hs

end Progress

/-! ## What the words of a side give -/

/-- The words that a reader takes from one state to another. -/
inductive Takes (side : Side) : Progress → List String → Progress → Prop
  | nil (p : Progress) : Takes side p [] p
  | escape {p q : Progress} {as : List String} : p.escaped = false →
    Takes side { p with escaped := true } as q → Takes side p ("--" :: as) q
  | operand {p q r : Progress} {a : String} {as : List String} : p.escaped = true →
    operand side p a = .ok q → Takes side q as r → Takes side p (a :: as) r
  | argument {p q r : Progress} {a : String} {as : List String} : p.escaped = false → a ≠ "--" →
    argument side p a = .ok q → Takes side q as r → Takes side p (a :: as) r

namespace Takes

variable {as : List String}

theorem given (h : Takes side p as q) : p.given ⊆ q.given := by
  induction h with
  | nil p => exact List.Subset.refl _
  | escape _ _ ih => exact ih
  | operand _ ho _ ih => exact List.Subset.trans (Progress.grows_operand ho).given ih
  | argument _ hn ha _ ih => exact List.Subset.trans (Progress.grows_argument hn ha).given ih

theorem escaped (h : Takes side p as q) (hp : p.escaped = true) : q.escaped = true := by
  induction h with
  | nil p => exact hp
  | escape _ _ ih => exact ih rfl
  | operand _ ho _ ih => exact ih ((Progress.grows_operand ho).escaped.trans hp)
  | argument he => simp [he] at hp

theorem dashes_not_mem (h : Takes side p as q) (hq : q.escaped = false) : "--" ∉ as := by
  induction h with
  | nil p => exact List.not_mem_nil
  | escape _ ht => simp [ht.escaped rfl] at hq
  | operand he ho ht =>
    simp [ht.escaped ((Progress.grows_operand ho).escaped.trans he)] at hq
  | argument _ hn _ _ ih => exact List.not_mem_cons_of_ne_of_not_mem hn.symm (ih hq)

theorem switch (h : Takes side p as q) (hk : side.Knows s) (hp : p.escaped = false)
    (hs : s.occurs as) (hh : Opt.help ∉ q.given.map (·.option)) : s.given ∈ q.given := by
  induction h with
  | nil p => simp [Switch.occurs] at hs
  | escape => exact absurd rfl (Switch.occurs_cons.mp hs).1
  | operand he => simp [he] at hp
  | argument _ hn ha ht ih =>
    rcases (Switch.occurs_cons.mp hs).2 with hs | hs
    · exact ht.given (Progress.switch_of_argument hk hs ha fun hm =>
        hh (List.map_subset _ ht.given hm))
    · exact ih ((Progress.grows_argument hn ha).escaped.trans hp) hs hh

end Takes

def remainder : Option (Operation × List String) → List String
  | none => []
  | some (op, as) => Coded.token op :: as

theorem token_of_subcommand? {op : Operation} (h : side.subcommand? a = some op) :
    a = Coded.token op ∧ side.outer = true := by
  rw [Side.subcommand?, operation?] at h
  split at h
  · rename_i hs
    split at h
    · rename_i ho
      cases h
      exact ⟨Coded.eq_token_of_ofToken ho, hs⟩
    · cases h
  · cases h

/-- A reader takes the words before those that it leaves, unless help is asked for. Only the outer
side leaves any, and only before two dashes. -/
theorem takes_of_readSide {as : List String} {rest : Option (Operation × List String)}
    (h : readSide side p as = .ok (q, rest)) (hh : q.has .help = false) :
    ∃ taken, as = taken ++ remainder rest ∧ Takes side p taken q ∧
      (rest ≠ none → q.escaped = false ∧ side.outer = true) := by
  induction as generalizing p with
  | nil =>
    cases h
    exact ⟨[], rfl, .nil _, fun h => absurd rfl h⟩
  | cons a as ih =>
    rw [readSide] at h
    split at h
    · rename_i he
      cases ho : operand side p a with
      | error m => simp [ho] at h
      | ok p' =>
        obtain ⟨taken, rfl, ht, hr⟩ := ih (by simpa only [ho] using h)
        exact ⟨a :: taken, rfl, .operand he ho ht, hr⟩
    · rename_i he
      have he : p.escaped = false := by simpa using he
      split at h
      · rename_i op hop
        cases h
        have hs : side.subcommand? a = some op := by
          split at hop
          · exact hop
          · cases hop
        obtain ⟨ha, ho⟩ := token_of_subcommand? hs
        exact ⟨[], by rw [ha]; rfl, .nil _, fun _ => ⟨he, ho⟩⟩
      · split at h
        · rename_i hm
          cases h
          have hq : q.has .help = true := by simpa [Progress.has] using hm
          simp [hq] at hh
        · cases ha : argument side p a with
          | error m => simp [ha] at h
          | ok p' =>
            obtain ⟨taken, rfl, ht, hr⟩ := ih (by simpa only [ha] using h)
            by_cases hd : a = "--"
            · subst hd
              cases ha
              exact ⟨"--" :: taken, rfl, .escape he ht, hr⟩
            · exact ⟨a :: taken, rfl, .argument he hd ha ht, hr⟩

/-! ## The end of a side -/

theorem excludes_of_conflict? {gs : List Given} (h : conflict? p gs = none) :
    ∀ g ∈ gs, ∀ g' ∈ p.given, excludes g.option g'.option = false := by
  induction gs with
  | nil => simp
  | cons g gs ih =>
    rw [conflict?] at h
    split at h
    · rename_i hf
      rw [List.forall_mem_cons]
      refine ⟨?_, ih h⟩
      simpa [List.filter_eq_nil_iff] using hf
    · cases h

theorem excludes_of_finish (h : finish side p = .ok q) :
    ∀ g ∈ q.given, ∀ g' ∈ q.given, excludes g.option g'.option = false := by
  rw [finish, (Progress.settle_of_finish h).1] at h
  simp only [bind, Except.bind] at h
  split at h
  · cases h
  · rename_i hc
    exact excludes_of_conflict? hc

end

/-! ## Both sides -/

variable {args : List String} {i : Invocation} {m : Machine}

/-- A command line that is read, in the words of its two sides. -/
structure Sides (args : List String) (i : Invocation) (before after : List String) : Prop where
  line : args = before ++ Coded.token i.operation :: after
  dashes : "--" ∉ before
  outer : ∀ s, .switch s ∈ globals → s.occurs before → s.given ∈ i.outer
  inner : ∀ s, .switch s ∈ globals → s.occurs after → s.given ∈ i.inner
  outer_compatible : ∀ g ∈ i.outer, ∀ g' ∈ i.outer, excludes g.option g'.option = false
  inner_compatible : ∀ g ∈ i.inner, ∀ g' ∈ i.inner, excludes g.option g'.option = false

structure Taken (args : List String) (i : Invocation) (before after : List String)
    (outer inner : Progress) : Prop where
  line : args = before ++ Coded.token i.operation :: after
  takes_outer : Takes outerSide {} before outer
  takes_inner : Takes (innerSide i.operation) {} after inner
  not_escaped : outer.escaped = false
  no_help_outer : Opt.help ∉ outer.given.map (·.option)
  no_help_inner : Opt.help ∉ inner.given.map (·.option)
  finish_outer : ∃ p, finish outerSide outer = .ok p ∧ i.outer = p.given
  finish_inner : ∃ q, finish (innerSide i.operation) inner = .ok q ∧ i.inner = q.given ∧
    i.operands = q.operands

theorem exists_taken (h : read args = .ok (.invocation i)) :
    ∃ before after outer inner, Taken args i before after outer inner := by
  obtain ⟨as, outer, inner, p, q, r, hout, hp, hin, hq, ho, hi, hos⟩ := read_sides h
  have hout_help : outer.has .help = false := by
    by_contra hh
    rw [read, hout] at h
    simp [bind, Except.bind, pure, Except.pure, hh] at h
  have hin_help : inner.has .help = false := by
    by_contra hh
    rw [read, hout] at h
    simp [bind, Except.bind, pure, Except.pure, hout_help, hin, hh] at h
  obtain ⟨before, hline, htb, hrb⟩ := takes_of_readSide hout hout_help
  obtain ⟨after, hafter, hta, hra⟩ := takes_of_readSide hin hin_help
  -- the inner side leaves no words
  obtain rfl : r = none := by
    by_contra hr
    exact Bool.false_ne_true (hra hr).2
  rw [remainder, List.append_nil] at hafter
  subst hafter
  exact ⟨before, as, outer, inner, hline, htb, hta, (hrb (by simp)).1,
    by simpa [Progress.has] using hout_help, by simpa [Progress.has] using hin_help,
    ⟨p, hp, ho⟩, ⟨q, hq, hi, hos⟩⟩

theorem exists_sides (h : read args = .ok (.invocation i)) :
    ∃ before after, Sides args i before after := by
  obtain ⟨before, after, outer, inner, ht⟩ := exists_taken h
  obtain ⟨p, hp, ho⟩ := ht.finish_outer
  obtain ⟨q, hq, hi, -⟩ := ht.finish_inner
  have hgp := (Progress.grows_settle (Progress.settle_of_finish hp).1).given
  have hgq := (Progress.grows_settle (Progress.settle_of_finish hq).1).given
  refine ⟨before, after, ht.line, ht.takes_outer.dashes_not_mem ht.not_escaped, ?_, ?_, ?_, ?_⟩
  · intro s hs hb
    exact ho ▸ hgp (ht.takes_outer.switch (Side.knows_global hs).1 rfl hb ht.no_help_outer)
  · intro s hs ha
    exact hi ▸ hgq (ht.takes_inner.switch ((Side.knows_global hs).2 i.operation) rfl ha
      ht.no_help_inner)
  · exact ho ▸ excludes_of_finish hp
  · exact hi ▸ excludes_of_finish hq

/-! ## Both pruning flags -/

/-- One pruning switch stands before the subcommand name and the other one behind it. -/
def Apart (before after : List String) : Prop :=
  ∃ s s' : Switch, (s = .pruneUnreachable ∧ s' = .pruneUseless ∨
      s = .pruneUseless ∧ s' = .pruneUnreachable) ∧
    s.occurs before ∧ ¬ s'.occurs before ∧ s'.occurs after ∧ ¬ s.occurs after

theorem not_both {gs : List Given}
    (h : ∀ g ∈ gs, ∀ g' ∈ gs, excludes g.option g'.option = false) :
    ¬ (Switch.pruneUnreachable.given ∈ gs ∧ Switch.pruneUseless.given ∈ gs) := by
  rintro ⟨hp, hs⟩
  exact absurd (h _ hp _ hs) (by decide)

theorem Sides.occurs {before after : List String} {s : Switch} (h : Sides args i before after)
    (hs : s.occurs args) : s.occurs before ∨ s.occurs after := by
  rw [h.line, Switch.occurs_append h.dashes, Switch.occurs_cons, s.occursIn_token] at hs
  rcases hs with hs | ⟨-, hs | hs⟩
  · exact Or.inl hs
  · cases hs
  · exact Or.inr hs

theorem Sides.apart {before after : List String} (h : Sides args i before after)
    (hp : Switch.pruneUnreachable.occurs args) (hs : Switch.pruneUseless.occurs args) :
    Apart before after := by
  have hbefore : ¬ (Switch.pruneUnreachable.occurs before ∧ Switch.pruneUseless.occurs before) :=
    fun hb => not_both h.outer_compatible
      ⟨h.outer _ (by decide) hb.1, h.outer _ (by decide) hb.2⟩
  have hafter : ¬ (Switch.pruneUnreachable.occurs after ∧ Switch.pruneUseless.occurs after) :=
    fun ha => not_both h.inner_compatible
      ⟨h.inner _ (by decide) ha.1, h.inner _ (by decide) ha.2⟩
  rcases h.occurs hp with hp | hp <;> rcases h.occurs hs with hs | hs
  · exact absurd ⟨hp, hs⟩ hbefore
  · exact ⟨_, _, Or.inl ⟨rfl, rfl⟩, hp, fun h => hbefore ⟨hp, h⟩, hs, fun h => hafter ⟨h, hs⟩⟩
  · exact ⟨_, _, Or.inr ⟨rfl, rfl⟩, hs, fun h => hbefore ⟨h, hs⟩, hp, fun h => hafter ⟨hp, h⟩⟩
  · exact absurd ⟨hp, hs⟩ hafter

theorem Sides.prune {before after : List String} (h : Sides args i before after)
    (hp : Switch.pruneUnreachable.occurs args) : i.flags.prune = .unreachable := by
  have hg : Switch.pruneUnreachable.given ∈ i.outer ++ i.inner := by
    rcases h.occurs hp with hp | hp
    · exact List.mem_append_left _ (h.outer _ (by decide) hp)
    · exact List.mem_append_right _ (h.inner _ (by decide) hp)
  have hon : i.on .pruneUnreachable = true := List.any_eq_true.mpr ⟨_, hg, by simp⟩
  simp [Invocation.flags, hon]

structure Refused (m : Machine) (args : List String) : Prop where
  not_starts : ¬ Starts m args
  exit : ∀ out start id, (runOnto out start id m args).exit = 2
  stdout : ∀ out start id, (runOnto out start id m args).stdout = ""
  usage : ∃ u : Misuse, ∀ start id,
    (run start id m args).stderr = Text.Terminal.stripped (bytes u.page)

theorem refused_of_misuse {u : Misuse} (hj : (logging (informed m).environment).stopped = false)
    (h : read args = .error u) : Refused m args := by
  have hrun (out : Outlets) (start : Starter) (id : RequestId) :
      runOnto out start id m args = misused out m.files u := by
    have hj : (logging (EnvironmentFile.load m)).stopped = false := hj
    rw [runOnto]
    simp only [hj, Bool.false_eq_true, if_false, h]
  refine ⟨?_, fun _ _ _ => by rw [hrun]; rfl, fun _ _ _ => by rw [hrun]; rfl,
    u, fun _ _ => by rw [run, hrun, misused, Outlets.taken_all]⟩
  rintro ⟨-, i, s, c, hi, -⟩
  rw [h] at hi
  cases hi

/-- A command line with both pruning flags is refused, unless it asks for help or has one of them
before the subcommand name and the other one behind it: then it is read, and `-p` is kept. -/
theorem pruning_flags_exclude (hj : (logging (informed m).environment).stopped = false)
    (hp : Switch.pruneUnreachable.occurs args) (hs : Switch.pruneUseless.occurs args) :
    Refused m args ∨ read args = .ok .help ∨
      ∃ before after i, args = before ++ Coded.token i.operation :: after ∧ Apart before after ∧
        read args = .ok (.invocation i) ∧ i.flags.prune = .unreachable := by
  cases hr : read args with
  | error u => exact Or.inl (refused_of_misuse hj hr)
  | ok r =>
    cases r with
    | help => exact Or.inr (Or.inl rfl)
    | invocation i =>
      obtain ⟨before, after, h⟩ := exists_sides hr
      exact Or.inr (Or.inr ⟨before, after, i, h.line, h.apart hp hs, rfl, h.prune hp⟩)

theorem pruning_flags_exclude_letters :
    Switch.pruneUnreachable.occurs ["load", "-tps", "a"] ∧
      Switch.pruneUseless.occurs ["load", "-tps", "a"] ∧
      Refused ⟨{}, [], [], none⟩ ["load", "-tps", "a"] := by
  have hp : Switch.pruneUnreachable.occurs ["load", "-tps", "a"] := by decide
  have hs : Switch.pruneUseless.occurs ["load", "-tps", "a"] := by decide
  have hr : read ["load", "-tps", "a"] =
      .error (.conflict (.switch .pruneUnreachable) [.switch .pruneUseless]) := by rfl
  refine ⟨hp, hs, ?_⟩
  have hx := pruning_flags_exclude (m := ⟨{}, [], [], none⟩) rfl hp hs
  rcases hx with h | h | ⟨_, _, _, -, -, h, -⟩
  · exact h
  · rw [hr] at h
    cases h
  · rw [hr] at h
    cases h

/-- On two sides the flags do not exclude each other: the vector is shown, with one of them. -/
theorem pruning_flags_apart :
    Switch.pruneUnreachable.occurs ["--dry-run", "-p", "load", "a", "-s"] ∧
      Switch.pruneUseless.occurs ["--dry-run", "-p", "load", "a", "-s"] ∧
      run (fun m _ _ _ _ => (.notStarted "", m)) ⟨"id"⟩ ⟨{}, [], [], none⟩
          ["--dry-run", "-p", "load", "a", "-s"] =
        { exit := 0, stdout := "vata -r expl -p load a\n", files := {} } :=
  ⟨by decide, by decide, rfl⟩

end TreeTool.CommandLine
