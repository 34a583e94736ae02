import TreeTool.Proofs.CommandLine.Pruning

/-!
# What a word of options says

What a word of options says does not depend on what has been read before it: `Side.word?` is what
it gives, together with the setting that takes the next word as its value. A word that says
something is read as that wherever its options can still be given, and a word that is read, and is
no value and no operand, has said what is then given.
-/

namespace TreeTool.CommandLine

/-- What a word of options gives, and the setting whose value it leaves to the next word. -/
structure Saying where
  given : List Given := []
  awaited : Option Setting := none
  deriving DecidableEq, Repr

def Plain (a : String) : Prop := ∀ c cs, a.toList ≠ '-' :: c :: cs

/-- What an option says, with or without a value attached. None asks for help here. -/
def Opt.saying? : Opt → Option String → Option Saying
  | .setting k, some v => some { given := [k.given v] }
  | .setting k, none => some { awaited := some k }
  | .switch s, none => some { given := [s.given] }
  | _, _ => none

def attached? : List Char → Option String
  | [] => none
  | '=' :: v => some (String.ofList v)
  | v => some (String.ofList v)

def nameParts (cs : List Char) : String × Option String :=
  match Text.cutFirst '=' cs with
  | some (name, v) => (String.ofList name, some (String.ofList v))
  | none => (String.ofList cs, none)

namespace Side

def letters? (side : Side) : List Char → Option Saying
  | [] => some {}
  | c :: cs =>
    match side.lettered? c with
    | some (.switch s) => (side.letters? cs).map fun w => { w with given := s.given :: w.given }
    | some (.setting k) => (Opt.setting k).saying? (attached? cs)
    | _ => none

def name? (side : Side) (cs : List Char) : Option Saying :=
  (side.named? (nameParts cs).1).bind (·.saying? (nameParts cs).2)

def word? (side : Side) (a : String) : Option Saying :=
  match a.toList with
  | '-' :: '-' :: cs => side.name? cs
  | '-' :: c :: cs => side.letters? (c :: cs)
  | _ => none

end Side

theorem letters_setting {side : Side} {c : Char} {k : Setting}
    (h : side.lettered? c = some (.setting k)) (p : Progress) (cs : List Char) :
    letters side p (c :: cs) = p.option (.setting k) (attached? cs) := by
  rw [letters, h]
  cases cs with
  | nil => rfl
  | cons d cs =>
    by_cases hd : d = '='
    · subst hd
      rfl
    · simp [attached?, hd]

theorem long_eq (side : Side) (p : Progress) (cs : List Char) : long side p cs =
    match side.named? (nameParts cs).1 with
    | none => .error (.unexpectedArgument ("--" ++ (nameParts cs).1))
    | some o => p.option o (nameParts cs).2 := by
  unfold long nameParts
  generalize Text.cutFirst '=' cs = parts
  cases parts <;> rfl

theorem Side.name?_nil (side : Side) : side.name? [] = none := by
  have hn : side.named? (nameParts []).1 = none := by
    rw [named?, List.find?_eq_none]
    intro o _ ho
    have hname : o.name = "" := beq_iff_eq.mp ho
    exact (name_sound o).1 (by rw [hname]; rfl)
  rw [name?, hn]
  rfl

theorem Plain.word? {a : String} (h : Plain a) (side : Side) : side.word? a = none := by
  rw [Side.word?]
  split
  · rename_i ha
    exact absurd ha (h _ _)
  · rename_i ha
    exact absurd ha (h _ _)
  · rfl

section

variable {side : Side} {a : String} {w : Saying}

theorem Side.operation?_of_word? (h : side.word? a = some w) : operation? a = none := by
  rw [word?] at h
  split at h
  · rename_i ha
    exact operation?_of_dash ha
  · rename_i ha
    exact operation?_of_dash ha
  · cases h

theorem Side.subcommand?_of_word? (h : side.word? a = some w) : side.subcommand? a = none := by
  rw [subcommand?, operation?_of_word? h, ite_self]

structure Saying.On (w : Saying) (side : Side) : Prop where
  given : ∀ g ∈ w.given, g.option ∈ side.options ∧ g.option ≠ .help
  awaited : ∀ k, w.awaited = some k → .setting k ∈ side.options

theorem Side.on_of_saying? {o : Opt} {value : Option String} (ho : o ∈ side.options)
    (h : o.saying? value = some w) : w.On side := by
  cases o with
  | help => cases h
  | switch s =>
    cases value with
    | none => cases h; exact ⟨by simpa using ho, by simp⟩
    | some v => cases h
  | setting k => cases value <;> cases h <;> exact ⟨by simp [ho], by simp [ho]⟩

theorem Side.on_of_letters? {cs : List Char} (h : side.letters? cs = some w) : w.On side := by
  induction cs generalizing w with
  | nil =>
    cases h
    exact ⟨by simp, by simp⟩
  | cons c cs ih =>
    rw [letters?] at h
    split at h
    · rename_i s hc
      obtain ⟨w', hw', rfl⟩ := Option.map_eq_some_iff.mp h
      have hs : .switch s ∈ side.options := List.mem_of_find?_eq_some hc
      obtain ⟨hg, hk⟩ := ih hw'
      exact ⟨List.forall_mem_cons.mpr ⟨⟨hs, by simp⟩, hg⟩, hk⟩
    · rename_i k hc
      exact on_of_saying? (List.mem_of_find?_eq_some hc) h
    · cases h

theorem Side.on_of_name? {cs : List Char} (h : side.name? cs = some w) : w.On side := by
  obtain ⟨o, ho, hw⟩ := Option.bind_eq_some_iff.mp h
  exact on_of_saying? (List.mem_of_find?_eq_some ho) hw

theorem Side.on_of_word? (h : side.word? a = some w) : w.On side := by
  rw [word?] at h
  split at h
  · exact on_of_name? h
  · exact on_of_letters? h
  · cases h

end

theorem argument_letters {side : Side} {p : Progress} {a : String} {c : Char} {cs : List Char}
    (h : a.toList = '-' :: c :: cs) (hc : c ≠ '-') :
    argument side p a = letters side p (c :: cs) := by
  rw [argument, h]
  split <;> simp_all

namespace Progress

def say (p : Progress) (w : Saying) : Progress :=
  { p with given := p.given ++ w.given, pending := w.awaited.map fun k => ⟨k, none⟩ }

variable {p q r : Progress} {side : Side} {a : String} {w : Saying} {cs : List Char}

theorem pending_of_settle (h : p.settle = .ok q) : q.pending = none := by
  rw [settle] at h
  split at h
  · cases h
    assumption
  · cases h
  · rw [(giveSetting_eq_ok h).1]

theorem awaits_of_settle (h : p.settle = .ok q) : p.awaits = none := by
  rw [awaits]
  split
  · rename_i k hk
    simp [settle, hk] at h
  · rfl

theorem settle_of_no_pending (h : q.pending = none) : q.settle = .ok q := by
  rw [settle, h]

def Distinct (p : Progress) : Prop := (p.given.map (·.option)).Nodup

theorem distinct_of_give {g : Given} (hp : p.Distinct) (h : p.give g = .ok q) : q.Distinct := by
  rw [give] at h
  split at h
  · cases h
  · rename_i hg
    cases h
    rw [Distinct, List.map_append, List.nodup_append]
    refine ⟨hp, by simp, ?_⟩
    simpa [has] using hg

theorem distinct_of_giveSetting {k : Setting} {v : String} (hp : p.Distinct)
    (h : p.giveSetting k v = .ok q) : q.Distinct := by
  rw [giveSetting] at h
  cases hg : p.give ⟨.setting k, some v⟩ with
  | error m => simp [hg] at h
  | ok r =>
    simp only [hg] at h
    split at h
    · cases h
    · exact Except.ok.inj h ▸ distinct_of_give hp hg

theorem distinct_of_settle (hp : p.Distinct) (h : p.settle = .ok q) : q.Distinct := by
  rw [settle] at h
  split at h
  · exact Except.ok.inj h ▸ hp
  · cases h
  · exact distinct_of_giveSetting (p := { p with pending := none }) hp h

/-! ## What is said is given -/

theorem option_of_settle {o : Opt} {attached : Option String} (h : p.settle = .ok q) :
    p.option o attached = q.option o attached := by
  have hq := settle_of_no_pending (pending_of_settle h)
  cases o <;> cases attached <;> simp [option, h, hq, bind, Except.bind]

theorem letters_of_settle (h : p.settle = .ok q) (hc : cs ≠ []) :
    letters side p cs = letters side q cs := by
  obtain ⟨c, cs, rfl⟩ := List.exists_cons_of_ne_nil hc
  rw [letters, letters]
  simp only [option_of_settle h]

theorem long_of_settle (h : p.settle = .ok q) : long side p cs = long side q cs := by
  simp only [long, option_of_settle h]

theorem settle_of_option {o : Opt} {attached : Option String} (h : p.option o attached = .ok r) :
    ∃ q, p.settle = .ok q := by
  cases hp : p.settle with
  | ok q => exact ⟨q, rfl⟩
  | error m => cases o <;> cases attached <;> simp [option, hp, bind, Except.bind] at h

theorem settle_of_letters {c : Char} (h : letters side p (c :: cs) = .ok r) :
    ∃ q, p.settle = .ok q := by
  rw [letters] at h
  split at h
  · cases h
  · split at h <;> exact settle_of_option h
  · exact settle_of_option h
  · split at h
    · cases h
    · rename_i ho
      exact settle_of_option ho

theorem settle_of_long (h : long side p cs = .ok r) : ∃ q, p.settle = .ok q := by
  simp only [long] at h
  split at h
  · cases h
  · exact settle_of_option h

theorem option_switch {s : Switch} (h : p.settle = .ok q) :
    p.option (.switch s) none = q.give s.given := by
  rw [option, h]
  rfl

theorem option_attached {k : Setting} {v : String} (h : p.settle = .ok q) :
    p.option (.setting k) (some v) = q.giveSetting k v := by
  rw [option, h]
  rfl

theorem option_apart {k : Setting} (h : p.settle = .ok q) :
    p.option (.setting k) none = .ok { q with pending := some ⟨k, none⟩ } := by
  rw [option, h]
  rfl

structure Takable (given gs : List Given) : Prop where
  distinct : ((given ++ gs).map (·.option)).Nodup
  accepted : ∀ g ∈ gs, g.Accepted

theorem Takable.fresh {given gs : List Given} {g : Given} (h : Takable given (g :: gs)) :
    ∀ g' ∈ given, g'.option ≠ g.option := by
  have hd := h.distinct
  rw [List.map_append, List.nodup_append] at hd
  exact fun g' hg' => hd.2.2 _ (List.mem_map_of_mem hg') _ List.mem_cons_self

theorem Takable.sublist {given gs gs' : List Given} (h : Takable given gs)
    (hs : gs'.Sublist gs) : Takable given gs' where
  distinct := h.distinct.sublist (((List.Sublist.refl given).append hs).map _)
  accepted g hg := h.accepted g (hs.subset hg)

theorem Takable.left {given gs gs' : List Given} (h : Takable given (gs ++ gs')) :
    Takable given gs :=
  h.sublist (List.sublist_append_left gs gs')

theorem Takable.right {given gs gs' : List Given} (h : Takable given (gs ++ gs')) :
    Takable (given ++ gs) gs' where
  distinct := by
    rw [List.append_assoc]
    exact h.distinct
  accepted g hg := h.accepted g (List.mem_append_right _ hg)

theorem give_of_takable {g : Given} {gs : List Given} (h : Takable q.given (g :: gs)) :
    q.give g = .ok { q with given := q.given ++ [g] } :=
  give_of_not_given h.fresh

theorem giveSetting_of_takable {k : Setting} {v : String} {gs : List Given}
    (h : Takable q.given (k.given v :: gs)) :
    q.giveSetting k v = .ok { q with given := q.given ++ [k.given v] } := by
  obtain ⟨v', hv, hr⟩ : ∃ v', some v = some v' ∧ refusal k v' = none :=
    h.accepted _ List.mem_cons_self
  obtain rfl := Option.some.inj hv
  exact giveSetting_of_not_given h.fresh hr

theorem say_nil (h : q.pending = none) : q.say {} = q := by
  obtain ⟨given, operands, pending, escaped⟩ := q
  obtain rfl : pending = none := h
  simp [say]

theorem option_of_saying? {o : Opt} {value : Option String} (hq : q.pending = none)
    (hw : o.saying? value = some w) (ht : Takable q.given w.given) :
    q.option o value = .ok (q.say w) := by
  have hs := settle_of_no_pending hq
  cases o with
  | help => cases hw
  | switch s =>
    cases value with
    | none => cases hw; rw [option_switch hs, give_of_takable ht]; simp [say, hq]
    | some v => cases hw
  | setting k =>
    cases value with
    | none => cases hw; rw [option_apart hs]; simp [say]
    | some v => cases hw; rw [option_attached hs, giveSetting_of_takable ht]; simp [say, hq]

theorem letters_of_letters? (hq : q.pending = none) (hw : side.letters? cs = some w)
    (ht : Takable q.given w.given) : letters side q cs = .ok (q.say w) := by
  induction cs generalizing q w with
  | nil =>
    cases hw
    rw [letters, say_nil hq]
  | cons c cs ih =>
    rw [Side.letters?] at hw
    split at hw
    · rename_i s hc
      obtain ⟨w', hw', rfl⟩ := Option.map_eq_some_iff.mp hw
      rw [letters, hc]
      simp only [option_switch (settle_of_no_pending hq), give_of_takable ht]
      rw [ih (q := { q with given := q.given ++ [s.given] }) hq hw' (Takable.right ht)]
      simp [say]
    · rename_i k hc
      rw [letters_setting hc, option_of_saying? hq hw ht]
    · cases hw

theorem long_of_name? (hq : q.pending = none) (hw : side.name? cs = some w)
    (ht : Takable q.given w.given) : long side q cs = .ok (q.say w) := by
  obtain ⟨o, ho, hw⟩ := Option.bind_eq_some_iff.mp hw
  rw [long_eq, ho]
  exact option_of_saying? hq hw ht

theorem argument_of_word? (hp : p.settle = .ok q) (hw : side.word? a = some w)
    (ht : Takable q.given w.given) : argument side p a = .ok (q.say w) := by
  have hq := pending_of_settle hp
  rw [Side.word?] at hw
  split at hw
  · rename_i cs ha
    have hc : cs ≠ [] := by
      rintro rfl
      rw [Side.name?_nil] at hw
      cases hw
    rw [argument_long ha hc, long_of_settle hp, long_of_name? hq hw ht]
  · rename_i c cs hn ha
    have hc : c ≠ '-' := hn
    rw [argument_letters ha hc, letters_of_settle hp (List.cons_ne_nil c cs),
      letters_of_letters? hq hw ht]
  · cases hw

/-! ## What is read has been said -/

structure Says (q : Progress) (said : Option Saying) (r : Progress) : Prop where
  exists_saying : ∃ w, said = some w ∧ r = q.say w
  distinct : r.Distinct

theorem says_option {o : Opt} {value : Option String} (hq : q.pending = none) (hd : q.Distinct)
    (h : q.option o value = .ok r) (hh : Opt.help ∉ r.given.map (·.option)) :
    Says q (o.saying? value) r := by
  have hs := settle_of_no_pending hq
  cases o with
  | help =>
    cases value with
    | none => exact absurd (help_of_option h) hh
    | some v => cases h
  | switch s =>
    cases value with
    | none =>
      rw [option_switch hs] at h
      have hr := distinct_of_give hd h
      obtain rfl := give_eq_ok h
      exact ⟨⟨_, rfl, by simp [say, hq]⟩, hr⟩
    | some v => cases h
  | setting k =>
    cases value with
    | none =>
      rw [option_apart hs] at h
      cases h
      exact ⟨⟨_, rfl, by simp [say]⟩, hd⟩
    | some v =>
      rw [option_attached hs] at h
      have hr := distinct_of_giveSetting hd h
      obtain rfl := (giveSetting_eq_ok h).1
      exact ⟨⟨_, rfl, by simp [say, hq, Setting.given]⟩, hr⟩

theorem says_letters (hq : q.pending = none) (hd : q.Distinct) (h : letters side q cs = .ok r)
    (hh : Opt.help ∉ r.given.map (·.option)) : Says q (side.letters? cs) r := by
  induction cs generalizing q with
  | nil =>
    cases h
    exact ⟨⟨{}, rfl, (say_nil hq).symm⟩, hd⟩
  | cons c cs ih =>
    rw [Side.letters?]
    cases hc : side.lettered? c with
    | none => simp [letters, hc] at h
    | some o =>
      cases o with
      | help =>
        simp only [letters, hc] at h
        exact absurd (help_of_option h) hh
      | switch s =>
        simp only [letters, hc, option_switch (settle_of_no_pending hq)] at h
        split at h
        · cases h
        · rename_i p' hp'
          have hd' := distinct_of_give hd hp'
          obtain rfl := give_eq_ok hp'
          obtain ⟨⟨w, hw, rfl⟩, hr⟩ := ih (q := { q with given := q.given ++ [s.given] }) hq hd' h
          exact ⟨⟨{ w with given := s.given :: w.given }, by simp [hw], by simp [say]⟩, hr⟩
      | setting k =>
        rw [letters_setting hc] at h
        exact says_option hq hd h hh

theorem says_long (hq : q.pending = none) (hd : q.Distinct) (h : long side q cs = .ok r)
    (hh : Opt.help ∉ r.given.map (·.option)) : Says q (side.name? cs) r := by
  rw [long_eq] at h
  rw [Side.name?]
  cases ho : side.named? (nameParts cs).1 with
  | none => simp [ho] at h
  | some o =>
    simp only [ho] at h
    exact says_option hq hd h hh

theorem says_argument (ha : ¬ Plain a) (hdash : a ≠ "--") (hp : p.Distinct)
    (h : argument side p a = .ok r) (hh : Opt.help ∉ r.given.map (·.option)) :
    ∃ q, p.settle = .ok q ∧ Says q (side.word? a) r := by
  obtain ⟨c, cs, hcs⟩ : ∃ c cs, a.toList = '-' :: c :: cs := by simpa [Plain] using ha
  by_cases hc : c = '-'
  · subst hc
    have hne : cs ≠ [] := by
      rintro rfl
      exact hdash (String.toList_injective hcs)
    rw [argument_long hcs hne] at h
    obtain ⟨q, hq⟩ := settle_of_long h
    rw [long_of_settle hq] at h
    have hw : side.word? a = side.name? cs := by
      rw [Side.word?, hcs]
      rfl
    exact ⟨q, hq, hw ▸ says_long (pending_of_settle hq) (distinct_of_settle hp hq) h hh⟩
  · rw [argument_letters hcs hc] at h
    obtain ⟨q, hq⟩ := settle_of_letters h
    rw [letters_of_settle hq (List.cons_ne_nil c cs)] at h
    have hw : side.word? a = side.letters? (c :: cs) := by
      rw [Side.word?, hcs]
      split <;> simp_all
    exact ⟨q, hq, hw ▸ says_letters (pending_of_settle hq) (distinct_of_settle hp hq) h hh⟩

theorem settle_of_operand (h : operand side p a = .ok q) : p.operands.length < side.operands ∧
    ∃ r, p.settle = .ok r ∧ q = { r with operands := r.operands ++ [a] } := by
  rw [operand] at h
  split at h
  · rename_i hl
    cases hs : p.settle with
    | error m => simp [hs, bind, Except.bind] at h
    | ok r =>
      simp only [hs, bind, Except.bind, pure, Except.pure, Except.ok.injEq] at h
      exact ⟨hl, r, rfl, h.symm⟩
  · split at h <;> cases h

theorem argument_plain (h : Plain a) (p : Progress) : argument side p a =
    match p.awaits with
    | some k => .ok { p with pending := some ⟨k, some a⟩ }
    | none => operand side p a := by
  rw [argument]
  split
  · rename_i ha
    exact absurd ha (h _ _)
  · rename_i ha
    exact absurd ha (h _ _)
  · rename_i ha
    exact absurd ha (h _ _)
  · rfl

end Progress

end TreeTool.CommandLine
