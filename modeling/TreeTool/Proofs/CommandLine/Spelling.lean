import TreeTool.Proofs.CommandLine.Words
import TreeTool.Proofs.Options.Selection

/-!
# Two spellings of the same options

The options of an operation can be typed one by one or given raw in an option text. Typed options
make a bundle exactly if there are any, and the text that lists them is read as the same bundle. In
the other direction a bundle is typed in full, with nothing left to the defaults. From equal bundles
the same command is built, because a command line that is read has the operands it needs.
-/

namespace TreeTool.CommandLine

def Invocation.selection (i : Invocation) : Selection where
  direction := i.direction?
  algorithm := i.algorithm?
  simulation := i.on .simulation
  order := i.order?
  cacheOptimization := i.on .cacheOptimization
  recursion := i.on .recursion
  simulationTime := i.simulationTime?

def Invocation.items (i : Invocation) (e : Encoding) : List Options.Item :=
  match i.operation.bundleKind with
  | some k => i.selection.items e k
  | none => []

/-- The same operation, operands and flags with an option text. -/
structure Raw (i : Invocation) (text : String) (j : Invocation) : Prop where
  operation : j.operation = i.operation
  operands : j.operands = i.operands
  flags : j.flags = i.flags
  text : j.value? .options = some text

/-! ## A bundle in full -/

def settingsOf : Bundle → List (Setting × String)
  | .inclusion o =>
    [(.direction, Coded.token o.direction), (.algorithm, Coded.token o.algorithm),
      (.order, Coded.token o.order),
      (.simulationTime, if o.simulationTime then "true" else "false")]
  | .direction d => [(.direction, Coded.token d)]
  | .equivalence r => [(.order, Coded.token r)]

def switchesOf : Bundle → List Switch
  | .inclusion o =>
    (if o.simulation then [.simulation] else []) ++
      (if o.cacheOptimization then [.cacheOptimization] else []) ++
      if o.recursion then [.recursion] else []
  | .direction _ | .equivalence _ => []

theorem bundleKind_cases {op : Operation} {k : BundleKind} (h : op.bundleKind = some k) :
    (k = .inclusion ∧ op = .inclusion) ∨ (k = .direction ∧ (op = .simulation ∨ op = .reduction)) ∨
      (k = .equivalence ∧ op = .equivalence) := by
  cases op <;> cases h <;> simp

namespace Wording

/-- The wording that types out a bundle. -/
def inFull (f : Flags) (op : Operation) (b : Bundle) (operands : List String) : Wording :=
  ⟨f, op, settingsOf b, switchesOf b, operands⟩

variable {f : Flags} {op : Operation} {b : Bundle} {operands : List String}

theorem refusal_settingsOf (b : Bundle) : ∀ p ∈ settingsOf b, refusal p.1 p.2 = none := by
  have hdir (d : Direction) : refusal .direction (Coded.token d) = none := by cases d <;> rfl
  have hord (r : Order) : refusal .order (Coded.token r) = none := by cases r <;> rfl
  cases b with
  | inclusion o =>
    have halg : refusal .algorithm (Coded.token o.algorithm) = none := by
      cases o.algorithm <;> rfl
    have htime : refusal .simulationTime (if o.simulationTime then "true" else "false") = none := by
      cases o.simulationTime <;> rfl
    simp [settingsOf, hdir, hord, halg, htime]
  | direction d => simp [settingsOf, hdir]
  | equivalence r => simp [settingsOf, hord]

theorem own_inFull (hk : op.bundleKind = some b.kind) :
    ∀ o ∈ (inFull f op b operands).options, o ∈ ownOptions op ∧ o ≠ .setting .options := by
  rw [options, inFull]
  have hop := bundleKind_cases hk
  cases b with
  | inclusion o =>
    obtain rfl : op = .inclusion := by simpa [Bundle.kind] using hop
    obtain ⟨d, a, sim, r, optc, rec, time⟩ := o
    cases sim <;> cases optc <;> cases rec <;> simp [settingsOf, switchesOf, ownOptions]
  | direction d =>
    obtain rfl | rfl : op = .simulation ∨ op = .reduction := by simpa [Bundle.kind] using hop
    · simp [settingsOf, switchesOf, ownOptions]
    · simp [settingsOf, switchesOf, ownOptions]
  | equivalence r =>
    obtain rfl : op = .equivalence := by simpa [Bundle.kind] using hop
    simp [settingsOf, switchesOf, ownOptions]

theorem distinct_inFull : (inFull f op b operands).options.Nodup := by
  rw [options, inFull]
  cases b with
  | inclusion o =>
    obtain ⟨d, a, sim, r, optc, rec, time⟩ := o
    cases sim <;> cases optc <;> cases rec <;> simp [settingsOf, switchesOf]
  | direction d => simp [settingsOf, switchesOf]
  | equivalence r => simp [settingsOf, switchesOf]

theorem own_compatible (op : Operation) : ∀ a ∈ ownOptions op, ∀ b ∈ ownOptions op,
    a ≠ .setting .options → b ≠ .setting .options → excludes a b = false := by
  cases op <;> decide

theorem sound_inFull (hk : op.bundleKind = some b.kind) (hn : operands.length = op.arity) :
    (inFull f op b operands).Sound where
  own o ho := (own_inFull hk o ho).1
  accepted := refusal_settingsOf b
  distinct := distinct_inFull
  compatible a ha c hc := by
    obtain ⟨ha, hna⟩ := own_inFull hk a ha
    obtain ⟨hc, hnc⟩ := own_inFull hk c hc
    exact own_compatible op a ha c hc hna hnc
  count := hn

def raw (f : Flags) (op : Operation) (text : String) (operands : List String) : Wording :=
  ⟨f, op, [(.options, text)], [], operands⟩

theorem sound_raw (hk : op.bundleKind ≠ none) (hn : operands.length = op.arity) (text : String) :
    (raw f op text operands).Sound where
  own := by
    have ho : Opt.setting .options ∈ ownOptions op := by
      cases op <;> first | decide | exact absurd rfl hk
    simpa [options, raw] using ho
  accepted := by simp [raw, refusal]
  distinct := by simp [options, raw]
  compatible := by simp [options, raw, excludes, globals]
  count := hn

theorem value?_inFull (k : Setting) :
    (inFull f op b operands).invocation.value? k =
      match b, k with
      | .inclusion o, .direction => some (Coded.token o.direction)
      | .inclusion o, .algorithm => some (Coded.token o.algorithm)
      | .inclusion o, .order => some (Coded.token o.order)
      | .inclusion o, .simulationTime => some (if o.simulationTime then "true" else "false")
      | .direction d, .direction => some (Coded.token d)
      | .equivalence r, .order => some (Coded.token r)
      | _, _ => none := by
  rw [value?_invocation]
  cases b <;> cases k <;> rfl

theorem contains_switchesOf (b : Bundle) (s : Switch) :
    (switchesOf b).contains s =
      match b, s with
      | .inclusion o, .simulation => o.simulation
      | .inclusion o, .cacheOptimization => o.cacheOptimization
      | .inclusion o, .recursion => o.recursion
      | _, _ => false := by
  cases b with
  | inclusion o =>
    rw [switchesOf]
    cases s <;> simp
  | direction d => cases s <;> rfl
  | equivalence r => cases s <;> rfl

theorem selection_inFull :
    (inFull f op b operands).invocation.selection = Selection.ofBundle b := by
  have hdir (d : Direction) : Direction.read (Coded.token d) = .ok d := by cases d <;> rfl
  have hord (r : Order) : Order.read (Coded.token r) = .ok r := by cases r <;> rfl
  have halg (a : Algorithm) : Algorithm.read (Coded.token a) = .ok a := by cases a <;> rfl
  have htime (t : Bool) : boolValue? (if t then "true" else "false") = some t := by
    cases t <;> rfl
  have hon (s : Switch) : (inFull f op b operands).invocation.on s =
      ((flagSwitches f).contains s || (switchesOf b).contains s) := on_invocation _ s
  rw [Invocation.selection, Invocation.direction?, Invocation.algorithm?, Invocation.order?,
    Invocation.simulationTime?]
  simp only [hon, contains_flagSwitches, contains_switchesOf, value?_inFull]
  cases b <;> simp [hdir, hord, halg, htime, Except.toOption, Selection.ofBundle]

end Wording

/-! ## The command -/

section command

variable {i j : Invocation} {args args' : List String} {k : BundleKind} {e : Encoding}

theorem typed?_eq (hk : i.operation.bundleKind = some k) :
    i.typed? = if i.selection.picks k then some (i.selection.bundle k) else none := by
  rw [Invocation.typed?]
  obtain ⟨rfl, ho⟩ | ⟨rfl, ho | ho⟩ | ⟨rfl, ho⟩ := bundleKind_cases hk
  · rw [ho]
    show (if i.selection.picks .inclusion then some _ else none).map Bundle.inclusion = _
    cases i.selection.picks .inclusion <;> rfl
  · rw [ho]
    show i.direction?.map Bundle.direction = if i.direction?.isSome then _ else none
    cases hd : i.direction? <;> simp [Selection.bundle, Invocation.selection, hd]
  · rw [ho]
    show i.direction?.map Bundle.direction = if i.direction?.isSome then _ else none
    cases hd : i.direction? <;> simp [Selection.bundle, Invocation.selection, hd]
  · rw [ho]
    show i.order?.map Bundle.equivalence = if i.order?.isSome then _ else none
    cases hd : i.order? <;> simp [Selection.bundle, Invocation.selection, hd]

theorem typed?_of_no_kind (hk : i.operation.bundleKind = none) : i.typed? = none := by
  rw [Invocation.typed?]
  cases ho : i.operation <;> simp [ho, Operation.bundleKind] at hk ⊢

theorem exists_command (hr : read args = .ok (.invocation i)) {b : Option Bundle}
    (hb : i.bundle e = .ok b) (hf : Command.Fits i.operation b) :
    ∃ c, i.command e = .ok c ∧ c.request = ⟨e, i.operation, i.operands, b, i.flags⟩ := by
  have hq : (⟨e, i.operation, i.operands, b, i.flags⟩ : Request).Sound :=
    ⟨Invocation.length_operands_of_read hr, hf⟩
  obtain ⟨c, hc, hreq⟩ := Request.build_of_sound hq
  refine ⟨c, ?_, hreq⟩
  rw [Invocation.command, hb]
  exact hc

theorem kind_bundle (x : Selection) (k : BundleKind) : (x.bundle k).kind = k := by
  cases k <;> rfl

theorem command_eq_of_request {c d : Command} (h : c.request = d.request) : c = d := by
  have hc := c.build_request
  rw [h, d.build_request] at hc
  exact (Except.ok.inj hc).symm

theorem exists_typed (hr : read args = .ok (.invocation i)) (ht : i.value? .options = none)
    (hn : i.items e ≠ []) : ∃ k c, i.operation.bundleKind = some k ∧ i.command e = .ok c ∧
      c.request = ⟨e, i.operation, i.operands, some (i.selection.bundle k), i.flags⟩ := by
  rw [Invocation.items] at hn
  cases hk : i.operation.bundleKind with
  | none => simp [hk] at hn
  | some k =>
    rw [hk] at hn
    have hp : i.selection.picks k = true :=
      Bool.eq_true_of_not_eq_false fun h => hn (Selection.items_eq_nil_iff.mpr h)
    have hb : i.bundle e = .ok (some (i.selection.bundle k)) := by
      rw [Invocation.bundle, ht]
      simp only [typed?_eq hk, hp, if_true]
    have hf : Command.Fits i.operation (some (i.selection.bundle k)) := by
      rintro b ⟨rfl⟩
      rw [hk, kind_bundle]
    obtain ⟨c, hc, hreq⟩ := exists_command hr hb hf
    exact ⟨k, c, rfl, hc, hreq⟩

theorem exists_raw {text : String} {b : Bundle} (hr : read args = .ok (.invocation j))
    (ht : j.value? .options = some text) (hb : Bundle.read j.operation e text = .ok b) :
    ∃ c, j.command e = .ok c ∧ c.request = ⟨e, j.operation, j.operands, some b, j.flags⟩ := by
  have hbundle : j.bundle e = .ok (some b) := by
    rw [Invocation.bundle, ht]
    simp only [hb]
    rfl
  refine exists_command hr hbundle ?_
  rintro b' ⟨rfl⟩
  exact Bundle.bundleKind_of_read hb

theorem exists_bare (hr : read args = .ok (.invocation i)) (ht : i.value? .options = none)
    (hn : i.items e = []) : ∃ c, i.command e = .ok c ∧ c.bundle = none := by
  have hb : i.bundle e = .ok none := by
    rw [Invocation.bundle, ht]
    rw [Invocation.items] at hn
    cases hk : i.operation.bundleKind with
    | none => simp only [typed?_of_no_kind hk]
    | some k =>
      rw [hk] at hn
      have hp : i.selection.picks k = false := Selection.items_eq_nil_iff.mp hn
      simp only [typed?_eq hk, hp, Bool.false_eq_true, if_false]
  obtain ⟨c, hc, hreq⟩ := exists_command hr hb (fun _ h => by cases h)
  exact ⟨c, hc, congrArg Request.bundle hreq⟩

theorem exists_raw_line (hr : read args = .ok (.invocation i))
    (hk : i.operation.bundleKind ≠ none) (text : String) :
    ∃ args' j, read args' = .ok (.invocation j) ∧ Raw i text j := by
  have hs : (Wording.raw i.flags i.operation text i.operands).Sound :=
    Wording.sound_raw hk (Invocation.length_operands_of_read hr) text
  exact ⟨_, _, Wording.read_line hs, rfl, rfl, Wording.flags_invocation hs,
    Wording.value?_invocation _ _⟩

theorem exists_full_line (hr : read args = .ok (.invocation j)) {b : Bundle}
    (hk : j.operation.bundleKind = some b.kind) (e : Encoding) :
    ∃ args' i c, read args' = .ok (.invocation i) ∧ i.value? .options = none ∧ i.items e ≠ [] ∧
      i.command e = .ok c ∧ c.request = ⟨e, j.operation, j.operands, some b, j.flags⟩ := by
  let w := Wording.inFull j.flags j.operation b j.operands
  have hs : w.Sound := Wording.sound_inFull hk (Invocation.length_operands_of_read hr)
  have ht : w.invocation.value? .options = none := by
    rw [Wording.value?_inFull]
    cases b <;> rfl
  have hx : w.invocation.selection = Selection.ofBundle b := Wording.selection_inFull
  have hn : w.invocation.items e ≠ [] := by
    rw [Invocation.items, show w.invocation.operation.bundleKind = some b.kind from hk, hx]
    exact Selection.items_ofBundle_ne_nil e b
  obtain ⟨k, c, hk', hc, hreq⟩ := exists_typed (Wording.read_line hs) ht hn
  refine ⟨_, _, c, Wording.read_line hs, ht, hn, hc, ?_⟩
  obtain rfl : b.kind = k := Option.some.inj (hk.symm.trans hk')
  rw [hreq, hx, Selection.bundle_ofBundle, Wording.flags_invocation hs]
  rfl

end command

/-- Typed options and option texts are two spellings of the same commands, and without either a
command has no bundle. -/
theorem spellings_agree (e : Encoding) :
    (∀ args i js, read args = .ok (.invocation i) → i.value? .options = none → i.items e ≠ [] →
      (i.items e).Perm js → ∃ c b, c.bundle = some b ∧ i.command e = .ok c ∧
        (∃ args' j, read args' = .ok (.invocation j) ∧ Raw i (Options.Item.joined js) j) ∧
        ∀ args' j, read args' = .ok (.invocation j) → Raw i (Options.Item.joined js) j →
          j.command e = .ok c) ∧
    (∀ args i, read args = .ok (.invocation i) → i.value? .options = none → i.items e = [] →
      ∃ c, i.command e = .ok c ∧ c.bundle = none) ∧
    ∀ args j text b, read args = .ok (.invocation j) → j.value? .options = some text →
      Bundle.read j.operation e text = .ok b →
      ∃ args' i c, read args' = .ok (.invocation i) ∧ i.value? .options = none ∧ i.items e ≠ [] ∧
        c.bundle = some b ∧ i.command e = .ok c ∧ j.command e = .ok c := by
  refine ⟨?_, fun args i => exists_bare, ?_⟩
  · intro args i js hr ht hn hp
    obtain ⟨k, c, hk, hc, hreq⟩ := exists_typed hr ht hn
    have hi : i.items e = i.selection.items e k := by rw [Invocation.items, hk]
    have hj : js ≠ [] := fun h => hn (h ▸ hp).eq_nil
    rw [hi] at hp
    refine ⟨c, _, congrArg Request.bundle hreq, hc, ?_, ?_⟩
    · exact exists_raw_line hr (hk ▸ Option.some_ne_none k) _
    · intro args' j hr' ⟨hop, hos, hfl, htext⟩
      have hb : Bundle.read j.operation e (Options.Item.joined js) =
          .ok (i.selection.bundle k) :=
        (Bundle.read_eq_ok_iff (hop ▸ hk)).mpr (Selection.readKind_joined hp hj)
      obtain ⟨d, hd, hreq'⟩ := exists_raw hr' htext hb
      have hdc : d = c := command_eq_of_request (by rw [hreq', hreq, hop, hos, hfl])
      rw [hd, hdc]
  · intro args j text b hr ht hb
    obtain ⟨d, hd, hreq⟩ := exists_raw hr ht hb
    obtain ⟨args', i, c, hr', ht', hn, hc, hreq'⟩ :=
      exists_full_line hr (Bundle.bundleKind_of_read hb) e
    obtain rfl : d = c := command_eq_of_request (hreq.trans hreq'.symm)
    exact ⟨args', i, d, hr', ht', hn, congrArg Request.bundle hreq, hc, hd⟩

theorem spellings_agree_swapped :
    ∃ i j c, read ["incl", "--sim", "--dir=up", "a", "b"] = .ok (.invocation i) ∧
      read ["incl", "--options=sim=yes,dir=up", "a", "b"] = .ok (.invocation j) ∧
      i.command .explicitFa = .ok c ∧ j.command .explicitFa = .ok c := by
  let i : Invocation := ⟨[], [⟨.switch .simulation, none⟩, ⟨.setting .direction, some "up"⟩],
    .inclusion, ["a", "b"]⟩
  let j : Invocation := ⟨[], [⟨.setting .options, some "sim=yes,dir=up"⟩], .inclusion, ["a", "b"]⟩
  have hi : read ["incl", "--sim", "--dir=up", "a", "b"] = .ok (.invocation i) := by rfl
  have hj : read ["incl", "--options=sim=yes,dir=up", "a", "b"] = .ok (.invocation j) := by rfl
  have hp : (i.items .explicitFa).Perm [⟨"sim", "yes"⟩, ⟨"dir", "up"⟩] := .swap _ _ _
  obtain ⟨c, b, -, hc, -, hraw⟩ := (spellings_agree .explicitFa).1 _ i _ hi rfl (by decide) hp
  exact ⟨i, j, c, hi, hj, hc, hraw _ j hj ⟨rfl, rfl, rfl, rfl⟩⟩

end TreeTool.CommandLine
