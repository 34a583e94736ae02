import TreeTool.Proofs.Options.Acceptance

/-!
# An option text means the same wherever it is accepted

`glossary` gives every key its words and their values, and knows neither operation nor encoding.
Reading gives each key of an accepted text the value that the glossary has for its word and leaves
every other option at its default. So two readings of one text agree on the keys it names, and are
equal if they are of one kind. The words for directions fall into two tables without a common word,
which is why a text that names a direction cannot be accepted on both sides.
-/

namespace TreeTool

inductive OptionValue
  | direction (d : Direction)
  | order (r : Order)
  | algorithm (a : Algorithm)
  | switch (on : Bool)
  deriving DecidableEq

namespace Options

def valued {α : Type} (f : α → OptionValue) (words : List (String × α)) :
    List (String × OptionValue) :=
  words.map fun p => (p.1, f p.2)

def glossary : List (String × List (String × OptionValue)) :=
  [("dir", valued .direction (downUp ++ forwardBackward)), ("order", valued .order orderWords),
    ("alg", valued .algorithm algorithmWords), ("sim", valued .switch switchWords),
    ("optC", valued .switch switchWords), ("rec", valued .switch switchWords),
    ("timeS", valued .switch switchWords)]

def meaning (i : Item) : Option OptionValue := (glossary.lookup i.key).bind (·.lookup i.value)

end Options

open Options

namespace Bundle

def values : Bundle → List (String × OptionValue)
  | inclusion o =>
    [("dir", .direction o.direction), ("order", .order o.order), ("alg", .algorithm o.algorithm),
      ("sim", .switch o.simulation), ("optC", .switch o.cacheOptimization),
      ("rec", .switch o.recursion), ("timeS", .switch o.simulationTime)]
  | direction d => [("dir", .direction d)]
  | equivalence r => [("order", .order r)]

def value? (b : Bundle) (key : String) : Option OptionValue := b.values.lookup key

end Bundle

/-! ## Words -/

namespace Options

variable {α : Type} {e e' : Encoding} {k : BundleKind} {i : Item} {is : List Item}

theorem lookup_valued (f : α → OptionValue) (words : List (String × α)) (t : String) :
    (valued f words).lookup t = (words.lookup t).map f := by
  induction words with
  | nil => rfl
  | cons p words ih =>
    rw [valued, List.map_cons, List.lookup_cons, List.lookup_cons, ← valued, ih]
    cases t == p.1 <;> rfl

theorem lookup_directions {t : String} {d : Direction} (h : (directionWords e).lookup t = some d) :
    (downUp ++ forwardBackward).lookup t = some d := by
  have hfb : ∀ t ∈ spellings forwardBackward, downUp.lookup t = none := by decide
  rw [List.lookup_append]
  cases e with
  | explicitFa =>
    rw [hfb t (mem_spellings_iff.mpr ⟨d, h⟩), Option.none_or]
    exact h
  | explicit | bddTopDown | bddBottomUp =>
    have hd : downUp.lookup t = some d := h
    rw [hd, Option.some_or]

theorem directionWords_eq (h : e = .explicitFa ↔ e' = .explicitFa) :
    directionWords e = directionWords e' := by
  cases e <;> cases e' <;> first | rfl | simp at h

theorem directionWords_disjoint (h : ¬ (e = .explicitFa ↔ e' = .explicitFa)) :
    ∀ t ∈ spellings (directionWords e), t ∉ spellings (directionWords e') := by
  cases e <;> cases e' <;> first | decide | simp at h

theorem legal_direction_iff :
    Legal e .direction i ↔ i.key = "dir" ∧ i.value ∈ spellings (directionWords e) := by
  simp [Legal, grammar]

end Options

/-! ## One reading -/

namespace Bundle

variable {α : Type} {e : Encoding} {b c : Bundle} {i : Item} {is : List Item}

theorem lookup_congr {key : String} {ps qs : List (String × OptionValue)}
    (h : List.Forall₂ (fun p q => p.1 = q.1 ∧ (p.1 = key → p.2 = q.2)) ps qs) :
    ps.lookup key = qs.lookup key := by
  induction h with
  | nil => rfl
  | @cons p q ps qs hpq _ ih =>
    obtain ⟨hk, hv⟩ := hpq
    rw [List.lookup_cons, List.lookup_cons, ih, ← hk]
    cases hb : key == p.1 with
    | false => rfl
    | true => rw [hv (beq_iff_eq.mp hb).symm]

theorem value?_overlaid_of_unnamed {key : String} (h : named? is key = none) (e : Encoding)
    (b : Bundle) : (b.overlaid e is).value? key = b.value? key := by
  have hr {α : Type} (words : List (String × α)) (key' : String) (old : α) (hk : key' = key) :
      replaced words is key' old = old := by
    rw [replaced, hk, h]
    rfl
  apply lookup_congr
  cases b <;> simp +contextual [overlaid, values, hr]

theorem value_replaced {words words' : List (String × α)} {f : α → OptionValue} {k : BundleKind}
    (hg : glossary.lookup i.key = some (valued f words'))
    (hw : ∀ v, words.lookup i.value = some v → words'.lookup i.value = some v)
    (hk : (i.key, spellings words) ∈ grammar e k) (hl : Legal e k i)
    (hn : named? is i.key = some i.value) (old : α) :
    ∃ v, meaning i = some v ∧ some (f (replaced words is i.key old)) = some v := by
  obtain ⟨v, hv⟩ := mem_spellings_iff.mp ((legal_iff hk).mp hl)
  refine ⟨f v, ?_, ?_⟩
  · rw [meaning, hg, Option.bind_some, lookup_valued, hw v hv, Option.map_some]
  · rw [replaced, hn, Option.bind_some, hv, Option.getD_some]

theorem value?_overlaid_of_legal (hl : Legal e b.kind i) (hn : named? is i.key = some i.value) :
    ∃ v, meaning i = some v ∧ (b.overlaid e is).value? i.key = some v := by
  obtain ⟨key, value⟩ := i
  have hk : key ∈ (grammar e b.kind).map (·.1) := by
    obtain ⟨vs, hvs, -⟩ := hl
    exact List.mem_map_of_mem hvs
  cases b with
  | inclusion o =>
    simp only [kind, grammar, List.map_cons, List.map_nil, List.mem_cons, List.not_mem_nil,
      or_false] at hk
    rcases hk with rfl | rfl | rfl | rfl | rfl | rfl | rfl
    · have hd (d : Direction) (h : downUp.lookup value = some d) :=
        lookup_directions (e := .explicit) h
      exact value_replaced rfl hd (by simp [kind, grammar]) hl hn o.direction
    · exact value_replaced rfl (fun _ => id) (by simp [kind, grammar]) hl hn o.order
    · exact value_replaced rfl (fun _ => id) (by simp [kind, grammar]) hl hn o.algorithm
    · exact value_replaced rfl (fun _ => id) (by simp [kind, grammar]) hl hn o.simulation
    · exact value_replaced rfl (fun _ => id) (by simp [kind, grammar]) hl hn o.cacheOptimization
    · exact value_replaced rfl (fun _ => id) (by simp [kind, grammar]) hl hn o.recursion
    · exact value_replaced rfl (fun _ => id) (by simp [kind, grammar]) hl hn o.simulationTime
  | direction d =>
    obtain rfl : key = "dir" := List.mem_singleton.mp hk
    exact value_replaced rfl (fun _ => lookup_directions) (by simp [kind, grammar]) hl hn d
  | equivalence r =>
    obtain rfl : key = "order" := List.mem_singleton.mp hk
    exact value_replaced rfl (fun _ => id) (by simp [kind, grammar]) hl hn r

theorem eq_of_value? (hk : b.kind = c.kind) (h : ∀ key, b.value? key = c.value? key) : b = c := by
  cases b with
  | inclusion o =>
    cases c with
    | inclusion o' =>
      have hdir := h "dir"
      have horder := h "order"
      have halg := h "alg"
      have hsim := h "sim"
      have hoptC := h "optC"
      have hrec := h "rec"
      have htime := h "timeS"
      cases o
      cases o'
      simp_all [value?, values, List.lookup_cons]
    | direction d => cases hk
    | equivalence r => cases hk
  | direction d =>
    cases c with
    | direction d' => simpa [value?, values] using h "dir"
    | inclusion o => cases hk
    | equivalence r => cases hk
  | equivalence r =>
    cases c with
    | equivalence r' => simpa [value?, values] using h "order"
    | inclusion o => cases hk
    | direction d => cases hk

theorem value?_of_read {op : Operation} {text : String} (h : read op e text = .ok b) :
    ∃ is, Listing text is ∧
      (∀ i ∈ is, ∃ v, meaning i = some v ∧ b.value? i.key = some v) ∧
      ∀ key, key ∉ is.map Item.key → b.value? key = (default b.kind).value? key := by
  obtain ⟨is, hl, hlegal, hb⟩ :=
    readKind_eq_ok_iff.mp ((read_eq_ok_iff (bundleKind_of_read h)).mp h)
  refine ⟨is, hl, fun i hi => ?_, fun key hkey => ?_⟩
  · have hn : named? is i.key = some i.value := (named?_eq_some_iff hl.distinct).mpr hi
    have hi' : Legal e (default b.kind).kind i := by
      rw [kind_default]
      exact hlegal i hi
    rw [hb]
    exact value?_overlaid_of_legal hi' hn
  · rw [hb, value?_overlaid_of_unnamed (named?_eq_none hkey), kind_overlaid, kind_default]

/-! ## Two readings -/

/-- Two bundles give the same value to every key that a text names. -/
def Agree (text : String) (b c : Bundle) : Prop :=
  ∃ is, Listing text is ∧ ∀ i ∈ is, ∃ v, b.value? i.key = some v ∧ c.value? i.key = some v

section twice

variable {op op' : Operation} {e' : Encoding} {text : String}

theorem agree_of_read (h : read op e text = .ok b) (h' : read op' e' text = .ok c) :
    Agree text b c := by
  obtain ⟨is, hl, hb, -⟩ := value?_of_read h
  obtain ⟨js, hj, hc, -⟩ := value?_of_read h'
  obtain rfl := hl.unique hj
  refine ⟨is, hl, fun i hi => ?_⟩
  obtain ⟨v, hm, hv⟩ := hb i hi
  obtain ⟨w, hm', hw⟩ := hc i hi
  rw [hm] at hm'
  cases hm'
  exact ⟨v, hv, hw⟩

theorem eq_of_read (h : read op e text = .ok b) (h' : read op' e' text = .ok c)
    (hk : op.bundleKind = op'.bundleKind) : b = c := by
  rw [bundleKind_of_read h, bundleKind_of_read h'] at hk
  have hkind : b.kind = c.kind := Option.some.inj hk
  obtain ⟨is, hl, hsame⟩ := agree_of_read h h'
  obtain ⟨js, hj, -, hb⟩ := value?_of_read h
  obtain ⟨ks, hks, -, hc⟩ := value?_of_read h'
  obtain rfl := hl.unique hj
  obtain rfl := hl.unique hks
  refine eq_of_value? hkind fun key => ?_
  by_cases hkey : key ∈ is.map Item.key
  · obtain ⟨i, hi, rfl⟩ := List.mem_map.mp hkey
    obtain ⟨v, hv, hw⟩ := hsame i hi
    rw [hv, hw]
  · rw [hb key hkey, hc key hkey, hkind]

theorem accepted_iff_of_direction (ho : op.bundleKind = some .direction)
    (ho' : op'.bundleKind = some .direction) (h : read op e text = .ok b) :
    (∃ c, read op' e' text = .ok c) ↔ (e = .explicitFa ↔ e' = .explicitFa) := by
  obtain ⟨is, hl, hlegal, -⟩ := readKind_eq_ok_iff.mp ((read_eq_ok_iff ho).mp h)
  constructor
  · rintro ⟨c, hc⟩
    obtain ⟨js, hj, hlegal', -⟩ := readKind_eq_ok_iff.mp ((read_eq_ok_iff ho').mp hc)
    obtain rfl := hl.unique hj
    obtain ⟨i, hi⟩ := List.exists_mem_of_ne_nil is hl.ne_nil
    have hv := (legal_direction_iff.mp (hlegal i hi)).2
    have hv' := (legal_direction_iff.mp (hlegal' i hi)).2
    by_contra hne
    exact directionWords_disjoint hne i.value hv hv'
  · intro he
    have hlegal' : ∀ i ∈ is, Legal e' .direction i := by
      intro i hi
      rw [legal_direction_iff, ← directionWords_eq he, ← legal_direction_iff]
      exact hlegal i hi
    exact ⟨_, (read_eq_ok_iff ho').mpr (readKind_eq_ok_iff.mpr ⟨is, hl, hlegal', rfl⟩)⟩

end twice

/-- Wherever a text is accepted it says the same. Under another encoding it is refused or says the
same, and a direction is refused exactly on the other side of the finite automata. -/
theorem reading_context_free (text : String) :
    (∀ op op' e e' b c, read op e text = .ok b → read op' e' text = .ok c →
      Agree text b c ∧ (op.bundleKind = op'.bundleKind → b = c)) ∧
    (∀ op e e' b, read op e text = .ok b →
      (∃ f, read op e' text = .error f) ∨ read op e' text = .ok b) ∧
    ∀ op op' e e' b, op ∈ [Operation.simulation, .reduction] →
      op' ∈ [Operation.simulation, .reduction] → read op e text = .ok b →
      ((∃ c, read op' e' text = .ok c) ↔ (e = .explicitFa ↔ e' = .explicitFa)) := by
  have hkind : ∀ op ∈ [Operation.simulation, .reduction], op.bundleKind = some .direction := by
    decide
  refine ⟨?_, ?_, ?_⟩
  · intro op op' e e' b c h h'
    exact ⟨agree_of_read h h', eq_of_read h h'⟩
  · intro op e e' b h
    cases h' : read op e' text with
    | error f => exact Or.inl ⟨f, rfl⟩
    | ok c =>
      rw [eq_of_read h h' rfl]
      exact Or.inr rfl
  · intro op op' e e' b ho ho' h
    exact accepted_iff_of_direction (hkind op ho) (hkind op' ho') h

theorem reading_context_free_up :
    Agree "dir=up" (.direction .up) (.inclusion { direction := .up }) ∧
    ¬ ∃ c, read .reduction .explicitFa "dir=up" = .ok c := by
  have hs : read .simulation .bddTopDown "dir=up" = .ok (.direction .up) := rfl
  have hi : read .inclusion .explicitFa "dir=up" = .ok (.inclusion { direction := .up }) := rfl
  obtain ⟨hagree, -, hside⟩ := reading_context_free "dir=up"
  refine ⟨(hagree _ _ _ _ _ _ hs hi).1, fun h => ?_⟩
  have hfa := (hside _ .reduction _ .explicitFa _ (by decide) (by decide) hs).mp h
  exact absurd hfa (by decide)

end Bundle

end TreeTool
