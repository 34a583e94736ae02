import Mathlib.Data.List.Nodup
import Mathlib.Tactic.SplitIfs
import TreeTool.Options.Reading
import TreeTool.Proofs.Options.Listing
import TreeTool.Proofs.Vocabulary

/-!
# The option texts that are accepted

`grammar` lists the keys of every kind of bundle with the values each of them may have, and
`Bundle.overlaid` replaces the options that a list of items names. Reading accepts a text exactly
if it lists legal items, and yields the default bundle with the named options replaced; the order
of the items has no influence. The induction is over the items: each step replaces one option, and
because no key comes twice the options replaced later are other ones.
-/

namespace TreeTool

namespace Options

def downUp : List (String × Direction) := [("down", .down), ("up", .up)]

def forwardBackward : List (String × Direction) := [("fwd", .down), ("bwd", .up)]

def directionWords : Encoding → List (String × Direction)
  | .explicitFa => forwardBackward
  | .explicit | .bddTopDown | .bddBottomUp => downUp

def orderWords : List (String × Order) := [("breadth", .breadth), ("depth", .depth)]

def algorithmWords : List (String × Algorithm) :=
  [("antichains", .antichains), ("congr", .congruence)]

def switchWords : List (String × Bool) := [("yes", true), ("no", false)]

def spellings {α : Type} (words : List (String × α)) : List String := words.map (·.1)

/-- The keys of a kind of bundle, each with the values it may have. -/
def grammar (e : Encoding) : BundleKind → List (String × List String)
  | .inclusion =>
    [("dir", spellings downUp), ("order", spellings orderWords), ("alg", spellings algorithmWords),
      ("sim", spellings switchWords), ("optC", spellings switchWords),
      ("rec", spellings switchWords), ("timeS", spellings switchWords)]
  | .direction => [("dir", spellings (directionWords e))]
  | .equivalence => [("order", spellings orderWords)]

def Legal (e : Encoding) (k : BundleKind) (i : Item) : Prop :=
  ∃ vs, (i.key, vs) ∈ grammar e k ∧ i.value ∈ vs

def named? (is : List Item) (key : String) : Option String :=
  (is.map fun i => (i.key, i.value)).lookup key

def replaced {α : Type} (words : List (String × α)) (is : List Item) (key : String) (old : α) : α :=
  ((named? is key).bind fun v => words.lookup v).getD old

end Options

open Options

namespace Bundle

/-- The bundle with the options replaced that the items name. -/
def overlaid (e : Encoding) (is : List Item) : Bundle → Bundle
  | inclusion o =>
    inclusion {
      direction := replaced downUp is "dir" o.direction
      algorithm := replaced algorithmWords is "alg" o.algorithm
      simulation := replaced switchWords is "sim" o.simulation
      order := replaced orderWords is "order" o.order
      cacheOptimization := replaced switchWords is "optC" o.cacheOptimization
      recursion := replaced switchWords is "rec" o.recursion
      simulationTime := replaced switchWords is "timeS" o.simulationTime }
  | direction d => direction (replaced (directionWords e) is "dir" d)
  | equivalence r => equivalence (replaced orderWords is "order" r)

end Bundle

/-! ## One value -/

namespace Options

variable {α β : Type} {i : Item}

theorem tokenValue_eq_ok_iff {label : String} {read : String → Except Fault α} {v : α} :
    tokenValue label i read = .ok v ↔ read i.value = .ok v := by
  rw [tokenValue]
  cases read i.value <;> simp

theorem boolValue_eq_ok_iff {b : Bool} :
    boolValue i = .ok b ↔ switchWords.lookup i.value = some b := by
  rw [boolValue, switchWords]
  by_cases hy : i.value = "yes"
  · simp [hy]
  · by_cases hn : i.value = "no"
    · simp [hn, List.lookup_cons]
    · simp [hy, hn, List.lookup_cons, beq_eq_false_iff_ne.mpr hy, beq_eq_false_iff_ne.mpr hn]

theorem directionFor_eq_ok_iff {e : Encoding} {t : String} {d : Direction} :
    Direction.ofTokenFor e t = .ok d ↔ (directionWords e).lookup t = some d := by
  by_cases he : e = .explicitFa
  · subst he
    exact Direction.ofTokenFor_explicitFa_eq_ok_iff
  · have hw : directionWords e = Coded.words Direction := by
      cases e <;> first | rfl | exact absurd rfl he
    rw [Direction.ofTokenFor_of_ne he, Coded.ofToken_eq_ok_iff, hw]

theorem mem_spellings_iff {words : List (String × α)} {t : String} :
    t ∈ spellings words ↔ ∃ v, words.lookup t = some v := by
  rw [← Option.isSome_iff_exists, List.lookup_isSome_iff, spellings, List.mem_map]
  simp only [beq_iff_eq, @eq_comm _ t]

theorem map_eq_ok_iff {words : List (String × α)} {r : Except Refusal α} {f : α → β} {b : β}
    (old : α) (hr : ∀ v, r = .ok v ↔ words.lookup i.value = some v) :
    r.map f = .ok b ↔
      i.value ∈ spellings words ∧ b = f ((words.lookup i.value).getD old) := by
  rw [mem_spellings_iff]
  cases hw : words.lookup i.value with
  | none =>
    cases r with
    | error x => simp [Except.map]
    | ok v => simp [(hr v).mp rfl] at hw
  | some v =>
    rw [(hr v).mpr hw]
    simp [Except.map, eq_comm]

end Options

/-! ## One item -/

namespace Options

variable {α : Type} {i : Item} {is : List Item}

@[simp] theorem named?_nil (key : String) : named? [] key = none := rfl

theorem named?_cons_self (i : Item) (is : List Item) : named? (i :: is) i.key = some i.value := by
  simp [named?]

theorem named?_cons_of_ne {key : String} (h : i.key ≠ key) (is : List Item) :
    named? (i :: is) key = named? is key := by
  simp [named?, List.lookup_cons, beq_eq_false_iff_ne.mpr (Ne.symm h)]

theorem named?_eq_none {key : String} (h : key ∉ is.map Item.key) : named? is key = none := by
  rw [named?, List.lookup_eq_none_iff]
  intro p hp
  obtain ⟨i, hi, rfl⟩ := List.mem_map.mp hp
  have hk : key ≠ i.key := fun hk => h (hk ▸ List.mem_map_of_mem hi)
  simpa using hk

@[simp] theorem replaced_nil (words : List (String × α)) (key : String) (old : α) :
    replaced words [] key old = old := rfl

theorem replaced_singleton_self {words : List (String × α)} {key : String} (h : i.key = key)
    (old : α) : replaced words [i] key old = (words.lookup i.value).getD old := by
  subst h
  rw [replaced, named?_cons_self, Option.bind_some]

theorem replaced_singleton_of_ne {words : List (String × α)} {key : String} (h : i.key ≠ key)
    (old : α) : replaced words [i] key old = old := by
  rw [replaced, named?_cons_of_ne h]
  rfl

theorem replaced_cons (h : i.key ∉ is.map Item.key) (words : List (String × α)) (key : String)
    (old : α) :
    replaced words is key (replaced words [i] key old) = replaced words (i :: is) key old := by
  by_cases hk : i.key = key
  · subst hk
    rw [replaced, named?_eq_none h, replaced_singleton_self rfl, replaced, named?_cons_self]
    rfl
  · rw [replaced_singleton_of_ne hk, replaced, replaced, named?_cons_of_ne hk]

end Options

namespace Bundle

@[simp] theorem overlaid_nil (e : Encoding) (b : Bundle) : b.overlaid e [] = b := by
  cases b <;> rfl

@[simp] theorem kind_overlaid (e : Encoding) (is : List Item) (b : Bundle) :
    (b.overlaid e is).kind = b.kind := by
  cases b <;> rfl

theorem overlaid_cons {i : Item} {is : List Item} (h : i.key ∉ is.map Item.key) (e : Encoding)
    (b : Bundle) : (b.overlaid e [i]).overlaid e is = b.overlaid e (i :: is) := by
  cases b <;> simp only [overlaid, replaced_cons h]

end Bundle

namespace Options

variable {α : Type} {i : Item}

theorem nodup_grammar (e : Encoding) (k : BundleKind) : ((grammar e k).map (·.1)).Nodup := by
  cases k <;> simp [grammar]

theorem legal_iff {e : Encoding} {k : BundleKind} {vs : List String}
    (h : (i.key, vs) ∈ grammar e k) : Legal e k i ↔ i.value ∈ vs := by
  constructor
  · rintro ⟨ws, hw, hv⟩
    have hs := List.inj_on_of_nodup_map (nodup_grammar e k) h hw rfl
    rw [(Prod.mk.inj hs).2]
    exact hv
  · exact fun hv => ⟨vs, h, hv⟩

theorem map_eq_ok_iff_legal {e : Encoding} (b : Bundle) {b' : Bundle} {words : List (String × α)}
    {r : Except Refusal α} {f : α → Bundle} (old : α)
    (hk : (i.key, spellings words) ∈ grammar e b.kind)
    (hr : ∀ v, r = .ok v ↔ words.lookup i.value = some v)
    (hf : b.overlaid e [i] = f ((words.lookup i.value).getD old)) :
    r.map f = .ok b' ↔ Legal e b.kind i ∧ b' = b.overlaid e [i] := by
  rw [map_eq_ok_iff old hr, legal_iff hk, hf]

theorem not_legal_of_not_mem {e : Encoding} {k : BundleKind}
    (h : i.key ∉ (grammar e k).map (·.1)) : ¬ Legal e k i := by
  rintro ⟨vs, hv, -⟩
  exact h (List.mem_map_of_mem hv)

end Options

theorem map_map {α β γ ε : Type} (f : α → β) (g : β → γ) (r : Except ε α) :
    (r.map f).map g = r.map fun a => g (f a) := by
  cases r <;> rfl

theorem InclusionOptions.set_eq_ok_iff {e : Encoding} {o : InclusionOptions} {i : Item}
    {b : Bundle} :
    (o.set i).map Bundle.inclusion = .ok b ↔
      Legal e .inclusion i ∧ b = (Bundle.inclusion o).overlaid e [i] := by
  have direction v : tokenValue "direction" i (Coded.ofToken Direction) = .ok v ↔
      downUp.lookup i.value = some v := tokenValue_eq_ok_iff.trans Coded.ofToken_eq_ok_iff
  have order v : tokenValue "order" i (Coded.ofToken Order) = .ok v ↔
      orderWords.lookup i.value = some v := tokenValue_eq_ok_iff.trans Coded.ofToken_eq_ok_iff
  have algorithm v : tokenValue "algorithm" i (Coded.ofToken Algorithm) = .ok v ↔
      algorithmWords.lookup i.value = some v := tokenValue_eq_ok_iff.trans Coded.ofToken_eq_ok_iff
  have switch v : boolValue i = .ok v ↔ switchWords.lookup i.value = some v := boolValue_eq_ok_iff
  rw [InclusionOptions.set]
  split_ifs with hdir horder halg hsim hoptC hrec htime
  · rw [map_map]
    refine map_eq_ok_iff_legal (.inclusion o) o.direction ?_ direction ?_
    · simp [hdir, Bundle.kind, grammar]
    · simp [hdir, Bundle.overlaid, replaced_singleton_self, replaced_singleton_of_ne]
  · rw [map_map]
    refine map_eq_ok_iff_legal (.inclusion o) o.order ?_ order ?_
    · simp [horder, Bundle.kind, grammar]
    · simp [horder, Bundle.overlaid, replaced_singleton_self, replaced_singleton_of_ne]
  · rw [map_map]
    refine map_eq_ok_iff_legal (.inclusion o) o.algorithm ?_ algorithm ?_
    · simp [halg, Bundle.kind, grammar]
    · simp [halg, Bundle.overlaid, replaced_singleton_self, replaced_singleton_of_ne]
  · rw [map_map]
    refine map_eq_ok_iff_legal (.inclusion o) o.simulation ?_ switch ?_
    · simp [hsim, Bundle.kind, grammar]
    · simp [hsim, Bundle.overlaid, replaced_singleton_self, replaced_singleton_of_ne]
  · rw [map_map]
    refine map_eq_ok_iff_legal (.inclusion o) o.cacheOptimization ?_ switch ?_
    · simp [hoptC, Bundle.kind, grammar]
    · simp [hoptC, Bundle.overlaid, replaced_singleton_self, replaced_singleton_of_ne]
  · rw [map_map]
    refine map_eq_ok_iff_legal (.inclusion o) o.recursion ?_ switch ?_
    · simp [hrec, Bundle.kind, grammar]
    · simp [hrec, Bundle.overlaid, replaced_singleton_self, replaced_singleton_of_ne]
  · rw [map_map]
    refine map_eq_ok_iff_legal (.inclusion o) o.simulationTime ?_ switch ?_
    · simp [htime, Bundle.kind, grammar]
    · simp [htime, Bundle.overlaid, replaced_singleton_self, replaced_singleton_of_ne]
  · have hl : ¬ Legal e .inclusion i := not_legal_of_not_mem (by simp_all [grammar])
    simp [Except.map, hl]

namespace Bundle

theorem set_eq_ok_iff {e : Encoding} {b b' : Bundle} {i : Item} :
    b.set e i = .ok b' ↔ Legal e b.kind i ∧ b' = b.overlaid e [i] := by
  cases b with
  | inclusion o => exact InclusionOptions.set_eq_ok_iff
  | direction d =>
    rw [set]
    split_ifs with hdir
    · have hr v : tokenValue "direction" i (Direction.ofTokenFor e) = .ok v ↔
          (directionWords e).lookup i.value = some v :=
        tokenValue_eq_ok_iff.trans directionFor_eq_ok_iff
      refine map_eq_ok_iff_legal (.direction d) d ?_ hr ?_
      · simp [hdir, kind, grammar]
      · simp [hdir, overlaid, replaced_singleton_self]
    · have hl : ¬ Legal e .direction i := not_legal_of_not_mem (by simp_all [grammar])
      simp [kind, hl]
  | equivalence r =>
    rw [set]
    split_ifs with horder
    · have hr v : tokenValue "order" i (Coded.ofToken Order) = .ok v ↔
          orderWords.lookup i.value = some v := tokenValue_eq_ok_iff.trans Coded.ofToken_eq_ok_iff
      refine map_eq_ok_iff_legal (.equivalence r) r ?_ hr ?_
      · simp [horder, kind, grammar]
      · simp [horder, overlaid, replaced_singleton_self]
    · have hl : ¬ Legal e .equivalence i := not_legal_of_not_mem (by simp_all [grammar])
      simp [kind, hl]

theorem setAll_eq_ok_iff {e : Encoding} {b b' : Bundle} {is : List Item}
    (hd : (is.map Item.key).Nodup) :
    b.setAll e is = .ok b' ↔ (∀ i ∈ is, Legal e b.kind i) ∧ b' = b.overlaid e is := by
  induction is generalizing b with
  | nil => simp [setAll, eq_comm]
  | cons i is ih =>
    rw [List.map_cons, List.nodup_cons] at hd
    rw [setAll]
    by_cases hi : Legal e b.kind i
    · have hs : b.set e i = .ok (b.overlaid e [i]) := set_eq_ok_iff.mpr ⟨hi, rfl⟩
      rw [hs]
      simp only [ih hd.2, kind_overlaid, overlaid_cons hd.1, List.forall_mem_cons, hi, true_and]
    · cases hs : b.set e i with
      | ok c => exact absurd (set_eq_ok_iff.mp hs).1 hi
      | error r => simp [hi]

@[simp] theorem kind_default (k : BundleKind) : (default k).kind = k := by
  cases k <;> rfl

theorem readKind_eq_ok_iff {k : BundleKind} {e : Encoding} {text : String} {b : Bundle} :
    readKind k e text = .ok b ↔
      ∃ is, Listing text is ∧ (∀ i ∈ is, Legal e k i) ∧ b = (default k).overlaid e is := by
  rw [readKind]
  constructor
  · intro h
    cases hs : Item.split text with
    | error r => simp [hs] at h
    | ok is =>
      have hl := split_eq_ok_iff.mp hs
      simp only [hs, setAll_eq_ok_iff hl.distinct, kind_default] at h
      exact ⟨is, hl, h⟩
  · rintro ⟨is, hl, h⟩
    rw [split_eq_ok_iff.mpr hl]
    simpa only [setAll_eq_ok_iff hl.distinct, kind_default] using h

theorem read_eq_ok_iff {op : Operation} {k : BundleKind} (hk : op.bundleKind = some k)
    {e : Encoding} {text : String} {b : Bundle} :
    read op e text = .ok b ↔ readKind k e text = .ok b := by
  rw [read, hk]
  cases h : readKind k e text <;> simp [h]

theorem bundleKind_of_read {op : Operation} {e : Encoding} {text : String} {b : Bundle}
    (h : read op e text = .ok b) : op.bundleKind = some b.kind := by
  cases hk : op.bundleKind with
  | none => simp [read, hk] at h
  | some k =>
    obtain ⟨is, -, -, rfl⟩ := readKind_eq_ok_iff.mp ((read_eq_ok_iff hk).mp h)
    rw [kind_overlaid, kind_default]

theorem head?_of_read {op : Operation} {e : Encoding} {text : String} {b : Bundle}
    (h : read op e text = .ok b) : text.toList.head? ≠ some '-' := by
  obtain ⟨is, hl, hlegal, -⟩ :=
    readKind_eq_ok_iff.mp ((read_eq_ok_iff (bundleKind_of_read h)).mp h)
  obtain ⟨i, is, rfl⟩ := List.exists_cons_of_ne_nil hl.ne_nil
  have hi : i.key.toList ≠ [] := by simpa using (hl.sound i List.mem_cons_self).key_ne
  have hkeys : ∀ p ∈ grammar e b.kind, p.1.toList.head? ≠ some '-' := by
    cases e <;> cases b.kind <;> decide
  obtain ⟨vs, hg, -⟩ := hlegal i List.mem_cons_self
  rw [hl.text_eq, Item.toList_joined, List.map_cons, Text.head?_joined i.text_ne_nil,
    Item.toList_text, List.head?_append_of_ne_nil _ hi]
  exact hkeys _ hg

end Bundle

/-! ## The order of the items -/

namespace Options

theorem named?_eq_some_iff {is : List Item} (hd : (is.map Item.key).Nodup) {key v : String} :
    named? is key = some v ↔ ⟨key, v⟩ ∈ is := by
  induction is with
  | nil => simp
  | cons i is ih =>
    rw [List.map_cons, List.nodup_cons] at hd
    rw [List.mem_cons]
    by_cases hk : i.key = key
    · subst hk
      rw [named?_cons_self]
      constructor
      · rintro ⟨⟩
        exact Or.inl rfl
      · rintro (h | h)
        · rw [← h]
        · exact absurd (List.mem_map_of_mem h) hd.1
    · rw [named?_cons_of_ne hk, ih hd.2]
      constructor
      · exact Or.inr
      · rintro (h | h)
        · exact absurd (congrArg Item.key h).symm hk
        · exact h

theorem named?_perm {is js : List Item} (hp : is.Perm js) (hd : (is.map Item.key).Nodup)
    (key : String) : named? is key = named? js key := by
  have hd' : (js.map Item.key).Nodup := (hp.map Item.key).nodup_iff.mp hd
  apply Option.ext
  intro v
  rw [named?_eq_some_iff hd, named?_eq_some_iff hd', hp.mem_iff]

end Options

namespace Bundle

theorem overlaid_perm {is js : List Item} (hp : is.Perm js) (hd : (is.map Item.key).Nodup)
    (e : Encoding) (b : Bundle) : b.overlaid e is = b.overlaid e js := by
  cases b <;> simp only [overlaid, replaced, named?_perm hp hd]

theorem readKind_joined_perm {k : BundleKind} {e : Encoding} {text : String} {b : Bundle}
    {is js : List Item} (hl : Listing text is) (hp : is.Perm js) (h : readKind k e text = .ok b) :
    readKind k e (Item.joined js) = .ok b := by
  obtain ⟨is', hl', hlegal, hb⟩ := readKind_eq_ok_iff.mp h
  obtain rfl := hl.unique hl'
  refine readKind_eq_ok_iff.mpr ⟨js, hl.perm hp, fun j hj => hlegal j (hp.mem_iff.mpr hj), ?_⟩
  rw [hb, overlaid_perm hp hl.distinct]

/-- An operation that takes options accepts exactly the lists of items of its grammar, in any
order; every other operation refuses every text. -/
theorem read_grammar (op : Operation) (e : Encoding) (text : String) :
    (∀ k, op.bundleKind = some k →
      (∀ b, read op e text = .ok b ↔
        ∃ is, Listing text is ∧ (∀ i ∈ is, Legal e k i) ∧ b = (default k).overlaid e is) ∧
      (∀ is js b, Listing text is → is.Perm js → read op e text = .ok b →
        read op e (Item.joined js) = .ok b)) ∧
    (op.bundleKind = none →
      read op e text = .error (.optionsMismatch (Coded.token op) "no" "parsed")) := by
  constructor
  · intro k hk
    refine ⟨fun b => (read_eq_ok_iff hk).trans readKind_eq_ok_iff, ?_⟩
    intro is js b hl hp h
    exact (read_eq_ok_iff hk).mpr (readKind_joined_perm hl hp ((read_eq_ok_iff hk).mp h))
  · intro hk
    rw [read, hk]

theorem read_grammar_swapped :
    Listing "alg=congr,dir=up" [⟨"alg", "congr"⟩, ⟨"dir", "up"⟩] ∧
    read .inclusion .explicitFa "dir=up,alg=congr" =
      .ok (.inclusion { direction := .up, algorithm := .congruence }) ∧
    read .union .explicit "dir=up" = .error (.optionsMismatch "union" "no" "parsed") := by
  have hl : Listing "alg=congr,dir=up" [⟨"alg", "congr"⟩, ⟨"dir", "up"⟩] :=
    split_eq_ok_iff.mp rfl
  have hp : [(⟨"alg", "congr"⟩ : Item), ⟨"dir", "up"⟩].Perm [⟨"dir", "up"⟩, ⟨"alg", "congr"⟩] :=
    .swap _ _ _
  refine ⟨hl, ?_, (read_grammar .union .explicit "dir=up").2 rfl⟩
  exact ((read_grammar .inclusion .explicitFa _).1 .inclusion rfl).2 _ _ _ hl hp rfl

end Bundle

end TreeTool
