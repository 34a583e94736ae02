import TreeTool.Proofs.Options.Acceptance

/-!
# Bundles are read back from their texts

A bundle writes every option it has, under the keys of its grammar and with values of its tables.
So its text is accepted, and all of the default bundle is replaced: reading gives the bundle back,
under every encoding. Two bundles of one kind with the same text are therefore equal.
-/

namespace TreeTool

namespace Options

theorem sound_of_mem_grammar (e : Encoding) (k : BundleKind) :
    ∀ p ∈ grammar e k, ∀ v ∈ p.2, (⟨p.1, v⟩ : Item).Sound := by
  cases e <;> cases k <;> decide

theorem Legal.sound {e : Encoding} {k : BundleKind} {i : Item} (h : Legal e k i) : i.Sound := by
  obtain ⟨vs, hk, hv⟩ := h
  exact sound_of_mem_grammar e k _ hk _ hv

theorem legal_of_lookup {α : Type} {e : Encoding} {k : BundleKind} {i : Item}
    {words : List (String × α)} {v : α} (hk : (i.key, spellings words) ∈ grammar e k)
    (hv : words.lookup i.value = some v) : Legal e k i :=
  ⟨_, hk, mem_spellings_iff.mpr ⟨v, hv⟩⟩

theorem replaced_of_lookup {α : Type} {words : List (String × α)} {is : List Item}
    {key t : String} {v old : α} (hn : named? is key = some t) (hw : words.lookup t = some v) :
    replaced words is key old = v := by
  rw [replaced, hn, Option.bind_some, hw, Option.getD_some]

theorem lookup_downUp (d : Direction) : downUp.lookup (Coded.token d) = some d :=
  Coded.ofToken_eq_ok_iff.mp (Coded.ofToken_token d)

theorem lookup_directionWords (e : Encoding) (d : Direction) :
    (directionWords e).lookup (d.tokenFor e) = some d :=
  directionFor_eq_ok_iff.mp (Direction.ofTokenFor_tokenFor e d)

theorem lookup_orderWords (r : Order) : orderWords.lookup (Coded.token r) = some r :=
  Coded.ofToken_eq_ok_iff.mp (Coded.ofToken_token r)

theorem lookup_algorithmWords (a : Algorithm) : algorithmWords.lookup (Coded.token a) = some a :=
  Coded.ofToken_eq_ok_iff.mp (Coded.ofToken_token a)

theorem lookup_switchWords (b : Bool) : switchWords.lookup (boolToken b) = some b := by
  cases b <;> rfl

end Options

open Options

namespace Bundle

theorem legal_items (e : Encoding) (b : Bundle) : ∀ i ∈ b.items e, Legal e b.kind i := by
  intro i hi
  cases b with
  | inclusion o =>
    simp only [items, InclusionOptions.items, List.mem_cons, List.not_mem_nil, or_false] at hi
    rcases hi with rfl | rfl | rfl | rfl | rfl | rfl | rfl
    · exact legal_of_lookup (by simp [grammar, kind]) (lookup_downUp o.direction)
    · exact legal_of_lookup (by simp [grammar, kind]) (lookup_orderWords o.order)
    · exact legal_of_lookup (by simp [grammar, kind]) (lookup_algorithmWords o.algorithm)
    · exact legal_of_lookup (by simp [grammar, kind]) (lookup_switchWords o.simulation)
    · exact legal_of_lookup (by simp [grammar, kind]) (lookup_switchWords o.cacheOptimization)
    · exact legal_of_lookup (by simp [grammar, kind]) (lookup_switchWords o.recursion)
    · exact legal_of_lookup (by simp [grammar, kind]) (lookup_switchWords o.simulationTime)
  | direction d =>
    rw [List.mem_singleton.mp hi]
    exact legal_of_lookup (by simp [grammar, kind]) (lookup_directionWords e d)
  | equivalence r =>
    rw [List.mem_singleton.mp hi]
    exact legal_of_lookup (by simp [grammar, kind]) (lookup_orderWords r)

theorem listing_items (e : Encoding) (b : Bundle) : Listing (b.text e) (b.items e) where
  text_eq := rfl
  ne_nil := by cases b <;> simp [items, InclusionOptions.items]
  sound i hi := (b.legal_items e i hi).sound
  distinct := by cases b <;> simp [items, InclusionOptions.items]

theorem overlaid_items (e : Encoding) {b c : Bundle} (h : c.kind = b.kind) :
    c.overlaid e (b.items e) = b := by
  cases b with
  | inclusion o =>
    cases c with
    | inclusion old =>
      rw [overlaid, replaced_of_lookup rfl (lookup_downUp o.direction),
        replaced_of_lookup rfl (lookup_algorithmWords o.algorithm),
        replaced_of_lookup rfl (lookup_switchWords o.simulation),
        replaced_of_lookup rfl (lookup_orderWords o.order),
        replaced_of_lookup rfl (lookup_switchWords o.cacheOptimization),
        replaced_of_lookup rfl (lookup_switchWords o.recursion),
        replaced_of_lookup rfl (lookup_switchWords o.simulationTime)]
    | direction d => cases h
    | equivalence r => cases h
  | direction d =>
    cases c with
    | direction old => rw [overlaid, replaced_of_lookup rfl (lookup_directionWords e d)]
    | inclusion o => cases h
    | equivalence r => cases h
  | equivalence r =>
    cases c with
    | equivalence old => rw [overlaid, replaced_of_lookup rfl (lookup_orderWords r)]
    | inclusion o => cases h
    | direction d => cases h

theorem readKind_text (e : Encoding) (b : Bundle) : readKind b.kind e (b.text e) = .ok b :=
  readKind_eq_ok_iff.mpr
    ⟨b.items e, b.listing_items e, b.legal_items e, (overlaid_items e (kind_default b.kind)).symm⟩

theorem read_text {op : Operation} {b : Bundle} (h : op.bundleKind = some b.kind) (e : Encoding) :
    read op e (b.text e) = .ok b :=
  (read_eq_ok_iff h).mpr (readKind_text e b)

theorem text_injective {e : Encoding} {b c : Bundle} (hk : b.kind = c.kind)
    (ht : b.text e = c.text e) : b = c := by
  have hb := readKind_text e b
  rw [ht, hk, readKind_text e c] at hb
  exact (Except.ok.inj hb).symm

end Bundle

end TreeTool
