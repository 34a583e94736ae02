import TreeTool.Proofs.Options.RoundTrip

/-!
# Options picked one by one

A selection picks some options and leaves the others to their defaults. Written as an option text,
with one item for every option picked and in any order, it is read as the bundle it stands for. For
every bundle there is a selection that leaves nothing to the defaults.
-/

namespace TreeTool

open Options

/-- Options that are picked. A switch is off unless it is picked. -/
structure Selection where
  direction : Option Direction := none
  algorithm : Option Algorithm := none
  simulation : Bool := false
  order : Option Order := none
  cacheOptimization : Bool := false
  recursion : Bool := false
  simulationTime : Option Bool := none
  deriving DecidableEq

namespace Selection

def switched (on : Bool) : Option String := if on then some "yes" else none

def entries (x : Selection) (e : Encoding) : BundleKind → List (String × Option String)
  | .inclusion =>
    [("dir", x.direction.map Coded.token), ("alg", x.algorithm.map Coded.token),
      ("sim", switched x.simulation), ("order", x.order.map Coded.token),
      ("optC", switched x.cacheOptimization), ("rec", switched x.recursion),
      ("timeS", x.simulationTime.map boolToken)]
  | .direction => [("dir", x.direction.map (·.tokenFor e))]
  | .equivalence => [("order", x.order.map Coded.token)]

def itemsOf (ps : List (String × Option String)) : List Item :=
  ps.filterMap fun p => p.2.map fun v => ⟨p.1, v⟩

def items (x : Selection) (e : Encoding) (k : BundleKind) : List Item := itemsOf (x.entries e k)

def picks (x : Selection) : BundleKind → Bool
  | .inclusion =>
    x.direction.isSome || x.algorithm.isSome || x.simulation || x.order.isSome ||
      x.cacheOptimization || x.recursion || x.simulationTime.isSome
  | .direction => x.direction.isSome
  | .equivalence => x.order.isSome

def bundle (x : Selection) : BundleKind → Bundle
  | .inclusion =>
    .inclusion {
      direction := x.direction.getD .down
      algorithm := x.algorithm.getD .antichains
      simulation := x.simulation
      order := x.order.getD .depth
      cacheOptimization := x.cacheOptimization
      recursion := x.recursion
      simulationTime := x.simulationTime.getD true }
  | .direction => .direction (x.direction.getD .down)
  | .equivalence => .equivalence (x.order.getD .depth)

def ofBundle : Bundle → Selection
  | .inclusion o =>
    { direction := some o.direction
      algorithm := some o.algorithm
      simulation := o.simulation
      order := some o.order
      cacheOptimization := o.cacheOptimization
      recursion := o.recursion
      simulationTime := some o.simulationTime }
  | .direction d => { direction := some d }
  | .equivalence r => { order := some r }

theorem bundle_ofBundle (b : Bundle) : (ofBundle b).bundle b.kind = b := by
  cases b <;> rfl

theorem items_ofBundle_ne_nil (e : Encoding) (b : Bundle) : (ofBundle b).items e b.kind ≠ [] := by
  cases b <;> exact List.cons_ne_nil _ _

/-! ## The items of a selection -/

section entries

variable {α : Type} {ps : List (String × Option String)} {key : String} {v? : Option String}

theorem mem_keys_itemsOf (h : key ∈ (itemsOf ps).map Item.key) : key ∈ ps.map (·.1) := by
  obtain ⟨i, hi, rfl⟩ := List.mem_map.mp h
  obtain ⟨p, hp, hv⟩ := List.mem_filterMap.mp hi
  obtain ⟨v, -, rfl⟩ := Option.map_eq_some_iff.mp hv
  exact List.mem_map_of_mem hp

theorem distinct_itemsOf (h : (ps.map (·.1)).Nodup) : ((itemsOf ps).map Item.key).Nodup := by
  induction ps with
  | nil => exact List.nodup_nil
  | cons p ps ih =>
    obtain ⟨key, v?⟩ := p
    obtain ⟨hk, hps⟩ := List.nodup_cons.mp h
    cases v? with
    | none => exact ih hps
    | some v => exact List.nodup_cons.mpr ⟨fun hm => hk (mem_keys_itemsOf hm), ih hps⟩

theorem named?_itemsOf (h : (ps.map (·.1)).Nodup) (hm : (key, v?) ∈ ps) :
    named? (itemsOf ps) key = v? := by
  induction ps with
  | nil => cases hm
  | cons p ps ih =>
    obtain ⟨key', v?'⟩ := p
    obtain ⟨hk, hps⟩ := List.nodup_cons.mp h
    rcases List.mem_cons.mp hm with heq | htail
    · cases heq
      cases v? with
      | none => exact named?_eq_none fun hn => hk (mem_keys_itemsOf hn)
      | some v => exact named?_cons_self ⟨key, v⟩ _
    · have hkey : key ∈ ps.map (·.1) := List.mem_map_of_mem htail
      have hne : key' ≠ key := fun he => hk (he ▸ hkey)
      cases v?' with
      | none => exact ih hps htail
      | some v => exact (named?_cons_of_ne (i := ⟨key', v⟩) hne _).trans (ih hps htail)

end entries

theorem distinct_entries (x : Selection) (e : Encoding) (k : BundleKind) :
    ((x.entries e k).map (·.1)).Nodup := by
  cases k <;> simp [entries]

theorem switched_eq_map (on : Bool) :
    switched on = (if on then some true else none).map boolToken := by
  cases on <;> rfl

theorem legal_of_map {α : Type} {words : List (String × α)} {token : α → String} {e : Encoding}
    {k : BundleKind} {key v : String} {a? : Option α} (ht : ∀ a, words.lookup (token a) = some a)
    (hk : (key, spellings words) ∈ grammar e k) (hv : some v = a?.map token) :
    Legal e k ⟨key, v⟩ := by
  obtain ⟨a, -, rfl⟩ := Option.map_eq_some_iff.mp hv.symm
  exact legal_of_lookup hk (ht a)

theorem legal_of_mem_entries {x : Selection} {e : Encoding} {k : BundleKind} {key v : String}
    (h : (key, some v) ∈ x.entries e k) : Legal e k ⟨key, v⟩ := by
  cases k with
  | inclusion =>
    simp only [entries, switched_eq_map, List.mem_cons, Prod.mk.injEq, List.not_mem_nil,
      or_false] at h
    rcases h with ⟨rfl, hv⟩ | ⟨rfl, hv⟩ | ⟨rfl, hv⟩ | ⟨rfl, hv⟩ | ⟨rfl, hv⟩ | ⟨rfl, hv⟩ | ⟨rfl, hv⟩
    · exact legal_of_map lookup_downUp (by simp [grammar]) hv
    · exact legal_of_map lookup_algorithmWords (by simp [grammar]) hv
    · exact legal_of_map lookup_switchWords (by simp [grammar]) hv
    · exact legal_of_map lookup_orderWords (by simp [grammar]) hv
    · exact legal_of_map lookup_switchWords (by simp [grammar]) hv
    · exact legal_of_map lookup_switchWords (by simp [grammar]) hv
    · exact legal_of_map lookup_switchWords (by simp [grammar]) hv
  | direction =>
    obtain ⟨rfl, hv⟩ := Prod.mk.inj (List.mem_singleton.mp h)
    exact legal_of_map (lookup_directionWords e) (by simp [grammar]) hv
  | equivalence =>
    obtain ⟨rfl, hv⟩ := Prod.mk.inj (List.mem_singleton.mp h)
    exact legal_of_map lookup_orderWords (by simp [grammar]) hv

theorem legal_items (x : Selection) (e : Encoding) (k : BundleKind) :
    ∀ i ∈ x.items e k, Legal e k i := by
  intro i hi
  obtain ⟨⟨key, v?⟩, hp, hv⟩ := List.mem_filterMap.mp hi
  obtain ⟨v, rfl, rfl⟩ := Option.map_eq_some_iff.mp hv
  exact legal_of_mem_entries hp

theorem replaced_items {α : Type} {words : List (String × α)} {token : α → String} {x : Selection}
    {e : Encoding} {k : BundleKind} {key : String} {a? : Option α}
    (ht : ∀ a, words.lookup (token a) = some a) (hm : (key, a?.map token) ∈ x.entries e k)
    (old : α) : replaced words (x.items e k) key old = a?.getD old := by
  rw [replaced, items, named?_itemsOf (distinct_entries x e k) hm]
  cases a? with
  | none => rfl
  | some a => rw [Option.map_some, Option.bind_some, ht, Option.getD_some]

theorem replaced_switched {x : Selection} {e : Encoding} {k : BundleKind} {key : String} {on : Bool}
    (hm : (key, switched on) ∈ x.entries e k) :
    replaced switchWords (x.items e k) key false = on := by
  rw [switched_eq_map] at hm
  rw [replaced_items lookup_switchWords hm]
  cases on <;> rfl

theorem overlaid_items (x : Selection) (e : Encoding) (k : BundleKind) :
    (Bundle.default k).overlaid e (x.items e k) = x.bundle k := by
  cases k with
  | inclusion =>
    have hdir : ("dir", x.direction.map Coded.token) ∈ x.entries e .inclusion := by simp [entries]
    have halg : ("alg", x.algorithm.map Coded.token) ∈ x.entries e .inclusion := by simp [entries]
    have hsim : ("sim", switched x.simulation) ∈ x.entries e .inclusion := by simp [entries]
    have horder : ("order", x.order.map Coded.token) ∈ x.entries e .inclusion := by simp [entries]
    have hoptC : ("optC", switched x.cacheOptimization) ∈ x.entries e .inclusion := by
      simp [entries]
    have hrec : ("rec", switched x.recursion) ∈ x.entries e .inclusion := by simp [entries]
    have htime : ("timeS", x.simulationTime.map boolToken) ∈ x.entries e .inclusion := by
      simp [entries]
    simp only [Bundle.default, Bundle.overlaid, bundle, replaced_items lookup_downUp hdir,
      replaced_items lookup_algorithmWords halg, replaced_switched hsim,
      replaced_items lookup_orderWords horder, replaced_switched hoptC, replaced_switched hrec,
      replaced_items lookup_switchWords htime]
  | direction =>
    have hdir : ("dir", x.direction.map (·.tokenFor e)) ∈ x.entries e .direction :=
      List.mem_singleton_self _
    rw [Bundle.default, Bundle.overlaid, replaced_items (lookup_directionWords e) hdir]
    rfl
  | equivalence =>
    have horder : ("order", x.order.map Coded.token) ∈ x.entries e .equivalence :=
      List.mem_singleton_self _
    rw [Bundle.default, Bundle.overlaid, replaced_items lookup_orderWords horder]
    rfl

theorem items_eq_nil_iff {x : Selection} {e : Encoding} {k : BundleKind} :
    x.items e k = [] ↔ x.picks k = false := by
  have hs (on : Bool) : switched on = none ↔ on = false := by cases on <;> simp [switched]
  cases k <;> simp [items, itemsOf, entries, picks, List.filterMap_eq_nil_iff, hs, and_assoc]

theorem readKind_joined {x : Selection} {e : Encoding} {k : BundleKind} {js : List Item}
    (hp : (x.items e k).Perm js) (hj : js ≠ []) :
    Bundle.readKind k e (Item.joined js) = .ok (x.bundle k) := by
  have hl : Listing (Item.joined js) js := {
    text_eq := rfl
    ne_nil := hj
    sound := fun i hi => (legal_items x e k i (hp.mem_iff.mpr hi)).sound
    distinct := (hp.map Item.key).nodup_iff.mp (distinct_itemsOf (distinct_entries x e k)) }
  refine Bundle.readKind_eq_ok_iff.mpr
    ⟨js, hl, fun i hi => legal_items x e k i (hp.mem_iff.mpr hi), ?_⟩
  rw [← overlaid_items x e k, Bundle.overlaid_perm hp (distinct_itemsOf (distinct_entries x e k))]

end Selection

end TreeTool
