import Mathlib.Data.Set.Function
import TreeTool.Options.Item
import TreeTool.Proofs.Text.Cutting

/-!
# Option texts and the items they list

`Listing text is` says that a text is written as the items `is`: each of them a key and a value
with an equals sign between them, commas between the items, and no key twice. `split_eq_ok_iff` is
the main statement: splitting accepts exactly the listings, and returns their items in order. So a
text that is split and the list of its items determine each other.
-/

namespace TreeTool.Options

namespace Item

/-- An item that is read back from its own text. A value may hold further equals signs. -/
structure Readable (i : Item) : Prop where
  key_ne : i.key ≠ ""
  value_ne : i.value ≠ ""
  equals_free : '=' ∉ i.key.toList

/-- An item that can stand between the commas of an option text. -/
structure Sound (i : Item) : Prop extends Readable i where
  key_comma_free : ',' ∉ i.key.toList
  value_comma_free : ',' ∉ i.value.toList

theorem sound_iff (i : Item) :
    i.Sound ↔ i.key ≠ "" ∧ i.value ≠ "" ∧ '=' ∉ i.key.toList ∧
      ',' ∉ i.key.toList ∧ ',' ∉ i.value.toList :=
  ⟨fun h => ⟨h.key_ne, h.value_ne, h.equals_free, h.key_comma_free, h.value_comma_free⟩,
    fun ⟨hk, hv, he, hkc, hvc⟩ => ⟨⟨hk, hv, he⟩, hkc, hvc⟩⟩

instance : DecidablePred Sound := fun i => decidable_of_iff _ i.sound_iff.symm

theorem toList_text (i : Item) : i.text.toList = i.key.toList ++ '=' :: i.value.toList := by
  simp [text]

theorem comma_free_iff (i : Item) :
    ',' ∉ i.text.toList ↔ ',' ∉ i.key.toList ∧ ',' ∉ i.value.toList := by
  simp [toList_text]

theorem text_ne_nil (i : Item) : i.text.toList ≠ [] := by
  simp [toList_text]

theorem ofPiece_eq_ok_iff {p : List Char} {i : Item} :
    ofPiece p = .ok i ↔ p = i.text.toList ∧ i.Readable := by
  constructor
  · intro h
    rw [ofPiece] at h
    split at h
    · cases h
    · cases hc : Text.cutFirst '=' p with
      | none => simp [hc] at h
      | some kv =>
        obtain ⟨k, v⟩ := kv
        simp only [hc] at h
        split at h
        · cases h
        · rename_i hkv
          rw [Bool.not_eq_true, Bool.or_eq_false_iff] at hkv
          obtain ⟨hp, hk⟩ := Text.cutFirst_eq_some hc
          cases h
          refine ⟨by simp [toList_text, hp], ?_, ?_, by simpa using hk⟩
          · simpa [← String.toList_inj] using hkv.1
          · simpa [← String.toList_inj] using hkv.2
  · rintro ⟨rfl, hi⟩
    have hk : i.key.toList.isEmpty = false := by simpa using hi.key_ne
    have hv : i.value.toList.isEmpty = false := by simpa using hi.value_ne
    have hp : i.text.toList.isEmpty = false := List.isEmpty_eq_false_iff.mpr i.text_ne_nil
    have hc : Text.cutFirst '=' i.text.toList = some (i.key.toList, i.value.toList) := by
      rw [toList_text]
      exact Text.cutFirst_append_mark hi.equals_free _
    simp [ofPiece, hp, hc, hk, hv]

theorem ofPieces_eq_ok_iff {seen : List String} {ps : List (List Char)} {is : List Item} :
    ofPieces seen ps = .ok is ↔
      ps = is.map (fun i => i.text.toList) ∧ (∀ i ∈ is, i.Readable) ∧
        (is.map key).Nodup ∧ ∀ i ∈ is, i.key ∉ seen := by
  induction ps generalizing seen is with
  | nil =>
    rw [ofPieces]
    constructor
    · rintro ⟨⟩
      simp
    · rintro ⟨h, -⟩
      rw [List.map_eq_nil_iff.mp h.symm]
  | cons p ps ih =>
    constructor
    · intro h
      rw [ofPieces] at h
      cases hp : ofPiece p with
      | error r => simp [hp] at h
      | ok i =>
        obtain ⟨hpi, hi⟩ := ofPiece_eq_ok_iff.mp hp
        simp only [hp] at h
        split at h
        · cases h
        · rename_i hs
          cases ht : ofPieces (i.key :: seen) ps with
          | error r => simp [ht] at h
          | ok js =>
            simp only [ht, Except.ok.injEq] at h
            obtain ⟨hps, hjs, hnd, hfresh⟩ := ih.mp ht
            subst h
            refine ⟨by simp [hpi, hps], ?_, ?_, ?_⟩
            · simpa using ⟨hi, hjs⟩
            · rw [List.map_cons, List.nodup_cons]
              refine ⟨fun hk => ?_, hnd⟩
              obtain ⟨j, hj, hjk⟩ := List.mem_map.mp hk
              exact hfresh j hj (hjk ▸ List.mem_cons_self)
            · intro j hj
              rcases List.mem_cons.mp hj with rfl | hj
              · exact hs
              · exact fun hm => hfresh j hj (List.mem_cons_of_mem _ hm)
    · rintro ⟨hps, hr, hnd, hfresh⟩
      cases is with
      | nil => simp at hps
      | cons i is =>
        rw [List.map_cons, List.cons.injEq] at hps
        rw [List.map_cons, List.nodup_cons] at hnd
        have hi : ofPiece p = .ok i :=
          ofPiece_eq_ok_iff.mpr ⟨hps.1, hr i List.mem_cons_self⟩
        have hs : i.key ∉ seen := hfresh i List.mem_cons_self
        have ht : ofPieces (i.key :: seen) ps = .ok is := by
          refine ih.mpr ⟨hps.2, fun j hj => hr j (List.mem_cons_of_mem _ hj), hnd.2, ?_⟩
          intro j hj hm
          rcases List.mem_cons.mp hm with hk | hm
          · exact hnd.1 (hk ▸ List.mem_map_of_mem hj)
          · exact hfresh j (List.mem_cons_of_mem _ hj) hm
        simp [ofPieces, hi, hs, ht]

theorem toList_joined (is : List Item) :
    (joined is).toList = Text.joined ',' (is.map fun i => i.text.toList) := by
  rw [joined, String.toList_intercalate, Text.joined_eq_intercalate]
  simp [Function.comp_def]

end Item

/-- A text that is a list of items: some item, none of them malformed, and no key twice. -/
structure Listing (text : String) (is : List Item) : Prop where
  text_eq : text = Item.joined is
  ne_nil : is ≠ []
  sound : ∀ i ∈ is, i.Sound
  distinct : (is.map Item.key).Nodup

theorem Listing.pieces {text : String} {is : List Item} (h : Listing text is) :
    Text.pieces ',' text.toList = is.map fun i => i.text.toList := by
  rw [h.text_eq, Item.toList_joined]
  apply Text.pieces_joined
  · simpa using h.ne_nil
  · intro p hp
    obtain ⟨i, hi, rfl⟩ := List.mem_map.mp hp
    exact i.comma_free_iff.mpr ⟨(h.sound i hi).key_comma_free, (h.sound i hi).value_comma_free⟩

theorem Listing.isEmpty_eq_false {text : String} {is : List Item} (h : Listing text is) :
    text.isEmpty = false := by
  obtain ⟨i, is, rfl⟩ := List.exists_cons_of_ne_nil h.ne_nil
  have hp := h.pieces
  cases he : text.isEmpty with
  | false => rfl
  | true =>
    rw [String.isEmpty_iff] at he
    rw [he, List.map_cons] at hp
    exact absurd (List.cons.inj hp).1.symm i.text_ne_nil

theorem split_eq_ok_iff {text : String} {is : List Item} :
    Item.split text = .ok is ↔ Listing text is := by
  constructor
  · intro h
    rw [Item.split] at h
    split at h
    · cases h
    · obtain ⟨hps, hr, hnd, -⟩ := Item.ofPieces_eq_ok_iff.mp h
      have ht : text.toList = (Item.joined is).toList := by
        rw [Item.toList_joined, ← hps, Text.joined_pieces]
      refine ⟨String.toList_inj.mp ht, ?_, ?_, hnd⟩
      · rintro rfl
        exact Text.pieces_ne_nil _ _ hps
      · intro i hi
        have hc : ',' ∉ i.text.toList :=
          Text.not_mem_of_mem_pieces (hps ▸ List.mem_map_of_mem hi)
        obtain ⟨hk, hv⟩ := i.comma_free_iff.mp hc
        exact ⟨hr i hi, hk, hv⟩
  · intro h
    rw [Item.split, h.isEmpty_eq_false, if_neg Bool.false_ne_true, h.pieces]
    refine Item.ofPieces_eq_ok_iff.mpr ⟨rfl, fun i hi => (h.sound i hi).toReadable, h.distinct, ?_⟩
    simp

theorem Listing.unique {text : String} {is js : List Item} (hi : Listing text is)
    (hj : Listing text js) : is = js := by
  have h := (split_eq_ok_iff.mpr hi).symm.trans (split_eq_ok_iff.mpr hj)
  exact Except.ok.inj h

theorem Listing.perm {text : String} {is js : List Item} (h : Listing text is)
    (hp : is.Perm js) : Listing (Item.joined js) js where
  text_eq := rfl
  ne_nil := by
    rintro rfl
    exact h.ne_nil hp.eq_nil
  sound := fun i hi => h.sound i (hp.mem_iff.mpr hi)
  distinct := (hp.map Item.key).nodup_iff.mp h.distinct

/-- What a text can list: some items, all of them sound, and no key twice. -/
def Listable (is : List Item) : Prop :=
  is ≠ [] ∧ (∀ i ∈ is, i.Sound) ∧ (is.map Item.key).Nodup

instance : DecidablePred Listable := fun _ => inferInstanceAs (Decidable (_ ∧ _ ∧ _))

theorem listing_iff {text : String} {is : List Item} :
    Listing text is ↔ Listable is ∧ Item.joined is = text :=
  ⟨fun h => ⟨⟨h.ne_nil, h.sound, h.distinct⟩, h.text_eq.symm⟩,
    fun ⟨⟨hne, hs, hd⟩, ht⟩ => ⟨ht.symm, hne, hs, hd⟩⟩

/-- Joining maps what can be listed one to one onto the texts that are split, and splitting undoes
it. -/
theorem joined_bijOn :
    Set.BijOn Item.joined {is | Listable is} {text | ∃ is, Item.split text = .ok is} ∧
      ∀ text is, Item.split text = .ok is ↔ Listable is ∧ Item.joined is = text := by
  have hsplit (text : String) (is : List Item) :
      Item.split text = .ok is ↔ Listable is ∧ Item.joined is = text :=
    split_eq_ok_iff.trans listing_iff
  refine ⟨⟨?_, ?_, ?_⟩, hsplit⟩
  · intro is his
    exact ⟨is, (hsplit _ _).mpr ⟨his, rfl⟩⟩
  · intro is his js hjs hj
    exact (listing_iff.mpr ⟨his, hj⟩).unique (listing_iff.mpr ⟨hjs, rfl⟩)
  · rintro text ⟨is, h⟩
    obtain ⟨his, ht⟩ := (hsplit _ _).mp h
    exact ⟨is, his, ht⟩

theorem joined_bijOn_equals :
    Item.split "dir==,order=a=b" = .ok [⟨"dir", "="⟩, ⟨"order", "a=b"⟩] :=
  (joined_bijOn.2 _ _).mpr ⟨by decide, rfl⟩

end TreeTool.Options
