import TreeTool.Proofs.Options.Acceptance

/-!
# The reason why an option text is refused

The structure of all items is looked at before any key or value is, and both times the leftmost item
that is wrong decides. `Leftmost` states this once for both passes. Each pass is an induction over
the items with `leftmost_cons_iff` as its step: either the first item is wrong, or it is not and
what is left of the text is looked at in view of it.
-/

namespace TreeTool

namespace Options

/-- Something is wrong with an element in view of those before it, and nothing with any of those. -/
inductive Leftmost {α β : Type} (wrong : List α → α → β → Prop) : List α → β → Prop
  | intro (before : List α) (a : α) (after : List α) (r : β) :
    (∀ xs x ys, before = xs ++ x :: ys → ∀ s, ¬ wrong xs x s) → wrong before a r →
    Leftmost wrong (before ++ a :: after) r

structure Cut (text : String) (ps : List String) : Prop where
  text_eq : text = ",".intercalate ps
  ne_nil : ps ≠ []
  comma_free : ∀ p ∈ ps, ',' ∉ p.toList

def Keyed (key p : String) : Prop := ∃ i : Item, i.key = key ∧ '=' ∉ key.toList ∧ p = i.text

/-- What is wrong with the structure of a piece behind others. No two of the cases meet. -/
inductive Misshapen (before : List String) : String → String → Prop
  | empty : Misshapen before "" "empty option item"
  | noValue (p : String) : p ≠ "" → '=' ∉ p.toList →
    Misshapen before p ("option '" ++ p ++ "' has no value")
  | halved (i : Item) : '=' ∉ i.key.toList → i.key = "" ∨ i.value = "" →
    Misshapen before i.text ("malformed option '" ++ i.text ++ "'")
  | repeated (i : Item) : i.Readable → (∃ q ∈ before, Keyed i.key q) →
    Misshapen before i.text ("option '" ++ i.key ++ "' specified more than once")

def wordLabels : List (String × String) :=
  [("dir", "direction"), ("order", "order"), ("alg", "algorithm")]

def valueReason (i : Item) : String :=
  match wordLabels.lookup i.key with
  | some label => "Unknown " ++ label ++ " token: '" ++ i.value ++ "'"
  | none => "option '" ++ i.key ++ "' expects yes or no, got '" ++ i.value ++ "'"

inductive Unfit (k : BundleKind) (e : Encoding) (i : Item) : String → Prop
  | key : i.key ∉ (grammar e k).map (·.1) →
    Unfit k e i ("unknown option '" ++ i.key ++ "' for " ++ k.name ++ " options")
  | value (vs : List String) : (i.key, vs) ∈ grammar e k → i.value ∉ vs →
    Unfit k e i (valueReason i)

/-- The texts that are refused, each with its reason. -/
inductive Refused (k : BundleKind) (e : Encoding) : String → String → Prop
  | empty : Refused k e "" "empty option string"
  | misshapen (text : String) (ps : List String) (reason : String) : text ≠ "" → Cut text ps →
    Leftmost Misshapen ps reason → Refused k e text reason
  | unfit (text : String) (is : List Item) (reason : String) : Listing text is →
    Leftmost (fun _ => Unfit k e) is reason → Refused k e text reason

def Refuses {α : Type} (x : Except Refusal α) (reason : String) : Prop :=
  ∃ r, x = .error r ∧ r.text = reason

section refuses

variable {α β : Type} {reason : String}

theorem refuses_error_iff {r : Refusal} :
    Refuses (.error r : Except Refusal α) reason ↔ reason = r.text := by
  constructor
  · rintro ⟨r', h, rfl⟩
    rw [Except.error.inj h]
  · rintro rfl
    exact ⟨r, rfl, rfl⟩

theorem not_refuses_ok (a : α) : ¬ Refuses (.ok a) reason := by
  rintro ⟨r, h, -⟩
  cases h

theorem refuses_map_iff {x : Except Refusal α} {f : α → β} :
    Refuses (x.map f) reason ↔ Refuses x reason := by
  cases x with
  | error r => exact refuses_error_iff.trans refuses_error_iff.symm
  | ok a => exact iff_of_false (not_refuses_ok (f a)) (not_refuses_ok a)

end refuses

/-! ## The leftmost element -/

section leftmost

variable {α β : Type} {wrong : List α → α → β → Prop} {a : α} {as : List α} {r : β}

theorem not_leftmost_nil : ¬ Leftmost wrong [] r := by
  intro h
  generalize hl : ([] : List α) = l at h
  cases h with
  | intro before a after r hb ha => simp at hl

theorem leftmost_cons_iff :
    Leftmost wrong (a :: as) r ↔
      wrong [] a r ∨ (∀ s, ¬ wrong [] a s) ∧ Leftmost (fun xs => wrong (a :: xs)) as r := by
  constructor
  · intro h
    generalize hl : a :: as = l at h
    obtain ⟨before, b, after, r, hb, hr⟩ := h
    cases before with
    | nil =>
      obtain ⟨rfl, rfl⟩ := List.cons.inj hl
      exact Or.inl hr
    | cons c before =>
      obtain ⟨rfl, rfl⟩ := List.cons.inj hl
      have hfirst : ∀ s, ¬ wrong [] a s := hb [] a before rfl
      have hrest : ∀ xs x ys, before = xs ++ x :: ys → ∀ s, ¬ wrong (a :: xs) x s := by
        intro xs x ys h
        exact hb (a :: xs) x ys (by rw [h, List.cons_append])
      exact Or.inr ⟨hfirst, .intro before b after r hrest hr⟩
  · rintro (h | ⟨hfirst, h⟩)
    · refine .intro [] a as r ?_ h
      intro xs x ys hx
      simp at hx
    · obtain ⟨before, b, after, r, hb, hr⟩ := h
      refine .intro (a :: before) b after r ?_ hr
      intro xs x ys hx
      cases xs with
      | nil =>
        obtain ⟨rfl, -⟩ := List.cons.inj hx
        exact hfirst
      | cons y xs =>
        obtain ⟨rfl, hx'⟩ := List.cons.inj hx
        exact hb xs x ys hx'

theorem leftmost_of_wrong (h : ∀ s, wrong [] a s ↔ s = r) {s : β} :
    Leftmost wrong (a :: as) s ↔ s = r := by
  rw [leftmost_cons_iff, h]
  constructor
  · rintro (hs | ⟨hn, -⟩)
    · exact hs
    · exact absurd ((h r).mpr rfl) (hn r)
  · exact Or.inl

theorem leftmost_of_right (h : ∀ s, ¬ wrong [] a s) :
    Leftmost wrong (a :: as) r ↔ Leftmost (fun xs => wrong (a :: xs)) as r := by
  rw [leftmost_cons_iff]
  constructor
  · rintro (hr | ⟨-, hr⟩)
    · exact absurd hr (h r)
    · exact hr
  · exact fun hr => Or.inr ⟨h, hr⟩

end leftmost

/-! ## The structure of an item -/

section structural

variable {key p reason : String} {before : List String}

theorem cut_pieces (text : String) :
    Cut text ((Text.pieces ',' text.toList).map String.ofList) where
  text_eq := by
    have hj := Text.joined_pieces ',' text.toList
    rw [Text.joined_eq_intercalate] at hj
    rw [← String.toList_inj, String.toList_intercalate]
    simpa [Function.comp_def] using hj.symm
  ne_nil := by simpa using Text.pieces_ne_nil ',' text.toList
  comma_free p hp := by
    obtain ⟨cs, hcs, rfl⟩ := List.mem_map.mp hp
    simpa using Text.not_mem_of_mem_pieces hcs

theorem Cut.pieces_eq {text : String} {ps : List String} (h : Cut text ps) :
    Text.pieces ',' text.toList = ps.map String.toList := by
  rw [h.text_eq]
  exact Text.pieces_intercalate h.ne_nil h.comma_free

theorem text_ne_empty (i : Item) : i.text ≠ "" := by
  intro h
  exact i.text_ne_nil (by rw [h, String.toList_empty])

theorem equals_mem_text (i : Item) : '=' ∈ i.text.toList := by
  simp [Item.toList_text]

theorem cutFirst_text {i : Item} (hi : '=' ∉ i.key.toList) :
    Text.cutFirst '=' i.text.toList = some (i.key.toList, i.value.toList) := by
  rw [Item.toList_text]
  exact Text.cutFirst_append_mark hi _

theorem item_eq_of_text_eq {i j : Item} (hi : '=' ∉ i.key.toList) (hj : '=' ∉ j.key.toList)
    (h : i.text = j.text) : i = j := by
  have hc := cutFirst_text hi
  rw [h, cutFirst_text hj] at hc
  obtain ⟨hk, hv⟩ := Prod.mk.inj (Option.some.inj hc)
  cases i
  cases j
  simp_all [String.toList_inj]

theorem piece_cases (p : String) :
    p = "" ∨ (p ≠ "" ∧ '=' ∉ p.toList) ∨ ∃ i : Item, '=' ∉ i.key.toList ∧ p = i.text := by
  by_cases hp : p = ""
  · exact Or.inl hp
  · cases hc : Text.cutFirst '=' p.toList with
    | none => exact Or.inr (Or.inl ⟨hp, Text.cutFirst_eq_none_iff.mp hc⟩)
    | some kv =>
      obtain ⟨k, v⟩ := kv
      obtain ⟨hkv, hk⟩ := Text.cutFirst_eq_some hc
      have ht : p = (⟨String.ofList k, String.ofList v⟩ : Item).text := by
        rw [← String.toList_inj, hkv, Item.toList_text]
        simp
      exact Or.inr (Or.inr ⟨_, by simpa using hk, ht⟩)

theorem ofPiece_of_no_equals (hp : p ≠ "") (he : '=' ∉ p.toList) :
    Item.ofPiece p.toList = .error (.noValue p) := by
  have hn : p.toList.isEmpty = false := by simpa using hp
  simp [Item.ofPiece, hn, Text.cutFirst_eq_none_iff.mpr he]

theorem ofPiece_text {i : Item} (hi : '=' ∉ i.key.toList) :
    Item.ofPiece i.text.toList =
      if i.key = "" ∨ i.value = "" then .error (.malformed i.text) else .ok i := by
  have hn : i.text.toList.isEmpty = false := List.isEmpty_eq_false_iff.mpr i.text_ne_nil
  simp [Item.ofPiece, hn, cutFirst_text hi]

theorem misshapen_empty_iff : Misshapen before "" reason ↔ reason = Refusal.emptyItem.text := by
  constructor
  · intro h
    generalize hp : "" = p at h
    cases h with
    | empty => rfl
    | noValue _ hne => exact absurd hp.symm hne
    | halved i => exact absurd hp.symm (text_ne_empty i)
    | repeated i => exact absurd hp.symm (text_ne_empty i)
  · rintro rfl
    exact .empty

theorem misshapen_of_no_equals_iff (hp : p ≠ "") (he : '=' ∉ p.toList) :
    Misshapen before p reason ↔ reason = (Refusal.noValue p).text := by
  constructor
  · intro h
    cases h with
    | empty => exact absurd rfl hp
    | noValue => rfl
    | halved i => exact absurd (equals_mem_text i) he
    | repeated i => exact absurd (equals_mem_text i) he
  · rintro rfl
    exact .noValue p hp he

theorem misshapen_text_iff {i : Item} (hi : '=' ∉ i.key.toList) :
    Misshapen before i.text reason ↔
      (i.key = "" ∨ i.value = "") ∧ reason = (Refusal.malformed i.text).text ∨
      ¬ (i.key = "" ∨ i.value = "") ∧ (∃ q ∈ before, Keyed i.key q) ∧
        reason = (Refusal.repeatedKey i.key).text := by
  constructor
  · intro h
    generalize hp : i.text = p at h
    cases h with
    | empty => exact absurd hp (text_ne_empty i)
    | noValue _ _ he => exact absurd (hp ▸ equals_mem_text i) he
    | halved j hj hh =>
      obtain rfl := item_eq_of_text_eq hi hj hp
      exact Or.inl ⟨hh, rfl⟩
    | repeated j hj hq =>
      obtain rfl := item_eq_of_text_eq hi hj.equals_free hp
      exact Or.inr ⟨not_or.mpr ⟨hj.key_ne, hj.value_ne⟩, hq, rfl⟩
  · rintro (⟨hh, rfl⟩ | ⟨hh, hq, rfl⟩)
    · exact .halved i hi hh
    · obtain ⟨hk, hv⟩ := not_or.mp hh
      exact .repeated i ⟨hk, hv, hi⟩ hq

theorem keyed_text_iff {i : Item} (hi : '=' ∉ i.key.toList) : Keyed key i.text ↔ key = i.key := by
  constructor
  · rintro ⟨j, rfl, hj, h⟩
    rw [item_eq_of_text_eq hi hj h]
  · rintro rfl
    exact ⟨i, rfl, hi, rfl⟩

def Tracks (seen before : List String) : Prop := ∀ key, key ∈ seen ↔ ∃ q ∈ before, Keyed key q

theorem tracks_nil : Tracks [] [] := by
  intro key
  simp

theorem Tracks.append {seen : List String} {i : Item} (h : Tracks seen before)
    (hi : '=' ∉ i.key.toList) : Tracks (i.key :: seen) (before ++ [i.text]) := by
  intro key
  simp only [List.mem_cons, h key, List.mem_append, List.not_mem_nil, or_false, or_and_right,
    exists_or, exists_eq_left, keyed_text_iff hi]
  exact Or.comm

theorem refuses_ofPieces_iff {seen ps : List String} (hs : Tracks seen before) :
    Refuses (Item.ofPieces seen (ps.map String.toList)) reason ↔
      Leftmost (fun xs => Misshapen (before ++ xs)) ps reason := by
  induction ps generalizing seen before with
  | nil => exact iff_of_false (not_refuses_ok _) not_leftmost_nil
  | cons p ps ih =>
    rw [List.map_cons, Item.ofPieces]
    rcases piece_cases p with rfl | ⟨hp, he⟩ | ⟨i, hi, rfl⟩
    · refine refuses_error_iff.trans (Iff.symm (leftmost_of_wrong fun s => ?_))
      exact misshapen_empty_iff
    · rw [ofPiece_of_no_equals hp he]
      refine refuses_error_iff.trans (Iff.symm (leftmost_of_wrong fun s => ?_))
      exact misshapen_of_no_equals_iff hp he
    · rw [ofPiece_text hi]
      by_cases hh : i.key = "" ∨ i.value = ""
      · rw [if_pos hh]
        refine refuses_error_iff.trans (Iff.symm (leftmost_of_wrong fun s => ?_))
        simp only [misshapen_text_iff hi, hh, true_and, not_true_eq_false, false_and, or_false]
      · rw [if_neg hh]
        by_cases hq : i.key ∈ seen
        · have hb := (hs i.key).mp hq
          simp only [hq, if_true]
          refine refuses_error_iff.trans (Iff.symm (leftmost_of_wrong fun s => ?_))
          simp only [misshapen_text_iff hi, hh, false_and, not_false_eq_true, true_and, false_or,
            List.append_nil, hb]
        · have hb := mt (hs i.key).mpr hq
          have hn (s : String) : ¬ Misshapen (before ++ []) i.text s := by
            simp only [misshapen_text_iff hi, hh, false_and, not_false_eq_true, true_and, false_or,
              List.append_nil, hb]
          have ht := ih (hs.append hi)
          simp only [List.append_assoc, List.cons_append, List.nil_append] at ht
          refine Iff.trans ?_ (ht.trans (Iff.symm (leftmost_of_right hn)))
          simp only [hq, if_false]
          cases Item.ofPieces (i.key :: seen) (ps.map String.toList) with
          | error r => exact refuses_error_iff.trans refuses_error_iff.symm
          | ok is => exact iff_of_false (not_refuses_ok _) (not_refuses_ok _)

theorem refuses_split_iff {text : String} :
    Refuses (Item.split text) reason ↔
      text = "" ∧ reason = "empty option string" ∨
      text ≠ "" ∧ ∃ ps, Cut text ps ∧ Leftmost Misshapen ps reason := by
  rw [Item.split]
  by_cases ht : text = ""
  · subst ht
    simp only [true_and, ne_eq, not_true_eq_false, false_and, or_false]
    exact refuses_error_iff
  · have hn : text.isEmpty = false := by simpa using ht
    simp only [hn, Bool.false_eq_true, if_false, ht, false_and, ne_eq, not_false_eq_true, true_and,
      false_or]
    constructor
    · intro h
      rw [(cut_pieces text).pieces_eq] at h
      exact ⟨_, cut_pieces text, (refuses_ofPieces_iff tracks_nil).mp h⟩
    · rintro ⟨ps, hc, h⟩
      rw [hc.pieces_eq]
      exact (refuses_ofPieces_iff tracks_nil).mpr h

end structural

/-! ## The meaning of an item -/

section meaning

variable {α : Type} {k : BundleKind} {e : Encoding} {i : Item} {reason : String}

theorem unfit_iff_of_no_key (h : i.key ∉ (grammar e k).map (·.1)) :
    Unfit k e i reason ↔ reason = (Refusal.unknownKey i.key k.name).text := by
  constructor
  · intro hu
    cases hu with
    | key => rfl
    | value vs hvs => exact absurd (List.mem_map_of_mem hvs) h
  · rintro rfl
    exact .key h

theorem unfit_iff_of_key {vs : List String} (h : (i.key, vs) ∈ grammar e k) :
    Unfit k e i reason ↔ i.value ∉ vs ∧ reason = valueReason i := by
  constructor
  · intro hu
    cases hu with
    | key hn => exact absurd (List.mem_map_of_mem h) hn
    | value ws hws hn => exact ⟨fun hv => hn ((legal_iff hws).mp ((legal_iff h).mpr hv)), rfl⟩
  · rintro ⟨hn, rfl⟩
    exact .value vs h hn

theorem refuses_unknownKey_iff (h : i.key ∉ (grammar e k).map (·.1)) :
    Refuses (.error (.unknownKey i.key k.name) : Except Refusal Bundle) reason ↔
      Unfit k e i reason :=
  refuses_error_iff.trans (unfit_iff_of_no_key h).symm

theorem refuses_value_iff {words : List (String × α)} {x : Except Refusal α} {f : α → Bundle}
    (hk : (i.key, spellings words) ∈ grammar e k)
    (hx : ∀ v, x = .ok v ↔ words.lookup i.value = some v)
    (ht : ∀ r, x = .error r → r.text = valueReason i) :
    Refuses (x.map f) reason ↔ Unfit k e i reason := by
  rw [refuses_map_iff, unfit_iff_of_key hk, mem_spellings_iff]
  cases hv : x with
  | ok v =>
    have hl := (hx v).mp hv
    exact iff_of_false (not_refuses_ok v) fun h => h.1 ⟨v, hl⟩
  | error r =>
    have hn : ¬ ∃ v, words.lookup i.value = some v := by
      rintro ⟨v, hl⟩
      rw [(hx v).mpr hl] at hv
      cases hv
    rw [refuses_error_iff, ht r hv]
    simp only [hn, not_false_eq_true, true_and]

theorem text_of_tokenValue {label : String} {read : String → Except Fault α}
    (hl : wordLabels.lookup i.key = some label) :
    ∀ r, tokenValue label i read = .error r → r.text = valueReason i := by
  intro r hr
  rw [tokenValue] at hr
  cases hv : read i.value with
  | ok v => simp [hv] at hr
  | error f =>
    simp only [hv, Except.error.injEq] at hr
    rw [← hr, valueReason, hl]
    rfl

theorem text_of_boolValue (hl : wordLabels.lookup i.key = none) :
    ∀ r, boolValue i = .error r → r.text = valueReason i := by
  intro r hr
  rw [boolValue] at hr
  split_ifs at hr
  cases hr
  rw [valueReason, hl]
  rfl

theorem refuses_set_inclusion_iff {o : InclusionOptions} :
    Refuses ((o.set i).map Bundle.inclusion) reason ↔ Unfit .inclusion e i reason := by
  have direction v : tokenValue "direction" i (Coded.ofToken Direction) = .ok v ↔
      downUp.lookup i.value = some v := tokenValue_eq_ok_iff.trans Coded.ofToken_eq_ok_iff
  have order v : tokenValue "order" i (Coded.ofToken Order) = .ok v ↔
      orderWords.lookup i.value = some v := tokenValue_eq_ok_iff.trans Coded.ofToken_eq_ok_iff
  have algorithm v : tokenValue "algorithm" i (Coded.ofToken Algorithm) = .ok v ↔
      algorithmWords.lookup i.value = some v := tokenValue_eq_ok_iff.trans Coded.ofToken_eq_ok_iff
  have switch v : boolValue i = .ok v ↔ switchWords.lookup i.value = some v := boolValue_eq_ok_iff
  rw [InclusionOptions.set]
  split_ifs with hdir horder halg hsim hoptC hrec htime
  · rw [map_map]
    exact refuses_value_iff (by simp [hdir, grammar]) direction
      (text_of_tokenValue (by rw [hdir]; rfl))
  · rw [map_map]
    exact refuses_value_iff (by simp [horder, grammar]) order
      (text_of_tokenValue (by rw [horder]; rfl))
  · rw [map_map]
    exact refuses_value_iff (by simp [halg, grammar]) algorithm
      (text_of_tokenValue (by rw [halg]; rfl))
  · rw [map_map]
    exact refuses_value_iff (by simp [hsim, grammar]) switch
      (text_of_boolValue (by rw [hsim]; rfl))
  · rw [map_map]
    exact refuses_value_iff (by simp [hoptC, grammar]) switch
      (text_of_boolValue (by rw [hoptC]; rfl))
  · rw [map_map]
    exact refuses_value_iff (by simp [hrec, grammar]) switch
      (text_of_boolValue (by rw [hrec]; rfl))
  · rw [map_map]
    exact refuses_value_iff (by simp [htime, grammar]) switch
      (text_of_boolValue (by rw [htime]; rfl))
  · exact refuses_unknownKey_iff (by simp_all [grammar])

theorem refuses_set_iff {b : Bundle} : Refuses (b.set e i) reason ↔ Unfit b.kind e i reason := by
  cases b with
  | inclusion o => exact refuses_set_inclusion_iff
  | direction d =>
    rw [Bundle.set]
    split_ifs with hdir
    · have hx v : tokenValue "direction" i (Direction.ofTokenFor e) = .ok v ↔
          (directionWords e).lookup i.value = some v :=
        tokenValue_eq_ok_iff.trans directionFor_eq_ok_iff
      exact refuses_value_iff (by simp [hdir, Bundle.kind, grammar]) hx
        (text_of_tokenValue (by rw [hdir]; rfl))
    · exact refuses_unknownKey_iff (by simp_all [grammar])
  | equivalence r =>
    rw [Bundle.set]
    split_ifs with horder
    · have hx v : tokenValue "order" i (Coded.ofToken Order) = .ok v ↔
          orderWords.lookup i.value = some v := tokenValue_eq_ok_iff.trans Coded.ofToken_eq_ok_iff
      exact refuses_value_iff (by simp [horder, Bundle.kind, grammar]) hx
        (text_of_tokenValue (by rw [horder]; rfl))
    · exact refuses_unknownKey_iff (by simp_all [grammar])

theorem refuses_setAll_iff {b : Bundle} {is : List Item} :
    Refuses (b.setAll e is) reason ↔ Leftmost (fun _ => Unfit b.kind e) is reason := by
  induction is generalizing b with
  | nil => exact iff_of_false (not_refuses_ok b) not_leftmost_nil
  | cons i is ih =>
    rw [Bundle.setAll]
    cases hs : b.set e i with
    | error r =>
      refine refuses_error_iff.trans (Iff.symm (leftmost_of_wrong fun s => ?_))
      rw [← refuses_set_iff, hs, refuses_error_iff]
    | ok c =>
      have hn (s : String) : ¬ Unfit b.kind e i s := by
        rw [← refuses_set_iff, hs]
        exact not_refuses_ok c
      have hk : c.kind = b.kind := by
        rw [(Bundle.set_eq_ok_iff.mp hs).2, Bundle.kind_overlaid]
      refine Iff.trans ih (Iff.trans ?_ (Iff.symm (leftmost_of_right hn)))
      rw [hk]

end meaning

end Options

open Options

namespace Bundle

theorem refuses_readKind_iff {k : BundleKind} {e : Encoding} {text reason : String} :
    Refuses (readKind k e text) reason ↔ Refused k e text reason := by
  have hsplit : Refuses (Item.split text) reason ↔ _ := refuses_split_iff
  rw [readKind]
  cases hs : Item.split text with
  | error r =>
    rw [hs, refuses_error_iff] at hsplit
    refine refuses_error_iff.trans (hsplit.trans ?_)
    constructor
    · rintro (⟨rfl, rfl⟩ | ⟨ht, ps, hc, hl⟩)
      · exact .empty
      · exact .misshapen text ps reason ht hc hl
    · intro h
      cases h with
      | empty => exact Or.inl ⟨rfl, rfl⟩
      | misshapen _ ps _ ht hc hl => exact Or.inr ⟨ht, ps, hc, hl⟩
      | unfit _ is _ hl =>
        rw [split_eq_ok_iff.mpr hl] at hs
        cases hs
  | ok is =>
    have hl := split_eq_ok_iff.mp hs
    rw [hs] at hsplit
    have hn := mt hsplit.mpr (not_refuses_ok is)
    rw [refuses_setAll_iff, kind_default]
    constructor
    · exact .unfit text is reason hl
    · intro h
      cases h with
      | empty => exact absurd (Or.inl ⟨rfl, rfl⟩) hn
      | misshapen _ ps _ ht hc hp => exact absurd (Or.inr ⟨ht, ps, hc, hp⟩) hn
      | unfit _ js _ hj h =>
        rw [hl.unique hj]
        exact h

/-- A text is refused for the reason of its leftmost misshapen item, and only if it has none for
that of its leftmost item without a meaning. -/
theorem read_refused {op : Operation} {k : BundleKind} (hk : op.bundleKind = some k)
    (e : Encoding) (text : String) (f : Fault) :
    read op e text = .error f ↔
      ∃ reason, Refused k e text reason ∧ f = .malformedOptions text reason := by
  constructor
  · intro h
    cases hr : readKind k e text with
    | ok b => simp [read, hk, hr] at h
    | error r =>
      simp only [read, hk, hr, Except.error.injEq] at h
      exact ⟨r.text, refuses_readKind_iff.mp ⟨r, hr, rfl⟩, h.symm⟩
  · rintro ⟨reason, h, rfl⟩
    obtain ⟨r, hr, rfl⟩ := refuses_readKind_iff.mpr h
    simp only [read, hk, hr]

theorem read_refused_late :
    read .simulation .explicit "order=depth,dir" =
      .error (.malformedOptions "order=depth,dir" "option 'dir' has no value") := by
  have hc : Cut "order=depth,dir" ["order=depth", "dir"] := ⟨rfl, by decide, by decide⟩
  have hfirst (s : String) : ¬ Misshapen [] "order=depth" s := by
    intro (hm : Misshapen [] (⟨"order", "depth"⟩ : Item).text s)
    rcases (misshapen_text_iff (by decide)).mp hm with ⟨hh, -⟩ | ⟨-, ⟨q, hq, -⟩, -⟩
    · exact absurd hh (by decide)
    · cases hq
  have hlast (s : String) : Misshapen ["order=depth"] "dir" s ↔ s = "option 'dir' has no value" :=
    misshapen_of_no_equals_iff (by decide) (by decide)
  have hl : Leftmost Misshapen ["order=depth", "dir"] "option 'dir' has no value" :=
    (leftmost_of_right hfirst).mpr ((leftmost_of_wrong hlast).mpr rfl)
  exact (read_refused rfl _ _ _).mpr ⟨_, .misshapen _ _ _ (by decide) hc hl, rfl⟩

end Bundle

end TreeTool
