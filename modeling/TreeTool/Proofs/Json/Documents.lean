import TreeTool.Proofs.Json.Numbers
import TreeTool.Proofs.Json.Strings

/-!
# JSON documents

The texts of a value differ in the blanks between its tokens alone. A reader takes any of them off
the front and returns the value, with as much fuel as the text is long: each level of nesting and
each comma spends a character of its own. An indented page is one of these texts.
-/

namespace TreeTool.Json

open Number (greatestWord)

def Gap (cs : List Char) : Prop := ∀ c ∈ cs, isBlank c

mutual

/-- The texts of a value whose numbers are whole and fit a word. -/
inductive Spells : Value → List Char → Prop
  | null : Spells .null "null".toList
  | bool (b : Bool) : Spells (.bool b) (if b then "true" else "false").toList
  | whole {m : Int} : m.natAbs ≤ greatestWord → Spells (.number m 0) (numeral m 0)
  | text (s : String) : Spells (.text s) (quote s)
  | emptyArray {gap : List Char} : Gap gap → Spells (.array []) ('[' :: (gap ++ [']']))
  | array {vs : List Value} {cs : List Char} :
    SpellsElements vs cs → Spells (.array vs) ('[' :: cs)
  | emptyObject {gap : List Char} : Gap gap → Spells (.object []) ('\x7b' :: (gap ++ ['\x7d']))
  | object {ms : List (String × Value)} {cs : List Char} :
    SpellsMembers ms cs → Spells (.object ms) ('\x7b' :: cs)

inductive SpellsElements : List Value → List Char → Prop
  | last {v : Value} {before cs after : List Char} : Gap before → Spells v cs → Gap after →
    SpellsElements [v] (before ++ (cs ++ (after ++ [']'])))
  | more {v : Value} {vs : List Value} {before cs after ds : List Char} :
    Gap before → Spells v cs → Gap after → SpellsElements vs ds →
    SpellsElements (v :: vs) (before ++ (cs ++ (after ++ ',' :: ds)))

inductive SpellsMembers : List (String × Value) → List Char → Prop
  | last {k : String} {v : Value} {before gap cs after : List Char} :
    Gap before → Gap gap → Spells v cs → Gap after →
    SpellsMembers [(k, v)] (before ++ (quote k ++ ':' :: (gap ++ (cs ++ (after ++ ['\x7d'])))))
  | more {k : String} {v : Value} {ms : List (String × Value)}
    {before gap cs after ds : List Char} :
    Gap before → Gap gap → Spells v cs → Gap after → SpellsMembers ms ds →
    SpellsMembers ((k, v) :: ms)
      (before ++ (quote k ++ ':' :: (gap ++ (cs ++ (after ++ ',' :: ds)))))

end

/-! ## What stands in front and behind -/

variable {v : Value} {vs : List Value} {ms : List (String × Value)}
  {gap before after cs rest : List Char} {n : Nat}

theorem Gap.nil : Gap [] := fun _ h => (List.not_mem_nil h).elim

theorem skipBlank_append (h : Gap gap) (cs : List Char) : skipBlank (gap ++ cs) = skipBlank cs :=
  List.dropWhile_append_of_pos h

def Ends (c : Char) : Prop :=
  isBlank c = false ∧ Number.isDigit c = false ∧ c ≠ '.' ∧ c ≠ 'e' ∧ c ≠ 'E'

instance (c : Char) : Decidable (Ends c) := inferInstanceAs (Decidable (_ ∧ _ ∧ _ ∧ _ ∧ _))

theorem Gap.apart {c : Char} (h : Gap gap) (hc : Ends c) (cs : List Char) :
    Apart (gap ++ c :: cs) := by
  cases gap with
  | nil =>
    intro d hd
    cases hd
    exact hc.2
  | cons b gap =>
    intro d hd
    cases hd
    have hb : isBlank b := h b List.mem_cons_self
    have hcases : b = ' ' ∨ b = '\n' ∨ b = '\t' ∨ b = '\r' := by
      simpa [isBlank, or_assoc] using hb
    rcases hcases with rfl | rfl | rfl | rfl <;> decide

structure Opens (c : Char) : Prop where
  solid : isBlank c = false
  bracket : c ≠ ']'
  brace : c ≠ '\x7d'

theorem opens_of_isDigit {c : Char} (h : Number.isDigit c) : Opens c := by
  have hno : ∀ d, Number.isDigit d = false → c ≠ d := fun d => Number.ne_of_isDigit h
  exact ⟨isBlank_of_isDigit h, hno ']' (by decide), hno '\x7d' (by decide)⟩

theorem exists_opens_numeral (m : Int) : ∃ c cs, numeral m 0 = c :: cs ∧ Opens c := by
  have hdigits : ∀ n, ∃ c cs, Nat.toDigits 10 n = c :: cs ∧ Opens c := by
    intro n
    have hw := Number.written_toDigits n
    obtain ⟨c, cs, hcs⟩ := List.exists_cons_of_ne_nil (Nat.toDigits_ne_nil (b := 10) (n := n))
    exact ⟨c, cs, hcs, opens_of_isDigit (hw.digits c (hcs ▸ List.mem_cons_self))⟩
  rcases Int.lt_or_le m 0 with hneg | hpos
  · obtain ⟨n, rfl⟩ : ∃ n : Nat, m = -n := ⟨m.natAbs, by omega⟩
    rw [numeral_neg (by omega)]
    exact ⟨_, _, rfl, by decide, by decide, by decide⟩
  · obtain ⟨n, rfl⟩ := Int.eq_ofNat_of_zero_le hpos
    rw [numeral_ofNat]
    exact hdigits n

theorem Spells.opens (h : Spells v cs) : ∃ c ds, cs = c :: ds ∧ Opens c := by
  cases h with
  | null => exact ⟨_, _, rfl, by decide, by decide, by decide⟩
  | bool b => cases b <;> exact ⟨_, _, rfl, by decide, by decide, by decide⟩
  | whole => exact exists_opens_numeral _
  | text s => exact ⟨_, _, rfl, by decide, by decide, by decide⟩
  | emptyArray => exact ⟨_, _, rfl, by decide, by decide, by decide⟩
  | array => exact ⟨_, _, rfl, by decide, by decide, by decide⟩
  | emptyObject => exact ⟨_, _, rfl, by decide, by decide, by decide⟩
  | object => exact ⟨_, _, rfl, by decide, by decide, by decide⟩

theorem SpellsElements.exists_opens (h : SpellsElements vs cs) :
    ∃ before c ds, cs = before ++ c :: ds ∧ Gap before ∧ Opens c ∧ SpellsElements vs (c :: ds) := by
  cases h with
  | last hb hv ha =>
    obtain ⟨c, ds, rfl, hc⟩ := hv.opens
    exact ⟨_, c, _, rfl, hb, hc, .last .nil hv ha⟩
  | more hb hv ha hvs =>
    obtain ⟨c, ds, rfl, hc⟩ := hv.opens
    exact ⟨_, c, _, rfl, hb, hc, .more .nil hv ha hvs⟩

theorem SpellsMembers.exists_opens (h : SpellsMembers ms cs) :
    ∃ before ds, cs = before ++ '"' :: ds ∧ Gap before ∧ SpellsMembers ms ('"' :: ds) := by
  cases h with
  | last hb hg hv ha => exact ⟨_, _, rfl, hb, .last .nil hg hv ha⟩
  | more hb hg hv ha hms => exact ⟨_, _, rfl, hb, .more .nil hg hv ha hms⟩

/-! ## Reading -/

theorem anyValue_gap (h : Gap gap) (n : Nat) (cs : List Char) :
    anyValue (n + 1) (gap ++ cs) = anyValue (n + 1) cs := by
  rw [anyValue, anyValue, skipBlank_append h]

theorem skipBlank_before {c : Char} (h : Gap gap) (hc : isBlank c = false) (cs : List Char) :
    skipBlank (gap ++ c :: cs) = c :: cs := by
  rw [skipBlank_append h, skipBlank_cons hc]

structure Reads (n : Nat) : Prop where
  value : ∀ {v cs} rest, Spells v cs → cs.length ≤ n → Apart rest →
    anyValue n (cs ++ rest) = .ok (v, rest)
  elements : ∀ {vs cs} rest, SpellsElements vs cs → cs.length ≤ n →
    elements n (cs ++ rest) = .ok (vs, rest)
  members : ∀ {ms cs} rest, SpellsMembers ms cs → cs.length ≤ n →
    members n (cs ++ rest) = .ok (ms, rest)

theorem Spells.length_pos (h : Spells v cs) : 0 < cs.length := by
  obtain ⟨c, ds, rfl, -⟩ := h.opens
  exact Nat.succ_pos _

theorem anyValue_array (h : SpellsElements vs cs)
    (hr : ∀ {ds}, SpellsElements vs ds → ds.length ≤ cs.length →
      elements n (ds ++ rest) = .ok (vs, rest)) :
    anyValue (n + 1) ('[' :: cs ++ rest) = .ok (.array vs, rest) := by
  obtain ⟨before, c, ds, rfl, hb, hc, hds⟩ := h.exists_opens
  have hread := hr hds (by simp)
  have hskip := skipBlank_before hb hc.solid (ds ++ rest)
  rw [List.cons_append, anyValue, skipBlank_cons (by decide)]
  simp only [List.append_assoc, List.cons_append, hskip] at hread ⊢
  split
  · rename_i heq
    exact absurd (List.cons.inj heq).1 hc.bracket
  · rw [hread]
    rfl

theorem anyValue_object (h : SpellsMembers ms cs)
    (hr : ∀ {ds}, SpellsMembers ms ds → ds.length ≤ cs.length →
      members n (ds ++ rest) = .ok (ms, rest)) :
    anyValue (n + 1) ('\x7b' :: cs ++ rest) = .ok (.object ms, rest) := by
  obtain ⟨before, ds, rfl, hb, hds⟩ := h.exists_opens
  have hread := hr hds (by simp)
  have hskip := skipBlank_before hb (c := '"') (by decide) (ds ++ rest)
  rw [List.cons_append, anyValue, skipBlank_cons (by decide)]
  simp only [List.append_assoc, List.cons_append, hskip] at hread ⊢
  split
  · rename_i heq
    exact absurd (List.cons.inj heq).1 (by decide)
  · rw [hread]
    rfl

theorem Reads.anyValue (h : Reads n) (hv : Spells v cs) (hn : cs.length ≤ n + 1)
    (hr : Apart rest) : anyValue (n + 1) (cs ++ rest) = .ok (v, rest) := by
  cases hv with
  | null => rfl
  | bool b => cases b <;> rfl
  | whole hm => exact anyValue_numeral n hm hr
  | text s => exact anyValue_quote n s rest
  | @emptyArray gap hg =>
    have hskip := skipBlank_before hg (c := ']') (by decide) rest
    rw [List.cons_append, Json.anyValue, skipBlank_cons (by decide)]
    simp only [List.append_assoc, List.singleton_append, hskip]
  | @array vs cs hvs =>
    refine anyValue_array hvs fun hds hle => h.elements rest hds ?_
    simp only [List.length_cons] at hn
    omega
  | @emptyObject gap hg =>
    have hskip := skipBlank_before hg (c := '\x7d') (by decide) rest
    rw [List.cons_append, Json.anyValue, skipBlank_cons (by decide)]
    simp only [List.append_assoc, List.singleton_append, hskip]
  | @object ms cs hms =>
    refine anyValue_object hms fun hds hle => h.members rest hds ?_
    simp only [List.length_cons] at hn
    omega

theorem Reads.between {c : Char} (h : Reads n) (hb : Gap before) (hv : Spells v cs)
    (hn : cs.length ≤ n) (ha : Gap after) (hc : Ends c) (rest : List Char) :
    Json.anyValue n (before ++ (cs ++ (after ++ c :: rest))) = .ok (v, after ++ c :: rest) ∧
      skipBlank (after ++ c :: rest) = c :: rest := by
  have hpos := hv.length_pos
  obtain ⟨k, rfl⟩ : ∃ k, n = k + 1 := ⟨n - 1, by omega⟩
  refine ⟨?_, skipBlank_before ha hc.1 rest⟩
  rw [anyValue_gap hb]
  exact h.value _ hv hn (ha.apart hc rest)

theorem elements_last {r : List Char} (hv : anyValue n cs = .ok (v, r))
    (hr : skipBlank r = ']' :: rest) : elements (n + 1) cs = .ok ([v], rest) := by
  rw [elements, hv]
  simp only [hr]

theorem elements_more {r ds : List Char} (hv : anyValue n cs = .ok (v, r))
    (hr : skipBlank r = ',' :: ds) (hvs : elements n ds = .ok (vs, rest)) :
    elements (n + 1) cs = .ok (v :: vs, rest) := by
  rw [elements, hv]
  simp only [hr, hvs, Except.map]

theorem Reads.elements_succ (h : Reads n) (hvs : SpellsElements vs cs) (hn : cs.length ≤ n + 1)
    (rest : List Char) : Json.elements (n + 1) (cs ++ rest) = .ok (vs, rest) := by
  cases hvs with
  | @last v before cs after hb hv ha =>
    simp only [List.length_append, List.length_cons] at hn
    obtain ⟨hread, hskip⟩ := h.between (c := ']') hb hv (by omega) ha (by decide) rest
    simp only [List.append_assoc, List.cons_append, List.nil_append]
    exact elements_last hread hskip
  | @more v vs before cs after ds hb hv ha hvs =>
    simp only [List.length_append, List.length_cons] at hn
    have hpos := hv.length_pos
    obtain ⟨hread, hskip⟩ := h.between (c := ',') hb hv (by omega) ha (by decide) (ds ++ rest)
    have hmore := h.elements rest hvs (by omega)
    simp only [List.append_assoc, List.cons_append]
    exact elements_more hread hskip hmore

theorem members_last {k : String} {r : List Char} (hb : Gap before)
    (hv : anyValue n cs = .ok (v, r)) (hr : skipBlank r = '\x7d' :: rest) :
    members (n + 1) (before ++ (quote k ++ ':' :: cs)) = .ok ([(k, v)], rest) := by
  have hcolon : skipBlank (':' :: cs) = ':' :: cs := skipBlank_cons (by decide) cs
  rw [members, quote_append, skipBlank_before hb (by decide)]
  simp only [stringRest_escaped, hcolon, hv, hr]

theorem members_more {k : String} {r ds : List Char} (hb : Gap before)
    (hv : anyValue n cs = .ok (v, r)) (hr : skipBlank r = ',' :: ds)
    (hms : members n ds = .ok (ms, rest)) :
    members (n + 1) (before ++ (quote k ++ ':' :: cs)) = .ok ((k, v) :: ms, rest) := by
  have hcolon : skipBlank (':' :: cs) = ':' :: cs := skipBlank_cons (by decide) cs
  rw [members, quote_append, skipBlank_before hb (by decide)]
  simp only [stringRest_escaped, hcolon, hv, hr, hms, Except.map]

theorem Reads.members_succ (h : Reads n) (hms : SpellsMembers ms cs) (hn : cs.length ≤ n + 1)
    (rest : List Char) : Json.members (n + 1) (cs ++ rest) = .ok (ms, rest) := by
  cases hms with
  | @last k v before gap cs after hb hg hv ha =>
    simp only [List.length_append, List.length_cons] at hn
    obtain ⟨hread, hskip⟩ := h.between (c := '\x7d') hg hv (by omega) ha (by decide) rest
    simp only [List.append_assoc, List.cons_append, List.nil_append]
    exact members_last hb hread hskip
  | @more k v ms before gap cs after ds hb hg hv ha hms =>
    simp only [List.length_append, List.length_cons] at hn
    obtain ⟨hread, hskip⟩ := h.between (c := ',') hg hv (by omega) ha (by decide) (ds ++ rest)
    have hmore := h.members rest hms (by omega)
    simp only [List.append_assoc, List.cons_append]
    exact members_more hb hread hskip hmore

theorem reads (n : Nat) : Reads n := by
  induction n with
  | zero =>
    refine ⟨?_, ?_, ?_⟩
    · intro v cs rest hv hn
      have := hv.length_pos
      omega
    · intro vs cs rest hvs hn
      obtain ⟨before, c, ds, rfl, -⟩ := hvs.exists_opens
      simp at hn
    · intro ms cs rest hms hn
      obtain ⟨before, ds, rfl, -⟩ := hms.exists_opens
      simp at hn
  | succ n ih =>
    exact ⟨fun _ hv hn hr => ih.anyValue hv hn hr, fun rest hvs hn => ih.elements_succ hvs hn rest,
      fun rest hms hn => ih.members_succ hms hn rest⟩

theorem Spells.read {s : String} (h : Spells v s.toList) : Value.read s = .ok v := by
  have hend : Apart [] := fun c hc => (Option.not_mem_none c hc).elim
  have hlength : s.toList.length ≤ 2 * s.length + 2 := by
    rw [String.length_toList]
    omega
  have hread := (reads (2 * s.length + 2)).value [] h hlength hend
  rw [List.append_nil] at hread
  rw [Value.read, Json.whole, hread]
  rfl

/-! ## Layouts -/

mutual

def Value.IsWhole : Value → Prop
  | .number m e => e = 0 ∧ m.natAbs ≤ greatestWord
  | .array vs => ElementsWhole vs
  | .object ms => MembersWhole ms
  | _ => True

def ElementsWhole : List Value → Prop
  | [] => True
  | v :: vs => v.IsWhole ∧ ElementsWhole vs

def MembersWhole : List (String × Value) → Prop
  | [] => True
  | (_, v) :: ms => v.IsWhole ∧ MembersWhole ms

end

theorem gap_space : Gap [' '] := by
  intro c hc
  rw [List.mem_singleton.mp hc]
  rfl

theorem gap_lineAt (depth : Nat) : Gap (Value.lineAt depth) := by
  intro c hc
  rcases List.mem_cons.mp hc with rfl | hc
  · rfl
  · rw [(List.mem_replicate.mp hc).2]
    rfl

mutual

theorem spells_indented : ∀ (v : Value) (depth : Nat), v.IsWhole → Spells v (v.indented depth)
  | .null, _, _ => .null
  | .bool b, _, _ => .bool b
  | .number m e, _, h => by
    obtain ⟨rfl, hm⟩ := h
    exact .whole hm
  | .text s, _, _ => .text s
  | .array [], _, _ => .emptyArray .nil
  | .array (v :: vs), depth, h => by
    have hvs := spellsElements_indented (v :: vs) (depth + 1) (List.cons_ne_nil v vs) h
      (gap_lineAt (depth + 1)) (gap_lineAt depth)
    rw [Value.indented, List.append_assoc, List.append_assoc]
    exact .array hvs
  | .object [], _, _ => .emptyObject .nil
  | .object (m :: ms), depth, h => by
    have hms := spellsMembers_indented (m :: ms) (depth + 1) (List.cons_ne_nil m ms) h
      (gap_lineAt (depth + 1)) (gap_lineAt depth)
    rw [Value.indented, List.append_assoc, List.append_assoc]
    exact .object hms

theorem spellsElements_indented : ∀ (vs : List Value) (depth : Nat), vs ≠ [] →
    ElementsWhole vs → ∀ {before after : List Char}, Gap before → Gap after →
    SpellsElements vs (before ++ (Value.indentedElements depth vs ++ (after ++ [']'])))
  | [], _, hne, _, _, _, _, _ => absurd rfl hne
  | [v], depth, _, h, _, _, hb, ha => by
    rw [Value.indentedElements]
    exact .last hb (spells_indented v depth h.1) ha
  | v :: w :: vs, depth, _, h, _, _, hb, ha => by
    have hvs := spellsElements_indented (w :: vs) depth (List.cons_ne_nil w vs) h.2
      (gap_lineAt depth) ha
    have hmore := SpellsElements.more hb (spells_indented v depth h.1) .nil hvs
    rw [Value.indentedElements, List.append_assoc, List.cons_append, List.append_assoc]
    exact hmore

theorem spellsMembers_indented : ∀ (ms : List (String × Value)) (depth : Nat), ms ≠ [] →
    MembersWhole ms → ∀ {before after : List Char}, Gap before → Gap after →
    SpellsMembers ms (before ++ (Value.indentedMembers depth ms ++ (after ++ ['\x7d'])))
  | [], _, hne, _, _, _, _, _ => absurd rfl hne
  | [(k, v)], depth, _, h, _, _, hb, ha => by
    have hv := spells_indented v depth h.1
    simp only [Value.indentedMembers, List.append_assoc, List.cons_append]
    exact .last hb gap_space hv ha
  | (k, v) :: m :: ms, depth, _, h, _, _, hb, ha => by
    have hms := spellsMembers_indented (m :: ms) depth (List.cons_ne_nil m ms) h.2
      (gap_lineAt depth) ha
    have hmore := SpellsMembers.more (k := k) hb gap_space (spells_indented v depth h.1) .nil hms
    simp only [Value.indentedMembers, List.append_assoc, List.cons_append]
    exact hmore

end

mutual

theorem spells_compact : ∀ v : Value, v.IsWhole → Spells v v.compact
  | .null, _ => .null
  | .bool b, _ => .bool b
  | .number m e, h => by
    obtain ⟨rfl, hm⟩ := h
    exact .whole hm
  | .text s, _ => .text s
  | .array [], _ => .emptyArray .nil
  | .array (v :: vs), h => .array (spellsElements_compact (v :: vs) (List.cons_ne_nil v vs) h)
  | .object [], _ => .emptyObject .nil
  | .object (m :: ms), h => .object (spellsMembers_compact (m :: ms) (List.cons_ne_nil m ms) h)

theorem spellsElements_compact : ∀ vs : List Value, vs ≠ [] → ElementsWhole vs →
    SpellsElements vs (Value.compactElements vs ++ [']'])
  | [], hne, _ => absurd rfl hne
  | [v], _, h => .last .nil (spells_compact v h.1) .nil
  | v :: w :: vs, _, h => by
    have hvs := spellsElements_compact (w :: vs) (List.cons_ne_nil w vs) h.2
    have hmore := SpellsElements.more .nil (spells_compact v h.1) .nil hvs
    rw [Value.compactElements, List.append_assoc]
    exact hmore

theorem spellsMembers_compact : ∀ ms : List (String × Value), ms ≠ [] → MembersWhole ms →
    SpellsMembers ms (Value.compactMembers ms ++ ['\x7d'])
  | [], hne, _ => absurd rfl hne
  | [(k, v)], _, h => by
    have hlast := SpellsMembers.last (k := k) .nil .nil (spells_compact v h.1) .nil
    rw [Value.compactMembers, List.append_assoc]
    exact hlast
  | (k, v) :: m :: ms, _, h => by
    have hms := spellsMembers_compact (m :: ms) (List.cons_ne_nil m ms) h.2
    have hmore := SpellsMembers.more (k := k) .nil .nil (spells_compact v h.1) .nil hms
    simp only [Value.compactMembers, List.append_assoc, List.cons_append]
    exact hmore

end

theorem read_line {v : Value} (h : v.IsWhole) : Value.read v.line = .ok v := by
  have htext : v.line.toList = v.compact := String.toList_ofList
  exact Spells.read (htext ▸ spells_compact v h)

theorem read_page {v : Value} (h : v.IsWhole) : Value.read v.page = .ok v := by
  have htext : v.page.toList = v.indented 0 := String.toList_ofList
  exact Spells.read (htext ▸ spells_indented v 0 h)

theorem read_strings (ss : List String) :
    Value.read (Value.strings ss).line = .ok (Value.strings ss) := by
  have hwhole : ElementsWhole (ss.map .text) := by
    induction ss with
    | nil => trivial
    | cons s ss ih => exact ⟨trivial, ih⟩
  exact read_line hwhole

end TreeTool.Json
