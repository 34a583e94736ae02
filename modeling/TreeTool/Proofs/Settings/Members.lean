import Mathlib.Data.List.Nodup
import TreeTool.Proofs.Json.Objects
import TreeTool.Settings.Json

/-!
# Members of a settings object

An object that is accepted names its settings, each of them once; every value then changes the
settings by itself, so they end up with all changes in the order of the text. A step takes one
member and goes on behind its value. The names seen so far and those to come have to be different,
which is the invariant of the induction over the members.
-/

namespace TreeTool.Settings

open Json (Apart Ends Gap Lays LaysMembers ReadsAs Spells StringText TakesValue)
open Number (Written greatestWord)

def Fills (name : String) (cs : List Char) (f : Settings → Settings) : Prop :=
  ∀ s rest, Apart rest → valueOf s name (cs ++ rest) = .ok (f s, rest)

inductive Enters : List String → List Char → List Char → Prop
  | first {cs : List Char} : Enters [] cs cs
  | next {seen : List String} {gap cs : List Char} : seen ≠ [] → Gap gap →
    Enters seen (gap ++ ',' :: cs) cs

variable {name : String} {s s' : Settings} {seen : List String} {rows : List (String × List Char)}
  {fs : List (Settings → Settings)} {before key between gap value after cs ds rest : List Char}
  {n : Nat}

/-! ## One value -/

theorem valueOf_gap (h : Gap gap) (s : Settings) (name : String) (cs : List Char) :
    valueOf s name (gap ++ cs) = valueOf s name cs := by
  have hskip := Json.skipBlank_append h cs
  simp only [valueOf, Json.text, Json.optional, Json.named, hskip]

theorem takesValue_valueOf (s : Settings) (name : String) : TakesValue (valueOf s name) := by
  intro cs rest s' n h
  rw [valueOf] at h
  split at h
  · obtain ⟨⟨b, r⟩, hr, heq⟩ := Json.map_eq_ok h
    obtain ⟨-, rfl⟩ := Prod.mk.inj heq
    exact Json.takesValue_text n hr
  · split at h
    · obtain ⟨⟨t, r⟩, hr, heq⟩ := Json.map_eq_ok h
      obtain ⟨-, rfl⟩ := Prod.mk.inj heq
      exact Json.takesValue_optional Json.takesValue_word n hr
    · split at h
      · obtain ⟨⟨e, r⟩, hr, heq⟩ := Json.map_eq_ok h
        obtain ⟨-, rfl⟩ := Prod.mk.inj heq
        exact Json.takesValue_named n hr
      · split at h
        · obtain ⟨⟨m, r⟩, hr, heq⟩ := Json.map_eq_ok h
          obtain ⟨-, rfl⟩ := Prod.mk.inj heq
          exact Json.takesValue_named n hr
        · cases h

theorem rest_of_valueOf {v : Json.Value} {r : List Char} (hv : ReadsAs v value)
    (hr : Apart rest) (h : valueOf s name (value ++ rest) = .ok (s', r)) : r = rest := by
  obtain ⟨w, hw⟩ := takesValue_valueOf s name (2 * (value ++ rest).length) h
  rw [hv rest _ hr (by omega)] at hw
  exact (Prod.mk.inj (Except.ok.inj hw)).2.symm

theorem fills_binary {b : String} (h : StringText b cs) :
    Fills "binary" cs fun s => { s with binary := b } := by
  intro s rest _
  rw [valueOf, if_pos rfl, Json.text_stringText h]
  rfl

theorem optional_written (h : Written ds n) (hn : n ≤ greatestWord) (hr : Apart rest) :
    Json.optional Json.word (ds ++ rest) = .ok (some n, rest) := by
  have hread := Json.word_written h hn hr
  obtain ⟨c, cs, rfl, hc⟩ := h.opens
  have hno : c ≠ 'n' := Number.ne_of_isDigit hc (by decide)
  rw [List.cons_append] at hread ⊢
  rw [Json.optional, Json.skipBlank_cons (Json.isBlank_of_isDigit hc)]
  split
  · rename_i heq
    exact absurd (List.cons.inj heq).1 hno
  · rw [hread]
    rfl

theorem fills_timeout (h : Written cs n) (hn : n ≤ greatestWord) :
    Fills "timeout_ms" cs fun s => { s with timeoutMillis := some n } := by
  intro s rest hr
  rw [valueOf, if_neg (by decide), if_pos rfl, optional_written h hn hr]
  rfl

theorem fills_noTimeout :
    Fills "timeout_ms" "null".toList fun s => { s with timeoutMillis := none } :=
  fun _ _ _ => rfl

theorem fills_encoding {e : Encoding} (h : StringText (Coded.token e) cs) :
    Fills "encoding" cs fun s => { s with encoding := e } := by
  intro s rest _
  have hname : Document.Named.table.lookup (Coded.token e) = some e := by cases e <;> rfl
  rw [valueOf, if_neg (by decide), if_neg (by decide), if_pos rfl,
    Json.named_stringText h hname]
  rfl

theorem fills_stderr {m : StderrMode} (h : StringText (Document.Named.name m) cs) :
    Fills "stderr" cs fun s => { s with stderr := m } := by
  intro s rest _
  have hname : Document.Named.table.lookup (Document.Named.name m) = some m := by cases m <;> rfl
  rw [valueOf, if_neg (by decide), if_neg (by decide), if_neg (by decide), if_pos rfl,
    Json.named_stringText h hname]
  rfl

/-! ## One member -/

theorem member_colon (h : Gap between) (s : Settings) (seen : List String) (name : String)
    (cs : List Char) :
    member s seen name (between ++ ':' :: cs) =
      if name ∉ fieldNames then .error (.unknownName (.unknownField name fieldNames))
      else if name ∈ seen then .error .mistyped
      else valueOf s name cs := by
  have hcolon : Json.colon (between ++ ':' :: cs) = .ok cs := by
    rw [Json.colon, Json.skipBlank_before h (by decide)]
    rfl
  rw [member, hcolon]

theorem members_step (he : Enters seen cs (before ++ (key ++ rest))) (hb : Gap before)
    (hk : StringText name key) (s : Settings) (n : Nat) :
    members s seen (n + 1) cs =
      (member s seen name rest).bind fun read => members read.1 (name :: seen) n read.2 := by
  obtain ⟨body, hkey, hread⟩ := hk.read rest
  have hskip : Json.skipBlank (before ++ (key ++ rest)) = '"' :: body := by
    rw [hkey, Json.skipBlank_before hb (by decide)]
  cases he with
  | first => cases hm : member s [] name rest <;> simp [members, hskip, hread, hm, Except.bind]
  | next hne hg =>
    have hcomma := Json.skipBlank_before hg (c := ',') (by decide) (before ++ (key ++ rest))
    cases hm : member s seen name rest <;>
      simp [members, hcomma, hskip, hread, hne, hm, Except.bind]

theorem members_close (h : Gap gap) (s : Settings) (seen : List String) (n : Nat)
    (rest : List Char) : members s seen (n + 1) (gap ++ '\x7d' :: rest) = .ok (s, rest) := by
  rw [members]
  simp only [Json.skipBlank_before h (show Json.isBlank '\x7d' = false by decide)]

theorem member_of_fills {f : Settings → Settings} (h : Fills name value f) (hn : name ∈ fieldNames)
    (hs : name ∉ seen) (hb : Gap between) (hg : Gap gap) (hr : Apart rest) (s : Settings) :
    member s seen name (between ++ ':' :: (gap ++ (value ++ rest))) = .ok (f s, rest) := by
  rw [member_colon hb, if_neg (not_not_intro hn), if_neg hs, valueOf_gap hg, h s rest hr]

theorem member_eq_ok {v : Json.Value} {r : List Char} (hv : ReadsAs v value) (hb : Gap between)
    (hg : Gap gap) (hr : Apart rest)
    (h : member s seen name (between ++ ':' :: (gap ++ (value ++ rest))) = .ok (s', r)) :
    name ∈ fieldNames ∧ name ∉ seen ∧ r = rest := by
  rw [member_colon hb] at h
  split at h
  · cases h
  · rename_i hn
    split at h
    · cases h
    · rename_i hs
      rw [valueOf_gap hg] at h
      exact ⟨not_not.mp hn, hs, rest_of_valueOf hv hr h⟩

/-! ## All members -/

theorem members_of_fills (h : LaysMembers rows ds)
    (hf : List.Forall₂ (fun row f => Fills row.1 row.2 f) rows fs)
    (hn : ∀ row ∈ rows, row.1 ∈ fieldNames) (hd : (rows.map (·.1) ++ seen).Nodup)
    (he : Enters seen cs (ds ++ rest)) (hlen : rows.length < n) (s : Settings) :
    members s seen n cs = .ok (fs.foldl (fun s f => f s) s, rest) := by
  obtain ⟨n, rfl⟩ : ∃ m, n = m + 1 := ⟨n - 1, by omega⟩
  induction h generalizing seen cs fs n s with
  | @last name value before key between gap after hb hk ht hg ha =>
    obtain ⟨hname, -⟩ := List.forall_mem_cons.mp hn
    have hfresh : name ∉ seen := (List.nodup_cons.mp hd).1
    cases hf with
    | cons hfill hnil =>
      cases hnil
      obtain ⟨n, rfl⟩ : ∃ m, n = m + 1 := ⟨n - 1, by simp at hlen; omega⟩
      simp only [List.append_assoc, List.cons_append, List.nil_append] at he
      have hmember := member_of_fills hfill hname hfresh ht hg
        (ha.apart (c := '\x7d') (by decide) rest) s
      rw [members_step he hb hk, hmember]
      exact members_close ha _ _ _ rest
  | @more name value before key between gap after ds rows hb hk ht hg ha _ ih =>
    obtain ⟨hname, hn⟩ := List.forall_mem_cons.mp hn
    obtain ⟨hfresh, hd'⟩ := List.nodup_cons.mp hd
    cases hf with
    | cons hfill hmore =>
      obtain ⟨n, rfl⟩ : ∃ m, n = m + 1 := ⟨n - 1, by simp at hlen; omega⟩
      simp only [List.append_assoc, List.cons_append] at he
      have hmember := member_of_fills hfill hname (fun hs => hfresh (List.mem_append_right _ hs))
        ht hg (ha.apart (c := ',') (by decide) (ds ++ rest)) s
      rw [members_step he hb hk, hmember]
      have hnext : (rows.map (·.1) ++ name :: seen).Nodup := List.nodup_middle.mpr hd
      exact ih hmore hn hnext (.next (List.cons_ne_nil name seen) ha) _ _ (by simpa using hlen)

theorem step_of_members {v : Json.Value} {r : List Char} (hb : Gap before)
    (hk : StringText name key) (ht : Gap between) (hg : Gap gap) (hv : ReadsAs v value)
    (hr : Apart rest)
    (he : Enters seen cs (before ++ (key ++ (between ++ ':' :: (gap ++ (value ++ rest))))))
    (hok : members s seen (n + 1) cs = .ok (s', r)) :
    name ∈ fieldNames ∧ name ∉ seen ∧ ∃ next, members next (name :: seen) n rest = .ok (s', r) := by
  rw [members_step he hb hk] at hok
  cases hm : member s seen name (between ++ ':' :: (gap ++ (value ++ rest))) with
  | error f =>
    rw [hm] at hok
    cases hok
  | ok read =>
    obtain ⟨next, r'⟩ := read
    obtain ⟨hname, hfresh, rfl⟩ := member_eq_ok hv ht hg hr hm
    rw [hm] at hok
    exact ⟨hname, hfresh, next, hok⟩

theorem fresh_of_members {r : List Char} (h : LaysMembers rows ds)
    (hv : ∀ row ∈ rows, ∃ v, ReadsAs v row.2) (hd : seen.Nodup)
    (he : Enters seen cs (ds ++ rest)) (hok : members s seen n cs = .ok (s', r)) :
    (∀ row ∈ rows, row.1 ∈ fieldNames) ∧ (rows.map (·.1) ++ seen).Nodup := by
  induction h generalizing seen cs n s with
  | @last name value before key between gap after hb hk ht hg ha =>
    obtain ⟨v, hv⟩ := hv _ List.mem_cons_self
    cases n with
    | zero => cases hok
    | succ n =>
      simp only [List.append_assoc, List.cons_append] at he
      obtain ⟨hname, hfresh, -⟩ :=
        step_of_members hb hk ht hg hv (ha.apart (c := '\x7d') (by decide) _) he hok
      exact ⟨by simpa using hname, List.nodup_cons.mpr ⟨hfresh, hd⟩⟩
  | @more name value before key between gap after ds rows hb hk ht hg ha _ ih =>
    obtain ⟨⟨v, hv⟩, hvs⟩ := List.forall_mem_cons.mp hv
    cases n with
    | zero => cases hok
    | succ n =>
      simp only [List.append_assoc, List.cons_append] at he
      obtain ⟨hname, hfresh, next, hok⟩ :=
        step_of_members hb hk ht hg hv (ha.apart (c := ',') (by decide) _) he hok
      obtain ⟨hnames, hnext⟩ := ih hvs (List.nodup_cons.mpr ⟨hfresh, hd⟩)
        (.next (List.cons_ne_nil name seen) ha) hok
      exact ⟨List.forall_mem_cons.mpr ⟨hname, hnames⟩, List.nodup_middle.mp hnext⟩

/-! ## Documents -/

theorem length_le_of_laysMembers (h : LaysMembers rows ds) : rows.length ≤ ds.length := by
  induction h with
  | last =>
    simp only [List.length_append, List.length_cons, List.length_nil]
    omega
  | more =>
    simp only [List.length_append, List.length_cons]
    omega

theorem reader_object (h : Gap before) (cs : List Char) :
    reader (before ++ '\x7b' :: cs) = members {} [] (cs.length + 1) cs := by
  rw [reader, Json.skipBlank_before h (by decide)]
  rfl

theorem whole_of_reader {text : String} (hr : reader text.toList = .ok (s, after))
    (ha : Gap after) : ofJson text = .ok s := by
  have hskip : Json.skipBlank after = [] := by
    rw [← List.append_nil after, Json.skipBlank_append ha]
    rfl
  rw [ofJson, Json.whole, hr]
  simp [hskip]

theorem ofJson_of_fills {text : String} (h : Lays rows text.toList)
    (hf : List.Forall₂ (fun row f => Fills row.1 row.2 f) rows fs)
    (hn : ∀ row ∈ rows, row.1 ∈ fieldNames) (hd : (rows.map (·.1)).Nodup) :
    ofJson text = .ok (fs.foldl (fun s f => f s) {}) := by
  generalize hcs : text.toList = cs at h
  cases h with
  | @empty before gap after hb hg ha =>
    cases hf
    refine whole_of_reader ?_ ha
    rw [hcs, reader_object hb, members_close hg]
    rfl
  | @members _ before ds after hb hms ha =>
    refine whole_of_reader ?_ ha
    have hlen := length_le_of_laysMembers hms
    rw [hcs, reader_object hb]
    exact members_of_fills hms hf hn (by simpa using hd) .first
      (by rw [List.length_append]; omega) {}

theorem fresh_of_ofJson {text : String} (hv : ∀ row ∈ rows, ∃ v, ReadsAs v row.2)
    (h : Lays rows text.toList) (hok : ofJson text = .ok s) :
    (∀ row ∈ rows, row.1 ∈ fieldNames) ∧ (rows.map (·.1)).Nodup := by
  obtain ⟨r, hr⟩ : ∃ r, reader text.toList = .ok (s, r) := by
    rw [ofJson, Json.whole] at hok
    cases hr : reader text.toList with
    | error f =>
      rw [hr] at hok
      cases hok
    | ok read =>
      simp only [hr] at hok
      split at hok
      · obtain rfl := Except.ok.inj hok
        exact ⟨read.2, rfl⟩
      · cases hok
  generalize text.toList = cs at h hr
  cases h with
  | empty => exact ⟨List.forall_mem_nil _, List.nodup_nil⟩
  | @members _ before ds after hb hms ha =>
    rw [reader_object hb] at hr
    obtain ⟨hn, hd⟩ := fresh_of_members hms hv List.nodup_nil .first hr
    exact ⟨hn, by simpa using hd⟩

theorem fills_of_spells {t : Option Nat} (h : Spells (.optional (fun n => .integer n) t) cs)
    (ht : ∀ n ∈ t, n ≤ greatestWord) :
    Fills "timeout_ms" cs fun s => { s with timeoutMillis := t } := by
  cases t with
  | none =>
    cases h
    exact fills_noTimeout
  | some n =>
    cases h with
    | whole hm =>
      rw [Json.numeral_ofNat]
      exact fills_timeout (Number.written_toDigits n) (ht n rfl)

theorem ofJson_of_spells {text : String} (h : Spells s.json text.toList)
    (ht : ∀ n ∈ s.timeoutMillis, n ≤ greatestWord) : ofJson text = .ok s := by
  generalize hcs : text.toList = cs at h
  rw [json] at h
  cases h with
  | @object _ ds hms =>
    obtain ⟨rows, hrows, hread⟩ := LaysMembers.of_spells hms
    have hlays : Lays rows text.toList := by
      have hmembers := Lays.members .nil hrows .nil
      rwa [List.append_nil, List.nil_append, ← hcs] at hmembers
    obtain ⟨⟨_, b⟩, _, ⟨rfl, hb⟩, hread₁, rfl⟩ := List.forall₂_cons_right_iff.mp hread
    obtain ⟨⟨_, t⟩, _, ⟨rfl, hl⟩, hread₂, rfl⟩ := List.forall₂_cons_right_iff.mp hread₁
    obtain ⟨⟨_, e⟩, _, ⟨rfl, he⟩, hread₃, rfl⟩ := List.forall₂_cons_right_iff.mp hread₂
    obtain ⟨⟨_, m⟩, _, ⟨rfl, hm⟩, hread₄, rfl⟩ := List.forall₂_cons_right_iff.mp hread₃
    cases hread₄
    cases hb
    cases he
    cases hm
    have hname : Document.Named.name s.encoding = Coded.token s.encoding := by
      cases s.encoding <;> rfl
    refine ofJson_of_fills hlays (.cons (fills_binary (Json.stringText_quote _)) (.cons
      (fills_of_spells hl ht) (.cons (fills_encoding (hname ▸ Json.stringText_quote _))
      (.cons (fills_stderr (Json.stringText_quote _)) .nil)))) ?_ ?_
    · simp [fieldNames]
    · simp

end TreeTool.Settings
