import TreeTool.Proofs.Settings.Members
import TreeTool.Proofs.Settings.Stated
import TreeTool.Proofs.Toml.Lines

/-!
# Settings in either format

A document says something of some settings, in any order. In either format it is read as the
defaults with just these settings replaced, because what is said of different settings commutes. It
is refused if it names anything else, or a setting twice, wherever that stands in it.
-/

namespace TreeTool.Settings

open Number (Written greatestWord)

/-- What a document says of one setting. -/
inductive Entry
  | binary (b : String)
  | timeout (n : Nat)
  | encoding (e : Encoding)
  | stderr (m : StderrMode)

namespace Entry

def name : Entry → String
  | binary _ => "binary"
  | timeout _ => "timeout_ms"
  | encoding _ => "encoding"
  | stderr _ => "stderr"

def apply (s : Settings) : Entry → Settings
  | binary b => { s with binary := b }
  | timeout n => { s with timeoutMillis := some n }
  | encoding e => { s with encoding := e }
  | stderr m => { s with stderr := m }

end Entry

def Stated.entries (d : Stated) : List Entry :=
  d.binary.toList.map .binary ++ (d.timeoutMillis.toList.map .timeout ++
    (d.encoding.toList.map .encoding ++ d.stderr.toList.map .stderr))

/-- A format of documents that give values to names: the documents for names and the texts of their
values, the texts of a string and of any value, and the bound on the numbers that can be written. -/
structure Format where
  Lays : List (String × List Char) → List Char → Prop
  IsString : String → List Char → Prop
  IsValue : List Char → Prop
  bound : Nat

namespace Format

def toml : Format := ⟨Toml.Lays, Toml.BasicString, fun cs => ∃ v, Toml.ReadsAs v cs, 2 ^ 63⟩

def json : Format := ⟨Json.Lays, Json.StringText, fun cs => ∃ v, Json.ReadsAs v cs, 2 ^ 64⟩

/-- The texts of the value in an entry. -/
inductive Writes (F : Format) : Entry → List Char → Prop
  | binary {b : String} {cs : List Char} : F.IsString b cs → F.Writes (.binary b) cs
  | timeout {n : Nat} {ds : List Char} : n < F.bound → Written ds n → F.Writes (.timeout n) ds
  | encoding {e : Encoding} {cs : List Char} :
    F.IsString (Coded.token e) cs → F.Writes (.encoding e) cs
  | capture {cs : List Char} : F.IsString "capture" cs → F.Writes (.stderr .capture) cs
  | inherit {cs : List Char} : F.IsString "inherit" cs → F.Writes (.stderr .inherit) cs

def WritesAll (F : Format) (rows : List (String × List Char)) (es : List Entry) : Prop :=
  List.Forall₂ (fun row e => row.1 = e.name ∧ F.Writes e row.2) rows es

/-- Documents of a format are read as what they say, and refused for any name too many. -/
structure Decodes (F : Format) {ε : Type} (read : String → Except ε Settings) : Prop where
  accepts : ∀ (d : Stated) (es : List Entry) (rows : List (String × List Char)) (text : String),
    es.Perm d.entries → F.WritesAll rows es → F.Lays rows text.toList →
    read text = .ok (d.onto {})
  refuses : ∀ (before : List (String × List Char)) (extra : String × List Char)
    (after : List (String × List Char)) (text : String),
    (∀ row ∈ before ++ extra :: after, F.IsValue row.2) →
    (extra.1 ∉ ["binary", "timeout_ms", "encoding", "stderr"] ∨
      extra.1 ∈ (before ++ after).map (·.1)) →
    F.Lays (before ++ extra :: after) text.toList → ∃ x, read text = .error x
  holds : ∀ (e : Entry) (cs : List Char), F.Writes e cs → F.IsValue cs
  writable : ∀ e : Entry, (∀ n, e = .timeout n → n < F.bound) → ∃ cs, F.Writes e cs
  layable : ∀ rows : List (String × List Char), ∃ text : String, F.Lays rows text.toList

end Format

variable {F : Format} {ε : Type} {read : String → Except ε Settings} {e e' : Entry}
  {es : List Entry} {rows : List (String × List Char)} {cs : List Char} {d : Stated}
  {s : Settings} {text : String}

/-! ## Entries -/

theorem Entry.apply_comm (h : e.name ≠ e'.name) (s : Settings) :
    apply (apply s e) e' = apply (apply s e') e := by
  cases e <;> cases e' <;> first
    | rfl
    | exact absurd rfl h

theorem names_entries (d : Stated) : (d.entries.map Entry.name).Nodup := by
  rcases d with ⟨_ | b, _ | t, _ | e, _ | m⟩ <;> simp [Stated.entries, Entry.name]

theorem foldl_entries (d : Stated) (s : Settings) :
    d.entries.foldl Entry.apply s = d.onto s := by
  rcases d with ⟨_ | b, _ | t, _ | e, _ | m⟩ <;> rfl

theorem foldl_of_perm (h : es.Perm d.entries) (s : Settings) :
    es.foldl Entry.apply s = d.onto s := by
  rw [← foldl_entries d s]
  refine h.foldl_eq' ?_ s
  intro e he e' he' s
  by_cases hname : e.name = e'.name
  · have hd : (es.map Entry.name).Nodup := (h.map Entry.name).nodup_iff.mpr (names_entries d)
    rw [List.inj_on_of_nodup_map hd he he' hname]
  · exact Entry.apply_comm hname s

theorem names_of_writesAll (h : F.WritesAll rows es) : rows.map (·.1) = es.map Entry.name := by
  induction h with
  | nil => rfl
  | cons hrow _ ih => rw [List.map_cons, List.map_cons, hrow.1, ih]

theorem name_mem_fieldNames (e : Entry) : e.name ∈ fieldNames := by
  cases e <;> simp [Entry.name, fieldNames]

/-! ## Either format -/

theorem Format.accepts_of
    (hok : ∀ {rows : List (String × List Char)} {es : List Entry} {text : String},
      F.WritesAll rows es → (rows.map (·.1)).Nodup → F.Lays rows text.toList →
      read text = .ok (es.foldl Entry.apply {}))
    (hp : es.Perm d.entries) (hw : F.WritesAll rows es) (hl : F.Lays rows text.toList) :
    read text = .ok (d.onto {}) := by
  have hd : (rows.map (·.1)).Nodup := by
    rw [names_of_writesAll hw]
    exact (hp.map Entry.name).nodup_iff.mpr (names_entries d)
  rw [hok hw hd hl, foldl_of_perm hp]

theorem Format.refuses_of {before after : List (String × List Char)} {extra : String × List Char}
    (hfresh : ∀ {rows : List (String × List Char)} {text : String} {s : Settings},
      (∀ row ∈ rows, F.IsValue row.2) → F.Lays rows text.toList → read text = .ok s →
      (∀ row ∈ rows, row.1 ∈ fieldNames) ∧ (rows.map (·.1)).Nodup)
    (hv : ∀ row ∈ before ++ extra :: after, F.IsValue row.2)
    (hx : extra.1 ∉ fieldNames ∨ extra.1 ∈ (before ++ after).map (·.1))
    (hl : F.Lays (before ++ extra :: after) text.toList) : ∃ x, read text = .error x := by
  cases hr : read text with
  | error x => exact ⟨x, rfl⟩
  | ok s =>
    obtain ⟨hnames, hd⟩ := hfresh hv hl hr
    rw [List.map_append, List.map_cons, List.nodup_middle, ← List.map_append] at hd
    refine absurd hx (not_or_intro (not_not_intro ?_) (List.nodup_cons.mp hd).1)
    exact hnames extra (List.mem_append_right before List.mem_cons_self)

theorem Format.writable_of (hs : ∀ s, ∃ cs, F.IsString s cs)
    (he : ∀ n, e = .timeout n → n < F.bound) : ∃ cs, F.Writes e cs := by
  cases e with
  | binary b => exact (hs b).imp fun _ => .binary
  | timeout n => exact ⟨_, .timeout (he n rfl) (Number.written_toDigits n)⟩
  | encoding e => exact (hs (Coded.token e)).imp fun _ => .encoding
  | stderr m =>
    cases m with
    | capture => exact (hs "capture").imp fun _ => .capture
    | inherit => exact (hs "inherit").imp fun _ => .inherit

theorem exists_text {p : List Char → Prop} (h : ∃ cs, p cs) :
    ∃ text : String, p text.toList := by
  obtain ⟨cs, hcs⟩ := h
  exact ⟨String.ofList cs, by rwa [String.toList_ofList]⟩

/-! ## TOML -/

def Entry.node : Entry → Toml.Node
  | binary b => .text b
  | timeout n => .integer n
  | encoding e => .text (Coded.token e)
  | stderr m => .text (Document.Named.name m)

theorem setMember_entry (s : Settings) (e : Entry) :
    setMember s e.name e.node = .ok (Entry.apply s e) := by
  cases e with
  | binary b => rfl
  | timeout n =>
    have hword : wordOf (.integer n) = .ok n := by simp [wordOf]
    simp only [Entry.name, Entry.node, setMember, hword]
    rfl
  | encoding e => cases e <;> rfl
  | stderr m => cases m <;> rfl

theorem setAll_entries (es : List Entry) (s : Settings) :
    setAll s (es.map fun e => (e.name, e.node)) = .ok (es.foldl Entry.apply s) := by
  induction es generalizing s with
  | nil => rfl
  | cons e es ih =>
    rw [List.map_cons, setAll_cons, setMember_entry]
    exact ih _

theorem readsAs_of_writes (h : Format.toml.Writes e cs) : Toml.ReadsAs e.node cs := by
  cases h with
  | binary h => exact Toml.reads_text h
  | timeout hn h => exact Toml.reads_integer h hn
  | encoding h => exact Toml.reads_text h
  | capture h => exact Toml.reads_text h
  | inherit h => exact Toml.reads_text h

theorem ofToml_of_writesAll (h : Format.toml.WritesAll rows es) (hd : (rows.map (·.1)).Nodup)
    (hl : Format.toml.Lays rows text.toList) : ofToml text = .ok (es.foldl Entry.apply {}) := by
  have hrows : Toml.RowsRead rows (es.map fun e => (e.name, e.node)) := by
    refine List.forall₂_map_right_iff.mpr (h.imp ?_)
    exact fun row e hrow => ⟨hrow.1.symm, readsAs_of_writes hrow.2⟩
  have hdistinct : Toml.Members.Distinct (es.map fun e => (e.name, e.node)) := by
    rw [names_of_writesAll h] at hd
    rw [Toml.Members.Distinct, List.map_map]
    exact hd
  have hread := (Toml.read_lays_iff hl hrows).mpr ⟨rfl, hdistinct⟩
  have hset : ofMembers (es.map fun e => (e.name, e.node)) = .ok (es.foldl Entry.apply {}) :=
    setAll_entries es {}
  rw [ofToml, readToml, hread]
  simp only [hset]

theorem name_mem_of_legal {name : String} {n : Toml.Node} (h : Legal name n) :
    name ∈ fieldNames := by
  cases h <;> simp [fieldNames]

theorem table_of_ofToml (h : ofToml text = .ok s) :
    ∃ ms, Toml.read text = some ms ∧ (∀ m ∈ ms, m.1 ∈ fieldNames) ∧ ms.Distinct := by
  rw [ofToml, readToml] at h
  cases hread : Toml.read text with
  | none =>
    rw [hread] at h
    cases h
  | some ms =>
    have hd := Toml.distinct_of_read hread
    simp only [hread] at h
    cases hset : ofMembers ms with
    | error r =>
      rw [hset] at h
      cases h
    | ok s' =>
      obtain ⟨hlegal, -⟩ := (ofMembers_eq_ok_iff hd).mp hset
      exact ⟨ms, rfl, fun m hm => name_mem_of_legal (hlegal m hm), hd⟩

theorem fresh_of_ofToml (hv : ∀ row ∈ rows, Format.toml.IsValue row.2)
    (hl : Format.toml.Lays rows text.toList) (hok : ofToml text = .ok s) :
    (∀ row ∈ rows, row.1 ∈ fieldNames) ∧ (rows.map (·.1)).Nodup := by
  obtain ⟨ms, hrows⟩ := Toml.exists_rowsRead hv
  obtain ⟨ms', hread, hnames, hd⟩ := table_of_ofToml hok
  obtain ⟨rfl, -⟩ := (Toml.read_lays_iff hl hrows).mp hread
  refine ⟨fun row hrow => ?_, by rw [hrows.names]; exact hd⟩
  have hname : row.1 ∈ ms'.map (·.1) := hrows.names ▸ List.mem_map_of_mem hrow
  obtain ⟨m, hm, hname⟩ := List.mem_map.mp hname
  exact hname ▸ hnames m hm

/-! ## JSON -/

theorem fills_of_writes (h : Format.json.Writes e cs) :
    Fills e.name cs fun s => Entry.apply s e := by
  cases h with
  | binary h => exact fills_binary h
  | timeout hn h => exact fills_timeout h (Nat.le_of_lt_succ hn)
  | encoding h => exact fills_encoding h
  | @capture cs h => exact fills_stderr (m := .capture) h
  | inherit h => exact fills_stderr (m := .inherit) h

theorem ofJson_of_writesAll (h : Format.json.WritesAll rows es) (hd : (rows.map (·.1)).Nodup)
    (hl : Format.json.Lays rows text.toList) : ofJson text = .ok (es.foldl Entry.apply {}) := by
  have hfills : List.Forall₂ (fun row f => Fills row.1 row.2 f) rows
      (es.map fun e s => Entry.apply s e) := by
    refine List.forall₂_map_right_iff.mpr (h.imp ?_)
    exact fun row e hrow => hrow.1 ▸ fills_of_writes hrow.2
  have hnames : ∀ row ∈ rows, row.1 ∈ fieldNames := by
    intro row hrow
    have hname : row.1 ∈ es.map Entry.name := names_of_writesAll h ▸ List.mem_map_of_mem hrow
    obtain ⟨e, -, hname⟩ := List.mem_map.mp hname
    exact hname ▸ name_mem_fieldNames e
  rw [ofJson_of_fills hl hfills hnames hd, List.foldl_map]

theorem value_of_writes (h : Format.json.Writes e cs) : Format.json.IsValue cs := by
  cases h with
  | binary h => exact ⟨_, Json.StringText.readsAs h⟩
  | timeout hn h => exact ⟨_, Json.readsAs_digits h (Nat.le_of_lt_succ hn)⟩
  | encoding h => exact ⟨_, Json.StringText.readsAs h⟩
  | capture h => exact ⟨_, Json.StringText.readsAs h⟩
  | inherit h => exact ⟨_, Json.StringText.readsAs h⟩

theorem isWhole_json (ht : ∀ n ∈ s.timeoutMillis, n ≤ greatestWord) : s.json.IsWhole := by
  have hlimit : (Json.Value.optional (fun n => .integer n) s.timeoutMillis).IsWhole := by
    cases h : s.timeoutMillis with
    | none => trivial
    | some n => exact ⟨rfl, ht n h⟩
  exact ⟨trivial, hlimit, trivial, trivial, trivial⟩

theorem line_and_page (ht : ∀ n ∈ s.timeoutMillis, n < 2 ^ 64) :
    ofJson s.json.line = .ok s ∧ ofJson s.json.page = .ok s := by
  have hword : ∀ n ∈ s.timeoutMillis, n ≤ greatestWord := fun n hn => Nat.le_of_lt_succ (ht n hn)
  have hwhole := isWhole_json hword
  constructor
  · refine ofJson_of_spells ?_ hword
    rw [Json.Value.line, String.toList_ofList]
    exact Json.spells_compact s.json hwhole
  · refine ofJson_of_spells ?_ hword
    rw [Json.Value.page, String.toList_ofList]
    exact Json.spells_indented s.json 0 hwhole

/-- Settings are read back from either layout of their JSON text. Plain TOML documents and JSON
objects are read as the defaults with what they say in place of them, in any order and spelling, and
refused if they name anything else or a setting twice. No other layout of a TOML document gets
around that. -/
structure DocumentsRead : Prop where
  returns : ∀ s : Settings, (∀ n ∈ s.timeoutMillis, n < 2 ^ 64) →
    ofJson s.json.line = .ok s ∧ ofJson s.json.page = .ok s
  toml : Format.toml.Decodes ofToml
  json : Format.json.Decodes ofJson
  strict : ∀ text s, ofToml text = .ok s → ∃ ms, Toml.read text = some ms ∧
    (∀ m ∈ ms, m.1 ∈ ["binary", "timeout_ms", "encoding", "stderr"]) ∧ (ms.map (·.1)).Nodup

theorem documents_read : DocumentsRead where
  returns _ := line_and_page
  toml := {
    accepts := fun _ _ _ _ => Format.accepts_of ofToml_of_writesAll
    refuses := fun _ _ _ _ => Format.refuses_of fresh_of_ofToml
    holds := fun _ _ h => ⟨_, readsAs_of_writes h⟩
    writable := fun _ => Format.writable_of Toml.exists_basicString
    layable := fun rows => exists_text (Toml.exists_lays rows) }
  json := {
    accepts := fun _ _ _ _ => Format.accepts_of ofJson_of_writesAll
    refuses := fun _ _ _ _ => Format.refuses_of fresh_of_ofJson
    holds := fun _ _ => value_of_writes
    writable := fun _ => Format.writable_of fun s => ⟨_, Json.stringText_quote s⟩
    layable := fun rows => exists_text (Json.exists_lays rows) }
  strict _ _ := table_of_ofToml

end TreeTool.Settings
