import TreeTool.Proofs.Toml.Names
import TreeTool.Proofs.Toml.Values

/-!
# Plain TOML documents

A plain document gives values to names, one on each line, with empty lines and comments between
them. It is read back line by line as the table of these values, unless a name stands twice in it.
The induction is over the lines.
-/

namespace TreeTool.Toml

/-- The documents that give a value, by its text, to each of some names. -/
inductive Lays : List (String × List Char) → List Char → Prop
  | done : Lays [] []
  | empty {rows : List (String × List Char)} {after rest : List Char} :
    Ends after rest → Lays rows rest → Lays rows after
  | row {name : String} {value : List Char} {rows : List (String × List Char)}
    {indent key before gap after rest : List Char} :
    Gap indent → KeyText name key → Gap before → Gap gap → Ends after rest → Lays rows rest →
    Lays ((name, value) :: rows)
      (indent ++ (key ++ (before ++ '=' :: (gap ++ (value ++ after)))))

variable {name : String} {v : Node} {gap key after rest cs : List Char} {n : Nat}

/-! ## Lines -/

theorem lines_of_ends {ls : List Line} (h : Ends after rest) (hn : after.length < n)
    (hr : ∀ m, rest.length < m → lines m rest = some ls) : lines n after = some ls := by
  obtain ⟨n, rfl⟩ : ∃ m, n = m + 1 := ⟨n - 1, by omega⟩
  have hcomment : ∀ {gap cs : List Char}, Gap gap → after = gap ++ '#' :: cs →
      lines (n + 1) after = some ls := by
    intro gap cs hg heq
    -- a comment is seen through from its mark on
    have hpos : 0 < after.length := List.length_pos_iff.mpr (by rw [heq]; simp)
    have hlen : rest.length < after.length := h.length_lt.elim id fun hr => by rwa [hr]
    have htrail : trailing ('#' :: cs) = some rest := by
      rw [← trailing_of_ends h, heq, trailing, trailing, skipBlank_append hg]
    rw [heq, lines, skipBlank_append hg, skipBlank_cons (by decide)]
    simp only [htrail, Option.bind_eq_bind, Option.bind_some]
    exact hr n (by omega)
  cases h with
  | last hm =>
    cases hm with
    | blank hg =>
      rw [lines, skipBlank_gap hg]
      exact hr 1 (by simp)
    | comment hg hc => exact hcomment hg rfl
  | @line margin mark rest hm he =>
    cases hm with
    | blank hg =>
      rw [List.length_append, List.length_append] at hn
      rw [lines, skipBlank_append hg]
      rcases he with rfl | rfl
      · exact hr n (by simp at hn; omega)
      · exact hr n (by simp at hn; omega)
    | comment hg hc => exact hcomment hg (by rw [List.append_assoc, List.cons_append])

theorem KeyText.head (h : KeyText name key) :
    ∃ c cs, key = c :: cs ∧ (isBare c ∨ c = '"' ∨ c = '\'') := by
  cases h with
  | bare hne hk =>
    obtain ⟨c, cs, hcs⟩ := List.exists_cons_of_ne_nil hne
    exact ⟨c, cs, hcs, Or.inl (hk c (hcs ▸ List.mem_cons_self))⟩
  | basic hs =>
    obtain ⟨pieces, -, rfl⟩ := hs
    exact ⟨_, _, rfl, Or.inr (Or.inl rfl)⟩
  | literal => exact ⟨_, _, rfl, Or.inr (Or.inr rfl)⟩

theorem KeyText.opens (h : KeyText name key) :
    ∃ c cs, key = c :: cs ∧ isBlank c = false ∧
      ∀ d ∈ ['#', '\n', '\r', '[', '\uFEFF'], c ≠ d := by
  obtain ⟨c, cs, hkey, hc⟩ := h.head
  refine ⟨c, cs, hkey, ?_⟩
  rcases hc with hc | rfl | rfl
  · have hno : ∀ d, isBare d = false → c ≠ d := fun d => ne_of_isBare hc
    simp [isBlank, hno ' ' (by decide), hno '\t' (by decide), hno '#' (by decide),
      hno '\n' (by decide), hno '\r' (by decide), hno '[' (by decide), hno '\uFEFF' (by decide)]
  · simp [isBlank]
  · simp [isBlank]

theorem key_keyText (h : KeyText name key) (hg : Gap gap) (rest : List Char) :
    Toml.key (key ++ (gap ++ '=' :: rest)) = some (⟨[], name⟩, '=' :: rest) := by
  have hname : simpleKey (key ++ (gap ++ '=' :: rest)) = some (name, gap ++ '=' :: rest) := by
    refine simpleKey_keyText h ?_
    intro c hc
    cases gap with
    | nil =>
      cases hc
      decide
    | cons d gap =>
      cases hc
      have hblank : c = ' ' ∨ c = '\t' := by simpa [isBlank] using hg c List.mem_cons_self
      rcases hblank with rfl | rfl <;> decide
  obtain ⟨c, ds, rfl, hblank, -⟩ := h.opens
  rw [List.cons_append] at hname ⊢
  rw [Toml.key, keyFrom, skipBlank_cons hblank, hname]
  simp only [Option.bind_eq_bind, Option.bind_some, skipBlank_append hg,
    skipBlank_cons (show isBlank '=' = false by decide)]
  rfl

theorem pairLine_row (hk : KeyText name key) {before : List Char} (hb : Gap before)
    (hg : Gap gap) (hv : ReadsAs v cs) (ha : Ends after rest) :
    pairLine (key ++ (before ++ '=' :: (gap ++ (cs ++ after)))) =
      some ((⟨[], name⟩, v), after) := by
  have hread := hv after rest (2 * (gap ++ (cs ++ after)).length + 2) ha (by simp; omega)
  rw [pairLine, key_keyText hk hb]
  simp only [skipBlank_append hg, hread]
  rfl

theorem lines_row (hk : KeyText name key) {indent before : List Char} (hi : Gap indent)
    (hb : Gap before) (hg : Gap gap) (hv : ReadsAs v cs) (ha : Ends after rest) (n : Nat) :
    lines (n + 1) (indent ++ (key ++ (before ++ '=' :: (gap ++ (cs ++ after))))) =
      (lines n rest).map fun ls => .pair (⟨[], name⟩, v) :: ls := by
  have hpair := pairLine_row hk hb hg hv ha
  obtain ⟨c, ds, rfl, hblank, hc⟩ := hk.opens
  rw [List.cons_append] at hpair ⊢
  rw [lines, skipBlank_append hi, skipBlank_cons hblank]
  split
  · rename_i heq
    cases heq
  · rename_i heq
    exact absurd (List.cons.inj heq).1 (hc '#' (by decide))
  · rename_i heq
    exact absurd (List.cons.inj heq).1 (hc '\n' (by decide))
  · rename_i heq
    exact absurd (List.cons.inj heq).1 (hc '\r' (by decide))
  · rename_i heq
    exact absurd (List.cons.inj heq).1 (hc '[' (by decide))
  · rw [hpair]
    simp only [Option.bind_eq_bind, Option.bind_some, trailing_of_ends ha]
    cases lines n rest <;> rfl

/-! ## Documents -/

def Line.member (m : String × Node) : Line := .pair (⟨[], m.1⟩, m.2)

def RowsRead (rows : List (String × List Char)) (ms : Members) : Prop :=
  List.Forall₂ (fun row m => m.1 = row.1 ∧ ReadsAs m.2 row.2) rows ms

variable {rows : List (String × List Char)} {ms ms' done : Members}

theorem RowsRead.names (h : RowsRead rows ms) : rows.map (·.1) = ms.map (·.1) := by
  induction h with
  | nil => rfl
  | cons hrow _ ih => rw [List.map_cons, List.map_cons, hrow.1, ih]

theorem exists_rowsRead (h : ∀ row ∈ rows, ∃ v, ReadsAs v row.2) : ∃ ms, RowsRead rows ms := by
  induction rows with
  | nil => exact ⟨[], .nil⟩
  | cons row rows ih =>
    obtain ⟨⟨v, hv⟩, hvs⟩ := List.forall_mem_cons.mp h
    obtain ⟨ms, hms⟩ := ih hvs
    exact ⟨(row.1, v) :: ms, .cons ⟨rfl, hv⟩ hms⟩

theorem lines_lays (h : Lays rows cs) (hr : RowsRead rows ms) (hn : cs.length < n) :
    lines n cs = some (ms.map .member) := by
  induction h generalizing ms n with
  | done =>
    cases hr
    obtain ⟨n, rfl⟩ : ∃ m, n = m + 1 := ⟨n - 1, by omega⟩
    rfl
  | empty he _ ih => exact lines_of_ends he hn fun m hm => ih hr hm
  | @row name value rows indent key before gap after rest hi hk hb hg he _ ih =>
    cases hr with
    | cons hm hms =>
      obtain ⟨rfl, hv⟩ := hm
      obtain ⟨n, rfl⟩ : ∃ m, n = m + 1 := ⟨n - 1, by omega⟩
      have hlen : rest.length ≤ after.length :=
        he.length_lt.elim Nat.le_of_lt fun hrest => by simp [hrest]
      simp only [List.length_append, List.length_cons] at hn
      rw [lines_row hk hi hb hg hv he, ih hms (by omega)]
      rfl

theorem ofLines_member (ms : Members) :
    Document.ofLines (ms.map .member) = ⟨ms.map fun m => (⟨[], m.1⟩, m.2), []⟩ := by
  induction ms with
  | nil => rfl
  | cons m ms ih => rw [List.map_cons, Line.member, Document.ofLines, ih, List.map_cons]

theorem rootOf_pairs (ps : List Pair) : rootOf ⟨ps, []⟩ = Members.addAll [] ps := by
  rw [rootOf]
  cases Members.addAll [] ps <;> rfl

theorem addAll_members_iff (h : done.Distinct) :
    done.addAll (ms.map fun m => (⟨[], m.1⟩, m.2)) = some ms' ↔
      ms' = done ++ ms ∧ (done ++ ms).Distinct := by
  induction ms generalizing done with
  | nil => simp [Members.addAll, h, eq_comm]
  | cons m ms ih =>
    have hlist : done ++ m :: ms = done ++ [m] ++ ms := by simp
    by_cases hm : m.1 ∈ done.map (·.1)
    · have hadd : done.addPair (⟨[], m.1⟩, m.2) = none := by
        cases hget : done.get? m.1 with
        | none => exact absurd hm (lookup_eq_none_iff.mp hget)
        | some n => simp only [Members.addPair, Members.add, hget]
      rw [Members.addAll, List.map_cons, List.foldlM_cons, hadd]
      refine ⟨fun h => absurd h (Option.some_ne_none _).symm, fun h => ?_⟩
      have hd := h.2
      rw [Members.Distinct, List.map_append] at hd
      exact absurd List.mem_cons_self (List.disjoint_of_nodup_append hd hm)
    · have hadd : done.addPair (⟨[], m.1⟩, m.2) = some (done ++ [m]) := by
        have hget : done.get? m.1 = none := lookup_eq_none_iff.mpr hm
        simp only [Members.addPair, Members.add, hget]
      rw [Members.addAll, List.map_cons, List.foldlM_cons, hadd, hlist]
      exact ih (h.addPair hadd)

theorem exists_lays (rows : List (String × List Char)) : ∃ cs, Lays rows cs := by
  have hgap : Gap [] := fun _ h => (List.not_mem_nil h).elim
  induction rows with
  | nil => exact ⟨[], .done⟩
  | cons row rows ih =>
    obtain ⟨rest, hrest⟩ := ih
    obtain ⟨key, hkey⟩ := exists_basicString row.1
    exact ⟨_, .row hgap (.basic hkey) hgap hgap (.line (.blank hgap) (Or.inl rfl)) hrest⟩

theorem Lays.head (h : Lays rows cs) : cs.head? ≠ some '\uFEFF' := by
  intro hc
  cases h with
  | done => cases hc
  | empty he => exact absurd (he.head _ hc) (by decide)
  | @row name value rows indent key before gap after rest hi hk =>
    cases indent with
    | nil =>
      obtain ⟨c, cs, rfl, -, hno⟩ := hk.opens
      exact hno '\uFEFF' (by decide) (Option.some.inj hc)
    | cons c indent =>
      have hb : isBlank c := hi c List.mem_cons_self
      rw [Option.some.inj hc] at hb
      exact absurd hb (by decide)

theorem read_lays_iff {text : String} (h : Lays rows text.toList) (hr : RowsRead rows ms) :
    read text = some ms' ↔ ms' = ms ∧ ms.Distinct := by
  have hdocument : Document.read text = some ⟨ms.map fun m => (⟨[], m.1⟩, m.2), []⟩ := by
    rw [Document.read]
    split
    · rename_i cs hcs
      exact absurd (by rw [hcs]; rfl) h.head
    · rw [lines_lays h hr (Nat.lt_succ_self _), Option.map_some, ofLines_member]
  have hread : read text = rootOf ⟨ms.map fun m => (⟨[], m.1⟩, m.2), []⟩ := by
    rw [read, hdocument]
    rfl
  rw [hread, rootOf_pairs, addAll_members_iff Members.distinct_nil, List.nil_append]

end TreeTool.Toml
