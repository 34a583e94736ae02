import TreeTool.Proofs.EnvironmentFile
import TreeTool.Proofs.Text.Cutting
import TreeTool.Proofs.Text.Utf8

/-!
# Plain environment files

A plain file has comments, empty lines, and lines with a name, an equals sign and a value that
stands for itself: without blanks and marks that mean something, or between single quotes. It gives
these names their values, in any environment.
-/

namespace TreeTool.EnvironmentFile

open Text (Bytes)

/-! ## Plain lines -/

def marks : List Char := ['\\', '"', '\'', '$', '#']

def IsBare (c : Char) : Prop := Text.isBlank c = false ∧ c ∉ marks

instance : DecidablePred IsBare := fun c =>
  inferInstanceAs (Decidable (Text.isBlank c = false ∧ c ∉ marks))

def IsQuotable (c : Char) : Prop := c ∉ ['\'', '\\', '\n']

structure IsName (cs : List Char) : Prop where
  starts : ∃ c ∈ cs.head?, startsName c
  continues : ∀ c ∈ cs, continuesName c

/-- A line, without its end, and the entry that it has, if any. -/
inductive PlainLine : List Char → List (String × String) → Prop
  | empty : PlainLine [] []
  | comment {cs : List Char} (h : '\n' ∉ cs) : PlainLine ('#' :: cs) []
  | bare {name value : String} (hn : IsName name.toList) (hv : ∀ c ∈ value.toList, IsBare c) :
    PlainLine (name.toList ++ '=' :: value.toList) [(name, value)]
  | quoted {name value : String} (hn : IsName name.toList)
      (hv : ∀ c ∈ value.toList, IsQuotable c) :
    PlainLine (name.toList ++ '=' :: ('\'' :: value.toList ++ ['\''])) [(name, value)]

inductive PlainText : List Char → List (String × String) → Prop
  | nil : PlainText [] []
  | line {cs rest : List Char} {es es' : List (String × String)} (h : PlainLine cs es)
      (ht : PlainText rest es') : PlainText (cs ++ '\n' :: rest) (es ++ es')

/-- A plain file with its entries. -/
def Plain (content : Bytes) (es : List (String × String)) : Prop :=
  ∃ text, PlainText text es ∧ content = Text.Utf8.encode text

variable {cs rest value : List Char} {es : List (String × String)} {q : Quoting}
  {lookup : String → String}

/-! ## From bytes to lines -/

theorem small_or_high {b : UInt8} {bs : Bytes} (h : Text.Utf8.Encoded b bs) :
    b.toNat < 0x80 ∧ bs = [] ∨ ∀ x ∈ b :: bs, 0x80 ≤ x.toNat := by
  cases h with
  | one hb => exact Or.inl ⟨hb, rfl⟩
  | two hb _ hx =>
    right
    simp only [List.forall_mem_cons, List.not_mem_nil, false_implies, implies_true, and_true]
    exact ⟨by omega, hx.1⟩
  | three hb _ hx hy =>
    right
    simp only [List.forall_mem_cons, List.not_mem_nil, false_implies, implies_true, and_true]
    exact ⟨by omega, hx.trails.1, hy.1⟩
  | four hb _ hx hy hz =>
    right
    simp only [List.forall_mem_cons, List.not_mem_nil, false_implies, implies_true, and_true]
    exact ⟨by omega, hx.trails.1, hy.1, hz.1⟩

theorem newline_not_mem_encodeChar {c : Char} (h : c ≠ '\n') :
    newline ∉ String.utf8EncodeChar c := by
  obtain ⟨b, bs, hc, he, hs⟩ := Text.Utf8.exists_encoded c
  intro hm
  rw [hc] at hm
  rcases small_or_high he with ⟨hb, rfl⟩ | hhigh
  · obtain rfl := List.mem_singleton.mp hm
    rw [Text.Utf8.scalar_one hb] at hs
    exact h hs.symm
  · exact absurd (hhigh _ hm) (by decide)

theorem newline_not_mem_encode (h : '\n' ∉ cs) : newline ∉ Text.Utf8.encode cs := by
  intro hm
  obtain ⟨c, hc, hm⟩ := List.mem_flatMap.mp hm
  exact newline_not_mem_encodeChar (fun hn => h (hn ▸ hc)) hm

theorem physicalLines_append {bs : Bytes} (h : newline ∉ bs) (rest : Bytes) :
    physicalLines (bs ++ newline :: rest) = (bs ++ [newline]) :: physicalLines rest := by
  induction bs with
  | nil => simp [physicalLines]
  | cons b bs ih =>
    obtain ⟨hb, hbs⟩ := List.ne_and_not_mem_of_not_mem_cons h
    rw [List.cons_append, physicalLines, if_neg hb.symm, ih hbs]
    rfl

theorem encode_line (cs rest : List Char) : Text.Utf8.encode (cs ++ '\n' :: rest) =
    Text.Utf8.encode cs ++ newline :: Text.Utf8.encode rest := by
  rw [Text.Utf8.encode, List.flatMap_append, List.flatMap_cons]
  rfl

theorem readable_line (h : '\n' ∉ cs) (rest : List Char) :
    readable (physicalLines (Text.Utf8.encode (cs ++ '\n' :: rest))) =
      (cs ++ ['\n']) :: readable (physicalLines (Text.Utf8.encode rest)) := by
  have hl : Text.Utf8.strict (Text.Utf8.encode cs ++ [newline]) = some (cs ++ ['\n']) := by
    rw [← Text.Utf8.strict_encode, encode_line]
    rfl
  rw [encode_line, physicalLines_append (newline_not_mem_encode h), readable, hl]

/-! ## Where a line ends -/

theorem scan_append (hq : q ≠ .blank) (h : ∀ c ∈ cs, q.step c = q) (before rest : List Char) :
    scan q before (cs ++ rest) = scan q (cs.reverse ++ before) rest := by
  induction cs generalizing before with
  | nil => rfl
  | cons c cs ih =>
    rw [List.forall_mem_cons] at h
    rw [List.cons_append, scan, if_neg (fun hb => hq hb.1), h.1, ih h.2]
    simp

theorem bare_step {c : Char} (h : IsBare c) : Quoting.bare.step c = .bare := by
  obtain ⟨hb, hm⟩ := h
  simp only [marks, List.mem_cons, List.not_mem_nil, or_false, not_or] at hm
  simp [Quoting.step, Quoting.opening, hb, hm.1, hm.2.1, hm.2.2.1]

theorem strong_step {c : Char} (h : IsQuotable c) : Quoting.strong.step c = .strong := by
  simp only [IsQuotable, List.mem_cons, List.not_mem_nil, or_false, not_or] at h
  simp [Quoting.step, h.1, h.2.1]

theorem isBare_of_continuesName {c : Char} (h : continuesName c) : IsBare c := by
  have hn : 0x2E ≤ c.toNat ∧ c.toNat ≤ 0x7A ∧ c.toNat ≠ 0x5C := by
    simp only [continuesName, startsName, isLetter, Number.isDigit, Number.isDigitOf,
      Number.digitValue, Bool.or_eq_true, Bool.and_eq_true, decide_eq_true_eq] at h
    have hle (a b : Char) : a ≤ b ↔ a.toNat ≤ b.toNat := Iff.rfl
    simp only [hle, Char.reduceToNat] at h
    rcases h with (((h | h) | rfl) | h) | rfl
    · omega
    · omega
    · decide
    · have h := of_decide_eq_true h
      split_ifs at h <;> omega
    · decide
  refine ⟨by simp [Text.isBlank]; omega, ?_⟩
  simp only [marks, List.mem_cons, List.not_mem_nil, or_false, not_or]
  refine ⟨?_, ?_, ?_, ?_, ?_⟩ <;> rintro rfl <;> exact absurd hn (by decide)

theorem newline_not_mem_of_bare (h : ∀ c ∈ cs, IsBare c) : '\n' ∉ cs :=
  fun hm => absurd (h _ hm).1 (by decide)

theorem trimStart_of_head (h : ∀ c ∈ cs.head?, Text.isBlank c = false) :
    Text.trimStart cs = cs := by
  cases cs with
  | nil => rfl
  | cons c cs =>
    have hc : ¬ Text.isBlank c := by simp [h c rfl]
    exact List.dropWhile_cons_of_neg hc

theorem trim_of_ends (hh : ∀ c ∈ cs.head?, Text.isBlank c = false)
    (hl : ∀ c ∈ cs.getLast?, Text.isBlank c = false) : Text.trim cs = cs := by
  have hr : Text.trimStart cs.reverse = cs.reverse :=
    trimStart_of_head fun c hc => hl c (by rwa [← List.head?_reverse])
  rw [Text.trim, trimStart_of_head hh, Text.trimEnd]
  exact (congrArg List.reverse hr).trans cs.reverse_reverse

theorem withoutEnd_newline (h : '\r' ∉ cs.getLast?) : withoutEnd (cs ++ ['\n']) = cs := by
  rw [withoutEnd, List.reverse_append, List.reverse_singleton, List.singleton_append]
  split
  · rename_i r heq
    have hr : cs.reverse = '\r' :: r := (List.cons.inj heq).2
    rw [← List.head?_reverse, hr] at h
    exact absurd rfl h
  · rename_i heq
    rw [← (List.cons.inj heq).2, List.reverse_reverse]
  · rename_i h₁ h₂
    exact absurd rfl (h₂ _)

structure Whole (cs : List Char) : Prop where
  scan : scan .bare [] (cs ++ ['\n']) = .inl .bare
  ends : '\r' ∉ cs.getLast?
  starts : (Text.trimStart (cs ++ ['\n'])).head? ≠ some '#'

theorem logicalLines_whole (h : Whole cs) (ls : List (List Char)) :
    logicalLines [] .bare ((cs ++ ['\n']) :: ls) = some cs :: logicalLines [] .bare ls := by
  rw [logicalLines, List.nil_append, if_neg h.starts, h.scan, withoutEnd_newline h.ends]

theorem logicalLines_comment (cs : List Char) (ls : List (List Char)) :
    logicalLines [] .bare (('#' :: cs) :: ls) = some [] :: logicalLines [] .bare ls := by
  rw [logicalLines, List.nil_append, trimStart_of_head (by simp; decide)]
  exact if_pos rfl

/-! ## From lines to entries -/

theorem exists_finished (h : lookup "" = "") (output : List Char) :
    ∃ r, finished lookup { output } = some r ∧ r.output = output := by
  refine ⟨_, rfl, ?_⟩
  show output ++ (lookup (String.ofList [])).toList = output
  rw [show String.ofList [] = "" from rfl, h, String.toList_empty, List.append_nil]

theorem exists_valueFrom_bare (h : lookup "" = "") (hv : ∀ c ∈ value, IsBare c)
    (output : List Char) :
    ∃ r, valueFrom lookup { output } value = some r ∧ r.output = output ++ value := by
  induction value generalizing output with
  | nil =>
    obtain ⟨r, hr, ho⟩ := exists_finished h output
    exact ⟨r, hr, ho.trans (List.append_nil _).symm⟩
  | cons c cs ih =>
    obtain ⟨⟨hb, hm⟩, hv⟩ := List.forall_mem_cons.mp hv
    have hspace : c ≠ ' ' := by rintro rfl; exact absurd hb (by decide)
    have htab : c ≠ '\t' := by rintro rfl; exact absurd hb (by decide)
    simp only [marks, List.mem_cons, List.not_mem_nil, or_false, not_or] at hm
    have hstep : valueFrom lookup { output } (c :: cs) =
        valueFrom lookup { output := output ++ [c] } cs := by
      simp [valueFrom, Reading.push, hm, hspace, htab]
    obtain ⟨r, hr, ho⟩ := ih hv (output ++ [c])
    exact ⟨r, hstep.trans hr, by rw [ho, List.append_assoc]; rfl⟩

theorem exists_valueFrom_strong (h : lookup "" = "") (hv : ∀ c ∈ value, IsQuotable c)
    (output : List Char) :
    ∃ r, valueFrom lookup { output, strong := true } (value ++ ['\'']) = some r ∧
      r.output = output ++ value := by
  induction value generalizing output with
  | nil =>
    obtain ⟨r, hr, ho⟩ := exists_finished h output
    exact ⟨r, hr, ho.trans (List.append_nil _).symm⟩
  | cons c cs ih =>
    obtain ⟨hc, hv⟩ := List.forall_mem_cons.mp hv
    simp only [IsQuotable, List.mem_cons, List.not_mem_nil, or_false, not_or] at hc
    have hstep : valueFrom lookup { output, strong := true } (c :: cs ++ ['\'']) =
        valueFrom lookup { output := output ++ [c], strong := true } (cs ++ ['\'']) := by
      simp [valueFrom, Reading.push, hc.1]
    obtain ⟨r, hr, ho⟩ := ih hv (output ++ [c])
    exact ⟨r, hstep.trans hr, by rw [ho, List.append_assoc]; rfl⟩

theorem exists_valueFrom_quoted (h : lookup "" = "") (hv : ∀ c ∈ value, IsQuotable c) :
    ∃ r, valueFrom lookup {} ('\'' :: value ++ ['\'']) = some r ∧ r.output = value :=
  exists_valueFrom_strong h hv []

theorem IsName.head? {name : List Char} (hn : IsName name) (rest : List Char) :
    ∃ c, (name ++ rest).head? = some c ∧ startsName c := by
  obtain ⟨c, hc, hs⟩ := hn.starts
  exact ⟨c, by rw [List.head?_append, Option.mem_def.mp hc, Option.some_or], hs⟩

theorem IsName.binding? {name : List Char} (hn : IsName name) (rest : List Char) :
    binding? (name ++ '=' :: rest) = some (name, rest) := by
  have hspan := Text.span_append (b := '=' :: rest) hn.continues (by rintro c ⟨rfl⟩; decide)
  obtain ⟨c, hc, hs⟩ := hn.head? ('=' :: rest)
  have hname : name? (name ++ '=' :: rest) = some (name, '=' :: rest) := by
    rw [name?, hc, Option.any_some, if_pos hs, hspan.1, hspan.2]
  have hstart : Text.trimStart ('=' :: rest) = '=' :: rest :=
    trimStart_of_head (by rintro c ⟨rfl⟩; decide)
  simp [EnvironmentFile.binding?, hname, hstart]

theorem value_empty (k : Known) : k.value "" = "" := rfl

structure Denotes (lookup : String → String) (rest value : List Char) : Prop where
  starts : ∀ c ∈ rest.head?, Text.isBlank c = false ∧ c ≠ '#'
  ends : ∀ c ∈ rest.getLast?, Text.isBlank c = false
  read : ∃ r, valueFrom lookup {} rest = some r ∧ r.output = value
  nothing : rest = [] → value = []

theorem denotes_bare (h : lookup "" = "") (hv : ∀ c ∈ value, IsBare c) :
    Denotes lookup value value where
  starts c hc := by
    obtain ⟨hb, hm⟩ := hv c (List.mem_of_mem_head? hc)
    exact ⟨hb, by rintro rfl; exact absurd hm (by decide)⟩
  ends c hc := (hv c (List.mem_of_mem_getLast? hc)).1
  read := exists_valueFrom_bare h hv []
  nothing := id

theorem denotes_quoted (h : lookup "" = "") (hv : ∀ c ∈ value, IsQuotable c) :
    Denotes lookup ('\'' :: value ++ ['\'']) value where
  starts := by
    rintro c ⟨rfl⟩
    decide
  ends c hc := by
    rw [List.getLast?_concat] at hc
    cases hc
    decide
  read := exists_valueFrom_quoted h hv
  nothing h := absurd h (by simp)

theorem solid_end {name : List Char} (hl : ∀ c ∈ rest.getLast?, Text.isBlank c = false) :
    ∀ c ∈ (name ++ '=' :: rest).getLast?, Text.isBlank c = false := by
  intro c hc
  rw [List.getLast?_append_of_ne_nil _ (List.cons_ne_nil _ _), List.getLast?_cons] at hc
  cases hr : rest.getLast? with
  | none =>
    rw [hr] at hc
    cases hc
    decide
  | some d =>
    rw [hr] at hc
    cases hc
    exact hl d hr

theorem trim_binding {name : List Char} (hn : IsName name)
    (hl : ∀ c ∈ rest.getLast?, Text.isBlank c = false) :
    Text.trim (name ++ '=' :: rest) = name ++ '=' :: rest := by
  refine trim_of_ends (fun c hc => ?_) (solid_end hl)
  obtain ⟨d, hd, hs⟩ := hn.head? ('=' :: rest)
  obtain rfl : d = c := Option.some.inj (hd.symm.trans hc)
  exact (isBare_of_continuesName (by simp [continuesName, hs])).1

theorem entry?_of_denotes {name : List Char} (hn : IsName name) {k : Known}
    (h : Denotes k.value rest value) :
    entry? k (name ++ '=' :: rest) = some (some (String.ofList name, String.ofList value)) := by
  have hsharp : (name ++ '=' :: rest).head? ≠ some '#' := by
    obtain ⟨c, hc, hs⟩ := hn.head? ('=' :: rest)
    rw [hc]
    rintro ⟨rfl⟩
    exact absurd hs (by decide)
  have hcond : ((name ++ '=' :: rest).isEmpty ||
      decide ((name ++ '=' :: rest).head? = some '#')) = false := by
    simp only [hsharp]
    simp
  have hrest : Text.trimStart rest = rest := trimStart_of_head fun c hc => (h.starts c hc).1
  have hmark : rest.head? ≠ some '#' := fun hs => (h.starts _ hs).2 rfl
  obtain ⟨r, hr, ho⟩ := h.read
  simp only [ entry?, trim_binding hn h.ends, hcond, hn.binding?, hrest, Bool.false_eq_true,
    if_false, Option.bind_eq_bind, Option.bind_some]
  by_cases hnil : rest = []
  · rw [if_pos (by simp [hnil]), h.nothing hnil]
    rfl
  · rw [if_neg (by simp [hnil, hmark]), hr, ← ho]
    rfl

/-! ## Plain files -/

theorem scan_bare (h : ∀ c ∈ cs, IsBare c) (before rest : List Char) :
    scan .bare before (cs ++ rest) = scan .bare (cs.reverse ++ before) rest :=
  scan_append (by decide) (fun c hc => bare_step (h c hc)) before rest

theorem bare_equals : IsBare '=' := by decide

theorem scan_name {name : List Char} (hn : IsName name) (rest : List Char) :
    ∃ before, scan .bare [] (name ++ '=' :: rest) = scan .bare before rest := by
  refine ⟨'=' :: name.reverse, ?_⟩
  have h : ∀ c ∈ name ++ ['='], IsBare c := by
    simp only [List.mem_append, List.mem_singleton]
    rintro c (hc | rfl)
    · exact isBare_of_continuesName (hn.continues c hc)
    · exact bare_equals
  rw [← List.singleton_append, ← List.append_assoc, scan_bare h]
  simp

theorem starts_of_name {name : List Char} (hn : IsName name) (rest : List Char) :
    (Text.trimStart (name ++ rest)).head? ≠ some '#' := by
  obtain ⟨c, hc, hs⟩ := hn.head? rest
  have hb : ∀ d ∈ (name ++ rest).head?, Text.isBlank d = false := by
    intro d hd
    obtain rfl : c = d := Option.some.inj (hc.symm.trans hd)
    exact (isBare_of_continuesName (by simp [continuesName, hs])).1
  rw [trimStart_of_head hb, hc]
  rintro ⟨rfl⟩
  exact absurd hs (by decide)

theorem whole_of_scan {name : List Char} (hn : IsName name)
    (hs : ∀ before, scan .bare before (rest ++ ['\n']) = .inl .bare)
    (hl : ∀ c ∈ rest.getLast?, Text.isBlank c = false) : Whole (name ++ '=' :: rest) where
  scan := by
    obtain ⟨before, hb⟩ := scan_name hn (rest ++ ['\n'])
    rw [List.append_assoc, List.cons_append, hb, hs]
  ends h := absurd (solid_end hl _ h) (by decide)
  starts := by
    rw [List.append_assoc]
    exact starts_of_name hn _

theorem scan_quoted (hv : ∀ c ∈ value, IsQuotable c) (before : List Char) :
    scan .bare before ('\'' :: value ++ ['\''] ++ ['\n']) = .inl .bare := by
  have hstep := scan_append (q := .strong) (by decide) (fun c hc => strong_step (hv c hc))
    ('\'' :: before) ['\'', '\n']
  have hfirst : scan .bare before ('\'' :: (value ++ ['\'', '\n'])) =
      scan .strong ('\'' :: before) (value ++ ['\'', '\n']) := rfl
  rw [List.append_assoc, List.cons_append]
  exact (hfirst.trans hstep).trans rfl

theorem newline_not_mem_line (h : PlainLine cs es) : '\n' ∉ cs := by
  have hbinding {name rest : List Char} (hn : IsName name) (hr : '\n' ∉ rest) :
      '\n' ∉ name ++ '=' :: rest := by
    have hname := newline_not_mem_of_bare fun c hc => isBare_of_continuesName (hn.continues c hc)
    simp [hname, hr]
  cases h with
  | empty => exact List.not_mem_nil
  | comment h => simpa using h
  | bare hn hv => exact hbinding hn (newline_not_mem_of_bare hv)
  | quoted hn hv =>
    refine hbinding hn ?_
    have hvalue : '\n' ∉ _ := fun hm => hv _ hm (by decide)
    simp [hvalue]

theorem entriesOf_line (h : PlainLine cs es) (k : Known) (ls : List (List Char)) :
    ∃ k', entriesOf k (logicalLines [] .bare ((cs ++ ['\n']) :: ls)) =
      es ++ entriesOf k' (logicalLines [] .bare ls) := by
  have hbinding {name : String} {rest value : List Char} (hn : IsName name.toList)
      (hw : Whole (name.toList ++ '=' :: rest)) (hd : Denotes k.value rest value) :
      ∃ k', entriesOf k (logicalLines [] .bare ((name.toList ++ '=' :: rest ++ ['\n']) :: ls)) =
        [(name, String.ofList value)] ++ entriesOf k' (logicalLines [] .bare ls) := by
    rw [logicalLines_whole hw, entriesOf, entry?_of_denotes hn hd, String.ofList_toList]
    exact ⟨_, rfl⟩
  have hnothing : entry? k [] = some none := rfl
  cases h with
  | empty =>
    have hw : Whole [] := ⟨rfl, by simp, by decide⟩
    refine ⟨k, ?_⟩
    rw [logicalLines_whole hw, entriesOf, hnothing]
    rfl
  | comment h =>
    refine ⟨k, ?_⟩
    rw [List.cons_append, logicalLines_comment, entriesOf, hnothing]
    rfl
  | @bare name value hn hv =>
    have hd := denotes_bare (value_empty k) hv
    have hs (before : List Char) : scan .bare before (value.toList ++ ['\n']) = .inl .bare := by
      rw [scan_bare hv]
      rfl
    obtain ⟨k', hk⟩ := hbinding hn (whole_of_scan hn hs hd.ends) hd
    exact ⟨k', by rw [hk, String.ofList_toList]⟩
  | @quoted name value hn hv =>
    have hd := denotes_quoted (value_empty k) hv
    obtain ⟨k', hk⟩ := hbinding hn (whole_of_scan hn (scan_quoted hv) hd.ends) hd
    exact ⟨k', by rw [hk, String.ofList_toList]⟩

theorem entriesOf_text {text : List Char} (h : PlainText text es) (k : Known) :
    entriesOf k (logicalLines [] .bare (readable (physicalLines (Text.Utf8.encode text)))) =
      es := by
  induction h generalizing k with
  | nil => rfl
  | line h ht ih =>
    obtain ⟨k', hk⟩ := entriesOf_line h k _
    rw [readable_line (newline_not_mem_line h), hk, ih]

theorem withoutMark_line (h : PlainLine cs es) (ls : List (List Char)) :
    withoutMark ((cs ++ ['\n']) :: ls) = (cs ++ ['\n']) :: ls := by
  have hname {name : List Char} (hn : IsName name) (rest : List Char) :
      withoutMark ((name ++ rest) :: ls) = (name ++ rest) :: ls := by
    obtain ⟨c, hc, hs⟩ := hn.head? rest
    unfold withoutMark
    split
    · rename_i l ls' heq
      rw [(List.cons.inj heq).1, List.head?_cons, Option.some.injEq] at hc
      subst hc
      exact absurd hs (by decide)
    · rfl
  cases h with
  | empty => rfl
  | comment h => rfl
  | bare hn hv =>
    rw [List.append_assoc]
    exact hname hn _
  | quoted hn hv =>
    rw [List.append_assoc]
    exact hname hn _

theorem entriesIn_of_plain {content : Bytes} (h : Plain content es) (e : Environment) :
    entriesIn e content = es := by
  obtain ⟨text, ht, rfl⟩ := h
  have hmark : withoutMark (readable (physicalLines (Text.Utf8.encode text))) =
      readable (physicalLines (Text.Utf8.encode text)) := by
    cases ht with
    | nil => rfl
    | line h _ => rw [readable_line (newline_not_mem_line h), withoutMark_line h]
  rw [entriesIn, lines, hmark, entriesOf_text ht]

/-- What a machine's files supply: the entries of the environment file of its directory. -/
structure Supplies (m : Machine) (es : List (String × String)) : Prop where
  nothing : (∀ content, ¬ Nearest m.files m.here content) → es = []
  nearest : ∀ content, Nearest m.files m.here content → es = entriesIn m.environment content
  plain : ∀ content bindings, Nearest m.files m.here content → Plain content bindings →
    es = bindings

theorem supplies_entries (m : Machine) : Supplies m (entries m) where
  nothing := entries_of_not_nearest
  nearest _ h := entries_of_nearest h
  plain _ _ h hp := (entries_of_nearest h).trans (entriesIn_of_plain hp m.environment)

end TreeTool.EnvironmentFile
