import TreeTool.Proofs.CommandLine.Sayings

/-!
# The layout of a command line

A command line is laid out from words of options, values, operands and the name of the operation, in
a judgement on its words alone. Each step of a reader keeps what has been read so far laid out, and
what is laid out is read back; the two meet in the options that are given and the operands.
-/

namespace TreeTool.CommandLine

open Progress (Takable)

def sideOf : Option Operation → Side
  | none => outerSide
  | some op => innerSide op

/-- The words of a command line up to two dashes, from one side of the name of the operation to the
same or the other one: the options that they give, and the operands. -/
inductive Lays : Option Operation → List String → Option Operation → List Given →
    List String → Prop
  | done (op? : Option Operation) : Lays op? [] op? [] []
  | word {op? op?' : Option Operation} {a : String} {w : Saying} {as : List String}
    {gs : List Given} {os : List String} :
    (sideOf op?).word? a = some w → w.awaited = none → Lays op? as op?' gs os →
    Lays op? (a :: as) op?' (w.given ++ gs) os
  | apart {op? op?' : Option Operation} {a v : String} {w : Saying} {k : Setting}
    {as : List String} {gs : List Given} {os : List String} :
    (sideOf op?).word? a = some w → w.awaited = some k → Plain v → Lays op? as op?' gs os →
    Lays op? (a :: v :: as) op?' (w.given ++ k.given v :: gs) os
  | operand {op : Operation} {op?' : Option Operation} {a : String} {as : List String}
    {gs : List Given} {os : List String} :
    Plain a → Lays (some op) as op?' gs os → Lays (some op) (a :: as) op?' gs (a :: os)
  | name {op : Operation} {op?' : Option Operation} {as : List String} {gs : List Given}
    {os : List String} :
    Lays (some op) as op?' gs os → Lays none (Coded.token op :: as) op?' gs os

/-- What may stand at the end: two dashes, and operands of any kind behind them. -/
inductive Closes : Bool → List String → List String → Prop
  | bare : Closes false [] []
  | dashes (os : List String) : Closes true ("--" :: os) os

section

variable {op? op?' op?'' : Option Operation} {ws ws' : List String} {gs gs' : List Given}
  {os os' : List String} {p q r : Progress} {a : String}

theorem Lays.append (h : Lays op? ws op?' gs os) (h' : Lays op?' ws' op?'' gs' os') :
    Lays op? (ws ++ ws') op?'' (gs ++ gs') (os ++ os') := by
  induction h with
  | done => exact h'
  | word hw hn _ ih =>
    rw [List.append_assoc]
    exact .word hw hn (ih h')
  | apart hw hk hv _ ih =>
    rw [List.append_assoc]
    exact .apart hw hk hv (ih h')
  | operand ha _ ih => exact .operand ha (ih h')
  | name _ ih => exact .name (ih h')

theorem Lays.inner {op : Operation} {op?' : Option Operation} {ws : List String}
    {gs : List Given} {os : List String} : Lays (some op) ws op?' gs os → op?' = some op
  | .done _ => rfl
  | .word _ _ h | .apart _ _ _ h | .operand _ h => h.inner

theorem Lays.outer {ws : List String} {gs : List Given} {os : List String} :
    Lays none ws none gs os → os = []
  | .done _ => rfl
  | .word _ _ h | .apart _ _ _ h => h.outer
  | .name h => nomatch h.inner

theorem Lays.exists_name {op : Operation} {ws : List String} {gs : List Given}
    {os : List String} : Lays none ws (some op) gs os →
    ∃ before after outer inner, ws = before ++ Coded.token op :: after ∧ gs = outer ++ inner ∧
      Lays none before none outer [] ∧ Lays (some op) after (some op) inner os
  | .word hw hk h => by
    obtain ⟨before, after, outer, inner, rfl, rfl, hb, ha⟩ := h.exists_name
    exact ⟨_, after, _, inner, (List.cons_append ..).symm, (List.append_assoc ..).symm,
      .word hw hk hb, ha⟩
  | .apart hw hk hv h => by
    obtain ⟨before, after, outer, inner, rfl, rfl, hb, ha⟩ := h.exists_name
    refine ⟨_, after, _, inner, ?_, ?_, .apart hw hk hv hb, ha⟩
    · simp
    · simp
  | .name h => by
    cases h.inner
    exact ⟨[], _, [], _, rfl, rfl, .done none, h⟩

theorem Lays.on {op? : Option Operation} {ws : List String} {gs : List Given}
    {os : List String} : Lays op? ws op? gs os →
    ∀ g ∈ gs, g.option ∈ (sideOf op?).options ∧ g.option ≠ .help
  | .done _ => by simp
  | .word hw _ h => List.forall_mem_append.mpr ⟨(Side.on_of_word? hw).given, h.on⟩
  | .apart hw hk _ h => by
    obtain ⟨hg, ha⟩ := Side.on_of_word? hw
    exact List.forall_mem_append.mpr ⟨hg, List.forall_mem_cons.mpr ⟨⟨ha _ hk, by simp⟩, h.on⟩⟩
  | .operand _ h => h.on
  | .name h => nomatch h.inner

def Laid (op? op?' : Option Operation) (ws : List String) (escaped : Bool) (gs : List Given)
    (os : List String) : Prop :=
  ∃ words rest os₁ os₂, ws = words ++ rest ∧ Lays op? words op?' gs os₁ ∧
    Closes escaped rest os₂ ∧ os = os₁ ++ os₂

theorem Laid.lays (h : Laid op? op?' ws false gs os) : Lays op? ws op?' gs os := by
  obtain ⟨words, rest, os₁, os₂, rfl, hl, hc, rfl⟩ := h
  cases hc
  rw [List.append_nil, List.append_nil]
  exact hl

theorem Lays.laid (h : Lays op? ws op?' gs os) : Laid op? op?' ws false gs os :=
  ⟨ws, [], os, [], (List.append_nil ws).symm, h, .bare, (List.append_nil os).symm⟩

/-! ## What has been read is laid out -/

structure Follows (op? : Option Operation) (ws : List String) (p : Progress) : Prop where
  distinct : p.Distinct
  settled : ∀ r, p.settle = .ok r → Laid op? op? ws p.escaped r.given r.operands
  awaiting : ∀ k, p.escaped = false → p.awaits = some k → ∃ words a gs w,
    ws = words ++ [a] ∧ Lays op? words op? gs p.operands ∧ (sideOf op?).word? a = some w ∧
      w.awaited = some k ∧ p.given = gs ++ w.given

theorem follows_empty (op? : Option Operation) : Follows op? [] {} where
  distinct := List.nodup_nil
  settled r h := by
    cases h
    exact (Lays.done op?).laid
  awaiting k _ h := nomatch h

theorem follows_settled (hp : p.pending = none) (hd : p.Distinct)
    (h : Laid op? op? ws p.escaped p.given p.operands) : Follows op? ws p where
  distinct := hd
  settled r hr := by
    rw [Progress.settle_of_no_pending hp] at hr
    cases hr
    exact h
  awaiting k _ hk := by simp [Progress.awaits, hp] at hk

theorem follows_says {w : Saying} (h : Laid op? op? ws r.escaped r.given r.operands)
    (he : r.escaped = false) (hw : (sideOf op?).word? a = some w) (hd : (r.say w).Distinct) :
    Follows op? (ws ++ [a]) (r.say w) := by
  rw [he] at h
  cases hk : w.awaited with
  | none =>
    have hl := h.lays.append (.word hw hk (.done op?))
    rw [List.append_nil, List.append_nil] at hl
    have hp : (r.say w).pending = none := by simp [Progress.say, hk]
    have he' : (r.say w).escaped = false := he
    exact follows_settled hp hd (he' ▸ hl.laid)
  | some k =>
    have hp : (r.say w).pending = some ⟨k, none⟩ := by simp [Progress.say, hk]
    refine ⟨hd, fun r' hr' => ?_, fun k' _ hk' => ?_⟩
    · simp [Progress.settle, hp] at hr'
    · obtain rfl : k = k' := by simpa [Progress.awaits, hp] using hk'
      exact ⟨ws, a, r.given, w, rfl, h.lays, hw, hk, rfl⟩

theorem Follows.value {k : Setting} (h : Follows op? ws p) (he : p.escaped = false)
    (hk : p.awaits = some k) (ha : Plain a) :
    Follows op? (ws ++ [a]) { p with pending := some ⟨k, some a⟩ } where
  distinct := h.distinct
  settled r hr := by
    obtain ⟨words, b, gs, w, rfl, hl, hw, hwk, hg⟩ := h.awaiting k he hk
    have hr := (Progress.giveSetting_eq_ok ((Progress.settle_of_pending rfl).symm.trans hr)).1
    have hl := hl.append (.apart hw hwk ha (.done op?))
    subst hr
    simp only [he, hg, List.append_assoc]
    rw [List.append_nil] at hl
    exact hl.laid
  awaiting k' _ hk' := by simp [Progress.awaits] at hk'

theorem Follows.operand (h : Follows op? ws p) (ha : p.escaped = false → Plain a)
    (ho : CommandLine.operand (sideOf op?) p a = .ok q) : Follows op? (ws ++ [a]) q := by
  obtain ⟨hlt, r, hr, rfl⟩ := Progress.settle_of_operand ho
  have he := (Progress.grows_settle hr).escaped
  have hl := h.settled r hr
  have hp : r.pending = none := Progress.pending_of_settle hr
  have hd : r.Distinct := Progress.distinct_of_settle h.distinct hr
  refine follows_settled hp hd ?_
  rw [← he] at ha hl
  cases hesc : r.escaped with
  | false =>
    rw [hesc] at hl
    cases op? with
    | none => simp [sideOf, outerSide] at hlt
    | some op =>
      have hl := hl.lays.append (.operand (ha hesc) (.done _))
      rw [List.append_nil] at hl
      simpa only [hesc] using hl.laid
  | true =>
    rw [hesc] at hl
    obtain ⟨words, rest, os₁, os₂, rfl, hl, hc, hos⟩ := hl
    cases hc
    refine ⟨words, _, os₁, os₂ ++ [a], List.append_assoc .., hl, ?_, ?_⟩
    · exact .dashes (os₂ ++ [a])
    · simp only [hos, List.append_assoc]

theorem Follows.escape (h : Follows op? ws p) (he : p.escaped = false) :
    Follows op? (ws ++ ["--"]) { p with escaped := true } where
  distinct := h.distinct
  settled r hr := by
    rw [Progress.settle_escape] at hr
    cases hs : p.settle with
    | error m => simp [hs, Except.map] at hr
    | ok r' =>
      have hl := h.settled r' hs
      rw [hs] at hr
      cases hr
      rw [he] at hl
      exact ⟨ws, ["--"], _, [], rfl, hl.lays, .dashes [], (List.append_nil _).symm⟩
  awaiting k he' _ := nomatch he'

theorem Follows.argument (h : Follows op? ws p) (he : p.escaped = false) (hd : a ≠ "--")
    (ha : CommandLine.argument (sideOf op?) p a = .ok q)
    (hh : Opt.help ∉ q.given.map (·.option)) : Follows op? (ws ++ [a]) q := by
  by_cases hplain : Plain a
  · rw [Progress.argument_plain hplain] at ha
    split at ha
    · rename_i k hk
      cases ha
      exact h.value he hk hplain
    · exact h.operand (fun _ => hplain) ha
  · obtain ⟨r, hr, ⟨w, hw, rfl⟩, hq⟩ := Progress.says_argument hplain hd h.distinct ha hh
    have her := (Progress.grows_settle hr).escaped
    exact follows_says (her ▸ h.settled r hr) (her.trans he) hw hq

theorem Takes.follows (h : Takes (sideOf op?) p ws' q) (hp : Follows op? ws p)
    (hh : Opt.help ∉ q.given.map (·.option)) : Follows op? (ws ++ ws') q := by
  induction h generalizing ws with
  | nil => rwa [List.append_nil]
  | @escape p q as he _ ih =>
    rw [← List.singleton_append, ← List.append_assoc]
    exact ih (hp.escape he) hh
  | @operand p q r a as he ho _ ih =>
    rw [← List.singleton_append, ← List.append_assoc]
    exact ih (hp.operand (by simp [he]) ho) hh
  | @argument p q r a as he hn ha ht ih =>
    rw [← List.singleton_append, ← List.append_assoc]
    exact ih (hp.argument he hn ha fun hm => hh (List.map_subset _ ht.given hm)) hh

end

section

variable {args : List String} {i : Invocation}

theorem Taken.follows {before after : List String} {outer inner : Progress}
    (h : Taken args i before after outer inner) :
    Follows none before outer ∧ Follows (some i.operation) after inner := by
  have hto : Takes (sideOf none) {} before outer := h.takes_outer
  have hti : Takes (sideOf (some i.operation)) {} after inner := h.takes_inner
  constructor
  · exact hto.follows (follows_empty none) h.no_help_outer
  · exact hti.follows (follows_empty _) h.no_help_inner

structure Invocation.Sound (i : Invocation) : Prop where
  outer_distinct : (i.outer.map (·.option)).Nodup
  inner_distinct : (i.inner.map (·.option)).Nodup
  outer_global : ∀ g ∈ i.outer, g.option ∈ globals

theorem laid_of_read (h : read args = .ok (.invocation i)) : i.Sound ∧
    ∃ escaped, Laid none (some i.operation) args escaped (i.outer ++ i.inner) i.operands := by
  obtain ⟨before, after, outer, inner, ht⟩ := exists_taken h
  obtain ⟨hout, hin⟩ := ht.follows
  obtain ⟨p, hp, ho⟩ := ht.finish_outer
  obtain ⟨q, hq, hi, hos⟩ := ht.finish_inner
  have hp := (Progress.settle_of_finish hp).1
  have hq := (Progress.settle_of_finish hq).1
  -- the outer side ends before two dashes, and has no operands
  have hlo : Laid none none before false p.given p.operands := ht.not_escaped ▸ hout.settled p hp
  have hlo : Lays none before none i.outer [] := by
    rw [ho, ← hlo.lays.outer]
    exact hlo.lays
  obtain ⟨words, rest, os₁, os₂, rfl, hli, hc, hqo⟩ := hin.settled q hq
  rw [← hi] at hli
  refine ⟨⟨?_, ?_, fun g hg => (hlo.on g hg).1⟩,
    inner.escaped, _, rest, os₁, os₂, ?_, hlo.append (.name hli), hc, hos.trans hqo⟩
  · exact ho ▸ Progress.distinct_of_settle hout.distinct hp
  · exact hi ▸ Progress.distinct_of_settle hin.distinct hq
  · rw [ht.line, List.append_assoc, List.cons_append]

end

/-! ## What is laid out is read -/

section

variable {side : Side} {op? op?' : Option Operation} {op : Operation} {p q : Progress}
  {ws args : List String} {gs : List Given} {os : List String} {a : String}

namespace Progress

def plus (p : Progress) (gs : List Given) (os : List String) : Progress :=
  { p with given := p.given ++ gs, operands := p.operands ++ os }

@[simp] theorem plus_nil (p : Progress) : p.plus [] [] = p := by simp [plus]

@[simp] theorem plus_plus (p : Progress) (gs gs' : List Given) (os os' : List String) :
    (p.plus gs os).plus gs' os' = p.plus (gs ++ gs') (os ++ os') := by
  simp [plus]

theorem settle_plus (hp : p.pending = none) (gs : List Given) (os : List String) :
    (p.plus gs os).settle = .ok (p.plus gs os) :=
  settle_of_no_pending hp

end Progress

/-- A reader that can take in what it has kept back, to come to `q`, and go on. -/
structure Reads (p q : Progress) : Prop where
  settled : p.settle = .ok q
  escaped : q.escaped = false
  no_help : ∀ g ∈ q.given, g.option ≠ .help

namespace Reads

theorem pending (h : Reads p q) : q.pending = none := Progress.pending_of_settle h.settled

theorem not_escaped (h : Reads p q) : p.escaped = false :=
  (Progress.grows_settle h.settled).escaped ▸ h.escaped

theorem help_not_mem (h : Reads p q) : Opt.help ∉ p.given.map (·.option) := by
  have hg := (Progress.grows_settle h.settled).given
  simpa using fun g hm => h.no_help g (hg hm)

theorem plus (h : Reads p q) (hg : ∀ g ∈ gs, g.option ≠ .help) (os : List String) :
    Reads (q.plus gs os) (q.plus gs os) where
  settled := Progress.settle_plus h.pending gs os
  escaped := h.escaped
  no_help := List.forall_mem_append.mpr ⟨h.no_help, hg⟩

theorem word {w : Saying} (h : Reads p q) (hw : side.word? a = some w)
    (ht : Takable q.given w.given) (as : List String) :
    readSide side p (a :: as) = readSide side (q.say w) as :=
  readSide_argument as h.not_escaped h.help_not_mem (Side.subcommand?_of_word? hw)
    (Progress.argument_of_word? h.settled hw ht)

theorem operand (h : Reads p q) (ha : Plain a) (ho : side.outer = false)
    (hl : q.operands.length < side.operands) (as : List String) :
    readSide side p (a :: as) = readSide side (q.plus [] [a]) as := by
  have hs : side.subcommand? a = none := by rw [Side.subcommand?, ho]; rfl
  have hop : argument side p a = .ok (q.plus [] [a]) := by
    rw [Progress.argument_plain ha, Progress.awaits_of_settle h.settled]
    simp only
    rw [CommandLine.operand, if_pos (Progress.operands_settle h.settled ▸ hl), h.settled]
    simp [bind, Except.bind, pure, Except.pure, Progress.plus]
  exact readSide_argument as h.not_escaped h.help_not_mem hs hop

theorem apart {w : Saying} {k : Setting} {v : String} (h : Reads p q)
    (hw : side.word? a = some w) (hk : w.awaited = some k) (hv : Plain v)
    (ht : Takable q.given (w.given ++ [k.given v])) (hh : ∀ g ∈ w.given, g.option ≠ .help) :
    ∃ r, Reads r (q.plus (w.given ++ [k.given v]) []) ∧
      ∀ as, readSide side p (a :: v :: as) = readSide side r as := by
  let r : Progress := { q.say w with pending := some ⟨k, some v⟩ }
  have hread (as : List String) : readSide side (q.say w) (v :: as) = readSide side r as := by
    have ha : (q.say w).awaits = some k := by simp [Progress.awaits, Progress.say, hk]
    have he : (q.say w).escaped = false := h.escaped
    have hm : Opt.help ∉ (q.say w).given.map (·.option) := by
      simpa [Progress.say] using And.intro h.no_help hh
    rw [readSide, Progress.argument_plain hv, he, ha]
    simp [hm, r, he]
  have hset : r.settle = .ok (q.plus (w.given ++ [k.given v]) []) := by
    rw [Progress.settle_of_pending rfl]
    have hg := Progress.giveSetting_of_takable (q := q.plus w.given []) ht.right
    simpa [r, Progress.say, Progress.plus, h.pending] using hg
  refine ⟨r, ⟨hset, h.escaped, ?_⟩, fun as => ?_⟩
  · refine List.forall_mem_append.mpr ⟨h.no_help, List.forall_mem_append.mpr ⟨hh, ?_⟩⟩
    simp
  · rw [h.word hw ht.left, hread]

end Reads

theorem readSide_lays (h : Lays op? ws op?' gs os) (hop : op?' = op?) (hr : Reads p q)
    (ht : Takable q.given gs) (hl : q.operands.length + os.length ≤ (sideOf op?).operands)
    (as : List String) :
    ∃ r, Reads r (q.plus gs os) ∧
      readSide (sideOf op?) p (ws ++ as) = readSide (sideOf op?) r as := by
  induction h generalizing p q with
  | done => exact ⟨p, by simpa using hr, rfl⟩
  | @word op? op?' a w ws gs os hw hk h ih =>
    have hh : ∀ g ∈ w.given, g.option ≠ .help := fun g hg => ((Side.on_of_word? hw).given g hg).2
    have hsay : q.say w = q.plus w.given [] := by
      simp [Progress.say, Progress.plus, hk, hr.pending]
    obtain ⟨r, hr', hread⟩ := ih hop (hr.plus hh []) ht.right (by simpa [Progress.plus] using hl)
    refine ⟨r, by simpa using hr', ?_⟩
    rw [List.cons_append, hr.word hw ht.left, hsay, hread]
  | @apart op? op?' a v w k ws gs os hw hk hv h ih =>
    have hh : ∀ g ∈ w.given, g.option ≠ .help := fun g hg => ((Side.on_of_word? hw).given g hg).2
    rw [List.append_cons] at ht
    obtain ⟨r, hr', hread⟩ := hr.apart hw hk hv ht.left hh
    obtain ⟨r', hr'', hread'⟩ := ih hop hr' ht.right (by simpa [Progress.plus] using hl)
    refine ⟨r', by simpa using hr'', ?_⟩
    rw [List.cons_append, List.cons_append, hread, hread']
  | @operand op op?' a ws gs os ha h ih =>
    have hlt : q.operands.length < (sideOf (some op)).operands := by
      rw [List.length_cons] at hl
      omega
    have hl' : (q.plus [] [a]).operands.length + os.length ≤ (sideOf (some op)).operands := by
      simpa [Progress.plus, Nat.add_assoc, Nat.add_comm 1] using hl
    obtain ⟨r, hr', hread⟩ := ih hop (hr.plus (by simp) [a]) (by simpa [Progress.plus] using ht) hl'
    refine ⟨r, by simpa using hr', ?_⟩
    rw [List.cons_append, hr.operand ha rfl hlt, hread]
  | name h _ =>
    rw [h.inner] at hop
    cases hop

/-- After two dashes a side is read to its end. The first operand settles what was kept back. -/
theorem readSide_escaped (hp : p.settle = .ok q) (he : p.escaped = true)
    (hl : q.operands.length + os.length ≤ side.operands) :
    ∃ r, readSide side p os = .ok (r, none) ∧ r.settle = .ok (q.plus [] os) := by
  cases os with
  | nil => exact ⟨p, rfl, by simpa using hp⟩
  | cons a os =>
    rw [List.length_cons] at hl
    have hpending : q.pending = none := Progress.pending_of_settle hp
    have hescaped : q.escaped = true := (Progress.grows_settle hp).escaped.trans he
    have ha : operand side p a =
        .ok { given := q.given, operands := q.operands ++ [a], escaped := true } := by
      rw [operand, if_pos (by rw [← Progress.operands_settle hp]; omega), hp]
      simp [bind, Except.bind, pure, Except.pure, hpending, hescaped]
    have hroom : (q.operands ++ [a]).length + os.length ≤ side.operands := by
      rw [List.length_append, List.length_singleton]
      omega
    refine ⟨q.plus [] (a :: os), ?_, Progress.settle_plus hpending [] (a :: os)⟩
    rw [readSide, he, if_pos rfl, ha]
    simpa [Progress.plus, hpending, hescaped] using readSide_operands hroom

theorem readSide_closes {rest : List String} {escaped : Bool} (h : Closes escaped rest os)
    (hr : Reads p q) (ho : side.outer = false)
    (hl : q.operands.length + os.length ≤ side.operands) :
    ∃ r, readSide side p rest = .ok (r, none) ∧
      r.settle = .ok { q.plus [] os with escaped } := by
  cases h with
  | bare =>
    refine ⟨p, rfl, ?_⟩
    rw [hr.settled, ← hr.escaped, Progress.plus_nil]
  | dashes os =>
    have hs : side.subcommand? "--" = none := by rw [Side.subcommand?, ho]; rfl
    have hset : Progress.settle { p with escaped := true } = .ok { q with escaped := true } := by
      rw [Progress.settle_escape, hr.settled]
      rfl
    obtain ⟨r, hread, hr'⟩ := readSide_escaped hset rfl hl
    refine ⟨r, ?_, hr'⟩
    rw [readSide_argument os hr.not_escaped hr.help_not_mem hs rfl, hread]

theorem reads_empty : Reads {} {} := ⟨rfl, rfl, by simp⟩

theorem readSide_before (op : Operation) (h : Lays none ws none gs []) (ht : Takable [] gs)
    (hc : ∀ a ∈ gs.map (·.option), ∀ b ∈ gs.map (·.option), excludes a b = false)
    (as : List String) :
    ∃ p, readSide outerSide {} (ws ++ Coded.token op :: as) = .ok (p, some (op, as)) ∧
      p.has .help = false ∧ finish outerSide p = .ok { given := gs } := by
  obtain ⟨p, hp, hread⟩ := readSide_lays h rfl reads_empty ht (Nat.zero_le _)
    (Coded.token op :: as)
  have hop : outerSide.subcommand? (Coded.token op) = some op := operation?_token op
  have hname : readSide outerSide p (Coded.token op :: as) = .ok (p, some (op, as)) := by
    rw [readSide, hp.not_escaped, Progress.awaits_of_settle hp.settled]
    simp [hop]
  exact ⟨p, hread.trans hname, by simpa [Progress.has] using hp.help_not_mem,
    finish_eq_ok hp.settled rfl hc⟩

theorem readSide_behind {rest : List String} {os' : List String} {escaped : Bool}
    (h : Lays (some op) ws (some op) gs os) (hrest : Closes escaped rest os')
    (ht : Takable [] gs)
    (hc : ∀ a ∈ gs.map (·.option), ∀ b ∈ gs.map (·.option), excludes a b = false)
    (hl : (os ++ os').length = op.arity) :
    ∃ q, readSide (innerSide op) {} (ws ++ rest) = .ok (q, none) ∧ q.has .help = false ∧
      finish (innerSide op) q = .ok { given := gs, operands := os ++ os', escaped } := by
  have hroom : (innerSide op).operands = op.arity := rfl
  have houter : (innerSide op).outer = false := rfl
  rw [List.length_append] at hl
  obtain ⟨p, hp, hread⟩ := readSide_lays h rfl reads_empty ht
    (show 0 + os.length ≤ (innerSide op).operands by omega) rest
  obtain ⟨q, hend, hq⟩ := readSide_closes hrest hp houter
    (show os.length + os'.length ≤ (innerSide op).operands by omega)
  have hq : q.settle = .ok { given := gs, operands := os ++ os', escaped } := by
    simpa [Progress.plus] using hq
  have hg : q.given ⊆ gs := (Progress.grows_settle hq).given
  refine ⟨q, hread.trans hend, ?_, finish_eq_ok hq (List.length_append.trans hl) hc⟩
  simpa [Progress.has] using fun g hm => (h.on g (hg hm)).2

theorem read_of_laid {escaped : Bool} (h : Laid none (some op) args escaped gs os)
    (ht : Takable [] gs)
    (hc : ∀ a ∈ gs.map (·.option), ∀ b ∈ gs.map (·.option), excludes a b = false)
    (hl : os.length = op.arity) :
    ∃ outer inner, gs = outer ++ inner ∧
      read args = .ok (.invocation ⟨outer, inner, op, os⟩) := by
  obtain ⟨words, rest, os₁, os₂, rfl, hw, hrest, rfl⟩ := h
  obtain ⟨before, after, outer, inner, rfl, rfl, hb, ha⟩ := hw.exists_name
  have houter : outer.map (·.option) ⊆ (outer ++ inner).map (·.option) :=
    List.map_subset _ (List.subset_append_left outer inner)
  have hinner : inner.map (·.option) ⊆ (outer ++ inner).map (·.option) :=
    List.map_subset _ (List.subset_append_right outer inner)
  obtain ⟨p, hout, hp, hfp⟩ := readSide_before op hb ht.left
    (fun a ha b hb => hc a (houter ha) b (houter hb)) (after ++ rest)
  obtain ⟨q, hin, hq, hfq⟩ := readSide_behind ha hrest
    (ht.sublist (List.sublist_append_right outer inner))
    (fun a ha b hb => hc a (hinner ha) b (hinner hb)) hl
  refine ⟨outer, inner, rfl, ?_⟩
  rw [List.append_assoc, List.cons_append, read, hout]
  simp [hp, hin, hq, hfp, hfq, bind, Except.bind, pure, Except.pure]

end

end TreeTool.CommandLine
