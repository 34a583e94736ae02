import Mathlib.Logic.Relation
import TreeTool.Proofs.CommandLine.Layout

/-!
# Where global options stand

A global option says the same on both sides of the name of the operation. So in a layout it can be
taken out with its value, and put in again at each place that does not part another option from its
value and is not behind two dashes: the options that are given come in another order, and perhaps on
another side, but they are the same. If each global option is given at most once, and not both
pruning switches, the order says nothing, and the command line is run in the same way.
-/

namespace TreeTool.CommandLine

open Progress (Takable)

/-! ## Global options on both sides -/

theorem named?_inner {name : String} {o : Opt} (h : outerSide.named? name = some o)
    (op : Operation) : (innerSide op).named? name = some o := by
  have hown : ∀ o' ∈ ownOptions op, ∀ o ∈ globals, o'.name ≠ o.name := by cases op <;> decide
  have hname : o.name = name := by simpa using List.find?_some h
  have ho : o ∈ globals := List.mem_of_find?_eq_some h
  have hnone : (ownOptions op).find? (·.name == name) = none := by
    rw [List.find?_eq_none]
    intro o' ho' hn
    exact hown o' ho' o ho ((beq_iff_eq.mp hn).trans hname.symm)
  rw [Side.named?, innerSide, List.find?_append, hnone]
  exact h

theorem lettered?_inner (op : Operation) (c : Char) :
    (innerSide op).lettered? c = outerSide.lettered? c := by
  have hown : ∀ o ∈ ownOptions op, o.letter? = none := by cases op <;> decide
  have hnone : (ownOptions op).find? (·.letter? == some c) = none := by
    rw [List.find?_eq_none]
    intro o ho hl
    rw [hown o ho] at hl
    exact nomatch hl
  rw [Side.lettered?, innerSide, List.find?_append, hnone]
  rfl

theorem letters?_inner (op : Operation) (cs : List Char) :
    (innerSide op).letters? cs = outerSide.letters? cs := by
  induction cs with
  | nil => rfl
  | cons c cs ih => simp only [Side.letters?, lettered?_inner, ih]

theorem name?_inner {cs : List Char} {w : Saying} (h : outerSide.name? cs = some w)
    (op : Operation) : (innerSide op).name? cs = some w := by
  obtain ⟨o, ho, hw⟩ := Option.bind_eq_some_iff.mp h
  rw [Side.name?, named?_inner ho]
  exact hw

theorem word?_sideOf {a : String} {w : Saying} (h : outerSide.word? a = some w)
    (op? : Option Operation) : (sideOf op?).word? a = some w := by
  cases op? with
  | none => exact h
  | some op =>
    rw [sideOf, Side.word?]
    rw [Side.word?] at h
    split at h
    · exact name?_inner h op
    · exact (letters?_inner op _).trans h
    · cases h

/-! ## Places -/

def Expects (a : String) : Prop :=
  ∃ op? w k, (sideOf op?).word? a = some w ∧ w.awaited = some k

def Open (ws : List String) : Prop := ∀ a, ws.getLast? = some a → ¬ Expects a

theorem Plain.not_expects {a : String} (h : Plain a) : ¬ Expects a := by
  rintro ⟨op?, w, k, hw, -⟩
  rw [h.word?] at hw
  cases hw

theorem plain_token (op : Operation) : Plain (Coded.token op) := by
  intro c cs hc
  have hn := operation?_of_dash hc
  rw [operation?_token] at hn
  cases hn

theorem plain_of_head? {a : String} (h : a.toList.head? ≠ some '-') : Plain a := by
  intro c cs hc
  simp [hc] at h

section

variable {op? op?' m : Option Operation} {a : String} {w : Saying} {ws xs ys zs as : List String}
  {gs : List Given} {os : List String} {escaped : Bool}

theorem open_nil : Open [] := nofun

theorem open_append (xs : List String) (h : ¬ Expects a) : Open (xs ++ [a]) := by
  intro b hb
  obtain rfl : a = b := by simpa using hb
  exact h

theorem Open.tail (h : Open (a :: xs)) : Open xs := by
  cases xs with
  | nil => exact open_nil
  | cons b xs => exact fun c hc => h c (by simpa [List.getLast?_cons] using hc)

def Splits (op? : Option Operation) (xs ys : List String) (op?' : Option Operation)
    (gs : List Given) (os : List String) : Prop :=
  ∃ m gs₁ gs₂ os₁ os₂, Lays op? xs m gs₁ os₁ ∧ Lays m ys op?' gs₂ os₂ ∧
    gs = gs₁ ++ gs₂ ∧ os = os₁ ++ os₂

theorem Lays.splits_nil (h : Lays op? ws op?' gs os) (hws : ws = [] ++ ys) :
    Splits op? [] ys op?' gs os := by
  subst hws
  exact ⟨op?, [], gs, [], os, .done op?, h, rfl, rfl⟩

theorem Lays.splits (h : Lays op? ws op?' gs os) (hws : ws = xs ++ ys) (hx : Open xs) :
    Splits op? xs ys op?' gs os := by
  induction h generalizing xs with
  | done op? =>
    obtain ⟨rfl, rfl⟩ := List.append_eq_nil_iff.mp hws.symm
    exact (Lays.done op?).splits_nil rfl
  | word hw hk h ih =>
    cases xs with
    | nil => exact (Lays.word hw hk h).splits_nil hws
    | cons b xs =>
      obtain ⟨rfl, rfl⟩ := List.cons.inj hws
      obtain ⟨m, gs₁, gs₂, os₁, os₂, h₁, h₂, rfl, rfl⟩ := ih rfl hx.tail
      exact ⟨m, _, gs₂, os₁, os₂, .word hw hk h₁, h₂, (List.append_assoc ..).symm, rfl⟩
  | @apart op? op?' a v w k as gs os hw hk hv h ih =>
    cases xs with
    | nil => exact (Lays.apart hw hk hv h).splits_nil hws
    | cons b xs =>
      obtain ⟨rfl, has⟩ := List.cons.inj hws
      cases xs with
      | nil => exact absurd ⟨op?, w, k, hw, hk⟩ (hx a rfl)
      | cons c xs =>
        obtain ⟨rfl, rfl⟩ := List.cons.inj has
        obtain ⟨m, gs₁, gs₂, os₁, os₂, h₁, h₂, rfl, rfl⟩ := ih rfl hx.tail.tail
        exact ⟨m, _, gs₂, os₁, os₂, .apart hw hk hv h₁, h₂, by simp, rfl⟩
  | operand ha h ih =>
    cases xs with
    | nil => exact (Lays.operand ha h).splits_nil hws
    | cons b xs =>
      obtain ⟨rfl, rfl⟩ := List.cons.inj hws
      obtain ⟨m, gs₁, gs₂, os₁, os₂, h₁, h₂, rfl, rfl⟩ := ih rfl hx.tail
      exact ⟨m, gs₁, gs₂, _, os₂, .operand ha h₁, h₂, rfl, rfl⟩
  | name h ih =>
    cases xs with
    | nil => exact (Lays.name h).splits_nil hws
    | cons b xs =>
      obtain ⟨rfl, rfl⟩ := List.cons.inj hws
      obtain ⟨m, gs₁, gs₂, os₁, os₂, h₁, h₂, rfl, rfl⟩ := ih rfl hx.tail
      exact ⟨m, gs₁, gs₂, os₁, os₂, .name h₁, h₂, rfl, rfl⟩

theorem Lays.append_laid {gs' : List Given} {os' : List String} (h : Lays op? xs m gs os)
    (h' : Laid m op?' ys escaped gs' os') :
    Laid op? op?' (xs ++ ys) escaped (gs ++ gs') (os ++ os') := by
  obtain ⟨words, rest, os₁, os₂, rfl, hl, hc, rfl⟩ := h'
  exact ⟨xs ++ words, rest, os ++ os₁, os₂, (List.append_assoc ..).symm, h.append hl, hc,
    (List.append_assoc ..).symm⟩

theorem Laid.behind (h : Laid op? op?' (xs ++ ys) escaped gs os) (hd : "--" ∉ xs) :
    ∃ words rest os₁ os₂, ys = words ++ rest ∧ Lays op? (xs ++ words) op?' gs os₁ ∧
      Closes escaped rest os₂ ∧ os = os₁ ++ os₂ := by
  obtain ⟨words, rest, os₁, os₂, hws, hl, hc, rfl⟩ := h
  rcases List.append_eq_append_iff.mp hws with ⟨zs, rfl, rfl⟩ | ⟨zs, rfl, hrest⟩
  · exact ⟨zs, rest, os₁, os₂, rfl, hl, hc, rfl⟩
  · cases zs with
    | nil =>
      rw [List.append_nil] at hd ⊢
      exact ⟨[], rest, os₁, os₂, hrest.symm, by rwa [List.append_nil], hc, rfl⟩
    | cons c zs =>
      cases hc with
      | bare => cases hrest
      | dashes os => simp [(List.cons.inj hrest).1] at hd

theorem Laid.splits (h : Laid op? op?' (xs ++ ys) escaped gs os) (hx : Open xs) (hd : "--" ∉ xs) :
    ∃ m gs₁ gs₂ os₁ os₂, Lays op? xs m gs₁ os₁ ∧ Laid m op?' ys escaped gs₂ os₂ ∧
      gs = gs₁ ++ gs₂ ∧ os = os₁ ++ os₂ := by
  obtain ⟨words, rest, os₁, os₂, rfl, hl, hc, rfl⟩ := h.behind hd
  obtain ⟨m, gs₁, gs₂, os₃, os₄, h₁, h₂, rfl, rfl⟩ := hl.splits rfl hx
  exact ⟨m, gs₁, gs₂, os₃, os₄ ++ os₂, h₁, ⟨words, rest, os₄, os₂, rfl, h₂, hc, rfl⟩, rfl,
    List.append_assoc ..⟩

end

/-! ## Global options in their words -/

inductive Part : List String → List Given → Prop
  | word {a : String} {w : Saying} : outerSide.word? a = some w → w.awaited = none →
    Part [a] w.given
  | apart {a v : String} {w : Saying} {k : Setting} : outerSide.word? a = some w →
    w.awaited = some k → Plain v → Part [a, v] (w.given ++ [k.given v])

section

variable {op? op?' m : Option Operation} {a : String} {w : Saying} {u xs ys zs : List String}
  {gs gs' : List Given} {os : List String} {escaped : Bool}

/-- What stands behind a word of options: the value that it leaves to the next one comes first. -/
inductive Behind (op? : Option Operation) : Option Setting → List String → Option Operation →
    List Given → List String → Prop
  | settled {op?' : Option Operation} {xs : List String} {gs : List Given} {os : List String} :
    Lays op? xs op?' gs os → Behind op? none xs op?' gs os
  | value {op?' : Option Operation} {v : String} {k : Setting} {xs : List String}
    {gs : List Given} {os : List String} : Plain v → Lays op? xs op?' gs os →
    Behind op? (some k) (v :: xs) op?' (k.given v :: gs) os

theorem Behind.lays (h : Behind op? w.awaited xs op?' gs os)
    (hw : (sideOf op?).word? a = some w) : Lays op? (a :: xs) op?' (w.given ++ gs) os := by
  generalize hk : w.awaited = k? at h
  cases h with
  | settled h => exact .word hw hk h
  | value hv h => exact .apart hw hk hv h

theorem Lays.behind (h : Lays op? (a :: xs) op?' gs os) (hw : (sideOf op?).word? a = some w) :
    ∃ gs', gs = w.given ++ gs' ∧ Behind op? w.awaited xs op?' gs' os := by
  generalize has : a :: xs = as at h
  cases h with
  | done => cases has
  | word hw' hk h =>
    obtain ⟨rfl, rfl⟩ := List.cons.inj has
    obtain rfl := Option.some.inj (hw.symm.trans hw')
    exact ⟨_, rfl, hk ▸ .settled h⟩
  | apart hw' hk hv h =>
    obtain ⟨rfl, rfl⟩ := List.cons.inj has
    obtain rfl := Option.some.inj (hw.symm.trans hw')
    exact ⟨_, rfl, hk ▸ .value hv h⟩
  | operand ha h =>
    obtain ⟨rfl, rfl⟩ := List.cons.inj has
    rw [ha.word?] at hw
    cases hw
  | @name op =>
    obtain ⟨rfl, rfl⟩ := List.cons.inj has
    rw [(plain_token op).word?] at hw
    cases hw

theorem Lays.exists_word? (h : Lays op? (a :: xs) op?' gs os) (ha : ¬ Plain a) :
    ∃ w, (sideOf op?).word? a = some w := by
  generalize has : a :: xs = as at h
  cases h with
  | done => cases has
  | word hw => exact (List.cons.inj has).1 ▸ ⟨_, hw⟩
  | apart hw => exact (List.cons.inj has).1 ▸ ⟨_, hw⟩
  | operand ha' => exact absurd ((List.cons.inj has).1 ▸ ha') ha
  | name => exact absurd ((List.cons.inj has).1 ▸ plain_token _) ha

namespace Part

theorem lays (h : Part u gs) (op? : Option Operation) : Lays op? u op? gs [] := by
  cases h with
  | @word a w hw hk =>
    have hl := Lays.word (word?_sideOf hw op?) hk (.done op?)
    rwa [List.append_nil] at hl
  | apart hw hk hv => exact .apart (word?_sideOf hw op?) hk hv (.done op?)

theorem unique (h : Part u gs) (h' : Lays op? u m gs' os) : m = op? ∧ gs' = gs ∧ os = [] := by
  cases h with
  | word hw hk =>
    obtain ⟨gs, rfl, hb⟩ := h'.behind (word?_sideOf hw op?)
    rw [hk] at hb
    cases hb with
    | settled h =>
      cases h
      exact ⟨rfl, List.append_nil _, rfl⟩
  | apart hw hk hv =>
    obtain ⟨gs, rfl, hb⟩ := h'.behind (word?_sideOf hw op?)
    rw [hk] at hb
    cases hb with
    | value hv h =>
      cases h
      exact ⟨rfl, rfl, rfl⟩

theorem isOpen (h : Part u gs) : Open u := by
  cases h with
  | word hw hk =>
    rintro b hb ⟨op?, w', k, hw', hk'⟩
    obtain rfl := Option.some.inj hb
    obtain rfl := Option.some.inj ((word?_sideOf hw op?).symm.trans hw')
    rw [hk] at hk'
    cases hk'
  | apart hw hk hv =>
    intro b hb
    obtain rfl := Option.some.inj hb
    exact hv.not_expects

theorem dashes_not_mem (h : Part u gs) : "--" ∉ u := by
  have hword {a : String} {w : Saying} (hw : outerSide.word? a = some w) : a ≠ "--" := by
    rintro rfl
    cases hw.symm.trans (Side.name?_nil outerSide)
  cases h with
  | word hw => simpa using (hword hw).symm
  | @apart a v w k hw hk hv =>
    have hv : v ≠ "--" := by
      rintro rfl
      exact hv '-' [] rfl
    simpa using ⟨(hword hw).symm, hv.symm⟩

theorem insert (h : Part u gs) (hl : Laid op? op?' zs escaped gs' os) :
    Laid op? op?' (u ++ zs) escaped (gs ++ gs') os :=
  (h.lays op?).append_laid hl

theorem remove (h : Part u gs) (hl : Laid op? op?' (u ++ zs) escaped gs' os) :
    ∃ gs'', gs' = gs ++ gs'' ∧ Laid op? op?' zs escaped gs'' os := by
  obtain ⟨m, gs₁, gs₂, os₁, os₂, h₁, h₂, rfl, rfl⟩ := hl.splits h.isOpen h.dashes_not_mem
  obtain ⟨rfl, rfl, rfl⟩ := h.unique h₁
  exact ⟨gs₂, rfl, h₂⟩

end Part

/-! ## Letters apart -/

def dashed (cs : List Char) : String := String.ofList ('-' :: cs)

theorem word?_dashed {c : Char} {cs : List Char} (hc : c ≠ '-') (side : Side) :
    side.word? (dashed (c :: cs)) = side.letters? (c :: cs) := by
  rw [Side.word?, dashed, String.toList_ofList]
  split <;> simp_all

theorem not_plain_dashed {cs : List Char} (hcs : cs ≠ []) : ¬ Plain (dashed cs) := by
  obtain ⟨c, cs, rfl⟩ := List.exists_cons_of_ne_nil hcs
  exact fun h => h c cs (String.toList_ofList)

theorem letters?_cons {side : Side} {c : Char} {cs : List Char} {w : Saying} (hc : c ≠ 'r') :
    side.letters? (c :: cs) = some w ↔ ∃ s w', side.lettered? c = some (.switch s) ∧
      side.letters? cs = some w' ∧ w = { w' with given := s.given :: w'.given } := by
  rw [Side.letters?]
  cases ho : side.lettered? c with
  | none => simp
  | some o =>
    cases o with
    | help => simp
    | setting k => exact absurd (Side.lettered?_setting ho) hc
    | switch s => simp [eq_comm]

structure Letters (c d : Char) : Prop where
  dash : c ≠ '-'
  switch : c ≠ 'r'
  next : d ≠ '-'

variable {c d : Char} {cs : List Char}

theorem Letters.lays_iff (h : Letters c d) : Lays op? (dashed (c :: d :: cs) :: zs) op?' gs os ↔
    Lays op? (dashed [c] :: dashed (d :: cs) :: zs) op?' gs os := by
  constructor
  · intro hl
    obtain ⟨w, hw⟩ := hl.exists_word? (not_plain_dashed (List.cons_ne_nil _ _))
    obtain ⟨gs', rfl, hb⟩ := hl.behind hw
    rw [word?_dashed h.dash, letters?_cons h.switch] at hw
    obtain ⟨s, w', hs, hw', rfl⟩ := hw
    have hone : (sideOf op?).word? (dashed [c]) = some { given := [s.given] } := by
      rw [word?_dashed h.dash, letters?_cons h.switch]
      exact ⟨s, {}, hs, rfl, rfl⟩
    have hrest : Lays op? (dashed (d :: cs) :: zs) op?' (w'.given ++ gs') os :=
      Behind.lays (w := w') hb ((word?_dashed h.next _).trans hw')
    exact Lays.word (w := { given := [s.given] }) hone rfl hrest
  · intro hl
    obtain ⟨w, hw⟩ := hl.exists_word? (not_plain_dashed (List.cons_ne_nil _ _))
    obtain ⟨gs', rfl, hb⟩ := hl.behind hw
    rw [word?_dashed h.dash, letters?_cons h.switch] at hw
    obtain ⟨s, w', hs, hw', rfl⟩ := hw
    cases hw'
    cases hb with
    | settled hl =>
      obtain ⟨w, hw⟩ := hl.exists_word? (not_plain_dashed (List.cons_ne_nil _ _))
      obtain ⟨gs', rfl, hb⟩ := hl.behind hw
      rw [word?_dashed h.next] at hw
      have hall : (sideOf op?).word? (dashed (c :: d :: cs)) =
          some { w with given := s.given :: w.given } := by
        rw [word?_dashed h.dash, letters?_cons h.switch]
        exact ⟨s, w, hs, hw, rfl⟩
      exact Behind.lays (w := { w with given := s.given :: w.given }) hb hall

theorem dashed_ne_dashes (hc : c ≠ '-') : dashed (c :: cs) ≠ "--" := by
  intro h
  have hl := congrArg String.toList h
  rw [dashed, String.toList_ofList] at hl
  exact hc (List.cons.inj (List.cons.inj hl).2).1

theorem Letters.laid_iff (h : Letters c d) :
    Laid op? op?' ([dashed (c :: d :: cs)] ++ zs) escaped gs os ↔
      Laid op? op?' ([dashed [c], dashed (d :: cs)] ++ zs) escaped gs os := by
  have hd {es : List Char} : dashed (d :: es) ≠ "--" := dashed_ne_dashes h.next
  have hc {es : List Char} : dashed (c :: es) ≠ "--" := dashed_ne_dashes h.dash
  constructor
  · intro hl
    obtain ⟨words, rest, os₁, os₂, rfl, hw, hr, rfl⟩ := hl.behind (by simpa using hc.symm)
    exact ⟨_, rest, os₁, os₂, rfl, h.lays_iff.mp hw, hr, rfl⟩
  · intro hl
    obtain ⟨words, rest, os₁, os₂, rfl, hw, hr, rfl⟩ :=
      hl.behind (by simpa using ⟨hc.symm, hd.symm⟩)
    exact ⟨_, rest, os₁, os₂, rfl, h.lays_iff.mpr hw, hr, rfl⟩

end

/-! ## Moves -/

/-- A global option is moved with its value, or its letter is written apart: not behind two dashes,
and not between another option and its value. -/
inductive Moves : List String → List String → Prop
  | later {u xs ys zs : List String} {gs : List Given} : Part u gs → Open xs → Open ys →
    "--" ∉ xs → "--" ∉ ys → Moves (xs ++ (u ++ (ys ++ zs))) (xs ++ (ys ++ (u ++ zs)))
  | apart {c d : Char} {cs : List Char} {xs zs : List String} : Letters c d → Open xs →
    "--" ∉ xs → Moves (xs ++ ([dashed (c :: d :: cs)] ++ zs))
      (xs ++ ([dashed [c], dashed (d :: cs)] ++ zs))

/-- What is laid out in one command line is laid out in the other one, perhaps in another order. -/
def Keeps (args args' : List String) : Prop :=
  ∀ op escaped gs os, Laid none (some op) args escaped gs os →
    ∃ gs', gs'.Perm gs ∧ Laid none (some op) args' escaped gs' os

section

variable {args args' args'' : List String} {i i' : Invocation} {m : Machine}

theorem Keeps.refl (args : List String) : Keeps args args :=
  fun _ _ gs _ hl => ⟨gs, .refl gs, hl⟩

theorem Keeps.trans (h : Keeps args args') (h' : Keeps args' args'') : Keeps args args'' := by
  intro op escaped gs os hl
  obtain ⟨gs', hp, hl'⟩ := h op escaped gs os hl
  obtain ⟨gs'', hp', hl''⟩ := h' op escaped gs' os hl'
  exact ⟨gs'', hp'.trans hp, hl''⟩

theorem Moves.keeps (h : Moves args args') : Keeps args args' ∧ Keeps args' args := by
  cases h with
  | later hu hx hy hdx hdy =>
    constructor
    · intro op escaped gs os hl
      obtain ⟨m, gs₁, gs₂, os₁, os₂, h₁, hl₁, rfl, rfl⟩ := hl.splits hx hdx
      obtain ⟨gs₃, rfl, hl₂⟩ := hu.remove hl₁
      obtain ⟨m, gs₄, gs₅, os₄, os₅, h₂, hl₃, rfl, rfl⟩ := hl₂.splits hy hdy
      exact ⟨_, (List.perm_append_comm_assoc ..).append_left _,
        h₁.append_laid (h₂.append_laid (hu.insert hl₃))⟩
    · intro op escaped gs os hl
      obtain ⟨m, gs₁, gs₂, os₁, os₂, h₁, hl₁, rfl, rfl⟩ := hl.splits hx hdx
      obtain ⟨m, gs₃, gs₄, os₃, os₄, h₂, hl₂, rfl, rfl⟩ := hl₁.splits hy hdy
      obtain ⟨gs₅, rfl, hl₃⟩ := hu.remove hl₂
      exact ⟨_, (List.perm_append_comm_assoc ..).append_left _,
        h₁.append_laid (hu.insert (h₂.append_laid hl₃))⟩
  | apart hc hx hd =>
    constructor
    · intro op escaped gs os hl
      obtain ⟨m, gs₁, gs₂, os₁, os₂, h₁, hl₁, rfl, rfl⟩ := hl.splits hx hd
      exact ⟨_, .refl _, h₁.append_laid (hc.laid_iff.mp hl₁)⟩
    · intro op escaped gs os hl
      obtain ⟨m, gs₁, gs₂, os₁, os₂, h₁, hl₁, rfl, rfl⟩ := hl.splits hx hd
      exact ⟨_, .refl _, h₁.append_laid (hc.laid_iff.mpr hl₁)⟩

theorem keeps_of_moved (h : Relation.EqvGen Moves args args') :
    Keeps args args' ∧ Keeps args' args := by
  induction h with
  | rel _ _ h => exact h.keeps
  | refl args => exact ⟨.refl args, .refl args⟩
  | symm _ _ _ ih => exact ih.symm
  | trans _ _ _ _ _ ih ih' => exact ⟨ih.1.trans ih'.1, ih'.2.trans ih.2⟩

/-! ## The same invocation -/

/-- What is read from two command lines agrees, as far as running them looks at it. -/
structure Invocation.Agrees (i i' : Invocation) : Prop where
  operation : i'.operation = i.operation
  operands : i'.operands = i.operands
  on (s : Switch) : i'.on s = i.on s
  value? (k : Setting) : i'.value? k = i.value? k

namespace Invocation.Agrees

theorem settings (h : i.Agrees i') (m : Machine) : i'.settings m = i.settings m := by
  simp only [Invocation.settings, h.value?]

theorem typed? (h : i.Agrees i') : i'.typed? = i.typed? := by
  have hdir : i'.direction? = i.direction? := by rw [direction?, direction?, h.value?]
  have halg : i'.algorithm? = i.algorithm? := by rw [algorithm?, algorithm?, h.value?]
  have hord : i'.order? = i.order? := by rw [order?, order?, h.value?]
  have htime : i'.simulationTime? = i.simulationTime? := by
    rw [simulationTime?, simulationTime?, h.value?]
  simp only [Invocation.typed?, inclusion?, hdir, halg, hord, htime, h.on, h.operation]

theorem command (h : i.Agrees i') : i'.command = i.command := by
  have hflags : i'.flags = i.flags := by simp only [flags, h.on]
  funext e
  simp only [Invocation.command, bundle, h.typed?, hflags, h.value?, h.operation, h.operands]

theorem plan (h : i.Agrees i') (m : Machine) : i'.plan m = i.plan m := by
  simp only [Invocation.plan, h.settings, h.command, encoding, shown, h.on, h.value?]

theorem answered (h : i.Agrees i') (out : Outlets) (m : Machine) :
    i'.answered out m = i.answered out m := by
  funext r
  cases r with
  | error r => rfl
  | ok o =>
    simp only [Invocation.answered, concluded, forward, delivered, activity, h.on, h.value?]

theorem perform (h : i.Agrees i') (out : Outlets) (start : Starter) (id : RequestId)
    (log : Journal.Logging) (m : Machine) :
    i'.perform out start id log m = i.perform out start id log m := by
  simp only [Invocation.perform, h.plan, executed, h.answered]

end Invocation.Agrees

theorem find?_option_iff {gs : List Given} {o : Opt} {g : Given}
    (hn : (gs.map (·.option)).Nodup) :
    gs.find? (·.option == o) = some g ↔ g ∈ gs ∧ g.option = o := by
  constructor
  · exact fun h => ⟨List.mem_of_find?_eq_some h, by simpa using List.find?_some h⟩
  · rintro ⟨hg, rfl⟩
    cases hf : gs.find? (·.option == g.option) with
    | none => exact absurd (List.find?_eq_none.mp hf g hg) (by simp)
    | some g' =>
      have hm := List.mem_of_find?_eq_some hf
      have ho : g'.option = g.option := by simpa using List.find?_some hf
      rw [List.inj_on_of_nodup_map hn hm hg ho]

theorem find?_option_perm {gs gs' : List Given} (hn : (gs.map (·.option)).Nodup)
    (hp : gs'.Perm gs) (o : Opt) : gs'.find? (·.option == o) = gs.find? (·.option == o) := by
  have hn' : (gs'.map (·.option)).Nodup := (hp.map _).nodup_iff.mpr hn
  ext g
  rw [find?_option_iff hn, find?_option_iff hn', hp.mem_iff]

theorem agrees_of_perm (hop : i'.operation = i.operation) (hos : i'.operands = i.operands)
    (hn : ((i.outer ++ i.inner).map (·.option)).Nodup)
    (hp : (i'.outer ++ i'.inner).Perm (i.outer ++ i.inner)) : i.Agrees i' where
  operation := hop
  operands := hos
  on s := hp.any_eq
  value? k := by
    have hp' : (i'.inner ++ i'.outer).Perm (i.inner ++ i.outer) :=
      List.perm_append_comm.trans (hp.trans List.perm_append_comm)
    have hn' : ((i.inner ++ i.outer).map (·.option)).Nodup :=
      (List.perm_append_comm.map _).nodup_iff.mp hn
    rw [Invocation.value?, Invocation.value?, find?_option_perm hn' hp']

/-! ## Options given once -/

theorem excludes_comm (a b : Opt) : excludes a b = excludes b a := by
  rw [Bool.eq_iff_iff]
  simp only [excludes, Bool.or_eq_true, Bool.and_eq_true, decide_eq_true_eq]
  tauto

theorem excludes_of_global {a b : Opt} (ha : a ∈ globals) (h : excludes a b = true) :
    a = .switch .pruneUnreachable ∧ b = .switch .pruneUseless ∨
      a = .switch .pruneUseless ∧ b = .switch .pruneUnreachable := by
  have hne : a ≠ .setting .options := by
    rintro rfl
    exact absurd ha (by decide)
  simpa [excludes, ha, hne] using h

theorem Invocation.Sound.distinct (hi : i.Sound)
    (hone : ∀ o ∈ globals, ((i.outer ++ i.inner).map (·.option)).count o ≤ 1) :
    ((i.outer ++ i.inner).map (·.option)).Nodup := by
  rw [List.map_append, List.nodup_append]
  refine ⟨hi.outer_distinct, hi.inner_distinct, ?_⟩
  rintro o ho _ ho' rfl
  obtain ⟨g, hg, rfl⟩ := List.mem_map.mp ho
  have hc := hone _ (hi.outer_global g hg)
  rw [List.map_append, List.count_append] at hc
  have hc₁ := List.count_pos_iff.mpr ho
  have hc₂ := List.count_pos_iff.mpr ho'
  omega

/-- Options that can be given together on each side can be given together on one side, unless both
pruning switches are among them. -/
theorem compatible_of_read (h : read args = .ok (.invocation i))
    (hprune : ¬ (i.on .pruneUnreachable ∧ i.on .pruneUseless)) :
    ∀ a ∈ (i.outer ++ i.inner).map (·.option), ∀ b ∈ (i.outer ++ i.inner).map (·.option),
      excludes a b = false := by
  obtain ⟨before, after, hs⟩ := exists_sides h
  have hi := (laid_of_read h).1
  have hon {s : Switch} {g : Given} (hg : g ∈ i.outer ++ i.inner) (ho : g.option = .switch s) :
      i.on s = true := List.any_eq_true.mpr ⟨g, hg, by simp [ho]⟩
  have hcross : ∀ g ∈ i.outer, ∀ g' ∈ i.inner, excludes g.option g'.option = false := by
    intro g hg g' hg'
    by_contra he
    have hg₁ := List.mem_append_left i.inner hg
    have hg₂ := List.mem_append_right i.outer hg'
    rcases excludes_of_global (hi.outer_global g hg) (by simpa using he) with ⟨h₁, h₂⟩ | ⟨h₁, h₂⟩
    · exact hprune ⟨hon hg₁ h₁, hon hg₂ h₂⟩
    · exact hprune ⟨hon hg₂ h₂, hon hg₁ h₁⟩
  simp only [List.forall_mem_map]
  intro g hg g' hg'
  rcases List.mem_append.mp hg with hg | hg <;> rcases List.mem_append.mp hg' with hg' | hg'
  · exact hs.outer_compatible g hg g' hg'
  · exact hcross g hg g' hg'
  · exact excludes_comm .. ▸ hcross g' hg' g hg
  · exact hs.inner_compatible g hg g' hg'

/-- Global options may stand anywhere: a command line that gives each of them at most once, and not
both pruning switches, is read and run in the same way wherever they are moved to with their
values. -/
theorem globals_stand_anywhere (h : read args = .ok (.invocation i))
    (hone : ∀ o ∈ globals, ((i.outer ++ i.inner).map (·.option)).count o ≤ 1)
    (hprune : ¬ (i.on .pruneUnreachable ∧ i.on .pruneUseless))
    (hm : Relation.EqvGen Moves args args') :
    ∃ i', read args' = .ok (.invocation i') ∧ (∀ m, i'.plan m = i.plan m) ∧
      ∀ out start id m, runOnto out start id m args' = runOnto out start id m args := by
  obtain ⟨hi, escaped, hl⟩ := laid_of_read h
  obtain ⟨gs, hp, hl⟩ := (keeps_of_moved hm).1 _ _ _ _ hl
  have hn := hi.distinct hone
  have ht : Takable [] gs := by
    refine ⟨(hp.map _).nodup_iff.mpr hn, fun g hg => ?_⟩
    exact Invocation.accepted_of_read h g (List.perm_append_comm.subset (hp.subset hg))
  have hc := compatible_of_read h hprune
  obtain ⟨outer, inner, rfl, hr⟩ := read_of_laid hl ht
    (fun a ha b hb => hc a ((hp.map _).subset ha) b ((hp.map _).subset hb))
    (Invocation.length_operands_of_read h)
  have ha : i.Agrees ⟨outer, inner, i.operation, i.operands⟩ := agrees_of_perm rfl rfl hn hp
  refine ⟨_, hr, ha.plan, fun out start id m => ?_⟩
  simp only [runOnto, h, hr, ha.perform]

theorem globals_stand_anywhere_load :
    ∃ i, read ["-r", "expl", "load", "-tn", "a"] = .ok (.invocation i) ∧
      (∀ o ∈ globals, ((i.outer ++ i.inner).map (·.option)).count o ≤ 1) ∧
      ¬ (i.on .pruneUnreachable ∧ i.on .pruneUseless) ∧
      Relation.EqvGen Moves ["-r", "expl", "load", "-tn", "a"]
        ["-t", "load", "-n", "a", "-r", "expl"] ∧
      ∃ i', read ["-t", "load", "-n", "a", "-r", "expl"] = .ok (.invocation i') ∧
        (∀ m, i'.plan m = i.plan m) ∧ ∀ out start id m,
          runOnto out start id m ["-t", "load", "-n", "a", "-r", "expl"] =
            runOnto out start id m ["-r", "expl", "load", "-tn", "a"] := by
  let i : Invocation := ⟨[Setting.given .encoding "expl"],
    [Switch.given .time, Switch.given .noOutput], .load, ["a"]⟩
  have hr : read ["-r", "expl", "load", "-tn", "a"] = .ok (.invocation i) := by rfl
  have hone : ∀ o ∈ globals, ((i.outer ++ i.inner).map (·.option)).count o ≤ 1 := by decide
  have hprune : ¬ (i.on .pruneUnreachable ∧ i.on .pruneUseless) := by decide
  have ht : Part ["-t"] [Switch.given .time] :=
    .word (w := { given := [Switch.given .time] }) (by rfl) rfl
  have he : Part ["-r", "expl"] [Setting.given .encoding "expl"] :=
    .apart (w := { awaited := some .encoding }) (by rfl) rfl (plain_of_head? (by decide))
  have hname : Open (["-r", "expl"] ++ ["load"]) :=
    open_append _ (plain_of_head? (by decide)).not_expects
  have hend : Open (["load", "-n"] ++ ["a"]) :=
    open_append _ (plain_of_head? (by decide)).not_expects
  have hletters : Letters 't' 'n' := ⟨by decide, by decide, by decide⟩
  have hsplit : Moves (["-r", "expl", "load"] ++ (["-tn"] ++ ["a"]))
      (["-r", "expl", "load"] ++ (["-t", "-n"] ++ ["a"])) :=
    .apart hletters hname (by decide)
  have htime : Moves ([] ++ (["-t"] ++ (["-r", "expl", "load"] ++ ["-n", "a"])))
      ([] ++ (["-r", "expl", "load"] ++ (["-t"] ++ ["-n", "a"]))) :=
    .later ht open_nil hname (by decide) (by decide)
  have hencoding : Moves (["-t"] ++ (["-r", "expl"] ++ (["load", "-n", "a"] ++ [])))
      (["-t"] ++ (["load", "-n", "a"] ++ (["-r", "expl"] ++ []))) :=
    .later he ht.isOpen hend (by decide) (by decide)
  have hm : Relation.EqvGen Moves ["-r", "expl", "load", "-tn", "a"]
      ["-t", "load", "-n", "a", "-r", "expl"] :=
    (Relation.EqvGen.rel _ _ hsplit).trans _ _ _
      ((Relation.EqvGen.rel _ _ htime).symm.trans _ _ _ (.rel _ _ hencoding))
  exact ⟨i, hr, hone, hprune, hm, globals_stand_anywhere hr hone hprune hm⟩

end

end TreeTool.CommandLine
