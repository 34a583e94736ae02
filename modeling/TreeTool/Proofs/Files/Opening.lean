import TreeTool.Files.Tree

/-!
# Paths that are opened for writing

A path is followed through directories and links, so where it leads depends on these alone. Writing
puts a file where a file was or nothing, and leaves directories, links and devices as they are.
Hence no write changes where any path leads.
-/

namespace TreeTool.Files

open Text (Bytes)

/-- What a write may replace: a file, or nothing yet. -/
inductive Plain : Option Entry → Prop
  | absent : Plain none
  | file (content : Bytes) (executable : Bool) : Plain (some (.file content executable))
  | utility (name : String) : Plain (some (.utility name))

/-- A device takes what is written to it if it is there, except that a full one takes nothing. -/
def Device.Takes (d : Device) (content : Bytes) : Prop :=
  d.isThere ∧ (d = .full → content = [])

namespace Tree

variable {t t' t'' : Tree} {here start place q : Place} {path : String} {content : Bytes}

/-- Opening a path for writing creates or truncates a file at a place. -/
def Leads (t : Tree) (here : Place) (path : String) (q : Place) : Prop :=
  ∃ e, t.target here path = .ok (q, e) ∧ Plain e

/-- Opening a path for writing opens a device. -/
def LeadsOut (t : Tree) (here : Place) (path : String) (d : Device) : Prop :=
  ∃ q, t.target here path = .ok (q, some (.device d))

/-- A path can be opened for writing: for a file, or for a device that is there. -/
def Opens (t : Tree) (here : Place) (path : String) : Prop :=
  (∃ q, t.Leads here path q) ∨ ∃ d, t.LeadsOut here path d ∧ d.isThere

def Alike (t t' : Tree) : Prop :=
  ∀ p, t.get? p = t'.get? p ∨ (Plain (t.get? p) ∧ Plain (t'.get? p))

/-! ## Entries -/

theorem lookup_replace_self (p : Place) (e : Entry) (es : List (Place × Entry)) :
    (replace p e es).lookup p = some e := by
  induction es with
  | nil => simp [replace]
  | cons x es ih =>
    obtain ⟨r, f⟩ := x
    by_cases h : r = p
    · simp [replace, h]
    · have hb : (p == r) = false := beq_eq_false_iff_ne.mpr (Ne.symm h)
      rw [replace, if_neg h, List.lookup_cons, hb, ih]

theorem lookup_replace_of_ne {p : Place} (h : q ≠ p) (e : Entry) (es : List (Place × Entry)) :
    (replace p e es).lookup q = es.lookup q := by
  have hq : (q == p) = false := beq_eq_false_iff_ne.mpr h
  induction es with
  | nil => simp [replace, List.lookup_cons, hq]
  | cons x es ih =>
    obtain ⟨r, f⟩ := x
    by_cases hr : r = p
    · subst hr
      simp [replace, List.lookup_cons, hq]
    · rw [replace, if_neg hr, List.lookup_cons, List.lookup_cons, ih]

theorem get?_put_self {p : Place} (h : p ≠ []) (t : Tree) (e : Entry) :
    (t.put p e).get? p = some e := by
  rw [get?, if_neg h, put, lookup_replace_self]

theorem get?_put_of_ne {p : Place} (h : q ≠ p) (t : Tree) (e : Entry) :
    (t.put p e).get? q = t.get? q := by
  rw [get?, get?, put, lookup_replace_of_ne h]

/-! ## Trees that differ in their files -/

theorem Alike.refl (t : Tree) : t.Alike t := fun _ => Or.inl rfl

theorem Alike.symm (h : t.Alike t') : t'.Alike t := fun p =>
  (h p).imp Eq.symm And.symm

theorem Alike.trans (h : t.Alike t') (h' : t'.Alike t'') : t.Alike t'' := by
  intro p
  rcases h p with he | ⟨hp, hp'⟩ <;> rcases h' p with he' | ⟨hq, hq'⟩
  · exact Or.inl (he.trans he')
  · exact Or.inr ⟨he ▸ hq, hq'⟩
  · exact Or.inr ⟨hp, he' ▸ hp'⟩
  · exact Or.inr ⟨hp, hq'⟩

theorem Alike.get?_eq (h : t.Alike t') {p : Place} (hp : ¬ Plain (t.get? p)) :
    t'.get? p = t.get? p := by
  rcases h p with he | ⟨hp', -⟩
  · exact he.symm
  · exact absurd hp' hp

theorem Alike.plain (h : t.Alike t') {p : Place} (hp : Plain (t.get? p)) : Plain (t'.get? p) := by
  rcases h p with he | ⟨-, hp'⟩
  · exact he ▸ hp
  · exact hp'

theorem Alike.directory (h : t.Alike t') {p : Place} (hp : t.get? p = some .directory) :
    t'.get? p = some .directory := by
  rw [h.get?_eq, hp]
  rw [hp]
  rintro ⟨⟩

theorem Alike.link (h : t.Alike t') {p : Place} {s : String} (hp : t.get? p = some (.link s)) :
    t'.get? p = some (.link s) := by
  rw [h.get?_eq, hp]
  rw [hp]
  rintro ⟨⟩

theorem alike_put (hp : Plain (t.get? q)) (hq : q ≠ []) (content : Bytes) (executable : Bool) :
    t.Alike (t.put q (.file content executable)) := by
  intro p
  by_cases h : p = q
  · subst h
    rw [get?_put_self hq]
    exact Or.inr ⟨hp, .file content executable⟩
  · exact Or.inl (get?_put_of_ne h t _).symm

/-! ## Following names -/

theorem directory_of_walk {links : Nat} {names : List String}
    (h : t.walk links here names = .ok place) (hp : t.get? place = some .directory) :
    t.get? here = some .directory := by
  cases names with
  | nil =>
    rw [walk, Except.ok.injEq] at h
    exact h ▸ hp
  | cons n ns =>
    rw [walk] at h
    split at h
    · assumption
    · cases h
    · cases h

theorem walk_of_alike (ha : t.Alike t') {links : Nat} {names : List String}
    (h : t.walk links here names = .ok place) (hp : t.get? place = some .directory) :
    t'.walk links here names = .ok place := by
  fun_induction t.walk links here names with
  | case1 links here => rwa [walk]
  | case2 links here ns hhere ih =>
    rw [walk, ha.directory hhere]
    exact ih h
  | case3 links here ns hhere hdot ih =>
    rw [walk, ha.directory hhere]
    simp only [hdot, if_false, if_true]
    exact ih h
  | case4 => cases h
  | case5 => cases h
  | case6 => cases h
  | case7 here n ns hhere hdot hdots hfits s hs links q ih =>
    rw [walk, ha.directory hhere]
    simp only [hdot, hdots, hfits, if_false, ha.link hs]
    exact ih h
  | case8 links here n ns hhere hdot hdots hfits e hlink he ih =>
    -- what is not a directory here ends the way, so the entry is no file that only one tree has
    have hnext : t'.get? (here ++ [n]) = some .directory :=
      ha.directory (directory_of_walk h hp)
    rw [walk, ha.directory hhere]
    simp only [hdot, hdots, hfits, if_false, hnext]
    exact ih h
  | case9 => cases h
  | case10 => cases h

/-! ## Opening -/

theorem ending_of_alike (ha : t.Alike t') {p : Path} {above : Place} {n : String}
    (h : t.ending start p = .ok (above, n)) : t'.ending start p = .ok (above, n) := by
  rw [ending] at h
  split at h
  · cases h
  · rename_i m hm
    split at h
    · cases h
    · rename_i place hw
      by_cases hd : t.get? place = some .directory
      · simp only [hd, ne_eq, not_true_eq_false, if_false] at h
        rw [ending, hm]
        simpa only [walk_of_alike ha hw hd, ha.directory hd, ne_eq, not_true_eq_false,
          if_false] using h
      · simp [hd] at h

/-- What opening finds is what stands at the place, and that is neither directory nor link. -/
structure Found (t : Tree) (q : Place) (e : Option Entry) : Prop where
  named : q ≠ []
  entry : t.get? q = e
  solid : e ≠ some .directory
  unlinked : ∀ path, e ≠ some (.link path)

theorem found_of_targetFrom {p : Path} {links : Nat} {e : Option Entry}
    (h : t.targetFrom start p links = .ok (q, e)) : t.Found q e := by
  fun_induction t.targetFrom start p links with
  | case1 => cases h
  | case2 => cases h
  | case3 => cases h
  | case4 start p above n he path hl links ih => exact ih h
  | case5 links start p above n he hd hl =>
    cases h
    exact ⟨by simp, rfl, hd, hl⟩

theorem targetFrom_of_alike (ha : t.Alike t') {p : Path} {links : Nat} {e : Option Entry}
    (h : t.targetFrom start p links = .ok (q, e)) :
    t'.targetFrom start p links = .ok (q, t'.get? q) := by
  fun_induction t.targetFrom start p links with
  | case1 => cases h
  | case2 => cases h
  | case3 => cases h
  | case4 start p above n he path hl links ih =>
    rw [targetFrom, ending_of_alike ha he]
    simp only [ha.link hl]
    exact ih h
  | case5 links start p above n he hd hl =>
    cases h
    have hd' : t'.get? (above ++ [n]) ≠ some .directory := fun h => hd (ha.symm.directory h)
    have hl' : ∀ path, t'.get? (above ++ [n]) ≠ some (.link path) :=
      fun path h => hl path (ha.symm.link h)
    rw [targetFrom, ending_of_alike ha he]
    dsimp only
    split
    · contradiction
    · rename_i path hp
      exact absurd hp (hl' path)
    · rfl

theorem found_of_target {e : Option Entry} (h : t.target here path = .ok (q, e)) :
    t.Found q e := by
  rw [target] at h
  cases hc : checked path with
  | error problem => simp [hc, bind, Except.bind] at h
  | ok p =>
    simp only [hc, bind, Except.bind] at h
    exact found_of_targetFrom h

theorem target_of_alike (ha : t.Alike t') {e : Option Entry}
    (h : t.target here path = .ok (q, e)) : t'.target here path = .ok (q, t'.get? q) := by
  rw [target] at h ⊢
  cases hc : checked path with
  | error problem => simp [hc, bind, Except.bind] at h
  | ok p =>
    simp only [hc, bind, Except.bind] at h ⊢
    exact targetFrom_of_alike ha h

theorem Leads.of_alike (h : t.Leads here path q) (ha : t.Alike t') : t'.Leads here path q := by
  obtain ⟨e, ht, he⟩ := h
  refine ⟨_, target_of_alike ha ht, ha.plain ?_⟩
  rwa [(found_of_target ht).entry]

theorem Alike.leads_iff (ha : t.Alike t') : t.Leads here path q ↔ t'.Leads here path q :=
  ⟨fun h => h.of_alike ha, fun h => h.of_alike ha.symm⟩

theorem Leads.unique {q' : Place} (h : t.Leads here path q) (h' : t.Leads here path q') :
    q = q' := by
  obtain ⟨e, ht, -⟩ := h
  obtain ⟨e', ht', -⟩ := h'
  rw [ht] at ht'
  cases ht'
  rfl

theorem Leads.named (h : t.Leads here path q) : q ≠ [] := by
  obtain ⟨e, ht, -⟩ := h
  exact (found_of_target ht).named

theorem LeadsOut.unique {d d' : Device} (h : t.LeadsOut here path d)
    (h' : t.LeadsOut here path d') : d = d' := by
  obtain ⟨q, ht⟩ := h
  obtain ⟨q', ht'⟩ := h'
  rw [ht] at ht'
  cases ht'
  rfl

theorem Leads.not_leadsOut {d : Device} (h : t.Leads here path q) : ¬ t.LeadsOut here path d := by
  rintro ⟨q', ht'⟩
  obtain ⟨e, ht, he⟩ := h
  rw [ht] at ht'
  cases ht'
  cases he

theorem opens_iff_of_leadsOut {d : Device} (h : t.LeadsOut here path d) :
    t.Opens here path ↔ d.isThere := by
  constructor
  · rintro (⟨q, hq⟩ | ⟨d', hd', hthere⟩)
    · exact absurd h hq.not_leadsOut
    · exact h.unique hd' ▸ hthere
  · intro hthere
    exact Or.inr ⟨d, h, hthere⟩

theorem not_opens_of_error {problem : Problem} (h : t.target here path = .error problem) :
    ¬ t.Opens here path := by
  rintro (⟨q, e, ht, -⟩ | ⟨d, ⟨q, ht⟩, -⟩) <;> rw [h] at ht <;> cases ht

theorem target_cases (t : Tree) (here : Place) (path : String) :
    (∃ q, t.Leads here path q) ∨ (∃ d, t.LeadsOut here path d) ∨
      ∃ problem, t.target here path = .error problem := by
  cases ht : t.target here path with
  | error problem => exact Or.inr (Or.inr ⟨problem, rfl⟩)
  | ok r =>
    obtain ⟨q, e⟩ := r
    have hf := found_of_target ht
    cases e with
    | none => exact Or.inl ⟨q, none, ht, .absent⟩
    | some e =>
      cases e with
      | file content executable => exact Or.inl ⟨q, _, ht, .file content executable⟩
      | utility name => exact Or.inl ⟨q, _, ht, .utility name⟩
      | device d => exact Or.inr (Or.inl ⟨d, q, ht⟩)
      | directory => exact absurd rfl hf.solid
      | link s => exact absurd rfl (hf.unlinked s)

/-! ## Streams -/

def Ordinary (n : String) : Prop := n ≠ "." ∧ n ≠ ".." ∧ nameFits n

instance (n : String) : Decidable (Ordinary n) := inferInstanceAs (Decidable (_ ∧ _ ∧ _))

theorem walk_of_directories {ns : List String} (hn : ∀ n ∈ ns, Ordinary n)
    (hd : ∀ k ≤ ns.length, t.get? (here ++ ns.take k) = some .directory) (links : Nat) :
    t.walk links here ns = .ok (here ++ ns) := by
  induction ns generalizing here with
  | nil => simp [walk]
  | cons n ns ih =>
    obtain ⟨hdot, hdots, hfits⟩ := hn n List.mem_cons_self
    have hhere : t.get? here = some .directory := by simpa using hd 0 (Nat.zero_le _)
    have hnext : t.get? (here ++ [n]) = some .directory := by simpa using hd 1 (by simp)
    have hbelow : ∀ k ≤ ns.length, t.get? (here ++ [n] ++ ns.take k) = some .directory :=
      fun k hk => by simpa using hd (k + 1) (by simpa using hk)
    have hrest := ih (fun m hm => hn m (List.mem_cons_of_mem _ hm)) hbelow
    rw [walk, hhere]
    simp only [hdot, hdots, hfits, if_false, Bool.not_true, Bool.false_eq_true, hnext, hrest,
      List.append_assoc, List.singleton_append]

theorem target_of_directories {ns : List String} {n : String} {absolute : Bool}
    (hc : checked path = .ok ⟨absolute, ns ++ [n], false⟩)
    (hstart : Path.start ⟨absolute, ns ++ [n], false⟩ here = start)
    (hn : ∀ m ∈ ns ++ [n], Ordinary m)
    (hd : ∀ k ≤ ns.length, t.get? (start ++ ns.take k) = some .directory)
    {e : Option Entry} (he : t.get? (start ++ ns ++ [n]) = e) (hsolid : e ≠ some .directory)
    (hlink : ∀ s, e ≠ some (.link s)) :
    t.target here path = .ok (start ++ ns ++ [n], e) := by
  obtain ⟨hdot, hdots, hfits⟩ := hn n (by simp)
  have hwalk := walk_of_directories (fun m hm => hn m (List.mem_append_left _ hm)) hd greatestLinks
  have hlast : t.get? (start ++ ns) = some .directory := by simpa using hd ns.length (Nat.le_refl _)
  have hending : t.ending start ⟨absolute, ns ++ [n], false⟩ = .ok (start ++ ns, n) := by
    simp [ending, hwalk, hlast, hdot, hdots, hfits]
  rw [target, hc]
  simp only [bind, Except.bind, hstart]
  rw [targetFrom, hending]
  simp only [he]

/-! ## Writing -/

theorem write_of_leads (h : t.Leads here path q) (content : Bytes) :
    ∃ executable, t.write here path content = .ok (t.put q (.file content executable)) := by
  obtain ⟨e, ht, he⟩ := h
  cases he with
  | absent => exact ⟨false, by simp [write, ht, bind, Except.bind]⟩
  | file old executable => exact ⟨executable, by simp [write, ht, bind, Except.bind]⟩
  | utility name => exact ⟨true, by simp [write, ht, bind, Except.bind]⟩

theorem write_of_leadsOut {d : Device} (h : t.LeadsOut here path d) (content : Bytes) :
    (d.Takes content ∧ t.write here path content = .ok t) ∨
      (¬ d.Takes content ∧ ∃ problem, t.write here path content = .error problem) := by
  obtain ⟨q, ht⟩ := h
  have hcond : ∀ (b : Bool) (problem : Problem) (p : Prop), (p ↔ b) →
      (p ∧ (if b then (.ok t : Except Problem Tree) else .error problem) = .ok t) ∨
        (¬ p ∧ ∃ problem', (if b then (.ok t : Except Problem Tree) else .error problem) =
          .error problem') := by
    intro b problem p hp
    cases b
    · exact Or.inr ⟨by simp [hp], problem, rfl⟩
    · exact Or.inl ⟨hp.mpr rfl, rfl⟩
  simp only [write, ht, bind, Except.bind]
  cases d <;> refine hcond _ _ _ ?_ <;> simp [Device.Takes, Device.isThere]

theorem write_of_error {problem : Problem} (h : t.target here path = .error problem)
    (content : Bytes) : t.write here path content = .error problem := by
  simp [write, h, bind, Except.bind]

theorem write_fails_iff (t : Tree) (here : Place) (path : String) (content : Bytes) :
    (∃ problem, t.write here path content = .error problem) ↔
      ¬ t.Opens here path ∨ (t.LeadsOut here path .full ∧ content ≠ []) := by
  rcases t.target_cases here path with ⟨q, hq⟩ | ⟨d, hd⟩ | ⟨problem, hp⟩
  · obtain ⟨executable, hok⟩ := write_of_leads hq content
    have hopens : t.Opens here path := Or.inl ⟨q, hq⟩
    simp [hok, hopens, hq.not_leadsOut]
  · have hfull : t.LeadsOut here path .full ↔ d = .full := ⟨fun h => hd.unique h, fun h => h ▸ hd⟩
    have hrefuses : (∃ problem, t.write here path content = .error problem) ↔
        ¬ d.Takes content := by
      rcases write_of_leadsOut hd content with ⟨htakes, hw⟩ | ⟨hno, problem, hw⟩
      · simp [hw, htakes]
      · simp [hw, hno]
    rw [hrefuses, opens_iff_of_leadsOut hd, hfull, Device.Takes]
    by_cases hthere : d.isThere <;> simp [hthere]
  · have hopens := not_opens_of_error hp
    simp [write_of_error hp, hopens]

theorem Leads.alike (h : t.Leads here path q) (content : Bytes) (executable : Bool) :
    t.Alike (t.put q (.file content executable)) := by
  obtain ⟨e, ht, he⟩ := h
  have hf := found_of_target ht
  exact alike_put (hf.entry ▸ he) hf.named content executable

end Tree

end TreeTool.Files
