import TreeTool.Proofs.Command.Session

/-!
# Moving a command

A command that moves keeps its operands and its bundle, and gets another encoding, another operation
and default flags. Of its option text only the word for a direction depends on the encoding, and
only in a bundle that is a direction. So the argument vector before and after a move can be compared
place by place, and the new option text is still read as the old bundle.
-/

namespace TreeTool

open Options (Item Listing)

def Encoding.Apart (e e' : Encoding) : Prop :=
  (e = .explicitFa ∧ e' ≠ .explicitFa) ∨ (e ≠ .explicitFa ∧ e' = .explicitFa)

instance (e e' : Encoding) : Decidable (e.Apart e') :=
  inferInstanceAs (Decidable ((e = .explicitFa ∧ e' ≠ .explicitFa) ∨ _))

theorem Direction.tokenFor_eq_iff {d : Direction} {e e' : Encoding} :
    d.tokenFor e = d.tokenFor e' ↔ ¬ e.Apart e' := by
  cases d <;> cases e <;> cases e' <;> decide

namespace Bundle

/-- How an item of an option text looks under another encoding. -/
inductive Respelled (e e' : Encoding) (b : Bundle) : Item → Item → Prop
  | kept (i : Item) : Respelled e e' b i i
  | direction (d : Direction) : b = .direction d → e.Apart e' →
    Respelled e e' b ⟨"dir", d.tokenFor e⟩ ⟨"dir", d.tokenFor e'⟩

inductive PairMoved (e e' : Encoding) : Option Bundle → List String → List String → Prop
  | absent : PairMoved e e' none [] []
  | present (b : Bundle) (t t' : String) (is js : List Item) : Listing t is → Listing t' js →
    List.Forall₂ (Respelled e e' b) is js →
    (t ≠ t' ↔ (∃ d, b = .direction d) ∧ e.Apart e') →
    PairMoved e e' (some b) ["-o", t] ["-o", t']

/-! ## The option text -/

variable {e e' : Encoding}

theorem text_eq_iff {b : Bundle} : b.text e = b.text e' ↔ b.items e = b.items e' := by
  constructor
  · intro h
    have hl := b.listing_items e
    rw [h] at hl
    exact hl.unique (b.listing_items e')
  · intro h
    rw [text, text, h]

theorem items_eq_iff {b : Bundle} :
    b.items e = b.items e' ↔ ¬ ((∃ d, b = .direction d) ∧ e.Apart e') := by
  cases b with
  | inclusion o => simp [items]
  | equivalence r => simp [items]
  | direction d => simp [items, Direction.tokenFor_eq_iff]

theorem respelled_items (e e' : Encoding) (b : Bundle) :
    List.Forall₂ (Respelled e e' b) (b.items e) (b.items e') := by
  by_cases h : (∃ d, b = .direction d) ∧ e.Apart e'
  · obtain ⟨⟨d, rfl⟩, ha⟩ := h
    exact .cons (.direction d rfl ha) .nil
  · rw [items_eq_iff.mpr h]
    exact List.forall₂_same.mpr fun i _ => .kept i

theorem pairMoved_text (e e' : Encoding) (b : Bundle) :
    PairMoved e e' (some b) ["-o", b.text e] ["-o", b.text e'] := by
  refine .present b _ _ _ _ (b.listing_items e) (b.listing_items e') (b.respelled_items e e') ?_
  rw [ne_eq, text_eq_iff, items_eq_iff, not_not]

end Bundle

namespace Command

/-- The command after a move, compared with the one before under default flags. -/
structure Moved (c : Command) (e : Encoding) (op : Operation) (c' : Command) : Prop where
  vectors : ∃ pair pair', Bundle.PairMoved c.encoding e c.bundle pair pair' ∧
    (c.withFlags {}).arguments =
      ["-r", Coded.token c.encoding, Coded.token c.operation] ++ pair ++ c.operands ∧
    c'.arguments = ["-r", Coded.token e, Coded.token op] ++ pair' ++ c.operands
  reread : ∀ b, c.bundle = some b →
    ∃ t, following "-o" c'.arguments = some t ∧ Bundle.read op e t = .ok b

/-! ## The command -/

variable {c c' : Command} {e : Encoding} {op : Operation}

theorem move_eq_build (c : Command) (e : Encoding) (op : Operation) :
    c.move e op = Request.build ⟨e, op, c.operands, c.bundle, {}⟩ :=
  (map_withFlags_make _ _ _ _).symm

theorem exists_move_iff :
    (∃ c', c.move e op = .ok c') ↔
      op.arity = c.operation.arity ∧ ∀ b, c.bundle = some b → op.bundleKind = some b.kind := by
  rw [move_eq_build, ← c.operands_length]
  rcases Request.build_cases ⟨e, op, c.operands, c.bundle, {}⟩ with
    ⟨hq, c', hc, -⟩ | ⟨hn, hc⟩ | ⟨hn, hk, hc⟩
  · exact iff_of_true ⟨c', hc⟩ ⟨hq.count.symm, hq.kind⟩
  · exact iff_of_false (by simp [hc]) fun h => hn h.1.symm
  · exact iff_of_false (by simp [hc]) fun h => hk h.2

theorem request_of_move (h : c.move e op = .ok c') :
    c'.request = ⟨e, op, c.operands, c.bundle, {}⟩ := by
  rw [move_eq_build] at h
  rcases Request.build_cases ⟨e, op, c.operands, c.bundle, {}⟩ with
    ⟨-, d, hd, hr⟩ | ⟨-, hd⟩ | ⟨-, -, hd⟩ <;> rw [hd] at h <;> cases h
  exact hr

theorem pairMoved_optionArguments (he : c'.encoding = e) (hb : c'.bundle = c.bundle) :
    Bundle.PairMoved c.encoding e c.bundle c.optionArguments c'.optionArguments := by
  rw [optionArguments, optionArguments, he, hb]
  cases c.bundle with
  | none => exact .absent
  | some b => exact Bundle.pairMoved_text c.encoding e b

theorem moved_of_move (h : c.move e op = .ok c') : c.Moved e op c' := by
  have hr := request_of_move h
  have he : c'.encoding = e := congrArg Request.encoding hr
  have ho : c'.operation = op := congrArg Request.operation hr
  have hs : c'.operands = c.operands := congrArg Request.operands hr
  have hb : c'.bundle = c.bundle := congrArg Request.bundle hr
  have hf : c'.flags = {} := congrArg Request.flags hr
  refine ⟨⟨_, _, pairMoved_optionArguments he hb, rfl, ?_⟩, fun b hc => ?_⟩
  · rw [arguments, he, ho, hs, hf]
    rfl
  · obtain ⟨t, ht, hread⟩ := c'.coherent.reread b (hb.trans hc)
    rw [he, ho] at hread
    exact ⟨t, ht, hread⟩

/-- A command moves to the operations that take as many operands and its bundle, and says the same
there. -/
theorem move_keeps (c : Command) (e : Encoding) (op : Operation) :
    ((∃ c', c.move e op = .ok c') ↔
      op.arity = c.operation.arity ∧ ∀ b, c.bundle = some b → op.bundleKind = some b.kind) ∧
    ∀ c', c.move e op = .ok c' → c.Moved e op c' :=
  ⟨exists_move_iff, fun _ h => moved_of_move h⟩

theorem move_keeps_forward :
    (Command.reduction .explicit "-o" (some .down)).Moved .explicitFa .simulation
      (.simulation .explicitFa "-o" (some .down)) ∧
    (Command.simulation .explicitFa "-o" (some .down)).arguments =
      ["-r", "expl_fa", "sim", "-o", "dir=fwd", "-o"] ∧
    ¬ ∃ c', (Command.reduction .explicit "-o" (some .down)).move .explicit .load = .ok c' := by
  refine ⟨(move_keeps _ _ _).2 _ rfl, rfl, fun h => ?_⟩
  have hk := ((move_keeps _ _ _).1.mp h).2 _ rfl
  exact absurd hk (by decide)

end Command

end TreeTool
