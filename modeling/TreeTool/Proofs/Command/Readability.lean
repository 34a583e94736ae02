import Mathlib.Data.Set.Function
import TreeTool.Command.Arguments
import TreeTool.Command.Workbench
import TreeTool.Proofs.Options.RoundTrip

/-!
# Argument vectors are uniquely readable

Operands are arbitrary texts, so a vector cannot be taken apart by what its elements look like
alone. It can from the left up to the operation, because no operation has the token of a flag, and
from there by length: the operation fixes the number of operands, and what is left is the option
pair. With the injectivity of option texts under each encoding, commands correspond one to one to
the vectors of the grammar.
-/

namespace TreeTool

/-! ## Flags -/

namespace Flags

def words : List String := ["-t", "-v", "-n", "-p", "-s"]

theorem mem_words_of_mem_tokens (f : Flags) : ∀ t ∈ f.tokens, t ∈ words := by
  obtain ⟨time, verbose, quiet, prune⟩ := f
  cases time <;> cases verbose <;> cases quiet <;> cases prune <;> decide

def ofTokens (ts : List String) : Flags where
  showTime := "-t" ∈ ts
  verbose := "-v" ∈ ts
  quiet := "-n" ∈ ts
  prune := if "-p" ∈ ts then .unreachable else if "-s" ∈ ts then .useless else .nothing

theorem ofTokens_tokens (f : Flags) : ofTokens f.tokens = f := by
  obtain ⟨time, verbose, quiet, prune⟩ := f
  cases time <;> cases verbose <;> cases quiet <;> cases prune <;> decide

theorem tokens_injective : Function.Injective tokens :=
  Function.LeftInverse.injective ofTokens_tokens

theorem flagTokens_tokens (f : Flags) : FlagTokens f.tokens := by
  refine .intro f.showTime f.verbose f.quiet f.prune.flag.toList ?_
  cases f.prune <;> simp [Prune.flag]

theorem exists_tokens_of_flagTokens {ts : List String} (h : FlagTokens ts) :
    ∃ f : Flags, f.tokens = ts := by
  obtain ⟨time, verbose, quiet, prune, rfl | rfl | rfl⟩ := h
  · exact ⟨⟨time, verbose, quiet, .nothing⟩, rfl⟩
  · exact ⟨⟨time, verbose, quiet, .unreachable⟩, rfl⟩
  · exact ⟨⟨time, verbose, quiet, .useless⟩, rfl⟩

end Flags

theorem Operation.token_not_mem_words (op : Operation) : Coded.token op ∉ Flags.words := by
  cases op <;> decide

theorem append_cons_inj {α : Type} {p : α → Prop} {as bs cs ds : List α} {a b : α}
    (has : ∀ x ∈ as, p x) (hbs : ∀ x ∈ bs, p x) (ha : ¬ p a) (hb : ¬ p b)
    (h : as ++ a :: cs = bs ++ b :: ds) : as = bs ∧ a = b ∧ cs = ds := by
  induction as generalizing bs with
  | nil =>
    cases bs with
    | nil => simpa using h
    | cons y bs =>
      obtain ⟨rfl, -⟩ := List.cons.inj h
      exact absurd (hbs a List.mem_cons_self) ha
  | cons x as ih =>
    rw [List.forall_mem_cons] at has
    cases bs with
    | nil =>
      obtain ⟨rfl, -⟩ := List.cons.inj h
      exact absurd has.1 hb
    | cons y bs =>
      rw [List.forall_mem_cons] at hbs
      obtain ⟨rfl, ht⟩ := List.cons.inj h
      obtain ⟨rfl, hab, hcd⟩ := ih has.2 hbs.2 ht
      exact ⟨rfl, hab, hcd⟩

/-! ## Commands -/

/-- The commands that can be made: by a checked construction or one of the constructors, and with
other flags from a command made before. -/
inductive Constructible : Command → Prop
  | built (r : Recipe) (c : Command) : r.command = .ok c → Constructible c
  | reflagged (c : Command) (f : Flags) : Constructible c → Constructible (c.withFlags f)

namespace Command

theorem eq_of_parts {c d : Command} (he : c.encoding = d.encoding)
    (ho : c.operation = d.operation) (hs : c.operands = d.operands) (hb : c.bundle = d.bundle)
    (hf : c.flags = d.flags) : c = d := by
  cases c
  cases d
  simp_all

theorem make_parts (c : Command) :
    make c.encoding c.operation c.operands c.bundle = .ok (c.withFlags {}) := by
  have hb : Fits c.operation c.bundle := c.bundle_kind
  rw [make, dif_pos c.operands_length, dif_pos hb]
  rfl

theorem constructible (c : Command) : Constructible c :=
  .reflagged (c.withFlags {}) c.flags (.built (.parts _ _ _ _) _ c.make_parts)

theorem optionTokens_optionArguments (c : Command) :
    OptionTokens c.encoding c.operation c.optionArguments := by
  rw [optionArguments]
  cases hb : c.bundle with
  | none => exact .absent
  | some b => exact .present b (c.bundle_kind b hb)

theorem canonical_arguments (c : Command) : Canonical c.arguments :=
  .intro _ _ _ _ _ c.flags.flagTokens_tokens c.optionTokens_optionArguments c.operands_length

theorem exists_arguments_of_canonical {v : List String} (h : Canonical v) :
    ∃ c : Command, c.arguments = v := by
  obtain ⟨e, op, flags, options, operands, hf, ho, hn⟩ := h
  obtain ⟨f, rfl⟩ := Flags.exists_tokens_of_flagTokens hf
  cases ho with
  | absent =>
    have hk : ∀ b, (none : Option Bundle) = some b → op.bundleKind = some b.kind := by
      rintro b ⟨⟩
    exact ⟨⟨e, op, operands, none, f, hn, hk⟩, rfl⟩
  | present b hb =>
    have hk : ∀ b', some b = some b' → op.bundleKind = some b'.kind := by
      rintro b' ⟨⟩
      exact hb
    exact ⟨⟨e, op, operands, some b, f, hn, hk⟩, rfl⟩

theorem bundle_eq_of_optionArguments_eq {c d : Command} (he : c.encoding = d.encoding)
    (ho : c.operation = d.operation) (h : c.optionArguments = d.optionArguments) :
    c.bundle = d.bundle := by
  rw [optionArguments, optionArguments] at h
  cases hc : c.bundle with
  | none =>
    cases hd : d.bundle with
    | none => rfl
    | some b' => simp [hc, hd] at h
  | some b =>
    cases hd : d.bundle with
    | none => simp [hc, hd] at h
    | some b' =>
      have hk : some b.kind = some b'.kind := by
        rw [← c.bundle_kind b hc, ← d.bundle_kind b' hd, ho]
      have ht : b.text c.encoding = b'.text c.encoding := by simpa [hc, hd, he] using h
      rw [Bundle.text_injective (Option.some.inj hk) ht]

theorem arguments_injective : Function.Injective arguments := by
  intro c d h
  simp only [arguments, List.cons_append, List.nil_append, List.append_assoc, List.cons.injEq,
    true_and] at h
  obtain ⟨he, h⟩ := h
  have he : c.encoding = d.encoding := Coded.Lawful.token_injective he
  obtain ⟨hf, ho, h⟩ := append_cons_inj c.flags.mem_words_of_mem_tokens
    d.flags.mem_words_of_mem_tokens c.operation.token_not_mem_words
    d.operation.token_not_mem_words h
  have ho : c.operation = d.operation := Coded.Lawful.token_injective ho
  have hn : c.operands.length = d.operands.length := by
    rw [c.operands_length, d.operands_length, ho]
  obtain ⟨hb, hs⟩ := List.append_inj' h hn
  exact eq_of_parts he ho hs (bundle_eq_of_optionArguments_eq he ho hb)
    (Flags.tokens_injective hf)

/-- Commands correspond one to one to the argument vectors of the grammar. -/
theorem arguments_bijOn : Set.BijOn arguments {c | Constructible c} {v | Canonical v} := by
  refine ⟨fun c _ => c.canonical_arguments, arguments_injective.injOn, ?_⟩
  intro v hv
  obtain ⟨c, hc⟩ := exists_arguments_of_canonical hv
  exact ⟨c, c.constructible, hc⟩

end Command

end TreeTool
