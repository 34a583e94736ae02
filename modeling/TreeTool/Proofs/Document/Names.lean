import TreeTool.Json.Reader
import TreeTool.Proofs.Json.Strings
import TreeTool.Proofs.Vocabulary

/-!
# Names in documents and words elsewhere

An enumeration has its words in a table of tokens and its names in a table for documents, and each
table has a reader of its own. A string in a document is looked into only after it has been read as
any other string, so a document is accepted exactly if the word in it is. Directions have words of
two sorts: a name is one of either sort, and no word is of both.
-/

namespace TreeTool

open Document (Named)
open Json (Fault Rest Value)

namespace Document.Named

theorem read_eq_ok_iff {α : Type} [Named α] {name : String} {v : α} :
    Named.read name = .ok v ↔ (Named.table (α := α)).lookup name = some v := by
  rw [Named.read]
  cases (Named.table (α := α)).lookup name <;> simp

end Document.Named

namespace Json

variable {α : Type} [Named α] {cs : List Char} {s text : String} {rest : Rest} {v : α}

theorem variantOf_eq_ok_iff : variantOf s = .ok v ↔ (Named.table (α := α)).lookup s = some v := by
  rw [← Named.read_eq_ok_iff, variantOf]
  cases (Named.read s : Except Document.Mismatch α) <;> simp

theorem exists_of_text (h : Json.text cs = .ok (s, rest)) :
    ∃ r, skipBlank cs = '"' :: r ∧ stringRest r = .ok (s, rest) := by
  rw [Json.text] at h
  split at h
  · rename_i r hr
    exact ⟨r, hr, h⟩
  · cases h

theorem named_of_text (h : Json.text cs = .ok (s, rest)) :
    (named cs : Except Fault (α × Rest)) = (variantOf s).map fun v => (v, rest) := by
  obtain ⟨r, hcs, hr⟩ := exists_of_text h
  rw [named, hcs]
  simp only [hr, bind, Except.bind]
  cases (variantOf s : Except Fault α) <;> rfl

theorem whole_named_iff (h : whole Json.text text = .ok s) :
    whole named text = .ok v ↔ (Named.table (α := α)).lookup s = some v := by
  rw [← variantOf_eq_ok_iff]
  rw [whole] at h ⊢
  cases ht : Json.text text.toList with
  | error f =>
    rw [ht] at h
    cases h
  | ok read =>
    obtain ⟨s', rest⟩ := read
    simp only [ht] at h
    by_cases hrest : (skipBlank rest).isEmpty
    · rw [if_pos hrest] at h
      obtain rfl := Except.ok.inj h
      rw [named_of_text ht]
      cases (variantOf s' : Except Fault α) <;> simp [Except.map, hrest]
    · rw [if_neg hrest] at h
      cases h

theorem whole_text_quote (s : String) : whole Json.text (String.ofList (quote s)) = .ok s := by
  have hq : quote s = '"' :: (s.toList.flatMap escape ++ ['"']) := rfl
  have hb : skipBlank (quote s) = quote s := rfl
  rw [whole, String.toList_ofList, Json.text, hb, hq]
  simp only [stringRest_escaped]
  rfl

end Json

/-! ## Readers of words -/

/-- A reader of words accepts a word exactly if a document is accepted with that string in it, and
with the same value. It refuses a word with the name of the enumeration and the word itself. -/
structure Agrees (α : Type) [Coded α] [Named α] (label : String)
    (read : String → Except TreeTool.Fault α) : Prop where
  decodes : ∀ text s, Json.whole Json.text text = .ok s →
    ∀ v, Json.whole (Json.named (α := α)) text = .ok v ↔ read s = .ok v
  encodes : ∀ v : α,
    (Value.text (Named.name v)).line = String.ofList (Json.quote (Coded.token v))
  fails : ∀ s f, read s = .error f → f = .unknownToken label s

structure ReadsTokens (α : Type) [Coded α] [Named α] (label : String)
    (read : String → Except TreeTool.Fault α) : Prop extends Agrees α label read where
  reads : ∀ s v, read s = .ok v ↔ s = Coded.token v
  ofToken : ∀ s, read s = Coded.ofToken α s

/-- The words are those of two tables, one for finite automata and one for all other encodings. -/
structure ReadsDirections : Prop extends Agrees Direction "direction" Direction.read where
  reads : ∀ s d, Direction.read s = .ok d ↔ ∃ e, Direction.ofTokenFor e s = .ok d
  ofToken : ∀ e ≠ .explicitFa, ∀ s d,
    Coded.ofToken Direction s = .ok d ↔ Direction.ofTokenFor e s = .ok d
  apart : ∀ e ≠ .explicitFa, ∀ s d d', Direction.ofTokenFor .explicitFa s = .ok d →
    Direction.ofTokenFor e s ≠ .ok d'

theorem readsTokens_of_table {α : Type} [Coded α] [Coded.Lawful α] [Named α]
    (htable : Named.table = Coded.words α) (hname : ∀ v : α, Named.name v = Coded.token v) :
    ReadsTokens α (Coded.label α) (Coded.ofToken α) where
  decodes text s h v := by rw [Json.whole_named_iff h, htable, Coded.ofToken_eq_ok_iff]
  encodes v := by
    rw [hname]
    rfl
  fails _ _ := Coded.ofToken_eq_error
  reads _ _ := Coded.ofToken_iff_eq_token
  ofToken _ := rfl

namespace Direction

theorem lookup_table_iff {s : String} {d : Direction} :
    (Named.table (α := Direction)).lookup s = some d ↔ read s = .ok d := by
  rw [read_eq_ok_iff, Coded.ofToken_eq_ok_iff, ofTokenFor_explicitFa_eq_ok_iff]
  show [("down", down), ("fwd", down), ("bwd", up), ("up", up)].lookup s = some d ↔
    [("down", down), ("up", up)].lookup s = some d ∨ _
  by_cases h1 : s = "down"
  · simp [h1, List.lookup_cons]
  · by_cases h2 : s = "fwd"
    · simp [h2, List.lookup_cons]
    · by_cases h3 : s = "bwd"
      · simp [h3, List.lookup_cons]
      · by_cases h4 : s = "up"
        · simp [h4, List.lookup_cons]
        · simp [List.lookup_cons, beq_eq_false_iff_ne.mpr h1, beq_eq_false_iff_ne.mpr h2,
            beq_eq_false_iff_ne.mpr h3, beq_eq_false_iff_ne.mpr h4]

theorem read_iff_exists_encoding {s : String} {d : Direction} :
    read s = .ok d ↔ ∃ e, ofTokenFor e s = .ok d := by
  rw [read_eq_ok_iff]
  constructor
  · rintro (h | h)
    · exact ⟨.explicit, h⟩
    · exact ⟨.explicitFa, h⟩
  · rintro ⟨e, h⟩
    by_cases he : e = .explicitFa
    · exact Or.inr (he ▸ h)
    · exact Or.inl (ofTokenFor_of_ne he s ▸ h)

theorem readsDirections : ReadsDirections where
  decodes text s h v := by rw [Json.whole_named_iff h, lookup_table_iff]
  encodes d := by cases d <;> rfl
  fails _ _ := read_eq_error
  reads _ _ := read_iff_exists_encoding
  ofToken e he s d := by rw [ofTokenFor_of_ne he]
  apart e he s d d' h h' := by
    rw [ofTokenFor_of_ne he] at h'
    exact ofTokenFor_explicitFa_of_ofToken h' d h

end Direction

/-- Every enumeration is read from words and from documents alike, whatever the string, and written
as the string of its token. -/
theorem spellings_shared :
    ReadsTokens Encoding "encoding" Encoding.read ∧ ReadsTokens Order "order" Order.read ∧
      ReadsTokens Algorithm "algorithm" Algorithm.read ∧
      ReadsTokens Operation "operation" Operation.read ∧ ReadsDirections ∧
      ∀ s, Json.whole Json.text (String.ofList (Json.quote s)) = .ok s :=
  ⟨readsTokens_of_table rfl fun v => by cases v <;> rfl,
    readsTokens_of_table rfl fun v => by cases v <;> rfl,
    readsTokens_of_table rfl fun v => by cases v <;> rfl,
    readsTokens_of_table rfl fun v => by cases v <;> rfl,
    Direction.readsDirections, Json.whole_text_quote⟩

end TreeTool
