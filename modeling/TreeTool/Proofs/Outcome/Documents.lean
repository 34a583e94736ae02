import TreeTool.Outcome.Basic
import TreeTool.Proofs.Json.Documents

/-!
# An outcome as a JSON document

A stream that was not captured is null in the document, and an empty one is an empty text, so a
document stands for one outcome only. Both layouts of it are texts of one object, which has a member
for each field.
-/

namespace TreeTool.Outcome

open Json (Value)
open Number (greatestWord)

/-- The exit status, if there is one, fits a word. -/
def Sized (o : Outcome) : Prop := ∀ n, o.exitStatus = some n → n.natAbs ≤ greatestWord

variable {o o' : Outcome}

theorem isWhole_json (h : o.Sized) : o.json.IsWhole := by
  have htext : ∀ stream : Option String, (Value.optional .text stream).IsWhole := by
    rintro (- | s) <;> trivial
  have hstatus : (Value.optional .integer o.exitStatus).IsWhole := by
    cases hn : o.exitStatus with
    | none => trivial
    | some n => exact ⟨rfl, h n hn⟩
  exact ⟨htext o.stdout, htext o.stderr, hstatus, trivial⟩

theorem optional_injective {α : Type} {f : α → Value} (hf : Function.Injective f)
    (hnull : ∀ a, f a ≠ .null) : Function.Injective (Value.optional f) := by
  rintro (- | a) (- | b) h
  · rfl
  · exact absurd h.symm (hnull b)
  · exact absurd h (hnull a)
  · rw [hf h]

theorem injective_text : Function.Injective Value.text := fun _ _ h => Value.text.inj h

theorem injective_integer : Function.Injective Value.integer := fun _ _ h => (Value.number.inj h).1

theorem json_injective : Function.Injective json := by
  have htext := optional_injective injective_text nofun
  have hnumber := optional_injective injective_integer nofun
  rintro ⟨out, err, status⟩ ⟨out', err', status'⟩ h
  simp only [json, Value.object.injEq, List.cons.injEq, Prod.mk.injEq, true_and, and_true] at h
  obtain ⟨hout, herr, hstatus⟩ := h
  rw [htext hout, htext herr, hnumber hstatus]

/-- A member holds a field: its value if there is one, and null if there is none. -/
structure Holds {α : Type} (ms : List (String × Value)) (name : String) (f : α → Value)
    (field : Option α) : Prop where
  value : ∀ a, ms.lookup name = some (f a) ↔ field = some a
  null : ms.lookup name = some .null ↔ field = none

/-- The members of an outcome's document. -/
structure Depicts (ms : List (String × Value)) (o : Outcome) : Prop where
  names : ms.map Prod.fst = ["stdout", "stderr", "exit_status"]
  stdout : Holds ms "stdout" .text o.stdout
  stderr : Holds ms "stderr" .text o.stderr
  exitStatus : Holds ms "exit_status" .integer o.exitStatus

theorem holds_of_lookup {α : Type} {ms : List (String × Value)} {name : String} {f : α → Value}
    {field : Option α} (hf : Function.Injective f) (hnull : ∀ a, f a ≠ .null)
    (h : ms.lookup name = some (.optional f field)) : Holds ms name f field where
  value a := by
    rw [h, Option.some.injEq]
    exact (optional_injective hf hnull).eq_iff (b := some a)
  null := by
    rw [h, Option.some.injEq]
    exact (optional_injective hf hnull).eq_iff (b := none)

theorem exists_members (o : Outcome) : ∃ ms, o.json = .object ms ∧ Depicts ms o :=
  ⟨_, rfl, rfl, holds_of_lookup injective_text nofun rfl, holds_of_lookup injective_text nofun rfl,
    holds_of_lookup injective_integer nofun rfl⟩

/-- An outcome on a line and on a page is one object, whose members hold its fields; a line stands
for one outcome only. -/
theorem documents_depict (h : o.Sized) :
    ∃ ms, Json.Spells (.object ms) o.json.line.toList ∧
      Json.Spells (.object ms) o.json.page.toList ∧
      Value.read o.json.line = .ok (.object ms) ∧ Value.read o.json.page = .ok (.object ms) ∧
      Depicts ms o ∧ ∀ o' : Outcome, o'.Sized → (o'.json.line = o.json.line ↔ o' = o) := by
  obtain ⟨ms, hms, hd⟩ := o.exists_members
  have hwhole := isWhole_json h
  have hline := Json.spells_compact o.json hwhole
  have hpage := Json.spells_indented o.json 0 hwhole
  have hread := Json.read_line hwhole
  refine ⟨ms, ?_⟩
  rw [← hms]
  refine ⟨?_, ?_, hread, Json.read_page hwhole, hd, fun o' h' => ⟨fun heq => ?_, ?_⟩⟩
  · rwa [Value.line, String.toList_ofList]
  · rwa [Value.page, String.toList_ofList]
  · have hread' := Json.read_line (isWhole_json h')
    rw [heq, hread] at hread'
    exact (json_injective (Except.ok.inj hread')).symm
  · rintro rfl
    rfl

theorem documents_depict_empty :
    let o : Outcome := ⟨some "\x00\"\\\n𝄞", some "", some (-0x80000000)⟩
    o.Sized ∧ (∃ ms, Value.read o.json.line = .ok (.object ms) ∧
        Value.read o.json.page = .ok (.object ms) ∧ Depicts ms o) ∧
      { o with stderr := none }.json.line ≠ o.json.line := by
  intro o
  have hsized : o.Sized := fun n hn => Option.some.inj hn ▸ by decide
  obtain ⟨ms, -, -, hline, hpage, hd, hone⟩ := documents_depict hsized
  refine ⟨hsized, ⟨ms, hline, hpage, hd⟩, fun heq => ?_⟩
  exact nomatch congrArg Outcome.stderr ((hone { o with stderr := none } hsized).mp heq)

end TreeTool.Outcome
