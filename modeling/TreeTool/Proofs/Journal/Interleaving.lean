import Mathlib.Algebra.BigOperators.Group.Finset.Piecewise
import TreeTool.Proofs.Tool.Verdict

/-!
# Runs that share a capture

Any number of runs log into one capture, each its own events in their order, and between them in
any order at all. Every event is kept together with the run it is of; that the kept events of a run
are the ones it has logged so far is preserved by each step. Since every event names the request of
its run, runs with different requests can be told apart in the capture alone.
-/

namespace TreeTool.Journal

open Text (Bytes)

theorem Logging.subscriber_log (l : Logging) (e : Event) :
    (l.log e).subscriber = l.subscriber := by
  rw [log]
  split
  · rfl
  · rfl
  · rfl
  · split <;> rfl
  · split <;> rfl

/-! ## One of several runs -/

/-- What becomes of the tool of a run: it does something that the run sees, or the wait for it
fails. -/
inductive Course
  | observed (b : Behaviour)
  | unawaited (elapsed : Duration) (err : Bytes) (reason : String)
  deriving DecidableEq, Repr

structure Party where
  call : Call
  id : RequestId
  course : Course
  deriving DecidableEq, Repr

inductive Closing (c : Call) (id : RequestId) : Captured → Prop
  | ended (millis : Nat) (status : Option Int) : Closing c id (c.endEntry id millis status)
  | failed (millis : Nat) (kind code : String) : Closing c id (c.failureEntry id millis kind code)

def Captured.isFrom (id : RequestId) (c : Captured) : Bool :=
  c.field? "request_id" == some id.text

def Event.isOf (e : Event) (op event : String) : Bool :=
  e.field? "op" == some op && e.field? "event" == some event

namespace Party

def run (p : Party) : Run :=
  match p.course with
  | .observed b => p.call.run p.id b
  | .unawaited elapsed err reason => p.call.unawaited p.id elapsed err reason

def entries (p : Party) : List Captured := p.run.events.map .ofEvent

theorem exists_closing (p : Party) :
    ∃ z, Closing p.call p.id z ∧
      p.entries = [p.call.startEntry p.id, p.call.vectorEntry p.id, z] := by
  obtain ⟨c, id, course⟩ := p
  cases course with
  | observed b =>
    obtain ⟨v, hv⟩ := c.exists_comes b
    obtain ⟨z, hz, he⟩ := Call.map_ofEvent_run id hv
    refine ⟨z, ?_, he⟩
    generalize (c.run id b).outcome = o at hz
    cases hz with
    | unstartable => exact .failed _ _ _
    | finished => exact .ended _ _
    | expired => exact .failed _ _ _
  | unawaited elapsed err reason => exact ⟨_, .failed elapsed.wholeMillis "Io" "ERR_IO", rfl⟩

theorem length_entries (p : Party) : p.entries.length = 3 := by
  obtain ⟨z, -, he⟩ := p.exists_closing
  rw [he]
  rfl

theorem length_events (p : Party) : p.run.events.length = 3 := by
  have h := p.length_entries
  rwa [entries, List.length_map] at h

theorem take_entries (p : Party) : p.entries.take 3 = p.entries := by
  rw [← p.length_entries, List.take_length]

theorem request_of_mem {p : Party} {c : Captured} (h : c ∈ p.entries) :
    c.field? "request_id" = some p.id.text := by
  obtain ⟨z, hz, he⟩ := p.exists_closing
  rw [he, List.mem_cons, List.mem_cons, List.mem_singleton] at h
  rcases h with rfl | rfl | rfl
  · rfl
  · rfl
  · cases hz <;> rfl

theorem isFrom_iff {p q : Party} {c : Captured} (h : c ∈ q.entries) :
    c.isFrom p.id ↔ q.id = p.id := by
  rw [Captured.isFrom, request_of_mem h, beq_iff_eq, Option.some.injEq]
  exact ⟨congrArg RequestId.mk, congrArg RequestId.text⟩

theorem countP_entries (p : Party) :
    p.entries.countP (·.isOf "execute" "start") =
      p.entries.countP (·.isOf "execute" "end") +
        p.entries.countP (·.isOf "execute" "end_error") := by
  obtain ⟨z, hz, he⟩ := p.exists_closing
  rw [he]
  cases hz <;> rfl

end Party

/-! ## One step of one of them -/

/-- Several runs and their common journal: how many events each has logged, and all events that
were logged, each with its run. -/
structure Common (ι : Type) where
  journal : Logging := Logging.startCapture {}
  taken : ι → Nat := fun _ => 0
  emitted : List (ι × Event) := []

namespace Common

variable {ι : Type} [DecidableEq ι] (parties : ι → Party)

/-- A run logs its next event, unless it is finished. -/
def step (s : Common ι) (i : ι) : Common ι :=
  match (parties i).run.events[s.taken i]? with
  | none => s
  | some e =>
    { journal := s.journal.log e
      taken := Function.update s.taken i (s.taken i + 1)
      emitted := s.emitted ++ [(i, e)] }

def play (order : List ι) : Common ι := order.foldl (step parties) {}

def ownEvents (s : Common ι) (i : ι) : List Event :=
  (s.emitted.filter fun x => x.1 = i).map Prod.snd

/-- The capture holds what was logged, and each run has logged its first events. -/
structure Sound (s : Common ι) : Prop where
  capturing : s.journal.subscriber = some .capture
  captured : s.journal.captured = s.emitted.map fun x => .ofEvent x.2
  own : ∀ i, s.ownEvents i = (parties i).run.events.take (s.taken i)

theorem step_cases (s : Common ι) (i : ι) :
    (3 ≤ s.taken i ∧ s.step parties i = s) ∨
    ∃ e, (parties i).run.events[s.taken i]? = some e ∧ s.taken i < 3 ∧
      s.step parties i = ⟨s.journal.log e, Function.update s.taken i (s.taken i + 1),
        s.emitted ++ [(i, e)]⟩ := by
  have hlen := (parties i).length_events
  rw [step]
  cases he : (parties i).run.events[s.taken i]? with
  | none =>
    rw [List.getElem?_eq_none_iff, hlen] at he
    exact Or.inl ⟨he, rfl⟩
  | some e =>
    have hlt := (List.getElem?_eq_some_iff.mp he).1
    rw [hlen] at hlt
    exact Or.inr ⟨e, rfl, hlt, rfl⟩

theorem taken_step (s : Common ι) (i j : ι) (hs : s.taken j ≤ 3) :
    (s.step parties i).taken j = min (s.taken j + if i = j then 1 else 0) 3 := by
  obtain ⟨hi, h⟩ | ⟨e, -, hi, h⟩ := step_cases parties s i
  · rw [h]
    split_ifs with hij
    · subst hij
      omega
    · omega
  · rw [h]
    split_ifs with hij
    · subst hij
      simp only [Function.update_self]
      omega
    · simp only [Function.update_of_ne (Ne.symm hij)]
      omega

variable {parties} {s : Common ι}

theorem sound_step (hs : Sound parties s) (i : ι) : Sound parties (s.step parties i) := by
  obtain ⟨-, h⟩ | ⟨e, he, -, h⟩ := step_cases parties s i
  · rwa [h]
  · rw [h]
    refine ⟨?_, ?_, fun j => ?_⟩
    · rw [Logging.subscriber_log]
      exact hs.capturing
    · have hlog := Logging.captured_logAll hs.capturing [e]
      rw [Logging.logAll, List.foldl_cons, List.foldl_nil] at hlog
      simp [hlog, hs.captured]
    · have hj := hs.own j
      rw [ownEvents] at hj ⊢
      by_cases hij : i = j
      · subst hij
        simp [List.filter_append, hj, List.take_add_one, he]
      · simp [List.filter_append, hj, hij, Function.update_of_ne (Ne.symm hij)]

/-! ## Any number of steps -/

theorem sound_foldl (order : List ι) (hs : Sound parties s) :
    Sound parties (order.foldl (step parties) s) := by
  induction order generalizing s with
  | nil => exact hs
  | cons i order ih => exact ih (sound_step hs i)

theorem sound_play (order : List ι) : Sound parties (play parties order) :=
  sound_foldl order ⟨rfl, rfl, fun _ => rfl⟩

theorem taken_foldl (order : List ι) (j : ι) (hs : s.taken j ≤ 3) :
    (order.foldl (step parties) s).taken j = min (s.taken j + order.count j) 3 := by
  induction order generalizing s with
  | nil =>
    rw [List.foldl_nil, List.count_nil]
    omega
  | cons i order ih =>
    have ht := taken_step parties s i j hs
    rw [List.foldl_cons, ih (by omega), ht, List.count_cons]
    simp only [beq_iff_eq]
    omega

theorem taken_play (order : List ι) (j : ι) :
    (play parties order).taken j = min (order.count j) 3 := by
  rw [play, taken_foldl order j (Nat.zero_le 3)]
  simp

/-! ## What the capture says -/

theorem captured_eq (hs : Sound parties s) :
    s.journal.captured = (s.emitted.map Prod.snd).map .ofEvent := by
  rw [hs.captured, List.map_map]
  rfl

theorem map_ownEvents (hs : Sound parties s) (i : ι) :
    (s.ownEvents i).map Captured.ofEvent = (parties i).entries.take (s.taken i) := by
  rw [hs.own, Party.entries, List.map_take]

theorem ofEvent_mem (hs : Sound parties s) {i : ι} {e : Event} (h : (i, e) ∈ s.emitted) :
    Captured.ofEvent e ∈ (parties i).entries := by
  have hown : e ∈ s.ownEvents i := by
    rw [ownEvents, List.mem_map]
    exact ⟨(i, e), List.mem_filter.mpr ⟨h, by simp⟩, rfl⟩
  rw [hs.own] at hown
  exact List.mem_map_of_mem (List.mem_of_mem_take hown)

theorem filter_isFrom (hid : Function.Injective fun i => (parties i).id) (hs : Sound parties s)
    (i : ι) :
    s.journal.captured.filter (·.isFrom (parties i).id) =
      (parties i).entries.take (s.taken i) := by
  have hmem : ∀ x ∈ s.emitted, (Captured.ofEvent x.2).isFrom (parties i).id = decide (x.1 = i) := by
    intro x hx
    rw [Bool.eq_iff_iff, Party.isFrom_iff (ofEvent_mem hs hx), decide_eq_true_iff]
    exact hid.eq_iff
  rw [← map_ownEvents hs, ownEvents, hs.captured, List.filter_map, List.map_map]
  congr 1
  exact List.filter_congr hmem

theorem existsUnique_isFrom (hid : Function.Injective fun i => (parties i).id)
    (hs : Sound parties s) {c : Captured} (h : c ∈ s.journal.captured) :
    ∃! i, c.isFrom (parties i).id := by
  rw [hs.captured, List.mem_map] at h
  obtain ⟨⟨j, e⟩, hx, rfl⟩ := h
  have hc := ofEvent_mem hs hx
  exact ⟨j, (Party.isFrom_iff hc).mpr rfl, fun i hi => (hid ((Party.isFrom_iff hc).mp hi)).symm⟩

theorem matching_captured (hs : Sound parties s) (op event : String) :
    matching op event s.journal.captured =
      ((s.emitted.map Prod.snd).filter (·.isOf op event)).map .ofEvent := by
  rw [captured_eq hs, matching, List.filter_map]
  rfl

variable [Fintype ι]

theorem countP_eq_sum (es : List (ι × Event)) (p : Event → Bool) :
    es.countP (p ·.2) = ∑ i, ((es.filter fun x => x.1 = i).map Prod.snd).countP p := by
  induction es with
  | nil => simp
  | cons x es ih =>
    have hx : ∀ i, (((x :: es).filter fun y => y.1 = i).map Prod.snd).countP p =
        ((es.filter fun y => y.1 = i).map Prod.snd).countP p +
          if x.1 = i then (if p x.2 then 1 else 0) else 0 := by
      intro i
      by_cases hi : x.1 = i
      · simp [hi, List.countP_cons]
      · simp [hi]
    simp only [hx, Finset.sum_add_distrib, Finset.sum_ite_eq, Finset.mem_univ, if_true, ← ih,
      List.countP_cons]

theorem countP_captured (hs : Sound parties s) (p : Captured → Bool) :
    s.journal.captured.countP p = ∑ i, ((parties i).entries.take (s.taken i)).countP p := by
  rw [hs.captured, List.countP_map]
  refine (countP_eq_sum s.emitted (p ∘ Captured.ofEvent)).trans (Finset.sum_congr rfl ?_)
  intro i _
  rw [← map_ownEvents hs, ownEvents, List.countP_map, List.countP_map, List.countP_map]

theorem length_captured (hs : Sound parties s) (ht : ∀ i, s.taken i ≤ 3) :
    s.journal.captured.length = ∑ i, s.taken i := by
  have h := countP_captured hs fun _ => true
  simp only [List.countP_true, List.length_take, Party.length_entries] at h
  rw [h]
  exact Finset.sum_congr rfl fun i _ => Nat.min_eq_left (ht i)

theorem length_matching_start (hs : Sound parties s) (ht : ∀ i, s.taken i = 3) :
    (matching "execute" "start" s.journal.captured).length =
      (matching "execute" "end" s.journal.captured).length +
        (matching "execute" "end_error" s.journal.captured).length := by
  simp only [matching, ← List.countP_eq_length_filter, countP_captured hs, ht, Party.take_entries,
    Party.countP_entries, Finset.sum_add_distrib]

/-- What a capture tells of the runs that have taken their steps in some order. -/
structure Tells (parties : ι → Party) (order : List ι) (s : Common ι) : Prop where
  taken : ∀ i, s.taken i = min (order.count i) 3
  own : ∀ i, s.journal.captured.filter (·.isFrom (parties i).id) =
    (parties i).entries.take (s.taken i)
  whole : ∀ i, s.taken i = 3 →
    s.journal.captured.filter (·.isFrom (parties i).id) = (parties i).entries
  attributed : ∀ c ∈ s.journal.captured, ∃! i, c.isFrom (parties i).id
  complete : s.journal.captured.length = ∑ i, s.taken i
  inOrder : s.journal.captured = (s.emitted.map Prod.snd).map .ofEvent
  matching : ∀ op event, Journal.matching op event s.journal.captured =
    ((s.emitted.map Prod.snd).filter (·.isOf op event)).map .ofEvent
  balanced : (∀ i, s.taken i = 3) →
    (Journal.matching "execute" "start" s.journal.captured).length =
      (Journal.matching "execute" "end" s.journal.captured).length +
        (Journal.matching "execute" "end_error" s.journal.captured).length

/-- Runs with different requests may share a capture. Each of them logs its start, its arguments
and one closing event; at every moment the capture holds exactly what each has logged so far, and
the events of an operation can be taken out of it in the order in which they came. -/
theorem play_tells (parties : ι → Party) (hid : Function.Injective fun i => (parties i).id) :
    (∀ i, ∃ z, Closing (parties i).call (parties i).id z ∧
      (parties i).entries = [(parties i).call.startEntry (parties i).id,
        (parties i).call.vectorEntry (parties i).id, z]) ∧
    ∀ order : List ι, Tells parties order (play parties order) := by
  refine ⟨fun i => (parties i).exists_closing, fun order => ?_⟩
  have hs : Sound parties (play parties order) := sound_play order
  have ht : ∀ i, (play parties order).taken i = min (order.count i) 3 := taken_play order
  exact
    { taken := ht
      own := filter_isFrom hid hs
      whole := fun i hi => by
        rw [filter_isFrom hid hs, hi, Party.take_entries]
      attributed := fun _ hc => existsUnique_isFrom hid hs hc
      complete := length_captured hs fun i => by
        rw [ht]
        exact Nat.min_le_right _ _
      inOrder := captured_eq hs
      matching := matching_captured hs
      balanced := length_matching_start hs }

theorem play_tells_turns :
    let parties : Bool → Party := fun b =>
      if b then ⟨⟨{}, some "load", ["-r"], none⟩, ⟨"2"⟩, .observed (.notStarted "gone")⟩
      else ⟨⟨{}, none, [], none⟩, ⟨"1"⟩, .unawaited ⟨0⟩ [] "interrupted"⟩
    let midway := (play parties [false, true, true, false, true]).journal.captured
    let after := (play parties [false, true, true, false, true, false]).journal.captured
    Function.Injective (fun b => (parties b).id) ∧
      midway.filter (·.isFrom ⟨"1"⟩) = (parties false).entries.take 2 ∧
      midway.filter (·.isFrom ⟨"2"⟩) = (parties true).entries ∧
      (matching "execute" "start" after).length =
        (matching "execute" "end" after).length +
          (matching "execute" "end_error" after).length := by
  intro parties midway after
  have hid : Function.Injective fun b => (parties b).id := by decide
  have hmidway := (play_tells parties hid).2 [false, true, true, false, true]
  have hafter := (play_tells parties hid).2 [false, true, true, false, true, false]
  exact ⟨hid, hmidway.own false, hmidway.whole true rfl, hafter.balanced (by decide)⟩

end Common

end TreeTool.Journal
