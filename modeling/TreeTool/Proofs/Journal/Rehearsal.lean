import TreeTool.Proofs.Journal.Interleaving

/-!
# A capture beside the test profile

The test profile and a capture ask for the one place of a subscriber, and whichever is first keeps
it. Before a capture is asked for, the place is free or taken by the test profile, and nothing else
is kept of what was logged. From then on the subscriber stays the same at every step, and what the
handles to the capture show grows by the events that it records.
-/

namespace TreeTool.Journal

/-- What every handle to the capture shows. All handles share it, and there is none before a capture
is asked for. -/
def Logging.shown? (l : Logging) : Option (List Captured) :=
  if l.capturing then some l.captured else none

/-- A step of a process under test: the test profile, a request for a capture, or an event. -/
inductive Act
  | settle
  | capture
  | log (e : Event)
  deriving DecidableEq, Repr

namespace Act

/-- One step, in an environment with or without a filter text. -/
def perform (filterText? : Option String) (l : Logging) : Act → Logging
  | settle => l.apply filterText? .test
  | capture => l.startCapture
  | log e => l.log e

def performAll (filterText? : Option String) (l : Logging) (as : List Act) : Logging :=
  as.foldl (perform filterText?) l

def event? : Act → Option Event
  | log e => some e
  | _ => none

def logged (as : List Act) : List Event := as.filterMap event?

variable {filterText? : Option String} {settled : Bool} {l : Logging} {before : List Act}

/-! ## Before a capture is asked for -/

def idle : Bool → Logging
  | false => {}
  | true => { settled := true, subscriber := some .silent }

theorem perform_idle (settled : Bool) {a : Act} (ha : a ≠ capture) :
    a.perform filterText? (idle settled) = idle (settled || a = settle) := by
  cases a with
  | settle => cases settled <;> rfl
  | capture => exact absurd rfl ha
  | log e => cases settled <;> rfl

theorem performAll_idle (settled : Bool) (h : capture ∉ before) :
    performAll filterText? (idle settled) before = idle (settled || settle ∈ before) := by
  induction before generalizing settled with
  | nil => simp [performAll]
  | cons a before ih =>
    obtain ⟨ha, hbefore⟩ := List.ne_and_not_mem_of_not_mem_cons h
    rw [performAll, List.foldl_cons, perform_idle settled ha.symm, ← performAll, ih _ hbefore]
    congr 1
    simp [Bool.or_assoc, eq_comm]

/-! ## After it -/

def holder : Bool → Subscriber
  | false => .capture
  | true => .silent

/-- What of the events the capture keeps. -/
def kept : Bool → List Event → List Captured
  | false, es => es.map .ofEvent
  | true, _ => []

theorem kept_append (settled : Bool) (es es' : List Event) :
    kept settled (es ++ es') = kept settled es ++ kept settled es' := by
  cases settled with
  | false => exact List.map_append
  | true => rfl

theorem kept_nil (settled : Bool) : kept settled [] = [] := by
  cases settled <;> rfl

theorem logged_cons (a : Act) (as : List Act) :
    logged (a :: as) = a.event?.toList ++ logged as := by
  cases a <;> rfl

structure Running (settled : Bool) (l : Logging) : Prop where
  capturing : l.capturing = true
  subscriber : l.subscriber = some (holder settled)

theorem running_startCapture (settled : Bool) : Running settled (idle settled).startCapture := by
  cases settled <;> exact ⟨rfl, rfl⟩

theorem log_running (h : Running settled l) (e : Event) : Running settled (l.log e) ∧
    (l.log e).captured = l.captured ++ kept settled [e] := by
  obtain ⟨hc, hs⟩ := h
  have hsub := (l.subscriber_log e).trans hs
  rw [Logging.log, hs] at hsub ⊢
  cases settled with
  | false => exact ⟨⟨hc, hsub⟩, rfl⟩
  | true => exact ⟨⟨hc, hsub⟩, (List.append_nil _).symm⟩

theorem apply_running (filterText? : Option String) (h : Running settled l) :
    Running settled (l.apply filterText? .test) ∧
      (l.apply filterText? .test).captured = l.captured := by
  have hinstall : l.install .silent = l := by
    rw [Logging.install, h.subscriber]
    exact congrArg (fun s => { l with subscriber := s }) h.subscriber.symm
  rw [Logging.apply]
  split
  · exact ⟨h, rfl⟩
  · simp only [Profile.subscriber, hinstall, and_true]
    exact ⟨h.capturing, h.subscriber⟩

theorem perform_running (filterText? : Option String) (h : Running settled l) (a : Act) :
    Running settled (a.perform filterText? l) ∧
      (a.perform filterText? l).captured = l.captured ++ kept settled a.event?.toList := by
  have hnone : l.captured ++ kept settled [] = l.captured := by
    rw [kept_nil, List.append_nil]
  cases a with
  | settle =>
    obtain ⟨hr, hc⟩ := apply_running filterText? h
    exact ⟨hr, hc.trans hnone.symm⟩
  | capture =>
    have hstart : l.startCapture = l := if_pos h.capturing
    rw [perform, hstart]
    exact ⟨h, hnone.symm⟩
  | log e => exact log_running h e

theorem performAll_running (filterText? : Option String) (h : Running settled l) (as : List Act) :
    Running settled (performAll filterText? l as) ∧
      (performAll filterText? l as).captured = l.captured ++ kept settled (logged as) := by
  induction as generalizing l with
  | nil => exact ⟨h, by rw [logged, List.filterMap_nil, kept_nil, List.append_nil]; rfl⟩
  | cons a as ih =>
    obtain ⟨hr, hc⟩ := perform_running filterText? h a
    obtain ⟨hrun, hcaptured⟩ := ih hr
    refine ⟨hrun, hcaptured.trans ?_⟩
    rw [hc, List.append_assoc, ← kept_append, ← logged_cons]

/-! ## Whichever comes first -/

/-- The handles to a capture show exactly the events after the first request for it, in their order,
if the test profile was not applied before. Otherwise they show nothing. -/
theorem shown_after_capture (filterText? : Option String) (before after : List Act)
    (h : capture ∉ before) :
    (performAll filterText? {} before).shown? = none ∧
      (performAll filterText? {} (before ++ capture :: after)).shown? =
        some (if settle ∈ before then [] else (logged after).map .ofEvent) := by
  have hidle : performAll filterText? {} before = idle (settle ∈ before) :=
    performAll_idle false h
  have hplay : performAll filterText? {} (before ++ capture :: after) =
      performAll filterText? (idle (settle ∈ before)).startCapture after := by
    rw [← hidle]
    exact List.foldl_append
  obtain ⟨hrun, hcaptured⟩ := performAll_running filterText?
    (running_startCapture (settle ∈ before)) after
  rw [hidle, hplay]
  constructor
  · cases decide (settle ∈ before) <;> rfl
  · rw [Logging.shown?, if_pos hrun.capturing, hcaptured]
    by_cases hs : settle ∈ before <;> simp [hs, kept, Logging.startCapture, idle, Logging.install]

theorem shown_after_capture_twice :
    let early := Event.started "suite" "prepare" []
    let late := Event.ended "suite" "check" 5 []
    capture ∉ [log early] ∧
      (performAll none {} [log early, capture, settle, log late, capture]).shown? =
        some [.ofEvent late] := by
  intro early late
  have h : capture ∉ [log early] := by simp
  exact ⟨h, (shown_after_capture none [log early] [settle, log late, capture] h).2⟩

/-- A capture that is asked for after the profile misses an event that is logged after both. -/
theorem shown_after_settle :
    let e := Event.started "suite" "check" []
    (performAll none {} [settle, capture, log e]).shown? = some [] ∧
      logged [settle, capture, log e] = [e] :=
  ⟨rfl, rfl⟩

end Act

end TreeTool.Journal
