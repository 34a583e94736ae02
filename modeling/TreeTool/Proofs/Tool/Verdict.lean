import TreeTool.Journal.Logging
import TreeTool.Tool.Executor

/-!
# The three ends of a run

A program cannot be started, or it comes to its end in time, or it outlasts a limit that is not
zero. One of these holds of every call and every behaviour, and each leaves a result and a journal
of its own: three events, of which the last one closes the run and says which end it was.
-/

namespace TreeTool

open Text (Bytes)
open Journal (Captured Event Logging)

theorem Journal.Logging.captured_logAll {l : Logging} (h : l.subscriber = some .capture)
    (es : List Event) : (l.logAll es).captured = l.captured ++ es.map .ofEvent := by
  induction es generalizing l with
  | nil => simp [logAll]
  | cons e es ih =>
    have hl : l.log e = { l with captured := l.captured ++ [.ofEvent e] } := by
      rw [log, h]
    have hs : (l.log e).subscriber = some .capture := by rw [hl, h]
    have ht := ih hs
    rw [logAll] at ht ⊢
    rw [List.foldl_cons, ht, hl]
    simp

/-- How a run ends, with what becomes known of the program. -/
inductive Verdict
  | unstartable (reason : String)
  | finished (out err : Bytes) (ending : Ending)
  | expired (limit : Duration)
  deriving DecidableEq, Repr

namespace Call

/-- The limit that the call is given, its own before the executor's, has not passed. -/
def InTime (c : Call) (elapsed : Duration) : Prop :=
  ∀ l, c.timeout.or c.executor.timeout = some l → l.nanos = 0 ∨ elapsed.nanos ≤ l.nanos

/-- What a behaviour comes to under the limit of a call. -/
inductive Comes (c : Call) : Behaviour → Verdict → Prop
  | unstartable (reason : String) : Comes c (.notStarted reason) (.unstartable reason)
  | finished (elapsed : Duration) (out err : Bytes) (ending : Ending) :
    c.InTime elapsed → Comes c (.ends elapsed out err ending) (.finished out err ending)
  | expired (elapsed : Duration) (out err : Bytes) (ending : Ending) (l : Duration) :
    c.timeout.or c.executor.timeout = some l → 0 < l.nanos → l.nanos < elapsed.nanos →
    Comes c (.ends elapsed out err ending) (.expired l)

/-! ## What is left behind -/

/-- The result that the caller gets. -/
inductive Results (c : Call) : Verdict → Except Report Outcome → Prop
  | unstartable (reason : String) :
    Results c (.unstartable reason)
      (.ok { stdout := none
             stderr := some ("Failed to start '" ++ c.executor.program ++ "': " ++ reason)
             exitStatus := none })
  | finished (out err : Bytes) (ending : Ending) (o : Outcome) :
    o.stdout = some (Text.Utf8.decode out) →
    (c.executor.stderr = .capture → o.stderr = some (Text.Utf8.decode err)) →
    (c.executor.stderr = .inherit → o.stderr = none) →
    (∀ n, ending = .exited n → o.exitStatus = some (n : Int)) →
    (o.exitStatus = none ↔ ∃ signal, ending = .killed signal) →
    Results c (.finished out err ending) (.ok o)
  | expired (l : Duration) :
    Results c (.expired l)
      (.error { kind := .timeout
                activity := some "execute"
                operation := some (c.label.getD "-")
                message := "vata did not finish within " ++
                  toString (min l.wholeMillis Number.greatestWord) ++ " ms" })

def startEntry (c : Call) (id : RequestId) : Captured where
  level := .info
  op := some "execute"
  event := some "start"
  fields := [("component", "vata_engine::executor"), ("request_id", id.text),
    ("operation", c.label.getD "-"), ("program", c.executor.program),
    ("argc", toString c.arguments.length)]

def vectorEntry (c : Call) (id : RequestId) : Captured where
  level := .debug
  op := none
  event := none
  fields := [("message", "vata argument vector"), ("request_id", id.text),
    ("args", Text.quotedList c.arguments)]

def endEntry (c : Call) (id : RequestId) (millis : Nat) (status : Option Int) : Captured where
  level := .info
  op := some "execute"
  event := some "end"
  fields := [("component", "vata_engine::executor"), ("duration_ms", toString millis),
    ("request_id", id.text), ("operation", c.label.getD "-"),
    ("exit_status", Journal.statusText status)]

def failureEntry (c : Call) (id : RequestId) (millis : Nat) (kind code : String) : Captured where
  level := .error
  op := some "execute"
  event := some "end_error"
  fields := [("component", "vata_engine::executor"), ("duration_ms", toString millis),
    ("err.kind", kind), ("err.code", code), ("request_id", id.text),
    ("operation", c.label.getD "-")]

/-- The one event that closes a run, however long it took. -/
inductive Closes (c : Call) (id : RequestId) : Verdict → Except Report Outcome → Captured → Prop
  | unstartable (reason : String) (o : Outcome) (millis : Nat) :
    Closes c id (.unstartable reason) (.ok o) (c.failureEntry id millis "Spawn" "ERR_SPAWN")
  | finished (out err : Bytes) (ending : Ending) (o : Outcome) (millis : Nat) :
    Closes c id (.finished out err ending) (.ok o) (c.endEntry id millis o.exitStatus)
  | expired (l : Duration) (r : Report) (millis : Nat) :
    Closes c id (.expired l) (.error r) (c.failureEntry id millis "Timeout" "ERR_TIMEOUT")

end Call

/-! ## One behaviour -/

namespace Call

variable {c : Call} {b : Behaviour} {v : Verdict}

theorem limit_eq_some_iff {l : Duration} :
    c.limit = some l ↔ c.timeout.or c.executor.timeout = some l ∧ 0 < l.nanos := by
  rw [limit, Option.filter_eq_some_iff]
  simp [Duration.isZero, Nat.pos_iff_ne_zero]

theorem observed_of_comes (h : Comes c b v) :
    (∃ reason, v = .unstartable reason ∧ b.observed c.limit = .notStarted reason) ∨
    (∃ elapsed out err ending, v = .finished out err ending ∧
      b.observed c.limit = .ended elapsed out err ending) ∨
    (∃ l, v = .expired l ∧ b.observed c.limit = .expired l) := by
  cases h with
  | unstartable reason => exact Or.inl ⟨reason, rfl, rfl⟩
  | finished elapsed out err ending ht =>
    refine Or.inr (Or.inl ⟨elapsed, out, err, ending, rfl, ?_⟩)
    simp only [Behaviour.observed]
    cases hl : c.limit with
    | none => rfl
    | some l =>
      obtain ⟨hc, hpos⟩ := limit_eq_some_iff.mp hl
      have hle : elapsed.nanos ≤ l.nanos := (ht l hc).resolve_left (by omega)
      simp [hle]
  | expired elapsed out err ending l hc hpos hlt =>
    refine Or.inr (Or.inr ⟨l, rfl, ?_⟩)
    have hl : c.limit = some l := limit_eq_some_iff.mpr ⟨hc, hpos⟩
    have hgt : ¬ elapsed.nanos ≤ l.nanos := by omega
    simp only [Behaviour.observed, hl, hgt, if_false]

theorem exists_comes (c : Call) (b : Behaviour) : ∃ v, Comes c b v := by
  cases b with
  | notStarted reason => exact ⟨_, .unstartable reason⟩
  | ends elapsed out err ending =>
    cases hc : c.timeout.or c.executor.timeout with
    | none =>
      have ht : c.InTime elapsed := by
        intro l hl
        rw [hc] at hl
        cases hl
      exact ⟨_, .finished elapsed out err ending ht⟩
    | some l =>
      by_cases hl : 0 < l.nanos ∧ l.nanos < elapsed.nanos
      · exact ⟨_, .expired elapsed out err ending l hc hl.1 hl.2⟩
      · have ht : c.InTime elapsed := by
          intro l' hl'
          rw [hc] at hl'
          cases hl'
          omega
        exact ⟨_, .finished elapsed out err ending ht⟩

theorem comes_unique {w : Verdict} (hv : Comes c b v) (hw : Comes c b w) : w = v := by
  cases hv with
  | unstartable reason =>
    cases hw
    rfl
  | finished elapsed out err ending ht =>
    cases hw with
    | finished => rfl
    | expired _ _ _ _ l hc hpos hlt =>
      have hl := ht l hc
      omega
  | expired elapsed out err ending l hc hpos hlt =>
    cases hw with
    | finished _ _ _ _ ht =>
      have hl := ht l hc
      omega
    | expired _ _ _ _ l' hc' =>
      rw [hc] at hc'
      cases hc'
      rfl

/-! ## One run -/

theorem results_run (id : RequestId) (h : Comes c b v) : Results c v (c.run id b).outcome := by
  rw [run]
  rcases observed_of_comes h with ⟨reason, rfl, ho⟩ | ⟨elapsed, out, err, ending, rfl, ho⟩ |
    ⟨l, rfl, ho⟩
  · rw [ho]
    exact .unstartable reason
  · rw [ho]
    refine .finished out err ending _ rfl ?_ ?_ ?_ ?_
    · intro hm
      simp [collected, hm]
    · intro hm
      simp [collected, hm]
    · rintro n rfl
      rfl
    · cases ending <;> simp [collected, Ending.status?]
  · rw [ho]
    exact .expired l

theorem map_ofEvent_run (id : RequestId) (h : Comes c b v) :
    ∃ z, Closes c id v (c.run id b).outcome z ∧
      (c.run id b).events.map Captured.ofEvent = [c.startEntry id, c.vectorEntry id, z] := by
  rw [run]
  rcases observed_of_comes h with ⟨reason, rfl, ho⟩ | ⟨elapsed, out, err, ending, rfl, ho⟩ |
    ⟨l, rfl, ho⟩
  · rw [ho]
    exact ⟨_, .unstartable reason _ 0, rfl⟩
  · rw [ho]
    exact ⟨_, .finished out err ending _ elapsed.wholeMillis, rfl⟩
  · rw [ho]
    exact ⟨_, .expired l _ l.wholeMillis, rfl⟩

/-- Every run ends in exactly one of the three ways, with the result and the journal of that way. -/
theorem run_ends (c : Call) (id : RequestId) (b : Behaviour) :
    ∃ v, (∀ w, Comes c b w ↔ w = v) ∧ Results c v (c.run id b).outcome ∧
      ∃ z, Closes c id v (c.run id b).outcome z ∧
        ∀ l : Logging, l.subscriber = some .capture →
          (l.logAll (c.run id b).events).captured =
            l.captured ++ [c.startEntry id, c.vectorEntry id, z] := by
  obtain ⟨v, hv⟩ := exists_comes c b
  obtain ⟨z, hz, he⟩ := map_ofEvent_run id hv
  refine ⟨v, fun w => ⟨comes_unique hv, fun h => h ▸ hv⟩, results_run id hv, z, hz, ?_⟩
  intro l hl
  rw [Logging.captured_logAll hl, he]

theorem run_ends_late :
    ∃ z, Closes ⟨{ timeout := some ⟨0⟩ }, some "incl", ["-r"], some (.ofMillis 250)⟩ ⟨"id"⟩
        (.expired (.ofMillis 250))
        (.error { kind := .timeout, activity := some "execute", operation := some "incl",
                  message := "vata did not finish within 250 ms" }) z ∧
      ((Logging.startCapture {}).logAll
        (run ⟨{ timeout := some ⟨0⟩ }, some "incl", ["-r"], some (.ofMillis 250)⟩ ⟨"id"⟩
          (.ends (.ofMillis 300) [104, 105] [] (.exited 0))).events).captured =
        [startEntry ⟨{ timeout := some ⟨0⟩ }, some "incl", ["-r"], some (.ofMillis 250)⟩ ⟨"id"⟩,
          vectorEntry ⟨{ timeout := some ⟨0⟩ }, some "incl", ["-r"], some (.ofMillis 250)⟩ ⟨"id"⟩,
          z] := by
  let c : Call := ⟨{ timeout := some ⟨0⟩ }, some "incl", ["-r"], some (.ofMillis 250)⟩
  let b : Behaviour := .ends (.ofMillis 300) [104, 105] [] (.exited 0)
  obtain ⟨v, hv, -, z, hz, hl⟩ := run_ends c ⟨"id"⟩ b
  obtain rfl : .expired (.ofMillis 250) = v :=
    (hv _).mp (.expired _ _ _ _ _ rfl (by decide) (by decide))
  exact ⟨z, hz, hl (Logging.startCapture {}) rfl⟩

end Call

end TreeTool
