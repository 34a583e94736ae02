import TreeTool.Proofs.Tool.Errands
import TreeTool.Proofs.Tool.Verdict
import TreeTool.Settings.Basic

/-!
# The limit of a run

A call may bring a limit of its own, and an executor may have one. The one that counts is chosen
first and only then asked whether it is zero, so a call that brings zero waits as long as it takes
whatever its executor says. Settings leave a zero out of the executor beforehand, which no run can
tell from handing it on.
-/

namespace TreeTool

open Text (Bytes)

def overdue (millis : Nat) (operation : String) : Report :=
  (Fault.timeout (min millis Number.greatestWord)).report.withOperation operation

namespace Call

structure Applies (c : Call) (limit : Option Duration) : Prop where
  starts : ∀ (start : Starter) (id : RequestId) (m : Machine),
    let (b, m') := start m c.executor.stderr limit c.executor.program c.arguments
    c.on start id m = (c.run id b, m')
  expires : ∀ (id : RequestId) (elapsed : Duration) (out err : Bytes) (ending : Ending)
    (r : Report),
    (c.run id (.ends elapsed out err ending)).outcome = .error r ↔
      ∃ l, limit = some l ∧ l.nanos < elapsed.nanos ∧
        r = overdue (l.nanos / 1000000) (c.label.getD "-")
  positive : ∀ r, c.Replies (.error r) → r.kind = .timeout →
    ∃ l, limit = some l ∧ 0 < l.nanos ∧ r = overdue (l.nanos / 1000000) (c.label.getD "-")

end Call

namespace Executor

structure Alike (x y : Executor) : Prop where
  runs : ∀ (label : Option String) (arguments : List String) (own : Option Duration)
    (start : Starter) (id : RequestId) (m : Machine),
    (⟨x, label, arguments, own⟩ : Call).on start id m =
      (⟨y, label, arguments, own⟩ : Call).on start id m
  unawaited : ∀ (label : Option String) (arguments : List String) (own : Option Duration)
    (id : RequestId) (elapsed : Duration) (err : Bytes) (reason : String),
    (⟨x, label, arguments, own⟩ : Call).unawaited id elapsed err reason =
      (⟨y, label, arguments, own⟩ : Call).unawaited id elapsed err reason

end Executor

namespace Settings

def plainCall (s : Settings) (label : Option String) (arguments : List String) : Call :=
  ⟨s.executor, label, arguments, none⟩

end Settings

/-! ## The limit of a call -/

theorem filter_some_of_zero {d : Duration} (h : d.nanos = 0) :
    (some d).filter (fun d => !d.isZero) = none := by
  simp [Option.filter, Duration.isZero, h]

theorem filter_some_of_pos {d : Duration} (h : 0 < d.nanos) :
    (some d).filter (fun d => !d.isZero) = some d := by
  have hd : d.nanos ≠ 0 := by omega
  simp [Option.filter, Duration.isZero, hd]

namespace Call

variable {c : Call} {id : RequestId} {r : Report}

theorem outcome_ends_iff {elapsed : Duration} {out err : Bytes} {ending : Ending} :
    (c.run id (.ends elapsed out err ending)).outcome = .error r ↔
      ∃ l, c.limit = some l ∧ l.nanos < elapsed.nanos ∧
        r = overdue (l.nanos / 1000000) (c.label.getD "-") := by
  simp only [run, Behaviour.observed]
  cases c.limit with
  | none => simp [closed]
  | some l =>
    by_cases hle : elapsed.nanos ≤ l.nanos
    · have hn : ¬ l.nanos < elapsed.nanos := by omega
      simp [closed, hle, hn]
    · have hlt : l.nanos < elapsed.nanos := by omega
      simp only [hle, if_false, closed, Except.error.injEq, Option.some.injEq, exists_eq_left', hlt,
        true_and]
      exact eq_comm

end Call

/-! ## The limit of settings -/

namespace Settings

variable {s : Settings} {n : Nat}

theorem timeout_of_pos (h : s.timeoutMillis = some n) (hn : 0 < n) :
    s.timeout = some (.ofMillis n) := by
  simp [timeout, h, hn]

theorem timeout_of_zero (h : s.timeoutMillis = some 0) : s.timeout = none := by
  simp [timeout, h]

theorem limit_eq (h : s.timeoutMillis = some n) (label : Option String) (arguments : List String)
    (own : Option Duration) :
    (⟨s.executor, label, arguments, own⟩ : Call).limit =
      (⟨⟨s.binary, some (.ofMillis n), s.stderr⟩, label, arguments, own⟩ : Call).limit := by
  rcases Nat.eq_zero_or_pos n with rfl | hn
  · have hz : (Duration.ofMillis 0).nanos = 0 := rfl
    simp only [Call.limit, executor, timeout_of_zero h]
    cases own with
    | none => rw [Option.none_or, Option.none_or, filter_some_of_zero hz]; rfl
    | some d => rw [Option.some_or, Option.some_or]
  · simp only [Call.limit, executor, timeout_of_pos h hn]

theorem limit_plainCall_of_pos (h : s.timeoutMillis = some n) (hn : 0 < n)
    (label : Option String) (arguments : List String) :
    (s.plainCall label arguments).limit = some (.ofMillis n) := by
  have hd : 0 < (Duration.ofMillis n).nanos := by
    simp only [Duration.ofMillis]
    omega
  rw [plainCall, limit_eq h, Call.limit, Option.none_or, filter_some_of_pos hd]

theorem limit_plainCall_of_zero (h : s.timeoutMillis = some 0) (label : Option String)
    (arguments : List String) : (s.plainCall label arguments).limit = none := by
  rw [plainCall, Call.limit, executor, timeout_of_zero h]
  rfl

theorem overdue_ofMillis (hn : n ≤ Number.greatestWord) (operation : String) :
    overdue ((Duration.ofMillis n).nanos / 1000000) operation =
      (Fault.timeout n).report.withOperation operation := by
  have hm : (Duration.ofMillis n).nanos / 1000000 = n := Nat.mul_div_cancel n (by decide)
  rw [overdue, hm, Nat.min_eq_left hn]

theorem reported (h : s.timeoutMillis = some n) (hn : n ≤ Number.greatestWord)
    (label : Option String) (arguments : List String) (id : RequestId) (elapsed : Duration)
    (out err : Bytes) (ending : Ending) (r : Report) :
    ((s.plainCall label arguments).run id (.ends elapsed out err ending)).outcome = .error r ↔
      0 < n ∧ n * 1000000 < elapsed.nanos ∧
        r = (Fault.timeout n).report.withOperation (label.getD "-") := by
  rw [Call.outcome_ends_iff]
  rcases Nat.eq_zero_or_pos n with rfl | hpos
  · simp [limit_plainCall_of_zero h]
  · rw [limit_plainCall_of_pos h hpos]
    simp only [Option.some.injEq, exists_eq_left', hpos, true_and, overdue_ofMillis hn]
    rfl

end Settings

end TreeTool
