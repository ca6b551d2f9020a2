import Yuha.Core.Session.Metadata
import Yuha.Library.Execution

/-!
# The circuit breaker

The breaker opens after so many failures in a row, and lets a call through again when some
time has passed since the last of them. What it keeps, a state, a count and a time, is what
the history of its calls says.

## Implementation notes

`success_threshold` is never read and is left out. The count wraps, as it would in a release
build; fewer than `2 ^ 32` calls cannot make it. `failures` and `lastFailure` of a
`BreakerHistory` are not in the code.
-/

namespace Yuha

open Library Library.Execution

inductive CircuitState
  | closed
  | «open»
  | halfOpen
  deriving DecidableEq, Repr

structure CircuitBreaker where
  state : CircuitState := .closed
  failureCount : UInt32 := 0
  failureThreshold : UInt32
  timeout : Duration
  lastFailureTime : Option SystemTime := none
  deriving DecidableEq, Repr

inductive BreakerCall
  | canExecute
  | recordSuccess
  | recordFailure
  deriving DecidableEq, Repr

structure BreakerEvent where
  call : BreakerCall
  now : SystemTime
  deriving DecidableEq, Repr

namespace CircuitBreaker

def new (failureThreshold : UInt32) (timeout : Duration) : CircuitBreaker :=
  { failureThreshold, timeout }

def canExecute (breaker : CircuitBreaker) (now : SystemTime) : Bool × CircuitBreaker :=
  match breaker.state with
  | .closed => (true, breaker)
  | .open =>
      match breaker.lastFailureTime with
      | some lastFailure =>
          if breaker.timeout ≤ now.since lastFailure then
            (true, { breaker with state := .halfOpen })
          else
            (false, breaker)
      | none => (true, breaker)
  | .halfOpen => (true, breaker)

def recordSuccess (breaker : CircuitBreaker) : CircuitBreaker :=
  match breaker.state with
  | .halfOpen => { breaker with state := .closed, failureCount := 0 }
  | .closed => { breaker with failureCount := 0 }
  | .open => breaker

def recordFailure (breaker : CircuitBreaker) (now : SystemTime) : CircuitBreaker :=
  let failureCount := breaker.failureCount + 1
  { breaker with
    failureCount := failureCount
    lastFailureTime := some now
    state := if breaker.failureThreshold ≤ failureCount then .open else breaker.state }

def apply (breaker : CircuitBreaker) (event : BreakerEvent) : CircuitBreaker :=
  match event.call with
  | .canExecute => (breaker.canExecute event.now).2
  | .recordSuccess => breaker.recordSuccess
  | .recordFailure => breaker.recordFailure event.now

end CircuitBreaker

/-- A breaker with the failures since the last success that took effect, and the time of the
last failure. -/
structure BreakerHistory where
  breaker : CircuitBreaker
  failures : Nat := 0
  lastFailure : Option SystemTime := none

namespace BreakerHistory

def new (failureThreshold : UInt32) (timeout : Duration) : BreakerHistory where
  breaker := .new failureThreshold timeout

/-- A success that is recorded while the breaker is open takes no effect. -/
def step (history : BreakerHistory) (event : BreakerEvent) : BreakerHistory where
  breaker := history.breaker.apply event
  failures :=
    match event.call with
    | .canExecute => history.failures
    | .recordSuccess => if history.breaker.state = .open then history.failures else 0
    | .recordFailure => history.failures + 1
  lastFailure :=
    match event.call with
    | .recordFailure => some event.now
    | _ => history.lastFailure

/-- What the breaker keeps is what its history says. -/
structure Kept (failureThreshold : UInt32) (timeout : Duration) (history : BreakerHistory) :
    Prop where
  same_threshold : history.breaker.failureThreshold = failureThreshold
  same_timeout : history.breaker.timeout = timeout
  count : history.breaker.failureCount.toNat = history.failures
  time : history.breaker.lastFailureTime = history.lastFailure
  closed_iff : history.breaker.state = .closed ↔ history.failures < failureThreshold.toNat
  failed_of_open : history.breaker.state = .open → history.lastFailure.isSome

variable {failureThreshold : UInt32} {timeout : Duration} {history : BreakerHistory}

theorem kept_new (h : 1 ≤ failureThreshold.toNat) (timeout : Duration) :
    Kept failureThreshold timeout (new failureThreshold timeout) :=
  ⟨rfl, rfl, rfl, rfl, iff_of_true rfl h, by rintro ⟨⟩⟩

/-- All that a call can ask of the breaker but half open it. -/
theorem canExecute_snd (breaker : CircuitBreaker) (now : SystemTime) :
    (breaker.canExecute now).2 = breaker ∨
      breaker.state = .open ∧ (breaker.canExecute now).2 = { breaker with state := .halfOpen } := by
  unfold CircuitBreaker.canExecute
  split
  · exact Or.inl rfl
  · next hopen =>
      split
      · split
        · exact Or.inr ⟨hopen, rfl⟩
        · exact Or.inl rfl
      · exact Or.inl rfl
  · exact Or.inl rfl

theorem Kept.canExecute (h : Kept failureThreshold timeout history) (now : SystemTime) :
    Kept failureThreshold timeout (history.step ⟨.canExecute, now⟩) := by
  simp only [step, CircuitBreaker.apply]
  rcases canExecute_snd history.breaker now with hsame | ⟨hopen, hhalf⟩
  · rw [hsame]
    exact h
  · rw [hhalf]
    have hmany : ¬ history.failures < failureThreshold.toNat := by
      rw [← h.closed_iff, hopen]
      decide
    exact ⟨h.same_threshold, h.same_timeout, h.count, h.time, iff_of_false (by simp) hmany,
      by rintro ⟨⟩⟩

theorem Kept.recordSuccess (h : Kept failureThreshold timeout history)
    (hthreshold : 1 ≤ failureThreshold.toNat) (now : SystemTime) :
    Kept failureThreshold timeout (history.step ⟨.recordSuccess, now⟩) := by
  simp only [step, CircuitBreaker.apply, CircuitBreaker.recordSuccess]
  cases hstate : history.breaker.state with
  | «open» => simpa using h
  | closed | halfOpen =>
      exact ⟨h.same_threshold, h.same_timeout, rfl, h.time, iff_of_true rfl hthreshold,
        by rintro ⟨⟩⟩

/-- The count does not wrap, so it reaches the threshold where the failures do. -/
theorem Kept.toNat_succ (h : Kept failureThreshold timeout history)
    (hcount : history.failures + 1 < 2 ^ 32) :
    (history.breaker.failureCount + 1).toNat = history.failures + 1 := by
  rw [UInt32.toNat_add, h.count]
  exact Nat.mod_eq_of_lt hcount

theorem Kept.state_recordFailure (h : Kept failureThreshold timeout history)
    (hcount : history.failures + 1 < 2 ^ 32) (now : SystemTime) :
    (history.breaker.recordFailure now).state =
      if failureThreshold.toNat ≤ history.failures + 1 then .open
      else history.breaker.state := by
  simp only [CircuitBreaker.recordFailure, UInt32.le_iff_toNat_le, h.same_threshold,
    h.toNat_succ hcount]

theorem Kept.recordFailure (h : Kept failureThreshold timeout history)
    (hcount : history.failures + 1 < 2 ^ 32) (now : SystemTime) :
    Kept failureThreshold timeout (history.step ⟨.recordFailure, now⟩) := by
  have hstate := h.state_recordFailure hcount now
  refine ⟨h.same_threshold, h.same_timeout, h.toNat_succ hcount, rfl, ?_, fun _ => rfl⟩
  simp only [step, CircuitBreaker.apply, hstate]
  split
  · next hmany => exact iff_of_false (by simp) (Nat.not_lt.mpr hmany)
  · next hfew =>
      have hclosed := h.closed_iff
      rw [hclosed]
      omega

theorem failures_step_le (history : BreakerHistory) (event : BreakerEvent) :
    (history.step event).failures ≤ history.failures + 1 := by
  obtain ⟨call, now⟩ := event
  cases call with
  | canExecute => exact Nat.le_succ _
  | recordSuccess =>
      simp only [step]
      split <;> omega
  | recordFailure => exact Nat.le_refl _

/-- The breaker keeps its history throughout a run that is too short for the count to wrap. -/
theorem kept_run (hthreshold : 1 ≤ failureThreshold.toNat) (timeout : Duration)
    {events : List BreakerEvent} (hlength : events.length < 2 ^ 32) :
    Kept failureThreshold timeout (run step (new failureThreshold timeout) events) ∧
      (run step (new failureThreshold timeout) events).failures ≤ events.length := by
  induction events using List.reverseRecOn with
  | nil => exact ⟨kept_new hthreshold timeout, Nat.le_refl _⟩
  | append_singleton events event ih =>
      rw [List.length_append, List.length_singleton] at hlength
      obtain ⟨hkept, hfailures⟩ := ih (by omega)
      rw [run_append, run_cons, run_nil, List.length_append, List.length_singleton]
      refine ⟨?_, (failures_step_le _ event).trans (Nat.add_le_add_right hfailures 1)⟩
      obtain ⟨call, now⟩ := event
      cases call with
      | canExecute => exact hkept.canExecute now
      | recordSuccess => exact hkept.recordSuccess hthreshold now
      | recordFailure => exact hkept.recordFailure (by omega) now

/-- A call is refused while the breaker is open and the timeout has not passed since the last
failure. -/
theorem Kept.canExecute_eq_false_iff (h : Kept failureThreshold timeout history)
    (now : SystemTime) :
    (history.breaker.canExecute now).1 = false ↔ history.breaker.state = .open ∧
      ∃ lastFailure, history.lastFailure = some lastFailure ∧
        now.since lastFailure < timeout := by
  rw [← h.time, ← h.same_timeout]
  unfold CircuitBreaker.canExecute
  cases hstate : history.breaker.state with
  | closed | halfOpen => simp
  | «open» =>
      cases htime : history.breaker.lastFailureTime with
      | none => simp
      | some lastFailure =>
          by_cases hpassed : history.breaker.timeout ≤ now.since lastFailure
          · simp [hpassed]
          · simp [hpassed, Nat.not_le.mp hpassed]

/-- What the breaker does is what the history of its calls says. -/
theorem circuitBreaker_follows_history (hthreshold : 1 ≤ failureThreshold.toNat)
    (timeout : Duration) {events : List BreakerEvent} (hlength : events.length < 2 ^ 32) :
    let history := run step (new failureThreshold timeout) events
    (history.breaker.state = .closed ↔ history.failures < failureThreshold.toNat) ∧
      (∀ now : SystemTime, (history.breaker.canExecute now).1 = false ↔
        history.breaker.state = .open ∧ ∃ lastFailure : SystemTime,
          history.lastFailure = some lastFailure ∧ now.since lastFailure < timeout) ∧
      (∀ now : SystemTime, events.length + 1 < 2 ^ 32 → history.breaker.state = .halfOpen →
        (history.breaker.recordFailure now).state = .open) ∧
      ¬ (history.breaker.state = .open ∧ history.breaker.lastFailureTime = none) := by
  intro history
  obtain ⟨hkept, hfailures⟩ : Kept failureThreshold timeout history ∧
      history.failures ≤ events.length := kept_run hthreshold timeout hlength
  refine ⟨hkept.closed_iff, hkept.canExecute_eq_false_iff, fun now hnext hhalf => ?_, ?_⟩
  · have hmany : ¬ history.failures < failureThreshold.toNat := by
      rw [← hkept.closed_iff, hhalf]
      decide
    rw [hkept.state_recordFailure (by omega), if_pos (by omega)]
  · rintro ⟨hopen, hnone⟩
    have hsome := hkept.failed_of_open hopen
    rw [← hkept.time, hnone] at hsome
    cases hsome

/-- Two failures open the breaker, which refuses a call until the timeout has passed. -/
theorem refuses_twoFailures :
    let events : List BreakerEvent := [⟨.recordFailure, 0⟩, ⟨.recordFailure, 5⟩]
    ((run step (new 2 100) events).breaker.canExecute 7).1 = false :=
  ((circuitBreaker_follows_history (by decide) 100 (by decide)).2.1 7).mpr
    ⟨by decide, 5, by decide, by decide⟩

end BreakerHistory

end Yuha
