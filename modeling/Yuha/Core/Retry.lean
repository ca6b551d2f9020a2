import Mathlib.Algebra.Order.BigOperators.Group.List
import Mathlib.Algebra.Order.Ring.Nat
import Yuha.Core.Error
import Yuha.Core.Session.Metadata

/-!
# Trying again

`retry_async` calls an operation until it succeeds, fails for good, or has been tried as
often as the policy allows. It sleeps before every further call.

## Implementation notes

The product of the initial delay and the power of the multiplier is a floating-point number,
cast to `u64`. `backoffMillis` is the result of the cast, which can be any number. The random
numbers are drawn by a function of the attempt and the range.
-/

namespace Yuha

def Duration.fromMillis (millis : Nat) : Duration := millis * 1000000

def Duration.asMillis (duration : Duration) : Nat := duration / 1000000

structure RetryPolicy where
  maxAttempts : UInt32 := 3
  maxDelay : Duration := Duration.fromSecs 30
  jitter : Bool := true
  /-- `initial_delay.as_millis() as f64 * backoff_multiplier.powi(attempt - 1)`, as a `u64`. -/
  backoffMillis : Nat → UInt64

/-- For each attempt, `fastrand::u64(0..=range)`. -/
abbrev Draws := Nat → (range : Nat) → Fin (range + 1)

namespace RetryPolicy

def backoff (policy : RetryPolicy) (attempt : Nat) : Duration :=
  Duration.fromMillis (policy.backoffMillis attempt).toNat

/-- The jitter of an attempt, if there is any. -/
def jitterFor (policy : RetryPolicy) (draws : Draws) (attempt : Nat) : Duration :=
  let delay := min (policy.backoff attempt) policy.maxDelay
  let jitterRange := delay.asMillis / 10
  Duration.fromMillis (draws attempt jitterRange)

def delayForAttempt (policy : RetryPolicy) (draws : Draws) (attempt : Nat) : Duration :=
  if attempt = 0 then
    0
  else
    let delay := min (policy.backoff attempt) policy.maxDelay
    if policy.jitter then delay + policy.jitterFor draws attempt else delay

def shouldRetry (policy : RetryPolicy) (error : YuhaError) (attempt : Nat) : Bool :=
  if policy.maxAttempts.toNat ≤ attempt then false else error.isRetriable

end RetryPolicy

inductive RetryStep
  | sleep (delay : Duration)
  | call
  deriving DecidableEq, Repr

/-- What `retry_async` did, and whether it came to the fallback after the loop. -/
structure Retried (T : Type) where
  steps : List RetryStep
  result : Except YuhaError T
  fallback : Bool
  deriving DecidableEq

section

variable {T : Type} (policy : RetryPolicy) (draws : Draws) (operation : Nat → Except YuhaError T)

/-- The rest of the loop, with so many attempts left. The outcome of each call is given by
the number of calls before it. -/
def retryFrom : Nat → Nat → Option YuhaError → Retried T
  | 0, _, lastError =>
      { steps := []
        result := .error (lastError.getD (.internal "Retry operation failed without error"))
        fallback := true }
  | remaining + 1, attempt, _ =>
      let slept := if attempt > 0 then [.sleep (policy.delayForAttempt draws attempt)] else []
      match operation attempt with
      | .ok result => { steps := slept ++ [.call], result := .ok result, fallback := false }
      | .error error =>
          if !policy.shouldRetry error attempt then
            { steps := slept ++ [.call], result := .error error, fallback := false }
          else
            let rest := retryFrom remaining (attempt + 1) (some error)
            { rest with steps := slept ++ .call :: rest.steps }

def retryAsync : Retried T :=
  retryFrom policy draws operation (policy.maxAttempts.toNat + 1) 0 none

/-- What one turn of the loop does. -/
def turnSteps (attempt : Nat) : List RetryStep :=
  (if attempt > 0 then [.sleep (policy.delayForAttempt draws attempt)] else []) ++ [.call]

end

/-- The call failed, and it is worth to try again. -/
def FailsRetriably {T : Type} (outcome : Except YuhaError T) : Prop :=
  ∃ error, outcome = .error error ∧ error.isRetriable = true

section

variable {T : Type} {policy : RetryPolicy} {draws : Draws} {operation : Nat → Except YuhaError T}

theorem shouldRetry_iff {error : YuhaError} {attempt : Nat} :
    policy.shouldRetry error attempt = true ↔
      attempt < policy.maxAttempts.toNat ∧ error.isRetriable = true := by
  unfold RetryPolicy.shouldRetry
  split
  · simp; omega
  · simp; omega

/-- The loop ends with a turn that does not go on. -/
theorem retryFrom_of_stops {remaining attempt : Nat}
    (h : attempt = policy.maxAttempts.toNat ∨ ¬ FailsRetriably (operation attempt))
    (lastError : Option YuhaError) :
    retryFrom policy draws operation (remaining + 1) attempt lastError =
      { steps := turnSteps policy draws attempt
        result := operation attempt
        fallback := false } := by
  rw [retryFrom]
  cases houtcome : operation attempt with
  | ok result => rfl
  | error error =>
      have hstop : policy.shouldRetry error attempt = false := by
        rw [Bool.eq_false_iff, ne_eq, shouldRetry_iff]
        rintro ⟨hlt, hretriable⟩
        rcases h with heq | hfails
        · omega
        · exact hfails ⟨error, houtcome, hretriable⟩
      simp only [hstop, Bool.not_false, if_true, turnSteps]

/-- After a retriable failure with attempts left there is another turn. -/
theorem retryFrom_of_failsRetriably (draws : Draws) (remaining : Nat) {attempt : Nat}
    (hlt : attempt < policy.maxAttempts.toNat) (h : FailsRetriably (operation attempt))
    (lastError : Option YuhaError) :
    ∃ lastError', retryFrom policy draws operation (remaining + 1) attempt lastError =
      let rest := retryFrom policy draws operation remaining (attempt + 1) lastError'
      { rest with steps := turnSteps policy draws attempt ++ rest.steps } := by
  obtain ⟨error, houtcome, hretriable⟩ := h
  refine ⟨some error, ?_⟩
  rw [retryFrom]
  simp only [houtcome, shouldRetry_iff.mpr ⟨hlt, hretriable⟩, Bool.not_true,
    Bool.false_eq_true, if_false, turnSteps, List.append_assoc, List.singleton_append]

/-- The call after which the loop ends: all before it failed retriably, and it did not, or
no attempt is left. -/
structure EndsAt (policy : RetryPolicy) (operation : Nat → Except YuhaError T)
    (attempt n : Nat) : Prop where
  ge : attempt ≤ n
  le : n ≤ policy.maxAttempts.toNat
  fails : ∀ k, attempt ≤ k → k < n → FailsRetriably (operation k)
  stops : n = policy.maxAttempts.toNat ∨ ¬ FailsRetriably (operation n)

theorem retryFrom_spec (policy : RetryPolicy) (draws : Draws)
    (operation : Nat → Except YuhaError T) {remaining attempt : Nat}
    (hremaining : attempt + remaining = policy.maxAttempts.toNat) (lastError : Option YuhaError) :
    ∃ n, EndsAt policy operation attempt n ∧
      retryFrom policy draws operation (remaining + 1) attempt lastError =
        { steps := (List.range' attempt (n + 1 - attempt)).flatMap (turnSteps policy draws)
          result := operation n
          fallback := false } := by
  induction remaining generalizing attempt lastError with
  | zero =>
      have hlast : attempt = policy.maxAttempts.toNat := hremaining
      refine ⟨attempt, ⟨Nat.le_refl _, hlast.le, fun k hge hlt => by omega, Or.inl hlast⟩, ?_⟩
      rw [retryFrom_of_stops (Or.inl hlast), Nat.add_sub_cancel_left, List.range'_one,
        List.flatMap_singleton]
  | succ remaining ih =>
      by_cases hfails : FailsRetriably (operation attempt)
      · have hlt : attempt < policy.maxAttempts.toNat := by omega
        have hnext : attempt + 1 + remaining = policy.maxAttempts.toNat := by omega
        obtain ⟨lastError', hturn⟩ :=
          retryFrom_of_failsRetriably draws (remaining + 1) hlt hfails lastError
        obtain ⟨n, hends, hrest⟩ := ih hnext lastError'
        refine ⟨n, ⟨Nat.le_of_succ_le hends.ge, hends.le, fun k hge hlt => ?_, hends.stops⟩, ?_⟩
        · by_cases hk : k = attempt
          · exact hk ▸ hfails
          · exact hends.fails k (by omega) hlt
        · have hge := hends.ge
          have hlength : n + 1 - attempt = (n + 1 - (attempt + 1)) + 1 := by omega
          rw [hturn, hrest, hlength, List.range'_succ, List.flatMap_cons]
      · have hle : attempt ≤ policy.maxAttempts.toNat := by omega
        refine ⟨attempt, ⟨Nat.le_refl _, hle, fun k hge hlt => by omega, Or.inr hfails⟩, ?_⟩
        rw [retryFrom_of_stops (Or.inr hfails), Nat.add_sub_cancel_left, List.range'_one,
          List.flatMap_singleton]

/-- The turns after the first sleep and call. -/
theorem flatMap_turnSteps (n : Nat) :
    (List.range' 0 (n + 1)).flatMap (turnSteps policy draws) =
      .call :: (List.range n).flatMap fun k =>
        [.sleep (policy.delayForAttempt draws (k + 1)), .call] := by
  rw [← List.range_eq_range', List.range_succ_eq_map, List.flatMap_cons, List.flatMap_map]
  rfl

/-- The operation is called until it succeeds, fails for good or was called once more than
there are attempts. That call is the result, each call after the first follows one sleep of
its own delay, and the fallback after the loop is never reached. -/
theorem retryAsync_spec (policy : RetryPolicy) (draws : Draws)
    (operation : Nat → Except YuhaError T) :
    ∃ n : Nat, n ≤ policy.maxAttempts.toNat ∧
      (∀ k < n, FailsRetriably (operation k)) ∧
      (n = policy.maxAttempts.toNat ∨ ¬ FailsRetriably (operation n)) ∧
      retryAsync policy draws operation =
        { steps := .call :: (List.range n).flatMap fun k =>
            [.sleep (policy.delayForAttempt draws (k + 1)), .call]
          result := operation n
          fallback := false } := by
  obtain ⟨n, hends, hrun⟩ := retryFrom_spec policy draws operation (Nat.zero_add _) none
  refine ⟨n, hends.le, fun k hlt => hends.fails k (Nat.zero_le k) hlt, hends.stops, ?_⟩
  rw [retryAsync, hrun, Nat.sub_zero, flatMap_turnSteps]

/-! ## How long it sleeps -/

/-- The delays that were slept, in order. -/
def Retried.delays (retried : Retried T) : List Duration :=
  retried.steps.filterMap fun
    | .sleep delay => some delay
    | .call => none

/-- The operation is called again after so many calls. -/
def Repeats (policy : RetryPolicy) (operation : Nat → Except YuhaError T) (attempt : Nat) : Prop :=
  0 < attempt ∧ attempt ≤ policy.maxAttempts.toNat ∧ ∀ k < attempt, FailsRetriably (operation k)

/-- No jitter is added, or the delay is short enough for it. -/
def JitterFits (policy : RetryPolicy) (draws : Draws) (attempt : Nat) : Prop :=
  policy.jitter = true → policy.jitterFor draws attempt = 0 ∨
    policy.backoff attempt + policy.jitterFor draws attempt ≤ policy.maxDelay

/-- The cap comes before the jitter. -/
theorem delayForAttempt_le_iff {attempt : Nat} (h : 0 < attempt) :
    policy.delayForAttempt draws attempt ≤ policy.maxDelay ↔ JitterFits policy draws attempt := by
  have hcap : ∀ backoff jitter maxDelay : Nat,
      min backoff maxDelay + jitter ≤ maxDelay ↔ jitter = 0 ∨ backoff + jitter ≤ maxDelay := by
    omega
  unfold RetryPolicy.delayForAttempt JitterFits
  rw [if_neg (Nat.ne_of_gt h)]
  cases policy.jitter with
  | false => simp
  | true => simpa using hcap _ _ _

theorem exists_delays (policy : RetryPolicy) (draws : Draws)
    (operation : Nat → Except YuhaError T) :
    ∃ n : Nat, (∀ attempt, Repeats policy operation attempt ↔ 0 < attempt ∧ attempt ≤ n) ∧
      n ≤ policy.maxAttempts.toNat ∧ (retryAsync policy draws operation).delays =
        (List.range n).map fun k => policy.delayForAttempt draws (k + 1) := by
  obtain ⟨n, hle, hfails, hstops, hrun⟩ := retryAsync_spec policy draws operation
  refine ⟨n, fun attempt => ⟨?_, ?_⟩, hle, ?_⟩
  · rintro ⟨hpos, hmax, hbefore⟩
    refine ⟨hpos, Nat.le_of_not_lt fun hlt => ?_⟩
    rcases hstops with hlast | hends
    · omega
    · exact hends (hbefore n hlt)
  · exact fun ⟨hpos, hattempt⟩ => ⟨hpos, hattempt.trans hle, fun k hk => hfails k (by omega)⟩
  · rw [hrun, Retried.delays, List.filterMap_cons_none rfl]
    rw [List.filterMap_flatMap, List.map_eq_flatMap]
    rfl

/-- No sleep is longer than the maximum delay, and all of them are no longer than as many
maximum delays as there are attempts, exactly if the jitter of every repetition fits. -/
theorem delays_le_iff_jitterFits (policy : RetryPolicy) (draws : Draws)
    (operation : Nat → Except YuhaError T) :
    (∀ delay ∈ (retryAsync policy draws operation).delays, delay ≤ policy.maxDelay) ∧
        (retryAsync policy draws operation).delays.sum ≤
          policy.maxAttempts.toNat * policy.maxDelay ↔
      ∀ attempt, Repeats policy operation attempt → JitterFits policy draws attempt := by
  obtain ⟨n, hrepeats, hle, hdelays⟩ := exists_delays policy draws operation
  have heach : (∀ delay ∈ (retryAsync policy draws operation).delays, delay ≤ policy.maxDelay) ↔
      ∀ attempt, Repeats policy operation attempt → JitterFits policy draws attempt := by
    rw [hdelays]
    simp only [List.forall_mem_map, List.mem_range, hrepeats]
    constructor
    · rintro h attempt ⟨hpos, hattempt⟩
      have hdelay := h (attempt - 1) (by omega)
      rw [Nat.sub_add_cancel hpos] at hdelay
      exact (delayForAttempt_le_iff hpos).mp hdelay
    · intro h k hk
      exact (delayForAttempt_le_iff (Nat.succ_pos k)).mpr (h (k + 1) ⟨Nat.succ_pos k, hk⟩)
  rw [← heach]
  refine and_iff_left_of_imp fun h => ?_
  calc (retryAsync policy draws operation).delays.sum
    _ ≤ (retryAsync policy draws operation).delays.length * policy.maxDelay := by
      simpa using List.sum_le_card_nsmul _ _ h
    _ ≤ policy.maxAttempts.toNat * policy.maxDelay := by
      apply Nat.mul_le_mul_right
      simpa [hdelays] using hle

end

/-- The delay is at the cap, and the greatest number is drawn. -/
theorem delays_le_false :
    let policy : RetryPolicy :=
      { maxAttempts := 1, maxDelay := Duration.fromMillis 100, backoffMillis := fun _ => 100 }
    let retried : Retried Unit :=
      retryAsync policy (fun _ range => Fin.last range) fun _ => .error (.io "refused")
    retried.delays = [Duration.fromMillis 110] ∧
      ¬ ∀ delay ∈ retried.delays, delay ≤ policy.maxDelay := by
  decide

end Yuha
