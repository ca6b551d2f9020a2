import Mathlib.Algebra.Order.BigOperators.Group.List
import Mathlib.Algebra.Order.Ring.Nat
import Mathlib.Data.List.DropRight
import Yuha.Core.Session.Metadata
import Yuha.Library.Execution

/-!
# Performance metrics

How many operations were recorded, and the sum, the mean and the extremes of their
durations. The mean is the sum divided by the number of all operations, timed or not,
narrowed to 32 bits.

## Implementation notes

The arithmetic of `Duration` panics where the result is not representable and where the
divisor is zero; a call that panics has no result. The counters wrap, as they do without
overflow checks. The success rate is a floating-point number that nothing here reads.
-/

namespace Yuha

open Library Library.Execution

/-- `Duration::MAX`. -/
def Duration.max : Duration := 18446744073709551616 * 1000000000 - 1

/-- The sum of two durations. -/
def Duration.checkedAdd (a b : Duration) : Option Duration :=
  if a + b ≤ Duration.max then some (a + b) else none

/-- A duration divided by a `u32`. -/
def Duration.checkedDiv (a : Duration) (n : UInt32) : Option Duration :=
  if n = 0 then none else some (a / n.toNat)

structure PerformanceMetrics where
  operationCount : UInt64 := 0
  totalDuration : Duration := 0
  avgDuration : Duration := 0
  minDuration : Duration := Duration.max
  maxDuration : Duration := 0
  errorCount : UInt64 := 0
  deriving DecidableEq, Repr

/-- A call of `record_success` or `record_error`. -/
inductive PerformanceRecord
  | success (duration : Duration)
  | error (duration : Option Duration)
  deriving DecidableEq, Repr

def PerformanceRecord.duration : PerformanceRecord → Option Duration
  | .success duration => some duration
  | .error duration => duration

namespace PerformanceMetrics

/-- What both calls do with a duration. -/
def recordDuration (metrics : PerformanceMetrics) (duration : Duration) :
    Option PerformanceMetrics := do
  let totalDuration ← Duration.checkedAdd metrics.totalDuration duration
  let avgDuration ← Duration.checkedDiv totalDuration metrics.operationCount.toUInt32
  return { metrics with
    totalDuration := totalDuration
    avgDuration := avgDuration
    minDuration := if duration < metrics.minDuration then duration else metrics.minDuration
    maxDuration := if metrics.maxDuration < duration then duration else metrics.maxDuration }

def recordSuccess (metrics : PerformanceMetrics) (duration : Duration) :
    Option PerformanceMetrics :=
  recordDuration { metrics with operationCount := metrics.operationCount + 1 } duration

def recordError (metrics : PerformanceMetrics) (duration : Option Duration) :
    Option PerformanceMetrics :=
  let counted : PerformanceMetrics := { metrics with
    operationCount := metrics.operationCount + 1
    errorCount := metrics.errorCount + 1 }
  match duration with
  | some dur => counted.recordDuration dur
  | none => some counted

def record (metrics : PerformanceMetrics) : PerformanceRecord → Option PerformanceMetrics
  | .success duration => metrics.recordSuccess duration
  | .error duration => metrics.recordError duration

/-- The metrics after some calls on fresh ones, if none panicked. -/
def recorded (records : List PerformanceRecord) : Option PerformanceMetrics :=
  run (fun metrics r => metrics.bind (·.record r)) (some {}) records

/-- The durations that were recorded. -/
def durations (records : List PerformanceRecord) : List Duration :=
  records.filterMap PerformanceRecord.duration

/-- The number of operations up to the last timed one. -/
def lastTimed (records : List PerformanceRecord) : Nat :=
  (records.rdropWhile fun r => r.duration.isNone).length

/-- The operations without a duration before the last timed one. -/
def untimedBefore (records : List PerformanceRecord) : Nat :=
  (records.rdropWhile fun r => r.duration.isNone).countP fun r => r.duration.isNone

variable {records : List PerformanceRecord} {r : PerformanceRecord} {d : Duration}
  {metrics : PerformanceMetrics}

@[simp] theorem recorded_nil : recorded [] = some {} := rfl

@[simp] theorem recorded_concat (records : List PerformanceRecord) (r : PerformanceRecord) :
    recorded (records ++ [r]) = (recorded records).bind (·.record r) := by
  simp [recorded]

@[simp] theorem durations_concat (records : List PerformanceRecord) (r : PerformanceRecord) :
    durations (records ++ [r]) = durations records ++ r.duration.toList := by
  cases h : r.duration <;> simp [durations, h]

theorem lastTimed_concat_some (h : r.duration = some d) :
    lastTimed (records ++ [r]) = records.length + 1 := by
  simp [lastTimed, h]

theorem lastTimed_concat_none (h : r.duration = none) :
    lastTimed (records ++ [r]) = lastTimed records := by
  simp [lastTimed, h]

/-! ## One call -/

/-- The number by which a timed call divides. -/
def divisor (metrics : PerformanceMetrics) : UInt32 := (metrics.operationCount + 1).toUInt32

/-- What a timed call leaves, with the errors counted. -/
def afterTimed (metrics : PerformanceMetrics) (duration : Duration) (errorCount : UInt64) :
    PerformanceMetrics where
  operationCount := metrics.operationCount + 1
  totalDuration := metrics.totalDuration + duration
  avgDuration := (metrics.totalDuration + duration) / metrics.divisor.toNat
  minDuration := min metrics.minDuration duration
  maxDuration := max metrics.maxDuration duration
  errorCount := errorCount

theorem recordDuration_eq (metrics : PerformanceMetrics) (duration : Duration) :
    metrics.recordDuration duration =
      if metrics.totalDuration + duration ≤ Duration.max ∧
          metrics.operationCount.toUInt32 ≠ 0 then
        some { metrics with
          totalDuration := metrics.totalDuration + duration
          avgDuration :=
            (metrics.totalDuration + duration) / metrics.operationCount.toUInt32.toNat
          minDuration := min metrics.minDuration duration
          maxDuration := max metrics.maxDuration duration }
      else none := by
  have hmin : (if duration < metrics.minDuration then duration else metrics.minDuration) =
      min metrics.minDuration duration := by
    by_cases h : duration < metrics.minDuration
    · rw [if_pos h, min_eq_right h.le]
    · rw [if_neg h, min_eq_left (not_lt.mp h)]
  have hmax : (if metrics.maxDuration < duration then duration else metrics.maxDuration) =
      max metrics.maxDuration duration := by
    by_cases h : metrics.maxDuration < duration
    · rw [if_pos h, max_eq_right h.le]
    · rw [if_neg h, max_eq_left (not_lt.mp h)]
  simp only [recordDuration, Duration.checkedAdd, Duration.checkedDiv, hmin, hmax]
  by_cases hadd : metrics.totalDuration + duration ≤ Duration.max
  · by_cases hdiv : metrics.operationCount.toUInt32 = 0
    · simp only [hadd, hdiv, ne_eq, not_true_eq_false, and_false, if_true, if_false]
      rfl
    · simp only [hadd, hdiv, ne_eq, not_false_eq_true, and_self, if_true, if_false]
      rfl
  · simp only [hadd, false_and, if_false]
    rfl

theorem record_timed (metrics : PerformanceMetrics) (h : r.duration = some d) :
    ∃ errorCount, metrics.record r =
      if metrics.totalDuration + d ≤ Duration.max ∧ metrics.divisor ≠ 0 then
        some (metrics.afterTimed d errorCount)
      else none := by
  cases r with
  | success duration =>
      obtain rfl := Option.some.inj h
      exact ⟨metrics.errorCount, recordDuration_eq { metrics with
        operationCount := metrics.operationCount + 1 } duration⟩
  | error duration =>
      obtain rfl : duration = some d := h
      exact ⟨metrics.errorCount + 1, recordDuration_eq { metrics with
        operationCount := metrics.operationCount + 1
        errorCount := metrics.errorCount + 1 } d⟩

theorem record_untimed (metrics : PerformanceMetrics) (h : r.duration = none) :
    metrics.record r = some { metrics with
      operationCount := metrics.operationCount + 1, errorCount := metrics.errorCount + 1 } := by
  cases r with
  | success duration => cases h
  | error duration =>
      obtain rfl : duration = none := h
      rfl

/-! ## All calls -/

/-- What the metrics say about the calls. -/
structure Accounts (records : List PerformanceRecord) (metrics : PerformanceMetrics) : Prop where
  count : metrics.operationCount.toNat = records.length % 2 ^ 64
  total : metrics.totalDuration = (durations records).sum
  avg : durations records ≠ [] →
    metrics.avgDuration = (durations records).sum / (lastTimed records % 2 ^ 32)
  le : ∀ d ∈ durations records, metrics.minDuration ≤ d
  ge : ∀ d ∈ durations records, d ≤ metrics.maxDuration

theorem Accounts.divisor (h : Accounts records metrics) :
    metrics.divisor.toNat = (records.length + 1) % 2 ^ 32 := by
  have hcount := h.count
  simp only [PerformanceMetrics.divisor, UInt64.toNat_toUInt32, UInt64.toNat_add,
    UInt64.toNat_one]
  omega

theorem Accounts.timed (h : Accounts records metrics) (hr : r.duration = some d)
    (errorCount : UInt64) : Accounts (records ++ [r]) (metrics.afterTimed d errorCount) := by
  have hdurations : durations (records ++ [r]) = durations records ++ [d] := by simp [hr]
  have hsum : metrics.totalDuration + d = (durations (records ++ [r])).sum := by
    rw [hdurations, List.sum_append, h.total, List.sum_singleton]
  refine ⟨?_, hsum, fun _ => ?_, fun d' hd' => ?_, fun d' hd' => ?_⟩
  · have hcount := h.count
    simp only [afterTimed, UInt64.toNat_add, UInt64.toNat_one, List.length_append,
      List.length_singleton]
    omega
  · rw [lastTimed_concat_some hr, ← h.divisor, ← hsum]
    rfl
  · rcases List.mem_append.mp (hdurations ▸ hd') with hold | hnew
    · exact (min_le_left _ _).trans (h.le d' hold)
    · exact (min_le_right _ _).trans_eq (List.mem_singleton.mp hnew).symm
  · rcases List.mem_append.mp (hdurations ▸ hd') with hold | hnew
    · exact (h.ge d' hold).trans (le_max_left _ _)
    · exact (List.mem_singleton.mp hnew).trans_le (le_max_right _ _)

theorem Accounts.untimed (h : Accounts records metrics) (hr : r.duration = none) :
    Accounts (records ++ [r]) { metrics with
      operationCount := metrics.operationCount + 1, errorCount := metrics.errorCount + 1 } := by
  have hdurations : durations (records ++ [r]) = durations records := by simp [hr]
  refine ⟨?_, hdurations ▸ h.total, ?_, hdurations ▸ h.le, hdurations ▸ h.ge⟩
  · have hcount := h.count
    simp only [UInt64.toNat_add, UInt64.toNat_one, List.length_append, List.length_singleton]
    omega
  · rw [hdurations, lastTimed_concat_none hr]
    exact h.avg

theorem accounts_of_recorded (h : recorded records = some metrics) :
    Accounts records metrics := by
  induction records using List.reverseRecOn generalizing metrics with
  | nil =>
      obtain rfl := Option.some.inj h
      exact ⟨rfl, rfl, by simp [durations], by simp [durations], by simp [durations]⟩
  | append_singleton records r ih =>
      rw [recorded_concat, Option.bind_eq_some_iff] at h
      obtain ⟨before, hbefore, hrecord⟩ := h
      cases hr : r.duration with
      | none =>
          rw [record_untimed before hr] at hrecord
          obtain rfl := Option.some.inj hrecord
          exact (ih hbefore).untimed hr
      | some d =>
          obtain ⟨errorCount, heq⟩ := record_timed before hr
          rw [heq] at hrecord
          split at hrecord
          · obtain rfl := Option.some.inj hrecord
            exact (ih hbefore).timed hr errorCount
          · cases hrecord

/-- No timed operation is one of number `k * 2^32`. -/
def DividesAlways (records : List PerformanceRecord) : Prop :=
  ∀ k r, records[k]? = some r → r.duration.isSome → (k + 1) % 2 ^ 32 ≠ 0

theorem dividesAlways_concat : DividesAlways (records ++ [r]) ↔
    DividesAlways records ∧ (r.duration.isSome → (records.length + 1) % 2 ^ 32 ≠ 0) := by
  constructor
  · intro h
    refine ⟨fun k r' hr' => h k r' ?_, h records.length r List.getElem?_concat_length⟩
    rw [List.getElem?_append_left (List.getElem?_eq_some_iff.mp hr').1, hr']
  · rintro ⟨h, hlast⟩ k r' hr' htimed
    rw [List.getElem?_append] at hr'
    split at hr'
    · exact h k r' hr' htimed
    · next hge =>
        obtain ⟨hlt, rfl⟩ := List.getElem?_eq_some_iff.mp hr'
        have hk : k = records.length := by simp at hlt; omega
        rw [hk]
        exact hlast (by simpa using htimed)

/-- When no call panics. -/
theorem exists_recorded_iff (records : List PerformanceRecord) :
    (∃ metrics, recorded records = some metrics) ↔
      (durations records).sum ≤ Duration.max ∧ DividesAlways records := by
  induction records using List.reverseRecOn with
  | nil => simp [durations, DividesAlways]
  | append_singleton records r ih =>
      rw [dividesAlways_concat, durations_concat, recorded_concat]
      cases hr : r.duration with
      | none =>
          simp only [Option.toList_none, List.append_nil, Option.isSome_none, Bool.false_eq_true,
            false_implies, and_true]
          rw [← ih]
          cases recorded records with
          | none => simp
          | some metrics => simp [record_untimed metrics hr]
      | some d =>
          have hsum : (durations records ++ [d]).sum = (durations records).sum + d := by simp
          simp only [Option.toList_some, hsum, Option.isSome_some, true_implies]
          cases hrecorded : recorded records with
          | none =>
              have hnot : ¬ ((durations records).sum ≤ Duration.max ∧ DividesAlways records) := by
                rw [← ih, hrecorded]
                simp
              simp only [Option.bind_none, reduceCtorEq, exists_false, false_iff]
              exact fun ⟨hle, hdivides, _⟩ => hnot ⟨(Nat.le_add_right _ _).trans hle, hdivides⟩
          | some metrics =>
              have haccounts := accounts_of_recorded hrecorded
              have hdivides : DividesAlways records := (ih.mp ⟨metrics, hrecorded⟩).2
              obtain ⟨errorCount, heq⟩ := record_timed metrics hr
              have hdivisor : metrics.divisor ≠ 0 ↔ (records.length + 1) % 2 ^ 32 ≠ 0 := by
                rw [← haccounts.divisor, ne_eq, ← UInt32.toNat_inj, UInt32.toNat_zero]
              rw [Option.bind_some, heq, ← haccounts.total, ← hdivisor]
              split <;> simp_all

/-! ## The mean -/

/-- No call panics, and the mean is the sum divided by the number of durations, which is
between the extremes. -/
def KeepsMean (records : List PerformanceRecord) : Prop :=
  ∃ metrics, recorded records = some metrics ∧
    metrics.minDuration ≤ metrics.avgDuration ∧ metrics.avgDuration ≤ metrics.maxDuration ∧
    metrics.avgDuration = metrics.totalDuration / (durations records).length

/-- A mean lies between the extremes. -/
theorem Accounts.mean_mem (h : Accounts records metrics) (timed : durations records ≠ []) :
    metrics.minDuration ≤ (durations records).sum / (durations records).length ∧
      (durations records).sum / (durations records).length ≤ metrics.maxDuration := by
  have hlength : 0 < (durations records).length := List.length_pos_iff.mpr timed
  have hle : (durations records).length * metrics.minDuration ≤ (durations records).sum :=
    List.card_nsmul_le_sum (durations records) metrics.minDuration h.le
  have hge : (durations records).sum ≤ (durations records).length * metrics.maxDuration :=
    List.sum_le_card_nsmul (durations records) metrics.maxDuration h.ge
  rw [Nat.mul_comm] at hle
  exact ⟨(Nat.le_div_iff_mul_le hlength).mpr hle, Nat.div_le_of_le_mul hge⟩

theorem keepsMean_iff (timed : durations records ≠ []) :
    KeepsMean records ↔ (durations records).sum ≤ Duration.max ∧ DividesAlways records ∧
      (durations records).sum / (lastTimed records % 2 ^ 32) =
        (durations records).sum / (durations records).length := by
  constructor
  · rintro ⟨metrics, hrecorded, -, -, havg⟩
    have h := accounts_of_recorded hrecorded
    obtain ⟨hsum, hdivides⟩ := (exists_recorded_iff records).mp ⟨metrics, hrecorded⟩
    refine ⟨hsum, hdivides, ?_⟩
    rw [← h.avg timed, havg, h.total]
  · rintro ⟨hsum, hdivides, hcounts⟩
    obtain ⟨metrics, hrecorded⟩ := (exists_recorded_iff records).mpr ⟨hsum, hdivides⟩
    have h := accounts_of_recorded hrecorded
    have havg := (h.avg timed).trans hcounts
    obtain ⟨hmin, hmax⟩ := h.mean_mem timed
    exact ⟨metrics, hrecorded, havg ▸ hmin, havg ▸ hmax, h.total ▸ havg⟩

theorem dividesAlways_of_length (few : records.length < 2 ^ 32) : DividesAlways records := by
  intro k r hr _
  have hlt := (List.getElem?_eq_some_iff.mp hr).1
  omega

/-- If all operations are timed, the one of number `2^32` divides by zero. -/
theorem not_dividesAlways (timed : ∀ r ∈ records, r.duration.isSome)
    (many : 2 ^ 32 ≤ records.length) : ¬ DividesAlways records := by
  intro h
  have hlt : 2 ^ 32 - 1 < records.length := by omega
  have hdivides := h (2 ^ 32 - 1) _ (List.getElem?_eq_getElem hlt)
    (timed _ (List.getElem_mem hlt))
  omega

/-! ### Which calls keep the mean -/

/-- Only timed operations are counted, modulo `2^32`, when the last timed one divides. Among
fewer than `2^32` operations this is to say that none before it is untimed. -/
structure CountsTimed (records : List PerformanceRecord) : Prop where
  divides : DividesAlways records
  fewTimed : (durations records).length < 2 ^ 32
  untimed : 2 ^ 32 ∣ untimedBefore records

/-- Other operations are counted, too, or too few, but rounding hides it: the quotients by
the two numbers are one. -/
structure RoundingHides (records : List PerformanceRecord) : Prop where
  divides : DividesAlways records
  hides : ∃ fewer more,
    ((fewer = lastTimed records % 2 ^ 32 ∧ more = (durations records).length) ∨
      (fewer = (durations records).length ∧ more = lastTimed records % 2 ^ 32)) ∧
    0 < fewer ∧ fewer < more ∧
    (more - fewer) * ((durations records).sum / fewer) ≤ (durations records).sum % fewer

/-- Which calls are timed. -/
def calls (records : List PerformanceRecord) : List Bool :=
  records.map fun r => r.duration.isSome

theorem lastTimed_eq (records : List PerformanceRecord) :
    lastTimed records = (durations records).length + untimedBefore records := by
  have hlength : ∀ records : List PerformanceRecord, records.length =
      (durations records).length + records.countP fun r => r.duration.isNone := by
    intro records
    induction records with
    | nil => rfl
    | cons r records ih => cases h : r.duration <;> simp [durations, h] at ih ⊢ <;> omega
  have hdurations : durations (records.rdropWhile fun r => r.duration.isNone) =
      durations records := by
    induction records using List.reverseRecOn with
    | nil => rfl
    | append_singleton records r ih =>
        rw [List.rdropWhile_concat]
        split
        · next huntimed =>
            rw [ih, durations_concat, Option.isNone_iff_eq_none.mp huntimed]
            simp
        · rfl
  rw [lastTimed, hlength, hdurations, untimedBefore]

theorem countsTimed_iff (timed : durations records ≠ []) :
    CountsTimed records ↔ DividesAlways records ∧
      lastTimed records % 2 ^ 32 = (durations records).length := by
  have heq := lastTimed_eq records
  have hpos : 0 < (durations records).length := List.length_pos_iff.mpr timed
  constructor
  · rintro ⟨hdivides, hfew, huntimed⟩
    exact ⟨hdivides, by omega⟩
  · rintro ⟨hdivides, hmod⟩
    exact ⟨hdivides, by omega, by omega⟩

/-- Two divisors give one quotient if the smaller one leaves a remainder that the quotient
fits into as often as the other one is greater. -/
theorem div_eq_div_iff_of_le {fewer more : Nat} (hpos : 0 < fewer) (hle : fewer ≤ more)
    (total : Nat) :
    total / more = total / fewer ↔ (more - fewer) * (total / fewer) ≤ total % fewer := by
  obtain ⟨extra, rfl⟩ := Nat.exists_eq_add_of_le hle
  have hdivision := Nat.div_add_mod total fewer
  have hle : total / (fewer + extra) ≤ total / fewer := Nat.div_le_div_left hle hpos
  rw [Nat.add_sub_cancel_left]
  calc total / (fewer + extra) = total / fewer
    _ ↔ total / fewer ≤ total / (fewer + extra) := ⟨fun h => h.ge, fun h => hle.antisymm h⟩
    _ ↔ total / fewer * (fewer + extra) ≤ total := Nat.le_div_iff_mul_le (by omega)
    _ ↔ extra * (total / fewer) ≤ total % fewer := by
      rw [Nat.mul_add, Nat.mul_comm (total / fewer) fewer, Nat.mul_comm (total / fewer) extra]
      omega

/-- The divisor of the last timed call is not zero. -/
theorem DividesAlways.lastTimed_pos (h : DividesAlways records) (timed : durations records ≠ []) :
    0 < lastTimed records % 2 ^ 32 := by
  induction records using List.reverseRecOn with
  | nil => exact absurd rfl timed
  | append_singleton records r ih =>
      obtain ⟨hbefore, hlast⟩ := dividesAlways_concat.mp h
      cases hr : r.duration with
      | none =>
          rw [lastTimed_concat_none hr]
          exact ih hbefore (by simpa [hr] using timed)
      | some d =>
          rw [lastTimed_concat_some hr]
          exact Nat.pos_of_ne_zero (hlast (by simp [hr]))

theorem quotients_eq_iff (hdivides : DividesAlways records) (timed : durations records ≠ []) :
    (durations records).sum / (lastTimed records % 2 ^ 32) =
        (durations records).sum / (durations records).length ↔
      CountsTimed records ∨ RoundingHides records := by
  have hpos : 0 < (durations records).length := List.length_pos_iff.mpr timed
  have hdivisor := hdivides.lastTimed_pos timed
  rw [countsTimed_iff timed, and_iff_right hdivides]
  constructor
  · intro heq
    rcases Nat.lt_trichotomy (lastTimed records % 2 ^ 32) (durations records).length with
      hlt | hsame | hlt
    · exact .inr ⟨hdivides, _, _, .inl ⟨rfl, rfl⟩, hdivisor, hlt,
        (div_eq_div_iff_of_le hdivisor hlt.le _).mp heq.symm⟩
    · exact .inl hsame
    · exact .inr ⟨hdivides, _, _, .inr ⟨rfl, rfl⟩, hpos, hlt,
        (div_eq_div_iff_of_le hpos hlt.le _).mp heq⟩
  · rintro (hsame | ⟨-, _, _, ⟨rfl, rfl⟩ | ⟨rfl, rfl⟩, hfewer, hlt, hhides⟩)
    · rw [hsame]
    · exact ((div_eq_div_iff_of_le hfewer hlt.le _).mpr hhides).symm
    · exact (div_eq_div_iff_of_le hfewer hlt.le _).mpr hhides

/-! ### What depends on the calls only -/

section SameCalls

variable {records' : List PerformanceRecord}

theorem length_durations_of_calls (h : calls records' = calls records) :
    (durations records').length = (durations records).length := by
  have hcount : ∀ records : List PerformanceRecord,
      (durations records).length = (calls records).count true := by
    intro records
    induction records with
    | nil => rfl
    | cons r records ih => cases hr : r.duration <;> simpa [durations, calls, hr] using ih
  rw [hcount, hcount, h]

theorem lastTimed_of_calls (h : calls records' = calls records) :
    lastTimed records' = lastTimed records := by
  have hcalls : ∀ records : List PerformanceRecord,
      lastTimed records = ((calls records).rdropWhile fun timed => !timed).length := by
    intro records
    induction records using List.reverseRecOn with
    | nil => rfl
    | append_singleton records r ih =>
        cases hr : r.duration with
        | none => simpa [lastTimed_concat_none hr, calls, hr] using ih
        | some d => simp [lastTimed_concat_some hr, calls, hr]
  rw [hcalls, hcalls, h]

theorem dividesAlways_of_calls (h : calls records' = calls records)
    (hdivides : DividesAlways records) : DividesAlways records' := by
  intro k r' hr' htimed
  have hk : (calls records)[k]? = some true := by
    rw [← h, calls, List.getElem?_map, hr']
    exact congrArg some htimed
  rw [calls, List.getElem?_map] at hk
  obtain ⟨r, hr, hsome⟩ := Option.map_eq_some_iff.mp hk
  exact hdivides k r hr hsome

/-- The durations can sum up to anything. -/
theorem exists_sum_eq (timed : durations records ≠ []) (total : Duration) :
    ∃ records', calls records' = calls records ∧ (durations records').sum = total := by
  induction records with
  | nil => exact absurd rfl timed
  | cons r records ih =>
      cases hr : r.duration with
      | none =>
          obtain ⟨records', hcalls, hsum⟩ := ih (by simpa [durations, hr] using timed)
          refine ⟨r :: records', ?_, ?_⟩
          · simpa [calls] using hcalls
          · simpa [durations, hr] using hsum
      | some d =>
          -- All of it in the first duration.
          refine ⟨.success total :: records.map fun r =>
            .error (r.duration.map fun _ => (0 : Duration)), ?_, ?_⟩
          · have hsome : r.duration.isSome = true := hr ▸ rfl
            rw [calls, calls, List.map_cons, List.map_cons, hsome, List.map_map]
            refine congrArg₂ _ rfl (List.map_congr_left fun r' _ => ?_)
            exact Option.isSome_map
          · have hzero : (durations (records.map fun r =>
                .error (r.duration.map fun _ => (0 : Duration)))).sum = 0 := by
              rw [List.sum_eq_zero_iff]
              intro d' hd'
              obtain ⟨r', hr', hd'⟩ := List.mem_filterMap.mp hd'
              obtain ⟨r'', _, rfl⟩ := List.mem_map.mp hr'
              obtain ⟨_, _, rfl⟩ := Option.map_eq_some_iff.mp hd'
              rfl
            simpa [durations, PerformanceRecord.duration] using hzero

/-- If the mean is kept whatever the durations are, only timed operations are counted: a sum
as great as the smaller of two divisors tells them apart. -/
theorem countsTimed_of_keepsMean (timed : durations records ≠ [])
    (h : ∀ records', calls records' = calls records →
      (durations records').sum ≤ Duration.max → KeepsMean records') :
    CountsTimed records := by
  have hquotients : ∀ total ≤ Duration.max, DividesAlways records ∧
      total / (lastTimed records % 2 ^ 32) = total / (durations records).length := by
    intro total htotal
    obtain ⟨records', hcalls, rfl⟩ := exists_sum_eq timed total
    have htimed : durations records' ≠ [] := by
      rw [← List.length_pos_iff] at timed ⊢
      rwa [length_durations_of_calls hcalls]
    obtain ⟨-, hdivides, heq⟩ := (keepsMean_iff htimed).mp (h records' hcalls htotal)
    rw [lastTimed_of_calls hcalls, length_durations_of_calls hcalls] at heq
    exact ⟨dividesAlways_of_calls hcalls.symm hdivides, heq⟩
  have hmax : ∀ n : Nat, n < 2 ^ 32 → n ≤ Duration.max :=
    fun n hn => hn.le.trans (by decide : (2 : Nat) ^ 32 ≤ Duration.max)
  have hpos : 0 < (durations records).length := List.length_pos_iff.mpr timed
  have hdivides := (hquotients 0 (Nat.zero_le _)).1
  have hdivisor := hdivides.lastTimed_pos timed
  refine (countsTimed_iff timed).mpr ⟨hdivides, ?_⟩
  rcases Nat.lt_trichotomy (lastTimed records % 2 ^ 32) (durations records).length with
    hlt | hsame | hlt
  · have heq := (hquotients (lastTimed records % 2 ^ 32) (hmax _ (by omega))).2
    rw [Nat.div_self hdivisor, Nat.div_eq_of_lt hlt] at heq
    cases heq
  · exact hsame
  · have heq := (hquotients (durations records).length (hmax _ (by omega))).2
    rw [Nat.div_self hpos, Nat.div_eq_of_lt hlt] at heq
    cases heq

end SameCalls

/-- The mean is kept exactly if the sum does not overflow, no call divides by zero, and only
timed operations are counted or rounding hides the others. The calls for which only timed
operations are counted are those that keep the mean whatever their durations are. -/
theorem keepsMean_iff_countsTimed (records : List PerformanceRecord)
    (timed : durations records ≠ []) :
    (KeepsMean records ↔ (durations records).sum ≤ Duration.max ∧
        (CountsTimed records ∨ RoundingHides records)) ∧
      (CountsTimed records ↔ ∀ records', calls records' = calls records →
        (durations records').sum ≤ Duration.max → KeepsMean records') := by
  have hkeeps : ∀ records : List PerformanceRecord, durations records ≠ [] →
      (KeepsMean records ↔ (durations records).sum ≤ Duration.max ∧
        (CountsTimed records ∨ RoundingHides records)) := by
    intro records timed
    rw [keepsMean_iff timed]
    refine and_congr_right fun _ => ⟨fun ⟨hdivides, heq⟩ => ?_, fun h => ?_⟩
    · exact (quotients_eq_iff hdivides timed).mp heq
    · have hdivides : DividesAlways records := h.elim (·.divides) (·.divides)
      exact ⟨hdivides, (quotients_eq_iff hdivides timed).mpr h⟩
  have htimed : ∀ records', calls records' = calls records → durations records' ≠ [] := by
    intro records' hcalls
    rw [← List.length_pos_iff] at timed ⊢
    rwa [length_durations_of_calls hcalls]
  refine ⟨hkeeps records timed, fun hcounts records' hcalls hsum => ?_, fun hall =>
    countsTimed_of_keepsMean timed hall⟩
  refine (hkeeps records' (htimed records' hcalls)).mpr ⟨hsum, .inl ?_⟩
  rw [countsTimed_iff timed] at hcounts
  rw [countsTimed_iff (htimed records' hcalls), lastTimed_of_calls hcalls,
    length_durations_of_calls hcalls]
  exact ⟨dividesAlways_of_calls hcalls hcounts.1, hcounts.2⟩

/-- Three timed operations, and one without a duration after them. -/
def fourCalls : List PerformanceRecord :=
  [.success 100000000, .success 200000000, .error (some 50000000), .error none]

theorem keepsMean_iff_countsTimed_fourCalls : KeepsMean fourCalls :=
  (keepsMean_iff_countsTimed fourCalls (by decide)).1.mpr ⟨by decide,
    .inl ⟨dividesAlways_of_length (by decide), by decide, by decide⟩⟩

/-- An operation without a duration is counted, and pulls the mean below the minimum. -/
theorem keepsMean_untimed_false : ¬ ∀ records, durations records ≠ [] → KeepsMean records := by
  intro h
  obtain ⟨metrics, hrecorded, hmin, -⟩ := h [.error none, .success 4] (by decide)
  have hvalue : recorded [.error none, .success 4] = some ⟨2, 4, 2, 4, 4, 1⟩ := by decide
  obtain rfl := Option.some.inj (hvalue.symm.trans hrecorded)
  exact absurd hmin (by decide)

theorem lastTimed_of_timed (timed : ∀ r ∈ records, r.duration.isSome) :
    lastTimed records = records.length := by
  induction records using List.reverseRecOn with
  | nil => rfl
  | append_singleton records r =>
      obtain ⟨d, hd⟩ := Option.isSome_iff_exists.mp (timed r (by simp))
      rw [lastTimed_concat_some hd, List.length_append, List.length_singleton]

/-- Among timed operations, each leaves the sum divided by their number and none panics,
exactly if there are fewer than `2^32`. -/
theorem avg_each_call_iff (records : List PerformanceRecord)
    (timed : ∀ r ∈ records, r.duration.isSome) (length : records.length < 2 ^ 64)
    (representable : (durations records).sum ≤ Duration.max) :
    (∀ past, past <+: records → past ≠ [] → ∃ metrics, recorded past = some metrics ∧
      metrics.avgDuration = metrics.totalDuration / metrics.operationCount.toNat) ↔
      records.length < 2 ^ 32 := by
  constructor
  · intro h
    by_contra hmany
    have hne : records ≠ [] := by
      rintro rfl
      simp at hmany
    obtain ⟨metrics, hrecorded, -⟩ := h records (List.prefix_refl _) hne
    have hdivides := ((exists_recorded_iff records).mp ⟨metrics, hrecorded⟩).2
    exact not_dividesAlways timed (not_lt.mp hmany) hdivides
  · rintro few past ⟨later, rfl⟩ hne
    have hpast : ∀ r ∈ past, r.duration.isSome := fun r hr => timed r (by simp [hr])
    have hfew : past.length < 2 ^ 32 := by
      rw [List.length_append] at few
      omega
    have hsum : (durations past).sum ≤ Duration.max := by
      have happend : durations (past ++ later) = durations past ++ durations later := by
        simp [durations]
      rw [happend, List.sum_append] at representable
      exact (Nat.le_add_right _ _).trans representable
    obtain ⟨metrics, hrecorded⟩ :=
      (exists_recorded_iff past).mpr ⟨hsum, dividesAlways_of_length hfew⟩
    have haccounts := accounts_of_recorded hrecorded
    have hdurations : durations past ≠ [] := by
      obtain ⟨r, hr⟩ := List.exists_mem_of_ne_nil past hne
      obtain ⟨d, hd⟩ := Option.isSome_iff_exists.mp (hpast r hr)
      exact List.ne_nil_of_mem (List.mem_filterMap.mpr ⟨r, hr, hd⟩)
    refine ⟨metrics, hrecorded, ?_⟩
    calc metrics.avgDuration
      _ = (durations past).sum / (lastTimed past % 2 ^ 32) := haccounts.avg hdurations
      _ = (durations past).sum / past.length := by
        rw [lastTimed_of_timed hpast, Nat.mod_eq_of_lt hfew]
      _ = metrics.totalDuration / metrics.operationCount.toNat := by
        rw [haccounts.total, haccounts.count, Nat.mod_eq_of_lt (by omega : past.length < 2 ^ 64)]

theorem avg_each_call_two : ∃ metrics, recorded [.success 7, .error (some 4)] = some metrics ∧
    metrics.avgDuration = metrics.totalDuration / metrics.operationCount.toNat :=
  (avg_each_call_iff [.success 7, .error (some 4)] (by decide) (by decide) (by decide)).mpr
    (by decide) _ (List.prefix_refl _) (by decide)

/-- There are as many operations that take no time as one likes. -/
theorem exists_timed (n : Nat) : ∃ records : List PerformanceRecord, records.length = n ∧
    (∀ r ∈ records, r.duration.isSome) ∧ (durations records).sum = 0 := by
  refine ⟨List.replicate n (.success 0), List.length_replicate, fun r hr => ?_, ?_⟩
  · rw [List.eq_of_mem_replicate hr]
    rfl
  · rw [durations, List.filterMap_replicate_of_some (rfl : PerformanceRecord.duration _ = some 0)]
    simp

/-- The operation of number `2^32` panics. -/
theorem avg_each_call_false : ¬ ∀ records : List PerformanceRecord,
    (∀ r ∈ records, r.duration.isSome) → records.length < 2 ^ 64 →
    (durations records).sum ≤ Duration.max →
    ∀ past, past <+: records → past ≠ [] → ∃ metrics, recorded past = some metrics ∧
      metrics.avgDuration = metrics.totalDuration / metrics.operationCount.toNat := by
  intro h
  obtain ⟨records, hlength, htimed, hsum⟩ := exists_timed (2 ^ 32)
  have hne : records ≠ [] := by
    rintro rfl
    cases hlength
  have hfits : records.length < 2 ^ 64 := hlength.trans_lt (by decide)
  obtain ⟨metrics, hrecorded, -⟩ := h records htimed hfits (hsum.trans_le (Nat.zero_le _)) records
    (List.prefix_refl _) hne
  have hdivides := ((exists_recorded_iff records).mp ⟨metrics, hrecorded⟩).2
  exact not_dividesAlways htimed hlength.ge hdivides

end PerformanceMetrics

end Yuha
