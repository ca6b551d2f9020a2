import Yuha.Core.Session.Pool
import Yuha.Library.FirstBest

/-!
# Which session the pool finds

`find_session` goes over the identifiers under a connection key. It skips those it knows
nothing of and those that were pooled only lately, and keeps the first of the others with
the greatest score. A score is positive, so the first of them always beats the initial 0.
-/

namespace Yuha

open Library

namespace SessionPool

variable {pool : SessionPool}

/-- The pool knows the session, and has it for the minimum idle time. -/
def Eligible (pool : SessionPool) (now : SystemTime) (id : SessionId)
    (metadata : PooledSessionMetadata) : Prop :=
  pool.poolMetadata.lookup id = some metadata ∧
    Duration.fromSecs pool.config.minIdleTime ≤ now.since metadata.pooledAt

/-- The score of a session, if it is not skipped. -/
def reuseScore (pool : SessionPool) (now : SystemTime) (id : SessionId) : Option Nat :=
  match pool.poolMetadata.lookup id with
  | none => none
  | some metadata =>
      if now.since metadata.pooledAt < Duration.fromSecs pool.config.minIdleTime then none
      else some (calculateReuseScore now metadata)

theorem calculateReuseScore_pos (now : SystemTime) (metadata : PooledSessionMetadata) :
    0 < calculateReuseScore now metadata := by
  unfold calculateReuseScore
  cases metadata.priority <;> simp only <;> omega

theorem reuseScore_eq_some_iff {now : SystemTime} {id : SessionId} {score : Nat} :
    pool.reuseScore now id = some score ↔
      ∃ metadata : PooledSessionMetadata, pool.Eligible now id metadata ∧
        calculateReuseScore now metadata = score := by
  unfold reuseScore Eligible
  cases hlookup : pool.poolMetadata.lookup id with
  | none => simp
  | some metadata => simp [and_assoc]

theorem reuseScore_eq_none_iff {now : SystemTime} {id : SessionId} :
    pool.reuseScore now id = none ↔
      ∀ metadata : PooledSessionMetadata, ¬ pool.Eligible now id metadata := by
  rw [Option.eq_none_iff_forall_ne_some]
  simp only [ne_eq, reuseScore_eq_some_iff, not_exists, not_and]
  exact ⟨fun h metadata heligible => h _ metadata heligible rfl,
    fun h _ metadata heligible _ => h metadata heligible⟩

theorem reuseScore_pos {now : SystemTime} {id : SessionId} {score : Nat}
    (h : pool.reuseScore now id = some score) : 0 < score := by
  obtain ⟨metadata, _, rfl⟩ := reuseScore_eq_some_iff.mp h
  exact calculateReuseScore_pos now metadata

/-- The loop of `find_session` keeps the best by this score. -/
theorem consider_eq_keepBest (pool : SessionPool) (now : SystemTime) :
    pool.consider now = keepBest (pool.reuseScore now) := by
  funext best id
  cases hlookup : pool.poolMetadata.lookup id with
  | none => simp only [consider, keepBest, reuseScore, hlookup]
  | some metadata =>
      by_cases hlately :
          now.since metadata.pooledAt < Duration.fromSecs pool.config.minIdleTime
      · simp only [consider, keepBest, reuseScore, hlookup, if_pos hlately]
      · simp only [consider, keepBest, reuseScore, hlookup, if_neg hlately, gt_iff_lt]

theorem findSession_of_prefers (henabled : pool.config.enabled = true)
    (hprefers : pool.config.preferReuse = true) (now : SystemTime) (connectionKey : String) :
    pool.findSession now connectionKey =
      ((pool.pools.group connectionKey).foldl (keepBest (pool.reuseScore now)) (none, 0)).1 := by
  unfold findSession GroupedIndex.group
  simp only [henabled, hprefers, Bool.not_true, Bool.or_self, Bool.false_eq_true, if_false,
    consider_eq_keepBest]
  cases pool.pools.lookup connectionKey <;> rfl

/-- No session is found only if none is eligible. -/
theorem findSession_eq_none (henabled : pool.config.enabled = true)
    (hprefers : pool.config.preferReuse = true) (now : SystemTime) (connectionKey : String) :
    pool.findSession now connectionKey = none ↔
      ∀ id ∈ pool.pools.group connectionKey, ∀ metadata : PooledSessionMetadata,
        ¬ pool.Eligible now id metadata := by
  rw [findSession_of_prefers henabled hprefers,
    foldl_keepBest_eq_none_iff fun _ _ hscore => reuseScore_pos hscore]
  simp only [reuseScore_eq_none_iff]

/-- A session is found unless none is eligible, and it is then the first of those with the
greatest score. -/
theorem findSession_eq_iff (henabled : pool.config.enabled = true)
    (hprefers : pool.config.preferReuse = true) (now : SystemTime) (connectionKey : String) :
    (pool.findSession now connectionKey = none ↔
      ∀ id ∈ pool.pools.group connectionKey, ∀ metadata : PooledSessionMetadata,
        ¬ pool.Eligible now id metadata) ∧
    ∀ id : SessionId, pool.findSession now connectionKey = some id ↔
      ∃ (metadata : PooledSessionMetadata) (front back : List SessionId),
        pool.Eligible now id metadata ∧
        pool.pools.group connectionKey = front ++ id :: back ∧
        (∀ other ∈ front, ∀ metadata' : PooledSessionMetadata,
          pool.Eligible now other metadata' →
            calculateReuseScore now metadata' < calculateReuseScore now metadata) ∧
        ∀ other ∈ back, ∀ metadata' : PooledSessionMetadata,
          pool.Eligible now other metadata' →
            calculateReuseScore now metadata' ≤ calculateReuseScore now metadata := by
  constructor
  · exact findSession_eq_none henabled hprefers now connectionKey
  · intro id
    rw [findSession_of_prefers henabled hprefers,
      foldl_keepBest_eq_some_iff fun _ _ hscore => reuseScore_pos hscore]
    simp only [IsFirstBest, reuseScore_eq_some_iff]
    constructor
    · rintro ⟨_, ⟨metadata, heligible, rfl⟩, front, back, hgroup, hfront, hback⟩
      exact ⟨metadata, front, back, heligible, hgroup,
        fun other hother metadata' h => hfront other hother _ ⟨metadata', h, rfl⟩,
        fun other hother metadata' h => hback other hother _ ⟨metadata', h, rfl⟩⟩
    · rintro ⟨metadata, front, back, heligible, hgroup, hfront, hback⟩
      refine ⟨_, ⟨metadata, heligible, rfl⟩, front, back, hgroup, ?_, ?_⟩
      · rintro other hother _ ⟨metadata', h, rfl⟩
        exact hfront other hother metadata' h
      · rintro other hother _ ⟨metadata', h, rfl⟩
        exact hback other hother metadata' h

/-- Two sessions that are as good as each other. -/
def twoIdle : SessionPool :=
  ((new { minIdleTime := 0 }).insertPooled 0 (.new 0 ⟨1⟩ "build" {} [] none)).insertPooled 0
    (.new 0 ⟨2⟩ "test" {} [] none)

/-- The one that was pooled first is found. -/
theorem findSession_twoIdle :
    twoIdle.findSession 0 (TransportConfig.connectionKey {}) = some ⟨1⟩ := by
  refine ((findSession_eq_iff rfl rfl 0 _).2 ⟨1⟩).mpr ⟨⟨TransportConfig.connectionKey {}, 0,
    .normal, 0⟩, [], [⟨2⟩], ⟨by decide, by decide⟩, by decide, by simp, ?_⟩
  intro other hother metadata' heligible
  obtain rfl := List.mem_singleton.mp hother
  have hlookup : some metadata' = some ⟨TransportConfig.connectionKey {}, 0, .normal, 0⟩ :=
    heligible.1.symm.trans (by decide)
  rw [Option.some.inj hlookup]

end SessionPool

end Yuha
