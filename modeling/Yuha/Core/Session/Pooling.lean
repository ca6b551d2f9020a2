import Yuha.Core.Session.Pool
import Yuha.Library.ExactIndex
import Yuha.Library.Execution

/-!
# The two maps of the pool

The pool files identifiers under connection keys in lists, and keeps what it knows of
each identifier in a map. The two agree as long as no identifier is added twice: adding
appends to the list, but replaces the entry of the map.
-/

namespace Yuha

open Library Library.Execution

inductive PoolOp
  | addSession (now : SystemTime) (session : SessionMetadata)
  | removeSession (sessionId : SessionId)
  | cleanupExpired (now : SystemTime) (rank : SessionId → Nat) (maxIdleTime : Duration)
  | clear

namespace SessionPool

def apply (pool : SessionPool) : PoolOp → SessionPool
  | .addSession now session => (pool.addSession now session).2
  | .removeSession sessionId => (pool.removeSession sessionId).2
  | .cleanupExpired now rank maxIdleTime => (pool.cleanupExpired now rank maxIdleTime).2
  | .clear => pool.clear

/-- The two maps describe the same pool, so the numbers taken from them agree. -/
structure Consistent (pool : SessionPool) : Prop where
  count : ∀ key id, (pool.pools.group key).count id = if pool.keyOf id = some key then 1 else 0
  no_empty : ∀ key, pool.pools.lookup key ≠ some []
  total : pool.getStats.totalPooledSessions =
    (pool.pools.entries.map fun entry => entry.2.length).sum
  distinct : ∀ key ids, pool.pools.lookup key = some ids → ids.Nodup

variable {pool : SessionPool}

/-- All of it comes down to the lists being an exact index of the map. -/
theorem consistent_iff_indexes : pool.Consistent ↔ pool.pools.Indexes pool.keyOf := by
  constructor
  · intro h
    refine ⟨fun key id => ?_, fun key => List.nodup_iff_count_le_one.mpr fun id => ?_, h.no_empty⟩
    · rw [← List.count_pos_iff, h.count]
      split <;> simp [*]
    · rw [h.count]
      split <;> simp
  · intro h
    exact ⟨h.count, h.no_empty, h.sum_length.symm, fun key ids hids => (h.lookup_eq_some hids).1⟩

theorem indexes_new (config : SessionPoolConfig) :
    (new config).pools.Indexes (new config).keyOf :=
  GroupedIndex.indexes_empty fun _ => rfl

theorem indexes_clear (pool : SessionPool) : pool.clear.pools.Indexes pool.clear.keyOf :=
  GroupedIndex.indexes_empty fun _ => rfl

theorem indexes_removeSession (h : pool.pools.Indexes pool.keyOf) (sessionId : SessionId) :
    (pool.removeSession sessionId).2.pools.Indexes (pool.removeSession sessionId).2.keyOf := by
  have hkey := keyOf_removeSession pool sessionId
  unfold removeSession at hkey ⊢
  cases hlookup : pool.poolMetadata.lookup sessionId with
  | none => simpa only [hlookup] using h
  | some metadata =>
      simp only [hlookup] at hkey ⊢
      exact h.discard (by simp [keyOf, hlookup]) hkey

theorem indexes_cleanupExpired (h : pool.pools.Indexes pool.keyOf) (now : SystemTime)
    (rank : SessionId → Nat) (maxIdleTime : Duration) :
    (pool.cleanupExpired now rank maxIdleTime).2.pools.Indexes
      (pool.cleanupExpired now rank maxIdleTime).2.keyOf := by
  refine List.foldlRecOn (motive := fun (after : SessionPool) =>
    after.pools.Indexes after.keyOf) _ _ h ?_
  exact fun after hafter sessionId _ => indexes_removeSession hafter sessionId

/-- What `add_session` asks for before it pools a session. -/
def Accepts (pool : SessionPool) (session : SessionMetadata) : Prop :=
  pool.config.enabled = true ∧ (session.status = .idle ∨ session.status = .active) ∧
    pool.atCapacity session.connectionKey = false

theorem addSession_of_accepts {session : SessionMetadata} (h : pool.Accepts session)
    (now : SystemTime) :
    (pool.addSession now session).2 = pool.insertPooled now session := by
  obtain ⟨henabled, hstatus, hcapacity⟩ := h
  rcases hstatus with hstatus | hstatus <;> simp [addSession, henabled, hstatus, hcapacity]

theorem addSession_of_not_accepts {session : SessionMetadata} (h : ¬ pool.Accepts session)
    (now : SystemTime) : (pool.addSession now session).2 = pool := by
  unfold addSession
  split
  · rfl
  split
  · rfl
  split
  · rfl
  · next henabled hstatus hcapacity =>
      refine absurd ⟨by simpa using henabled, ?_, by simpa using hcapacity⟩ h
      by_contra hneither
      exact hstatus (not_or.mp hneither)

/-- Pooling a session keeps the maps in step exactly if the session was not pooled. -/
theorem indexes_insertPooled_iff (h : pool.pools.Indexes pool.keyOf) (now : SystemTime)
    (session : SessionMetadata) :
    (pool.insertPooled now session).pools.Indexes (pool.insertPooled now session).keyOf ↔
      pool.keyOf session.id = none := by
  have hkey := keyOf_insertPooled pool now session
  constructor
  · intro hafter
    by_contra hpooled
    obtain ⟨key, hpooled⟩ := Option.ne_none_iff_exists'.mp hpooled
    have hbefore := h.count key session.id
    have hcount := hafter.count key session.id
    rw [if_pos hpooled] at hbefore
    rw [hkey, if_pos rfl] at hcount
    simp only [insertPooled, GroupedIndex.group_push] at hcount
    split at hcount
    · next heq =>
        subst heq
        simp [hbefore] at hcount
    · next hne =>
        rw [hbefore, if_neg fun heq => hne (Option.some.inj heq).symm] at hcount
        exact one_ne_zero hcount
  · exact fun hnone => h.push hnone hkey

/-- The operation pools no session that is pooled already. -/
def PoolsOnce (pool : SessionPool) : PoolOp → Prop
  | .addSession _ session => pool.Accepts session → pool.keyOf session.id = none
  | _ => True

theorem indexes_apply_iff (h : pool.pools.Indexes pool.keyOf) (op : PoolOp) :
    (pool.apply op).pools.Indexes (pool.apply op).keyOf ↔ pool.PoolsOnce op := by
  cases op with
  | addSession now session =>
      by_cases haccepts : pool.Accepts session
      · simp only [SessionPool.apply, addSession_of_accepts haccepts]
        rw [indexes_insertPooled_iff h]
        exact ⟨fun hnone _ => hnone, fun honce => honce haccepts⟩
      · simp only [SessionPool.apply, addSession_of_not_accepts haccepts]
        exact iff_of_true h fun hyes => absurd hyes haccepts
  | removeSession sessionId => exact iff_of_true (indexes_removeSession h sessionId) trivial
  | cleanupExpired now rank maxIdleTime =>
      exact iff_of_true (indexes_cleanupExpired h now rank maxIdleTime) trivial
  | clear => exact iff_of_true (indexes_clear pool) trivial

/-- The two maps agree throughout a run exactly if no operation of it pools a session that
is pooled already. -/
theorem consistent_iff_poolsOnce (config : SessionPoolConfig) (ops : List PoolOp) :
    Always apply Consistent (new config) ops ↔
      Along apply (fun _ pool op => pool.PoolsOnce op) (new config) ops := by
  have hknown : Along apply (fun _ _ _ => True) (new config) ops := fun _ _ _ => trivial
  refine always_iff_along (I := fun _ pool => pool.pools.Indexes pool.keyOf) hknown
    (indexes_new config) (fun _ _ h => consistent_iff_indexes.mpr h) ?_ ?_
  · exact fun _ pool op h _ honce => (indexes_apply_iff h op).mpr honce
  · intro _ pool op h _ honce hafter
    exact honce ((indexes_apply_iff h op).mp (consistent_iff_indexes.mp hafter))

/-- An idle session that is added twice is listed twice and counted once. -/
theorem consistent_twice_false :
    ¬ Always apply Consistent (new {})
      [.addSession 0 ((SessionMetadata.new 0 ⟨1⟩ "build" {} [] none).setStatus 0 .idle),
        .addSession 0 ((SessionMetadata.new 0 ⟨1⟩ "build" {} [] none).setStatus 0 .idle)] := by
  intro h
  exact absurd h.last.total (by decide)

end SessionPool

end Yuha
