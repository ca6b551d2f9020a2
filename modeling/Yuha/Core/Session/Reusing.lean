import Yuha.Core.Session.Coherence
import Yuha.Core.Session.Finding
import Yuha.Core.Session.Pooling

/-!
# When the pool lends a session

`find_session` finds a session exactly if one of its connection was pooled for the minimum
idle time. A session comes in when it becomes idle and the pool has room, and the cleanup
callback takes it out when it has expired or was pooled for longer than the maximum.
-/

namespace Yuha

open Library

namespace SessionPool

variable {pool : SessionPool}

/-- The session is pooled under the key, for the minimum idle time at least. -/
def Lends (pool : SessionPool) (now : SystemTime) (connectionKey : String)
    (id : SessionId) : Prop :=
  ∃ metadata, pool.poolMetadata.lookup id = some metadata ∧
    metadata.connectionKey = connectionKey ∧
    Duration.fromSecs pool.config.minIdleTime ≤ now.since metadata.pooledAt

theorem WellFormed.findSession_isSome (h : pool.WellFormed) (now : SystemTime)
    (connectionKey : String) :
    (pool.findSession now connectionKey).isSome ↔ pool.config.enabled = true ∧
      pool.config.preferReuse = true ∧ ∃ id, pool.Lends now connectionKey id := by
  have hgroup : ∀ id metadata, pool.poolMetadata.lookup id = some metadata →
      (id ∈ pool.pools.group connectionKey ↔ metadata.connectionKey = connectionKey) := by
    intro id metadata hlookup
    rw [h.mem_group, keyOf, hlookup, Option.map_some, Option.some.injEq]
  have hlends : (∃ id, pool.Lends now connectionKey id) ↔
      ∃ id ∈ pool.pools.group connectionKey,
        ∃ metadata, pool.poolMetadata.lookup id = some metadata ∧
          Duration.fromSecs pool.config.minIdleTime ≤ now.since metadata.pooledAt := by
    constructor
    · rintro ⟨id, metadata, hlookup, hkey, hready⟩
      exact ⟨id, (hgroup id metadata hlookup).mpr hkey, metadata, hlookup, hready⟩
    · rintro ⟨id, hmem, metadata, hlookup, hready⟩
      exact ⟨id, metadata, hlookup, (hgroup id metadata hlookup).mp hmem, hready⟩
  rw [hlends]
  by_cases hconfig : pool.config.enabled = true ∧ pool.config.preferReuse = true
  · obtain ⟨henabled, hprefers⟩ := hconfig
    rw [Option.isSome_iff_ne_none, Ne, findSession_eq_none henabled hprefers now _]
    simp only [Eligible, henabled, hprefers, true_and, not_forall, not_not, exists_prop]
  · have hoff : (!pool.config.enabled || !pool.config.preferReuse) = true := by
      rwa [← Bool.not_and, Bool.not_eq_true', Bool.eq_false_iff, ne_eq, Bool.and_eq_true]
    simp only [findSession, hoff, if_true]
    exact iff_of_false (by simp) fun hall => hconfig ⟨hall.1, hall.2.1⟩

/-! ## What comes in and what goes out -/

@[simp] theorem addSession_config (pool : SessionPool) (now : SystemTime)
    (session : SessionMetadata) : (pool.addSession now session).2.config = pool.config := by
  rcases pool.addSession_snd now session with heq | heq
  · rw [heq]
  · rw [heq, insertPooled]

@[simp] theorem removeSession_config (pool : SessionPool) (sessionId : SessionId) :
    (pool.removeSession sessionId).2.config = pool.config := by
  unfold removeSession
  split <;> rfl

/-- An idle session is pooled if there is room for it. -/
theorem lookup_addSession (henabled : pool.config.enabled = true) (now : SystemTime)
    {session : SessionMetadata} (hidle : session.status = .idle) (id : SessionId) :
    (pool.addSession now session).2.poolMetadata.lookup id =
      if pool.atCapacity session.connectionKey = false ∧ id = session.id then
        some ⟨session.connectionKey, now, session.priority, session.useCount⟩
      else pool.poolMetadata.lookup id := by
  by_cases hroom : pool.atCapacity session.connectionKey = false
  · rw [addSession_of_accepts ⟨henabled, Or.inl hidle, hroom⟩]
    simp only [hroom, true_and, insertPooled, HashMap.lookup_insert_ite]
  · rw [addSession_of_not_accepts fun haccepts => hroom haccepts.2.2,
      if_neg fun hboth => hroom hboth.1]

theorem foldl_removeSession (ids : List SessionId) (pool : SessionPool) (id : SessionId) :
    (ids.foldl (fun pool sessionId => (pool.removeSession sessionId).2) pool).config =
        pool.config ∧
      (ids.foldl (fun pool sessionId =>
          (pool.removeSession sessionId).2) pool).poolMetadata.lookup id =
        if id ∈ ids then none else pool.poolMetadata.lookup id := by
  induction ids generalizing pool with
  | nil => simp
  | cons sessionId ids ih =>
      obtain ⟨hconfig, hlookup⟩ := ih (pool.removeSession sessionId).2
      refine ⟨hconfig.trans (removeSession_config pool sessionId), ?_⟩
      rw [List.foldl_cons, hlookup, lookup_removeSession]
      by_cases hid : id = sessionId <;> simp [hid]

theorem cleanupExpired_config (pool : SessionPool) (now : SystemTime) (rank : SessionId → Nat)
    (maxIdleTime : Duration) :
    (pool.cleanupExpired now rank maxIdleTime).2.config = pool.config :=
  (foldl_removeSession _ pool ⟨0⟩).1

/-- A session that was pooled for too long is taken out. -/
theorem lookup_cleanupExpired (pool : SessionPool) (now : SystemTime) (rank : SessionId → Nat)
    (maxIdleTime : Duration) (id : SessionId) :
    (pool.cleanupExpired now rank maxIdleTime).2.poolMetadata.lookup id =
      (pool.poolMetadata.lookup id).filter fun metadata =>
        decide (now.since metadata.pooledAt ≤ maxIdleTime) := by
  have hexpired : id ∈ ((pool.poolMetadata.listing rank).filter fun entry =>
      decide (maxIdleTime < now.since entry.2.pooledAt)).map Sigma.fst ↔
      ∃ metadata, pool.poolMetadata.lookup id = some metadata ∧
        maxIdleTime < now.since metadata.pooledAt := by
    simp [HashMap.mem_listing]
  apply (foldl_removeSession _ pool id).2.trans
  simp only [hexpired]
  cases hlookup : pool.poolMetadata.lookup id with
  | none => simp
  | some metadata =>
      by_cases hlong : maxIdleTime < now.since metadata.pooledAt
      · simp [hlong, Option.filter_some]
      · simp [hlong, Option.filter_some, Nat.not_lt.mp hlong]

end SessionPool

namespace SessionManager

variable {manager : SessionManager} {suits : SessionMetadata → String → Prop}

/-- The pool and the lifecycle are configured alike. -/
structure SameConfig (manager manager' : SessionManager) : Prop where
  pool : manager'.pool.config = manager.pool.config
  lifecycle : manager'.lifecycle = manager.lifecycle

theorem SameConfig.refl (manager : SessionManager) : SameConfig manager manager := ⟨rfl, rfl⟩

theorem SameConfig.trans {first second third : SessionManager} (h : SameConfig first second)
    (h' : SameConfig second third) : SameConfig first third :=
  ⟨h'.pool.trans h.pool, h'.lifecycle.trans h.lifecycle⟩

theorem sameConfig_createSession (manager : SessionManager) (now : SystemTime)
    (freshId : SessionId) (name : String) (transportConfig : TransportConfig)
    (tags : List String) (description : Option String) :
    SameConfig manager
      (manager.createSession now freshId name transportConfig tags description).2 := by
  unfold createSession
  dsimp only
  split <;> exact ⟨rfl, rfl⟩

theorem sameConfig_updateSessionStatus (manager : SessionManager) (now : SystemTime)
    (sessionId : SessionId) (status : SessionStatus) :
    SameConfig manager (manager.updateSessionStatus now sessionId status).2 := by
  cases hget : manager.getSession sessionId with
  | none =>
      rw [updateSessionStatus_of_none hget]
      exact .refl manager
  | some metadata =>
      rw [updateSessionStatus_of_some hget]
      refine ⟨?_, rfl⟩
      cases status with
      | idle =>
          simp only [poolByStatus]
          split
          · exact SessionPool.addSession_config _ _ _
          · rfl
      | active | failed | closed => exact SessionPool.removeSession_config _ _
      | creating | connecting | reconnecting | closing => rfl

theorem sameConfig_useSession (manager : SessionManager) (now : SystemTime)
    (sessionId : SessionId) : SameConfig manager (manager.useSession now sessionId).2 := by
  cases hget : manager.getSession sessionId with
  | none =>
      rw [useSession_of_none hget]
      exact .refl manager
  | some metadata =>
      have hmarked : SameConfig manager (manager.afterMark now sessionId metadata) := ⟨rfl, rfl⟩
      rw [useSession_of_some hget]
      split
      · exact hmarked.trans (sameConfig_updateSessionStatus _ now sessionId .active)
      · exact hmarked

theorem sameConfig_closeSession (manager : SessionManager) (now : SystemTime)
    (sessionId : SessionId) : SameConfig manager (manager.closeSession now sessionId).2 := by
  cases hget : manager.getSession sessionId with
  | none =>
      rw [closeSession_of_none hget]
      exact .refl manager
  | some metadata =>
      obtain ⟨_, hpool, hlifecycle, _⟩ := closeSession_of_some now hget
      exact ⟨by rw [hpool, SessionPool.removeSession_config], hlifecycle⟩

/-- One turn of the cleanup loop takes its session out of the pool if it has expired. -/
theorem expireSession_pool {acc : List SessionId × SessionManager} (h : acc.2.Filed suits)
    (now : SystemTime) (session : SessionMetadata) :
    SameConfig acc.2 (expireSession now acc session).2 ∧
      ∀ id, (expireSession now acc session).2.pool.poolMetadata.lookup id =
        if acc.2.lifecycle.shouldExpireSession now session = true ∧ id = session.id then none
        else acc.2.pool.poolMetadata.lookup id := by
  obtain ⟨hlifecycle, _, hpool⟩ := expireSession_snd now acc session
  by_cases hexpire : acc.2.lifecycle.shouldExpireSession now session = true
  · simp only [hexpire, true_and]
    rcases hpool with ⟨hsame, hgone⟩ | hremoved
    · refine ⟨⟨by rw [hsame], hlifecycle⟩, fun id => ?_⟩
      rw [hsame]
      split
      · next hid =>
          -- It is registered no more, so it is not in the pool either.
          have hnone : acc.2.pool.keyOf session.id = none :=
            h.keyOf_eq_none (hgone.resolve_left (by rw [hexpire]; decide))
          rw [hid]
          exact Option.map_eq_none_iff.mp hnone
      · rfl
    · refine ⟨⟨by rw [hremoved, SessionPool.removeSession_config], hlifecycle⟩, fun id => ?_⟩
      rw [hremoved]
      exact SessionPool.lookup_removeSession acc.2.pool session.id id
  · have hskip : expireSession now acc session = acc := if_neg hexpire
    rw [hskip]
    exact ⟨.refl acc.2, fun id => (if_neg fun hboth => hexpire hboth.1).symm⟩

theorem foldl_expireSession_pool (now : SystemTime) (sessions : List SessionMetadata)
    (acc : List SessionId × SessionManager) (h : acc.2.Filed suits) :
    SameConfig acc.2 (sessions.foldl (expireSession now) acc).2 ∧
      ∀ id, (sessions.foldl (expireSession now) acc).2.pool.poolMetadata.lookup id =
        if ∃ session ∈ sessions, acc.2.lifecycle.shouldExpireSession now session = true ∧
          id = session.id then none
        else acc.2.pool.poolMetadata.lookup id := by
  induction sessions generalizing acc with
  | nil => exact ⟨.refl acc.2, by simp⟩
  | cons session sessions ih =>
      obtain ⟨hconfig, hlookup⟩ := expireSession_pool h now session
      obtain ⟨hconfig', hlookup'⟩ := ih _ (h.expireSession now session)
      refine ⟨hconfig.trans hconfig', fun id => ?_⟩
      rw [List.foldl_cons, hlookup', hlookup, hconfig.lifecycle]
      simp only [List.mem_cons, exists_eq_or_imp]
      by_cases hhere : acc.2.lifecycle.shouldExpireSession now session = true ∧ id = session.id
      · simp [hhere]
      · simp [hhere]

/-- After a cleanup the pool has the sessions that have not expired and that were not pooled
for longer than the maximum idle time. -/
theorem cleanup_pool (h : manager.Filed suits) (now : SystemTime) (rank : SessionId → Nat) :
    SameConfig manager (manager.cleanup now rank).2 ∧
      ∀ id, (manager.cleanup now rank).2.pool.poolMetadata.lookup id =
        if manager.Expires now id then none
        else (manager.pool.poolMetadata.lookup id).filter fun metadata =>
          decide (now.since metadata.pooledAt ≤ manager.lifecycle.maxIdleTime) := by
  obtain ⟨hconfig, hlookup⟩ :=
    foldl_expireSession_pool now (manager.registry.listAll rank) ([], manager) h
  refine ⟨⟨?_, hconfig.lifecycle⟩, fun id => ?_⟩
  · exact (SessionPool.cleanupExpired_config _ now rank _).trans hconfig.pool
  · apply (SessionPool.lookup_cleanupExpired _ now rank _ id).trans
    simp only [hlookup, hconfig.lifecycle, exists_listed_expires h]
    split
    · rfl
    · rfl

end SessionManager

end Yuha
