import Yuha.Core.Session.Metadata

/-!
# The session pool

The pool keeps two maps: the identifiers pooled under each connection key, and what
each pooled session was when it was pooled.
-/

namespace Yuha

open Library

structure SessionPoolConfig where
  enabled : Bool := true
  maxSessionsPerConnection : Nat := 5
  maxTotalSessions : Nat := 50
  preferReuse : Bool := true
  minIdleTime : Nat := 5
  deriving DecidableEq, Repr

structure PooledSessionMetadata where
  connectionKey : String
  pooledAt : SystemTime
  priority : SessionPriority
  useCount : Nat
  deriving DecidableEq, Repr

structure SessionPool where
  config : SessionPoolConfig
  pools : GroupedIndex String SessionId := ∅
  poolMetadata : HashMap SessionId PooledSessionMetadata := ∅

namespace SessionPool

def new (config : SessionPoolConfig) : SessionPool := { config := config }

/-- The limits `add_session` checks under its read locks. A key that has no pool yet
is not checked against the limit for one connection. -/
def atCapacity (pool : SessionPool) (connectionKey : String) : Bool :=
  (match pool.pools.lookup connectionKey with
    | some sessionIds => decide (pool.config.maxSessionsPerConnection ≤ sessionIds.length)
    | none => false)
    || decide (pool.config.maxTotalSessions ≤ pool.poolMetadata.size)

def insertPooled (pool : SessionPool) (now : SystemTime) (session : SessionMetadata) :
    SessionPool :=
  { pool with
    pools := pool.pools.push session.connectionKey session.id
    poolMetadata := AList.insert session.id
      { connectionKey := session.connectionKey
        pooledAt := now
        priority := session.priority
        useCount := session.useCount }
      pool.poolMetadata }

def addSession (pool : SessionPool) (now : SystemTime) (session : SessionMetadata) :
    Bool × SessionPool :=
  if !pool.config.enabled then
    (false, pool)
  else if session.status ≠ .idle ∧ session.status ≠ .active then
    (false, pool)
  else if pool.atCapacity session.connectionKey then
    (false, pool)
  else
    (true, pool.insertPooled now session)

def removeSession (pool : SessionPool) (sessionId : SessionId) : Bool × SessionPool :=
  match pool.poolMetadata.lookup sessionId with
  | some metadata =>
      (true, { pool with
        pools := pool.pools.discard metadata.connectionKey sessionId
        poolMetadata := AList.erase sessionId pool.poolMetadata })
  | none => (false, pool)

def calculateReuseScore (now : SystemTime) (metadata : PooledSessionMetadata) : Nat :=
  let byPriority := match metadata.priority with
    | .critical => 100
    | .high => 75
    | .normal => 50
    | .low => 25
  let byUseCount :=
    if metadata.useCount < 10 then 20 else if metadata.useCount < 50 then 10 else 0
  let pooledDuration := now.since metadata.pooledAt
  let byAge :=
    if pooledDuration < Duration.fromSecs 60 then 15
    else if pooledDuration < Duration.fromSecs 300 then 10
    else 0
  byPriority + byUseCount + byAge

/-- One turn of the loop of `find_session`: the best session so far with its score. -/
def consider (pool : SessionPool) (now : SystemTime) (best : Option SessionId × Nat)
    (sessionId : SessionId) : Option SessionId × Nat :=
  match pool.poolMetadata.lookup sessionId with
  | none => best
  | some metadata =>
      if now.since metadata.pooledAt < Duration.fromSecs pool.config.minIdleTime then
        best
      else if calculateReuseScore now metadata > best.2 then
        (some sessionId, calculateReuseScore now metadata)
      else
        best

def findSession (pool : SessionPool) (now : SystemTime) (connectionKey : String) :
    Option SessionId :=
  if !pool.config.enabled || !pool.config.preferReuse then
    none
  else
    match pool.pools.lookup connectionKey with
    | some sessionIds => (sessionIds.foldl (pool.consider now) (none, 0)).1
    | none => none

/-- Remove the sessions that were pooled for longer than `maxIdleTime`. -/
def cleanupExpired (pool : SessionPool) (now : SystemTime) (rank : SessionId → Nat)
    (maxIdleTime : Duration) : List SessionId × SessionPool :=
  let expired := ((pool.poolMetadata.listing rank).filter fun entry =>
    decide (maxIdleTime < now.since entry.2.pooledAt)).map Sigma.fst
  (expired, expired.foldl (fun pool sessionId => (pool.removeSession sessionId).2) pool)

def clear (pool : SessionPool) : SessionPool :=
  { pool with pools := ∅, poolMetadata := ∅ }

def isPooled (pool : SessionPool) (sessionId : SessionId) : Bool :=
  (pool.poolMetadata.lookup sessionId).isSome

structure PoolStats where
  enabled : Bool
  totalPooledSessions : Nat
  connectionPools : Nat
  largestPoolSize : Nat
  maxSessionsPerConnection : Nat
  maxTotalSessions : Nat

def getStats (pool : SessionPool) : PoolStats where
  enabled := pool.config.enabled
  totalPooledSessions := pool.poolMetadata.size
  connectionPools := pool.pools.size
  largestPoolSize := (pool.pools.entries.map fun entry => entry.2.length).max?.getD 0
  maxSessionsPerConnection := pool.config.maxSessionsPerConnection
  maxTotalSessions := pool.config.maxTotalSessions

/-! ## The key a session is pooled under -/

def keyOf (pool : SessionPool) (sessionId : SessionId) : Option String :=
  (pool.poolMetadata.lookup sessionId).map (·.connectionKey)

/-- The two maps describe the same pool. -/
structure WellFormed (pool : SessionPool) : Prop where
  mem_group : ∀ key id, id ∈ pool.pools.group key ↔ pool.keyOf id = some key

theorem wellFormed_new (config : SessionPoolConfig) : (new config).WellFormed where
  mem_group key id := by simp [new, keyOf]

@[simp] theorem keyOf_new (config : SessionPoolConfig) (id : SessionId) :
    (new config).keyOf id = none := rfl

theorem keyOf_insertPooled (pool : SessionPool) (now : SystemTime)
    (session : SessionMetadata) (id : SessionId) :
    (pool.insertPooled now session).keyOf id =
      if id = session.id then some session.connectionKey else pool.keyOf id := by
  simp only [keyOf, insertPooled, HashMap.lookup_insert_ite]
  split <;> rfl

theorem addSession_snd (pool : SessionPool) (now : SystemTime) (session : SessionMetadata) :
    (pool.addSession now session).2 = pool ∨
      (pool.addSession now session).2 = pool.insertPooled now session := by
  unfold addSession
  split
  · exact Or.inl rfl
  split
  · exact Or.inl rfl
  split
  · exact Or.inl rfl
  · exact Or.inr rfl

theorem keyOf_addSession_of_ne (pool : SessionPool) (now : SystemTime)
    {session : SessionMetadata} {id : SessionId} (h : id ≠ session.id) :
    (pool.addSession now session).2.keyOf id = pool.keyOf id := by
  rcases pool.addSession_snd now session with heq | heq
  · rw [heq]
  · rw [heq, keyOf_insertPooled, if_neg h]

theorem keyOf_addSession_self (pool : SessionPool) (now : SystemTime)
    (session : SessionMetadata) :
    (pool.addSession now session).2.keyOf session.id = pool.keyOf session.id ∨
      (pool.addSession now session).2.keyOf session.id = some session.connectionKey := by
  rcases pool.addSession_snd now session with heq | heq
  · exact Or.inl (by rw [heq])
  · exact Or.inr (by rw [heq, keyOf_insertPooled, if_pos rfl])

theorem lookup_removeSession (pool : SessionPool) (sessionId id : SessionId) :
    (pool.removeSession sessionId).2.poolMetadata.lookup id =
      if id = sessionId then none else pool.poolMetadata.lookup id := by
  unfold removeSession
  cases h : pool.poolMetadata.lookup sessionId with
  | none =>
      by_cases hid : id = sessionId
      · subst hid
        simp [h]
      · simp [hid]
  | some metadata => simp only [HashMap.lookup_erase_ite]

theorem keyOf_removeSession (pool : SessionPool) (sessionId id : SessionId) :
    (pool.removeSession sessionId).2.keyOf id =
      if id = sessionId then none else pool.keyOf id := by
  rw [keyOf, lookup_removeSession]
  split <;> rfl

/-- Pooling a session keeps the maps in step if it is not pooled under another key. -/
theorem WellFormed.addSession {pool : SessionPool} (h : pool.WellFormed) (now : SystemTime)
    {session : SessionMetadata}
    (hkey : ∀ key, pool.keyOf session.id = some key → key = session.connectionKey) :
    (pool.addSession now session).2.WellFormed := by
  rcases pool.addSession_snd now session with heq | heq
  · rwa [heq]
  rw [heq]
  constructor
  intro key id
  rw [keyOf_insertPooled]
  simp only [insertPooled, GroupedIndex.mem_group_push, h.mem_group]
  by_cases hid : id = session.id
  · subst hid
    simp only [and_true, if_true, Option.some.injEq]
    constructor
    · rintro (hk | hk)
      · exact (hkey key hk).symm
      · exact hk.symm
    · exact fun hk => Or.inr hk.symm
  · simp [hid]

theorem WellFormed.removeSession {pool : SessionPool} (h : pool.WellFormed)
    (sessionId : SessionId) : (pool.removeSession sessionId).2.WellFormed := by
  constructor
  intro key id
  rw [keyOf_removeSession]
  unfold SessionPool.removeSession
  cases hlookup : pool.poolMetadata.lookup sessionId with
  | none =>
      have hnone : pool.keyOf sessionId = none := by simp [keyOf, hlookup]
      by_cases hid : id = sessionId
      · subst hid
        simp [h.mem_group, hnone]
      · simp [h.mem_group, hid]
  | some metadata =>
      have hsome : pool.keyOf sessionId = some metadata.connectionKey := by
        simp [keyOf, hlookup]
      simp only [GroupedIndex.mem_group_discard, h.mem_group]
      by_cases hid : id = sessionId
      · subst hid
        simp [hsome, eq_comm]
      · simp [hid]

/-- A session that is found is pooled under the key that was asked for. -/
theorem mem_group_of_findSession {pool : SessionPool} {now : SystemTime} {key : String}
    {id : SessionId} (h : pool.findSession now key = some id) : id ∈ pool.pools.group key := by
  have hfold : ∀ (ids : List SessionId) (best : Option SessionId × Nat),
      (ids.foldl (pool.consider now) best).1 = some id → best.1 = some id ∨ id ∈ ids := by
    intro ids
    induction ids with
    | nil => exact fun best h => Or.inl h
    | cons sessionId ids ih =>
        intro best h
        rcases ih _ h with hbest | hmem
        · unfold consider at hbest
          split at hbest
          · exact Or.inl hbest
          split at hbest
          · exact Or.inl hbest
          split at hbest
          · have heq : sessionId = id := Option.some.inj hbest
            exact Or.inr (by simp [heq])
          · exact Or.inl hbest
        · exact Or.inr (List.mem_cons_of_mem _ hmem)
  unfold findSession at h
  split at h
  · cases h
  split at h
  · next ids hids =>
      rcases hfold ids (none, 0) h with hnone | hmem
      · cases hnone
      · simpa [GroupedIndex.group, hids] using hmem
  · cases h

theorem WellFormed.keyOf_of_findSession {pool : SessionPool} (h : pool.WellFormed)
    {now : SystemTime} {key : String} {id : SessionId}
    (hfind : pool.findSession now key = some id) : pool.keyOf id = some key :=
  (h.mem_group key id).mp (mem_group_of_findSession hfind)

theorem WellFormed.cleanupExpired {pool : SessionPool} (h : pool.WellFormed)
    (now : SystemTime) (rank : SessionId → Nat) (maxIdleTime : Duration) :
    (pool.cleanupExpired now rank maxIdleTime).2.WellFormed := by
  apply List.foldlRecOn _ _ h
  exact fun pool hpool sessionId _ => hpool.removeSession sessionId

theorem keyOf_of_keyOf_cleanupExpired {pool : SessionPool} {now : SystemTime}
    {rank : SessionId → Nat} {maxIdleTime : Duration} {id : SessionId} {key : String}
    (h : (pool.cleanupExpired now rank maxIdleTime).2.keyOf id = some key) :
    pool.keyOf id = some key := by
  refine List.foldlRecOn
    (motive := fun (after : SessionPool) =>
      after.keyOf id = some key → pool.keyOf id = some key) _ _ (fun h => h) ?_ h
  intro pool' ih sessionId _ hkey
  rw [keyOf_removeSession] at hkey
  split at hkey
  · cases hkey
  · exact ih hkey

end SessionPool

end Yuha
