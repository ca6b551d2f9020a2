import Yuha.Core.Session.Reusing
import Yuha.Core.Session.Census

/-!
# What one cleanup does

The cleanup callback unregisters the sessions that have expired by the list it took first,
each from the registry and the pool, and records it closed. Then it takes out of the pool
what was there for too long. Both sweeps report what they took out.
-/

namespace Yuha

open Library Library.Execution

namespace SessionManager

variable {manager : SessionManager} {suits : SessionMetadata → String → Prop}

/-! ## Pooled under its own key -/

/-- A pooled session is registered, with the connection it is pooled under. -/
abbrev FiledByKey (manager : SessionManager) : Prop :=
  manager.Filed fun metadata key => metadata.connectionKey = key

theorem FiledByKey.modify (h : manager.FiledByKey) (sessionId : SessionId)
    {f : SessionMetadata → SessionMetadata} (hid : ∀ metadata, (f metadata).id = metadata.id)
    (hkey : ∀ metadata, (f metadata).connectionKey = metadata.connectionKey) :
    { manager with
      registry := (manager.registry.modify sessionId f).2 : SessionManager }.FiledByKey := by
  have hget := SessionRegistry.get_modify manager.registry sessionId f
  refine ⟨fun id metadata hafter => ?_, h.pool, fun id key hpooled => ?_⟩
  · simp only [getSession, hget] at hafter
    split at hafter
    · obtain ⟨metadata', hbefore, rfl⟩ := Option.map_eq_some_iff.mp hafter
      exact (hid metadata').trans (h.id_eq id metadata' hbefore)
    · exact h.id_eq id metadata hafter
  · obtain ⟨metadata, hbefore, hconnection⟩ := h.pooled id key hpooled
    unfold getSession at hbefore
    simp only [getSession, hget, hbefore]
    split
    · exact ⟨f metadata, rfl, (hkey metadata).trans hconnection⟩
    · exact ⟨metadata, rfl, hconnection⟩

/-- What `update_session_status` does to the pool, if it does anything. -/
theorem poolByStatus_cases (manager : SessionManager) (now : SystemTime) (sessionId : SessionId)
    (status : SessionStatus) :
    manager.poolByStatus now sessionId status = manager.pool ∨
      manager.poolByStatus now sessionId status = (manager.pool.removeSession sessionId).2 ∨
      ∃ metadata, manager.getSession sessionId = some metadata ∧
        manager.poolByStatus now sessionId status = (manager.pool.addSession now metadata).2 := by
  cases status with
  | idle =>
      simp only [poolByStatus]
      split
      · next metadata hget => exact Or.inr (Or.inr ⟨metadata, hget, rfl⟩)
      · exact Or.inl rfl
  | active | failed | closed => exact Or.inr (Or.inl rfl)
  | creating | connecting | reconnecting | closing => exact Or.inl rfl

theorem FiledByKey.removeSession (h : manager.FiledByKey) (sessionId : SessionId) :
    { manager with
      pool := (manager.pool.removeSession sessionId).2 : SessionManager }.FiledByKey := by
  refine ⟨h.id_eq, h.pool.removeSession sessionId, fun id key hkey => ?_⟩
  rw [SessionPool.keyOf_removeSession] at hkey
  split at hkey
  · cases hkey
  · exact h.pooled id key hkey

theorem FiledByKey.addSession (h : manager.FiledByKey) (now : SystemTime)
    {sessionId : SessionId} {metadata : SessionMetadata}
    (hget : manager.getSession sessionId = some metadata) :
    { manager with
      pool := (manager.pool.addSession now metadata).2 : SessionManager }.FiledByKey := by
  obtain rfl : metadata.id = sessionId := h.id_eq _ _ hget
  refine ⟨h.id_eq, h.pool.addSession now fun key hkey => ?_, fun id key hkey => ?_⟩
  · obtain ⟨metadata', hget', hconnection⟩ := h.pooled _ _ hkey
    obtain rfl := Option.some.inj (hget.symm.trans hget')
    exact hconnection.symm
  · by_cases hid : id = metadata.id
    · subst hid
      rcases SessionPool.keyOf_addSession_self manager.pool now metadata with hsame | hadded
      · exact h.pooled _ key (hsame.symm.trans hkey)
      · exact ⟨metadata, hget, Option.some.inj (hadded.symm.trans hkey)⟩
    · exact h.pooled id key ((SessionPool.keyOf_addSession_of_ne _ _ hid).symm.trans hkey)

/-- The metrics say nothing about how sessions are filed. -/
theorem FiledByKey.of_eq (h : manager.FiledByKey) {manager' : SessionManager}
    (hregistry : manager'.registry = manager.registry) (hpool : manager'.pool = manager.pool) :
    manager'.FiledByKey := by
  obtain ⟨hid, hwell, hpooled⟩ := h
  unfold getSession at hid hpooled
  rw [← hregistry] at hid hpooled
  rw [← hpool] at hwell hpooled
  exact ⟨hid, hwell, hpooled⟩

theorem FiledByKey.updateSessionStatus (h : manager.FiledByKey) (now : SystemTime)
    (sessionId : SessionId) (status : SessionStatus) :
    (manager.updateSessionStatus now sessionId status).2.FiledByKey := by
  cases hget : manager.getSession sessionId with
  | none => rwa [updateSessionStatus_of_none hget]
  | some metadata =>
      have hupdated := FiledByKey.modify (f := (·.setStatus now status)) h sessionId
        (fun _ => rfl) fun _ => rfl
      rw [updateSessionStatus_of_some hget]
      rcases poolByStatus_cases { manager with
        registry := (manager.registry.updateStatus now sessionId status).2 } now sessionId
        status with hpool | hpool | ⟨metadata', hget', hpool⟩
      · exact hupdated.of_eq rfl hpool
      · exact (hupdated.removeSession sessionId).of_eq rfl hpool
      · exact (hupdated.addSession now hget').of_eq rfl hpool

theorem FiledByKey.useSession (h : manager.FiledByKey) (now : SystemTime)
    (sessionId : SessionId) : (manager.useSession now sessionId).2.FiledByKey := by
  cases hget : manager.getSession sessionId with
  | none => rwa [useSession_of_none hget]
  | some metadata =>
      have hmarked : (manager.afterMark now sessionId metadata).FiledByKey :=
        (FiledByKey.modify (f := (·.markUsed now)) h sessionId (fun _ => rfl)
          fun _ => rfl).of_eq rfl rfl
      rw [useSession_of_some hget]
      split
      · exact hmarked.updateSessionStatus now sessionId .active
      · exact hmarked

/-- Only new metadata can file a session wrongly. -/
theorem FiledByKey.apply (h : manager.FiledByKey) {op : ManagerOp}
    (hspares : op.task.SparesMetadata) (hfresh : manager.getSession op.ambient.freshId = none) :
    (manager.apply op).FiledByKey := by
  obtain ⟨task, ambient⟩ := op
  cases task with
  | createSession name transportConfig tags description =>
      exact h.createSession ambient.now name transportConfig tags description hfresh
  | updateSessionStatus sessionId status =>
      exact FiledByKey.updateSessionStatus h ambient.now sessionId status
  | useSession sessionId => exact FiledByKey.useSession h ambient.now sessionId
  | closeSession sessionId => exact h.closeSession
  | connectOrCreateSession name transportConfig =>
      simp only [SessionManager.apply, connectOrCreateSession_snd]
      cases manager.findReusableSession ambient.now transportConfig.connectionKey with
      | some sessionId => exact FiledByKey.useSession h ambient.now sessionId
      | none => exact h.createSession ambient.now name transportConfig [] none hfresh
  | updateSessionMetadata sessionId metadata => exact absurd hspares id
  | cleanup => exact h.cleanup

/-! ## The sweep of the registry -/

/-- No two listed sessions have one identifier. -/
theorem nodup_listAll (h : manager.Filed suits) (rank : SessionId → Nat) :
    ((manager.registry.listAll rank).map (·.id)).Nodup := by
  have hids : (manager.registry.listAll rank).map (·.id) =
      (manager.registry.sessions.listing rank).map Sigma.fst := by
    rw [SessionRegistry.listAll, List.map_map]
    apply List.map_congr_left
    intro entry hentry
    exact h.id_eq entry.1 entry.2 ((HashMap.mem_listing rank _ entry.1 entry.2).mp hentry)
  rw [hids, ((HashMap.listing_perm rank manager.registry.sessions).map Sigma.fst).nodup_iff]
  exact manager.registry.sessions.nodupKeys

theorem expireSession_fst (now : SystemTime) (acc : List SessionId × SessionManager)
    (session : SessionMetadata) :
    (expireSession now acc session).1 =
      if acc.2.lifecycle.shouldExpireSession now session = true then acc.1 ++ [session.id]
      else acc.1 := by
  obtain ⟨expired, manager⟩ := acc
  by_cases hexpire : manager.lifecycle.shouldExpireSession now session = true
  · simp only [expireSession, hexpire, if_true]
    split <;> rfl
  · simp [expireSession, hexpire]

/-- The sweep reports each listed session that has expired. -/
theorem foldl_expireSession_fst (now : SystemTime) (sessions : List SessionMetadata)
    (acc : List SessionId × SessionManager) :
    (sessions.foldl (expireSession now) acc).1 = acc.1 ++
      (sessions.filter (acc.2.lifecycle.shouldExpireSession now)).map (·.id) := by
  induction sessions generalizing acc with
  | nil => simp
  | cons session sessions ih =>
      rw [List.foldl_cons, ih, expireSession_fst, (expireSession_snd now acc session).1]
      by_cases hexpire : acc.2.lifecycle.shouldExpireSession now session = true
      · simp [hexpire]
      · simp [hexpire]

/-- How many closures are on record, if there are metrics. -/
def sessionsClosed (manager : SessionManager) : Option Nat :=
  manager.metrics.map (·.metrics.sessionsClosed)

theorem expireSession_closed {now : SystemTime} {acc : List SessionId × SessionManager}
    {session : SessionMetadata} (hsome : (acc.2.getSession session.id).isSome) :
    (expireSession now acc session).2.sessionsClosed = acc.2.sessionsClosed.map
      (· + if acc.2.lifecycle.shouldExpireSession now session = true then 1 else 0) := by
  obtain ⟨expired, manager⟩ := acc
  have hfst := SessionRegistry.unregister_fst manager.registry session.id
  unfold getSession at hsome
  by_cases hexpire : manager.lifecycle.shouldExpireSession now session = true
  · simp only [expireSession, hexpire, if_true]
    generalize manager.registry.unregister session.id = result at hfst
    obtain ⟨removed, registry⟩ := result
    obtain rfl : removed = _ := hfst
    obtain ⟨metadata, hget⟩ := Option.isSome_iff_exists.mp hsome
    simp only [hget, sessionsClosed, Option.map_map]
    apply Option.map_congr
    exact fun collector _ => (SessionMetrics.totals_recordSessionClosed collector now metadata).2
  · simp [expireSession, hexpire]

/-- The sweep records one closure for each session that it meets registered. -/
theorem foldl_expireSession_closed (now : SystemTime) (sessions : List SessionMetadata)
    (acc : List SessionId × SessionManager)
    (hsome : ∀ session ∈ sessions, (acc.2.getSession session.id).isSome)
    (hnodup : (sessions.map (·.id)).Nodup) :
    (sessions.foldl (expireSession now) acc).2.sessionsClosed = acc.2.sessionsClosed.map
      (· + (sessions.filter (acc.2.lifecycle.shouldExpireSession now)).length) := by
  induction sessions generalizing acc with
  | nil => simp
  | cons session sessions ih =>
      obtain ⟨hlifecycle, hget, _⟩ := expireSession_snd now acc session
      obtain ⟨hnew, hnodup⟩ := List.nodup_cons.mp hnodup
      have hrest : ∀ other ∈ sessions,
          ((expireSession now acc session).2.getSession other.id).isSome := by
        intro other hother
        rw [hget, if_neg]
        · exact hsome other (List.mem_cons_of_mem _ hother)
        · rintro ⟨_, hid⟩
          exact hnew (List.mem_map.mpr ⟨other, hother, hid⟩)
      rw [List.foldl_cons, ih _ hrest hnodup, hlifecycle,
        expireSession_closed (hsome session List.mem_cons_self), Option.map_map]
      apply Option.map_congr
      intro closed _
      by_cases hexpire : acc.2.lifecycle.shouldExpireSession now session = true
      · simp only [Function.comp_apply, hexpire, if_true, List.filter_cons_of_pos,
          List.length_cons]
        omega
      · simp [hexpire]

/-! ## Both sweeps -/

/-- The session was pooled for longer than the maximum idle time. -/
def Overstays (manager : SessionManager) (now : SystemTime) (id : SessionId) : Prop :=
  ∃ pooled, manager.pool.poolMetadata.lookup id = some pooled ∧
    manager.lifecycle.maxIdleTime < now.since pooled.pooledAt

/-- What a cleanup leaves behind that unregistered some sessions, and dropped others only
from the pool. -/
structure CleansUp (manager : SessionManager) (now : SystemTime)
    (unregistered dropped : List SessionId) (after : SessionManager) : Prop where
  nodup : (unregistered ++ dropped).Nodup
  mem_unregistered : ∀ id, id ∈ unregistered ↔ manager.Expires now id
  mem_dropped : ∀ id, id ∈ dropped ↔ ¬ manager.Expires now id ∧ manager.Overstays now id
  sessions : ∀ id, after.getSession id =
    if id ∈ unregistered then none else manager.getSession id
  pooled : ∀ id, after.pool.poolMetadata.lookup id =
    if id ∈ unregistered ++ dropped then none else manager.pool.poolMetadata.lookup id
  listed : ∀ key id, id ∈ after.pool.pools.group key ↔
    id ∈ manager.pool.pools.group key ∧ id ∉ unregistered ++ dropped
  closed : after.sessionsClosed = manager.sessionsClosed.map (· + unregistered.length)

/-- The pool reports each session once that was in it for too long. -/
theorem cleanupExpired_fst (pool : SessionPool) (now : SystemTime) (rank : SessionId → Nat)
    (maxIdleTime : Duration) :
    (pool.cleanupExpired now rank maxIdleTime).1.Nodup ∧
      ∀ id, id ∈ (pool.cleanupExpired now rank maxIdleTime).1 ↔
        ∃ pooled, pool.poolMetadata.lookup id = some pooled ∧
          maxIdleTime < now.since pooled.pooledAt := by
  constructor
  · apply List.Nodup.sublist (List.filter_sublist.map Sigma.fst)
    rw [((HashMap.listing_perm rank pool.poolMetadata).map Sigma.fst).nodup_iff]
    exact pool.poolMetadata.nodupKeys
  · intro id
    simp [SessionPool.cleanupExpired, HashMap.mem_listing]

/-- A cleanup takes out of the pool what has expired or overstayed, and nothing else. -/
theorem lookup_cleanup (h : manager.FiledByKey) (now : SystemTime) (rank : SessionId → Nat)
    (id : SessionId) (hgone : manager.Expires now id ∨ manager.Overstays now id) :
    (manager.cleanup now rank).2.pool.poolMetadata.lookup id = none := by
  rw [(cleanup_pool h now rank).2]
  split
  · rfl
  · next hexpires =>
      obtain ⟨pooled, hpooled, hlong⟩ := hgone.resolve_left hexpires
      simp [hpooled, Option.filter_some, hlong]

theorem lookup_cleanup_of_stays (h : manager.FiledByKey) (now : SystemTime)
    (rank : SessionId → Nat) (id : SessionId)
    (hstays : ¬ (manager.Expires now id ∨ manager.Overstays now id)) :
    (manager.cleanup now rank).2.pool.poolMetadata.lookup id =
      manager.pool.poolMetadata.lookup id := by
  obtain ⟨hexpires, hoverstays⟩ := not_or.mp hstays
  rw [(cleanup_pool h now rank).2, if_neg hexpires]
  cases hpooled : manager.pool.poolMetadata.lookup id with
  | none => rfl
  | some pooled =>
      have hshort : now.since pooled.pooledAt ≤ manager.lifecycle.maxIdleTime := by
        by_contra hlong
        exact hoverstays ⟨pooled, hpooled, Nat.not_le.mp hlong⟩
      simp [Option.filter_some, hshort]

theorem isSome_of_mem_listAll (h : manager.FiledByKey) (rank : SessionId → Nat) :
    ∀ session ∈ manager.registry.listAll rank, (manager.getSession session.id).isSome := by
  intro session hsession
  obtain ⟨id, hget⟩ := SessionRegistry.mem_listAll.mp hsession
  rw [h.id_eq id session hget]
  exact Option.isSome_of_eq_some hget

/-- A cleanup counts each session that it unregisters. -/
theorem cleanup_closed (h : manager.FiledByKey) (now : SystemTime) (rank : SessionId → Nat) :
    (manager.cleanup now rank).2.sessionsClosed = manager.sessionsClosed.map
      (· + ((manager.registry.listAll rank).filter
        (manager.lifecycle.shouldExpireSession now)).length) := by
  let swept := (manager.registry.listAll rank).foldl (expireSession now) ([], manager)
  calc (manager.cleanup now rank).2.sessionsClosed
      = swept.2.sessionsClosed := by
        simp only [sessionsClosed, cleanup, Option.map_map]
        rfl
    _ = manager.sessionsClosed.map (· + ((manager.registry.listAll rank).filter
          (manager.lifecycle.shouldExpireSession now)).length) :=
        foldl_expireSession_closed now _ ([], manager) (isSome_of_mem_listAll h rank)
          (nodup_listAll h rank)

theorem cleansUp_cleanup (h : manager.FiledByKey) (now : SystemTime) (rank : SessionId → Nat) :
    ∃ unregistered dropped, (manager.cleanup now rank).1 = unregistered ++ dropped ∧
      manager.CleansUp now unregistered dropped (manager.cleanup now rank).2 := by
  let sessions := manager.registry.listAll rank
  let swept := sessions.foldl (expireSession now) ([], manager)
  let expired := sessions.filter (manager.lifecycle.shouldExpireSession now)
  let overdue := swept.2.pool.cleanupExpired now rank swept.2.lifecycle.maxIdleTime
  have hfst : swept.1 = expired.map (·.id) := foldl_expireSession_fst now sessions ([], manager)
  obtain ⟨hconfig, hlookup⟩ := foldl_expireSession_pool now sessions ([], manager) h
  have hlisted : ∀ id, (∃ session ∈ sessions,
      manager.lifecycle.shouldExpireSession now session = true ∧ id = session.id) ↔
        manager.Expires now id := exists_listed_expires h
  simp only [hlisted] at hlookup
  have hunregistered : ∀ id, id ∈ expired.map (·.id) ↔ manager.Expires now id := by
    intro id
    rw [← hlisted]
    simp only [expired, List.mem_map, List.mem_filter, and_assoc, eq_comm]
  obtain ⟨hnodup, hmem⟩ := cleanupExpired_fst swept.2.pool now rank swept.2.lifecycle.maxIdleTime
  have hdropped : ∀ id, id ∈ overdue.1 ↔ ¬ manager.Expires now id ∧ manager.Overstays now id := by
    intro id
    rw [hmem, hconfig.lifecycle, hlookup]
    by_cases hexpires : manager.Expires now id
    · simp [hexpires]
    · simp [hexpires, Overstays]
  have hgone : ∀ id, id ∈ expired.map (·.id) ++ overdue.1 ↔
      manager.Expires now id ∨ manager.Overstays now id := by
    intro id
    rw [List.mem_append, hunregistered, hdropped]
    by_cases hexpires : manager.Expires now id
    · simp [hexpires]
    · simp [hexpires]
  have hpooled : ∀ id, (manager.cleanup now rank).2.pool.poolMetadata.lookup id =
      if id ∈ expired.map (·.id) ++ overdue.1 then none
      else manager.pool.poolMetadata.lookup id := by
    intro id
    split
    · next hmem => exact lookup_cleanup h now rank id ((hgone id).mp hmem)
    · next hmem => exact lookup_cleanup_of_stays h now rank id (mt (hgone id).mpr hmem)
  refine ⟨expired.map (·.id), overdue.1, congrArg (· ++ overdue.1) hfst, ?_, hunregistered,
    hdropped, ?_, hpooled, ?_, ?_⟩
  · rw [List.nodup_append]
    refine ⟨?_, hnodup, ?_⟩
    · exact (nodup_listAll h rank).sublist (List.filter_sublist.map _)
    · rintro id hexpired _ hoverdue rfl
      exact ((hdropped id).mp hoverdue).1 ((hunregistered id).mp hexpired)
  · intro id
    rw [getSession_cleanup h]
    simp only [hunregistered]
  · intro key id
    rw [h.cleanup.pool.mem_group, h.pool.mem_group, SessionPool.keyOf, hpooled]
    split
    · next hgone => simp [hgone]
    · next hkept => simp [hkept, SessionPool.keyOf]
  · rw [List.length_map]
    exact cleanup_closed h now rank

/-- After any operations, new metadata apart, a cleanup unregisters exactly the sessions
that have expired, drops from the pool exactly those that were there for too long, and
reports and counts each of them once. -/
theorem cleansUp_run (config : SessionManagerConfig) (ops : List ManagerOp)
    (hfresh : (ManagerOp.issuedIds ops).Nodup) (hspares : ∀ op ∈ ops, op.task.SparesMetadata)
    (now : SystemTime) (rank : SessionId → Nat) :
    ∃ unregistered dropped,
      ((run apply (new config) ops).cleanup now rank).1 = unregistered ++ dropped ∧
        (run apply (new config) ops).CleansUp now unregistered dropped
          ((run apply (new config) ops).cleanup now rank).2 := by
  let I : List ManagerOp → SessionManager → Prop := fun past manager =>
    manager.FiledByKey ∧ manager.RegistersWithin (ManagerOp.issuedIds past)
  have hknown : Along apply (fun past _ op => op.ambient.freshId ∉ ManagerOp.issuedIds past ∧
      op.task.SparesMetadata) (new config) ops :=
    (along_fresh _ hfresh).and fun past op hp => hspares op (hp.subset (by simp))
  have hrun := hknown.invariant (I := I) ⟨filed_new _ config, registersWithin_new config⟩ (by
    rintro past manager op ⟨hfiled, hwithin⟩ ⟨hnew, hspares⟩
    exact ⟨FiledByKey.apply hfiled hspares (hwithin.getSession_eq_none hnew), hwithin.apply op⟩)
  exact cleansUp_cleanup (hrun ops (List.prefix_refl ops)).1 now rank

/-- Two sessions become idle. The second starts to reconnect, which the pool is not told. -/
def twoIdleOps : List ManagerOp :=
  [(ManagerTask.createSession "build" {} [] none).atSeconds 0 1,
    (ManagerTask.updateSessionStatus ⟨1⟩ .idle).atSeconds 1 2,
    (ManagerTask.createSession "deploy" {} [] none).atSeconds 2 3,
    (ManagerTask.updateSessionStatus ⟨3⟩ .idle).atSeconds 3 4,
    (ManagerTask.updateSessionStatus ⟨3⟩ .reconnecting).atSeconds 4 5]

/-- The first session expires, the second is only dropped from the pool. -/
theorem cleansUp_run_twoIdle :
    ((run apply (new {}) twoIdleOps).cleanup (Duration.fromSecs 400) fun _ => 0).1 =
        [⟨1⟩, ⟨3⟩] ∧
      ∃ unregistered dropped,
        ((run apply (new {}) twoIdleOps).cleanup (Duration.fromSecs 400) fun _ => 0).1 =
            unregistered ++ dropped ∧
          (run apply (new {}) twoIdleOps).CleansUp (Duration.fromSecs 400) unregistered dropped
            ((run apply (new {}) twoIdleOps).cleanup (Duration.fromSecs 400) fun _ => 0).2 := by
  refine ⟨by decide, cleansUp_run {} twoIdleOps (by decide) ?_ _ _⟩
  simp [twoIdleOps, ManagerTask.atSeconds, ManagerTask.SparesMetadata]

end SessionManager

end Yuha
