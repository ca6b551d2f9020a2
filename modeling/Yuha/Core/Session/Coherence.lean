import Yuha.Core.Session.Manager

/-!
# What the manager's operations do to a session

Each operation of the manager is described by what it does to the metadata of every
session and to the key every session is pooled under. From that follows when it keeps
the registry and the pool coherent: a pooled session is registered, idle, and pooled
under its own connection key.
-/

namespace Yuha

namespace SessionManager

/-- The pool mirrors the registry. -/
structure Coherent (manager : SessionManager) : Prop where
  id_eq : ∀ id metadata, manager.getSession id = some metadata → metadata.id = id
  pool : manager.pool.WellFormed
  pooled : ∀ id key, manager.pool.keyOf id = some key →
    ∃ metadata, manager.getSession id = some metadata ∧ metadata.status = .idle ∧
      metadata.connectionKey = key

/-- Sessions are registered under their own identifiers, and a pooled session is registered
with metadata that suit the key it is pooled under. -/
structure Filed (suits : SessionMetadata → String → Prop) (manager : SessionManager) :
    Prop where
  id_eq : ∀ id metadata, manager.getSession id = some metadata → metadata.id = id
  pool : manager.pool.WellFormed
  pooled : ∀ id key, manager.pool.keyOf id = some key →
    ∃ metadata, manager.getSession id = some metadata ∧ suits metadata key

theorem filed_new (suits : SessionMetadata → String → Prop) (config : SessionManagerConfig) :
    (new config).Filed suits where
  id_eq id metadata h := by simp [new, getSession] at h
  pool := SessionPool.wellFormed_new config.pool
  pooled id key h := by simp [new] at h

theorem Coherent.filed {manager : SessionManager} (h : manager.Coherent) :
    manager.Filed fun metadata key => metadata.status = .idle ∧ metadata.connectionKey = key :=
  ⟨h.id_eq, h.pool, h.pooled⟩

theorem Filed.coherent {manager : SessionManager} (h : manager.Filed fun metadata key =>
    metadata.status = .idle ∧ metadata.connectionKey = key) : manager.Coherent :=
  ⟨h.id_eq, h.pool, h.pooled⟩

theorem coherent_new (config : SessionManagerConfig) : (new config).Coherent :=
  (filed_new _ config).coherent

variable {suits : SessionMetadata → String → Prop}

theorem Filed.keyOf_eq_none {manager : SessionManager} (h : manager.Filed suits)
    {id : SessionId} (hid : manager.getSession id = none) : manager.pool.keyOf id = none := by
  by_contra hkey
  obtain ⟨key, hkey⟩ := Option.ne_none_iff_exists'.mp hkey
  obtain ⟨metadata, hget, _⟩ := h.pooled id key hkey
  simp [hid] at hget

theorem Coherent.keyOf_eq_none {manager : SessionManager} (h : manager.Coherent)
    {id : SessionId} (hid : manager.getSession id = none) : manager.pool.keyOf id = none :=
  h.filed.keyOf_eq_none hid

/-! ## `create_session` -/

section CreateSession

variable {manager : SessionManager} {now : SystemTime} {freshId : SessionId} {name : String}
  {transportConfig : TransportConfig} {tags : List String} {description : Option String}

theorem createSession_of_error {e : SessionError}
    (h : manager.registry.checkRegister
      (.new now freshId name transportConfig tags description) = .error e) :
    manager.createSession now freshId name transportConfig tags description =
      (.error e, manager) := by
  simp [createSession, SessionRegistry.register_of_error h]

/-- A session that the registry admits is registered as connecting. -/
theorem createSession_of_ok
    (h : manager.registry.checkRegister
      (.new now freshId name transportConfig tags description) = .ok ()) :
    (manager.createSession now freshId name transportConfig tags description).1 = .ok freshId ∧
      (manager.createSession now freshId name transportConfig tags description).2.pool =
        manager.pool ∧
      ∀ id, (manager.createSession now freshId name transportConfig tags
          description).2.getSession id =
        if id = freshId then
          some { SessionMetadata.new now freshId name transportConfig tags description with
            status := .connecting }
        else manager.getSession id := by
  obtain ⟨registry, hregister⟩ : ∃ registry, manager.registry.register
      (.new now freshId name transportConfig tags description) = (.ok freshId, registry) :=
    ⟨_, Prod.ext (SessionRegistry.register_fst_of_ok h) rfl⟩
  have hget := SessionRegistry.get_register_of_ok h
  rw [hregister] at hget
  simp only [createSession, hregister]
  exact ⟨rfl, trivial, hget⟩

theorem Filed.createSession (h : manager.Filed suits) (now : SystemTime) (name : String)
    (transportConfig : TransportConfig) (tags : List String) (description : Option String)
    (hfresh : manager.getSession freshId = none) :
    (manager.createSession now freshId name transportConfig tags description).2.Filed suits := by
  cases hcheck : manager.registry.checkRegister
      (.new now freshId name transportConfig tags description) with
  | error e => rwa [createSession_of_error hcheck]
  | ok _ =>
      obtain ⟨_, hpool, hget⟩ := createSession_of_ok hcheck
      constructor
      · intro id metadata hid
        rw [hget] at hid
        split at hid
        · next heq =>
            cases hid
            exact heq.symm
        · exact h.id_eq id metadata hid
      · exact hpool ▸ h.pool
      · intro id key hkey
        rw [hpool] at hkey
        have hne : id ≠ freshId := by
          rintro rfl
          simp [h.keyOf_eq_none hfresh] at hkey
        obtain ⟨metadata, hmeta⟩ := h.pooled id key hkey
        exact ⟨metadata, by simpa [hget, hne] using hmeta⟩

theorem Coherent.createSession (h : manager.Coherent) (now : SystemTime) (name : String)
    (transportConfig : TransportConfig) (tags : List String) (description : Option String)
    (hfresh : manager.getSession freshId = none) :
    (manager.createSession now freshId name transportConfig tags description).2.Coherent :=
  (h.filed.createSession now name transportConfig tags description hfresh).coherent

end CreateSession

/-! ## `update_session_status` -/

section UpdateSessionStatus

variable {manager : SessionManager} {now : SystemTime} {sessionId : SessionId}
  {status : SessionStatus}

theorem updateSessionStatus_of_none (h : manager.getSession sessionId = none) :
    manager.updateSessionStatus now sessionId status =
      (.error (.notFound sessionId.toString), manager) := by
  unfold getSession at h
  simp [updateSessionStatus, h]

theorem updateSessionStatus_of_some {metadata : SessionMetadata}
    (h : manager.getSession sessionId = some metadata) :
    manager.updateSessionStatus now sessionId status =
      (.ok (), { manager with
        registry := (manager.registry.updateStatus now sessionId status).2
        pool := { manager with
          registry := (manager.registry.updateStatus now sessionId status).2
          }.poolByStatus now sessionId status
        metrics := manager.metrics.map (recordTransition metadata.status status) }) := by
  unfold getSession at h
  have hfst : (manager.registry.updateStatus now sessionId status).1 = .ok () :=
    SessionRegistry.modify_fst_of_some h
  unfold updateSessionStatus
  rw [h]
  generalize manager.registry.updateStatus now sessionId status = result at hfst
  obtain ⟨outcome, registry⟩ := result
  obtain rfl : outcome = _ := hfst
  rfl

theorem updateSessionStatus_fst_of_some {metadata : SessionMetadata}
    (h : manager.getSession sessionId = some metadata) :
    (manager.updateSessionStatus now sessionId status).1 = .ok () := by
  rw [updateSessionStatus_of_some h]

theorem getSession_updateSessionStatus (id : SessionId) :
    (manager.updateSessionStatus now sessionId status).2.getSession id =
      if id = sessionId then (manager.getSession id).map (·.setStatus now status)
      else manager.getSession id := by
  cases h : manager.getSession sessionId with
  | none =>
      rw [updateSessionStatus_of_none h]
      exact (Library.HashMap.ite_map_of_none h _ id).symm
  | some metadata =>
      rw [updateSessionStatus_of_some h]
      exact SessionRegistry.get_modify _ _ _ _

/-- The statuses for which `update_session_status` brings the pool up to date. -/
def updatesPool : SessionStatus → Prop
  | .idle | .active | .failed | .closed => True
  | _ => False

/-- The pool after a status update of a registered session: other sessions keep their
place, this one is pooled under its key only if it becomes idle. -/
theorem pool_updateSessionStatus (now : SystemTime) {metadata : SessionMetadata}
    (h : manager.Coherent)
    (hget : manager.getSession sessionId = some metadata)
    (hstatus : updatesPool status ∨ manager.pool.keyOf sessionId = none) :
    (manager.updateSessionStatus now sessionId status).2.pool.WellFormed ∧
      (∀ id, id ≠ sessionId →
        (manager.updateSessionStatus now sessionId status).2.pool.keyOf id =
          manager.pool.keyOf id) ∧
      ∀ key, (manager.updateSessionStatus now sessionId status).2.pool.keyOf sessionId =
          some key → status = .idle ∧ key = metadata.connectionKey := by
  have hid : metadata.id = sessionId := h.id_eq _ _ hget
  have hkey : ∀ key, manager.pool.keyOf sessionId = some key → key = metadata.connectionKey := by
    intro key hkey
    obtain ⟨metadata', hget', _, hconn⟩ := h.pooled _ _ hkey
    obtain rfl : metadata = metadata' := Option.some.inj (hget.symm.trans hget')
    exact hconn.symm
  have hafter : (manager.registry.updateStatus now sessionId status).2.get sessionId =
      some (metadata.setStatus now status) := by
    have hmodify := SessionRegistry.get_modify manager.registry sessionId
      (·.setStatus now status) sessionId
    unfold getSession at hget
    rw [if_pos rfl, hget] at hmodify
    exact hmodify
  have hremoved : (manager.pool.removeSession sessionId).2.WellFormed ∧
      (∀ id, id ≠ sessionId → (manager.pool.removeSession sessionId).2.keyOf id =
        manager.pool.keyOf id) ∧
      (manager.pool.removeSession sessionId).2.keyOf sessionId = none := by
    refine ⟨h.pool.removeSession sessionId, fun id hne => ?_, ?_⟩
    · rw [SessionPool.keyOf_removeSession, if_neg hne]
    · rw [SessionPool.keyOf_removeSession, if_pos rfl]
  rw [updateSessionStatus_of_some hget]
  cases status with
  | idle =>
      simp only [poolByStatus, hafter]
      have hself := SessionPool.keyOf_addSession_self manager.pool now
        (metadata.setStatus now .idle)
      rw [SessionMetadata.setStatus_id, hid] at hself
      refine ⟨h.pool.addSession now ?_, fun id hne => ?_, fun key hpooled => ⟨trivial, ?_⟩⟩
      · simpa [hid] using hkey
      · exact SessionPool.keyOf_addSession_of_ne _ _ (by simpa [hid] using hne)
      · rcases hself with hsame | hadded
        · exact hkey key (hsame ▸ hpooled)
        · exact (Option.some.inj (hadded.symm.trans hpooled)).symm
  | active | failed | closed =>
      refine ⟨hremoved.1, hremoved.2.1, fun key hpooled => ?_⟩
      exact absurd (hremoved.2.2.symm.trans hpooled) nofun
  | creating | connecting | reconnecting | closing =>
      have hnone : manager.pool.keyOf sessionId = none := hstatus.resolve_left id
      refine ⟨h.pool, fun _ _ => rfl, fun key hpooled => ?_⟩
      exact absurd (hnone.symm.trans hpooled) nofun

theorem Coherent.updateSessionStatus (h : manager.Coherent)
    (hstatus : updatesPool status ∨ manager.pool.keyOf sessionId = none) :
    (manager.updateSessionStatus now sessionId status).2.Coherent := by
  cases hget : manager.getSession sessionId with
  | none => rwa [updateSessionStatus_of_none hget]
  | some metadata =>
      obtain ⟨hpool, hothers, hself⟩ := pool_updateSessionStatus now h hget hstatus
      refine ⟨?_, hpool, ?_⟩
      · intro id metadata' hid
        rw [getSession_updateSessionStatus] at hid
        split at hid
        · obtain ⟨metadata'', hget', rfl⟩ := Option.map_eq_some_iff.mp hid
          exact h.id_eq id metadata'' hget'
        · exact h.id_eq id _ hid
      · intro id key hkey
        by_cases hid : id = sessionId
        · subst hid
          obtain ⟨rfl, rfl⟩ := hself key hkey
          exact ⟨metadata.setStatus now .idle,
            by simp [getSession_updateSessionStatus, hget], rfl, rfl⟩
        · rw [hothers id hid] at hkey
          simpa [getSession_updateSessionStatus, hid] using h.pooled id key hkey

end UpdateSessionStatus

/-! ## `use_session` -/

section UseSession

variable {manager : SessionManager} {now : SystemTime} {sessionId : SessionId}

theorem useSession_of_none (h : manager.getSession sessionId = none) :
    manager.useSession now sessionId = (.error (.notFound sessionId.toString), manager) := by
  unfold getSession at h
  simp [useSession, SessionRegistry.markUsed, SessionRegistry.modify_of_none h]

/-- The manager after `use_session` has marked a session and recorded its use. -/
def afterMark (manager : SessionManager) (now : SystemTime) (sessionId : SessionId)
    (metadata : SessionMetadata) : SessionManager :=
  { manager with
    registry := (manager.registry.markUsed now sessionId).2
    metrics := manager.metrics.map
      (·.recordSessionUsage sessionId (metadata.useCount + 1)) }

theorem getSession_afterMark (metadata : SessionMetadata) (id : SessionId) :
    (manager.afterMark now sessionId metadata).getSession id =
      if id = sessionId then (manager.getSession id).map (·.markUsed now)
      else manager.getSession id :=
  SessionRegistry.get_modify _ _ _ _

theorem Coherent.afterMark (h : manager.Coherent) (metadata : SessionMetadata) :
    (manager.afterMark now sessionId metadata).Coherent := by
  refine ⟨?_, h.pool, ?_⟩
  · intro id metadata' hid
    rw [getSession_afterMark] at hid
    split at hid
    · obtain ⟨metadata'', hget, rfl⟩ := Option.map_eq_some_iff.mp hid
      exact h.id_eq id metadata'' hget
    · exact h.id_eq id _ hid
  · intro id key hkey
    obtain ⟨metadata', hget, hidle, hconn⟩ := h.pooled id key hkey
    rw [getSession_afterMark, hget]
    split
    · exact ⟨metadata'.markUsed now, rfl, hidle, hconn⟩
    · exact ⟨metadata', rfl, hidle, hconn⟩

/-- Using a registered session marks it used and, if it was idle, makes it active. -/
theorem useSession_of_some {metadata : SessionMetadata}
    (h : manager.getSession sessionId = some metadata) :
    manager.useSession now sessionId =
      if metadata.status = .idle then
        (manager.afterMark now sessionId metadata).updateSessionStatus now sessionId .active
      else (.ok (), manager.afterMark now sessionId metadata) := by
  unfold getSession at h
  obtain ⟨registry, hmark⟩ : ∃ registry,
      manager.registry.markUsed now sessionId = (.ok (), registry) :=
    ⟨_, Prod.ext (SessionRegistry.modify_fst_of_some h) rfl⟩
  have hget := SessionRegistry.get_modify manager.registry sessionId (·.markUsed now) sessionId
  rw [if_pos rfl, h, ← SessionRegistry.markUsed, hmark] at hget
  simp only [useSession, SessionManager.afterMark, hmark, hget, Option.map_some]
  rfl

theorem useSession_fst_of_some {metadata : SessionMetadata}
    (h : manager.getSession sessionId = some metadata) :
    (manager.useSession now sessionId).1 = .ok () := by
  rw [useSession_of_some h]
  split
  · refine updateSessionStatus_fst_of_some (?_ : _ = some (metadata.markUsed now))
    rw [getSession_afterMark, if_pos rfl, h]
    rfl
  · rfl

theorem useSession_eq_of_some {metadata : SessionMetadata}
    (h : manager.getSession sessionId = some metadata) :
    manager.useSession now sessionId = (.ok (), (manager.useSession now sessionId).2) :=
  Prod.ext (useSession_fst_of_some h) rfl

/-- The metadata after a use. -/
def usedMetadata (metadata : SessionMetadata) (now : SystemTime) :
    SessionMetadata :=
  if metadata.status = .idle then (metadata.markUsed now).setStatus now .active
  else metadata.markUsed now

theorem getSession_useSession (id : SessionId) :
    (manager.useSession now sessionId).2.getSession id =
      if id = sessionId then (manager.getSession id).map (usedMetadata · now)
      else manager.getSession id := by
  cases h : manager.getSession sessionId with
  | none =>
      rw [useSession_of_none h]
      exact (Library.HashMap.ite_map_of_none h _ id).symm
  | some metadata =>
      rw [useSession_of_some h]
      by_cases hid : id = sessionId
      · subst hid
        by_cases hidle : metadata.status = .idle
        · simp [hidle, getSession_updateSessionStatus, getSession_afterMark, h,
            usedMetadata]
        · simp [hidle, getSession_afterMark, h, usedMetadata]
      · by_cases hidle : metadata.status = .idle
        · simp [hid, hidle, getSession_updateSessionStatus, getSession_afterMark]
        · simp [hid, hidle, getSession_afterMark]

theorem Coherent.useSession (h : manager.Coherent) :
    (manager.useSession now sessionId).2.Coherent := by
  cases hget : manager.getSession sessionId with
  | none => rwa [useSession_of_none hget]
  | some metadata =>
      rw [useSession_of_some hget]
      split
      · exact (h.afterMark metadata).updateSessionStatus (Or.inl trivial)
      · exact h.afterMark metadata

end UseSession

/-! ## `close_session` -/

section CloseSession

variable {manager : SessionManager} {now : SystemTime} {sessionId : SessionId}

theorem closeSession_of_none (h : manager.getSession sessionId = none) :
    manager.closeSession now sessionId = (.error (.notFound sessionId.toString), manager) := by
  simp [closeSession, updateSessionStatus_of_none h]

/-- Closing a registered session takes it out of the registry and the pool. -/
theorem closeSession_of_some (now : SystemTime) {metadata : SessionMetadata}
    (h : manager.getSession sessionId = some metadata) :
    (manager.closeSession now sessionId).1 = .ok () ∧
      (manager.closeSession now sessionId).2.pool =
        (manager.pool.removeSession sessionId).2 ∧
      (manager.closeSession now sessionId).2.lifecycle = manager.lifecycle ∧
      (manager.closeSession now sessionId).2.metrics = manager.metrics.map (fun collector =>
        (recordTransition metadata.status .closing collector).recordSessionClosed now
          (metadata.setStatus now .closing)) ∧
      ∀ id, (manager.closeSession now sessionId).2.getSession id =
        if id = sessionId then none else manager.getSession id := by
  have hstatus : manager.updateSessionStatus now sessionId .closing = _ :=
    updateSessionStatus_of_some h
  have hget : ∀ id, (manager.updateSessionStatus now sessionId .closing).2.getSession id =
      if id = sessionId then (manager.getSession id).map (·.setStatus now .closing)
      else manager.getSession id := getSession_updateSessionStatus
  have hself := hget sessionId
  rw [if_pos rfl, h, Option.map_some] at hself
  simp only [hstatus] at hself hget
  have hfst := SessionRegistry.unregister_fst
    (manager.registry.updateStatus now sessionId .closing).2 sessionId
  have hgone := SessionRegistry.get_unregister
    (manager.registry.updateStatus now sessionId .closing).2 sessionId
  unfold getSession at hself
  rw [hself] at hfst
  simp only [closeSession, hstatus]
  generalize (manager.registry.updateStatus now sessionId .closing).2.unregister sessionId =
    result at hfst hgone
  obtain ⟨removed, registry⟩ := result
  obtain rfl : removed = _ := hfst
  refine ⟨rfl, rfl, rfl, ?_, fun id => ?_⟩
  · simp [Function.comp_def]
  · apply (hgone id).trans
    split
    · rfl
    · next hne =>
        have hother := hget id
        rw [if_neg hne] at hother
        exact hother

theorem Filed.closeSession (h : manager.Filed suits) :
    (manager.closeSession now sessionId).2.Filed suits := by
  cases hget : manager.getSession sessionId with
  | none => rwa [closeSession_of_none hget]
  | some metadata =>
      obtain ⟨_, hpool, _, _, hafter⟩ := closeSession_of_some now hget
      refine ⟨fun id metadata' hid => ?_, hpool ▸ h.pool.removeSession sessionId,
        fun id key hkey => ?_⟩
      · rw [hafter] at hid
        split at hid
        · cases hid
        · exact h.id_eq id metadata' hid
      · rw [hpool, SessionPool.keyOf_removeSession] at hkey
        split at hkey
        · cases hkey
        · next hne =>
            rw [hafter, if_neg hne]
            exact h.pooled id key hkey

theorem Coherent.closeSession (h : manager.Coherent) :
    (manager.closeSession now sessionId).2.Coherent :=
  h.filed.closeSession.coherent

end CloseSession

/-! ## `connect_or_create_session` -/

section ConnectOrCreate

variable {manager : SessionManager} {now : SystemTime} {freshId : SessionId} {name : String}
  {transportConfig : TransportConfig}

/-- It does to the manager what `use_session` or `create_session` does. -/
theorem connectOrCreateSession_snd :
    (manager.connectOrCreateSession now freshId name transportConfig).2 =
      match manager.findReusableSession now transportConfig.connectionKey with
      | some sessionId => (manager.useSession now sessionId).2
      | none => (manager.createSession now freshId name transportConfig [] none).2 := by
  unfold connectOrCreateSession
  cases manager.findReusableSession now transportConfig.connectionKey with
  | some sessionId =>
      dsimp only
      rcases manager.useSession now sessionId with ⟨_ | _, _⟩ <;> rfl
  | none =>
      dsimp only
      rcases manager.createSession now freshId name transportConfig [] none with
        ⟨_ | _, _⟩ <;> rfl

theorem Coherent.connectOrCreateSession (h : manager.Coherent) (now : SystemTime)
    (name : String) (transportConfig : TransportConfig)
    (hfresh : manager.getSession freshId = none) :
    (manager.connectOrCreateSession now freshId name transportConfig).2.Coherent := by
  rw [connectOrCreateSession_snd]
  cases manager.findReusableSession now transportConfig.connectionKey with
  | some sessionId => exact h.useSession
  | none => exact h.createSession now name transportConfig [] none hfresh

end ConnectOrCreate

/-! ## `update_session_metadata` -/

section UpdateSessionMetadata

variable {manager : SessionManager} {sessionId : SessionId} {metadata : SessionMetadata}

theorem getSession_updateSessionMetadata (id : SessionId) :
    (manager.updateSessionMetadata sessionId metadata).2.getSession id =
      if metadata.id = sessionId ∧ id = sessionId ∧ (manager.getSession id).isSome then
        some metadata
      else manager.getSession id :=
  SessionRegistry.get_update _ _ _ _

/-- New metadata for a pooled session has to be idle and of the same connection. -/
theorem Coherent.updateSessionMetadata (h : manager.Coherent)
    (hkeep : metadata.id = sessionId → ∀ key, manager.pool.keyOf sessionId = some key →
      metadata.status = .idle ∧ metadata.connectionKey = key) :
    (manager.updateSessionMetadata sessionId metadata).2.Coherent := by
  refine ⟨fun id metadata' hid => ?_, h.pool, fun id key hkey => ?_⟩
  · rw [getSession_updateSessionMetadata] at hid
    split at hid
    · next hboth =>
        obtain rfl := Option.some.inj hid
        rw [hboth.1, hboth.2.1]
    · exact h.id_eq id metadata' hid
  · rw [getSession_updateSessionMetadata]
    split
    · next hboth =>
        obtain ⟨hsame, rfl, _⟩ := hboth
        exact ⟨metadata, rfl, hkeep hsame key hkey⟩
    · exact h.pooled id key hkey

end UpdateSessionMetadata

/-! ## The cleanup callback -/

section Cleanup

variable {now : SystemTime} {rank : SessionId → Nat}

/-- The session is registered and due to expire. -/
def Expires (manager : SessionManager) (now : SystemTime) (id : SessionId) : Prop :=
  ∃ metadata, manager.getSession id = some metadata ∧
    manager.lifecycle.shouldExpireSession now metadata = true

instance (manager : SessionManager) (now : SystemTime) (id : SessionId) :
    Decidable (manager.Expires now id) :=
  match h : manager.getSession id with
  | none => isFalse (by rintro ⟨_, hget, _⟩; simp [h] at hget)
  | some metadata =>
      decidable_of_iff (manager.lifecycle.shouldExpireSession now metadata = true)
        (by simp [Expires, h])

/-- One turn of the loop takes out its session, from the registry and from the pool, or
does nothing. -/
theorem expireSession_snd (now : SystemTime) (acc : List SessionId × SessionManager)
    (session : SessionMetadata) :
    (expireSession now acc session).2.lifecycle = acc.2.lifecycle ∧
      (∀ id, (expireSession now acc session).2.getSession id =
        if acc.2.lifecycle.shouldExpireSession now session ∧ id = session.id then none
        else acc.2.getSession id) ∧
      ((expireSession now acc session).2.pool = acc.2.pool ∧
          (acc.2.lifecycle.shouldExpireSession now session = false ∨
            acc.2.getSession session.id = none) ∨
        (expireSession now acc session).2.pool = (acc.2.pool.removeSession session.id).2) := by
  obtain ⟨expired, manager⟩ := acc
  by_cases hexpire : manager.lifecycle.shouldExpireSession now session
  · have hfst := SessionRegistry.unregister_fst manager.registry session.id
    have hget := fun id => SessionRegistry.get_unregister manager.registry session.id id
    simp only [expireSession, hexpire, if_true, true_and]
    generalize manager.registry.unregister session.id = result at hfst hget
    obtain ⟨removed, registry⟩ := result
    cases removed with
    | none => exact ⟨rfl, hget, Or.inl ⟨rfl, Or.inr hfst.symm⟩⟩
    | some metadata => exact ⟨rfl, hget, Or.inr rfl⟩
  · simp [expireSession, hexpire]

theorem Filed.expireSession {acc : List SessionId × SessionManager} (h : acc.2.Filed suits)
    (now : SystemTime) (session : SessionMetadata) :
    (expireSession now acc session).2.Filed suits := by
  obtain ⟨_, hget, hpool⟩ := expireSession_snd now acc session
  have hsub : ∀ id metadata, (SessionManager.expireSession now acc session).2.getSession id =
      some metadata → acc.2.getSession id = some metadata := by
    intro id metadata hid
    rw [hget] at hid
    split at hid
    · cases hid
    · exact hid
  refine ⟨fun id metadata hid => h.id_eq id metadata (hsub id metadata hid), ?_, ?_⟩
  · rcases hpool with ⟨hsame, _⟩ | hremoved
    · exact hsame ▸ h.pool
    · exact hremoved ▸ h.pool.removeSession session.id
  · intro id key hkey
    rcases hpool with ⟨hsame, hkept⟩ | hremoved
    · rw [hsame] at hkey
      obtain ⟨metadata, hmeta⟩ := h.pooled id key hkey
      refine ⟨metadata, ?_, hmeta.2⟩
      rw [hget, if_neg, hmeta.1]
      rintro ⟨hexpire, rfl⟩
      rcases hkept with hkept | hkept
      · simp [hexpire] at hkept
      · exact absurd (hkept.symm.trans hmeta.1) nofun
    · rw [hremoved, SessionPool.keyOf_removeSession] at hkey
      split at hkey
      · cases hkey
      · next hne =>
          rw [hget, if_neg fun hboth => hne hboth.2]
          exact h.pooled id key hkey

theorem foldl_expireSession (now : SystemTime) (sessions : List SessionMetadata)
    (acc : List SessionId × SessionManager) (h : acc.2.Filed suits) :
    (sessions.foldl (expireSession now) acc).2.Filed suits ∧
      (sessions.foldl (expireSession now) acc).2.lifecycle = acc.2.lifecycle ∧
      ∀ id, (sessions.foldl (expireSession now) acc).2.getSession id =
        if ∃ session ∈ sessions, acc.2.lifecycle.shouldExpireSession now session = true ∧
          id = session.id then none else acc.2.getSession id := by
  induction sessions generalizing acc with
  | nil => simpa using h
  | cons session sessions ih =>
      obtain ⟨hlife, hget, _⟩ := expireSession_snd now acc session
      obtain ⟨hfiled, hlife', hget'⟩ := ih _ (h.expireSession now session)
      refine ⟨hfiled, hlife'.trans hlife, fun id => ?_⟩
      rw [List.foldl_cons, hget', hget, hlife]
      simp only [List.mem_cons, exists_eq_or_imp]
      by_cases hhere : acc.2.lifecycle.shouldExpireSession now session = true ∧ id = session.id
      · simp [hhere]
      · simp [hhere]

/-- The cleanup loop meets the sessions that are due to expire. -/
theorem exists_listed_expires {manager : SessionManager} (h : manager.Filed suits)
    (id : SessionId) :
    (∃ session ∈ manager.registry.listAll rank,
      manager.lifecycle.shouldExpireSession now session = true ∧ id = session.id) ↔
      manager.Expires now id := by
  simp only [SessionRegistry.mem_listAll]
  constructor
  · rintro ⟨session, ⟨id', hget⟩, hexpire, rfl⟩
    obtain rfl : session.id = id' := h.id_eq _ _ hget
    exact ⟨session, hget, hexpire⟩
  · rintro ⟨metadata, hget, hexpire⟩
    exact ⟨metadata, ⟨id, hget⟩, hexpire, (h.id_eq _ _ hget).symm⟩

/-- A cleanup takes out exactly the sessions that are due to expire. -/
theorem getSession_cleanup {manager : SessionManager} (h : manager.Filed suits)
    (id : SessionId) :
    (manager.cleanup now rank).2.getSession id =
      if manager.Expires now id then none else manager.getSession id := by
  have hfold := (foldl_expireSession now (manager.registry.listAll rank)
    ([], manager) h).2.2 id
  simp only [exists_listed_expires h] at hfold
  exact hfold

theorem Filed.cleanup {manager : SessionManager} (h : manager.Filed suits) :
    (manager.cleanup now rank).2.Filed suits := by
  have hfold := (foldl_expireSession now (manager.registry.listAll rank)
    ([], manager) h).1
  refine ⟨hfold.id_eq, hfold.pool.cleanupExpired _ _ _, fun id key hkey => ?_⟩
  exact hfold.pooled id key (SessionPool.keyOf_of_keyOf_cleanupExpired hkey)

theorem Coherent.cleanup {manager : SessionManager} (h : manager.Coherent) :
    (manager.cleanup now rank).2.Coherent :=
  h.filed.cleanup.coherent

end Cleanup

end SessionManager

end Yuha
