import Yuha.Core.Session.Coherence
import Yuha.Library.Execution

/-!
# Sequences of manager operations

The operations of the manager, run one after another. A coherent manager stays coherent
as long as no operation changes what the pool was told of a session behind its back.
-/

namespace Yuha

open Library Library.Execution

/-- An operation of the manager, as its caller asks for it. -/
inductive ManagerTask
  | createSession (name : String) (transportConfig : TransportConfig) (tags : List String)
      (description : Option String)
  | updateSessionStatus (sessionId : SessionId) (status : SessionStatus)
  | useSession (sessionId : SessionId)
  | closeSession (sessionId : SessionId)
  | connectOrCreateSession (name : String) (transportConfig : TransportConfig)
  | updateSessionMetadata (sessionId : SessionId) (metadata : SessionMetadata)
  | cleanup

structure ManagerOp where
  task : ManagerTask
  ambient : Ambient

/-- An operation at a time in seconds, with its own identifier to issue. -/
def ManagerTask.atSeconds (task : ManagerTask) (secs : Nat) (freshId : BitVec 128) :
    ManagerOp where
  task := task
  ambient := { now := Duration.fromSecs secs, freshId := ⟨freshId⟩, rank := fun _ => 0 }

/-- The identifiers that new sessions of these operations would get. -/
def ManagerOp.issuedIds (ops : List ManagerOp) : List SessionId :=
  ops.map fun op => op.ambient.freshId

namespace SessionManager

def apply (manager : SessionManager) (op : ManagerOp) : SessionManager :=
  match op.task with
  | .createSession name transportConfig tags description =>
      (manager.createSession op.ambient.now op.ambient.freshId name transportConfig tags
        description).2
  | .updateSessionStatus sessionId status =>
      (manager.updateSessionStatus op.ambient.now sessionId status).2
  | .useSession sessionId => (manager.useSession op.ambient.now sessionId).2
  | .closeSession sessionId => (manager.closeSession op.ambient.now sessionId).2
  | .connectOrCreateSession name transportConfig =>
      (manager.connectOrCreateSession op.ambient.now op.ambient.freshId name
        transportConfig).2
  | .updateSessionMetadata sessionId metadata =>
      (manager.updateSessionMetadata sessionId metadata).2
  | .cleanup => (manager.cleanup op.ambient.now op.ambient.rank).2

variable {manager : SessionManager}

/-- The operation keeps what the pool knows of a session true: a pooled session is given
neither a status the pool is not told of nor other metadata that is not idle or of another
connection. -/
def KeepsPooled (manager : SessionManager) (op : ManagerOp) : Prop :=
  match op.task with
  | .updateSessionStatus sessionId status =>
      updatesPool status ∨ manager.pool.keyOf sessionId = none
  | .updateSessionMetadata sessionId metadata =>
      metadata.id = sessionId → ∀ key, manager.pool.keyOf sessionId = some key →
        metadata.status = .idle ∧ metadata.connectionKey = key
  | _ => True

theorem Coherent.apply (h : manager.Coherent) {op : ManagerOp}
    (hfresh : manager.getSession op.ambient.freshId = none)
    (hkeeps : manager.KeepsPooled op) : (manager.apply op).Coherent := by
  obtain ⟨task, ambient⟩ := op
  cases task with
  | createSession name transportConfig tags description =>
      exact h.createSession ambient.now name transportConfig tags description hfresh
  | updateSessionStatus sessionId status => exact h.updateSessionStatus hkeeps
  | useSession sessionId => exact h.useSession
  | closeSession sessionId => exact h.closeSession
  | connectOrCreateSession name transportConfig =>
      exact h.connectOrCreateSession ambient.now name transportConfig hfresh
  | updateSessionMetadata sessionId metadata => exact h.updateSessionMetadata hkeeps
  | cleanup => exact h.cleanup

/-! ## Which sessions are registered -/

/-- Only these identifiers are registered. -/
def RegistersWithin (manager : SessionManager) (issued : List SessionId) : Prop :=
  ∀ id, (manager.getSession id).isSome → id ∈ issued

theorem registersWithin_new (config : SessionManagerConfig) :
    (new config).RegistersWithin [] := by
  intro id h
  simp [new, getSession] at h

theorem RegistersWithin.getSession_eq_none {issued : List SessionId}
    (h : manager.RegistersWithin issued) {id : SessionId} (hid : id ∉ issued) :
    manager.getSession id = none := by
  by_contra hsome
  exact hid (h id (Option.isSome_iff_ne_none.mpr hsome))

theorem isSome_getSession_createSession {now : SystemTime} {freshId : SessionId}
    {name : String} {transportConfig : TransportConfig} {tags : List String}
    {description : Option String} {id : SessionId}
    (h : ((manager.createSession now freshId name transportConfig tags
      description).2.getSession id).isSome) :
    (manager.getSession id).isSome ∨ id = freshId := by
  cases hcheck : manager.registry.checkRegister
      (.new now freshId name transportConfig tags description) with
  | error e =>
      rw [createSession_of_error hcheck] at h
      exact Or.inl h
  | ok _ =>
      rw [(createSession_of_ok hcheck).2.2] at h
      split at h
      · next heq => exact Or.inr heq
      · exact Or.inl h

theorem isSome_getSession_useSession {now : SystemTime} {sessionId id : SessionId}
    (h : ((manager.useSession now sessionId).2.getSession id).isSome) :
    (manager.getSession id).isSome := by
  rw [getSession_useSession] at h
  split at h
  · simpa using h
  · exact h

theorem isSome_getSession_cleanup {now : SystemTime} {rank : SessionId → Nat}
    {id : SessionId} (h : ((manager.cleanup now rank).2.getSession id).isSome) :
    (manager.getSession id).isSome := by
  have hfold : ∀ (sessions : List SessionMetadata) (acc : List SessionId × SessionManager),
      ((sessions.foldl (expireSession now) acc).2.getSession id).isSome →
        (acc.2.getSession id).isSome := by
    intro sessions
    induction sessions with
    | nil => exact fun acc h => h
    | cons session sessions ih =>
        intro acc h
        have hfirst := ih _ h
        rw [(expireSession_snd now acc session).2.1] at hfirst
        split at hfirst
        · cases hfirst
        · exact hfirst
  exact hfold _ ([], manager) h

/-- An operation registers no session but the one it may create. -/
theorem isSome_getSession_apply {op : ManagerOp}
    {id : SessionId} (h : ((manager.apply op).getSession id).isSome) :
    (manager.getSession id).isSome ∨ id = op.ambient.freshId := by
  obtain ⟨task, ambient⟩ := op
  cases task with
  | createSession name transportConfig tags description =>
      exact isSome_getSession_createSession h
  | updateSessionStatus sessionId status =>
      simp only [apply, getSession_updateSessionStatus] at h
      split at h
      · exact Or.inl (by simpa using h)
      · exact Or.inl h
  | useSession sessionId => exact Or.inl (isSome_getSession_useSession h)
  | closeSession sessionId =>
      cases hget : manager.getSession sessionId with
      | none =>
          simp only [apply, closeSession_of_none hget] at h
          exact Or.inl h
      | some metadata =>
          simp only [apply, (closeSession_of_some ambient.now hget).2.2.2.2] at h
          split at h
          · cases h
          · exact Or.inl h
  | connectOrCreateSession name transportConfig =>
      simp only [apply, connectOrCreateSession_snd] at h
      cases hfind : manager.findReusableSession ambient.now transportConfig.connectionKey with
      | some sessionId =>
          rw [hfind] at h
          exact Or.inl (isSome_getSession_useSession h)
      | none =>
          rw [hfind] at h
          exact isSome_getSession_createSession h
  | updateSessionMetadata sessionId metadata =>
      simp only [apply, getSession_updateSessionMetadata] at h
      split at h
      · next hboth => exact Or.inl hboth.2.2
      · exact Or.inl h
  | cleanup => exact Or.inl (isSome_getSession_cleanup h)

theorem RegistersWithin.apply {past : List ManagerOp}
    (h : manager.RegistersWithin (ManagerOp.issuedIds past)) (op : ManagerOp) :
    (manager.apply op).RegistersWithin (ManagerOp.issuedIds (past ++ [op])) := by
  intro id hid
  rw [ManagerOp.issuedIds, List.map_append, List.mem_append]
  rcases isSome_getSession_apply hid with hold | hnew
  · exact Or.inl (h id hold)
  · exact Or.inr (List.mem_singleton.mpr hnew)

/-- Identifiers drawn once each are new at every step. -/
theorem along_fresh (manager : SessionManager) {ops : List ManagerOp}
    (hfresh : (ManagerOp.issuedIds ops).Nodup) :
    Along apply (fun past _ op => op.ambient.freshId ∉ ManagerOp.issuedIds past)
      manager ops := by
  intro past op hp hmem
  have hsublist : (ManagerOp.issuedIds (past ++ [op])).Sublist (ManagerOp.issuedIds ops) :=
    hp.sublist.map _
  have hnodup := hsublist.nodup hfresh
  rw [ManagerOp.issuedIds, List.map_append, List.nodup_append] at hnodup
  exact hnodup.2.2 _ hmem _ (List.mem_singleton.mpr rfl) rfl

end SessionManager

end Yuha
