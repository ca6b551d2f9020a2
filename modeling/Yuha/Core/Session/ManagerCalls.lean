import Yuha.Core.Session.Operations
import Yuha.Library.Program

/-!
# The manager's operations as programs

The manager holds no lock over a whole operation. Here each of its operations is a
program whose actions are the calls it makes on the registry, the pool and the metrics,
so that the actions of several operations can come in any order. Run alone, each program
does what the operation of the same name does.

## Implementation notes

Reading the clock and drawing an identifier are actions, too. The action by which the
cleanup callback unregisters a session carries the snapshot and the time it was judged
by; its effect depends on neither.
-/

namespace Yuha

open Library Library.Program

/-- A call the manager makes, atomic on its own. -/
inductive ManagerAction
  | ambient
  | register (metadata : SessionMetadata)
  | get (sessionId : SessionId)
  | update (sessionId : SessionId) (metadata : SessionMetadata)
  | updateStatus (sessionId : SessionId) (status : SessionStatus)
  | markUsed (sessionId : SessionId)
  | listAll
  | unregister (sessionId : SessionId)
  | unregisterExpired (session : SessionMetadata) (checkedAt : SystemTime)
  | addSession (session : SessionMetadata)
  | removeSession (sessionId : SessionId)
  | findSession (connectionKey : String)
  | cleanupExpired (maxIdleTime : Duration)
  | recordSessionCreated (session : SessionMetadata)
  | recordStatusChange (sessionId : SessionId) (oldStatus newStatus : SessionStatus)
  | recordConnectionSuccess (sessionId : SessionId)
  | recordConnectionFailure (sessionId : SessionId)
  | recordSessionUsage (sessionId : SessionId) (usageCount : Nat)
  | recordSessionClosed (session : SessionMetadata)
  | cleanupOldHistory (maxAge : Duration)

abbrev ManagerAction.Answer : ManagerAction → Type
  | .ambient => Ambient
  | .register _ => Except SessionError SessionId
  | .get _ => Option SessionMetadata
  | .update _ _ | .updateStatus _ _ | .markUsed _ => Except SessionError Unit
  | .listAll => List SessionMetadata
  | .unregister _ | .unregisterExpired _ _ => Option SessionMetadata
  | .addSession _ | .removeSession _ => Bool
  | .findSession _ => Option SessionId
  | .cleanupExpired _ => List SessionId
  | _ => Unit

abbrev ManagerProgram (α : Type) := Program ManagerAction ManagerAction.Answer α

/-- The program that makes one call and waits for its answer. -/
abbrev ManagerAction.await (action : ManagerAction) : ManagerProgram action.Answer :=
  perform action

namespace SessionManager

/-- Put a registry in place of the manager's, next to the answer it gave. -/
def withRegistry {α : Type} (manager : SessionManager) (result : α × SessionRegistry) :
    α × SessionManager :=
  (result.1, { manager with registry := result.2 })

def withPool {α : Type} (manager : SessionManager) (result : α × SessionPool) :
    α × SessionManager :=
  (result.1, { manager with pool := result.2 })

def record (manager : SessionManager)
    (f : SessionMetricsCollector → SessionMetricsCollector) : Unit × SessionManager :=
  ((), { manager with metrics := manager.metrics.map f })

/-- Carry out one call. -/
def exec (ambient : Ambient) :
    (action : ManagerAction) → SessionManager → action.Answer × SessionManager
  | .ambient, manager => (ambient, manager)
  | .register metadata, manager => manager.withRegistry (manager.registry.register metadata)
  | .get sessionId, manager => (manager.registry.get sessionId, manager)
  | .update sessionId metadata, manager =>
      manager.withRegistry (manager.registry.update sessionId metadata)
  | .updateStatus sessionId status, manager =>
      manager.withRegistry (manager.registry.updateStatus ambient.now sessionId status)
  | .markUsed sessionId, manager =>
      manager.withRegistry (manager.registry.markUsed ambient.now sessionId)
  | .listAll, manager => (manager.registry.listAll ambient.rank, manager)
  | .unregister sessionId, manager =>
      manager.withRegistry (manager.registry.unregister sessionId)
  | .unregisterExpired session _, manager =>
      manager.withRegistry (manager.registry.unregister session.id)
  | .addSession session, manager => manager.withPool (manager.pool.addSession ambient.now session)
  | .removeSession sessionId, manager => manager.withPool (manager.pool.removeSession sessionId)
  | .findSession connectionKey, manager =>
      (manager.pool.findSession ambient.now connectionKey, manager)
  | .cleanupExpired maxIdleTime, manager =>
      manager.withPool (manager.pool.cleanupExpired ambient.now ambient.rank maxIdleTime)
  | .recordSessionCreated session, manager => manager.record (·.recordSessionCreated session)
  | .recordStatusChange _ oldStatus newStatus, manager =>
      manager.record (·.recordStatusChange oldStatus newStatus)
  | .recordConnectionSuccess _, manager => manager.record (·.recordConnectionSuccess)
  | .recordConnectionFailure _, manager => manager.record (·.recordConnectionFailure)
  | .recordSessionUsage sessionId usageCount, manager =>
      manager.record (·.recordSessionUsage sessionId usageCount)
  | .recordSessionClosed session, manager =>
      manager.record (·.recordSessionClosed ambient.now session)
  | .cleanupOldHistory maxAge, manager =>
      manager.record (·.cleanupOldHistory ambient.now maxAge)

end SessionManager

namespace ManagerProgram

open ManagerAction (await)

variable (config : SessionManagerConfig)

/-- `if let Some(ref metrics) = self.metrics`. -/
def whenMetrics (p : ManagerProgram Unit) : ManagerProgram Unit :=
  if config.enableMetrics then p else return ()

def createSession (name : String) (transportConfig : TransportConfig) (tags : List String)
    (description : Option String) : ManagerProgram (Except SessionError SessionId) := do
  let ambient ← await .ambient
  let metadata := SessionMetadata.new ambient.now ambient.freshId name transportConfig tags
    description
  match ← await (.register metadata) with
  | .error e => return .error e
  | .ok _ =>
      whenMetrics config (await (.recordSessionCreated metadata))
      return .ok metadata.id

/-- The pooling part of `update_session_status`. -/
def poolByStatus (sessionId : SessionId) : SessionStatus → ManagerProgram Unit
  | .idle => do
      match ← await (.get sessionId) with
      | some metadata =>
          let _ ← await (.addSession metadata)
          return ()
      | none => return ()
  | .active | .failed | .closed => do
      let _ ← await (.removeSession sessionId)
      return ()
  | _ => return ()

/-- The metrics part of `update_session_status`. -/
def recordTransition (sessionId : SessionId) (oldStatus status : SessionStatus) :
    ManagerProgram Unit := do
  await (.recordStatusChange sessionId oldStatus status)
  let wasConnecting := oldStatus = .connecting ∨ oldStatus = .reconnecting
  match status with
  | .active =>
      if wasConnecting then await (.recordConnectionSuccess sessionId) else return ()
  | .failed =>
      if wasConnecting then await (.recordConnectionFailure sessionId) else return ()
  | _ => return ()

def updateSessionStatus (sessionId : SessionId) (status : SessionStatus) :
    ManagerProgram (Except SessionError Unit) := do
  match ← await (.get sessionId) with
  | none => return .error (.notFound sessionId.toString)
  | some metadata =>
      match ← await (.updateStatus sessionId status) with
      | .error e => return .error e
      | .ok () =>
          poolByStatus sessionId status
          whenMetrics config (recordTransition sessionId metadata.status status)
          return .ok ()

/-- The metrics part of `use_session`. -/
def recordUsage (sessionId : SessionId) : ManagerProgram Unit := do
  match ← await (.get sessionId) with
  | some metadata => await (.recordSessionUsage sessionId metadata.useCount)
  | none => return ()

def useSession (sessionId : SessionId) : ManagerProgram (Except SessionError Unit) := do
  match ← await (.markUsed sessionId) with
  | .error e => return .error e
  | .ok () =>
      whenMetrics config (recordUsage sessionId)
      match ← await (.get sessionId) with
      | some metadata =>
          if metadata.status = .idle then
            updateSessionStatus config sessionId .active
          else
            return .ok ()
      | none => return .ok ()

def closeSession (sessionId : SessionId) : ManagerProgram (Except SessionError Unit) := do
  let _ ← await (.get sessionId)
  match ← updateSessionStatus config sessionId .closing with
  | .error e => return .error e
  | .ok () =>
      let _ ← await (.removeSession sessionId)
      match ← await (.unregister sessionId) with
      | some removedMetadata =>
          whenMetrics config (await (.recordSessionClosed removedMetadata))
          return .ok ()
      | none => return .ok ()

def connectOrCreateSession (name : String) (transportConfig : TransportConfig) :
    ManagerProgram (Except SessionError (SessionId × Bool)) := do
  match ← await (.findSession transportConfig.connectionKey) with
  | some sessionId =>
      match ← useSession config sessionId with
      | .error e => return .error e
      | .ok () => return .ok (sessionId, true)
  | none =>
      match ← createSession config name transportConfig [] none with
      | .error e => return .error e
      | .ok sessionId => return .ok (sessionId, false)

def updateSessionMetadata (sessionId : SessionId) (metadata : SessionMetadata) :
    ManagerProgram (Except SessionError Unit) :=
  await (.update sessionId metadata)

/-- One turn of the loop of the cleanup callback. -/
def expireSession (session : SessionMetadata) : ManagerProgram (List SessionId) := do
  let ambient ← await .ambient
  if config.lifecycle.shouldExpireSession ambient.now session then
    match ← await (.unregisterExpired session ambient.now) with
    | some metadata =>
        let _ ← await (.removeSession session.id)
        whenMetrics config (await (.recordSessionClosed metadata))
        return [session.id]
    | none => return [session.id]
  else
    return []

def expireSessions : List SessionMetadata → ManagerProgram (List SessionId)
  | [] => return []
  | session :: sessions => do
      let expired ← expireSession config session
      let more ← expireSessions sessions
      return expired ++ more

def cleanup : ManagerProgram (List SessionId) := do
  let sessions ← await .listAll
  let expired ← expireSessions config sessions
  let expiredPooled ← await (.cleanupExpired config.lifecycle.maxIdleTime)
  whenMetrics config (await (.cleanupOldHistory (Duration.fromSecs 86400)))
  return expired ++ expiredPooled

end ManagerProgram

/-- The program of an operation, without its result. -/
def ManagerTask.program (config : SessionManagerConfig) : ManagerTask → ManagerProgram Unit
  | .createSession name transportConfig tags description => do
      let _ ← ManagerProgram.createSession config name transportConfig tags description
      return ()
  | .updateSessionStatus sessionId status => do
      let _ ← ManagerProgram.updateSessionStatus config sessionId status
      return ()
  | .useSession sessionId => do
      let _ ← ManagerProgram.useSession config sessionId
      return ()
  | .closeSession sessionId => do
      let _ ← ManagerProgram.closeSession config sessionId
      return ()
  | .connectOrCreateSession name transportConfig => do
      let _ ← ManagerProgram.connectOrCreateSession config name transportConfig
      return ()
  | .updateSessionMetadata sessionId metadata => do
      let _ ← ManagerProgram.updateSessionMetadata sessionId metadata
      return ()
  | .cleanup => do
      let _ ← ManagerProgram.cleanup config
      return ()

/-! ## Running alone -/

namespace SessionManager

/-- The manager was built from this configuration. -/
structure BuiltFrom (manager : SessionManager) (config : SessionManagerConfig) : Prop where
  lifecycle : manager.lifecycle = config.lifecycle
  metrics : manager.metrics.isSome = config.enableMetrics

theorem builtFrom_new (config : SessionManagerConfig) : (new config).BuiltFrom config where
  lifecycle := rfl
  metrics := by cases h : config.enableMetrics <;> simp [new, h]

theorem BuiltFrom.exec {manager : SessionManager} {config : SessionManagerConfig}
    (h : manager.BuiltFrom config) (ambient : Ambient) (action : ManagerAction) :
    (exec ambient action manager).2.BuiltFrom config := by
  obtain ⟨hlifecycle, hmetrics⟩ := h
  cases action <;> exact ⟨hlifecycle, by simpa [SessionManager.exec, withRegistry, withPool,
    record] using hmetrics⟩

theorem BuiltFrom.run {manager : SessionManager} {config : SessionManagerConfig}
    (h : manager.BuiltFrom config) (ambient : Ambient) {α : Type} (p : ManagerProgram α) :
    (p.run (SessionManager.exec ambient) manager).2.BuiltFrom config :=
  run_invariant (SessionManager.exec ambient) (I := fun after => after.BuiltFrom config)
    (fun action _ hmanager => hmanager.exec ambient action) p h

@[simp] theorem exec_registry_config (ambient : Ambient) (action : ManagerAction)
    (manager : SessionManager) :
    (exec ambient action manager).2.registry.config = manager.registry.config := by
  cases action <;>
    simp [exec, withRegistry, withPool, record, SessionRegistry.updateStatus,
      SessionRegistry.markUsed]

end SessionManager

namespace ManagerProgram

open SessionManager (exec)

variable {config : SessionManagerConfig} {manager : SessionManager} (ambient : Ambient)

/-- A recording is made if there are metrics to record, and does nothing otherwise. -/
theorem run_whenMetrics (h : manager.BuiltFrom config) {p : ManagerProgram Unit}
    {f : SessionMetricsCollector → SessionMetricsCollector}
    (hp : p.run (exec ambient) manager = manager.record f) :
    (whenMetrics config p).run (exec ambient) manager = manager.record f := by
  unfold whenMetrics
  split
  · exact hp
  · next hdisabled =>
      have hnone : manager.metrics = none := by
        rw [← Option.not_isSome_iff_eq_none, h.metrics]
        exact hdisabled
      obtain ⟨registry, pool, metrics, lifecycle⟩ := manager
      obtain rfl : metrics = none := hnone
      rfl

theorem run_createSession (h : manager.BuiltFrom config) (name : String)
    (transportConfig : TransportConfig) (tags : List String) (description : Option String) :
    (createSession config name transportConfig tags description).run (exec ambient) manager =
      manager.createSession ambient.now ambient.freshId name transportConfig tags
        description := by
  unfold createSession SessionManager.createSession
  simp only [perform_bind, run_call, exec, SessionManager.withRegistry]
  rcases manager.registry.register (.new ambient.now ambient.freshId name transportConfig tags
    description) with ⟨_ | _, registry⟩
  · rfl
  · have hbuilt : { manager with registry := registry }.BuiltFrom config :=
      ⟨h.lifecycle, h.metrics⟩
    dsimp only
    rw [run_bind, run_whenMetrics ambient hbuilt rfl]
    rfl

theorem run_poolByStatus (sessionId : SessionId) (status : SessionStatus) :
    (poolByStatus sessionId status).run (exec ambient) manager =
      ((), { manager with pool := manager.poolByStatus ambient.now sessionId status }) := by
  cases status with
  | idle =>
      simp only [poolByStatus, SessionManager.poolByStatus, perform_bind, run_call, exec]
      cases manager.registry.get sessionId <;> rfl
  | active | failed | closed | creating | connecting | reconnecting | closing => rfl

theorem run_recordTransition (sessionId : SessionId) (oldStatus status : SessionStatus) :
    (recordTransition sessionId oldStatus status).run (exec ambient) manager =
      manager.record (SessionManager.recordTransition oldStatus status) := by
  unfold recordTransition SessionManager.recordTransition
  simp only [perform_bind, run_call, exec]
  cases status with
  | active | failed =>
      dsimp only
      split <;> simp [exec, SessionManager.record, Function.comp_def, perform]
  | idle | closed | creating | connecting | reconnecting | closing => rfl

theorem run_updateSessionStatus (h : manager.BuiltFrom config) (sessionId : SessionId)
    (status : SessionStatus) :
    (updateSessionStatus config sessionId status).run (exec ambient) manager =
      manager.updateSessionStatus ambient.now sessionId status := by
  unfold updateSessionStatus SessionManager.updateSessionStatus
  simp only [perform_bind, run_call, exec]
  cases manager.registry.get sessionId with
  | none => rfl
  | some metadata =>
      simp only [run_call, exec, SessionManager.withRegistry]
      rcases manager.registry.updateStatus ambient.now sessionId status with ⟨_ | _, registry⟩
      · rfl
      · have hbuilt : { manager with
            registry := registry
            pool := { manager with registry := registry }.poolByStatus ambient.now sessionId
              status }.BuiltFrom config := ⟨h.lifecycle, h.metrics⟩
        dsimp only
        rw [run_bind, run_poolByStatus, run_bind,
          run_whenMetrics ambient hbuilt (run_recordTransition ambient sessionId _ status)]
        rfl

theorem run_recordUsage (sessionId : SessionId) :
    (recordUsage sessionId).run (exec ambient) manager =
      manager.record fun collector =>
        match manager.registry.get sessionId with
        | some metadata => collector.recordSessionUsage sessionId metadata.useCount
        | none => collector := by
  unfold recordUsage
  simp only [perform_bind, run_call, exec]
  cases manager.registry.get sessionId with
  | some metadata => rfl
  | none => simp [SessionManager.record]

theorem run_useSession (h : manager.BuiltFrom config) (sessionId : SessionId) :
    (useSession config sessionId).run (exec ambient) manager =
      manager.useSession ambient.now sessionId := by
  unfold useSession SessionManager.useSession
  simp only [perform_bind, run_call, exec, SessionManager.withRegistry]
  rcases manager.registry.markUsed ambient.now sessionId with ⟨_ | _, registry⟩
  · rfl
  · have hbuilt : { manager with registry := registry }.BuiltFrom config :=
      ⟨h.lifecycle, h.metrics⟩
    dsimp only
    rw [run_bind, run_whenMetrics ambient hbuilt (run_recordUsage ambient sessionId)]
    simp only [run_call, exec, SessionManager.record]
    cases registry.get sessionId with
    | none => simp
    | some metadata =>
        dsimp only
        split
        · refine run_updateSessionStatus ambient ⟨?_, ?_⟩ sessionId .active
          · exact h.lifecycle
          · simpa using h.metrics
        · rfl

theorem run_closeSession (h : manager.BuiltFrom config) (sessionId : SessionId) :
    (closeSession config sessionId).run (exec ambient) manager =
      manager.closeSession ambient.now sessionId := by
  have hbuilt := h.run ambient (updateSessionStatus config sessionId .closing)
  rw [run_updateSessionStatus ambient h] at hbuilt
  unfold closeSession SessionManager.closeSession
  simp only [perform_bind, run_call, run_bind, exec, run_updateSessionStatus ambient h]
  generalize manager.updateSessionStatus ambient.now sessionId .closing = result at hbuilt
  obtain ⟨_ | _, updated⟩ := result
  · rfl
  · simp only [run_call, exec, SessionManager.withPool, SessionManager.withRegistry]
    dsimp only at hbuilt
    rcases updated.registry.unregister sessionId with ⟨_ | removedMetadata, registry⟩
    · rfl
    · have hbuilt' : { updated with
          registry := registry
          pool := (updated.pool.removeSession sessionId).2 }.BuiltFrom config :=
        ⟨hbuilt.lifecycle, hbuilt.metrics⟩
      dsimp only
      rw [run_bind, run_whenMetrics ambient hbuilt' rfl]
      rfl

theorem run_connectOrCreateSession (h : manager.BuiltFrom config) (name : String)
    (transportConfig : TransportConfig) :
    (connectOrCreateSession config name transportConfig).run (exec ambient) manager =
      manager.connectOrCreateSession ambient.now ambient.freshId name transportConfig := by
  unfold connectOrCreateSession SessionManager.connectOrCreateSession
    SessionManager.findReusableSession
  simp only [perform_bind, run_call, exec]
  cases manager.pool.findSession ambient.now transportConfig.connectionKey with
  | some sessionId =>
      simp only [run_bind, run_useSession ambient h]
      rcases manager.useSession ambient.now sessionId with ⟨_ | _, _⟩ <;> rfl
  | none =>
      simp only [run_bind, run_createSession ambient h]
      rcases manager.createSession ambient.now ambient.freshId name transportConfig [] none with
        ⟨_ | _, _⟩ <;> rfl

theorem run_expireSession (h : manager.BuiltFrom config) (session : SessionMetadata)
    (expired : List SessionId) :
    SessionManager.expireSession ambient.now (expired, manager) session =
      (expired ++ ((expireSession config session).run (exec ambient) manager).1,
        ((expireSession config session).run (exec ambient) manager).2) := by
  unfold expireSession SessionManager.expireSession
  obtain ⟨hlifecycle, hmetrics⟩ := h
  by_cases hexpire : manager.lifecycle.shouldExpireSession ambient.now session
  · have hchecked : config.lifecycle.shouldExpireSession
        (exec ambient .ambient manager).1.now session := hlifecycle ▸ hexpire
    simp only [perform_bind, run_call, hexpire, hchecked, if_true]
    simp only [exec, SessionManager.withRegistry]
    rcases manager.registry.unregister session.id with ⟨_ | metadata, registry⟩
    · rfl
    · have hbuilt : { manager with
          registry := registry
          pool := (manager.pool.removeSession session.id).2 }.BuiltFrom config :=
        ⟨hlifecycle, hmetrics⟩
      simp only [run_call, exec, SessionManager.withPool]
      rw [run_bind, run_whenMetrics ambient hbuilt rfl]
      rfl
  · have hchecked : ¬ config.lifecycle.shouldExpireSession
        (exec ambient .ambient manager).1.now session := hlifecycle ▸ hexpire
    simp only [perform_bind, run_call, hexpire, hchecked]
    simp [exec]

theorem run_expireSessions (h : manager.BuiltFrom config) (sessions : List SessionMetadata)
    (expired : List SessionId) :
    sessions.foldl (SessionManager.expireSession ambient.now) (expired, manager) =
      (expired ++ ((expireSessions config sessions).run (exec ambient) manager).1,
        ((expireSessions config sessions).run (exec ambient) manager).2) := by
  induction sessions generalizing manager expired with
  | nil => simp [expireSessions]
  | cons session sessions ih =>
      rw [List.foldl_cons, run_expireSession ambient h,
        ih (h.run ambient (expireSession config session))]
      simp [expireSessions, run_bind]

theorem run_cleanup (h : manager.BuiltFrom config) :
    (cleanup config).run (exec ambient) manager =
      manager.cleanup ambient.now ambient.rank := by
  have hfold := run_expireSessions ambient h (manager.registry.listAll ambient.rank) []
  have hbuilt := h.run ambient (expireSessions config (manager.registry.listAll ambient.rank))
  unfold cleanup SessionManager.cleanup
  simp only [perform_bind, run_call, run_bind, exec, hfold, List.nil_append]
  generalize (expireSessions config (manager.registry.listAll ambient.rank)).run (exec ambient)
    manager = result at hbuilt
  obtain ⟨expired, cleaned⟩ := result
  have hbuilt' : { cleaned with
      pool := (cleaned.pool.cleanupExpired ambient.now ambient.rank
        config.lifecycle.maxIdleTime).2 }.BuiltFrom config := ⟨hbuilt.lifecycle, hbuilt.metrics⟩
  dsimp only [SessionManager.withPool]
  rw [run_whenMetrics ambient hbuilt' rfl]
  simp [SessionManager.record, ← hbuilt.lifecycle]

end ManagerProgram

/-- Run alone, the program of an operation does what the operation does. -/
theorem ManagerTask.run_program {config : SessionManagerConfig} {manager : SessionManager}
    (h : manager.BuiltFrom config) (op : ManagerOp) :
    ((op.task.program config).run (SessionManager.exec op.ambient) manager).2 =
      manager.apply op := by
  obtain ⟨task, ambient⟩ := op
  cases task with
  | createSession name transportConfig tags description =>
      simp [program, run_bind, ManagerProgram.run_createSession ambient h,
        SessionManager.apply]
  | updateSessionStatus sessionId status =>
      simp [program, run_bind, ManagerProgram.run_updateSessionStatus ambient h,
        SessionManager.apply]
  | useSession sessionId =>
      simp [program, run_bind, ManagerProgram.run_useSession ambient h, SessionManager.apply]
  | closeSession sessionId =>
      simp [program, run_bind, ManagerProgram.run_closeSession ambient h, SessionManager.apply]
  | connectOrCreateSession name transportConfig =>
      simp [program, run_bind, ManagerProgram.run_connectOrCreateSession ambient h,
        SessionManager.apply]
  | updateSessionMetadata sessionId metadata => rfl
  | cleanup =>
      simp [program, run_bind, ManagerProgram.run_cleanup ambient h, SessionManager.apply]

theorem SessionManager.BuiltFrom.apply {config : SessionManagerConfig}
    {manager : SessionManager} (h : manager.BuiltFrom config) (op : ManagerOp) :
    (manager.apply op).BuiltFrom config := by
  rw [← ManagerTask.run_program h]
  exact h.run op.ambient _

theorem SessionManager.BuiltFrom.apply_registry_config {config : SessionManagerConfig}
    {manager : SessionManager} (h : manager.BuiltFrom config) (op : ManagerOp) :
    (manager.apply op).registry.config = manager.registry.config := by
  rw [← ManagerTask.run_program h]
  refine run_invariant (SessionManager.exec op.ambient)
    (I := fun after => after.registry.config = manager.registry.config) ?_ _ rfl
  exact fun action after hafter => (exec_registry_config _ _ _).trans hafter

end Yuha
