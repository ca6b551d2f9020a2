import Yuha.Core.Session.Lifecycle
import Yuha.Core.Session.Metrics
import Yuha.Core.Session.Pool
import Yuha.Core.Session.Registry

/-!
# The session manager

The manager coordinates the registry, the pool and the metrics. Each operation runs to
its end here, with one clock reading; the identifier of a new session is an argument.
-/

namespace Yuha

/-- What an operation takes from its environment: a clock reading, the identifier a new
session would get, and the order in which the session map iterates. -/
structure Ambient where
  now : SystemTime
  freshId : SessionId
  rank : SessionId → Nat

structure SessionManagerConfig where
  registry : SessionRegistryConfig := {}
  pool : SessionPoolConfig := {}
  lifecycle : SessionLifecycleConfig := {}
  enableMetrics : Bool := true

structure SessionManager where
  registry : SessionRegistry
  pool : SessionPool
  metrics : Option SessionMetricsCollector
  lifecycle : SessionLifecycleConfig

namespace SessionManager

def new (config : SessionManagerConfig) : SessionManager where
  registry := .new config.registry
  pool := .new config.pool
  metrics := if config.enableMetrics then some {} else none
  lifecycle := config.lifecycle

def createSession (manager : SessionManager) (now : SystemTime) (freshId : SessionId)
    (name : String) (transportConfig : TransportConfig) (tags : List String)
    (description : Option String) : Except SessionError SessionId × SessionManager :=
  let metadata := SessionMetadata.new now freshId name transportConfig tags description
  match manager.registry.register metadata with
  | (.error e, registry) => (.error e, { manager with registry := registry })
  | (.ok _, registry) =>
      (.ok metadata.id, { manager with
        registry := registry
        metrics := manager.metrics.map (·.recordSessionCreated metadata) })

def getSession (manager : SessionManager) (sessionId : SessionId) : Option SessionMetadata :=
  manager.registry.get sessionId

/-- The pooling part of `update_session_status`, after the registry was updated. -/
def poolByStatus (manager : SessionManager) (now : SystemTime) (sessionId : SessionId) :
    SessionStatus → SessionPool
  | .idle =>
      match manager.registry.get sessionId with
      | some metadata => (manager.pool.addSession now metadata).2
      | none => manager.pool
  | .active | .failed | .closed => (manager.pool.removeSession sessionId).2
  | _ => manager.pool

/-- The metrics part of `update_session_status`. -/
def recordTransition (oldStatus status : SessionStatus)
    (collector : SessionMetricsCollector) : SessionMetricsCollector :=
  let collector := collector.recordStatusChange oldStatus status
  let wasConnecting := oldStatus = .connecting ∨ oldStatus = .reconnecting
  match status with
  | .active => if wasConnecting then collector.recordConnectionSuccess else collector
  | .failed => if wasConnecting then collector.recordConnectionFailure else collector
  | _ => collector

def updateSessionStatus (manager : SessionManager) (now : SystemTime) (sessionId : SessionId)
    (status : SessionStatus) : Except SessionError Unit × SessionManager :=
  match manager.registry.get sessionId with
  | none => (.error (.notFound sessionId.toString), manager)
  | some metadata =>
      match manager.registry.updateStatus now sessionId status with
      | (.error e, registry) => (.error e, { manager with registry := registry })
      | (.ok (), registry) =>
          let manager := { manager with registry := registry }
          (.ok (), { manager with
            pool := manager.poolByStatus now sessionId status
            metrics := manager.metrics.map (recordTransition metadata.status status) })

def useSession (manager : SessionManager) (now : SystemTime) (sessionId : SessionId) :
    Except SessionError Unit × SessionManager :=
  match manager.registry.markUsed now sessionId with
  | (.error e, registry) => (.error e, { manager with registry := registry })
  | (.ok (), registry) =>
      match registry.get sessionId with
      | none => (.ok (), { manager with registry := registry })
      | some metadata =>
          let manager := { manager with
            registry := registry
            metrics := manager.metrics.map
              (·.recordSessionUsage sessionId metadata.useCount) }
          if metadata.status = .idle then
            manager.updateSessionStatus now sessionId .active
          else
            (.ok (), manager)

def closeSession (manager : SessionManager) (now : SystemTime) (sessionId : SessionId) :
    Except SessionError Unit × SessionManager :=
  match manager.updateSessionStatus now sessionId .closing with
  | (.error e, manager) => (.error e, manager)
  | (.ok (), manager) =>
      let manager := { manager with pool := (manager.pool.removeSession sessionId).2 }
      match manager.registry.unregister sessionId with
      | (some removedMetadata, registry) =>
          (.ok (), { manager with
            registry := registry
            metrics := manager.metrics.map (·.recordSessionClosed now removedMetadata) })
      | (none, registry) => (.ok (), { manager with registry := registry })

def findReusableSession (manager : SessionManager) (now : SystemTime)
    (connectionKey : String) : Option SessionId :=
  manager.pool.findSession now connectionKey

/-- Reuse a pooled session of the connection, or create a new one. The flag tells which. -/
def connectOrCreateSession (manager : SessionManager) (now : SystemTime)
    (freshId : SessionId) (name : String) (transportConfig : TransportConfig) :
    Except SessionError (SessionId × Bool) × SessionManager :=
  match manager.findReusableSession now transportConfig.connectionKey with
  | some sessionId =>
      match manager.useSession now sessionId with
      | (.error e, manager) => (.error e, manager)
      | (.ok (), manager) => (.ok (sessionId, true), manager)
  | none =>
      match manager.createSession now freshId name transportConfig [] none with
      | (.error e, manager) => (.error e, manager)
      | (.ok sessionId, manager) => (.ok (sessionId, false), manager)

def updateSessionMetadata (manager : SessionManager) (sessionId : SessionId)
    (metadata : SessionMetadata) : Except SessionError Unit × SessionManager :=
  let (result, registry) := manager.registry.update sessionId metadata
  (result, { manager with registry := registry })

def listSessions (manager : SessionManager) (rank : SessionId → Nat) : List SessionMetadata :=
  manager.registry.listAll rank

/-- One turn of the loop of the cleanup callback. -/
def expireSession (now : SystemTime) (acc : List SessionId × SessionManager)
    (session : SessionMetadata) : List SessionId × SessionManager :=
  let (expired, manager) := acc
  if manager.lifecycle.shouldExpireSession now session then
    match manager.registry.unregister session.id with
    | (some metadata, registry) =>
        (expired ++ [session.id], { manager with
          registry := registry
          pool := (manager.pool.removeSession session.id).2
          metrics := manager.metrics.map (·.recordSessionClosed now metadata) })
    | (none, registry) =>
        (expired ++ [session.id], { manager with registry := registry })
  else
    acc

/-- One run of the cleanup callback that `start_cleanup_task` installs. -/
def cleanup (manager : SessionManager) (now : SystemTime) (rank : SessionId → Nat) :
    List SessionId × SessionManager :=
  let (expired, manager) :=
    (manager.registry.listAll rank).foldl (expireSession now) ([], manager)
  let (expiredPooled, pool) :=
    manager.pool.cleanupExpired now rank manager.lifecycle.maxIdleTime
  (expired ++ expiredPooled, { manager with
    pool := pool
    metrics := manager.metrics.map (·.cleanupOldHistory now (Duration.fromSecs 86400)) })

end SessionManager

end Yuha
