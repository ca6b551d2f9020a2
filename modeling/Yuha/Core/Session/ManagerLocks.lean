import Yuha.Core.Session.ManagerCalls
import Yuha.Core.Session.RegistryLocks
import Yuha.Library.LockOrder

/-!
# The locks of the manager

The pool has two locks and the metrics have four, and each call takes those it needs in one
order. The calls the manager makes on the registry keep to an order, too: it is only
`list_by_name` and `list_by_connection_key`, which the manager never calls, that do not.

## Implementation notes

As with the registry, a call is the sequence of its locks, and what it finds in the maps is
given from its start. Most of that shows in its answer.
-/

namespace Yuha

open Library Library.LockCalls LockStep

inductive ManagerLock
  | registry (lock : RegistryLock)
  | pools
  | poolMetadata
  | metrics
  | sessionHistory
  | lifetimeSamples
  | idleTimeSamples
  deriving DecidableEq, Repr

namespace ManagerLock

/-- The order in which the locks of one component are taken. -/
def rank : ManagerLock → Nat
  | .registry .sessions => 0
  | .registry .nameIndex => 1
  | .registry .connectionIndex => 2
  | .pools => 0
  | .poolMetadata => 1
  | .metrics => 0
  | .sessionHistory => 1
  | .lifetimeSamples => 2
  | .idleTimeSamples => 3

end ManagerLock

/-! ## The registry -/

namespace RegistryLocking

open RegistryLock

/-- The call takes no index before the sessions. -/
def SessionsFirst : RegistryLocking → Prop
  | .listByName _ | .listByConnectionKey _ => False
  | _ => True

theorem nested_locks_of_sessionsFirst (config : SessionRegistryConfig) {call : RegistryLocking}
    (h : call.SessionsFirst) :
    Nested (Ascending (ManagerLock.rank ∘ ManagerLock.registry)) [] (call.locks config) := by
  have hone : ∀ lock mode, Balanced (Ascending (ManagerLock.rank ∘ ManagerLock.registry)) []
      (under lock mode []) := fun lock mode => balanced_nil.under mode nofun (List.forall_mem_nil _)
  have hsessions : ∀ {mode} {inner : List (LockStep RegistryLock)},
      Balanced (Ascending (ManagerLock.rank ∘ ManagerLock.registry)) [sessions] inner →
        Balanced (Ascending (ManagerLock.rank ∘ ManagerLock.registry)) []
          (under sessions mode inner) := fun h => h.under _ nofun (List.forall_mem_nil _)
  apply Balanced.nested
  cases call with
  | register finding =>
      refine .append (hsessions (.ite (balanced_nil.under _ (by decide) (by decide))
        balanced_nil)) (.ite (.append (.append (hone _ _) (.ite (hone _ _) balanced_nil))
          (hone _ _)) balanced_nil)
  | unregister found =>
      exact .append (hone _ _)
        (.ite (.append (.ite (hone _ _) balanced_nil) (hone _ _)) balanced_nil)
  | update finding =>
      cases finding with
      | mismatch => exact balanced_nil
      | missing => exact hone _ _
      | registered keyChanged nameChanged =>
          exact hsessions (.append
            (.ite (balanced_nil.under _ (by decide) (by decide)) balanced_nil)
            (.ite (balanced_nil.under _ (by decide) (by decide)) balanced_nil))
  | updateStatus | markUsed | get | listAll | listByStatus | listByTags | count | countByStatus
    | «exists» => exact hone _ _
  | clear =>
      exact hsessions (.under (balanced_nil.under _ (by decide) (by decide)) _ (by decide)
        (by decide))
  | listByName | listByConnectionKey => exact h.elim

end RegistryLocking

/-! ## The pool -/

/-- How the checks of `add_session` end. -/
inductive PoolFinding
  | refused
  | full
  | free
  deriving DecidableEq, Repr

inductive PoolLocking
  | addSession (finding : PoolFinding)
  | removeSession
  | findSession (searches : Bool)
  | listPool
  | listConnectionKeys
  | getStats
  | cleanupExpired (expired : Nat)
  | clear
  | isPooled
  | getPoolMetadata
  deriving DecidableEq, Repr

namespace PoolLocking

open ManagerLock

/-- Both maps of the pool. -/
def both (mode : LockMode) : List (LockStep ManagerLock) :=
  under pools mode (under poolMetadata mode [])

/-- The expired sessions are collected under the read guards, and then removed one by one. -/
def locks : PoolLocking → List (LockStep ManagerLock)
  | .addSession .refused => []
  | .addSession .full => both .read
  | .addSession .free => both .read ++ both .write
  | .removeSession | .clear => both .write
  | .findSession searches => if searches then both .read else []
  | .listPool | .listConnectionKeys => under pools .read []
  | .getStats => both .read
  | .cleanupExpired expired =>
      both .read ++ (List.range expired).flatMap fun _ => both .write
  | .isPooled | .getPoolMetadata => under poolMetadata .read []

theorem nested_locks (call : PoolLocking) : Nested (Ascending rank) [] call.locks := by
  have hboth : ∀ mode, Nested (Ascending rank) [] (both mode) := by
    intro mode
    cases mode <;> decide
  cases call with
  | addSession finding =>
      cases finding with
      | refused => rfl
      | full => exact hboth _
      | free => exact Nested.append (hboth _) (hboth _)
  | removeSession | clear | getStats => exact hboth _
  | findSession searches => exact Nested.ite (hboth _) rfl
  | listPool | listConnectionKeys | isPooled | getPoolMetadata => exact nested_under _ _ _
  | cleanupExpired expired => exact Nested.append (hboth _) (nested_flatMap (fun _ => hboth _) _)

end PoolLocking

/-! ## The metrics -/

inductive MetricsLocking
  | recordSessionCreated
  | recordConnectionSuccess
  | recordConnectionFailure
  | recordStatusChange
  | recordSessionUsage
  | recordSessionClosed
  | getMetrics
  | reset
  | cleanupOldHistory
  deriving DecidableEq, Repr

namespace MetricsLocking

open ManagerLock

def locks : MetricsLocking → List (LockStep ManagerLock)
  | .recordSessionCreated | .recordSessionUsage =>
      under metrics .write (under sessionHistory .write [])
  | .recordConnectionSuccess | .recordConnectionFailure | .recordStatusChange =>
      under metrics .write []
  | .recordSessionClosed | .reset =>
      under metrics .write (under sessionHistory .write
        (under lifetimeSamples .write (under idleTimeSamples .write [])))
  | .getMetrics => under metrics .read []
  | .cleanupOldHistory => under sessionHistory .write []

theorem nested_locks (call : MetricsLocking) : Nested (Ascending rank) [] call.locks := by
  cases call <;> decide

end MetricsLocking

/-! ## The manager's calls -/

/-- How the checks of `register` ended, by what it returned. -/
def RegisterFinding.ofResult : Except SessionError SessionId → RegisterFinding
  | .ok _ => .free
  | .error (.alreadyExists _) => .nameTaken
  | .error _ => .limitReached

/-- How the checks of `add_session` ended, by what it returned. -/
def PoolFinding.ofResult (config : SessionPoolConfig) (session : SessionMetadata)
    (added : Bool) : PoolFinding :=
  if config.enabled ∧ (session.status = .idle ∨ session.status = .active) then
    if added then .free else .full
  else
    .refused

/-- A call on the registry, with its locks as the manager's. -/
def RegistryLocking.managerLocks (config : SessionRegistryConfig) (call : RegistryLocking) :
    List (LockStep ManagerLock) :=
  (call.locks config).map (LockStep.map .registry)

/-- The locks a call takes that is answered like this. What `update` finds does not show in
its answer. -/
def ManagerAction.locks (config : SessionManagerConfig) (found : UpdateFinding) :
    (action : ManagerAction) → action.Answer → List (LockStep ManagerLock)
  | .ambient, _ => []
  | .register _, result =>
      (RegistryLocking.register (.ofResult result)).managerLocks config.registry
  | .get _, _ => RegistryLocking.get.managerLocks config.registry
  | .update _ _, _ => (RegistryLocking.update found).managerLocks config.registry
  | .updateStatus _ _, _ => RegistryLocking.updateStatus.managerLocks config.registry
  | .markUsed _, _ => RegistryLocking.markUsed.managerLocks config.registry
  | .listAll, _ => RegistryLocking.listAll.managerLocks config.registry
  | .unregister _, removed =>
      (RegistryLocking.unregister removed.isSome).managerLocks config.registry
  | .unregisterExpired _ _, removed =>
      (RegistryLocking.unregister removed.isSome).managerLocks config.registry
  | .addSession session, added =>
      (PoolLocking.addSession (.ofResult config.pool session added)).locks
  | .removeSession _, _ => PoolLocking.removeSession.locks
  | .findSession _, _ =>
      (PoolLocking.findSession (config.pool.enabled && config.pool.preferReuse)).locks
  | .cleanupExpired _, expired => (PoolLocking.cleanupExpired expired.length).locks
  | .recordSessionCreated _, _ => MetricsLocking.recordSessionCreated.locks
  | .recordStatusChange _ _ _, _ => MetricsLocking.recordStatusChange.locks
  | .recordConnectionSuccess _, _ => MetricsLocking.recordConnectionSuccess.locks
  | .recordConnectionFailure _, _ => MetricsLocking.recordConnectionFailure.locks
  | .recordSessionUsage _ _, _ => MetricsLocking.recordSessionUsage.locks
  | .recordSessionClosed _, _ => MetricsLocking.recordSessionClosed.locks
  | .cleanupOldHistory _, _ => MetricsLocking.cleanupOldHistory.locks

namespace ManagerAction

theorem nested_managerLocks (config : SessionRegistryConfig) {call : RegistryLocking}
    (h : call.SessionsFirst) :
    Nested (Ascending ManagerLock.rank) [] (call.managerLocks config) :=
  Nested.map (fun _ _ heq => ManagerLock.registry.inj heq)
    (RegistryLocking.nested_locks_of_sessionsFirst config h)

/-- Every call of the manager takes its locks in the order. -/
theorem nested_locks (config : SessionManagerConfig) (found : UpdateFinding)
    (action : ManagerAction) (answer : action.Answer) :
    Nested (Ascending ManagerLock.rank) [] (action.locks config found answer) := by
  cases action with
  | ambient => rfl
  | register | get | update | updateStatus | markUsed | listAll | unregister
    | unregisterExpired => exact nested_managerLocks config.registry trivial
  | addSession | removeSession | findSession | cleanupExpired =>
      dsimp only [locks]
      exact PoolLocking.nested_locks _
  | recordSessionCreated | recordStatusChange | recordConnectionSuccess
    | recordConnectionFailure | recordSessionUsage | recordSessionClosed | cleanupOldHistory =>
      dsimp only [locks]
      exact MetricsLocking.nested_locks _

end ManagerAction

/-! ## The calls that only read -/

inductive ManagerQuery
  | getSession
  | findReusableSession
  | listSessions
  | listSessionsByStatus
  | listSessionsByTags
  | getStats
  | sessionCount
  | getPoolStats
  | sessionExists
  deriving DecidableEq, Repr

namespace ManagerQuery

def locks (config : SessionManagerConfig) : ManagerQuery → List (LockStep ManagerLock)
  | .getSession => RegistryLocking.get.managerLocks config.registry
  | .findReusableSession =>
      (PoolLocking.findSession (config.pool.enabled && config.pool.preferReuse)).locks
  | .listSessions => RegistryLocking.listAll.managerLocks config.registry
  | .listSessionsByStatus => RegistryLocking.listByStatus.managerLocks config.registry
  | .listSessionsByTags => RegistryLocking.listByTags.managerLocks config.registry
  | .getStats => if config.enableMetrics then MetricsLocking.getMetrics.locks else []
  | .sessionCount => RegistryLocking.count.managerLocks config.registry
  | .getPoolStats => PoolLocking.getStats.locks
  | .sessionExists => RegistryLocking.exists.managerLocks config.registry

theorem nested_locks (config : SessionManagerConfig) (query : ManagerQuery) :
    Nested (Ascending ManagerLock.rank) [] (query.locks config) := by
  cases query with
  | getSession | listSessions | listSessionsByStatus | listSessionsByTags | sessionCount
    | sessionExists => exact ManagerAction.nested_managerLocks config.registry trivial
  | findReusableSession | getPoolStats =>
      dsimp only [locks]
      exact PoolLocking.nested_locks _
  | getStats => exact Nested.ite (MetricsLocking.nested_locks _) rfl

end ManagerQuery

end Yuha
