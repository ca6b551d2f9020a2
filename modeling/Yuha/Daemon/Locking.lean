import Yuha.Core.Session.ManagerLocks
import Yuha.Daemon.Tasks

/-!
# The locks of the daemon

The tasks of the daemon share the locks of the manager, the table of clients, the flag of
the cleanup task and the shutdown flag. None of them ever waits for ever: whatever the
tasks do, some task that has not ended can go on, and tasks that are moved on come to
their end.
-/

namespace Yuha

open Library Library.Execution Library.LockCalls LockStep

inductive DaemonLock
  | manager (lock : ManagerLock)
  | activeClients
  | cleanupRunning
  | shutdown
  deriving DecidableEq, Repr

/-- The order of the manager's locks. The others are taken on their own. -/
def DaemonLock.rank : DaemonLock → Nat
  | .manager lock => lock.rank
  | .activeClients | .cleanupRunning | .shutdown => 0

/-- What the handler's actions and the calls in them are answered, and what `update` finds. -/
structure Answering where
  answers : Nat → (action : HandlerAction) → action.Answer
  found : UpdateFinding

/-- A mutex is a lock that is only taken for writing. A response is sent on the channel of
its own client. -/
def HandlerAction.locks (config : SessionManagerConfig) (found : UpdateFinding) :
    (action : HandlerAction) → action.Answer → List (LockStep DaemonLock)
  | .manager action, answer => (action.locks config found answer).map (LockStep.map .manager)
  | .getClient _, _ | .insertClient _, _ | .removeClient _, _ => under .activeClients .write []
  | .send _ _, _ => []

/-- What a task of the daemon does between two things it waits for from outside. -/
inductive DaemonStage
  | startCleanupTask
  | accept
  | serve (client : ClientId) (request : DaemonRequest) (answering : Answering)
  | manage (task : ManagerTask) (answering : Answering)
  | inspect (query : ManagerQuery)
  | tick (answering : Answering)
  | stopCleanupTask

namespace DaemonStage

variable (config : SessionManagerConfig)

/-- The locks of a program of the handler. -/
def programLocks {α : Type} (answering : Answering) (p : HandlerProgram α) :
    List (LockStep DaemonLock) :=
  p.lockSteps (HandlerAction.locks config answering.found) answering.answers 0

/-- A request to shut down sets the flag and goes no further. -/
def locks : DaemonStage → List (LockStep DaemonLock)
  | .startCleanupTask | .stopCleanupTask => under .cleanupRunning .write []
  | .accept => under .shutdown .read []
  | .serve _ .shutdown _ => under .shutdown .write []
  | .serve client request answering =>
      programLocks config answering ((DaemonInput.request client request).program config)
  | .manage task answering => programLocks config answering (task.program config).lift
  | .inspect query => (query.locks config).map (LockStep.map .manager)
  | .tick answering =>
      under .cleanupRunning .write [] ++
        programLocks config answering (DaemonInput.cleanup.program config)

theorem nested_map_manager {steps : List (LockStep ManagerLock)}
    (h : Nested (Ascending ManagerLock.rank) [] steps) :
    Nested (Ascending DaemonLock.rank) [] (steps.map (LockStep.map .manager)) :=
  Nested.map (fun _ _ heq => DaemonLock.manager.inj heq)
    (show Nested (Ascending (DaemonLock.rank ∘ DaemonLock.manager)) [] steps from h)

theorem nested_handlerLocks (found : UpdateFinding) (action : HandlerAction)
    (answer : action.Answer) :
    Nested (Ascending DaemonLock.rank) [] (action.locks config found answer) := by
  cases action with
  | manager action =>
      exact nested_map_manager (ManagerAction.nested_locks config found action answer)
  | getClient | insertClient | removeClient => exact nested_under _ _ _
  | send => rfl

theorem nested_programLocks {α : Type} (answering : Answering) (p : HandlerProgram α) :
    Nested (Ascending DaemonLock.rank) [] (programLocks config answering p) :=
  Program.nested_lockSteps (nested_handlerLocks config answering.found) answering.answers 0 p

theorem nested_locks (stage : DaemonStage) :
    Nested (Ascending DaemonLock.rank) [] (stage.locks config) := by
  cases stage with
  | startCleanupTask | stopCleanupTask | accept => exact nested_under _ _ _
  | serve client request answering =>
      cases request with
      | shutdown => exact nested_under _ _ _
      | ping | createSession | connectSession | disconnectSession | listSessions
        | getSessionInfo | executeCommand => exact nested_programLocks config answering _
  | manage task answering => exact nested_programLocks config answering _
  | inspect query => exact nested_map_manager (query.nested_locks config)
  | tick answering =>
      exact Nested.append (nested_under _ _ _) (nested_programLocks config answering _)

/-- A task goes through any stages. -/
def tasks (stages : List DaemonStage) : List (LockStep DaemonLock) :=
  stages.flatMap (locks config)

theorem nested_tasks (stages : List DaemonStage) :
    Nested (Ascending DaemonLock.rank) [] (tasks config stages) :=
  nested_flatMap (nested_locks config) stages

end DaemonStage

abbrev DaemonLockings := LockCalls DaemonLock

namespace DaemonLockings

open LockCall

abbrev step (config : SessionManagerConfig) (s : DaemonLockings)
    (event : Event (List DaemonStage)) : DaemonLockings :=
  LockCalls.step (DaemonStage.tasks config) s event

/-- No task waits for ever: in every run, whatever the tasks have done, some task can go on
unless all have ended, and tasks that are moved on from there come to their end. -/
theorem daemonTasks_completing (config : SessionManagerConfig)
    (events : List (Event (List DaemonStage))) :
    Always (step config) (fun s => ¬ s.Deadlocked ∧ ∀ moves : List (Event (List DaemonStage)),
      Along (step config) (fun _ s event => s.Progresses event) s moves →
        Completing (DaemonStage.tasks config) s moves) new events := by
  intro past _
  have hticketed := ticketed_run (DaemonStage.nested_tasks config) ticketed_new past
  exact ⟨not_deadlocked_of_ascending hticketed, fun moves hmoves =>
    completing_of_ascending hticketed (DaemonStage.nested_tasks config) hmoves⟩

end DaemonLockings

end Yuha
