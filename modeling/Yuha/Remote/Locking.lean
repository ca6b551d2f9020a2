import Yuha.Library.LockOrder
import Yuha.Remote.Ipc

/-!
# The locks of the remote server

The main loop, the listeners, the tasks of the connections and the IPC tasks share four
locks. Only `stop_port_forward` takes one of them on top of another: it keeps the active
connections while it reports each connection that it closes.

## Implementation notes

A task is the sequence of its locks between two things it waits for from outside. The number
of connections to close, and the number of looks at the buffer until the long polling ends,
are given from the start of the stage.
-/

namespace Yuha

open Library Library.Execution Library.LockCalls LockStep

inductive RemoteLock
  | nextConnectionId
  | activeConnections
  | responseBuffer
  | clipboardStorage
  deriving DecidableEq, Repr

def RemoteLock.rank : RemoteLock → Nat
  | .nextConnectionId | .activeConnections | .clipboardStorage => 0
  | .responseBuffer => 1

/-- What a task does between two things it waits for from outside. -/
inductive RemoteStage
  /-- `handle_request`, where a poll that finds nothing looks at the buffer so often, and so
  many connections are active. -/
  | handle (request : ProtocolRequest) (found : Bool) (looks connections : Nat)
  /-- The task of a forward, after it has accepted a connection. -/
  | accepted
  /-- The task of a connection, until it connects to the target. -/
  | announce
  | connected
  | refused
  /-- `handle_connection`, after it has read from the target and written to the client. -/
  | buffer
  /-- `handle_connection`, after its loop. -/
  | cleanUp
  /-- The task of `run_with_ipc` that receives messages. -/
  | ipcMessage
  | ipcCommand (command : IpcCommand)

namespace RemoteStage

open RemoteLock

def pollLocks (found : Bool) (looks : Nat) : List (LockStep RemoteLock) :=
  under responseBuffer .write [] ++
    if found then []
    else (List.replicate looks (under responseBuffer .read [])).flatten ++
      under responseBuffer .write []

def stopLocks (connections : Nat) : List (LockStep RemoteLock) :=
  under activeConnections .write
    (List.replicate connections (under responseBuffer .write [])).flatten

def requestLocks (found : Bool) (looks connections : Nat) :
    ProtocolRequest → List (LockStep RemoteLock)
  | .pollData => pollLocks found looks
  | .stopPortForward _ => stopLocks connections
  | .portForwardData _ _ => under activeConnections .read []
  | .getClipboard => under clipboardStorage .read [] ++ under responseBuffer .write []
  | .setClipboard _ => under clipboardStorage .write []
  | .startPortForward _ _ _ | .openBrowser _ => []

def locks : RemoteStage → List (LockStep RemoteLock)
  | .handle request found looks connections => requestLocks found looks connections request
  | .accepted => under nextConnectionId .write []
  | .announce | .refused | .buffer | .ipcMessage => under responseBuffer .write []
  | .connected => under activeConnections .write []
  | .cleanUp => under activeConnections .write [] ++ under responseBuffer .write []
  | .ipcCommand .getClipboard => under clipboardStorage .read []
  | .ipcCommand (.setClipboard _) => under clipboardStorage .write []
  | .ipcCommand _ => []

theorem balanced_alone (lock : RemoteLock) (mode : LockMode) :
    Balanced (Ascending rank) [] (under lock mode []) :=
  balanced_nil.under mode nofun (List.forall_mem_nil _)

theorem balanced_pollLocks (found : Bool) (looks : Nat) :
    Balanced (Ascending rank) [] (pollLocks found looks) := by
  refine (balanced_alone _ _).append ?_
  cases found with
  | true => exact balanced_nil
  | false => exact ((balanced_alone _ _).repeated looks).append (balanced_alone _ _)

/-- The lock of the buffer comes after that of the active connections. -/
theorem balanced_stopLocks (connections : Nat) :
    Balanced (Ascending rank) [] (stopLocks connections) := by
  have hreport : Balanced (Ascending rank) [activeConnections] (under responseBuffer .write []) :=
    balanced_nil.under _ (by decide) (by decide)
  exact (hreport.repeated connections).under _ nofun (List.forall_mem_nil _)

theorem nested_locks (stage : RemoteStage) : Nested (Ascending rank) [] stage.locks := by
  apply Balanced.nested
  cases stage with
  | handle request found looks connections =>
      cases request with
      | pollData => exact balanced_pollLocks found looks
      | stopPortForward localPort => exact balanced_stopLocks connections
      | portForwardData | setClipboard => exact balanced_alone _ _
      | getClipboard => exact (balanced_alone _ _).append (balanced_alone _ _)
      | startPortForward | openBrowser => exact balanced_nil
  | accepted | announce | connected | refused | buffer | ipcMessage => exact balanced_alone _ _
  | cleanUp => exact (balanced_alone _ _).append (balanced_alone _ _)
  | ipcCommand command =>
      cases command with
      | getClipboard | setClipboard => exact balanced_alone _ _
      | openBrowser | sendToClient | status | ping => exact balanced_nil

/-- A task goes through any stages. -/
def tasks (stages : List RemoteStage) : List (LockStep RemoteLock) :=
  stages.flatMap locks

theorem nested_tasks (stages : List RemoteStage) : Nested (Ascending rank) [] (tasks stages) :=
  nested_flatMap nested_locks stages

end RemoteStage

abbrev RemoteLockings := LockCalls RemoteLock

namespace RemoteLockings

abbrev step (s : RemoteLockings) (event : Event (List RemoteStage)) : RemoteLockings :=
  LockCalls.step RemoteStage.tasks s event

/-- No task waits for ever: in every run, whatever the tasks have done, some task can go on
unless all have ended, and tasks that are moved on from there come to their end. -/
theorem remoteTasks_completing (events : List (Event (List RemoteStage))) :
    Always step (fun s => ¬ s.Deadlocked ∧ ∀ moves : List (Event (List RemoteStage)),
      Along step (fun _ s event => s.Progresses event) s moves →
        Completing RemoteStage.tasks s moves) new events := by
  intro past _
  have hticketed := ticketed_run RemoteStage.nested_tasks ticketed_new past
  exact ⟨not_deadlocked_of_ascending hticketed, fun moves hmoves =>
    completing_of_ascending hticketed RemoteStage.nested_tasks hmoves⟩

end RemoteLockings

end Yuha
