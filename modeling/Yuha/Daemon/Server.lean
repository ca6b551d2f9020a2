import Yuha.Core.Protocol
import Yuha.Daemon.Handler

/-!
# The daemon server

`DaemonServer::run` accepts connections in a loop and spawns one task for each it
serves; `handle_client` is the loop of such a task. The state follows the accept loop
and every task from one await to the next, so an event is the completion of an await of
one of them.

## Implementation notes

An event that is not possible in a state leaves the state as it is. `accepted`,
`exchanges` and `sent` are not in the code: they count the connections that were
accepted, and record what a task received, what it computed for it and what it sent.
The counter wraps around, as `u32` arithmetic does in a release build.
-/

namespace Yuha

/-- What `serde_json` does at the daemon's end of a connection. -/
structure DaemonCodec where
  requestFromSlice : Bytes → Except String DaemonRequest
  responseToVec : DaemonResponse → Except String Bytes

/-- A frame that was received, with the response computed for it, if any was. -/
structure Exchange where
  frame : Payload
  response : Option DaemonResponse

/-- The await at which a task is. -/
inductive TaskPhase
  /-- In `channel.receive()`. -/
  | receiving
  /-- In `channel.send(response_bytes)`, before the next turn or the end of the loop. -/
  | replying (payload : Bytes) (last : Bool)
  /-- The loop was left, and the connection dropped. -/
  | closed
  deriving DecidableEq, Repr

structure ClientTask where
  clientId : UInt32
  phase : TaskPhase := .receiving
  exchanges : List Exchange := []
  sent : List Bytes := []

/-- The place of the accept loop: before its check for shutdown, in `accept()`, or left. -/
inductive Acceptor
  | checking
  | accepting
  | stopped
  deriving DecidableEq, Repr

structure DaemonServer where
  config : DaemonConfig
  requestHandler : RequestHandler
  shutdown : Bool := false
  acceptor : Acceptor := .checking
  clientCount : UInt32 := 0
  accepted : Nat := 0
  tasks : List ClientTask := []

inductive ServerEvent
  /-- The accept loop reads the shutdown flag. -/
  | checkShutdown
  /-- `accept()` returns a connection. -/
  | accept
  /-- `accept()` returns an error. -/
  | acceptFailed
  /-- A pending `receive()` returns a frame, which is handled. -/
  | receive (task : Nat) (frame : Payload) (ambient : Ambient)
  /-- A pending `receive()` returns an error. -/
  | hangUp (task : Nat)
  /-- A pending `send` returns. -/
  | reply (task : Nat) (interruption : Option Interruption)
  /-- The cleanup task runs its callback. -/
  | cleanup (ambient : Ambient)

namespace DaemonServer

def new (config : DaemonConfig) : DaemonServer where
  config := config
  requestHandler := .new (.new config.sessionConfig)

/-- The accept loop from a returned connection to its next check for shutdown. -/
def acceptConnection (server : DaemonServer) : DaemonServer :=
  let clientCount := server.clientCount + 1
  let server := { server with
    clientCount := clientCount
    accepted := server.accepted + 1
    acceptor := .checking }
  if clientCount > server.config.maxClients then server
  else { server with tasks := server.tasks ++ [{ clientId := clientCount }] }

/-- The loop of `handle_client` from a received frame to its next await. -/
def handleFrame (codec : DaemonCodec) (server : DaemonServer) (ambient : Ambient)
    (task : ClientTask) (frame : Payload) : DaemonServer × ClientTask :=
  match codec.requestFromSlice frame.val with
  -- `continue`
  | .error _ => (server, { task with exchanges := task.exchanges ++ [⟨frame, none⟩] })
  | .ok .shutdown =>
      let server := { server with shutdown := true }
      let task : ClientTask := { task with
        exchanges := task.exchanges ++ [⟨frame, some .shuttingDown⟩] }
      match codec.responseToVec .shuttingDown with
      | .ok payload => (server, { task with phase := .replying payload true })
      -- `unwrap()` ends the task
      | .error _ => (server, { task with phase := .closed })
  | .ok request =>
      let (response, requestHandler) := server.requestHandler.handleRequest ambient request
      let server := { server with requestHandler := requestHandler }
      let task : ClientTask := { task with
        exchanges := task.exchanges ++ [⟨frame, some response⟩] }
      match codec.responseToVec response with
      | .ok payload => (server, { task with phase := .replying payload false })
      -- `continue`
      | .error _ => (server, task)

/-- Handling a frame changes the handler and the shutdown flag only. -/
theorem handleFrame_fst (codec : DaemonCodec) (server : DaemonServer) (ambient : Ambient)
    (task : ClientTask) (frame : Payload) :
    ∃ requestHandler shutdown, (handleFrame codec server ambient task frame).1 =
      { server with requestHandler := requestHandler, shutdown := shutdown } := by
  unfold handleFrame
  repeat' split
  all_goals exact ⟨_, _, rfl⟩

/-- A task whose `send` returned. -/
def replied (task : ClientTask) (payload : Bytes) (last : Bool)
    (interruption : Option Interruption) : ClientTask :=
  match (send payload interruption).outcome with
  | .ok () => { task with
      phase := if last then .closed else .receiving
      sent := task.sent ++ [payload] }
  | _ => { task with phase := .closed }

variable (codec : DaemonCodec)

def step (server : DaemonServer) : ServerEvent → DaemonServer
  | .checkShutdown =>
      match server.acceptor with
      | .checking => { server with
          acceptor := if server.shutdown then .stopped else .accepting }
      | _ => server
  | .accept =>
      match server.acceptor with
      | .accepting => server.acceptConnection
      | _ => server
  | .acceptFailed =>
      match server.acceptor with
      | .accepting => { server with acceptor := .checking }
      | _ => server
  | .receive i frame ambient =>
      match server.tasks[i]? with
      | some task =>
          match task.phase with
          | .receiving =>
              let (server, task) := handleFrame codec server ambient task frame
              { server with tasks := server.tasks.set i task }
          | _ => server
      | none => server
  | .hangUp i =>
      match server.tasks[i]? with
      | some task =>
          match task.phase with
          | .receiving => { server with tasks := server.tasks.set i { task with phase := .closed } }
          | _ => server
      | none => server
  | .reply i interruption =>
      match server.tasks[i]? with
      | some task =>
          match task.phase with
          | .replying payload last =>
              { server with tasks := server.tasks.set i (replied task payload last interruption) }
          | _ => server
      | none => server
  | .cleanup ambient =>
      match server.acceptor with
      | .stopped => server
      | _ => { server with
          requestHandler := server.requestHandler.step ⟨.cleanup, ambient⟩ }

end DaemonServer

end Yuha
