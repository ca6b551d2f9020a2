import Yuha.Client.DaemonClient
import Yuha.Daemon.Answering
import Yuha.Daemon.Tasks

/-!
# A daemon and its clients

Each client calls one method after the other on a connection of its own. The daemon reads
the requests in a task for each connection. It handles them, and the ticks of its cleanup, at
the same time, one action of one of them after the other.

## Implementation notes

A stream moves whole frames. What a method does before its `receive` is one event. A call
that is stopped in the middle of its frame leaves bytes that frames of later calls complete
in some way: what the daemon reads from then on is any frame, written by `write`.

The loop of a task is that of the server, but for `handle_request`, which is none of the
server's awaits: a task that is in it is in `handling`, and the server has it where it was. A
shutdown, which the loop answers itself, is handled as a program whose one action is its answer.
-/

namespace Yuha

open Library Execution DaemonServer

/-- A client and its connection. -/
structure DaemonLink where
  toDaemon : List Payload := []
  toClient : List Bytes := []
  /-- The call that is in `receive`. -/
  waiting : Option DaemonCall := none
  returned : List (DaemonCall × Except DaemonClientError DaemonResult) := []

/-- A request that is being handled. -/
structure Handling where
  frame : Payload
  request : DaemonRequest
  /-- The place of its program among those that were started. -/
  call : Nat

/-- A daemon, and for every connection it serves, or will serve, the client of it. -/
structure DaemonSystem where
  server : DaemonServer
  /-- The programs of the requests and cleanups that were started. -/
  calls : List (HandlerProgram Unit) := []
  answered : List (ClientId × DaemonResponse) := []
  /-- The request that the task of a connection is handling. -/
  handling : Nat → Option Handling := fun _ => none
  /-- The program of the last tick. -/
  cleanup : Option Nat := none
  links : Nat → DaemonLink := fun _ => {}

inductive DaemonSystemEvent
  | checkShutdown
  | accept
  | acceptFailed
  /-- The cleanup task starts its callback. -/
  | tick
  /-- The callback goes on by one action. -/
  | sweep (ambient : Ambient)
  /-- The pending `receive` of the task returns the next frame, whose handling starts. -/
  | take (i : Nat)
  /-- The handling of a request goes on by one action, the last of which is its answer. -/
  | handle (i : Nat) (ambient : Ambient)
  /-- The pending `send` of the task returns. -/
  | reply (i : Nat) (interruption : Option Interruption)
  /-- The pending `receive` of the task returns an error. -/
  | hangUp (i : Nat)
  /-- A method is called. Its `send` may fail before the first byte. -/
  | call (i : Nat) (call : DaemonCall) (failure : Option String)
  /-- The pending `receive` of the client returns the next frame. -/
  | receive (i : Nat)
  /-- The pending `receive` of the client comes to the end of the stream. -/
  | closed (i : Nat)
  /-- The call that waits is dropped, or its `receive` fails. -/
  | stop (i : Nat) (stop : Stop)
  /-- Something else than a whole call puts a frame on the stream to the daemon. -/
  | write (i : Nat) (payload : Payload)

namespace DaemonLink

/-- The call returns. -/
def finish (link : DaemonLink) (call : DaemonCall)
    (sent : Except DaemonClientError DaemonResponse) : DaemonLink :=
  { link with waiting := none, returned := link.returned ++ [(call, call.result sent)] }

/-- A method up to its `receive`. -/
def start (codec : DaemonClientCodec) (link : DaemonLink) (call : DaemonCall)
    (failure : Option String) : DaemonLink :=
  match codec.requestToVec call.request with
  | .error e => link.finish call (.error (DaemonClient.serializeFailed e))
  | .ok payload =>
      if h : payload.length ≤ maxPayload then
        match failure with
        | some message => link.finish call (.error (DaemonClient.sendFailed (.io message)))
        | none => { link with
            toDaemon := link.toDaemon ++ [⟨payload, h⟩]
            waiting := some call }
      else
        link.finish call
          (.error (DaemonClient.sendFailed (.protocol (.bufferOverflow payload.length))))

/-- The frame that is on the stream when a `send` has returned. -/
def delivered (payload : Bytes) (interruption : Option Interruption) : List Bytes :=
  if (send payload interruption).written = frame payload then [payload] else []

end DaemonLink

/-- The loop of `handle_client` from the response to a request to its next await. -/
def ClientTask.answer (codec : DaemonCodec) (handling : Handling) (response : DaemonResponse)
    (task : ClientTask) : ClientTask :=
  let task : ClientTask := { task with
    exchanges := task.exchanges ++ [⟨handling.frame, some response⟩] }
  match codec.responseToVec response, handling.request with
  | .ok payload, .shutdown => { task with phase := .replying payload true }
  | .ok payload, _ => { task with phase := .replying payload false }
  -- `unwrap()` ends the task
  | .error _, .shutdown => { task with phase := .closed }
  -- `continue`
  | .error _, _ => task

namespace DaemonSystem

def new (config : DaemonConfig) : DaemonSystem where
  server := .new config

variable (codec : DaemonCodec) (client : DaemonClientCodec)

def setLink (s : DaemonSystem) (i : Nat) (link : DaemonLink) : DaemonSystem :=
  { s with links := Function.update s.links i link }

def onServer (s : DaemonSystem) (event : ServerEvent) : DaemonSystem :=
  { s with server := s.server.step codec event }

def modifyTask (s : DaemonSystem) (i : Nat) (change : ClientTask → ClientTask) : DaemonSystem :=
  { s with server := { s.server with tasks := s.server.tasks.modify i change } }

/-- What the daemon's tasks share, and how far they are with their programs. -/
def tasks (s : DaemonSystem) : DaemonTasks := ⟨⟨s.server.requestHandler, s.answered⟩, s.calls⟩

/-- A program is started, or goes on by one action. -/
def onTasks (s : DaemonSystem) (turn : DaemonTurn) : DaemonSystem :=
  let tasks := DaemonTasks.step s.server.config.sessionConfig s.tasks turn
  { s with
    server := { s.server with requestHandler := tasks.shared.handler }
    calls := tasks.calls
    answered := tasks.shared.sent }

/-- The frame that a task can receive, and those behind it. -/
def arriving (s : DaemonSystem) (i : Nat) : Option (Payload × List Payload) :=
  match s.server.tasks[i]?, s.handling i, (s.links i).toDaemon with
  | some task, none, payload :: rest =>
      if task.phase = .receiving then some (payload, rest) else none
  | _, _, _ => none

/-- The response that a task sends. -/
def leaving (s : DaemonSystem) (i : Nat) : Option Bytes :=
  match (s.server.tasks[i]?).map ClientTask.phase with
  | some (.replying payload _) => some payload
  | _ => none

/-- The flag that a task sets before it answers a shutdown. -/
def raiseFlag (s : DaemonSystem) : DaemonRequest → DaemonSystem
  | .shutdown => { s with server := { s.server with shutdown := true } }
  | _ => s

/-- The loop of `handle_client` from a received frame to the handling of a request, or to its
next turn. -/
def taken (s : DaemonSystem) (i : Nat) (frame : Payload) : DaemonSystem :=
  match codec.requestFromSlice frame.val with
  -- `continue`
  | .error _ => s.modifyTask i fun task => { task with
      exchanges := task.exchanges ++ [⟨frame, none⟩] }
  | .ok request =>
      let started := (s.raiseFlag request).onTasks (.start (.request i request))
      { started with
        handling := Function.update started.handling i (some ⟨frame, request, s.calls.length⟩) }

/-- The handling of a request goes on. The last action of its program is its answer. -/
def handled (s : DaemonSystem) (i : Nat) (handling : Handling) (ambient : Ambient) :
    DaemonSystem :=
  let after := s.onTasks (.advance handling.call ambient)
  match s.calls[handling.call]? with
  | some (.call (.send _ response) _) =>
      { after.modifyTask i (ClientTask.answer codec handling response) with
        handling := Function.update after.handling i none }
  | _ => after

/-- The callback of the cleanup task has yet to return. -/
def sweeping (s : DaemonSystem) : Bool :=
  match s.cleanup.bind fun call => s.calls[call]? with
  | some (.call _ _) => true
  | _ => false

def tick (s : DaemonSystem) : DaemonSystem :=
  match s.server.acceptor with
  | .stopped => s
  | _ =>
      if s.sweeping then s
      else { s.onTasks (.start .cleanup) with cleanup := some s.calls.length }

def step (s : DaemonSystem) : DaemonSystemEvent → DaemonSystem
  | .checkShutdown => s.onServer codec .checkShutdown
  | .accept => s.onServer codec .accept
  | .acceptFailed => s.onServer codec .acceptFailed
  | .tick => s.tick
  | .sweep ambient =>
      match s.cleanup with
      | some call => s.onTasks (.advance call ambient)
      | none => s
  | .take i =>
      match s.arriving i with
      | some (payload, rest) =>
          (s.taken codec i payload).setLink i { s.links i with toDaemon := rest }
      | none => s
  | .handle i ambient =>
      match s.handling i with
      | some handling => s.handled codec i handling ambient
      | none => s
  | .reply i interruption =>
      match s.leaving i with
      | some payload =>
          (s.onServer codec (.reply i interruption)).setLink i
            { s.links i with
              toClient := (s.links i).toClient ++ DaemonLink.delivered payload interruption }
      | none => s
  | .hangUp i =>
      match s.handling i with
      | none => s.onServer codec (.hangUp i)
      | some _ => s
  | .call i call failure =>
      match (s.links i).waiting with
      | none => s.setLink i ((s.links i).start client call failure)
      -- the methods take `&mut self`
      | some _ => s
  | .receive i =>
      match (s.links i).waiting, (s.links i).toClient with
      | some call, payload :: rest =>
          s.setLink i ({ s.links i with toClient := rest }.finish call
            (DaemonClient.deserialize client payload))
      | _, _ => s
  | .closed i =>
      match (s.links i).waiting, (s.links i).toClient with
      | some call, [] =>
          if (s.server.tasks[i]?).map (·.phase) = some .closed then
            s.setLink i ((s.links i).finish call
              (.error (DaemonClient.receiveFailed (.protocol .channelClosed))))
          else s
      | _, _ => s
  | .stop i stop =>
      match (s.links i).waiting, stop with
      | some call, .failed message =>
          s.setLink i ((s.links i).finish call
            (.error (DaemonClient.receiveFailed (.io message))))
      | some _, .dropped => s.setLink i { s.links i with waiting := none }
      | none, _ => s
  | .write i payload =>
      s.setLink i { s.links i with toDaemon := (s.links i).toDaemon ++ [payload] }

/-! ## What the daemon's tasks do -/

/-- What the daemon's tasks do in a step. -/
def turn (s : DaemonSystem) : DaemonSystemEvent → Option DaemonTurn
  | .tick =>
      match s.server.acceptor with
      | .stopped => none
      | _ => if s.sweeping then none else some (.start .cleanup)
  | .sweep ambient => s.cleanup.map fun call => .advance call ambient
  | .take i =>
      match s.arriving i with
      | some (payload, _) =>
          match codec.requestFromSlice payload.val with
          | .ok request => some (.start (.request i request))
          | .error _ => none
      | none => none
  | .handle i ambient => (s.handling i).map fun handling => .advance handling.call ambient
  | _ => none

/-- What the daemon's tasks do in a run. -/
def turns (s : DaemonSystem) : List DaemonSystemEvent → List DaemonTurn
  | [] => []
  | event :: events => (s.turn codec event).toList ++ turns (s.step codec client event) events

theorem turns_concat (s : DaemonSystem) (events : List DaemonSystemEvent)
    (event : DaemonSystemEvent) :
    s.turns codec client (events ++ [event]) = s.turns codec client events ++
      ((run (step codec client) s events).turn codec event).toList := by
  induction events generalizing s with
  | nil => simp [turns]
  | cons first events ih => simp [turns, ih]

end DaemonSystem

namespace DaemonTasks

/-- What was started in some turns. The place of each is that of its program. -/
def started (turns : List DaemonTurn) : List DaemonInput :=
  turns.filterMap fun
    | .start input => some input
    | .advance _ _ => none

theorem started_append (turns more : List DaemonTurn) :
    started (turns ++ more) = started turns ++ started more :=
  List.filterMap_append ..

/-- What a turn answers to a client: the response that the program of its request sends. -/
def answerTo (i : ClientId) (s : DaemonTasks) (started : List DaemonInput) :
    DaemonTurn → List (DaemonRequest × DaemonResponse)
  | .start _ => []
  | .advance call _ =>
      match started[call]?, s.calls[call]? with
      | some (.request client request), some (.call (.send _ response) _) =>
          if client = i then [(request, response)] else []
      | _, _ => []

/-- The requests of a client that are answered in some turns, with their answers. -/
def answersTo (config : SessionManagerConfig) (i : ClientId) (s : DaemonTasks)
    (past : List DaemonTurn) : List DaemonTurn → List (DaemonRequest × DaemonResponse)
  | [] => []
  | turn :: turns => s.answerTo i (started past) turn ++
      answersTo config i (s.step config turn) (past ++ [turn]) turns

theorem answersTo_concat (config : SessionManagerConfig) (i : ClientId) (s : DaemonTasks)
    (past turns : List DaemonTurn) (turn : DaemonTurn) :
    answersTo config i s past (turns ++ [turn]) = answersTo config i s past turns ++
      (run (step config) s turns).answerTo i (started (past ++ turns)) turn := by
  induction turns generalizing s past with
  | nil => simp [answersTo]
  | cons first turns ih => simp [answersTo, ih]

end DaemonTasks

/-- The two ends read what the other writes. -/
structure DaemonClientCodec.Agrees (client : DaemonClientCodec) (codec : DaemonCodec) : Prop where
  request_read : ∀ request payload, client.requestToVec request = .ok payload →
    codec.requestFromSlice payload = .ok request
  response_read : ∀ response payload, codec.responseToVec response = .ok payload →
    client.responseFromSlice payload = .ok response

/-- What keeps a call from what the daemon answers. -/
def DaemonClientError.OnTheWay (error : DaemonClientError) : Prop :=
  (∃ e, error = DaemonClient.serializeFailed e) ∨ (∃ e, error = DaemonClient.sendFailed e) ∨
    ∃ e, error = DaemonClient.receiveFailed e

/-! ## The tasks of the daemon -/

namespace DaemonServer

variable {codec : DaemonCodec} {server : DaemonServer} {i : Nat}

/-- Where the task of a connection is, or will start. -/
def phaseAt (server : DaemonServer) (i : Nat) : TaskPhase :=
  ((server.tasks[i]?).map ClientTask.phase).getD .receiving

theorem phaseAt_of_some {task : ClientTask} (h : server.tasks[i]? = some task) :
    server.phaseAt i = task.phase := by
  rw [phaseAt, h]
  rfl

theorem phaseAt_step_of_some {task : ClientTask} (h : server.tasks[i]? = some task)
    (event : ServerEvent) :
    (step codec server event).phaseAt i = (taskStep codec server i task event).phase :=
  phaseAt_of_some (getElem?_step_of_some codec h event)

/-- An event that is not of the task leaves it where it is. -/
theorem phaseAt_step {event : ServerEvent}
    (h : ∀ task, server.tasks[i]? = some task → taskStep codec server i task event = task) :
    (step codec server event).phaseAt i = server.phaseAt i := by
  cases hold : server.tasks[i]? with
  | some task => rw [phaseAt_step_of_some hold, h task hold, phaseAt_of_some hold]
  | none =>
      have hbefore : server.phaseAt i = .receiving := by rw [phaseAt, hold]; rfl
      rw [hbefore]
      cases hnew : (step codec server event).tasks[i]? with
      | none => rw [phaseAt, hnew]; rfl
      | some task =>
          obtain ⟨clientId, rfl⟩ := getElem?_step_of_none hold event hnew
          exact phaseAt_of_some hnew

end DaemonServer

end Yuha
