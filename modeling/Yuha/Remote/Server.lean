import Yuha.Core.ResponseEncoding
import Yuha.Remote.Relay

/-!
# The remote server

The main loop of `RemoteServer` answers one request after the other. Each started forward
has a task that accepts connections, and each accepted connection a task that announces it,
connects to the target and then relays. The tasks and the main loop share the response
buffer and the map of active connections.

## Implementation notes

A step of the system is what one task does from one await to the next. The only lock that
is held over an await is the write lock of `active_connections`, in `stop_port_forward`.
The operating system and the peers are inputs. An event that is not possible in a state
leaves the state as it is. A channel is a queue in the relay that holds its receiver, and
a sender the number of that task. `log` and `exchanges` are not in the code: they record
who added an item or changed the map, and the requests whose answers were sent.
-/

namespace Yuha

open Library

inductive TaskStage
  /-- Accepted, about to add `NewConnection`. -/
  | announcing
  /-- In `connect` to the target. -/
  | connecting
  /-- Connected, about to enter the active connections. -/
  | entering
  /-- The target refused, about to add `CloseConnection`. -/
  | refused
  /-- In `handle_connection`. -/
  | relaying (relay : Relay)
  | ended

/-- The task of an accepted connection. -/
structure ConnectionTask where
  connectionId : UInt32
  localPort : UInt16
  targetAddr : String
  stage : TaskStage

/-- A forward that was started, and whether its task still accepts connections. -/
structure PortForward where
  localPort : UInt16
  remoteHost : String
  remotePort : UInt16
  listening : Bool
  deriving DecidableEq, Repr

inductive MainLoop
  | receiving
  /-- In `wait_for_data`. -/
  | waiting
  /-- In `stop_port_forward`, with the lock of the active connections, about to report the
  connection it has removed last. -/
  | stopping (localPort : UInt16) (connectionId : UInt32) (toRemove : List UInt32)
  /-- The request is handled, about to send the response. -/
  | sending (request : ProtocolRequest) (response : ProtocolResponse)
  | ended (error : YuhaError)
  deriving DecidableEq, Repr

inductive Author
  | mainLoop
  | task (i : Nat)
  | ipcHandler
  deriving DecidableEq, Repr

inductive Action
  | add (item : ResponseItem)
  | insert (connectionId : UInt32)
  | remove (connectionId : UInt32)
  deriving DecidableEq, Repr

structure Deed where
  author : Author
  action : Action
  deriving DecidableEq, Repr

structure RemoteServer where
  responseBuffer : ResponseBuffer := {}
  activeConnections : HashMap UInt32 Nat := ∅
  nextConnectionId : UInt32 := 1
  forwards : List PortForward := []
  tasks : List ConnectionTask := []
  mainLoop : MainLoop := .receiving
  log : List Deed := []
  exchanges : List (ProtocolRequest × ProtocolResponse) := []

/-- What the operating system answers while a request is handled, and the order in which
the map of active connections is iterated. -/
structure Surroundings where
  bind : Except String Unit := .ok ()
  clipboard : Except String String := .ok ""
  setClipboard : Except String Unit := .ok ()
  openUrl : Except String Unit := .ok ()
  order : UInt32 → Nat := UInt32.toNat

/-- How `receive_request` can fail. -/
inductive ReceiveError
  | closed
  | io (message : String)
  | malformed (e : String)
  deriving DecidableEq, Repr

def ReceiveError.toYuhaError : ReceiveError → YuhaError
  | .closed => .protocol .channelClosed
  | .io message => .io message
  | .malformed e => .protocol (.serialization s!"Request deserialization failed: {e}")

inductive TaskEvent
  /-- The task obtains the lock it waits for. -/
  | lock
  | connected (accepted : Bool)
  | io (event : RelayIO)

inductive RemoteEvent
  | request (request : ProtocolRequest) (surroundings : Surroundings)
  | receiveFailed (error : ReceiveError)
  /-- The main loop goes on in the middle of a request. -/
  | mainTurn
  /-- The response is sent, unless it is too long or the stream fails. -/
  | send (failure : Option String)
  | accept (forward : Nat)
  | acceptFailed (forward : Nat)
  | task (i : Nat) (event : TaskEvent)

namespace RemoteServer

/-! ## Shared state -/

def add (s : RemoteServer) (author : Author) (item : ResponseItem) : RemoteServer :=
  { s with
    responseBuffer := s.responseBuffer.add item
    log := s.log ++ [⟨author, .add item⟩] }

def insert (s : RemoteServer) (author : Author) (connectionId : UInt32) (sender : Nat) :
    RemoteServer :=
  { s with
    activeConnections := AList.insert connectionId sender s.activeConnections
    log := s.log ++ [⟨author, .insert connectionId⟩] }

def remove (s : RemoteServer) (author : Author) (connectionId : UInt32) : RemoteServer :=
  { s with
    activeConnections := AList.erase connectionId s.activeConnections
    log := s.log ++ [⟨author, .remove connectionId⟩] }

def setStage (s : RemoteServer) (i : Nat) (stage : TaskStage) : RemoteServer :=
  { s with tasks := s.tasks.modify i fun task => { task with stage := stage } }

/-- The main loop holds the lock of the active connections. -/
def stopping (s : RemoteServer) : Bool :=
  match s.mainLoop with
  | .stopping .. => true
  | _ => false

/-- The sender that the map has for a connection leads to this task. -/
def senderAlive (s : RemoteServer) (i : Nat) (connectionId : UInt32) : Bool :=
  decide (s.activeConnections.lookup connectionId = some i)

/-- The relay of a task, until `handle_connection` returns. -/
def receiver (s : RemoteServer) (i : Nat) : Option Relay :=
  match s.tasks[i]? with
  | some ⟨_, _, _, .relaying relay⟩ =>
      match relay.stage with
      | .ended => none
      | _ => some relay
  | _ => none

/-! ## The requests -/

def respond (s : RemoteServer) (request : ProtocolRequest) (response : ProtocolResponse) :
    RemoteServer :=
  { s with mainLoop := .sending request response }

def takeItems (s : RemoteServer) (request : ProtocolRequest) : RemoteServer :=
  let (items, responseBuffer) := s.responseBuffer.takeItems
  { s with responseBuffer := responseBuffer }.respond request (.data items)

def pollData (s : RemoteServer) : RemoteServer :=
  let (items, responseBuffer) := s.responseBuffer.takeItems
  if items.isEmpty then { s with responseBuffer := responseBuffer, mainLoop := .waiting }
  else s.takeItems .pollData

/-- `TcpListener::bind` fails while another listener has the port, and when the operating
system says so for another reason. -/
def bind (s : RemoteServer) (localPort : UInt16) (os : Except String Unit) : Except String Unit :=
  if localPort ≠ 0 ∧
      s.forwards.any fun forward => forward.listening && forward.localPort == localPort then
    .error "Address already in use (os error 98)"
  else os

def startPortForward (s : RemoteServer) (localPort : UInt16) (remoteHost : String)
    (remotePort : UInt16) (os : Except String Unit) : RemoteServer :=
  let request : ProtocolRequest := .startPortForward localPort remoteHost remotePort
  match s.bind localPort os with
  | .ok () =>
      let forward : PortForward := ⟨localPort, remoteHost, remotePort, true⟩
      { s with forwards := s.forwards ++ [forward] }.respond request .success
  | .error e => s.respond request (.error s!"Failed to bind to 0.0.0.0:{localPort}: {e}")

/-- The loop over `to_remove`, up to the next lock of the response buffer. -/
def closeNext (s : RemoteServer) (localPort : UInt16) : List UInt32 → RemoteServer
  | [] => s.respond (.stopPortForward localPort) .success
  | connectionId :: toRemove =>
      { s.remove .mainLoop connectionId with
        mainLoop := .stopping localPort connectionId toRemove }

def stopPortForward (s : RemoteServer) (localPort : UInt16) (order : UInt32 → Nat) :
    RemoteServer :=
  s.closeNext localPort ((s.activeConnections.listing order).map Sigma.fst)

/-- `sender.send(data)` for the sender that leads to a task. -/
def send (s : RemoteServer) (i : Nat) (data : Bytes) : Except String RemoteServer :=
  match s.receiver i with
  | some relay =>
      .ok (s.setStage i (.relaying { relay with dataRx := relay.dataRx ++ [data] }))
  | none => .error "channel closed"

def forwardData (s : RemoteServer) (connectionId : UInt32) (data : Bytes) : RemoteServer :=
  let request : ProtocolRequest := .portForwardData connectionId data
  match s.activeConnections.lookup connectionId with
  | some i =>
      match s.send i data with
      | .ok s => s.respond request .success
      | .error e => s.respond request (.error s!"Failed to send data: {e}")
  | none => s.respond request .success

def getClipboard (s : RemoteServer) : Except String String → RemoteServer
  | .ok content => (s.add .mainLoop (.clipboardContent content)).takeItems .getClipboard
  | .error e => s.respond .getClipboard (.error s!"Failed to get clipboard: {e}")

def setClipboard (s : RemoteServer) (content : String) : Except String Unit → RemoteServer
  | .ok () => s.respond (.setClipboard content) .success
  | .error e => s.respond (.setClipboard content) (.error s!"Failed to set clipboard: {e}")

def openBrowser (s : RemoteServer) (url : String) : Except String Unit → RemoteServer
  | .ok () => s.respond (.openBrowser url) .success
  | .error e => s.respond (.openBrowser url) (.error s!"Failed to open browser: {e}")

/-- `handle_request` up to its first await that may wait for another task. -/
def handleRequest (s : RemoteServer) (surroundings : Surroundings) :
    ProtocolRequest → RemoteServer
  | .pollData => s.pollData
  | .startPortForward localPort remoteHost remotePort =>
      s.startPortForward localPort remoteHost remotePort surroundings.bind
  | .stopPortForward localPort => s.stopPortForward localPort surroundings.order
  | .portForwardData connectionId data => s.forwardData connectionId data
  | .getClipboard => s.getClipboard surroundings.clipboard
  | .setClipboard content => s.setClipboard content surroundings.setClipboard
  | .openBrowser url => s.openBrowser url surroundings.openUrl

/-- The wait for data ends, by data or by its deadline, or the lock of the response buffer
is obtained for the next connection to close. -/
def mainTurn (s : RemoteServer) : RemoteServer :=
  match s.mainLoop with
  | .waiting => s.takeItems .pollData
  | .stopping localPort connectionId toRemove =>
      (s.add .mainLoop (.closeConnection connectionId)).closeNext localPort toRemove
  | _ => s

/-- `send_response` on a stream that fails, at its first write, or does not. -/
def sendOutcome (response : ProtocolResponse) (failure : Option String) : Outcome Unit :=
  (Yuha.send response.toVec (failure.map fun message => ⟨0, .failed message⟩)).outcome

/-- After sending, the main loop receives again or ends. -/
def sendResponse (s : RemoteServer) (failure : Option String) : RemoteServer :=
  match s.mainLoop with
  | .sending request response =>
      match sendOutcome response failure with
      | .ok () =>
          { s with mainLoop := .receiving, exchanges := s.exchanges ++ [(request, response)] }
      | .err error => { s with mainLoop := .ended error }
      | .dropped => s
  | _ => s

/-! ## The tasks -/

def accept (s : RemoteServer) (f : Nat) : RemoteServer :=
  match s.forwards[f]? with
  | some forward =>
      if forward.listening then
        { s with
          nextConnectionId := s.nextConnectionId + 1
          tasks := s.tasks ++ [⟨s.nextConnectionId, forward.localPort,
            s!"{forward.remoteHost}:{forward.remotePort}", .announcing⟩] }
      else s
  | none => s

def acceptFailed (s : RemoteServer) (f : Nat) : RemoteServer :=
  { s with forwards := s.forwards.modify f fun forward => { forward with listening := false } }

/-- The critical sections of `handle_connection`. -/
def relayLock (s : RemoteServer) (i : Nat) (connectionId : UInt32) (relay : Relay) :
    RemoteServer :=
  match relay.stage with
  | .buffering n =>
      (s.add (.task i) (.portForwardData connectionId (relay.targetBuf.upTo n))).setStage i
        (.relaying { relay with stage := .selecting })
  | .leaving =>
      if s.stopping then s
      else (s.remove (.task i) connectionId).setStage i (.relaying { relay with stage := .closing })
  | .closing =>
      (s.add (.task i) (.closeConnection connectionId)).setStage i
        (.relaying { relay with stage := .ended })
  | _ => s

def taskStep (s : RemoteServer) (i : Nat) (task : ConnectionTask) (event : TaskEvent) :
    RemoteServer :=
  match task.stage, event with
  | .announcing, .lock =>
      (s.add (.task i) (.newConnection task.connectionId task.localPort)).setStage i .connecting
  | .connecting, .connected true => s.setStage i .entering
  | .connecting, .connected false => s.setStage i .refused
  | .entering, .lock =>
      if s.stopping then s
      else (s.insert (.task i) task.connectionId i).setStage i (.relaying {})
  | .refused, .lock =>
      (s.add (.task i) (.closeConnection task.connectionId)).setStage i .ended
  | .relaying relay, .lock => s.relayLock i task.connectionId relay
  | .relaying relay, .io event =>
      s.setStage i (.relaying (relay.io (s.senderAlive i task.connectionId) event))
  | _, _ => s

def step (s : RemoteServer) : RemoteEvent → RemoteServer
  | .request request surroundings =>
      match s.mainLoop with
      | .receiving => s.handleRequest surroundings request
      | _ => s
  | .receiveFailed error =>
      match s.mainLoop with
      | .receiving => { s with mainLoop := .ended error.toYuhaError }
      | _ => s
  | .mainTurn => s.mainTurn
  | .send failure => s.sendResponse failure
  | .accept forward => s.accept forward
  | .acceptFailed forward => s.acceptFailed forward
  | .task i event =>
      match s.tasks[i]? with
      | some task => s.taskStep i task event
      | none => s

end RemoteServer

end Yuha
