import Yuha.Daemon.Protocol

/-!
# The client of a daemon

A method of `DaemonClient` sends one request and makes its result of the response, or of
the error of `send_request`; a method of `DaemonSessionClient` makes its result of that of
`execute_command`.
-/

namespace Yuha

/-- `ClientError`, as far as the client of a daemon builds it. -/
inductive DaemonClientError
  | channel (message : String)
  | daemonError (code : ErrorCode) (message : String)
  deriving DecidableEq, Repr

/-- What `serde_json` does at a client's end of a connection. -/
structure DaemonClientCodec where
  requestToVec : DaemonRequest → Except String Bytes
  responseFromSlice : Bytes → Except String DaemonResponse

namespace DaemonClient

variable {T : Type}

def handleDaemonResponse (response : DaemonResponse)
    (successHandler : DaemonResponse → Option T) : Except DaemonClientError T :=
  match response with
  | .error code message => .error (.daemonError code message)
  | response =>
      match successHandler response with
      | some result => .ok result
      | none => .error (.channel "Unexpected response from daemon")

/-! ## The errors of `send_request` -/

def serializeFailed (error : String) : DaemonClientError :=
  .channel s!"Failed to serialize request: {error}"

def sendFailed (error : YuhaError) : DaemonClientError :=
  .channel s!"Failed to send request: {error.toString}"

def receiveFailed (error : YuhaError) : DaemonClientError :=
  .channel s!"Failed to receive response: {error.toString}"

/-- The result of `send_request` for the payload it receives. -/
def deserialize (codec : DaemonClientCodec) (payload : Bytes) :
    Except DaemonClientError DaemonResponse :=
  match codec.responseFromSlice payload with
  | .ok response => .ok response
  | .error e => .error (.channel s!"Failed to deserialize response: {e}")

/-! ## The methods, from the result of `send_request` on -/

section

variable (sent : Except DaemonClientError DaemonResponse)

def ping : Except DaemonClientError Bool := do
  match ← sent with
  | .pong => .ok true
  | _ => .ok false

def createSession : Except DaemonClientError (SessionId × Bool) := do
  handleDaemonResponse (← sent) fun
    | .sessionCreated sessionId reused => some (sessionId, reused)
    | _ => none

def connectSession : Except DaemonClientError (SessionId × Bool) := do
  handleDaemonResponse (← sent) fun
    | .sessionCreated sessionId reused => some (sessionId, reused)
    | _ => none

def disconnectSession : Except DaemonClientError Unit := do
  handleDaemonResponse (← sent) fun
    | .sessionDisconnected => some ()
    | _ => none

def listSessions : Except DaemonClientError (List SessionSummary) := do
  handleDaemonResponse (← sent) fun
    | .sessionList sessions => some sessions
    | _ => none

def getSessionInfo : Except DaemonClientError SessionDetails := do
  handleDaemonResponse (← sent) fun
    | .sessionInfo session => some session
    | _ => none

def executeCommand : Except DaemonClientError CommandResult := do
  match ← sent with
  | .commandSuccess result => .ok result
  | .error code message => .error (.daemonError code message)
  | _ => .error (.channel "Unexpected response from daemon")

def shutdown : Except DaemonClientError Unit := do
  match ← sent with
  | .shuttingDown => .ok ()
  | .error code message => .error (.daemonError code message)
  | _ => .error (.channel "Unexpected response from daemon")

end

end DaemonClient

/-! ## The methods of a session's client, from the result of `execute_command` on -/

namespace DaemonSessionClient

variable (executed : Except DaemonClientError CommandResult)

def getClipboard : Except DaemonClientError String := do
  match ← executed with
  | .clipboardContent content => .ok content
  | _ => .error (.channel "Unexpected command result")

/-- The four methods that expect one command result, which says nothing. -/
def expect (expected : CommandResult) : Except DaemonClientError Unit := do
  if (← executed) = expected then .ok ()
  else .error (.channel "Unexpected command result")

def setClipboard : Except DaemonClientError Unit := expect executed .clipboardSet

def openBrowser : Except DaemonClientError Unit := expect executed .browserOpened

def startPortForward : Except DaemonClientError Unit := expect executed .portForwardStarted

def stopPortForward : Except DaemonClientError Unit := expect executed .portForwardStopped

end DaemonSessionClient

/-! ## Calls -/

/-- A method of either client, with its arguments. -/
inductive DaemonCall
  | ping
  | createSession (name : String) (transportConfig : TransportConfig) (tags : List String)
      (description : Option String)
  | connectSession (name : String) (transportConfig : TransportConfig)
  | disconnectSession (sessionId : SessionId)
  | listSessions
  | getSessionInfo (sessionId : SessionId)
  | executeCommand (sessionId : SessionId) (command : DaemonCommand)
  | shutdown
  | getClipboard (sessionId : SessionId)
  | setClipboard (sessionId : SessionId) (content : String)
  | openBrowser (sessionId : SessionId) (url : String)
  | startPortForward (sessionId : SessionId) (localPort : UInt16) (remoteHost : String)
      (remotePort : UInt16)
  | stopPortForward (sessionId : SessionId) (localPort : UInt16)
  deriving DecidableEq

/-- The value of a method that returns `Ok`. -/
inductive DaemonResult
  | alive (alive : Bool)
  | session (sessionId : SessionId) (reused : Bool)
  | sessions (sessions : List SessionSummary)
  | info (session : SessionDetails)
  | command (result : CommandResult)
  | text (content : String)
  | unit
  deriving DecidableEq

namespace DaemonCall

/-- The request that the method sends. -/
def request : DaemonCall → DaemonRequest
  | .ping => .ping
  | .createSession name transportConfig tags description =>
      .createSession name transportConfig tags description
  | .connectSession name transportConfig => .connectSession name transportConfig
  | .disconnectSession sessionId => .disconnectSession sessionId
  | .listSessions => .listSessions
  | .getSessionInfo sessionId => .getSessionInfo sessionId
  | .executeCommand sessionId command => .executeCommand sessionId command
  | .shutdown => .shutdown
  | .getClipboard sessionId => .executeCommand sessionId .getClipboard
  | .setClipboard sessionId content => .executeCommand sessionId (.setClipboard content)
  | .openBrowser sessionId url => .executeCommand sessionId (.openBrowser url)
  | .startPortForward sessionId localPort remoteHost remotePort =>
      .executeCommand sessionId (.startPortForward localPort remoteHost remotePort)
  | .stopPortForward sessionId localPort =>
      .executeCommand sessionId (.stopPortForward localPort)

/-- The result of the method, from that of `send_request`. -/
def result (call : DaemonCall) (sent : Except DaemonClientError DaemonResponse) :
    Except DaemonClientError DaemonResult :=
  let executed := DaemonClient.executeCommand sent
  match call with
  | .ping => (DaemonClient.ping sent).map .alive
  | .createSession _ _ _ _ => (DaemonClient.createSession sent).map fun p => .session p.1 p.2
  | .connectSession _ _ => (DaemonClient.connectSession sent).map fun p => .session p.1 p.2
  | .disconnectSession _ => (DaemonClient.disconnectSession sent).map fun () => .unit
  | .listSessions => (DaemonClient.listSessions sent).map .sessions
  | .getSessionInfo _ => (DaemonClient.getSessionInfo sent).map .info
  | .executeCommand _ _ => executed.map .command
  | .shutdown => (DaemonClient.shutdown sent).map fun () => .unit
  | .getClipboard _ => (DaemonSessionClient.getClipboard executed).map .text
  | .setClipboard _ _ => (DaemonSessionClient.setClipboard executed).map fun () => .unit
  | .openBrowser _ _ => (DaemonSessionClient.openBrowser executed).map fun () => .unit
  | .startPortForward _ _ _ _ =>
      (DaemonSessionClient.startPortForward executed).map fun () => .unit
  | .stopPortForward _ _ =>
      (DaemonSessionClient.stopPortForward executed).map fun () => .unit

/-- An error of `send_request` is that of the method. -/
theorem result_error (call : DaemonCall) (error : DaemonClientError) :
    call.result (.error error) = .error error := by
  cases call <;> rfl

end DaemonCall

/-! ## What a method makes of an answer -/

def CommandResult.Fits : DaemonCommand → CommandResult → Prop
  | .getClipboard, .clipboardContent _ => True
  | .setClipboard _, .clipboardSet => True
  | .openBrowser _, .browserOpened => True
  | .startPortForward _ _ _, .portForwardStarted => True
  | .stopPortForward _, .portForwardStopped => True
  | .portForwardData _ _, .portForwardDataSent => True
  | _, _ => False

/-- The responses a request can be answered by. -/
def DaemonRequest.Fits : DaemonRequest → DaemonResponse → Prop
  | .ping, .pong => True
  | .createSession _ _ _ _, .sessionCreated _ _ => True
  | .createSession _ _ _ _, .error code _ =>
      code = .maxSessionsReached ∨ code = .connectionFailed
  | .connectSession _ _, .sessionCreated _ _ => True
  | .connectSession _ _, .error code _ => code = .maxSessionsReached ∨ code = .connectionFailed
  | .disconnectSession _, .sessionDisconnected => True
  | .disconnectSession _, .error code _ => code = .sessionNotFound
  | .listSessions, .sessionList _ => True
  | .getSessionInfo _, .sessionInfo _ => True
  | .getSessionInfo _, .error code _ => code = .sessionNotFound
  | .executeCommand _ command, .commandSuccess result => result.Fits command
  | .executeCommand _ _, .error code _ => code = .sessionNotFound
  | .shutdown, .shuttingDown => True
  | _, _ => False

namespace DaemonClient

/-- The caller is told what the daemon answered. -/
def Told {α : Type} : Except DaemonClientError α → Prop
  | .error (.channel _) => False
  | _ => True

instance {α : Type} (result : Except DaemonClientError α) : Decidable (Told result) :=
  match result with
  | .error (.channel _) => isFalse fun h => h
  | .error (.daemonError _ _) | .ok _ => isTrue trivial

@[simp] theorem not_told_channel {α : Type} (message : String) :
    ¬ Told (.error (.channel message) : Except DaemonClientError α) := fun h => h

end DaemonClient

/-- The caller of a method is told of every response that fits the request. -/
theorem DaemonCall.told_result {call : DaemonCall} {response : DaemonResponse}
    (h : call.request.Fits response) : DaemonClient.Told (call.result (.ok response)) := by
  cases response with
  | commandSuccess result =>
      cases call with
      | getClipboard | setClipboard | openBrowser | startPortForward | stopPortForward =>
          cases result <;> first | exact h.elim | trivial
      | _ => first | exact h.elim | trivial
  | _ => cases call <;> first | exact h.elim | trivial

end Yuha
