import Yuha.Core.Session.Manager
import Yuha.Daemon.Protocol

/-!
# The request handler of the daemon

## Implementation notes

A request is handled to its end before the next event. What the handler takes from its
environment while it does so is one `Ambient`.
-/

namespace Yuha

open Library

/-- A client handle is a placeholder in the source, too. -/
structure RequestHandler where
  sessionManager : SessionManager
  activeClients : HashMap SessionId Unit := ∅

namespace RequestHandler

def new (sessionManager : SessionManager) : RequestHandler :=
  { sessionManager := sessionManager }

/-- Insert the client of a session and make the session active. -/
def connectClient (handler : RequestHandler) (now : SystemTime) (sessionId : SessionId) :
    Except YuhaError Unit × RequestHandler :=
  match handler.sessionManager.updateSessionStatus now sessionId .connecting with
  | (.error e, manager) => (.error (.session e), { handler with sessionManager := manager })
  | (.ok (), manager) =>
      let activeClients := AList.insert sessionId () handler.activeClients
      match manager.updateSessionStatus now sessionId .active with
      | (.error e, manager) => (.error (.session e),
          { sessionManager := manager, activeClients := activeClients })
      | (.ok (), manager) =>
          (.ok (), { sessionManager := manager, activeClients := activeClients })

/-- The part of `handle_create_session` after no pooled session was reused. -/
def createAndConnect (handler : RequestHandler) (ambient : Ambient) (name : String)
    (transportConfig : TransportConfig) (tags : List String) (description : Option String) :
    DaemonResponse × RequestHandler :=
  match handler.sessionManager.createSession ambient.now ambient.freshId name transportConfig
      tags description with
  | (.error e, manager) =>
      (.error .maxSessionsReached (YuhaError.session e).toString,
        { handler with sessionManager := manager })
  | (.ok sessionId, manager) =>
      match { handler with sessionManager := manager }.connectClient ambient.now sessionId with
      | (.error e, handler) =>
          (.error .connectionFailed s!"Failed to establish connection: {e.toString}",
            { handler with
              sessionManager :=
                (handler.sessionManager.closeSession ambient.now sessionId).2 })
      | (.ok (), handler) => (.sessionCreated sessionId false, handler)

def handleCreateSession (handler : RequestHandler) (ambient : Ambient) (name : String)
    (transportConfig : TransportConfig) (tags : List String) (description : Option String) :
    DaemonResponse × RequestHandler :=
  match handler.sessionManager.findReusableSession ambient.now
      transportConfig.connectionKey with
  | some sessionId =>
      match handler.sessionManager.useSession ambient.now sessionId with
      | (.ok (), manager) =>
          (.sessionCreated sessionId true, { handler with sessionManager := manager })
      | (.error _, manager) =>
          { handler with sessionManager := manager }.createAndConnect ambient name
            transportConfig tags description
  | none => handler.createAndConnect ambient name transportConfig tags description

/-- The loop of `handle_connect_session`: the first listed session of that name that is
active and can be used. -/
def useByName (now : SystemTime) (name : String) :
    List SessionMetadata → SessionManager → Option SessionId × SessionManager
  | [], manager => (none, manager)
  | session :: sessions, manager =>
      if session.name = name ∧ session.status = .active then
        match manager.useSession now session.id with
        | (.ok (), manager) => (some session.id, manager)
        | (.error _, manager) => useByName now name sessions manager
      else
        useByName now name sessions manager

def handleConnectSession (handler : RequestHandler) (ambient : Ambient) (name : String)
    (transportConfig : TransportConfig) : DaemonResponse × RequestHandler :=
  match useByName ambient.now name (handler.sessionManager.listSessions ambient.rank)
      handler.sessionManager with
  | (some sessionId, manager) =>
      (.sessionCreated sessionId true, { handler with sessionManager := manager })
  | (none, manager) =>
      { handler with sessionManager := manager }.handleCreateSession ambient name
        transportConfig [] none

def handleDisconnectSession (handler : RequestHandler) (ambient : Ambient)
    (sessionId : SessionId) : DaemonResponse × RequestHandler :=
  let activeClients := AList.erase sessionId handler.activeClients
  match handler.sessionManager.updateSessionStatus ambient.now sessionId .idle with
  | (.ok (), manager) =>
      (.sessionDisconnected, { sessionManager := manager, activeClients := activeClients })
  | (.error e, manager) =>
      (.error .sessionNotFound (YuhaError.session e).toString,
        { sessionManager := manager, activeClients := activeClients })

def summarize (metadata : SessionMetadata) : SessionSummary where
  id := metadata.id
  name := metadata.name
  connectionKey := metadata.connectionKey
  status := metadata.status.debug
  createdAt := metadata.createdAt.debug
  lastUsed := metadata.lastUsed.debug
  useCount := metadata.useCount

def handleListSessions (handler : RequestHandler) (ambient : Ambient) : DaemonResponse :=
  .sessionList ((handler.sessionManager.listSessions ambient.rank).map summarize)

def details (metadata : SessionMetadata) : SessionDetails where
  id := metadata.id
  name := metadata.name
  transportConfig := metadata.transportConfig
  status := metadata.status.debug
  createdAt := metadata.createdAt.debug
  lastUsed := metadata.lastUsed.debug
  useCount := metadata.useCount
  tags := metadata.tags
  description := metadata.description
  activePortForwards := []

def handleGetSessionInfo (handler : RequestHandler) (sessionId : SessionId) :
    DaemonResponse :=
  match handler.sessionManager.getSession sessionId with
  | some metadata => .sessionInfo (details metadata)
  | none => .error .sessionNotFound s!"Session {sessionId.toString} not found"

/-- The source's placeholder for the command on a client. It never fails. -/
def executeCommandOnClient : DaemonCommand → Except YuhaError CommandResult
  | .getClipboard => .ok (.clipboardContent "Clipboard content placeholder")
  | .setClipboard _ => .ok .clipboardSet
  | .openBrowser _ => .ok .browserOpened
  | .startPortForward _ _ _ => .ok .portForwardStarted
  | .stopPortForward _ => .ok .portForwardStopped
  | .portForwardData _ _ => .ok .portForwardDataSent

/-- A failed `use_session` is only logged. -/
def handleExecuteCommand (handler : RequestHandler) (ambient : Ambient)
    (sessionId : SessionId) (command : DaemonCommand) : DaemonResponse × RequestHandler :=
  match handler.activeClients.lookup sessionId with
  | none =>
      (.error .sessionNotFound s!"Session {sessionId.toString} not connected", handler)
  | some _ =>
      let handler := { handler with
        sessionManager := (handler.sessionManager.useSession ambient.now sessionId).2 }
      match executeCommandOnClient command with
      | .ok result => (.commandSuccess result, handler)
      | .error e => (.error .commandFailed e.toString, handler)

def handleRequest (handler : RequestHandler) (ambient : Ambient) :
    DaemonRequest → DaemonResponse × RequestHandler
  | .ping => (.pong, handler)
  | .createSession name transportConfig tags description =>
      handler.handleCreateSession ambient name transportConfig tags description
  | .connectSession name transportConfig =>
      handler.handleConnectSession ambient name transportConfig
  | .disconnectSession sessionId => handler.handleDisconnectSession ambient sessionId
  | .listSessions => (handler.handleListSessions ambient, handler)
  | .getSessionInfo sessionId => (handler.handleGetSessionInfo sessionId, handler)
  | .executeCommand sessionId command =>
      handler.handleExecuteCommand ambient sessionId command
  | .shutdown => (.shuttingDown, handler)

/-- A command is executed exactly for a session with a client. -/
theorem handleExecuteCommand_eq (handler : RequestHandler) (ambient : Ambient)
    (id : SessionId) (command : DaemonCommand) :
    (id ∈ handler.activeClients ∧ ∃ result,
      handler.handleExecuteCommand ambient id command = (.commandSuccess result,
        { handler with
          sessionManager := (handler.sessionManager.useSession ambient.now id).2 }) ∧
      executeCommandOnClient command = .ok result) ∨
    (id ∉ handler.activeClients ∧
      handler.handleExecuteCommand ambient id command =
        (.error .sessionNotFound s!"Session {id.toString} not connected", handler)) := by
  unfold handleExecuteCommand
  cases hlookup : handler.activeClients.lookup id with
  | none => exact Or.inr ⟨AList.lookup_eq_none.mp hlookup, rfl⟩
  | some _ =>
      refine Or.inl ⟨AList.lookup_isSome.mp (by simp [hlookup]), ?_⟩
      cases command <;> exact ⟨_, rfl, rfl⟩

end RequestHandler

/-- The manager configuration that `DaemonServer::new` derives. -/
def DaemonConfig.sessionConfig (config : DaemonConfig) : SessionManagerConfig where
  pool :=
    { enabled := config.enableSessionPooling
      maxSessionsPerConnection := 5
      maxTotalSessions := 50
      minIdleTime := config.sessionIdleTimeout }
  lifecycle := { maxIdleTime := Duration.fromSecs config.sessionIdleTimeout }

/-- The endpoint a request asks a session for. -/
def DaemonRequest.endpoint : DaemonRequest → Option TransportConfig
  | .createSession _ transportConfig _ _ => some transportConfig
  | .connectSession _ transportConfig => some transportConfig
  | _ => none

/-! ## Runs -/

/-- A daemon client is known by the number the server gave it. -/
abbrev ClientId := Nat

inductive DaemonInput
  | request (client : ClientId) (request : DaemonRequest)
  | cleanup
  deriving DecidableEq

structure DaemonEvent where
  input : DaemonInput
  ambient : Ambient

/-- An event at a time in seconds, with its own identifier to issue. -/
def DaemonEvent.atSeconds (secs : Nat) (freshId : BitVec 128) (input : DaemonInput) :
    DaemonEvent where
  input := input
  ambient := { now := Duration.fromSecs secs, freshId := ⟨freshId⟩, rank := fun _ => 0 }

/-- The event is a request to disconnect the session. -/
def DaemonEvent.Disconnects (event : DaemonEvent) (id : SessionId) : Prop :=
  match event.input with
  | .request _ (.disconnectSession sessionId) => sessionId = id
  | _ => False

instance (event : DaemonEvent) (id : SessionId) : Decidable (event.Disconnects id) :=
  match event with
  | ⟨.request _ (.disconnectSession sessionId), _⟩ => inferInstanceAs (Decidable (sessionId = id))
  | ⟨.request _ (.createSession _ _ _ _), _⟩ | ⟨.request _ (.connectSession _ _), _⟩
  | ⟨.request _ .listSessions, _⟩ | ⟨.request _ (.getSessionInfo _), _⟩
  | ⟨.request _ (.executeCommand _ _), _⟩ | ⟨.request _ .ping, _⟩
  | ⟨.request _ .shutdown, _⟩ | ⟨.cleanup, _⟩ => isFalse fun h => h

namespace RequestHandler

def respond (handler : RequestHandler) (event : DaemonEvent) : Option DaemonResponse :=
  match event.input with
  | .request _ request => some (handler.handleRequest event.ambient request).1
  | .cleanup => none

def step (handler : RequestHandler) (event : DaemonEvent) : RequestHandler :=
  match event.input with
  | .request _ request => (handler.handleRequest event.ambient request).2
  | .cleanup => { handler with
      sessionManager :=
        (handler.sessionManager.cleanup event.ambient.now event.ambient.rank).2 }

end RequestHandler

end Yuha
