import Yuha.Core.Session.CallOrder
import Yuha.Daemon.Handler

/-!
# The handler's requests as programs

The daemon serves each client in a task of its own, and the handler holds no lock over a
whole request. Here each request is a program whose actions are the manager's calls, the
handler's own accesses to its table of clients, and the sending of the response, so that
the actions of several clients and of the cleanup can come in any order. Run alone, each
program does what the handler does in one go.
-/

namespace Yuha

open Library Library.Program

/-- What a task of the daemon does in one go. -/
inductive HandlerAction
  | manager (action : ManagerAction)
  | getClient (sessionId : SessionId)
  | insertClient (sessionId : SessionId)
  | removeClient (sessionId : SessionId)
  | send (client : ClientId) (response : DaemonResponse)

abbrev HandlerAction.Answer : HandlerAction → Type
  | .manager action => action.Answer
  | .getClient _ => Option Unit
  | .insertClient _ | .removeClient _ | .send _ _ => Unit

abbrev HandlerProgram (α : Type) := Program HandlerAction HandlerAction.Answer α

/-- The program that takes one action and waits for its answer. -/
abbrev HandlerAction.await (action : HandlerAction) : HandlerProgram action.Answer :=
  perform action

/-- The handler, and the responses sent so far. -/
structure ServingHandler where
  handler : RequestHandler
  sent : List (ClientId × DaemonResponse) := []

namespace ServingHandler

/-- Put a manager in place of the handler's, next to the answer it gave. -/
def withManager {α : Type} (s : ServingHandler) (result : α × SessionManager) :
    α × ServingHandler :=
  (result.1, { s with handler := { s.handler with sessionManager := result.2 } })

/-- Carry out one action. -/
def exec (ambient : Ambient) :
    (action : HandlerAction) → ServingHandler → action.Answer × ServingHandler
  | .manager action, s =>
      s.withManager (SessionManager.exec ambient action s.handler.sessionManager)
  | .getClient sessionId, s => (s.handler.activeClients.lookup sessionId, s)
  | .insertClient sessionId, s =>
      ((), { s with handler := { s.handler with
        activeClients := AList.insert sessionId () s.handler.activeClients } })
  | .removeClient sessionId, s =>
      ((), { s with handler := { s.handler with
        activeClients := AList.erase sessionId s.handler.activeClients } })
  | .send client response, s => ((), { s with sent := s.sent ++ [(client, response)] })

end ServingHandler

/-- A program of the manager, as the handler calls it. -/
def ManagerProgram.lift {α : Type} : ManagerProgram α → HandlerProgram α
  | .done result => .done result
  | .call action next => .call (.manager action) fun answer => lift (next answer)

namespace HandlerProgram

open HandlerAction (await)

variable (config : SessionManagerConfig)

def connectClient (sessionId : SessionId) : HandlerProgram (Except YuhaError Unit) := do
  match ← (ManagerProgram.updateSessionStatus config sessionId .connecting).lift with
  | .error e => return .error (.session e)
  | .ok () =>
      await (.insertClient sessionId)
      match ← (ManagerProgram.updateSessionStatus config sessionId .active).lift with
      | .error e => return .error (.session e)
      | .ok () => return .ok ()

/-- The part of `handle_create_session` after no pooled session was reused. -/
def createAndConnect (name : String) (transportConfig : TransportConfig) (tags : List String)
    (description : Option String) : HandlerProgram DaemonResponse := do
  match ← (ManagerProgram.createSession config name transportConfig tags description).lift with
  | .error e => return .error .maxSessionsReached (YuhaError.session e).toString
  | .ok sessionId =>
      match ← connectClient config sessionId with
      | .error e =>
          let _ ← (ManagerProgram.closeSession config sessionId).lift
          return .error .connectionFailed s!"Failed to establish connection: {e.toString}"
      | .ok () => return .sessionCreated sessionId false

def handleCreateSession (name : String) (transportConfig : TransportConfig)
    (tags : List String) (description : Option String) : HandlerProgram DaemonResponse := do
  match ← await (.manager (.findSession transportConfig.connectionKey)) with
  | some sessionId =>
      match ← (ManagerProgram.useSession config sessionId).lift with
      | .ok () => return .sessionCreated sessionId true
      | .error _ => createAndConnect config name transportConfig tags description
  | none => createAndConnect config name transportConfig tags description

/-- The loop of `handle_connect_session`. -/
def useByName (name : String) : List SessionMetadata → HandlerProgram (Option SessionId)
  | [] => return none
  | session :: sessions =>
      if session.name = name ∧ session.status = .active then do
        match ← (ManagerProgram.useSession config session.id).lift with
        | .ok () => return some session.id
        | .error _ => useByName name sessions
      else
        useByName name sessions

def handleConnectSession (name : String) (transportConfig : TransportConfig) :
    HandlerProgram DaemonResponse := do
  let sessions ← await (.manager .listAll)
  match ← useByName config name sessions with
  | some sessionId => return .sessionCreated sessionId true
  | none => handleCreateSession config name transportConfig [] none

def handleDisconnectSession (sessionId : SessionId) : HandlerProgram DaemonResponse := do
  await (.removeClient sessionId)
  match ← (ManagerProgram.updateSessionStatus config sessionId .idle).lift with
  | .ok () => return .sessionDisconnected
  | .error e => return .error .sessionNotFound (YuhaError.session e).toString

def handleListSessions : HandlerProgram DaemonResponse := do
  let sessions ← await (.manager .listAll)
  return .sessionList (sessions.map RequestHandler.summarize)

def handleGetSessionInfo (sessionId : SessionId) : HandlerProgram DaemonResponse := do
  match ← await (.manager (.get sessionId)) with
  | some metadata => return .sessionInfo (RequestHandler.details metadata)
  | none => return .error .sessionNotFound s!"Session {sessionId.toString} not found"

def handleExecuteCommand (sessionId : SessionId) (command : DaemonCommand) :
    HandlerProgram DaemonResponse := do
  match ← await (.getClient sessionId) with
  | none => return .error .sessionNotFound s!"Session {sessionId.toString} not connected"
  | some _ =>
      let _ ← (ManagerProgram.useSession config sessionId).lift
      match RequestHandler.executeCommandOnClient command with
      | .ok result => return .commandSuccess result
      | .error e => return .error .commandFailed e.toString

def handleRequest : DaemonRequest → HandlerProgram DaemonResponse
  | .ping => return .pong
  | .createSession name transportConfig tags description =>
      handleCreateSession config name transportConfig tags description
  | .connectSession name transportConfig => handleConnectSession config name transportConfig
  | .disconnectSession sessionId => handleDisconnectSession config sessionId
  | .listSessions => handleListSessions
  | .getSessionInfo sessionId => handleGetSessionInfo sessionId
  | .executeCommand sessionId command => handleExecuteCommand config sessionId command
  | .shutdown => return .shuttingDown

end HandlerProgram

/-- A request is handled and answered, or the cleanup runs once. -/
def DaemonInput.program (config : SessionManagerConfig) : DaemonInput → HandlerProgram Unit
  | .request client asked => do
      let response ← HandlerProgram.handleRequest config asked
      HandlerAction.await (.send client response)
  | .cleanup => do
      let _ ← (ManagerProgram.cleanup config).lift
      return ()

/-! ## Running alone -/

namespace ServingHandler

/-- The handler does one event in one go. -/
def step (s : ServingHandler) (event : DaemonEvent) : ServingHandler where
  handler := s.handler.step event
  sent := s.sent ++
    match event.input, s.handler.respond event with
    | .request client _, some response => [(client, response)]
    | _, _ => []

theorem run_lift {α : Type} (ambient : Ambient) (p : ManagerProgram α) (s : ServingHandler) :
    p.lift.run (exec ambient) s =
      s.withManager (p.run (SessionManager.exec ambient) s.handler.sessionManager) := by
  induction p generalizing s with
  | done result => rfl
  | call action next ih =>
      simp only [ManagerProgram.lift, run_call, exec, withManager, ih]

end ServingHandler

namespace HandlerProgram

open ServingHandler (exec)

variable {config : SessionManagerConfig} {handler : RequestHandler}
  {sent : List (ClientId × DaemonResponse)} (ambient : Ambient)

/-- What the handler does in one go, next to the responses that were sent before. -/
abbrev alone {α : Type} (sent : List (ClientId × DaemonResponse)) (result : α × RequestHandler) :
    α × ServingHandler :=
  (result.1, { handler := result.2, sent := sent })

theorem run_connectClient (h : handler.sessionManager.BuiltFrom config) (sessionId : SessionId) :
    (connectClient config sessionId).run (exec ambient) ⟨handler, sent⟩ =
      alone sent (handler.connectClient ambient.now sessionId) := by
  have hbuilt := h.run ambient (ManagerProgram.updateSessionStatus config sessionId .connecting)
  rw [ManagerProgram.run_updateSessionStatus ambient h] at hbuilt
  unfold connectClient RequestHandler.connectClient
  rw [run_bind, ServingHandler.run_lift, ServingHandler.withManager,
    ManagerProgram.run_updateSessionStatus ambient h]
  generalize handler.sessionManager.updateSessionStatus ambient.now sessionId .connecting = result
    at hbuilt
  obtain ⟨_ | _, manager⟩ := result
  · rfl
  · simp only [perform_bind, run_call, run_bind, ServingHandler.exec, ServingHandler.run_lift,
      ServingHandler.withManager, ManagerProgram.run_updateSessionStatus ambient hbuilt]
    rcases manager.updateSessionStatus ambient.now sessionId .active with ⟨_ | _, _⟩ <;> rfl

theorem builtFrom_exec {s : ServingHandler} (h : s.handler.sessionManager.BuiltFrom config)
    (action : HandlerAction) :
    (exec ambient action s).2.handler.sessionManager.BuiltFrom config := by
  cases action with
  | manager action => exact h.exec ambient action
  | getClient | insertClient | removeClient | send => exact h

theorem builtFrom_run {α : Type} {s : ServingHandler}
    (h : s.handler.sessionManager.BuiltFrom config) (p : HandlerProgram α) :
    (p.run (exec ambient) s).2.handler.sessionManager.BuiltFrom config :=
  run_invariant (exec ambient)
    (I := fun after => after.handler.sessionManager.BuiltFrom config)
    (fun action _ hs => builtFrom_exec ambient hs action) p h

theorem run_createAndConnect (h : handler.sessionManager.BuiltFrom config) (name : String)
    (transportConfig : TransportConfig) (tags : List String) (description : Option String) :
    (createAndConnect config name transportConfig tags description).run (exec ambient)
        ⟨handler, sent⟩ =
      alone sent (handler.createAndConnect ambient name transportConfig tags description) := by
  have hbuilt := h.run ambient
    (ManagerProgram.createSession config name transportConfig tags description)
  rw [ManagerProgram.run_createSession ambient h] at hbuilt
  unfold createAndConnect RequestHandler.createAndConnect
  rw [run_bind, ServingHandler.run_lift, ServingHandler.withManager,
    ManagerProgram.run_createSession ambient h]
  generalize handler.sessionManager.createSession ambient.now ambient.freshId name transportConfig
    tags description = result at hbuilt
  obtain ⟨_ | sessionId, manager⟩ := result
  · rfl
  · have hconnected := builtFrom_run (s := ⟨{ handler with sessionManager := manager }, sent⟩)
      ambient hbuilt (connectClient config sessionId)
    dsimp only
    rw [run_bind, run_connectClient ambient hbuilt]
    rw [run_connectClient ambient hbuilt] at hconnected
    generalize { handler with sessionManager := manager }.connectClient ambient.now sessionId =
      connected at hconnected
    obtain ⟨_ | _, after⟩ := connected
    · simp only [run_bind, ServingHandler.run_lift, ServingHandler.withManager,
        ManagerProgram.run_closeSession ambient hconnected]
      rfl
    · rfl

theorem run_handleCreateSession (h : handler.sessionManager.BuiltFrom config) (name : String)
    (transportConfig : TransportConfig) (tags : List String) (description : Option String) :
    (handleCreateSession config name transportConfig tags description).run (exec ambient)
        ⟨handler, sent⟩ =
      alone sent (handler.handleCreateSession ambient name transportConfig tags description) := by
  unfold handleCreateSession RequestHandler.handleCreateSession SessionManager.findReusableSession
  simp only [perform_bind, run_call, ServingHandler.exec, SessionManager.exec,
    ServingHandler.withManager]
  cases handler.sessionManager.pool.findSession ambient.now transportConfig.connectionKey with
  | none => exact run_createAndConnect ambient h name transportConfig tags description
  | some sessionId =>
      have hbuilt := h.run ambient (ManagerProgram.useSession config sessionId)
      rw [ManagerProgram.run_useSession ambient h] at hbuilt
      dsimp only
      rw [run_bind, ServingHandler.run_lift, ServingHandler.withManager,
        ManagerProgram.run_useSession ambient h]
      generalize handler.sessionManager.useSession ambient.now sessionId = result at hbuilt
      obtain ⟨_ | _, manager⟩ := result
      · exact run_createAndConnect ambient hbuilt name transportConfig tags description
      · rfl

variable (handler sent) in
theorem run_useByName {manager : SessionManager} (h : manager.BuiltFrom config) (name : String)
    (sessions : List SessionMetadata) :
    (useByName config name sessions).run (exec ambient)
        ⟨{ handler with sessionManager := manager }, sent⟩ =
      ((RequestHandler.useByName ambient.now name sessions manager).1,
        ⟨{ handler with
          sessionManager := (RequestHandler.useByName ambient.now name sessions manager).2 },
          sent⟩) := by
  induction sessions generalizing manager with
  | nil => rfl
  | cons session sessions ih =>
      unfold useByName RequestHandler.useByName
      by_cases hnamed : session.name = name ∧ session.status = .active
      · have hbuilt := h.run ambient (ManagerProgram.useSession config session.id)
        rw [ManagerProgram.run_useSession ambient h] at hbuilt
        rw [if_pos hnamed, if_pos hnamed, run_bind, ServingHandler.run_lift,
          ServingHandler.withManager, ManagerProgram.run_useSession ambient h]
        generalize manager.useSession ambient.now session.id = result at hbuilt
        obtain ⟨_ | _, used⟩ := result
        · exact ih hbuilt
        · rfl
      · rw [if_neg hnamed, if_neg hnamed]
        exact ih h

theorem builtFrom_useByName {manager : SessionManager} (h : manager.BuiltFrom config)
    (name : String) (sessions : List SessionMetadata) :
    (RequestHandler.useByName ambient.now name sessions manager).2.BuiltFrom config := by
  have hrun := builtFrom_run (s := ⟨{ sessionManager := manager }, []⟩) ambient h
    (useByName config name sessions)
  rwa [run_useByName { sessionManager := manager } [] ambient h] at hrun

theorem run_handleConnectSession (h : handler.sessionManager.BuiltFrom config) (name : String)
    (transportConfig : TransportConfig) :
    (handleConnectSession config name transportConfig).run (exec ambient) ⟨handler, sent⟩ =
      alone sent (handler.handleConnectSession ambient name transportConfig) := by
  have hbuilt := builtFrom_useByName ambient h name
    (handler.sessionManager.listSessions ambient.rank)
  have hused := run_useByName handler sent ambient h name
    (handler.sessionManager.listSessions ambient.rank)
  unfold handleConnectSession RequestHandler.handleConnectSession
  simp only [perform_bind, run_call, run_bind, ServingHandler.exec, SessionManager.exec,
    ServingHandler.withManager]
  simp only [SessionManager.listSessions] at hused hbuilt ⊢
  rw [hused]
  generalize RequestHandler.useByName ambient.now name
    (handler.sessionManager.registry.listAll ambient.rank) handler.sessionManager = result
    at hbuilt
  obtain ⟨_ | sessionId, manager⟩ := result
  · exact run_handleCreateSession ambient hbuilt name transportConfig [] none
  · rfl

theorem run_handleDisconnectSession (h : handler.sessionManager.BuiltFrom config)
    (sessionId : SessionId) :
    (handleDisconnectSession config sessionId).run (exec ambient) ⟨handler, sent⟩ =
      alone sent (handler.handleDisconnectSession ambient sessionId) := by
  unfold handleDisconnectSession RequestHandler.handleDisconnectSession
  simp only [perform_bind, run_call, run_bind, ServingHandler.exec, ServingHandler.run_lift,
    ServingHandler.withManager, ManagerProgram.run_updateSessionStatus ambient h]
  rcases handler.sessionManager.updateSessionStatus ambient.now sessionId .idle with
    ⟨_ | _, _⟩ <;> rfl

theorem run_handleExecuteCommand (h : handler.sessionManager.BuiltFrom config)
    (sessionId : SessionId) (command : DaemonCommand) :
    (handleExecuteCommand config sessionId command).run (exec ambient) ⟨handler, sent⟩ =
      alone sent (handler.handleExecuteCommand ambient sessionId command) := by
  unfold handleExecuteCommand RequestHandler.handleExecuteCommand
  simp only [perform_bind, run_call, ServingHandler.exec]
  cases handler.activeClients.lookup sessionId with
  | none => rfl
  | some _ =>
      simp only [run_bind, ServingHandler.run_lift, ServingHandler.withManager,
        ManagerProgram.run_useSession ambient h]
      cases RequestHandler.executeCommandOnClient command <;> rfl

/-- Run alone, the program of a request answers as the handler does. -/
theorem run_handleRequest (h : handler.sessionManager.BuiltFrom config)
    (request : DaemonRequest) :
    (handleRequest config request).run (exec ambient) ⟨handler, sent⟩ =
      alone sent (handler.handleRequest ambient request) := by
  cases request with
  | ping => rfl
  | createSession name transportConfig tags description =>
      exact run_handleCreateSession ambient h name transportConfig tags description
  | connectSession name transportConfig =>
      exact run_handleConnectSession ambient h name transportConfig
  | disconnectSession sessionId => exact run_handleDisconnectSession ambient h sessionId
  | listSessions => rfl
  | getSessionInfo sessionId =>
      simp only [handleRequest, handleGetSessionInfo, RequestHandler.handleRequest,
        RequestHandler.handleGetSessionInfo, SessionManager.getSession, perform_bind, run_call,
        ServingHandler.exec, SessionManager.exec, ServingHandler.withManager]
      cases handler.sessionManager.registry.get sessionId <;> rfl
  | executeCommand sessionId command => exact run_handleExecuteCommand ambient h sessionId command
  | shutdown => rfl

end HandlerProgram

namespace ServingHandler

variable {config : SessionManagerConfig} {s : ServingHandler}

/-- Run alone, the program of an event does what the handler does in one go. -/
theorem run_program (h : s.handler.sessionManager.BuiltFrom config) (event : DaemonEvent) :
    ((event.input.program config).run (exec event.ambient) s).2 = s.step event := by
  obtain ⟨input, ambient⟩ := event
  obtain ⟨handler, sent⟩ := s
  cases input with
  | request client request =>
      simp [DaemonInput.program, run_bind, HandlerProgram.run_handleRequest ambient h, exec, step,
        RequestHandler.step, RequestHandler.respond, perform]
  | cleanup =>
      simp [DaemonInput.program, run_bind, run_lift, withManager,
        ManagerProgram.run_cleanup ambient h, step, RequestHandler.step]

end ServingHandler

end Yuha
