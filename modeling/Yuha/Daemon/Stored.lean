import Yuha.Core.Session.Coherence
import Yuha.Daemon.Handler

/-!
# The stored transport configurations

A transport configuration is stored when its session is created and is never changed.
So what holds of every configuration that is asked for holds of every stored one,
whatever the identifiers and whatever the order of the requests.
-/

namespace Yuha

open Library

namespace SessionManager

/-- Every registered session has a transport configuration with the property. -/
def Stores (property : TransportConfig → Prop) (manager : SessionManager) : Prop :=
  ∀ id metadata, manager.getSession id = some metadata → property metadata.transportConfig

variable {property : TransportConfig → Prop} {manager : SessionManager} (now : SystemTime)
  (sessionId : SessionId)

theorem Stores.createSession (h : manager.Stores property) (freshId : SessionId) (name : String)
    {transportConfig : TransportConfig} (tags : List String) (description : Option String)
    (hconfig : property transportConfig) :
    (manager.createSession now freshId name transportConfig tags description).2.Stores
      property := by
  cases hcheck : manager.registry.checkRegister
      (.new now freshId name transportConfig tags description) with
  | error e => rwa [createSession_of_error hcheck]
  | ok _ =>
      obtain ⟨_, _, hget⟩ := createSession_of_ok hcheck
      intro id metadata hid
      rw [hget] at hid
      split at hid
      · cases hid
        exact hconfig
      · exact h id metadata hid

theorem Stores.updateSessionStatus (h : manager.Stores property) (status : SessionStatus) :
    (manager.updateSessionStatus now sessionId status).2.Stores property := by
  intro id metadata hid
  rw [getSession_updateSessionStatus] at hid
  split at hid
  · obtain ⟨metadata', hget, rfl⟩ := Option.map_eq_some_iff.mp hid
    exact h id metadata' hget
  · exact h id metadata hid

theorem Stores.useSession (h : manager.Stores property) :
    (manager.useSession now sessionId).2.Stores property := by
  intro id metadata hid
  rw [getSession_useSession] at hid
  split at hid
  · obtain ⟨metadata', hget, rfl⟩ := Option.map_eq_some_iff.mp hid
    have hsame : (usedMetadata metadata' now).transportConfig = metadata'.transportConfig := by
      unfold usedMetadata
      split <;> rfl
    rw [hsame]
    exact h id metadata' hget
  · exact h id metadata hid

theorem Stores.unregister (h : manager.Stores property) {registry : SessionRegistry}
    (hregistry : registry = (manager.registry.unregister sessionId).2) (pool : SessionPool)
    (metrics : Option SessionMetricsCollector) :
    Stores property { manager with registry := registry, pool := pool, metrics := metrics } := by
  subst hregistry
  intro id metadata hid
  have hget := SessionRegistry.get_unregister manager.registry sessionId id
  simp only [getSession, hget] at hid
  split at hid
  · cases hid
  · exact h id metadata hid

theorem Stores.closeSession (h : manager.Stores property) :
    (manager.closeSession now sessionId).2.Stores property := by
  have hclosing := h.updateSessionStatus now sessionId .closing
  unfold SessionManager.closeSession
  generalize manager.updateSessionStatus now sessionId .closing = result at hclosing
  obtain ⟨_ | _, closing⟩ := result
  · exact hclosing
  · dsimp only
    cases hunregister : closing.registry.unregister sessionId with
    | mk removed registry =>
        have hregistry : registry = (closing.registry.unregister sessionId).2 := by
          rw [hunregister]
        cases removed <;> exact hclosing.unregister sessionId hregistry _ _

theorem Stores.cleanup (h : manager.Stores property) (rank : SessionId → Nat) :
    (manager.cleanup now rank).2.Stores property := by
  have hfold : ∀ (sessions : List SessionMetadata) (acc : List SessionId × SessionManager),
      acc.2.Stores property → (sessions.foldl (expireSession now) acc).2.Stores property := by
    intro sessions
    induction sessions with
    | nil => exact fun acc hacc => hacc
    | cons session sessions ih =>
        intro acc hacc
        refine ih _ fun id metadata hid => ?_
        rw [(expireSession_snd now acc session).2.1] at hid
        split at hid
        · cases hid
        · exact hacc id metadata hid
  exact hfold (manager.registry.listAll rank) ([], manager) h

end SessionManager

namespace RequestHandler

open SessionManager

variable {property : TransportConfig → Prop} {handler : RequestHandler} {ambient : Ambient}

theorem stores_connectClient (handler : RequestHandler)
    (h : handler.sessionManager.Stores property) (now : SystemTime)
    (sessionId : SessionId) :
    (handler.connectClient now sessionId).2.sessionManager.Stores property := by
  have hconnecting := h.updateSessionStatus now sessionId .connecting
  unfold connectClient
  generalize handler.sessionManager.updateSessionStatus now sessionId .connecting = result
    at hconnecting
  obtain ⟨_ | _, manager⟩ := result
  · exact hconnecting
  · have hactive := hconnecting.updateSessionStatus now sessionId .active
    dsimp only at hactive ⊢
    generalize manager.updateSessionStatus now sessionId .active = result at hactive
    obtain ⟨_ | _, manager'⟩ := result <;> exact hactive

theorem stores_createAndConnect (handler : RequestHandler)
    (h : handler.sessionManager.Stores property) {name : String}
    {transportConfig : TransportConfig} {tags : List String} {description : Option String}
    (hconfig : property transportConfig) :
    (handler.createAndConnect ambient name transportConfig tags
      description).2.sessionManager.Stores property := by
  have hcreate := h.createSession ambient.now ambient.freshId name tags description hconfig
  unfold createAndConnect
  generalize handler.sessionManager.createSession ambient.now ambient.freshId name
    transportConfig tags description = result at hcreate
  obtain ⟨_ | sessionId, manager⟩ := result
  · exact hcreate
  · have hconnect := stores_connectClient
      { handler with sessionManager := manager } hcreate ambient.now sessionId
    dsimp only at hconnect ⊢
    generalize connectClient _ ambient.now sessionId = result at hconnect
    obtain ⟨_ | _, after⟩ := result
    · exact hconnect.closeSession ambient.now sessionId
    · exact hconnect

theorem stores_handleCreateSession (handler : RequestHandler)
    (h : handler.sessionManager.Stores property) {name : String}
    {transportConfig : TransportConfig} {tags : List String} {description : Option String}
    (hconfig : property transportConfig) :
    (handler.handleCreateSession ambient name transportConfig tags
      description).2.sessionManager.Stores property := by
  unfold handleCreateSession
  split
  · next sessionId _ =>
      have huse := h.useSession ambient.now sessionId
      generalize handler.sessionManager.useSession ambient.now sessionId = result at huse
      obtain ⟨_ | _, manager⟩ := result
      · exact stores_createAndConnect { handler with sessionManager := manager } huse hconfig
      · exact huse
  · exact stores_createAndConnect handler h hconfig

theorem stores_useByName (now : SystemTime) (name : String) (sessions : List SessionMetadata)
    (manager : SessionManager) (h : manager.Stores property) :
    (useByName now name sessions manager).2.Stores property := by
  induction sessions generalizing manager with
  | nil => exact h
  | cons session sessions ih =>
      unfold useByName
      split
      · have huse := h.useSession now session.id
        generalize manager.useSession now session.id = result at huse
        obtain ⟨_ | _, manager'⟩ := result
        · exact ih manager' huse
        · exact huse
      · exact ih manager h

theorem stores_handleConnectSession (h : handler.sessionManager.Stores property)
    {name : String} {transportConfig : TransportConfig} (hconfig : property transportConfig) :
    (handler.handleConnectSession ambient name transportConfig).2.sessionManager.Stores
      property := by
  have huse := stores_useByName ambient.now name
    (handler.sessionManager.listSessions ambient.rank) handler.sessionManager h
  unfold handleConnectSession
  generalize useByName ambient.now name (handler.sessionManager.listSessions ambient.rank)
    handler.sessionManager = result at huse
  obtain ⟨_ | _, manager⟩ := result
  · exact stores_handleCreateSession { handler with sessionManager := manager } huse hconfig
  · exact huse

theorem stores_handleDisconnectSession (h : handler.sessionManager.Stores property)
    (sessionId : SessionId) :
    (handler.handleDisconnectSession ambient sessionId).2.sessionManager.Stores property := by
  have hidle := h.updateSessionStatus ambient.now sessionId .idle
  unfold handleDisconnectSession
  generalize handler.sessionManager.updateSessionStatus ambient.now sessionId .idle = result
    at hidle
  obtain ⟨_ | _, manager⟩ := result <;> exact hidle

/-- A request stores no configuration but the one it asks for. -/
theorem stores_handleRequest (ambient : Ambient)
    (h : handler.sessionManager.Stores property)
    {request : DaemonRequest}
    (hrequest : ∀ transportConfig, request.endpoint = some transportConfig →
      property transportConfig) :
    (handler.handleRequest ambient request).2.sessionManager.Stores property := by
  cases request with
  | ping | listSessions | getSessionInfo _ | shutdown => exact h
  | createSession name transportConfig tags description =>
      exact stores_handleCreateSession handler h (hrequest transportConfig rfl)
  | connectSession name transportConfig =>
      exact stores_handleConnectSession h (hrequest transportConfig rfl)
  | disconnectSession sessionId => exact stores_handleDisconnectSession h sessionId
  | executeCommand sessionId command =>
      simp only [handleRequest]
      rcases handler.handleExecuteCommand_eq ambient sessionId command with
        ⟨_, _, heq, _⟩ | ⟨_, heq⟩
      · rw [heq]
        exact h.useSession ambient.now sessionId
      · rw [heq]
        exact h

end RequestHandler

end Yuha
