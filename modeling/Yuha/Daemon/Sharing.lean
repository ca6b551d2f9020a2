import Yuha.Daemon.Simulation

/-!
# Clients that share a session

Two runs are compared that differ in one request: a client disconnects from a session
that another client was handed as well. The answers to the other client's commands stay
the same only if the session had no client in the first place, or loses it by another
disconnection before the other client asks.
-/

namespace Yuha

open Library Execution

/-- The event is this client's command for the session. -/
def DaemonEvent.Executes (event : DaemonEvent) (client : ClientId) (id : SessionId) : Prop :=
  match event.input with
  | .request client' (.executeCommand sessionId _) => client' = client ∧ sessionId = id
  | _ => False

instance (event : DaemonEvent) (client : ClientId) (id : SessionId) :
    Decidable (event.Executes client id) :=
  match event with
  | ⟨.request client' (.executeCommand sessionId _), _⟩ =>
      inferInstanceAs (Decidable (client' = client ∧ sessionId = id))
  | ⟨.request _ (.createSession _ _ _ _), _⟩ | ⟨.request _ (.connectSession _ _), _⟩
  | ⟨.request _ (.disconnectSession _), _⟩ | ⟨.request _ .listSessions, _⟩
  | ⟨.request _ (.getSessionInfo _), _⟩ | ⟨.request _ .ping, _⟩
  | ⟨.request _ .shutdown, _⟩ | ⟨.cleanup, _⟩ => isFalse fun h => h

theorem DaemonEvent.exists_of_executes {event : DaemonEvent} {client : ClientId}
    {id : SessionId} (h : event.Executes client id) :
    ∃ command, event.input = .request client (.executeCommand id command) := by
  unfold Executes at h
  split at h
  · next command hinput =>
      obtain ⟨rfl, rfl⟩ := h
      exact ⟨command, hinput⟩
  · cases h

namespace RequestHandler

/-- The answers to a client's commands for a session. -/
def executeAnswers (client : ClientId) (id : SessionId) :
    RequestHandler → List DaemonEvent → List (Option DaemonResponse)
  | _, [] => []
  | handler, event :: events =>
      if event.Executes client id then
        handler.respond event :: executeAnswers client id (handler.step event) events
      else
        executeAnswers client id (handler.step event) events

/-- The client was answered `SessionCreated` for the session. -/
def Answered (start : RequestHandler) (events : List DaemonEvent) (client : ClientId)
    (id : SessionId) : Prop :=
  ∃ past event request reused, past ++ [event] <+: events ∧
    event.input = .request client request ∧
    (run step start past).respond event = some (.sessionCreated id reused)

/-- Two clients were handed one session, and the second does not give it back. -/
structure SharedBy (start : RequestHandler) (before rest : List DaemonEvent)
    (first second : ClientId) (id : SessionId) : Prop where
  differ : first ≠ second
  answered_first : Answered start before first id
  answered_second : Answered start before second id
  keeps : ∀ event ∈ before ++ rest, event.input ≠ .request second (.disconnectSession id)

theorem Consistent.mono {issued issued' : List SessionId} {handler : RequestHandler}
    (h : handler.Consistent issued) (hsub : issued ⊆ issued') :
    handler.Consistent issued' where
  coherent := h.coherent
  parked := h.parked
  sessions_issued id hid := hsub (h.sessions_issued id hid)
  clients_issued id hid := hsub (h.clients_issued id hid)

theorem mem_issuedIds_of_answered {config : SessionManagerConfig}
    {events : List DaemonEvent} {client : ClientId} {id : SessionId}
    (hfresh : (issuedIds events).Nodup) (h : Answered (new (.new config)) events client id) :
    id ∈ issuedIds events := by
  obtain ⟨past, event, request, reused, hp, _, hrespond⟩ := h
  have hpast : past <+: events := (List.prefix_append past [event]).trans hp
  have hconsistent := consistent_run_new config hfresh hpast
  have hnew := along_fresh (new (.new config)) hfresh past event hp
  have hold : ∀ metadata, (run step (new (.new config)) past).sessionManager.getSession id =
      some metadata → id ∈ issuedIds events := by
    intro metadata hget
    exact (issuedIds_sublist hpast).subset
      (hconsistent.sessions_issued id (registered_iff.mpr ⟨metadata, hget⟩))
  obtain ⟨_, _, transportConfig, _, _, hcase⟩ := sessionCreated_cases hconsistent hnew hrespond
  rcases hcase with ⟨_, hfind⟩ | ⟨name, hmove⟩ | ⟨name, session, _, hname, rfl, _⟩
  · obtain ⟨metadata, hget, _⟩ := found_of_coherent hconsistent.coherent hfind
    exact hold metadata hget
  · rw [move_eq_create hmove]
    exact (issuedIds_sublist hp).subset (by simp)
  · obtain ⟨hget, _⟩ := activeByName_spec hconsistent.coherent hname
    exact hold session hget

theorem respond_of_connected {handler : RequestHandler} {event : DaemonEvent}
    {client : ClientId} {id : SessionId} (hexecutes : event.Executes client id)
    (hid : id ∈ handler.table.connected) :
    ∃ result, handler.respond event = some (.commandSuccess result) := by
  obtain ⟨command, hinput⟩ := DaemonEvent.exists_of_executes hexecutes
  rcases handler.handleExecuteCommand_eq event.ambient id command with
    ⟨_, result, heq, _⟩ | ⟨hnot, _⟩
  · exact ⟨result, by simp [respond, hinput, handleRequest, heq]⟩
  · exact absurd hid hnot

/-- The one error a command for a session without client is answered with. -/
theorem respond_of_not_connected {handler : RequestHandler} {event : DaemonEvent}
    {client : ClientId} {id : SessionId} (hexecutes : event.Executes client id)
    (hid : id ∉ handler.table.connected) :
    handler.respond event =
      some (.error .sessionNotFound s!"Session {id.toString} not connected") := by
  obtain ⟨command, hinput⟩ := DaemonEvent.exists_of_executes hexecutes
  rcases handler.handleExecuteCommand_eq event.ambient id command with
    ⟨hclient, _⟩ | ⟨_, heq⟩
  · exact absurd hclient hid
  · simp [respond, hinput, handleRequest, heq]

/-- Every command of the client for the session comes after a disconnection of it. -/
def CommandsFollowDisconnect (client : ClientId) (id : SessionId)
    (events : List DaemonEvent) : Prop :=
  ∀ past event, past ++ [event] <+: events → event.Executes client id →
    ∃ earlier ∈ past, earlier.Disconnects id

theorem commandsFollowDisconnect_cons {client : ClientId} {id : SessionId}
    {event : DaemonEvent} {events : List DaemonEvent} :
    CommandsFollowDisconnect client id (event :: events) ↔
      ¬ event.Executes client id ∧
        (event.Disconnects id ∨ CommandsFollowDisconnect client id events) := by
  constructor
  · intro h
    refine ⟨fun hexecutes => ?_, ?_⟩
    · obtain ⟨_, hmem, _⟩ := h [] event (by simp) hexecutes
      cases hmem
    · by_cases hdisconnects : event.Disconnects id
      · exact Or.inl hdisconnects
      · refine Or.inr fun past later hp hexecutes => ?_
        obtain ⟨earlier, hmem, hearlier⟩ := h (event :: past) later (by simpa using hp) hexecutes
        rcases List.mem_cons.mp hmem with rfl | hmem
        · exact absurd hearlier hdisconnects
        · exact ⟨earlier, hmem, hearlier⟩
  · rintro ⟨hfirst, hmore⟩ past later hp hexecutes
    cases past with
    | nil =>
        obtain ⟨rfl, _⟩ := List.cons_prefix_cons.mp hp
        exact absurd hexecutes hfirst
    | cons event' past =>
        obtain ⟨rfl, htail⟩ := List.cons_prefix_cons.mp hp
        rcases hmore with hdisconnects | hmore
        · exact ⟨event', List.mem_cons_self, hdisconnects⟩
        · obtain ⟨earlier, hmem, hearlier⟩ := hmore past later htail hexecutes
          exact ⟨earlier, List.mem_cons_of_mem _ hmem, hearlier⟩

/-- Against a handler that has no client for the session. -/
theorem executeAnswers_eq_iff {issued : List SessionId} {handler other : RequestHandler}
    (h : handler.Consistent issued) (hother : other.Consistent issued) {client : ClientId}
    {id : SessionId} (hid : id ∈ issued) (hlost : id ∉ other.table.connected)
    (events : List DaemonEvent) (hfresh : (issued ++ issuedIds events).Nodup) :
    executeAnswers client id handler events = executeAnswers client id other events ↔
      id ∉ handler.table.connected ∨ CommandsFollowDisconnect client id events := by
  induction events generalizing handler other issued with
  | nil =>
      have : CommandsFollowDisconnect client id [] := by
        intro past event hp
        simp at hp
      simp [executeAnswers, this]
  | cons event events ih =>
      obtain ⟨hnew, hmore⟩ := fresh_of_nodup hfresh
      have hstep := mem_connected_step h hid hnew
      have hlost' : id ∉ (other.step event).table.connected := by
        rw [mem_connected_step hother hid hnew]
        exact fun hboth => hlost hboth.1
      have hrest := ih (h.step event hnew) (hother.step event hnew)
        (List.mem_append_left _ hid) hlost' hmore
      rw [hstep] at hrest
      rw [commandsFollowDisconnect_cons]
      by_cases hexecutes : event.Executes client id
      · rw [executeAnswers, executeAnswers, if_pos hexecutes, if_pos hexecutes,
          List.cons_eq_cons, respond_of_not_connected hexecutes hlost]
        by_cases hconnected : id ∈ handler.table.connected
        · obtain ⟨result, hrespond⟩ := respond_of_connected hexecutes hconnected
          simp [hrespond, hconnected, hexecutes]
        · rw [respond_of_not_connected hexecutes hconnected, hrest]
          simp [hconnected]
      · rw [executeAnswers, executeAnswers, if_neg hexecutes, if_neg hexecutes, hrest]
        by_cases hdisconnects : event.Disconnects id <;> simp [hexecutes, hdisconnects]

/-- What the second client is answered does not depend on the disconnection by the first
exactly if the session has no client when it arrives, or if every later command of the
second client comes after a further disconnection. -/
theorem executeAnswers_disconnect_iff (config : SessionManagerConfig)
    (before rest : List DaemonEvent) (disconnect : DaemonEvent) (first second : ClientId)
    (id : SessionId) (hfresh : (issuedIds (before ++ disconnect :: rest)).Nodup)
    (hshared : SharedBy (new (.new config)) before rest first second id)
    (hdisconnect : disconnect.input = .request first (.disconnectSession id)) :
    executeAnswers second id (run step (new (.new config)) (before ++ [disconnect])) rest =
        executeAnswers second id (run step (new (.new config)) before) rest ↔
      id ∉ (run step (new (.new config)) before).activeClients ∨
        CommandsFollowDisconnect second id rest := by
  have hbefore : before <+: before ++ disconnect :: rest := List.prefix_append _ _
  have hafter : before ++ [disconnect] <+: before ++ disconnect :: rest := by simp
  have hissued := mem_issuedIds_of_answered ((issuedIds_sublist hbefore).nodup hfresh)
    hshared.answered_second
  have hsub : issuedIds before ⊆ issuedIds (before ++ [disconnect]) := by simp
  have hconsistent := consistent_run_new config hfresh hbefore
  have hlost : id ∉ (run step (new (.new config)) (before ++ [disconnect])).table.connected := by
    rw [run_append, run_cons, run_nil, mem_connected_step hconsistent hissued
      (along_fresh (new (.new config)) hfresh before disconnect hafter)]
    simp [DaemonEvent.Disconnects, hdisconnect]
  rw [eq_comm]
  exact executeAnswers_eq_iff (hconsistent.mono hsub) (consistent_run_new config hfresh hafter)
    (hsub hissued) hlost rest (by simpa using hfresh)

/-! ## Two clients of one session -/

/-- Client 1 creates a session, and client 2 connects to it by its name. -/
def sharedEvents : List DaemonEvent :=
  [.atSeconds 0 1 (.request 1 (.createSession "build" {} [] none)),
    .atSeconds 1 2 (.request 2 (.connectSession "build" {}))]

def firstDisconnects : DaemonEvent :=
  .atSeconds 2 3 (.request 1 (.disconnectSession ⟨1⟩))

def secondExecutes : DaemonEvent :=
  .atSeconds 4 5 (.request 2 (.executeCommand ⟨1⟩ .getClipboard))

theorem sharedBy_sharedEvents (rest : List DaemonEvent)
    (hkeeps : ∀ event ∈ rest, event.input ≠ .request 2 (.disconnectSession ⟨1⟩)) :
    SharedBy (new (.new (DaemonConfig.sessionConfig {}))) sharedEvents rest 1 2 ⟨1⟩ where
  differ := by decide
  answered_first := ⟨[], sharedEvents[0], _, false, ⟨sharedEvents.tail, rfl⟩, rfl, by decide⟩
  answered_second :=
    ⟨sharedEvents.take 1, sharedEvents[1], _, true, List.prefix_refl _, rfl, by decide⟩
  keeps event hmem := by
    rcases List.mem_append.mp hmem with hbefore | hrest
    · exact (by decide : ∀ event ∈ sharedEvents,
        event.input ≠ .request 2 (.disconnectSession ⟨1⟩)) event hbefore
    · exact hkeeps event hrest

/-- A third client disconnects as well, before client 2 asks. -/
theorem executeAnswers_disconnect_iff_third :
    executeAnswers 2 ⟨1⟩ (run step (new (.new (DaemonConfig.sessionConfig {})))
        (sharedEvents ++ [firstDisconnects]))
        [.atSeconds 3 4 (.request 3 (.disconnectSession ⟨1⟩)), secondExecutes] =
      executeAnswers 2 ⟨1⟩ (run step (new (.new (DaemonConfig.sessionConfig {}))) sharedEvents)
        [.atSeconds 3 4 (.request 3 (.disconnectSession ⟨1⟩)), secondExecutes] := by
  refine (executeAnswers_disconnect_iff _ sharedEvents _ firstDisconnects 1 2 ⟨1⟩ (by decide)
    (sharedBy_sharedEvents _ (by decide)) rfl).mpr (Or.inr ?_)
  exact commandsFollowDisconnect_cons.mpr ⟨by decide, Or.inl (by decide)⟩

/-- Without the disconnection by client 1 the command of client 2 succeeds, with it the
command is answered `SessionNotFound`. -/
theorem executeAnswers_disconnect_false :
    (issuedIds (sharedEvents ++ firstDisconnects :: [secondExecutes])).Nodup ∧
      SharedBy (new (.new (DaemonConfig.sessionConfig {}))) sharedEvents [secondExecutes]
        1 2 ⟨1⟩ ∧
      executeAnswers 2 ⟨1⟩ (run step (new (.new (DaemonConfig.sessionConfig {})))
          (sharedEvents ++ [firstDisconnects])) [secondExecutes] ≠
        executeAnswers 2 ⟨1⟩ (run step (new (.new (DaemonConfig.sessionConfig {})))
          sharedEvents) [secondExecutes] :=
  ⟨by decide, sharedBy_sharedEvents _ (by decide), by decide⟩

end RequestHandler

end Yuha
