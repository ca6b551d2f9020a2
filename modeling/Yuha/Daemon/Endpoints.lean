import Yuha.Daemon.Simulation

/-!
# The endpoint of a session that is handed out

A session of the pool and a new session go to the endpoint that was asked for. A session
that is found by its name goes wherever it was created for.
-/

namespace Yuha

open Library Execution

namespace RequestHandler

/-- If the answer is `SessionCreated`, the session is then registered with a transport
configuration of the same connection key as the requested one. -/
def HandsOutEndpoint (handler : RequestHandler) (event : DaemonEvent) : Prop :=
  ∀ client request transportConfig id reused, event.input = .request client request →
    request.endpoint = some transportConfig →
    handler.respond event = some (.sessionCreated id reused) →
    ∃ metadata, (handler.step event).sessionManager.getSession id = some metadata ∧
      metadata.connectionKey = transportConfig.connectionKey

/-- If the event is a connect request and some active session has its name, then the
first one listed has the requested connection key. -/
def NamesEndpoint (handler : RequestHandler) (event : DaemonEvent) : Prop :=
  ∀ client name transportConfig session,
    event.input = .request client (.connectSession name transportConfig) →
    handler.activeByName event.ambient name = some session →
    session.connectionKey = transportConfig.connectionKey

theorem connectionKey_of_entry {handler : RequestHandler} {id : SessionId}
    {description : SessionDescription} {status : SessionStatus}
    (h : handler.table.entry id = some (description, status)) :
    ∃ metadata, handler.sessionManager.getSession id = some metadata ∧
      metadata.connectionKey = description.2.connectionKey := by
  obtain ⟨metadata, hget, heq⟩ := Option.map_eq_some_iff.mp h
  refine ⟨metadata, hget, ?_⟩
  have hdescription : (metadata.name, metadata.transportConfig) = description :=
    congrArg Prod.fst heq
  rw [← hdescription]
  rfl

theorem entry_of_getSession {handler : RequestHandler} {id : SessionId}
    {metadata : SessionMetadata} (h : handler.sessionManager.getSession id = some metadata) :
    handler.table.entry id =
      some ((metadata.name, metadata.transportConfig), metadata.status) := by
  simp [table, h, SessionMetadata.entry]

/-- A session that is handed out because of its name is handed out as it is. -/
theorem connectionKey_of_activeByName {issued : List SessionId} {handler : RequestHandler}
    (h : handler.Consistent issued) {event : DaemonEvent} (hfresh : event.ambient.freshId ∉ issued)
    {name : String} {session : SessionMetadata}
    (hname : handler.activeByName event.ambient name = some session)
    (hstay : handler.move event = .stay) :
    ∃ metadata, (handler.step event).sessionManager.getSession session.id = some metadata ∧
      metadata.connectionKey = session.connectionKey := by
  obtain ⟨hget, _⟩ := activeByName_spec h.coherent hname
  have hentry : (handler.step event).table.entry session.id =
      handler.table.entry session.id := by
    rw [(step_spec h event hfresh).2, hstay]
    rfl
  exact connectionKey_of_entry (hentry.trans (entry_of_getSession hget))

theorem namesEndpoint_of_handsOutEndpoint {issued : List SessionId} {handler : RequestHandler}
    (h : handler.Consistent issued) {event : DaemonEvent} (hfresh : event.ambient.freshId ∉ issued)
    (hhands : handler.HandsOutEndpoint event) : handler.NamesEndpoint event := by
  intro client name transportConfig session hinput hname
  have hrespond : handler.respond event = some (.sessionCreated session.id true) := by
    simp [respond, hinput, handleRequest, handleConnectSession_eq _ _ h.coherent, hname]
  have hstay : handler.move event = .stay := by simp [move, hinput, hname]
  obtain ⟨metadata, hget, hkey⟩ := connectionKey_of_activeByName h hfresh hname hstay
  obtain ⟨metadata', hget', hkey'⟩ :=
    hhands client _ transportConfig session.id true hinput rfl hrespond
  obtain rfl : metadata = metadata' := Option.some.inj (hget.symm.trans hget')
  exact hkey.symm.trans hkey'

theorem handsOutEndpoint_of_namesEndpoint {issued : List SessionId} {handler : RequestHandler}
    (h : handler.Consistent issued) {event : DaemonEvent} (hfresh : event.ambient.freshId ∉ issued)
    (hnames : handler.NamesEndpoint event) : handler.HandsOutEndpoint event := by
  intro client request transportConfig id reused hinput hendpoint hrespond
  obtain ⟨client', request', transportConfig', hinput', hendpoint', hcase⟩ :=
    sessionCreated_cases h hfresh hrespond
  obtain ⟨rfl, rfl⟩ : client = client' ∧ request = request' := by
    simpa [hinput] using hinput'
  obtain rfl : transportConfig = transportConfig' :=
    Option.some.inj (hendpoint.symm.trans hendpoint')
  have htable := (step_spec h event hfresh).2
  rcases hcase with ⟨hmove, hfind⟩ | ⟨name, hmove⟩ | ⟨name, session, rfl, hname, rfl, hmove⟩
  · -- From the pool: pooled sessions are pooled under their own key.
    obtain ⟨metadata, hget, _, hkey⟩ := found_of_coherent h.coherent hfind
    have hentry : (handler.step event).table.entry id =
        some ((metadata.name, metadata.transportConfig), .active) := by
      rw [htable, hmove]
      exact SessionMove.setStatus_eq_some.mpr (Or.inl ⟨rfl, rfl, _, entry_of_getSession hget⟩)
    obtain ⟨metadata', hafter, hkey'⟩ := connectionKey_of_entry hentry
    exact ⟨metadata', hafter, hkey'.trans hkey⟩
  · have hentry : (handler.step event).table.entry id =
        some ((name, transportConfig), .active) := by
      rw [htable, hmove]
      simp [SessionMove.apply]
    exact connectionKey_of_entry hentry
  · obtain ⟨metadata', hafter, hkey'⟩ := connectionKey_of_activeByName h hfresh hname hmove
    exact ⟨metadata', hafter,
      hkey'.trans (hnames client name transportConfig session hinput hname)⟩

/-- In every state that a fresh handler reaches, a request hands out a session of the
requested endpoint if and only if a session it finds by name has that endpoint. -/
theorem handsOutEndpoint_iff_namesEndpoint (config : SessionManagerConfig)
    (events : List DaemonEvent) (event : DaemonEvent)
    (hfresh : (issuedIds (events ++ [event])).Nodup) :
    (run step (new (.new config)) events).HandsOutEndpoint event ↔
      (run step (new (.new config)) events).NamesEndpoint event := by
  have hconsistent := consistent_run_new config hfresh (List.prefix_append events [event])
  have hnew := along_fresh (new (.new config)) hfresh events event (List.prefix_refl _)
  constructor
  · exact namesEndpoint_of_handsOutEndpoint hconsistent hnew
  · exact handsOutEndpoint_of_namesEndpoint hconsistent hnew

/-! ## Two requests -/

/-- The configuration of a local session that runs some binary. -/
def localConfig (binary : String) : TransportConfig :=
  { «local» := some { binaryPath := .fromStr binary } }

/-- One client connects to the session named `local`. -/
def localEvents : List DaemonEvent :=
  [.atSeconds 0 1 (.request 1 (.connectSession "local" (localConfig "yuha-remote")))]

theorem handsOutEndpoint_iff_namesEndpoint_same :
    (run step (new (.new (DaemonConfig.sessionConfig {}))) localEvents).HandsOutEndpoint
      (.atSeconds 1 2 (.request 2 (.connectSession "local" (localConfig "yuha-remote")))) := by
  apply (handsOutEndpoint_iff_namesEndpoint _ localEvents _ (by decide)).mpr
  rintro client name transportConfig session ⟨⟩ hname
  have hkey : ((run step (new (.new (DaemonConfig.sessionConfig {})))
      localEvents).activeByName { now := Duration.fromSecs 1, freshId := ⟨2⟩, rank := fun _ => 0 }
        "local").map (·.connectionKey) = some (localConfig "yuha-remote").connectionKey := by
    decide
  have hsession := congrArg (Option.map SessionMetadata.connectionKey) hname
  exact Option.some.inj (hsession.symm.trans hkey)

/-- Another client connects to `local` with a different binary and is handed the session
of the first. -/
theorem handsOutEndpoint_other_binary_false :
    (issuedIds (localEvents ++
      [.atSeconds 1 2 (.request 2 (.connectSession "local" (localConfig "other"))) ])).Nodup ∧
    ¬ (run step (new (.new (DaemonConfig.sessionConfig {}))) localEvents).HandsOutEndpoint
      (.atSeconds 1 2 (.request 2 (.connectSession "local" (localConfig "other")))) := by
  refine ⟨by decide, fun h => ?_⟩
  obtain ⟨metadata, hget, hkey⟩ := h 2 _ (localConfig "other") ⟨1⟩ true rfl rfl (by decide)
  have hactual : ((step (run step (new (.new (DaemonConfig.sessionConfig {}))) localEvents)
      (.atSeconds 1 2 (.request 2 (.connectSession "local"
        (localConfig "other"))))).sessionManager.getSession ⟨1⟩).map (·.connectionKey) =
      some "local://yuha-remote" := by decide
  rw [hget, Option.map_some, hkey] at hactual
  exact absurd hactual (by decide)

end RequestHandler

end Yuha
