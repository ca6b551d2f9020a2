import Yuha.Daemon.Simulation

/-!
# Active sessions and their clients

The status of a session lives in the manager and its client in the handler. Only the
reuse of a pooled session makes a session active without inserting a client, so a run
keeps every active session connected exactly as long as it reuses none.
-/

namespace Yuha

open Library Execution

namespace RequestHandler

/-- Every registered session that is active has an entry in `active_clients`. -/
def ActiveConnected (handler : RequestHandler) : Prop :=
  ∀ id metadata, handler.sessionManager.getSession id = some metadata →
    metadata.status = .active → id ∈ handler.activeClients

theorem activeConnected_iff_backed {handler : RequestHandler} :
    handler.ActiveConnected ↔ handler.table.Backed := by
  constructor
  · intro h id description hentry
    obtain ⟨metadata, hget, heq⟩ := Option.map_eq_some_iff.mp hentry
    exact h id metadata hget (congrArg Prod.snd heq)
  · intro h id metadata hget hactive
    apply h id (metadata.name, metadata.transportConfig)
    simp [table, hget, SessionMetadata.entry, hactive]

/-- The event asks for a session that the pool can offer: a create request, or a connect
request whose name no active session has, finds a reusable session under its key. -/
def ReusesPooled (handler : RequestHandler) (event : DaemonEvent) : Prop :=
  match event.input with
  | .request _ (.createSession _ transportConfig _ _) =>
      (handler.sessionManager.findReusableSession event.ambient.now
        transportConfig.connectionKey).isSome
  | .request _ (.connectSession name transportConfig) =>
      handler.activeByName event.ambient name = none ∧
        (handler.sessionManager.findReusableSession event.ambient.now
          transportConfig.connectionKey).isSome
  | _ => False

instance (handler : RequestHandler) (event : DaemonEvent) :
    Decidable (handler.ReusesPooled event) :=
  match event with
  | ⟨.request _ (.createSession _ transportConfig _ _), ambient⟩ =>
      inferInstanceAs (Decidable ((handler.sessionManager.findReusableSession ambient.now
        transportConfig.connectionKey).isSome = true))
  | ⟨.request _ (.connectSession name transportConfig), ambient⟩ =>
      inferInstanceAs (Decidable (handler.activeByName ambient name = none ∧
        (handler.sessionManager.findReusableSession ambient.now
          transportConfig.connectionKey).isSome = true))
  | ⟨.request _ (.disconnectSession _), _⟩ | ⟨.request _ .listSessions, _⟩
  | ⟨.request _ (.getSessionInfo _), _⟩ | ⟨.request _ (.executeCommand _ _), _⟩
  | ⟨.request _ .ping, _⟩ | ⟨.request _ .shutdown, _⟩ | ⟨.cleanup, _⟩ => isFalse fun h => h

theorem reusesPooled_iff {handler : RequestHandler} {event : DaemonEvent} :
    handler.ReusesPooled event ↔ ∃ id, handler.move event = .reuse id := by
  obtain ⟨input, ambient⟩ := event
  cases input with
  | cleanup => simp [ReusesPooled, move]
  | request client request =>
      cases request with
      | createSession name transportConfig tags description =>
          simp [ReusesPooled, move, createMove_eq_reuse_iff, Option.isSome_iff_exists]
      | connectSession name transportConfig =>
          cases hname : handler.activeByName ambient name <;>
            simp [ReusesPooled, move, hname, createMove_eq_reuse_iff, Option.isSome_iff_exists]
      | ping | disconnectSession _ | listSessions | getSessionInfo _ | executeCommand _ _
      | shutdown => simp [ReusesPooled, move]

/-- What is reused is registered and has no client. -/
theorem not_connected_of_reuse {issued : List SessionId} {handler : RequestHandler}
    (h : handler.Consistent issued) {event : DaemonEvent} {id : SessionId}
    (hmove : handler.move event = .reuse id) :
    handler.table.Registered id ∧ id ∉ handler.table.connected := by
  obtain ⟨now, key, hfind⟩ := move_eq_reuse hmove
  obtain ⟨metadata, hget, hidle, _⟩ := found_of_coherent h.coherent hfind
  refine ⟨registered_iff.mpr ⟨metadata, hget⟩, ?_⟩
  apply h.parked id (metadata.name, metadata.transportConfig)
  simp [table, hget, SessionMetadata.entry, hidle]

/-- The event takes the session away: it is disconnected, or due to expire in a cleanup. -/
def Ends (handler : RequestHandler) (id : SessionId) (event : DaemonEvent) : Prop :=
  event.Disconnects id ∨
    event.input = .cleanup ∧ handler.sessionManager.Expires event.ambient.now id

/-- After the answer `SessionCreated { session_id }`, commands for that session are not
answered `SessionNotFound`, unless it was disconnected or expired in between. -/
def CreatedIsServed (start : RequestHandler) (events : List DaemonEvent) : Prop :=
  ∀ past created between last id reused client command,
    past ++ created :: (between ++ [last]) <+: events →
    (run step start past).respond created = some (.sessionCreated id reused) →
    Along step (fun _ handler event => ¬ handler.Ends id event)
      (run step start (past ++ [created])) between →
    last.input = .request client (.executeCommand id command) →
    ∀ message, (run step start (past ++ created :: between)).respond last ≠
      some (.error .sessionNotFound message)

/-- The session of a `SessionCreated` answer has a client afterwards, unless it was
reused from the pool. -/
theorem connected_of_sessionCreated {issued : List SessionId} {handler : RequestHandler}
    (h : handler.Consistent issued) (hactive : handler.ActiveConnected) {event : DaemonEvent}
    (hfresh : event.ambient.freshId ∉ issued) {id : SessionId} {reused : Bool}
    (hcreated : handler.respond event = some (.sessionCreated id reused))
    (hreuse : ¬ handler.ReusesPooled event) : id ∈ (handler.step event).table.connected := by
  rw [(step_spec h event hfresh).2, SessionMove.mem_connected_apply]
  obtain ⟨_, _, transportConfig, _, _, hcase⟩ := sessionCreated_cases h hfresh hcreated
  rcases hcase with ⟨hmove, _⟩ | ⟨name, hmove⟩ | ⟨name, session, _, hname, rfl, hmove⟩
  · exact absurd (reusesPooled_iff.mpr ⟨id, hmove⟩) hreuse
  · exact Or.inr ⟨_, hmove⟩
  · obtain ⟨hget, _, hstatus⟩ := activeByName_spec h.coherent hname
    exact Or.inl ⟨hactive _ _ hget hstatus, by simp [hmove]⟩

theorem respond_executeCommand {handler : RequestHandler} {event : DaemonEvent}
    {client : ClientId} {id : SessionId} {command : DaemonCommand}
    (hinput : event.input = .request client (.executeCommand id command))
    (hid : id ∈ handler.table.connected) (message : String) :
    handler.respond event ≠ some (.error .sessionNotFound message) := by
  rcases handler.handleExecuteCommand_eq event.ambient id command with
    ⟨_, _, heq, _⟩ | ⟨hnot, _⟩
  · simp [respond, hinput, handleRequest, heq]
  · exact absurd hid hnot

theorem activeConnected_step_iff {issued : List SessionId} {handler : RequestHandler}
    (h : handler.Consistent issued) (hactive : handler.ActiveConnected) {event : DaemonEvent}
    (hfresh : event.ambient.freshId ∉ issued) :
    (handler.step event).ActiveConnected ↔ ¬ handler.ReusesPooled event := by
  rw [activeConnected_iff_backed, (step_spec h event hfresh).2, reusesPooled_iff]
  constructor
  · rintro hbacked ⟨id, hmove⟩
    obtain ⟨hregistered, hconnected⟩ := not_connected_of_reuse h hmove
    rw [hmove] at hbacked
    exact SessionMove.not_backed_apply_reuse hregistered hconnected hbacked
  · intro hreuse
    exact SessionMove.backed_apply (activeConnected_iff_backed.mp hactive)
      fun id hmove => hreuse ⟨id, hmove⟩

theorem always_activeConnected_iff (config : SessionManagerConfig)
    {events : List DaemonEvent} (hfresh : (issuedIds events).Nodup) :
    Always step ActiveConnected (new (.new config)) events ↔
      Along step (fun _ handler event => ¬ handler.ReusesPooled event)
        (new (.new config)) events := by
  apply always_iff_along_of_step_iff config hfresh
  · intro id metadata hget
    simp [new, SessionManager.new, SessionManager.getSession] at hget
  · intro issued handler event hconsistent hactive hnew
    exact activeConnected_step_iff hconsistent hactive hnew

/-- A session that was answered as created keeps its client until it is disconnected. -/
theorem createdIsServed_of_reuses_none (config : SessionManagerConfig)
    {events : List DaemonEvent} (hfresh : (issuedIds events).Nodup)
    (hguard : Along step (fun _ handler event => ¬ handler.ReusesPooled event)
      (new (.new config)) events) : CreatedIsServed (new (.new config)) events := by
  intro past created between last id reused client command hp hcreated hkept hlast message
  have hcreatedAt : past ++ [created] <+: events :=
    (List.prefix_append_right_inj past).mpr (by simp) |>.trans hp
  have hpast : past <+: events := (List.prefix_append past [created]).trans hcreatedAt
  have hnodup : (issuedIds (past ++ [created]) ++ issuedIds between).Nodup := by
    have hbetween : (past ++ [created]) ++ between <+: events := by
      refine List.IsPrefix.trans ?_ hp
      simp
    rw [← issuedIds_append]
    exact (issuedIds_sublist hbetween).nodup hfresh
  have hconnected := connected_of_sessionCreated (consistent_run_new config hfresh hpast)
    ((always_activeConnected_iff config hfresh).mpr hguard past hpast)
    (along_fresh (new (.new config)) hfresh past created hcreatedAt) hcreated
    (hguard past created hcreatedAt)
  have hconsistent := consistent_run_new config hfresh hcreatedAt
  rw [run_append, run_cons, run_nil] at hconsistent
  have hstays := (mem_connected_run hconsistent (hconsistent.clients_issued id hconnected)
    between hnodup).mpr ⟨hconnected, ?_⟩
  · exact respond_executeCommand hlast (by simpa using hstays) message
  · intro event hmem hdisconnects
    obtain ⟨front, back, rfl⟩ := List.append_of_mem hmem
    exact hkept front event (by simp) (Or.inl hdisconnects)

/-- A fresh handler keeps every active session connected, and serves every session it
answered as created until that is disconnected or expires, exactly in the runs in which
no request reuses a session of the pool. -/
theorem activeConnected_iff_reuses_none (config : SessionManagerConfig)
    (events : List DaemonEvent) (hfresh : (issuedIds events).Nodup) :
    (Always step ActiveConnected (new (.new config)) events ∧
        CreatedIsServed (new (.new config)) events) ↔
      Along step (fun _ handler event => ¬ handler.ReusesPooled event)
        (new (.new config)) events := by
  rw [always_activeConnected_iff config hfresh, and_iff_left_iff_imp]
  exact createdIsServed_of_reuses_none config hfresh

/-! ## Two runs -/

/-- Create a session and use it. -/
def servedEvents : List DaemonEvent :=
  [.atSeconds 0 1 (.request 1 (.createSession "build" {} [] none)),
    .atSeconds 1 2 (.request 1 (.executeCommand ⟨1⟩ .getClipboard))]

theorem activeConnected_iff_reuses_none_served :
    Always step ActiveConnected (new (.new (DaemonConfig.sessionConfig {}))) servedEvents ∧
      CreatedIsServed (new (.new (DaemonConfig.sessionConfig {}))) servedEvents := by
  apply (activeConnected_iff_reuses_none _ servedEvents (by decide)).mpr
  exact along_cons.mpr ⟨by decide, along_cons.mpr ⟨by decide, along_nil⟩⟩

/-- Create a session, disconnect it, and ask for the same endpoint again once the session
has been idle for `min_idle_time`. -/
def reuseEvents : List DaemonEvent :=
  [.atSeconds 0 1 (.request 1 (.createSession "build" {} [] none)),
    .atSeconds 1 2 (.request 1 (.disconnectSession ⟨1⟩)),
    .atSeconds 302 3 (.request 1 (.createSession "build" {} [] none)),
    .atSeconds 303 4 (.request 1 (.executeCommand ⟨1⟩ .getClipboard))]

/-- The reused session is active, has no client, and its commands are answered with
`SessionNotFound`. -/
theorem activeConnected_reuse_false :
    (issuedIds reuseEvents).Nodup ∧
      ¬ Always step ActiveConnected (new (.new (DaemonConfig.sessionConfig {}))) reuseEvents ∧
      ¬ CreatedIsServed (new (.new (DaemonConfig.sessionConfig {}))) reuseEvents := by
  refine ⟨by decide, fun h => ?_, fun h => ?_⟩
  · have hstatus : ((run step (new (.new (DaemonConfig.sessionConfig {})))
        reuseEvents).sessionManager.getSession ⟨1⟩).map (·.status) = some .active := by decide
    obtain ⟨metadata, hget, hactive⟩ := Option.map_eq_some_iff.mp hstatus
    exact absurd (h.last ⟨1⟩ metadata hget hactive) (by decide)
  · exact h (reuseEvents.take 2) reuseEvents[2] [] reuseEvents[3] ⟨1⟩ true 1 .getClipboard
      (List.prefix_refl _) (by decide) along_nil rfl
      "Session 00000000-0000-0000-0000-000000000001 not connected" (by decide)

end RequestHandler

end Yuha
