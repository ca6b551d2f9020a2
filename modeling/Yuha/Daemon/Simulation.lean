import Yuha.Core.Session.Coherence
import Yuha.Daemon.Handler
import Yuha.Daemon.SessionTable
import Yuha.Library.Execution

/-!
# The handler moves the session table

The handler's two maps are a session table, kept with a pool. Every event of a
consistent handler is a move on that table, and leaves a consistent handler.
-/

namespace Yuha

open Library Execution

/-- What a session is created with and keeps. -/
abbrev SessionDescription := String × TransportConfig

def SessionMetadata.entry (metadata : SessionMetadata) : SessionDescription × SessionStatus :=
  ((metadata.name, metadata.transportConfig), metadata.status)

namespace RequestHandler

def table (handler : RequestHandler) : SessionTable SessionId SessionDescription where
  entry id := (handler.sessionManager.getSession id).map SessionMetadata.entry
  connected := {id | id ∈ handler.activeClients}

/-- The handler's state agrees with itself, and knows issued identifiers only. -/
structure Consistent (issued : List SessionId) (handler : RequestHandler) : Prop where
  coherent : handler.sessionManager.Coherent
  parked : handler.table.Parked
  sessions_issued : ∀ id, handler.table.Registered id → id ∈ issued
  clients_issued : ∀ id ∈ handler.table.connected, id ∈ issued

theorem consistent_new (config : SessionManagerConfig) :
    (new (.new config)).Consistent [] where
  coherent := SessionManager.coherent_new config
  parked id description h := by
    simp [table, new, SessionManager.new, SessionManager.getSession] at h
  sessions_issued id h := by
    simp [SessionTable.Registered, table, new, SessionManager.new,
      SessionManager.getSession] at h
  clients_issued id h := by simp [table, new] at h

theorem registered_iff {handler : RequestHandler} {id : SessionId} :
    handler.table.Registered id ↔
      ∃ metadata, handler.sessionManager.getSession id = some metadata := by
  unfold SessionTable.Registered table
  constructor
  · rintro ⟨e, he⟩
    obtain ⟨metadata, hget, _⟩ := Option.map_eq_some_iff.mp he
    exact ⟨metadata, hget⟩
  · rintro ⟨metadata, hget⟩
    exact ⟨metadata.entry, by simp [hget]⟩

theorem Consistent.getSession_eq_none {issued : List SessionId} {handler : RequestHandler}
    (h : handler.Consistent issued) {id : SessionId} (hid : id ∉ issued) :
    handler.sessionManager.getSession id = none := by
  by_contra hsome
  obtain ⟨metadata, hget⟩ := Option.ne_none_iff_exists'.mp hsome
  exact hid (h.sessions_issued _ (registered_iff.mpr ⟨metadata, hget⟩))

/-! ## The move of an event -/

/-- The listed session of a name that `handle_connect_session` settles on. -/
def activeByName (handler : RequestHandler) (ambient : Ambient) (name : String) :
    Option SessionMetadata :=
  (handler.sessionManager.listSessions ambient.rank).find? fun session =>
    decide (session.name = name ∧ session.status = .active)

def createMove (handler : RequestHandler) (ambient : Ambient) (name : String)
    (transportConfig : TransportConfig) (tags : List String) (description : Option String) :
    SessionMove SessionId SessionDescription :=
  match handler.sessionManager.findReusableSession ambient.now
      transportConfig.connectionKey with
  | some sessionId => .reuse sessionId
  | none =>
      match handler.sessionManager.registry.checkRegister
          (.new ambient.now ambient.freshId name transportConfig tags description) with
      | .ok () => .create ambient.freshId (name, transportConfig)
      | .error _ => .stay

def move (handler : RequestHandler) (event : DaemonEvent) :
    SessionMove SessionId SessionDescription :=
  match event.input with
  | .request _ (.createSession name transportConfig tags description) =>
      handler.createMove event.ambient name transportConfig tags description
  | .request _ (.connectSession name transportConfig) =>
      match handler.activeByName event.ambient name with
      | some _ => .stay
      | none => handler.createMove event.ambient name transportConfig [] none
  | .request _ (.disconnectSession sessionId) => .release sessionId
  | .request _ _ => .stay
  | .cleanup => .expire {id | handler.sessionManager.Expires event.ambient.now id}

/-! ## The parts of a step -/

section Parts

variable {handler : RequestHandler} {ambient : Ambient}

/-- Using a session that is not idle shows in no table. -/
theorem table_useSession_of_ne_idle {id : SessionId}
    (h : ∀ metadata, handler.sessionManager.getSession id = some metadata →
      metadata.status ≠ .idle) (now : SystemTime) :
    table { handler with sessionManager := (handler.sessionManager.useSession now id).2 } =
      handler.table := by
  ext i e
  · simp only [table, SessionManager.getSession_useSession]
    by_cases hi : i = id
    · subst hi
      cases hget : handler.sessionManager.getSession i with
      | none => simp
      | some metadata =>
          simp [SessionManager.usedMetadata, h metadata hget, SessionMetadata.entry]
    · simp [hi]
  · rfl

/-- Using an idle session is its reuse. -/
theorem table_useSession_of_idle {id : SessionId} {metadata : SessionMetadata}
    (hget : handler.sessionManager.getSession id = some metadata)
    (hidle : metadata.status = .idle) (now : SystemTime) :
    table { handler with sessionManager := (handler.sessionManager.useSession now id).2 } =
      (SessionMove.reuse id).apply handler.table := by
  ext i e
  · simp only [table, SessionManager.getSession_useSession, SessionMove.apply]
    by_cases hi : i = id
    · subst hi
      simp [SessionMove.setStatus, hget, SessionManager.usedMetadata, hidle,
        SessionMetadata.entry]
    · simp [SessionMove.setStatus, hi]
  · rfl

theorem connectClient_of_some (handler : RequestHandler) (now : SystemTime) {id : SessionId}
    {metadata : SessionMetadata}
    (hcoherent : handler.sessionManager.Coherent)
    (hget : handler.sessionManager.getSession id = some metadata)
    (hpool : handler.sessionManager.pool.keyOf id = none) :
    ∃ manager, handler.connectClient now id = (.ok (),
        { sessionManager := manager
          activeClients := AList.insert id () handler.activeClients }) ∧
      manager.Coherent ∧
      ∀ i, manager.getSession i =
        if i = id then some ((metadata.setStatus now .connecting).setStatus now .active)
        else handler.sessionManager.getSession i := by
  let connecting := (handler.sessionManager.updateSessionStatus now id .connecting).2
  have hget' : ∀ i, connecting.getSession i =
      if i = id then some (metadata.setStatus now .connecting)
      else handler.sessionManager.getSession i := by
    intro i
    rw [SessionManager.getSession_updateSessionStatus]
    split
    · next hi => rw [hi, hget, Option.map_some]
    · rfl
  have hself : connecting.getSession id = some (metadata.setStatus now .connecting) := by
    rw [hget', if_pos rfl]
  have hcoherent' : connecting.Coherent := hcoherent.updateSessionStatus (Or.inr hpool)
  have hfirst : handler.sessionManager.updateSessionStatus now id .connecting =
      (.ok (), connecting) :=
    Prod.ext (SessionManager.updateSessionStatus_fst_of_some hget) rfl
  have hsecond : connecting.updateSessionStatus now id .active =
      (.ok (), (connecting.updateSessionStatus now id .active).2) :=
    Prod.ext (SessionManager.updateSessionStatus_fst_of_some hself) rfl
  refine ⟨(connecting.updateSessionStatus now id .active).2, ?_, ?_, ?_⟩
  · unfold connectClient
    rw [hfirst]
    dsimp only
    rw [hsecond]
  · exact hcoherent'.updateSessionStatus (Or.inl trivial)
  · intro i
    rw [SessionManager.getSession_updateSessionStatus, hget']
    split <;> rfl

/-- A session that the registry admits is registered, connected and active. -/
theorem createAndConnect_of_ok {name : String} {transportConfig : TransportConfig}
    {tags : List String} {description : Option String}
    (hcoherent : handler.sessionManager.Coherent)
    (hfresh : handler.sessionManager.getSession ambient.freshId = none)
    (hcheck : handler.sessionManager.registry.checkRegister
      (.new ambient.now ambient.freshId name transportConfig tags description) = .ok ()) :
    ∃ after, handler.createAndConnect ambient name transportConfig tags description =
        (.sessionCreated ambient.freshId false, after) ∧
      after.sessionManager.Coherent ∧
      after.table =
        (SessionMove.create ambient.freshId (name, transportConfig)).apply handler.table := by
  obtain ⟨hfst, hpool, hget⟩ := SessionManager.createSession_of_ok hcheck
  have hcoherent' :=
    hcoherent.createSession ambient.now name transportConfig tags description hfresh
  obtain ⟨created, hcreated⟩ : ∃ created, handler.sessionManager.createSession ambient.now
      ambient.freshId name transportConfig tags description =
      (.ok ambient.freshId, created) := ⟨_, Prod.ext hfst rfl⟩
  rw [hcreated] at hpool hget hcoherent'
  have hself := hget ambient.freshId
  rw [if_pos rfl] at hself
  have hunpooled : created.pool.keyOf ambient.freshId = none := by
    rw [show created.pool = _ from hpool]
    exact hcoherent.keyOf_eq_none hfresh
  obtain ⟨manager, hconnect, hcoherent'', hget'⟩ := connectClient_of_some
    { handler with sessionManager := created } ambient.now hcoherent' hself hunpooled
  refine ⟨{ sessionManager := manager
            activeClients := AList.insert ambient.freshId () handler.activeClients },
    ?_, hcoherent'', ?_⟩
  · unfold createAndConnect
    rw [hcreated]
    dsimp only
    rw [hconnect]
  · ext i e
    · simp only [table, hget', SessionMove.apply]
      by_cases hi : i = ambient.freshId
      · simp [hi, SessionMetadata.entry, SessionMetadata.new]
      · have hold : created.getSession i = handler.sessionManager.getSession i := by
          simpa [hi] using hget i
        simp [hi, hold]
    · simp [table, SessionMove.apply]

theorem createAndConnect_of_error {name : String} {transportConfig : TransportConfig}
    {tags : List String} {description : Option String} {e : SessionError}
    (hcheck : handler.sessionManager.registry.checkRegister
      (.new ambient.now ambient.freshId name transportConfig tags description) = .error e) :
    handler.createAndConnect ambient name transportConfig tags description =
      (.error .maxSessionsReached (YuhaError.session e).toString, handler) := by
  simp [createAndConnect, SessionManager.createSession_of_error hcheck]

/-- The loop settles on the first session that matches, and using it does not fail. -/
theorem useByName_eq (now : SystemTime) (name : String) (sessions : List SessionMetadata)
    (manager : SessionManager)
    (hsessions : ∀ session ∈ sessions, manager.getSession session.id = some session) :
    useByName now name sessions manager =
      match sessions.find? fun session =>
          decide (session.name = name ∧ session.status = .active) with
      | some session => (some session.id, (manager.useSession now session.id).2)
      | none => (none, manager) := by
  induction sessions with
  | nil => rfl
  | cons session sessions ih =>
      by_cases hmatch : session.name = name ∧ session.status = .active
      · rw [useByName, if_pos hmatch, List.find?_cons_of_pos (by simpa using hmatch),
          SessionManager.useSession_eq_of_some (hsessions session List.mem_cons_self)]
      · rw [useByName, if_neg hmatch, List.find?_cons_of_neg (by simpa using hmatch)]
        exact ih fun s hs => hsessions s (List.mem_cons_of_mem _ hs)

/-- A session found in the pool is registered, idle, and has the key asked for. -/
theorem found_of_coherent {now : SystemTime} {key : String} {id : SessionId}
    (hcoherent : handler.sessionManager.Coherent)
    (hfind : handler.sessionManager.findReusableSession now key = some id) :
    ∃ metadata, handler.sessionManager.getSession id = some metadata ∧
      metadata.status = .idle ∧ metadata.connectionKey = key :=
  hcoherent.pooled id key (hcoherent.pool.keyOf_of_findSession hfind)

/-- A create request makes the move `createMove` says, and answers with the session it
reuses or creates. -/
theorem handleCreateSession_spec (name : String) (transportConfig : TransportConfig)
    (tags : List String) (description : Option String)
    (hcoherent : handler.sessionManager.Coherent)
    (hfresh : handler.sessionManager.getSession ambient.freshId = none) :
    ∃ response after,
      handler.handleCreateSession ambient name transportConfig tags description =
        (response, after) ∧
      after.sessionManager.Coherent ∧
      after.table =
        (handler.createMove ambient name transportConfig tags description).apply handler.table ∧
      ∀ id reused, response = .sessionCreated id reused →
        (handler.createMove ambient name transportConfig tags description = .reuse id) ∨
          handler.createMove ambient name transportConfig tags description =
            .create id (name, transportConfig) := by
  unfold handleCreateSession createMove
  cases hfind : handler.sessionManager.findReusableSession ambient.now
      transportConfig.connectionKey with
  | some id =>
      obtain ⟨metadata, hget, hidle, _⟩ := found_of_coherent hcoherent hfind
      dsimp only
      rw [SessionManager.useSession_eq_of_some hget]
      refine ⟨_, _, rfl, hcoherent.useSession, table_useSession_of_idle hget hidle _, ?_⟩
      rintro id' reused ⟨⟩
      exact Or.inl rfl
  | none =>
      dsimp only
      cases hcheck : handler.sessionManager.registry.checkRegister
          (.new ambient.now ambient.freshId name transportConfig tags description) with
      | ok _ =>
          obtain ⟨after, heq, hafter, htable⟩ :=
            createAndConnect_of_ok hcoherent hfresh hcheck
          refine ⟨_, after, heq, hafter, htable, ?_⟩
          rintro id reused ⟨⟩
          exact Or.inr rfl
      | error e =>
          exact ⟨_, _, createAndConnect_of_error hcheck, hcoherent, rfl, nofun⟩

theorem activeByName_spec {name : String} {session : SessionMetadata}
    (hcoherent : handler.sessionManager.Coherent)
    (h : handler.activeByName ambient name = some session) :
    handler.sessionManager.getSession session.id = some session ∧ session.name = name ∧
      session.status = .active := by
  have hmem := List.mem_of_find?_eq_some h
  have hmatch := List.find?_some h
  obtain ⟨id, hget⟩ := SessionRegistry.mem_listAll.mp hmem
  obtain rfl : session.id = id := hcoherent.id_eq id session hget
  exact ⟨hget, by simpa using hmatch⟩

/-- A connect request uses the first active session of the name, or else is a create
request without tags and description. -/
theorem handleConnectSession_eq (name : String) (transportConfig : TransportConfig)
    (hcoherent : handler.sessionManager.Coherent) :
    handler.handleConnectSession ambient name transportConfig =
      match handler.activeByName ambient name with
      | some session => (.sessionCreated session.id true,
          { handler with
            sessionManager :=
              (handler.sessionManager.useSession ambient.now session.id).2 })
      | none => handler.handleCreateSession ambient name transportConfig [] none := by
  have hsessions : ∀ session ∈ handler.sessionManager.listSessions ambient.rank,
      handler.sessionManager.getSession session.id = some session := by
    intro session hmem
    obtain ⟨id, hget⟩ := SessionRegistry.mem_listAll.mp hmem
    obtain rfl : session.id = id := hcoherent.id_eq id session hget
    exact hget
  have hloop : useByName ambient.now name
      (handler.sessionManager.listSessions ambient.rank) handler.sessionManager =
      match handler.activeByName ambient name with
      | some session =>
          (some session.id, (handler.sessionManager.useSession ambient.now session.id).2)
      | none => (none, handler.sessionManager) := useByName_eq _ _ _ _ hsessions
  unfold handleConnectSession
  rw [hloop]
  cases handler.activeByName ambient name <;> rfl

theorem handleDisconnectSession_spec (id : SessionId)
    (hcoherent : handler.sessionManager.Coherent) :
    (handler.handleDisconnectSession ambient id).2.sessionManager.Coherent ∧
      (handler.handleDisconnectSession ambient id).2.table =
        (SessionMove.release id).apply handler.table := by
  have hafter : (handler.handleDisconnectSession ambient id).2 =
      { sessionManager :=
          (handler.sessionManager.updateSessionStatus ambient.now id .idle).2
        activeClients := AList.erase id handler.activeClients } := by
    unfold handleDisconnectSession
    rcases handler.sessionManager.updateSessionStatus ambient.now id .idle with ⟨_ | _, _⟩ <;>
      rfl
  rw [hafter]
  refine ⟨hcoherent.updateSessionStatus (Or.inl trivial), ?_⟩
  ext i e
  · simp only [table, SessionManager.getSession_updateSessionStatus, SessionMove.apply]
    by_cases hi : i = id
    · subst hi
      cases hget : handler.sessionManager.getSession i with
      | none => simp [SessionMove.setStatus, hget]
      | some metadata => simp [SessionMove.setStatus, hget, SessionMetadata.entry]
    · simp [SessionMove.setStatus, hi]
  · simp [table, SessionMove.apply, and_comm]

theorem table_cleanup (hcoherent : handler.sessionManager.Coherent) :
    table { handler with
        sessionManager := (handler.sessionManager.cleanup ambient.now ambient.rank).2 } =
      (SessionMove.expire {id | handler.sessionManager.Expires ambient.now id}).apply
        handler.table := by
  ext i e
  · simp only [table, SessionManager.getSession_cleanup hcoherent.filed, SessionMove.apply]
    by_cases hi : handler.sessionManager.Expires ambient.now i <;> simp [hi]
  · rfl

end Parts

/-! ## The simulation -/

/-- What a create request can do to the table. -/
theorem createMove_cases (handler : RequestHandler) (ambient : Ambient) (name : String)
    (transportConfig : TransportConfig) (tags : List String) (description : Option String) :
    (∃ id, handler.createMove ambient name transportConfig tags description = .reuse id) ∨
      handler.createMove ambient name transportConfig tags description =
        .create ambient.freshId (name, transportConfig) ∨
      handler.createMove ambient name transportConfig tags description = .stay := by
  unfold createMove
  split
  · exact Or.inl ⟨_, rfl⟩
  split
  · exact Or.inr (Or.inl rfl)
  · exact Or.inr (Or.inr rfl)

/-- What an event can do to the table. -/
theorem move_cases (handler : RequestHandler) (event : DaemonEvent) :
    (∃ name transportConfig tags description, handler.move event =
        handler.createMove event.ambient name transportConfig tags description) ∨
      handler.move event = .stay ∨
      (∃ id, event.Disconnects id ∧ handler.move event = .release id) ∨
      (event.input = .cleanup ∧ handler.move event =
        .expire {id | handler.sessionManager.Expires event.ambient.now id}) := by
  obtain ⟨input, ambient⟩ := event
  cases input with
  | cleanup => exact Or.inr (Or.inr (Or.inr ⟨rfl, rfl⟩))
  | request client request =>
      cases request with
      | createSession name transportConfig tags description =>
          exact Or.inl ⟨name, transportConfig, tags, description, rfl⟩
      | connectSession name transportConfig =>
          cases hname : handler.activeByName ambient name with
          | some session => exact Or.inr (Or.inl (by simp [move, hname]))
          | none => exact Or.inl ⟨name, transportConfig, [], none, by simp [move, hname]⟩
      | disconnectSession id => exact Or.inr (Or.inr (Or.inl ⟨id, rfl, rfl⟩))
      | ping | listSessions | getSessionInfo _ | executeCommand _ _ | shutdown =>
          exact Or.inr (Or.inl rfl)

/-- Only the identifier that was drawn is given to a session. -/
theorem move_eq_create {handler : RequestHandler} {event : DaemonEvent} {id : SessionId}
    {d : SessionDescription} (h : handler.move event = .create id d) :
    id = event.ambient.freshId := by
  rcases handler.move_cases event with
    ⟨name, transportConfig, tags, description, hmove⟩ | hmove | ⟨_, _, hmove⟩ | ⟨_, hmove⟩
  · rw [hmove] at h
    rcases handler.createMove_cases event.ambient name transportConfig tags description with
      ⟨_, hcreate⟩ | hcreate | hcreate
    all_goals rw [hcreate] at h; cases h
    rfl
  all_goals rw [hmove] at h; cases h

theorem createMove_eq_reuse_iff {handler : RequestHandler} {ambient : Ambient} {name : String}
    {transportConfig : TransportConfig} {tags : List String} {description : Option String}
    {id : SessionId} :
    handler.createMove ambient name transportConfig tags description = .reuse id ↔
      handler.sessionManager.findReusableSession ambient.now transportConfig.connectionKey =
        some id := by
  unfold createMove
  split
  · next hfind => simp [hfind]
  · next hfind =>
      rw [hfind]
      split <;> simp

theorem move_eq_reuse {handler : RequestHandler} {event : DaemonEvent} {id : SessionId}
    (h : handler.move event = .reuse id) :
    ∃ now key, handler.sessionManager.findReusableSession now key = some id := by
  rcases handler.move_cases event with
    ⟨name, transportConfig, tags, description, hmove⟩ | hmove | ⟨_, _, hmove⟩ | ⟨_, hmove⟩
  · exact ⟨_, _, createMove_eq_reuse_iff.mp (hmove.symm.trans h)⟩
  all_goals rw [hmove] at h; cases h

/-- Only a disconnect request releases a session. -/
theorem move_eq_release_iff {handler : RequestHandler} {event : DaemonEvent}
    {id : SessionId} : handler.move event = .release id ↔ event.Disconnects id := by
  constructor
  · intro h
    rcases handler.move_cases event with
      ⟨name, transportConfig, tags, description, hmove⟩ | hmove | ⟨_, hdisconnects, hmove⟩ |
        ⟨_, hmove⟩
    · rw [hmove] at h
      rcases handler.createMove_cases event.ambient name transportConfig tags description with
        ⟨_, hcreate⟩ | hcreate | hcreate
      all_goals rw [hcreate] at h; cases h
    · rw [hmove] at h
      cases h
    · rw [hmove] at h
      cases h
      exact hdisconnects
    · rw [hmove] at h
      cases h
  · intro h
    unfold DaemonEvent.Disconnects at h
    split at h
    · next hinput => simp [move, hinput, h]
    · cases h

/-- Every event of a coherent handler makes its move. -/
theorem step_spec {issued : List SessionId} {handler : RequestHandler}
    (h : handler.Consistent issued) (event : DaemonEvent)
    (hfresh : event.ambient.freshId ∉ issued) :
    (handler.step event).sessionManager.Coherent ∧
      (handler.step event).table = (handler.move event).apply handler.table := by
  have hunregistered : handler.sessionManager.getSession event.ambient.freshId = none :=
    h.getSession_eq_none hfresh
  obtain ⟨input, ambient⟩ := event
  cases input with
  | cleanup => exact ⟨h.coherent.cleanup, table_cleanup h.coherent⟩
  | request client request =>
      cases request with
      | ping | listSessions | getSessionInfo _ | shutdown => exact ⟨h.coherent, rfl⟩
      | createSession name transportConfig tags description =>
          obtain ⟨_, after, heq, hafter, htable, _⟩ :=
            handleCreateSession_spec name transportConfig tags description h.coherent
              hunregistered
          simp only [step, handleRequest, heq]
          exact ⟨hafter, htable⟩
      | connectSession name transportConfig =>
          simp only [step, handleRequest, handleConnectSession_eq _ _ h.coherent, move]
          cases hname : handler.activeByName ambient name with
          | some session =>
              obtain ⟨hget, _, hactive⟩ := activeByName_spec h.coherent hname
              refine ⟨h.coherent.useSession, table_useSession_of_ne_idle ?_ _⟩
              intro metadata hget'
              obtain rfl : session = metadata := Option.some.inj (hget.symm.trans hget')
              rw [hactive]
              exact nofun
          | none =>
              obtain ⟨_, after, heq, hafter, htable, _⟩ :=
                handleCreateSession_spec name transportConfig [] none h.coherent hunregistered
              simp only [heq]
              exact ⟨hafter, htable⟩
      | disconnectSession id => exact handleDisconnectSession_spec id h.coherent
      | executeCommand id command =>
          simp only [step, handleRequest]
          rcases handler.handleExecuteCommand_eq ambient id command with
            ⟨hclient, _, heq, _⟩ | ⟨_, heq⟩
          · rw [heq]
            refine ⟨h.coherent.useSession, table_useSession_of_ne_idle ?_ _⟩
            intro metadata hget hidle
            -- A session that holds a connection is not idle.
            refine h.parked id (metadata.name, metadata.transportConfig) ?_ hclient
            simp [table, hget, SessionMetadata.entry, hidle]
          · rw [heq]
            exact ⟨h.coherent, rfl⟩

/-- A `SessionCreated` answer names a session of the pool, a new one, or the first
active one of the name that was asked for. -/
theorem sessionCreated_cases {issued : List SessionId} {handler : RequestHandler}
    (h : handler.Consistent issued) {event : DaemonEvent}
    (hfresh : event.ambient.freshId ∉ issued) {id : SessionId} {reused : Bool}
    (hcreated : handler.respond event = some (.sessionCreated id reused)) :
    ∃ client request transportConfig, event.input = .request client request ∧
      request.endpoint = some transportConfig ∧
      ((handler.move event = .reuse id ∧
          handler.sessionManager.findReusableSession event.ambient.now
            transportConfig.connectionKey = some id) ∨
        (∃ name, handler.move event = .create id (name, transportConfig)) ∨
        ∃ name session, request = .connectSession name transportConfig ∧
          handler.activeByName event.ambient name = some session ∧ session.id = id ∧
          handler.move event = .stay) := by
  have hunregistered : handler.sessionManager.getSession event.ambient.freshId = none :=
    h.getSession_eq_none hfresh
  obtain ⟨input, ambient⟩ := event
  cases input with
  | cleanup => cases hcreated
  | request client request =>
      have hanswer : (handler.handleRequest ambient request).1 = .sessionCreated id reused :=
        Option.some.inj hcreated
      cases request with
      | ping | listSessions | shutdown => cases hanswer
      | getSessionInfo sessionId =>
          simp only [handleRequest, handleGetSessionInfo] at hanswer
          split at hanswer <;> cases hanswer
      | disconnectSession sessionId =>
          simp only [handleRequest, handleDisconnectSession] at hanswer
          split at hanswer <;> cases hanswer
      | executeCommand sessionId command =>
          simp only [handleRequest] at hanswer
          rcases handler.handleExecuteCommand_eq ambient sessionId command with
            ⟨_, _, heq, _⟩ | ⟨_, heq⟩
          · rw [heq] at hanswer
            cases hanswer
          · rw [heq] at hanswer
            cases hanswer
      | createSession name transportConfig tags description =>
          obtain ⟨response, _, heq, _, _, hmove⟩ :=
            handleCreateSession_spec name transportConfig tags description h.coherent
              hunregistered
          simp only [handleRequest, heq] at hanswer
          refine ⟨client, _, transportConfig, rfl, rfl, ?_⟩
          rcases hmove id reused hanswer with hreuse | hcreate
          · exact Or.inl ⟨hreuse, createMove_eq_reuse_iff.mp hreuse⟩
          · exact Or.inr (Or.inl ⟨name, hcreate⟩)
      | connectSession name transportConfig =>
          refine ⟨client, _, transportConfig, rfl, rfl, ?_⟩
          simp only [handleRequest, handleConnectSession_eq _ _ h.coherent] at hanswer
          simp only [move]
          cases hname : handler.activeByName ambient name with
          | some session =>
              rw [hname] at hanswer
              cases hanswer
              exact Or.inr (Or.inr ⟨name, session, rfl, hname, rfl, rfl⟩)
          | none =>
              obtain ⟨response, _, heq, _, _, hmove⟩ :=
                handleCreateSession_spec name transportConfig [] none h.coherent hunregistered
              simp only [hname, heq] at hanswer
              rcases hmove id reused hanswer with hreuse | hcreate
              · exact Or.inl ⟨hreuse, createMove_eq_reuse_iff.mp hreuse⟩
              · exact Or.inr (Or.inl ⟨name, hcreate⟩)

/-- One event of a consistent handler, given an identifier not issued before. -/
theorem Consistent.step {issued : List SessionId} {handler : RequestHandler}
    (h : handler.Consistent issued) (event : DaemonEvent)
    (hfresh : event.ambient.freshId ∉ issued) :
    (handler.step event).Consistent (issued ++ [event.ambient.freshId]) := by
  obtain ⟨hcoherent, htable⟩ := step_spec h event hfresh
  refine ⟨hcoherent, ?_, fun id hid => ?_, fun id hid => ?_⟩
  · rw [htable]
    exact SessionMove.parked_apply h.parked _
  · rw [htable, SessionMove.registered_apply] at hid
    rcases hid with ⟨hold, _⟩ | ⟨d, hcreate⟩
    · exact List.mem_append_left _ (h.sessions_issued id hold)
    · simp [move_eq_create hcreate]
  · rw [htable, SessionMove.mem_connected_apply] at hid
    rcases hid with ⟨hold, _⟩ | ⟨d, hcreate⟩
    · exact List.mem_append_left _ (h.clients_issued id hold)
    · simp [move_eq_create hcreate]

/-! ## Runs -/

/-- The identifiers that sessions created by these events would get. -/
def issuedIds (events : List DaemonEvent) : List SessionId :=
  events.map fun event => event.ambient.freshId

@[simp] theorem issuedIds_nil : issuedIds [] = [] := rfl

@[simp] theorem issuedIds_cons (event : DaemonEvent) (events : List DaemonEvent) :
    issuedIds (event :: events) = event.ambient.freshId :: issuedIds events := rfl

@[simp] theorem issuedIds_append (events later : List DaemonEvent) :
    issuedIds (events ++ later) = issuedIds events ++ issuedIds later := by
  simp [issuedIds]

theorem issuedIds_sublist {past events : List DaemonEvent} (hp : past <+: events) :
    (issuedIds past).Sublist (issuedIds events) :=
  hp.sublist.map fun event : DaemonEvent => event.ambient.freshId

theorem fresh_of_nodup {issued : List SessionId} {event : DaemonEvent}
    {events : List DaemonEvent} (hfresh : (issued ++ issuedIds (event :: events)).Nodup) :
    event.ambient.freshId ∉ issued ∧
      ((issued ++ [event.ambient.freshId]) ++ issuedIds events).Nodup := by
  rw [issuedIds_cons, List.append_cons] at hfresh
  refine ⟨fun hmem => ?_, hfresh⟩
  have hdisjoint := (List.nodup_append.mp (List.nodup_append.mp hfresh).1).2.2
  exact hdisjoint _ hmem _ (List.mem_singleton.mpr rfl) rfl

theorem consistent_run {issued : List SessionId} {handler : RequestHandler}
    (h : handler.Consistent issued) (events : List DaemonEvent)
    (hfresh : (issued ++ issuedIds events).Nodup) :
    (run step handler events).Consistent (issued ++ issuedIds events) := by
  induction events generalizing handler issued with
  | nil => simpa using h
  | cons event events ih =>
      obtain ⟨hevent, hmore⟩ := fresh_of_nodup hfresh
      simpa using ih (h.step event hevent) hmore

/-- Every state of a run of a fresh handler is consistent with the identifiers drawn
until then. -/
theorem consistent_run_new (config : SessionManagerConfig) {past events : List DaemonEvent}
    (hfresh : (issuedIds events).Nodup) (hp : past <+: events) :
    (run step (new (.new config)) past).Consistent (issuedIds past) := by
  have hpast : (issuedIds past).Nodup := (issuedIds_sublist hp).nodup hfresh
  simpa using consistent_run (consistent_new config) past (by simpa using hpast)

/-- Identifiers drawn once each are new at every step. -/
theorem along_fresh (handler : RequestHandler) {events : List DaemonEvent}
    (hfresh : (issuedIds events).Nodup) :
    Along step (fun past _ event => event.ambient.freshId ∉ issuedIds past) handler events := by
  intro past event hp
  have hnodup : (issuedIds past ++ issuedIds [event]).Nodup := by
    rw [← issuedIds_append]
    exact (issuedIds_sublist hp).nodup hfresh
  exact (fresh_of_nodup hnodup).1

/-- From one step to whole runs: if a consistent handler keeps `P` in exactly the steps
that satisfy `G`, then a fresh handler keeps `P` in exactly the runs all of whose steps
satisfy `G`. -/
theorem always_iff_along_of_step_iff (config : SessionManagerConfig)
    {events : List DaemonEvent} (hfresh : (issuedIds events).Nodup)
    {P : RequestHandler → Prop} {G : RequestHandler → DaemonEvent → Prop}
    (start : P (new (.new config)))
    (hstep : ∀ issued handler event, Consistent issued handler → P handler →
      event.ambient.freshId ∉ issued → (P (handler.step event) ↔ G handler event)) :
    Always step P (new (.new config)) events ↔
      Along step (fun _ => G) (new (.new config)) events := by
  refine always_iff_along
    (I := fun past handler => handler.Consistent (issuedIds past) ∧ P handler)
    (along_fresh _ hfresh) ⟨consistent_new config, start⟩ (fun _ _ h => h.2) ?_ ?_
  · rintro past handler event ⟨hconsistent, hP⟩ hnew hG
    exact ⟨by simpa using hconsistent.step event hnew,
      (hstep _ handler event hconsistent hP hnew).mpr hG⟩
  · rintro past handler event ⟨hconsistent, hP⟩ hnew hG hafter
    exact hG ((hstep _ handler event hconsistent hP hnew).mp hafter)

/-- A session that was issued loses its client when it is disconnected, and never gets
one back. -/
theorem mem_connected_step {issued : List SessionId} {handler : RequestHandler}
    (h : handler.Consistent issued) {id : SessionId} (hid : id ∈ issued)
    {event : DaemonEvent} (hfresh : event.ambient.freshId ∉ issued) :
    id ∈ (handler.step event).table.connected ↔
      id ∈ handler.table.connected ∧ ¬ event.Disconnects id := by
  rw [(step_spec h event hfresh).2, SessionMove.mem_connected_apply, ne_eq,
    move_eq_release_iff]
  have hold : ¬ ∃ d, handler.move event = .create id d := by
    rintro ⟨d, hcreate⟩
    exact hfresh (move_eq_create hcreate ▸ hid)
  simp [hold]

theorem mem_connected_run {issued : List SessionId} {handler : RequestHandler}
    (h : handler.Consistent issued) {id : SessionId} (hid : id ∈ issued)
    (events : List DaemonEvent) (hfresh : (issued ++ issuedIds events).Nodup) :
    id ∈ (run step handler events).table.connected ↔
      id ∈ handler.table.connected ∧ ∀ event ∈ events, ¬ event.Disconnects id := by
  induction events generalizing handler issued with
  | nil => simp
  | cons event events ih =>
      obtain ⟨hevent, hmore⟩ := fresh_of_nodup hfresh
      rw [run_cons, ih (h.step event hevent) (List.mem_append_left _ hid) hmore,
        mem_connected_step h hid hevent]
      simp [and_assoc]

end RequestHandler

end Yuha
