import Yuha.Core.Session.Reusing
import Yuha.Daemon.Simulation

/-!
# Asking for a disconnected session again

`DaemonServer::new` takes the pool's minimum idle time and the lifecycle's maximum idle time
from one setting. A disconnected session may be reused from the one on and expires after the
other, so there is a single moment at which it can be had again.
-/

namespace Yuha

open Library Execution

namespace RequestHandler

variable {handler : RequestHandler} {ambient : Ambient}

/-! ## The configuration -/

theorem sameConfig_connectClient (handler : RequestHandler) (now : SystemTime)
    (sessionId : SessionId) :
    handler.sessionManager.SameConfig (handler.connectClient now sessionId).2.sessionManager := by
  have hfirst := handler.sessionManager.sameConfig_updateSessionStatus now sessionId .connecting
  unfold connectClient
  generalize handler.sessionManager.updateSessionStatus now sessionId .connecting = connecting at *
  obtain ⟨_ | _, manager⟩ := connecting
  · exact hfirst
  · have hsecond := manager.sameConfig_updateSessionStatus now sessionId .active
    dsimp only
    generalize manager.updateSessionStatus now sessionId .active = active at *
    obtain ⟨_ | _, manager'⟩ := active
    · exact hfirst.trans hsecond
    · exact hfirst.trans hsecond

theorem sameConfig_createAndConnect (handler : RequestHandler) (ambient : Ambient)
    (name : String) (transportConfig : TransportConfig) (tags : List String)
    (description : Option String) :
    handler.sessionManager.SameConfig (handler.createAndConnect ambient name transportConfig
      tags description).2.sessionManager := by
  have hfirst := handler.sessionManager.sameConfig_createSession ambient.now ambient.freshId name
    transportConfig tags description
  unfold createAndConnect
  generalize handler.sessionManager.createSession ambient.now ambient.freshId name
    transportConfig tags description = created at *
  obtain ⟨_ | sessionId, manager⟩ := created
  · exact hfirst
  · have hsecond := sameConfig_connectClient { handler with sessionManager := manager }
      ambient.now sessionId
    dsimp only
    generalize connectClient { handler with sessionManager := manager } ambient.now sessionId =
      connected at *
    obtain ⟨_ | _, handler'⟩ := connected
    · exact (hfirst.trans hsecond).trans
        (handler'.sessionManager.sameConfig_closeSession ambient.now sessionId)
    · exact hfirst.trans hsecond

theorem sameConfig_handleCreateSession (handler : RequestHandler) (ambient : Ambient)
    (name : String) (transportConfig : TransportConfig) (tags : List String)
    (description : Option String) :
    handler.sessionManager.SameConfig (handler.handleCreateSession ambient name transportConfig
      tags description).2.sessionManager := by
  unfold handleCreateSession
  split
  · next sessionId _ =>
      have hused := handler.sessionManager.sameConfig_useSession ambient.now sessionId
      generalize handler.sessionManager.useSession ambient.now sessionId = used at *
      obtain ⟨_ | _, manager⟩ := used
      · exact hused.trans (sameConfig_createAndConnect { handler with sessionManager := manager }
          ambient name transportConfig tags description)
      · exact hused
  · exact sameConfig_createAndConnect handler ambient name transportConfig tags description

theorem sameConfig_step (hcoherent : handler.sessionManager.Coherent) (event : DaemonEvent) :
    handler.sessionManager.SameConfig (handler.step event).sessionManager := by
  obtain ⟨input, ambient⟩ := event
  cases input with
  | cleanup => exact (SessionManager.cleanup_pool hcoherent.filed ambient.now ambient.rank).1
  | request client request =>
      cases request with
      | ping | listSessions | getSessionInfo _ | shutdown => exact .refl _
      | createSession name transportConfig tags description =>
          exact sameConfig_handleCreateSession handler ambient name transportConfig tags
            description
      | connectSession name transportConfig =>
          simp only [step, handleRequest, handleConnectSession_eq _ _ hcoherent]
          split
          · exact handler.sessionManager.sameConfig_useSession ambient.now _
          · exact sameConfig_handleCreateSession handler ambient name transportConfig [] none
      | disconnectSession id =>
          have hidle := handler.sessionManager.sameConfig_updateSessionStatus ambient.now id .idle
          simp only [step, handleRequest, handleDisconnectSession]
          split
          all_goals
            next heq =>
              rw [heq] at hidle
              exact hidle
      | executeCommand id command =>
          simp only [step, handleRequest]
          rcases handler.handleExecuteCommand_eq ambient id command with
            ⟨_, _, heq, _⟩ | ⟨_, heq⟩
          · rw [heq]
            exact handler.sessionManager.sameConfig_useSession ambient.now id
          · rw [heq]
            exact .refl _

/-- The handler of a daemon keeps the configuration it was started with. -/
theorem sameConfig_run_new (config : SessionManagerConfig) {events : List DaemonEvent}
    (hfresh : (issuedIds events).Nodup) :
    SessionManager.SameConfig (.new config)
      (run step (new (.new config)) events).sessionManager := by
  refine ((along_fresh (new (.new config)) hfresh).invariant (I := fun past handler =>
    handler.Consistent (issuedIds past) ∧
      SessionManager.SameConfig (.new config) handler.sessionManager)
    ⟨consistent_new config, .refl _⟩ ?_ events (List.prefix_refl events)).2
  rintro past handler event ⟨hconsistent, hconfig⟩ hnew
  exact ⟨by simpa using hconsistent.step event hnew,
    hconfig.trans (sameConfig_step hconsistent.coherent event)⟩

/-! ## The answer -/

theorem createAndConnect_ne_reused (handler : RequestHandler) (ambient : Ambient)
    (name : String) (transportConfig : TransportConfig) (tags : List String)
    (description : Option String) (id : SessionId) :
    (handler.createAndConnect ambient name transportConfig tags description).1 ≠
      .sessionCreated id true := by
  unfold createAndConnect
  split
  · rintro ⟨⟩
  split
  · rintro ⟨⟩
  · rintro ⟨⟩

/-- A create request is answered with a session of the pool if there is one to lend. -/
theorem handleCreateSession_reused_iff (hcoherent : handler.sessionManager.Coherent)
    (name : String) (transportConfig : TransportConfig) (tags : List String)
    (description : Option String) :
    (∃ id, (handler.handleCreateSession ambient name transportConfig tags description).1 =
        .sessionCreated id true) ↔
      (handler.sessionManager.findReusableSession ambient.now
        transportConfig.connectionKey).isSome := by
  unfold handleCreateSession
  cases hfind : handler.sessionManager.findReusableSession ambient.now
      transportConfig.connectionKey with
  | none =>
      refine iff_of_false ?_ Bool.false_ne_true
      rintro ⟨id, hreused⟩
      exact createAndConnect_ne_reused handler ambient name transportConfig tags description id
        hreused
  | some id =>
      obtain ⟨metadata, hget, _⟩ := found_of_coherent hcoherent hfind
      dsimp only
      rw [SessionManager.useSession_eq_of_some hget]
      exact iff_of_true ⟨id, rfl⟩ rfl

theorem activeByName_isSome (hcoherent : handler.sessionManager.Coherent) (name : String) :
    (handler.activeByName ambient name).isSome ↔
      ∃ id metadata, handler.sessionManager.getSession id = some metadata ∧
        metadata.name = name ∧ metadata.status = .active := by
  constructor
  · intro hsome
    obtain ⟨session, hactive⟩ := Option.isSome_iff_exists.mp hsome
    exact ⟨session.id, session, activeByName_spec hcoherent hactive⟩
  · rintro ⟨id, metadata, hget, hname, hactive⟩
    refine List.find?_isSome.mpr ⟨metadata, SessionRegistry.mem_listAll.mpr ⟨id, hget⟩, ?_⟩
    simp [hname, hactive]

/-- The request connects to a session by the name of an active one. -/
def NamesActive (handler : RequestHandler) (request : DaemonRequest) : Prop :=
  ∃ name transportConfig, request = .connectSession name transportConfig ∧
    ∃ id metadata, handler.sessionManager.getSession id = some metadata ∧
      metadata.name = name ∧ metadata.status = .active

theorem handleRequest_reused_iff (ambient : Ambient)
    (hcoherent : handler.sessionManager.Coherent)
    {request : DaemonRequest} {transportConfig : TransportConfig}
    (hendpoint : request.endpoint = some transportConfig) :
    (∃ id, (handler.handleRequest ambient request).1 = .sessionCreated id true) ↔
      (handler.sessionManager.findReusableSession ambient.now
        transportConfig.connectionKey).isSome ∨ handler.NamesActive request := by
  cases request with
  | createSession name transportConfig' tags description =>
      obtain rfl := Option.some.inj hendpoint
      have hother : ¬ handler.NamesActive (.createSession name transportConfig' tags description)
        := by rintro ⟨_, _, ⟨⟩, _⟩
      rw [or_iff_left hother]
      exact handleCreateSession_reused_iff hcoherent name transportConfig' tags description
  | connectSession name transportConfig' =>
      obtain rfl := Option.some.inj hendpoint
      have hnames : handler.NamesActive (.connectSession name transportConfig') ↔
          (handler.activeByName ambient name).isSome := by
        rw [activeByName_isSome hcoherent]
        constructor
        · rintro ⟨_, _, ⟨⟩, hactive⟩
          exact hactive
        · exact fun hactive => ⟨name, transportConfig', rfl, hactive⟩
      simp only [handleRequest, handleConnectSession_eq _ _ hcoherent, hnames]
      cases handler.activeByName ambient name with
      | some session => exact iff_of_true ⟨session.id, rfl⟩ (Or.inr rfl)
      | none =>
          rw [Option.isSome_none, or_iff_left Bool.false_ne_true]
          exact handleCreateSession_reused_iff hcoherent name transportConfig' [] none
  | _ => cases hendpoint

/-! ## From the disconnection to the request -/

/-- A session that goes idle is pooled if there is room for it. -/
theorem lookup_handleDisconnectSession (hcoherent : handler.sessionManager.Coherent)
    (henabled : handler.sessionManager.pool.config.enabled = true) {id : SessionId}
    {metadata : SessionMetadata}
    (hafter : (handler.handleDisconnectSession ambient id).2.sessionManager.getSession id =
      some metadata) :
    metadata.status = .idle ∧ metadata.lastUsed = ambient.now ∧
      (handler.sessionManager.pool.atCapacity metadata.connectionKey = false →
        (handler.handleDisconnectSession ambient id).2.sessionManager.pool.poolMetadata.lookup id =
          some ⟨metadata.connectionKey, ambient.now, metadata.priority, metadata.useCount⟩) := by
  have hmanager : (handler.handleDisconnectSession ambient id).2.sessionManager =
      (handler.sessionManager.updateSessionStatus ambient.now id .idle).2 := by
    unfold handleDisconnectSession
    rcases handler.sessionManager.updateSessionStatus ambient.now id .idle with ⟨_ | _, _⟩ <;> rfl
  rw [hmanager] at hafter ⊢
  have hget := hafter
  rw [SessionManager.getSession_updateSessionStatus, if_pos rfl] at hget
  obtain ⟨old, hold, rfl⟩ := Option.map_eq_some_iff.mp hget
  refine ⟨rfl, rfl, fun hroom => ?_⟩
  have hregistry : (handler.sessionManager.registry.updateStatus ambient.now id .idle).2.get id =
      some (old.setStatus ambient.now .idle) := by
    rw [SessionManager.updateSessionStatus_of_some hold] at hafter
    exact hafter
  rw [SessionManager.updateSessionStatus_of_some hold]
  simp only [SessionManager.poolByStatus, hregistry]
  rw [SessionPool.lookup_addSession henabled ambient.now rfl,
    if_pos ⟨hroom, (hcoherent.id_eq id old hold).symm⟩]

/-- The event in which the cleanup callback runs. -/
def tick (ambient : Ambient) : DaemonEvent := ⟨.cleanup, ambient⟩

/-- The cleanup callback leaves a session in the pool that is not due to expire. -/
theorem kept_of_ticks (hcoherent : handler.sessionManager.Coherent) {now : SystemTime}
    {id : SessionId} {metadata : SessionMetadata} {pooled : PooledSessionMetadata}
    (hget : handler.sessionManager.getSession id = some metadata)
    (hunexpired : handler.sessionManager.lifecycle.shouldExpireSession now metadata = false)
    (hlookup : handler.sessionManager.pool.poolMetadata.lookup id = some pooled)
    (hpooled : now.since pooled.pooledAt ≤ handler.sessionManager.lifecycle.maxIdleTime)
    (ticks : List Ambient) (hticks : ∀ ambient ∈ ticks, ambient.now ≤ now) :
    (run step handler (ticks.map tick)).sessionManager.pool.poolMetadata.lookup id =
      some pooled := by
  induction ticks generalizing handler with
  | nil => exact hlookup
  | cons ambient ticks ih =>
      have hle : ambient.now ≤ now := hticks ambient List.mem_cons_self
      have hstays : ¬ handler.sessionManager.Expires ambient.now id := by
        rintro ⟨metadata', hget', hexpire⟩
        obtain rfl := Option.some.inj (hget.symm.trans hget')
        have hexpired := SessionLifecycleConfig.shouldExpireSession_mono hle hexpire
        exact absurd (hunexpired.symm.trans hexpired) Bool.false_ne_true
      have hshort : ambient.now.since pooled.pooledAt ≤
          handler.sessionManager.lifecycle.maxIdleTime :=
        (SystemTime.since_mono hle (Nat.le_refl _)).trans hpooled
      obtain ⟨hconfig, hpool⟩ :=
        SessionManager.cleanup_pool hcoherent.filed ambient.now ambient.rank
      have hget' : (handler.step (tick ambient)).sessionManager.getSession id =
          some metadata := by
        apply (SessionManager.getSession_cleanup hcoherent.filed id).trans
        exact (if_neg hstays).trans hget
      have hlookup' : (handler.step (tick ambient)).sessionManager.pool.poolMetadata.lookup id =
          some pooled := by
        refine (hpool id).trans ((if_neg hstays).trans ?_)
        rw [hlookup, Option.filter_some, decide_eq_true hshort, if_pos rfl]
      have hlifecycle : (handler.step (tick ambient)).sessionManager.lifecycle =
          handler.sessionManager.lifecycle := hconfig.lifecycle
      exact ih hcoherent.cleanup hget' (hlifecycle ▸ hunexpired) hlookup' (hlifecycle ▸ hpooled)
        fun ambient' hmem => hticks ambient' (List.mem_cons_of_mem _ hmem)

/-! ## A session is asked for again -/

/-- What happens before a session is disconnected, its disconnection, the runs of the
cleanup callback after that, and the request in which it is asked for again. -/
structure Revisit where
  before : List DaemonEvent
  client : ClientId
  id : SessionId
  disconnect : Ambient
  ticks : List Ambient
  nextClient : ClientId
  request : DaemonRequest
  ambient : Ambient

namespace Revisit

variable (config : DaemonConfig) (r : Revisit)

def disconnectEvent : DaemonEvent := ⟨.request r.client (.disconnectSession r.id), r.disconnect⟩

def requestEvent : DaemonEvent := ⟨.request r.nextClient r.request, r.ambient⟩

def events : List DaemonEvent := r.before ++ r.disconnectEvent :: r.ticks.map tick

/-- When the session is disconnected. -/
def atDisconnect : RequestHandler := run step (new (.new config.sessionConfig)) r.before

/-- When it is asked for again. -/
def atRequest : RequestHandler := run step (new (.new config.sessionConfig)) r.events

/-- Sessions are pooled, the disconnected session is not yet considered expired when the
request arrives, and the request is for its connection. -/
structure Valid (metadata : SessionMetadata) : Prop where
  fresh : (issuedIds (r.events ++ [r.requestEvent])).Nodup
  pooling : config.enableSessionPooling = true
  registered : ((r.atDisconnect config).step r.disconnectEvent).sessionManager.getSession r.id =
    some metadata
  ticks : ∀ ambient ∈ r.ticks, ambient.now ≤ r.ambient.now
  unexpired : config.sessionConfig.lifecycle.shouldExpireSession r.ambient.now metadata = false
  endpoint : ∃ transportConfig, r.request.endpoint = some transportConfig ∧
    transportConfig.connectionKey = metadata.connectionKey

/-- The request is answered with a session that was there before. -/
def Reused : Prop :=
  ∃ id, (r.atRequest config).respond r.requestEvent = some (.sessionCreated id true)

/-- The pool took the session in when it was disconnected. -/
def Pooled (metadata : SessionMetadata) : Prop :=
  (r.atDisconnect config).sessionManager.pool.atCapacity metadata.connectionKey = false

/-- The request comes exactly the idle timeout after the disconnection. -/
def OnTime : Prop :=
  r.ambient.now.since r.disconnect.now = Duration.fromSecs config.sessionIdleTimeout

/-- Another session of the connection was pooled for the idle timeout. -/
def LendsAnother (metadata : SessionMetadata) : Prop :=
  ∃ id, (id ≠ r.id ∨ ¬ r.Pooled config metadata) ∧
    (r.atRequest config).sessionManager.pool.Lends r.ambient.now metadata.connectionKey id

variable {config r}

theorem Valid.fresh_before {metadata : SessionMetadata} (h : r.Valid config metadata) :
    (issuedIds r.before).Nodup ∧ (issuedIds r.events).Nodup := by
  have hbefore : r.before <+: r.events ++ [r.requestEvent] :=
    (List.prefix_append _ _).trans (List.prefix_append _ _)
  exact ⟨(issuedIds_sublist hbefore).nodup h.fresh,
    (issuedIds_sublist (List.prefix_append _ _)).nodup h.fresh⟩

theorem Valid.sameConfig {metadata : SessionMetadata} (h : r.Valid config metadata) :
    SessionManager.SameConfig (.new config.sessionConfig) (r.atDisconnect config).sessionManager ∧
      SessionManager.SameConfig (.new config.sessionConfig) (r.atRequest config).sessionManager :=
  ⟨sameConfig_run_new _ h.fresh_before.1, sameConfig_run_new _ h.fresh_before.2⟩

theorem Valid.coherent {metadata : SessionMetadata} (h : r.Valid config metadata) :
    (r.atDisconnect config).sessionManager.Coherent ∧
      (r.atRequest config).sessionManager.Coherent :=
  ⟨(consistent_run_new _ h.fresh_before.1 (List.prefix_refl _)).coherent,
    (consistent_run_new _ h.fresh_before.2 (List.prefix_refl _)).coherent⟩

/-- What the disconnected session is in the pool as, when it is asked for again. -/
theorem Valid.lookup {metadata : SessionMetadata} (h : r.Valid config metadata)
    (hpooled : r.Pooled config metadata) :
    r.ambient.now.since r.disconnect.now ≤ Duration.fromSecs config.sessionIdleTimeout ∧
      (r.atRequest config).sessionManager.pool.poolMetadata.lookup r.id =
        some ⟨metadata.connectionKey, r.disconnect.now, metadata.priority,
          metadata.useCount⟩ := by
  obtain ⟨hconfig, _⟩ := h.sameConfig
  have hcoherent := h.coherent.1
  have henabled : (r.atDisconnect config).sessionManager.pool.config.enabled = true := by
    rw [hconfig.pool]
    exact h.pooling
  obtain ⟨hidle, hlastUsed, hlookup⟩ :=
    lookup_handleDisconnectSession hcoherent henabled h.registered
  have hunexpired := h.unexpired
  have hshort : r.ambient.now.since r.disconnect.now ≤
      Duration.fromSecs config.sessionIdleTimeout := by
    refine Nat.not_lt.mp fun hlong => ?_
    have hexpired : metadata.status = .idle ∧ config.sessionConfig.lifecycle.maxIdleTime <
        metadata.idleTime r.ambient.now :=
      ⟨hidle, by rw [SessionMetadata.idleTime, hlastUsed]; exact hlong⟩
    rw [SessionLifecycleConfig.shouldExpireSession, if_pos hexpired] at hunexpired
    cases hunexpired
  have hafter := hconfig.trans (sameConfig_step hcoherent r.disconnectEvent)
  have hcoherent' : ((r.atDisconnect config).step r.disconnectEvent).sessionManager.Coherent :=
    (handleDisconnectSession_spec r.id hcoherent).1
  have hkept := kept_of_ticks hcoherent' h.registered (by rw [hafter.lifecycle]; exact hunexpired)
    (hlookup hpooled) (by rw [hafter.lifecycle]; exact hshort) r.ticks h.ticks
  refine ⟨hshort, ?_⟩
  rw [atRequest, events, run_append, run_cons]
  exact hkept

/-- A session that was disconnected and has not expired is had again exactly if it is asked
for at the one moment at which it is old enough, or if there is another one to be had. -/
theorem reused_iff {metadata : SessionMetadata} (h : r.Valid config metadata) :
    r.Reused config ↔ r.Pooled config metadata ∧ r.OnTime config ∨
      r.LendsAnother config metadata ∨ (r.atRequest config).NamesActive r.request := by
  obtain ⟨_, hconfig⟩ := h.sameConfig
  obtain ⟨_, hcoherent⟩ := h.coherent
  obtain ⟨transportConfig, hendpoint, hkey⟩ := h.endpoint
  have hanswer : r.Reused config ↔
      (∃ id, (r.atRequest config).sessionManager.pool.Lends r.ambient.now
        metadata.connectionKey id) ∨ (r.atRequest config).NamesActive r.request := by
    have hfind := hcoherent.pool.findSession_isSome r.ambient.now transportConfig.connectionKey
    rw [hconfig.pool, hkey] at hfind
    have hlends := hfind.trans (and_iff_right h.pooling)
    have hrequest := handleRequest_reused_iff r.ambient hcoherent hendpoint
    rw [SessionManager.findReusableSession, hkey, hlends.trans (and_iff_right rfl)] at hrequest
    rw [← hrequest, Reused]
    simp only [respond, requestEvent, Option.some.injEq]
  have hown : r.Pooled config metadata →
      ((r.atRequest config).sessionManager.pool.Lends r.ambient.now metadata.connectionKey r.id ↔
        r.OnTime config) := by
    intro hpooled
    obtain ⟨hshort, hlookup⟩ := h.lookup hpooled
    have hminimum : (r.atRequest config).sessionManager.pool.config.minIdleTime =
        config.sessionIdleTimeout := by rw [hconfig.pool]; rfl
    rw [SessionPool.Lends, hlookup, hminimum]
    constructor
    · rintro ⟨_, ⟨⟩, _, hready⟩
      exact Nat.le_antisymm hshort hready
    · exact fun hexact => ⟨_, rfl, rfl, hexact.ge⟩
  rw [hanswer, ← or_assoc]
  apply or_congr_left
  constructor
  · rintro ⟨id, hlends⟩
    by_cases hid : id = r.id ∧ r.Pooled config metadata
    · obtain ⟨rfl, hpooled⟩ := hid
      exact Or.inl ⟨hpooled, (hown hpooled).mp hlends⟩
    · exact Or.inr ⟨id, Classical.not_and_iff_not_or_not.mp hid, hlends⟩
  · rintro (⟨hpooled, hexact⟩ | ⟨id, _, hlends⟩)
    · exact ⟨r.id, (hown hpooled).mpr hexact⟩
    · exact ⟨id, hlends⟩

/-- A session is created, disconnected after ten seconds, and asked for again at a time. -/
def sample (secs : Nat) : Revisit where
  before := [.atSeconds 0 1 (.request 1 (.createSession "build" {} [] none))]
  client := 1
  id := ⟨1⟩
  disconnect := (DaemonEvent.atSeconds 10 2 .cleanup).ambient
  ticks := [(DaemonEvent.atSeconds 15 3 .cleanup).ambient]
  nextClient := 1
  request := .createSession "build again" {} [] none
  ambient := (DaemonEvent.atSeconds secs 4 .cleanup).ambient

def sampleMetadata : SessionMetadata :=
  { SessionMetadata.new 0 ⟨1⟩ "build" {} [] none with
    status := .idle
    lastUsed := Duration.fromSecs 10 }

theorem reused_iff_onTime : (sample 310).Valid {} sampleMetadata ∧ (sample 310).Reused {} := by
  have hvalid : (sample 310).Valid {} sampleMetadata :=
    ⟨by decide, rfl, rfl, by decide, by decide, {}, rfl, rfl⟩
  exact ⟨hvalid, (reused_iff hvalid).mpr (Or.inl ⟨rfl, rfl⟩)⟩

/-- Ten seconds after the disconnection there is nothing to reuse. -/
theorem reused_early_false : (sample 20).Valid {} sampleMetadata ∧ ¬ (sample 20).Reused {} := by
  refine ⟨⟨by decide, rfl, rfl, by decide, by decide, {}, rfl, rfl⟩, ?_⟩
  rintro ⟨id, hreused⟩
  have hnew : ((sample 20).atRequest {}).respond (sample 20).requestEvent =
      some (.sessionCreated ⟨4⟩ false) := by decide
  cases hnew.symm.trans hreused

end Revisit

end RequestHandler

end Yuha
