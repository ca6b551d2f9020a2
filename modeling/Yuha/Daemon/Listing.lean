import Yuha.Core.ResponseEncoding
import Yuha.Daemon.ShuttingDown

/-!
# The size of a session list

`ListSessions` is answered with a summary of every registered session in one frame. The
registry takes up to 1000 sessions, and a name or an endpoint can be as long as a request
can be, so the list can be longer than a frame. The task of the client then ends.
-/

namespace Yuha

open Library Library.Execution

/-- What `serde_json` writes for a summary. -/
def SessionSummary.toVec (summary : SessionSummary) : Bytes :=
  Json.object [
    ("id", Json.string summary.id.toString),
    ("name", Json.string summary.name),
    ("connection_key", Json.string summary.connectionKey),
    ("status", Json.string summary.status),
    ("created_at", Json.string summary.createdAt),
    ("last_used", Json.string summary.lastUsed),
    ("use_count", Json.number summary.useCount)]

/-- What `serde_json` writes for `SessionList`. -/
def sessionListToVec (sessions : List SessionSummary) : Bytes :=
  Json.object [("SessionList", Json.object [
    ("sessions", Json.array (sessions.map SessionSummary.toVec))])]

/-- The size of an encoded summary: a fixed part, the texts and the digits of the count. -/
def SessionSummary.encodedSize (summary : SessionSummary) : Nat :=
  83 + Json.stringSize summary.id.toString + Json.stringSize summary.name +
    Json.stringSize summary.connectionKey + Json.stringSize summary.status +
    Json.stringSize summary.createdAt + Json.stringSize summary.lastUsed +
    Json.numberSize summary.useCount

theorem SessionSummary.length_toVec (summary : SessionSummary) :
    summary.toVec.length = summary.encodedSize := by
  have hid : Json.stringSize "id" = 4 := by decide
  have hname : Json.stringSize "name" = 6 := by decide
  have hkey : Json.stringSize "connection_key" = 16 := by decide
  have hstatus : Json.stringSize "status" = 8 := by decide
  have hcreated : Json.stringSize "created_at" = 12 := by decide
  have hused : Json.stringSize "last_used" = 11 := by decide
  have hcount : Json.stringSize "use_count" = 11 := by decide
  simp only [toVec, encodedSize, Json.length_object, Json.separatedSize, List.map_cons,
    List.map_nil, List.sum_cons, List.sum_nil, List.length_cons, List.length_nil,
    Json.length_string, Json.length_number, hid, hname, hkey, hstatus, hcreated, hused, hcount]
  omega

theorem length_sessionListToVec (sessions : List SessionSummary) :
    (sessionListToVec sessions).length =
      31 + Json.separatedSize (sessions.map fun summary => summary.encodedSize) := by
  have hname : Json.stringSize "SessionList" = 13 := by decide
  have hsessions : Json.stringSize "sessions" = 10 := by decide
  simp only [sessionListToVec, length_field, Json.length_array, List.map_map, Function.comp_def,
    SessionSummary.length_toVec, hname, hsessions]
  omega

namespace RequestHandler

/-- The bytes of the list of all registered sessions. -/
def listSize (handler : RequestHandler) : Nat :=
  31 + Json.separatedSize (handler.sessionManager.registry.sessions.entries.map
    fun entry => (summarize entry.2).encodedSize)

/-- The order of the sessions does not matter. -/
theorem length_listSessions (handler : RequestHandler) (rank : SessionId → Nat) :
    (sessionListToVec ((handler.sessionManager.listSessions rank).map summarize)).length =
      handler.listSize := by
  have hperm := (HashMap.listing_perm rank handler.sessionManager.registry.sessions).map
    fun entry => (summarize entry.2).encodedSize
  rw [length_sessionListToVec, listSize, Json.separatedSize_perm hperm.symm]
  simp only [SessionManager.listSessions, SessionRegistry.listAll, List.map_map]
  rfl

theorem createAndConnect_ne_sessionList (handler : RequestHandler) (ambient : Ambient)
    (name : String) (transportConfig : TransportConfig) (tags : List String)
    (description : Option String) (sessions : List SessionSummary) :
    (handler.createAndConnect ambient name transportConfig tags description).1 ≠
      .sessionList sessions := by
  intro h
  unfold createAndConnect at h
  split at h
  · cases h
  · split at h <;> cases h

theorem handleCreateSession_ne_sessionList (handler : RequestHandler) (ambient : Ambient)
    (name : String) (transportConfig : TransportConfig) (tags : List String)
    (description : Option String) (sessions : List SessionSummary) :
    (handler.handleCreateSession ambient name transportConfig tags description).1 ≠
      .sessionList sessions := by
  intro h
  unfold handleCreateSession at h
  split at h
  · split at h
    · cases h
    · exact createAndConnect_ne_sessionList _ ambient _ _ _ _ sessions h
  · exact createAndConnect_ne_sessionList _ ambient _ _ _ _ sessions h

/-- `ListSessions` is answered with every session. -/
theorem handleRequest_listSessions (handler : RequestHandler) (ambient : Ambient) :
    (handler.handleRequest ambient .listSessions).1 =
      .sessionList ((handler.sessionManager.listSessions ambient.rank).map summarize) :=
  rfl

/-- Only `ListSessions` is answered with a list. -/
theorem handleRequest_ne_sessionList (handler : RequestHandler) (ambient : Ambient)
    {request : DaemonRequest} (hrequest : request ≠ .listSessions)
    (sessions : List SessionSummary) :
    (handler.handleRequest ambient request).1 ≠ .sessionList sessions := by
  intro h
  cases request with
  | ping | shutdown => cases h
  | listSessions => exact hrequest rfl
  | createSession name transportConfig tags description =>
      exact handleCreateSession_ne_sessionList _ ambient _ _ _ _ sessions h
  | connectSession name transportConfig =>
      simp only [handleRequest, handleConnectSession] at h
      split at h
      · cases h
      · exact handleCreateSession_ne_sessionList _ ambient _ _ _ _ sessions h
  | disconnectSession sessionId =>
      simp only [handleRequest, handleDisconnectSession] at h
      split at h <;> cases h
  | getSessionInfo sessionId =>
      simp only [handleRequest, handleGetSessionInfo] at h
      split at h <;> cases h
  | executeCommand sessionId command =>
      simp only [handleRequest, handleExecuteCommand] at h
      split at h
      · cases h
      · split at h <;> cases h

end RequestHandler

/-- The task is about to send its answer to `ListSessions`. -/
def ClientTask.SendsList (task : ClientTask) (payload : Bytes) (last : Bool) : Prop :=
  task.phase = .replying payload last ∧ ∃ answered frame sessions,
    task.exchanges = answered ++ [⟨frame, some (.sessionList sessions)⟩]

namespace DaemonServer

variable {codec : DaemonCodec} {server : DaemonServer}

/-- Every list that is about to be sent fits a frame, and its client stays connected. -/
def ListsFit (server : DaemonServer) : Prop :=
  ∀ (i : Nat) (task : ClientTask) (payload : Bytes) (last : Bool), server.tasks[i]? = some task →
    task.SendsList payload last →
      payload.length ≤ maxPayload ∧ (replied task payload last none).phase = .receiving

/-- The registered sessions fit one answer when a client asks for their list. -/
def SessionsFit (codec : DaemonCodec) (server : DaemonServer) (event : ServerEvent) : Prop :=
  ∀ i frame ambient task, event = .receive i frame ambient → server.tasks[i]? = some task →
    task.phase = .receiving → codec.requestFromSlice frame.val = .ok .listSessions →
      server.requestHandler.listSize ≤ maxPayload

/-- A list is written as `serde_json` writes it. -/
def WritesLists (codec : DaemonCodec) : Prop :=
  ∀ sessions, codec.responseToVec (.sessionList sessions) = .ok (sessionListToVec sessions)

/-- The server and the task after a frame that decodes to a request, save `Shutdown`. -/
theorem handleFrame_of_ok (server : DaemonServer) (task : ClientTask) (ambient : Ambient)
    {frame : Payload} {request : DaemonRequest}
    (hframe : codec.requestFromSlice frame.val = .ok request) (hrequest : request ≠ .shutdown) :
    handleFrame codec server ambient task frame =
      ({ server with
          requestHandler := (server.requestHandler.handleRequest ambient request).2 },
        { task with
          phase := match codec.responseToVec
              (server.requestHandler.handleRequest ambient request).1 with
            | .ok payload => .replying payload false
            | .error _ => task.phase
          exchanges := task.exchanges ++
            [⟨frame, some (server.requestHandler.handleRequest ambient request).1⟩] }) := by
  unfold handleFrame
  rw [hframe]
  cases request with
  | shutdown => exact absurd rfl hrequest
  | _ =>
      dsimp only
      split <;> simp_all

theorem requestHandler_step_receive {i : Nat} {task : ClientTask}
    (htask : server.tasks[i]? = some task) (hphase : task.phase = .receiving) {frame : Payload}
    {request : DaemonRequest} (hframe : codec.requestFromSlice frame.val = .ok request)
    (hrequest : request ≠ .shutdown) (ambient : Ambient) :
    (step codec server (.receive i frame ambient)).requestHandler =
      (server.requestHandler.handleRequest ambient request).2 := by
  simp only [step, htask, hphase, handleFrame_of_ok server task ambient hframe hrequest]

theorem requestHandler_step_reply (codec : DaemonCodec) (server : DaemonServer) (i : Nat)
    (interruption : Option Interruption) :
    (step codec server (.reply i interruption)).requestHandler = server.requestHandler := by
  apply requestHandler_step_of_not_passes
  · rintro ⟨j, frame, ambient, task, request, ⟨⟩, _⟩
  · rintro ambient ⟨⟩

/-- A task that waits for a frame sends a list next only if the frame asks for it. -/
theorem handleFrame_sendsList (hcodec : WritesLists codec) {task : ClientTask}
    (hphase : task.phase = .receiving) {ambient : Ambient} {frame : Payload} {payload : Bytes}
    {last : Bool} (h : (handleFrame codec server ambient task frame).2.SendsList payload last) :
    codec.requestFromSlice frame.val = .ok .listSessions ∧ last = false ∧
      payload.length = server.requestHandler.listSize := by
  obtain ⟨hreplying, answered, frame', sessions, hexchanges⟩ := h
  cases hframe : codec.requestFromSlice frame.val with
  | error e => simp [handleFrame, hframe, hphase] at hreplying
  | ok request =>
      by_cases hshutdown : request = .shutdown
      · subst hshutdown
        unfold handleFrame at hexchanges
        rw [hframe] at hexchanges
        dsimp only at hexchanges
        split at hexchanges
        all_goals
          have hlast := List.append_inj_right' hexchanges rfl
          cases hlast
      · rw [handleFrame_of_ok _ task ambient hframe hshutdown] at hreplying hexchanges
        have hlast := List.append_inj_right' hexchanges rfl
        simp only [List.cons.injEq, Exchange.mk.injEq, Option.some.injEq, and_true] at hlast
        obtain ⟨_, hresponse⟩ := hlast
        have hlist : request = .listSessions := by
          by_contra hother
          exact RequestHandler.handleRequest_ne_sessionList _ ambient hother sessions hresponse
        subst hlist
        dsimp only at hreplying
        rw [hresponse, hcodec sessions] at hreplying
        obtain ⟨rfl, rfl⟩ := TaskPhase.replying.inj hreplying
        refine ⟨rfl, rfl, ?_⟩
        rw [← server.requestHandler.length_listSessions ambient.rank]
        cases hresponse
        rfl

/-- The list that a frame asks for is sent next. -/
theorem sendsList_handleFrame (hcodec : WritesLists codec) (task : ClientTask)
    (ambient : Ambient) {frame : Payload}
    (hframe : codec.requestFromSlice frame.val = .ok .listSessions) :
    ∃ payload, (handleFrame codec server ambient task frame).2.SendsList payload false ∧
      payload.length = server.requestHandler.listSize := by
  let sessions := (server.requestHandler.sessionManager.listSessions ambient.rank).map
    RequestHandler.summarize
  rw [handleFrame_of_ok server task ambient hframe (by rintro ⟨⟩),
    RequestHandler.handleRequest_listSessions, hcodec sessions]
  exact ⟨sessionListToVec sessions, ⟨rfl, task.exchanges, frame, sessions, rfl⟩,
    server.requestHandler.length_listSessions ambient.rank⟩

theorem replied_of_le (task : ClientTask) {payload : Bytes}
    (hfits : payload.length ≤ maxPayload) :
    (replied task payload false none).phase = .receiving := by
  have houtcome := send_outcome payload none
  rw [if_neg (Nat.not_lt.mpr hfits)] at houtcome
  simp [replied, houtcome]

theorem phase_replied_ne (task : ClientTask) (payload' : Bytes) (last' : Bool)
    (interruption : Option Interruption) {payload : Bytes} {last : Bool} :
    (replied task payload' last' interruption).phase ≠ .replying payload last := by
  intro h
  unfold replied at h
  split at h
  · cases last' <;> cases h
  · cases h

/-- A step keeps the lists small if the sessions fit when they are asked for. -/
theorem ListsFit.step (hcodec : WritesLists codec) (h : server.ListsFit) {event : ServerEvent}
    (hsessions : server.SessionsFit codec event) : (step codec server event).ListsFit := by
  intro i task payload last htask hsends
  obtain ⟨clientId, rfl⟩ | ⟨before, hold, rfl⟩ := getElem?_step_cases htask
  · cases hsends.1
  obtain hsame | ⟨frame, ambient, rfl, hphase, hnext⟩ | ⟨_, _, hnext⟩ |
    ⟨payload', last', interruption, _, _, hnext⟩ := taskStep_cases codec server i before event
  · rw [hsame] at hsends ⊢
    exact h i before payload last hold hsends
  · rw [hnext] at hsends ⊢
    obtain ⟨hframe, rfl, hlength⟩ := handleFrame_sendsList hcodec hphase hsends
    have hfits := hsessions i frame ambient before rfl hold hphase hframe
    rw [← hlength] at hfits
    exact ⟨hfits, replied_of_le _ hfits⟩
  · rw [hnext] at hsends
    cases hsends.1
  · rw [hnext] at hsends
    exact absurd hsends.1 (phase_replied_ne before payload' last' interruption)

/-- A request for a list that is too long breaks the invariant. -/
theorem not_listsFit_receive (hcodec : WritesLists codec) {i : Nat} {task : ClientTask}
    (htask : server.tasks[i]? = some task) (hphase : task.phase = .receiving) {frame : Payload}
    (hframe : codec.requestFromSlice frame.val = .ok .listSessions) (ambient : Ambient)
    (hlong : maxPayload < server.requestHandler.listSize) :
    ¬ (step codec server (.receive i frame ambient)).ListsFit := by
  intro hafter
  obtain ⟨payload, hsends, hlength⟩ := sendsList_handleFrame hcodec task ambient hframe
  have hstep := getElem?_step_of_some codec htask (.receive i frame ambient)
  simp only [taskStep, hphase, and_self, if_true] at hstep
  have hfits := (hafter i _ payload false hstep hsends).1
  omega

/-- In every run, every session list fits a frame exactly if the registered sessions fit
whenever a client asks for their list. -/
theorem listsFit_iff_sessionsFit (hcodec : WritesLists codec) (config : DaemonConfig)
    (events : List ServerEvent) :
    Always (step codec) ListsFit (new config) events ↔
      Along (step codec) (fun _ server event => server.SessionsFit codec event)
        (new config) events := by
  apply always_iff_along (A := fun _ _ _ => True) (I := fun _ server => server.ListsFit)
  · exact fun _ _ _ => trivial
  · intro i task payload last htask
    simp [new] at htask
  · exact fun _ _ h => h
  · exact fun _ _ _ h _ hsessions => h.step hcodec hsessions
  · intro _ server event _ _ hsessions
    unfold SessionsFit at hsessions
    push Not at hsessions
    obtain ⟨i, frame, ambient, task, rfl, htask, hphase, hframe, hlong⟩ := hsessions
    exact not_listsFit_receive hcodec htask hphase hframe ambient hlong

/-! ## Sessions with short and with long names -/

/-- A local endpoint without its section. -/
def unlisted : TransportConfig := { «local» := none }

/-- A name of that many letters. -/
def nameOf (n : Nat) : String := String.ofList (List.replicate n 'a')

/-- What `serde_json` writes for a request to connect to a session of that name. -/
def connectText (n : Nat) : Bytes :=
  ascii "\x7b\"ConnectSession\":\x7b\"name\":\"" ++ List.replicate n 0x61 ++
    ascii "\",\"transport_config\":\x7b\"transport_type\":\"local\",\"ssh\":null," ++
    ascii "\"local\":null,\"tcp\":null,\"wsl\":null,\"general\":\x7b\"max_retries\":3," ++
    ascii "\"retry_delay\":1000,\"env_vars\":\x7b\x7d,\"remote_binary_path\":null\x7d\x7d\x7d\x7d"

theorem length_connectText (n : Nat) : (connectText n).length = n + 209 := by
  simp only [connectText, ascii, List.length_append, List.length_replicate, List.length_map,
    String.reduceToList, List.length_cons, List.length_nil]
  omega

def connectFrame (n : Nat) (h : n ≤ 65326) : Payload :=
  ⟨connectText n, by rw [length_connectText, maxPayload]; omega⟩

def listFrame : Payload := ⟨ascii "\"ListSessions\"", by decide⟩

/-- The texts `serde_json` reads and writes. -/
def listingCodec : DaemonCodec where
  requestFromSlice bytes :=
    if bytes = connectText (bytes.length - 209) then
      .ok (.connectSession (nameOf (bytes.length - 209)) unlisted)
    else if bytes = ascii "\"ListSessions\"" then .ok .listSessions
    else pingCodec.requestFromSlice bytes
  responseToVec
    | .sessionList sessions => .ok (sessionListToVec sessions)
    | .sessionCreated sessionId reused => .ok (Json.object [("SessionCreated", Json.object [
        ("session_id", Json.string sessionId.toString),
        ("reused", ascii (if reused then "true" else "false"))])])
    | response => pingCodec.responseToVec response

theorem writesLists_listingCodec : WritesLists listingCodec := fun _ => rfl

theorem requestFromSlice_connectText (n : Nat) :
    listingCodec.requestFromSlice (connectText n) = .ok (.connectSession (nameOf n) unlisted) := by
  have hlength : (connectText n).length - 209 = n := by rw [length_connectText]; omega
  simp only [listingCodec, hlength, if_true]

theorem requestFromSlice_connectFrame (n : Nat) (h : n ≤ 65326) :
    listingCodec.requestFromSlice (connectFrame n h).val =
      .ok (.connectSession (nameOf n) unlisted) :=
  requestFromSlice_connectText n

theorem requestFromSlice_listFrame :
    listingCodec.requestFromSlice listFrame.val = .ok .listSessions := by
  have hother : listFrame.val ≠ connectText (listFrame.val.length - 209) := by
    intro h
    have hlength := congrArg List.length h
    rw [length_connectText] at hlength
    exact absurd hlength (by decide)
  simp only [listingCodec, hother, if_false]
  exact if_pos rfl

/-- The sessions after the request: one, with that name. -/
theorem entries_connectSession (name : String) :
    ((RequestHandler.new (.new (DaemonConfig.sessionConfig {}))).handleRequest idleAmbient
      (.connectSession name unlisted)).2.sessionManager.registry.sessions.entries.map
        (fun entry => RequestHandler.summarize entry.2) =
      [{ id := ⟨1⟩, name := name, connectionKey := unlisted.connectionKey, status := "Active",
         createdAt := SystemTime.debug 0, lastUsed := SystemTime.debug 0, useCount := 0 }] :=
  rfl

theorem listSize_connectSession (n : Nat) :
    ((RequestHandler.new (.new (DaemonConfig.sessionConfig {}))).handleRequest idleAmbient
      (.connectSession (nameOf n) unlisted)).2.listSize =
      n + 256 := by
  have hletter : Json.escapeSize 'a' = 1 := by decide
  have hid : Json.stringSize (SessionId.toString ⟨1⟩) = 38 := by decide
  have hkey : Json.stringSize unlisted.connectionKey = 17 := by decide
  have hstatus : Json.stringSize "Active" = 8 := by decide
  have htime : Json.stringSize (SystemTime.debug 0) = 38 := by decide
  have hcount : Json.numberSize 0 = 1 := by decide
  have hentries := congrArg (List.map SessionSummary.encodedSize)
    (entries_connectSession (nameOf n))
  rw [List.map_map] at hentries
  simp only [RequestHandler.listSize]
  rw [show (fun entry : (_ : SessionId) × SessionMetadata =>
    (RequestHandler.summarize entry.2).encodedSize) =
      SessionSummary.encodedSize ∘ fun entry => RequestHandler.summarize entry.2 from rfl, hentries]
  simp only [List.map_cons, List.map_nil, Json.separatedSize, List.sum_cons, List.sum_nil,
    List.length_cons, List.length_nil, SessionSummary.encodedSize, hid, hkey, hstatus, htime,
    hcount, nameOf, Json.stringSize_replicate, hletter]
  omega

theorem response_connectSession (name : String) :
    ((RequestHandler.new (.new (DaemonConfig.sessionConfig {}))).handleRequest idleAmbient
      (.connectSession name unlisted)).1 = .sessionCreated ⟨1⟩ false :=
  rfl

/-- A client connects to two sessions, one after the other, and asks for the list of them. -/
def twoSessionsEvents : List ServerEvent :=
  [.checkShutdown, .accept, .receive 0 (connectFrame 1 (by decide)) idleAmbient, .reply 0 none,
    .receive 0 (connectFrame 2 (by decide)) { idleAmbient with freshId := ⟨2⟩ }, .reply 0 none,
    .receive 0 listFrame idleAmbient, .reply 0 none]

/-- Only a list that is asked for has to fit. -/
theorem sessionsFit_connectFrame (server : DaemonServer) (i n : Nat) (h : n ≤ 65326)
    (ambient : Ambient) :
    server.SessionsFit listingCodec (.receive i (connectFrame n h) ambient) := by
  rintro j frame ambient' task heq - - hframe
  obtain ⟨rfl, rfl, rfl⟩ := ServerEvent.receive.inj heq
  rw [requestFromSlice_connectFrame] at hframe
  cases hframe

theorem listsFit_iff_sessionsFit_twoSessions :
    Always (step listingCodec) ListsFit (new {}) twoSessionsEvents := by
  apply (listsFit_iff_sessionsFit writesLists_listingCodec {} twoSessionsEvents).mpr
  simp only [twoSessionsEvents, along_cons, along_nil, and_true, sessionsFit_connectFrame, true_and]
  refine ⟨?_, ?_, ?_, ?_, ?_, ?_⟩
  case refine_5 =>
    intro i frame ambient task _ _ _ _
    decide +kernel
  all_goals
    rintro i frame ambient task ⟨⟩

/-- A client connects to a session. -/
def connectEvents (frame : Payload) : List ServerEvent :=
  [.checkShutdown, .accept, .receive 0 frame idleAmbient, .reply 0 none]

/-- The client waits for its next answer, and the only session has the name it gave. -/
theorem run_connectEvents {codec : DaemonCodec} {frame : Payload} {n : Nat} {payload : Bytes}
    (hframe : codec.requestFromSlice frame.val = .ok (.connectSession (nameOf n) unlisted))
    (hpayload : codec.responseToVec (.sessionCreated ⟨1⟩ false) = .ok payload)
    (hfits : payload.length ≤ maxPayload) :
    ∃ (server : DaemonServer) (task : ClientTask),
      run (step codec) (new {}) (connectEvents frame) = server ∧
      server.tasks[0]? = some task ∧ task.phase = .receiving ∧
      server.requestHandler.listSize = n + 256 := by
  have haccepted : ∃ server, run (step codec) (new {}) [.checkShutdown, .accept] = server ∧
      server.tasks[0]? = some { clientId := 1 } ∧
      server.requestHandler = .new (.new (DaemonConfig.sessionConfig {})) := ⟨_, rfl, rfl, rfl⟩
  obtain ⟨accepted, hrun, htask, hhandler⟩ := haccepted
  have hreceive := getElem?_step_of_some codec htask (.receive 0 frame idleAmbient)
  have hconnected := requestHandler_step_receive htask rfl hframe (by rintro ⟨⟩) idleAmbient
  simp only [taskStep, and_self, if_true] at hreceive
  rw [handleFrame_of_ok accepted _ idleAmbient hframe (by rintro ⟨⟩), hhandler,
    response_connectSession, hpayload] at hreceive
  have hrest : run (step codec) (new {}) (connectEvents frame) =
      step codec (step codec accepted (.receive 0 frame idleAmbient)) (.reply 0 none) := by
    rw [← hrun]
    rfl
  refine ⟨_, _, hrest, getElem?_step_of_some codec hreceive (.reply 0 none),
    replied_of_le _ hfits, ?_⟩
  rw [requestHandler_step_reply, hconnected, hhandler, listSize_connectSession]

/-- The list of the one session with the long name does not fit. -/
theorem listsFit_longName_false :
    ¬ Always (step listingCodec) ListsFit (new {})
      (connectEvents (connectFrame 65300 (by decide)) ++ [.receive 0 listFrame idleAmbient]) := by
  intro h
  have hlast := h.last
  have hframe := requestFromSlice_connectFrame 65300 (by decide)
  obtain ⟨server, task, hrun, htask, hphase, hsize⟩ := run_connectEvents hframe rfl (by decide)
  rw [run_append, hrun, run_cons, run_nil] at hlast
  refine not_listsFit_receive writesLists_listingCodec htask hphase requestFromSlice_listFrame
    idleAmbient ?_ hlast
  rw [hsize]
  decide

end DaemonServer

end Yuha
