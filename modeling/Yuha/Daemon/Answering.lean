import Yuha.Daemon.Server
import Yuha.Daemon.Stored
import Yuha.Library.Execution

/-!
# One response for every frame

While its connection is open, a task answers every frame that decodes before it receives
the next one. A frame that does not decode is consumed without an answer, so the
responses of a connection pair up with its frames exactly as long as all of them decode.
-/

namespace Yuha

open Library Execution

/-- All paths in the response are UTF-8. -/
def DaemonResponse.PathsUtf8 : DaemonResponse → Prop
  | .sessionInfo session => session.transportConfig.PathsUtf8
  | _ => True

/-- JSON strings are UTF-8, so a decoded request holds no other path; and a path that is
not UTF-8 is all that can keep a response from being written. -/
structure DaemonCodec.Faithful (codec : DaemonCodec) : Prop where
  request_utf8 : ∀ bytes request transportConfig,
    codec.requestFromSlice bytes = .ok request → request.endpoint = some transportConfig →
    transportConfig.PathsUtf8
  response_ok : ∀ response : DaemonResponse, response.PathsUtf8 →
    ∃ payload, codec.responseToVec response = .ok payload

namespace RequestHandler

/-- Only a session's own configuration appears in a response. -/
theorem pathsUtf8_handleRequest {handler : RequestHandler} (ambient : Ambient)
    (h : handler.sessionManager.Stores TransportConfig.PathsUtf8) (request : DaemonRequest) :
    (handler.handleRequest ambient request).1.PathsUtf8 := by
  cases request with
  | ping | listSessions | shutdown => trivial
  | createSession name transportConfig tags description =>
      simp only [handleRequest, handleCreateSession, createAndConnect]
      repeat' split
      all_goals trivial
  | connectSession name transportConfig =>
      simp only [handleRequest, handleConnectSession, handleCreateSession, createAndConnect]
      repeat' split
      all_goals trivial
  | disconnectSession sessionId =>
      simp only [handleRequest, handleDisconnectSession]
      split <;> trivial
  | executeCommand sessionId command =>
      simp only [handleRequest, handleExecuteCommand]
      repeat' split
      all_goals trivial
  | getSessionInfo sessionId =>
      simp only [handleRequest, handleGetSessionInfo]
      split
      · next metadata hget => exact h sessionId metadata hget
      · trivial

end RequestHandler

/-- The payload is the response computed for the frame, or some error if none was. -/
def Exchange.AnsweredBy (codec : DaemonCodec) (exchange : Exchange) (payload : Bytes) : Prop :=
  match exchange.response with
  | some response => codec.responseToVec response = .ok payload
  | none => ∃ code message, codec.responseToVec (.error code message) = .ok payload

/-- As long as the connection is open, the k-th response answers the k-th frame. In
`receive` every frame is answered, in `send` all but the last, whose answer is on its
way. -/
def ClientTask.Paired (codec : DaemonCodec) (task : ClientTask) : Prop :=
  match task.phase with
  | .receiving => List.Forall₂ (Exchange.AnsweredBy codec) task.exchanges task.sent
  | .replying payload _ => ∃ answered current, task.exchanges = answered ++ [current] ∧
      List.Forall₂ (Exchange.AnsweredBy codec) answered task.sent ∧
      current.AnsweredBy codec payload
  | .closed => True

namespace DaemonServer

variable {codec : DaemonCodec} {server : DaemonServer} {i : Nat}

/-- The connection's responses pair up with its frames. -/
def PairedAt (codec : DaemonCodec) (i : Nat) (server : DaemonServer) : Prop :=
  ∀ task, server.tasks[i]? = some task → task.Paired codec

/-- If the event is a frame received on the connection, it decodes. -/
def DecodesAt (codec : DaemonCodec) (i : Nat) (server : DaemonServer) (event : ServerEvent) :
    Prop :=
  ∀ frame ambient task, event = .receive i frame ambient → server.tasks[i]? = some task →
    task.phase = .receiving → ∃ request, codec.requestFromSlice frame.val = .ok request

/-! ## One step -/

@[simp] theorem handleFrame_tasks (ambient : Ambient) (task : ClientTask) (frame : Payload) :
    (handleFrame codec server ambient task frame).1.tasks = server.tasks := by
  obtain ⟨_, _, heq⟩ := handleFrame_fst codec server ambient task frame
  rw [heq]

/-- What an event does to the task of a connection. -/
def taskStep (codec : DaemonCodec) (server : DaemonServer) (i : Nat) (task : ClientTask) :
    ServerEvent → ClientTask
  | .receive j frame ambient =>
      if j = i ∧ task.phase = .receiving then
        (handleFrame codec server ambient task frame).2
      else task
  | .hangUp j =>
      if j = i ∧ task.phase = .receiving then { task with phase := .closed } else task
  | .reply j interruption =>
      if j = i then
        match task.phase with
        | .replying payload last => replied task payload last interruption
        | _ => task
      else task
  | _ => task

/-- All that an event can do to a task. -/
theorem taskStep_cases (codec : DaemonCodec) (server : DaemonServer) (i : Nat)
    (task : ClientTask) (event : ServerEvent) :
    taskStep codec server i task event = task ∨
      (∃ frame ambient, event = .receive i frame ambient ∧ task.phase = .receiving ∧
        taskStep codec server i task event =
          (handleFrame codec server ambient task frame).2) ∨
      (event = .hangUp i ∧ task.phase = .receiving ∧
        taskStep codec server i task event = { task with phase := .closed }) ∨
      ∃ payload last interruption, event = .reply i interruption ∧
        task.phase = .replying payload last ∧
        taskStep codec server i task event = replied task payload last interruption := by
  cases event with
  | checkShutdown | accept | acceptFailed | cleanup _ => exact Or.inl rfl
  | receive j frame ambient =>
      by_cases hhere : j = i ∧ task.phase = .receiving
      · obtain ⟨rfl, hphase⟩ := hhere
        exact Or.inr (Or.inl ⟨frame, ambient, rfl, hphase, if_pos ⟨rfl, hphase⟩⟩)
      · exact Or.inl (if_neg hhere)
  | hangUp j =>
      by_cases hhere : j = i ∧ task.phase = .receiving
      · obtain ⟨rfl, hphase⟩ := hhere
        exact Or.inr (Or.inr (Or.inl ⟨rfl, hphase, if_pos ⟨rfl, hphase⟩⟩))
      · exact Or.inl (if_neg hhere)
  | reply j interruption =>
      by_cases hj : j = i
      · subst hj
        cases hphase : task.phase with
        | replying payload last =>
            apply Or.inr ∘ Or.inr ∘ Or.inr
            exact ⟨payload, last, interruption, rfl, rfl, by simp [taskStep, hphase]⟩
        | receiving | closed => exact Or.inl (by simp [taskStep, hphase])
      · exact Or.inl (if_neg hj)

theorem tasks_acceptConnection (server : DaemonServer) :
    server.acceptConnection.tasks = server.tasks ∨
      ∃ clientId, server.acceptConnection.tasks = server.tasks ++ [{ clientId := clientId }] := by
  unfold acceptConnection
  dsimp only
  split
  · exact Or.inl rfl
  · exact Or.inr ⟨_, rfl⟩

theorem getElem?_step_of_some (codec : DaemonCodec) {task : ClientTask}
    (h : server.tasks[i]? = some task)
    (event : ServerEvent) :
    (step codec server event).tasks[i]? = some (taskStep codec server i task event) := by
  have hlt : i < server.tasks.length := (List.getElem?_eq_some_iff.mp h).1
  cases event with
  | checkShutdown | acceptFailed | cleanup _ =>
      simp only [step]
      split <;> exact h
  | accept =>
      simp only [step]
      split
      · rcases server.tasks_acceptConnection with hsame | ⟨clientId, hnew⟩
        · rw [hsame]
          exact h
        · rw [hnew, List.getElem?_append_left hlt]
          exact h
      · exact h
  | receive j frame ambient =>
      by_cases hj : j = i
      · subst hj
        cases hphase : task.phase <;> simp only [step, taskStep, h, hphase]
        · rw [handleFrame_tasks, List.getElem?_set_self hlt]
          simp
        all_goals simp
      · simp only [step, taskStep, hj, false_and, if_false]
        repeat' split
        all_goals simp [h, hj]
  | hangUp j =>
      by_cases hj : j = i
      · subst hj
        cases hphase : task.phase <;> simp only [step, taskStep, h, hphase]
        · rw [List.getElem?_set_self hlt]
          simp
        all_goals simp
      · simp only [step, taskStep, hj, false_and, if_false]
        repeat' split
        all_goals simp [h, hj]
  | reply j interruption =>
      by_cases hj : j = i
      · subst hj
        cases hphase : task.phase <;> simp only [step, taskStep, h, hphase]
        case replying payload last =>
          rw [List.getElem?_set_self hlt]
          simp
        all_goals simp
      · simp only [step, taskStep, hj, if_false]
        repeat' split
        all_goals simp [h, hj]

/-- A new connection has received and sent nothing. -/
theorem getElem?_step_of_none (h : server.tasks[i]? = none) (event : ServerEvent)
    {task : ClientTask} (htask : (step codec server event).tasks[i]? = some task) :
    ∃ clientId, task = { clientId := clientId } := by
  have hold : (step codec server event).tasks[i]? = none →
      ∃ clientId, task = { clientId := clientId } := by
    intro hnone
    rw [hnone] at htask
    cases htask
  have hlen : server.tasks.length ≤ i := List.getElem?_eq_none_iff.mp h
  cases event with
  | accept =>
      simp only [step] at htask
      split at htask
      · rcases server.tasks_acceptConnection with hsame | ⟨clientId, hnew⟩
        · rw [hsame, h] at htask
          cases htask
        · rw [hnew, List.getElem?_append_right hlen] at htask
          exact ⟨clientId, List.mem_singleton.mp (List.mem_of_getElem? htask)⟩
      · rw [h] at htask
        cases htask
  | checkShutdown | acceptFailed | cleanup _ =>
      apply hold
      simp only [step]
      split <;> exact h
  | receive j _ _ | hangUp j | reply j _ =>
      apply hold
      simp only [step]
      repeat' split
      all_goals simpa using hlen

/-- A task after a step is new, or what the step made of it. -/
theorem getElem?_step_cases {event : ServerEvent} {task : ClientTask}
    (htask : (step codec server event).tasks[i]? = some task) :
    (∃ clientId, task = { clientId := clientId }) ∨
      ∃ before, server.tasks[i]? = some before ∧ task = taskStep codec server i before event := by
  cases hold : server.tasks[i]? with
  | none => exact Or.inl (getElem?_step_of_none hold event htask)
  | some before =>
      rw [getElem?_step_of_some codec hold event] at htask
      exact Or.inr ⟨before, rfl, (Option.some.inj htask).symm⟩

/-! ## Pairing -/

/-- A frame that decodes is answered, since a faithful codec can write every response. -/
theorem paired_handleFrame (hcodec : codec.Faithful)
    (hstored : server.requestHandler.sessionManager.Stores TransportConfig.PathsUtf8)
    {task : ClientTask} (hphase : task.phase = .receiving) (hpaired : task.Paired codec)
    (ambient : Ambient) {frame : Payload} {request : DaemonRequest}
    (hdecodes : codec.requestFromSlice frame.val = .ok request) :
    (handleFrame codec server ambient task frame).2.Paired codec := by
  unfold ClientTask.Paired at hpaired
  rw [hphase] at hpaired
  unfold handleFrame
  rw [hdecodes]
  dsimp only
  split
  · next herror => cases herror
  · obtain ⟨payload, hpayload⟩ := hcodec.response_ok .shuttingDown trivial
    rw [hpayload]
    exact ⟨task.exchanges, _, rfl, hpaired, hpayload⟩
  · next request' _ hrequest =>
      obtain ⟨payload, hpayload⟩ := hcodec.response_ok _
        (RequestHandler.pathsUtf8_handleRequest ambient hstored request')
      rw [hpayload]
      exact ⟨task.exchanges, _, rfl, hpaired, hpayload⟩

/-- A frame that does not decode leaves the task with a frame more and no response. -/
theorem not_paired_handleFrame {task : ClientTask} (hphase : task.phase = .receiving)
    (hpaired : task.Paired codec) (ambient : Ambient) {frame : Payload}
    (hdecodes : ¬ ∃ request, codec.requestFromSlice frame.val = .ok request) :
    ¬ (handleFrame codec server ambient task frame).2.Paired codec := by
  unfold ClientTask.Paired at hpaired
  rw [hphase] at hpaired
  cases hresult : codec.requestFromSlice frame.val with
  | ok request => exact absurd ⟨request, hresult⟩ hdecodes
  | error e =>
      intro hafter
      simp only [handleFrame, hresult, ClientTask.Paired, hphase] at hafter
      have hbefore := hpaired.length_eq
      have hlength := hafter.length_eq
      simp only [List.length_append, List.length_singleton] at hlength
      omega

theorem paired_replied {task : ClientTask} {payload : Bytes} {last : Bool}
    (hphase : task.phase = .replying payload last) (hpaired : task.Paired codec)
    (interruption : Option Interruption) :
    (replied task payload last interruption).Paired codec := by
  unfold ClientTask.Paired at hpaired
  rw [hphase] at hpaired
  obtain ⟨answered, current, hexchanges, hfront, hcurrent⟩ := hpaired
  unfold replied
  split
  · cases last with
    | true => trivial
    | false =>
        change List.Forall₂ _ task.exchanges (task.sent ++ [payload])
        rw [hexchanges]
        exact List.rel_append hfront (List.Forall₂.cons hcurrent List.Forall₂.nil)
  · trivial

theorem paired_taskStep (hcodec : codec.Faithful)
    (hstored : server.requestHandler.sessionManager.Stores TransportConfig.PathsUtf8)
    {task : ClientTask} (htask : server.tasks[i]? = some task) (hpaired : task.Paired codec)
    {event : ServerEvent} (hdecodes : server.DecodesAt codec i event) :
    (taskStep codec server i task event).Paired codec := by
  obtain hsame | ⟨frame, ambient, rfl, hphase, hnext⟩ | ⟨rfl, _, hnext⟩ |
    ⟨payload, last, interruption, rfl, hphase, hnext⟩ := taskStep_cases codec server i task event
  · rwa [hsame]
  · obtain ⟨request, hrequest⟩ := hdecodes frame ambient task rfl htask hphase
    rw [hnext]
    exact paired_handleFrame hcodec hstored hphase hpaired ambient hrequest
  · rw [hnext]
    trivial
  · rw [hnext]
    exact paired_replied hphase hpaired interruption

theorem stores_handleFrame (hcodec : codec.Faithful)
    (hstored : server.requestHandler.sessionManager.Stores TransportConfig.PathsUtf8)
    (ambient : Ambient) (task : ClientTask) (frame : Payload) :
    (handleFrame codec server ambient task frame).1.requestHandler.sessionManager.Stores
      TransportConfig.PathsUtf8 := by
  unfold handleFrame
  split
  · exact hstored
  · split <;> exact hstored
  · next request _ hrequest =>
      have hafter := RequestHandler.stores_handleRequest ambient hstored
        fun transportConfig hendpoint =>
          hcodec.request_utf8 frame.val request transportConfig hrequest hendpoint
      dsimp only
      split <;> exact hafter

/-- Only configurations from decoded requests are ever stored. -/
theorem stores_step (hcodec : codec.Faithful)
    (hstored : server.requestHandler.sessionManager.Stores TransportConfig.PathsUtf8)
    (event : ServerEvent) :
    (step codec server event).requestHandler.sessionManager.Stores TransportConfig.PathsUtf8 := by
  cases event with
  | checkShutdown | acceptFailed =>
      simp only [step]
      split <;> exact hstored
  | accept =>
      simp only [step, acceptConnection]
      repeat' split
      all_goals exact hstored
  | receive j frame ambient =>
      simp only [step]
      repeat' split
      · exact stores_handleFrame hcodec hstored ambient _ frame
      all_goals exact hstored
  | hangUp j =>
      simp only [step]
      repeat' split
      all_goals exact hstored
  | reply j interruption =>
      simp only [step]
      repeat' split
      all_goals exact hstored
  | cleanup ambient =>
      simp only [step]
      split
      · exact hstored
      · exact hstored.cleanup ambient.now ambient.rank

/-- On every connection, in every run of the server with any number of other clients,
each frame received is answered by exactly one response in its turn for as long as the
connection stays open, if and only if every frame received on it decodes. -/
theorem pairedAt_iff_decodesAt (hcodec : codec.Faithful) (config : DaemonConfig) (i : Nat)
    (events : List ServerEvent) :
    Always (step codec) (PairedAt codec i) (new config) events ↔
      Along (step codec) (fun _ server event => server.DecodesAt codec i event)
        (new config) events := by
  refine always_iff_along (A := fun _ _ _ => True)
    (I := fun _ server => server.requestHandler.sessionManager.Stores
      TransportConfig.PathsUtf8 ∧ server.PairedAt codec i)
    (fun _ _ _ => trivial) ?_ (fun _ _ h => h.2) ?_ ?_
  · refine ⟨fun id metadata hget => ?_, fun task htask => ?_⟩
    · simp [new, RequestHandler.new, SessionManager.new, SessionManager.getSession] at hget
    · simp [new] at htask
  · rintro _ server event ⟨hstored, hpaired⟩ - hdecodes
    refine ⟨stores_step hcodec hstored event, fun task htask => ?_⟩
    obtain ⟨clientId, rfl⟩ | ⟨before, hold, rfl⟩ := getElem?_step_cases htask
    · exact List.Forall₂.nil
    · exact paired_taskStep hcodec hstored hold (hpaired before hold) hdecodes
  · rintro _ server event ⟨_, hpaired⟩ - hdecodes hafter
    unfold DecodesAt at hdecodes
    push Not at hdecodes
    obtain ⟨frame, ambient, task, rfl, htask, hphase, hundecodable⟩ := hdecodes
    have hstep := getElem?_step_of_some codec htask (.receive i frame ambient)
    simp only [taskStep, hphase, and_self, if_true] at hstep
    refine not_paired_handleFrame hphase (hpaired task htask) ambient ?_ (hafter _ hstep)
    rintro ⟨request, hrequest⟩
    exact hundecodable request hrequest

/-! ## A client that pings -/

/-- The texts `serde_json` reads and writes for a ping. -/
def pingCodec : DaemonCodec where
  requestFromSlice bytes :=
    if bytes = ascii "\"Ping\"" then .ok .ping
    else .error "expected value at line 1 column 1"
  responseToVec
    | .pong => .ok (ascii "\"Pong\"")
    | _ => .ok (ascii "\"ShuttingDown\"")

theorem faithful_pingCodec : pingCodec.Faithful where
  request_utf8 bytes request transportConfig hrequest hendpoint := by
    simp only [pingCodec] at hrequest
    split at hrequest
    · cases hrequest
      cases hendpoint
    · cases hrequest
  response_ok response _ := by
    cases response <;> exact ⟨_, rfl⟩

def pingFrame : Payload := ⟨ascii "\"Ping\"", by decide⟩

def idleAmbient : Ambient where
  now := 0
  freshId := ⟨1⟩
  rank _ := 0

/-- Two pings on one connection. -/
def pingEvents : List ServerEvent :=
  [.checkShutdown, .accept, .receive 0 pingFrame idleAmbient, .reply 0 none,
    .receive 0 pingFrame idleAmbient, .reply 0 none]

theorem pairedAt_iff_decodesAt_ping :
    Always (step pingCodec) (PairedAt pingCodec 0) (new {}) pingEvents := by
  apply (pairedAt_iff_decodesAt faithful_pingCodec {} 0 pingEvents).mpr
  have hping : ∀ (server : DaemonServer),
      server.DecodesAt pingCodec 0 (.receive 0 pingFrame idleAmbient) := by
    rintro server frame ambient task hevent _ _
    cases hevent
    exact ⟨.ping, by decide⟩
  refine along_cons.mpr ⟨nofun, along_cons.mpr ⟨nofun, along_cons.mpr ⟨hping _,
    along_cons.mpr ⟨nofun, along_cons.mpr ⟨hping _, along_cons.mpr ⟨nofun, along_nil⟩⟩⟩⟩⟩⟩

/-- A frame that is no request, on a connection that stays open. -/
def garbledEvents : List ServerEvent :=
  [.checkShutdown, .accept, .receive 0 ⟨ascii "ping", by decide⟩ idleAmbient]

/-- The frame is consumed, and the task waits for the next one without having answered. -/
theorem pairedAt_garbled_false :
    ¬ Always (step pingCodec) (PairedAt pingCodec 0) (new {}) garbledEvents := by
  intro h
  have hpaired := h.last { clientId := 1, exchanges := [⟨⟨ascii "ping", by decide⟩, none⟩] } rfl
  cases hpaired

end DaemonServer

end Yuha
