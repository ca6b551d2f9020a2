import Yuha.Daemon.Clients
import Yuha.Daemon.Fitting

/-!
# Clients are told what the daemon answers

Every client is told what the programs of its requests answer, or that something went wrong on
the way, in whatever order the daemon's tasks take their turns and whatever the clients of
other connections do. On one connection the invariant follows the call that waits: its request,
the program of it and the answer to it are in one place only.
-/

namespace Yuha

open Library Library.Program Execution DaemonServer

/-- Where the task of a connection is: at an await of the server, or in a request that it is
handling, with the rest of its program. -/
structure TaskPlace where
  phase : TaskPhase
  handling : Option (DaemonRequest × Option (HandlerProgram Unit))

abbrev TaskPlace.await (phase : TaskPhase) : TaskPlace := ⟨phase, none⟩

/-! ## One connection -/

namespace DaemonLink

/-- The calls whose caller was told what the daemon answered. -/
def told (link : DaemonLink) : List (DaemonCall × Except DaemonClientError DaemonResult) :=
  link.returned.filter fun returned => DaemonClient.Told returned.2

theorem told_finish_channel (link : DaemonLink) (call : DaemonCall) (message : String) :
    (link.finish call (.error (.channel message))).told = link.told := by
  simp [told, finish, DaemonCall.result_error]

theorem told_finish_of_fits (link : DaemonLink) {call : DaemonCall} {response : DaemonResponse}
    (h : call.request.Fits response) : (link.finish call (.ok response)).told =
      link.told ++ [(call, call.result (.ok response))] := by
  simp [told, finish, DaemonCall.told_result h]

/-- The call is the one that sent the request, and its caller was told of the answer. -/
def Tells (answer : DaemonRequest × DaemonResponse)
    (returned : DaemonCall × Except DaemonClientError DaemonResult) : Prop :=
  returned.1.request = answer.1 ∧ answer.1.Fits answer.2 ∧
    returned.2 = returned.1.result (.ok answer.2)

/-- Where a call and the answer to it are, and the answers that did not come back. -/
inductive Progress (codec : DaemonCodec) (link : DaemonLink) (place : TaskPlace) :
    List (DaemonRequest × DaemonResponse) → Prop
  | idle (waiting : link.waiting = none) (toDaemon : link.toDaemon = [])
      (toClient : link.toClient = []) (receiving : place = .await .receiving) :
      Progress codec link place []
  | written (call : DaemonCall) (payload : Payload) (waiting : link.waiting = some call)
      (toDaemon : link.toDaemon = [payload]) (toClient : link.toClient = [])
      (receiving : place = .await .receiving)
      (decodes : codec.requestFromSlice payload.val = .ok call.request) :
      Progress codec link place []
  | handling (call : DaemonCall) (program : HandlerProgram Unit)
      (waiting : link.waiting = some call) (toDaemon : link.toDaemon = [])
      (toClient : link.toClient = [])
      (handling : place = ⟨.receiving, some (call.request, some program)⟩)
      (replies : program.Replies call.request.Fits) : Progress codec link place []
  | replying (call : DaemonCall) (response : DaemonResponse) (payload : Bytes) (last : Bool)
      (waiting : link.waiting = some call) (toDaemon : link.toDaemon = [])
      (toClient : link.toClient = []) (replying : place = .await (.replying payload last))
      (encodes : codec.responseToVec response = .ok payload) (fits : call.request.Fits response) :
      Progress codec link place [(call.request, response)]
  | unwritten (call : DaemonCall) (response : DaemonResponse)
      (waiting : link.waiting = some call) (toDaemon : link.toDaemon = [])
      (toClient : link.toClient = []) (receiving : place = .await .receiving) :
      Progress codec link place [(call.request, response)]
  | replied (call : DaemonCall) (response : DaemonResponse) (payload : Bytes)
      (waiting : link.waiting = some call) (toDaemon : link.toDaemon = [])
      (toClient : link.toClient = [payload])
      (replied : place = .await .receiving ∨ place = .await .closed)
      (encodes : codec.responseToVec response = .ok payload) (fits : call.request.Fits response) :
      Progress codec link place [(call.request, response)]
  | closed (unread : List (DaemonRequest × DaemonResponse)) (toClient : link.toClient = [])
      (closed : place = .await .closed) (few : unread.length ≤ 1) : Progress codec link place unread

/-- The connection, and the answers to the requests on it. -/
structure Corresponds (codec : DaemonCodec) (link : DaemonLink) (place : TaskPlace)
    (answers : List (DaemonRequest × DaemonResponse)) : Prop where
  progress : ∃ answered unread, answers = answered ++ unread ∧
    List.Forall₂ Tells answered link.told ∧ link.Progress codec place unread
  untold : ∀ returned ∈ link.returned, ¬ DaemonClient.Told returned.2 →
    ∃ error, returned.2 = .error error ∧ error.OnTheWay

variable {codec : DaemonCodec} {client : DaemonClientCodec} {link : DaemonLink}
  {place : TaskPlace} {answers : List (DaemonRequest × DaemonResponse)}

theorem Progress.length_le {unread : List (DaemonRequest × DaemonResponse)}
    (h : link.Progress codec place unread) : unread.length ≤ 1 := by
  cases h with
  | closed _ _ _ few => exact few
  | idle | written | handling | replying | unwritten | replied => simp

/-- Without a call that waits, the connection is at rest or closed. -/
theorem Progress.of_not_waiting {unread : List (DaemonRequest × DaemonResponse)}
    (h : link.Progress codec place unread) (hwaiting : link.waiting = none) :
    (link.toDaemon = [] ∧ link.toClient = [] ∧ place = .await .receiving ∧ unread = []) ∨
      place = .await .closed ∧ link.toClient = [] := by
  cases h with
  | idle _ toDaemon toClient receiving => exact .inl ⟨toDaemon, toClient, receiving, rfl⟩
  | written _ _ waiting | handling _ _ waiting | replying _ _ _ _ waiting | unwritten _ _ waiting
  | replied _ _ _ waiting => rw [hwaiting] at waiting; cases waiting
  | closed _ toClient closed => exact .inr ⟨closed, toClient⟩

theorem untold_finish_error (link : DaemonLink) (call : DaemonCall) {error : DaemonClientError}
    (hway : error.OnTheWay)
    (h : ∀ returned ∈ link.returned, ¬ DaemonClient.Told returned.2 →
      ∃ error, returned.2 = .error error ∧ error.OnTheWay) :
    ∀ returned ∈ (link.finish call (.error error)).returned, ¬ DaemonClient.Told returned.2 →
      ∃ error, returned.2 = .error error ∧ error.OnTheWay := by
  intro returned hmem hnot
  obtain hold | rfl := List.mem_append.mp hmem |>.imp_right List.mem_singleton.mp
  · exact h returned hold hnot
  · exact ⟨error, call.result_error error, hway⟩

/-- A call that fails on the way, when nothing of it is on the streams. -/
theorem Corresponds.finish_error (h : link.Corresponds codec place answers) (call : DaemonCall)
    {error : DaemonClientError} (hway : error.OnTheWay)
    (hquiet : link.waiting = none ∨ place = .await .closed ∧ link.toClient = []) :
    (link.finish call (.error error)).Corresponds codec place answers := by
  obtain ⟨⟨answered, unread, hanswers, htold, hprogress⟩, huntold⟩ := h
  have hsame : (link.finish call (.error error)).told = link.told := by
    obtain ⟨e, rfl⟩ | ⟨e, rfl⟩ | ⟨e, rfl⟩ := hway <;> exact told_finish_channel link call _
  have hafter : (link.finish call (.error error)).Progress codec place unread := by
    obtain ⟨htoDaemon, htoClient, hreceiving, rfl⟩ | ⟨hclosed, htoClient⟩ :=
      hquiet.elim hprogress.of_not_waiting .inr
    · exact .idle rfl htoDaemon htoClient hreceiving
    · exact .closed unread htoClient hclosed hprogress.length_le
  exact ⟨⟨answered, unread, hanswers, hsame ▸ htold, hafter⟩,
    untold_finish_error link call hway huntold⟩

theorem Corresponds.start (hagrees : client.Agrees codec)
    (h : link.Corresponds codec place answers) (hwaiting : link.waiting = none)
    (call : DaemonCall) (failure : Option String) :
    (link.start client call failure).Corresponds codec place answers := by
  obtain ⟨answered, unread, hanswers, htold, hprogress⟩ := h.progress
  have hfails : ∀ {error : DaemonClientError}, error.OnTheWay →
      (link.finish call (.error error)).Corresponds codec place answers :=
    fun hway => h.finish_error call hway (.inl hwaiting)
  unfold DaemonLink.start
  split
  · next e _ => exact hfails (.inl ⟨e, rfl⟩)
  · next payload hpayload =>
      split
      · next hfits =>
          cases failure with
          | some message => exact hfails (.inr (.inl ⟨.io message, rfl⟩))
          | none =>
              refine ⟨⟨answered, unread, hanswers, htold, ?_⟩, h.untold⟩
              obtain ⟨htoDaemon, htoClient, hreceiving, rfl⟩ | ⟨hclosed, htoClient⟩ :=
                hprogress.of_not_waiting hwaiting
              · refine .written call ⟨payload, hfits⟩ rfl ?_ htoClient hreceiving
                  (hagrees.request_read _ _ hpayload)
                rw [htoDaemon]
                rfl
              · exact .closed unread htoClient hclosed hprogress.length_le
      · exact hfails (.inr (.inl ⟨.protocol (.bufferOverflow payload.length), rfl⟩))

theorem Corresponds.receive (hagrees : client.Agrees codec)
    (h : link.Corresponds codec place answers) {call : DaemonCall} {payload : Bytes}
    {rest : List Bytes} (hwaiting : link.waiting = some call)
    (htoClient : link.toClient = payload :: rest) :
    ({ link with toClient := rest }.finish call
      (DaemonClient.deserialize client payload)).Corresponds codec place answers := by
  obtain ⟨⟨answered, unread, rfl, htold, hprogress⟩, huntold⟩ := h
  cases hprogress with
  | idle _ _ toClient | written _ _ _ _ toClient | handling _ _ _ _ toClient
  | replying _ _ _ _ _ _ toClient
  | unwritten _ _ _ _ toClient | closed _ toClient => rw [htoClient] at toClient; cases toClient
  | replied call' response payload' waiting toDaemon toClient replied encodes fits =>
      obtain rfl := Option.some.inj (hwaiting.symm.trans waiting)
      obtain ⟨rfl, rfl⟩ := List.cons.inj (htoClient.symm.trans toClient)
      have hread : DaemonClient.deserialize client payload = .ok response := by
        rw [DaemonClient.deserialize, hagrees.response_read response payload encodes]
      rw [hread]
      refine ⟨⟨answered ++ [(call.request, response)], [], (List.append_nil _).symm, ?_, ?_⟩, ?_⟩
      · rw [told_finish_of_fits _ fits]
        exact List.rel_append htold (.cons ⟨rfl, fits, rfl⟩ .nil)
      · obtain hreceiving | hclosed := replied
        · exact .idle rfl toDaemon rfl hreceiving
        · exact .closed [] rfl hclosed (Nat.zero_le 1)
      · intro returned hmem hnot
        obtain hold | rfl := List.mem_append.mp hmem |>.imp_right List.mem_singleton.mp
        · exact huntold returned hold hnot
        · exact absurd (DaemonCall.told_result fits) hnot

/-- The end of the stream is all that is left to a call that waits. -/
theorem Corresponds.endOfStream (h : link.Corresponds codec place answers) (call : DaemonCall)
    (hclosed : place = .await .closed) (htoClient : link.toClient = []) :
    (link.finish call (.error (DaemonClient.receiveFailed
      (.protocol .channelClosed)))).Corresponds codec place answers :=
  h.finish_error call (.inr (.inr ⟨_, rfl⟩)) (.inr ⟨hclosed, htoClient⟩)

/-- The task has received the frame, and a program for its request was started. -/
theorem Corresponds.take (h : link.Corresponds codec place answers) {payload : Payload}
    {rest : List Payload} (htoDaemon : link.toDaemon = payload :: rest)
    (hplace : place = .await .receiving) :
    ∃ request, codec.requestFromSlice payload.val = .ok request ∧
      ∀ program : HandlerProgram Unit, program.Replies request.Fits →
        DaemonLink.Corresponds codec { link with toDaemon := rest }
          ⟨.receiving, some (request, some program)⟩ answers := by
  obtain ⟨⟨answered, unread, rfl, htold, hprogress⟩, huntold⟩ := h
  cases hprogress with
  | idle _ toDaemon | handling _ _ _ toDaemon | replying _ _ _ _ _ toDaemon
  | unwritten _ _ _ toDaemon | replied _ _ _ _ toDaemon =>
      rw [htoDaemon] at toDaemon
      cases toDaemon
  | closed _ _ closed => rw [hplace] at closed; cases closed
  | written call payload' waiting toDaemon toClient _ decodes =>
      obtain ⟨rfl, rfl⟩ := List.cons.inj (htoDaemon.symm.trans toDaemon)
      exact ⟨call.request, decodes, fun program hreplies =>
        ⟨⟨answered, [], rfl, htold, .handling call program waiting rfl toClient rfl hreplies⟩,
          huntold⟩⟩

/-- Where a connection is while its task handles a request. -/
theorem Progress.of_handling {phase : TaskPhase} {request : DaemonRequest}
    {program : Option (HandlerProgram Unit)} {unread : List (DaemonRequest × DaemonResponse)}
    (h : link.Progress codec ⟨phase, some (request, program)⟩ unread) :
    unread = [] ∧ phase = .receiving ∧ link.toDaemon = [] ∧ link.toClient = [] ∧
      ∃ call rest, link.waiting = some call ∧ call.request = request ∧ program = some rest ∧
        rest.Replies request.Fits := by
  cases h with
  | handling call rest waiting toDaemon toClient handling replies =>
      cases handling
      exact ⟨rfl, rfl, toDaemon, toClient, call, rest, waiting, rfl, rfl, replies⟩
  | idle _ _ _ other | written _ _ _ _ _ other | replying _ _ _ _ _ _ _ other
  | unwritten _ _ _ _ _ other | closed _ _ other => cases other
  | replied _ _ _ _ _ _ other => obtain other | other := other <;> cases other

/-- The program of a request that is being handled has its answer to send still. -/
theorem Corresponds.replies (h : link.Corresponds codec place answers) {request : DaemonRequest}
    {program : Option (HandlerProgram Unit)} {phase : TaskPhase}
    (hplace : place = ⟨phase, some (request, program)⟩) :
    phase = .receiving ∧ ∃ rest, program = some rest ∧ rest.Replies request.Fits := by
  subst hplace
  obtain ⟨⟨answered, unread, hanswers, htold, hprogress⟩, huntold⟩ := h
  obtain ⟨-, hphase, -, -, -, rest, -, -, hrest, hreplies⟩ := hprogress.of_handling
  exact ⟨hphase, rest, hrest, hreplies⟩

/-- Only a task that has received a frame is handling a request. -/
theorem Corresponds.await_phase (h : link.Corresponds codec place answers)
    (hphase : place.phase ≠ .receiving) : place = .await place.phase := by
  obtain ⟨⟨answered, unread, rfl, htold, hprogress⟩, huntold⟩ := h
  cases hprogress with
  | handling _ _ _ _ _ handling => exact absurd (congrArg TaskPlace.phase handling) hphase
  | idle _ _ _ other | written _ _ _ _ _ other | replying _ _ _ _ _ _ _ other
  | unwritten _ _ _ _ _ other | closed _ _ other => rw [other]
  | replied _ _ _ _ _ _ other => obtain rfl | rfl := other <;> rfl

/-- The program of the request goes on. -/
theorem Corresponds.goesOn (h : link.Corresponds codec place answers) {request : DaemonRequest}
    {program : Option (HandlerProgram Unit)} {phase : TaskPhase}
    (hplace : place = ⟨phase, some (request, program)⟩) {rest : HandlerProgram Unit}
    (hreplies : rest.Replies request.Fits) :
    link.Corresponds codec ⟨phase, some (request, some rest)⟩ answers := by
  subst hplace
  obtain ⟨⟨answered, unread, hanswers, htold, hprogress⟩, huntold⟩ := h
  obtain ⟨rfl, rfl, toDaemon, toClient, call, -, waiting, rfl, -, -⟩ := hprogress.of_handling
  exact ⟨⟨answered, [], hanswers, htold,
    .handling call rest waiting toDaemon toClient rfl hreplies⟩, huntold⟩

/-- The program of the request has answered. -/
theorem Corresponds.answer (h : link.Corresponds codec place answers) {request : DaemonRequest}
    {program : Option (HandlerProgram Unit)} {phase : TaskPhase}
    (hplace : place = ⟨phase, some (request, program)⟩) {response : DaemonResponse}
    (hfits : request.Fits response) {after : TaskPhase}
    (hafter : (∃ written last, codec.responseToVec response = .ok written ∧
      after = .replying written last) ∨ after = .receiving ∨ after = .closed) :
    link.Corresponds codec (.await after) (answers ++ [(request, response)]) := by
  subst hplace
  obtain ⟨⟨answered, unread, rfl, htold, hprogress⟩, huntold⟩ := h
  obtain ⟨rfl, rfl, toDaemon, toClient, call, -, waiting, rfl, -, -⟩ := hprogress.of_handling
  refine ⟨⟨answered, [(call.request, response)], by rw [List.append_nil], htold, ?_⟩, huntold⟩
  obtain ⟨written, last, hwritten, rfl⟩ | rfl | rfl := hafter
  · exact .replying call response written last waiting toDaemon toClient rfl hwritten hfits
  · exact .unwritten call response waiting toDaemon toClient rfl
  · exact .closed _ toClient rfl (Nat.le_refl 1)

/-- A `send` that returned `Ok` has written the whole frame. -/
theorem delivered_of_ok {payload : Bytes} {interruption : Option Interruption}
    (h : (send payload interruption).outcome = .ok ()) :
    delivered payload interruption = [payload] := by
  rw [send_outcome] at h
  split at h
  · cases h
  · next hfits =>
      cases interruption with
      | none => rw [delivered, send_written, if_neg hfits, if_pos rfl]
      | some i => cases i with | mk after stop => cases stop <;> cases h

theorem Corresponds.reply (h : link.Corresponds codec place answers) (task : ClientTask)
    {payload : Bytes} {last : Bool} (hplace : place = .await (.replying payload last))
    (interruption : Option Interruption) :
    DaemonLink.Corresponds codec
      { link with toClient := link.toClient ++ delivered payload interruption }
      (.await (replied task payload last interruption).phase) answers := by
  obtain ⟨⟨answered, unread, rfl, htold, hprogress⟩, huntold⟩ := h
  cases hprogress with
  | idle _ _ _ other | written _ _ _ _ _ other | handling _ _ _ _ _ other
  | unwritten _ _ _ _ _ other | closed _ _ other => rw [hplace] at other; cases other
  | replied _ _ _ _ _ _ other =>
      rw [hplace] at other
      obtain other | other := other <;> cases other
  | replying call response payload' last' waiting toDaemon toClient replying encodes fits =>
      obtain ⟨rfl, rfl⟩ := TaskPhase.replying.inj
        (congrArg TaskPlace.phase (hplace.symm.trans replying))
      refine ⟨⟨answered, [(call.request, response)], rfl, htold, ?_⟩, huntold⟩
      have hafter :
          TaskPlace.await (DaemonServer.replied task payload last interruption).phase =
              .await .receiving ∨
            TaskPlace.await (DaemonServer.replied task payload last interruption).phase =
              .await .closed := by
        unfold DaemonServer.replied
        split
        · cases last
          · exact .inl rfl
          · exact .inr rfl
        · exact .inr rfl
      by_cases hsent : (send payload interruption).written = frame payload
      · refine .replied call response payload waiting toDaemon ?_ hafter encodes fits
        show link.toClient ++ delivered payload interruption = [payload]
        rw [toClient, delivered, if_pos hsent, List.nil_append]
      · refine .closed _ ?_ ?_ (Nat.le_refl 1)
        · show link.toClient ++ delivered payload interruption = []
          rw [toClient, delivered, if_neg hsent, List.nil_append]
        · unfold DaemonServer.replied
          split
          · next hok =>
              have hall := delivered_of_ok hok
              rw [delivered, if_neg hsent] at hall
              cases hall
          · rfl

theorem Corresponds.hangUp (h : link.Corresponds codec place answers)
    (hplace : place = .await .receiving) : link.Corresponds codec (.await .closed) answers := by
  obtain ⟨⟨answered, unread, rfl, htold, hprogress⟩, huntold⟩ := h
  refine ⟨⟨answered, unread, rfl, htold, ?_⟩, huntold⟩
  have hfew := hprogress.length_le
  cases hprogress with
  | idle _ _ toClient | written _ _ _ _ toClient | unwritten _ _ _ _ toClient
  | closed _ toClient => exact .closed _ toClient rfl hfew
  | handling _ _ _ _ _ other | replying _ _ _ _ _ _ _ other => rw [hplace] at other; cases other
  | replied call response payload waiting toDaemon toClient _ encodes fits =>
      exact .replied call response payload waiting toDaemon toClient (.inr rfl) encodes fits

end DaemonLink

end Yuha
