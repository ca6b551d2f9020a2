import Yuha.Client.ClientTransport
import Yuha.Library.Execution

/-!
# Requests and their responses

The only thing that pairs a response with its request is that the mutex is held from
the first byte of the request to the last byte of the response. A call that leaves
in between leaves its response to the next caller. The invariant below describes the
bytes in flight at every await of a connection on which no call does that.
-/

namespace Yuha

namespace Connection

open Library.Execution

variable {σ : Type*} (codec : ProtocolCodec) (serve : σ → Bytes → σ × Payload)

/-- `response` is what the server answered to the frame that this very call wrote:
the frame is found on the stream where the call began to write, and the reply is
the one the server gave to the frame with that number. -/
def OwnResponse (c : Connection σ) (f : Finished) (response : ProtocolResponse) : Prop :=
  ∃ before after reply, framing.frames c.toServer = before ++ f.payload :: after ∧
    (framing.encodeAll before).length = f.offset ∧
    c.answered[before.length]? = some reply ∧
    codec.responseFromSlice reply.val = .ok response

/-- Every call that has returned `Ok` returned the response to its own request. -/
def Paired (c : Connection σ) : Prop :=
  ∀ f ∈ c.finished, ∀ response, f.result = .ok response → OwnResponse codec c f response

/-- The call that is stopped has not written anything yet. -/
def StopsUnwritten (c : Connection σ) : ClientEvent → Prop
  | .stop _ => ∀ holder, c.holder = some holder → c.toServer.length = holder.offset
  | _ => True

variable {codec} {serve}

theorem OwnResponse.mono {c d : Connection σ} {f : Finished} {response : ProtocolResponse}
    (h : OwnResponse codec c f response) (hserver : c.toServer <+: d.toServer)
    (hanswered : c.answered <+: d.answered) : OwnResponse codec d f response := by
  obtain ⟨before, after, reply, hframes, hoffset, hreply, hdecode⟩ := h
  obtain ⟨later, hlater⟩ := framing.frames_mono hserver
  obtain ⟨more, hmore⟩ := hanswered
  refine ⟨before, after ++ later, reply, ?_, hoffset, ?_, hdecode⟩
  · rw [← hlater, hframes]
    simp
  · rw [← hmore, List.getElem?_append_left (List.getElem?_eq_some_iff.mp hreply).1]
    exact hreply

theorem Paired.mono {c d : Connection σ} (h : Paired codec c)
    (hfinished : d.finished = c.finished) (hserver : c.toServer <+: d.toServer)
    (hanswered : c.answered <+: d.answered) : Paired codec d := by
  intro f hf response hresponse
  exact (h f (hfinished ▸ hf) response hresponse).mono hserver hanswered

/-- A change that no returned call can see. -/
theorem Paired.of_eq {c d : Connection σ} (h : Paired codec c)
    (hfinished : d.finished = c.finished) (hserver : d.toServer = c.toServer)
    (hanswered : d.answered = c.answered) : Paired codec d :=
  h.mono hfinished (hserver ▸ List.prefix_refl _) (hanswered ▸ List.prefix_refl _)

theorem Paired.finish {c : Connection σ} (h : Paired codec c) {holder : Holder}
    {result : Except ClientError ProtocolResponse}
    (hown : ∀ response, result = .ok response →
      OwnResponse codec c ⟨holder.call, holder.payload, holder.offset, result⟩ response) :
    Paired codec (c.finish holder result) := by
  intro f hf response hresponse
  rcases List.mem_append.mp hf with hf | hf
  · exact (h f hf response hresponse).mono (List.prefix_refl _) (List.prefix_refl _)
  · obtain rfl := List.mem_singleton.mp hf
    exact (hown response hresponse).mono (List.prefix_refl _) (List.prefix_refl _)

theorem Paired.finish_error {c : Connection σ} (h : Paired codec c) (holder : Holder)
    (error : ClientError) : Paired codec (c.finish holder (.error error)) :=
  h.finish fun _ hresponse => nomatch hresponse

/-! ## The bytes in flight -/

/-- Every request in `done` has been answered and its response received. -/
structure Quiet (c : Connection σ) (done : List Bytes) : Prop where
  fits : ∀ payload ∈ done, payload.length ≤ maxPayload
  answered : c.answered.length = done.length
  readBuffer : c.channel.readBuffer = []
  toClient : c.toClient = []

/-- The holder has written its whole request after the ones in `done`. -/
structure Written (c : Connection σ) (done : List Bytes) (holder : Holder) : Prop where
  fits : ∀ payload ∈ done ++ [holder.payload], payload.length ≤ maxPayload
  toServer : c.toServer = framing.encodeAll (done ++ [holder.payload])
  offset : (framing.encodeAll done).length = holder.offset

/-- The server has answered that request, and the response is on its way. -/
structure Replied (c : Connection σ) (done : List Bytes) (earlier : List Payload)
    (reply : Payload) : Prop where
  answered : c.answered = earlier ++ [reply]
  count : earlier.length = done.length
  bytes : c.channel.readBuffer ++ c.toClient = frame reply.val

/-- The states of a connection no call has left between its first written byte and
its response. -/
inductive Aligned (c : Connection σ) : Prop
  /-- The mutex is free. -/
  | idle (done : List Bytes) (quiet : Quiet c done) (holder : c.holder = none)
      (toServer : c.toServer = framing.encodeAll done)
  /-- The request of the holder is not completely written. -/
  | writing (done : List Bytes) (quiet : Quiet c done) (h : Holder) (written unwritten : Bytes)
      (holder : c.holder = some h) (phase : h.phase = .sending unwritten)
      (fits : h.payload.length ≤ maxPayload) (split : written ++ unwritten = frame h.payload)
      (more : unwritten ≠ []) (toServer : c.toServer = framing.encodeAll done ++ written)
      (offset : (framing.encodeAll done).length = h.offset)
  /-- The request is written and not answered. -/
  | waiting (done : List Bytes) (quiet : Quiet c done) (h : Holder) (holder : c.holder = some h)
      (phase : h.phase = .sending [] ∨ h.phase = .receiving) (written : Written c done h)
  /-- The request is answered and the response not completely received. -/
  | replied (done : List Bytes) (h : Holder) (earlier : List Payload) (reply : Payload)
      (holder : c.holder = some h) (phase : h.phase = .sending [] ∨ h.phase = .receiving)
      (written : Written c done h) (replied : Replied c done earlier reply)
      (incomplete : completeMessage c.channel.readBuffer = none)
  /-- The server has closed its end and nothing complete is left to receive. -/
  | dead (serverClosed : c.serverClosed = true) (toClient : c.toClient = [])
      (incomplete : completeMessage c.channel.readBuffer = none)

/-- The invariant of a connection whose calls stop only before their first byte. -/
structure Inv (codec : ProtocolCodec) (c : Connection σ) : Prop where
  aligned : Aligned c
  paired : Paired codec c

theorem Quiet.of_eq {c d : Connection σ} {done : List Bytes} (h : Quiet c done)
    (hanswered : d.answered = c.answered) (hchannel : d.channel = c.channel)
    (hclient : d.toClient = c.toClient) : Quiet d done :=
  ⟨h.fits, hanswered ▸ h.answered, hchannel ▸ h.readBuffer, hclient ▸ h.toClient⟩

theorem Quiet.incomplete {c : Connection σ} {done : List Bytes} (h : Quiet c done) :
    completeMessage c.channel.readBuffer = none := by
  rw [h.readBuffer]
  rfl

/-- What a free mutex leaves of `Aligned`. -/
theorem Aligned.of_free {c : Connection σ} (h : Aligned c) (hfree : c.holder = none) :
    (∃ done, Quiet c done ∧ c.toServer = framing.encodeAll done) ∨
      (c.serverClosed = true ∧ c.toClient = [] ∧
        completeMessage c.channel.readBuffer = none) := by
  cases h with
  | idle done quiet _ toServer => exact .inl ⟨done, quiet, toServer⟩
  | writing _ _ _ _ _ hholder => rw [hfree] at hholder; cases hholder
  | waiting _ _ _ hholder => rw [hfree] at hholder; cases hholder
  | replied _ _ _ _ hholder => rw [hfree] at hholder; cases hholder
  | dead serverClosed toClient incomplete => exact .inr ⟨serverClosed, toClient, incomplete⟩

/-- What `Aligned` says of a connection with a known holder. -/
inductive Held (c : Connection σ) (holder : Holder) : Prop
  | writing (done : List Bytes) (quiet : Quiet c done) (written unwritten : Bytes)
      (phase : holder.phase = .sending unwritten) (fits : holder.payload.length ≤ maxPayload)
      (split : written ++ unwritten = frame holder.payload) (more : unwritten ≠ [])
      (toServer : c.toServer = framing.encodeAll done ++ written)
      (offset : (framing.encodeAll done).length = holder.offset)
  | waiting (done : List Bytes) (quiet : Quiet c done)
      (phase : holder.phase = .sending [] ∨ holder.phase = .receiving)
      (written : Written c done holder)
  | replied (done : List Bytes) (earlier : List Payload) (reply : Payload)
      (phase : holder.phase = .sending [] ∨ holder.phase = .receiving)
      (written : Written c done holder) (replied : Replied c done earlier reply)
      (incomplete : completeMessage c.channel.readBuffer = none)
  | dead (serverClosed : c.serverClosed = true) (toClient : c.toClient = [])
      (incomplete : completeMessage c.channel.readBuffer = none)

theorem Aligned.of_held {c : Connection σ} (h : Aligned c) {holder : Holder}
    (hheld : c.holder = some holder) : Held c holder := by
  have hsame : ∀ other, c.holder = some other → other = holder :=
    fun other hother => Option.some.inj (hother.symm.trans hheld)
  cases h with
  | idle _ _ hfree => rw [hfree] at hheld; cases hheld
  | writing done quiet other written unwritten hother phase fits split more toServer offset =>
      obtain rfl := hsame other hother
      exact .writing done quiet written unwritten phase fits split more toServer offset
  | waiting done quiet other hother phase written =>
      obtain rfl := hsame other hother
      exact .waiting done quiet phase written
  | replied done other earlier reply hother phase written replied incomplete =>
      obtain rfl := hsame other hother
      exact .replied done earlier reply phase written replied incomplete
  | dead serverClosed toClient incomplete => exact .dead serverClosed toClient incomplete

/-- The response of the holder is the reply to its own frame. -/
theorem Written.ownResponse {c : Connection σ} {done : List Bytes} {holder : Holder}
    {earlier : List Payload} {reply : Payload} (hw : Written c done holder)
    (hr : Replied c done earlier reply) {result : Except ClientError ProtocolResponse}
    {response : ProtocolResponse} (hdecode : codec.responseFromSlice reply.val = .ok response) :
    OwnResponse codec c ⟨holder.call, holder.payload, holder.offset, result⟩ response := by
  refine ⟨done, [], reply, ?_, hw.offset, ?_, hdecode⟩
  · rw [hw.toServer]
    exact framing.frames_encodeAll hw.fits
  · rw [hr.answered, ← hr.count]
    simp

theorem poll_waiting {c : Connection σ} (paired : Paired codec c) {done : List Bytes}
    (quiet : Quiet c done) {holder : Holder} (written : Written c done holder) :
    Inv codec (poll codec c holder) := by
  have hpoll : poll codec c holder =
      { c with holder := some { holder with phase := .receiving } } := by
    simp only [poll, quiet.incomplete]
  rw [hpoll]
  exact ⟨.waiting done (quiet.of_eq rfl rfl rfl) _ rfl (.inr rfl)
    ⟨written.fits, written.toServer, written.offset⟩, paired.of_eq rfl rfl rfl⟩

theorem poll_replied {c : Connection σ} (paired : Paired codec c) {done : List Bytes}
    {holder : Holder} {earlier : List Payload} {reply : Payload}
    (written : Written c done holder) (replied : Replied c done earlier reply) :
    Inv codec (poll codec c holder) := by
  cases hm : completeMessage c.channel.readBuffer with
  | none =>
      have hpoll : poll codec c holder =
          { c with holder := some { holder with phase := .receiving } } := by
        simp only [poll, hm]
      rw [hpoll]
      exact ⟨.replied done _ earlier reply rfl (.inr rfl)
        ⟨written.fits, written.toServer, written.offset⟩
        ⟨replied.answered, replied.count, replied.bytes⟩ hm, paired.of_eq rfl rfl rfl⟩
  | some message =>
      obtain ⟨payload, readBuffer⟩ := message
      -- the buffer holds this response and nothing of a later one
      have hall : framing.parse (frame reply.val) = some (payload, readBuffer ++ c.toClient) :=
        replied.bytes ▸ framing.parse_append hm c.toClient
      have hreply : framing.parse (frame reply.val) = some (reply.val, []) := by
        simpa using framing.parse_encode reply.val [] reply.property
      rw [hreply, Option.some.injEq, Prod.mk.injEq] at hall
      obtain ⟨rfl, hnil⟩ := hall
      obtain ⟨hbuffer, hclient⟩ := List.append_eq_nil_iff.mp hnil.symm
      have hpoll : poll codec c holder = { c with channel := ⟨readBuffer⟩ }.finish holder
          (decodeResponse codec reply.val) := by
        simp only [poll, hm]
      rw [hpoll]
      constructor
      · refine .idle (done ++ [holder.payload]) ⟨written.fits, ?_, hbuffer, hclient⟩ rfl
          written.toServer
        simp [finish, replied.answered, replied.count]
      · refine (paired.of_eq rfl rfl rfl).finish fun response hresponse => ?_
        have hdecode : codec.responseFromSlice reply.val = .ok response := by
          unfold decodeResponse at hresponse
          split at hresponse
          · rename_i value hvalue
            rw [hvalue, Except.ok.injEq]
            exact Except.ok.inj hresponse
          · cases hresponse
        exact (written.ownResponse replied hdecode).mono (List.prefix_refl _) (List.prefix_refl _)

theorem poll_dead {c : Connection σ} (paired : Paired codec c)
    (serverClosed : c.serverClosed = true) (toClient : c.toClient = [])
    (incomplete : completeMessage c.channel.readBuffer = none) (holder : Holder) :
    Inv codec (poll codec c holder) := by
  have hpoll : poll codec c holder =
      { c with holder := some { holder with phase := .receiving } } := by
    simp only [poll, incomplete]
  rw [hpoll]
  exact ⟨.dead serverClosed toClient incomplete, paired.of_eq rfl rfl rfl⟩

/-! ## One step -/

theorem inv_finish_idle {c : Connection σ} (h : Inv codec c) (hfree : c.holder = none)
    (holder : Holder) (error : ClientError) : Inv codec (c.finish holder (.error error)) := by
  refine ⟨?_, h.paired.finish_error holder error⟩
  rcases h.aligned.of_free hfree with ⟨done, quiet, toServer⟩ | ⟨hclosed, toClient, incomplete⟩
  · exact .idle done (quiet.of_eq rfl rfl rfl) rfl toServer
  · exact .dead hclosed toClient incomplete

theorem inv_lock {c : Connection σ} (h : Inv codec c) (hfree : c.holder = none) (call : Nat)
    (request : ProtocolRequest) : Inv codec (c.lock codec call request) := by
  unfold lock
  split
  · exact inv_finish_idle h hfree _ _
  · rename_i payload _
    by_cases hlen : maxPayload < payload.length
    · rw [if_pos hlen]
      exact inv_finish_idle h hfree _ _
    · rw [if_neg hlen]
      refine ⟨?_, h.paired.of_eq rfl rfl rfl⟩
      rcases h.aligned.of_free hfree with
        ⟨done, quiet, toServer⟩ | ⟨hclosed, toClient, incomplete⟩
      · refine .writing done (quiet.of_eq rfl rfl rfl) _ [] (frame payload) rfl rfl
          (Nat.not_lt.mp hlen) rfl (framing.encode_ne_nil payload) (by simpa using toServer) ?_
        rw [toServer]
      · exact .dead hclosed toClient incomplete

theorem inv_write {c : Connection σ} (h : Inv codec c) (n : Nat) :
    Inv codec (c.step codec serve (.write n)) := by
  simp only [step]
  split
  · rename_i call payload offset unwritten hheld
    refine ⟨?_, h.paired.mono rfl (List.prefix_append _ _) (List.prefix_refl _)⟩
    cases h.aligned.of_held hheld with
    | writing done quiet written unwritten' phase fits split more toServer hoffset =>
        cases phase
        by_cases hall : unwritten.drop n = []
        · have htake : unwritten.take n = unwritten := by
            simpa [hall] using List.take_append_drop n unwritten
          refine .waiting done (quiet.of_eq rfl rfl rfl) _ rfl (.inl ?_) ⟨?_, ?_, hoffset⟩
          · rw [hall]
          · intro p hp
            rcases List.mem_append.mp hp with hp | hp
            · exact quiet.fits p hp
            · exact List.mem_singleton.mp hp ▸ fits
          · simp only [toServer, htake, List.append_assoc, split, framing.encodeAll_append]
            simp
        · refine .writing done (quiet.of_eq rfl rfl rfl) _ (written ++ unwritten.take n)
            (unwritten.drop n) rfl rfl fits ?_ hall ?_ hoffset
          · rw [List.append_assoc, List.take_append_drop]
            exact split
          · simp only [toServer, List.append_assoc]
    | waiting done quiet phase written =>
        have hnil : unwritten = [] := by simpa using phase
        subst hnil
        exact .waiting done (quiet.of_eq rfl rfl rfl) _ rfl (by simp)
          ⟨written.fits, by simpa using written.toServer, written.offset⟩
    | replied done earlier reply phase written replied incomplete =>
        have hnil : unwritten = [] := by simpa using phase
        subst hnil
        exact .replied done _ earlier reply rfl (by simp)
          ⟨written.fits, by simpa using written.toServer, written.offset⟩
          ⟨replied.answered, replied.count, replied.bytes⟩ incomplete
    | dead serverClosed toClient incomplete => exact .dead serverClosed toClient incomplete
  · exact h

theorem inv_flushed {c : Connection σ} (h : Inv codec c) :
    Inv codec (c.step codec serve .flushed) := by
  simp only [step]
  split
  · rename_i call payload offset hheld
    cases h.aligned.of_held hheld with
    | writing done quiet written unwritten phase fits split more =>
        cases phase
        exact absurd rfl more
    | waiting done quiet phase written =>
        exact poll_waiting h.paired quiet ⟨written.fits, written.toServer, written.offset⟩
    | replied done earlier reply phase written replied =>
        exact poll_replied h.paired ⟨written.fits, written.toServer, written.offset⟩ replied
    | dead serverClosed toClient incomplete =>
        exact poll_dead h.paired serverClosed toClient incomplete _
  · exact h

theorem inv_read {c : Connection σ} (h : Inv codec c) {holder : Holder}
    (hheld : c.holder = some holder) (n : Nat) : Inv codec (c.read codec holder n) := by
  unfold read
  by_cases hempty : c.toClient = []
  · simp only [hempty, if_true]
    by_cases hclosed : c.serverClosed = true
    · rw [if_pos hclosed]
      refine ⟨.dead hclosed hempty ?_, h.paired.finish_error _ _⟩
      cases h.aligned.of_held hheld with
      | writing _ quiet => exact quiet.incomplete
      | waiting _ quiet => exact quiet.incomplete
      | replied _ _ _ _ _ _ incomplete => exact incomplete
      | dead _ _ incomplete => exact incomplete
    · rw [if_neg hclosed]
      exact h
  · simp only [hempty, if_false]
    by_cases hn : n = 0
    · rw [if_pos hn]
      exact h
    · rw [if_neg hn]
      cases h.aligned.of_held hheld with
      | writing done quiet => exact absurd quiet.toClient hempty
      | waiting done quiet => exact absurd quiet.toClient hempty
      | replied done earlier reply phase written replied =>
          have hbytes : c.channel.readBuffer ++ c.toClient.take n ++ c.toClient.drop n =
              frame reply.val := by
            rw [← replied.bytes, List.append_assoc, List.take_append_drop]
          exact poll_replied (c := c.readBuf n) (h.paired.of_eq rfl rfl rfl)
            ⟨written.fits, written.toServer, written.offset⟩
            ⟨replied.answered, replied.count, hbytes⟩
      | dead _ toClient => exact absurd toClient hempty

/-- A holder that has written its request has not stopped unwritten. -/
theorem Written.offset_lt {c : Connection σ} {done : List Bytes} {holder : Holder}
    (h : Written c done holder) : holder.offset < c.toServer.length := by
  have hlength := congrArg List.length h.toServer
  have hoffset := h.offset
  simp only [framing.encodeAll_append, framing.encodeAll_cons, framing.encodeAll_nil,
    framing_encode, List.append_nil, List.length_append, length_frame] at hlength
  omega

theorem inv_stop {c : Connection σ} (h : Inv codec c) {holder : Holder}
    (hheld : c.holder = some holder) (stop : Stop)
    (hunwritten : c.toServer.length = holder.offset) :
    Inv codec (c.stopHolder holder stop) := by
  have haligned : ∀ d : Connection σ, d.holder = none → d.toServer = c.toServer →
      d.answered = c.answered → d.channel = c.channel → d.toClient = c.toClient →
      d.serverClosed = c.serverClosed → Aligned d := by
    intro d hfree hserver hanswered hchannel hclient hclosed
    cases h.aligned.of_held hheld with
    | writing done quiet written unwritten phase fits split more toServer offset =>
        have hnil : written = [] := by
          rw [toServer, List.length_append, ← offset] at hunwritten
          exact List.length_eq_zero_iff.mp (by omega)
        exact .idle done (quiet.of_eq hanswered hchannel hclient) hfree
          (by rw [hserver, toServer, hnil, List.append_nil])
    | waiting done quiet phase written => exact absurd hunwritten written.offset_lt.ne'
    | replied done earlier reply phase written => exact absurd hunwritten written.offset_lt.ne'
    | dead serverClosed toClient incomplete =>
        exact .dead (hclosed.trans serverClosed) (hclient.trans toClient) (hchannel ▸ incomplete)
  cases stop with
  | failed message =>
      exact ⟨haligned _ rfl rfl rfl rfl rfl rfl, h.paired.finish_error _ _⟩
  | dropped => exact ⟨haligned _ rfl rfl rfl rfl rfl rfl, h.paired.of_eq rfl rfl rfl⟩

/-- The server finds a frame to answer only when one is waiting. -/
theorem inv_serveNext {c : Connection σ} (h : Inv codec c) : Inv codec (c.serveNext serve) := by
  unfold serveNext
  split
  · exact h
  · rename_i hopen
    split
    · exact h
    · rename_i request hrequest
      refine ⟨?_, h.paired.mono rfl (List.prefix_refl _) (List.prefix_append _ _)⟩
      cases h.aligned with
      | idle done quiet holder toServer =>
          rw [toServer, framing.frames_encodeAll quiet.fits, quiet.answered] at hrequest
          simp at hrequest
      | writing done quiet holder written unwritten hholder phase fits split more toServer offset =>
          have hnone := framing.parse_eq_none_of_append_eq_encode fits split more
          rw [toServer, framing.frames_encodeAll_append quiet.fits hnone,
            quiet.answered] at hrequest
          simp at hrequest
      | waiting done quiet holder hholder phase written =>
          refine .replied done holder c.answered (serve c.server request).2 hholder phase
            ⟨written.fits, written.toServer, written.offset⟩ ⟨rfl, quiet.answered, ?_⟩
            quiet.incomplete
          simp [quiet.readBuffer, quiet.toClient]
      | replied done holder earlier reply hholder phase written replied =>
          rw [written.toServer, framing.frames_encodeAll written.fits, replied.answered] at hrequest
          simp [replied.count] at hrequest
      | dead serverClosed => exact absurd serverClosed hopen

theorem inv_hangUp {c : Connection σ} (h : Inv codec c) :
    Inv codec { c with serverClosed := true } := by
  refine ⟨?_, h.paired.of_eq rfl rfl rfl⟩
  cases h.aligned with
  | idle done quiet holder toServer =>
      exact .idle done (quiet.of_eq rfl rfl rfl) holder toServer
  | writing done quiet holder written unwritten hholder phase fits split more toServer offset =>
      exact .writing done (quiet.of_eq rfl rfl rfl) holder written unwritten hholder phase fits
        split more toServer offset
  | waiting done quiet holder hholder phase written =>
      exact .waiting done (quiet.of_eq rfl rfl rfl) holder hholder phase
        ⟨written.fits, written.toServer, written.offset⟩
  | replied done holder earlier reply hholder phase written replied incomplete =>
      exact .replied done holder earlier reply hholder phase
        ⟨written.fits, written.toServer, written.offset⟩
        ⟨replied.answered, replied.count, replied.bytes⟩ incomplete
  | dead _ toClient incomplete => exact .dead rfl toClient incomplete

theorem inv_step {c : Connection σ} (h : Inv codec c) (event : ClientEvent)
    (hstops : StopsUnwritten c event) : Inv codec (c.step codec serve event) := by
  cases event with
  | lock call request =>
      simp only [step]
      split
      · rename_i hfree
        exact inv_lock h hfree call request
      · exact h
  | write n => exact inv_write h n
  | flushed => exact inv_flushed h
  | read n =>
      simp only [step]
      split
      · rename_i hholder
        exact inv_read h hholder n
      · exact h
  | stop stop =>
      simp only [step]
      split
      · rename_i holder hholder
        exact inv_stop h hholder stop (hstops holder hholder)
      · exact h
  | serve => exact inv_serveNext h
  | hangUp => exact inv_hangUp h

theorem inv_new (server : σ) : Inv codec (new server) :=
  ⟨.idle [] ⟨by simp, rfl, rfl, rfl⟩ rfl rfl, fun _ hf => nomatch hf⟩

/-! ## Whole runs -/

/-- While every stop comes before the first byte of its call, the bytes in flight are
those of one exchange. -/
theorem inv_run {server : σ} {events : List ClientEvent}
    (stops : Along (step codec serve) (fun _ => StopsUnwritten) (new server) events) :
    Inv codec (run (step codec serve) (new server) events) :=
  stops.invariant (I := fun _ => Inv codec) (inv_new server)
    (fun _ _ event hinv hstops => inv_step hinv event hstops) events (List.prefix_refl _)

/-- A stop lets the mutex go and returns no response. -/
theorem step_stop {c : Connection σ} (h : Paired codec c) (stop : Stop) :
    (c.step codec serve (.stop stop)).holder = none ∧
      Paired codec (c.step codec serve (.stop stop)) := by
  simp only [step]
  split
  · rename_i holder _
    cases stop with
    | failed message => exact ⟨rfl, h.finish_error _ _⟩
    | dropped => exact ⟨rfl, h.of_eq rfl rfl rfl⟩
  · rename_i hfree
    exact ⟨hfree, h⟩

/-- No call returns while the mutex is free and nobody takes it. -/
theorem step_free {c : Connection σ} (hfree : c.holder = none) (h : Paired codec c)
    {event : ClientEvent} (hlock : ∀ call request, event ≠ .lock call request) :
    (c.step codec serve event).holder = none ∧ Paired codec (c.step codec serve event) := by
  cases event with
  | lock call request => exact absurd rfl (hlock call request)
  | write n => simpa [step, hfree] using h
  | flushed => simpa [step, hfree] using h
  | read n => simpa [step, hfree] using h
  | stop stop => exact step_stop h stop
  | serve =>
      simp only [step, serveNext]
      split
      · exact ⟨hfree, h⟩
      split
      · exact ⟨hfree, h⟩
      · exact ⟨hfree, h.mono rfl (List.prefix_refl _) (List.prefix_append _ _)⟩
  | hangUp => exact ⟨hfree, h.of_eq rfl rfl rfl⟩

/-- A call takes the mutex only if no earlier call was stopped between its first written
byte and its response. -/
def LocksUnbroken (codec : ProtocolCodec) (serve : σ → Bytes → σ × Payload) (server : σ)
    (past : List ClientEvent) : ClientEvent → Prop
  | .lock _ _ => Along (step codec serve) (fun _ => StopsUnwritten) (new server) past
  | _ => True

/-- For any callers in any order: if nobody takes the mutex once a call was stopped
between its first written byte and its response, every call that returns `Ok` returns
the response the server computed for its own request. -/
theorem paired_of_locksUnbroken (codec : ProtocolCodec) (serve : σ → Bytes → σ × Payload)
    (server : σ) (events : List ClientEvent)
    (locks : Along (step codec serve) (fun past _ => LocksUnbroken codec serve server past)
      (new server) events) :
    Always (step codec serve) (Paired codec) (new server) events := by
  have hrun : ∀ past, past <+: events →
      Along (step codec serve) (fun _ => StopsUnwritten) (new server) past ∨
        ((run (step codec serve) (new server) past).holder = none ∧
          Paired codec (run (step codec serve) (new server) past)) := by
    intro past
    induction past using List.reverseRecOn with
    | nil => exact fun _ => Or.inl along_nil
    | append_singleton past event ih =>
        intro hp
        have hlocks := locks past event hp
        rw [run_append, run_cons, run_nil, along_concat]
        rcases ih ((List.prefix_append past [event]).trans hp) with hstops | ⟨hfree, hpaired⟩
        · cases event with
          | stop stop => exact Or.inr (step_stop (inv_run hstops).paired stop)
          | lock _ _ | write _ | flushed | read _ | serve | hangUp => exact Or.inl ⟨hstops, trivial⟩
        · cases event with
          | lock call request => exact Or.inl ⟨hlocks, trivial⟩
          | write _ | flushed | read _ | stop _ | serve | hangUp =>
              exact Or.inr (step_free hfree hpaired (by simp))
  intro past hp
  rcases hrun past hp with hstops | ⟨_, hpaired⟩
  · exact (inv_run hstops).paired
  · exact hpaired

/-! ## A server that answers two kinds of requests -/

/-- The texts `serde_json` writes and reads for the values below. -/
def sampleCodec : ProtocolCodec where
  requestToVec
    | .pollData => .ok (ascii "\"PollData\"")
    | .getClipboard => .ok (ascii "\"GetClipboard\"")
    | _ => .error "no sample"
  responseFromSlice payload :=
    if payload = ascii "\x7b\"Data\":\x7b\"items\":[]\x7d\x7d" then .ok (.data [])
    else if payload = ascii "\x7b\"Error\":\x7b\"message\":\"no display\"\x7d\x7d" then
      .ok (.error "no display")
    else .error "no sample"

/-- A poll without data, and a clipboard that cannot be read. -/
def sampleServe (_ : Unit) (request : Bytes) : Unit × Payload :=
  if request = ascii "\"PollData\"" then
    ((), ⟨ascii "\x7b\"Data\":\x7b\"items\":[]\x7d\x7d", by decide⟩)
  else ((), ⟨ascii "\x7b\"Error\":\x7b\"message\":\"no display\"\x7d\x7d", by decide⟩)

/-- A caller that is dropped before its first byte, one that runs to its end, and a last
one that is dropped while it waits for its response. -/
def orderlyEvents : List ClientEvent :=
  [.lock 0 .pollData, .stop .dropped, .lock 1 .getClipboard, .write 3, .write 100, .serve,
    .flushed, .read 1, .read 100, .lock 2 .pollData, .write 100, .flushed, .stop .dropped,
    .serve]

/-- A caller that is dropped while it waits for its response, and another one after it. -/
def abandonedEvents : List ClientEvent :=
  [.lock 0 .pollData, .write 100, .flushed, .stop .dropped, .serve, .lock 1 .getClipboard,
    .write 100, .flushed, .serve, .read 29]

theorem paired_of_locksUnbroken_orderly :
    Always (step sampleCodec sampleServe) (Paired sampleCodec) (new ()) orderlyEvents := by
  apply paired_of_locksUnbroken sampleCodec sampleServe () orderlyEvents
  simp only [orderlyEvents, along_cons, LocksUnbroken, StopsUnwritten, along_nil, true_and,
    and_true]
  constructor
  · rintro holder hholder
    obtain rfl := Option.some.inj hholder
    rfl
  · rintro holder hholder
    obtain rfl := Option.some.inj hholder
    rfl

/-- `get_clipboard` returns the response to the poll that was dropped before it. -/
theorem abandoned_not_paired :
    ¬ Paired sampleCodec (run (step sampleCodec sampleServe) (new ()) abandonedEvents) := by
  intro hpaired
  have hfinished : (run (step sampleCodec sampleServe) (new ()) abandonedEvents).finished =
      [⟨1, ascii "\"GetClipboard\"", 12, .ok (.data [])⟩] := by rfl
  have hread : framing.frames
      (run (step sampleCodec sampleServe) (new ()) abandonedEvents).toServer =
        [ascii "\"PollData\"", ascii "\"GetClipboard\""] := by rfl
  obtain ⟨before, after, reply, hframes, hoffset, hreply, hdecode⟩ :=
    hpaired _ (hfinished ▸ List.mem_singleton.mpr rfl) _ rfl
  -- the frame of the call is the second one, and its own reply is an error
  have hbefore : before.length = 1 := by
    rw [hread] at hframes
    rcases before with _ | ⟨_, _ | ⟨_, before⟩⟩
    · simp at hoffset
    · rfl
    · simp at hframes
  rw [hbefore] at hreply
  have hown : (sampleServe () (ascii "\"GetClipboard\"")).2 = reply :=
    Option.some.inj hreply
  rw [← hown] at hdecode
  have herror : sampleCodec.responseFromSlice
      (sampleServe () (ascii "\"GetClipboard\"")).2.val = .ok (.error "no display") := by rfl
  rw [herror] at hdecode
  cases hdecode

end Connection

end Yuha
