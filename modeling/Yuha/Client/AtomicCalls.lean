import Yuha.Client.RequestPairing
import Yuha.Core.MessageDelivery

/-!
# Calls of `send_request` as atomic calls

As long as no call stops between its first byte and its response, and the server stays, the
calls on one connection do to the server and return what they would do and return one after
the other, in the order in which they obtain the mutex. A call that stops before its first
byte has done nothing. Each step of the stream or the server either does nothing or brings
the call that holds the mutex nearer to its return.
-/

namespace Yuha

open Library.Execution

/-- A call of `send_request`, and the I/O error that ended it before its first byte. -/
structure AtomicCall where
  call : Nat
  request : ProtocolRequest
  interrupted : Option String
  deriving DecidableEq, Repr

/-- The call that was made. -/
def AtomicCall.issue (c : AtomicCall) : Nat × ProtocolRequest := (c.call, c.request)

/-- The calls that are made in a run, whether or not they obtain the mutex. -/
def issued (events : List ClientEvent) : List (Nat × ProtocolRequest) :=
  events.filterMap fun
    | .lock call request => some (call, request)
    | _ => none

/-- Calls one after the other: the server afterwards, and what each of them returns. -/
def inTurn {σ ρ : Type*} (perform : σ → AtomicCall → σ × ρ) (server : σ) :
    List AtomicCall → σ × List (Nat × ρ)
  | [] => (server, [])
  | c :: cs =>
      let (next, result) := perform server c
      let (last, results) := inTurn perform next cs
      (last, (c.call, result) :: results)

theorem inTurn_concat {σ ρ : Type*} (perform : σ → AtomicCall → σ × ρ) (server : σ)
    (cs : List AtomicCall) (c : AtomicCall) : inTurn perform server (cs ++ [c]) =
      ((perform (inTurn perform server cs).1 c).1,
        (inTurn perform server cs).2 ++
          [(c.call, (perform (inTurn perform server cs).1 c).2)]) := by
  induction cs generalizing server with
  | nil => rfl
  | cons first cs ih => simp only [List.cons_append, inTurn, ih]

namespace Connection

variable {σ : Type*} (codec : ProtocolCodec) (serve : σ → Bytes → σ × Payload)

/-- A call that nothing else interferes with, in one go: the server afterwards, and what
the call returns. -/
def atomicCall (server : σ) (c : AtomicCall) : σ × Except ClientError ProtocolResponse :=
  match codec.requestToVec c.request with
  | .error e =>
      (server, .error (sendFailed
        (.protocol (.serialization s!"Request serialization failed: {e}"))))
  | .ok payload =>
      if maxPayload < payload.length then
        (server, .error (sendFailed (.protocol (.bufferOverflow payload.length))))
      else
        match c.interrupted with
        | some message => (server, .error (sendFailed (.io message)))
        | none =>
            let (server, reply) := serve server payload
            (server, decodeResponse codec reply.val)

/-- What the calls returned that have returned. -/
def returned (c : Connection σ) : List (Nat × Except ClientError ProtocolResponse) :=
  c.finished.map fun f => (f.call, f.result)

variable {codec serve} {server base : σ} {c d : Connection σ}

theorem returned_finish (c : Connection σ) (holder : Holder)
    (result : Except ClientError ProtocolResponse) :
    (c.finish holder result).returned = c.returned ++ [(holder.call, result)] := by
  simp [returned, finish]

/-! ## Where a call is -/

variable (codec serve base) in
/-- The call that holds the mutex, from a server that has carried out the calls before. -/
inductive Underway (c : Connection σ) : List (Nat × ProtocolRequest) → Prop
  | free (holder : c.holder = none) (server : c.server = base)
      (bytes : c.channel.readBuffer ++ c.toClient = []) : Underway c []
  | sent (holder : Holder) (request : ProtocolRequest) (held : c.holder = some holder)
      (payload : codec.requestToVec request = .ok holder.payload)
      (fits : holder.payload.length ≤ maxPayload) (server : c.server = base)
      (bytes : c.channel.readBuffer ++ c.toClient = []) : Underway c [(holder.call, request)]
  | answered (holder : Holder) (request : ProtocolRequest) (held : c.holder = some holder)
      (payload : codec.requestToVec request = .ok holder.payload)
      (fits : holder.payload.length ≤ maxPayload)
      (server : c.server = (serve base holder.payload).1)
      (bytes : c.channel.readBuffer ++ c.toClient = frame (serve base holder.payload).2.val) :
      Underway c [(holder.call, request)]

variable (codec serve server) in
/-- The calls that have returned are atomic calls in the order of `past`, and one more may
be underway. -/
structure Linearized (past : List ClientEvent) (c : Connection σ) (calls : List AtomicCall)
    (pending : List (Nat × ProtocolRequest)) : Prop where
  returned : c.returned = (inTurn (atomicCall codec serve) server calls).2
  issued : (calls.map AtomicCall.issue ++ pending).Sublist (issued past)
  underway : Underway codec serve (inTurn (atomicCall codec serve) server calls).1 c pending
  connected : c.serverClosed = false

/-- The frame that the server finds is the request of the call that is underway. -/
theorem Aligned.served (h : Aligned c) (hconnected : c.serverClosed = false) {request : Bytes}
    (hrequest : (framing.frames c.toServer)[c.answered.length]? = some request) :
    ∃ done holder, Quiet c done ∧ c.holder = some holder ∧ holder.payload = request := by
  cases h with
  | idle done quiet holder toServer =>
      rw [toServer, framing.frames_encodeAll quiet.fits, quiet.answered] at hrequest
      simp at hrequest
  | writing done quiet holder written unwritten hholder phase fits split more toServer =>
      have hnone := framing.parse_eq_none_of_append_eq_encode fits split more
      rw [toServer, framing.frames_encodeAll_append quiet.fits hnone, quiet.answered] at hrequest
      simp at hrequest
  | replied done holder earlier reply hholder phase written replied =>
      rw [written.toServer, framing.frames_encodeAll written.fits, replied.answered] at hrequest
      simp [replied.count] at hrequest
  | dead hclosed => rw [hconnected] at hclosed; cases hclosed
  | waiting done quiet holder hholder phase written =>
      rw [written.toServer, framing.frames_encodeAll written.fits, quiet.answered] at hrequest
      exact ⟨done, holder, quiet, hholder, by simpa using hrequest⟩

variable {past : List ClientEvent} {calls : List AtomicCall}
  {pending : List (Nat × ProtocolRequest)}

theorem sublist_issued (h : pending.Sublist (issued past)) (event : ClientEvent) :
    pending.Sublist (issued (past ++ [event])) := by
  rw [issued, List.filterMap_append]
  exact h.trans (List.sublist_append_left _ _)

/-- What is underway depends on the holder, the server and the bytes to the client. -/
theorem Underway.of_eq (h : Underway codec serve base c pending) (hholder : d.holder = c.holder)
    (hserver : d.server = c.server)
    (hbytes : d.channel.readBuffer ++ d.toClient = c.channel.readBuffer ++ c.toClient) :
    Underway codec serve base d pending := by
  cases h with
  | free holder server bytes =>
      exact .free (hholder.trans holder) (hserver.trans server) (hbytes.trans bytes)
  | sent holder request held payload fits server bytes =>
      exact .sent holder request (hholder.trans held) payload fits (hserver.trans server)
        (hbytes.trans bytes)
  | answered holder request held payload fits server bytes =>
      exact .answered holder request (hholder.trans held) payload fits (hserver.trans server)
        (hbytes.trans bytes)

/-- The holder may move on within its call. -/
theorem Underway.move (h : Underway codec serve base c pending) {holder holder' : Holder}
    (hheld : c.holder = some holder) (hheld' : d.holder = some holder')
    (hcall : holder'.call = holder.call) (hpayload : holder'.payload = holder.payload)
    (hserver : d.server = c.server)
    (hbytes : d.channel.readBuffer ++ d.toClient = c.channel.readBuffer ++ c.toClient) :
    Underway codec serve base d pending := by
  cases h with
  | free hfree => rw [hheld] at hfree; cases hfree
  | sent other request hother payload fits server bytes =>
      obtain rfl := Option.some.inj (hheld.symm.trans hother)
      rw [← hcall]
      exact .sent holder' request hheld' (hpayload ▸ payload) (hpayload ▸ fits)
        (hserver.trans server) (hbytes.trans bytes)
  | answered other request hother payload fits server bytes =>
      obtain rfl := Option.some.inj (hheld.symm.trans hother)
      rw [← hcall]
      exact .answered holder' request hheld' (hpayload ▸ payload) (hpayload ▸ fits)
        (hpayload ▸ hserver.trans server) (hpayload ▸ hbytes.trans bytes)

namespace Linearized

theorem of_underway (h : Linearized codec serve server past c calls pending)
    (event : ClientEvent) (hreturned : d.returned = c.returned)
    (hconnected : d.serverClosed = c.serverClosed)
    (underway : Underway codec serve (inTurn (atomicCall codec serve) server calls).1 d pending) :
    Linearized codec serve server (past ++ [event]) d calls pending :=
  ⟨hreturned.trans h.returned, sublist_issued h.issued event, underway,
    hconnected.trans h.connected⟩

theorem unchanged (h : Linearized codec serve server past c calls pending)
    (event : ClientEvent) : Linearized codec serve server (past ++ [event]) c calls pending :=
  h.of_underway event rfl rfl h.underway

/-- A call returns. -/
theorem finish (h : Linearized codec serve server past c calls pending) (event : ClientEvent)
    {holder : Holder} {request : ProtocolRequest} {interrupted : Option String}
    {result : Except ClientError ProtocolResponse}
    (hissued : (calls.map AtomicCall.issue ++ [(holder.call, request)]).Sublist
      (Yuha.issued (past ++ [event])))
    (heffect : atomicCall codec serve (inTurn (atomicCall codec serve) server calls).1
      ⟨holder.call, request, interrupted⟩ = (d.server, result))
    (hreturned : d.returned = c.returned) (hconnected : d.serverClosed = c.serverClosed)
    (hbytes : d.channel.readBuffer ++ d.toClient = []) :
    Linearized codec serve server (past ++ [event]) (d.finish holder result)
      (calls ++ [⟨holder.call, request, interrupted⟩]) [] := by
  constructor
  · rw [returned_finish, hreturned, h.returned, inTurn_concat]
    simp only [heffect]
  · simpa [AtomicCall.issue] using hissued
  · rw [inTurn_concat]
    exact .free rfl (by simp only [heffect]; rfl) hbytes
  · exact hconnected.trans h.connected

/-- The call that is underway returns. -/
theorem finish_pending (h : Linearized codec serve server past c calls pending)
    (event : ClientEvent) {holder : Holder} {request : ProtocolRequest}
    {interrupted : Option String} {result : Except ClientError ProtocolResponse}
    (hpending : pending = [(holder.call, request)])
    (heffect : atomicCall codec serve (inTurn (atomicCall codec serve) server calls).1
      ⟨holder.call, request, interrupted⟩ = (d.server, result))
    (hreturned : d.returned = c.returned) (hconnected : d.serverClosed = c.serverClosed)
    (hbytes : d.channel.readBuffer ++ d.toClient = []) :
    Linearized codec serve server (past ++ [event]) (d.finish holder result)
      (calls ++ [⟨holder.call, request, interrupted⟩]) [] :=
  h.finish event (sublist_issued (hpending ▸ h.issued) event) heffect hreturned hconnected hbytes

/-! ## One step -/

theorem lock (h : Linearized codec serve server past c calls pending) (hfree : c.holder = none)
    (call : Nat) (request : ProtocolRequest) : ∃ calls pending,
      Linearized codec serve server (past ++ [.lock call request]) (c.lock codec call request)
        calls pending := by
  cases h.underway with
  | sent holder request held => rw [hfree] at held; cases held
  | answered holder request held => rw [hfree] at held; cases held
  | free _ hserver hbytes =>
      have hissued : (calls.map AtomicCall.issue ++ [(call, request)]).Sublist
          (Yuha.issued (past ++ [.lock call request])) := by
        rw [Yuha.issued, List.filterMap_append]
        have hbefore := h.issued
        rw [List.append_nil] at hbefore
        exact hbefore.append (List.Sublist.refl _)
      have hrefused : ∀ (holder : Holder) result, holder.call = call →
          atomicCall codec serve c.server ⟨call, request, none⟩ = (c.server, result) →
          ∃ calls pending, Linearized codec serve server (past ++ [.lock call request])
            (c.finish holder result) calls pending := by
        rintro holder result rfl heffect
        have heffect' : atomicCall codec serve (inTurn (atomicCall codec serve) server calls).1
            ⟨holder.call, request, none⟩ = (c.server, result) := by
          rw [← hserver]
          exact heffect
        exact ⟨_, _, h.finish _ hissued heffect' rfl rfl hbytes⟩
      unfold Connection.lock
      split
      · rename_i e hpayload
        exact hrefused _ _ rfl (by simp only [atomicCall, hpayload])
      · rename_i payload hpayload
        split
        · rename_i hlong
          exact hrefused _ _ rfl (by simp only [atomicCall, hpayload, hlong, if_true])
        · rename_i hfits
          let holder : Holder := ⟨call, payload, c.toServer.length, .sending (frame payload)⟩
          exact ⟨calls, [(call, request)], h.returned, hissued,
            .sent holder request rfl hpayload (Nat.not_lt.mp hfits) hserver hbytes, h.connected⟩

/-- A response is complete only when the server has answered. -/
theorem poll (h : Linearized codec serve server past c calls pending) (event : ClientEvent)
    {holder holder' : Holder} (hheld : c.holder = some holder)
    (hcall : holder'.call = holder.call) (hpayload : holder'.payload = holder.payload)
    (hreturned : d.returned = c.returned) (hserver : d.server = c.server)
    (hconnected : d.serverClosed = c.serverClosed)
    (hbytes : d.channel.readBuffer ++ d.toClient = c.channel.readBuffer ++ c.toClient) :
    ∃ calls pending, Linearized codec serve server (past ++ [event]) (d.poll codec holder')
      calls pending := by
  cases hcomplete : completeMessage d.channel.readBuffer with
  | none =>
      have hpoll : d.poll codec holder' =
          { d with holder := some { holder' with phase := .receiving } } := by
        simp only [Connection.poll, hcomplete]
      rw [hpoll]
      exact ⟨calls, pending, h.of_underway event hreturned hconnected
        (h.underway.move hheld rfl hcall hpayload hserver hbytes)⟩
  | some message =>
      obtain ⟨payload, readBuffer⟩ := message
      have hparse : framing.parse (c.channel.readBuffer ++ c.toClient) =
          some (payload, readBuffer ++ d.toClient) :=
        hbytes ▸ framing.parse_append hcomplete d.toClient
      have hpoll : d.poll codec holder' = { d with channel := ⟨readBuffer⟩ }.finish holder'
          (decodeResponse codec payload) := by
        simp only [Connection.poll, hcomplete]
      rw [hpoll]
      cases h.underway with
      | free hfree => rw [hheld] at hfree; cases hfree
      | sent _ _ _ _ _ _ hnone => rw [hnone, framing.parse_nil] at hparse; cases hparse
      | answered other request hother hrequest fits hanswered hframe =>
          obtain rfl := Option.some.inj (hheld.symm.trans hother)
          have hreply := framing.parse_encode
            (serve (inTurn (atomicCall codec serve) server calls).1 holder.payload).2.val []
            (Subtype.prop _)
          rw [List.append_nil, framing_encode, ← hframe, hparse, Option.some.injEq,
            Prod.mk.injEq] at hreply
          obtain ⟨rfl, hnone⟩ := hreply
          have heffect : atomicCall codec serve (inTurn (atomicCall codec serve) server calls).1
              ⟨holder'.call, request, none⟩ = (d.server, decodeResponse codec
                (serve (inTurn (atomicCall codec serve) server calls).1 holder.payload).2.val) := by
            simp only [atomicCall, hrequest, Nat.not_lt.mpr fits, if_false, hserver, hanswered]
          exact ⟨_, _, h.finish_pending (d := { d with channel := ⟨readBuffer⟩ }) event
            (by rw [hcall]) heffect hreturned hconnected hnone⟩

theorem read (h : Linearized codec serve server past c calls pending) (event : ClientEvent)
    {holder : Holder} (hheld : c.holder = some holder) (n : Nat) : ∃ calls pending,
      Linearized codec serve server (past ++ [event]) (c.read codec holder n) calls pending := by
  unfold Connection.read
  by_cases hempty : c.toClient = []
  · simp only [hempty, if_true, h.connected, Bool.false_eq_true, if_false]
    exact ⟨calls, pending, h.unchanged event⟩
  · simp only [hempty, if_false]
    split
    · exact ⟨calls, pending, h.unchanged event⟩
    · refine h.poll (d := c.readBuf n) event hheld rfl rfl rfl rfl rfl ?_
      simp [readBuf]

/-- A call that stops before its first byte has done nothing. -/
theorem stop (h : Linearized codec serve server past c calls pending) (haligned : Aligned c)
    (event : ClientEvent) {holder : Holder} (hheld : c.holder = some holder)
    (hunwritten : c.toServer.length = holder.offset) (stop : Stop) : ∃ calls pending,
      Linearized codec serve server (past ++ [event]) (c.stopHolder holder stop) calls pending := by
  cases haligned.of_held hheld with
  | waiting _ _ _ written => exact absurd hunwritten written.offset_lt.ne'
  | replied _ _ _ _ written => exact absurd hunwritten written.offset_lt.ne'
  | dead hclosed => rw [h.connected] at hclosed; cases hclosed
  | writing done quiet written unwritten phase =>
      have hbytes : c.channel.readBuffer ++ c.toClient = [] := by
        rw [quiet.readBuffer, quiet.toClient]
        rfl
      cases h.underway with
      | free hfree => rw [hheld] at hfree; cases hfree
      | answered _ _ _ _ _ _ hframe =>
          exact absurd (hframe.symm.trans hbytes) (framing.encode_ne_nil _)
      | sent other request hother hrequest fits hserver =>
          obtain rfl := Option.some.inj (hheld.symm.trans hother)
          cases stop with
          | failed message =>
              have heffect : atomicCall codec serve (inTurn (atomicCall codec serve) server calls).1
                  ⟨holder.call, request, some message⟩ =
                    (c.server, .error (Holder.failed holder message)) := by
                simp only [atomicCall, hrequest, Nat.not_lt.mpr fits, if_false, hserver,
                  Holder.failed, phase]
              exact ⟨_, _, h.finish_pending event rfl heffect rfl rfl hbytes⟩
          | dropped =>
              refine ⟨calls, [], h.returned, ?_, .free rfl hserver hbytes, h.connected⟩
              have hissued := sublist_issued h.issued event
              rw [List.append_nil]
              exact (List.sublist_append_left _ _).trans hissued

theorem serveNext (h : Linearized codec serve server past c calls pending)
    (haligned : Aligned c) (event : ClientEvent) : ∃ calls pending,
      Linearized codec serve server (past ++ [event]) (c.serveNext serve) calls pending := by
  unfold Connection.serveNext
  simp only [h.connected, Bool.false_eq_true, if_false]
  split
  · exact ⟨calls, pending, h.unchanged event⟩
  · rename_i request hrequest
    obtain ⟨done, holder, quiet, hholder, rfl⟩ := haligned.served h.connected hrequest
    cases h.underway with
    | free hfree => rw [hholder] at hfree; cases hfree
    | answered _ _ _ _ _ _ hframe =>
        rw [quiet.readBuffer, quiet.toClient] at hframe
        exact absurd hframe.symm (framing.encode_ne_nil _)
    | sent other request' hother hpayload fits hserver hbytes =>
        obtain rfl := Option.some.inj (hholder.symm.trans hother)
        refine ⟨calls, _, h.of_underway event rfl h.connected.symm
          (.answered holder request' hholder hpayload fits ?_ ?_)⟩
        · simp only [hserver]
        · simp [quiet.readBuffer, quiet.toClient, hserver]

theorem step (h : Linearized codec serve server past c calls pending) (haligned : Aligned c)
    {event : ClientEvent} (hstops : StopsUnwritten c event) (hstays : event ≠ .hangUp) :
    ∃ calls pending, Linearized codec serve server (past ++ [event])
      (c.step codec serve event) calls pending := by
  cases event with
  | lock call request =>
      simp only [Connection.step]
      split
      · exact h.lock ‹_› call request
      · exact ⟨calls, pending, h.unchanged _⟩
  | write n =>
      simp only [Connection.step]
      split
      · rename_i hheld
        exact ⟨calls, pending, h.of_underway _ rfl rfl
          (h.underway.move hheld rfl rfl rfl rfl rfl)⟩
      · exact ⟨calls, pending, h.unchanged _⟩
  | flushed =>
      simp only [Connection.step]
      split
      · rename_i hheld
        exact h.poll _ hheld rfl rfl rfl rfl rfl rfl
      · exact ⟨calls, pending, h.unchanged _⟩
  | read n =>
      simp only [Connection.step]
      split
      · exact h.read _ ‹_› n
      · exact ⟨calls, pending, h.unchanged _⟩
  | stop stop =>
      simp only [Connection.step]
      split
      · exact h.stop haligned _ ‹_› (hstops _ ‹_›) stop
      · exact ⟨calls, pending, h.unchanged _⟩
  | serve => exact h.serveNext haligned _
  | hangUp => exact absurd rfl hstays

end Linearized

variable (codec serve server) in
/-- While no call stops between its first byte and its response, and the server stays, the
calls take effect one after the other. -/
theorem linearized_run {events : List ClientEvent}
    (stops : Along (step codec serve) (fun _ => StopsUnwritten) (new server) events)
    (stays : .hangUp ∉ events) : ∃ calls pending, Linearized codec serve server events
      (run (step codec serve) (new server) events) calls pending := by
  induction events using List.reverseRecOn with
  | nil => exact ⟨[], [], rfl, List.Sublist.refl _, .free rfl rfl rfl, rfl⟩
  | append_singleton events event ih =>
      rw [along_concat] at stops
      obtain ⟨calls, pending, h⟩ := ih stops.1 fun hmem => stays (List.mem_append_left _ hmem)
      rw [run_append]
      exact h.step (inv_run stops.1).aligned stops.2
        fun heq => stays (List.mem_append_right _ (List.mem_singleton.mpr heq.symm))

end Connection

end Yuha
