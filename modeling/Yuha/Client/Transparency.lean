import Yuha.Client.AtomicCalls

/-!
# A remote server seen through a client

What a client and a server make of requests and responses by way of JSON, frames and a
stream is what the server makes of them if it is asked directly, request by request.
-/

namespace Yuha

open Library.Json Library.Execution Connection

/-- A server that answers every request by a response that can be sent. -/
structure RequestServer (σ : Type*) where
  handle : σ → ProtocolRequest → σ × ProtocolResponse
  fits : ∀ s request, (handle s request).2.toVec.length ≤ maxPayload

/-- What a client writes and reads. -/
def SerdeJson.codec (serde : SerdeJson) : ProtocolCodec where
  requestToVec request := .ok request.toVec
  responseFromSlice := serde.fromSlice ProtocolResponse.fromJson

namespace RequestServer

variable {σ : Type*} (server : RequestServer σ)

/-- A call that asks the server directly. -/
def call (s : σ) (c : AtomicCall) : σ × Except ClientError ProtocolResponse :=
  if maxPayload < c.request.toVec.length then
    (s, .error (sendFailed (.protocol (.bufferOverflow c.request.toVec.length))))
  else
    match c.interrupted with
    | some message => (s, .error (sendFailed (.io message)))
    | none =>
        let (next, response) := server.handle s c.request
        (next, .ok response)

/-- What the server writes for a request. -/
def reply (s : σ) (request : ProtocolRequest) : σ × Payload :=
  ((server.handle s request).1, ⟨(server.handle s request).2.toVec, server.fits s request⟩)

/-- The server is behind the stream: it answers every payload that is a request. -/
def Behind (serde : SerdeJson) (serve : σ → Bytes → σ × Payload) : Prop :=
  ∀ s payload request, serde.fromSlice ProtocolRequest.fromJson payload = .ok request →
    serve s payload = server.reply s request

variable {server} {serde : SerdeJson} {serve : σ → Bytes → σ × Payload}

theorem Behind.serve_toVec (hserve : server.Behind serde serve)
    (hparse : serde.ParsesMessages) (s : σ) (request : ProtocolRequest) :
    serve s request.toVec = server.reply s request :=
  hserve s _ _ (hparse.request_read request)

/-- By way of the stream a call comes to the same. -/
theorem atomicCall_eq_call (hparse : serde.ParsesMessages) (hserve : server.Behind serde serve) :
    atomicCall serde.codec serve = server.call := by
  funext s c
  have hresponse : decodeResponse serde.codec (server.handle s c.request).2.toVec =
      .ok (server.handle s c.request).2 := by
    simp only [decodeResponse, SerdeJson.codec, hparse.response_read]
  simp only [atomicCall, call, SerdeJson.codec, hserve.serve_toVec hparse, reply]
  split
  · rfl
  · cases c.interrupted with
    | none => exact congrArg _ hresponse
    | some message => rfl

variable (server) in
/-- The calls returned what they return if they ask the server directly, one after the
other; one more may be underway, and the server may have done it. -/
structure Transparent (start : σ) (events : List ClientEvent) (c : Connection σ)
    (calls : List AtomicCall) (pending : List (Nat × ProtocolRequest)) : Prop where
  returned : c.returned = (inTurn server.call start calls).2
  issued : (calls.map AtomicCall.issue ++ pending).Sublist (issued events)
  free : c.holder = none →
    pending = [] ∧ c.server = (inTurn server.call start calls).1
  held : c.holder ≠ none → ∃ call request, pending = [(call, request)] ∧
    (c.server = (inTurn server.call start calls).1 ∨
      c.server = (server.handle (inTurn server.call start calls).1 request).1)

/-- A client and a server on the two ends of a stream are the server itself, asked by one
caller after the other. -/
theorem transparent_run (hparse : serde.ParsesMessages) (hserve : server.Behind serde serve)
    {start : σ} {events : List ClientEvent}
    (stops : Along (step serde.codec serve) (fun _ => StopsUnwritten) (new start) events)
    (stays : .hangUp ∉ events) : ∃ calls pending, server.Transparent start events
      (run (step serde.codec serve) (new start) events) calls pending := by
  obtain ⟨calls, pending, h⟩ := linearized_run serde.codec serve start stops stays
  have hcalls : inTurn (atomicCall serde.codec serve) start calls =
      inTurn server.call start calls := by
    rw [atomicCall_eq_call hparse hserve]
  have hunderway := h.underway
  rw [hcalls] at hunderway
  refine ⟨calls, pending, hcalls ▸ h.returned, h.issued, fun hfree => ?_, fun hheld => ?_⟩
  · cases hunderway with
    | free _ hserver => exact ⟨rfl, hserver⟩
    | sent holder request hother => rw [hfree] at hother; cases hother
    | answered holder request hother => rw [hfree] at hother; cases hother
  · cases hunderway with
    | free hfree => exact absurd hfree hheld
    | sent holder request _ _ _ hserver => exact ⟨holder.call, request, rfl, .inl hserver⟩
    | answered holder request _ hpayload _ hserver =>
        refine ⟨holder.call, request, rfl, .inr ?_⟩
        have hwritten : request.toVec = holder.payload := Except.ok.inj hpayload
        rw [hserver, ← hwritten, hserve.serve_toVec hparse]
        rfl

/-- A server that counts its requests and says `Success`. -/
def counting : RequestServer Nat where
  handle n _ := (n + 1, .success)
  fits _ _ := by
    show ProtocolResponse.success.toVec.length ≤ maxPayload
    decide +kernel

/-- It does nothing about a payload that is no request. -/
def countingServe (n : Nat) (payload : Bytes) : Nat × Payload :=
  match SerdeJson.fromSlice ⟨parse, fun _ => "expected value"⟩ ProtocolRequest.fromJson payload with
  | .ok request => counting.reply n request
  | .error _ => (n, ⟨[], by decide⟩)

theorem counting_behind : counting.Behind ⟨parse, fun _ => "expected value"⟩ countingServe := by
  intro n payload request hrequest
  simp only [countingServe, hrequest]

/-- A caller that is dropped before its first byte, and two that run to their ends. -/
def countedEvents : List ClientEvent :=
  [.lock 0 .pollData, .stop .dropped, .lock 1 .getClipboard, .write 3, .write 100, .serve,
    .flushed, .read 1, .read 100, .lock 2 (.setClipboard "\n"), .write 100, .flushed, .serve,
    .read 100]

theorem transparent_run_counted : ∃ calls pending, counting.Transparent 0 countedEvents
    (run (step (SerdeJson.codec ⟨parse, fun _ => "expected value"⟩) countingServe) (new 0)
      countedEvents) calls pending := by
  apply transparent_run (SerdeJson.parsesMessages_parse _) counting_behind
  · simp only [countedEvents, along_cons, StopsUnwritten, along_nil, true_and, and_true]
    rintro holder hholder
    obtain rfl := Option.some.inj hholder
    rfl
  · decide

end RequestServer

end Yuha
