import Yuha.Client.ClientTransport
import Yuha.Core.JsonMessages
import Yuha.Remote.Pending
import Yuha.Remote.Replying

/-!
# The clipboard of the remote host

`set_clipboard` stores a text in the process of the remote server, and `get_clipboard`
brings it back in a `Data` response, together with whatever else is buffered. The response
is the larger of the two messages, so a text that came in may be too long to go out.

## Implementation notes

A call is its request, the steps of the server up to its response, and the response. It
starts when the channel's mutex is free, and the caller does not drop it.
-/

namespace Yuha

open Library Library.Execution

/-! ## The client -/

/-- The content among the items that `get_clipboard` returns. -/
def ResponseItem.clipboardText : ResponseItem → Option String
  | .clipboardContent content => some content
  | _ => none

/-- What `Client::get_clipboard` makes of a response. -/
def getClipboardResult : Except ClientError ProtocolResponse → Except ClientError String
  | .ok (.data items) =>
      match items.findSome? ResponseItem.clipboardText with
      | some content => .ok content
      | none => .error (.channel "No clipboard content in response")
  | .ok (.error message) => .error (.remoteExecution message)
  | .ok .success => .error (.channel "Unexpected response type")
  | .error error => .error error

/-- What `Client::set_clipboard` makes of a response. -/
def setClipboardResult : Except ClientError ProtocolResponse → Except ClientError Unit
  | .ok .success => .ok ()
  | .ok (.error message) => .error (.remoteExecution message)
  | .ok (.data _) => .error (.channel "Unexpected response type")
  | .error error => .error error

/-! ## The host -/

/-- The remote server and `CLIPBOARD_STORAGE`. -/
structure ClipboardHost where
  server : RemoteServer := {}
  storage : String := ""

namespace ClipboardHost

/-- The clipboard that a request finds is the storage, whose lock is never poisoned. -/
def seen (h : ClipboardHost) : RemoteEvent → RemoteEvent
  | .request request surroundings =>
      .request request { surroundings with clipboard := .ok h.storage, setClipboard := .ok () }
  | event => event

def step (h : ClipboardHost) (event : RemoteEvent) : ClipboardHost where
  server := h.server.step (h.seen event)
  storage :=
    match h.server.mainLoop, event with
    | .receiving, .request (.setClipboard content) _ => content
    | _, _ => h.storage

/-- `Client::send_request`: other steps of the server come between its handling of the
request and its response. A server whose main loop has ended does not answer. -/
def sendRequest (h : ClipboardHost) (request : ProtocolRequest) (turns : List RemoteEvent)
    (failure : Option String) : Except ClientError ProtocolResponse × ClipboardHost :=
  if maxPayload < request.toVec.length then
    (.error (Connection.sendFailed (.protocol (.bufferOverflow request.toVec.length))), h)
  else
    let handled := run step h (.request request {} :: turns)
    let sent := handled.step (.send failure)
    match handled.server.mainLoop, sent.server.mainLoop with
    | .sending _ response, .receiving => (.ok response, sent)
    | _, _ => (.error (Connection.receiveFailed (.protocol .channelClosed)), sent)

def setClipboard (h : ClipboardHost) (content : String) (turns : List RemoteEvent)
    (failure : Option String) : Except ClientError Unit × ClipboardHost :=
  let sent := h.sendRequest (.setClipboard content) turns failure
  (setClipboardResult sent.1, sent.2)

def getClipboard (h : ClipboardHost) (turns : List RemoteEvent) (failure : Option String) :
    Except ClientError String × ClipboardHost :=
  let sent := h.sendRequest .getClipboard turns failure
  (getClipboardResult sent.1, sent.2)

/-- No call waits for its response. -/
def Free (h : ClipboardHost) : Prop := h.server.mainLoop.request = none

/-- Steps that are not the sending of a response. -/
def Turns (turns : List RemoteEvent) : Prop := ∀ failure, RemoteEvent.send failure ∉ turns

/-- Steps among which no one sets the clipboard. -/
def SetsNothing (events : List RemoteEvent) : Prop :=
  ∀ content surroundings, RemoteEvent.request (.setClipboard content) surroundings ∉ events

variable {h : ClipboardHost}

/-! ## The storage and the buffer -/

theorem storage_step {event : RemoteEvent}
    (hsets : ∀ content surroundings, event ≠ .request (.setClipboard content) surroundings) :
    (h.step event).storage = h.storage := by
  simp only [step]
  split
  · exact absurd rfl (hsets _ _)
  · rfl

theorem storage_run {events : List RemoteEvent} (hsets : SetsNothing events) :
    (run step h events).storage = h.storage := by
  induction events generalizing h with
  | nil => rfl
  | cons event events ih =>
      have hfirst : ∀ content surroundings,
          event ≠ .request (.setClipboard content) surroundings := by
        rintro content surroundings rfl
        exact hsets content surroundings List.mem_cons_self
      have hmore : SetsNothing events := fun content surroundings hmem =>
        hsets content surroundings (List.mem_cons_of_mem _ hmem)
      calc (run step (h.step event) events).storage
          = (h.step event).storage := ih hmore
        _ = h.storage := storage_step hfirst

/-- Whatever waits for a poll is about a connection. -/
def NoText (h : ClipboardHost) : Prop := ∀ item ∈ h.server.reached, item.connection.isSome

theorem NoText.run (hclear : h.NoText) (events : List RemoteEvent) :
    (run step h events).NoText := by
  induction events generalizing h with
  | nil => exact hclear
  | cons event events ih =>
      apply ih
      intro item hmem
      cases h.server.reached_step (h.seen event) hmem with
      | inl hold => exact hclear item hold
      | inr hconnection => exact hconnection

theorem noText_new : NoText {} := fun _ hmem => absurd hmem List.not_mem_nil

/-- A state that some run of the host reaches. -/
def Reachable (h : ClipboardHost) : Prop := ∃ events, h = run step {} events

/-! ## A call -/

/-- While a response is about to be sent, or after the end of the main loop, other steps
leave the main loop alone. -/
theorem mainLoop_step (hmain : (∃ request response, h.server.mainLoop = .sending request response) ∨
    ∃ error, h.server.mainLoop = .ended error) {event : RemoteEvent}
    (hevent : ∀ failure, event ≠ .send failure) :
    (h.step event).server.mainLoop = h.server.mainLoop ∧
      (h.step event).storage = h.storage := by
  have hready : h.server.mainLoop ≠ .receiving := by
    rintro ready
    rw [ready] at hmain
    simp at hmain
  constructor
  · cases event with
    | request request surroundings | receiveFailed error =>
        simp only [step, seen, RemoteServer.step]
    | mainTurn =>
        simp only [step, seen, RemoteServer.step, RemoteServer.mainTurn]
        split
        · rename_i waiting
          rw [waiting] at hmain
          simp at hmain
        · rename_i stopping
          rw [stopping] at hmain
          simp at hmain
        · rfl
    | send failure => exact absurd rfl (hevent failure)
    | accept f =>
        simp only [step, seen, RemoteServer.step, RemoteServer.accept]
        split
        · split <;> rfl
        · rfl
    | acceptFailed f => rfl
    | task i event =>
        simp only [step, seen, RemoteServer.step]
        split
        · exact RemoteServer.mainLoop_taskStep _ i _ event
        · rfl
  · simp only [step]
    split
    · exact absurd ‹_› hready
    · rfl

theorem mainLoop_run (hmain : (∃ request response, h.server.mainLoop = .sending request response) ∨
    ∃ error, h.server.mainLoop = .ended error) {turns : List RemoteEvent} (hturns : Turns turns) :
    (run step h turns).server.mainLoop = h.server.mainLoop ∧
      (run step h turns).storage = h.storage := by
  induction turns generalizing h with
  | nil => exact ⟨rfl, rfl⟩
  | cons event turns ih =>
      have hevent : ∀ failure, event ≠ .send failure := by
        rintro failure rfl
        exact hturns failure List.mem_cons_self
      have hmore : Turns turns := fun failure hmem =>
        hturns failure (List.mem_cons_of_mem _ hmem)
      obtain ⟨hkept, hstorage⟩ := mainLoop_step hmain hevent
      rw [run_cons, ← hkept, ← hstorage]
      exact ih (hkept ▸ hmain) hmore

/-- A call whose request the server handles returns the response if that fits a frame and
the stream does not fail. -/
theorem sendRequest_of_handled {request : ProtocolRequest} {response : ProtocolResponse}
    (hfits : request.toVec.length ≤ maxPayload)
    (handled : (h.step (.request request {})).server.mainLoop = .sending request response)
    {turns : List RemoteEvent} (hturns : Turns turns) (failure : Option String) :
    (h.sendRequest request turns failure).1 =
        (if response.encodedSize ≤ maxPayload ∧ failure = none then .ok response
        else .error (Connection.receiveFailed (.protocol .channelClosed))) ∧
      (h.sendRequest request turns failure).2.storage =
        (h.step (.request request {})).storage := by
  obtain ⟨hmain, hstorage⟩ := mainLoop_run (.inl ⟨request, response, handled⟩) hturns
  rw [handled] at hmain
  have hkept : ((run step (h.step (.request request {})) turns).step (.send failure)).storage =
      (run step (h.step (.request request {})) turns).storage := by
    simp [step]
  rw [hstorage] at hkept
  simp only [sendRequest, if_neg (Nat.not_lt.mpr hfits), run_cons]
  generalize run step (h.step (.request request {})) turns = t at hmain hkept ⊢
  have hsend : (t.step (.send failure)).server = t.server.sendResponse failure := rfl
  cases RemoteServer.sendResponse_cases hmain failure with
  | inl hsent =>
      obtain ⟨hok, hsent⟩ := hsent
      rw [if_pos hok, hmain, hsend, hsent]
      exact ⟨rfl, hkept⟩
  | inr hbroken =>
      obtain ⟨hnot, error, hbroken⟩ := hbroken
      rw [if_neg hnot, hmain, hsend, hbroken]
      exact ⟨rfl, hkept⟩

/-- A call on a server that has ended fails. -/
theorem sendRequest_of_ended {error : YuhaError} (hended : h.server.mainLoop = .ended error)
    (request : ProtocolRequest) {turns : List RemoteEvent} (hturns : Turns turns)
    (failure : Option String) : ∃ e, (h.sendRequest request turns failure).1 = .error e := by
  unfold sendRequest
  split
  · exact ⟨_, rfl⟩
  · have hall : Turns (.request request {} :: turns) := by
      intro failure hmem
      exact hturns failure ((List.mem_cons.mp hmem).resolve_left (by rintro ⟨⟩))
    obtain ⟨hmain, _⟩ := mainLoop_run (.inr ⟨error, hended⟩) hall
    simp only [hmain, hended]
    exact ⟨_, rfl⟩

/-! ## Set, then get -/

theorem handled_setClipboard (ready : h.server.mainLoop = .receiving) (content : String) :
    (h.step (.request (.setClipboard content) {})).server.mainLoop =
        .sending (.setClipboard content) .success ∧
      (h.step (.request (.setClipboard content) {})).storage = content := by
  simp [step, seen, RemoteServer.step, ready, RemoteServer.handleRequest,
    RemoteServer.setClipboard, RemoteServer.respond]

theorem handled_getClipboard (ready : h.server.mainLoop = .receiving) :
    (h.step (.request .getClipboard {})).server.mainLoop =
      .sending .getClipboard
        (.data (h.server.responseBuffer.items ++ [ResponseItem.clipboardContent h.storage])) := by
  simp [step, seen, RemoteServer.step, ready, RemoteServer.handleRequest,
    RemoteServer.getClipboard, RemoteServer.takeItems, ResponseBuffer.takeItems,
    RemoteServer.add, RemoteServer.respond]

/-- A free host is about to receive, or has ended. -/
theorem Free.cases (hfree : h.Free) :
    h.server.mainLoop = .receiving ∨ ∃ error, h.server.mainLoop = .ended error := by
  unfold Free at hfree
  cases hmain : h.server.mainLoop with
  | receiving => exact .inl rfl
  | ended error => exact .inr ⟨error, rfl⟩
  | waiting | stopping _ _ _ | sending _ _ => simp [hmain, MainLoop.request] at hfree

/-- After a `set_clipboard` that returned `Ok` the storage holds the content. -/
theorem storage_setClipboard (hfree : h.Free) {content : String} {turns : List RemoteEvent}
    (hturns : Turns turns) {failure : Option String}
    (hset : (h.setClipboard content turns failure).1 = .ok ()) :
    (h.setClipboard content turns failure).2.storage = content := by
  cases hfree.cases with
  | inl ready =>
      obtain ⟨hmain, hstorage⟩ := handled_setClipboard ready content
      by_cases hfits : (ProtocolRequest.setClipboard content).toVec.length ≤ maxPayload
      · rw [setClipboard, (sendRequest_of_handled hfits hmain hturns failure).2, hstorage]
      · have hrefused : (h.sendRequest (.setClipboard content) turns failure).1 =
            .error (Connection.sendFailed (.protocol (.bufferOverflow
              (ProtocolRequest.setClipboard content).toVec.length))) := by
          rw [sendRequest, if_pos (Nat.not_le.mp hfits)]
        rw [setClipboard, hrefused] at hset
        cases hset
  | inr hended =>
      obtain ⟨error, hended⟩ := hended
      obtain ⟨e, he⟩ := sendRequest_of_ended hended (.setClipboard content) hturns failure
      rw [setClipboard, he] at hset
      cases hset

/-- What the caller of `get_clipboard` gets from a server that still runs. -/
theorem getClipboard_of_receiving (hclear : h.NoText) (ready : h.server.mainLoop = .receiving)
    {turns : List RemoteEvent} (hturns : Turns turns) (failure : Option String) :
    (h.getClipboard turns failure).1 =
      if dataSize (h.server.responseBuffer.items ++
          [ResponseItem.clipboardContent h.storage]) ≤ maxPayload ∧
        failure = none then .ok h.storage
      else .error (Connection.receiveFailed (.protocol .channelClosed)) := by
  have hfits : ProtocolRequest.getClipboard.toVec.length ≤ maxPayload := by decide +kernel
  have hcall := (sendRequest_of_handled hfits (handled_getClipboard ready) hturns failure).1
  have hnone : h.server.responseBuffer.items.findSome? ResponseItem.clipboardText = none := by
    apply List.findSome?_eq_none_iff.mpr
    intro item hmem
    have hconnection := hclear item
      (List.mem_append_right _ (List.mem_append_right _ hmem))
    cases item with
    | clipboardContent content => simp [ResponseItem.connection] at hconnection
    | _ => rfl
  have hresult : getClipboardResult (.ok (.data (h.server.responseBuffer.items ++
      [ResponseItem.clipboardContent h.storage]))) = .ok h.storage := by
    simp [getClipboardResult, List.findSome?_append, hnone, ResponseItem.clipboardText]
  show getClipboardResult (h.sendRequest .getClipboard turns failure).1 = _
  rw [hcall]
  change getClipboardResult (if dataSize _ ≤ maxPayload ∧ failure = none then _ else _) = _
  split
  · exact hresult
  · rfl

theorem NoText.sendRequest (hclear : h.NoText) (request : ProtocolRequest)
    (turns : List RemoteEvent) (failure : Option String) :
    (h.sendRequest request turns failure).2.NoText := by
  have hsent := hclear.run (.request request {} :: turns ++ [RemoteEvent.send failure])
  rw [run_append] at hsent
  unfold ClipboardHost.sendRequest
  split
  · exact hclear
  · dsimp only
    split <;> exact hsent

theorem NoText.setClipboard (hclear : h.NoText) (content : String) (turns : List RemoteEvent)
    (failure : Option String) : (h.setClipboard content turns failure).2.NoText := by
  have hsent := NoText.sendRequest hclear (.setClipboard content) turns failure
  simpa only [ClipboardHost.setClipboard] using hsent

/-- After a `set_clipboard` that returned `Ok`, and no other since, the next `get_clipboard`
returns the content, exactly if the server still runs by then, what it takes from the buffer
fits a frame together with the content, and the stream does not fail. -/
theorem getClipboard_eq_ok_iff {h next : ClipboardHost} (hreach : h.Reachable) (hfree : h.Free)
    {content : String} {turns : List RemoteEvent} (hturns : Turns turns) {failure : Option String}
    (hset : (h.setClipboard content turns failure).1 = .ok ()) {between : List RemoteEvent}
    (hbetween : SetsNothing between)
    (hnext : next = run step (h.setClipboard content turns failure).2 between)
    (hfree' : next.Free) {turns' : List RemoteEvent} (hturns' : Turns turns')
    (failure' : Option String) :
    (next.getClipboard turns' failure').1 = .ok content ↔
      next.server.mainLoop = .receiving ∧
        dataSize (next.server.responseBuffer.items ++ [.clipboardContent content]) ≤ maxPayload ∧
        failure' = none := by
  obtain ⟨past, rfl⟩ := hreach
  have hclear : next.NoText := by
    rw [hnext]
    exact ((noText_new.run past).setClipboard content turns failure).run between
  have hstorage : next.storage = content :=
    calc next.storage
        = ((run step {} past).setClipboard content turns failure).2.storage := by
          rw [hnext, storage_run hbetween]
      _ = content := storage_setClipboard hfree hturns hset
  cases hfree'.cases with
  | inl ready =>
      rw [getClipboard_of_receiving hclear ready hturns' failure', hstorage]
      constructor
      · intro hok
        split at hok
        · rename_i hfits
          exact ⟨ready, hfits⟩
        · cases hok
      · rintro ⟨_, hfits⟩
        rw [if_pos hfits]
  | inr hended =>
      obtain ⟨error, hended⟩ := hended
      obtain ⟨e, he⟩ := sendRequest_of_ended hended .getClipboard hturns' failure'
      rw [getClipboard, he, hended]
      constructor
      · intro hok
        cases hok
      · rintro ⟨hready, _⟩
        cases hready

theorem turns_nil : Turns [] := fun _ => List.not_mem_nil

/-- A text that fits a request is set on a new server. -/
theorem setClipboard_new {content : String}
    (hfits : (ProtocolRequest.setClipboard content).toVec.length ≤ maxPayload) :
    setClipboard {} content [] none =
      (.ok (), ⟨{ exchanges := [(.setClipboard content, .success)] }, content⟩) := by
  have hsuccess : ¬ maxPayload < ProtocolResponse.success.toVec.length := by
    rw [ProtocolResponse.length_toVec]
    decide
  simp only [setClipboard, sendRequest, if_neg (Nat.not_lt.mpr hfits), run_cons, run_nil, step,
    seen, RemoteServer.step, RemoteServer.handleRequest, RemoteServer.setClipboard,
    RemoteServer.respond, RemoteServer.sendResponse, RemoteServer.sendOutcome, send_outcome,
    if_neg hsuccess]
  rfl

/-- A port is forwarded. -/
def forwardingHost : ClipboardHost :=
  run step {} [.request (.startPortForward 8080 "web" 80) {}, .send none]

/-- While a text is set a connection is accepted, and then it is announced. -/
def announcedHost : ClipboardHost :=
  run step (forwardingHost.setClipboard "\n" [.accept 0] none).2 [.task 0 .lock, .accept 0]

theorem getClipboard_eq_ok_iff_announced :
    announcedHost.server.responseBuffer.items = [.newConnection 1 8080] ∧
      (announcedHost.getClipboard [.task 1 .lock] none).1 = .ok "\n" := by
  have hset : (forwardingHost.setClipboard "\n" [.accept 0] none).1 = .ok () := by decide +kernel
  have hfree : forwardingHost.Free := by unfold Free; decide +kernel
  have hfree' : announcedHost.Free := by unfold Free; decide +kernel
  have hturns : Turns [.accept 0] := by simp [Turns]
  have hturns' : Turns [.task 1 .lock] := by simp [Turns]
  have hbetween : SetsNothing [.task 0 .lock, .accept 0] := by simp [SetsNothing]
  refine ⟨by decide +kernel, (getClipboard_eq_ok_iff ⟨_, rfl⟩ hfree hturns hset hbetween rfl hfree'
    hturns' none).mpr ⟨?_, ?_, rfl⟩⟩
  · decide +kernel
  · decide +kernel

/-- The first two calls of a client. -/
theorem getClipboard_setClipboard_new {content : String}
    (hfits : (ProtocolRequest.setClipboard content).toVec.length ≤ maxPayload) :
    ((setClipboard {} content [] none).2.getClipboard [] none).1 =
      if dataSize [.clipboardContent content] ≤ maxPayload then .ok content
      else .error (Connection.receiveFailed (.protocol .channelClosed)) := by
  have hclear : (setClipboard {} content [] none).2.NoText :=
    noText_new.setClipboard content [] none
  rw [setClipboard_new hfits] at hclear ⊢
  rw [getClipboard_of_receiving hclear rfl turns_nil none]
  simp

/-- The size of a request to set a text of `n` letters. -/
theorem length_toVec_letters (n : Nat) :
    (ProtocolRequest.setClipboard (String.ofList (List.replicate n 'a'))).toVec.length =
      n + 31 := by
  have hletter : Json.escapeSize 'a' = 1 := by decide
  have hname : Json.stringSize "SetClipboard" = 14 := by decide
  have hcontent : Json.stringSize "content" = 9 := by decide
  have htext : (ProtocolRequest.setClipboard (String.ofList (List.replicate n 'a'))).toVec =
      Json.object [("SetClipboard", Json.object [
        ("content", Json.string (String.ofList (List.replicate n 'a')))])] := rfl
  rw [htext, length_field, length_field, Json.length_string, hname, hcontent,
    Json.stringSize_replicate, hletter]
  omega

/-- A text of 65500 letters goes in and does not come out. -/
theorem getClipboard_letters_false :
    (setClipboard {} (String.ofList (List.replicate 65500 'a')) [] none).1 = .ok () ∧
      ((setClipboard {} (String.ofList (List.replicate 65500 'a')) [] none).2.getClipboard
        [] none).1 ≠ .ok (String.ofList (List.replicate 65500 'a')) := by
  have hfits : (ProtocolRequest.setClipboard
      (String.ofList (List.replicate 65500 'a'))).toVec.length ≤ maxPayload := by
    rw [length_toVec_letters]
    decide
  have hlong : ¬ dataSize [.clipboardContent (String.ofList (List.replicate 65500 'a'))] ≤
      maxPayload := by
    rw [RemoteServer.dataSize_letters]
    decide
  constructor
  · rw [setClipboard_new hfits]
  · rw [getClipboard_setClipboard_new hfits, if_neg hlong]
    intro h
    cases h

end ClipboardHost

end Yuha
