import Yuha.Remote.Changes

/-!
# The size of the server's answers

`send` refuses a payload of more than 65535 bytes, and the main loop ends when an answer
cannot be sent. What an answer holds is not bounded: everything that was buffered since the
last poll, the clipboard, or the text of an error. The conditions below count the bytes
before the request is handled.
-/

namespace Yuha

open Library Library.Execution

/-- The bytes of a `Data` response with these items. -/
def dataSize (items : List ResponseItem) : Nat :=
  21 + Json.separatedSize (items.map fun item => item.encodedSize)

/-- The bytes of an `Error` response with this message. -/
def errorSize (message : String) : Nat := 22 + Json.stringSize message

namespace RemoteServer

variable {s t : RemoteServer}

/-- The response that is about to be sent fits a frame, and the loop was not ended by one
that did not. -/
structure RepliesFit (s : RemoteServer) : Prop where
  fits : ∀ request response, s.mainLoop = .sending request response →
    response.toVec.length ≤ maxPayload
  survives : ∀ size, s.mainLoop ≠ .ended (.protocol (.bufferOverflow size))

/-- An error of the operating system is not too long to be reported. -/
def ErrorFits {α : Type} (message : String → String) : Except String α → Prop
  | .ok _ => True
  | .error e => errorSize (message e) ≤ maxPayload

/-- What the request takes from the buffer, and what the operating system says, fit. -/
def RequestFits (s : RemoteServer) (surroundings : Surroundings) : ProtocolRequest → Prop
  | .pollData => s.responseBuffer.items ≠ [] → dataSize s.responseBuffer.items ≤ maxPayload
  | .startPortForward localPort _ _ =>
      ErrorFits (fun e => s!"Failed to bind to 0.0.0.0:{localPort}: {e}")
        (s.bind localPort surroundings.bind)
  | .getClipboard =>
      match surroundings.clipboard with
      | .ok content =>
          dataSize (s.responseBuffer.items ++ [.clipboardContent content]) ≤ maxPayload
      | .error e => errorSize s!"Failed to get clipboard: {e}" ≤ maxPayload
  | .setClipboard _ =>
      ErrorFits (fun e => s!"Failed to set clipboard: {e}") surroundings.setClipboard
  | .openBrowser _ => ErrorFits (fun e => s!"Failed to open browser: {e}") surroundings.openUrl
  | .stopPortForward _ | .portForwardData _ _ => True

/-- The same for whatever makes the main loop answer. -/
def AnswerFits (s : RemoteServer) : RemoteEvent → Prop
  | .request request surroundings => s.mainLoop = .receiving → s.RequestFits surroundings request
  | .mainTurn => s.mainLoop = .waiting → dataSize s.responseBuffer.items ≤ maxPayload
  | _ => True

theorem repliesFit_sending {request : ProtocolRequest} {response : ProtocolResponse}
    (h : s.mainLoop = .sending request response) :
    s.RepliesFit ↔ response.encodedSize ≤ maxPayload := by
  rw [← ProtocolResponse.length_toVec]
  constructor
  · exact fun hfit => hfit.fits request response h
  · intro hfits
    constructor
    · intro request' response' h'
      obtain ⟨rfl, rfl⟩ := MainLoop.sending.inj (h.symm.trans h')
      exact hfits
    · intro size hended
      cases h.symm.trans hended

/-- Where the main loop waits for something else, there is nothing to send. -/
theorem repliesFit_idle (h : s.mainLoop = .receiving ∨ s.mainLoop = .waiting ∨
    ∃ localPort connectionId toRemove, s.mainLoop = .stopping localPort connectionId toRemove) :
    s.RepliesFit := by
  constructor
  · intro request response hsending
    rw [hsending] at h
    simp at h
  · intro size hended
    rw [hended] at h
    simp at h

/-- The main loop was ended by something else. -/
theorem repliesFit_ended {error : YuhaError} (h : s.mainLoop = .ended error)
    (herror : ∀ size, error ≠ .protocol (.bufferOverflow size)) : s.RepliesFit := by
  constructor
  · intro request response hsending
    cases h.symm.trans hsending
  · intro size hended
    exact herror size (MainLoop.ended.inj (h.symm.trans hended))

theorem repliesFit_congr (h : t.mainLoop = s.mainLoop) (hs : s.RepliesFit) : t.RepliesFit :=
  ⟨h ▸ hs.fits, h ▸ hs.survives⟩

theorem repliesFit_success {request : ProtocolRequest}
    (h : s.mainLoop = .sending request .success) : s.RepliesFit :=
  (repliesFit_sending h).mpr (by decide)

theorem repliesFit_takeItems (s : RemoteServer) (request : ProtocolRequest) :
    (s.takeItems request).RepliesFit ↔ dataSize s.responseBuffer.items ≤ maxPayload := by
  have hsending : (s.takeItems request).mainLoop =
      .sending request (.data s.responseBuffer.items) := rfl
  exact repliesFit_sending hsending

/-- The response to a request about which the operating system was asked. -/
theorem repliesFit_errorFits {α : Type} {request : ProtocolRequest} {message : String → String}
    {answer : Except String α} {t : Except String α → RemoteServer}
    (hok : ∀ value, (t (.ok value)).mainLoop = .sending request .success)
    (herror : ∀ e, (t (.error e)).mainLoop = .sending request (.error (message e))) :
    (t answer).RepliesFit ↔ ErrorFits message answer := by
  cases answer with
  | ok value => exact ⟨fun _ => trivial, fun _ => repliesFit_success (hok value)⟩
  | error e => exact repliesFit_sending (herror e)

theorem repliesFit_forwardData (s : RemoteServer) (connectionId : UInt32) (data : Bytes) :
    (s.forwardData connectionId data).RepliesFit := by
  simp only [forwardData]
  split
  · rename_i i _
    cases hreceiver : s.receiver i with
    | none =>
        simp only [send, hreceiver]
        exact (repliesFit_sending rfl).mpr (by decide)
    | some relay =>
        simp only [send, hreceiver]
        exact repliesFit_success rfl
  · exact repliesFit_success rfl

theorem repliesFit_closeNext (s : RemoteServer) (localPort : UInt16) (toRemove : List UInt32) :
    (s.closeNext localPort toRemove).RepliesFit := by
  cases toRemove with
  | nil => exact repliesFit_success rfl
  | cons connectionId toRemove =>
      exact repliesFit_idle (.inr (.inr ⟨localPort, connectionId, toRemove, rfl⟩))

/-- The answer to a request fits exactly if what goes into it does. -/
theorem repliesFit_handleRequest (s : RemoteServer) (surroundings : Surroundings)
    (request : ProtocolRequest) : (s.handleRequest surroundings request).RepliesFit ↔
      s.RequestFits surroundings request := by
  cases request with
  | pollData =>
      simp only [handleRequest, pollData, ResponseBuffer.takeItems, RequestFits]
      by_cases hitems : s.responseBuffer.items = []
      · simp only [hitems, List.isEmpty_nil, if_true]
        exact ⟨fun _ h => absurd rfl h, fun _ => repliesFit_idle (.inr (.inl rfl))⟩
      · simp only [List.isEmpty_iff, hitems, if_false]
        exact (repliesFit_takeItems s .pollData).trans ⟨fun h _ => h, fun h => h hitems⟩
  | startPortForward localPort remoteHost remotePort =>
      simp only [handleRequest, startPortForward, RequestFits]
      cases s.bind localPort surroundings.bind with
      | ok _ => exact ⟨fun _ => trivial, fun _ => repliesFit_success rfl⟩
      | error e =>
          have hsending : (s.respond (.startPortForward localPort remoteHost remotePort)
              (.error s!"Failed to bind to 0.0.0.0:{localPort}: {e}")).mainLoop =
              .sending (.startPortForward localPort remoteHost remotePort)
                (.error s!"Failed to bind to 0.0.0.0:{localPort}: {e}") := rfl
          exact repliesFit_sending hsending
  | stopPortForward localPort => exact ⟨fun _ => trivial, fun _ => repliesFit_closeNext s _ _⟩
  | portForwardData connectionId data =>
      exact ⟨fun _ => trivial, fun _ => repliesFit_forwardData s connectionId data⟩
  | getClipboard =>
      simp only [handleRequest, RequestFits]
      cases surroundings.clipboard with
      | ok content =>
          have hitems := s.responseBuffer.items_add (.clipboardContent content)
          show _ ↔ dataSize (s.responseBuffer.items ++ [ResponseItem.clipboardContent content]) ≤
            maxPayload
          rw [← hitems]
          exact repliesFit_takeItems (s.add .mainLoop _) .getClipboard
      | error e =>
          have hsending : (s.getClipboard (.error e)).mainLoop =
              .sending .getClipboard (.error s!"Failed to get clipboard: {e}") := rfl
          exact repliesFit_sending hsending
  | setClipboard content =>
      exact repliesFit_errorFits (t := s.setClipboard content) (fun _ => rfl) fun _ => rfl
  | openBrowser url =>
      exact repliesFit_errorFits (t := s.openBrowser url) (fun _ => rfl) fun _ => rfl

/-- A response that fits is sent, or the stream fails. -/
theorem RepliesFit.sendResponse (h : s.RepliesFit) (failure : Option String) :
    (s.sendResponse failure).RepliesFit := by
  unfold RemoteServer.sendResponse
  split
  · rename_i request response hsending
    have hfits := (repliesFit_sending hsending).mp h
    rw [sendOutcome_eq, if_neg (Nat.not_lt.mpr hfits)]
    cases failure with
    | none => exact repliesFit_idle (.inl rfl)
    | some message => exact repliesFit_ended rfl fun size h => by cases h
  · exact h

theorem RepliesFit.step_iff (h : s.RepliesFit) (e : RemoteEvent) :
    (s.step e).RepliesFit ↔ s.AnswerFits e := by
  have hsame : ∀ t : RemoteServer, t.mainLoop = s.mainLoop → (t.RepliesFit ↔ True) :=
    fun t ht => iff_of_true (repliesFit_congr ht h) trivial
  cases e with
  | request request surroundings =>
      simp only [step, AnswerFits]
      split
      · rename_i ready
        exact (repliesFit_handleRequest s surroundings request).trans
          ⟨fun hfits _ => hfits, fun hfits => hfits ready⟩
      · rename_i hbusy
        exact iff_of_true h fun ready => absurd ready hbusy
  | receiveFailed error =>
      simp only [step, AnswerFits]
      split
      · refine iff_of_true (repliesFit_ended rfl fun size h => ?_) trivial
        cases error <;> cases h
      · exact hsame s rfl
  | mainTurn =>
      simp only [step, mainTurn, AnswerFits]
      split
      · rename_i waiting
        exact (repliesFit_takeItems s .pollData).trans
          ⟨fun hfits _ => hfits, fun hfits => hfits waiting⟩
      · rename_i localPort connectionId toRemove stopping
        refine iff_of_true (repliesFit_closeNext _ localPort toRemove) fun waiting => ?_
        cases stopping.symm.trans waiting
      · rename_i hwaiting _
        exact iff_of_true h fun waiting => absurd waiting hwaiting
  | send failure => exact iff_of_true (h.sendResponse failure) trivial
  | accept f =>
      apply hsame _
      simp only [step, accept]
      split
      · split <;> rfl
      · rfl
  | acceptFailed f => exact hsame _ rfl
  | task i event =>
      apply hsame _
      simp only [step]
      split
      · exact mainLoop_taskStep s i _ event
      · rfl

/-- In every run, each response fits and the loop survives it exactly if each answer is made
from as little as that. -/
theorem repliesFit_iff_answerFits (es : List RemoteEvent) :
    Always step RepliesFit {} es ↔ Along step (fun _ s e => s.AnswerFits e) {} es := by
  apply always_iff_along (A := fun _ _ _ => True) (I := fun _ s => RepliesFit s)
  · exact fun _ _ _ => trivial
  · exact repliesFit_idle (.inl rfl)
  · exact fun _ _ h => h
  · exact fun _ s e h _ hfits => (h.step_iff e).mpr hfits
  · exact fun _ s e h _ hfits => mt (h.step_iff e).mp hfits

/-- The size of the answer to `GetClipboard` on an empty buffer, for a text of `n` letters. -/
theorem dataSize_letters (n : Nat) :
    dataSize [.clipboardContent (String.ofList (List.replicate n 'a'))] = n + 56 := by
  have hletter : Json.escapeSize 'a' = 1 := by decide
  simp only [dataSize, Json.separatedSize, ResponseItem.encodedSize, Json.stringSize_replicate,
    hletter, List.map_cons, List.map_nil, List.sum_cons, List.sum_nil, List.length_cons,
    List.length_nil]
  omega

/-- The clipboard holds a text of 65536 letters. -/
theorem repliesFit_clipboard_false : ¬ ∀ es, Always step RepliesFit {} es := by
  intro h
  have hfit := (h [.request .getClipboard
    { clipboard := .ok (String.ofList (List.replicate 65536 'a')) }]).last
  have hsize := (repliesFit_takeItems
    (add {} .mainLoop (.clipboardContent (String.ofList (List.replicate 65536 'a'))))
    .getClipboard).mp hfit
  have hitems : (add {} .mainLoop
      (.clipboardContent (String.ofList (List.replicate 65536 'a')))).responseBuffer.items =
      [.clipboardContent (String.ofList (List.replicate 65536 'a'))] :=
    ResponseBuffer.items_add {} _
  rw [hitems, dataSize_letters] at hsize
  exact absurd hsize (by decide)

end RemoteServer

end Yuha
