import Yuha.Remote.Forwarding

/-!
# What is on its way to the client

Items wait in the response buffer until a poll takes them, and then for the answer to be
sent. Only an answered poll, a lost answer and `GetClipboard` end that.
-/

namespace Yuha

open Library Library.Execution

/-- The items that were taken from the buffer for a poll that is not answered yet. -/
def RemoteServer.inTransit (s : RemoteServer) : List ResponseItem :=
  match s.mainLoop with
  | .sending .pollData (.data items) => items
  | _ => []

/-- What a poll is about to bring, and what the buffer holds. -/
def RemoteServer.undelivered (s : RemoteServer) : List ResponseItem :=
  s.inTransit ++ s.responseBuffer.items

/-- The request that the main loop is at. -/
def MainLoop.request : MainLoop → Option ProtocolRequest
  | .waiting => some .pollData
  | .stopping localPort _ _ => some (.stopPortForward localPort)
  | .sending request _ => some request
  | .receiving | .ended _ => none

namespace RemoteServer

variable {s t : RemoteServer}

theorem undelivered_of_mainLoop {items : List ResponseItem} (hmain : t.mainLoop = s.mainLoop)
    (hitems : t.responseBuffer.items = s.responseBuffer.items ++ items) :
    t.undelivered = s.undelivered ++ items := by
  simp only [undelivered, inTransit, hmain, hitems, List.append_assoc]

theorem inTransit_of_request (h : s.mainLoop.request ≠ some .pollData) : s.inTransit = [] := by
  unfold inTransit
  split
  · rename_i hmain
    rw [hmain] at h
    exact absurd rfl h
  · rfl

theorem closeNext_keeps (s : RemoteServer) (localPort : UInt16) (toRemove : List UInt32) :
    (s.closeNext localPort toRemove).added = s.added ∧
      (s.closeNext localPort toRemove).undelivered = s.responseBuffer.items ∧
      (s.closeNext localPort toRemove).mainLoop.request = some (.stopPortForward localPort) := by
  cases toRemove with
  | nil => exact ⟨rfl, rfl, rfl⟩
  | cons connectionId toRemove => exact ⟨added_remove s .mainLoop connectionId, rfl, rfl⟩

/-- Items about connections are added, and nothing else happens to what the client is told. -/
structure Adds (s t : RemoteServer) (items : List ResponseItem) : Prop where
  added : t.added = s.added ++ items
  undelivered : t.undelivered = s.undelivered ++ items
  relevant : ∀ item ∈ items, item.connection.isSome
  exchanges : t.exchanges = s.exchanges
  request : ∀ request, t.mainLoop.request = some request → s.mainLoop.request = some request

theorem Adds.nil (hadded : t.added = s.added) (hundelivered : t.undelivered = s.undelivered)
    (hexchanges : t.exchanges = s.exchanges)
    (hrequest : ∀ request, t.mainLoop.request = some request →
      s.mainLoop.request = some request) : Adds s t [] := by
  refine ⟨?_, ?_, fun item hmem => absurd hmem List.not_mem_nil,
    hexchanges, hrequest⟩
  · rw [hadded, List.append_nil]
  · rw [hundelivered, List.append_nil]

theorem adds_add (s : RemoteServer) (author : Author) {item : ResponseItem}
    (hitem : item.connection.isSome) : Adds s (s.add author item) [item] where
  added := added_add s author item
  undelivered := undelivered_of_mainLoop rfl (s.responseBuffer.items_add item)
  relevant := by simpa using hitem
  exchanges := rfl
  request _ h := h

theorem Adds.setStage {items : List ResponseItem} (h : Adds s t items) (i : Nat)
    (stage : TaskStage) : Adds s (t.setStage i stage) items :=
  ⟨h.added, h.undelivered, h.relevant, h.exchanges, h.request⟩

/-- A step that neither handles a request nor sends a response only adds items, and does
not change the request. -/
theorem adds_of_change {e : RemoteEvent} (ht : Change s e t)
    (hrequest : ∀ request surroundings, e ≠ .request request surroundings)
    (hsend : ∀ failure, e ≠ .send failure) : ∃ items, Adds s t items := by
  have hsame : ∀ u : RemoteServer, u.mainLoop = s.mainLoop → u.added = s.added →
      u.responseBuffer = s.responseBuffer → u.exchanges = s.exchanges →
      ∃ items, Adds s u items := by
    intro u hmain hadded hbuffer hexchanges
    refine ⟨[], .nil hadded ?_ hexchanges fun request h => hmain ▸ h⟩
    simp only [undelivered, inTransit, hmain, hbuffer]
  cases ht with
  | idle | accepted | unlistened | connected | turnedAway | relayed =>
      exact hsame _ rfl rfl rfl rfl
  | handled request surroundings => exact absurd rfl (hrequest request surroundings)
  | sent failure => exact absurd rfl (hsend failure)
  | broken failure => exact absurd rfl (hsend failure)
  | failed error ready =>
      refine ⟨[], .nil rfl ?_ rfl fun request h => by cases h⟩
      simp [undelivered, inTransit, ready]
  | polled waiting =>
      refine ⟨[], .nil rfl ?_ rfl fun request h => ?_⟩
      · simp [undelivered, inTransit, waiting, takeItems, ResponseBuffer.takeItems, respond]
      · rw [waiting]
        exact h
  | reported localPort connectionId toRemove stopping =>
      obtain ⟨hadded, hundelivered, hmain⟩ := closeNext_keeps
        (s.add .mainLoop (.closeConnection connectionId)) localPort toRemove
      refine ⟨[.closeConnection connectionId], ?_, ?_, by simp [ResponseItem.connection], ?_, ?_⟩
      · rw [hadded, added_add]
      · rw [hundelivered, undelivered, inTransit_of_request (by simp [stopping, MainLoop.request])]
        exact s.responseBuffer.items_add _
      · cases toRemove <;> rfl
      · intro request h
        rw [stopping]
        exact hmain.symm.trans h
  | announced i | gaveUp i | buffered i | closed i =>
      exact ⟨_, (s.adds_add (.task i) rfl).setStage i _⟩
  | entered i task => exact hsame _ rfl (added_insert s _ _ i) rfl rfl
  | left i task => exact hsame _ rfl (added_remove s _ _) rfl rfl

/-- A request that is handled only takes items from the buffer for its own response, and
adds none, save a `GetClipboard`. -/
theorem handleRequest_keeps (ready : s.mainLoop = .receiving) (surroundings : Surroundings)
    (request : ProtocolRequest) :
    (s.handleRequest surroundings request).mainLoop.request = some request ∧
      (request ≠ .getClipboard →
        (s.handleRequest surroundings request).added = s.added ∧
        (s.handleRequest surroundings request).undelivered = s.undelivered) := by
  have hbefore : s.undelivered = s.responseBuffer.items := by
    simp [undelivered, inTransit, ready]
  rw [hbefore]
  cases request with
  | pollData =>
      simp only [handleRequest, pollData, ResponseBuffer.takeItems]
      by_cases hempty : s.responseBuffer.items = []
      · simp only [hempty, List.isEmpty_nil, if_true]
        exact ⟨rfl, fun _ => ⟨rfl, rfl⟩⟩
      · simp only [List.isEmpty_iff, hempty, if_false]
        exact ⟨rfl, fun _ => ⟨rfl, List.append_nil _⟩⟩
  | startPortForward localPort remoteHost remotePort =>
      simp only [handleRequest, startPortForward]
      split <;> exact ⟨rfl, fun _ => ⟨rfl, rfl⟩⟩
  | stopPortForward localPort =>
      obtain ⟨hadded, hundelivered, hmain⟩ := s.closeNext_keeps localPort
        ((s.activeConnections.listing surroundings.order).map Sigma.fst)
      exact ⟨hmain, fun _ => ⟨hadded, hundelivered⟩⟩
  | portForwardData connectionId data =>
      rcases s.forwardData_cases connectionId data with
        ⟨_, hanswer⟩ | ⟨e, hanswer, _⟩ | ⟨i, relay, _, _, hanswer⟩
      · simp only [handleRequest, hanswer]
        exact ⟨rfl, fun _ => ⟨rfl, rfl⟩⟩
      · simp only [handleRequest, hanswer]
        exact ⟨rfl, fun _ => ⟨rfl, rfl⟩⟩
      · simp only [handleRequest, hanswer]
        exact ⟨rfl, fun _ => ⟨rfl, rfl⟩⟩
  | getClipboard =>
      refine ⟨?_, fun h => absurd rfl h⟩
      simp only [handleRequest]
      cases surroundings.clipboard <;> rfl
  | setClipboard content =>
      simp only [handleRequest]
      cases surroundings.setClipboard <;> exact ⟨rfl, fun _ => ⟨rfl, rfl⟩⟩
  | openBrowser url =>
      simp only [handleRequest]
      cases surroundings.openUrl <;> exact ⟨rfl, fun _ => ⟨rfl, rfl⟩⟩

theorem exchanges_handleRequest (s : RemoteServer) (surroundings : Surroundings)
    (request : ProtocolRequest) :
    (s.handleRequest surroundings request).exchanges = s.exchanges := by
  have hhandling := s.handling_handleRequest surroundings request
  generalize s.handleRequest surroundings request = t at hhandling ⊢
  cases hhandling with
  | answered | listening | queued | copied => rfl
  | closing localPort =>
      unfold stopPortForward
      cases (s.activeConnections.listing surroundings.order).map Sigma.fst <;> rfl

/-- A response that fits is sent, unless the stream fails, and else the main loop ends. -/
theorem sendResponse_cases {request : ProtocolRequest} {response : ProtocolResponse}
    (sending : s.mainLoop = .sending request response) (failure : Option String) :
    (response.encodedSize ≤ maxPayload ∧ failure = none) ∧
      s.sendResponse failure = { s with
        mainLoop := .receiving
        exchanges := s.exchanges ++ [(request, response)] } ∨
    ¬ (response.encodedSize ≤ maxPayload ∧ failure = none) ∧
      ∃ error, s.sendResponse failure = { s with mainLoop := .ended error } := by
  have hsends := sendOutcome_eq response failure
  by_cases hlong : maxPayload < response.encodedSize
  · rw [if_pos hlong] at hsends
    refine .inr ⟨fun hfits => absurd hfits.1 (Nat.not_le.mpr hlong),
      .protocol (.bufferOverflow response.encodedSize), ?_⟩
    simp only [sendResponse, sending, hsends]
  · rw [if_neg hlong] at hsends
    cases failure with
    | none =>
        refine .inl ⟨⟨Nat.not_lt.mp hlong, rfl⟩, ?_⟩
        simp only [sendResponse, sending, hsends, Option.elim]
    | some message =>
        refine .inr ⟨fun hfits => Option.some_ne_none message hfits.2, .io message, ?_⟩
        simp only [sendResponse, sending, hsends, Option.elim]

theorem sendResponse_of_ne (failure : Option String)
    (hquiet : ¬ ∃ request response, s.mainLoop = .sending request response) :
    s.sendResponse failure = s := by
  unfold sendResponse
  split
  · exact absurd ⟨_, _, ‹_›⟩ hquiet
  · rfl

/-! ## What reaches the client -/

/-- What the client was told by its polls, or a poll may still tell it. -/
def reached (s : RemoteServer) : List ResponseItem := s.polled ++ s.undelivered

/-- Sending a response tells what was on its way, or loses it. -/
theorem reached_sendResponse (s : RemoteServer) (failure : Option String) {item : ResponseItem}
    (hmem : item ∈ (s.sendResponse failure).reached) : item ∈ s.reached := by
  by_cases hsending : ∃ request response, s.mainLoop = .sending request response
  · obtain ⟨request, response, sending⟩ := hsending
    rcases sendResponse_cases sending failure with ⟨_, hsent⟩ | ⟨_, error, hsent⟩
    · rw [hsent] at hmem
      have hpolled : polled { s with
          mainLoop := .receiving
          exchanges := s.exchanges ++ [(request, response)] } = s.polled ++ s.inTransit := by
        simp only [polled, inTransit, sending, List.flatMap_append, List.flatMap_singleton]
        cases request <;> cases response <;> rfl
      rcases List.mem_append.mp hmem with htold | hbuffered
      · rw [hpolled] at htold
        rw [reached, undelivered, ← List.append_assoc]
        exact List.mem_append_left _ htold
      · exact List.mem_append_right _ (List.mem_append_right _ hbuffered)
    · rw [hsent] at hmem
      rcases List.mem_append.mp hmem with htold | hbuffered
      · exact List.mem_append_left _ htold
      · exact List.mem_append_right _ (List.mem_append_right _ hbuffered)
  · rwa [sendResponse_of_ne failure hsending] at hmem

/-- Handling a request tells nothing that was not there. -/
theorem reached_handleRequest (ready : s.mainLoop = .receiving) (surroundings : Surroundings)
    (request : ProtocolRequest) {item : ResponseItem}
    (hmem : item ∈ (s.handleRequest surroundings request).reached) : item ∈ s.reached := by
  have hpolled : (s.handleRequest surroundings request).polled = s.polled := by
    rw [polled, exchanges_handleRequest, polled]
  rw [reached, hpolled] at hmem
  rcases List.mem_append.mp hmem with htold | hwaits
  · exact List.mem_append_left _ htold
  apply List.mem_append_right _
  by_cases hclipboard : request = .getClipboard
  · subst hclipboard
    simp only [handleRequest] at hwaits
    cases hos : surroundings.clipboard with
    | ok content =>
        rw [hos] at hwaits
        cases hwaits
    | error e =>
        rw [hos] at hwaits
        exact List.mem_append_right _ hwaits
  · have hkeeps := (handleRequest_keeps ready surroundings request).2 hclipboard
    rwa [hkeeps.2] at hwaits

/-- No step of the server tells the client anything new but items about connections. -/
theorem reached_step (s : RemoteServer) (e : RemoteEvent) {item : ResponseItem}
    (hmem : item ∈ (s.step e).reached) : item ∈ s.reached ∨ item.connection.isSome := by
  have hchange := change_step s e
  cases e with
  | request request surroundings =>
      simp only [step] at hmem
      split at hmem
      · exact .inl (reached_handleRequest ‹_› surroundings request hmem)
      · exact .inl hmem
  | send failure => exact .inl (reached_sendResponse s failure hmem)
  | receiveFailed | mainTurn | accept | acceptFailed | task =>
      obtain ⟨items, hadds⟩ := adds_of_change hchange (fun _ _ heq => by cases heq)
        fun _ heq => by cases heq
      rw [reached, polled, hadds.exchanges, hadds.undelivered, ← List.append_assoc] at hmem
      rcases List.mem_append.mp hmem with hold | hnew
      · exact .inl hold
      · exact .inr (hadds.relevant item hnew)

end RemoteServer

end Yuha
