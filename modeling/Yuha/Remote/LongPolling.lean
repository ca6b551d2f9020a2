import Yuha.Core.Session.Metadata
import Yuha.Remote.Pending

/-!
# Long polling

`handle_request` takes the response buffer when a poll arrives and, when it finds nothing,
lets go of the lock, looks again from time to time and takes a second time. Here each lock
is a step of its own, and tasks may add items between any two of them.

## Implementation notes

The machine of `RemoteServer` handles a request up to the next await in one step and may end
a wait at any time. `exists_serves` shows that each of its runs is one of this finer machine.
-/

namespace Yuha

open Library Library.Execution

/-- The requests that are answered from the response buffer, with what the operating system
answers to the second. -/
inductive BufferRequest
  | pollData
  | getClipboard (clipboard : Except String String)

inductive PollStage
  | idle
  /-- `PollData`, about to take for the first time. -/
  | taking
  /-- In `wait_for_data`, about to compare the clock with the deadline. -/
  | waiting (deadline : Nat)
  /-- In `wait_for_data`, about to obtain the read lock. -/
  | looking (deadline : Nat)
  /-- The wait is over, about to take for the second time. -/
  | takingAgain
  /-- `GetClipboard`, about to add and take under one lock. -/
  | copying (content : String)

inductive PollEvent
  /-- A task adds an item. -/
  | add (item : ResponseItem)
  | request (request : BufferRequest)
  /-- The handler goes on and reads this from the clock. -/
  | turn (now : Nat)

/-- `added` is not in the code. `responses` are the results of `handle_request`. -/
structure LongPolling where
  responseBuffer : ResponseBuffer := {}
  stage : PollStage := .idle
  responses : List ProtocolResponse := []
  added : List ResponseItem := []

def ProtocolResponse.items : ProtocolResponse → List ResponseItem
  | .data items => items
  | _ => []

def longPollTimeout : Duration := Duration.fromSecs 5

namespace LongPolling

def add (s : LongPolling) (item : ResponseItem) : LongPolling :=
  { s with responseBuffer := s.responseBuffer.add item, added := s.added ++ [item] }

def respond (s : LongPolling) (response : ProtocolResponse) : LongPolling :=
  { s with stage := .idle, responses := s.responses ++ [response] }

def takeItems (s : LongPolling) : LongPolling :=
  let (items, responseBuffer) := s.responseBuffer.takeItems
  { s with responseBuffer := responseBuffer }.respond (.data items)

/-- The first take keeps what it finds only if that is something. -/
def takeFirst (s : LongPolling) (now : Nat) : LongPolling :=
  let (items, responseBuffer) := s.responseBuffer.takeItems
  if items.isEmpty then
    { s with responseBuffer := responseBuffer, stage := .waiting (now + longPollTimeout) }
  else s.takeItems

def turn (s : LongPolling) (now : Nat) : LongPolling :=
  match s.stage with
  | .idle => s
  | .taking => s.takeFirst now
  | .waiting deadline =>
      if now < deadline then { s with stage := .looking deadline }
      else { s with stage := .takingAgain }
  | .looking deadline =>
      if s.responseBuffer.hasData then { s with stage := .takingAgain }
      else { s with stage := .waiting deadline }
  | .takingAgain => s.takeItems
  | .copying content => (s.add (.clipboardContent content)).takeItems

def receive (s : LongPolling) : BufferRequest → LongPolling
  | .pollData => { s with stage := .taking }
  | .getClipboard (.ok content) => { s with stage := .copying content }
  | .getClipboard (.error e) => s.respond (.error s!"Failed to get clipboard: {e}")

/-- A request waits until the one before it is answered. -/
def step (s : LongPolling) : PollEvent → LongPolling
  | .add item => s.add item
  | .request request =>
      match s.stage with
      | .idle => s.receive request
      | _ => s
  | .turn now => s.turn now

/-- The items of the responses in order. -/
def answered (s : LongPolling) : List ResponseItem := s.responses.flatMap ProtocolResponse.items

/-- What was answered and what waits is what was added. -/
def Conserves (s : LongPolling) : Prop := s.answered ++ s.responseBuffer.items = s.added

variable {s : LongPolling}

theorem answered_respond (s : LongPolling) (response : ProtocolResponse) :
    (s.respond response).answered = s.answered ++ response.items := by
  simp [answered, respond]

theorem Conserves.add (h : s.Conserves) (item : ResponseItem) : (s.add item).Conserves := by
  calc (s.add item).answered ++ (s.add item).responseBuffer.items
    _ = s.answered ++ (s.responseBuffer.items ++ [item]) :=
      congrArg (s.answered ++ ·) (s.responseBuffer.items_add item)
    _ = (s.answered ++ s.responseBuffer.items) ++ [item] := (List.append_assoc ..).symm
    _ = s.added ++ [item] := congrArg (· ++ [item]) h

/-- A take moves all items from the buffer into the response. -/
theorem Conserves.takeItems (h : s.Conserves) : s.takeItems.Conserves := by
  have hanswered : s.takeItems.answered = s.answered ++ s.responseBuffer.items :=
    answered_respond { s with responseBuffer := s.responseBuffer.takeItems.2 } _
  calc s.takeItems.answered ++ s.takeItems.responseBuffer.items
    _ = (s.answered ++ s.responseBuffer.items) ++ [] := congrArg (· ++ []) hanswered
    _ = s.answered ++ s.responseBuffer.items := List.append_nil _
    _ = s.added := h

/-- A first take that finds nothing leaves the buffer as it was. -/
theorem Conserves.takeFirst (h : s.Conserves) (now : Nat) : (s.takeFirst now).Conserves := by
  simp only [LongPolling.takeFirst]
  split
  · rename_i hempty
    have hitems : s.responseBuffer.items = [] := List.isEmpty_iff.mp hempty
    simpa [Conserves, answered, ResponseBuffer.takeItems, hitems] using h
  · exact h.takeItems

theorem Conserves.turn (h : s.Conserves) (now : Nat) : (s.turn now).Conserves := by
  unfold LongPolling.turn
  split
  · exact h
  · exact h.takeFirst now
  · split <;> exact h
  · split <;> exact h
  · exact h.takeItems
  · exact (h.add _).takeItems

theorem Conserves.receive (h : s.Conserves) (request : BufferRequest) :
    (s.receive request).Conserves := by
  match request with
  | .pollData => exact h
  | .getClipboard (.ok content) => exact h
  | .getClipboard (.error e) =>
      have hanswered : (s.receive (.getClipboard (.error e))).answered = s.answered ++ [] :=
        answered_respond s _
      rw [List.append_nil] at hanswered
      exact (congrArg (· ++ s.responseBuffer.items) hanswered).trans h

theorem Conserves.step (h : s.Conserves) (e : PollEvent) : (s.step e).Conserves := by
  cases e with
  | add item => exact h.add item
  | request request =>
      simp only [LongPolling.step]
      split
      · exact h.receive request
      · exact h
  | turn now => exact h.turn now

theorem conserves_run (es : List PollEvent) : (run step {} es).Conserves := by
  induction es using List.reverseRecOn with
  | nil => rfl
  | append_singleton es e ih =>
      rw [run_append]
      exact ih.step e

/-- Wherever the additions fall between the locks, the items of the responses and then those
in the buffer are all items that were added. -/
theorem responses_append_items (es : List PollEvent) :
    (run step {} es).responses.flatMap ProtocolResponse.items ++
      (run step {} es).responseBuffer.items = (run step {} es).added :=
  conserves_run es

/-- A wait whose deadline has come ends with the second take. -/
theorem run_deadline {deadline : Nat} (waiting : s.stage = .waiting deadline) :
    run step s [.turn deadline, .turn deadline] = s.takeItems := by
  simp [step, turn, waiting, takeItems, respond]

end LongPolling

namespace RemoteServer

variable {s t : RemoteServer} {p : LongPolling}

/-- The items of the responses that were sent, and of the one that is about to be. -/
def handedOver (s : RemoteServer) : List ResponseItem :=
  s.exchanges.flatMap (fun exchange => exchange.2.items) ++
    match s.mainLoop with
    | .sending _ response => response.items
    | _ => []

/-- The finer machine is where the server is. It knows the items of a response that could
not be sent, after which the server has ended. -/
structure Serves (s : RemoteServer) (p : LongPolling) : Prop where
  buffer : p.responseBuffer = s.responseBuffer
  added : p.added = s.added
  waiting : s.mainLoop = .waiting → ∃ deadline, p.stage = .waiting deadline
  idle : s.mainLoop ≠ .waiting → p.stage = .idle
  answered : (∀ error, s.mainLoop ≠ .ended error) → p.answered = s.handedOver
  known : s.handedOver <+: p.answered

theorem Serves.congr (h : Serves s p) (hbuffer : t.responseBuffer = s.responseBuffer)
    (hadded : t.added = s.added) (hmain : t.mainLoop = s.mainLoop)
    (hexchanges : t.exchanges = s.exchanges) : Serves t p := by
  have hover : t.handedOver = s.handedOver := by simp only [handedOver, hmain, hexchanges]
  exact ⟨h.buffer.trans hbuffer.symm, h.added.trans hadded.symm, hmain ▸ h.waiting,
    hmain ▸ h.idle, by rw [hmain, hover]; exact h.answered, hover ▸ h.known⟩

theorem Serves.add (h : Serves s p) (author : Author) (item : ResponseItem) :
    Serves (s.add author item) (p.add item) where
  buffer := congrArg (·.add item) h.buffer
  added := by rw [added_add, ← h.added]; rfl
  waiting := h.waiting
  idle := h.idle
  answered := h.answered
  known := h.known

/-- The main loop moves on between two requests or to the response of one. -/
theorem Serves.moveOn {q : LongPolling} (hbuffer : q.responseBuffer = t.responseBuffer)
    (hadded : q.added = t.added) (hmain : t.mainLoop ≠ .waiting) (hidle : q.stage = .idle)
    (hanswered : q.answered = t.handedOver) : Serves t q where
  buffer := hbuffer
  added := hadded
  waiting h := absurd h hmain
  idle _ := hidle
  answered _ := hanswered
  known := hanswered ▸ List.prefix_refl _

theorem handedOver_receiving (ready : s.mainLoop = .receiving) :
    s.handedOver = s.exchanges.flatMap fun exchange => exchange.2.items := by
  simp [handedOver, ready]

/-- The take that answers a poll or `GetClipboard` is the take of the finer machine. -/
theorem serves_takeItems (request : ProtocolRequest) (hbuffer : p.responseBuffer = s.responseBuffer)
    (hadded : p.added = s.added)
    (hover : p.answered = s.exchanges.flatMap fun exchange => exchange.2.items) :
    Serves (s.takeItems request) p.takeItems := by
  refine .moveOn ?_ hadded (by simp [takeItems, respond]) rfl ?_
  · simp [LongPolling.takeItems, LongPolling.respond, takeItems, respond, hbuffer]
  · calc p.takeItems.answered
      _ = p.answered ++ p.responseBuffer.items :=
        LongPolling.answered_respond { p with responseBuffer := p.responseBuffer.takeItems.2 } _
      _ = (s.takeItems request).handedOver := by
        rw [hover, hbuffer]
        rfl

/-- The first take finds nothing, or answers the poll. -/
theorem Serves.pollData (h : Serves s p) (hover : p.answered =
    s.exchanges.flatMap fun exchange => exchange.2.items) (now : Nat) :
    Serves s.pollData (p.takeFirst now) := by
  simp only [RemoteServer.pollData, LongPolling.takeFirst, h.buffer]
  split
  · have hanswered : p.answered = handedOver { s with
        responseBuffer := s.responseBuffer.takeItems.2, mainLoop := .waiting } := by
      simpa [handedOver] using hover
    exact ⟨rfl, h.added, fun _ => ⟨_, rfl⟩, fun hmain => absurd rfl hmain, fun _ => hanswered,
      hanswered ▸ List.prefix_refl _⟩
  · exact serves_takeItems .pollData h.buffer h.added hover

/-- A request that is answered with no items. -/
theorem Serves.respond (h : Serves s p) (ready : s.mainLoop = .receiving)
    (request : ProtocolRequest) {response : ProtocolResponse} (hitems : response.items = []) :
    Serves (s.respond request response) p := by
  refine .moveOn h.buffer h.added (by simp [RemoteServer.respond]) (h.idle (by simp [ready])) ?_
  rw [h.answered (by simp [ready]), handedOver_receiving ready]
  simp [handedOver, RemoteServer.respond, hitems]

theorem Serves.closeNext (h : Serves s p) (hidle : p.stage = .idle)
    (hover : p.answered = s.exchanges.flatMap fun exchange => exchange.2.items)
    (localPort : UInt16) (toRemove : List UInt32) :
    Serves (s.closeNext localPort toRemove) p := by
  cases toRemove with
  | nil =>
      refine .moveOn h.buffer h.added (by simp [RemoteServer.closeNext, RemoteServer.respond])
        hidle ?_
      simp [hover, handedOver, RemoteServer.closeNext, RemoteServer.respond,
        ProtocolResponse.items]
  | cons connectionId toRemove =>
      refine .moveOn h.buffer ?_ (by simp [RemoteServer.closeNext]) hidle ?_
      · exact h.added.trans (added_remove s .mainLoop connectionId).symm
      · simp [hover, handedOver, RemoteServer.closeNext, RemoteServer.remove]

theorem Serves.handleRequest (h : Serves s p) (ready : s.mainLoop = .receiving)
    (surroundings : Surroundings) (request : ProtocolRequest) :
    ∃ turns, Serves (s.handleRequest surroundings request) (run LongPolling.step p turns) := by
  have hidle : p.stage = .idle := h.idle (by simp [ready])
  have hover : p.answered = s.exchanges.flatMap fun exchange => exchange.2.items :=
    (h.answered (by simp [ready])).trans (handedOver_receiving ready)
  cases request with
  | pollData =>
      have hrun : run LongPolling.step p [.request .pollData, .turn 0] = p.takeFirst 0 := by
        simp [LongPolling.step, LongPolling.receive, LongPolling.turn, hidle,
          LongPolling.takeFirst, LongPolling.takeItems, LongPolling.respond]
      exact ⟨_, hrun ▸ h.pollData hover 0⟩
  | startPortForward localPort remoteHost remotePort =>
      refine ⟨[], ?_⟩
      simp only [RemoteServer.handleRequest, startPortForward]
      split
      · have hsame : Serves { s with forwards := s.forwards ++
            [⟨localPort, remoteHost, remotePort, true⟩] } p := h.congr rfl rfl rfl rfl
        exact hsame.respond ready _ rfl
      · exact h.respond ready _ rfl
  | stopPortForward localPort => exact ⟨[], h.closeNext hidle hover localPort _⟩
  | portForwardData connectionId data =>
      refine ⟨[], ?_⟩
      rcases s.forwardData_cases connectionId data with
        ⟨_, hanswer⟩ | ⟨e, hanswer, _⟩ | ⟨i, relay, _, _, hanswer⟩
      all_goals simp only [RemoteServer.handleRequest, hanswer]
      · exact h.respond ready _ rfl
      · exact h.respond ready _ rfl
      · have hsame : ∀ stage, Serves (s.setStage i stage) p :=
          fun stage => h.congr rfl rfl rfl rfl
        exact (hsame _).respond ready _ rfl
  | getClipboard =>
      cases hclipboard : surroundings.clipboard with
      | ok content =>
          refine ⟨[.request (.getClipboard (.ok content)), .turn 0], ?_⟩
          have hrun : run LongPolling.step p [.request (.getClipboard (.ok content)), .turn 0] =
              (p.add (.clipboardContent content)).takeItems := by
            simp [LongPolling.step, LongPolling.receive, LongPolling.turn, hidle,
              LongPolling.add, LongPolling.takeItems, LongPolling.respond]
          have hadd := h.add .mainLoop (.clipboardContent content)
          simp only [RemoteServer.handleRequest, getClipboard, hclipboard, hrun]
          exact serves_takeItems .getClipboard hadd.buffer hadd.added hover
      | error e =>
          refine ⟨[.request (.getClipboard (.error e))], ?_⟩
          have hrun : run LongPolling.step p [.request (.getClipboard (.error e))] =
              p.respond (.error s!"Failed to get clipboard: {e}") := by
            simp [LongPolling.step, LongPolling.receive, hidle]
          have hnone : (p.respond (.error s!"Failed to get clipboard: {e}")).answered =
              p.answered ++ [] := LongPolling.answered_respond p _
          simp only [RemoteServer.handleRequest, getClipboard, hclipboard, hrun]
          refine .moveOn h.buffer h.added (by simp [RemoteServer.respond]) rfl ?_
          rw [hnone, hover]
          rfl
  | setClipboard content =>
      refine ⟨[], ?_⟩
      simp only [RemoteServer.handleRequest]
      cases surroundings.setClipboard <;> exact h.respond ready _ rfl
  | openBrowser url =>
      refine ⟨[], ?_⟩
      simp only [RemoteServer.handleRequest]
      cases surroundings.openUrl <;> exact h.respond ready _ rfl

theorem Serves.change (h : Serves s p) {e : RemoteEvent} (ht : Change s e t) :
    ∃ turns, Serves t (run LongPolling.step p turns) := by
  have hsame : ∀ u : RemoteServer, u.responseBuffer = s.responseBuffer → u.added = s.added →
      u.mainLoop = s.mainLoop → u.exchanges = s.exchanges →
      ∃ turns, Serves u (run LongPolling.step p turns) :=
    fun u hbuffer hadded hmain hexchanges => ⟨[], h.congr hbuffer hadded hmain hexchanges⟩
  cases ht with
  | idle | accepted | unlistened | connected | turnedAway | relayed =>
      exact hsame _ rfl rfl rfl rfl
  | handled request surroundings ready => exact h.handleRequest ready surroundings request
  | polled waiting =>
      obtain ⟨deadline, hstage⟩ := h.waiting waiting
      refine ⟨[.turn deadline, .turn deadline], ?_⟩
      rw [LongPolling.run_deadline hstage]
      refine serves_takeItems .pollData h.buffer h.added ?_
      simpa [handedOver, waiting] using h.answered (by simp [waiting])
  | reported localPort connectionId toRemove stopping =>
      refine ⟨[.add (.closeConnection connectionId)], ?_⟩
      have hadd := h.add .mainLoop (.closeConnection connectionId)
      have hover : p.answered = s.exchanges.flatMap fun exchange => exchange.2.items := by
        simpa [handedOver, stopping] using h.answered (by simp [stopping])
      exact hadd.closeNext (h.idle (by simp [stopping])) hover localPort toRemove
  | sent failure request response sending =>
      refine ⟨[], .moveOn h.buffer h.added (by simp) (h.idle (by simp [sending])) ?_⟩
      rw [run_nil, h.answered (by simp [sending])]
      simp [handedOver, sending]
  | failed error ready =>
      refine ⟨[], .moveOn h.buffer h.added (by simp) (h.idle (by simp [ready])) ?_⟩
      rw [run_nil, h.answered (by simp [ready])]
      simp [handedOver, ready]
  | broken failure request response error sending =>
      have hknown : s.exchanges.flatMap (fun exchange => exchange.2.items) <+: s.handedOver :=
        List.prefix_append _ _
      refine ⟨[], h.buffer, h.added, by simp, fun _ => h.idle (by simp [sending]), ?_, ?_⟩
      · exact fun herror => absurd rfl (herror error)
      · simpa [handedOver] using hknown.trans h.known
  | announced i task | gaveUp i task | closed i task =>
      exact ⟨[.add _], (h.add (.task i) _).congr rfl rfl rfl rfl⟩
  | buffered i task relay n =>
      exact ⟨[.add _], (h.add (.task i) _).congr rfl rfl rfl rfl⟩
  | entered i task => exact hsame _ rfl (added_insert s _ _ i) rfl rfl
  | left i task => exact hsame _ rfl (added_remove s _ _) rfl rfl

/-- Every run of the server is a run of the finer machine. -/
theorem exists_serves (es : List RemoteEvent) :
    ∃ turns, Serves (run step {} es) (run LongPolling.step {} turns) := by
  induction es using List.reverseRecOn with
  | nil => exact ⟨[], rfl, rfl, by simp, fun _ => rfl, fun _ => rfl, List.prefix_refl _⟩
  | append_singleton es e ih =>
      obtain ⟨turns, h⟩ := ih
      obtain ⟨more, hmore⟩ := h.change (change_step (run step {} es) e)
      exact ⟨turns ++ more, by simpa using hmore⟩

/-- As long as the server has not ended, what it answered and what waits is what was added. -/
theorem handedOver_append_items (es : List RemoteEvent)
    (running : ∀ error, (run step {} es).mainLoop ≠ .ended error) :
    (run step {} es).handedOver ++ (run step {} es).responseBuffer.items =
      (run step {} es).added := by
  obtain ⟨turns, h⟩ := exists_serves es
  calc (run step {} es).handedOver ++ (run step {} es).responseBuffer.items
    _ = (run LongPolling.step {} turns).answered ++
        (run LongPolling.step {} turns).responseBuffer.items := by
      rw [h.answered running, h.buffer]
    _ = (run LongPolling.step {} turns).added := LongPolling.conserves_run turns
    _ = (run step {} es).added := h.added

end RemoteServer

end Yuha
