import Yuha.Library.Execution
import Yuha.Remote.Server

/-!
# What one step of the remote server can do

`Change` lists the effects a step can have, each with the state in which it happens. What
the tasks and the map of active connections keep follows from it by cases.
-/

namespace Yuha

open Library Library.Execution

namespace RemoteServer

variable {s : RemoteServer}

theorem mem_listing_keys (s : RemoteServer) (order : UInt32 → Nat) (connectionId : UInt32) :
    connectionId ∈ (s.activeConnections.listing order).map Sigma.fst ↔
      ∃ i, s.activeConnections.lookup connectionId = some i := by
  constructor
  · intro hmem
    obtain ⟨⟨id, i⟩, hentry, rfl⟩ := List.mem_map.mp hmem
    exact ⟨i, (HashMap.mem_listing order _ id i).mp hentry⟩
  · rintro ⟨i, hlookup⟩
    exact List.mem_map.mpr ⟨⟨connectionId, i⟩, (HashMap.mem_listing order _ _ _).mpr hlookup, rfl⟩

theorem nodup_listing_keys (s : RemoteServer) (order : UInt32 → Nat) :
    ((s.activeConnections.listing order).map Sigma.fst).Nodup :=
  ((HashMap.listing_perm order s.activeConnections).map Sigma.fst).nodup_iff.mpr
    s.activeConnections.keys_nodup

/-- A task of the longer list was there before, or is the new one. -/
theorem getElem?_concat_task {tasks : List ConnectionTask} {task task' : ConnectionTask} {i : Nat}
    (h : (tasks ++ [task])[i]? = some task') :
    tasks[i]? = some task' ∨ tasks[i]? = none ∧ task' = task := by
  rw [List.getElem?_append] at h
  split at h
  · exact .inl h
  · rename_i hlength
    rw [List.getElem?_singleton] at h
    split at h
    · exact .inr ⟨List.getElem?_eq_none (Nat.not_lt.mp hlength), (Option.some.inj h).symm⟩
    · cases h

theorem mainLoop_taskStep (s : RemoteServer) (i : Nat) (task : ConnectionTask)
    (event : TaskEvent) : (s.taskStep i task event).mainLoop = s.mainLoop := by
  unfold taskStep
  split <;> try rfl
  · split <;> rfl
  · unfold relayLock
    split <;> try rfl
    split <;> rfl

theorem sendOutcome_eq (response : ProtocolResponse) (failure : Option String) :
    sendOutcome response failure =
      if maxPayload < response.encodedSize then
        .err (.protocol (.bufferOverflow response.encodedSize))
      else failure.elim (.ok ()) fun message => .err (.io message) := by
  rw [sendOutcome, send_outcome, ProtocolResponse.length_toVec]
  cases failure <;> rfl

/-- What the handling of a request changes. -/
inductive Handling (s : RemoteServer) (surroundings : Surroundings) :
    ProtocolRequest → RemoteServer → Prop
  /-- At most the response buffer is emptied. -/
  | answered (request : ProtocolRequest) (responseBuffer : ResponseBuffer) (mainLoop : MainLoop)
      (idle : ∀ localPort connectionId toRemove,
        mainLoop ≠ .stopping localPort connectionId toRemove) :
      Handling s surroundings request
        { s with responseBuffer := responseBuffer, mainLoop := mainLoop }
  | listening (localPort : UInt16) (remoteHost : String) (remotePort : UInt16)
      (bound : s.bind localPort surroundings.bind = .ok ()) :
      Handling s surroundings (.startPortForward localPort remoteHost remotePort)
        (respond { s with
          forwards := s.forwards ++ [⟨localPort, remoteHost, remotePort, true⟩] }
          (.startPortForward localPort remoteHost remotePort) .success)
  | queued (connectionId : UInt32) (data : Bytes) (i : Nat) (relay : Relay)
      (sender : s.activeConnections.lookup connectionId = some i)
      (receiver : s.receiver i = some relay) :
      Handling s surroundings (.portForwardData connectionId data)
        (respond (s.setStage i (.relaying { relay with dataRx := relay.dataRx ++ [data] }))
          (.portForwardData connectionId data) .success)
  | copied (content : String) (responseBuffer : ResponseBuffer) (response : ProtocolResponse) :
      Handling s surroundings .getClipboard
        (respond { s.add .mainLoop (.clipboardContent content) with
          responseBuffer := responseBuffer } .getClipboard response)
  | closing (localPort : UInt16) :
      Handling s surroundings (.stopPortForward localPort)
        (s.stopPortForward localPort surroundings.order)

theorem handling_handleRequest (s : RemoteServer) (surroundings : Surroundings)
    (request : ProtocolRequest) :
    Handling s surroundings request (s.handleRequest surroundings request) := by
  have hanswer : ∀ request response,
      Handling s surroundings request (s.respond request response) := by
    intro request response
    exact .answered request s.responseBuffer _ fun _ _ _ heq => by cases heq
  cases request with
  | pollData =>
      simp only [handleRequest, pollData]
      split
      · exact .answered _ _ _ fun _ _ _ heq => by cases heq
      · exact .answered _ _ _ fun _ _ _ heq => by cases heq
  | startPortForward localPort remoteHost remotePort =>
      simp only [handleRequest, startPortForward]
      split
      · exact .listening localPort remoteHost remotePort ‹_›
      · exact hanswer _ _
  | stopPortForward localPort => exact .closing localPort
  | portForwardData connectionId data =>
      simp only [handleRequest, forwardData]
      split
      · rename_i i hsender
        cases hreceiver : s.receiver i with
        | none =>
            simp only [send, hreceiver]
            exact hanswer _ _
        | some relay =>
            simp only [send, hreceiver]
            exact .queued connectionId data i relay hsender hreceiver
      · exact hanswer _ _
  | getClipboard =>
      simp only [handleRequest]
      cases surroundings.clipboard with
      | ok content => exact .copied content _ _
      | error e => exact hanswer _ _
  | setClipboard content =>
      simp only [handleRequest]
      cases surroundings.setClipboard with
      | ok _ => exact hanswer _ _
      | error e => exact hanswer _ _
  | openBrowser url =>
      simp only [handleRequest]
      cases surroundings.openUrl with
      | ok _ => exact hanswer _ _
      | error e => exact hanswer _ _

/-- What a step changes. -/
inductive Change (s : RemoteServer) : RemoteEvent → RemoteServer → Prop
  | idle (e : RemoteEvent) : Change s e s
  | handled (request : ProtocolRequest) (surroundings : Surroundings)
      (ready : s.mainLoop = .receiving) :
      Change s (.request request surroundings) (s.handleRequest surroundings request)
  | polled (waiting : s.mainLoop = .waiting) : Change s .mainTurn (s.takeItems .pollData)
  | reported (localPort : UInt16) (connectionId : UInt32) (toRemove : List UInt32)
      (stopping : s.mainLoop = .stopping localPort connectionId toRemove) :
      Change s .mainTurn
        ((s.add .mainLoop (.closeConnection connectionId)).closeNext localPort toRemove)
  | sent (failure : Option String) (request : ProtocolRequest)
      (response : ProtocolResponse) (sending : s.mainLoop = .sending request response)
      (ok : sendOutcome response failure = .ok ()) :
      Change s (.send failure)
        { s with mainLoop := .receiving, exchanges := s.exchanges ++ [(request, response)] }
  | failed (error : ReceiveError) (ready : s.mainLoop = .receiving) :
      Change s (.receiveFailed error) { s with mainLoop := .ended error.toYuhaError }
  | broken (failure : Option String) (request : ProtocolRequest) (response : ProtocolResponse)
      (error : YuhaError) (sending : s.mainLoop = .sending request response)
      (err : sendOutcome response failure = .err error) :
      Change s (.send failure) { s with mainLoop := .ended error }
  | accepted (f : Nat) (forward : PortForward) (found : s.forwards[f]? = some forward)
      (listening : forward.listening = true) :
      Change s (.accept f) { s with
        nextConnectionId := s.nextConnectionId + 1
        tasks := s.tasks ++ [⟨s.nextConnectionId, forward.localPort,
          s!"{forward.remoteHost}:{forward.remotePort}", .announcing⟩] }
  | unlistened (f : Nat) : Change s (.acceptFailed f) (s.acceptFailed f)
  | announced (i : Nat) (task : ConnectionTask) (found : s.tasks[i]? = some task)
      (stage : task.stage = .announcing) :
      Change s (.task i .lock) ((s.add (.task i)
        (.newConnection task.connectionId task.localPort)).setStage i .connecting)
  | connected (i : Nat) (task : ConnectionTask) (found : s.tasks[i]? = some task)
      (stage : task.stage = .connecting) :
      Change s (.task i (.connected true)) (s.setStage i .entering)
  | turnedAway (i : Nat) (task : ConnectionTask) (found : s.tasks[i]? = some task)
      (stage : task.stage = .connecting) :
      Change s (.task i (.connected false)) (s.setStage i .refused)
  | entered (i : Nat) (task : ConnectionTask) (found : s.tasks[i]? = some task)
      (stage : task.stage = .entering) (free : s.stopping = false) :
      Change s (.task i .lock)
        ((s.insert (.task i) task.connectionId i).setStage i (.relaying {}))
  | gaveUp (i : Nat) (task : ConnectionTask) (found : s.tasks[i]? = some task)
      (stage : task.stage = .refused) :
      Change s (.task i .lock)
        ((s.add (.task i) (.closeConnection task.connectionId)).setStage i .ended)
  | relayed (i : Nat) (task : ConnectionTask) (relay : Relay) (event : RelayIO)
      (found : s.tasks[i]? = some task) (stage : task.stage = .relaying relay) :
      Change s (.task i (.io event)) (s.setStage i
        (.relaying (relay.io (s.senderAlive i task.connectionId) event)))
  | buffered (i : Nat) (task : ConnectionTask) (relay : Relay) (n : Nat)
      (found : s.tasks[i]? = some task) (stage : task.stage = .relaying relay)
      (buffering : relay.stage = .buffering n) :
      Change s (.task i .lock) ((s.add (.task i)
        (.portForwardData task.connectionId (relay.targetBuf.upTo n))).setStage i
        (.relaying { relay with stage := .selecting }))
  | left (i : Nat) (task : ConnectionTask) (relay : Relay)
      (found : s.tasks[i]? = some task) (stage : task.stage = .relaying relay)
      (leaving : relay.stage = .leaving) (free : s.stopping = false) :
      Change s (.task i .lock) ((s.remove (.task i) task.connectionId).setStage i
        (.relaying { relay with stage := .closing }))
  | closed (i : Nat) (task : ConnectionTask) (relay : Relay)
      (found : s.tasks[i]? = some task) (stage : task.stage = .relaying relay)
      (closing : relay.stage = .closing) :
      Change s (.task i .lock) ((s.add (.task i) (.closeConnection task.connectionId)).setStage i
        (.relaying { relay with stage := .ended }))

theorem change_taskStep {i : Nat} {task : ConnectionTask} (found : s.tasks[i]? = some task)
    (event : TaskEvent) : Change s (.task i event) (s.taskStep i task event) := by
  unfold taskStep
  split
  · exact .announced i task found ‹_›
  · exact .connected i task found ‹_›
  · exact .turnedAway i task found ‹_›
  · split
    · exact .idle _
    · exact .entered i task found ‹_› (Bool.eq_false_iff.mpr ‹_›)
  · exact .gaveUp i task found ‹_›
  · rename_i relay hstage
    unfold relayLock
    split
    · exact .buffered i task relay _ found hstage ‹_›
    · split
      · exact .idle _
      · exact .left i task relay found hstage ‹_› (Bool.eq_false_iff.mpr ‹_›)
    · exact .closed i task relay found hstage ‹_›
    · exact .idle _
  · exact .relayed i task _ _ found ‹_›
  · exact .idle _

theorem change_step (s : RemoteServer) (e : RemoteEvent) : Change s e (s.step e) := by
  cases e with
  | request request surroundings =>
      simp only [step]
      split
      · exact .handled request surroundings ‹_›
      · exact .idle _
  | receiveFailed error =>
      simp only [step]
      split
      · exact .failed error ‹_›
      · exact .idle _
  | mainTurn =>
      simp only [step, mainTurn]
      split
      · exact .polled ‹_›
      · exact .reported _ _ _ ‹_›
      · exact .idle _
  | send failure =>
      simp only [step, sendResponse]
      split
      · rename_i request response hsending
        split
        · exact .sent failure request response hsending ‹_›
        · exact .broken failure request response _ hsending ‹_›
        · exact .idle _
      · exact .idle _
  | accept f =>
      simp only [step, accept]
      split
      · split
        · exact .accepted f _ ‹_› ‹_›
        · exact .idle _
      · exact .idle _
  | acceptFailed f => exact .unlistened f
  | task i event =>
      simp only [step]
      split
      · exact change_taskStep ‹_› event
      · exact .idle _

end RemoteServer

end Yuha
