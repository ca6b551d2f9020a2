import Yuha.Remote.Relaying

/-!
# Data for an announced connection

A connection is announced before it is entered in the map of active connections, and taken
out of the map before it is reported closed. `forward_data` answers `Success` for an
identifier that is not in the map. An `Audit` follows the client's requests next to the
server, and keeps for each block whether the client sent it while the connection was open
to it, what it was answered, and on whose channel it was queued.
-/

namespace Yuha

open Library Library.Execution

/-- A `PortForwardData` request that was handled. -/
structure ForwardedBlock where
  connectionId : UInt32
  data : Bytes
  inWindow : Bool
  response : Option ProtocolResponse
  task : Option Nat
  deriving DecidableEq

structure Audit where
  server : RemoteServer := {}
  /-- The request the client has sent, and whether it is a block for an open connection. -/
  outgoing : Option (ProtocolRequest × Bool) := none
  forwarded : List ForwardedBlock := []

inductive AuditEvent
  | clientSends (request : ProtocolRequest)
  | handle (surroundings : Surroundings)
  /-- Any other step of the server. -/
  | server (event : RemoteEvent)

/-- The blocks that were put on the channel of a task, taken from it or not. -/
def TaskStage.blocks : TaskStage → List Bytes
  | .relaying relay => relay.received ++ relay.dataRx
  | _ => []

namespace RemoteServer

def blocksOf (s : RemoteServer) (i : Nat) : List Bytes :=
  match s.tasks[i]? with
  | some task => task.stage.blocks
  | none => []

/-- The client has polled the announcement, and no close has been added. -/
def inWindow (s : RemoteServer) (connectionId : UInt32) : Bool :=
  (s.polled.any fun item =>
    match item with
    | .newConnection id _ => id == connectionId
    | _ => false) && decide (.closeConnection connectionId ∉ s.added)

/-- The task on whose channel a block for this connection is put. -/
def queuesOn (s : RemoteServer) (connectionId : UInt32) : Option Nat :=
  (s.activeConnections.lookup connectionId).filter fun i => (s.receiver i).isSome

def answer (s : RemoteServer) : Option ProtocolResponse :=
  match s.mainLoop with
  | .sending _ response => some response
  | _ => none

end RemoteServer

namespace Audit

/-- What is kept of a request that the server handles. -/
def record (a : Audit) (inWindow : Bool) (response : Option ProtocolResponse) :
    ProtocolRequest → List ForwardedBlock
  | .portForwardData connectionId data =>
      [⟨connectionId, data, inWindow, response, a.server.queuesOn connectionId⟩]
  | _ => []

def clientSends (a : Audit) (request : ProtocolRequest) : Audit :=
  match a.server.mainLoop, a.outgoing with
  | .receiving, none =>
      { a with outgoing := some (request,
          match request with
          | .portForwardData connectionId _ => a.server.inWindow connectionId
          | _ => false) }
  | _, _ => a

def handle (a : Audit) (surroundings : Surroundings) : Audit :=
  match a.server.mainLoop, a.outgoing with
  | .receiving, some (request, inWindow) =>
      let server := a.server.step (.request request surroundings)
      { server := server
        outgoing := none
        forwarded := a.forwarded ++ a.record inWindow server.answer request }
  | _, _ => a

def step (a : Audit) : AuditEvent → Audit
  | .clientSends request => a.clientSends request
  | .handle surroundings => a.handle surroundings
  | .server (.request _ _) => a
  | .server event => { a with server := a.server.step event }

/-- A block that the client sent to an open connection and that was answered `Success` was
queued on the channel of that connection, and the channel of each connection got exactly
the blocks that were queued on it, once and in the order of the requests. -/
structure Queued (a : Audit) : Prop where
  acknowledged : ∀ block ∈ a.forwarded, block.inWindow = true → block.response = some .success →
    ∃ i task, block.task = some i ∧ a.server.tasks[i]? = some task ∧
      task.connectionId = block.connectionId
  channel : ∀ i, a.server.blocksOf i =
    (a.forwarded.filter fun block => decide (block.task = some i)).map ForwardedBlock.data

/-- When the server handles a block that was sent to an open connection, the connection is
in the map. -/
def FindsEntry (a : Audit) : AuditEvent → Prop
  | .handle _ => ∀ connectionId data, a.server.mainLoop = .receiving →
      a.outgoing = some (.portForwardData connectionId data, true) →
      a.server.activeConnections.lookup connectionId ≠ none
  | _ => True

end Audit

namespace RemoteServer

variable {s t : RemoteServer}

/-! ## The channels -/

theorem blocksOf_congr (h : t.tasks = s.tasks) (i : Nat) : t.blocksOf i = s.blocksOf i := by
  simp only [blocksOf, h]

theorem blocksOf_eq {i : Nat} {task : ConnectionTask} (found : s.tasks[i]? = some task) :
    s.blocksOf i = task.stage.blocks := by
  simp only [blocksOf, found]

theorem blocksOf_setStage {i : Nat} {task : ConnectionTask} (found : s.tasks[i]? = some task)
    (stage : TaskStage) (j : Nat) :
    (s.setStage i stage).blocksOf j = if i = j then stage.blocks else s.blocksOf j := by
  by_cases hij : i = j
  · subst hij
    rw [if_pos rfl]
    exact blocksOf_eq (getElem?_setStage_self found stage)
  · rw [if_neg hij]
    simp only [blocksOf, getElem?_setStage_ne hij]

theorem blocksOf_setStage_same {i : Nat} {task : ConnectionTask}
    (found : s.tasks[i]? = some task) {stage : TaskStage} (h : stage.blocks = task.stage.blocks)
    (j : Nat) : (s.setStage i stage).blocksOf j = s.blocksOf j := by
  rw [blocksOf_setStage found]
  split
  · rename_i hij
    rw [h, ← hij, blocksOf_eq found]
  · rfl

/-- A new task has no blocks yet. -/
theorem blocksOf_append {task : ConnectionTask} (htasks : t.tasks = s.tasks ++ [task])
    (hblocks : task.stage.blocks = []) (i : Nat) : t.blocksOf i = s.blocksOf i := by
  simp only [blocksOf, htasks]
  cases hi : s.tasks[i]? with
  | some task' =>
      rw [List.getElem?_append_left (List.getElem?_eq_some_iff.mp hi).1, hi]
  | none =>
      rw [List.getElem?_append_right (List.getElem?_eq_none_iff.mp hi)]
      cases hnew : [task][i - s.tasks.length]? with
      | none => rfl
      | some task' =>
          obtain rfl := List.mem_singleton.mp (List.mem_of_getElem? hnew)
          exact hblocks

/-- Every entry of the map leads to the task of its connection. -/
def Named (s : RemoteServer) : Prop :=
  ∀ connectionId i, s.activeConnections.lookup connectionId = some i →
    ∃ task : ConnectionTask, s.tasks[i]? = some task ∧ task.connectionId = connectionId

/-- The tasks keep their places and identifiers. -/
def KeepsTasks (s t : RemoteServer) : Prop :=
  ∀ (i : Nat) (task : ConnectionTask), s.tasks[i]? = some task →
    ∃ task' : ConnectionTask, t.tasks[i]? = some task' ∧ task'.connectionId = task.connectionId

theorem KeepsTasks.of_eq (h : t.tasks = s.tasks) : KeepsTasks s t :=
  fun _ task hi => ⟨task, h ▸ hi, rfl⟩

theorem KeepsTasks.of_setStage {i : Nat} {stage : TaskStage}
    (h : t.tasks = (s.setStage i stage).tasks) : KeepsTasks s t := by
  intro j task hj
  rw [h, getElem?_setStage, hj]
  refine ⟨_, rfl, ?_⟩
  split <;> rfl

theorem Named.of_keeps (h : s.Named) (hkeeps : KeepsTasks s t)
    (hactive : ∀ connectionId i, t.activeConnections.lookup connectionId = some i →
      s.activeConnections.lookup connectionId = some i) : t.Named := by
  intro connectionId i hlookup
  obtain ⟨task, found, rfl⟩ := h connectionId i (hactive connectionId i hlookup)
  exact hkeeps i task found

theorem lookup_of_erase {connectionId id : UInt32} {i : Nat}
    (h : (AList.erase connectionId s.activeConnections).lookup id = some i) :
    s.activeConnections.lookup id = some i := by
  rw [HashMap.lookup_erase_ite] at h
  split at h
  · cases h
  · exact h

theorem keepsTasks_closeNext (s : RemoteServer) (localPort : UInt16) (toRemove : List UInt32) :
    KeepsTasks s (s.closeNext localPort toRemove) ∧
      (∀ connectionId i, (s.closeNext localPort toRemove).activeConnections.lookup connectionId =
        some i → s.activeConnections.lookup connectionId = some i) ∧
      ∀ i, (s.closeNext localPort toRemove).blocksOf i = s.blocksOf i := by
  cases toRemove with
  | nil => exact ⟨.of_eq rfl, fun _ _ h => h, fun _ => rfl⟩
  | cons connectionId toRemove =>
      exact ⟨.of_eq rfl, fun _ _ h => lookup_of_erase h, fun _ => rfl⟩

/-- A step that is no request puts nothing on a channel. -/
theorem change_server (h : s.Named) {e : RemoteEvent} (ht : Change s e t)
    (hrequest : ∀ request surroundings, e ≠ .request request surroundings) :
    t.Named ∧ KeepsTasks s t ∧ ∀ i, t.blocksOf i = s.blocksOf i := by
  have hsame : ∀ u : RemoteServer, u.tasks = s.tasks →
      u.activeConnections = s.activeConnections →
      u.Named ∧ KeepsTasks s u ∧ ∀ i, u.blocksOf i = s.blocksOf i := by
    intro u htasks hactive
    refine ⟨h.of_keeps (.of_eq htasks) fun _ _ hlookup => hactive ▸ hlookup, .of_eq htasks, ?_⟩
    exact fun i => blocksOf_congr htasks i
  have hstage : ∀ {u : RemoteServer} {i task stage}, s.tasks[i]? = some task →
      u.tasks = (s.setStage i stage).tasks →
      (∀ connectionId i, u.activeConnections.lookup connectionId = some i →
        s.activeConnections.lookup connectionId = some i) →
      stage.blocks = task.stage.blocks →
      u.Named ∧ KeepsTasks s u ∧ ∀ i, u.blocksOf i = s.blocksOf i := by
    intro u i task stage found htasks hactive hblocks
    refine ⟨h.of_keeps (.of_setStage htasks) hactive, .of_setStage htasks, fun j => ?_⟩
    rw [← blocksOf_setStage_same found hblocks j]
    exact blocksOf_congr htasks j
  cases ht with
  | idle | polled | sent | failed | broken | unlistened => exact hsame _ rfl rfl
  | handled request surroundings => exact absurd rfl (hrequest request surroundings)
  | reported localPort connectionId toRemove =>
      obtain ⟨hkeeps, hactive, hblocks⟩ := keepsTasks_closeNext
        (s.add .mainLoop (.closeConnection connectionId)) localPort toRemove
      exact ⟨Named.of_keeps (s := s.add _ _) h hkeeps hactive, hkeeps, hblocks⟩
  | accepted f forward found listening =>
      have hkeeps : KeepsTasks s { s with
          nextConnectionId := s.nextConnectionId + 1
          tasks := s.tasks ++ [⟨s.nextConnectionId, forward.localPort,
            s!"{forward.remoteHost}:{forward.remotePort}", .announcing⟩] } := fun i task hi =>
        ⟨task, (List.getElem?_append_left (List.getElem?_eq_some_iff.mp hi).1).trans hi, rfl⟩
      exact ⟨h.of_keeps hkeeps fun _ _ hlookup => hlookup, hkeeps, blocksOf_append rfl rfl⟩
  | announced i task found stage =>
      exact hstage found rfl (fun _ _ hlookup => hlookup) (by rw [stage]; rfl)
  | connected i task found stage =>
      exact hstage found rfl (fun _ _ hlookup => hlookup) (by rw [stage]; rfl)
  | turnedAway i task found stage =>
      exact hstage found rfl (fun _ _ hlookup => hlookup) (by rw [stage]; rfl)
  | entered i task found stage free =>
      refine ⟨?_, .of_setStage rfl, fun j => ?_⟩
      · intro connectionId j hlookup
        have hinsert : (AList.insert task.connectionId i s.activeConnections).lookup connectionId =
          some j := hlookup
        rw [HashMap.lookup_insert_ite] at hinsert
        split at hinsert
        · rename_i hid
          obtain rfl := Option.some.inj hinsert
          exact ⟨_, getElem?_setStage_self (s := s.insert _ _ i) found _, hid.symm⟩
        · obtain ⟨task', hj, rfl⟩ := h connectionId j hinsert
          have hkeeps : KeepsTasks s (s.setStage i (.relaying {})) := .of_setStage rfl
          exact hkeeps j task' hj
      · have hblocks : TaskStage.blocks (.relaying {}) = task.stage.blocks := by
          rw [stage]
          rfl
        exact blocksOf_setStage_same found hblocks j
  | gaveUp i task found stage =>
      exact hstage found rfl (fun _ _ hlookup => hlookup) (by rw [stage]; rfl)
  | relayed i task relay event found stage =>
      apply hstage found rfl (fun _ _ hlookup => hlookup)
      rw [stage]
      exact relay.io_blocks _ event
  | buffered i task relay n found stage =>
      exact hstage found rfl (fun _ _ hlookup => hlookup) (by rw [stage]; rfl)
  | left i task relay found stage =>
      exact hstage found rfl (fun _ _ hlookup => lookup_of_erase hlookup) (by rw [stage]; rfl)
  | closed i task relay found stage =>
      exact hstage found rfl (fun _ _ hlookup => hlookup) (by rw [stage]; rfl)

/-- Neither does any request but a block. -/
theorem handling_other (h : s.Named) {surroundings : Surroundings} {request : ProtocolRequest}
    (ht : Handling s surroundings request t)
    (hblock : ∀ connectionId data, request ≠ .portForwardData connectionId data) :
    t.Named ∧ KeepsTasks s t ∧ ∀ i, t.blocksOf i = s.blocksOf i := by
  cases ht with
  | answered | listening | copied =>
      exact ⟨h.of_keeps (.of_eq rfl) fun _ _ hlookup => hlookup, .of_eq rfl, fun _ => rfl⟩
  | queued connectionId data => exact absurd rfl (hblock connectionId data)
  | closing localPort =>
      obtain ⟨hkeeps, hactive, hblocks⟩ := keepsTasks_closeNext s localPort
        ((s.activeConnections.listing surroundings.order).map Sigma.fst)
      exact ⟨h.of_keeps hkeeps hactive, hkeeps, hblocks⟩

/-- What becomes of a block: it is put on the channel of its connection, or answered with
an error, or its connection is not in the map. -/
theorem forwardData_cases (s : RemoteServer) (connectionId : UInt32) (data : Bytes) :
    (s.activeConnections.lookup connectionId = none ∧
      s.forwardData connectionId data = s.respond (.portForwardData connectionId data) .success) ∨
    (∃ e, s.forwardData connectionId data =
        s.respond (.portForwardData connectionId data) (.error e) ∧
      s.queuesOn connectionId = none) ∨
    ∃ i relay, s.activeConnections.lookup connectionId = some i ∧ s.receiver i = some relay ∧
      s.forwardData connectionId data =
        (s.setStage i (.relaying { relay with dataRx := relay.dataRx ++ [data] })).respond
          (.portForwardData connectionId data) .success := by
  cases hlookup : s.activeConnections.lookup connectionId with
  | none => exact .inl ⟨rfl, by simp only [forwardData, hlookup]⟩
  | some i =>
      cases hreceiver : s.receiver i with
      | none =>
          refine .inr (.inl ⟨_, by simp only [forwardData, hlookup, send, hreceiver]; rfl, ?_⟩)
          simp [queuesOn, hlookup, hreceiver]
      | some relay =>
          refine .inr (.inr ⟨i, relay, rfl, hreceiver, ?_⟩)
          simp only [forwardData, hlookup, send, hreceiver]

end RemoteServer

namespace Audit

open RemoteServer

variable {a : Audit}

theorem Queued.of_server (h : a.Queued) {server : RemoteServer}
    {outgoing : Option (ProtocolRequest × Bool)} (hkeeps : KeepsTasks a.server server)
    (hblocks : ∀ i, server.blocksOf i = a.server.blocksOf i) :
    Queued { a with server := server, outgoing := outgoing } := by
  constructor
  · intro block hmem hwindow hsuccess
    obtain ⟨i, task, htask, found, hid⟩ := h.acknowledged block hmem hwindow hsuccess
    obtain ⟨task', found', hid'⟩ := hkeeps i task found
    exact ⟨i, task', htask, found', hid'.trans hid⟩
  · exact fun i => (hblocks i).trans (h.channel i)

/-- A block that is put on no channel. -/
theorem Queued.unqueued (h : a.Queued) {block : ForwardedBlock} (hnone : block.task = none)
    (hblock : block.inWindow = true → block.response ≠ some .success) :
    Queued { a with forwarded := a.forwarded ++ [block] } := by
  constructor
  · intro block' hmem hwindow hsuccess
    rcases List.mem_append.mp hmem with hmem | hmem
    · exact h.acknowledged block' hmem hwindow hsuccess
    · obtain rfl := List.mem_singleton.mp hmem
      exact absurd hsuccess (hblock hwindow)
  · intro i
    rw [h.channel i]
    simp [hnone]

/-- The server handles a block. -/
theorem Queued.handleBlock (h : a.Queued) (hnamed : a.server.Named) {connectionId : UInt32}
    {data : Bytes} {inWindow : Bool} {server : RemoteServer}
    (hserver : server = a.server.forwardData connectionId data)
    (hfinds : inWindow = true → a.server.activeConnections.lookup connectionId ≠ none) :
    server.Named ∧ Queued ⟨server, none, a.forwarded ++
      [⟨connectionId, data, inWindow, server.answer, a.server.queuesOn connectionId⟩]⟩ := by
  have hanswered : ∀ response : ProtocolResponse,
      Queued ⟨a.server.respond (.portForwardData connectionId data) response, none,
        a.forwarded⟩ := fun _ => h.of_server (.of_eq rfl) fun _ => rfl
  rcases a.server.forwardData_cases connectionId data with
    ⟨hnone, hanswer⟩ | ⟨e, hanswer, hnone⟩ | ⟨i, relay, hlookup, hreceiver, hanswer⟩
  · obtain rfl := hserver.trans hanswer
    refine ⟨hnamed, (hanswered .success).unqueued ?_ ?_⟩
    · simp [queuesOn, hnone]
    · exact fun hwindow => absurd hnone (hfinds hwindow)
  · obtain rfl := hserver.trans hanswer
    refine ⟨hnamed, (hanswered (.error e)).unqueued hnone ?_⟩
    intro _ hsuccess
    cases hsuccess
  · obtain ⟨task, found, hrelay, _⟩ := receiver_eq_some hreceiver
    have hqueues : a.server.queuesOn connectionId = some i := by
      simp [queuesOn, hlookup, hreceiver]
    have hkeeps : KeepsTasks a.server server := by
      rw [hserver, hanswer]
      exact .of_setStage rfl
    refine ⟨hnamed.of_keeps hkeeps ?_, ?_, fun j => ?_⟩
    · rw [hserver, hanswer]
      exact fun _ _ hlookup' => hlookup'
    · intro block hmem hwindow hsuccess
      rcases List.mem_append.mp hmem with hmem | hmem
      · obtain ⟨j, task', htask, found', hid⟩ := h.acknowledged block hmem hwindow hsuccess
        obtain ⟨task'', found'', hid'⟩ := hkeeps j task' found'
        exact ⟨j, task'', htask, found'', hid'.trans hid⟩
      · obtain rfl := List.mem_singleton.mp hmem
        obtain ⟨task', found', hid⟩ := hnamed connectionId i hlookup
        obtain ⟨task'', found'', hid'⟩ := hkeeps i task' found'
        exact ⟨i, task'', hqueues, found'', hid'.trans hid⟩
    · have hblocks : server.blocksOf j = if i = j then relay.received ++ (relay.dataRx ++ [data])
          else a.server.blocksOf j := by
        rw [hserver, hanswer]
        exact blocksOf_setStage found _ j
      have hbefore : a.server.blocksOf i = relay.received ++ relay.dataRx := by
        rw [blocksOf_eq found, hrelay]
        rfl
      rw [hblocks, List.filter_append, List.map_append, ← h.channel j, hqueues]
      by_cases hij : i = j
      · subst hij
        simp [hbefore]
      · simp [hij]

/-- The invariant of an audit. -/
structure Inv (a : Audit) : Prop where
  named : a.server.Named
  queued : a.Queued

theorem Inv.step (h : a.Inv) {e : AuditEvent} (hfinds : a.FindsEntry e) : (a.step e).Inv := by
  cases e with
  | clientSends request =>
      simp only [Audit.step, clientSends]
      split
      · exact ⟨h.named, h.queued.of_server (.of_eq rfl) fun _ => rfl⟩
      · exact h
  | server event =>
      by_cases hrequest : ∃ request surroundings, event = .request request surroundings
      · obtain ⟨request, surroundings, rfl⟩ := hrequest
        exact h
      · have hstep : a.step (.server event) = { a with server := a.server.step event } := by
          cases event with
          | request request surroundings => exact absurd ⟨_, _, rfl⟩ hrequest
          | _ => rfl
        obtain ⟨hnamed, hkeeps, hblocks⟩ := change_server h.named
          (change_step a.server event) fun request surroundings heq => hrequest ⟨_, _, heq⟩
        rw [hstep]
        exact ⟨hnamed, h.queued.of_server hkeeps hblocks⟩
  | handle surroundings =>
      simp only [Audit.step, Audit.handle]
      split
      · rename_i request inWindow ready houtgoing
        have hserver : a.server.step (.request request surroundings) =
            a.server.handleRequest surroundings request := by
          simp only [RemoteServer.step, ready]
        by_cases hblock : ∃ connectionId data, request = .portForwardData connectionId data
        · obtain ⟨connectionId, data, rfl⟩ := hblock
          have hfound : inWindow = true →
              a.server.activeConnections.lookup connectionId ≠ none :=
            fun hwindow => hfinds connectionId data ready (by rw [houtgoing, hwindow])
          obtain ⟨hnamed, hqueued⟩ := h.queued.handleBlock h.named hserver hfound
          exact ⟨hnamed, hqueued⟩
        · obtain ⟨hnamed, hkeeps, hblocks⟩ := handling_other h.named
            (handling_handleRequest a.server surroundings request)
            fun connectionId data heq => hblock ⟨_, _, heq⟩
          have hrecord : ∀ response, a.record inWindow response request = [] := by
            intro response
            cases request with
            | portForwardData connectionId data => exact absurd ⟨_, _, rfl⟩ hblock
            | _ => rfl
          rw [hserver, hrecord, List.append_nil]
          exact ⟨hnamed, h.queued.of_server hkeeps hblocks⟩
      · exact h

/-- A block for an open connection that is not in the map is acknowledged and dropped. -/
theorem not_queued_step {e : AuditEvent} (hfinds : ¬ a.FindsEntry e) : ¬ (a.step e).Queued := by
  cases e with
  | clientSends | server => exact absurd trivial hfinds
  | handle surroundings =>
      simp only [FindsEntry, not_forall, not_not] at hfinds
      obtain ⟨connectionId, data, ready, houtgoing, hnone⟩ := hfinds
      intro hqueued
      have hserver : a.server.step (.request (.portForwardData connectionId data) surroundings) =
          a.server.respond (.portForwardData connectionId data) .success := by
        simp only [RemoteServer.step, ready, handleRequest, forwardData, hnone]
      have hstep : a.step (.handle surroundings) =
          ⟨a.server.respond (.portForwardData connectionId data) .success, none, a.forwarded ++
            [⟨connectionId, data, true, some .success, none⟩]⟩ := by
        simp only [Audit.step, Audit.handle, ready, houtgoing, hserver, record, queuesOn, hnone]
        rfl
      rw [hstep] at hqueued
      obtain ⟨i, task, htask, _⟩ := hqueued.acknowledged _
        (List.mem_append_right _ (List.mem_singleton_self _)) rfl rfl
      cases htask

/-- Acknowledged data is queued, once and in order, in every state of a run exactly if every
block that was sent to an open connection finds it in the map. -/
theorem queued_iff_findsEntry (es : List AuditEvent) :
    Always step Queued {} es ↔ Along step (fun _ a e => a.FindsEntry e) {} es := by
  apply always_iff_along (A := fun _ _ _ => True) (I := fun _ a => Inv a)
  · exact fun _ _ _ => trivial
  · constructor
    · intro connectionId i hlookup
      cases hlookup
    · constructor
      · intro block hmem
        cases hmem
      · exact fun i => rfl
  · exact fun _ a h => h.queued
  · exact fun _ a e h _ hfinds => h.step hfinds
  · exact fun _ a e _ _ hfinds => not_queued_step hfinds

/-- The client polls the announcement and sends a block before the target is connected. -/
theorem queued_connecting_false : ¬ ∀ es, Always step Queued {} es := by
  intro h
  have hqueued := (h [.clientSends (.startPortForward 8080 "web" 80), .handle {},
    .server (.send none), .server (.accept 0), .server (.task 0 .lock), .clientSends .pollData,
    .handle {}, .server (.send none), .clientSends (.portForwardData 1 [7]), .handle {}]).last
  obtain ⟨i, task, htask, _⟩ := hqueued.acknowledged ⟨1, [7], true, some .success, none⟩
    (List.mem_singleton_self _) rfl rfl
  cases htask

end Audit

end Yuha
