import Yuha.Remote.Changes

/-!
# The connections of a run

What the task of a connection has done to the shared state is determined by where it is:
it announces the connection, enters it, adds what it relays, removes it and closes it, in
this order and each once.
-/

namespace Yuha

open Library Library.Execution

/-- What the clean-up of `handle_connection` has done. -/
def RelayStage.cleanup (connectionId : UInt32) : RelayStage → List Action
  | .closing => [.remove connectionId]
  | .ended => [.remove connectionId, .add (.closeConnection connectionId)]
  | _ => []

theorem RelayStage.cleanup_of_inLoop {stage : RelayStage} (connectionId : UInt32)
    (h : stage.inLoop) : stage.cleanup connectionId = [] := by
  cases stage with
  | leaving | closing | ended => simp [RelayStage.inLoop] at h
  | _ => rfl

theorem Relay.cleanup_io (relay : Relay) (senderAlive : Bool) (event : RelayIO)
    (connectionId : UInt32) : (relay.io senderAlive event).stage.cleanup connectionId =
      relay.stage.cleanup connectionId := by
  cases hloop : relay.stage.inLoop with
  | false => rw [Relay.io_of_not_inLoop senderAlive event hloop]
  | true =>
      rw [RelayStage.cleanup_of_inLoop _ hloop]
      rcases Relay.inLoop_io_or_leaving senderAlive event hloop with hstays | hleaves
      · exact RelayStage.cleanup_of_inLoop _ hstays
      · rw [hleaves]
        rfl

/-- The deed that adds a block of data. -/
def Action.block (connectionId : UInt32) (data : Bytes) : Action :=
  .add (.portForwardData connectionId data)

/-- The item that a deed adds. -/
def Action.item? : Action → Option ResponseItem
  | .add item => some item
  | .insert _ | .remove _ => none

/-- The block that a deed adds for a connection. -/
def Action.data? (connectionId : UInt32) : Action → Option Bytes
  | .add (.portForwardData id data) => if id = connectionId then some data else none
  | _ => none

/-- The deeds of a task that has come this far. -/
def ConnectionTask.Tale (task : ConnectionTask) (deeds : List Action) : Prop :=
  match task.stage with
  | .announcing => deeds = []
  | .connecting | .entering | .refused =>
      deeds = [.add (.newConnection task.connectionId task.localPort)]
  | .ended => deeds =
      [.add (.newConnection task.connectionId task.localPort),
        .add (.closeConnection task.connectionId)]
  | .relaying relay =>
      ∃ data : List Bytes,
        deeds = [.add (.newConnection task.connectionId task.localPort),
          .insert task.connectionId] ++ data.map (.block task.connectionId) ++
          relay.stage.cleanup task.connectionId ∧
        (relay.stage.inLoop → relay.Faithful data)

namespace RemoteServer

variable {s : RemoteServer}

/-- What one author has done, in order. -/
def deeds (s : RemoteServer) (author : Author) : List Action :=
  (s.log.filter fun deed => decide (deed.author = author)).map Deed.action

theorem deeds_add (s : RemoteServer) (author author' : Author) (item : ResponseItem) :
    (s.add author item).deeds author' =
      s.deeds author' ++ if author = author' then [.add item] else [] := by
  by_cases h : author = author' <;> simp [deeds, add, h]

theorem deeds_insert (s : RemoteServer) (author author' : Author) (connectionId : UInt32)
    (i : Nat) : (s.insert author connectionId i).deeds author' =
      s.deeds author' ++ if author = author' then [.insert connectionId] else [] := by
  by_cases h : author = author' <;> simp [deeds, insert, h]

theorem deeds_remove (s : RemoteServer) (author author' : Author) (connectionId : UInt32) :
    (s.remove author connectionId).deeds author' =
      s.deeds author' ++ if author = author' then [.remove connectionId] else [] := by
  by_cases h : author = author' <;> simp [deeds, remove, h]

/-- The items that were added to the response buffer, in order. -/
def added (s : RemoteServer) : List ResponseItem := s.log.filterMap fun deed => deed.action.item?

/-- The items the client has received as answers to `PollData`, in order. -/
def polled (s : RemoteServer) : List ResponseItem :=
  s.exchanges.flatMap fun
    | (.pollData, .data items) => items
    | _ => []

theorem added_add (s : RemoteServer) (author : Author) (item : ResponseItem) :
    (s.add author item).added = s.added ++ [item] := by
  simp [added, add, Action.item?]

theorem added_insert (s : RemoteServer) (author : Author) (connectionId : UInt32) (i : Nat) :
    (s.insert author connectionId i).added = s.added := by
  simp [added, insert, Action.item?]

theorem added_remove (s : RemoteServer) (author : Author) (connectionId : UInt32) :
    (s.remove author connectionId).added = s.added := by
  simp [added, remove, Action.item?]

theorem getElem?_setStage (s : RemoteServer) (i j : Nat) (stage : TaskStage) :
    (s.setStage i stage).tasks[j]? =
      (s.tasks[j]?).map fun task => if i = j then { task with stage := stage } else task := by
  simp only [setStage, List.getElem?_modify]
  split <;> simp_all

theorem getElem?_setStage_self {i : Nat} {task : ConnectionTask}
    (found : s.tasks[i]? = some task) (stage : TaskStage) :
    (s.setStage i stage).tasks[i]? = some { task with stage := stage } := by
  rw [getElem?_setStage, found]
  simp

theorem getElem?_setStage_ne {i j : Nat} (hij : i ≠ j) (stage : TaskStage) :
    (s.setStage i stage).tasks[j]? = s.tasks[j]? := by
  rw [getElem?_setStage]
  simp [hij]

/-- Every task has done what its stage says, and nobody else has done anything as a task. -/
structure Telling (s : RemoteServer) : Prop where
  tale : ∀ i (task : ConnectionTask), s.tasks[i]? = some task → task.Tale (s.deeds (.task i))
  silent : ∀ i, s.tasks[i]? = none → s.deeds (.task i) = []

/-- A change of the tasks and the log that only concerns one task. -/
theorem Telling.of_task (h : s.Telling) {t : RemoteServer} {i : Nat} {task : ConnectionTask}
    {stage : TaskStage} (found : s.tasks[i]? = some task)
    (htasks : t.tasks = (s.setStage i stage).tasks)
    (hothers : ∀ j, j ≠ i → t.deeds (.task j) = s.deeds (.task j))
    (htale : ConnectionTask.Tale { task with stage := stage } (t.deeds (.task i))) :
    t.Telling := by
  constructor
  · intro j task' hj
    rw [htasks, getElem?_setStage] at hj
    by_cases hij : i = j
    · subst hij
      rw [found] at hj
      simp only [Option.map_some, if_true, Option.some.injEq] at hj
      exact hj ▸ htale
    · rw [hothers j (Ne.symm hij)]
      simp only [hij, if_false, Option.map_id'] at hj
      exact h.tale j task' hj
  · intro j hj
    rw [htasks, getElem?_setStage, Option.map_eq_none_iff] at hj
    have hij : j ≠ i := by
      rintro rfl
      rw [found] at hj
      cases hj
    rw [hothers j hij]
    exact h.silent j hj

/-- A change that is no task's. -/
theorem Telling.of_eq (h : s.Telling) {t : RemoteServer} (htasks : t.tasks = s.tasks)
    (hdeeds : ∀ i, t.deeds (.task i) = s.deeds (.task i)) : t.Telling :=
  ⟨fun i task hi => hdeeds i ▸ h.tale i task (htasks ▸ hi),
    fun i hi => hdeeds i ▸ h.silent i (htasks ▸ hi)⟩

theorem Telling.closeNext (h : s.Telling) (localPort : UInt16) (toRemove : List UInt32) :
    (s.closeNext localPort toRemove).Telling := by
  cases toRemove with
  | nil => exact h.of_eq rfl fun i => rfl
  | cons connectionId toRemove =>
      refine h.of_eq rfl fun i => ?_
      have hremove := s.deeds_remove .mainLoop (.task i) connectionId
      simp only [reduceCtorEq, if_false, List.append_nil] at hremove
      exact hremove

theorem receiver_eq_some {i : Nat} {relay : Relay} (h : s.receiver i = some relay) :
    ∃ task, s.tasks[i]? = some task ∧ task.stage = .relaying relay ∧ relay.stage ≠ .ended := by
  unfold receiver at h
  split at h
  · rename_i connectionId localPort targetAddr relay' hi
    split at h
    · cases h
    · obtain rfl := Option.some.inj h
      exact ⟨_, hi, rfl, ‹_›⟩
  · cases h

theorem Telling.handling (h : s.Telling) {surroundings : Surroundings}
    {request : ProtocolRequest} {t : RemoteServer} (ht : Handling s surroundings request t) :
    t.Telling := by
  cases ht with
  | answered => exact h.of_eq rfl fun i => rfl
  | listening => exact h.of_eq rfl fun i => rfl
  | queued connectionId data i relay sender receiver =>
      obtain ⟨task, found, hstage, _⟩ := receiver_eq_some receiver
      refine h.of_task found rfl (fun j _ => rfl) ?_
      have htale := h.tale i task found
      simp only [ConnectionTask.Tale, hstage] at htale
      obtain ⟨blocks, hdeeds, hfaithful⟩ := htale
      refine ⟨blocks, hdeeds, fun hloop => ?_⟩
      obtain ⟨htarget, hclient, hbuffer⟩ := hfaithful hloop
      exact ⟨htarget, hclient, hbuffer⟩
  | copied content responseBuffer response =>
      refine h.of_eq rfl fun i => ?_
      have hadd := s.deeds_add .mainLoop (.task i) (.clipboardContent content)
      simp only [reduceCtorEq, if_false, List.append_nil] at hadd
      exact hadd
  | closing localPort => exact h.closeNext localPort _

theorem Telling.change (h : s.Telling) {e : RemoteEvent} {t : RemoteServer}
    (ht : Change s e t) : t.Telling := by
  cases ht with
  | idle => exact h
  | handled request surroundings ready =>
      exact h.handling (handling_handleRequest s surroundings request)
  | polled | sent | failed | broken | unlistened => exact h.of_eq rfl fun i => rfl
  | reported localPort connectionId toRemove =>
      have hadded : (s.add .mainLoop (.closeConnection connectionId)).Telling :=
        h.of_eq rfl fun i => (deeds_add ..).trans (by simp)
      exact hadded.closeNext localPort toRemove
  | accepted f forward found listening =>
      constructor
      · intro i task hi
        rcases getElem?_concat_task hi with hold | ⟨hnone, rfl⟩
        · exact h.tale i task hold
        · exact h.silent i hnone
      · intro i hi
        apply h.silent i
        rw [List.getElem?_eq_none_iff, List.length_append] at hi
        exact List.getElem?_eq_none (by omega)
  | announced i task found stage =>
      have htale := h.tale i task found
      simp only [ConnectionTask.Tale, stage] at htale
      refine h.of_task found rfl (fun j hj => ?_) ?_
      · exact (deeds_add ..).trans (by simp [hj.symm])
      · exact (deeds_add ..).trans (by simp [htale])
  | connected i task found stage =>
      have htale := h.tale i task found
      simp only [ConnectionTask.Tale, stage] at htale
      exact h.of_task found rfl (fun j _ => rfl) htale
  | turnedAway i task found stage =>
      have htale := h.tale i task found
      simp only [ConnectionTask.Tale, stage] at htale
      exact h.of_task found rfl (fun j _ => rfl) htale
  | entered i task found stage free =>
      have htale := h.tale i task found
      simp only [ConnectionTask.Tale, stage] at htale
      refine h.of_task found rfl (fun j hj => ?_) ⟨[], ?_, fun _ => Relay.faithful_new⟩
      · exact (deeds_insert _ _ _ _ i).trans (by simp [hj.symm])
      · exact (deeds_insert _ _ _ _ i).trans (by simp [htale, RelayStage.cleanup])
  | gaveUp i task found stage =>
      have htale := h.tale i task found
      simp only [ConnectionTask.Tale, stage] at htale
      refine h.of_task found rfl (fun j hj => ?_) ?_
      · exact (deeds_add ..).trans (by simp [hj.symm])
      · exact (deeds_add ..).trans (by simp [htale])
  | relayed i task relay event found stage =>
      have htale := h.tale i task found
      simp only [ConnectionTask.Tale, stage] at htale
      obtain ⟨data, hdeeds, hfaithful⟩ := htale
      refine h.of_task found rfl (fun j _ => rfl) ⟨data, ?_, fun hloop => ?_⟩
      · rw [Relay.cleanup_io]
        exact hdeeds
      · exact (hfaithful (Relay.inLoop_of_io hloop)).io_inLoop _ event hloop
  | buffered i task relay n found stage buffering =>
      have htale := h.tale i task found
      simp only [ConnectionTask.Tale, stage] at htale
      obtain ⟨data, hdeeds, hfaithful⟩ := htale
      have hloop : relay.stage.inLoop := by simp [buffering, RelayStage.inLoop]
      rw [RelayStage.cleanup_of_inLoop _ hloop, List.append_nil] at hdeeds
      refine h.of_task found rfl (fun j hj => ?_) ⟨_, ?_, fun _ =>
        (hfaithful hloop).buffered buffering⟩
      · exact (deeds_add ..).trans (by simp [hj.symm])
      · exact (deeds_add ..).trans (by simp [hdeeds, RelayStage.cleanup, Action.block])
  | left i task relay found stage leaving free =>
      have htale := h.tale i task found
      simp only [ConnectionTask.Tale, stage, leaving] at htale
      obtain ⟨data, hdeeds, _⟩ := htale
      refine h.of_task found rfl (fun j hj => ?_) ⟨data, ?_, fun hloop => by cases hloop⟩
      · exact (deeds_remove ..).trans (by simp [hj.symm])
      · exact (deeds_remove ..).trans (by simp [hdeeds, RelayStage.cleanup])
  | closed i task relay found stage closing =>
      have htale := h.tale i task found
      simp only [ConnectionTask.Tale, stage, closing] at htale
      obtain ⟨data, hdeeds, _⟩ := htale
      refine h.of_task found rfl (fun j hj => ?_) ⟨data, ?_, fun hloop => by cases hloop⟩
      · exact (deeds_add ..).trans (by simp [hj.symm])
      · exact (deeds_add ..).trans (by simp [hdeeds, RelayStage.cleanup])

theorem always_telling (es : List RemoteEvent) : Always step Telling {} es := by
  have start : Telling {} := by
    constructor
    · intro i task hi
      cases hi
    · exact fun i _ => rfl
  refine Along.invariant (G := fun _ _ _ => True) (I := fun _ s => Telling s)
    (fun _ _ _ => trivial) start ?_
  exact fun _ s e h _ => h.change (change_step s e)

/-- Two forwards, and a connection of the second that has come to its relay. -/
def forwarding : List RemoteEvent :=
  [.request (.startPortForward 8080 "web" 80) {}, .send none,
    .request (.startPortForward 9090 "db" 5432) {}, .send none,
    .accept 1, .task 0 .lock, .task 0 (.connected true), .task 0 .lock]

/-- The blocks a task has added for a connection, in order. -/
def dataAdded (s : RemoteServer) (i : Nat) (connectionId : UInt32) : List Bytes :=
  (s.deeds (.task i)).filterMap (Action.data? connectionId)

/-- What the relay of a connection guarantees. -/
structure Mirrored (s : RemoteServer) (i : Nat) (task : ConnectionTask) (relay : Relay) :
    Prop where
  client : relay.stage = .selecting → relay.clientStream = relay.targetReads.flatten
  buffer : relay.stage = .selecting →
    (s.dataAdded i task.connectionId).flatten = relay.clientStream
  target : relay.stage = .selecting → ∃ merged,
    OrderedMerge relay.clientReads relay.received merged ∧ relay.targetStream = merged.flatten
  /-- The next step of a relay that has left its loop takes the connection out of the map. -/
  removes : relay.stage = .leaving → s.stopping = false →
    (s.step (.task i .lock)).activeConnections.lookup task.connectionId = none ∧
      (s.step (.task i .lock)).tasks[i]? =
        some { task with stage := .relaying { relay with stage := .closing } }
  /-- When it has returned, it has done that, and then added the close. -/
  closes : relay.stage = .ended → ∃ data : List Bytes,
    s.deeds (.task i) =
      [.add (.newConnection task.connectionId task.localPort), .insert task.connectionId] ++
        data.map (.block task.connectionId) ++
        [.remove task.connectionId, .add (.closeConnection task.connectionId)]

theorem data?_blocks (connectionId : UInt32) (data : List Bytes) :
    (data.map (Action.block connectionId)).filterMap (Action.data? connectionId) = data := by
  induction data with
  | nil => rfl
  | cons block data ih => simpa [Action.block, Action.data?] using ih

theorem Telling.mirrored (h : s.Telling) {i : Nat} {task : ConnectionTask} {relay : Relay}
    (found : s.tasks[i]? = some task) (hrelay : task.stage = .relaying relay) :
    s.Mirrored i task relay := by
  have htale := h.tale i task found
  simp only [ConnectionTask.Tale, hrelay] at htale
  obtain ⟨data, hdeeds, hfaithful⟩ := htale
  have hloop : relay.stage = .selecting → relay.stage.inLoop := by
    intro hstage
    rw [hstage]
    rfl
  constructor
  · exact fun hstage => ((hfaithful (hloop hstage)).selecting hstage).2.1
  · intro hstage
    obtain ⟨_, hclient, hreads⟩ := (hfaithful (hloop hstage)).selecting hstage
    have hadded : s.dataAdded i task.connectionId = data := by
      rw [RelayStage.cleanup_of_inLoop _ (hloop hstage), List.append_nil] at hdeeds
      rw [dataAdded, hdeeds, List.filterMap_append, data?_blocks]
      rfl
    rw [hadded, hclient, hreads]
  · exact fun hstage => ((hfaithful (hloop hstage)).selecting hstage).1
  · intro hstage hfree
    have hstep : s.step (.task i .lock) = (s.remove (.task i) task.connectionId).setStage i
        (.relaying { relay with stage := .closing }) := by
      simp [step, found, taskStep, hrelay, relayLock, hstage, hfree]
    rw [hstep]
    constructor
    · exact AList.lookup_erase task.connectionId s.activeConnections
    · rw [getElem?_setStage]
      show (s.tasks[i]?).map _ = _
      rw [found]
      simp
  · intro hstage
    refine ⟨data, ?_⟩
    rw [hdeeds, hstage]
    rfl

end RemoteServer

end Yuha
