import Yuha.Remote.Relaying

/-!
# After a forward was stopped

Neither the task that accepts on a port nor the tasks of its connections hear of
`StopPortForward`. The port stays closed after the answer exactly if none of them was in
operation when the answer was sent.
-/

namespace Yuha

open Library Library.Execution

/-- A task that will still announce its connection or relay for it. -/
def TaskStage.active : TaskStage → Bool
  | .announcing | .connecting | .entering => true
  | .relaying relay => relay.stage.inLoop
  | .refused | .ended => false

/-- The bytes written to the client and to the target of a connection. -/
def ConnectionTask.relayed (task : ConnectionTask) : Bytes × Bytes :=
  match task.stage with
  | .relaying relay => (relay.clientStream, relay.targetStream)
  | _ => ([], [])

namespace RemoteServer

variable {s : RemoteServer} {localPort : UInt16}

/-- The step starts a forward of this port with success. -/
def Starts (localPort : UInt16) (s : RemoteServer) (e : RemoteEvent) : Prop :=
  ∃ remoteHost remotePort surroundings,
    e = .request (.startPortForward localPort remoteHost remotePort) surroundings ∧
    s.mainLoop = .receiving ∧ s.bind localPort surroundings.bind = .ok ()

/-- In `u`, which comes after `t`, no connection was accepted on the port since `t`, none
that was accepted before has been relayed further, and the port can be bound. -/
structure Stopped (localPort : UInt16) (t u : RemoteServer) : Prop where
  unannounced : ∃ later, u.added = t.added ++ later ∧
    ∀ connectionId, .newConnection connectionId localPort ∉ later
  unrelayed : ∀ (i : Nat) (task task' : ConnectionTask), t.tasks[i]? = some task →
    u.tasks[i]? = some task' → task.localPort = localPort → task'.relayed = task.relayed
  rebinds : ∀ remoteHost remotePort surroundings, u.mainLoop = .receiving →
    surroundings.bind = .ok () →
    (u.step (.request (.startPortForward localPort remoteHost remotePort) surroundings)).mainLoop =
      .sending (.startPortForward localPort remoteHost remotePort) .success

/-- The port stays closed until a forward of it is started again. -/
def StaysStopped (localPort : UInt16) (t : RemoteServer) : Prop :=
  ∀ es, Along step (fun _ u e => ¬ u.Starts localPort e) t es →
    Always step (Stopped localPort t) t es

/-- A task accepts on the port, or a connection accepted on it is on its way or relayed. -/
def InOperation (localPort : UInt16) (s : RemoteServer) : Prop :=
  (∃ forward ∈ s.forwards, forward.localPort = localPort ∧ forward.listening = true) ∨
    ∃ task ∈ s.tasks, task.localPort = localPort ∧ task.stage.active = true

/-! ## A port out of operation -/

/-- What stays true of a port out of operation. -/
structure Resting (localPort : UInt16) (t u : RemoteServer) : Prop where
  forwards : ∀ forward ∈ u.forwards, forward.localPort = localPort → forward.listening = false
  tasks : ∀ (i : Nat) (task : ConnectionTask), u.tasks[i]? = some task →
    task.localPort = localPort → task.stage.active = false
  unannounced : ∃ later, u.added = t.added ++ later ∧
    ∀ connectionId, .newConnection connectionId localPort ∉ later
  unrelayed : ∀ (i : Nat) (task : ConnectionTask), t.tasks[i]? = some task →
    ∃ task' : ConnectionTask, u.tasks[i]? = some task' ∧ task'.localPort = task.localPort ∧
      (task.localPort = localPort → task'.relayed = task.relayed)

theorem Resting.stopped {t u : RemoteServer} (h : Resting localPort t u) :
    Stopped localPort t u := by
  constructor
  · exact h.unannounced
  · intro i task task' hi hi' hport
    obtain ⟨task'', hi'', _, hrelayed⟩ := h.unrelayed i task hi
    obtain rfl := Option.some.inj (hi''.symm.trans hi')
    exact hrelayed hport
  · intro remoteHost remotePort surroundings ready hos
    have hbind : u.bind localPort surroundings.bind = .ok () := by
      unfold bind
      rw [if_neg]
      · exact hos
      · rintro ⟨_, hany⟩
        obtain ⟨forward, hmem, hlistens⟩ := List.any_eq_true.mp hany
        rw [Bool.and_eq_true, beq_iff_eq] at hlistens
        exact absurd (h.forwards forward hmem hlistens.2) (by simp [hlistens.1])
    simp [step, ready, handleRequest, startPortForward, hbind, respond]

/-- A step that is none of the port's and adds no announcement of it. -/
theorem Resting.of_eq {t u v : RemoteServer} (h : Resting localPort t u)
    (hforwards : v.forwards = u.forwards) (htasks : v.tasks = u.tasks)
    (hadded : ∃ later, v.added = u.added ++ later ∧
      ∀ connectionId, .newConnection connectionId localPort ∉ later) :
    Resting localPort t v := by
  obtain ⟨later, hu, hsilent⟩ := h.unannounced
  obtain ⟨more, hv, hsilent'⟩ := hadded
  refine ⟨hforwards ▸ h.forwards, htasks ▸ h.tasks, ⟨later ++ more, ?_, ?_⟩,
    htasks ▸ h.unrelayed⟩
  · rw [hv, hu, List.append_assoc]
  · intro connectionId hmem
    rcases List.mem_append.mp hmem with hmem | hmem
    · exact hsilent connectionId hmem
    · exact hsilent' connectionId hmem

/-- A step of one task that, if it is of this port, stays as far as it was. -/
theorem Resting.of_task {t u v : RemoteServer} (h : Resting localPort t u) {i : Nat}
    {task : ConnectionTask} {stage : TaskStage} (found : u.tasks[i]? = some task)
    (hforwards : v.forwards = u.forwards) (htasks : v.tasks = (u.setStage i stage).tasks)
    (hadded : ∃ later, v.added = u.added ++ later ∧
      ∀ connectionId, .newConnection connectionId localPort ∉ later)
    (hkeeps : task.localPort = localPort → stage.active = false ∧
      ConnectionTask.relayed { task with stage := stage } = task.relayed) :
    Resting localPort t v := by
  have hset : Resting localPort t (u.setStage i stage) := by
    refine ⟨h.forwards, ?_, h.unannounced, ?_⟩
    · intro j task' hj hport
      rw [getElem?_setStage] at hj
      obtain ⟨task'', hj', rfl⟩ := Option.map_eq_some_iff.mp hj
      by_cases hij : i = j
      · subst hij
        obtain rfl := Option.some.inj (found.symm.trans hj')
        rw [if_pos rfl] at hport ⊢
        exact (hkeeps hport).1
      · rw [if_neg hij] at hport ⊢
        exact h.tasks j task'' hj' hport
    · intro j task' hj
      obtain ⟨task'', hj', hport, hrelayed⟩ := h.unrelayed j task' hj
      rw [getElem?_setStage, hj']
      refine ⟨_, rfl, ?_, fun hlocal => ?_⟩
      · split <;> exact hport
      · split
        · rename_i hij
          subst hij
          obtain rfl := Option.some.inj (found.symm.trans hj')
          exact ((hkeeps (hport.trans hlocal)).2).trans (hrelayed hlocal)
        · exact hrelayed hlocal
  exact hset.of_eq hforwards htasks hadded

theorem Resting.closeNext {t u : RemoteServer} (h : Resting localPort t u) (port : UInt16)
    (toRemove : List UInt32) : Resting localPort t (u.closeNext port toRemove) := by
  cases toRemove with
  | nil => exact h.of_eq rfl rfl ⟨[], (List.append_nil _).symm, fun _ => List.not_mem_nil⟩
  | cons connectionId toRemove =>
      refine h.of_eq rfl rfl ⟨[], ?_, fun _ => List.not_mem_nil⟩
      rw [List.append_nil]
      exact added_remove u .mainLoop connectionId

theorem Resting.handling {t u v : RemoteServer} (h : Resting localPort t u)
    {surroundings : Surroundings} {request : ProtocolRequest}
    (hready : u.mainLoop = .receiving)
    (hstarts : ¬ u.Starts localPort (.request request surroundings))
    (hv : Handling u surroundings request v) : Resting localPort t v := by
  have hnothing : ∀ w : RemoteServer, w.added = u.added → ∃ later, w.added = u.added ++ later ∧
      ∀ connectionId, .newConnection connectionId localPort ∉ later :=
    fun w hw => ⟨[], hw.trans (List.append_nil _).symm, fun _ => List.not_mem_nil⟩
  cases hv with
  | answered => exact h.of_eq rfl rfl (hnothing _ rfl)
  | listening port remoteHost remotePort bound =>
      have hport : port ≠ localPort := by
        rintro rfl
        exact hstarts ⟨remoteHost, remotePort, surroundings, rfl, hready, bound⟩
      refine ⟨?_, h.tasks, h.unannounced, h.unrelayed⟩
      intro forward hmem hlocal
      rcases List.mem_append.mp hmem with hmem | hmem
      · exact h.forwards forward hmem hlocal
      · obtain rfl := List.mem_singleton.mp hmem
        exact absurd hlocal hport
  | queued connectionId data i relay sender receiver =>
      obtain ⟨task, found, hstage, _⟩ := receiver_eq_some receiver
      refine h.of_task found rfl rfl (hnothing _ rfl) fun hport => ?_
      have hactive := h.tasks i task found hport
      rw [hstage] at hactive
      refine ⟨hactive, ?_⟩
      simp only [ConnectionTask.relayed, hstage]
  | copied content responseBuffer response =>
      exact h.of_eq rfl rfl ⟨[.clipboardContent content],
        added_add u .mainLoop (.clipboardContent content), by simp⟩
  | closing port => exact h.closeNext port _

theorem Resting.change {t u v : RemoteServer} (h : Resting localPort t u) {e : RemoteEvent}
    (hstarts : ¬ u.Starts localPort e) (hv : Change u e v) : Resting localPort t v := by
  have hnothing : ∀ w : RemoteServer, w.added = u.added → ∃ later, w.added = u.added ++ later ∧
      ∀ connectionId, .newConnection connectionId localPort ∉ later :=
    fun w hw => ⟨[], hw.trans (List.append_nil _).symm, fun _ => List.not_mem_nil⟩
  cases hv with
  | idle => exact h
  | handled request surroundings ready =>
      exact h.handling ready hstarts (handling_handleRequest u surroundings request)
  | polled | sent | failed | broken => exact h.of_eq rfl rfl (hnothing _ rfl)
  | reported port connectionId toRemove =>
      have hadded : Resting localPort t (u.add .mainLoop (.closeConnection connectionId)) :=
        h.of_eq rfl rfl ⟨_, added_add u .mainLoop (.closeConnection connectionId), by simp⟩
      exact hadded.closeNext port toRemove
  | accepted f forward found listening =>
      have hport : forward.localPort ≠ localPort := by
        intro hport
        simp [h.forwards forward (List.mem_of_getElem? found) hport] at listening
      refine ⟨h.forwards, ?_, h.unannounced, ?_⟩
      · intro i task hi hlocal
        rcases getElem?_concat_task hi with hold | ⟨_, rfl⟩
        · exact h.tasks i task hold hlocal
        · exact absurd hlocal hport
      · intro i task hi
        obtain ⟨task', hi', hrest⟩ := h.unrelayed i task hi
        have hlength := (List.getElem?_eq_some_iff.mp hi').1
        exact ⟨task', (List.getElem?_append_left hlength).trans hi', hrest⟩
  | unlistened f =>
      refine ⟨?_, h.tasks, h.unannounced, h.unrelayed⟩
      intro forward hmem hlocal
      obtain ⟨g, hg⟩ := List.getElem?_of_mem hmem
      simp only [acceptFailed, List.getElem?_modify] at hg
      obtain ⟨forward', hforward', rfl⟩ := Option.map_eq_some_iff.mp hg
      by_cases hfg : f = g
      · rw [if_pos hfg]
      · rw [if_neg hfg] at hlocal ⊢
        exact h.forwards forward' (List.mem_of_getElem? hforward') hlocal
  | announced i task found stage =>
      have hport : task.localPort ≠ localPort := by
        intro hport
        have hactive := h.tasks i task found hport
        simp [stage, TaskStage.active] at hactive
      exact h.of_task found rfl rfl ⟨_, added_add u (.task i) _, by simp [hport.symm]⟩
        fun hlocal => absurd hlocal hport
  | connected i task found stage =>
      refine h.of_task found rfl rfl (hnothing _ rfl) fun hport => ?_
      have hactive := h.tasks i task found hport
      simp [stage, TaskStage.active] at hactive
  | turnedAway i task found stage =>
      refine h.of_task found rfl rfl (hnothing _ rfl) fun hport => ?_
      have hactive := h.tasks i task found hport
      simp [stage, TaskStage.active] at hactive
  | entered i task found stage =>
      refine h.of_task found rfl rfl (hnothing _ (added_insert u _ _ i)) fun hport => ?_
      have hactive := h.tasks i task found hport
      simp [stage, TaskStage.active] at hactive
  | gaveUp i task found stage =>
      refine h.of_task found rfl rfl ⟨_, added_add u (.task i) _, by simp⟩ fun _ => ⟨rfl, ?_⟩
      simp only [ConnectionTask.relayed, stage]
  | relayed i task relay event found stage =>
      refine h.of_task found rfl rfl (hnothing _ rfl) fun hport => ?_
      have hactive := h.tasks i task found hport
      rw [stage] at hactive
      rw [Relay.io_of_not_inLoop _ event hactive]
      refine ⟨hactive, ?_⟩
      simp only [ConnectionTask.relayed, stage]
  | buffered i task relay n found stage buffering =>
      refine h.of_task found rfl rfl ⟨_, added_add u (.task i) _, by simp⟩ fun hport => ?_
      have hactive := h.tasks i task found hport
      simp [stage, TaskStage.active, buffering, RelayStage.inLoop] at hactive
  | left i task relay found stage =>
      refine h.of_task found rfl rfl (hnothing _ (added_remove u _ _)) fun _ => ⟨rfl, ?_⟩
      simp only [ConnectionTask.relayed, stage]
  | closed i task relay found stage =>
      refine h.of_task found rfl rfl ⟨_, added_add u (.task i) _, by simp⟩ fun _ => ⟨rfl, ?_⟩
      simp only [ConnectionTask.relayed, stage]

theorem staysStopped_of_not_inOperation {t : RemoteServer} (h : ¬ t.InOperation localPort) :
    StaysStopped localPort t := by
  have start : Resting localPort t t := by
    constructor
    · intro forward hmem hport
      by_contra hlistening
      exact h (.inl ⟨forward, hmem, hport, by simpa using hlistening⟩)
    · intro i task hi hport
      by_contra hactive
      exact h (.inr ⟨task, List.mem_of_getElem? hi, hport, by simpa using hactive⟩)
    · exact ⟨[], (List.append_nil _).symm, fun _ => List.not_mem_nil⟩
    · exact fun i task hi => ⟨task, hi, rfl, fun _ => rfl⟩
  intro es hes past hp
  exact (hes.invariant (I := fun _ u => Resting localPort t u) start
    (fun _ u e hu hstarts => hu.change hstarts (change_step u e)) past hp).stopped

/-! ## A port in operation -/

/-- The task can go on to write more than `n` bytes to its target. -/
def RelaysBeyond (s : RemoteServer) (i n : Nat) : Prop :=
  ∃ (events : List TaskEvent) (task : ConnectionTask),
    (run step s (events.map (.task i))).tasks[i]? = some task ∧ n < task.relayed.2.length

theorem RelaysBeyond.of_step {i n : Nat} (event : TaskEvent)
    (h : (s.step (.task i event)).RelaysBeyond i n) : s.RelaysBeyond i n := by
  obtain ⟨events, task, hi, hlength⟩ := h
  exact ⟨event :: events, task, hi, hlength⟩

theorem step_task {i : Nat} {task : ConnectionTask} (found : s.tasks[i]? = some task)
    (event : TaskEvent) : s.step (.task i event) = s.taskStep i task event := by
  simp only [step, found]

theorem relaysBeyond_written {i n : Nat} {task : ConnectionTask} {relay : Relay}
    (found : s.tasks[i]? = some task) (hrelay : task.stage = .relaying relay)
    (hlength : n < relay.targetStream.length) : s.RelaysBeyond i n := by
  refine ⟨[], task, found, ?_⟩
  simp only [ConnectionTask.relayed, hrelay]
  exact hlength

/-- One completed await, seen from the relay. -/
theorem relaysBeyond_io (event : RelayIO) {i n : Nat} {task : ConnectionTask} {relay : Relay}
    (found : s.tasks[i]? = some task) (hrelay : task.stage = .relaying relay)
    (h : (s.setStage i (.relaying
      (relay.io (s.senderAlive i task.connectionId) event))).RelaysBeyond i n) :
    s.RelaysBeyond i n := by
  refine .of_step (.io event) ?_
  rw [step_task found]
  simpa only [taskStep, hrelay] using h

/-- At the head of its loop the relay reads a byte of the client and writes it. -/
theorem relaysBeyond_selecting {i n : Nat} {task : ConnectionTask} {relay : Relay}
    (found : s.tasks[i]? = some task) (hrelay : task.stage = .relaying relay)
    (hstage : relay.stage = .selecting) (hlength : n ≤ relay.targetStream.length) :
    s.RelaysBeyond i n := by
  apply relaysBeyond_io (.readClient (.ok ⟨[0], by decide⟩)) found hrelay
  refine relaysBeyond_io (.write none) (getElem?_setStage_self found _) rfl ?_
  refine relaysBeyond_written (getElem?_setStage_self (getElem?_setStage_self found _) _) rfl ?_
  have hread : ((relay.clientBuf.fill ⟨[0], by decide⟩).upTo 1).length = 1 :=
    congrArg List.length (RelayBuffer.upTo_fill relay.clientBuf ⟨[0], by decide⟩)
  simp only [Relay.io, hstage, Relay.readFromClient, Relay.writeToTarget, reduceCtorEq, if_false,
    List.length_append]
  exact Nat.lt_of_le_of_lt hlength (Nat.lt_add_of_pos_right (hread ▸ Nat.one_pos))

theorem relaysBeyond_buffering {i n m : Nat} {task : ConnectionTask} {relay : Relay}
    (found : s.tasks[i]? = some task) (hrelay : task.stage = .relaying relay)
    (hstage : relay.stage = .buffering m) (hlength : n ≤ relay.targetStream.length) :
    s.RelaysBeyond i n := by
  refine .of_step .lock ?_
  rw [step_task found]
  simp only [taskStep, hrelay, relayLock, hstage]
  exact relaysBeyond_selecting (getElem?_setStage_self (s := s.add _ _) found _) rfl rfl hlength

/-- A relay in its loop can always write more to its target. -/
theorem relaysBeyond_inLoop {i n : Nat} {task : ConnectionTask} {relay : Relay}
    (found : s.tasks[i]? = some task) (hrelay : task.stage = .relaying relay)
    (hloop : relay.stage.inLoop) (hlength : n ≤ relay.targetStream.length) :
    s.RelaysBeyond i n := by
  cases hstage : relay.stage with
  | selecting => exact relaysBeyond_selecting found hrelay hstage hlength
  | writingToTarget bytes =>
      apply relaysBeyond_io (.write none) found hrelay
      simp only [Relay.io, hstage, Relay.writeToTarget]
      refine relaysBeyond_selecting (getElem?_setStage_self found _) rfl rfl ?_
      rw [List.length_append]
      omega
  | writingToClient m =>
      apply relaysBeyond_io (.write none) found hrelay
      simp only [Relay.io, hstage, Relay.writeToClient]
      exact relaysBeyond_buffering (getElem?_setStage_self found _) rfl rfl hlength
  | buffering m => exact relaysBeyond_buffering found hrelay hstage hlength
  | leaving | closing | ended => simp [hstage, RelayStage.inLoop] at hloop

/-- So can a connection that is still on its way to its relay. -/
theorem relaysBeyond_entering {i : Nat} {task : ConnectionTask} (found : s.tasks[i]? = some task)
    (hstage : task.stage = .entering) (hfree : s.stopping = false) : s.RelaysBeyond i 0 := by
  refine .of_step .lock ?_
  rw [step_task found]
  simp only [taskStep, hstage, hfree]
  exact relaysBeyond_selecting (getElem?_setStage_self (s := s.insert _ _ i) found _) rfl rfl
    (Nat.zero_le _)

theorem relaysBeyond_connecting {i : Nat} {task : ConnectionTask}
    (found : s.tasks[i]? = some task) (hstage : task.stage = .connecting)
    (hfree : s.stopping = false) : s.RelaysBeyond i 0 := by
  refine .of_step (.connected true) ?_
  rw [step_task found]
  simp only [taskStep, hstage]
  exact relaysBeyond_entering (getElem?_setStage_self found _) rfl hfree

/-- Steps of tasks start no forward. -/
theorem not_starts_task (t : RemoteServer) (i : Nat) (events : List TaskEvent) :
    Along step (fun _ u e => ¬ u.Starts localPort e) t (events.map (.task i)) := by
  rintro past e hp ⟨_, _, _, rfl, _⟩
  have hmem := hp.subset (List.mem_append_right past (List.mem_singleton_self _))
  obtain ⟨event, _, heq⟩ := List.mem_map.mp hmem
  cases heq

theorem not_staysStopped_of_relaysBeyond {t : RemoteServer} {i : Nat} {task : ConnectionTask}
    (found : t.tasks[i]? = some task) (hport : task.localPort = localPort)
    (h : t.RelaysBeyond i task.relayed.2.length) : ¬ StaysStopped localPort t := by
  intro hstays
  obtain ⟨events, task', hi, hlength⟩ := h
  have hstopped := (hstays _ (not_starts_task t i events)).last
  have hsame := hstopped.unrelayed i task task' found hi hport
  rw [hsame] at hlength
  exact lt_irrefl _ hlength

/-- A run that announces a connection of the port, and starts no forward. -/
theorem not_staysStopped_of_announces {t : RemoteServer} (es : List RemoteEvent)
    (hstarts : Along step (fun _ u e => ¬ u.Starts localPort e) t es) (connectionId : UInt32)
    (hadded : (run step t es).added =
      t.added ++ [ResponseItem.newConnection connectionId localPort]) :
    ¬ StaysStopped localPort t := by
  intro hstays
  obtain ⟨later, hlater, hsilent⟩ := (hstays es hstarts).last.unannounced
  obtain rfl := List.append_cancel_left (hadded.symm.trans hlater)
  exact hsilent connectionId (List.mem_singleton_self _)

theorem added_announcing {i : Nat} {task : ConnectionTask} (found : s.tasks[i]? = some task)
    (hstage : task.stage = .announcing) : (s.step (.task i .lock)).added =
      s.added ++ [ResponseItem.newConnection task.connectionId task.localPort] := by
  rw [step_task found]
  simp only [taskStep, hstage]
  exact added_add s (.task i) _

theorem not_staysStopped_of_inOperation {t : RemoteServer} (hfree : t.stopping = false)
    (h : t.InOperation localPort) : ¬ StaysStopped localPort t := by
  rcases h with ⟨forward, hmem, hport, hlistening⟩ | ⟨task, hmem, hport, hactive⟩
  · obtain ⟨f, found⟩ := List.getElem?_of_mem hmem
    have haccept : t.step (.accept f) = { t with
        nextConnectionId := t.nextConnectionId + 1
        tasks := t.tasks ++ [⟨t.nextConnectionId, forward.localPort,
          s!"{forward.remoteHost}:{forward.remotePort}", .announcing⟩] } := by
      simp [step, accept, found, hlistening]
    have hnew : (t.step (.accept f)).tasks[t.tasks.length]? = some ⟨t.nextConnectionId,
        forward.localPort, s!"{forward.remoteHost}:{forward.remotePort}", .announcing⟩ := by
      rw [haccept]
      exact List.getElem?_concat_length
    refine not_staysStopped_of_announces [.accept f, .task t.tasks.length .lock] ?_
      t.nextConnectionId ?_
    · refine along_cons.mpr ⟨?_, not_starts_task (t.step (.accept f)) t.tasks.length [.lock]⟩
      rintro ⟨_, _, _, heq, _⟩
      cases heq
    · show ((t.step (.accept f)).step (.task t.tasks.length .lock)).added = _
      rw [added_announcing hnew rfl, haccept, ← hport]
      rfl
  · obtain ⟨i, found⟩ := List.getElem?_of_mem hmem
    cases hstage : task.stage with
    | announcing =>
        apply not_staysStopped_of_announces _ (not_starts_task t i [.lock]) task.connectionId
        rw [← hport]
        exact added_announcing found hstage
    | connecting =>
        apply not_staysStopped_of_relaysBeyond found hport
        simp only [ConnectionTask.relayed, hstage]
        exact relaysBeyond_connecting found hstage hfree
    | entering =>
        apply not_staysStopped_of_relaysBeyond found hport
        simp only [ConnectionTask.relayed, hstage]
        exact relaysBeyond_entering found hstage hfree
    | relaying relay =>
        rw [hstage] at hactive
        apply not_staysStopped_of_relaysBeyond found hport
        simp only [ConnectionTask.relayed, hstage]
        exact relaysBeyond_inLoop found hstage hactive (Nat.le_refl _)
    | refused | ended => simp [hstage, TaskStage.active] at hactive

/-- After the answer to `StopPortForward` the port stays closed, in every run that goes on
from there, exactly if nothing of the port was in operation when the answer was sent. -/
theorem staysStopped_iff (past : List RemoteEvent) (localPort : UInt16)
    (answering : (run step {} past).mainLoop = .sending (.stopPortForward localPort) .success) :
    StaysStopped localPort (run step {} (past ++ [.send none])) ↔
      ¬ (run step {} past).InOperation localPort := by
  have hfits : sendOutcome .success none = .ok () := by
    rw [sendOutcome_eq]
    rfl
  have hsent : run step {} (past ++ [RemoteEvent.send none]) = { run step {} past with
      mainLoop := .receiving
      exchanges := (run step {} past).exchanges ++ [(.stopPortForward localPort, .success)] } := by
    rw [run_append]
    simp [step, sendResponse, answering, hfits]
  rw [hsent]
  constructor
  · exact fun hstays hoperation =>
      absurd hstays (not_staysStopped_of_inOperation rfl hoperation)
  · exact fun hoperation => staysStopped_of_not_inOperation hoperation

/-- A connection was accepted and relayed until its target closed, and another was refused.
Then the listener has failed, and the port is stopped. -/
def listenerFailed : List RemoteEvent :=
  [.request (.startPortForward 8080 "web" 80) {}, .send none,
    .accept 0, .task 0 .lock, .task 0 (.connected true), .task 0 .lock,
    .task 0 (.io (.readTarget (.ok ⟨[], by decide⟩))), .task 0 .lock, .task 0 .lock,
    .accept 0, .task 1 .lock, .task 1 (.connected false), .task 1 .lock,
    .acceptFailed 0, .request (.stopPortForward 8080) {}]

theorem staysStopped_iff_listenerFailed :
    StaysStopped 8080 (run step {} (listenerFailed ++ [.send none])) := by
  apply (staysStopped_iff listenerFailed 8080 rfl).mpr
  have hlistening : ∀ forward ∈ (run step {} listenerFailed).forwards,
      forward.listening = false := by decide
  have hended : ∀ task ∈ (run step {} listenerFailed).tasks, task.stage.active = false := by
    decide
  rintro (⟨forward, hmem, _, hlistens⟩ | ⟨task, hmem, _, hactive⟩)
  · exact absurd hlistens (by simp [hlistening forward hmem])
  · exact absurd hactive (by simp [hended task hmem])

/-- The listener of a stopped port accepts the next connection. -/
theorem staysStopped_accepting_false :
    ¬ ∀ past localPort,
      (run step {} past).mainLoop = .sending (.stopPortForward localPort) .success →
      StaysStopped localPort (run step {} (past ++ [.send none])) := by
  intro h
  have hstays := h [.request (.startPortForward 8080 "web" 80) {}, .send none,
    .request (.stopPortForward 8080) {}] 8080 rfl
  refine not_staysStopped_of_announces [.accept 0, .task 0 .lock] ?_ 1 rfl hstays
  refine along_cons.mpr ⟨?_, not_starts_task _ 0 [.lock]⟩
  rintro ⟨_, _, _, heq, _⟩
  cases heq

end RemoteServer

end Yuha
