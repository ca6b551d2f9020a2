import Yuha.Remote.Announcing
import Yuha.Remote.Forwarding

/-!
# The identifiers of connections

Every accepted connection draws the next number of a counter of 32 bits, which is never
compared with the connections that are still there. The task that was accepted after `i`
others has the identifier `i + 1`, wrapped, so two live connections share one exactly if a
multiple of `2^32` connections was accepted from the one to the other.
-/

namespace Yuha

open Library Library.Execution

/-- In `handle_connection`. -/
def TaskStage.relays : TaskStage → Bool
  | .relaying relay =>
      match relay.stage with
      | .ended => false
      | _ => true
  | _ => false

theorem TaskStage.relays_of_held {stage : TaskStage} (h : stage.held) : stage.relays := by
  cases stage with
  | relaying relay => cases hrelay : relay.stage <;> simp [held, relays, hrelay] at h ⊢
  | _ => simp [held] at h

theorem TaskStage.relays_io {relay : Relay} {senderAlive : Bool} {event : RelayIO}
    (h : TaskStage.relays (.relaying (relay.io senderAlive event))) :
    TaskStage.relays (.relaying relay) := by
  cases hloop : relay.stage.inLoop with
  | false => rwa [Relay.io_of_not_inLoop senderAlive event hloop] at h
  | true => exact relays_of_held (RemoteServer.held_of_inLoop_or_leaving (.inl hloop))

namespace RemoteServer

variable {s t : RemoteServer} {i j : Nat} {e : RemoteEvent}

/-- The connection is in a relay task. -/
def Relays (s : RemoteServer) (i : Nat) : Prop :=
  ∃ task : ConnectionTask, s.tasks[i]? = some task ∧ task.stage.relays

/-- The connection is in a relay task or in the active connections. -/
def Live (s : RemoteServer) (i : Nat) : Prop :=
  ∃ task : ConnectionTask, s.tasks[i]? = some task ∧
    (task.stage.relays ∨ s.activeConnections.lookup task.connectionId = some i)

/-- No two live connections have one identifier. -/
def IdsUnique (s : RemoteServer) : Prop :=
  ∀ (i j : Nat) (task task' : ConnectionTask), s.tasks[i]? = some task →
    s.tasks[j]? = some task' → s.Live i → s.Live j →
    task.connectionId = task'.connectionId → i = j

/-- The step puts the connection into the active connections. -/
def Enters (s : RemoteServer) (e : RemoteEvent) (j : Nat) : Prop :=
  e = .task j .lock ∧ s.stopping = false ∧
    ∃ task : ConnectionTask, s.tasks[j]? = some task ∧ task.stage = .entering

/-- A connection enters only while none is live that was accepted a multiple of `2^32`
connections before or after it. -/
def EntersApart (s : RemoteServer) (e : RemoteEvent) : Prop :=
  ∀ j, s.Enters e j → ∀ i, s.Live i → i ≠ j → i % 2 ^ 32 ≠ j % 2 ^ 32

/-- Identifiers are drawn in the order of the accepts, and an entry leads to a task that
holds it. -/
structure Numbered (s : RemoteServer) : Prop where
  next : s.nextConnectionId = UInt32.ofNat (s.tasks.length + 1)
  ids : ∀ (i : Nat) (task : ConnectionTask), s.tasks[i]? = some task →
    task.connectionId = UInt32.ofNat (i + 1)
  holder : ∀ connectionId i, s.activeConnections.lookup connectionId = some i →
    ∃ task : ConnectionTask, s.tasks[i]? = some task ∧ task.connectionId = connectionId ∧
      task.stage.held

theorem ofNat_succ_eq_iff (i j : Nat) :
    UInt32.ofNat (i + 1) = UInt32.ofNat (j + 1) ↔ i % 2 ^ 32 = j % 2 ^ 32 := by
  rw [← UInt32.toNat_inj, UInt32.toNat_ofNat', UInt32.toNat_ofNat']
  omega

/-! ## What a step does to the identifiers -/

theorem Numbered.of_eq (h : s.Numbered) (htasks : t.tasks = s.tasks)
    (hnext : t.nextConnectionId = s.nextConnectionId)
    (hactive : ∀ id i, t.activeConnections.lookup id = some i →
      s.activeConnections.lookup id = some i) : t.Numbered := by
  refine ⟨by rw [hnext, htasks, h.next], by rw [htasks]; exact h.ids, fun id i hlookup => ?_⟩
  rw [htasks]
  exact h.holder id i (hactive id i hlookup)

theorem Numbered.of_entry (h : s.Numbered) {task : ConnectionTask} {id : UInt32}
    (found : s.tasks[i]? = some task) (hlookup : s.activeConnections.lookup id = some i) :
    task.connectionId = id ∧ task.stage.held := by
  obtain ⟨task', found', hentry⟩ := h.holder id i hlookup
  obtain rfl := Option.some.inj (found.symm.trans found')
  exact hentry

theorem Numbered.of_task (h : s.Numbered) {task : ConnectionTask} {stage : TaskStage}
    (found : s.tasks[i]? = some task) (htasks : t.tasks = (s.setStage i stage).tasks)
    (hnext : t.nextConnectionId = s.nextConnectionId)
    (hactive : ∀ id j, t.activeConnections.lookup id = some j →
      s.activeConnections.lookup id = some j ∨ id = task.connectionId ∧ j = i)
    (hheld : ∀ id, t.activeConnections.lookup id = some i → stage.held) : t.Numbered := by
  have hself : t.tasks[i]? = some { task with stage := stage } := by
    rw [htasks]
    exact getElem?_setStage_self found stage
  have hother : ∀ j, j ≠ i → t.tasks[j]? = s.tasks[j]? := by
    intro j hj
    rw [htasks]
    exact getElem?_setStage_ne hj.symm stage
  refine ⟨?_, fun j task' hj => ?_, fun id j hlookup => ?_⟩
  · rw [hnext, htasks, h.next, setStage, List.length_modify]
  · by_cases hji : j = i
    · subst hji
      obtain rfl := Option.some.inj (hself.symm.trans hj)
      exact h.ids j task found
    · exact h.ids j task' (hother j hji ▸ hj)
  · by_cases hji : j = i
    · subst hji
      refine ⟨_, hself, ?_, hheld id hlookup⟩
      rcases hactive id j hlookup with hold | ⟨rfl, -⟩
      · exact (h.of_entry found hold).1
      · rfl
    · rcases hactive id j hlookup with hold | ⟨-, hnew⟩
      · rw [hother j hji]
        exact h.holder id j hold
      · exact absurd hnew hji

/-- A task that does not hold its entry has none. -/
theorem Numbered.no_entry (h : s.Numbered) {task : ConnectionTask}
    (found : s.tasks[i]? = some task) (hheld : task.stage.held = false) (id : UInt32) :
    s.activeConnections.lookup id ≠ some i := by
  intro hlookup
  have hentry := (h.of_entry found hlookup).2
  rw [hheld] at hentry
  cases hentry

theorem Numbered.live_iff (h : s.Numbered) (i : Nat) : s.Live i ↔ s.Relays i := by
  constructor
  · rintro ⟨task, found, hrelays | hlookup⟩
    · exact ⟨task, found, hrelays⟩
    · exact ⟨task, found, TaskStage.relays_of_held (h.of_entry found hlookup).2⟩
  · rintro ⟨task, found, hrelays⟩
    exact ⟨task, found, .inl hrelays⟩

theorem Numbered.ids_eq_iff (h : s.Numbered) {task task' : ConnectionTask}
    (hi : s.tasks[i]? = some task) (hj : s.tasks[j]? = some task') :
    task.connectionId = task'.connectionId ↔ i % 2 ^ 32 = j % 2 ^ 32 := by
  rw [h.ids i task hi, h.ids j task' hj, ofNat_succ_eq_iff]

theorem Numbered.closeNext (h : s.Numbered) (localPort : UInt16) (toRemove : List UInt32) :
    (s.closeNext localPort toRemove).Numbered := by
  cases toRemove with
  | nil => exact h.of_eq rfl rfl fun _ _ hlookup => hlookup
  | cons connectionId toRemove => exact h.of_eq rfl rfl fun _ _ hlookup => lookup_of_erase hlookup

theorem Numbered.handling (h : s.Numbered) {surroundings : Surroundings}
    {request : ProtocolRequest} (ht : Handling s surroundings request t) : t.Numbered := by
  cases ht with
  | answered | listening | copied => exact h.of_eq rfl rfl fun _ _ hlookup => hlookup
  | queued connectionId data i relay sender receiver =>
      obtain ⟨task, found, hstage, -⟩ := receiver_eq_some receiver
      refine h.of_task found rfl rfl (fun _ _ hlookup => .inl hlookup) fun id hlookup => ?_
      have hheld := (h.of_entry found hlookup).2
      rwa [hstage] at hheld
  | closing localPort => exact h.closeNext localPort _

theorem Numbered.change (h : s.Numbered) (ht : Change s e t) : t.Numbered := by
  have hfree : ∀ {u : RemoteServer} {i : Nat} {task : ConnectionTask} {stage : TaskStage},
      s.tasks[i]? = some task → task.stage.held = false →
      u.tasks = (s.setStage i stage).tasks → u.nextConnectionId = s.nextConnectionId →
      u.activeConnections = s.activeConnections → u.Numbered := by
    intro u i task stage found hheld htasks hnext hactive
    refine h.of_task found htasks hnext (fun _ _ hlookup => .inl (hactive ▸ hlookup)) ?_
    exact fun id hlookup => absurd (hactive ▸ hlookup) (h.no_entry found hheld id)
  cases ht with
  | idle | polled | sent | failed | broken | unlistened =>
      exact h.of_eq rfl rfl fun _ _ hlookup => hlookup
  | handled request surroundings =>
      exact h.handling (handling_handleRequest s surroundings request)
  | reported localPort connectionId toRemove =>
      have hadded : (s.add .mainLoop (.closeConnection connectionId)).Numbered :=
        h.of_eq rfl rfl fun _ _ hlookup => hlookup
      exact hadded.closeNext localPort toRemove
  | accepted f forward found listening =>
      refine ⟨?_, fun i task hi => ?_, fun id i hlookup => ?_⟩
      · rw [List.length_append, List.length_singleton, h.next]
        simp [UInt32.ofNat_add]
      · rcases getElem?_concat_task hi with hold | ⟨hnone, rfl⟩
        · exact h.ids i task hold
        · have hi' : i < s.tasks.length + 1 := by
            simpa using (List.getElem?_eq_some_iff.mp hi).1
          obtain rfl : i = s.tasks.length := by
            have := List.getElem?_eq_none_iff.mp hnone
            omega
          exact h.next
      · obtain ⟨task, found, hid, hheld⟩ := h.holder id i hlookup
        have hlength := (List.getElem?_eq_some_iff.mp found).1
        exact ⟨task, (List.getElem?_append_left hlength).trans found, hid, hheld⟩
  | announced i task found stage | connected i task found stage | turnedAway i task found stage
  | gaveUp i task found stage =>
      exact hfree found (by rw [stage]; rfl) rfl rfl rfl
  | entered i task found stage free =>
      refine h.of_task found rfl rfl (fun id j hlookup => ?_) fun _ _ => rfl
      have hinsert : (AList.insert task.connectionId i s.activeConnections).lookup id =
        some j := hlookup
      rw [HashMap.lookup_insert_ite] at hinsert
      split at hinsert
      · exact .inr ⟨‹_›, (Option.some.inj hinsert).symm⟩
      · exact .inl hinsert
  | relayed i task relay event found stage =>
      refine h.of_task found rfl rfl (fun _ _ hlookup => .inl hlookup) fun id hlookup => ?_
      rw [held_of_io, ← stage]
      exact (h.of_entry found hlookup).2
  | buffered i task relay n found stage buffering =>
      exact h.of_task found rfl rfl (fun _ _ hlookup => .inl hlookup) fun _ _ => rfl
  | left i task relay found stage leaving =>
      refine h.of_task found rfl rfl (fun _ _ hlookup => .inl (lookup_of_erase hlookup)) ?_
      intro id hlookup
      have hid := (h.of_entry found (lookup_of_erase hlookup)).1
      have herase : (AList.erase task.connectionId s.activeConnections).lookup id = some i :=
        hlookup
      rw [HashMap.lookup_erase_ite, if_pos hid.symm] at herase
      cases herase
  | closed i task relay found stage closing =>
      exact hfree found (by rw [stage]; simp [TaskStage.held, closing]) rfl rfl rfl

/-! ## Which connections are live -/

theorem Relays.of_setStage {task : ConnectionTask} {stage : TaskStage}
    (h : (s.setStage j stage).Relays i) (found : s.tasks[j]? = some task)
    (hstage : stage.relays → task.stage.relays) : s.Relays i := by
  obtain ⟨task', found', hrelays⟩ := h
  by_cases hij : i = j
  · subst hij
    obtain rfl := Option.some.inj ((getElem?_setStage_self found stage).symm.trans found')
    exact ⟨task, found, hstage hrelays⟩
  · exact ⟨task', (getElem?_setStage_ne (Ne.symm hij) stage).symm.trans found', hrelays⟩

/-- Only the step that puts a connection into the map starts its relay. -/
theorem relays_of_change (ht : Change s e t) (h : t.Relays i) : s.Relays i ∨ s.Enters e i := by
  have hquiet : ∀ {u : RemoteServer} {j : Nat} {task : ConnectionTask} {stage : TaskStage},
      s.tasks[j]? = some task → u.Relays i → u.tasks = (s.setStage j stage).tasks →
      (stage.relays → task.stage.relays) → s.Relays i := by
    intro u j task stage found ⟨task', found', hrelays⟩ htasks hstage
    exact Relays.of_setStage ⟨task', htasks ▸ found', hrelays⟩ found hstage
  cases ht with
  | idle | polled | sent | failed | broken | unlistened => exact .inl h
  | handled request surroundings =>
      refine .inl ?_
      generalize hanswer : s.handleRequest surroundings request = u at h
      have hu := handling_handleRequest s surroundings request
      rw [hanswer] at hu
      cases hu with
      | answered | listening | copied => exact h
      | queued connectionId data j relay sender receiver =>
          obtain ⟨task, found, hstage, -⟩ := receiver_eq_some receiver
          exact hquiet found h rfl (by rw [hstage]; exact id)
      | closing localPort =>
          have htasks : (s.stopPortForward localPort surroundings.order).tasks = s.tasks := by
            unfold stopPortForward closeNext
            split <;> rfl
          obtain ⟨task, found, hrelays⟩ := h
          exact ⟨task, htasks ▸ found, hrelays⟩
  | reported localPort connectionId toRemove =>
      obtain ⟨task, found, hrelays⟩ := h
      cases toRemove <;> exact .inl ⟨task, found, hrelays⟩
  | accepted f forward found listening =>
      obtain ⟨task, hi, hrelays⟩ := h
      rcases getElem?_concat_task hi with hold | ⟨-, rfl⟩
      · exact .inl ⟨task, hold, hrelays⟩
      · cases hrelays
  | announced j task found | connected j task found | turnedAway j task found
  | gaveUp j task found => exact .inl (hquiet found h rfl fun hstage => by cases hstage)
  | entered j task found stage free =>
      by_cases hij : i = j
      · subst hij
        exact .inr ⟨rfl, free, task, found, stage⟩
      · obtain ⟨task', found', hrelays⟩ := h
        refine .inl ⟨task', ?_, hrelays⟩
        exact (getElem?_setStage_ne (s := s.insert _ _ j) (Ne.symm hij) _).symm.trans found'
  | relayed j task relay event found stage =>
      exact .inl (hquiet found h rfl fun hrelays => stage ▸ TaskStage.relays_io hrelays)
  | buffered j task relay n found stage buffering =>
      exact .inl (hquiet found h rfl fun _ => by rw [stage]; simp [TaskStage.relays, buffering])
  | left j task relay found stage leaving =>
      exact .inl (hquiet found h rfl fun _ => by rw [stage]; simp [TaskStage.relays, leaving])
  | closed j task relay found stage closing =>
      exact .inl (hquiet found h rfl fun _ => by rw [stage]; simp [TaskStage.relays, closing])

/-- A connection that enters is live, as are those that were. -/
theorem Enters.step (h : s.Enters e j) :
    (s.step e).Relays j ∧ ∀ i, s.Relays i → i ≠ j → (s.step e).Relays i := by
  obtain ⟨rfl, free, task, found, stage⟩ := h
  have hstep : s.step (.task j .lock) =
      (s.insert (.task j) task.connectionId j).setStage j (.relaying {}) := by
    simp [RemoteServer.step, found, taskStep, stage, free]
  rw [hstep]
  refine ⟨⟨_, getElem?_setStage_self (s := s.insert _ _ j) found _, rfl⟩, ?_⟩
  rintro i ⟨task', found', hrelays⟩ hij
  exact ⟨task', (getElem?_setStage_ne (s := s.insert _ _ j) hij.symm _).trans found', hrelays⟩

theorem Numbered.step (h : s.Numbered) (e : RemoteEvent) : (s.step e).Numbered :=
  h.change (change_step s e)

/-- Distinct identifiers among the live, in terms of the order of the accepts. -/
theorem Numbered.idsUnique_iff (h : s.Numbered) :
    s.IdsUnique ↔ ∀ i j, s.Relays i → s.Relays j → i % 2 ^ 32 = j % 2 ^ 32 → i = j := by
  constructor
  · intro hunique i j hi hj hmod
    obtain ⟨task, found, -⟩ := id hi
    obtain ⟨task', found', -⟩ := id hj
    exact hunique i j task task' found found' ((h.live_iff i).mpr hi) ((h.live_iff j).mpr hj)
      ((h.ids_eq_iff found found').mpr hmod)
  · intro hunique i j task task' found found' hi hj hids
    exact hunique i j ((h.live_iff i).mp hi) ((h.live_iff j).mp hj)
      ((h.ids_eq_iff found found').mp hids)

theorem IdsUnique.step (h : s.Numbered) (hunique : s.IdsUnique) (hapart : s.EntersApart e) :
    (s.step e).IdsUnique := by
  rw [(h.step e).idsUnique_iff]
  rw [h.idsUnique_iff] at hunique
  -- A pair of the new state is a pair of the old one unless one of the two enters.
  intro i j hi hj hmod
  rcases relays_of_change (change_step s e) hi with hi | hi
  · rcases relays_of_change (change_step s e) hj with hj | hj
    · exact hunique i j hi hj hmod
    · by_contra hij
      exact hapart j hj i ((h.live_iff i).mpr hi) hij hmod
  · rcases relays_of_change (change_step s e) hj with hj | hj
    · by_contra hij
      exact hapart i hi j ((h.live_iff j).mpr hj) (Ne.symm hij) hmod.symm
    · cases hi.1.symm.trans hj.1
      rfl

theorem not_idsUnique_step (h : s.Numbered) (hapart : ¬ s.EntersApart e) :
    ¬ (s.step e).IdsUnique := by
  rw [(h.step e).idsUnique_iff]
  simp only [EntersApart, not_forall, not_not] at hapart
  obtain ⟨j, hj, i, hi, hij, hmod⟩ := hapart
  obtain ⟨hself, hothers⟩ := hj.step
  exact fun hunique => hij (hunique i j (hothers i ((h.live_iff i).mp hi) hij) hself hmod)

theorem numbered_init : Numbered {} := by
  refine ⟨rfl, fun i task hi => ?_, fun id i hlookup => ?_⟩
  · simp at hi
  · simp at hlookup

/-- In a run of any length no two live connections have one identifier in any state,
exactly if every connection enters apart. -/
theorem idsUnique_iff_entersApart (es : List RemoteEvent) :
    Always step IdsUnique {} es ↔ Along step (fun _ s e => s.EntersApart e) {} es := by
  refine always_iff_along (A := fun _ _ _ => True) (I := fun _ s => s.Numbered ∧ s.IdsUnique)
    (fun _ _ _ => trivial) ⟨numbered_init, ?_⟩ (fun _ _ h => h.2) ?_ ?_
  · intro i j task task' hi
    simp at hi
  · exact fun _ s e ⟨h, hunique⟩ _ hapart => ⟨h.step e, hunique.step h hapart⟩
  · exact fun _ s e ⟨h, _⟩ _ hapart => not_idsUnique_step h hapart

theorem numbered_run (es : List RemoteEvent) : (run step {} es).Numbered := by
  induction es using List.reverseRecOn with
  | nil => exact numbered_init
  | append_singleton es e ih =>
      rw [run_append]
      exact ih.step e

/-- No identifier is drawn twice before `2^32` connections were accepted. -/
theorem idsUnique_of_length {es : List RemoteEvent}
    (few : (run step {} es).tasks.length ≤ 2 ^ 32) : (run step {} es).IdsUnique := by
  rw [(numbered_run es).idsUnique_iff]
  intro i j ⟨task, found, _⟩ ⟨task', found', _⟩ hmod
  have hi := (List.getElem?_eq_some_iff.mp found).1
  have hj := (List.getElem?_eq_some_iff.mp found').1
  rwa [Nat.mod_eq_of_lt (hi.trans_le few), Nat.mod_eq_of_lt (hj.trans_le few)] at hmod

/-! ## A run that draws an identifier twice -/

/-- A connection of the first forward is accepted and announced, and the target accepts it
or turns it away. -/
def dial (i : Nat) (accepted : Bool) : List RemoteEvent :=
  [.accept 0, .task i .lock, .task i (.connected accepted), .task i .lock]

/-- The first connection stays, and so many others come and go. -/
def visits (n : Nat) : List RemoteEvent :=
  [.request (.startPortForward 8080 "web" 80) {}, .send none] ++ dial 0 true ++
    (List.range n).flatMap fun k => dial (k + 1) false

/-- The first of some connections is relayed, and the first forward accepts more. -/
structure Crowd (s : RemoteServer) (n : Nat) : Prop where
  length : s.tasks.length = n + 1
  first : s.Relays 0
  listening : ∃ forward : PortForward, s.forwards[0]? = some forward ∧ forward.listening = true
  free : s.stopping = false

def At (s : RemoteServer) (i : Nat) (stage : TaskStage) : Prop :=
  ∃ task : ConnectionTask, s.tasks[i]? = some task ∧ task.stage = stage

/-- A later task goes on to another stage. -/
theorem Crowd.turn {n : Nat} (h : s.Crowd n) (hi : i ≠ 0) {task : ConnectionTask}
    (found : s.tasks[i]? = some task) {event : TaskEvent} {u : RemoteServer} {stage : TaskStage}
    (hstep : s.taskStep i task event = u.setStage i stage) (htasks : u.tasks = s.tasks)
    (hforwards : u.forwards = s.forwards) (hmain : u.mainLoop = s.mainLoop) :
    (s.step (.task i event)).Crowd n ∧ (s.step (.task i event)).At i stage := by
  have heq : s.step (.task i event) = u.setStage i stage := by
    simpa only [RemoteServer.step, found] using hstep
  rw [heq]
  refine ⟨⟨?_, ?_, hforwards ▸ h.listening, ?_⟩, _,
    getElem?_setStage_self (htasks ▸ found) stage, rfl⟩
  · rw [setStage, List.length_modify, htasks, h.length]
  · obtain ⟨task', found', hrelays⟩ := h.first
    refine ⟨task', ?_, hrelays⟩
    rw [getElem?_setStage_ne hi, htasks]
    exact found'
  · simpa only [stopping, setStage, hmain] using h.free

theorem Crowd.accept {n : Nat} (h : s.Crowd n) :
    (s.step (.accept 0)).Crowd (n + 1) ∧ (s.step (.accept 0)).At (n + 1) .announcing := by
  obtain ⟨forward, hforward, hlistening⟩ := h.listening
  simp only [RemoteServer.step, RemoteServer.accept, hforward, hlistening, if_true]
  obtain ⟨task, found, hrelays⟩ := h.first
  refine ⟨⟨?_, ⟨task, ?_, hrelays⟩, ⟨forward, hforward, hlistening⟩, h.free⟩, ?_⟩
  · simp [h.length]
  · exact (List.getElem?_append_left (List.getElem?_eq_some_iff.mp found).1).trans found
  · rw [← h.length]
    exact ⟨_, List.getElem?_concat_length, rfl⟩

theorem Crowd.announce {n : Nat} (h : s.Crowd n) (hi : i ≠ 0) (hat : s.At i .announcing) :
    (s.step (.task i .lock)).Crowd n ∧ (s.step (.task i .lock)).At i .connecting := by
  obtain ⟨task, found, hstage⟩ := hat
  have hstep : s.taskStep i task .lock = (s.add (.task i)
      (.newConnection task.connectionId task.localPort)).setStage i .connecting := by
    simp only [taskStep, hstage]
  exact h.turn hi found hstep rfl rfl rfl

theorem Crowd.connect {n : Nat} (h : s.Crowd n) (hi : i ≠ 0) (hat : s.At i .connecting)
    (accepted : Bool) : (s.step (.task i (.connected accepted))).Crowd n ∧
      (s.step (.task i (.connected accepted))).At i (if accepted then .entering else .refused) := by
  obtain ⟨task, found, hstage⟩ := hat
  have hstep : s.taskStep i task (.connected accepted) =
      s.setStage i (if accepted then .entering else .refused) := by
    cases accepted <;> simp only [taskStep, hstage] <;> rfl
  exact h.turn hi found hstep rfl rfl rfl

theorem Crowd.enter {n : Nat} (h : s.Crowd n) (hi : i ≠ 0) (hat : s.At i .entering) :
    (s.step (.task i .lock)).Crowd n ∧ (s.step (.task i .lock)).At i (.relaying {}) := by
  obtain ⟨task, found, hstage⟩ := hat
  have hstep : s.taskStep i task .lock =
      (s.insert (.task i) task.connectionId i).setStage i (.relaying {}) := by
    simp only [taskStep, hstage, h.free, Bool.false_eq_true, if_false]
  exact h.turn hi found hstep rfl rfl rfl

theorem Crowd.giveUp {n : Nat} (h : s.Crowd n) (hi : i ≠ 0) (hat : s.At i .refused) :
    (s.step (.task i .lock)).Crowd n := by
  obtain ⟨task, found, hstage⟩ := hat
  have hstep : s.taskStep i task .lock =
      (s.add (.task i) (.closeConnection task.connectionId)).setStage i .ended := by
    simp only [taskStep, hstage]
  exact (h.turn hi found hstep rfl rfl rfl).1

theorem Crowd.dial_false {n : Nat} (h : s.Crowd n) :
    (run step s (dial (n + 1) false)).Crowd (n + 1) := by
  have hn : n + 1 ≠ 0 := Nat.succ_ne_zero n
  obtain ⟨haccepted, hat⟩ := h.accept
  obtain ⟨hannounced, hat⟩ := haccepted.announce hn hat
  obtain ⟨hrefused, hat⟩ := hannounced.connect hn hat false
  exact hrefused.giveUp hn hat

theorem Crowd.dial_true {n : Nat} (h : s.Crowd n) :
    (run step s (dial (n + 1) true)).Crowd (n + 1) ∧
      (run step s (dial (n + 1) true)).At (n + 1) (.relaying {}) := by
  have hn : n + 1 ≠ 0 := Nat.succ_ne_zero n
  obtain ⟨haccepted, hat⟩ := h.accept
  obtain ⟨hannounced, hat⟩ := haccepted.announce hn hat
  obtain ⟨hconnected, hat⟩ := hannounced.connect hn hat true
  exact hconnected.enter hn hat

theorem crowd_visits (n : Nat) : (run step {} (visits n)).Crowd n := by
  induction n with
  | zero => exact ⟨rfl, ⟨_, rfl, rfl⟩, ⟨_, rfl, rfl⟩, rfl⟩
  | succ n ih =>
      have hvisits : visits (n + 1) = visits n ++ RemoteServer.dial (n + 1) false := by
        simp [visits, List.range_succ]
      rw [hvisits, run_append]
      exact ih.dial_false

/-- The first connection stays while `2^32 - 1` others come and go. The one after them draws
its identifier again. -/
theorem idsUnique_visits_false : ¬ ∀ es, Always step IdsUnique {} es := by
  intro h
  let es := visits (2 ^ 32 - 1) ++ dial (2 ^ 32) true
  have hunique : (run step {} es).IdsUnique := (h es).last
  rw [(numbered_run es).idsUnique_iff] at hunique
  obtain ⟨hcrowd, task, found, hstage⟩ := (crowd_visits (2 ^ 32 - 1)).dial_true
  have hrun : run step {} es = run step (run step {} (visits (2 ^ 32 - 1)))
      (dial (2 ^ 32 - 1 + 1) true) := run_append ..
  have heq : 0 = 2 ^ 32 := by
    refine hunique 0 (2 ^ 32) ?_ ?_ (by norm_num)
    · rw [hrun]
      exact hcrowd.first
    · rw [hrun]
      exact ⟨task, found, by rw [hstage]; rfl⟩
  exact absurd heq (by norm_num)

end RemoteServer

end Yuha
