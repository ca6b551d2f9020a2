import Yuha.Remote.ConnectionIds

/-!
# What stopping a forward stops

`stop_port_forward` holds the lock of the active connections until it has reported the last
one, so that nothing else changes the map meanwhile. The map does not say on which port a
connection was accepted, and every one of them is removed. A connection of the port that
has not entered the map yet is not removed.
-/

namespace Yuha

open Library Library.Execution

/-- Accepted, and not in the active connections yet. -/
def TaskStage.onItsWay : TaskStage → Bool
  | .announcing | .connecting | .entering => true
  | .refused | .relaying _ | .ended => false

theorem TaskStage.onItsWay_of_held {stage : TaskStage} (h : stage.held) :
    stage.onItsWay = false := by
  cases stage with
  | relaying relay => rfl
  | announcing | connecting | entering | refused | ended => simp [held] at h

namespace RemoteServer

variable {s : RemoteServer}

/-- What the main loop does for each connection it closes. -/
def closeDeeds (connectionId : UInt32) : List Action :=
  [.remove connectionId, .add (.closeConnection connectionId)]

/-- The connection of this task was accepted on the port and is not closed: it is on its way
into the active connections, or it is one of them. -/
def AcceptedOn (s : RemoteServer) (localPort : UInt16) (connection : (_ : UInt32) × Nat) : Prop :=
  ∃ task : ConnectionTask, s.tasks[connection.2]? = some task ∧
    task.connectionId = connection.1 ∧ task.localPort = localPort ∧
    (task.stage.onItsWay = true ∨
      s.activeConnections.lookup connection.1 = some connection.2)

/-- From `s` to `t` the main loop has removed and reported exactly the connections accepted
on this port, each once, and the others still have their sender in the map. -/
def StopsExactly (localPort : UInt16) (s t : RemoteServer) : Prop :=
  ∃ stopped : List ((_ : UInt32) × Nat), stopped.Nodup ∧
    t.deeds .mainLoop =
      s.deeds .mainLoop ++ stopped.flatMap (fun connection => closeDeeds connection.1) ∧
    (∀ connection, connection ∈ stopped ↔ s.AcceptedOn localPort connection) ∧
    (∀ connection ∈ stopped, t.activeConnections.lookup connection.1 = none) ∧
    ∀ connectionId i, s.activeConnections.lookup connectionId = some i →
      ⟨connectionId, i⟩ ∉ stopped → t.activeConnections.lookup connectionId = some i

/-- All active connections were accepted on this port, and none accepted on it is on its way
into them. -/
def HoldsOnly (localPort : UInt16) (s : RemoteServer) : Prop :=
  (∀ connectionId i, s.activeConnections.lookup connectionId = some i →
      ∀ task, s.tasks[i]? = some task → task.localPort = localPort) ∧
    ∀ task ∈ s.tasks, task.localPort = localPort → task.stage.onItsWay = false

/-! ## The loop -/

/-- The connections of `stopped` are removed and reported, the others untouched. -/
structure Reported (s : RemoteServer) (stopped : List UInt32) (t : RemoteServer) : Prop where
  deeds : t.deeds .mainLoop = s.deeds .mainLoop ++ stopped.flatMap closeDeeds
  active : ∀ connectionId, t.activeConnections.lookup connectionId =
    if connectionId ∈ stopped then none else s.activeConnections.lookup connectionId

/-- The loop over the connections `ids` has come to some point. -/
inductive Closing (s : RemoteServer) (localPort : UInt16) (ids : List UInt32)
    (t : RemoteServer) : Prop
  | removed (done : List UInt32) (connectionId : UInt32) (toRemove : List UInt32)
      (split : ids = done ++ connectionId :: toRemove)
      (mainLoop : t.mainLoop = .stopping localPort connectionId toRemove)
      (deeds : t.deeds .mainLoop =
        s.deeds .mainLoop ++ done.flatMap closeDeeds ++ [.remove connectionId])
      (active : ∀ id, t.activeConnections.lookup id =
        if id ∈ done ++ [connectionId] then none else s.activeConnections.lookup id)
  | done (free : t.stopping = false) (reported : Reported s ids t)

theorem Reported.closeNext {t : RemoteServer} {done : List UInt32} (h : Reported s done t)
    (localPort : UInt16) (toRemove : List UInt32) :
    Closing s localPort (done ++ toRemove) (t.closeNext localPort toRemove) := by
  cases toRemove with
  | nil =>
      rw [List.append_nil]
      exact .done rfl ⟨h.deeds, h.active⟩
  | cons connectionId toRemove =>
      refine .removed done connectionId toRemove rfl rfl ?_ fun id => ?_
      · have hremove := t.deeds_remove .mainLoop .mainLoop connectionId
        rw [if_pos rfl, h.deeds] at hremove
        exact hremove
      · show (AList.erase connectionId t.activeConnections).lookup id = _
        rw [HashMap.lookup_erase_ite, h.active id]
        by_cases hid : id = connectionId <;> simp [hid]

/-- While the main loop holds the lock, only its own next turn removes anything. -/
theorem stopping_change {t : RemoteServer} {e : RemoteEvent} {localPort : UInt16}
    {connectionId : UInt32} {toRemove : List UInt32}
    (hs : s.mainLoop = .stopping localPort connectionId toRemove) (ht : Change s e t) :
    t = (s.add .mainLoop (.closeConnection connectionId)).closeNext localPort toRemove ∨
      (t.mainLoop = s.mainLoop ∧ t.activeConnections = s.activeConnections ∧
        t.deeds .mainLoop = s.deeds .mainLoop) := by
  have hstopping : s.stopping = true := by simp [stopping, hs]
  have hadd : ∀ i item stage, ((s.add (.task i) item).setStage i stage).deeds .mainLoop =
      s.deeds .mainLoop := by
    intro i item stage
    exact (s.deeds_add (.task i) .mainLoop item).trans (by simp)
  cases ht with
  | idle | accepted | unlistened | connected | turnedAway | relayed => exact .inr ⟨rfl, rfl, rfl⟩
  | handled _ _ ready => simp [hs] at ready
  | polled waiting => simp [hs] at waiting
  | reported localPort' connectionId' toRemove' stopping =>
      rw [hs, MainLoop.stopping.injEq] at stopping
      obtain ⟨rfl, rfl, rfl⟩ := stopping
      exact .inl rfl
  | sent _ _ _ sending => simp [hs] at sending
  | failed _ ready => simp [hs] at ready
  | broken _ _ _ _ sending => simp [hs] at sending
  | entered _ _ _ _ free => simp [hstopping] at free
  | left _ _ _ _ _ _ free => simp [hstopping] at free
  | announced | gaveUp | buffered | closed => exact .inr ⟨rfl, rfl, hadd _ _ _⟩

theorem Closing.change {t u : RemoteServer} {localPort : UInt16} {ids : List UInt32}
    (h : Closing s localPort ids t) (hbusy : t.stopping = true) {e : RemoteEvent}
    (hu : Change t e u) : Closing s localPort ids u := by
  cases h with
  | done free => simp [free] at hbusy
  | removed done connectionId toRemove split mainLoop deeds active =>
      rcases stopping_change mainLoop hu with rfl | ⟨hmain, hactive, hdeeds⟩
      · have hadd := t.deeds_add .mainLoop .mainLoop (.closeConnection connectionId)
        have hreported : Reported s (done ++ [connectionId])
            (t.add .mainLoop (.closeConnection connectionId)) := by
          refine ⟨?_, active⟩
          rw [hadd, deeds]
          simp [closeDeeds]
        have hnext := hreported.closeNext localPort toRemove
        rwa [List.append_assoc, List.singleton_append, ← split] at hnext
      · exact .removed done connectionId toRemove split (hmain.trans mainLoop)
          (hdeeds.trans deeds) fun id => hactive ▸ active id

/-- What a completed `StopPortForward` did: it removed and reported every connection. -/
theorem reported_stop (ready : s.mainLoop = .receiving) (localPort : UInt16)
    (surroundings : Surroundings) {es : List RemoteEvent}
    (busy : Along step (fun _ t _ => t.stopping = true)
      (s.step (.request (.stopPortForward localPort) surroundings)) es)
    (free : (run step (s.step (.request (.stopPortForward localPort) surroundings)) es).stopping =
      false) :
    Reported s ((s.activeConnections.listing surroundings.order).map Sigma.fst)
      (run step (s.step (.request (.stopPortForward localPort) surroundings)) es) := by
  have hstep : s.step (.request (.stopPortForward localPort) surroundings) =
      s.closeNext localPort ((s.activeConnections.listing surroundings.order).map Sigma.fst) := by
    simp [step, ready, handleRequest, stopPortForward]
  have hstart : Reported s [] s := ⟨by simp, by simp⟩
  have hclosing := busy.invariant (I := fun _ t => Closing s localPort _ t)
    (hstep ▸ hstart.closeNext localPort _) (fun _ t e h hbusy => h.change hbusy (change_step t e))
    es (List.prefix_refl es)
  cases hclosing with
  | removed _ _ _ _ mainLoop => simp [stopping, mainLoop] at free
  | done _ reported => exact reported

theorem flatMap_closeDeeds_injective {ids ids' : List UInt32}
    (h : ids.flatMap closeDeeds = ids'.flatMap closeDeeds) : ids = ids' := by
  induction ids generalizing ids' with
  | nil =>
      cases ids' with
      | nil => rfl
      | cons connectionId ids' => simp [closeDeeds] at h
  | cons connectionId ids ih =>
      cases ids' with
      | nil => simp [closeDeeds] at h
      | cons connectionId' ids' =>
          simp only [List.flatMap_cons, closeDeeds, List.cons_append, List.nil_append,
            List.cons.injEq, Action.remove.injEq] at h
          rw [h.1, ih h.2.2]

variable {t : RemoteServer} {localPort : UInt16} {connections : List ((_ : UInt32) × Nat)}

/-- What was reported is what the map held, so only that can have been stopped. -/
theorem StopsExactly.holdsOnly (hs : s.Numbered)
    (hconnections : ∀ connectionId i, ⟨connectionId, i⟩ ∈ connections ↔
      s.activeConnections.lookup connectionId = some i)
    (hnodup : (connections.map Sigma.fst).Nodup)
    (hreported : Reported s (connections.map Sigma.fst) t) (h : StopsExactly localPort s t) :
    HoldsOnly localPort s := by
  obtain ⟨stopped, _, hdeeds, hstopped, _, hkept⟩ := h
  have hall : ∀ connectionId i, s.activeConnections.lookup connectionId = some i →
      ⟨connectionId, i⟩ ∈ stopped := by
    intro connectionId i hlookup
    by_contra hnot
    have hmem := (hconnections connectionId i).mpr hlookup
    have hgone := hreported.active connectionId
    rw [if_pos (List.mem_map_of_mem hmem), hkept connectionId i hlookup hnot] at hgone
    cases hgone
  have hsame : connections.map Sigma.fst = stopped.map Sigma.fst := by
    apply flatMap_closeDeeds_injective
    rw [hreported.deeds, List.append_right_inj] at hdeeds
    rw [hdeeds, List.flatMap_map]
  constructor
  · intro connectionId i hlookup task htask
    obtain ⟨task', htask', _, hport, _⟩ := (hstopped _).mp (hall connectionId i hlookup)
    obtain rfl := Option.some.inj (htask.symm.trans htask')
    exact hport
  · intro task hmem hport
    by_contra hway
    obtain ⟨i, htask⟩ := List.getElem?_of_mem hmem
    have haccepted : (⟨task.connectionId, i⟩ : (_ : UInt32) × Nat) ∈ stopped :=
      (hstopped _).mpr ⟨task, htask, rfl, hport, .inl (by simpa using hway)⟩
    -- It was reported, so another connection is in the map under its identifier.
    obtain ⟨⟨connectionId, j⟩, hother, rfl⟩ :=
      List.mem_map.mp (hsame ▸ List.mem_map_of_mem haccepted)
    have hlookup := (hconnections _ j).mp hother
    have hone := List.inj_on_of_nodup_map (hsame ▸ hnodup) haccepted (hall _ j hlookup) rfl
    obtain ⟨task', htask', _, hheld⟩ := hs.holder _ j hlookup
    obtain rfl : i = j := by simpa using hone
    obtain rfl := Option.some.inj (htask.symm.trans htask')
    exact hway (TaskStage.onItsWay_of_held hheld)

theorem HoldsOnly.stopsExactly (hs : s.Numbered)
    (hconnections : ∀ connectionId i, ⟨connectionId, i⟩ ∈ connections ↔
      s.activeConnections.lookup connectionId = some i)
    (hnodup : (connections.map Sigma.fst).Nodup)
    (hreported : Reported s (connections.map Sigma.fst) t) (h : HoldsOnly localPort s) :
    StopsExactly localPort s t := by
  refine ⟨connections, hnodup.of_map, ?_, ?_, ?_, ?_⟩
  · rw [hreported.deeds, List.flatMap_map]
  · rintro ⟨connectionId, i⟩
    rw [hconnections]
    constructor
    · intro hlookup
      obtain ⟨task, htask, hid, _⟩ := hs.holder connectionId i hlookup
      exact ⟨task, htask, hid, h.1 connectionId i hlookup task htask, .inr hlookup⟩
    · rintro ⟨task, htask, _, hport, hway | hlookup⟩
      · exact absurd (h.2 task (List.mem_of_getElem? htask) hport) (by simp [hway])
      · exact hlookup
  · intro connection hmem
    rw [hreported.active, if_pos (List.mem_map_of_mem hmem)]
  · intro connectionId i hlookup hnot
    exact absurd ((hconnections connectionId i).mpr hlookup) hnot

/-- A `StopPortForward` that runs to its end, among any steps of the tasks, stops exactly
the connections of its port when the map holds all of these and no other. -/
theorem stopsExactly_iff (past : List RemoteEvent)
    (ready : (run step {} past).mainLoop = .receiving) (localPort : UInt16)
    (surroundings : Surroundings) {es : List RemoteEvent}
    (busy : Along step (fun _ t _ => t.stopping = true)
      ((run step {} past).step (.request (.stopPortForward localPort) surroundings)) es)
    (free : (run step ((run step {} past).step
      (.request (.stopPortForward localPort) surroundings)) es).stopping = false) :
    StopsExactly localPort (run step {} past) (run step ((run step {} past).step
        (.request (.stopPortForward localPort) surroundings)) es) ↔
      HoldsOnly localPort (run step {} past) := by
  have hnumbered := numbered_run past
  have hreported := reported_stop ready localPort surroundings busy free
  have hnodup := (run step {} past).nodup_listing_keys surroundings.order
  have hconnections : ∀ connectionId i, ⟨connectionId, i⟩ ∈
      (run step {} past).activeConnections.listing surroundings.order ↔
        (run step {} past).activeConnections.lookup connectionId = some i :=
    fun connectionId i => HashMap.mem_listing surroundings.order _ connectionId i
  constructor
  · exact fun h => h.holdsOnly hnumbered hconnections hnodup hreported
  · exact fun h => h.stopsExactly hnumbered hconnections hnodup hreported

/-- Besides, one connection of the other port was refused by its target, and one is on its
way. -/
def forwardingBoth : List RemoteEvent :=
  forwarding ++ [.accept 0, .task 1 .lock, .task 1 (.connected false), .task 1 .lock, .accept 0]

/-- Stopping the port of the active connection stops exactly that connection. -/
theorem stopsExactly_iff_forwarding :
    StopsExactly 9090 (run step {} forwardingBoth) (run step ((run step {} forwardingBoth).step
      (.request (.stopPortForward 9090) {})) [.mainTurn]) := by
  apply (stopsExactly_iff forwardingBoth rfl 9090 {} (along_cons.mpr ⟨rfl, along_nil⟩) rfl).mpr
  constructor
  · intro connectionId i hlookup task htask
    have hmem : ⟨connectionId, i⟩ ∈ (run step {} forwardingBoth).activeConnections.entries :=
      AList.mem_lookup_iff.mp hlookup
    have hentries : (run step {} forwardingBoth).activeConnections.entries = [⟨1, 0⟩] := rfl
    rw [hentries, List.mem_singleton] at hmem
    cases hmem
    cases htask
    rfl
  · decide

/-- Stopping the other port removes the same connection. -/
theorem stopsExactly_otherPort_false :
    ¬ ∀ past localPort surroundings es,
      (run step {} past).mainLoop = .receiving →
      Along step (fun _ t _ => t.stopping = true)
        ((run step {} past).step (.request (.stopPortForward localPort) surroundings)) es →
      (run step ((run step {} past).step
        (.request (.stopPortForward localPort) surroundings)) es).stopping = false →
      StopsExactly localPort (run step {} past) (run step ((run step {} past).step
        (.request (.stopPortForward localPort) surroundings)) es) := by
  intro h
  obtain ⟨stopped, _, _, hstopped, _, hkept⟩ :=
    h forwarding 8080 {} [.mainTurn] rfl (along_cons.mpr ⟨rfl, along_nil⟩) rfl
  have hnot : (⟨1, 0⟩ : (_ : UInt32) × Nat) ∉ stopped := by
    intro hmem
    obtain ⟨task, htask, _, hport, _⟩ := (hstopped ⟨1, 0⟩).mp hmem
    cases htask
    exact absurd hport (by decide)
  exact absurd (hkept 1 0 rfl hnot) (by decide)

end RemoteServer

end Yuha
