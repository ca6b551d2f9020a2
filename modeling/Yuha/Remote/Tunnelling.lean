import Yuha.Remote.ConnectionIds
import Yuha.Remote.LongPolling

/-!
# A forwarded connection from end to end

What the target sends passes the relay, the response buffer and a response before the
client has it; what the client sends passes a request, the channel of the connection and the
relay. Each way is followed through all of them, next to every other connection and request.
-/

namespace Yuha

open Library Library.Execution

/-- The block an item carries for a connection. -/
def ResponseItem.block? (connectionId : UInt32) : ResponseItem → Option Bytes
  | .portForwardData id data => if id = connectionId then some data else none
  | _ => none

/-- The blocks of some items for a connection, in order. -/
def blocksFor (connectionId : UInt32) (items : List ResponseItem) : List Bytes :=
  items.filterMap (ResponseItem.block? connectionId)

/-- The block for a connection that a request carries and its answer acknowledges. -/
def acknowledgedBlock? (connectionId : UInt32) :
    ProtocolRequest × ProtocolResponse → Option Bytes
  | (.portForwardData id data, .success) => if id = connectionId then some data else none
  | _ => none

/-- The block for a connection that the answer about to be sent acknowledges. -/
def MainLoop.acknowledging (connectionId : UInt32) : MainLoop → List Bytes
  | .sending request response => (acknowledgedBlock? connectionId (request, response)).toList
  | _ => []

namespace Relay

variable {relay : Relay} {data : List Bytes}

/-- Whatever failed, the sinks have a beginning of what the sources delivered. -/
structure Sound (relay : Relay) (data : List Bytes) : Prop where
  target : ∃ merged, OrderedMerge relay.clientReads relay.received merged ∧
    relay.targetStream <+: merged.flatten
  client : relay.clientStream <+: relay.targetReads.flatten
  buffer : data <+: relay.targetReads

theorem Faithful.sound (h : relay.Faithful data) : relay.Sound data := by
  obtain ⟨⟨merged, hmerge, htarget⟩, hclient, hbuffer⟩ := h
  refine ⟨⟨_, hmerge, ?_⟩, ?_, ?_⟩
  · rw [htarget, List.flatten_append]
    exact List.prefix_append _ _
  · rw [← hclient]
    exact List.prefix_append _ _
  · rw [← hbuffer]
    exact List.prefix_append _ _

/-- A write that fails gets some of its bytes through. -/
theorem Faithful.sound_write_failed (h : relay.Faithful data) (senderAlive : Bool) (n : Nat) :
    (relay.io senderAlive (.write (some n))).Sound data := by
  obtain ⟨⟨merged, hmerge, htarget⟩, hclient, hbuffer⟩ := id h
  cases hstage : relay.stage with
  | writingToTarget bytes =>
      simp only [toTarget, toClient, hstage, List.flatten_nil, List.append_nil] at hmerge hclient
      simp only [Relay.io, hstage, Relay.writeToTarget, Relay.leave]
      refine ⟨⟨_, hmerge, ?_⟩, hclient ▸ List.prefix_refl _, ?_⟩
      · simp only [htarget, List.flatten_append, List.flatten_singleton]
        exact List.prefix_append_right_inj _ |>.mpr (List.take_prefix n bytes)
      · exact hbuffer ▸ List.prefix_append _ _
  | writingToClient m =>
      simp only [toTarget, toClient, hstage, List.append_nil, List.flatten_singleton]
        at hmerge hclient
      simp only [Relay.io, hstage, Relay.writeToClient, Relay.leave]
      refine ⟨⟨_, hmerge, htarget ▸ List.prefix_refl _⟩, ?_, hbuffer ▸ List.prefix_append _ _⟩
      rw [← hclient]
      exact List.prefix_append_right_inj _ |>.mpr (List.take_prefix _ _)
  | _ =>
      simp only [Relay.io, hstage]
      exact h.sound

/-- No completed await loses soundness. -/
theorem Sound.io (h : relay.Sound data) (hfaithful : relay.stage.inLoop → relay.Faithful data)
    (senderAlive : Bool) (event : RelayIO) : (relay.io senderAlive event).Sound data := by
  cases hloop : relay.stage.inLoop with
  | false => rwa [io_of_not_inLoop senderAlive event hloop]
  | true =>
      by_cases hwrite : ∃ n, event = .write (some n)
      · obtain ⟨n, rfl⟩ := hwrite
        exact (hfaithful hloop).sound_write_failed senderAlive n
      · exact ((hfaithful hloop).io senderAlive fun n heq => hwrite ⟨n, heq⟩).sound

end Relay

namespace RemoteServer

variable {s t : RemoteServer} {i : Nat} {task : ConnectionTask} {relay : Relay}

/-! ## What the task of a connection has added -/

theorem data?_cleanup (connectionId : UInt32) (stage : RelayStage) :
    (stage.cleanup connectionId).filterMap (Action.data? connectionId) = [] := by
  cases stage <;> rfl

theorem Telling.faithful (h : s.Telling) (found : s.tasks[i]? = some task)
    (hrelay : task.stage = .relaying relay) (hloop : relay.stage.inLoop) :
    relay.Faithful (s.dataAdded i task.connectionId) := by
  have htale := h.tale i task found
  simp only [ConnectionTask.Tale, hrelay] at htale
  obtain ⟨data, hdeeds, hfaithful⟩ := htale
  have hadded : s.dataAdded i task.connectionId = data := by
    rw [dataAdded, hdeeds, List.filterMap_append, List.filterMap_append, data?_blocks,
      data?_cleanup, List.append_nil]
    rfl
  exact hadded ▸ hfaithful hloop

theorem dataAdded_setStage (s : RemoteServer) (j : Nat) (stage : TaskStage) (i : Nat)
    (connectionId : UInt32) :
    (s.setStage j stage).dataAdded i connectionId = s.dataAdded i connectionId := rfl

/-- A further deed of a task may add a further block. -/
theorem dataAdded_of_deed {action : Action}
    (h : t.deeds (.task i) = s.deeds (.task i) ++ [action]) (connectionId : UInt32) :
    t.dataAdded i connectionId =
      s.dataAdded i connectionId ++ (action.data? connectionId).toList := by
  rw [dataAdded, h, List.filterMap_append, dataAdded]
  cases haction : action.data? connectionId <;> simp [haction]

/-- Every relay is sound. -/
def Sounding (s : RemoteServer) : Prop :=
  ∀ i (task : ConnectionTask) relay, s.tasks[i]? = some task → task.stage = .relaying relay →
    relay.Sound (s.dataAdded i task.connectionId)

theorem Sounding.of_eq (h : s.Sounding) (htasks : t.tasks = s.tasks)
    (hdeeds : ∀ i, t.deeds (.task i) = s.deeds (.task i)) : t.Sounding := by
  intro i task relay found hrelay
  rw [dataAdded, hdeeds]
  exact h i task relay (htasks ▸ found) hrelay

theorem Sounding.of_task (h : s.Sounding) {stage : TaskStage} (found : s.tasks[i]? = some task)
    (htasks : t.tasks = (s.setStage i stage).tasks)
    (hothers : ∀ j, j ≠ i → t.deeds (.task j) = s.deeds (.task j))
    (hsound : ∀ relay, stage = .relaying relay →
      relay.Sound (t.dataAdded i task.connectionId)) : t.Sounding := by
  intro j task' relay found' hrelay
  rw [htasks, getElem?_setStage] at found'
  by_cases hij : i = j
  · subst hij
    rw [found] at found'
    simp only [Option.map_some, if_true, Option.some.injEq] at found'
    subst found'
    exact hsound relay hrelay
  · simp only [hij, if_false, Option.map_id'] at found'
    rw [dataAdded, hothers j (Ne.symm hij)]
    exact h j task' relay found' hrelay

theorem Sounding.closeNext (h : s.Sounding) (localPort : UInt16) (toRemove : List UInt32) :
    (s.closeNext localPort toRemove).Sounding := by
  cases toRemove with
  | nil => exact h.of_eq rfl fun _ => rfl
  | cons connectionId toRemove =>
      exact h.of_eq rfl fun i => (s.deeds_remove .mainLoop (.task i) connectionId).trans (by simp)

theorem Sounding.handling (h : s.Sounding) {surroundings : Surroundings}
    {request : ProtocolRequest} (ht : Handling s surroundings request t) : t.Sounding := by
  cases ht with
  | answered | listening => exact h.of_eq rfl fun _ => rfl
  | queued connectionId data i relay sender receiver =>
      obtain ⟨task, found, hstage, _⟩ := receiver_eq_some receiver
      refine h.of_task found rfl (fun _ _ => rfl) fun relay' hrelay' => ?_
      obtain rfl := TaskStage.relaying.inj hrelay'
      obtain ⟨htarget, hclient, hbuffer⟩ := h i task relay found hstage
      exact ⟨htarget, hclient, hbuffer⟩
  | copied content =>
      refine h.of_eq rfl fun i => ?_
      exact (s.deeds_add .mainLoop (.task i) (.clipboardContent content)).trans (by simp)
  | closing localPort => exact h.closeNext localPort _

theorem Sounding.change (h : s.Sounding) (htelling : s.Telling) {e : RemoteEvent}
    (ht : Change s e t) : t.Sounding := by
  cases ht with
  | idle => exact h
  | handled request surroundings ready =>
      exact h.handling (handling_handleRequest s surroundings request)
  | polled | sent | failed | broken | unlistened => exact h.of_eq rfl fun _ => rfl
  | reported localPort connectionId toRemove =>
      have hadded : (s.add .mainLoop (.closeConnection connectionId)).Sounding :=
        h.of_eq rfl fun i => (deeds_add ..).trans (by simp)
      exact hadded.closeNext localPort toRemove
  | accepted f forward found listening =>
      intro i task relay found' hrelay
      rcases getElem?_concat_task found' with hold | ⟨_, rfl⟩
      · exact h i task relay hold hrelay
      · cases hrelay
  | announced i task found | gaveUp i task found =>
      refine h.of_task found rfl (fun j hj => ?_) fun relay hrelay => by cases hrelay
      exact (deeds_add ..).trans (by simp [hj.symm])
  | connected i task found | turnedAway i task found =>
      exact h.of_task found rfl (fun _ _ => rfl) fun relay hrelay => by cases hrelay
  | entered i task found stage free =>
      refine h.of_task found rfl (fun j hj => ?_) fun relay hrelay => ?_
      · exact (deeds_insert _ _ _ _ i).trans (by simp [hj.symm])
      · obtain rfl := TaskStage.relaying.inj hrelay
        have htale := htelling.tale i task found
        simp only [ConnectionTask.Tale, stage] at htale
        have hnone : s.dataAdded i task.connectionId = [] := by
          rw [dataAdded, htale]
          rfl
        rw [dataAdded_setStage, dataAdded_of_deed ((deeds_insert ..).trans (by rw [if_pos rfl])),
          hnone]
        exact Relay.faithful_new.sound
  | relayed i task relay event found stage =>
      refine h.of_task found rfl (fun _ _ => rfl) fun relay' hrelay' => ?_
      obtain rfl := TaskStage.relaying.inj hrelay'
      exact (h i task relay found stage).io (htelling.faithful found stage) _ event
  | buffered i task relay n found stage buffering =>
      refine h.of_task found rfl (fun j hj => ?_) fun relay' hrelay' => ?_
      · exact (deeds_add ..).trans (by simp [hj.symm])
      · obtain rfl := TaskStage.relaying.inj hrelay'
        have hloop : relay.stage.inLoop := by simp [buffering, RelayStage.inLoop]
        rw [dataAdded_setStage, dataAdded_of_deed ((deeds_add ..).trans (by rw [if_pos rfl])),
          Action.data?, if_pos rfl]
        exact ((htelling.faithful found stage hloop).buffered buffering).sound
  | left i task relay found stage leaving free =>
      refine h.of_task found rfl (fun j hj => ?_) fun relay' hrelay' => ?_
      · exact (deeds_remove ..).trans (by simp [hj.symm])
      · obtain rfl := TaskStage.relaying.inj hrelay'
        rw [dataAdded_setStage, dataAdded_of_deed ((deeds_remove ..).trans (by rw [if_pos rfl]))]
        obtain ⟨htarget, hclient, hbuffer⟩ := h i task relay found stage
        exact ⟨htarget, hclient, (List.append_nil _).symm ▸ hbuffer⟩
  | closed i task relay found stage closing =>
      refine h.of_task found rfl (fun j hj => ?_) fun relay' hrelay' => ?_
      · exact (deeds_add ..).trans (by simp [hj.symm])
      · obtain rfl := TaskStage.relaying.inj hrelay'
        rw [dataAdded_setStage, dataAdded_of_deed ((deeds_add ..).trans (by rw [if_pos rfl]))]
        obtain ⟨htarget, hclient, hbuffer⟩ := h i task relay found stage
        exact ⟨htarget, hclient, (List.append_nil _).symm ▸ hbuffer⟩

theorem telling_sounding_run (es : List RemoteEvent) :
    (run step {} es).Telling ∧ (run step {} es).Sounding := by
  refine ⟨(always_telling es).last, ?_⟩
  induction es using List.reverseRecOn with
  | nil => exact fun i task relay found => by cases found
  | append_singleton es e ih =>
      rw [run_append]
      exact ih.change (always_telling es).last (change_step _ e)

/-! ## Whose blocks the items are -/

/-- Only the tasks of connections add blocks. -/
def BlocksOfTasks (s : RemoteServer) : Prop :=
  ∀ deed ∈ s.log, ∀ connectionId data, deed.action.data? connectionId = some data →
    ∃ i, deed.author = .task i

theorem BlocksOfTasks.append (h : s.BlocksOfTasks) {deed : Deed}
    (hdeed : ∀ connectionId data, deed.action.data? connectionId = some data →
      ∃ i, deed.author = .task i) (hlog : t.log = s.log ++ [deed]) : t.BlocksOfTasks := by
  intro deed' hmem
  rw [hlog] at hmem
  rcases List.mem_append.mp hmem with hmem | hmem
  · exact h deed' hmem
  · obtain rfl := List.mem_singleton.mp hmem
    exact hdeed

theorem BlocksOfTasks.closeNext (h : s.BlocksOfTasks) (localPort : UInt16)
    (toRemove : List UInt32) : (s.closeNext localPort toRemove).BlocksOfTasks := by
  cases toRemove with
  | nil => exact h
  | cons connectionId toRemove => exact h.append (fun _ _ hdata => by cases hdata) rfl

theorem BlocksOfTasks.change (h : s.BlocksOfTasks) {e : RemoteEvent} (ht : Change s e t) :
    t.BlocksOfTasks := by
  cases ht with
  | handled request surroundings ready =>
      have hhandling := s.handling_handleRequest surroundings request
      generalize s.handleRequest surroundings request = t at hhandling ⊢
      cases hhandling with
      | answered | listening | queued => exact h
      | copied content => exact h.append (fun _ _ hdata => by cases hdata) rfl
      | closing localPort => exact h.closeNext localPort _
  | idle | polled | sent | failed | broken | accepted | unlistened | connected | turnedAway
  | relayed => exact h
  | reported localPort connectionId toRemove =>
      have hadded : (s.add .mainLoop (.closeConnection connectionId)).BlocksOfTasks :=
        h.append (fun _ _ hdata => by cases hdata) rfl
      exact hadded.closeNext localPort toRemove
  | announced i | gaveUp i | buffered i | closed i | entered i | left i =>
      exact h.append (fun _ _ _ => ⟨i, rfl⟩) rfl

theorem blocksOfTasks_run (es : List RemoteEvent) : (run step {} es).BlocksOfTasks := by
  induction es using List.reverseRecOn with
  | nil => exact fun deed hmem => absurd hmem List.not_mem_nil
  | append_singleton es e ih =>
      rw [run_append]
      exact ih.change (change_step _ e)

/-- A task adds blocks for its own connection only. -/
theorem Telling.own_block (h : s.Telling) {connectionId : UInt32} {data : Bytes}
    {action : Action} (hmem : action ∈ s.deeds (.task i))
    (hdata : action.data? connectionId = some data) :
    ∃ task : ConnectionTask, s.tasks[i]? = some task ∧ task.connectionId = connectionId := by
  cases found : s.tasks[i]? with
  | none =>
      rw [h.silent i found] at hmem
      cases hmem
  | some task =>
      refine ⟨task, rfl, ?_⟩
      have hblock : action = .block connectionId data := by
        unfold Action.data? at hdata
        split at hdata
        · split at hdata
          · simp_all [Action.block]
          · cases hdata
        · cases hdata
      subst hblock
      have htale := h.tale i task found
      unfold ConnectionTask.Tale at htale
      cases hstage : task.stage with
      | relaying relay =>
          simp only [hstage] at htale
          obtain ⟨blocks, hdeeds, -⟩ := htale
          rw [hdeeds] at hmem
          cases hrelay : relay.stage <;>
            simp_all [Action.block, RelayStage.cleanup]
      | _ => simp_all [Action.block]

/-- The items that were added for a connection are those its own task added. -/
theorem blocksFor_added (h : s.Telling) (hblocks : s.BlocksOfTasks)
    (hunique : ∀ j (task' : ConnectionTask), s.tasks[j]? = some task' →
      task'.connectionId = task.connectionId → j = i) :
    blocksFor task.connectionId s.added = s.dataAdded i task.connectionId := by
  have hown : ∀ deed ∈ s.log, deed.action.data? task.connectionId ≠ none →
      deed.author = .task i := by
    intro deed hmem hdata
    obtain ⟨data, hdata⟩ := Option.ne_none_iff_exists'.mp hdata
    obtain ⟨j, hauthor⟩ := hblocks deed hmem _ _ hdata
    have hdeed : deed.action ∈ s.deeds (.task j) :=
      List.mem_map_of_mem (List.mem_filter.mpr ⟨hmem, decide_eq_true hauthor⟩)
    obtain ⟨task', found', hid⟩ := h.own_block hdeed hdata
    rw [hauthor, hunique j task' found' hid]
  simp only [blocksFor, added, dataAdded, deeds, List.filterMap_filterMap, List.filterMap_map,
    List.filterMap_filter]
  apply List.filterMap_congr
  intro deed hmem
  have hitem : (deed.action.item?.bind fun item => item.block? task.connectionId) =
      deed.action.data? task.connectionId := by
    cases haction : deed.action with
    | add item => cases item <;> rfl
    | _ => rfl
  rw [hitem, Function.comp_apply]
  by_cases hauthor : deed.author = .task i
  · rw [decide_eq_true hauthor, if_pos rfl]
  · rw [decide_eq_false hauthor, if_neg Bool.false_ne_true]
    exact by_contra fun hsome => hauthor (hown deed hmem hsome)

/-! ## What the client sends -/

theorem acknowledging_of_request {mainLoop : MainLoop} (h : ∀ connectionId data,
    mainLoop.request ≠ some (.portForwardData connectionId data)) (connectionId : UInt32) :
    mainLoop.acknowledging connectionId = [] := by
  cases mainLoop with
  | sending request response =>
      cases request with
      | portForwardData id data => exact absurd rfl (h id data)
      | _ => rfl
  | _ => rfl

/-- The blocks for a connection whose requests were answered `Success`, in order, with the
one whose answer is about to be sent. -/
def acknowledged (s : RemoteServer) (connectionId : UInt32) : List Bytes :=
  s.exchanges.filterMap (acknowledgedBlock? connectionId) ++
    s.mainLoop.acknowledging connectionId

theorem acknowledged_of_quiet (hexchanges : t.exchanges = s.exchanges)
    (hbefore : ∀ connectionId data,
      s.mainLoop.request ≠ some (.portForwardData connectionId data))
    (hafter : ∀ connectionId data,
      t.mainLoop.request ≠ some (.portForwardData connectionId data)) (connectionId : UInt32) :
    t.acknowledged connectionId = s.acknowledged connectionId := by
  rw [acknowledged, acknowledged, hexchanges, acknowledging_of_request hbefore,
    acknowledging_of_request hafter]

theorem running_of_change {e : RemoteEvent} (ht : Change s e t)
    (running : ∀ error, t.mainLoop ≠ .ended error) (error : YuhaError) :
    s.mainLoop ≠ .ended error := by
  cases ht with
  | handled request surroundings ready => simp [ready]
  | polled waiting => simp [waiting]
  | reported localPort connectionId toRemove stopping => simp [stopping]
  | sent failure request response sending | broken failure request response error sending =>
      simp [sending]
  | failed error ready => simp [ready]
  | idle | accepted | unlistened | announced | connected | turnedAway | entered | gaveUp
  | relayed | buffered | left | closed => exact running error

/-- A step that handles no block acknowledges none. -/
theorem acknowledged_change {e : RemoteEvent} (ht : Change s e t)
    (running : ∀ error, t.mainLoop ≠ .ended error)
    (hblock : ∀ connectionId data surroundings,
      e ≠ .request (.portForwardData connectionId data) surroundings)
    (connectionId : UInt32) : t.acknowledged connectionId = s.acknowledged connectionId := by
  cases ht with
  | handled request surroundings ready =>
      have hmain := (handleRequest_keeps ready surroundings request).1
      refine acknowledged_of_quiet (exchanges_handleRequest s surroundings request) ?_ ?_ _
      · simp [ready, MainLoop.request]
      · rw [hmain]
        rintro id data heq
        exact hblock id data surroundings (by rw [Option.some.inj heq])
  | polled waiting =>
      have hexchanges : (s.takeItems .pollData).exchanges = s.exchanges := rfl
      refine acknowledged_of_quiet hexchanges ?_ ?_ _
      · simp [waiting, MainLoop.request]
      · simp [takeItems, respond, MainLoop.request]
  | reported localPort id toRemove stopping =>
      obtain ⟨-, -, hmain⟩ := closeNext_keeps
        (s.add .mainLoop (.closeConnection id)) localPort toRemove
      refine acknowledged_of_quiet (by cases toRemove <;> rfl) ?_ ?_ _
      · simp [stopping, MainLoop.request]
      · simp [hmain]
  | sent failure request response sending =>
      simp only [acknowledged, sending, MainLoop.acknowledging, List.filterMap_append,
        List.append_nil, List.filterMap_cons, List.filterMap_nil]
      cases acknowledgedBlock? connectionId (request, response) <;> rfl
  | failed error | broken _ _ _ error => exact absurd rfl (running _)
  | idle | accepted | unlistened | announced | connected | turnedAway | entered | gaveUp
  | relayed | buffered | left | closed => rfl

theorem keeps_change (h : s.Named) {e : RemoteEvent} (ht : Change s e t)
    (hblock : ∀ connectionId data surroundings,
      e ≠ .request (.portForwardData connectionId data) surroundings) :
    KeepsTasks s t ∧ ∀ i, t.blocksOf i = s.blocksOf i := by
  by_cases hrequest : ∃ request surroundings, e = .request request surroundings
  · obtain ⟨request, surroundings, rfl⟩ := hrequest
    cases ht with
    | idle => exact ⟨.of_eq rfl, fun _ => rfl⟩
    | handled _ _ ready =>
        exact (handling_other h (s.handling_handleRequest surroundings request)
          fun id data heq => hblock id data surroundings (by rw [heq])).2
  · exact (change_server h ht fun request surroundings heq =>
      hrequest ⟨request, surroundings, heq⟩).2

/-- A connection that is in the map was there before, or nothing was sent to it yet. -/
theorem lookup_of_change {e : RemoteEvent} (ht : Change s e t) {connectionId : UInt32}
    (h : t.activeConnections.lookup connectionId = some i) :
    s.activeConnections.lookup connectionId = some i ∨ s.blocksOf i = [] := by
  cases ht with
  | handled request surroundings ready =>
      have hhandling := s.handling_handleRequest surroundings request
      generalize s.handleRequest surroundings request = t at hhandling h
      cases hhandling with
      | answered | listening | queued | copied => exact .inl h
      | closing localPort => exact .inl ((keepsTasks_closeNext s localPort _).2.1 _ _ h)
  | reported localPort id toRemove =>
      exact .inl ((keepsTasks_closeNext (s.add .mainLoop (.closeConnection id)) localPort
        toRemove).2.1 _ _ h)
  | entered j task found stage free =>
      have hinsert : (AList.insert task.connectionId j s.activeConnections).lookup connectionId =
          some i := h
      rw [HashMap.lookup_insert_ite] at hinsert
      split at hinsert
      · obtain rfl := Option.some.inj hinsert
        right
        rw [blocksOf_eq found, stage]
        rfl
      · exact .inl hinsert
  | left j task => exact .inl (lookup_of_erase h)
  | idle | polled | sent | failed | broken | accepted | unlistened | announced | connected
  | turnedAway | gaveUp | relayed | buffered | closed => exact .inl h

/-- The blocks on the channel of a connection are one stretch of the acknowledged ones, and
the last of them while the connection is in the map. -/
structure Conveying (s : RemoteServer) : Prop where
  stretch : ∀ i (task : ConnectionTask), s.tasks[i]? = some task →
    s.blocksOf i <:+: s.acknowledged task.connectionId
  latest : ∀ connectionId i, s.activeConnections.lookup connectionId = some i →
    s.blocksOf i <:+ s.acknowledged connectionId

theorem Numbered.named (h : s.Numbered) : s.Named := by
  intro connectionId i hlookup
  obtain ⟨task, found, hid, -⟩ := h.holder connectionId i hlookup
  exact ⟨task, found, hid⟩

/-- A task that is found after a step was there before, or nothing was sent to it. -/
theorem Conveying.of_keeps (h : s.Conveying) (hkeeps : KeepsTasks s t)
    (hblocks : t.blocksOf i = s.blocksOf i)
    (hacknowledged : ∀ connectionId, s.acknowledged connectionId <+: t.acknowledged connectionId)
    (found : t.tasks[i]? = some task) :
    t.blocksOf i <:+: t.acknowledged task.connectionId := by
  rw [hblocks]
  cases hbefore : s.tasks[i]? with
  | none =>
      have hnone : s.blocksOf i = [] := by simp only [blocksOf, hbefore]
      rw [hnone]
      exact List.nil_infix
  | some before =>
      obtain ⟨task', found', hid⟩ := hkeeps i before hbefore
      obtain rfl := Option.some.inj (found'.symm.trans found)
      rw [hid]
      exact (h.stretch i before hbefore).trans (hacknowledged _).isInfix

theorem Conveying.other (h : s.Conveying) (hnumbered : s.Numbered) {e : RemoteEvent}
    (ht : Change s e t) (running : ∀ error, t.mainLoop ≠ .ended error)
    (hblock : ∀ connectionId data surroundings,
      e ≠ .request (.portForwardData connectionId data) surroundings) : t.Conveying := by
  have hacknowledged := acknowledged_change ht running hblock
  obtain ⟨hkeeps, hblocks⟩ := keeps_change hnumbered.named ht hblock
  constructor
  · exact fun i task found => h.of_keeps hkeeps (hblocks i)
      (fun id => hacknowledged id ▸ List.prefix_refl _) found
  · intro connectionId i hlookup
    rw [hblocks, hacknowledged]
    rcases lookup_of_change ht hlookup with hbefore | hnone
    · exact h.latest connectionId i hbefore
    · rw [hnone]
      exact List.nil_suffix

theorem acknowledged_of_receiving (ready : s.mainLoop = .receiving) (connectionId : UInt32) :
    s.acknowledged connectionId = s.exchanges.filterMap (acknowledgedBlock? connectionId) := by
  rw [acknowledged, ready]
  exact List.append_nil _

theorem acknowledged_respond (ready : s.mainLoop = .receiving)
    (hexchanges : t.exchanges = s.exchanges) (request : ProtocolRequest)
    (response : ProtocolResponse) (connectionId : UInt32) :
    (t.respond request response).acknowledged connectionId =
      s.acknowledged connectionId ++
        (acknowledgedBlock? connectionId (request, response)).toList := by
  rw [acknowledged_of_receiving ready, ← hexchanges]
  rfl

theorem acknowledged_prefix_respond (ready : s.mainLoop = .receiving)
    (hexchanges : t.exchanges = s.exchanges) (request : ProtocolRequest)
    (response : ProtocolResponse) (connectionId : UInt32) :
    s.acknowledged connectionId <+: (t.respond request response).acknowledged connectionId := by
  rw [acknowledged_respond ready hexchanges]
  exact List.prefix_append _ _

/-- What is acknowledged of one connection is not of another. -/
theorem acknowledged_respond_of_ne (ready : s.mainLoop = .receiving)
    (hexchanges : t.exchanges = s.exchanges) {connectionId id : UInt32} (h : connectionId ≠ id)
    (data : Bytes) (response : ProtocolResponse) :
    (t.respond (.portForwardData connectionId data) response).acknowledged id =
      s.acknowledged id := by
  have hnone : acknowledgedBlock? id (.portForwardData connectionId data, response) = none := by
    cases response with
    | success => exact if_neg h
    | _ => rfl
  rw [acknowledged_respond ready hexchanges, hnone]
  exact List.append_nil _

/-- A block that is refused is acknowledged at most, and on no channel. -/
theorem Conveying.refused (h : s.Conveying) (ready : s.mainLoop = .receiving)
    {connectionId : UInt32} {data : Bytes} {response : ProtocolResponse}
    (hlatest : ∀ i, s.activeConnections.lookup connectionId = some i →
      acknowledgedBlock? connectionId (.portForwardData connectionId data, response) = none) :
    (s.respond (.portForwardData connectionId data) response).Conveying := by
  constructor
  · exact fun i task found =>
      h.of_keeps (.of_eq rfl) rfl (acknowledged_prefix_respond ready rfl _ _) found
  · intro id i hlookup
    by_cases hid : connectionId = id
    · subst hid
      rw [acknowledged_respond ready rfl, hlatest i hlookup, Option.toList_none, List.append_nil]
      exact h.latest connectionId i hlookup
    · rw [acknowledged_respond_of_ne ready rfl hid]
      exact h.latest id i hlookup

/-- The channel of the connection gets the block, and every other one stays as it is. -/
theorem blocksOf_queued {relay : Relay} (found : s.tasks[i]? = some task)
    (hstage : task.stage = .relaying relay) (data : Bytes) (j : Nat) :
    (s.setStage i (.relaying { relay with dataRx := relay.dataRx ++ [data] })).blocksOf j =
      if i = j then s.blocksOf i ++ [data] else s.blocksOf j := by
  rw [blocksOf_setStage found, blocksOf_eq found, hstage]
  simp [TaskStage.blocks]

/-- A block that is put on a channel is acknowledged. -/
theorem Conveying.queued (h : s.Conveying) (hnumbered : s.Numbered)
    (ready : s.mainLoop = .receiving) (found : s.tasks[i]? = some task)
    (hlookup : s.activeConnections.lookup task.connectionId = some i) {relay : Relay}
    (hstage : task.stage = .relaying relay) (data : Bytes) :
    ((s.setStage i (.relaying { relay with dataRx := relay.dataRx ++ [data] })).respond
      (.portForwardData task.connectionId data) .success).Conveying := by
  have hblocks := blocksOf_queued found hstage data
  generalize hqueued : s.setStage i (.relaying { relay with
    dataRx := relay.dataRx ++ [data] }) = u at hblocks ⊢
  have hexchanges : u.exchanges = s.exchanges := by rw [← hqueued]; rfl
  have hactive : u.activeConnections = s.activeConnections := by rw [← hqueued]; rfl
  have hkeeps : KeepsTasks s u := .of_setStage (by rw [← hqueued])
  have hown : u.blocksOf i <:+ (u.respond (.portForwardData task.connectionId data)
      .success).acknowledged task.connectionId := by
    have hsome : acknowledgedBlock? task.connectionId
        (.portForwardData task.connectionId data, .success) = some data := if_pos rfl
    rw [acknowledged_respond ready hexchanges, hsome, hblocks, if_pos rfl]
    exact List.suffix_append_self_iff.mpr (h.latest task.connectionId i hlookup)
  constructor
  · intro j task' found'
    by_cases hij : i = j
    · subst hij
      obtain ⟨task'', found'', hsame⟩ := hkeeps i task found
      obtain rfl := Option.some.inj (found''.symm.trans found')
      exact hsame ▸ hown.isInfix
    · exact h.of_keeps hkeeps ((hblocks j).trans (if_neg hij))
        (acknowledged_prefix_respond ready hexchanges _ _) found'
  · intro id j hlookup'
    have hbefore : s.activeConnections.lookup id = some j := hactive ▸ hlookup'
    by_cases hid : task.connectionId = id
    · subst hid
      obtain rfl := Option.some.inj (hlookup.symm.trans hbefore)
      exact hown
    · have hij : i ≠ j := by
        rintro rfl
        exact hid (hnumbered.of_entry found hbefore).1
      have hkept := (hblocks j).trans (if_neg hij)
      rw [acknowledged_respond_of_ne ready hexchanges hid]
      exact hkept ▸ h.latest id j hbefore

/-- A block that is handled is acknowledged, and put on the channel of its connection if
that is in the map, or it is refused. -/
theorem Conveying.forwardData (h : s.Conveying) (hnumbered : s.Numbered)
    (ready : s.mainLoop = .receiving) (connectionId : UInt32) (data : Bytes) :
    (s.forwardData connectionId data).Conveying := by
  rcases s.forwardData_cases connectionId data with
    ⟨hnone, heq⟩ | ⟨e, heq, -⟩ | ⟨i, relay, hlookup, hreceiver, heq⟩
  · rw [heq]
    exact h.refused ready fun i hlookup => nomatch hnone.symm.trans hlookup
  · rw [heq]
    exact h.refused ready fun _ _ => rfl
  · obtain ⟨task, found, hstage, -⟩ := receiver_eq_some hreceiver
    obtain rfl : task.connectionId = connectionId := (hnumbered.of_entry found hlookup).1
    rw [heq]
    exact h.queued hnumbered ready found hlookup hstage data

theorem Conveying.change (h : s.Conveying) (hnumbered : s.Numbered) {e : RemoteEvent}
    (ht : Change s e t) (running : ∀ error, t.mainLoop ≠ .ended error) : t.Conveying := by
  by_cases hblock : ∃ connectionId data surroundings,
      e = .request (.portForwardData connectionId data) surroundings
  · obtain ⟨connectionId, data, surroundings, rfl⟩ := hblock
    cases ht with
    | idle => exact h
    | handled _ _ ready => exact h.forwardData hnumbered ready connectionId data
  · exact h.other hnumbered ht running fun connectionId data surroundings heq =>
      hblock ⟨connectionId, data, surroundings, heq⟩

theorem conveying_run (es : List RemoteEvent)
    (running : ∀ error, (run step {} es).mainLoop ≠ .ended error) :
    (run step {} es).Conveying := by
  induction es using List.reverseRecOn with
  | nil =>
      constructor
      · exact fun i task found => by cases found
      · exact fun connectionId i hlookup => by cases hlookup
  | append_singleton es e ih =>
      rw [run_append] at running ⊢
      have hchange := change_step (run step {} es) e
      exact (ih (running_of_change hchange running)).change (numbered_run es) hchange running

/-! ## Both ways -/

/-- What a connection conveys, in any state of its relay. -/
structure Conveys (s : RemoteServer) (i : Nat) (task : ConnectionTask) (relay : Relay) :
    Prop where
  /-- What was read from the target was handed over, waits in the buffer or is about to be
  added to it, as long as no write has failed. -/
  toClient : relay.stage.inLoop →
    blocksFor task.connectionId s.handedOver ++
      blocksFor task.connectionId s.responseBuffer.items ++ relay.toBuffer = relay.targetReads
  /-- And a beginning of it in any case. -/
  handedOver : blocksFor task.connectionId s.handedOver ++
    blocksFor task.connectionId s.responseBuffer.items <+: relay.targetReads
  /-- What the connection has taken and is to take from its channel is one stretch of what
  the client was told it had sent. -/
  fromClient : relay.received ++ relay.dataRx <:+: s.acknowledged task.connectionId
  /-- And the end of it while the connection is in the map. -/
  latest : s.activeConnections.lookup task.connectionId = some i →
    relay.received ++ relay.dataRx <:+ s.acknowledged task.connectionId
  /-- The target has it, merged with what was read from the accepted stream, save the block
  that is being written. -/
  toTarget : relay.stage.inLoop → ∃ merged,
    OrderedMerge relay.clientReads relay.received (merged ++ relay.toTarget) ∧
      relay.targetStream = merged.flatten
  written : ∃ merged, OrderedMerge relay.clientReads relay.received merged ∧
    relay.targetStream <+: merged.flatten

/-- In every run that has accepted at most `2^32` connections and whose main loop goes on,
every connection conveys both ways exactly what is its own. -/
theorem conveys_run {es : List RemoteEvent}
    (few : (run step {} es).tasks.length ≤ 2 ^ 32)
    (running : ∀ error, (run step {} es).mainLoop ≠ .ended error)
    (found : (run step {} es).tasks[i]? = some task) (hrelay : task.stage = .relaying relay) :
    (run step {} es).Conveys i task relay := by
  obtain ⟨htelling, hsounding⟩ := telling_sounding_run es
  have hconveying := conveying_run es running
  have hsound := hsounding i task relay found hrelay
  have hblocks : (run step {} es).blocksOf i = relay.received ++ relay.dataRx := by
    rw [blocksOf_eq found, hrelay]
    rfl
  have hunique : ∀ j (task' : ConnectionTask), (run step {} es).tasks[j]? = some task' →
      task'.connectionId = task.connectionId → j = i := by
    intro j task' found' hid
    have hmod := ((numbered_run es).ids_eq_iff found' found).mp hid
    have hj := (List.getElem?_eq_some_iff.mp found').1
    have hi := (List.getElem?_eq_some_iff.mp found).1
    rwa [Nat.mod_eq_of_lt (hj.trans_le few), Nat.mod_eq_of_lt (hi.trans_le few)] at hmod
  have hadded : blocksFor task.connectionId (run step {} es).handedOver ++
      blocksFor task.connectionId (run step {} es).responseBuffer.items =
        (run step {} es).dataAdded i task.connectionId := by
    rw [← blocksFor_added htelling (blocksOfTasks_run es) hunique,
      ← handedOver_append_items es running, blocksFor, blocksFor, blocksFor,
      List.filterMap_append]
  constructor
  case toClient =>
    intro hloop
    rw [hadded]
    exact (htelling.faithful found hrelay hloop).buffer
  case handedOver => exact hadded ▸ hsound.buffer
  case fromClient => exact hblocks ▸ hconveying.stretch i task found
  case latest => exact fun hlookup => hblocks ▸ hconveying.latest _ i hlookup
  case toTarget => exact fun hloop => (htelling.faithful found hrelay hloop).target
  case written => exact hsound.target

/-- A connection to a target that says more than the client has polled, and that the client
has sent two blocks to. -/
def conversation : List RemoteEvent :=
  [.request (.startPortForward 8080 "web" 80) {}, .send none, .accept 0, .task 0 .lock,
    .task 0 (.connected true), .request (.portForwardData 1 [1]) {}, .send none, .task 0 .lock,
    .request (.portForwardData 1 [2]) {}, .send none,
    .task 0 (.io (.readTarget (.ok ⟨[7, 8], by decide⟩))), .task 0 (.io (.write none)),
    .task 0 .lock, .request .pollData {}, .send none,
    .request (.portForwardData 1 [3]) {}, .send none, .task 0 (.io .recv),
    .task 0 (.io (.write none)), .task 0 (.io (.readTarget (.ok ⟨[9], by decide⟩)))]

/-- Its relay, in the middle of writing the second read to the accepted stream. -/
def conversationRelay : Relay where
  targetBuf := (RelayBuffer.zero.fill ⟨[7, 8], by decide⟩).fill ⟨[9], by decide⟩
  stage := .writingToClient 1
  dataRx := [[3]]
  targetReads := [[7, 8], [9]]
  received := [[2]]
  clientStream := [7, 8]
  targetStream := [2]

set_option maxRecDepth 4000 in
/-- The first of the three blocks was acknowledged and dropped; the connection conveys the
others, and one of the two reads has reached the client. -/
theorem conveys_run_conversation :
    (run step {} conversation).Conveys 0 ⟨1, 8080, "web:80", .relaying conversationRelay⟩
      conversationRelay :=
  conveys_run (by decide) (fun _ hended => by cases hended) rfl rfl

end RemoteServer

end Yuha
