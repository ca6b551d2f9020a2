import Yuha.Remote.Relaying

/-!
# The life of a connection in the response buffer

A connection is told of in the order `NewConnection`, data, `CloseConnection`, as long as
no identifier is drawn twice and no task goes on with a connection that was taken out of the
map under it. `Chapter` says how much has been told of a connection whose task is at some
stage.
-/

namespace Yuha

open Library Library.Execution

/-- Some first part of an announcement, data and a close. -/
def Announced (connectionId : UInt32) (items : List ResponseItem) : Prop :=
  ∃ (localPort : UInt16) (data : List Bytes),
    items <+: .newConnection connectionId localPort ::
      (data.map (.portForwardData connectionId) ++ [.closeConnection connectionId])

/-- How much of a connection has been told. -/
inductive Chapter
  | silent
  | opened
  | closed

namespace Chapter

def Tells (connectionId : UInt32) (items : List ResponseItem) : Chapter → Prop
  | silent => items = []
  | opened => ∃ (localPort : UInt16) (data : List Bytes),
      items = .newConnection connectionId localPort :: data.map (.portForwardData connectionId)
  | closed => ∃ (localPort : UInt16) (data : List Bytes),
      items = .newConnection connectionId localPort ::
        (data.map (.portForwardData connectionId) ++ [.closeConnection connectionId])

variable {connectionId : UInt32} {items : List ResponseItem}

theorem Tells.announced {chapter : Chapter} (h : chapter.Tells connectionId items) :
    Announced connectionId items := by
  cases chapter with
  | silent =>
      obtain rfl : items = [] := h
      exact ⟨0, [], List.nil_prefix⟩
  | opened =>
      obtain ⟨localPort, data, rfl⟩ := h
      exact ⟨localPort, data, (List.prefix_cons_inj _).mpr (List.prefix_append _ _)⟩
  | closed =>
      obtain ⟨localPort, data, rfl⟩ := h
      exact ⟨localPort, data, List.prefix_refl _⟩

theorem tells_new (localPort : UInt16) :
    opened.Tells connectionId [.newConnection connectionId localPort] :=
  ⟨localPort, [], rfl⟩

theorem Tells.data (h : opened.Tells connectionId items) (block : Bytes) :
    opened.Tells connectionId (items ++ [ResponseItem.portForwardData connectionId block]) := by
  obtain ⟨localPort, data, rfl⟩ := h
  exact ⟨localPort, data ++ [block], by simp⟩

theorem Tells.close (h : opened.Tells connectionId items) :
    closed.Tells connectionId (items ++ [ResponseItem.closeConnection connectionId]) := by
  obtain ⟨localPort, data, rfl⟩ := h
  exact ⟨localPort, data, rfl⟩

end Chapter

/-- The connection may be in the map: its task has entered it and not cleaned up. -/
def TaskStage.held : TaskStage → Bool
  | .relaying relay =>
      match relay.stage with
      | .closing | .ended => false
      | _ => true
  | _ => false

namespace RemoteServer

variable {s : RemoteServer}

/-- The items about one connection, in the order they were added. -/
def itemsAbout (s : RemoteServer) (connectionId : UInt32) : List ResponseItem :=
  s.added.filter fun item => decide (item.connection = some connectionId)

theorem itemsAbout_of_added {t : RemoteServer} {item : ResponseItem}
    (h : t.added = s.added ++ [item]) (connectionId : UInt32) : t.itemsAbout connectionId =
      s.itemsAbout connectionId ++
        if item.connection = some connectionId then [item] else [] := by
  by_cases hitem : item.connection = some connectionId <;> simp [itemsAbout, h, hitem]

theorem itemsAbout_congr {t : RemoteServer} (h : t.added = s.added) (connectionId : UInt32) :
    t.itemsAbout connectionId = s.itemsAbout connectionId := by
  simp only [itemsAbout, h]

/-- The connection that `stop_port_forward` has removed and not yet reported. -/
def reporting (s : RemoteServer) : Option UInt32 :=
  match s.mainLoop with
  | .stopping _ connectionId _ => some connectionId
  | _ => none

/-- A connection whose task holds it is told to be closed exactly if it was stopped. -/
def chapter (s : RemoteServer) (i : Nat) (task : ConnectionTask) : Chapter :=
  match task.stage with
  | .announcing => .silent
  | .connecting | .entering | .refused => .opened
  | .ended => .closed
  | .relaying relay =>
      match relay.stage with
      | .closing => .opened
      | .ended => .closed
      | _ =>
          if s.activeConnections.lookup task.connectionId = some i ∨
            s.reporting = some task.connectionId then .opened else .closed

/-- No identifier is drawn that a task has, and a task that adds data or cleans up still
finds its own entry in the map. -/
def KeepsEntries (s : RemoteServer) : RemoteEvent → Prop
  | .accept f => ∀ forward, s.forwards[f]? = some forward → forward.listening = true →
      ∀ task ∈ s.tasks, task.connectionId ≠ s.nextConnectionId
  | .task i .lock => ∀ task relay, s.tasks[i]? = some task → task.stage = .relaying relay →
      ((∃ n, relay.stage = .buffering n) ∨ (relay.stage = .leaving ∧ s.stopping = false)) →
      s.activeConnections.lookup task.connectionId = some i
  | _ => True

/-- The invariant of a run whose steps keep the entries. -/
structure Announcing (s : RemoteServer) : Prop where
  ids : (s.tasks.map fun task => task.connectionId).Nodup
  foreign : ∀ connectionId, (∀ task ∈ s.tasks, task.connectionId ≠ connectionId) →
    s.itemsAbout connectionId = []
  tells : ∀ i (task : ConnectionTask), s.tasks[i]? = some task →
    (s.chapter i task).Tells task.connectionId (s.itemsAbout task.connectionId)
  holder : ∀ connectionId i, s.activeConnections.lookup connectionId = some i →
    ∃ task : ConnectionTask, s.tasks[i]? = some task ∧ task.connectionId = connectionId ∧
      task.stage.held
  stopping : ∀ localPort connectionId toRemove,
    s.mainLoop = .stopping localPort connectionId toRemove →
    s.activeConnections.lookup connectionId = none ∧
    (∃ (i : Nat) (task : ConnectionTask), s.tasks[i]? = some task ∧
      task.connectionId = connectionId ∧ task.stage.held) ∧
    toRemove.Nodup ∧ ∀ id ∈ toRemove, ∃ i, s.activeConnections.lookup id = some i

/-- Two tasks with one identifier are one task. -/
theorem Announcing.unique (h : s.Announcing) {i j : Nat} {task task' : ConnectionTask}
    (hi : s.tasks[i]? = some task) (hj : s.tasks[j]? = some task')
    (hids : task.connectionId = task'.connectionId) : i = j := by
  have hi' : (s.tasks.map fun task => task.connectionId)[i]? = some task.connectionId := by
    simp [hi]
  have hj' : (s.tasks.map fun task => task.connectionId)[j]? = some task.connectionId := by
    simp [hj, hids]
  have hlength : i < (s.tasks.map fun task => task.connectionId).length :=
    (List.getElem?_eq_some_iff.mp hi').1
  exact (List.getElem?_inj hlength h.ids).mp (hi'.trans hj'.symm)

/-! ## Changes of the state -/

theorem reporting_congr {t : RemoteServer} (h : t.mainLoop = s.mainLoop) :
    t.reporting = s.reporting := by
  simp only [reporting, h]

theorem reporting_of_free (h : s.stopping = false) : s.reporting = none := by
  cases hmain : s.mainLoop with
  | stopping => simp [RemoteServer.stopping, hmain] at h
  | _ => simp [reporting, hmain]

theorem chapter_congr {t : RemoteServer} {i : Nat} {task : ConnectionTask}
    (hactive : t.activeConnections.lookup task.connectionId =
      s.activeConnections.lookup task.connectionId)
    (hreporting : t.reporting = some task.connectionId ↔
      s.reporting = some task.connectionId) : t.chapter i task = s.chapter i task := by
  simp only [chapter, hactive, hreporting]

theorem chapter_of_held {i : Nat} {task : ConnectionTask} (h : task.stage.held) :
    s.chapter i task = if s.activeConnections.lookup task.connectionId = some i ∨
      s.reporting = some task.connectionId then .opened else .closed := by
  obtain ⟨connectionId, localPort, targetAddr, stage⟩ := task
  cases stage with
  | relaying relay =>
      cases hstage : relay.stage with
      | closing | ended => simp [TaskStage.held, hstage] at h
      | _ => simp [chapter, hstage]
  | _ => simp [TaskStage.held] at h

theorem map_connectionId_setStage (s : RemoteServer) (i : Nat) (stage : TaskStage) :
    ((s.setStage i stage).tasks.map fun task => task.connectionId) =
      s.tasks.map fun task => task.connectionId := by
  apply List.ext_getElem?
  intro j
  rw [List.getElem?_map, List.getElem?_map, getElem?_setStage, Option.map_map]
  cases s.tasks[j]? with
  | none => rfl
  | some task => by_cases hij : i = j <;> simp [hij]

theorem mem_setStage_connectionId {i : Nat} {stage : TaskStage} {connectionId : UInt32}
    (h : ∀ task ∈ (s.setStage i stage).tasks, task.connectionId ≠ connectionId) :
    ∀ task ∈ s.tasks, task.connectionId ≠ connectionId := by
  intro task htask heq
  have hmem : connectionId ∈ (s.setStage i stage).tasks.map fun task => task.connectionId := by
    rw [map_connectionId_setStage]
    exact List.mem_map.mpr ⟨task, htask, heq⟩
  obtain ⟨task', htask', heq'⟩ := List.mem_map.mp hmem
  exact h task' htask' heq'

/-- A step of one task, seen from the connections. -/
theorem Announcing.of_task (h : s.Announcing) {t : RemoteServer} {i : Nat}
    {task : ConnectionTask} {stage : TaskStage} (found : s.tasks[i]? = some task)
    (htasks : t.tasks = (s.setStage i stage).tasks) (hmain : t.mainLoop = s.mainLoop)
    (hitems : ∀ id, id ≠ task.connectionId → t.itemsAbout id = s.itemsAbout id)
    (hactive : ∀ id, id ≠ task.connectionId →
      t.activeConnections.lookup id = s.activeConnections.lookup id)
    (hentry : ∀ j, t.activeConnections.lookup task.connectionId = some j → j = i ∧ stage.held)
    (hlocked : s.stopping = true →
      t.activeConnections = s.activeConnections ∧ (task.stage.held → stage.held))
    (htells : (t.chapter i { task with stage := stage }).Tells task.connectionId
      (t.itemsAbout task.connectionId)) : t.Announcing := by
  have hreporting := reporting_congr hmain
  have hself : t.tasks[i]? = some { task with stage := stage } := by
    rw [htasks]
    exact getElem?_setStage_self found stage
  have hother : ∀ j, i ≠ j → t.tasks[j]? = s.tasks[j]? := by
    intro j hij
    rw [htasks]
    exact getElem?_setStage_ne hij stage
  constructor
  · rw [htasks, map_connectionId_setStage]
    exact h.ids
  · intro id hid
    rw [htasks] at hid
    have hid' := mem_setStage_connectionId hid
    rw [hitems id (hid' task (List.mem_of_getElem? found)).symm]
    exact h.foreign id hid'
  · intro j task' hj
    by_cases hij : i = j
    · subst hij
      obtain rfl := Option.some.inj (hself.symm.trans hj)
      exact htells
    · rw [hother j hij] at hj
      have hne : task'.connectionId ≠ task.connectionId := by
        intro heq
        exact hij (h.unique found hj heq.symm)
      rw [chapter_congr (hactive _ hne) (by rw [hreporting]), hitems _ hne]
      exact h.tells j task' hj
  · intro id j hlookup
    by_cases hid : id = task.connectionId
    · subst hid
      obtain ⟨rfl, hheld⟩ := hentry j hlookup
      exact ⟨_, hself, rfl, hheld⟩
    · rw [hactive id hid] at hlookup
      obtain ⟨task', hj, hid', hheld⟩ := h.holder id j hlookup
      have hij : i ≠ j := by
        rintro rfl
        obtain rfl := Option.some.inj (found.symm.trans hj)
        exact hid hid'.symm
      exact ⟨task', (hother j hij).trans hj, hid', hheld⟩
  · intro localPort id toRemove hstop
    rw [hmain] at hstop
    obtain ⟨hnone, ⟨j, task', hj, hid, hheld⟩, hnodup, hactives⟩ :=
      h.stopping localPort id toRemove hstop
    obtain ⟨hsame, hkeeps⟩ := hlocked (by simp [RemoteServer.stopping, hstop])
    rw [hsame]
    refine ⟨hnone, ?_, hnodup, hactives⟩
    by_cases hij : i = j
    · subst hij
      obtain rfl := Option.some.inj (found.symm.trans hj)
      exact ⟨i, _, hself, hid, hkeeps hheld⟩
    · exact ⟨j, task', (hother j hij).trans hj, hid, hheld⟩

/-- A change of the main loop, while it holds no lock before and after. -/
theorem Announcing.of_main (h : s.Announcing) {t : RemoteServer} (htasks : t.tasks = s.tasks)
    (hactive : t.activeConnections = s.activeConnections)
    (hitems : ∀ id, t.itemsAbout id = s.itemsAbout id) (hs : s.stopping = false)
    (ht : t.stopping = false) : t.Announcing := by
  have hreporting : t.reporting = s.reporting :=
    (reporting_of_free ht).trans (reporting_of_free hs).symm
  constructor
  · exact htasks ▸ h.ids
  · intro id hid
    rw [hitems]
    exact h.foreign id (htasks ▸ hid)
  · intro i task hi
    have hchapter : t.chapter i task = s.chapter i task :=
      chapter_congr (by rw [hactive]) (by rw [hreporting])
    rw [hitems, hchapter]
    exact h.tells i task (htasks ▸ hi)
  · intro id i hlookup
    rw [htasks]
    exact h.holder id i (hactive ▸ hlookup)
  · intro localPort id toRemove hstop
    simp [RemoteServer.stopping, hstop] at ht

theorem closeNext_mainLoop (s : RemoteServer) (mainLoop : MainLoop) (localPort : UInt16)
    (toRemove : List UInt32) : closeNext { s with mainLoop := mainLoop } localPort toRemove =
      s.closeNext localPort toRemove := by
  cases toRemove <;> rfl

/-- The main loop takes the next connection out of the map. -/
theorem Announcing.closeNext (h : s.Announcing) (hs : s.stopping = false) (localPort : UInt16)
    {toRemove : List UInt32} (hnodup : toRemove.Nodup)
    (hactives : ∀ id ∈ toRemove, ∃ i, s.activeConnections.lookup id = some i) :
    (s.closeNext localPort toRemove).Announcing := by
  cases toRemove with
  | nil => exact h.of_main rfl rfl (fun id => rfl) hs rfl
  | cons connectionId toRemove =>
      obtain ⟨hfresh, htail⟩ := List.nodup_cons.mp hnodup
      obtain ⟨i, hlookup⟩ := hactives connectionId List.mem_cons_self
      obtain ⟨task, found, rfl, hheld⟩ := h.holder connectionId i hlookup
      have hitems : ∀ id, (s.closeNext localPort (task.connectionId :: toRemove)).itemsAbout id =
          s.itemsAbout id := fun id => itemsAbout_congr (added_remove s .mainLoop _) id
      have hactive : ∀ id, id ≠ task.connectionId →
          (AList.erase task.connectionId s.activeConnections).lookup id =
            s.activeConnections.lookup id := fun id hid => AList.lookup_erase_ne hid
      constructor
      · exact h.ids
      · intro id hid
        rw [hitems]
        exact h.foreign id hid
      · intro j task' hj
        have hchapter : (s.closeNext localPort (task.connectionId :: toRemove)).chapter j task' =
            s.chapter j task' := by
          by_cases hid : task'.connectionId = task.connectionId
          · obtain rfl := h.unique hj found hid
            obtain rfl := Option.some.inj (hj.symm.trans found)
            have hbefore : s.chapter j task' = .opened :=
              (chapter_of_held hheld).trans (if_pos (Or.inl hlookup))
            have hafter : (s.closeNext localPort (task'.connectionId :: toRemove)).chapter j task' =
                .opened := (chapter_of_held hheld).trans (if_pos (Or.inr rfl))
            rw [hbefore, hafter]
          · have hother : (s.closeNext localPort (task.connectionId :: toRemove)).reporting ≠
                some task'.connectionId := fun heq => hid (Option.some.inj heq).symm
            have hnone : s.reporting ≠ some task'.connectionId := by
              rw [reporting_of_free hs]
              simp
            exact chapter_congr (hactive _ hid) (by simp [hother, hnone])
        rw [hitems, hchapter]
        exact h.tells j task' hj
      · intro id j hj
        by_cases hid : id = task.connectionId
        · subst hid
          have hgone := AList.lookup_erase task.connectionId s.activeConnections
          exact absurd (hgone.symm.trans hj) (by simp)
        · exact h.holder id j ((hactive id hid).symm.trans hj)
      · intro localPort' id toRemove' hstop
        obtain ⟨rfl, rfl, rfl⟩ := MainLoop.stopping.inj hstop
        refine ⟨AList.lookup_erase _ _, ⟨i, task, found, rfl, hheld⟩, htail, ?_⟩
        intro id hid
        obtain ⟨j, hj⟩ := hactives id (List.mem_cons_of_mem _ hid)
        exact ⟨j, (hactive id fun heq => hfresh (heq ▸ hid)).trans hj⟩

/-- The main loop reports the connection that it has taken out of the map. -/
theorem Announcing.report (h : s.Announcing) {localPort : UInt16} {connectionId : UInt32}
    {toRemove : List UInt32} (hs : s.mainLoop = .stopping localPort connectionId toRemove) :
    Announcing { s.add .mainLoop (.closeConnection connectionId) with mainLoop := .receiving } := by
  obtain ⟨hnone, ⟨i, task, found, rfl, hheld⟩, _⟩ := h.stopping _ _ _ hs
  have hreporting : s.reporting = some task.connectionId := by simp [reporting, hs]
  have hitems := itemsAbout_of_added (s := s) (added_add s .mainLoop
    (.closeConnection task.connectionId))
  have hsame : ∀ id, id ≠ task.connectionId →
      (s.add .mainLoop (.closeConnection task.connectionId)).itemsAbout id = s.itemsAbout id := by
    intro id hid
    rw [hitems]
    simp [ResponseItem.connection, hid.symm]
  constructor
  · exact h.ids
  · intro id hid
    exact (hsame id (hid task (List.mem_of_getElem? found)).symm).trans (h.foreign id hid)
  · intro j task' hj
    by_cases hid : task'.connectionId = task.connectionId
    · obtain rfl := h.unique hj found hid
      obtain rfl := Option.some.inj (hj.symm.trans found)
      have hbefore : s.chapter j task' = .opened :=
        (chapter_of_held hheld).trans (if_pos (Or.inr hreporting))
      have hafter : chapter { s.add .mainLoop (.closeConnection task'.connectionId) with
          mainLoop := .receiving } j task' = .closed := by
        refine (chapter_of_held hheld).trans (if_neg ?_)
        rintro (hlookup | hreports)
        · exact absurd (hnone.symm.trans hlookup) (by simp)
        · cases hreports
      have hopened := h.tells j task' hj
      rw [hbefore] at hopened
      have hclosed := hopened.close
      rw [hafter]
      have hall := hitems task'.connectionId
      simp only [ResponseItem.connection, if_true] at hall
      exact hall ▸ hclosed
    · have hchapter : chapter { s.add .mainLoop (.closeConnection task.connectionId) with
          mainLoop := .receiving } j task' = s.chapter j task' := by
        refine chapter_congr rfl ?_
        rw [hreporting]
        simp [reporting, Ne.symm hid]
      rw [hchapter]
      exact (hsame _ hid) ▸ h.tells j task' hj
  · exact h.holder
  · intro _ _ _ hstop
    cases hstop

theorem Announcing.handling (h : s.Announcing) (hs : s.stopping = false)
    {surroundings : Surroundings} {request : ProtocolRequest} {t : RemoteServer}
    (ht : Handling s surroundings request t) : t.Announcing := by
  cases ht with
  | answered request responseBuffer mainLoop idle =>
      refine h.of_main rfl rfl (fun id => rfl) hs ?_
      cases mainLoop with
      | stopping localPort connectionId toRemove => exact absurd rfl (idle _ _ _)
      | _ => rfl
  | listening => exact h.of_main rfl rfl (fun id => rfl) hs rfl
  | queued connectionId data i relay sender receiver =>
      obtain ⟨task, found, hstage, _⟩ := receiver_eq_some receiver
      have hheld : TaskStage.held (.relaying { relay with dataRx := relay.dataRx ++ [data] }) =
          task.stage.held := by
        rw [hstage]
        rfl
      have hchapter : s.chapter i { task with
          stage := .relaying { relay with dataRx := relay.dataRx ++ [data] } } =
          s.chapter i task := by
        simp only [chapter, hstage]
      have hqueued : (s.setStage i
          (.relaying { relay with dataRx := relay.dataRx ++ [data] })).Announcing := by
        apply h.of_task found rfl rfl (fun id _ => rfl) (fun id _ => rfl)
        · intro j hlookup
          obtain ⟨task', hj, hid, hheld'⟩ := h.holder _ j hlookup
          obtain rfl := h.unique hj found hid
          obtain rfl := Option.some.inj (hj.symm.trans found)
          exact ⟨rfl, hheld.trans hheld'⟩
        · exact fun _ => ⟨rfl, fun hheld' => hheld.trans hheld'⟩
        · exact hchapter ▸ h.tells i task found
      exact hqueued.of_main rfl rfl (fun id => rfl) hs rfl
  | copied content responseBuffer response =>
      refine h.of_main rfl rfl (fun id => ?_) hs rfl
      exact (itemsAbout_of_added (added_add s .mainLoop (.clipboardContent content)) id).trans
        (by simp [ResponseItem.connection])
  | closing localPort =>
      exact h.closeNext hs localPort (s.nodup_listing_keys _) fun id hid =>
        (s.mem_listing_keys _ id).mp hid

/-- An accepted connection with an identifier of its own. -/
theorem Announcing.accepted (h : s.Announcing) {task : ConnectionTask}
    (hfresh : ∀ task' ∈ s.tasks, task'.connectionId ≠ task.connectionId)
    (hstage : task.stage = .announcing) (nextConnectionId : UInt32) :
    Announcing { s with
      nextConnectionId := nextConnectionId
      tasks := s.tasks ++ [task] } := by
  have hgrown : ∀ i task', s.tasks[i]? = some task' → (s.tasks ++ [task])[i]? = some task' :=
    fun i task' hi => (List.getElem?_append_left (List.getElem?_eq_some_iff.mp hi).1).trans hi
  constructor
  · rw [List.map_append, List.nodup_append]
    refine ⟨h.ids, List.nodup_singleton _, ?_⟩
    intro id hid id' hid'
    obtain ⟨task', htask', rfl⟩ := List.mem_map.mp hid
    rw [List.map_singleton, List.mem_singleton] at hid'
    exact hid' ▸ hfresh task' htask'
  · exact fun id hid => h.foreign id fun task' htask' =>
      hid task' (List.mem_append_left [task] htask')
  · intro i task' hi
    rcases getElem?_concat_task hi with hold | ⟨_, rfl⟩
    · exact h.tells i task' hold
    · have hsilent := h.foreign task'.connectionId hfresh
      simp only [chapter, hstage]
      exact hsilent
  · intro id i hlookup
    obtain ⟨task', hi, hid, hheld⟩ := h.holder id i hlookup
    exact ⟨task', hgrown i task' hi, hid, hheld⟩
  · intro localPort id toRemove hstop
    obtain ⟨hnone, ⟨i, task', hi, hid, hheld⟩, hrest⟩ := h.stopping localPort id toRemove hstop
    exact ⟨hnone, ⟨i, task', hgrown i task' hi, hid, hheld⟩, hrest⟩

/-- A step of a task that adds at most one item, about its own connection, and leaves the
map as it is. -/
theorem Announcing.of_silent (h : s.Announcing) {t : RemoteServer} {i : Nat}
    {task : ConnectionTask} {stage : TaskStage} (found : s.tasks[i]? = some task)
    (htasks : t.tasks = (s.setStage i stage).tasks) (hmain : t.mainLoop = s.mainLoop)
    (hactive : t.activeConnections = s.activeConnections)
    (hitems : ∀ id, id ≠ task.connectionId → t.itemsAbout id = s.itemsAbout id)
    (hheld : task.stage.held = stage.held)
    (htells : (t.chapter i { task with stage := stage }).Tells task.connectionId
      (t.itemsAbout task.connectionId)) : t.Announcing := by
  refine h.of_task found htasks hmain hitems (fun id _ => by rw [hactive]) ?_ ?_ htells
  · intro j hlookup
    rw [hactive] at hlookup
    obtain ⟨task', hj, hid, hheld'⟩ := h.holder _ j hlookup
    obtain rfl := h.unique hj found hid
    obtain rfl := Option.some.inj (hj.symm.trans found)
    exact ⟨rfl, hheld ▸ hheld'⟩
  · exact fun _ => ⟨hactive, fun hheld' => hheld ▸ hheld'⟩

theorem held_of_inLoop_or_leaving {relay : Relay}
    (h : relay.stage.inLoop = true ∨ relay.stage = .leaving) :
    TaskStage.held (.relaying relay) = true := by
  cases hstage : relay.stage <;> simp [TaskStage.held, hstage, RelayStage.inLoop] at h ⊢

theorem held_of_io (relay : Relay) (senderAlive : Bool) (event : RelayIO) :
    TaskStage.held (.relaying (relay.io senderAlive event)) = TaskStage.held (.relaying relay) := by
  cases hloop : relay.stage.inLoop with
  | false => rw [Relay.io_of_not_inLoop senderAlive event hloop]
  | true =>
      rw [held_of_inLoop_or_leaving (.inl hloop),
        held_of_inLoop_or_leaving (Relay.inLoop_io_or_leaving senderAlive event hloop)]

theorem Announcing.change (h : s.Announcing) {e : RemoteEvent} (hkeeps : s.KeepsEntries e)
    {t : RemoteServer} (ht : Change s e t) : t.Announcing := by
  have hother : ∀ {i item} {task : ConnectionTask} {stage},
      item.connection = some task.connectionId → ∀ id, id ≠ task.connectionId →
        ((s.add (.task i) item).setStage i stage).itemsAbout id = s.itemsAbout id := by
    intro i item task stage hitem id hid
    apply (itemsAbout_of_added (added_add s (.task i) item) id).trans
    simp [hitem, hid.symm]
  have hown : ∀ {i item} {task : ConnectionTask} {stage},
      item.connection = some task.connectionId →
        ((s.add (.task i) item).setStage i stage).itemsAbout task.connectionId =
          s.itemsAbout task.connectionId ++ [item] := by
    intro i item task stage hitem
    apply (itemsAbout_of_added (added_add s (.task i) item) _).trans
    simp [hitem]
  cases ht with
  | idle => exact h
  | handled request surroundings ready =>
      exact h.handling (by simp [RemoteServer.stopping, ready])
        (handling_handleRequest s surroundings request)
  | polled waiting =>
      exact h.of_main rfl rfl (fun id => rfl) (by simp [RemoteServer.stopping, waiting]) rfl
  | reported localPort connectionId toRemove stopping =>
      obtain ⟨_, _, hnodup, hactives⟩ := h.stopping _ _ _ stopping
      have hnext := (h.report stopping).closeNext rfl localPort hnodup hactives
      rwa [closeNext_mainLoop] at hnext
  | sent failure request response sending =>
      exact h.of_main rfl rfl (fun id => rfl) (by simp [RemoteServer.stopping, sending]) rfl
  | failed error ready =>
      exact h.of_main rfl rfl (fun id => rfl) (by simp [RemoteServer.stopping, ready]) rfl
  | broken failure request response error sending =>
      exact h.of_main rfl rfl (fun id => rfl) (by simp [RemoteServer.stopping, sending]) rfl
  | accepted f forward found listening =>
      exact h.accepted (hkeeps forward found listening) rfl _
  | unlistened => exact ⟨h.ids, h.foreign, h.tells, h.holder, h.stopping⟩
  | announced i task found stage =>
      have htells := h.tells i task found
      simp only [chapter, stage] at htells
      have hsilent : s.itemsAbout task.connectionId = [] := htells
      refine h.of_silent found rfl rfl rfl (hother rfl) (by rw [stage]; rfl) ?_
      rw [hown rfl, hsilent]
      exact Chapter.tells_new task.localPort
  | connected i task found stage =>
      have htells := h.tells i task found
      simp only [chapter, stage] at htells
      exact h.of_silent found rfl rfl rfl (fun id _ => rfl) (by rw [stage]; rfl) htells
  | turnedAway i task found stage =>
      have htells := h.tells i task found
      simp only [chapter, stage] at htells
      exact h.of_silent found rfl rfl rfl (fun id _ => rfl) (by rw [stage]; rfl) htells
  | entered i task found stage free =>
      have htells := h.tells i task found
      simp only [chapter, stage] at htells
      have hitems : ∀ id, ((s.insert (.task i) task.connectionId i).setStage i
          (.relaying {})).itemsAbout id = s.itemsAbout id :=
        fun id => itemsAbout_congr (added_insert s (.task i) task.connectionId i) id
      have hlookup := AList.lookup_insert (a := task.connectionId) (b := i) s.activeConnections
      refine h.of_task found rfl rfl (fun id _ => hitems id)
        (fun id hid => AList.lookup_insert_ne hid) ?_ ?_ ?_
      · exact fun j hj => ⟨Option.some.inj (hj.symm.trans hlookup), rfl⟩
      · intro hstopping
        simp [free] at hstopping
      · rw [hitems, chapter_of_held rfl, if_pos (.inl hlookup)]
        exact htells
  | gaveUp i task found stage =>
      have htells := h.tells i task found
      simp only [chapter, stage] at htells
      refine h.of_silent found rfl rfl rfl (hother rfl) (by rw [stage]; rfl) ?_
      rw [hown rfl]
      exact htells.close
  | relayed i task relay event found stage =>
      have hheld := held_of_io relay (s.senderAlive i task.connectionId) event
      have htells := h.tells i task found
      apply h.of_silent found rfl rfl rfl (fun id _ => rfl)
      · rw [stage, hheld]
      · cases hloop : relay.stage.inLoop with
        | false =>
            simp only [chapter, stage] at htells
            rw [Relay.io_of_not_inLoop _ event hloop]
            exact htells
        | true =>
            have hbefore : TaskStage.held (.relaying relay) :=
              held_of_inLoop_or_leaving (.inl hloop)
            rw [chapter_of_held (by rw [stage]; exact hbefore)] at htells
            rw [chapter_of_held (hheld.trans hbefore)]
            exact htells
  | buffered i task relay n found stage buffering =>
      have hlookup := hkeeps task relay found stage (.inl ⟨n, buffering⟩)
      have hheld : task.stage.held := by
        rw [stage]
        simp [TaskStage.held, buffering]
      have htells := h.tells i task found
      rw [chapter_of_held hheld, if_pos (.inl hlookup)] at htells
      refine h.of_silent found rfl rfl rfl (hother rfl) hheld ?_
      rw [hown rfl, chapter_of_held rfl, if_pos (.inl hlookup)]
      exact htells.data _
  | left i task relay found stage leaving free =>
      have hlookup := hkeeps task relay found stage (.inr ⟨leaving, free⟩)
      have hheld : task.stage.held := by
        rw [stage]
        simp [TaskStage.held, leaving]
      have htells := h.tells i task found
      rw [chapter_of_held hheld, if_pos (.inl hlookup)] at htells
      have hitems : ∀ id, ((s.remove (.task i) task.connectionId).setStage i
          (.relaying { relay with stage := .closing })).itemsAbout id = s.itemsAbout id :=
        fun id => itemsAbout_congr (added_remove s (.task i) task.connectionId) id
      have hgone := AList.lookup_erase task.connectionId s.activeConnections
      refine h.of_task found rfl rfl (fun id _ => hitems id)
        (fun id hid => AList.lookup_erase_ne hid) ?_ ?_ ?_
      · intro j hj
        exact absurd (hgone.symm.trans hj) (by simp)
      · intro hstopping
        simp [free] at hstopping
      · rw [hitems]
        exact htells
  | closed i task relay found stage closing =>
      have htells := h.tells i task found
      simp only [chapter, stage, closing] at htells
      refine h.of_silent found rfl rfl rfl (hother rfl) ?_ ?_
      · rw [stage]
        simp [TaskStage.held, closing]
      · rw [hown rfl]
        exact htells.close

/-- In a run that keeps the entries, every connection is told of in order. -/
theorem always_announced {es : List RemoteEvent}
    (h : Along step (fun _ s e => s.KeepsEntries e) {} es) :
    Always step (fun s => ∀ connectionId, Announced connectionId (s.itemsAbout connectionId))
      {} es := by
  have start : Announcing {} := by
    constructor
    · exact List.nodup_nil
    · exact fun _ _ => rfl
    · intro i task hi
      cases hi
    · intro id i hlookup
      cases hlookup
    · intro _ _ _ hstop
      cases hstop
  have hrun := h.invariant (I := fun _ s => Announcing s) start
    fun _ s e hs hkeeps => hs.change hkeeps (change_step s e)
  intro past hp connectionId
  by_cases hid : ∃ task ∈ (run step {} past).tasks, task.connectionId = connectionId
  · obtain ⟨task, htask, rfl⟩ := hid
    obtain ⟨i, hi⟩ := List.getElem?_of_mem htask
    exact ((hrun past hp).tells i task hi).announced
  · have hnone : ∀ task ∈ (run step {} past).tasks, task.connectionId ≠ connectionId :=
      fun task htask heq => hid ⟨task, htask, heq⟩
    rw [(hrun past hp).foreign connectionId hnone]
    exact ⟨0, [], List.nil_prefix⟩

/-- A connection that is entered, relays a block and ends. -/
theorem always_announced_closing :
    Always step (fun s => ∀ connectionId, Announced connectionId (s.itemsAbout connectionId)) {}
      (forwarding ++ [.task 0 (.io (.readTarget (.ok ⟨[7], by decide⟩))),
        .task 0 (.io (.write none)), .task 0 .lock, .task 0 (.io (.readClient .error)),
        .task 0 .lock, .task 0 .lock]) := by
  apply always_announced
  simp only [forwarding, List.cons_append, List.nil_append, along_cons, along_nil]
  refine ⟨trivial, trivial, trivial, trivial, ?_, ?_, trivial, ?_, trivial, trivial, ?_, trivial,
    ?_, ?_, trivial⟩
  · intro forward _ _ task htask
    cases htask
  · rintro task relay ⟨⟩ ⟨⟩
  · rintro task relay ⟨⟩ ⟨⟩
  · rintro task relay ⟨⟩ ⟨⟩ _
    rfl
  · rintro task relay ⟨⟩ ⟨⟩ _
    rfl
  · rintro task relay ⟨⟩ ⟨⟩ (⟨n, ⟨⟩⟩ | ⟨⟨⟩, _⟩)

/-- A stopped connection is reported closed by the main loop, and again by its own task. -/
theorem always_announced_stopped_false :
    ¬ ∀ es, Always step
      (fun s => ∀ connectionId, Announced connectionId (s.itemsAbout connectionId)) {} es := by
  intro h
  obtain ⟨localPort, data, hfront⟩ := (h (forwarding ++
    [RemoteEvent.request (.stopPortForward 9090) {}, .mainTurn, .task 0 (.io .recv), .task 0 .lock,
      .task 0 .lock])).last 1
  have hitems : (run step {} (forwarding ++
      [RemoteEvent.request (.stopPortForward 9090) {}, .mainTurn, .task 0 (.io .recv),
        .task 0 .lock, .task 0 .lock])).itemsAbout 1 =
      [.newConnection 1 9090, .closeConnection 1, .closeConnection 1] := rfl
  rw [hitems] at hfront
  cases data with
  | nil => simp at hfront
  | cons block data => simp at hfront

end RemoteServer

end Yuha
