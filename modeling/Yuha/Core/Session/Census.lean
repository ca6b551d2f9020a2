import Yuha.Core.Session.ManagerCalls

/-!
# The census of the metrics

The counters of active, idle and failed sessions are adjusted one step at a time, when a
status changes and when a session is closed. They stay equal to the numbers of such
sessions in the registry, so no subtraction saturates and, as the registry is bounded by a
32-bit limit, none of them overflows. The usage of each transport is counted over the
whole life of the manager in a 32-bit counter, too, and nothing bounds that one.
-/

namespace Yuha

open Library Library.Execution Library.Program

/-! ## How the operations of the registry change the counts -/

namespace SessionRegistry

variable {registry : SessionRegistry} {metadata : SessionMetadata} {sessionId : SessionId}

theorem countByStatus_modify {f : SessionMetadata → SessionMetadata}
    (h : registry.get sessionId = some metadata) (status : SessionStatus) :
    (registry.modify sessionId f).2.countByStatus status +
        (if metadata.status = status then 1 else 0) =
      registry.countByStatus status + if (f metadata).status = status then 1 else 0 := by
  unfold get at h
  have herase := HashMap.count_erase_add (fun metadata => decide (metadata.status = status))
    registry.sessions sessionId
  rw [h] at herase
  simp only [Option.any_some, decide_eq_true_eq] at herase
  simp only [countByStatus, modify, h, HashMap.count_insert, decide_eq_true_eq]
  omega

theorem count_modify {f : SessionMetadata → SessionMetadata} :
    (registry.modify sessionId f).2.count = registry.count := by
  unfold modify
  split
  · next metadata h => simp [count, HashMap.size_insert, h]
  · rfl

theorem count_eq_zero (h : ∀ id, registry.get id = none) : registry.count = 0 := by
  refine List.length_eq_zero_iff.mpr (List.eq_nil_iff_forall_not_mem.mpr fun entry hentry => ?_)
  have hlookup : registry.get entry.1 = some entry.2 := AList.mem_lookup_iff.mpr hentry
  rw [h] at hlookup
  cases hlookup

theorem countByStatus_unregister (h : registry.get sessionId = some metadata)
    (status : SessionStatus) :
    (registry.unregister sessionId).2.countByStatus status +
        (if metadata.status = status then 1 else 0) = registry.countByStatus status := by
  unfold get at h
  have herase := HashMap.count_erase_add (fun metadata => decide (metadata.status = status))
    registry.sessions sessionId
  rw [h] at herase
  simpa [countByStatus, unregister, h, unindexConnection, removeSession] using herase

theorem count_unregister (h : registry.get sessionId = some metadata) :
    (registry.unregister sessionId).2.count + 1 = registry.count := by
  unfold get at h
  have herase := HashMap.size_erase_add registry.sessions sessionId
  rw [h] at herase
  simpa [count, unregister, h, unindexConnection, removeSession] using herase

theorem register_sessions_of_ok (h : registry.checkRegister metadata = .ok ()) :
    (registry.register metadata).2.sessions =
      AList.insert metadata.id metadata.asRegistered registry.sessions := by
  simp [register, h, indexConnection, insertSession]

theorem countByStatus_register (h : registry.checkRegister metadata = .ok ())
    (hfresh : registry.get metadata.id = none) (status : SessionStatus) :
    (registry.register metadata).2.countByStatus status =
      registry.countByStatus status + if metadata.asRegistered.status = status then 1 else 0 := by
  unfold get at hfresh
  simp [countByStatus, register_sessions_of_ok h, HashMap.count_insert,
    HashMap.erase_of_lookup_none hfresh]

theorem count_register (h : registry.checkRegister metadata = .ok ())
    (hfresh : registry.get metadata.id = none) :
    (registry.register metadata).2.count = registry.count + 1 := by
  unfold get at hfresh
  simp [count, register_sessions_of_ok h, HashMap.size_insert, hfresh]

theorem countByStatus_pos (h : registry.get sessionId = some metadata) :
    0 < registry.countByStatus metadata.status := by
  have hcount := countByStatus_unregister h metadata.status
  rw [if_pos rfl] at hcount
  omega

/-- Sessions of two different statuses are different sessions. -/
theorem countByStatus_add_le {status status' : SessionStatus} (h : status ≠ status') :
    registry.countByStatus status + registry.countByStatus status' ≤ registry.count := by
  refine HashMap.count_add_count_le (fun metadata hstatus => ?_) registry.sessions
  simp only [decide_eq_true_eq] at hstatus
  simp [hstatus, h]

end SessionRegistry

/-! ## The counters -/

/-- The metrics keep a counter of the sessions with this status. -/
def SessionStatus.IsCounted : SessionStatus → Prop
  | .active | .idle | .failed => True
  | _ => False

namespace SessionMetrics

def counter (metrics : SessionMetrics) : SessionStatus → Nat
  | .active => metrics.activeSessions
  | .idle => metrics.idleSessions
  | .failed => metrics.failedSessions
  | _ => 0

theorem counter_leaveStatus (metrics : SessionMetrics) (status status' : SessionStatus) :
    (metrics.leaveStatus status).counter status' =
      metrics.counter status' - if status = status' then 1 else 0 := by
  cases status <;> cases status' <;> rfl

theorem counter_enterStatus (metrics : SessionMetrics) (status : SessionStatus)
    {status' : SessionStatus} (h : status'.IsCounted) :
    (metrics.enterStatus status).counter status' =
      metrics.counter status' + if status = status' then 1 else 0 := by
  cases status' <;> cases h <;> cases status <;> rfl

@[simp] theorem leaveStatus_totalSessionsCreated (metrics : SessionMetrics)
    (status : SessionStatus) :
    (metrics.leaveStatus status).totalSessionsCreated = metrics.totalSessionsCreated := by
  cases status <;> rfl

@[simp] theorem leaveStatus_sessionsClosed (metrics : SessionMetrics)
    (status : SessionStatus) :
    (metrics.leaveStatus status).sessionsClosed = metrics.sessionsClosed := by
  cases status <;> rfl

@[simp] theorem enterStatus_totalSessionsCreated (metrics : SessionMetrics)
    (status : SessionStatus) :
    (metrics.enterStatus status).totalSessionsCreated = metrics.totalSessionsCreated := by
  cases status <;> rfl

@[simp] theorem enterStatus_sessionsClosed (metrics : SessionMetrics)
    (status : SessionStatus) :
    (metrics.enterStatus status).sessionsClosed = metrics.sessionsClosed := by
  cases status <;> rfl

/-- How often a transport was used. -/
def usageOf (metrics : SessionMetrics) (transportType : TransportType) : Nat :=
  (metrics.transportUsage.lookup transportType).getD 0

/-- `saturating_sub` does not saturate. -/
def LeavesExactly (metrics : SessionMetrics) (status : SessionStatus) : Prop :=
  status.IsCounted → 0 < metrics.counter status

/-- Neither the counter nor the sum for the peak leaves the range of a `u32`. -/
def EntersExactly (metrics : SessionMetrics) (status : SessionStatus) : Prop :=
  (status.IsCounted → metrics.counter status + 1 < 2 ^ 32) ∧
    (status = .active → metrics.activeSessions + 1 + metrics.idleSessions < 2 ^ 32)

/-- The counters are what a count of the registry gives. -/
structure Tallies (metrics : SessionMetrics) (registry : SessionRegistry) : Prop where
  active : metrics.activeSessions = registry.countByStatus .active
  idle : metrics.idleSessions = registry.countByStatus .idle
  failed : metrics.failedSessions = registry.countByStatus .failed
  created : metrics.totalSessionsCreated = metrics.sessionsClosed + registry.count

variable {metrics : SessionMetrics} {registry : SessionRegistry} {metadata : SessionMetadata}
  {sessionId : SessionId} {now : SystemTime}

theorem Tallies.counter_eq (h : metrics.Tallies registry) (status : SessionStatus)
    (hstatus : status.IsCounted) : metrics.counter status = registry.countByStatus status := by
  cases status <;> cases hstatus
  · exact h.active
  · exact h.idle
  · exact h.failed

theorem Tallies.of_counter
    (hcounter : ∀ status, SessionStatus.IsCounted status →
      metrics.counter status = registry.countByStatus status)
    (hcreated : metrics.totalSessionsCreated = metrics.sessionsClosed + registry.count) :
    metrics.Tallies registry :=
  ⟨hcounter .active trivial, hcounter .idle trivial, hcounter .failed trivial, hcreated⟩

/-- A registered session is counted, so it can be taken out of the count. -/
theorem Tallies.leavesExactly (h : metrics.Tallies registry)
    (hget : registry.get sessionId = some metadata) :
    metrics.LeavesExactly metadata.status := by
  intro hstatus
  rw [h.counter_eq _ hstatus]
  exact SessionRegistry.countByStatus_pos hget

theorem Tallies.markUsed (h : metrics.Tallies registry)
    (hget : registry.get sessionId = some metadata) :
    metrics.Tallies (registry.markUsed now sessionId).2 := by
  have hcount := SessionRegistry.countByStatus_modify (f := (·.markUsed now)) hget
  refine .of_counter (fun status hstatus => ?_) ?_
  · have hthis := hcount status
    rw [SessionMetadata.markUsed_status] at hthis
    rw [h.counter_eq _ hstatus, SessionRegistry.markUsed]
    omega
  · rw [SessionRegistry.markUsed, SessionRegistry.count_modify]
    exact h.created

/-- Recording a change of status brings the counters up to date with the registry. -/
theorem Tallies.recordStatusChange (h : metrics.Tallies registry) (now : SystemTime)
    (hget : registry.get sessionId = some metadata) (status : SessionStatus) :
    ((metrics.leaveStatus metadata.status).enterStatus status).Tallies
      (registry.updateStatus now sessionId status).2 := by
  refine .of_counter (fun status' hstatus' => ?_) ?_
  · have hcount := SessionRegistry.countByStatus_modify (f := (·.setStatus now status)) hget
      status'
    rw [SessionMetadata.setStatus_status] at hcount
    have hleaves := h.leavesExactly hget
    rw [counter_enterStatus _ _ hstatus', counter_leaveStatus, h.counter_eq _ hstatus',
      SessionRegistry.updateStatus]
    split at hcount
    · next heq =>
        subst heq
        have hpos := hleaves hstatus'
        rw [h.counter_eq _ hstatus'] at hpos
        simp only [if_true]
        omega
    · next hne =>
        simp only [hne, if_false]
        omega
  · simpa [SessionRegistry.updateStatus, SessionRegistry.count_modify] using h.created

/-- The counts of two statuses together stay within the limit of the registry. -/
theorem Tallies.entersExactly (h : metrics.Tallies registry)
    (hget : registry.get sessionId = some metadata) (hlimit : registry.count < 2 ^ 32)
    (status : SessionStatus) :
    (metrics.leaveStatus metadata.status).EntersExactly status := by
  have hafter : ((metrics.leaveStatus metadata.status).enterStatus status).Tallies
      (registry.updateStatus 0 sessionId status).2 := h.recordStatusChange 0 hget status
  have hcount : (registry.updateStatus 0 sessionId status).2.count = registry.count :=
    SessionRegistry.count_modify
  have hsum : (registry.updateStatus 0 sessionId status).2.countByStatus .active +
      (registry.updateStatus 0 sessionId status).2.countByStatus .idle ≤ _ :=
    SessionRegistry.countByStatus_add_le nofun
  have hle : ∀ status', (registry.updateStatus 0 sessionId status).2.countByStatus status' ≤
      registry.count := by
    intro status'
    rw [← hcount, SessionRegistry.count, ← HashMap.count_true]
    exact List.countP_mono_left fun _ _ _ => rfl
  constructor
  · intro hstatus
    have hself := hafter.counter_eq _ hstatus
    rw [counter_enterStatus _ _ hstatus, if_pos rfl] at hself
    have := hle status
    omega
  · rintro rfl
    have hactive := hafter.counter_eq .active trivial
    have hidle := hafter.counter_eq .idle trivial
    rw [counter_enterStatus _ _ (by trivial), if_pos rfl] at hactive
    rw [counter_enterStatus _ _ (by trivial), if_neg nofun] at hidle
    simp only [counter] at hactive hidle
    omega

theorem Tallies.recordSessionCreated {collector : SessionMetricsCollector}
    (h : collector.metrics.Tallies registry) (hcheck : registry.checkRegister metadata = .ok ())
    (hfresh : registry.get metadata.id = none)
    (hstatus : ¬ metadata.asRegistered.status.IsCounted) :
    (collector.recordSessionCreated metadata).metrics.Tallies
      (registry.register metadata).2 := by
  refine .of_counter (fun status hcounted => ?_) ?_
  · have hcount := SessionRegistry.countByStatus_register hcheck hfresh status
    rw [if_neg fun heq => hstatus (by rwa [heq])] at hcount
    calc (collector.recordSessionCreated metadata).metrics.counter status
      _ = collector.metrics.counter status := by cases status <;> rfl
      _ = registry.countByStatus status := h.counter_eq _ hcounted
      _ = (registry.register metadata).2.countByStatus status := hcount.symm
  · have hcreated := h.created
    rw [SessionRegistry.count_register hcheck hfresh]
    simp only [SessionMetricsCollector.recordSessionCreated]
    omega

theorem counter_recordSessionClosed (collector : SessionMetricsCollector)
    (status : SessionStatus) :
    (collector.recordSessionClosed now metadata).metrics.counter status =
      (collector.metrics.leaveStatus metadata.status).counter status := by
  unfold SessionMetricsCollector.recordSessionClosed
  cases metadata.status <;> cases status <;> rfl

theorem totals_recordSessionClosed (collector : SessionMetricsCollector) (now : SystemTime)
    (metadata : SessionMetadata) :
    (collector.recordSessionClosed now metadata).metrics.totalSessionsCreated =
        collector.metrics.totalSessionsCreated ∧
      (collector.recordSessionClosed now metadata).metrics.sessionsClosed =
        collector.metrics.sessionsClosed + 1 := by
  unfold SessionMetricsCollector.recordSessionClosed
  cases metadata.status <;> exact ⟨rfl, rfl⟩

/-- A session is unregistered, and its closure recorded with the metadata it had. -/
theorem Tallies.recordSessionClosed {collector : SessionMetricsCollector}
    (h : collector.metrics.Tallies registry) (now : SystemTime)
    (hget : registry.get sessionId = some metadata) :
    (collector.recordSessionClosed now metadata).metrics.Tallies
      (registry.unregister sessionId).2 := by
  refine .of_counter (fun status hcounted => ?_) ?_
  · have hcount := SessionRegistry.countByStatus_unregister hget status
    calc (collector.recordSessionClosed now metadata).metrics.counter status
      _ = (collector.metrics.leaveStatus metadata.status).counter status :=
        counter_recordSessionClosed collector status
      _ = registry.countByStatus status - if metadata.status = status then 1 else 0 := by
        rw [counter_leaveStatus, h.counter_eq _ hcounted]
      _ = (registry.unregister sessionId).2.countByStatus status := by omega
  · have hcount := SessionRegistry.count_unregister hget
    have hcreated := h.created
    obtain ⟨hsame, hclosed⟩ := totals_recordSessionClosed collector now metadata
    omega

end SessionMetrics

/-! ## The operations of the manager -/

/-- No counter of 32 bits saturates or overflows when this call is made. -/
def ManagerAction.CountsExactly (action : ManagerAction) (manager : SessionManager) : Prop :=
  ∀ collector, manager.metrics = some collector →
    match action with
    | .recordSessionCreated session =>
        collector.metrics.usageOf session.transportConfig.transportType + 1 < 2 ^ 32
    | .recordStatusChange _ oldStatus newStatus =>
        collector.metrics.LeavesExactly oldStatus ∧
          (collector.metrics.leaveStatus oldStatus).EntersExactly newStatus
    | .recordSessionClosed session => collector.metrics.LeavesExactly session.status
    | _ => True

namespace SessionManager

/-- The metrics agree with the registry, which is within its limit. -/
structure Counted (manager : SessionManager) : Prop where
  tallies : ∀ collector, manager.metrics = some collector →
    collector.metrics.Tallies manager.registry
  count_le : manager.registry.count ≤ manager.registry.config.maxSessions
  limit : manager.registry.config.maxSessions < 2 ^ 32

variable {manager : SessionManager} {now : SystemTime} {sessionId : SessionId}
  {metadata : SessionMetadata}

theorem counted_new {config : SessionManagerConfig}
    (hlimit : config.registry.maxSessions < 2 ^ 32) : (new config).Counted where
  tallies collector hcollector := by
    cases hmetrics : config.enableMetrics with
    | false => simp [new, hmetrics] at hcollector
    | true =>
        obtain rfl : {} = collector := by simpa [new, hmetrics] using hcollector
        exact ⟨rfl, rfl, rfl, rfl⟩
  count_le := Nat.zero_le _
  limit := hlimit

theorem Counted.of_eq (h : manager.Counted) {manager' : SessionManager}
    (hregistry : manager'.registry = manager.registry)
    (hmetrics : manager'.metrics = manager.metrics) : manager'.Counted where
  tallies collector hcollector := hregistry ▸ h.tallies collector (hmetrics ▸ hcollector)
  count_le := hregistry ▸ h.count_le
  limit := hregistry ▸ h.limit

/-- Counters the census does not look at may change. -/
theorem Counted.record (h : manager.Counted)
    {f : SessionMetricsCollector → SessionMetricsCollector}
    (hf : ∀ collector, collector.metrics.Tallies manager.registry →
      (f collector).metrics.Tallies manager.registry) : (manager.record f).2.Counted where
  tallies collector hcollector := by
    obtain ⟨before, hbefore, rfl⟩ := Option.map_eq_some_iff.mp hcollector
    exact hf before (h.tallies before hbefore)
  count_le := h.count_le
  limit := h.limit

theorem tallies_recordTransition {collector : SessionMetricsCollector}
    {registry : SessionRegistry} (h : collector.metrics.Tallies registry) (now : SystemTime)
    (hget : registry.get sessionId = some metadata) (status : SessionStatus) :
    (recordTransition metadata.status status collector).metrics.Tallies
      (registry.updateStatus now sessionId status).2 := by
  obtain ⟨hactive, hidle, hfailed, hcreated⟩ := h.recordStatusChange now hget status
  unfold recordTransition
  dsimp only
  split
  · split <;> exact ⟨hactive, hidle, hfailed, hcreated⟩
  · split <;> exact ⟨hactive, hidle, hfailed, hcreated⟩
  · exact ⟨hactive, hidle, hfailed, hcreated⟩

end SessionManager

namespace ManagerProgram

open SessionManager (exec)

variable {config : SessionManagerConfig} {manager : SessionManager} (ambient : Ambient)

/-- Run alone, the program saturates and overflows no counter, and leaves the metrics in
agreement with the registry. -/
def Counts {α : Type} (p : ManagerProgram α) (manager : SessionManager) : Prop :=
  p.Each (exec ambient) ManagerAction.CountsExactly manager ∧
    (p.run (exec ambient) manager).2.Counted

theorem Counts.bind {α β : Type} {p : ManagerProgram α} {f : α → ManagerProgram β}
    (hp : p.Each (exec ambient) ManagerAction.CountsExactly manager)
    (hf : Counts ambient (f (p.run (exec ambient) manager).1)
      (p.run (exec ambient) manager).2) : Counts ambient (p >>= f) manager := by
  unfold Counts at hf ⊢
  rw [each_bind, run_bind]
  exact ⟨⟨hp, hf.1⟩, hf.2⟩

theorem Counts.bind_pure {α β : Type} {p : ManagerProgram α} (hp : Counts ambient p manager)
    (result : α → β) : Counts ambient (p >>= fun answer => pure (result answer)) manager :=
  .bind ambient hp.1 ⟨trivial, hp.2⟩

theorem Counts.whenMetrics (hmetrics : config.enableMetrics = true) {p : ManagerProgram Unit}
    (hp : Counts ambient p manager) : Counts ambient (whenMetrics config p) manager := by
  unfold ManagerProgram.whenMetrics
  rwa [if_pos hmetrics]

theorem counts_await_bind {α : Type} {action : ManagerAction}
    {f : action.Answer → ManagerProgram α} :
    Counts ambient (action.await >>= f) manager ↔
      action.CountsExactly manager ∧
        Counts ambient (f (exec ambient action manager).1) (exec ambient action manager).2 :=
  and_assoc

/-- A call that records nothing counts nothing. -/
theorem Counts.await_bind {α : Type} {action : ManagerAction}
    {f : action.Answer → ManagerProgram α}
    (hf : Counts ambient (f (exec ambient action manager).1) (exec ambient action manager).2)
    (haction : action.CountsExactly manager) :
    Counts ambient (action.await >>= f) manager :=
  (counts_await_bind ambient).mpr ⟨haction, hf⟩

theorem each_poolByStatus (sessionId : SessionId) (status : SessionStatus) :
    (poolByStatus sessionId status).Each (exec ambient) ManagerAction.CountsExactly manager := by
  cases status with
  | idle =>
      refine ⟨fun _ _ => trivial, ?_⟩
      dsimp only [exec]
      cases manager.registry.get sessionId with
      | none => trivial
      | some metadata => exact ⟨fun _ _ => trivial, trivial⟩
  | active | failed | closed => exact ⟨fun _ _ => trivial, trivial⟩
  | creating | connecting | reconnecting | closing => trivial

/-- The transition is recorded after the registry was updated, and after the pool was. -/
theorem counts_recordTransition (h : manager.Counted) {sessionId : SessionId}
    {metadata : SessionMetadata} (hget : manager.registry.get sessionId = some metadata)
    (status : SessionStatus) {updated : SessionManager}
    (hregistry : updated.registry =
      (manager.registry.updateStatus ambient.now sessionId status).2)
    (hmetrics : updated.metrics = manager.metrics) :
    Counts ambient (recordTransition sessionId metadata.status status) updated := by
  have hcount : updated.registry.count = manager.registry.count := by
    rw [hregistry]
    exact SessionRegistry.count_modify
  have hconfig : updated.registry.config = manager.registry.config := by
    rw [hregistry]
    exact SessionRegistry.modify_config _ _ _
  refine ⟨⟨?_, ?_⟩, ?_⟩
  · intro collector hcollector
    rw [hmetrics] at hcollector
    have htallies := h.tallies collector hcollector
    refine ⟨htallies.leavesExactly hget, htallies.entersExactly hget ?_ status⟩
    exact h.count_le.trans_lt h.limit
  · cases status with
    | active | failed =>
        dsimp only
        split
        · exact ⟨fun _ _ => trivial, trivial⟩
        · trivial
    | idle | closed | creating | connecting | reconnecting | closing => trivial
  · rw [run_recordTransition]
    refine ⟨fun collector hcollector => ?_, ?_, ?_⟩
    · obtain ⟨before, hbefore, rfl⟩ := Option.map_eq_some_iff.mp hcollector
      rw [hmetrics] at hbefore
      have htallies := SessionManager.tallies_recordTransition (h.tallies before hbefore)
        ambient.now hget status
      rw [← hregistry] at htallies
      exact htallies
    · exact (hcount.trans_le h.count_le).trans_eq (congrArg _ hconfig.symm)
    · exact (congrArg _ hconfig).trans_lt h.limit

theorem counts_updateSessionStatus (hmetrics : config.enableMetrics = true)
    (h : manager.Counted) (sessionId : SessionId) (status : SessionStatus) :
    Counts ambient (updateSessionStatus config sessionId status) manager := by
  refine Counts.await_bind ambient ?_ fun _ _ => trivial
  simp only [exec]
  cases hget : manager.registry.get sessionId with
  | none => exact ⟨trivial, h⟩
  | some metadata =>
      refine Counts.await_bind ambient ?_ fun _ _ => trivial
      have hok : (manager.registry.updateStatus ambient.now sessionId status).1 = .ok () :=
        SessionRegistry.modify_fst_of_some hget
      simp only [exec, SessionManager.withRegistry, hok]
      apply Counts.bind ambient (each_poolByStatus ambient sessionId status)
      rw [run_poolByStatus]
      refine Counts.bind_pure ambient (.whenMetrics ambient hmetrics ?_) _
      exact counts_recordTransition ambient h hget status rfl rfl

theorem each_recordUsage (sessionId : SessionId) :
    (recordUsage sessionId).Each (exec ambient) ManagerAction.CountsExactly manager := by
  refine ⟨fun _ _ => trivial, ?_⟩
  dsimp only [exec]
  cases manager.registry.get sessionId with
  | none => trivial
  | some metadata => exact ⟨fun _ _ => trivial, trivial⟩

theorem tallies_recordUsage (sessionId : SessionId) (found : Option SessionMetadata)
    {registry : SessionRegistry} (collector : SessionMetricsCollector)
    (h : collector.metrics.Tallies registry) :
    (match found with
      | some metadata => collector.recordSessionUsage sessionId metadata.useCount
      | none => collector).metrics.Tallies registry := by
  cases found with
  | none => exact h
  | some metadata => exact ⟨h.active, h.idle, h.failed, h.created⟩

theorem counts_useSession (hmetrics : config.enableMetrics = true) (h : manager.Counted)
    (sessionId : SessionId) : Counts ambient (useSession config sessionId) manager := by
  refine Counts.await_bind ambient ?_ fun _ _ => trivial
  cases hget : manager.registry.get sessionId with
  | none =>
      have hmark : manager.registry.markUsed ambient.now sessionId =
          (.error (.notFound sessionId.toString), manager.registry) :=
        SessionRegistry.modify_of_none hget
      simp only [exec, SessionManager.withRegistry, hmark]
      exact ⟨trivial, h⟩
  | some metadata =>
      have hok : (manager.registry.markUsed ambient.now sessionId).1 = .ok () :=
        SessionRegistry.modify_fst_of_some hget
      have hmarked : { manager with
          registry := (manager.registry.markUsed ambient.now sessionId).2 }.Counted := by
        refine ⟨fun collector hcollector => ?_, ?_, ?_⟩
        · exact (h.tallies collector hcollector).markUsed hget
        · exact (SessionRegistry.count_modify.trans_le h.count_le).trans_eq
            (congrArg _ (SessionRegistry.modify_config _ _ _).symm)
        · exact (congrArg _ (SessionRegistry.modify_config _ _ _)).trans_lt h.limit
      simp only [exec, SessionManager.withRegistry, hok]
      unfold whenMetrics
      rw [if_pos hmetrics]
      apply Counts.bind ambient (each_recordUsage ambient sessionId)
      rw [run_recordUsage]
      have hrecorded := hmarked.record (f := fun collector =>
        match (manager.registry.markUsed ambient.now sessionId).2.get sessionId with
        | some metadata => collector.recordSessionUsage sessionId metadata.useCount
        | none => collector) (tallies_recordUsage sessionId _)
      refine Counts.await_bind ambient ?_ fun _ _ => trivial
      simp only [exec]
      split
      · split
        · exact counts_updateSessionStatus ambient hmetrics hrecorded sessionId .active
        · exact ⟨trivial, hrecorded⟩
      · exact ⟨trivial, hrecorded⟩

/-- An unregistered session's closure is recorded with the metadata the registry gave. -/
theorem counts_recordSessionClosed (h : manager.Counted) {sessionId : SessionId}
    {metadata : SessionMetadata} (hget : manager.registry.get sessionId = some metadata)
    {removed : SessionManager}
    (hregistry : removed.registry = (manager.registry.unregister sessionId).2)
    (hmetrics : removed.metrics = manager.metrics) :
    Counts ambient (ManagerAction.recordSessionClosed metadata).await removed := by
  have hcount := SessionRegistry.count_unregister hget
  have hconfig : removed.registry.config = manager.registry.config := by
    rw [hregistry]
    exact SessionRegistry.unregister_config _ _
  refine ⟨⟨fun collector hcollector => ?_, trivial⟩, fun collector hcollector => ?_, ?_, ?_⟩
  · rw [hmetrics] at hcollector
    exact (h.tallies collector hcollector).leavesExactly hget
  · obtain ⟨before, hbefore, rfl⟩ := Option.map_eq_some_iff.mp hcollector
    rw [hmetrics] at hbefore
    have htallies := (h.tallies before hbefore).recordSessionClosed ambient.now hget
    rw [← hregistry] at htallies
    exact htallies
  · change removed.registry.count ≤ removed.registry.config.maxSessions
    rw [hconfig, hregistry]
    have := h.count_le
    omega
  · exact (congrArg _ hconfig).trans_lt h.limit

theorem counts_closeSession (hmetrics : config.enableMetrics = true) (h : manager.Counted)
    (sessionId : SessionId) : Counts ambient (closeSession config sessionId) manager := by
  refine Counts.await_bind ambient ?_ fun _ _ => trivial
  simp only [exec]
  have hclosing := counts_updateSessionStatus ambient hmetrics h sessionId .closing
  apply Counts.bind ambient hclosing.1
  have hcounted := hclosing.2
  generalize (updateSessionStatus config sessionId .closing).run (exec ambient) manager =
    result at hcounted
  obtain ⟨_ | _, closing⟩ := result
  · exact ⟨trivial, hcounted⟩
  · refine Counts.await_bind ambient ?_ fun _ _ => trivial
    refine Counts.await_bind ambient ?_ fun _ _ => trivial
    have hfst := closing.registry.unregister_fst sessionId
    simp only [exec, SessionManager.withPool, SessionManager.withRegistry, hfst]
    cases hget : closing.registry.get sessionId with
    | none =>
        rw [SessionRegistry.unregister_of_none hget]
        exact ⟨trivial, hcounted.of_eq rfl rfl⟩
    | some metadata =>
        refine Counts.bind_pure ambient (.whenMetrics ambient hmetrics ?_) _
        exact counts_recordSessionClosed ambient hcounted hget rfl rfl

theorem counts_expireSession (hmetrics : config.enableMetrics = true) (h : manager.Counted)
    (session : SessionMetadata) : Counts ambient (expireSession config session) manager := by
  refine Counts.await_bind ambient ?_ fun _ _ => trivial
  split
  · refine Counts.await_bind ambient ?_ fun _ _ => trivial
    have hfst := manager.registry.unregister_fst session.id
    simp only [exec, SessionManager.withRegistry, hfst]
    cases hget : manager.registry.get session.id with
    | none =>
        rw [SessionRegistry.unregister_of_none hget]
        exact ⟨trivial, h.of_eq rfl rfl⟩
    | some metadata =>
        refine Counts.await_bind ambient ?_ fun _ _ => trivial
        refine Counts.bind_pure ambient (.whenMetrics ambient hmetrics ?_) _
        exact counts_recordSessionClosed ambient h hget rfl rfl
  · exact ⟨trivial, h⟩

theorem counts_expireSessions (hmetrics : config.enableMetrics = true) (h : manager.Counted)
    (sessions : List SessionMetadata) :
    Counts ambient (expireSessions config sessions) manager := by
  induction sessions generalizing manager with
  | nil => exact ⟨trivial, h⟩
  | cons session sessions ih =>
      have hfirst := counts_expireSession ambient hmetrics h session
      exact .bind ambient hfirst.1 (.bind_pure ambient (ih hfirst.2) _)

theorem counts_cleanup (hmetrics : config.enableMetrics = true) (h : manager.Counted) :
    Counts ambient (cleanup config) manager := by
  refine Counts.await_bind ambient ?_ fun _ _ => trivial
  have hexpired := counts_expireSessions ambient hmetrics h
    (manager.registry.listAll ambient.rank)
  refine Counts.bind ambient hexpired.1 ?_
  have hcounted := hexpired.2
  simp only [exec]
  generalize (expireSessions config (manager.registry.listAll ambient.rank)).run (exec ambient)
    manager = result at hcounted ⊢
  obtain ⟨expired, cleaned⟩ := result
  refine Counts.await_bind ambient ?_ fun _ _ => trivial
  refine Counts.bind_pure ambient (.whenMetrics ambient hmetrics ?_) _
  have hpooled : { cleaned with
      pool := (cleaned.pool.cleanupExpired ambient.now ambient.rank
        config.lifecycle.maxIdleTime).2 }.Counted := hcounted.of_eq rfl rfl
  refine ⟨⟨fun _ _ => trivial, trivial⟩, hpooled.record fun collector htallies => ?_⟩
  exact ⟨htallies.active, htallies.idle, htallies.failed, htallies.created⟩

/-! ## Creating sessions -/

section CreateSession

variable (name : String) (transportConfig : TransportConfig) (tags : List String)
  (description : Option String)

theorem createSession_snd_of_ok {name : String} {transportConfig : TransportConfig}
    {tags : List String} {description : Option String}
    (hcheck : manager.registry.checkRegister (.new ambient.now ambient.freshId name
      transportConfig tags description) = .ok ()) :
    (manager.createSession ambient.now ambient.freshId name transportConfig tags
        description).2 =
      { manager with
        registry := (manager.registry.register (.new ambient.now ambient.freshId name
          transportConfig tags description)).2
        metrics := manager.metrics.map (·.recordSessionCreated (.new ambient.now
          ambient.freshId name transportConfig tags description)) } := by
  have hfst := SessionRegistry.register_fst_of_ok hcheck
  unfold SessionManager.createSession
  dsimp only
  generalize manager.registry.register (.new ambient.now ambient.freshId name transportConfig
    tags description) = result at hfst
  obtain ⟨outcome, registry⟩ := result
  obtain rfl : outcome = _ := hfst
  rfl

theorem counted_createSession (h : manager.Counted)
    (hfresh : manager.getSession ambient.freshId = none) :
    (manager.createSession ambient.now ambient.freshId name transportConfig tags
      description).2.Counted := by
  cases hcheck : manager.registry.checkRegister (.new ambient.now ambient.freshId name
      transportConfig tags description) with
  | error e =>
      rw [SessionManager.createSession_of_error hcheck]
      exact h
  | ok _ =>
      have hcount := SessionRegistry.count_register hcheck hfresh
      have hconfig := manager.registry.register_config (.new ambient.now ambient.freshId name
        transportConfig tags description)
      have hroom := ((manager.registry.checkRegister_eq_ok_iff _).mp hcheck).1
      rw [createSession_snd_of_ok ambient hcheck]
      refine ⟨fun collector hcollector => ?_, ?_, ?_⟩
      · obtain ⟨before, hbefore, rfl⟩ := Option.map_eq_some_iff.mp hcollector
        exact (h.tallies before hbefore).recordSessionCreated hcheck hfresh id
      · dsimp only
        rw [hconfig, hcount]
        exact hroom
      · dsimp only
        rw [hconfig]
        exact h.limit

/-- Creating a session counts exactly if its transport has not been used too often. -/
theorem each_createSession_iff (hmetrics : config.enableMetrics = true)
    {collector : SessionMetricsCollector} (hcollector : manager.metrics = some collector) :
    (createSession config name transportConfig tags description).Each (exec ambient)
        ManagerAction.CountsExactly manager ↔
      (manager.registry.checkRegister (.new ambient.now ambient.freshId name transportConfig
          tags description) = .ok () →
        collector.metrics.usageOf transportConfig.transportType + 1 < 2 ^ 32) := by
  unfold createSession
  simp only [perform_bind, each_call]
  refine (and_iff_right fun _ _ => trivial).trans ((and_iff_right fun _ _ => trivial).trans ?_)
  simp only [exec, SessionManager.withRegistry]
  cases hcheck : manager.registry.checkRegister (.new ambient.now ambient.freshId name
      transportConfig tags description) with
  | error e =>
      rw [SessionRegistry.register_of_error hcheck]
      apply iff_of_true trivial
      rintro ⟨⟩
  | ok _ =>
      simp only [SessionRegistry.register_fst_of_ok hcheck, whenMetrics, hmetrics, if_true,
        perform_bind, each_call]
      refine (and_iff_left trivial).trans ⟨fun hexact _ => ?_, fun hroom => ?_⟩
      · exact hexact collector hcollector
      · intro collector' hcollector'
        obtain rfl : collector = collector' := Option.some.inj (hcollector.symm.trans hcollector')
        exact hroom trivial

end CreateSession

end ManagerProgram

/-! ## Sequences of operations -/

/-- The operation replaces no metadata, and with it a status, as a whole. -/
def ManagerTask.SparesMetadata : ManagerTask → Prop
  | .updateSessionMetadata _ _ => False
  | _ => True

namespace SessionManager

/-- There are metrics, and they agree with the registry. -/
def CensusHolds (manager : SessionManager) : Prop :=
  ∃ collector, manager.metrics = some collector ∧ collector.metrics.Tallies manager.registry

variable {config : SessionManagerConfig} {manager : SessionManager}

theorem Counted.apply (h : manager.Counted) (hbuilt : manager.BuiltFrom config)
    (hmetrics : config.enableMetrics = true) {op : ManagerOp}
    (hfresh : manager.getSession op.ambient.freshId = none)
    (hspares : op.task.SparesMetadata) : (manager.apply op).Counted := by
  obtain ⟨task, ambient⟩ := op
  cases task with
  | createSession name transportConfig tags description =>
      exact ManagerProgram.counted_createSession ambient name transportConfig tags description
        h hfresh
  | updateSessionStatus sessionId status =>
      have hcounts := ManagerProgram.counts_updateSessionStatus ambient hmetrics h sessionId
        status
      rw [ManagerProgram.Counts, ManagerProgram.run_updateSessionStatus ambient hbuilt]
        at hcounts
      exact hcounts.2
  | useSession sessionId =>
      have hcounts := ManagerProgram.counts_useSession ambient hmetrics h sessionId
      rw [ManagerProgram.Counts, ManagerProgram.run_useSession ambient hbuilt] at hcounts
      exact hcounts.2
  | closeSession sessionId =>
      have hcounts := ManagerProgram.counts_closeSession ambient hmetrics h sessionId
      rw [ManagerProgram.Counts, ManagerProgram.run_closeSession ambient hbuilt] at hcounts
      exact hcounts.2
  | connectOrCreateSession name transportConfig =>
      simp only [SessionManager.apply, connectOrCreateSession_snd]
      cases manager.findReusableSession ambient.now transportConfig.connectionKey with
      | some sessionId =>
          have hcounts := ManagerProgram.counts_useSession ambient hmetrics h sessionId
          rw [ManagerProgram.Counts, ManagerProgram.run_useSession ambient hbuilt] at hcounts
          exact hcounts.2
      | none =>
          exact ManagerProgram.counted_createSession ambient name transportConfig [] none h
            hfresh
  | updateSessionMetadata sessionId metadata => cases hspares
  | cleanup =>
      have hcounts := ManagerProgram.counts_cleanup ambient hmetrics h
      rw [ManagerProgram.Counts, ManagerProgram.run_cleanup ambient hbuilt] at hcounts
      exact hcounts.2

end SessionManager

end Yuha
