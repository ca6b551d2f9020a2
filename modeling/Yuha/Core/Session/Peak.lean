import Yuha.Core.Session.Census
import Yuha.Library.RunningMax

/-!
# The peak of the metrics

The metrics keep the greatest number of sessions that were active or idle at once. They
raise it where a session becomes active, but not where one becomes idle, so a session that
becomes idle without having been counted is missed. And the counters have 32 bits: metadata
that are replaced as a whole make sessions active that were never counted out before.
-/

namespace Yuha

open Library Library.Execution

namespace SessionMetrics

/-- The number whose greatest value is the peak. -/
def concurrent (metrics : SessionMetrics) : Nat := metrics.activeSessions + metrics.idleSessions

/-- The peak stays, and no more sessions are active or idle than before. -/
structure Lowers (metrics metrics' : SessionMetrics) : Prop where
  peak : metrics'.peakConcurrentSessions = metrics.peakConcurrentSessions
  concurrent : metrics'.concurrent ≤ metrics.concurrent

theorem lowers_leaveStatus (metrics : SessionMetrics) (status : SessionStatus) :
    metrics.Lowers (metrics.leaveStatus status) := by
  cases status with
  | active => exact ⟨rfl, Nat.add_le_add_right (Nat.sub_le _ _) _⟩
  | idle => exact ⟨rfl, Nat.add_le_add_left (Nat.sub_le _ _) _⟩
  | failed | creating | connecting | reconnecting | closing | closed => exact ⟨rfl, Nat.le_refl _⟩

/-- Where a session becomes active, the peak is raised. -/
theorem peak_enterStatus_active (metrics : SessionMetrics) :
    (metrics.enterStatus .active).peakConcurrentSessions =
      max metrics.peakConcurrentSessions (metrics.enterStatus .active).concurrent := by
  simp only [enterStatus, concurrent]
  split <;> omega

theorem enterStatus_idle (metrics : SessionMetrics) :
    (metrics.enterStatus .idle).peakConcurrentSessions = metrics.peakConcurrentSessions ∧
      (metrics.enterStatus .idle).concurrent = metrics.concurrent + 1 := by
  simp only [enterStatus, concurrent, true_and]
  omega

theorem lowers_enterStatus {status : SessionStatus} (hactive : status ≠ .active)
    (hidle : status ≠ .idle) (metrics : SessionMetrics) :
    metrics.Lowers (metrics.enterStatus status) := by
  cases status with
  | active => exact absurd rfl hactive
  | idle => exact absurd rfl hidle
  | failed | creating | connecting | reconnecting | closing | closed => exact ⟨rfl, Nat.le_refl _⟩

theorem Lowers.trans {first second third : SessionMetrics} (h : first.Lowers second)
    (h' : second.Lowers third) : first.Lowers third :=
  ⟨h'.peak.trans h.peak, h'.concurrent.trans h.concurrent⟩

/-- A session with this status is counted as active or idle. -/
def CountsAs (metrics : SessionMetrics) (status : SessionStatus) : Prop :=
  status = .active ∧ 0 < metrics.activeSessions ∨ status = .idle ∧ 0 < metrics.idleSessions

/-- The session is counted as active or idle, or more were at some time. -/
def RoomForIdle (metrics : SessionMetrics) (oldStatus : SessionStatus) : Prop :=
  metrics.CountsAs oldStatus ∨ metrics.concurrent < metrics.peakConcurrentSessions

/-- The session is counted as active or idle, or a `u32` can count one more. -/
def RoomForActive (metrics : SessionMetrics) (oldStatus : SessionStatus) : Prop :=
  metrics.CountsAs oldStatus ∨ metrics.concurrent + 1 < 2 ^ 32

theorem concurrent_leaveStatus (metrics : SessionMetrics) (status : SessionStatus) :
    metrics.CountsAs status ∧ (metrics.leaveStatus status).concurrent + 1 = metrics.concurrent ∨
      ¬ metrics.CountsAs status ∧
        (metrics.leaveStatus status).concurrent = metrics.concurrent := by
  unfold CountsAs concurrent
  cases status <;> simp only [leaveStatus, reduceCtorEq, false_and, true_and, false_or, or_false,
    not_false_iff, or_true] <;> omega

theorem roomForIdle_iff {metrics : SessionMetrics}
    (h : metrics.concurrent ≤ metrics.peakConcurrentSessions) (oldStatus : SessionStatus) :
    metrics.RoomForIdle oldStatus ↔
      (metrics.leaveStatus oldStatus).concurrent < metrics.peakConcurrentSessions := by
  unfold RoomForIdle
  rcases metrics.concurrent_leaveStatus oldStatus with ⟨hcounted, hleft⟩ | ⟨hnot, hleft⟩
  · exact iff_of_true (.inl hcounted) (by omega)
  · rw [hleft, or_iff_right hnot]

theorem roomForActive_iff {metrics : SessionMetrics} (h : metrics.concurrent < 2 ^ 32)
    (oldStatus : SessionStatus) :
    metrics.RoomForActive oldStatus ↔
      ((metrics.leaveStatus oldStatus).enterStatus .active).concurrent < 2 ^ 32 := by
  have henter : ((metrics.leaveStatus oldStatus).enterStatus .active).concurrent =
      (metrics.leaveStatus oldStatus).concurrent + 1 := by
    simp only [enterStatus, concurrent]
    omega
  unfold RoomForActive
  rw [henter]
  rcases metrics.concurrent_leaveStatus oldStatus with ⟨hcounted, hleft⟩ | ⟨hnot, hleft⟩
  · exact iff_of_true (.inl hcounted) (hleft ▸ h)
  · rw [hleft, or_iff_right hnot]

end SessionMetrics

namespace SessionManager

def concurrentSessions (manager : SessionManager) : Nat :=
  (manager.metrics.map (·.metrics.concurrent)).getD 0

def peakSessions (manager : SessionManager) : Nat :=
  (manager.metrics.map (·.metrics.peakConcurrentSessions)).getD 0

/-- A session that becomes idle is counted as active or idle, or more were at some time. -/
def IdlesWithinPeak (manager : SessionManager) (op : ManagerOp) : Prop :=
  ∀ (sessionId : SessionId) (metadata : SessionMetadata) (collector : SessionMetricsCollector),
    op.task = .updateSessionStatus sessionId .idle →
      manager.getSession sessionId = some metadata → manager.metrics = some collector →
        collector.metrics.RoomForIdle metadata.status

/-- The operation makes this session active, if it is registered with this status: a use only
does so if it is idle. -/
def Activates (manager : SessionManager) (op : ManagerOp) (sessionId : SessionId)
    (oldStatus : SessionStatus) : Prop :=
  match op.task with
  | .updateSessionStatus id status => id = sessionId ∧ status = .active
  | .useSession id => id = sessionId ∧ oldStatus = .idle
  | .connectOrCreateSession _ transportConfig =>
      manager.findReusableSession op.ambient.now transportConfig.connectionKey =
        some sessionId ∧ oldStatus = .idle
  | _ => False

/-- A session that becomes active is counted as active or idle, or a `u32` can count one
more. -/
def ActivatesWithinRange (manager : SessionManager) (op : ManagerOp) : Prop :=
  ∀ (sessionId : SessionId) (metadata : SessionMetadata) (collector : SessionMetricsCollector),
    manager.Activates op sessionId metadata.status →
      manager.getSession sessionId = some metadata → manager.metrics = some collector →
        collector.metrics.RoomForActive metadata.status

/-- The peak stays, and no more sessions are active or idle than before. -/
structure Lowers (manager manager' : SessionManager) : Prop where
  peak : manager'.peakSessions = manager.peakSessions
  concurrent : manager'.concurrentSessions ≤ manager.concurrentSessions

variable {manager manager' : SessionManager} {now : SystemTime} {sessionId : SessionId}
  {status : SessionStatus}

theorem lowers_of_eq (h : manager'.metrics = manager.metrics) : manager.Lowers manager' := by
  constructor
  · simp only [peakSessions, h]
  · simp only [concurrentSessions, h, Nat.le_refl]

theorem lowers_of_map {f : SessionMetricsCollector → SessionMetricsCollector}
    (h : manager'.metrics = manager.metrics.map f)
    (hf : ∀ collector : SessionMetricsCollector,
      collector.metrics.Lowers (f collector).metrics) :
    manager.Lowers manager' := by
  cases hmetrics : manager.metrics with
  | none => exact lowers_of_eq (by rw [h, hmetrics, Option.map_none])
  | some collector =>
      constructor
      · simp [peakSessions, h, hmetrics, (hf collector).peak]
      · simpa [concurrentSessions, h, hmetrics] using (hf collector).concurrent

theorem Lowers.trans {first second third : SessionManager} (h : first.Lowers second)
    (h' : second.Lowers third) : first.Lowers third :=
  ⟨h'.peak.trans h.peak, h'.concurrent.trans h.concurrent⟩

/-- The peak is raised to the number of sessions that are active or idle. -/
def RaisesTo (manager manager' : SessionManager) : Prop :=
  manager'.peakSessions = max manager.peakSessions manager'.concurrentSessions

theorem Lowers.raisesTo (h : manager.Lowers manager')
    (hpeak : manager.concurrentSessions ≤ manager.peakSessions) : manager.RaisesTo manager' := by
  have hle := h.concurrent.trans hpeak
  rw [RaisesTo, h.peak, Nat.max_eq_left hle]

theorem Lowers.trans_raisesTo {manager'' : SessionManager} (h : manager.Lowers manager')
    (h' : manager'.RaisesTo manager'') : manager.RaisesTo manager'' := by
  rw [RaisesTo, h', h.peak]

/-- What an operation does to the metrics decides whether it raises the peak. -/
theorem raisesTo_iff_of_map {f : SessionMetricsCollector → SessionMetricsCollector}
    (h : manager'.metrics = manager.metrics.map f)
    (hpeak : manager.concurrentSessions ≤ manager.peakSessions) :
    manager.RaisesTo manager' ↔ ∀ collector, manager.metrics = some collector →
      (f collector).metrics.peakConcurrentSessions =
        max collector.metrics.peakConcurrentSessions (f collector).metrics.concurrent := by
  cases hmetrics : manager.metrics with
  | none =>
      have hsame : manager'.metrics = manager.metrics := by rw [h, hmetrics, Option.map_none]
      exact iff_of_true ((lowers_of_eq hsame).raisesTo hpeak) (by simp)
  | some collector => simp [RaisesTo, peakSessions, concurrentSessions, h, hmetrics]

/-! ## What the operations record -/

theorem metrics_recordTransition (oldStatus status : SessionStatus)
    (collector : SessionMetricsCollector) :
    (recordTransition oldStatus status collector).metrics.peakConcurrentSessions =
        ((collector.metrics.leaveStatus oldStatus).enterStatus status).peakConcurrentSessions ∧
      (recordTransition oldStatus status collector).metrics.concurrent =
        ((collector.metrics.leaveStatus oldStatus).enterStatus status).concurrent := by
  unfold recordTransition
  cases status with
  | active | failed =>
      simp only
      split <;> exact ⟨rfl, rfl⟩
  | idle | creating | connecting | reconnecting | closing | closed => exact ⟨rfl, rfl⟩

theorem lowers_recordTransition (hactive : status ≠ .active) (hidle : status ≠ .idle)
    (oldStatus : SessionStatus) (collector : SessionMetricsCollector) :
    collector.metrics.Lowers (recordTransition oldStatus status collector).metrics := by
  obtain ⟨hpeak, hconcurrent⟩ := metrics_recordTransition oldStatus status collector
  have h := (collector.metrics.lowers_leaveStatus oldStatus).trans
    (SessionMetrics.lowers_enterStatus hactive hidle _)
  exact ⟨hpeak.trans h.peak, hconcurrent.trans_le h.concurrent⟩

theorem lowers_recordSessionClosed (collector : SessionMetricsCollector) (now : SystemTime)
    (session : SessionMetadata) :
    collector.metrics.Lowers (collector.recordSessionClosed now session).metrics := by
  have h := collector.metrics.lowers_leaveStatus session.status
  unfold SessionMetricsCollector.recordSessionClosed
  cases hstatus : session.status <;> rw [hstatus] at h <;> exact ⟨h.peak, h.concurrent⟩

theorem lowers_recordSessionUsage (collector : SessionMetricsCollector) (sessionId : SessionId)
    (usageCount : Nat) :
    collector.metrics.Lowers (collector.recordSessionUsage sessionId usageCount).metrics :=
  ⟨rfl, Nat.le_refl _⟩

theorem metrics_updateSessionStatus {metadata : SessionMetadata}
    (hget : manager.getSession sessionId = some metadata) :
    (manager.updateSessionStatus now sessionId status).2.metrics =
      manager.metrics.map (recordTransition metadata.status status) := by
  rw [updateSessionStatus_of_some hget]

/-- A session that becomes active raises the peak. -/
theorem raisesTo_updateSessionStatus_active
    (hpeak : manager.concurrentSessions ≤ manager.peakSessions) :
    manager.RaisesTo (manager.updateSessionStatus now sessionId .active).2 := by
  cases hget : manager.getSession sessionId with
  | none =>
      rw [updateSessionStatus_of_none hget]
      exact (lowers_of_eq rfl).raisesTo hpeak
  | some metadata =>
      apply (raisesTo_iff_of_map (metrics_updateSessionStatus hget) hpeak).mpr
      intro collector _
      obtain ⟨hafterPeak, hafterConcurrent⟩ :=
        metrics_recordTransition metadata.status .active collector
      rw [hafterPeak, hafterConcurrent, SessionMetrics.peak_enterStatus_active,
        (collector.metrics.lowers_leaveStatus metadata.status).peak]

/-- A session that becomes idle does not, so there has to be room below it. -/
theorem raisesTo_updateSessionStatus_idle_iff
    (hpeak : manager.concurrentSessions ≤ manager.peakSessions) :
    manager.RaisesTo (manager.updateSessionStatus now sessionId .idle).2 ↔
      ∀ metadata collector, manager.getSession sessionId = some metadata →
        manager.metrics = some collector → collector.metrics.RoomForIdle metadata.status := by
  cases hget : manager.getSession sessionId with
  | none =>
      rw [updateSessionStatus_of_none hget]
      exact iff_of_true ((lowers_of_eq rfl).raisesTo hpeak) (by simp)
  | some metadata =>
      have hraises : ∀ collector, manager.metrics = some collector →
          ((recordTransition metadata.status .idle collector).metrics.peakConcurrentSessions =
            max collector.metrics.peakConcurrentSessions
              (recordTransition metadata.status .idle collector).metrics.concurrent ↔
            collector.metrics.RoomForIdle metadata.status) := by
        intro collector hmetrics
        obtain ⟨hafterPeak, hafterConcurrent⟩ :=
          metrics_recordTransition metadata.status .idle collector
        obtain ⟨henterPeak, henterConcurrent⟩ :=
          (collector.metrics.leaveStatus metadata.status).enterStatus_idle
        have hleaves := (collector.metrics.lowers_leaveStatus metadata.status).peak
        have hbelow : collector.metrics.concurrent ≤
            collector.metrics.peakConcurrentSessions := by
          simpa [concurrentSessions, peakSessions, hmetrics] using hpeak
        rw [SessionMetrics.roomForIdle_iff hbelow, hafterPeak, hafterConcurrent, henterPeak,
          henterConcurrent, hleaves]
        omega
      rw [raisesTo_iff_of_map (metrics_updateSessionStatus hget) hpeak]
      constructor
      · rintro h _ collector ⟨⟩ hmetrics
        exact (hraises collector hmetrics).mp (h collector hmetrics)
      · exact fun h collector hmetrics =>
          (hraises collector hmetrics).mpr (h metadata collector rfl hmetrics)

theorem peak_updateSessionStatus_idle :
    (manager.updateSessionStatus now sessionId .idle).2.peakSessions = manager.peakSessions := by
  cases hget : manager.getSession sessionId with
  | none => rw [updateSessionStatus_of_none hget]
  | some metadata =>
      rw [peakSessions, metrics_updateSessionStatus hget, Option.map_map]
      have hpeak : ∀ collector : SessionMetricsCollector,
          (recordTransition metadata.status .idle collector).metrics.peakConcurrentSessions =
            collector.metrics.peakConcurrentSessions := by
        intro collector
        rw [(metrics_recordTransition metadata.status .idle collector).1,
          (SessionMetrics.enterStatus_idle _).1, (collector.metrics.lowers_leaveStatus _).peak]
      simp only [Function.comp_def, hpeak]
      rfl

theorem lowers_updateSessionStatus (hactive : status ≠ .active) (hidle : status ≠ .idle) :
    manager.Lowers (manager.updateSessionStatus now sessionId status).2 := by
  cases hget : manager.getSession sessionId with
  | none =>
      rw [updateSessionStatus_of_none hget]
      exact lowers_of_eq rfl
  | some metadata =>
      exact lowers_of_map (metrics_updateSessionStatus hget)
        (lowers_recordTransition hactive hidle metadata.status)

theorem lowers_createSession (name : String) (freshId : SessionId)
    (transportConfig : TransportConfig) (tags : List String) (description : Option String) :
    manager.Lowers
      (manager.createSession now freshId name transportConfig tags description).2 := by
  unfold createSession
  dsimp only
  split
  · exact lowers_of_eq rfl
  · exact lowers_of_map rfl fun collector => ⟨rfl, Nat.le_refl _⟩

theorem raisesTo_useSession (hpeak : manager.concurrentSessions ≤ manager.peakSessions) :
    manager.RaisesTo (manager.useSession now sessionId).2 := by
  cases hget : manager.getSession sessionId with
  | none =>
      rw [useSession_of_none hget]
      exact (lowers_of_eq rfl).raisesTo hpeak
  | some metadata =>
      have hmarked : manager.Lowers (manager.afterMark now sessionId metadata) :=
        lowers_of_map rfl fun collector => lowers_recordSessionUsage collector _ _
      have hmarkedPeak : (manager.afterMark now sessionId metadata).concurrentSessions ≤
          (manager.afterMark now sessionId metadata).peakSessions := by
        rw [hmarked.peak]
        exact hmarked.concurrent.trans hpeak
      rw [useSession_of_some hget]
      split
      · exact hmarked.trans_raisesTo (raisesTo_updateSessionStatus_active hmarkedPeak)
      · exact hmarked.raisesTo hpeak

theorem lowers_closeSession : manager.Lowers (manager.closeSession now sessionId).2 := by
  cases hget : manager.getSession sessionId with
  | none =>
      rw [closeSession_of_none hget]
      exact lowers_of_eq rfl
  | some metadata =>
      apply lowers_of_map (closeSession_of_some now hget).2.2.2.1
      intro collector
      have hclosing : collector.metrics.Lowers
          (recordTransition metadata.status .closing collector).metrics :=
        lowers_recordTransition (by decide) (by decide) metadata.status collector
      exact hclosing.trans (lowers_recordSessionClosed _ now _)

theorem raisesTo_connectOrCreateSession {freshId : SessionId} {name : String}
    {transportConfig : TransportConfig}
    (hpeak : manager.concurrentSessions ≤ manager.peakSessions) :
    manager.RaisesTo (manager.connectOrCreateSession now freshId name transportConfig).2 := by
  rw [connectOrCreateSession_snd]
  split
  · exact raisesTo_useSession hpeak
  · exact (lowers_createSession _ _ _ _ _).raisesTo hpeak

theorem lowers_expireSession (now : SystemTime) (acc : List SessionId × SessionManager)
    (session : SessionMetadata) : acc.2.Lowers (expireSession now acc session).2 := by
  obtain ⟨expired, manager⟩ := acc
  unfold expireSession
  dsimp only
  split
  · rcases manager.registry.unregister session.id with ⟨_ | metadata, registry⟩
    · exact lowers_of_eq rfl
    · exact lowers_of_map rfl fun collector => lowers_recordSessionClosed collector now metadata
  · exact lowers_of_eq rfl

theorem lowers_cleanup {rank : SessionId → Nat} :
    manager.Lowers (manager.cleanup now rank).2 := by
  have hfold : manager.Lowers
      ((manager.registry.listAll rank).foldl (expireSession now) ([], manager)).2 := by
    refine List.foldlRecOn
      (motive := fun (acc : List SessionId × SessionManager) => manager.Lowers acc.2) _ _
      (lowers_of_eq rfl) ?_
    exact fun acc hacc session _ => hacc.trans (lowers_expireSession now acc session)
  exact hfold.trans (lowers_of_map rfl fun collector => ⟨rfl, Nat.le_refl _⟩)

/-- Every operation raises the peak as it should, but for one that makes a session idle. -/
theorem raisesTo_apply_iff (hpeak : manager.concurrentSessions ≤ manager.peakSessions)
    (op : ManagerOp) : manager.RaisesTo (manager.apply op) ↔ manager.IdlesWithinPeak op := by
  obtain ⟨task, ambient⟩ := op
  by_cases hidle : ∃ sessionId, task = .updateSessionStatus sessionId .idle
  · obtain ⟨sessionId, rfl⟩ := hidle
    apply (raisesTo_updateSessionStatus_idle_iff hpeak).trans
    constructor
    · rintro hroom _ metadata collector ⟨⟩
      exact hroom metadata collector
    · exact fun hroom metadata collector => hroom sessionId metadata collector rfl
  · refine iff_of_true ?_ fun sessionId _ _ htask => absurd ⟨sessionId, htask⟩ hidle
    cases task with
    | createSession name transportConfig tags description =>
        exact (lowers_createSession _ _ _ _ _).raisesTo hpeak
    | updateSessionStatus sessionId status =>
        by_cases hactive : status = .active
        · subst hactive
          exact raisesTo_updateSessionStatus_active hpeak
        · refine (lowers_updateSessionStatus hactive ?_).raisesTo hpeak
          rintro rfl
          exact hidle ⟨sessionId, rfl⟩
    | useSession sessionId => exact raisesTo_useSession hpeak
    | closeSession sessionId => exact lowers_closeSession.raisesTo hpeak
    | connectOrCreateSession name transportConfig => exact raisesTo_connectOrCreateSession hpeak
    | updateSessionMetadata sessionId metadata => exact (lowers_of_eq rfl).raisesTo hpeak
    | cleanup => exact lowers_cleanup.raisesTo hpeak

/-! ## The range of the counters -/

theorem concurrent_updateSessionStatus_active_lt_iff
    (hrange : manager.concurrentSessions < 2 ^ 32) :
    (manager.updateSessionStatus now sessionId .active).2.concurrentSessions < 2 ^ 32 ↔
      ∀ metadata collector, manager.getSession sessionId = some metadata →
        manager.metrics = some collector → collector.metrics.RoomForActive metadata.status := by
  cases hget : manager.getSession sessionId with
  | none =>
      rw [updateSessionStatus_of_none hget]
      exact iff_of_true hrange fun _ _ h => absurd h.symm (Option.some_ne_none _)
  | some metadata =>
      have hmetrics : (manager.updateSessionStatus now sessionId .active).2.metrics =
          manager.metrics.map (recordTransition metadata.status .active) :=
        metrics_updateSessionStatus hget
      cases hsome : manager.metrics with
      | none =>
          refine iff_of_true ?_ fun _ _ _ h => absurd h.symm (Option.some_ne_none _)
          simp [concurrentSessions, hmetrics, hsome]
      | some collector =>
          have hbefore : collector.metrics.concurrent < 2 ^ 32 := by
            simpa [concurrentSessions, hsome] using hrange
          have hafter : (manager.updateSessionStatus now sessionId .active).2.concurrentSessions =
              ((collector.metrics.leaveStatus metadata.status).enterStatus .active).concurrent := by
            rw [concurrentSessions, hmetrics, hsome]
            exact (metrics_recordTransition metadata.status .active collector).2
          rw [hafter, ← SessionMetrics.roomForActive_iff hbefore]
          constructor
          · rintro hroom _ _ ⟨⟩ ⟨⟩
            exact hroom
          · exact fun hroom => hroom metadata collector rfl rfl

theorem concurrent_useSession_lt_iff (hrange : manager.concurrentSessions < 2 ^ 32) :
    (manager.useSession now sessionId).2.concurrentSessions < 2 ^ 32 ↔
      ∀ metadata collector, metadata.status = .idle →
        manager.getSession sessionId = some metadata → manager.metrics = some collector →
          collector.metrics.RoomForActive metadata.status := by
  cases hget : manager.getSession sessionId with
  | none =>
      rw [useSession_of_none hget]
      exact iff_of_true hrange fun _ _ _ h => absurd h.symm (Option.some_ne_none _)
  | some metadata =>
      have hmarked : (manager.afterMark now sessionId metadata).concurrentSessions =
          manager.concurrentSessions := by
        simp only [concurrentSessions, afterMark, Option.map_map]
        rfl
      rw [useSession_of_some hget]
      split
      · next hidle =>
          have hget' : (manager.afterMark now sessionId metadata).getSession sessionId =
              some (metadata.markUsed now) := by rw [getSession_afterMark, if_pos rfl, hget]; rfl
          apply (concurrent_updateSessionStatus_active_lt_iff (hmarked.trans_lt hrange)).trans
          rw [hget']
          constructor
          · rintro hroom _ collector _ ⟨⟩ hmetrics
            exact hroom (metadata.markUsed now)
              (collector.recordSessionUsage sessionId (metadata.useCount + 1)) rfl
              (by rw [afterMark, hmetrics]; rfl)
          · rintro hroom _ _ ⟨⟩ hmetrics
            obtain ⟨collector, hcollector, rfl⟩ := Option.map_eq_some_iff.mp hmetrics
            exact hroom metadata collector hidle rfl hcollector
      · next hbusy =>
          refine iff_of_true (hmarked.trans_lt hrange) ?_
          rintro _ _ hidle ⟨⟩
          exact absurd hidle hbusy

/-- Within the peak, only a session that becomes active takes the counters out of range. -/
theorem concurrent_apply_lt_iff (hpeak : manager.concurrentSessions ≤ manager.peakSessions)
    (hrange : manager.peakSessions < 2 ^ 32) {op : ManagerOp}
    (hidles : manager.IdlesWithinPeak op) :
    (manager.apply op).concurrentSessions < 2 ^ 32 ↔ manager.ActivatesWithinRange op := by
  have hbefore := hpeak.trans_lt hrange
  have hlowers : ∀ {manager'}, manager.Lowers manager' → manager'.concurrentSessions < 2 ^ 32 :=
    fun h => h.concurrent.trans_lt hbefore
  obtain ⟨task, ambient⟩ := op
  cases task with
  | createSession name transportConfig tags description =>
      exact iff_of_true (hlowers (lowers_createSession _ _ _ _ _)) fun _ _ _ => False.elim
  | updateSessionStatus sessionId status =>
      by_cases hactive : status = .active
      · subst hactive
        apply (concurrent_updateSessionStatus_active_lt_iff hbefore).trans
        constructor
        · rintro hroom _ metadata collector ⟨rfl, _⟩
          exact hroom metadata collector
        · exact fun hroom metadata collector => hroom sessionId metadata collector ⟨rfl, rfl⟩
      · refine iff_of_true ?_ fun _ _ _ h => absurd h.2 hactive
        by_cases hidle : status = .idle
        · subst hidle
          have hraises :
              manager.RaisesTo (manager.updateSessionStatus ambient.now sessionId .idle).2 :=
            (raisesTo_updateSessionStatus_idle_iff hpeak).mpr
              fun metadata collector => hidles sessionId metadata collector rfl
          rw [RaisesTo, peak_updateSessionStatus_idle] at hraises
          exact (hraises ▸ Nat.le_max_right _ _).trans_lt hrange
        · exact hlowers (lowers_updateSessionStatus hactive hidle)
  | useSession sessionId =>
      apply (concurrent_useSession_lt_iff hbefore).trans
      constructor
      · rintro hroom _ metadata collector ⟨rfl, hidle⟩
        exact hroom metadata collector hidle
      · exact fun hroom metadata collector hidle =>
          hroom sessionId metadata collector ⟨rfl, hidle⟩
  | closeSession sessionId =>
      exact iff_of_true (hlowers lowers_closeSession) fun _ _ _ => False.elim
  | connectOrCreateSession name transportConfig =>
      simp only [apply, connectOrCreateSession_snd]
      cases hfind : manager.findReusableSession ambient.now transportConfig.connectionKey with
      | none =>
          refine iff_of_true (hlowers (lowers_createSession _ _ _ _ _)) fun _ _ _ h => ?_
          exact absurd (h.1.symm.trans hfind) (Option.some_ne_none _)
      | some sessionId =>
          apply (concurrent_useSession_lt_iff hbefore).trans
          constructor
          · rintro hroom _ metadata collector ⟨hfound, hidle⟩
            obtain rfl := Option.some.inj (hfind.symm.trans hfound)
            exact hroom metadata collector hidle
          · exact fun hroom metadata collector hidle =>
              hroom sessionId metadata collector ⟨hfind, hidle⟩
  | updateSessionMetadata sessionId metadata =>
      exact iff_of_true (hlowers (lowers_of_eq rfl)) fun _ _ _ => False.elim
  | cleanup => exact iff_of_true (hlowers lowers_cleanup) fun _ _ _ => False.elim

/-! ## Every run -/

theorem peak_new (config : SessionManagerConfig) :
    (new config).peakSessions = 0 ∧ (new config).concurrentSessions = 0 := by
  simp only [new, peakSessions, concurrentSessions]
  split <;> exact ⟨rfl, rfl⟩

/-- At every moment the peak is the greatest number of sessions that were active or idle at
once, and that number is in the range of a `u32`, exactly if no session becomes idle that the
peak has no room for, and none active that the range has no room for. The counters of the
model have no bound, so it is faithful up to the first overflow. -/
theorem tracksMax_iff_entersWithin (config : SessionManagerConfig) (ops : List ManagerOp) :
    (TracksMax apply concurrentSessions peakSessions (new config) ops ∧
        Always apply (fun manager => manager.concurrentSessions < 2 ^ 32) (new config) ops) ↔
      Along apply (fun _ manager op => manager.IdlesWithinPeak op ∧
        manager.ActivatesWithinRange op) (new config) ops := by
  obtain ⟨hpeak, hconcurrent⟩ := peak_new config
  have htracks := tracksMax_iff_along (hpeak.trans hconcurrent.symm)
    (fun manager op h => raisesTo_apply_iff h op) ops
  rw [htracks]
  have hrange : Along apply (fun _ manager op => manager.IdlesWithinPeak op) (new config) ops →
      (Always apply (fun manager => manager.concurrentSessions < 2 ^ 32) (new config) ops ↔
        Along apply (fun _ manager op => manager.ActivatesWithinRange op) (new config) ops) := by
    intro hidles
    refine always_iff_along (I := fun _ manager =>
      manager.concurrentSessions ≤ manager.peakSessions ∧ manager.peakSessions < 2 ^ 32) hidles
      ?_ (fun _ _ h => h.1.trans_lt h.2) ?_ ?_
    · rw [hpeak, hconcurrent]
      exact ⟨Nat.le_refl _, Nat.two_pow_pos 32⟩
    · intro _ manager op h hidles hactivates
      have hraises := (raisesTo_apply_iff h.1 op).mpr hidles
      have hafter := (concurrent_apply_lt_iff h.1 h.2 hidles).mpr hactivates
      rw [hraises]
      exact ⟨Nat.le_max_right _ _, Nat.max_lt.mpr ⟨h.2, hafter⟩⟩
    · exact fun _ manager op h hidles hnot hafter =>
        hnot ((concurrent_apply_lt_iff h.1 h.2 hidles).mp hafter)
  constructor
  · exact fun h => h.1.and ((hrange h.1).mp h.2)
  · intro h
    have hidles : Along apply (fun _ manager op => manager.IdlesWithinPeak op) (new config) ops :=
      fun past op hp => (h past op hp).1
    exact ⟨hidles, (hrange hidles).mpr fun past op hp => (h past op hp).2⟩

/-- The session goes from connecting to idle, as one that waits to be used. -/
theorem tracksMax_idle_false :
    ¬ TracksMax apply concurrentSessions peakSessions (new {})
      [(ManagerTask.createSession "build" {} [] none).atSeconds 0 1,
        (ManagerTask.updateSessionStatus ⟨1⟩ .idle).atSeconds 1 2] := by
  intro h
  have hle := h.last.2 (mem_valuesAlong _ _)
  exact absurd hle (by decide)

end SessionManager

end Yuha
