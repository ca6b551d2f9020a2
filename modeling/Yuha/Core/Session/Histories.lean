import Yuha.Core.Session.Cleaning
import Yuha.Core.Session.Creations
import Yuha.Library.Tally
import Yuha.Library.Window

/-!
# The session history

The metrics keep an entry for each session, and samples of how long the sessions lived and
idled. As long as the operations run one after another, the entries of the sessions that are
registered say what the registry says, all others are closed, and the samples are those of
the sessions closed last.
-/

namespace Yuha

open Library Library.Execution

/-- What the history says of a session that is registered. -/
def SessionMetadata.openEntry (metadata : SessionMetadata) : SessionHistoryEntry where
  createdAt := metadata.createdAt
  transportType := metadata.transportConfig.transportType
  useCount := metadata.useCount
  wasReused := decide (1 < metadata.useCount)

/-- A session that was closed, and the time that was recorded for it. -/
structure Closure where
  now : SystemTime
  metadata : SessionMetadata

namespace Closure

def idleTime (closure : Closure) : Duration := closure.metadata.idleTime closure.now

/-- `duration_since` is an error for a session that was created later. -/
def lifetime (closure : Closure) : Option Duration :=
  if closure.metadata.createdAt ≤ closure.now then
    some (closure.now.since closure.metadata.createdAt)
  else none

end Closure

namespace SessionMetricsCollector

variable {collector : SessionMetricsCollector}
  {sessions sessions' : SessionId → Option SessionMetadata} {metadata : SessionMetadata}
  {sessionId : SessionId} {now : SystemTime}

/-! ## The entries -/

/-- The entries of registered sessions are up to date, and all others are closed. -/
structure Mirrors (collector : SessionMetricsCollector)
    (sessions : SessionId → Option SessionMetadata) : Prop where
  registered : ∀ id metadata, sessions id = some metadata →
    collector.sessionHistory.lookup id = some metadata.openEntry
  closed : ∀ id entry, sessions id = none → collector.sessionHistory.lookup id = some entry →
    entry.closedAt.isSome

/-- What does not change the entries may change sessions in ways that the history ignores. -/
theorem Mirrors.congr (h : collector.Mirrors sessions) {collector' : SessionMetricsCollector}
    (hhistory : collector'.sessionHistory = collector.sessionHistory)
    (hsessions : ∀ id, (sessions' id).map SessionMetadata.openEntry =
      (sessions id).map SessionMetadata.openEntry) : collector'.Mirrors sessions' := by
  constructor
  · intro id metadata hid
    have hsame := hsessions id
    rw [hid, Option.map_some] at hsame
    obtain ⟨before, hbefore, hentry⟩ := Option.map_eq_some_iff.mp hsame.symm
    rw [hhistory, h.registered id before hbefore, hentry]
  · intro id entry hid hentry
    have hsame := hsessions id
    rw [hid, Option.map_none] at hsame
    rw [hhistory] at hentry
    exact h.closed id entry (Option.map_eq_none_iff.mp hsame.symm) hentry

/-- One entry is replaced, and nothing else changes. -/
theorem Mirrors.insert (h : collector.Mirrors sessions) {entry : SessionHistoryEntry}
    {collector' : SessionMetricsCollector}
    (hhistory : collector'.sessionHistory = AList.insert sessionId entry collector.sessionHistory)
    (hothers : ∀ id, id ≠ sessionId → sessions' id = sessions id)
    (hself : ∀ metadata, sessions' sessionId = some metadata → entry = metadata.openEntry)
    (hclosed : sessions' sessionId = none → entry.closedAt.isSome) :
    collector'.Mirrors sessions' := by
  constructor
  · intro id metadata hid
    rw [hhistory, HashMap.lookup_insert_ite]
    split
    · next heq => rw [hself metadata (heq ▸ hid)]
    · next hne => exact h.registered id metadata ((hothers id hne).symm.trans hid)
  · intro id entry' hid hentry
    rw [hhistory, HashMap.lookup_insert_ite] at hentry
    split at hentry
    · next heq =>
        obtain rfl := Option.some.inj hentry
        exact hclosed (heq ▸ hid)
    · next hne => exact h.closed id entry' ((hothers id hne).symm.trans hid) hentry

theorem Mirrors.recordSessionCreated (h : collector.Mirrors sessions)
    (metadata : SessionMetadata) {status : SessionStatus} (hnew : metadata.useCount = 0)
    (hsessions : ∀ id, sessions' id =
      if id = metadata.id then some { metadata with status := status } else sessions id) :
    (collector.recordSessionCreated metadata).Mirrors sessions' := by
  refine h.insert rfl (fun id hne => (hsessions id).trans (if_neg hne)) (fun after hafter => ?_)
    fun hnone => ?_
  · rw [hsessions, if_pos rfl] at hafter
    obtain rfl := Option.some.inj hafter
    simp [SessionMetadata.openEntry, hnew]
  · rw [hsessions, if_pos rfl] at hnone
    cases hnone

theorem sessionHistory_recordSessionUsage (now : SystemTime)
    (hentry : collector.sessionHistory.lookup sessionId = some metadata.openEntry) :
    (collector.recordSessionUsage sessionId (metadata.useCount + 1)).sessionHistory =
      AList.insert sessionId (metadata.markUsed now).openEntry collector.sessionHistory := by
  simp only [recordSessionUsage, hentry]
  congr 1
  simp only [SessionMetadata.openEntry, SessionMetadata.markUsed]
  split <;> simp_all

theorem Mirrors.recordSessionUsage (h : collector.Mirrors sessions)
    (hget : sessions sessionId = some metadata)
    (hsessions : ∀ id, sessions' id =
      if id = sessionId then (sessions id).map (·.markUsed now) else sessions id) :
    (collector.recordSessionUsage sessionId (metadata.useCount + 1)).Mirrors sessions' := by
  have hentry := h.registered sessionId metadata hget
  refine h.insert (sessionHistory_recordSessionUsage now hentry)
    (fun id hne => (hsessions id).trans (if_neg hne)) (fun after hafter => ?_) fun hnone => ?_
  · rw [hsessions, if_pos rfl, hget] at hafter
    obtain rfl := Option.some.inj hafter
    rfl
  · rw [hsessions, if_pos rfl, hget] at hnone
    cases hnone

/-- The entry of a session that is closed. -/
def closedEntry (closure : Closure) : SessionHistoryEntry :=
  { closure.metadata.openEntry with
    closedAt := some closure.now, totalIdleTime := closure.idleTime }

theorem addSample_eq_slide (samples : List Duration) (sample : Duration) (maxSize : Nat) :
    addSample samples sample maxSize = Window.slide maxSize samples sample := by
  unfold addSample Window.slide
  rw [← List.drop_one]

/-- The collector after a closure of a session that has an entry. -/
theorem recordSessionClosed_eq {closure : Closure}
    (hentry : collector.sessionHistory.lookup closure.metadata.id =
      some closure.metadata.openEntry) :
    (collector.recordSessionClosed closure.now closure.metadata).sessionHistory =
        AList.insert closure.metadata.id (closedEntry closure) collector.sessionHistory ∧
      (collector.recordSessionClosed closure.now closure.metadata).idleTimeSamples =
        Window.slide collector.maxSamples collector.idleTimeSamples closure.idleTime ∧
      (collector.recordSessionClosed closure.now closure.metadata).lifetimeSamples =
        closure.lifetime.elim collector.lifetimeSamples
          (Window.slide collector.maxSamples collector.lifetimeSamples) := by
  simp only [recordSessionClosed, hentry]
  refine ⟨rfl, ?_, ?_⟩
  · exact addSample_eq_slide _ _ _
  · unfold Closure.lifetime
    by_cases hlater : closure.metadata.createdAt ≤ closure.now
    · rw [if_pos hlater, Option.elim_some, ← addSample_eq_slide]
      exact if_pos hlater
    · rw [if_neg hlater]
      exact if_neg hlater

theorem Mirrors.recordSessionClosed (h : collector.Mirrors sessions) (closure : Closure)
    (hentry : collector.sessionHistory.lookup closure.metadata.id =
      some closure.metadata.openEntry)
    (hsessions : ∀ id, sessions' id =
      if id = closure.metadata.id then none else sessions id) :
    (collector.recordSessionClosed closure.now closure.metadata).Mirrors sessions' := by
  refine h.insert (recordSessionClosed_eq hentry).1
    (fun id hne => (hsessions id).trans (if_neg hne)) (fun after hafter => ?_) fun _ => rfl
  rw [hsessions, if_pos rfl] at hafter
  cases hafter

/-- The entries that are dropped as old. -/
def isOld (now : SystemTime) (maxAge : Duration) (entry : SessionHistoryEntry) : Bool :=
  match entry.closedAt with
  | some closedAt => decide (maxAge < now.since closedAt)
  | none => false

theorem lookup_cleanupOldHistory (collector : SessionMetricsCollector) (now : SystemTime)
    (maxAge : Duration) (id : SessionId) :
    (collector.cleanupOldHistory now maxAge).sessionHistory.lookup id =
      (collector.sessionHistory.lookup id).filter fun entry => !isOld now maxAge entry := by
  have hfold : ∀ (expired : List (Σ _ : SessionId, SessionHistoryEntry))
      (history : HashMap SessionId SessionHistoryEntry),
      (expired.foldl (fun history entry => AList.erase entry.1 history) history).lookup id =
        if expired.any (fun entry => entry.1 = id) then none else history.lookup id := by
    intro expired
    induction expired with
    | nil => simp
    | cons first expired ih =>
        intro history
        rw [List.foldl_cons, ih, HashMap.lookup_erase_ite]
        by_cases hfirst : first.1 = id
        · simp [hfirst]
        · rw [List.any_cons, decide_eq_false hfirst, Bool.false_or, if_neg (Ne.symm hfirst)]
  have hany : (collector.sessionHistory.entries.filter fun entry => isOld now maxAge entry.2).any
      (fun entry => entry.1 = id) =
        (collector.sessionHistory.lookup id).any (isOld now maxAge) := by
    rw [Bool.eq_iff_iff]
    simp only [List.any_eq_true, List.mem_filter, decide_eq_true_eq, Option.any_eq_true]
    constructor
    · rintro ⟨⟨id', entry⟩, ⟨hmem, hold⟩, rfl⟩
      exact ⟨entry, AList.mem_lookup_iff.mpr hmem, hold⟩
    · rintro ⟨entry, hlookup, hold⟩
      exact ⟨⟨id, entry⟩, ⟨AList.mem_lookup_iff.mp hlookup, hold⟩, rfl⟩
  have hafter : (collector.cleanupOldHistory now maxAge).sessionHistory.lookup id =
      if (collector.sessionHistory.lookup id).any (isOld now maxAge) then none
      else collector.sessionHistory.lookup id := hany ▸ hfold _ _
  rw [hafter]
  cases collector.sessionHistory.lookup id with
  | none => rfl
  | some entry => cases hold : isOld now maxAge entry <;> simp [Option.filter, hold]

/-- Only closed entries are dropped. -/
theorem Mirrors.cleanupOldHistory (h : collector.Mirrors sessions) (now : SystemTime)
    (maxAge : Duration) : (collector.cleanupOldHistory now maxAge).Mirrors sessions := by
  constructor
  · intro id metadata hid
    rw [lookup_cleanupOldHistory, h.registered id metadata hid]
    rfl
  · intro id entry hid hentry
    rw [lookup_cleanupOldHistory] at hentry
    exact h.closed id entry hid (Option.eq_some_of_filter_eq_some hentry)

/-! ## The samples -/

/-- The samples are those of the sessions closed last, and what is summed up agrees with them
and with the entries. -/
structure Summarizes (closures : List Closure) (collector : SessionMetricsCollector) : Prop where
  maxSamples : collector.maxSamples = 1000
  idleTimes : collector.idleTimeSamples = (closures.map Closure.idleTime).rtake 1000
  lifetimes : collector.lifetimeSamples = (closures.filterMap Closure.lifetime).rtake 1000
  avgIdleTime : collector.metrics.avgIdleTime = average collector.idleTimeSamples 0
  avgLifetime : collector.metrics.avgSessionLifetime = average collector.lifetimeSamples 0
  closed : collector.metrics.sessionsClosed = closures.length
  created : collector.metrics.transportUsage.total id = collector.metrics.totalSessionsCreated
  uses : collector.sessionHistory.total (·.useCount) ≤ collector.metrics.totalUsageCount

variable {closures : List Closure}

theorem summarizes_new : Summarizes [] {} :=
  ⟨rfl, rfl, rfl, rfl, rfl, rfl, rfl, Nat.le_refl _⟩

/-- A change of status is not noted in the history. -/
theorem sessionHistory_recordTransition (oldStatus status : SessionStatus) :
    (SessionManager.recordTransition oldStatus status collector).sessionHistory =
      collector.sessionHistory := by
  unfold SessionManager.recordTransition
  dsimp only
  split
  · split <;> rfl
  · split <;> rfl
  · rfl

/-- A change of status is not summed up. -/
theorem Summarizes.recordTransition (h : collector.Summarizes closures)
    (oldStatus status : SessionStatus) :
    (SessionManager.recordTransition oldStatus status collector).Summarizes closures := by
  obtain ⟨hmax, hidle, hlife, havgIdle, havgLife, hclosed, hcreated, huses⟩ := h
  have hleave : (collector.metrics.leaveStatus oldStatus).enterStatus status =
      { collector.metrics with
        activeSessions := ((collector.metrics.leaveStatus oldStatus).enterStatus
          status).activeSessions
        idleSessions := ((collector.metrics.leaveStatus oldStatus).enterStatus status).idleSessions
        failedSessions := ((collector.metrics.leaveStatus oldStatus).enterStatus
          status).failedSessions
        peakConcurrentSessions := ((collector.metrics.leaveStatus oldStatus).enterStatus
          status).peakConcurrentSessions } := by
    cases oldStatus <;> cases status <;> rfl
  have hchanged : (collector.recordStatusChange oldStatus status).Summarizes closures := by
    rw [recordStatusChange, hleave]
    exact ⟨hmax, hidle, hlife, havgIdle, havgLife, hclosed, hcreated, huses⟩
  obtain ⟨hmax, hidle, hlife, havgIdle, havgLife, hclosed, hcreated, huses⟩ := hchanged
  unfold SessionManager.recordTransition
  dsimp only
  split
  · split <;> exact ⟨hmax, hidle, hlife, havgIdle, havgLife, hclosed, hcreated, huses⟩
  · split <;> exact ⟨hmax, hidle, hlife, havgIdle, havgLife, hclosed, hcreated, huses⟩
  · exact ⟨hmax, hidle, hlife, havgIdle, havgLife, hclosed, hcreated, huses⟩

theorem Summarizes.recordSessionCreated (h : collector.Summarizes closures)
    (metadata : SessionMetadata) :
    (collector.recordSessionCreated metadata).Summarizes closures := by
  refine ⟨h.maxSamples, h.idleTimes, h.lifetimes, h.avgIdleTime, h.avgLifetime, h.closed, ?_, ?_⟩
  · have htotal := HashMap.total_insert id collector.metrics.transportUsage
      metadata.transportConfig.transportType
      ((collector.metrics.transportUsage.lookup metadata.transportConfig.transportType).getD 0 + 1)
    have hcreated := h.created
    simp only [SessionMetricsCollector.recordSessionCreated, Option.map_id_fun, id_eq] at htotal ⊢
    omega
  · refine Nat.le_trans ?_ h.uses
    have htotal := HashMap.total_insert (·.useCount) collector.sessionHistory metadata.id
      { createdAt := metadata.createdAt, transportType := metadata.transportConfig.transportType }
    simp only [SessionMetricsCollector.recordSessionCreated] at htotal ⊢
    omega

theorem Summarizes.recordSessionUsage (h : collector.Summarizes closures)
    (hentry : collector.sessionHistory.lookup sessionId = some metadata.openEntry) :
    (collector.recordSessionUsage sessionId (metadata.useCount + 1)).Summarizes closures := by
  refine ⟨h.maxSamples, h.idleTimes, h.lifetimes, h.avgIdleTime, h.avgLifetime, h.closed,
    h.created, ?_⟩
  have htotal := HashMap.total_insert (·.useCount) collector.sessionHistory sessionId
    (metadata.markUsed 0).openEntry
  have huses := h.uses
  have hused : (metadata.markUsed 0).openEntry.useCount = metadata.openEntry.useCount + 1 := rfl
  simp only [hentry, Option.map_some, Option.getD_some, hused] at htotal
  rw [sessionHistory_recordSessionUsage 0 hentry]
  exact Nat.le_trans (by omega) (Nat.succ_le_succ huses)

/-- The old average is that of the old samples. -/
theorem average_slide (samples : List Duration) (sample old : Duration) :
    average (Window.slide 1000 samples sample) old =
      average (Window.slide 1000 samples sample) 0 := by
  have hlength := Window.length_slide 1000 samples sample
  have hnonempty : (Window.slide 1000 samples sample).isEmpty = false := by
    rw [List.isEmpty_eq_false_iff, ne_eq, ← List.length_eq_zero_iff]
    split at hlength <;> omega
  rw [average, average, hnonempty]
  rfl

theorem average_average (samples : List Duration) :
    average samples (average samples 0) = average samples 0 := by
  unfold average
  split <;> rfl

/-- The metrics after a closure. -/
theorem metrics_recordSessionClosed (collector : SessionMetricsCollector) (closure : Closure) :
    ∃ metrics : SessionMetrics,
      (collector.recordSessionClosed closure.now closure.metadata).metrics =
        { metrics with
          sessionsClosed := collector.metrics.sessionsClosed + 1
          avgSessionLifetime := average (collector.recordSessionClosed closure.now
            closure.metadata).lifetimeSamples collector.metrics.avgSessionLifetime
          avgIdleTime := average (collector.recordSessionClosed closure.now
            closure.metadata).idleTimeSamples collector.metrics.avgIdleTime
          transportUsage := collector.metrics.transportUsage
          totalSessionsCreated := collector.metrics.totalSessionsCreated
          totalUsageCount := collector.metrics.totalUsageCount } := by
  refine ⟨(collector.recordSessionClosed closure.now closure.metadata).metrics, ?_⟩
  unfold recordSessionClosed
  cases closure.metadata.status <;> rfl

theorem Summarizes.recordSessionClosed (h : collector.Summarizes closures) {closure : Closure}
    (hentry : collector.sessionHistory.lookup closure.metadata.id =
      some closure.metadata.openEntry) :
    (collector.recordSessionClosed closure.now closure.metadata).Summarizes
      (closures ++ [closure]) := by
  obtain ⟨hhistory, hidle, hlife⟩ := recordSessionClosed_eq hentry
  obtain ⟨metrics, hmetrics⟩ := metrics_recordSessionClosed collector closure
  rw [h.maxSamples] at hidle hlife
  refine ⟨?_, ?_, ?_, ?_, ?_, ?_, ?_, ?_⟩
  · simp only [SessionMetricsCollector.recordSessionClosed, hentry]
    exact h.maxSamples
  · rw [hidle, h.idleTimes, Window.slide_rtake, List.map_append, List.map_singleton]
  · rw [hlife, h.lifetimes, List.filterMap_append, List.filterMap_cons, List.filterMap_nil]
    cases closure.lifetime with
    | none => simp only [Option.elim_none, List.append_nil]
    | some lifetime => simp only [Option.elim_some, Window.slide_rtake]
  · rw [hmetrics, hidle]
    exact average_slide _ _ _
  · rw [hmetrics, hlife]
    cases closure.lifetime with
    | none =>
        rw [h.avgLifetime]
        exact average_average _
    | some lifetime => exact average_slide _ _ _
  · rw [hmetrics, List.length_append, ← h.closed]
    rfl
  · rw [hmetrics]
    exact h.created
  · have htotal := HashMap.total_insert (·.useCount) collector.sessionHistory closure.metadata.id
      (closedEntry closure)
    have hsame : (closedEntry closure).useCount = closure.metadata.openEntry.useCount := rfl
    simp only [hentry, Option.map_some, Option.getD_some, hsame] at htotal
    rw [hmetrics, hhistory]
    exact Nat.le_trans (by omega) h.uses

theorem Summarizes.cleanupOldHistory (h : collector.Summarizes closures) (now : SystemTime)
    (maxAge : Duration) : (collector.cleanupOldHistory now maxAge).Summarizes closures := by
  refine ⟨h.maxSamples, h.idleTimes, h.lifetimes, h.avgIdleTime, h.avgLifetime, h.closed,
    h.created, Nat.le_trans ?_ h.uses⟩
  refine List.foldlRecOn (motive := fun (history : HashMap SessionId SessionHistoryEntry) =>
    history.total (·.useCount) ≤ collector.sessionHistory.total (·.useCount)) _ _
    (Nat.le_refl _) fun history hle entry _ => ?_
  have htotal := HashMap.total_erase_add (·.useCount) history entry.1
  omega

end SessionMetricsCollector
/-! ## The operations of the manager -/

namespace SessionManager

variable {manager : SessionManager} {closures : List Closure} {now : SystemTime}
  {sessionId : SessionId} {metadata : SessionMetadata}

/-- The metrics mirror the sessions and sum up these closures. -/
structure Chronicled (closures : List Closure) (manager : SessionManager) : Prop where
  filed : manager.FiledByKey
  metrics : ∃ collector, manager.metrics = some collector ∧
    collector.Mirrors manager.getSession ∧ collector.Summarizes closures

theorem chronicled_new {config : SessionManagerConfig} (henabled : config.enableMetrics = true) :
    (new config).Chronicled [] where
  filed := filed_new _ config
  metrics := by
    have hmirrors : SessionMetricsCollector.Mirrors {} (new config).getSession :=
      ⟨fun id metadata hget => absurd hget (by simp [new, getSession]),
        fun id entry _ hentry => absurd hentry (by simp)⟩
    exact ⟨{}, by simp [new, henabled], hmirrors, SessionMetricsCollector.summarizes_new⟩

theorem Chronicled.createSession (h : manager.Chronicled closures) {freshId : SessionId}
    (now : SystemTime) (name : String) (transportConfig : TransportConfig) (tags : List String)
    (description : Option String) (hfresh : manager.getSession freshId = none) :
    (manager.createSession now freshId name transportConfig tags description).2.Chronicled
      closures := by
  have hfiled := h.filed.createSession now name transportConfig tags description hfresh
  obtain ⟨collector, hmetrics, hmirrors, hsummarizes⟩ := h.metrics
  cases hcheck : manager.registry.checkRegister
      (.new now freshId name transportConfig tags description) with
  | error e => rwa [createSession_of_error hcheck]
  | ok _ =>
      obtain ⟨_, _, hget⟩ := createSession_of_ok hcheck
      refine ⟨hfiled, collector.recordSessionCreated _, ?_,
        hmirrors.recordSessionCreated (.new now freshId name transportConfig tags description)
          rfl hget, hsummarizes.recordSessionCreated _⟩
      obtain ⟨registry, hregister⟩ : ∃ registry, manager.registry.register
          (.new now freshId name transportConfig tags description) = (.ok freshId, registry) :=
        ⟨_, Prod.ext (SessionRegistry.register_fst_of_ok hcheck) rfl⟩
      simp [SessionManager.createSession, hregister, hmetrics]

theorem Chronicled.updateSessionStatus (h : manager.Chronicled closures) (now : SystemTime)
    (sessionId : SessionId) (status : SessionStatus) :
    (manager.updateSessionStatus now sessionId status).2.Chronicled closures := by
  have hfiled := FiledByKey.updateSessionStatus h.filed now sessionId status
  obtain ⟨collector, hmetrics, hmirrors, hsummarizes⟩ := h.metrics
  cases hget : manager.getSession sessionId with
  | none => rwa [updateSessionStatus_of_none hget]
  | some metadata =>
      refine ⟨hfiled, recordTransition metadata.status status collector, ?_,
        hmirrors.congr ?_ fun id => ?_, hsummarizes.recordTransition _ _⟩
      · rw [updateSessionStatus_of_some hget, hmetrics]
        rfl
      · exact SessionMetricsCollector.sessionHistory_recordTransition _ _
      · rw [getSession_updateSessionStatus]
        split
        · rw [Option.map_map]
          rfl
        · rfl

theorem Chronicled.useSession (h : manager.Chronicled closures) (now : SystemTime)
    (sessionId : SessionId) : (manager.useSession now sessionId).2.Chronicled closures := by
  cases hget : manager.getSession sessionId with
  | none => rwa [useSession_of_none hget]
  | some metadata =>
      have hmarked : (manager.afterMark now sessionId metadata).Chronicled closures := by
        obtain ⟨collector, hmetrics, hmirrors, hsummarizes⟩ := h.metrics
        refine ⟨(FiledByKey.modify (f := (·.markUsed now)) h.filed sessionId (fun _ => rfl)
            fun _ => rfl).of_eq rfl rfl,
          collector.recordSessionUsage sessionId (metadata.useCount + 1), ?_,
          hmirrors.recordSessionUsage hget (getSession_afterMark metadata),
          hsummarizes.recordSessionUsage (hmirrors.registered sessionId metadata hget)⟩
        rw [afterMark, hmetrics]
        rfl
      rw [useSession_of_some hget]
      split
      · exact hmarked.updateSessionStatus now sessionId .active
      · exact hmarked

theorem Chronicled.closeSession (h : manager.Chronicled closures) (now : SystemTime)
    (hget : manager.getSession sessionId = some metadata) :
    (manager.closeSession now sessionId).2.Chronicled
      (closures ++ [⟨now, metadata.setStatus now .closing⟩]) := by
  have hclosing := h.updateSessionStatus now sessionId .closing
  have hafter : (manager.updateSessionStatus now sessionId .closing).2.getSession sessionId =
      some (metadata.setStatus now .closing) := by
    rw [getSession_updateSessionStatus, if_pos rfl, hget]
    rfl
  obtain ⟨collector, hmetrics, hmirrors, hsummarizes⟩ := hclosing.metrics
  obtain rfl : metadata.id = sessionId := h.filed.id_eq _ _ hget
  have hentry := hmirrors.registered _ _ hafter
  obtain ⟨_, _, _, hclosed, hgone⟩ := closeSession_of_some now hget
  refine ⟨h.filed.closeSession, _, ?_, hmirrors.recordSessionClosed
    ⟨now, metadata.setStatus now .closing⟩ hentry fun id => ?_,
    hsummarizes.recordSessionClosed hentry⟩
  · have htransition : manager.metrics.map (recordTransition metadata.status .closing) =
        some collector := by
      rwa [updateSessionStatus_of_some hget] at hmetrics
    obtain ⟨before, hbefore, rfl⟩ := Option.map_eq_some_iff.mp htransition
    rw [hclosed, hbefore]
    rfl
  · rw [hgone, getSession_updateSessionStatus]
    by_cases hid : id = metadata.id <;> simp [hid]

/-- A session that has expired is closed in the turn of the loop that meets it. -/
theorem Chronicled.expireSession {acc : List SessionId × SessionManager}
    (h : acc.2.Chronicled closures) (now : SystemTime)
    (hget : acc.2.getSession metadata.id = some metadata)
    (hexpires : acc.2.lifecycle.shouldExpireSession now metadata = true) :
    (SessionManager.expireSession now acc metadata).2.Chronicled
      (closures ++ [⟨now, metadata⟩]) := by
  have hfiled := h.filed.expireSession now metadata
  have hgone := (expireSession_snd now acc metadata).2.1
  obtain ⟨collector, hmetrics, hmirrors, hsummarizes⟩ := h.metrics
  have hentry := hmirrors.registered _ _ hget
  refine ⟨hfiled, _, ?_, hmirrors.recordSessionClosed ⟨now, metadata⟩ hentry fun id => ?_,
    hsummarizes.recordSessionClosed hentry⟩
  · obtain ⟨expired, manager⟩ := acc
    have hfst := SessionRegistry.unregister_fst manager.registry metadata.id
    simp only [SessionManager.expireSession, hexpires, if_true]
    generalize manager.registry.unregister metadata.id = result at hfst
    obtain ⟨removed, registry⟩ := result
    obtain rfl : removed = some metadata := hfst.trans hget
    exact congrArg (Option.map _) hmetrics
  · rw [hgone]
    simp only [hexpires, true_and]

/-- The loop closes the listed sessions that have expired, in the order of the list. -/
theorem Chronicled.foldl_expireSession (now : SystemTime) {sessions : List SessionMetadata}
    (hids : (sessions.map (·.id)).Nodup) (acc : List SessionId × SessionManager)
    (h : acc.2.Chronicled closures)
    (hlisted : ∀ session ∈ sessions, acc.2.getSession session.id = some session) :
    (sessions.foldl (SessionManager.expireSession now) acc).2.Chronicled
      (closures ++ (sessions.filter (acc.2.lifecycle.shouldExpireSession now)).map
        (Closure.mk now)) := by
  induction sessions generalizing acc closures with
  | nil => simpa using h
  | cons session sessions ih =>
      rw [List.map_cons, List.nodup_cons] at hids
      obtain ⟨hsession, hlisted⟩ := List.forall_mem_cons.mp hlisted
      obtain ⟨hlife, hgone, _⟩ := expireSession_snd now acc session
      have hmore : ∀ other ∈ sessions,
          (SessionManager.expireSession now acc session).2.getSession other.id = some other := by
        intro other hother
        rw [hgone, if_neg]
        · exact hlisted other hother
        · rintro ⟨_, hsame⟩
          exact hids.1 (hsame ▸ List.mem_map_of_mem hother)
      rw [List.foldl_cons]
      by_cases hexpires : acc.2.lifecycle.shouldExpireSession now session = true
      · have hrest := ih hids.2 _ (h.expireSession now hsession hexpires) hmore
        rw [hlife, List.append_assoc, List.singleton_append] at hrest
        rw [List.filter_cons_of_pos hexpires, List.map_cons]
        exact hrest
      · have hsame : (SessionManager.expireSession now acc session) = acc := by
          simp [SessionManager.expireSession, hexpires]
        rw [hsame] at hmore ⊢
        rw [List.filter_cons_of_neg hexpires]
        exact ih hids.2 acc h hmore

theorem Chronicled.cleanup (h : manager.Chronicled closures) (now : SystemTime)
    (rank : SessionId → Nat) :
    (manager.cleanup now rank).2.Chronicled
      (closures ++ ((manager.listSessions rank).filter
        (manager.lifecycle.shouldExpireSession now)).map (Closure.mk now)) := by
  have hlisted : ∀ session ∈ manager.registry.listAll rank,
      manager.getSession session.id = some session := by
    intro session hsession
    obtain ⟨id, hget⟩ := SessionRegistry.mem_listAll.mp hsession
    obtain rfl : session.id = id := h.filed.id_eq _ _ hget
    exact hget
  have hfold := Chronicled.foldl_expireSession now (nodup_listAll h.filed rank) ([], manager)
    h hlisted
  obtain ⟨collector, hmetrics, hmirrors, hsummarizes⟩ := hfold.metrics
  refine ⟨h.filed.cleanup, collector.cleanupOldHistory now (Duration.fromSecs 86400), ?_,
    hmirrors.cleanupOldHistory now _, hsummarizes.cleanupOldHistory now _⟩
  exact congrArg (Option.map _) hmetrics

/-! ## Sequences of operations -/

/-- The sessions that an operation closes, in this order. -/
def closuresOf (manager : SessionManager) (op : ManagerOp) : List Closure :=
  match op.task with
  | .closeSession sessionId =>
      (manager.getSession sessionId).toList.map fun metadata =>
        ⟨op.ambient.now, metadata.setStatus op.ambient.now .closing⟩
  | .cleanup =>
      ((manager.listSessions op.ambient.rank).filter
        (manager.lifecycle.shouldExpireSession op.ambient.now)).map (Closure.mk op.ambient.now)
  | _ => []

/-- The sessions that a sequence of operations closes. -/
def closuresAlong (manager : SessionManager) : List ManagerOp → List Closure
  | [] => []
  | op :: ops => manager.closuresOf op ++ (manager.apply op).closuresAlong ops

theorem closuresAlong_concat (manager : SessionManager) (ops : List ManagerOp) (op : ManagerOp) :
    manager.closuresAlong (ops ++ [op]) =
      manager.closuresAlong ops ++ (run apply manager ops).closuresOf op := by
  induction ops generalizing manager with
  | nil => exact List.append_nil _
  | cons first ops ih =>
      rw [List.cons_append, closuresAlong, closuresAlong, ih, List.append_assoc]
      rfl

theorem Chronicled.apply (h : manager.Chronicled closures) {op : ManagerOp}
    (hspares : op.task.SparesMetadata) (hfresh : manager.getSession op.ambient.freshId = none) :
    (manager.apply op).Chronicled (closures ++ manager.closuresOf op) := by
  obtain ⟨task, ambient⟩ := op
  cases task with
  | createSession name transportConfig tags description =>
      rw [SessionManager.closuresOf, List.append_nil]
      exact h.createSession ambient.now name transportConfig tags description hfresh
  | updateSessionStatus sessionId status =>
      rw [SessionManager.closuresOf, List.append_nil]
      exact h.updateSessionStatus ambient.now sessionId status
  | useSession sessionId =>
      rw [SessionManager.closuresOf, List.append_nil]
      exact h.useSession ambient.now sessionId
  | closeSession sessionId =>
      cases hget : manager.getSession sessionId with
      | none => simpa [SessionManager.apply, SessionManager.closuresOf, hget,
          closeSession_of_none hget] using h
      | some metadata =>
          simp only [SessionManager.closuresOf, hget]
          exact h.closeSession ambient.now hget
  | connectOrCreateSession name transportConfig =>
      rw [SessionManager.closuresOf, List.append_nil]
      simp only [SessionManager.apply, connectOrCreateSession_snd]
      cases manager.findReusableSession ambient.now transportConfig.connectionKey with
      | some sessionId => exact h.useSession ambient.now sessionId
      | none => exact h.createSession ambient.now name transportConfig [] none hfresh
  | updateSessionMetadata sessionId metadata => exact absurd hspares id
  | cleanup => exact h.cleanup ambient.now ambient.rank

theorem chronicled_run {config : SessionManagerConfig} (henabled : config.enableMetrics = true)
    {ops : List ManagerOp} (hfresh : (ManagerOp.issuedIds ops).Nodup)
    (hspares : ∀ op ∈ ops, op.task.SparesMetadata) :
    ∀ past, past <+: ops →
      (run apply (new config) past).Chronicled ((new config).closuresAlong past) := by
  have hknown : Along apply (fun past _ op => op.ambient.freshId ∉ ManagerOp.issuedIds past ∧
      op.task.SparesMetadata) (new config) ops :=
    (along_fresh _ hfresh).and fun past op hp => hspares op (hp.subset (by simp))
  have hrun := hknown.invariant (I := fun past manager =>
    manager.Chronicled ((new config).closuresAlong past) ∧
      manager.RegistersWithin (ManagerOp.issuedIds past) ∧
      manager = run apply (new config) past)
    ⟨chronicled_new henabled, registersWithin_new config, rfl⟩ ?_
  · exact fun past hpast => (hrun past hpast).1
  · rintro past manager op ⟨hchronicled, hwithin, hreached⟩ ⟨hnew, hspares⟩
    refine ⟨?_, hwithin.apply op, by rw [run_append, run_cons, run_nil, hreached]⟩
    rw [closuresAlong_concat, ← hreached]
    exact hchronicled.apply hspares (hwithin.getSession_eq_none hnew)

/-- One session is used twice and closed, another one stays. -/
def oneClosed : List ManagerOp :=
  [(ManagerTask.createSession "build" {} [] none).atSeconds 0 1,
    (ManagerTask.updateSessionStatus ⟨1⟩ .active).atSeconds 1 2,
    (ManagerTask.useSession ⟨1⟩).atSeconds 2 3,
    (ManagerTask.useSession ⟨1⟩).atSeconds 3 4,
    (ManagerTask.createSession "test" {} [] none).atSeconds 4 5,
    (ManagerTask.closeSession ⟨1⟩).atSeconds 10 6]

/-- As long as no metadata are replaced as a whole, the history has an entry with the data of
every registered session, and every other entry is closed. -/
theorem mirrors_run (config : SessionManagerConfig) (henabled : config.enableMetrics = true)
    (ops : List ManagerOp) (hfresh : (ManagerOp.issuedIds ops).Nodup)
    (hspares : ∀ op ∈ ops, op.task.SparesMetadata) :
    Always apply (fun manager => ∃ collector, manager.metrics = some collector ∧
      collector.Mirrors manager.getSession) (new config) ops := by
  intro past hpast
  obtain ⟨collector, hmetrics, hmirrors, _⟩ :=
    (chronicled_run henabled hfresh hspares past hpast).metrics
  exact ⟨collector, hmetrics, hmirrors⟩

theorem mirrors_run_oneClosed :
    Always apply (fun manager => ∃ collector, manager.metrics = some collector ∧
      collector.Mirrors manager.getSession) (new {}) oneClosed :=
  mirrors_run {} rfl oneClosed (by decide) (by simp [oneClosed, ManagerTask.atSeconds,
    ManagerTask.SparesMetadata])

/-- The samples and averages are those of the last thousand sessions that were closed. Fewer
than `2 ^ 32` sessions of each transport are created, so that their usage is in the range of
its counter, whose sum is the number of all of them. -/
theorem summarizes_run (config : SessionManagerConfig) (henabled : config.enableMetrics = true)
    (hlimit : config.registry.maxSessions < 2 ^ 32) (ops : List ManagerOp)
    (hfresh : (ManagerOp.issuedIds ops).Nodup) (hspares : ∀ op ∈ ops, op.task.SparesMetadata)
    (hcreated : ∀ transportType, (new config).created transportType ops < 2 ^ 32) :
    ∃ collector, (run apply (new config) ops).metrics = some collector ∧
      collector.Summarizes ((new config).closuresAlong ops) ∧
      ∀ transportType, collector.metrics.usageOf transportType < 2 ^ 32 := by
  obtain ⟨collector, hmetrics, _, hsummarizes⟩ :=
    (chronicled_run henabled hfresh hspares ops (List.prefix_refl ops)).metrics
  have hrecorded := recorded_run henabled hlimit hspares hfresh ops (List.prefix_refl ops)
  refine ⟨collector, hmetrics, hsummarizes, fun transportType => ?_⟩
  rw [← usageOf_of_some hmetrics, hrecorded.usage]
  exact hcreated transportType

theorem summarizes_run_oneClosed :
    ((new {}).closuresAlong oneClosed).map Closure.idleTime = [Duration.fromSecs 7] ∧
      ∃ collector, (run apply (new {}) oneClosed).metrics = some collector ∧
        collector.Summarizes ((new {}).closuresAlong oneClosed) ∧
        ∀ transportType, collector.metrics.usageOf transportType < 2 ^ 32 :=
  ⟨by decide +kernel, summarizes_run {} rfl (by decide) oneClosed (by decide) (by simp [oneClosed,
    ManagerTask.atSeconds, ManagerTask.SparesMetadata]) (by rintro ⟨⟩ <;> decide)⟩

end SessionManager

end Yuha
