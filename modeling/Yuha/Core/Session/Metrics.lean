import Yuha.Core.Session.Metadata

/-!
# Session metrics

## Implementation notes

The two rates are floating-point quotients of fields that are kept here; nothing reads
them back, so they are left out. Counters are unbounded. In the source the counters of
active, idle and failed sessions, the peak and the usage of each transport have 32 bits, the
others 64; what depends on the range of the former says that they stay in it.
-/

namespace Yuha

open Library

structure SessionMetrics where
  totalSessionsCreated : Nat := 0
  successfulConnections : Nat := 0
  failedConnections : Nat := 0
  sessionsClosed : Nat := 0
  activeSessions : Nat := 0
  idleSessions : Nat := 0
  failedSessions : Nat := 0
  avgSessionLifetime : Duration := 0
  avgIdleTime : Duration := 0
  transportUsage : HashMap TransportType Nat := ∅
  peakConcurrentSessions : Nat := 0
  totalUsageCount : Nat := 0

structure SessionHistoryEntry where
  createdAt : SystemTime
  closedAt : Option SystemTime := none
  transportType : TransportType
  useCount : Nat := 0
  totalIdleTime : Duration := 0
  wasReused : Bool := false

structure SessionMetricsCollector where
  metrics : SessionMetrics := {}
  sessionHistory : HashMap SessionId SessionHistoryEntry := ∅
  lifetimeSamples : List Duration := []
  idleTimeSamples : List Duration := []
  maxSamples : Nat := 1000

/-- A session with this status is counted no longer. The subtractions saturate. -/
def SessionMetrics.leaveStatus (metrics : SessionMetrics) : SessionStatus → SessionMetrics
  | .active => { metrics with activeSessions := metrics.activeSessions - 1 }
  | .idle => { metrics with idleSessions := metrics.idleSessions - 1 }
  | .failed => { metrics with failedSessions := metrics.failedSessions - 1 }
  | _ => metrics

/-- A session with this status is counted. Only an active one can raise the peak. -/
def SessionMetrics.enterStatus (metrics : SessionMetrics) : SessionStatus → SessionMetrics
  | .active =>
      let activeSessions := metrics.activeSessions + 1
      let totalActive := activeSessions + metrics.idleSessions
      { metrics with
        activeSessions := activeSessions
        peakConcurrentSessions :=
          if totalActive > metrics.peakConcurrentSessions then totalActive
          else metrics.peakConcurrentSessions }
  | .idle => { metrics with idleSessions := metrics.idleSessions + 1 }
  | .failed => { metrics with failedSessions := metrics.failedSessions + 1 }
  | _ => metrics

namespace SessionMetricsCollector

def recordSessionCreated (collector : SessionMetricsCollector) (session : SessionMetadata) :
    SessionMetricsCollector :=
  let transportType := session.transportConfig.transportType
  { collector with
    metrics := { collector.metrics with
      totalSessionsCreated := collector.metrics.totalSessionsCreated + 1
      transportUsage := AList.insert transportType
        ((collector.metrics.transportUsage.lookup transportType).getD 0 + 1)
        collector.metrics.transportUsage }
    sessionHistory := AList.insert session.id
      { createdAt := session.createdAt, transportType := transportType }
      collector.sessionHistory }

def recordConnectionSuccess (collector : SessionMetricsCollector) : SessionMetricsCollector :=
  { collector with
    metrics := { collector.metrics with
      successfulConnections := collector.metrics.successfulConnections + 1 } }

def recordConnectionFailure (collector : SessionMetricsCollector) : SessionMetricsCollector :=
  { collector with
    metrics := { collector.metrics with
      failedConnections := collector.metrics.failedConnections + 1 } }

def recordStatusChange (collector : SessionMetricsCollector)
    (oldStatus newStatus : SessionStatus) : SessionMetricsCollector :=
  { collector with
    metrics := (collector.metrics.leaveStatus oldStatus).enterStatus newStatus }

def recordSessionUsage (collector : SessionMetricsCollector) (sessionId : SessionId)
    (usageCount : Nat) : SessionMetricsCollector :=
  { collector with
    metrics := { collector.metrics with
      totalUsageCount := collector.metrics.totalUsageCount + 1 }
    sessionHistory := match collector.sessionHistory.lookup sessionId with
      | some history => AList.insert sessionId
          { history with
            useCount := usageCount
            wasReused := if usageCount > 1 then true else history.wasReused }
          collector.sessionHistory
      | none => collector.sessionHistory }

/-- Append a sample and drop the oldest one past the bound. -/
def addSample (samples : List Duration) (sample : Duration) (maxSize : Nat) : List Duration :=
  let samples := samples ++ [sample]
  if samples.length > maxSize then samples.drop 1 else samples

/-- The average that `update_averages` stores, or the old one if there is no sample. -/
def average (samples : List Duration) (old : Duration) : Duration :=
  if samples.isEmpty then old else samples.sum / samples.length

def recordSessionClosed (collector : SessionMetricsCollector) (now : SystemTime)
    (session : SessionMetadata) : SessionMetricsCollector :=
  let metrics := { collector.metrics with
    sessionsClosed := collector.metrics.sessionsClosed + 1 }.leaveStatus session.status
  let collector := match collector.sessionHistory.lookup session.id with
    | some history =>
        let idleTime := session.idleTime now
        { collector with
          sessionHistory := AList.insert session.id
            { history with closedAt := some now, totalIdleTime := idleTime }
            collector.sessionHistory
          lifetimeSamples :=
            if history.createdAt ≤ now then
              addSample collector.lifetimeSamples (now.since history.createdAt)
                collector.maxSamples
            else
              collector.lifetimeSamples
          idleTimeSamples :=
            addSample collector.idleTimeSamples idleTime collector.maxSamples }
    | none => collector
  { collector with
    metrics := { metrics with
      avgSessionLifetime := average collector.lifetimeSamples metrics.avgSessionLifetime
      avgIdleTime := average collector.idleTimeSamples metrics.avgIdleTime } }

/-- Drop the history of sessions that were closed longer ago than `maxAge`. -/
def cleanupOldHistory (collector : SessionMetricsCollector) (now : SystemTime)
    (maxAge : Duration) : SessionMetricsCollector :=
  let expired := collector.sessionHistory.entries.filter fun entry =>
    match entry.2.closedAt with
    | some closedAt => decide (maxAge < now.since closedAt)
    | none => false
  { collector with
    sessionHistory := expired.foldl (fun history entry => AList.erase entry.1 history)
      collector.sessionHistory }

end SessionMetricsCollector

end Yuha
