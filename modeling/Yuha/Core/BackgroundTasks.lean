import Yuha.Core.Session.Lifecycle
import Yuha.Library.Periodic

/-!
# The background tasks of the core

`SessionLifecycle` runs a cleanup loop, and `MetricsCollector` a collection loop and an
export loop. Each is a periodic task behind a flag.

## Implementation notes

The intervals say when a timer fires; here it may fire at any time.
-/

namespace Yuha

open Library Library.Execution

/-! ## The cleanup task -/

structure SessionLifecycle where
  config : SessionLifecycleConfig
  cleanup : PeriodicTask := {}

namespace SessionLifecycle

def new (config : SessionLifecycleConfig) : SessionLifecycle := { config := config }

def startCleanupTask (lifecycle : SessionLifecycle) : SessionLifecycle :=
  { lifecycle with cleanup := lifecycle.cleanup.start }

def stopCleanupTask (lifecycle : SessionLifecycle) : SessionLifecycle :=
  { lifecycle with cleanup := lifecycle.cleanup.stop }

def step (lifecycle : SessionLifecycle) : PeriodicEvent → SessionLifecycle
  | .start => lifecycle.startCleanupTask
  | .stop => lifecycle.stopCleanupTask
  | .tick i => { lifecycle with cleanup := lifecycle.cleanup.tick i }
  | .finish i => { lifecycle with cleanup := lifecycle.cleanup.finish i }

/-- The lifecycle, as what keeps the cleanup task. -/
def cleanupHost : TaskHost SessionLifecycle PeriodicEvent where
  step := step
  task := cleanup
  event := some
  task_step _ event := by cases event <;> rfl

end SessionLifecycle

/-! ## The tasks of the metrics collector -/

structure MetricsConfig where
  enabled : Bool := true
  collectionInterval : Nat := 30
  maxSamples : Nat := 1000
  exportEnabled : Bool := false
  exportInterval : Nat := 60
  deriving DecidableEq, Repr

structure MetricsCollector where
  config : MetricsConfig := {}
  collectionTask : PeriodicTask := {}
  exportTask : PeriodicTask := {}
  deriving DecidableEq, Repr

inductive MetricsEvent
  | init (config : MetricsConfig)
  | stop
  | collectionTick (loop : Nat)
  | collectionDone (loop : Nat)
  | exportTick (loop : Nat)
  | exportDone (loop : Nat)

namespace MetricsCollector

def new : MetricsCollector := {}

def startCollectionTask (collector : MetricsCollector) : MetricsCollector :=
  { collector with collectionTask := collector.collectionTask.start }

def startExportTask (collector : MetricsCollector) : MetricsCollector :=
  { collector with exportTask := collector.exportTask.start }

def init (collector : MetricsCollector) (config : MetricsConfig) : MetricsCollector :=
  let collector := { collector with config := config }
  if config.enabled then
    let collector := collector.startCollectionTask
    if config.exportEnabled then collector.startExportTask else collector
  else collector

def stop (collector : MetricsCollector) : MetricsCollector :=
  { collector with
    collectionTask := collector.collectionTask.stop
    exportTask := collector.exportTask.stop }

def step (collector : MetricsCollector) : MetricsEvent → MetricsCollector
  | .init config => collector.init config
  | .stop => collector.stop
  | .collectionTick i =>
      { collector with collectionTask := collector.collectionTask.tick i }
  | .collectionDone i =>
      { collector with collectionTask := collector.collectionTask.finish i }
  | .exportTick i => { collector with exportTask := collector.exportTask.tick i }
  | .exportDone i => { collector with exportTask := collector.exportTask.finish i }

theorem config_init (collector : MetricsCollector) (config : MetricsConfig) :
    (collector.init config).config = config := by
  unfold init
  split
  · split <;> rfl
  · rfl

/-- What an event is to the collection task, if it concerns it. -/
def onCollection : MetricsEvent → Option PeriodicEvent
  | .init config => if config.enabled then some .start else none
  | .stop => some .stop
  | .collectionTick i => some (.tick i)
  | .collectionDone i => some (.finish i)
  | .exportTick _ | .exportDone _ => none

theorem collectionTask_step (collector : MetricsCollector) (event : MetricsEvent) :
    (collector.step event).collectionTask =
      (onCollection event).elim collector.collectionTask collector.collectionTask.step := by
  cases event with
  | init config =>
      simp only [step, init, onCollection]
      by_cases henabled : config.enabled = true
      · simp only [henabled, if_true]
        split <;> rfl
      · simp [henabled]
  | stop | collectionTick i | collectionDone i | exportTick i | exportDone i => rfl

/-- The collector, as what keeps the collection task. -/
def collectionHost : TaskHost MetricsCollector MetricsEvent where
  step := step
  task := collectionTask
  event := onCollection
  task_step := collectionTask_step

end MetricsCollector

/-! ## Both -/

/-- Of the cleanup loops, and of the collection loops, at most one is live throughout, and
each works once for each interval, exactly if no task is started again before the timers of
the loops that were stopped have fired. -/
theorem loops_live_iff_startsAfterTicks (config : SessionLifecycleConfig)
    (cleanupEvents : List PeriodicEvent) (metricsEvents : List MetricsEvent) :
    ((Always SessionLifecycle.step (fun lifecycle => lifecycle.cleanup.live ≤ 1)
          (.new config) cleanupEvents ∧
        SessionLifecycle.cleanupHost.WorksOncePerInterval (.new config) cleanupEvents) ↔
      Along SessionLifecycle.step
        (SessionLifecycle.cleanupHost.StartsAfterTicks (.new config)) (.new config)
        cleanupEvents) ∧
      ((Always MetricsCollector.step (fun collector => collector.collectionTask.live ≤ 1)
            .new metricsEvents ∧
          MetricsCollector.collectionHost.WorksOncePerInterval .new metricsEvents) ↔
        Along MetricsCollector.step (MetricsCollector.collectionHost.StartsAfterTicks .new) .new
          metricsEvents) :=
  ⟨SessionLifecycle.cleanupHost.live_iff_startsAfterTicks rfl cleanupEvents,
    MetricsCollector.collectionHost.live_iff_startsAfterTicks rfl metricsEvents⟩

/-- The task is stopped and started again before the timer fires. Both loops go on: when
their timers fire, both do the work. -/
theorem loops_live_false :
    ¬ Always SessionLifecycle.step (fun lifecycle => lifecycle.cleanup.live ≤ 1) (.new {})
        [.start, .stop, .start] ∧
      (run SessionLifecycle.step (.new {})
        [.start, .stop, .start, .tick 0, .tick 1]).cleanup.loops = [.working, .working] ∧
      ¬ Always MetricsCollector.step (fun collector => collector.collectionTask.live ≤ 1) .new
        [.init {}, .stop, .init {}] := by
  refine ⟨fun h => ?_, by decide, fun h => ?_⟩
  · exact absurd h.last (by decide)
  · exact absurd h.last (by decide)

end Yuha
