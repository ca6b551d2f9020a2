import Yuha.Core.BackgroundTasks
import Yuha.Library.HashMap
import Yuha.Library.Window

/-!
# The samples of a metric

`add_sample` appends a sample and then removes the oldest one if there are too many. The
limit comes from the configuration, which can be replaced at any time, and a limit that falls
is not caught up: the samples stay above it.

## Implementation notes

A task that records reads the limit and adds the sample in two steps, between which other
tasks run. A task that waits for a lock has not taken its step yet.
-/

namespace Yuha

open Library Library.Execution Library.Window

inductive MetricType
  | counter
  | gauge
  | histogram
  deriving DecidableEq, Repr

structure MetricSample where
  timestamp : SystemTime
  value : Float
  labels : HashMap String String

structure Metric where
  name : String
  metricType : MetricType
  help : String
  samples : List MetricSample := []
  currentValue : Float := 0.0

/-- A call of `add_sample`. The time is what the clock says. -/
structure SampleCall where
  now : SystemTime
  value : Float
  labels : HashMap String String
  maxSamples : Nat

def SampleCall.sample (call : SampleCall) : MetricSample where
  timestamp := call.now
  value := call.value
  labels := call.labels

namespace Metric

def new (name : String) (metricType : MetricType) (help : String) : Metric where
  name := name
  metricType := metricType
  help := help

def addSample (metric : Metric) (now : SystemTime) (value : Float)
    (labels : HashMap String String) (maxSamples : Nat) : Metric :=
  let sample : MetricSample := { timestamp := now, value := value, labels := labels }
  let samples := metric.samples ++ [sample]
  { metric with
    currentValue :=
      match metric.metricType with
      | .counter => metric.currentValue + value
      | .gauge => value
      | .histogram => value
    -- there is an oldest sample, since one was just added
    samples := if maxSamples < samples.length then samples.tail else samples }

def record (metric : Metric) (call : SampleCall) : Metric :=
  metric.addSample call.now call.value call.labels call.maxSamples

variable {name help : String} {metricType : MetricType}

theorem samples_record (metric : Metric) (call : SampleCall) :
    (metric.record call).samples = slide call.maxSamples metric.samples call.sample := rfl

theorem length_samples_record (metric : Metric) (call : SampleCall) :
    (metric.record call).samples.length =
      if call.maxSamples ≤ metric.samples.length then metric.samples.length
      else metric.samples.length + 1 := by
  rw [samples_record, length_slide]

/-- The samples are the newest ones that were added, however many they are. -/
theorem samples_run_suffix (calls : List SampleCall) :
    (run record (new name metricType help) calls).samples <:+ calls.map SampleCall.sample := by
  induction calls using List.reverseRecOn with
  | nil => exact List.nil_suffix
  | append_singleton calls call ih =>
      rw [run_append, run_cons, run_nil, samples_record, List.map_append, List.map_singleton]
      exact slide_suffix ih _ _

/-- Under one limit the samples are the newest ones that the limit allows. -/
theorem samples_run_of_forall_eq {maxSamples : Nat} {calls : List SampleCall}
    (h : ∀ call ∈ calls, call.maxSamples = maxSamples) :
    (run record (new name metricType help) calls).samples =
      (calls.map SampleCall.sample).rtake maxSamples := by
  induction calls using List.reverseRecOn with
  | nil => exact (List.rtake_nil maxSamples).symm
  | append_singleton calls call ih =>
      rw [List.forall_mem_append, List.forall_mem_singleton] at h
      obtain ⟨hcalls, hcall⟩ := h
      rw [run_append, run_cons, run_nil, samples_record, ih hcalls, hcall, slide_rtake,
        List.map_append, List.map_singleton]

/-- There are never more samples than the largest limit allows. -/
theorem length_samples_run_le {bound : Nat} {calls : List SampleCall}
    (h : ∀ call ∈ calls, call.maxSamples ≤ bound) :
    (run record (new name metricType help) calls).samples.length ≤ bound := by
  induction calls using List.reverseRecOn with
  | nil => exact Nat.zero_le bound
  | append_singleton calls call ih =>
      rw [List.forall_mem_append, List.forall_mem_singleton] at h
      have hbefore := ih h.1
      have hcall := h.2
      rw [run_append, run_cons, run_nil, length_samples_record]
      split <;> omega

/-- A call leaves the newest samples, and no more than its limit. -/
def KeepsNewest (past : List SampleCall) (metric : Metric) (call : SampleCall) : Prop :=
  (metric.record call).samples.length ≤ call.maxSamples ∧
    (metric.record call).samples <:+ (past ++ [call]).map SampleCall.sample

/-- Every call keeps the newest samples within its limit, exactly if every limit leaves room
for what the earlier ones let in. -/
theorem along_keepsNewest_iff (name : String) (metricType : MetricType) (help : String)
    (calls : List SampleCall) :
    Along record KeepsNewest (new name metricType help) calls ↔
      ∀ past call, past ++ [call] <+: calls →
        Admits (past.map SampleCall.maxSamples) call.maxSamples := by
  have hlengths : Along record
      (fun _ metric call => (metric.record call).samples.length ≤ call.maxSamples)
      (new name metricType help) calls ↔ _ :=
    along_size_le_iff (fun metric : Metric => metric.samples.length) SampleCall.maxSamples
      length_samples_record rfl
  constructor
  · intro h
    exact hlengths.mp fun past call hcall => (h past call hcall).1
  · intro h past call hcall
    refine ⟨hlengths.mpr h past call hcall, ?_⟩
    have hsuffix := @samples_run_suffix name help metricType (past ++ [call])
    rwa [run_append, run_cons, run_nil] at hsuffix

/-- The third limit is below the number of samples that the first two let in. -/
theorem along_keepsNewest_false :
    ¬ Along record KeepsNewest (new "requests" .counter "Counter metric: requests")
      [⟨0, 1.0, ∅, 2⟩, ⟨0, 1.0, ∅, 2⟩, ⟨0, 1.0, ∅, 1⟩] := by
  intro h
  have hlast := (h [⟨0, 1.0, ∅, 2⟩, ⟨0, 1.0, ∅, 2⟩] ⟨0, 1.0, ∅, 1⟩ (List.prefix_refl _)).1
  exact absurd hlast (by decide)

end Metric

/-! ## The collector -/

def MetricType.help (name : String) : MetricType → String
  | .counter => "Counter metric: " ++ name
  | .gauge => "Gauge metric: " ++ name
  | .histogram => "Histogram metric: " ++ name

/-- What a task that records is spawned with. -/
structure Recorder where
  name : String
  metricType : MetricType
  value : Float
  labels : HashMap String String

/-- The call of `add_sample` the task makes. -/
def Recorder.call (recorder : Recorder) (now : SystemTime) (maxSamples : Nat) : SampleCall where
  now := now
  value := recorder.value
  labels := recorder.labels
  maxSamples := maxSamples

/-- A collector with its metrics, the tasks that have not read the configuration, and the
others with the limit they have read. -/
structure RecordingCollector where
  collector : MetricsCollector := .new
  metrics : HashMap String Metric := ∅
  spawned : List Recorder := []
  limited : List (Recorder × Nat) := []

inductive RecordingEvent
  | background (event : MetricsEvent)
  /-- A call of `counter`, `gauge` or `record_histogram`. -/
  | spawn (recorder : Recorder)
  | readConfig (i : Nat)
  | addSample (i : Nat) (now : SystemTime)

/-- The limit an event installs. -/
def RecordingEvent.installs : RecordingEvent → Option Nat
  | .background (.init config) => some config.maxSamples
  | _ => none

namespace RecordingCollector

def spawn (c : RecordingCollector) (recorder : Recorder) : RecordingCollector :=
  { c with spawned := c.spawned ++ [recorder] }

def counter (c : RecordingCollector) (name : String) (value : Float)
    (labels : HashMap String String) : RecordingCollector :=
  c.spawn ⟨name, .counter, value, labels⟩

def gauge (c : RecordingCollector) (name : String) (value : Float)
    (labels : HashMap String String) : RecordingCollector :=
  c.spawn ⟨name, .gauge, value, labels⟩

def recordHistogram (c : RecordingCollector) (name : String) (value : Float)
    (labels : HashMap String String) : RecordingCollector :=
  c.spawn ⟨name, .histogram, value, labels⟩

/-- A task reads the configuration, and it is done if the metrics are disabled. -/
def readConfig (c : RecordingCollector) (i : Nat) : RecordingCollector :=
  match c.spawned[i]? with
  | some recorder =>
      { c with
        spawned := c.spawned.eraseIdx i
        limited :=
          if c.collector.config.enabled then
            c.limited ++ [(recorder, c.collector.config.maxSamples)]
          else c.limited }
  | none => c

/-- The metric under a name, or a new one of the type of the task. -/
def entry (c : RecordingCollector) (recorder : Recorder) : Metric :=
  (c.metrics.lookup recorder.name).getD
    (.new recorder.name recorder.metricType (recorder.metricType.help recorder.name))

def addSample (c : RecordingCollector) (i : Nat) (now : SystemTime) : RecordingCollector :=
  match c.limited[i]? with
  | some (recorder, maxSamples) =>
      { c with
        metrics := AList.insert recorder.name
          ((c.entry recorder).addSample now recorder.value recorder.labels maxSamples) c.metrics
        limited := c.limited.eraseIdx i }
  | none => c

def step (c : RecordingCollector) : RecordingEvent → RecordingCollector
  | .background event => { c with collector := c.collector.step event }
  | .spawn recorder =>
      match recorder.metricType with
      | .counter => c.counter recorder.name recorder.value recorder.labels
      | .gauge => c.gauge recorder.name recorder.value recorder.labels
      | .histogram => c.recordHistogram recorder.name recorder.value recorder.labels
  | .readConfig i => c.readConfig i
  | .addSample i now => c.addSample i now

theorem step_spawn (c : RecordingCollector) (recorder : Recorder) :
    c.step (.spawn recorder) = c.spawn recorder := by
  obtain ⟨name, metricType, value, labels⟩ := recorder
  cases metricType <;> rfl

/-- The limits in force during a run, the one of the default configuration first. -/
def installed (events : List RecordingEvent) : List Nat :=
  ({} : MetricsConfig).maxSamples :: events.filterMap RecordingEvent.installs

theorem installed_subset (events : List RecordingEvent) (event : RecordingEvent) :
    installed events ⊆ installed (events ++ [event]) := by
  rw [installed, installed, List.filterMap_append]
  exact List.cons_subset_cons _ (List.subset_append_left _ _)

/-- Every metric is what calls of `add_sample` make of a new one, and their limits were in
force. -/
structure Recorded (events : List RecordingEvent) (c : RecordingCollector) : Prop where
  config : c.collector.config.maxSamples ∈ installed events
  limited : ∀ task ∈ c.limited, task.2 ∈ installed events
  metrics : ∀ name metric, c.metrics.lookup name = some metric →
    ∃ (metricType : MetricType) (calls : List SampleCall),
      metric = run Metric.record (.new name metricType (metricType.help name)) calls ∧
        ∀ call ∈ calls, call.maxSamples ∈ installed events

theorem Recorded.mono {events : List RecordingEvent} {c : RecordingCollector}
    (h : Recorded events c) (event : RecordingEvent) : Recorded (events ++ [event]) c where
  config := installed_subset events event h.config
  limited task htask := installed_subset events event (h.limited task htask)
  metrics name metric hmetric := by
    obtain ⟨metricType, calls, hrun, hcalls⟩ := h.metrics name metric hmetric
    exact ⟨metricType, calls, hrun, fun call hcall =>
      installed_subset events event (hcalls call hcall)⟩

theorem mem_installed_of_installs {event : RecordingEvent} {maxSamples : Nat}
    (h : event.installs = some maxSamples) (events : List RecordingEvent) :
    maxSamples ∈ installed (events ++ [event]) := by
  rw [installed, List.filterMap_append]
  exact List.mem_cons_of_mem _ (List.mem_append_right _ (by simp [h]))

theorem config_step (c : RecordingCollector) (event : RecordingEvent) :
    (c.step event).collector.config = c.collector.config ∨
      event.installs = some (c.step event).collector.config.maxSamples := by
  cases event with
  | background event =>
      cases event with
      | init config =>
          right
          simp only [RecordingEvent.installs, step, MetricsCollector.step,
            MetricsCollector.config_init]
      | stop | collectionTick i | collectionDone i | exportTick i | exportDone i =>
          exact Or.inl rfl
  | spawn recorder => exact Or.inl (by rw [step_spawn]; rfl)
  | readConfig i =>
      left
      simp only [step, readConfig]
      split <;> rfl
  | addSample i now =>
      left
      simp only [step, addSample]
      split <;> rfl

/-- A task enters with the limit that is in force. -/
theorem limited_readConfig {c : RecordingCollector} {i : Nat} {task : Recorder × Nat}
    (h : task ∈ (c.readConfig i).limited) :
    task ∈ c.limited ∨ task.2 = c.collector.config.maxSamples := by
  unfold readConfig at h
  cases hrecorder : c.spawned[i]? with
  | none =>
      rw [hrecorder] at h
      exact Or.inl h
  | some recorder =>
      simp only [hrecorder] at h
      split at h
      · cases List.mem_append.mp h with
        | inl hbefore => exact Or.inl hbefore
        | inr hnew => exact Or.inr (congrArg Prod.snd (List.mem_singleton.mp hnew))
      · exact Or.inl h

/-- A sample that is added is one more call on the metric, or the first on a new one. -/
theorem Recorded.addSample {events : List RecordingEvent} {c : RecordingCollector}
    (h : Recorded events c) (i : Nat) (now : SystemTime) : Recorded events (c.addSample i now) := by
  unfold RecordingCollector.addSample
  split
  case h_2 => exact h
  case h_1 recorder maxSamples htask =>
    have hlimit : maxSamples ∈ installed events :=
      h.limited (recorder, maxSamples) (List.mem_of_getElem? htask)
    constructor
    case config => exact h.config
    case limited => exact fun task hmem => h.limited task (List.mem_of_mem_eraseIdx hmem)
    case metrics =>
      intro name metric hmetric
      rw [HashMap.lookup_insert_ite] at hmetric
      by_cases hname : name = recorder.name
      · subst hname
        rw [if_pos rfl, Option.some.injEq] at hmetric
        cases hentry : c.metrics.lookup recorder.name with
        | none =>
            refine ⟨recorder.metricType, [recorder.call now maxSamples], ?_, ?_⟩
            · rw [← hmetric, entry, hentry]
              rfl
            · exact List.forall_mem_singleton.mpr hlimit
        | some before =>
            obtain ⟨metricType, calls, rfl, hcalls⟩ := h.metrics _ before hentry
            refine ⟨metricType, calls ++ [recorder.call now maxSamples], ?_, ?_⟩
            · rw [← hmetric, entry, hentry, run_append]
              rfl
            · exact List.forall_mem_append.mpr
                ⟨hcalls, List.forall_mem_singleton.mpr hlimit⟩
      · rw [if_neg hname] at hmetric
        exact h.metrics name metric hmetric

theorem Recorded.step {events : List RecordingEvent} {c : RecordingCollector}
    (h : Recorded events c) (event : RecordingEvent) :
    Recorded (events ++ [event]) (c.step event) := by
  have hnext := h.mono event
  have hconfig : (c.step event).collector.config.maxSamples ∈ installed (events ++ [event]) := by
    cases c.config_step event with
    | inl hsame => exact hsame ▸ hnext.config
    | inr hinstalls => exact mem_installed_of_installs hinstalls events
  cases event with
  | background event => exact ⟨hconfig, hnext.limited, hnext.metrics⟩
  | spawn recorder =>
      rw [step_spawn]
      exact ⟨hnext.config, hnext.limited, hnext.metrics⟩
  | readConfig i =>
      refine ⟨hconfig, fun task htask => ?_, ?_⟩
      · cases limited_readConfig htask with
        | inl hbefore => exact hnext.limited task hbefore
        | inr hlimit => exact hlimit ▸ hnext.config
      · have hmetrics : (c.readConfig i).metrics = c.metrics := by
          unfold readConfig
          split <;> rfl
        rw [RecordingCollector.step, hmetrics]
        exact hnext.metrics
  | addSample i now => exact hnext.addSample i now

/-- Whatever the tasks do, the metrics of a collector come from calls of `add_sample` under
limits that were in force. -/
theorem recorded_run (events : List RecordingEvent) : Recorded events (run step {} events) := by
  induction events using List.reverseRecOn with
  | nil =>
      constructor
      case config => exact List.mem_cons_self
      case limited => exact fun task htask => absurd htask List.not_mem_nil
      case metrics => exact fun name metric hmetric => absurd hmetric (by simp)
  | append_singleton events event ih =>
      rw [run_append]
      exact ih.step event

/-- No metric holds more samples than the largest limit that was in force. -/
theorem length_samples_le {events : List RecordingEvent} {bound : Nat}
    (h : ∀ maxSamples ∈ installed events, maxSamples ≤ bound) {name : String} {metric : Metric}
    (hmetric : (run step {} events).metrics.lookup name = some metric) :
    metric.samples.length ≤ bound := by
  obtain ⟨metricType, calls, rfl, hcalls⟩ := (recorded_run events).metrics name metric hmetric
  exact Metric.length_samples_run_le fun call hcall => h _ (hcalls call hcall)

/-! ## Which limits a metric meets -/

/-- A configuration is installed, and a task is spawned and records under its limit. -/
def recordAlone (name : String) (metricType : MetricType) (call : SampleCall) :
    List RecordingEvent :=
  [.background (.init { maxSamples := call.maxSamples }),
    .spawn ⟨name, metricType, call.value, call.labels⟩, .readConfig 0, .addSample 0 call.now]

/-- No task is between its spawn and its end. -/
def Idle (c : RecordingCollector) : Prop := c.spawned = [] ∧ c.limited = []

theorem run_recordAlone {c : RecordingCollector} (h : c.Idle) (name : String)
    (metricType : MetricType) (call : SampleCall) :
    (run step c (recordAlone name metricType call)).Idle ∧
      (run step c (recordAlone name metricType call)).metrics = AList.insert name
        (((c.metrics.lookup name).getD
          (.new name metricType (metricType.help name))).record call) c.metrics := by
  obtain ⟨collector, metrics, spawned, limited⟩ := c
  obtain ⟨rfl, rfl⟩ := h
  simp only [recordAlone, run_cons, run_nil, step_spawn]
  exact ⟨⟨rfl, rfl⟩, rfl⟩

theorem run_flatMap_recordAlone (name : String) (metricType : MetricType)
    (calls : List SampleCall) :
    (run step {} (calls.flatMap (recordAlone name metricType))).Idle ∧
      ((run step {} (calls.flatMap (recordAlone name metricType))).metrics.lookup name).getD
          (.new name metricType (metricType.help name)) =
        run Metric.record (.new name metricType (metricType.help name)) calls := by
  induction calls using List.reverseRecOn with
  | nil => exact ⟨⟨rfl, rfl⟩, rfl⟩
  | append_singleton calls call ih =>
      obtain ⟨hidle, hbefore⟩ := ih
      obtain ⟨hnext, hmetrics⟩ := run_recordAlone hidle name metricType call
      rw [List.flatMap_append, List.flatMap_singleton, run_append, run_append, run_cons, run_nil]
      refine ⟨hnext, ?_⟩
      rw [hmetrics, AList.lookup_insert, Option.getD_some, hbefore]

/-- No list of calls is ruled out by the collector. -/
theorem exists_lookup_run (name : String) (metricType : MetricType) {calls : List SampleCall}
    (h : calls ≠ []) : ∃ events, (run step {} events).metrics.lookup name =
      some (run Metric.record (.new name metricType (metricType.help name)) calls) := by
  refine ⟨calls.flatMap (recordAlone name metricType), ?_⟩
  induction calls using List.reverseRecOn with
  | nil => exact absurd rfl h
  | append_singleton calls call _ =>
      obtain ⟨hidle, hbefore⟩ := run_flatMap_recordAlone name metricType calls
      rw [List.flatMap_append, List.flatMap_singleton, run_append,
        (run_recordAlone hidle name metricType call).2, AList.lookup_insert, hbefore, run_append]
      rfl

end RecordingCollector

end Yuha
