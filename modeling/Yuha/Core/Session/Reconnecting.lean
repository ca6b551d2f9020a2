import Mathlib.Data.List.Chain
import Yuha.Core.Session.Lifecycle
import Yuha.Library.Execution
import Yuha.Library.HashMap

/-!
# Reconnecting sessions

`SessionReconnectionManager` counts the attempts to reconnect each session and keeps the time
of the last one. Whoever asks before each attempt stays within the budget of the session and
keeps the delay.
-/

namespace Yuha

open Library Library.Execution

structure SessionReconnectionManager where
  reconnectionAttempts : HashMap SessionId UInt32 := ∅
  lastReconnectionTime : HashMap SessionId SystemTime := ∅

namespace SessionReconnectionManager

def canReconnect (manager : SessionReconnectionManager) (sessionId : SessionId)
    (config : SessionLifecycleConfig) (now : SystemTime) : Bool :=
  let attempts := (manager.reconnectionAttempts.lookup sessionId).getD 0
  if config.maxReconnectAttempts ≤ attempts then false
  else
    match manager.lastReconnectionTime.lookup sessionId with
    | some lastTime => if SystemTime.since now lastTime < config.reconnectDelay then false else true
    | none => true

def recordReconnectionAttempt (manager : SessionReconnectionManager) (sessionId : SessionId)
    (now : SystemTime) : SessionReconnectionManager where
  reconnectionAttempts := AList.insert sessionId
    ((manager.reconnectionAttempts.lookup sessionId).getD 0 + 1) manager.reconnectionAttempts
  lastReconnectionTime := AList.insert sessionId now manager.lastReconnectionTime

def resetReconnection (manager : SessionReconnectionManager) (sessionId : SessionId) :
    SessionReconnectionManager where
  reconnectionAttempts := AList.erase sessionId manager.reconnectionAttempts
  lastReconnectionTime := AList.erase sessionId manager.lastReconnectionTime

/-- The same as `resetReconnection`. -/
def cleanupSession (manager : SessionReconnectionManager) (sessionId : SessionId) :
    SessionReconnectionManager :=
  manager.resetReconnection sessionId

end SessionReconnectionManager

inductive ReconnectionCall
  | canReconnect
  | recordReconnectionAttempt
  | resetReconnection
  | cleanupSession
  deriving DecidableEq, Repr

structure ReconnectionEvent where
  call : ReconnectionCall
  sessionId : SessionId
  now : SystemTime
  deriving DecidableEq, Repr

namespace SessionReconnectionManager

/-- A question changes nothing. -/
def step (manager : SessionReconnectionManager) (e : ReconnectionEvent) :
    SessionReconnectionManager :=
  match e.call with
  | .canReconnect => manager
  | .recordReconnectionAttempt => manager.recordReconnectionAttempt e.sessionId e.now
  | .resetReconnection => manager.resetReconnection e.sessionId
  | .cleanupSession => manager.cleanupSession e.sessionId

variable {manager : SessionReconnectionManager} {id : SessionId} {e : ReconnectionEvent}
  {es past : List ReconnectionEvent} {config : SessionLifecycleConfig}

/-! ## The attempts of a session -/

/-- The times of the attempts since the last reset or cleanup, one event later. -/
def nextAttempts (id : SessionId) (times : List SystemTime) (e : ReconnectionEvent) :
    List SystemTime :=
  if e.sessionId = id then
    match e.call with
    | .canReconnect => times
    | .recordReconnectionAttempt => times ++ [e.now]
    | .resetReconnection | .cleanupSession => []
  else times

/-- The times of the attempts since the last reset or cleanup. -/
def attempts (id : SessionId) (es : List ReconnectionEvent) : List SystemTime :=
  es.foldl (nextAttempts id) []

@[simp] theorem attempts_nil : attempts id [] = [] := rfl

@[simp] theorem attempts_concat (es : List ReconnectionEvent) (e : ReconnectionEvent) :
    attempts id (es ++ [e]) = nextAttempts id (attempts id es) e := by
  simp [attempts]

/-- The last call for the session asked whether it can be reconnected, and was told so. -/
def Allowed (config : SessionLifecycleConfig) (past : List ReconnectionEvent) (id : SessionId) :
    Prop :=
  ∃ (before : List ReconnectionEvent) (asked : ReconnectionEvent)
    (others : List ReconnectionEvent),
    past = before ++ asked :: others ∧ asked.call = .canReconnect ∧ asked.sessionId = id ∧
      (run step {} before).canReconnect id config asked.now ∧ ∀ e ∈ others, e.sessionId ≠ id

/-- An attempt is recorded only after such an answer. -/
def AsksFirst (config : SessionLifecycleConfig) (past : List ReconnectionEvent)
    (_ : SessionReconnectionManager) (e : ReconnectionEvent) : Prop :=
  e.call = .recordReconnectionAttempt → Allowed config past e.sessionId

/-! ## What one session's entries say -/

/-- All that the manager has about a session. -/
def entries (manager : SessionReconnectionManager) (id : SessionId) :
    Option UInt32 × Option SystemTime :=
  (manager.reconnectionAttempts.lookup id, manager.lastReconnectionTime.lookup id)

theorem canReconnect_congr {manager' : SessionReconnectionManager}
    (h : manager'.entries id = manager.entries id) (config : SessionLifecycleConfig)
    (now : SystemTime) :
    manager'.canReconnect id config now = manager.canReconnect id config now := by
  obtain ⟨hattempts, htime⟩ := Prod.mk.inj h
  simp only [canReconnect, hattempts, htime]

/-- A call for one session leaves the entries of the others. -/
theorem entries_step_of_ne (manager : SessionReconnectionManager) (h : e.sessionId ≠ id) :
    (manager.step e).entries id = manager.entries id := by
  obtain ⟨call, sessionId, now⟩ := e
  have hne : id ≠ sessionId := Ne.symm h
  cases call with
  | canReconnect => rfl
  | recordReconnectionAttempt =>
      simp [step, entries, recordReconnectionAttempt, hne]
  | resetReconnection | cleanupSession =>
      simp [step, entries, cleanupSession, resetReconnection, hne]

theorem entries_run_of_ne {others : List ReconnectionEvent}
    (h : ∀ e ∈ others, e.sessionId ≠ id) (manager : SessionReconnectionManager) :
    (run step manager others).entries id = manager.entries id := by
  induction others generalizing manager with
  | nil => rfl
  | cons e others ih =>
      rw [run_cons, ih (fun e' he' => h e' (by simp [he'])),
        entries_step_of_ne manager (h e (by simp))]

/-- The entries of a session are the number and the last of its attempts. -/
structure Tracks (id : SessionId) (times : List SystemTime)
    (manager : SessionReconnectionManager) : Prop where
  count : ((manager.reconnectionAttempts.lookup id).getD 0).toNat = times.length
  last : manager.lastReconnectionTime.lookup id = times.getLast?

theorem Tracks.canReconnect_iff {times : List SystemTime} (h : Tracks id times manager)
    (now : SystemTime) : manager.canReconnect id config now ↔
      times.length < config.maxReconnectAttempts.toNat ∧
        ∀ last ∈ times.getLast?, config.reconnectDelay ≤ SystemTime.since now last := by
  have hcount := h.count
  simp only [SessionReconnectionManager.canReconnect, h.last]
  by_cases hroom : config.maxReconnectAttempts ≤ (manager.reconnectionAttempts.lookup id).getD 0
  · have hfull := UInt32.le_iff_toNat_le.mp hroom
    rw [hcount] at hfull
    simp [hroom, Nat.not_lt.mpr hfull]
  · have hless : times.length < config.maxReconnectAttempts.toNat := by
      rw [← hcount]
      exact UInt32.lt_iff_toNat_lt.mp (UInt32.not_le.mp hroom)
    cases times.getLast? <;> simp [hroom, hless]

theorem Tracks.congr {times : List SystemTime} {manager' : SessionReconnectionManager}
    (h : Tracks id times manager) (heq : manager'.entries id = manager.entries id) :
    Tracks id times manager' := by
  obtain ⟨hattempts, htime⟩ := Prod.mk.inj heq
  exact ⟨hattempts ▸ h.count, htime.trans h.last⟩

/-- The count does not wrap as long as an attempt is left. -/
theorem Tracks.record {times : List SystemTime} (h : Tracks id times manager)
    (hroom : times.length < config.maxReconnectAttempts.toNat) (now : SystemTime) :
    Tracks id (times ++ [now]) (manager.recordReconnectionAttempt id now) := by
  constructor
  · have hcount := h.count
    have hbound := config.maxReconnectAttempts.toNat_lt
    simp only [recordReconnectionAttempt, AList.lookup_insert, Option.getD_some, UInt32.toNat_add,
      UInt32.toNat_one, hcount, List.length_append, List.length_singleton]
    omega
  · simp [recordReconnectionAttempt]

theorem tracks_reset (id : SessionId) (manager : SessionReconnectionManager) :
    Tracks id [] (manager.resetReconnection id) := by
  constructor <;> simp [resetReconnection]

/-- An answer that allows an attempt still holds when the attempt is made. -/
theorem Allowed.canReconnect (h : Allowed config past id) :
    ∃ asked ∈ past, (run step {} past).canReconnect id config asked.now := by
  obtain ⟨before, asked, others, rfl, hcall, -, hallowed, hothers⟩ := h
  refine ⟨asked, by simp, ?_⟩
  have hstep : (run step {} before).step asked = run step {} before := by
    simp only [step, hcall]
  have hrun : run step {} (before ++ asked :: others) = run step (run step {} before) others := by
    rw [run_append, run_cons, hstep]
  rw [hrun, canReconnect_congr (entries_run_of_ne hothers _)]
  exact hallowed

/-! ## Runs -/

/-- The attempts of a session are within the budget and apart. -/
structure Paced (config : SessionLifecycleConfig) (times : List SystemTime) : Prop where
  budget : times.length ≤ config.maxReconnectAttempts.toNat
  apart : times.IsChain fun a b => config.reconnectDelay ≤ SystemTime.since b a

theorem paced_nil (config : SessionLifecycleConfig) : Paced config [] :=
  ⟨Nat.zero_le _, List.isChain_nil⟩

theorem Paced.concat {times : List SystemTime} (h : Paced config times) {now : SystemTime}
    (hroom : times.length < config.maxReconnectAttempts.toNat)
    (hlast : ∀ last ∈ times.getLast?, config.reconnectDelay ≤ SystemTime.since now last) :
    Paced config (times ++ [now]) := by
  constructor
  · rw [List.length_append, List.length_singleton]
    exact hroom
  · rw [List.isChain_append]
    refine ⟨h.apart, List.isChain_singleton now, fun last hmem first hfirst => ?_⟩
    obtain rfl : now = first := by simpa using hfirst
    exact hlast last hmem

theorem tracks_paced (ordered : es.Pairwise fun a b => a.now ≤ b.now)
    (asks : Along step (AsksFirst config) {} es) (id : SessionId) :
    Tracks id (attempts id es) (run step {} es) ∧ Paced config (attempts id es) := by
  induction es using List.reverseRecOn with
  | nil => exact ⟨⟨rfl, rfl⟩, paced_nil config⟩
  | append_singleton es e ih =>
      obtain ⟨hordered, -, hlater⟩ := List.pairwise_append.mp ordered
      obtain ⟨hasks, hask⟩ := along_concat.mp asks
      obtain ⟨htracks, hpaced⟩ := ih hordered hasks
      rw [run_append, attempts_concat, run_cons, run_nil]
      by_cases hid : e.sessionId = id
      · subst hid
        simp only [nextAttempts, if_true, step]
        cases hcall : e.call with
        | canReconnect => exact ⟨htracks, hpaced⟩
        | recordReconnectionAttempt =>
            obtain ⟨asked, hasked, hallowed⟩ := (hask hcall).canReconnect
            obtain ⟨hroom, hdelay⟩ := (htracks.canReconnect_iff asked.now).mp hallowed
            -- The clock has not run backwards since the answer.
            have hnow : asked.now ≤ e.now := hlater asked hasked e (List.mem_singleton_self e)
            refine ⟨htracks.record hroom e.now, hpaced.concat hroom fun last hmem => ?_⟩
            exact (hdelay last hmem).trans (SystemTime.since_mono hnow le_rfl)
        | resetReconnection | cleanupSession => exact ⟨tracks_reset _ _, paced_nil config⟩
      · have hsame : nextAttempts id (attempts id es) e = attempts id es := if_neg hid
        rw [hsame]
        exact ⟨htracks.congr (entries_step_of_ne _ hid), hpaced⟩

/-- In a run that asks before each attempt, at times that do not decrease, every session's
attempts since its last reset or cleanup are within the budget, each at least the delay after
the one before, and no call for another session changes what `can_reconnect` answers. -/
theorem attempts_paced (config : SessionLifecycleConfig) (es : List ReconnectionEvent)
    (ordered : es.Pairwise fun a b => a.now ≤ b.now)
    (asks : Along step (AsksFirst config) {} es) (id : SessionId) :
    (attempts id es).length ≤ config.maxReconnectAttempts.toNat ∧
    (attempts id es).IsChain (fun a b => config.reconnectDelay ≤ SystemTime.since b a) ∧
    ∀ e : ReconnectionEvent, e.sessionId ≠ id → ∀ now,
      ((run step {} es).step e).canReconnect id config now =
        (run step {} es).canReconnect id config now := by
  obtain ⟨-, hpaced⟩ := tracks_paced ordered asks id
  exact ⟨hpaced.budget, hpaced.apart,
    fun e hother now => canReconnect_congr (entries_step_of_ne _ hother) config now⟩

/-- Two sessions that are asked about in turn, and a second attempt of the first. -/
def twoSessions : List ReconnectionEvent :=
  [⟨.canReconnect, ⟨1⟩, 0⟩, ⟨.canReconnect, ⟨2⟩, 0⟩, ⟨.recordReconnectionAttempt, ⟨1⟩, 1⟩,
    ⟨.recordReconnectionAttempt, ⟨2⟩, 1⟩, ⟨.canReconnect, ⟨1⟩, 5000000001⟩,
    ⟨.recordReconnectionAttempt, ⟨1⟩, 5000000002⟩]

theorem asksFirst_twoSessions : Along step (AsksFirst {}) {} twoSessions := by
  have hask : ∀ (past : List ReconnectionEvent) (manager : SessionReconnectionManager) id now,
      AsksFirst {} past manager ⟨.canReconnect, id, now⟩ :=
    fun past manager id now hcall => by cases hcall
  simp only [twoSessions, along_cons]
  refine ⟨hask _ _ _ _, hask _ _ _ _, fun _ => ?_, fun _ => ?_, hask _ _ _ _, fun _ => ?_,
    along_nil⟩
  · exact ⟨[], _, _, rfl, rfl, rfl, rfl, by decide⟩
  · exact ⟨[_], _, _, rfl, rfl, rfl, rfl, by decide⟩
  · exact ⟨[_, _, _, _], _, _, rfl, rfl, rfl, rfl, by decide⟩

theorem attempts_twoSessions : attempts ⟨1⟩ twoSessions = [1, 5000000002] ∧
    (attempts ⟨1⟩ twoSessions).IsChain fun a b => 5000000000 ≤ SystemTime.since b a :=
  ⟨by decide, (attempts_paced {} twoSessions (by decide) asksFirst_twoSessions ⟨1⟩).2.1⟩

end SessionReconnectionManager

end Yuha
