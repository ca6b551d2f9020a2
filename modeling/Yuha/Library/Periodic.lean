import Mathlib.Data.List.Basic
import Yuha.Library.Execution

/-!
# Periodic tasks behind a flag

A flag says that a periodic task is to run. Starting sets the flag, if it is not set, and
spawns a loop. Each turn of a loop waits for its timer, reads the flag, and works or
leaves. Stopping clears the flag, which a loop does not see before its timer fires. So one
loop is live at a time exactly if the timer of each fires between a stop and the next start.
-/

namespace Library

/-- Where a loop is: it waits for its timer, does its work, or was left. -/
inductive LoopPhase
  | waiting
  | working
  | left
  deriving DecidableEq, Repr

structure PeriodicTask where
  running : Bool := false
  loops : List LoopPhase := []
  deriving DecidableEq, Repr

inductive PeriodicEvent
  | start
  | stop
  /-- The timer of a loop fires. -/
  | tick (loop : Nat)
  /-- A loop has done its work. -/
  | finish (loop : Nat)

namespace PeriodicTask

def start (task : PeriodicTask) : PeriodicTask :=
  if task.running then task
  else { running := true, loops := task.loops ++ [.waiting] }

def stop (task : PeriodicTask) : PeriodicTask := { task with running := false }

def tick (task : PeriodicTask) (i : Nat) : PeriodicTask :=
  match task.loops[i]? with
  | some .waiting =>
      { task with loops := task.loops.set i (if task.running then .working else .left) }
  | _ => task

def finish (task : PeriodicTask) (i : Nat) : PeriodicTask :=
  match task.loops[i]? with
  | some .working => { task with loops := task.loops.set i .waiting }
  | _ => task

def step (task : PeriodicTask) : PeriodicEvent → PeriodicTask
  | .start => task.start
  | .stop => task.stop
  | .tick i => task.tick i
  | .finish i => task.finish i

/-- How many loops have been spawned and not left. -/
def live (task : PeriodicTask) : Nat := task.loops.countP fun phase => decide (phase ≠ .left)

/-- A loop is spawned only when the loops before it were left. -/
def SpawnsAlone (task : PeriodicTask) (event : PeriodicEvent) : Prop :=
  event = .start → task.running = false → ∀ phase ∈ task.loops, phase = .left

/-- The loop whose timer fires. -/
def turn (task : PeriodicTask) : PeriodicEvent → Option Nat
  | .tick i => if task.loops[i]? = some .waiting then some i else none
  | _ => none

variable {task : PeriodicTask}

theorem live_eq_zero_iff : task.live = 0 ↔ ∀ phase ∈ task.loops, phase = .left := by
  simp [live, List.countP_eq_zero]

theorem live_start (task : PeriodicTask) :
    task.start.live = task.live + if task.running then 0 else 1 := by
  unfold start
  split
  · rfl
  · simp [live, List.countP_append]

/-- A loop that goes on was live before. -/
theorem live_set_le {i : Nat} {phase phase' : LoopPhase} (h : task.loops[i]? = some phase)
    (hlive : phase ≠ .left) :
    (task.loops.set i phase').countP (fun phase => decide (phase ≠ .left)) ≤ task.live := by
  obtain ⟨hlt, rfl⟩ := List.getElem?_eq_some_iff.mp h
  have hpos : 0 < task.live :=
    List.countP_pos_iff.mpr ⟨_, List.getElem_mem hlt, by simpa using hlive⟩
  unfold live at hpos ⊢
  rw [List.countP_set hlt, if_pos (by simpa using hlive)]
  split <;> omega

theorem live_tick_le (task : PeriodicTask) (i : Nat) : (task.tick i).live ≤ task.live := by
  unfold tick
  split
  · next h => exact live_set_le h (by decide)
  · exact Nat.le_refl _

theorem live_finish_le (task : PeriodicTask) (i : Nat) : (task.finish i).live ≤ task.live := by
  unfold finish
  split
  · next h => exact live_set_le h (by decide)
  · exact Nat.le_refl _

theorem live_step_le_one (h : task.live ≤ 1) {event : PeriodicEvent}
    (halone : task.SpawnsAlone event) : (task.step event).live ≤ 1 := by
  cases event with
  | start =>
      rw [step, live_start]
      split
      · exact h
      · next hrunning =>
          have hzero := live_eq_zero_iff.mpr (halone rfl (Bool.eq_false_iff.mpr hrunning))
          omega
  | stop => exact h
  | tick i => exact (live_tick_le task i).trans h
  | finish i => exact (live_finish_le task i).trans h

/-- A loop that is spawned next to a live one makes two. -/
theorem one_lt_live_step {event : PeriodicEvent} (h : ¬ task.SpawnsAlone event) :
    1 < (task.step event).live := by
  obtain ⟨rfl, hnot⟩ := Classical.not_imp.mp h
  obtain ⟨hrunning, hsome⟩ := Classical.not_imp.mp hnot
  have hpos : task.live ≠ 0 := fun hzero => hsome (live_eq_zero_iff.mp hzero)
  rw [step, live_start, hrunning]
  simp only [Bool.false_eq_true, if_false]
  omega

/-! ### When a loop is left -/

theorem getElem?_loops_start_left (i : Nat) :
    task.start.loops[i]? = some .left ↔ task.loops[i]? = some .left := by
  unfold start
  split
  · exact Iff.rfl
  · rw [List.getElem?_append]
    split
    · exact Iff.rfl
    · next hge =>
        rw [List.getElem?_eq_none (not_lt.mp hge)]
        refine iff_of_false (fun h => ?_) nofun
        cases List.mem_singleton.mp (List.mem_of_getElem? h)

/-- A loop reads the flag when its timer fires, and is left where it is cleared. -/
theorem left_step_iff (event : PeriodicEvent) (i : Nat) :
    (task.step event).loops[i]? = some .left ↔ task.loops[i]? = some .left ∨
      event = .tick i ∧ task.running = false ∧ task.loops[i]? = some .waiting := by
  cases event with
  | start => exact (getElem?_loops_start_left i).trans (by simp)
  | stop => simp [step, stop]
  | tick j =>
      simp only [step, tick, PeriodicEvent.tick.injEq]
      split
      · next hwaiting =>
          rw [List.getElem?_set]
          by_cases hij : j = i
          · subst hij
            obtain ⟨hlt, hphase⟩ := List.getElem?_eq_some_iff.mp hwaiting
            cases task.running <;> simp [hlt, hphase]
          · simp [hij]
      · next hbusy =>
          refine ⟨Or.inl, fun h => h.resolve_right ?_⟩
          rintro ⟨rfl, _, hwaiting⟩
          exact hbusy hwaiting
  | finish j =>
      simp only [step, finish, reduceCtorEq, false_and, or_false]
      split
      · next hworking =>
          rw [List.getElem?_set]
          by_cases hij : j = i
          · subst hij
            obtain ⟨hlt, hphase⟩ := List.getElem?_eq_some_iff.mp hworking
            simp [hlt, hphase]
          · simp [hij]
      · exact Iff.rfl

theorem length_loops_step (event : PeriodicEvent) :
    task.loops.length ≤ (task.step event).loops.length := by
  cases event with
  | start =>
      simp only [step, start]
      split <;> simp
  | stop => exact Nat.le_refl _
  | tick i =>
      simp only [step, tick]
      split <;> simp
  | finish i =>
      simp only [step, finish]
      split <;> simp

/-- All loops but the last were left. -/
def OnlyLast (task : PeriodicTask) : Prop :=
  ∀ i, i + 1 < task.loops.length → task.loops[i]? = some .left

theorem OnlyLast.step (h : task.OnlyLast) {event : PeriodicEvent}
    (halone : task.SpawnsAlone event) : (task.step event).OnlyLast := by
  intro i hlt
  rw [left_step_iff]
  by_cases hold : i + 1 < task.loops.length
  · exact .inl (h i hold)
  · cases event with
    | start =>
        simp only [PeriodicTask.step, start] at hlt
        split at hlt
        · exact absurd hlt hold
        · next hrunning =>
            have hi : i < task.loops.length := by simpa using hlt
            left
            rw [List.getElem?_eq_getElem hi]
            exact congrArg some (halone rfl (Bool.eq_false_iff.mpr hrunning) _
              (List.getElem_mem hi))
    | stop => exact absurd hlt hold
    | tick j =>
        simp only [PeriodicTask.step, tick] at hlt
        split at hlt <;> exact absurd (by simpa using hlt) hold
    | finish j =>
        simp only [PeriodicTask.step, finish] at hlt
        split at hlt <;> exact absurd (by simpa using hlt) hold

/-- The timer that fires is that of the last loop. -/
theorem OnlyLast.turn_eq (h : task.OnlyLast) {event : PeriodicEvent} {i : Nat}
    (hturn : task.turn event = some i) : i + 1 = task.loops.length := by
  cases event with
  | start | stop | finish j => cases hturn
  | tick j =>
      simp only [turn] at hturn
      split at hturn
      · next hwaiting =>
          obtain rfl := Option.some.inj hturn
          have hlt := (List.getElem?_eq_some_iff.mp hwaiting).1
          by_contra hne
          have hleft := h j (by omega)
          rw [hleft] at hwaiting
          cases hwaiting
      · cases hturn

end PeriodicTask

/-! ## A component with a periodic task -/

/-- A component that keeps a periodic task, and what its events are to the task. -/
structure TaskHost (σ ι : Type*) where
  step : σ → ι → σ
  task : σ → PeriodicTask
  event : ι → Option PeriodicEvent
  task_step : ∀ s e, task (step s e) = (event e).elim (task s) (task s).step

namespace TaskHost

open Execution

variable {σ ι : Type*} (host : TaskHost σ ι)

/-- The event spawns a loop only when the loops before it were left. -/
def SpawnsAlone (s : σ) (e : ι) : Prop :=
  ∀ event, host.event e = some event → (host.task s).SpawnsAlone event

/-- In the run so far the timer of the loop has fired, while the loop waited for it, at a time
at which the flag was cleared. -/
def Dismissed (s : σ) (past : List ι) (i : Nat) : Prop :=
  ∃ before e after, past = before ++ e :: after ∧ host.event e = some (.tick i) ∧
    (host.task (run host.step s before)).running = false ∧
    (host.task (run host.step s before)).loops[i]? = some .waiting

/-- A start that finds the flag cleared comes after the timers of all loops have fired since
they were to stop. -/
def StartsAfterTicks (s : σ) (past : List ι) (t : σ) (e : ι) : Prop :=
  host.event e = some .start → (host.task t).running = false →
    ∀ i, i < (host.task t).loops.length → host.Dismissed s past i

/-- The loops whose timers fire in a run, in this order. -/
def turns (s : σ) : List ι → List Nat
  | [] => []
  | e :: es => ((host.event e).bind (host.task s).turn).toList ++ turns (host.step s e) es

/-- Between two firings of the timer of a loop, no other loop's fires: as a loop works once
for each, the work is done once for each interval. -/
def WorksOncePerInterval (s : σ) (es : List ι) : Prop :=
  ∀ i j, [i, j, i].Sublist (host.turns s es) → j = i

variable {host} {s t : σ} {es : List ι}

theorem turns_concat (s : σ) (es : List ι) (e : ι) : host.turns s (es ++ [e]) =
    host.turns s es ++
      ((host.event e).bind (host.task (run host.step s es)).turn).toList := by
  induction es generalizing s with
  | nil => exact List.append_nil _
  | cons first es ih => rw [List.cons_append, turns, turns, ih, List.append_assoc, run_cons]

theorem dismissed_concat {past : List ι} {e : ι} {i : Nat} :
    host.Dismissed s (past ++ [e]) i ↔ host.Dismissed s past i ∨
      host.event e = some (.tick i) ∧
        (host.task (run host.step s past)).running = false ∧
        (host.task (run host.step s past)).loops[i]? = some .waiting := by
  constructor
  · rintro ⟨before, e', after, hsplit, hevent, hrunning, hwaiting⟩
    rcases List.eq_nil_or_concat after with rfl | ⟨front, last, rfl⟩
    · obtain ⟨rfl, he⟩ := List.append_inj' hsplit rfl
      obtain rfl : e = e' := by simpa using he
      exact .inr ⟨hevent, hrunning, hwaiting⟩
    · rw [List.concat_eq_append, ← List.cons_append, ← List.append_assoc] at hsplit
      obtain ⟨rfl, _⟩ := List.append_inj' hsplit rfl
      exact .inl ⟨before, e', front, rfl, hevent, hrunning, hwaiting⟩
  · rintro (⟨before, e', after, rfl, h⟩ | h)
    · exact ⟨before, e', after ++ [e], by simp, h⟩
    · exact ⟨past, e, [], rfl, h⟩

/-- The loops that were left are those whose timers fired while the flag was cleared. -/
theorem left_iff_dismissed (hstart : host.task s = {}) (past : List ι) (i : Nat) :
    (host.task (run host.step s past)).loops[i]? = some .left ↔ host.Dismissed s past i := by
  induction past using List.reverseRecOn with
  | nil =>
      rw [run_nil, hstart]
      refine iff_of_false (by simp) ?_
      rintro ⟨before, e, after, hsplit, _⟩
      exact List.cons_ne_nil _ _ (List.append_eq_nil_iff.mp hsplit.symm).2
  | append_singleton past e ih =>
      rw [run_append, run_cons, run_nil, host.task_step, dismissed_concat, ← ih]
      cases hevent : host.event e with
      | none => simp
      | some event => simpa using PeriodicTask.left_step_iff event i

theorem startsAfterTicks_iff (hstart : host.task s = {}) (past : List ι) (e : ι) :
    host.StartsAfterTicks s past (run host.step s past) e ↔
      host.SpawnsAlone (run host.step s past) e := by
  simp only [StartsAfterTicks, ← left_iff_dismissed hstart]
  constructor
  · rintro h event hevent rfl hrunning phase hmem
    obtain ⟨i, hphase⟩ := List.getElem?_of_mem hmem
    have hleft := h hevent hrunning i (List.getElem?_eq_some_iff.mp hphase).1
    exact Option.some.inj (hphase.symm.trans hleft)
  · intro h hevent hrunning i hlt
    rw [List.getElem?_eq_getElem hlt]
    exact congrArg some (h _ hevent rfl hrunning _ (List.getElem_mem hlt))

theorem live_iff_spawnsAlone (hstart : host.task s = {}) :
    Always host.step (fun t => (host.task t).live ≤ 1) s es ↔
      Along host.step (fun _ t e => host.SpawnsAlone t e) s es := by
  refine always_iff_along (A := fun _ _ _ => True) (I := fun _ t => (host.task t).live ≤ 1)
    (fun _ _ _ => trivial) ?_ (fun _ _ h => h) ?_ ?_
  · rw [hstart]
    exact Nat.zero_le 1
  · intro _ t e h _ halone
    rw [host.task_step]
    cases hevent : host.event e with
    | none => exact h
    | some event => exact PeriodicTask.live_step_le_one h (halone event hevent)
  · intro _ t e _ _ halone
    obtain ⟨event, halone⟩ := not_forall.mp halone
    obtain ⟨hevent, halone⟩ := Classical.not_imp.mp halone
    rw [host.task_step, hevent, Nat.not_le]
    exact PeriodicTask.one_lt_live_step halone

/-- Loops that are spawned alone take their turns one after the other. -/
theorem pairwise_turns (hstart : host.task s = {})
    (halone : Along host.step (fun _ t e => host.SpawnsAlone t e) s es) :
    (host.turns s es).Pairwise (· ≤ ·) := by
  have hrun := halone.invariant (I := fun past t => t = run host.step s past ∧
    (host.task t).OnlyLast ∧ (host.turns s past).Pairwise (· ≤ ·) ∧
      ∀ i ∈ host.turns s past, i < (host.task t).loops.length) ?_ ?_
  · exact (hrun es (List.prefix_refl es)).2.2.1
  · refine ⟨rfl, ?_, .nil, nofun⟩
    rw [hstart]
    exact fun i hlt => absurd hlt (Nat.not_lt_zero _)
  · rintro past t e ⟨rfl, honly, hsorted, hspawned⟩ halone
    have hlast : ∀ i, (host.event e).bind (host.task (run host.step s past)).turn = some i →
        i + 1 = (host.task (run host.step s past)).loops.length := by
      intro i hturn
      obtain ⟨event, _, hturn⟩ := Option.bind_eq_some_iff.mp hturn
      exact honly.turn_eq hturn
    refine ⟨by rw [run_append, run_cons, run_nil], ?_, ?_, ?_⟩
    · rw [host.task_step]
      cases hevent : host.event e with
      | none => exact honly
      | some event => exact honly.step (halone event hevent)
    · rw [turns_concat, List.pairwise_append]
      refine ⟨hsorted, ?_, fun i hi j hj => ?_⟩
      · cases (host.event e).bind (host.task (run host.step s past)).turn with
        | none => exact .nil
        | some i => exact List.pairwise_singleton _ i
      · have hless := hspawned i hi
        have hone := hlast j (Option.mem_toList.mp hj)
        omega
    · intro i hi
      have hmore : (host.task (run host.step s past)).loops.length ≤
          (host.task (host.step (run host.step s past) e)).loops.length := by
        rw [host.task_step]
        cases host.event e with
        | none => exact Nat.le_refl _
        | some event => exact PeriodicTask.length_loops_step event
      rw [turns_concat, List.mem_append] at hi
      refine Nat.lt_of_lt_of_le ?_ hmore
      obtain hi | hi := hi
      · exact hspawned i hi
      · have hone := hlast i (Option.mem_toList.mp hi)
        omega

theorem worksOncePerInterval_of_pairwise (h : (host.turns s es).Pairwise (· ≤ ·)) :
    host.WorksOncePerInterval s es := by
  intro i j hsublist
  have hthree := h.sublist hsublist
  simp only [List.pairwise_cons, List.mem_cons, List.not_mem_nil, or_false] at hthree
  exact Nat.le_antisymm (hthree.2.1 i rfl) (hthree.1 j (.inl rfl))

/-- At most one loop is live throughout, and the work is done once for each interval, exactly
if every start comes after the timers of the loops that were to stop have fired. -/
theorem live_iff_startsAfterTicks (host : TaskHost σ ι) (hstart : host.task s = {})
    (es : List ι) :
    (Always host.step (fun t => (host.task t).live ≤ 1) s es ∧
        host.WorksOncePerInterval s es) ↔
      Along host.step (host.StartsAfterTicks s) s es := by
  have hticks : Along host.step (host.StartsAfterTicks s) s es ↔
      Along host.step (fun _ t e => host.SpawnsAlone t e) s es :=
    forall_congr' fun past => forall_congr' fun e => forall_congr' fun _ =>
      startsAfterTicks_iff hstart past e
  rw [hticks, live_iff_spawnsAlone hstart]
  exact and_iff_left_of_imp fun halone =>
    worksOncePerInterval_of_pairwise (pairwise_turns hstart halone)

end TaskHost

end Library
