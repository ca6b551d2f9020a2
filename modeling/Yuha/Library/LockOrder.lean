import Mathlib.Data.List.Basic
import Yuha.Library.Program
import Yuha.Library.RwLock
import Yuha.Library.Tally

/-!
# Locks taken in an order

Where every call takes a lock only on top of locks of smaller rank, no calls wait for each
other in a circle, so some call can go on until all have ended. How many moves that takes
is known from the steps that are left, in whatever order the calls move.
-/

namespace Library

open Execution Interleaved

/-! ## What is left to do -/

/-- A lock is asked for in one move and passed in another. -/
def LockStep.moves {L : Type*} : LockStep L → Nat
  | .acquire _ _ => 2
  | .release _ => 1

/-- The step on a lock that goes by another name. -/
def LockStep.map {L M : Type*} (f : L → M) : LockStep L → LockStep M
  | .acquire lock mode => .acquire (f lock) mode
  | .release lock => .release (f lock)

/-- The moves a call has left. -/
def LockCall.work {L : Type*} (call : LockCall L) : Nat :=
  (if call.waiting.isSome then 1 else 0) + tally LockStep.moves call.todo

namespace LockCall

variable {L : Type*} [DecidableEq L]

theorem work_moves {i : Nat} {call call' : LockCall L} {queues queues' : L → List Ticket}
    (h : Moves i call queues call' queues') : call'.work + 1 = call.work := by
  cases h with
  | pass hgranted => simp [work, Nat.add_comm]
  | request => simp [work, LockStep.moves]; omega
  | release => simp [work, LockStep.moves, Nat.add_comm]

omit [DecidableEq L] in
theorem work_eq_zero_iff {call : LockCall L} : call.work = 0 ↔ call.Finished := by
  obtain ⟨held, waiting, todo⟩ := call
  cases waiting with
  | some wanted => simp [work, Finished]
  | none =>
      cases todo with
      | nil => simp [work, Finished]
      | cons step todo => cases step <;> simp [work, Finished, LockStep.moves]

end LockCall

namespace LockCalls

open LockCall

variable {L ι : Type*} [DecidableEq L] {begins : ι → List (LockStep L)}
  {nests : List L → L → Prop} {s : LockCalls L}

/-- The moves all calls have left. -/
def work (s : LockCalls L) : Nat := tally LockCall.work s.calls

omit [DecidableEq L] in
theorem work_eq_zero_iff : s.work = 0 ↔ ∀ call ∈ s.calls, call.Finished := by
  simp [work, tally_eq_zero_iff, LockCall.work_eq_zero_iff]

/-- Every move takes one off what is left. -/
theorem work_move {i : Nat} {call call' : LockCall L} {queues : L → List Ticket}
    (hcall : s.calls[i]? = some call)
    (hmove : LockCall.move i call s.shared = some (call', queues)) :
    work { shared := queues, calls := s.calls.set i call' } + 1 = s.work := by
  have hone := work_moves (moves_of_move hmove)
  have hset : work { shared := queues, calls := s.calls.set i call' } + call.work =
      s.work + call'.work := tally_set _ hcall call'
  omega

/-! ## Steps one after the other -/

instance decidableNested [∀ held lock, Decidable (nests held lock)] :
    (held : List L) → (steps : List (LockStep L)) → Decidable (Nested nests held steps)
  | held, [] => inferInstanceAs (Decidable (held = []))
  | held, .acquire lock _ :: todo =>
      have := decidableNested (lock :: held) todo
      inferInstanceAs (Decidable (_ ∧ _ ∧ _))
  | held, .release lock :: todo =>
      have := decidableNested (held.erase lock) todo
      inferInstanceAs (Decidable (_ ∧ _))

theorem Nested.append {held : List L} {steps more : List (LockStep L)}
    (h : Nested nests held steps) (hmore : Nested nests [] more) :
    Nested nests held (steps ++ more) := by
  induction steps generalizing held with
  | nil =>
      obtain rfl : held = [] := h
      exact hmore
  | cons step steps ih =>
      cases step with
      | acquire lock mode => exact ⟨h.1, h.2.1, ih h.2.2⟩
      | release lock => exact ⟨h.1, ih h.2⟩

theorem nested_flatMap {α : Type*} {steps : α → List (LockStep L)}
    (h : ∀ x, Nested nests [] (steps x)) (l : List α) : Nested nests [] (l.flatMap steps) := by
  induction l with
  | nil => rfl
  | cons x l ih => exact (h x).append ih

/-- The same steps over and over. -/
theorem Balanced.repeated {held : List L} {steps : List (LockStep L)}
    (h : Balanced nests held steps) (n : Nat) :
    Balanced nests held (List.replicate n steps).flatten := by
  induction n with
  | zero => exact balanced_nil
  | succ n ih => exact h.append ih

theorem Nested.ite {steps more : List (LockStep L)} {p : Prop} [Decidable p]
    (h : Nested nests [] steps) (hmore : Nested nests [] more) :
    Nested nests [] (if p then steps else more) := by
  split
  · exact h
  · exact hmore

/-! ## No circle -/

/-- A lock is taken only on top of locks of smaller rank. -/
def Ascending (rank : L → Nat) (held : List L) (lock : L) : Prop :=
  ∀ other ∈ held, rank other < rank lock

instance (rank : L → Nat) (held : List L) (lock : L) : Decidable (Ascending rank held lock) :=
  inferInstanceAs (Decidable (∀ other ∈ held, rank other < rank lock))

/-- One lock on its own. -/
theorem nested_under (rank : L → Nat) (lock : L) (mode : LockMode) :
    Nested (Ascending rank) [] (LockStep.under lock mode []) :=
  have hone : Balanced (Ascending rank) [] (LockStep.under lock mode []) :=
    balanced_nil.under mode nofun (List.forall_mem_nil _)
  hone.nested

/-- Locks that are the same, or belong to a larger system, under other names. -/
theorem Nested.map {M : Type*} [DecidableEq M] {f : L → M} (hf : Function.Injective f)
    {rank : M → Nat} {held : List L} {steps : List (LockStep L)}
    (h : Nested (Ascending (rank ∘ f)) held steps) :
    Nested (Ascending rank) (held.map f) (steps.map (LockStep.map f)) := by
  induction steps generalizing held with
  | nil =>
      obtain rfl : held = [] := h
      rfl
  | cons step steps ih =>
      cases step with
      | acquire lock mode =>
          obtain ⟨hnew, habove, hsteps⟩ := h
          refine ⟨fun hmem => hnew ((List.mem_map_of_injective hf).mp hmem), ?_, ih hsteps⟩
          exact List.forall_mem_map.mpr habove
      | release lock =>
          obtain ⟨hheld, hsteps⟩ := h
          refine ⟨List.mem_map_of_mem hheld, ?_⟩
          have hmapped := ih hsteps
          rwa [List.map_erase hf] at hmapped

omit [DecidableEq L] in
theorem exists_bound (rank : L → Nat) (s : LockCalls L) :
    ∃ bound, ∀ i lock, s.Blocked i lock → rank lock < bound := by
  have hcalls : ∀ calls : List (LockCall L), ∃ bound, ∀ call ∈ calls, ∀ lock mode,
      call.waiting = some (lock, mode) → rank lock < bound := by
    intro calls
    induction calls with
    | nil => exact ⟨0, nofun⟩
    | cons first calls ih =>
        obtain ⟨bound, hbound⟩ := ih
        cases hfirst : first.waiting with
        | none =>
            refine ⟨bound, List.forall_mem_cons.mpr ⟨fun lock mode h => ?_, hbound⟩⟩
            exact nomatch hfirst.symm.trans h
        | some wanted =>
            refine ⟨max bound (rank wanted.1 + 1), List.forall_mem_cons.mpr ⟨?_, ?_⟩⟩
            · intro lock mode h
              obtain rfl := Option.some.inj (hfirst.symm.trans h)
              exact lt_max_of_lt_right (Nat.lt_succ_self _)
            · intro call hmem lock mode h
              exact lt_max_of_lt_left (hbound call hmem lock mode h)
  obtain ⟨bound, hbound⟩ := hcalls s.calls
  refine ⟨bound, ?_⟩
  rintro i lock ⟨call, mode, hcall, hwaiting, _⟩
  exact hbound call (List.mem_of_getElem? hcall) lock mode hwaiting

/-- In a deadlock, the holder of a lock that is waited for waits for one of greater rank. -/
theorem exists_blocked_above {rank : L → Nat} (h : Ticketed (Ascending rank) s)
    (hdeadlocked : s.Deadlocked) {i : Nat} {lock : L} (hblocked : s.Blocked i lock) :
    ∃ j lock', s.Blocked j lock' ∧ rank lock < rank lock' := by
  obtain ⟨j, lock', ⟨holder, hholder, hheld⟩, hwaits⟩ := h.holder_blocked hdeadlocked hblocked
  refine ⟨j, lock', hwaits, ?_⟩
  obtain ⟨_, mode, hsame, hwaiting, _⟩ := hwaits
  obtain rfl := Option.some.inj (hholder.symm.trans hsame)
  have hnested := h.nested j holder hholder
  simp only [NestedCall, hwaiting] at hnested
  exact hnested.2.1 lock hheld

theorem not_deadlocked_of_ascending {rank : L → Nat} (h : Ticketed (Ascending rank) s) :
    ¬ s.Deadlocked := by
  intro hdeadlocked
  obtain ⟨bound, hbound⟩ := exists_bound rank s
  -- Induction on the rank: some call waits for a lock of any rank.
  have hclimbs : ∀ n, ∃ i lock, s.Blocked i lock ∧ n ≤ rank lock := by
    intro n
    induction n with
    | zero =>
        obtain ⟨i, lock, hblocked⟩ := hdeadlocked.exists_blocked
        exact ⟨i, lock, hblocked, Nat.zero_le _⟩
    | succ n ih =>
        obtain ⟨i, lock, hblocked, hn⟩ := ih
        obtain ⟨j, lock', hwaits, hlt⟩ := exists_blocked_above h hdeadlocked hblocked
        exact ⟨j, lock', hwaits, Nat.succ_le_of_lt (Nat.lt_of_le_of_lt hn hlt)⟩
  obtain ⟨i, lock, hblocked, hn⟩ := hclimbs bound
  exact Nat.not_lt_of_le hn (hbound i lock hblocked)

theorem ticketed_run (hbegins : ∀ operation, Nested nests [] (begins operation))
    (h : Ticketed nests s) (events : List (Event ι)) :
    Ticketed nests (run (step begins) s events) := by
  induction events generalizing s with
  | nil => exact h
  | cons event events ih => exact ih (h.step hbegins event)

/-! ## Coming to the end -/

/-- The call that the event moves on can move. -/
def Effective (s : LockCalls L) (i : Nat) : Prop :=
  ∃ call, s.calls[i]? = some call ∧ LockCall.move i call s.shared ≠ none

/-- The event moves on a call that can move. -/
def Progresses (s : LockCalls L) : Event ι → Prop
  | .start _ => False
  | .advance i => s.Effective i

variable (begins) in
theorem Effective.work_step {i : Nat} (h : s.Effective i) :
    (step begins s (.advance i)).work + 1 = s.work := by
  obtain ⟨call, hcall, hmove⟩ := h
  obtain ⟨moved, hmoved⟩ := Option.ne_none_iff_exists'.mp hmove
  have hstep : step begins s (.advance i) =
      { shared := moved.2, calls := s.calls.set i moved.1 } := by
    simp [Interleaved.step, hcall, hmoved]
  rw [hstep]
  exact work_move hcall hmoved

theorem exists_effective_of_not_deadlocked (h : ¬ s.Deadlocked) (hwork : s.work ≠ 0) :
    ∃ i, s.Effective i := by
  rw [Ne, work_eq_zero_iff] at hwork
  push Not at hwork
  by_contra hnone
  refine h ⟨hwork, fun i call hcall => ?_⟩
  by_contra hmove
  exact hnone ⟨i, call, hcall, hmove⟩

variable (begins) in
theorem Progresses.work_step {event : Event ι} (h : s.Progresses event) :
    (step begins s event).work + 1 = s.work := by
  cases event with
  | start operation => exact h.elim
  | advance i => exact Effective.work_step begins h

/-- However the calls are moved, each move takes one off what is left. -/
theorem work_run {events : List (Event ι)}
    (h : Along (step begins) (fun _ s event => s.Progresses event) s events) :
    (run (step begins) s events).work + events.length = s.work := by
  induction events generalizing s with
  | nil => rfl
  | cons event events ih =>
      obtain ⟨hfirst, hmore⟩ := along_cons.mp h
      have hstep := hfirst.work_step begins
      have hrest := ih hmore
      simp only [run_cons, List.length_cons]
      omega

/-- A finished call holds nothing. -/
theorem Ticketed.held_of_finished (h : Ticketed nests s) {i : Nat} {call : LockCall L}
    (hcall : s.calls[i]? = some call) (hfinished : call.Finished) : call.held = [] := by
  have hnested := h.nested i call hcall
  rwa [NestedCall, hfinished.1, hfinished.2] at hnested

/-- Where every call has ended, every lock is free. -/
theorem Ticketed.shared_of_finished (h : Ticketed nests s)
    (hfinished : ∀ call ∈ s.calls, call.Finished) (lock : L) : s.shared lock = [] := by
  refine List.eq_nil_iff_forall_not_mem.mpr fun ticket hmem => ?_
  obtain ⟨call, hcall, hheld | hwaiting⟩ := h.owner lock ticket hmem
  · have hdone := hfinished call (List.mem_of_getElem? hcall)
    rw [h.held_of_finished hcall hdone] at hheld
    exact List.not_mem_nil hheld
  · have hdone := hfinished call (List.mem_of_getElem? hcall)
    exact nomatch hdone.1.symm.trans hwaiting

/-- Moves from a state on: there are no more than the calls have left to do, some call can
move while there are fewer, and after that many all have ended and all locks are free. -/
structure Completing (begins : ι → List (LockStep L)) (s : LockCalls L)
    (moves : List (Event ι)) : Prop where
  length : moves.length ≤ s.work
  goesOn : moves.length < s.work → ∃ i, Effective (run (step begins) s moves) i
  finished : moves.length = s.work → ∀ call ∈ (run (step begins) s moves).calls, call.Finished
  free : moves.length = s.work → ∀ lock, (run (step begins) s moves).shared lock = []

/-- Calls that are moved on in whatever order come to their end, and never get stuck before. -/
theorem completing_of_ascending {rank : L → Nat} (h : Ticketed (Ascending rank) s)
    (hbegins : ∀ operation, Nested (Ascending rank) [] (begins operation))
    {moves : List (Event ι)}
    (hmoves : Along (step begins) (fun _ s event => s.Progresses event) s moves) :
    Completing begins s moves := by
  have hticketed := ticketed_run hbegins h moves
  have hwork := work_run hmoves
  have hended : moves.length = s.work →
      ∀ call ∈ (run (step begins) s moves).calls, call.Finished :=
    fun hall => work_eq_zero_iff.mp (by omega)
  refine ⟨by omega, fun hsome => ?_, hended, fun hall => hticketed.shared_of_finished (hended hall)⟩
  have hleft : (run (step begins) s moves).work ≠ 0 := by omega
  exact exists_effective_of_not_deadlocked (not_deadlocked_of_ascending hticketed) hleft

end LockCalls

/-! ## Programs whose actions take locks -/

namespace Program

open LockCalls

universe u v

variable {L : Type*} [DecidableEq L] {A : Type u} {Answer : A → Type v} {α : Type v}

/-- The steps of a program on the locks, where its `n`-th action is answered like this. -/
def lockSteps (locks : (action : A) → Answer action → List (LockStep L))
    (answers : Nat → (action : A) → Answer action) :
    Nat → Program A Answer α → List (LockStep L)
  | _, .done _ => []
  | n, .call action next =>
      locks action (answers n action) ++
        lockSteps locks answers (n + 1) (next (answers n action))

/-- A program keeps an order of locks that each of its actions keeps. -/
theorem nested_lockSteps {nests : List L → L → Prop}
    {locks : (action : A) → Answer action → List (LockStep L)}
    (h : ∀ action answer, Nested nests [] (locks action answer))
    (answers : Nat → (action : A) → Answer action) (n : Nat) (p : Program A Answer α) :
    Nested nests [] (lockSteps locks answers n p) := by
  induction p generalizing n with
  | done result => rfl
  | call action next ih => exact Nested.append (h action _) (ih _ (n + 1))

end Program

end Library
