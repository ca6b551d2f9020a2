import Mathlib.Data.List.Basic
import Mathlib.Logic.Function.Basic
import Yuha.Library.Execution
import Yuha.Library.Interleaving

/-!
# Reader-writer locks

A lock serves its tickets in the order in which they were taken. A reader passes when only
readers are before it, a writer when nobody is, so a writer that waits also holds up the
readers behind it. A call takes a ticket, waits until it passes, and gives it back when it
releases the lock.
-/

namespace Library

inductive LockMode
  | read
  | write
  deriving DecidableEq, Repr

structure Ticket where
  owner : Nat
  mode : LockMode
  deriving DecidableEq, Repr

namespace Ticket

/-- The tickets before that of this owner. -/
def ahead (queue : List Ticket) (owner : Nat) : List Ticket :=
  queue.takeWhile fun ticket => decide (ticket.owner ≠ owner)

/-- Whether a ticket of this mode passes. -/
def granted (queue : List Ticket) (owner : Nat) : LockMode → Bool
  | .read => (ahead queue owner).all fun ticket => decide (ticket.mode = .read)
  | .write => (ahead queue owner).isEmpty

theorem ahead_cons_self (ticket : Ticket) (queue : List Ticket) :
    ahead (ticket :: queue) ticket.owner = [] := by
  simp [ahead]

theorem ahead_cons_of_ne {ticket : Ticket} {owner : Nat} (h : ticket.owner ≠ owner)
    (queue : List Ticket) : ahead (ticket :: queue) owner = ticket :: ahead queue owner := by
  simp [ahead, h]

theorem ahead_append {queue : List Ticket} {owner : Nat}
    (h : ∃ ticket ∈ queue, ticket.owner = owner) (more : List Ticket) :
    ahead (queue ++ more) owner = ahead queue owner := by
  induction queue with
  | nil => simp at h
  | cons first queue ih =>
      by_cases hfirst : first.owner = owner
      · subst hfirst
        rw [List.cons_append, ahead_cons_self, ahead_cons_self]
      · obtain ⟨ticket, hmem, howner⟩ := h
        have hlater : ticket ∈ queue := by
          apply (List.mem_cons.mp hmem).resolve_left
          rintro rfl
          exact hfirst howner
        rw [List.cons_append, ahead_cons_of_ne hfirst, ahead_cons_of_ne hfirst,
          ih ⟨ticket, hlater, howner⟩]

theorem ahead_filter_subset (queue : List Ticket) {owner other : Nat} (h : owner ≠ other) :
    ahead (queue.filter fun ticket => decide (ticket.owner ≠ other)) owner ⊆
      ahead queue owner := by
  induction queue with
  | nil => simp [ahead]
  | cons first queue ih =>
      by_cases hother : first.owner = other
      · have hfirst : first.owner ≠ owner := hother ▸ h.symm
        rw [List.filter_cons_of_neg (by simp [hother]), ahead_cons_of_ne hfirst]
        exact List.subset_cons_of_subset first ih
      · rw [List.filter_cons_of_pos (by simp [hother])]
        by_cases hfirst : first.owner = owner
        · subst hfirst
          rw [ahead_cons_self]
          exact List.nil_subset _
        · rw [ahead_cons_of_ne hfirst, ahead_cons_of_ne hfirst]
          exact List.cons_subset_cons first ih

/-- A new ticket is behind all others. -/
theorem granted_append {queue : List Ticket} {owner : Nat}
    (h : ∃ ticket ∈ queue, ticket.owner = owner) (more : List Ticket) (mode : LockMode) :
    granted (queue ++ more) owner mode = granted queue owner mode := by
  cases mode <;> simp only [granted, ahead_append h]

/-- What passes still passes when others give their tickets back. -/
theorem granted_filter {queue : List Ticket} {owner other : Nat} (hne : owner ≠ other)
    {mode : LockMode} (h : granted queue owner mode) :
    granted (queue.filter fun ticket => decide (ticket.owner ≠ other)) owner mode := by
  have hsubset := ahead_filter_subset queue hne
  cases mode with
  | read =>
      refine List.all_eq_true.mpr fun ticket hmem => ?_
      exact List.all_eq_true.mp h ticket (hsubset hmem)
  | write =>
      have hempty : ahead queue owner = [] := List.isEmpty_iff.mp h
      rw [hempty] at hsubset
      exact List.isEmpty_iff.mpr (List.subset_nil.mp hsubset)

/-- The first ticket passes. -/
theorem granted_head (ticket : Ticket) (queue : List Ticket) (mode : LockMode) :
    granted (ticket :: queue) ticket.owner mode := by
  cases mode <;> simp [granted, ahead]

end Ticket

inductive LockStep (L : Type*)
  | acquire (lock : L) (mode : LockMode)
  | release (lock : L)
  deriving DecidableEq, Repr

/-- The steps of a section under a lock, with the steps inside it. -/
def LockStep.under {L : Type*} (lock : L) (mode : LockMode) (inner : List (LockStep L)) :
    List (LockStep L) :=
  .acquire lock mode :: (inner ++ [.release lock])

/-- A call: the locks it holds, the one it waits for, and what it does then. -/
structure LockCall (L : Type*) where
  held : List L
  waiting : Option (L × LockMode)
  todo : List (LockStep L)
  deriving DecidableEq, Repr

namespace LockCall

variable {L : Type*} [DecidableEq L]

def Finished (call : LockCall L) : Prop := call.waiting = none ∧ call.todo = []

/-- The next step of the `i`-th call. -/
def move (i : Nat) (call : LockCall L) (queues : L → List Ticket) :
    Option (LockCall L × (L → List Ticket)) :=
  match call.waiting, call.todo with
  | some (lock, mode), todo =>
      if Ticket.granted (queues lock) i mode then
        some ({ held := lock :: call.held, waiting := none, todo := todo }, queues)
      else
        none
  | none, .acquire lock mode :: todo =>
      some ({ held := call.held, waiting := some (lock, mode), todo := todo },
        Function.update queues lock (queues lock ++ [⟨i, mode⟩]))
  | none, .release lock :: todo =>
      some ({ held := call.held.erase lock, waiting := none, todo := todo },
        Function.update queues lock
          ((queues lock).filter fun ticket => decide (ticket.owner ≠ i)))
  | none, [] => none

/-- All that a step can do. -/
inductive Moves (i : Nat) :
    LockCall L → (L → List Ticket) → LockCall L → (L → List Ticket) → Prop
  | pass {queues held lock mode todo} (hgranted : Ticket.granted (queues lock) i mode) :
      Moves i ⟨held, some (lock, mode), todo⟩ queues ⟨lock :: held, none, todo⟩ queues
  | request {queues held lock mode todo} :
      Moves i ⟨held, none, .acquire lock mode :: todo⟩ queues ⟨held, some (lock, mode), todo⟩
        (Function.update queues lock (queues lock ++ [⟨i, mode⟩]))
  | release {queues held lock todo} :
      Moves i ⟨held, none, .release lock :: todo⟩ queues ⟨held.erase lock, none, todo⟩
        (Function.update queues lock
          ((queues lock).filter fun ticket => decide (ticket.owner ≠ i)))

theorem moves_of_move {i : Nat} {call call' : LockCall L} {queues queues' : L → List Ticket}
    (h : move i call queues = some (call', queues')) : Moves i call queues call' queues' := by
  obtain ⟨held, waiting, todo⟩ := call
  cases waiting with
  | some wanted =>
      simp only [move] at h
      split at h
      · next hgranted =>
          cases h
          exact .pass hgranted
      · cases h
  | none =>
      cases todo with
      | nil => cases h
      | cons step todo =>
          cases step with
          | acquire lock mode =>
              cases h
              exact .request
          | release lock =>
              cases h
              exact .release

/-- The tickets of the others stay in the queues. -/
theorem mem_queue_iff_of_ne {i : Nat} {call call' : LockCall L} {queues queues' : L → List Ticket}
    (hmoves : Moves i call queues call' queues') {ticket : Ticket} (hne : ticket.owner ≠ i)
    (lock : L) : ticket ∈ queues' lock ↔ ticket ∈ queues lock := by
  cases hmoves with
  | pass => exact Iff.rfl
  | @request _ _ lock' mode =>
      by_cases hlock : lock = lock'
      · subst hlock
        have hnew : ticket ≠ ⟨i, mode⟩ := fun heq => hne (congrArg Ticket.owner heq)
        simp [hnew]
      · rw [Function.update_of_ne hlock]
  | @release _ _ lock' =>
      by_cases hlock : lock = lock'
      · subst hlock
        simp [hne]
      · rw [Function.update_of_ne hlock]

/-- A call keeps the tickets of the locks it holds or waits for, and no others. -/
theorem holds_or_waits_of_mem_queue {i : Nat} {call call' : LockCall L}
    {queues queues' : L → List Ticket} (hmoves : Moves i call queues call' queues')
    {ticket : Ticket} (howner : ticket.owner = i) {lock : L} (hmem : ticket ∈ queues' lock)
    (h : ticket ∈ queues lock → lock ∈ call.held ∨ call.waiting = some (lock, ticket.mode)) :
    lock ∈ call'.held ∨ call'.waiting = some (lock, ticket.mode) := by
  cases hmoves with
  | pass =>
      rcases h hmem with hheld | hwaits
      · exact Or.inl (List.mem_cons_of_mem _ hheld)
      · cases hwaits
        exact Or.inl List.mem_cons_self
  | @request _ _ lock' mode =>
      by_cases hlock : lock = lock'
      · subst hlock
        rw [Function.update_self] at hmem
        rcases List.mem_append.mp hmem with hold | hnew
        · exact Or.inl ((h hold).resolve_right nofun)
        · obtain rfl := List.mem_singleton.mp hnew
          exact Or.inr rfl
      · rw [Function.update_of_ne hlock] at hmem
        exact Or.inl ((h hmem).resolve_right nofun)
  | @release _ _ lock' =>
      by_cases hlock : lock = lock'
      · subst hlock
        simp [howner] at hmem
      · rw [Function.update_of_ne hlock] at hmem
        exact Or.inl ((List.mem_erase_of_ne hlock).mpr ((h hmem).resolve_right nofun))

/-- A call that cannot move is finished, or waits for a lock that does not let it pass. -/
theorem move_eq_none_iff {i : Nat} {call : LockCall L} {queues : L → List Ticket} :
    move i call queues = none ↔ call.Finished ∨
      ∃ lock mode, call.waiting = some (lock, mode) ∧
        Ticket.granted (queues lock) i mode = false := by
  obtain ⟨held, waiting, todo⟩ := call
  cases waiting with
  | some wanted =>
      obtain ⟨lock, mode⟩ := wanted
      simp [move, Finished]
  | none =>
      cases todo with
      | nil => simp [move, Finished]
      | cons step todo => cases step <;> simp [move, Finished]

end LockCall

/-! ## Calls that share locks -/

/-- The queues of the locks, and the calls. -/
abbrev LockCalls (L : Type*) := Interleaved (L → List Ticket) (LockCall L)

namespace LockCalls

open Interleaved LockCall

variable {L ι : Type*} [DecidableEq L] (begins : ι → List (LockStep L))

def new : LockCalls L where
  shared := fun _ => []
  calls := []

abbrev step (s : LockCalls L) (event : Event ι) : LockCalls L :=
  Interleaved.step (fun operation => ⟨[], none, begins operation⟩) move s event

/-- Some call is not finished, and no call can move. -/
def Deadlocked (s : LockCalls L) : Prop :=
  (∃ call ∈ s.calls, ¬ call.Finished) ∧
    ∀ i call, s.calls[i]? = some call → move i call s.shared = none

/-- The call holds the lock. -/
def Holds (s : LockCalls L) (i : Nat) (lock : L) : Prop :=
  ∃ call, s.calls[i]? = some call ∧ lock ∈ call.held

/-- The call waits for the lock, and the lock does not let it pass. -/
def Blocked (s : LockCalls L) (i : Nat) (lock : L) : Prop :=
  ∃ call mode, s.calls[i]? = some call ∧ call.waiting = some (lock, mode) ∧
    Ticket.granted (s.shared lock) i mode = false

/-- Two calls wait for each other's locks. -/
def Crossing (s : LockCalls L) : Prop :=
  ∃ i j lock lock', s.Holds i lock ∧ s.Blocked i lock' ∧ s.Holds j lock' ∧ s.Blocked j lock

/-! ## Tickets and nesting -/

/-- A list of steps takes no lock that is held, gives back what it took, and takes a lock
only where `nests` allows it on top of those that are held. -/
def Nested (nests : List L → L → Prop) : List L → List (LockStep L) → Prop
  | held, [] => held = []
  | held, .acquire lock _ :: todo =>
      lock ∉ held ∧ nests held lock ∧ Nested nests (lock :: held) todo
  | held, .release lock :: todo => lock ∈ held ∧ Nested nests (held.erase lock) todo

/-- Steps that leave the locks that are held before them as they were. -/
def Balanced (nests : List L → L → Prop) (held : List L) (steps : List (LockStep L)) : Prop :=
  ∀ rest, Nested nests held rest → Nested nests held (steps ++ rest)

/-- The same for a call at any point. -/
def NestedCall (nests : List L → L → Prop) (call : LockCall L) : Prop :=
  match call.waiting with
  | none => Nested nests call.held call.todo
  | some (lock, _) =>
      lock ∉ call.held ∧ nests call.held lock ∧ Nested nests (lock :: call.held) call.todo

/-- The tickets in the queues are those of the calls that hold the lock or wait for it. -/
structure Ticketed (nests : List L → L → Prop) (s : LockCalls L) : Prop where
  owner : ∀ lock ticket, ticket ∈ s.shared lock →
    ∃ call, s.calls[ticket.owner]? = some call ∧
      (lock ∈ call.held ∨ call.waiting = some (lock, ticket.mode))
  waiting : ∀ (i : Nat) call lock mode, s.calls[i]? = some call → call.waiting = some (lock, mode) →
    ∃ ticket ∈ s.shared lock, ticket.owner = i
  nested : ∀ (i : Nat) call, s.calls[i]? = some call → NestedCall nests call

variable {begins} {nests : List L → L → Prop} {s : LockCalls L}

theorem balanced_nil {held : List L} : Balanced nests held [] := fun _ h => h

theorem Balanced.append {held : List L} {steps more : List (LockStep L)}
    (h : Balanced nests held steps) (hmore : Balanced nests held more) :
    Balanced nests held (steps ++ more) := by
  intro rest hrest
  rw [List.append_assoc]
  exact h _ (hmore rest hrest)

theorem Balanced.under {held : List L} {lock : L} {inner : List (LockStep L)}
    (h : Balanced nests (lock :: held) inner) (mode : LockMode) (hnew : lock ∉ held)
    (hnests : nests held lock) : Balanced nests held (LockStep.under lock mode inner) := by
  intro rest hrest
  have hinner := h (.release lock :: rest) ⟨List.mem_cons_self, by rwa [List.erase_cons_head]⟩
  exact ⟨hnew, hnests, by simpa using hinner⟩

theorem Balanced.ite {held : List L} {steps more : List (LockStep L)} {p : Prop} [Decidable p]
    (h : Balanced nests held steps) (hmore : Balanced nests held more) :
    Balanced nests held (if p then steps else more) := by
  split
  · exact h
  · exact hmore

theorem Balanced.nested {steps : List (LockStep L)} (h : Balanced nests [] steps) :
    Nested nests [] steps := by
  simpa using h [] rfl

theorem NestedCall.moves {i : Nat} {call call' : LockCall L}
    {queues queues' : L → List Ticket} (h : NestedCall nests call)
    (hmoves : Moves i call queues call' queues') : NestedCall nests call' := by
  cases hmoves with
  | pass hgranted => exact h.2.2
  | request => exact h
  | release => exact h.2

theorem ticketed_new : Ticketed nests (new : LockCalls L) where
  owner lock ticket h := absurd h List.not_mem_nil
  waiting i call lock mode h := absurd h (by simp [new])
  nested i call h := absurd h (by simp [new])

theorem Ticketed.start (h : Ticketed nests s) {steps : List (LockStep L)}
    (hsteps : Nested nests [] steps) :
    Ticketed nests { s with calls := s.calls ++ [⟨[], none, steps⟩] } := by
  refine ⟨fun lock ticket hmem => ?_, fun i call lock mode hcall hwaiting => ?_,
    fun i call hcall => ?_⟩
  · obtain ⟨call, hcall, howner⟩ := h.owner lock ticket hmem
    refine ⟨call, ?_, howner⟩
    exact List.getElem?_append_left (List.getElem?_eq_some_iff.mp hcall).1 ▸ hcall
  · rcases getElem?_append_cases hcall with hcall | ⟨_, rfl⟩
    · exact h.waiting i call lock mode hcall hwaiting
    · cases hwaiting
  · rcases getElem?_append_cases hcall with hcall | ⟨_, rfl⟩
    · exact h.nested i call hcall
    · exact hsteps

theorem Ticketed.owner_move (h : Ticketed nests s) {i : Nat} {call call' : LockCall L}
    {queues : L → List Ticket} (hcall : s.calls[i]? = some call)
    (hmoves : Moves i call s.shared call' queues) {lock : L} {ticket : Ticket}
    (hmem : ticket ∈ queues lock) :
    ∃ owner, (s.calls.set i call')[ticket.owner]? = some owner ∧
      (lock ∈ owner.held ∨ owner.waiting = some (lock, ticket.mode)) := by
  by_cases howner : ticket.owner = i
  · have hlt := (List.getElem?_eq_some_iff.mp hcall).1
    refine ⟨call', by rw [howner, List.getElem?_set_self hlt], ?_⟩
    refine holds_or_waits_of_mem_queue hmoves howner hmem fun hbefore => ?_
    obtain ⟨owner, hsame, hlock⟩ := h.owner lock ticket hbefore
    obtain rfl := Option.some.inj (hcall.symm.trans (howner ▸ hsame))
    exact hlock
  · obtain ⟨owner, hother, hlock⟩ :=
      h.owner lock ticket ((mem_queue_iff_of_ne hmoves howner lock).mp hmem)
    exact ⟨owner, (List.getElem?_set_ne (Ne.symm howner)).trans hother, hlock⟩

theorem Ticketed.waiting_move (h : Ticketed nests s) {i j : Nat} {call call' other : LockCall L}
    {queues : L → List Ticket} (hmoves : Moves i call s.shared call' queues) {lock : L}
    {mode : LockMode} (hother : (s.calls.set i call')[j]? = some other)
    (hwaiting : other.waiting = some (lock, mode)) :
    ∃ ticket ∈ queues lock, ticket.owner = j := by
  rcases getElem?_set_cases hother with ⟨rfl, rfl⟩ | ⟨hij, hj⟩
  · cases hmoves with
    | pass => cases hwaiting
    | request =>
        cases hwaiting
        exact ⟨⟨i, mode⟩, by simp, rfl⟩
    | release => cases hwaiting
  · obtain ⟨ticket, hmem, howner⟩ := h.waiting j other lock mode hj hwaiting
    have hne : ticket.owner ≠ i := fun heq => hij (heq.symm.trans howner)
    exact ⟨ticket, (mem_queue_iff_of_ne hmoves hne lock).mpr hmem, howner⟩

theorem Ticketed.move (h : Ticketed nests s) {i : Nat} {call call' : LockCall L}
    {queues : L → List Ticket} (hcall : s.calls[i]? = some call)
    (hmoves : Moves i call s.shared call' queues) :
    Ticketed nests { shared := queues, calls := s.calls.set i call' } where
  owner _ _ hmem := h.owner_move hcall hmoves hmem
  waiting _ _ _ _ hother hwaiting := h.waiting_move hmoves hother hwaiting
  nested j other hj := by
    rcases getElem?_set_cases hj with ⟨_, rfl⟩ | ⟨_, hj⟩
    · exact (h.nested i call hcall).moves hmoves
    · exact h.nested j other hj

theorem Ticketed.step (h : Ticketed nests s)
    (hbegins : ∀ operation, Nested nests [] (begins operation)) (event : Event ι) :
    Ticketed nests (step begins s event) := by
  rcases s.step_cases (fun operation => ⟨[], none, begins operation⟩) LockCall.move event with
    ⟨operation, _, hstep⟩ | ⟨i, call, call', queues, _, hcall, hmove, hstep⟩ | hstep
  · exact (congrArg (Ticketed nests) hstep).mpr (h.start (hbegins operation))
  · exact (congrArg (Ticketed nests) hstep).mpr (h.move hcall (moves_of_move hmove))
  · exact (congrArg (Ticketed nests) hstep).mpr h

/-! ## How two calls come to wait for each other -/

/-- A call that asks for a lock passes at once, or no holder of that lock waits for a lock
of the call. -/
def CrossesNone (s : LockCalls L) (event : Event ι) : Prop :=
  ∀ i held lock mode todo, event = .advance i →
    s.calls[i]? = some ⟨held, none, .acquire lock mode :: todo⟩ →
    Ticket.granted (s.shared lock ++ [⟨i, mode⟩]) i mode ∨
      ∀ other ∈ held, ∀ j, s.Holds j lock → ¬ s.Blocked j other

/-- A call that waits took no lock in its last step. -/
theorem Holds.of_move {i j : Nat} {call call' : LockCall L} {queues : L → List Ticket}
    {lock waited : L} (hcall : s.calls[i]? = some call)
    (hmoves : Moves i call s.shared call' queues)
    (hholds : Holds { shared := queues, calls := s.calls.set i call' } j lock)
    (hblocked : Blocked { shared := queues, calls := s.calls.set i call' } j waited) :
    s.Holds j lock := by
  obtain ⟨other, hother, hheld⟩ := hholds
  obtain ⟨_, mode, hsame, hwaiting, _⟩ := hblocked
  obtain rfl := Option.some.inj (hother.symm.trans hsame)
  rcases getElem?_set_cases hother with ⟨rfl, rfl⟩ | ⟨_, hj⟩
  · cases hmoves with
    | pass => cases hwaiting
    | request => exact ⟨_, hcall, hheld⟩
    | release => cases hwaiting
  · exact ⟨other, hj, hheld⟩

/-- A call waits as before, or it has just asked for the lock. -/
theorem Blocked.of_move (h : Ticketed nests s) {i j : Nat} {call call' : LockCall L}
    {queues : L → List Ticket} {lock : L} (hcall : s.calls[i]? = some call)
    (hmoves : Moves i call s.shared call' queues)
    (hblocked : Blocked { shared := queues, calls := s.calls.set i call' } j lock) :
    s.Blocked j lock ∨ i = j ∧ ∃ mode todo, call = ⟨call.held, none, .acquire lock mode :: todo⟩ ∧
      Ticket.granted (s.shared lock ++ [⟨i, mode⟩]) i mode = false := by
  obtain ⟨other, mode, hother, hwaiting, hgranted⟩ := hblocked
  rcases getElem?_set_cases hother with ⟨rfl, rfl⟩ | ⟨hij, hj⟩
  · cases hmoves with
    | pass => cases hwaiting
    | request =>
        cases hwaiting
        exact Or.inr ⟨rfl, _, _, rfl, by simpa using hgranted⟩
    | release => cases hwaiting
  · refine Or.inl ⟨other, mode, hj, hwaiting, ?_⟩
    have hticket := h.waiting j other lock mode hj hwaiting
    cases hmoves with
    | pass => exact hgranted
    | @request _ _ lock' mode' =>
        by_cases hlock : lock = lock'
        · subst hlock
          simpa [Ticket.granted_append hticket] using hgranted
        · simpa [Function.update_of_ne hlock] using hgranted
    | @release _ _ lock' =>
        by_cases hlock : lock = lock'
        · subst hlock
          simp only [Function.update_self] at hgranted
          refine Bool.eq_false_iff.mpr fun hbefore => ?_
          have hafter := Ticket.granted_filter (Ne.symm hij) hbefore
          exact Bool.false_ne_true (hgranted.symm.trans hafter)
        · simpa [Function.update_of_ne hlock] using hgranted

omit [DecidableEq L] in
theorem CrossesNone.not_blocked {i k : Nat} {held todo : List _} {lock other : L}
    {mode : LockMode} (h : s.CrossesNone (ι := ι) (.advance i))
    (hcall : s.calls[i]? = some ⟨held, none, .acquire lock mode :: todo⟩)
    (hgranted : Ticket.granted (s.shared lock ++ [⟨i, mode⟩]) i mode = false)
    (hi : s.Holds i other) (hk : s.Holds k lock) : ¬ s.Blocked k other := by
  obtain ⟨call, hsame, hheld⟩ := hi
  obtain rfl := Option.some.inj (hcall.symm.trans hsame)
  rcases h i held lock mode todo rfl hcall with hpasses | hnone
  · exact absurd (hgranted.symm.trans hpasses) Bool.false_ne_true
  · exact hnone other hheld k hk

/-- A call asks for no lock that it holds. -/
theorem Ticketed.not_holds (h : Ticketed nests s) {i : Nat} {held todo : List _} {lock : L}
    {mode : LockMode} (hcall : s.calls[i]? = some ⟨held, none, .acquire lock mode :: todo⟩) :
    ¬ s.Holds i lock := by
  rintro ⟨call, hsame, hheld⟩
  obtain rfl := Option.some.inj (hcall.symm.trans hsame)
  exact (h.nested i _ hcall).1 hheld

/-- Two calls come to wait for each other only where one asks for a lock of the other. -/
theorem not_crossing_move (h : Ticketed nests s) (hcrossing : ¬ s.Crossing) {i : Nat}
    {call call' : LockCall L} {queues : L → List Ticket} (hcall : s.calls[i]? = some call)
    (hmoves : Moves i call s.shared call' queues)
    (hnone : s.CrossesNone (ι := ι) (.advance i)) :
    ¬ Crossing { shared := queues, calls := s.calls.set i call' } := by
  rintro ⟨j, k, lock, lock', hj, hjwaits, hk, hkwaits⟩
  have hjbefore := hj.of_move hcall hmoves hjwaits
  have hkbefore := hk.of_move hcall hmoves hkwaits
  rcases hjwaits.of_move h hcall hmoves with hjblocked | ⟨rfl, mode, todo, heq, hgranted⟩
  · rcases hkwaits.of_move h hcall hmoves with hkblocked | ⟨rfl, mode, todo, heq, hgranted⟩
    · exact hcrossing ⟨j, k, lock, lock', hjbefore, hjblocked, hkbefore, hkblocked⟩
    · exact hnone.not_blocked (heq ▸ hcall) hgranted hkbefore hjbefore hjblocked
  · rcases hkwaits.of_move h hcall hmoves with hkblocked | ⟨rfl, _⟩
    · exact hnone.not_blocked (heq ▸ hcall) hgranted hjbefore hkbefore hkblocked
    · exact h.not_holds (heq ▸ hcall) hkbefore

omit [DecidableEq L] in
theorem not_crossing_append (hcrossing : ¬ s.Crossing) (steps : List (LockStep L)) :
    ¬ Crossing { s with calls := s.calls ++ [⟨[], none, steps⟩] } := by
  have hblocked : ∀ {i : Nat} {lock : L},
      Blocked { s with calls := s.calls ++ [⟨[], none, steps⟩] } i lock → s.Blocked i lock := by
    rintro i lock ⟨call, mode, hcall, hwaiting, hgranted⟩
    rcases getElem?_append_cases hcall with hcall | ⟨_, rfl⟩
    · exact ⟨call, mode, hcall, hwaiting, hgranted⟩
    · cases hwaiting
  have hholds : ∀ {i : Nat} {lock : L},
      Holds { s with calls := s.calls ++ [⟨[], none, steps⟩] } i lock → s.Holds i lock := by
    rintro i lock ⟨call, hcall, hheld⟩
    rcases getElem?_append_cases hcall with hcall | ⟨_, rfl⟩
    · exact ⟨call, hcall, hheld⟩
    · cases hheld
  rintro ⟨i, j, lock, lock', hi, hiwaits, hj, hjwaits⟩
  exact hcrossing ⟨i, j, lock, lock', hholds hi, hblocked hiwaits, hholds hj, hblocked hjwaits⟩

omit [DecidableEq L] in
theorem not_crossing_new : ¬ (new : LockCalls L).Crossing := by
  rintro ⟨i, j, lock, lock', ⟨call, hcall, _⟩, _⟩
  simp [new] at hcall

theorem not_crossing_step (h : Ticketed nests s) (hcrossing : ¬ s.Crossing) {event : Event ι}
    (hnone : s.CrossesNone event) : ¬ (step begins s event).Crossing := by
  rcases s.step_cases (fun operation => ⟨[], none, begins operation⟩) LockCall.move event with
    ⟨operation, _, hstep⟩ | ⟨i, call, call', queues, rfl, hcall, hmove, hstep⟩ | hstep
  · exact (congrArg Crossing hstep).symm ▸ not_crossing_append hcrossing (begins operation)
  · exact (congrArg Crossing hstep).symm ▸ not_crossing_move h hcrossing hcall
      (moves_of_move hmove) hnone
  · exact (congrArg Crossing hstep).symm ▸ hcrossing

/-- A call that asks for a lock whose holder waits for a lock of the call, and that has to
wait, waits for that holder from then on. -/
theorem crossing_step (h : Ticketed nests s) {event : Event ι} (hcrosses : ¬ s.CrossesNone event) :
    (step begins s event).Crossing := by
  simp only [CrossesNone, not_forall, not_or, not_not, Bool.not_eq_true] at hcrosses
  obtain ⟨i, held, lock, mode, todo, rfl, hcall, hgranted, other, hheld, j, hj, hwaits⟩ := hcrosses
  obtain ⟨holder, hholder, hlock⟩ := hj
  obtain ⟨_, mode', hsame, hwaiting, hother⟩ := hwaits
  obtain rfl := Option.some.inj (hholder.symm.trans hsame)
  have hij : i ≠ j := by
    rintro rfl
    cases Option.some.inj (hcall.symm.trans hholder)
    cases hwaiting
  have hne : other ≠ lock := by
    rintro rfl
    exact h.not_holds hcall ⟨_, hcall, hheld⟩
  have hlt := (List.getElem?_eq_some_iff.mp hcall).1
  have hstep : step begins s (.advance i) =
      { shared := Function.update s.shared lock (s.shared lock ++ [⟨i, mode⟩])
        calls := s.calls.set i ⟨held, some (lock, mode), todo⟩ } := by
    simp [Interleaved.step, hcall, LockCall.move]
  rw [hstep]
  have hmoved : (s.calls.set i ⟨held, some (lock, mode), todo⟩)[i]? =
      some ⟨held, some (lock, mode), todo⟩ := List.getElem?_set_self hlt
  have hstays : (s.calls.set i ⟨held, some (lock, mode), todo⟩)[j]? = some holder :=
    (List.getElem?_set_ne hij).trans hholder
  refine ⟨i, j, other, lock, ⟨_, hmoved, hheld⟩, ⟨_, mode, hmoved, rfl, ?_⟩,
    ⟨_, hstays, hlock⟩, ⟨_, mode', hstays, hwaiting, ?_⟩⟩
  · simpa using hgranted
  · simpa [Function.update_of_ne hne] using hother

theorem crossing_step_iff (h : Ticketed nests s) (hcrossing : ¬ s.Crossing) {event : Event ι} :
    (step begins s event).Crossing ↔ ¬ s.CrossesNone event := by
  constructor
  · exact fun hcrosses hnone => not_crossing_step h hcrossing hnone hcrosses
  · exact crossing_step h

theorem Deadlocked.exists_blocked (h : s.Deadlocked) : ∃ i lock, s.Blocked i lock := by
  obtain ⟨⟨call, hmem, hunfinished⟩, hstuck⟩ := h
  obtain ⟨i, hcall⟩ := List.mem_iff_getElem?.mp hmem
  rcases move_eq_none_iff.mp (hstuck i call hcall) with hfinished | ⟨lock, mode, hwaiting, hgranted⟩
  · exact absurd hfinished hunfinished
  · exact ⟨i, lock, call, mode, hcall, hwaiting, hgranted⟩

/-- In a deadlock, a lock that a call waits for is held by a call that waits itself. -/
theorem Ticketed.holder_blocked (h : Ticketed nests s) (hdeadlocked : s.Deadlocked) {i : Nat}
    {lock : L} (hblocked : s.Blocked i lock) :
    ∃ j lock', s.Holds j lock ∧ s.Blocked j lock' := by
  obtain ⟨call, mode, hcall, hwaiting, _⟩ := hblocked
  obtain ⟨ticket, hmem, _⟩ := h.waiting i call lock mode hcall hwaiting
  cases hqueue : s.shared lock with
  | nil => simp [hqueue] at hmem
  | cons first queue =>
      -- The first ticket passes, so its owner holds the lock and waits for another.
      obtain ⟨holder, hholder, hlock⟩ := h.owner lock first (by simp [hqueue])
      rcases move_eq_none_iff.mp (hdeadlocked.2 first.owner holder hholder) with
        ⟨hnone, htodo⟩ | ⟨lock', mode', hwaits, hgranted⟩
      · have hnested := h.nested first.owner holder hholder
        simp only [NestedCall, hnone, htodo, Nested] at hnested
        simp [hnested, hnone] at hlock
      · rcases hlock with hheld | hsame
        · exact ⟨first.owner, lock', ⟨holder, hholder, hheld⟩,
            ⟨holder, mode', hholder, hwaits, hgranted⟩⟩
        · cases hsame.symm.trans hwaits
          rw [hqueue, Ticket.granted_head] at hgranted
          cases hgranted

end LockCalls

end Library
