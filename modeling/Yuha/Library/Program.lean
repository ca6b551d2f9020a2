import Mathlib.Data.List.Basic
import Yuha.Library.Interleaving

/-!
# Programs of atomic actions

A program calls atomic actions on a shared state and goes on with their answers. It can
run alone, or take turns with other programs: then each turn carries out one action of
one program, and the turns of an interleaving are a list of inputs like any other.
-/

namespace Library

universe u v w

/-- A program ends with a result, or calls an action and goes on with the answer. -/
inductive Program (A : Type u) (Answer : A → Type v) (α : Type v) : Type (max u v)
  | done (result : α)
  | call (action : A) (next : Answer action → Program A Answer α)

namespace Program

variable {A : Type u} {Answer : A → Type v} {α β : Type v}

def bind (p : Program A Answer α) (f : α → Program A Answer β) : Program A Answer β :=
  match p with
  | .done result => f result
  | .call action next => .call action fun answer => (next answer).bind f

instance : Monad (Program A Answer) where
  pure := .done
  bind := bind

/-- The program that calls one action and returns its answer. -/
def perform (action : A) : Program A Answer (Answer action) := .call action .done

@[simp] theorem pure_eq_done (result : α) :
    (pure result : Program A Answer α) = .done result := rfl

@[simp] theorem done_bind (result : α) (f : α → Program A Answer β) :
    (Program.done result >>= f) = f result := rfl

@[simp] theorem call_bind (action : A) (next : Answer action → Program A Answer α)
    (f : α → Program A Answer β) :
    (Program.call action next >>= f) = .call action fun answer => next answer >>= f := rfl

@[simp] theorem perform_bind (action : A) (f : Answer action → Program A Answer β) :
    (perform action >>= f) = .call action f := rfl

/-! ## Conditions on what a program may do -/

/-- Every call the program can come to, with what follows it, satisfies `P`. -/
def Forall (P : (action : A) → (Answer action → Program A Answer α) → Prop) :
    Program A Answer α → Prop
  | .done _ => True
  | .call action next => P action next ∧ ∀ answer, (next answer).Forall P

theorem Forall.bind {P : (action : A) → (Answer action → Program A Answer α) → Prop}
    {Q : (action : A) → (Answer action → Program A Answer β) → Prop}
    {p : Program A Answer α} {f : α → Program A Answer β} (h : p.Forall P)
    (hbind : ∀ action next, P action next → Q action fun answer => next answer >>= f)
    (hf : ∀ result, (f result).Forall Q) : (p >>= f).Forall Q := by
  induction p with
  | done result => exact hf result
  | call action next ih => exact ⟨hbind action next h.1, fun answer => ih answer (h.2 answer)⟩

theorem Forall.mono {P Q : (action : A) → (Answer action → Program A Answer α) → Prop}
    {p : Program A Answer α} (h : p.Forall P) (himp : ∀ action next, P action next →
      Q action next) : p.Forall Q := by
  induction p with
  | done result => trivial
  | call action next ih => exact ⟨himp action next h.1, fun answer => ih answer (h.2 answer)⟩

theorem forall_perform {action : A}
    {P : (called : A) → (Answer called → Program A Answer (Answer action)) → Prop} :
    (perform action : Program A Answer (Answer action)).Forall P ↔ P action .done :=
  and_iff_left fun _ => trivial

/-! ## Running alone -/

section Alone

variable {σ : Type w} (exec : (action : A) → σ → Answer action × σ)

/-- The result of the program and the state it leaves. -/
def run : Program A Answer α → σ → α × σ
  | .done result, s => (result, s)
  | .call action next, s => (next (exec action s).1).run (exec action s).2

@[simp] theorem run_done (result : α) (s : σ) :
    (Program.done result : Program A Answer α).run exec s = (result, s) := rfl

@[simp] theorem run_call (action : A) (next : Answer action → Program A Answer α) (s : σ) :
    (Program.call action next).run exec s =
      (next (exec action s).1).run exec (exec action s).2 := rfl

theorem run_bind (p : Program A Answer α) (f : α → Program A Answer β) (s : σ) :
    (p >>= f).run exec s = (f (p.run exec s).1).run exec (p.run exec s).2 := by
  induction p generalizing s with
  | done result => rfl
  | call action next ih => exact ih _ _

/-- What every action preserves, the whole program preserves. -/
theorem run_invariant {I : σ → Prop} (preserve : ∀ action s, I s → I (exec action s).2)
    (p : Program A Answer α) {s : σ} (h : I s) : I (p.run exec s).2 := by
  induction p generalizing s with
  | done result => exact h
  | call action next ih => exact ih _ (preserve action s h)

/-- Every action is called in a state that satisfies `P`. -/
def Each (P : A → σ → Prop) : Program A Answer α → σ → Prop
  | .done _, _ => True
  | .call action next, s => P action s ∧ (next (exec action s).1).Each P (exec action s).2

@[simp] theorem each_done (P : A → σ → Prop) (result : α) (s : σ) :
    (Program.done result : Program A Answer α).Each exec P s := trivial

@[simp] theorem each_call (P : A → σ → Prop) (action : A)
    (next : Answer action → Program A Answer α) (s : σ) :
    (Program.call action next).Each exec P s ↔
      P action s ∧ (next (exec action s).1).Each exec P (exec action s).2 := Iff.rfl

theorem each_bind (P : A → σ → Prop) (p : Program A Answer α) (f : α → Program A Answer β)
    (s : σ) : (p >>= f).Each exec P s ↔
      p.Each exec P s ∧ (f (p.run exec s).1).Each exec P (p.run exec s).2 := by
  induction p generalizing s with
  | done result => exact (and_iff_right trivial).symm
  | call action next ih => exact (and_congr Iff.rfl (ih _ _)).trans and_assoc.symm

end Alone

/-! ## Taking turns -/

/-- A shared state and the calls in progress. A call that has ended stays in its place. -/
structure Calls (σ : Type w) (A : Type u) (Answer : A → Type v) where
  shared : σ
  calls : List (Program A Answer PUnit)

/-- What happens next: an operation is called, or a call in progress takes its turn, and
is given what it reads from its environment. -/
inductive Turn (ι : Type*) (ε : Type*)
  | start (operation : ι)
  | advance (call : Nat) (environment : ε)

namespace Calls

variable {ι ε : Type*} {σ : Type w} (program : ι → Program A Answer PUnit)
  (exec : ε → (action : A) → σ → Answer action × σ)

def step (s : Calls σ A Answer) : Turn ι ε → Calls σ A Answer
  | .start operation => { s with calls := s.calls ++ [program operation] }
  | .advance i environment =>
      match s.calls[i]? with
      | some (.call action next) =>
          { shared := (exec environment action s.shared).2
            calls := s.calls.set i (next (exec environment action s.shared).1) }
      | _ => s

/-- No call is in progress. -/
def Quiescent (s : Calls σ A Answer) : Prop := ∀ p ∈ s.calls, p = .done ⟨⟩

/-- Some call is about to call this action. -/
def Pending (s : Calls σ A Answer) (action : A) : Prop :=
  ∃ next, Program.call action next ∈ s.calls

/-- The action the turn carries out. -/
def acting (s : Calls σ A Answer) : Turn ι ε → Option A
  | .start _ => none
  | .advance i _ =>
      match s.calls[i]? with
      | some (.call action _) => some action
      | _ => none

variable {program exec} {s : Calls σ A Answer}

theorem Quiescent.not_pending (h : s.Quiescent) (action : A) : ¬ s.Pending action := by
  rintro ⟨next, hmem⟩
  cases h _ hmem

theorem quiescent_of_eq_replicate {n : Nat} (h : s.calls = List.replicate n (.done ⟨⟩)) :
    s.Quiescent := by
  intro p hp
  rw [h] at hp
  exact List.eq_of_mem_replicate hp

theorem mem_set_of_ne {l : List α} {a b : α} {i : Nat} (hi : l[i]? = some a) {x : α}
    (hx : x ∈ l) (hne : x ≠ a) : x ∈ l.set i b := by
  obtain ⟨j, hj⟩ := List.mem_iff_getElem?.mp hx
  have hij : i ≠ j := by
    rintro rfl
    exact hne (Option.some.inj (hj.symm.trans hi))
  exact List.mem_iff_getElem?.mpr ⟨j, by rw [List.getElem?_set_ne hij, hj]⟩

theorem getElem?_step_advance {i : Nat} {action : A} {next : Answer action → Program A Answer PUnit}
    (hcall : s.calls[i]? = some (.call action next)) (environment : ε) :
    (s.step program exec (.advance i environment)).calls[i]? =
      some (next (exec environment action s.shared).1) := by
  have hi : i < s.calls.length := (List.getElem?_eq_some_iff.mp hcall).1
  simp only [step, hcall, List.getElem?_set_self hi]

variable (program exec) in
/-- The other calls stay where they are. -/
theorem getElem?_step_advance_of_ne {i j : Nat} (h : j ≠ i) (s : Calls σ A Answer)
    (environment : ε) :
    (s.step program exec (.advance i environment)).calls[j]? = s.calls[j]? := by
  simp only [step]
  split
  · exact List.getElem?_set_ne h.symm
  · rfl

variable (program exec) in
@[simp] theorem length_step_advance (s : Calls σ A Answer) (i : Nat) (environment : ε) :
    (s.step program exec (.advance i environment)).calls.length = s.calls.length := by
  simp only [step]
  split
  · exact List.length_set
  · rfl

variable (program exec) in
/-- All a turn can do: it starts a call, it carries out an action, or it does nothing. -/
theorem step_cases (s : Calls σ A Answer) (turn : Turn ι ε) :
    (∃ operation, turn = .start operation ∧
      s.step program exec turn = { s with calls := s.calls ++ [program operation] }) ∨
    (∃ i environment action next, turn = .advance i environment ∧
      s.calls[i]? = some (.call action next) ∧
      s.step program exec turn =
        { shared := (exec environment action s.shared).2
          calls := s.calls.set i (next (exec environment action s.shared).1) }) ∨
    s.acting turn = none ∧ s.step program exec turn = s := by
  cases turn with
  | start operation => exact Or.inl ⟨operation, rfl, rfl⟩
  | advance i environment =>
      cases hcall : s.calls[i]? with
      | none => exact Or.inr (Or.inr ⟨by simp [acting, hcall], by simp [step, hcall]⟩)
      | some p =>
          cases p with
          | done result =>
              exact Or.inr (Or.inr ⟨by simp [acting, hcall], by simp [step, hcall]⟩)
          | call action next =>
              refine Or.inr (Or.inl ⟨i, environment, action, next, rfl, hcall, ?_⟩)
              simp [step, hcall]

theorem acting_advance_eq_some_iff {i : Nat} {environment : ε} {action : A} :
    s.acting (.advance i environment : Turn ι ε) = some action ↔
      ∃ next, s.calls[i]? = some (.call action next) := by
  simp only [acting]
  cases hcall : s.calls[i]? with
  | none => simp
  | some p =>
      cases p with
      | done result => simp
      | call action' next =>
          constructor
          · intro h
            obtain rfl := Option.some.inj h
            exact ⟨next, rfl⟩
          · rintro ⟨next', h⟩
            obtain ⟨rfl, _⟩ := Program.call.inj (Option.some.inj h)
            rfl

/-- The shared state changes by the action that is carried out. -/
theorem shared_step {I : σ → Prop} (h : I s.shared) {turn : Turn ι ε}
    (hexec : ∀ i environment action, turn = .advance i environment →
      s.acting turn = some action → I (exec environment action s.shared).2) :
    I (s.step program exec turn).shared := by
  rcases s.step_cases program exec turn with
    ⟨operation, _, hstep⟩ | ⟨i, environment, action, next, rfl, hcall, hstep⟩ | ⟨_, hstep⟩
  · exact (congrArg (fun after => I after.shared) hstep).mpr h
  · apply (congrArg (fun after => I after.shared) hstep).mpr
    exact hexec i environment action rfl (acting_advance_eq_some_iff.mpr ⟨next, hcall⟩)
  · exact (congrArg (fun after => I after.shared) hstep).mpr h

theorem shared_step_of_acting {I : σ → Prop} {turn : Turn ι ε} {action : A}
    (hacting : s.acting turn = some action)
    (hexec : ∀ environment, I (exec environment action s.shared).2) :
    I (s.step program exec turn).shared := by
  cases turn with
  | start operation => cases hacting
  | advance i environment =>
      obtain ⟨next, hcall⟩ := acting_advance_eq_some_iff.mp hacting
      simpa [step, hcall] using hexec environment

/-- What holds of each call in its place is kept if the call that starts and the call that
goes on have it. -/
theorem forall_getElem_step {P : Nat → Program A Answer PUnit → Prop}
    (h : ∀ i p, s.calls[i]? = some p → P i p) {turn : Turn ι ε}
    (hstart : ∀ operation, turn = .start operation → P s.calls.length (program operation))
    (hadvance : ∀ i environment action next, turn = .advance i environment →
      s.calls[i]? = some (.call action next) →
      P i (next (exec environment action s.shared).1)) :
    ∀ i p, (s.step program exec turn).calls[i]? = some p → P i p := by
  intro j p hp
  rcases s.step_cases program exec turn with
    ⟨operation, hturn, hstep⟩ | ⟨i, environment, action, next, hturn, hcall, hstep⟩ | ⟨_, hstep⟩
  · rw [hstep] at hp
    rcases Interleaved.getElem?_append_cases hp with hold | ⟨rfl, rfl⟩
    · exact h j p hold
    · exact hstart operation hturn
  · rw [hstep] at hp
    rcases Interleaved.getElem?_set_cases hp with ⟨rfl, rfl⟩ | ⟨_, hold⟩
    · exact hadvance i environment action next hturn hcall
    · exact h j p hold
  · exact h j p (hstep ▸ hp)

/-- A condition on programs that they keep as they go on holds of all calls. -/
theorem forall_step {P : (action : A) → (Answer action → Program A Answer PUnit) → Prop}
    (h : ∀ p ∈ s.calls, p.Forall P) {turn : Turn ι ε}
    (hstart : ∀ operation, turn = .start operation → (program operation).Forall P) :
    ∀ p ∈ (s.step program exec turn).calls, p.Forall P := by
  intro p hp
  obtain ⟨i, hi⟩ := List.mem_iff_getElem?.mp hp
  refine forall_getElem_step (P := fun _ p => p.Forall P) ?_ hstart ?_ i p hi
  · exact fun i p hold => h p (List.mem_of_getElem? hold)
  · intro i environment action next _ hcall
    exact (h _ (List.mem_of_getElem? hcall)).2 _

/-- A pending action stays pending unless it is the one that is carried out. -/
theorem Pending.step {action : A} (h : s.Pending action) {turn : Turn ι ε}
    (hne : s.acting turn ≠ some action) : (s.step program exec turn).Pending action := by
  obtain ⟨next, hmem⟩ := h
  rcases s.step_cases program exec turn with
    ⟨operation, _, hstep⟩ | ⟨i, environment, action', next', rfl, hcall, hstep⟩ | ⟨_, hstep⟩
  · rw [hstep]
    exact ⟨next, List.mem_append_left _ hmem⟩
  · rw [hstep]
    refine ⟨next, mem_set_of_ne hcall hmem ?_⟩
    intro heq
    obtain ⟨rfl, _⟩ := Program.call.inj heq
    exact hne (by simp [acting, hcall])
  · rw [hstep]
    exact ⟨next, hmem⟩

end Calls

/-! ## One program among others -/

/-- A program whose result is of interest, next to other calls on the same state. -/
structure Watched (σ : Type w) (A : Type u) (Answer : A → Type v) (α : Type v) where
  program : Program A Answer α
  others : Calls σ A Answer

/-- The watched program takes its turn, or something else happens. -/
inductive WatchedTurn (ι : Type*) (ε : Type*)
  | own (environment : ε)
  | other (turn : Turn ι ε)

namespace Watched

variable {ι ε : Type*} {σ : Type w} (program : ι → Program A Answer PUnit)
  (exec : ε → (action : A) → σ → Answer action × σ)

def step (s : Watched σ A Answer α) : WatchedTurn ι ε → Watched σ A Answer α
  | .own environment =>
      match s.program with
      | .done _ => s
      | .call action next =>
          { program := next (exec environment action s.others.shared).1
            others := { s.others with
              shared := (exec environment action s.others.shared).2 } }
  | .other turn => { s with others := s.others.step program exec turn }

variable {program exec} {s : Watched σ A Answer α}

theorem step_own {environment : ε} {action : A} {next : Answer action → Program A Answer α}
    (h : s.program = .call action next) :
    (s.step program exec (.own environment : WatchedTurn ι ε)).program =
      next (exec environment action s.others.shared).1 := by
  simp only [step, h]

/-- A condition on programs that they keep as they go on is kept by every turn. -/
theorem forall_step {P : (action : A) → (Answer action → Program A Answer α) → Prop}
    (h : s.program.Forall P) (turn : WatchedTurn ι ε) :
    (s.step program exec turn).program.Forall P := by
  cases turn with
  | other turn => exact h
  | own environment =>
      cases hprogram : s.program with
      | done result => simpa only [step, hprogram] using h
      | call action next =>
          rw [hprogram] at h
          rw [step_own hprogram]
          exact h.2 _

end Watched

end Program

end Library
