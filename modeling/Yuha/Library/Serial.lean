import Yuha.Library.Execution
import Yuha.Library.Program

/-!
# Serial runs

Where every call starts only after the one before it has ended, an interleaving is no more
than the programs run alone, one after the other.
-/

namespace Library

namespace Execution

variable {σ ι : Type*} {step : σ → ι → σ} {s : σ} {es fs : List ι}
  {G : List ι → σ → ι → Prop}

theorem Along.append (h : Along step G s (es ++ fs)) :
    Along step (fun past => G (es ++ past)) (run step s es) fs := by
  intro past e hpast
  have hlater := h (es ++ past) e (by simpa using hpast)
  rwa [run_append] at hlater

theorem Along.of_append (h : Along step G s es)
    (hmore : Along step (fun past => G (es ++ past)) (run step s es) fs) :
    Along step G s (es ++ fs) := by
  induction fs using List.reverseRecOn with
  | nil => simpa using h
  | append_singleton fs f ih =>
      obtain ⟨hearlier, hlast⟩ := along_concat.mp hmore
      rw [← List.append_assoc]
      refine along_concat.mpr ⟨ih hearlier, ?_⟩
      rwa [run_append]

end Execution

namespace Program.Calls

open Execution

universe u v w

variable {A : Type u} {Answer : A → Type v} {ι ε : Type*} {σ : Type w}

/-- An operation that is called, and the turns it is given, in one environment. -/
structure Served (ι ε : Type*) where
  operation : ι
  environment : ε
  turns : Nat

/-- The turns in which the `n`-th call and those after it are started and served in order. -/
def serialTurns : Nat → List (Served ι ε) → List (Turn ι ε)
  | _, [] => []
  | n, served :: more =>
      .start served.operation ::
        (List.replicate served.turns (.advance n served.environment) ++ serialTurns (n + 1) more)

/-- A call starts only where no call is in progress. -/
def StartsAlone (s : Calls σ A Answer) : Turn ι ε → Prop
  | .start _ => s.Quiescent
  | .advance _ _ => True

variable (program : ι → Program A Answer PUnit) (exec : ε → (action : A) → σ → Answer action × σ)

/-- An operation carried out in one go. -/
def carryOut (shared : σ) (served : Served ι ε) : σ :=
  ((program served.operation).run (exec served.environment) shared).2

variable {program exec} {s : Calls σ A Answer}

variable (program exec) in
/-- A call that takes some turns does a part of what it does alone. -/
theorem run_replicate {n : Nat} {p : Program A Answer PUnit} (hcall : s.calls[n]? = some p)
    (environment : ε) (count : Nat) : ∃ rest shared,
      Execution.run (step program exec) s (List.replicate count (.advance n environment)) =
          { shared := shared, calls := s.calls.set n rest } ∧
        rest.run (exec environment) shared = p.run (exec environment) s.shared := by
  induction count generalizing s p with
  | zero =>
      refine ⟨p, s.shared, ?_, rfl⟩
      obtain ⟨hlt, rfl⟩ := List.getElem?_eq_some_iff.mp hcall
      simp
  | succ count ih =>
      rw [List.replicate_succ, run_cons]
      cases p with
      | done result =>
          have hstep : step program exec s (.advance n environment) = s := by
            simp [step, hcall]
          rw [hstep]
          exact ih hcall
      | call action next =>
          have hlt := (List.getElem?_eq_some_iff.mp hcall).1
          have hstep : step program exec s (.advance n environment) =
              { shared := (exec environment action s.shared).2
                calls := s.calls.set n (next (exec environment action s.shared).1) } := by
            simp [step, hcall]
          obtain ⟨rest, shared, hrun, hsame⟩ := ih
            (s := step program exec s (.advance n environment))
            (p := next (exec environment action s.shared).1) (by rw [hstep]; simp [hlt])
          refine ⟨rest, shared, ?_, ?_⟩
          · rw [hrun, hstep, List.set_set]
          · rw [hsame, hstep, run_call]

variable (program exec) in
/-- Given turns enough, a call ends. -/
theorem exists_run_replicate {n : Nat} {p : Program A Answer PUnit}
    (hcall : s.calls[n]? = some p) (environment : ε) : ∃ count,
      Execution.run (step program exec) s (List.replicate count (.advance n environment)) =
        { shared := (p.run (exec environment) s.shared).2, calls := s.calls.set n (.done ⟨⟩) } := by
  have hlt := (List.getElem?_eq_some_iff.mp hcall).1
  induction p generalizing s with
  | done result =>
      refine ⟨0, ?_⟩
      obtain ⟨_, hdone⟩ := List.getElem?_eq_some_iff.mp hcall
      rw [← hdone, List.set_getElem_self, hdone]
      rfl
  | call action next ih =>
      have hstep : step program exec s (.advance n environment) =
          { shared := (exec environment action s.shared).2
            calls := s.calls.set n (next (exec environment action s.shared).1) } := by
        simp [step, hcall]
      obtain ⟨count, hrun⟩ := ih (exec environment action s.shared).1
        (s := step program exec s (.advance n environment)) (by rw [hstep]; simp [hlt])
        (by rw [hstep]; simpa using hlt)
      refine ⟨count + 1, ?_⟩
      rw [List.replicate_succ, run_cons, hrun, hstep, List.set_set, run_call]

/-- What is to be served starts where no call is in progress, or there is nothing left. -/
theorem quiescent_of_startsAlone {n : Nat} {served : List (Served ι ε)}
    (halone : Along (step program exec) (fun _ s turn => s.StartsAlone turn) s
      (serialTurns n served))
    (hended : (Execution.run (step program exec) s (serialTurns n served)).Quiescent) :
    s.Quiescent := by
  cases served with
  | nil => exact hended
  | cons first more => exact (along_cons.mp halone).1

/-- Calls that are served one after the other do what they do in one go. -/
theorem shared_run_serialTurns {n : Nat} {served : List (Served ι ε)} (hlength : s.calls.length = n)
    (halone : Along (step program exec) (fun _ s turn => s.StartsAlone turn) s
      (serialTurns n served))
    (hended : (Execution.run (step program exec) s (serialTurns n served)).Quiescent) :
    (Execution.run (step program exec) s (serialTurns n served)).shared =
      Execution.run (carryOut program exec) s.shared served := by
  induction served generalizing s n with
  | nil => rfl
  | cons first more ih =>
      subst hlength
      obtain ⟨_, hlater⟩ := along_cons.mp halone
      obtain ⟨rest, shared, hrun, hsame⟩ := run_replicate program exec
        (s := step program exec s (.start first.operation)) (n := s.calls.length)
        (p := program first.operation) (by simp [step]) first.environment first.turns
      have hcalls : (step program exec s (.start first.operation)).calls.set s.calls.length rest =
          s.calls ++ [rest] := by simp [step]
      rw [hcalls] at hrun
      simp only [serialTurns, run_cons, run_append, hrun] at hended ⊢
      have hmore := hlater.append
      rw [hrun] at hmore
      have hquiescent := quiescent_of_startsAlone hmore hended
      obtain rfl := hquiescent rest (by simp)
      have hshared : shared = carryOut program exec s.shared first :=
        congrArg Prod.snd hsame
      rw [← hshared]
      exact ih (by simp) hmore hended

variable (program exec) in
/-- Operations given turns enough are served one after the other. -/
theorem exists_serialTurns (operations : List (ι × ε)) {n : Nat} (hquiescent : s.Quiescent)
    (hlength : s.calls.length = n) : ∃ served : List (Served ι ε),
      served.map (fun one => (one.operation, one.environment)) = operations ∧
        Along (step program exec) (fun _ s turn => s.StartsAlone turn) s (serialTurns n served) ∧
        (Execution.run (step program exec) s (serialTurns n served)).Quiescent := by
  induction operations generalizing s n with
  | nil => exact ⟨[], rfl, along_nil, hquiescent⟩
  | cons first more ih =>
      subst hlength
      obtain ⟨count, hrun⟩ := exists_run_replicate program exec
        (s := step program exec s (.start first.1)) (n := s.calls.length)
        (p := program first.1) (by simp [step]) first.2
      have hcalls : (step program exec s (.start first.1)).calls.set s.calls.length (.done ⟨⟩) =
          s.calls ++ [.done ⟨⟩] := by simp [step]
      rw [hcalls] at hrun
      have hended : ∀ shared : σ, Quiescent ⟨shared, s.calls ++ [.done ⟨⟩]⟩ := by
        intro shared p hp
        rcases List.mem_append.mp hp with hold | hnew
        · exact hquiescent p hold
        · exact List.mem_singleton.mp hnew
      obtain ⟨served, hserved, halone, hlast⟩ := ih (hended _) (n := s.calls.length + 1)
        (by simp)
      refine ⟨⟨first.1, first.2, count⟩ :: served, by simp [hserved], ?_, ?_⟩
      · refine along_cons.mpr ⟨hquiescent, Along.of_append ?_ ?_⟩
        · intro past turn hpast
          obtain ⟨_, hturn⟩ := List.mem_replicate.mp
            (hpast.subset (List.mem_append_right past (List.mem_singleton_self turn)))
          rw [hturn]
          trivial
        · rw [hrun]
          exact halone
      · simp only [serialTurns, run_cons, run_append, hrun]
        exact hlast

end Program.Calls

end Library
