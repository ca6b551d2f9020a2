import Yuha.Library.Execution
import Yuha.Library.Interleaving
import Yuha.Library.Tally

/-!
# Checking first and acting later

A call looks in one step whether a limit is reached, and adds to what is limited in a later
one. Between the two, other calls pass the check and add, too. The limit is then exceeded,
but only by the calls that are at it at the same time: where there are never more than
`bound` of them, it is exceeded by less than `bound`.
-/

namespace Library

namespace Interleaved

open Execution

variable {σ κ ι : Type*}

/-- The calls that stand before the check, or between the check and the addition. -/
structure Stages (κ : Type*) where
  checking : κ → Bool
  passed : κ → Bool

variable (stages : Stages κ)

def passedCalls (s : Interleaved σ κ) : Nat :=
  tally (fun call => (stages.passed call).toNat) s.calls

def checkingCalls (s : Interleaved σ κ) : Nat :=
  tally (fun call => (stages.checking call).toNat) s.calls

/-- What a move does to the size that is limited: it passes the check, where the limit is not
reached, or it adds no more than the call was let pass for. -/
def RespectsCheck (size : σ → Nat) (limit : Nat) (call call' : κ) (shared shared' : σ) : Prop :=
  (stages.checking call = true ∧ size shared < limit ∧ size shared' ≤ size shared) ∨
    size shared' + (stages.passed call').toNat ≤ size shared + (stages.passed call).toNat

variable {stages} {begins : ι → κ} {move : Nat → κ → σ → Option (κ × σ)} {size : σ → Nat}
  {limit bound : Nat} {s : Interleaved σ κ}

theorem checkingCalls_pos {i : Nat} {call : κ} (hcall : s.calls[i]? = some call)
    (hchecking : stages.checking call = true) : 0 < s.checkingCalls stages := by
  rw [Nat.pos_iff_ne_zero]
  intro hzero
  have hnone := tally_eq_zero_iff.mp hzero call (List.mem_of_getElem? hcall)
  simp [hchecking] at hnone

variable (stages) in
theorem passedCalls_set {i : Nat} {call : κ} (hcall : s.calls[i]? = some call) (call' : κ)
    (shared : σ) :
    passedCalls stages { shared := shared, calls := s.calls.set i call' } +
        (stages.passed call).toNat =
      s.passedCalls stages + (stages.passed call').toNat :=
  tally_set (fun call => (stages.passed call).toNat) hcall call'

/-- One move: what is there and what is still to be added stays within the limit and the
calls that are at it. -/
theorem size_add_passedCalls_move {i : Nat} {call call' : κ} {shared : σ}
    (h : size s.shared + s.passedCalls stages ≤ limit + bound - 1)
    (hbound : s.checkingCalls stages + s.passedCalls stages ≤ bound)
    (hcall : s.calls[i]? = some call)
    (hrespects : RespectsCheck stages size limit call call' s.shared shared) :
    size shared + passedCalls stages { shared := shared, calls := s.calls.set i call' } ≤
      limit + bound - 1 := by
  have hset := passedCalls_set stages hcall call' shared
  rcases hrespects with ⟨hchecking, hroom, hsize⟩ | hsize
  · -- The call is at the limit itself, so fewer than `bound` calls have passed it before.
    have hpos := checkingCalls_pos hcall hchecking
    have hone : (stages.passed call').toNat ≤ 1 := Bool.toNat_le _
    omega
  · omega

variable (stages) in
/-- In every run in which at most `bound` calls are at the limit at a time, it is exceeded by
less than `bound`. -/
theorem size_le_of_calls_le {I : Interleaved σ κ → Prop} {events : List (Event ι)}
    (hinitial : I s) (hempty : s.calls = []) (hzero : size s.shared = 0)
    (hbegins : ∀ operation, stages.passed (begins operation) = false)
    (hinvariant : ∀ s event, I s → I (step begins move s event))
    (hmoves : ∀ s i call call' shared, I s → s.calls[i]? = some call →
      move i call s.shared = some (call', shared) →
      RespectsCheck stages size limit call call' s.shared shared)
    (hbound : Always (step begins move)
      (fun s => s.checkingCalls stages + s.passedCalls stages ≤ bound) s events) :
    Always (step begins move) (fun s => size s.shared ≤ limit + bound - 1) s events := by
  have hbefore : Along (step begins move)
      (fun _ s _ => s.checkingCalls stages + s.passedCalls stages ≤ bound) s events :=
    fun past event hpast => hbound past ((List.prefix_append past [event]).trans hpast)
  have hsum := hbefore.invariant (I := fun _ s => I s ∧
    size s.shared + s.passedCalls stages ≤ limit + bound - 1)
    ⟨hinitial, by simp [passedCalls, hempty, hzero]⟩ ?_
  · exact fun past hpast => (Nat.le_add_right _ _).trans (hsum past hpast).2
  · rintro _ s event ⟨hI, hsize⟩ hcalls
    refine ⟨hinvariant s event hI, ?_⟩
    rcases s.step_cases begins move event with
      ⟨operation, _, hstep⟩ | ⟨i, call, call', shared, _, hcall, hmove, hstep⟩ | hstep
    · rw [hstep]
      simpa [passedCalls, hbegins operation] using hsize
    · rw [hstep]
      exact size_add_passedCalls_move hsize hcalls hcall
        (hmoves s i call call' shared hI hcall hmove)
    · rwa [hstep]

end Interleaved

end Library
