import Mathlib.Data.List.Basic

/-!
# Calls that take turns

Calls in progress share a state, and each is at a stage of its own. An event starts a call
or moves one call on. A call that has to wait, or has ended, stays where it is.
-/

namespace Library

/-- A shared state and the calls, each at its own stage. -/
structure Interleaved (σ κ : Type*) where
  shared : σ
  calls : List κ

inductive Event (ι : Type*)
  | start (operation : ι)
  | advance (call : Nat)

namespace Interleaved

variable {σ κ ι : Type*} (begins : ι → κ) (move : Nat → κ → σ → Option (κ × σ))

def step (s : Interleaved σ κ) : Event ι → Interleaved σ κ
  | .start operation => { s with calls := s.calls ++ [begins operation] }
  | .advance i =>
      match s.calls[i]?.bind fun call => move i call s.shared with
      | some (call, shared) => { shared := shared, calls := s.calls.set i call }
      | none => s

/-- All an event can do: it starts a call, it moves a call on, or it does nothing. -/
theorem step_cases (s : Interleaved σ κ) (event : Event ι) :
    (∃ operation, event = .start operation ∧
      s.step begins move event = { s with calls := s.calls ++ [begins operation] }) ∨
    (∃ i call call' shared, event = .advance i ∧ s.calls[i]? = some call ∧
      move i call s.shared = some (call', shared) ∧
      s.step begins move event = { shared := shared, calls := s.calls.set i call' }) ∨
    s.step begins move event = s := by
  cases event with
  | start operation => exact Or.inl ⟨operation, rfl, rfl⟩
  | advance i =>
      cases hcall : s.calls[i]? with
      | none => exact Or.inr (Or.inr (by simp [step, hcall]))
      | some call =>
          cases hmove : move i call s.shared with
          | none => exact Or.inr (Or.inr (by simp [step, hcall, hmove]))
          | some moved =>
              refine Or.inr (Or.inl ⟨i, call, moved.1, moved.2, rfl, hcall, hmove, ?_⟩)
              simp [step, hcall, hmove]

/-! ## What some call, or some other call, is about to do -/

variable {s : Interleaved σ κ} {P : κ → Prop}

/-- Some call is at a stage like this. -/
def Any (s : Interleaved σ κ) (P : κ → Prop) : Prop := ∃ call ∈ s.calls, P call

/-- Some call other than the `i`-th is at a stage like this. -/
def Others (s : Interleaved σ κ) (i : Nat) (P : κ → Prop) : Prop :=
  ∃ j call, j ≠ i ∧ s.calls[j]? = some call ∧ P call

theorem any_iff {i : Nat} {call : κ} (h : s.calls[i]? = some call) :
    s.Any P ↔ s.Others i P ∨ P call := by
  constructor
  · rintro ⟨call', hmem, hP⟩
    obtain ⟨j, hj⟩ := List.mem_iff_getElem?.mp hmem
    by_cases hij : j = i
    · subst hij
      obtain rfl := Option.some.inj (hj.symm.trans h)
      exact Or.inr hP
    · exact Or.inl ⟨j, call', hij, hj, hP⟩
  · rintro (⟨j, call', _, hj, hP⟩ | hP)
    · exact ⟨call', List.mem_of_getElem? hj, hP⟩
    · exact ⟨call, List.mem_of_getElem? h, hP⟩

theorem any_set {i : Nat} {call call' : κ} {shared : σ} (h : s.calls[i]? = some call) :
    Any { shared := shared, calls := s.calls.set i call' } P ↔ s.Others i P ∨ P call' := by
  have hlt := (List.getElem?_eq_some_iff.mp h).1
  have hset : (s.calls.set i call')[i]? = some call' := by simp [hlt]
  rw [any_iff (s := { shared := shared, calls := s.calls.set i call' }) hset]
  refine or_congr_left ⟨?_, ?_⟩
  · rintro ⟨j, other, hij, hj, hP⟩
    exact ⟨j, other, hij, by rwa [List.getElem?_set_ne (Ne.symm hij)] at hj, hP⟩
  · rintro ⟨j, other, hij, hj, hP⟩
    exact ⟨j, other, hij, by rwa [List.getElem?_set_ne (Ne.symm hij)], hP⟩

theorem any_set_congr (shared : σ) {i : Nat} {call call' : κ} (h : s.calls[i]? = some call)
    (hP : P call' ↔ P call) :
    Any { shared := shared, calls := s.calls.set i call' } P ↔ s.Any P := by
  rw [any_set h, any_iff h, hP]

theorem any_append {call : κ} :
    Any { s with calls := s.calls ++ [call] } P ↔ s.Any P ∨ P call := by
  simp [Any, or_and_right, exists_or]

theorem Any.of_set {i : Nat} {call call' : κ} {shared : σ} (hcall : s.calls[i]? = some call)
    (himp : P call' → P call)
    (h : Any { shared := shared, calls := s.calls.set i call' } P) : s.Any P :=
  (any_iff hcall).mpr (((any_set hcall).mp h).imp_right himp)

theorem Others.of_set {i j : Nat} {call call' : κ} {shared : σ}
    (hcall : s.calls[i]? = some call) (himp : P call' → P call)
    (h : Others { shared := shared, calls := s.calls.set i call' } j P) : s.Others j P := by
  obtain ⟨k, other, hkj, hk, hP⟩ := h
  simp only [List.getElem?_set] at hk
  split at hk
  · next hik =>
      subst hik
      split at hk
      · obtain rfl := Option.some.inj hk
        exact ⟨i, call, hkj, hcall, himp hP⟩
      · cases hk
  · exact ⟨k, other, hkj, hk, hP⟩

theorem Any.of_append {call : κ} (hcall : ¬ P call)
    (h : Any { s with calls := s.calls ++ [call] } P) : s.Any P :=
  (any_append.mp h).resolve_right hcall

theorem Others.of_append {j : Nat} {call : κ} (hcall : ¬ P call)
    (h : Others { s with calls := s.calls ++ [call] } j P) : s.Others j P := by
  obtain ⟨k, other, hkj, hk, hP⟩ := h
  simp only [List.getElem?_append] at hk
  split at hk
  · exact ⟨k, other, hkj, hk, hP⟩
  · obtain rfl := List.mem_singleton.mp (List.mem_of_getElem? hk)
    exact absurd hP hcall

theorem Others.any {j : Nat} (h : s.Others j P) : s.Any P := by
  obtain ⟨k, other, _, hk, hP⟩ := h
  exact ⟨other, List.mem_of_getElem? hk, hP⟩

/-! ## Which call is in which place -/

theorem getElem?_set_cases {calls : List κ} {i j : Nat} {call call' : κ}
    (h : (calls.set i call')[j]? = some call) :
    i = j ∧ call = call' ∨ i ≠ j ∧ calls[j]? = some call := by
  rw [List.getElem?_set] at h
  split at h
  · next hij =>
      split at h
      · exact Or.inl ⟨hij, (Option.some.inj h).symm⟩
      · cases h
  · next hij => exact Or.inr ⟨hij, h⟩

theorem getElem?_append_cases {calls : List κ} {j : Nat} {call call' : κ}
    (h : (calls ++ [call'])[j]? = some call) :
    calls[j]? = some call ∨ j = calls.length ∧ call = call' := by
  rw [List.getElem?_append] at h
  split at h
  · exact Or.inl h
  · obtain ⟨hlt, heq⟩ := List.getElem?_eq_some_iff.mp h
    simp only [List.length_singleton] at hlt
    refine Or.inr ⟨by omega, ?_⟩
    simpa using heq.symm

end Interleaved

end Library
