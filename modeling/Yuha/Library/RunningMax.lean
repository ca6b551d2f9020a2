import Mathlib.Data.List.Induction
import Mathlib.Order.Bounds.Basic
import Yuha.Library.Execution

/-!
# The greatest value of a run so far

A state keeps a value and beside it a peak, which is meant to be the greatest value since
the start of the run. It is exactly if every step raises the peak to the new value where
that is greater, and leaves it alone where it is not.
-/

namespace Library

namespace Execution

variable {σ ι β : Type*} (step : σ → ι → σ) (value peak : σ → β)

/-- The values that the run has had, the first and the last included. -/
def valuesAlong (s : σ) (es : List ι) : Set β :=
  {b | ∃ past, past <+: es ∧ b = value (run step s past)}

variable {step value} {s : σ} {es : List ι} {e : ι}

theorem valuesAlong_nil : valuesAlong step value s [] = {value s} := by
  ext b
  simp [valuesAlong]

theorem valuesAlong_concat : valuesAlong step value s (es ++ [e]) =
    insert (value (step (run step s es) e)) (valuesAlong step value s es) := by
  ext b
  simp [valuesAlong, List.prefix_concat_iff, or_and_right, exists_or]

theorem mem_valuesAlong (s : σ) (es : List ι) :
    value (run step s es) ∈ valuesAlong step value s es :=
  ⟨es, List.prefix_refl es, rfl⟩

variable [LinearOrder β]

variable (step value) in
/-- At every moment the peak is the greatest value so far. -/
def TracksMax (s : σ) (es : List ι) : Prop :=
  ∀ past, past <+: es → IsGreatest (valuesAlong step value s past) (peak (run step s past))

variable {peak}

theorem TracksMax.last (h : TracksMax step value peak s es) :
    IsGreatest (valuesAlong step value s es) (peak (run step s es)) :=
  h es (List.prefix_refl es)

theorem tracksMax_nil : TracksMax step value peak s [] ↔ peak s = value s := by
  constructor
  · intro h
    have hlast := h.last
    rw [valuesAlong_nil] at hlast
    exact hlast.1
  · intro h past hpast
    obtain rfl := List.prefix_nil.mp hpast
    rw [valuesAlong_nil, run_nil, h]
    exact isGreatest_singleton

theorem tracksMax_concat : TracksMax step value peak s (es ++ [e]) ↔
    TracksMax step value peak s es ∧
      IsGreatest (valuesAlong step value s (es ++ [e])) (peak (run step s (es ++ [e]))) := by
  constructor
  · exact fun h => ⟨fun past hpast => h past (hpast.trans (List.prefix_append es [e])), h.last⟩
  · rintro ⟨h, hlast⟩ past hpast
    rcases List.prefix_concat_iff.mp hpast with rfl | hpast
    · exact hlast
    · exact h past hpast

/-- A step keeps the peak right exactly if it raises it to the new value. -/
theorem TracksMax.concat_iff (h : TracksMax step value peak s es) :
    TracksMax step value peak s (es ++ [e]) ↔
      peak (step (run step s es) e) =
        max (peak (run step s es)) (value (step (run step s es) e)) := by
  have hgreatest : IsGreatest (valuesAlong step value s (es ++ [e]))
      (max (value (step (run step s es) e)) (peak (run step s es))) := by
    rw [valuesAlong_concat]
    exact h.last.insert _
  rw [tracksMax_concat, and_iff_right h, run_append, run_cons, run_nil, max_comm]
  constructor
  · exact fun hpeak => hpeak.unique hgreatest
  · exact fun hpeak => hpeak ▸ hgreatest

/-- Where `G` is the exact condition for a step to raise the peak as it should, the peak is
right throughout a run exactly if every step meets it. -/
theorem tracksMax_iff_along {G : σ → ι → Prop} (start : peak s = value s)
    (exact : ∀ t e, value t ≤ peak t →
      (peak (step t e) = max (peak t) (value (step t e)) ↔ G t e)) (es : List ι) :
    TracksMax step value peak s es ↔ Along step (fun _ t e => G t e) s es := by
  induction es using List.reverseRecOn with
  | nil => exact iff_of_true (tracksMax_nil.mpr start) along_nil
  | append_singleton es e ih =>
      rw [along_concat, ← ih]
      constructor
      · intro h
        have hbefore := (tracksMax_concat.mp h).1
        have hle := hbefore.last.2 (mem_valuesAlong s es)
        exact ⟨hbefore, (exact _ e hle).mp (hbefore.concat_iff.mp h)⟩
      · rintro ⟨hbefore, hG⟩
        have hle := hbefore.last.2 (mem_valuesAlong s es)
        exact hbefore.concat_iff.mpr ((exact _ e hle).mpr hG)

end Execution

end Library
