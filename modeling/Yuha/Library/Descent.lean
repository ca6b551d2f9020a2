import Yuha.Library.Execution

/-!
# Runs that come to an end

Every move takes something off a measure, and there is a move as long as something is left.
Then moves made in whatever order can be carried on to the end, and are no more than the
measure says.
-/

namespace Library

namespace Execution

variable {σ ι : Type*}

/-- What the moves of a system must satisfy to come to an end. -/
structure Descends (step : σ → ι → σ) (I : σ → Prop) (Moves : σ → ι → Prop)
    (measure : σ → Nat) : Prop where
  keeps : ∀ s e, I s → Moves s e → I (step s e)
  less : ∀ s e, I s → Moves s e → measure (step s e) < measure s
  goesOn : ∀ s, I s → measure s ≠ 0 → ∃ e, Moves s e

namespace Descends

variable {step : σ → ι → σ} {I : σ → Prop} {Moves : σ → ι → Prop} {measure : σ → Nat}
  {s : σ} {es : List ι}

theorem invariant_run (h : Descends step I Moves measure) (hs : I s)
    (moves : Along step (fun _ => Moves) s es) : I (run step s es) := by
  induction es generalizing s with
  | nil => exact hs
  | cons e es ih =>
      obtain ⟨hfirst, hmore⟩ := along_cons.mp moves
      exact ih (h.keeps s e hs hfirst) hmore

theorem measure_run_add_length_le (h : Descends step I Moves measure) (hs : I s)
    (moves : Along step (fun _ => Moves) s es) :
    measure (run step s es) + es.length ≤ measure s := by
  induction es generalizing s with
  | nil => exact Nat.le_refl _
  | cons e es ih =>
      obtain ⟨hfirst, hmore⟩ := along_cons.mp moves
      have hless := h.less s e hs hfirst
      have hrest := ih (h.keeps s e hs hfirst) hmore
      simp only [run_cons, List.length_cons]
      omega

theorem exists_run (h : Descends step I Moves measure) (hs : I s) :
    ∃ es, Along step (fun _ => Moves) s es ∧ measure (run step s es) = 0 := by
  induction hn : measure s using Nat.strong_induction_on generalizing s with
  | _ n ih =>
      by_cases hzero : measure s = 0
      · exact ⟨[], along_nil, hzero⟩
      · obtain ⟨e, hmove⟩ := h.goesOn s hs hzero
        obtain ⟨es, hmoves, hend⟩ :=
          ih _ (hn ▸ h.less s e hs hmove) (h.keeps s e hs hmove) rfl
        exact ⟨e :: es, along_cons.mpr ⟨hmove, hmoves⟩, hend⟩

/-- Whatever moves were made, some more come to the end, and all of them are bounded. -/
theorem completes (h : Descends step I Moves measure) (hs : I s)
    (moves : Along step (fun _ => Moves) s es) :
    ∃ more, Along step (fun _ => Moves) s (es ++ more) ∧
      measure (run step s (es ++ more)) = 0 ∧ (es ++ more).length ≤ measure s := by
  obtain ⟨more, hmore, hend⟩ := h.exists_run (h.invariant_run hs moves)
  have hall : Along step (fun _ => Moves) s (es ++ more) := by
    clear hend
    induction es generalizing s with
    | nil => exact hmore
    | cons e es ih =>
        obtain ⟨hfirst, hrest⟩ := along_cons.mp moves
        exact along_cons.mpr ⟨hfirst, ih (h.keeps s e hs hfirst) hrest hmore⟩
  have hlength := h.measure_run_add_length_le hs hall
  exact ⟨more, hall, run_append step s es more ▸ hend, by omega⟩

end Descends

end Execution

end Library
