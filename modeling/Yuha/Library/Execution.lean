import Mathlib.Data.List.Infix

/-!
# Runs of a deterministic step function

A run feeds a list of inputs to a step function. `Along` states a condition on
every step of a run, `Always` on every state it reaches. The rules below carry an
invariant along a guarded run and turn a guard that is exact for one step into a
guard that is exact for whole runs.
-/

namespace Library

namespace Execution

variable {σ ι : Type*} (step : σ → ι → σ)

/-- The state after a list of inputs. -/
def run (s : σ) (es : List ι) : σ := es.foldl step s

@[simp] theorem run_nil (s : σ) : run step s [] = s := rfl

@[simp] theorem run_cons (s : σ) (e : ι) (es : List ι) :
    run step s (e :: es) = run step (step s e) es := rfl

@[simp] theorem run_append (s : σ) (es fs : List ι) :
    run step s (es ++ fs) = run step (run step s es) fs := by
  simp [run]

/-- Every step of the run satisfies `G`, which sees the inputs before the step,
the state it starts from and its own input. -/
def Along (G : List ι → σ → ι → Prop) (s : σ) (es : List ι) : Prop :=
  ∀ past e, past ++ [e] <+: es → G past (run step s past) e

/-- Every state the run reaches, the first and the last included, satisfies `P`. -/
def Always (P : σ → Prop) (s : σ) (es : List ι) : Prop :=
  ∀ past, past <+: es → P (run step s past)

variable {step} {s : σ} {es : List ι}

@[simp] theorem along_nil {G : List ι → σ → ι → Prop} : Along step G s [] := by
  intro past e hp
  simp [List.prefix_nil] at hp

theorem along_cons {G : List ι → σ → ι → Prop} {e : ι} :
    Along step G s (e :: es) ↔
      G [] s e ∧ Along step (fun past => G (e :: past)) (step s e) es := by
  constructor
  · intro h
    refine ⟨h [] e (by simp), fun past f hp => ?_⟩
    exact h (e :: past) f (by simpa using hp)
  · rintro ⟨hfirst, hmore⟩ past f hp
    cases past with
    | nil =>
        obtain ⟨rfl, _⟩ := List.cons_prefix_cons.mp hp
        exact hfirst
    | cons e' past =>
        obtain ⟨rfl, htail⟩ := List.cons_prefix_cons.mp hp
        exact hmore past f htail

theorem along_concat {G : List ι → σ → ι → Prop} {e : ι} :
    Along step G s (es ++ [e]) ↔ Along step G s es ∧ G es (run step s es) e := by
  constructor
  · intro h
    refine ⟨fun past f hp => ?_, h es e (List.prefix_refl _)⟩
    exact h past f (hp.trans (List.prefix_append es [e]))
  · rintro ⟨hes, hlast⟩ past f hp
    rcases List.prefix_concat_iff.mp hp with heq | hp
    · obtain ⟨rfl, hf⟩ := List.append_inj' heq rfl
      obtain rfl : f = e := by simpa using hf
      exact hlast
    · exact hes past f hp

theorem Along.and {G H : List ι → σ → ι → Prop} (hG : Along step G s es)
    (hH : Along step H s es) : Along step (fun past t e => G past t e ∧ H past t e) s es :=
  fun past e he => ⟨hG past e he, hH past e he⟩

instance decidableAlways {P : σ → Prop} [DecidablePred P] (s : σ) (es : List ι) :
    Decidable (Always step P s es) :=
  decidable_of_iff (∀ past ∈ es.inits, P (run step s past)) (by simp [Always, List.mem_inits])

theorem Always.last {P : σ → Prop} (h : Always step P s es) : P (run step s es) :=
  h es (List.prefix_refl es)

theorem Always.along {P : σ → Prop} (h : Always step P s es) :
    Along step (fun _ t e => P (step t e)) s es := by
  intro past e hp
  simpa using h (past ++ [e]) hp

/-- An invariant that holds at the start and that every guarded step preserves
holds in every state a guarded run reaches. -/
theorem Along.invariant {G : List ι → σ → ι → Prop} {I : List ι → σ → Prop}
    (h : Along step G s es) (start : I [] s)
    (preserve : ∀ past t e, I past t → G past t e → I (past ++ [e]) (step t e)) :
    ∀ past, past <+: es → I past (run step s past) := by
  intro past
  induction past using List.reverseRecOn with
  | nil => exact fun _ => start
  | append_singleton past e ih =>
      intro hp
      have hpast : past <+: es := (List.prefix_append past [e]).trans hp
      simpa using preserve past _ e (ih hpast) (h past e hp)

/-- Exactness of a guard. `A` is what every step of the run is known to satisfy,
`I` an invariant that implies `P`. If a step from `I` keeps `I` when it meets the
guard and loses `P` when it does not, then a run stays in `P` exactly if all its
steps meet the guard. -/
theorem always_iff_along {A G : List ι → σ → ι → Prop} {I : List ι → σ → Prop}
    {P : σ → Prop} (known : Along step A s es) (start : I [] s)
    (sound : ∀ past t, I past t → P t)
    (keep : ∀ past t e, I past t → A past t e → G past t e → I (past ++ [e]) (step t e))
    (lose : ∀ past t e, I past t → A past t e → ¬ G past t e → ¬ P (step t e)) :
    Always step P s es ↔ Along step G s es := by
  constructor
  · intro hP
    have hnext := known.and hP.along
    have hguard : ∀ past t e, I past t → A past t e ∧ P (step t e) → G past t e :=
      fun past t e ht hAP => by_contra fun hG => lose past t e ht hAP.1 hG hAP.2
    have hI := hnext.invariant start
      fun past t e ht hAP => keep past t e ht hAP.1 (hguard past t e ht hAP)
    intro past e hp
    have hpast : past <+: es := (List.prefix_append past [e]).trans hp
    exact hguard past _ e (hI past hpast) (hnext past e hp)
  · intro hG past hp
    refine sound past _ ((known.and hG).invariant start ?_ past hp)
    intro past t e ht hAG
    exact keep past t e ht hAG.1 hAG.2

/-- Two step conditions that agree wherever an invariant of the run holds are
the same condition on the run. -/
theorem along_congr {A G H : List ι → σ → ι → Prop} {I : List ι → σ → Prop}
    (known : Along step A s es) (start : I [] s)
    (preserve : ∀ past t e, I past t → A past t e → I (past ++ [e]) (step t e))
    (agree : ∀ past t e, I past t → A past t e → (G past t e ↔ H past t e)) :
    Along step G s es ↔ Along step H s es := by
  have hI := known.invariant start preserve
  constructor
  · intro hG past e hp
    have hpast : past <+: es := (List.prefix_append past [e]).trans hp
    exact (agree past _ e (hI past hpast) (known past e hp)).mp (hG past e hp)
  · intro hH past e hp
    have hpast : past <+: es := (List.prefix_append past [e]).trans hp
    exact (agree past _ e (hI past hpast) (known past e hp)).mpr (hH past e hp)

end Execution

end Library
