import Mathlib.Data.List.Induction
import Mathlib.Order.Lattice

/-!
# The first best element of a list

A loop goes over a list and keeps the best element so far with its score. An element
without a score is skipped, and one that is only as good as the best so far does not
replace it. The loop starts with a score that is lower than any.
-/

namespace Library

variable {α β : Type*} [LinearOrder β] {score : α → Option β} {start : β}

/-- One turn of the loop. -/
def keepBest (score : α → Option β) (best : Option α × β) (a : α) : Option α × β :=
  match score a with
  | none => best
  | some s => if best.2 < s then (some a, s) else best

/-- No element before this one is as good, and none after it is better. -/
def IsFirstBest (score : α → Option β) (as : List α) (a : α) (s : β) : Prop :=
  score a = some s ∧ ∃ front back : List α, as = front ++ a :: back ∧
    (∀ b ∈ front, ∀ t, score b = some t → t < s) ∧ ∀ b ∈ back, ∀ t, score b = some t → t ≤ s

namespace IsFirstBest

variable {as : List α} {a b : α} {s t : β}

theorem mem (h : IsFirstBest score as a s) : a ∈ as := by
  obtain ⟨_, front, back, rfl, _⟩ := h
  simp

theorem le (h : IsFirstBest score as a s) (hmem : b ∈ as) (hb : score b = some t) : t ≤ s := by
  obtain ⟨ha, front, back, rfl, hfront, hback⟩ := h
  rcases List.mem_append.mp hmem with hmem | hmem
  · exact (hfront b hmem t hb).le
  · rcases List.mem_cons.mp hmem with rfl | hmem
    · exact (Option.some.inj (hb.symm.trans ha)).le
    · exact hback b hmem t hb

/-- The score is the same, and whichever came later would follow its equal. -/
theorem unique (h : IsFirstBest score as a s) (h' : IsFirstBest score as b t) : a = b := by
  have hscore : s = t := le_antisymm (h'.le h.mem h.1) (h.le h'.mem h'.1)
  subst hscore
  obtain ⟨ha, front, back, rfl, hfront, _⟩ := h
  obtain ⟨hb, front', back', heq, hfront', _⟩ := h'
  rcases List.append_eq_append_iff.mp heq with ⟨between, hinit, htail⟩ | ⟨between, hinit, htail⟩
  · cases between with
    | nil => exact (List.cons.inj htail).1
    | cons c between =>
        obtain ⟨rfl, _⟩ := List.cons.inj htail
        exact absurd (hfront' a (by simp [hinit]) s ha) (lt_irrefl s)
  · cases between with
    | nil => exact (List.cons.inj htail).1.symm
    | cons c between =>
        obtain ⟨rfl, _⟩ := List.cons.inj htail
        exact absurd (hfront b (by simp [hinit]) s hb) (lt_irrefl s)

/-- An element that is not better changes nothing. -/
theorem append_singleton (h : IsFirstBest score as a s) (hb : ∀ t, score b = some t → t ≤ s) :
    IsFirstBest score (as ++ [b]) a s := by
  obtain ⟨ha, front, back, rfl, hfront, hback⟩ := h
  refine ⟨ha, front, back ++ [b], by simp, hfront, fun c hc => ?_⟩
  rcases List.mem_append.mp hc with hc | hc
  · exact hback c hc
  · exact List.mem_singleton.mp hc ▸ hb

/-- An element that is better than all before it is the first best of them. -/
theorem last (ha : score a = some s) (hfront : ∀ b ∈ as, ∀ t, score b = some t → t < s) :
    IsFirstBest score (as ++ [a]) a s :=
  ⟨ha, as, [], rfl, hfront, by simp⟩

end IsFirstBest

/-- What the loop has found so far. -/
theorem foldl_keepBest (hstart : ∀ a s, score a = some s → start < s) (as : List α) :
    (as.foldl (keepBest score) (none, start) = (none, start) ∧ ∀ a ∈ as, score a = none) ∨
      ∃ (a : α) (s : β), as.foldl (keepBest score) (none, start) = (some a, s) ∧
        IsFirstBest score as a s := by
  induction as using List.reverseRecOn with
  | nil => exact Or.inl ⟨rfl, by simp⟩
  | append_singleton as b ih =>
      rw [List.foldl_append, List.foldl_cons, List.foldl_nil, keepBest]
      rcases ih with ⟨hbest, hnone⟩ | ⟨a, s, hbest, hfirst⟩
      · rw [hbest]
        cases hb : score b with
        | none =>
            refine Or.inl ⟨rfl, fun c hc => ?_⟩
            rcases List.mem_append.mp hc with hc | hc
            · exact hnone c hc
            · exact List.mem_singleton.mp hc ▸ hb
        | some t =>
            refine Or.inr ⟨b, t, if_pos (hstart b t hb), .last hb fun c hc u hu => ?_⟩
            exact absurd (hu.symm.trans (hnone c hc)) (by simp)
      · rw [hbest]
        cases hb : score b with
        | none => exact Or.inr ⟨a, s, rfl, hfirst.append_singleton (by simp [hb])⟩
        | some t =>
            by_cases hbetter : s < t
            · refine Or.inr ⟨b, t, if_pos hbetter, .last hb fun c hc u hu => ?_⟩
              exact (hfirst.le hc hu).trans_lt hbetter
            · refine Or.inr ⟨a, s, if_neg hbetter, hfirst.append_singleton fun u hu => ?_⟩
              obtain rfl := Option.some.inj (hb.symm.trans hu)
              exact not_lt.mp hbetter

theorem foldl_keepBest_eq_none_iff (hstart : ∀ a s, score a = some s → start < s)
    (as : List α) :
    (as.foldl (keepBest score) (none, start)).1 = none ↔ ∀ a ∈ as, score a = none := by
  rcases foldl_keepBest hstart as with ⟨hbest, hnone⟩ | ⟨a, s, hbest, hfirst⟩
  · exact iff_of_true (by rw [hbest]) hnone
  · refine iff_of_false (by simp [hbest]) fun hnone => ?_
    exact absurd (hfirst.1.symm.trans (hnone a hfirst.mem)) (by simp)

theorem foldl_keepBest_eq_some_iff (hstart : ∀ a s, score a = some s → start < s)
    (as : List α) (a : α) :
    (as.foldl (keepBest score) (none, start)).1 = some a ↔
      ∃ s, IsFirstBest score as a s := by
  rcases foldl_keepBest hstart as with ⟨hbest, hnone⟩ | ⟨b, s, hbest, hfirst⟩
  · refine iff_of_false (by simp [hbest]) ?_
    rintro ⟨s, hfirst⟩
    exact absurd (hfirst.1.symm.trans (hnone a hfirst.mem)) (by simp)
  · rw [hbest, Option.some.injEq]
    constructor
    · rintro rfl
      exact ⟨s, hfirst⟩
    · rintro ⟨t, hfirst'⟩
      exact hfirst.unique hfirst'

end Library
