import Yuha.Library.HashMap

/-!
# Indexes that lag behind

A map changes at once, its index in a section of its own later. Until then the index may
miss a value that is still to be filed, and list one that is still to be taken out.
-/

namespace Library

namespace GroupedIndex

variable {κ ν : Type*} [DecidableEq κ] [DecidableEq ν]

/-- What the index lists is right or still to be dropped, what it misses is still to be
pushed, and what is to be pushed is right or to be dropped after all. -/
structure Lags (index : GroupedIndex κ ν) (keyOf : ν → Option κ) (toPush toDrop : κ → ν → Prop) :
    Prop where
  listed : ∀ k v, v ∈ index.group k → keyOf v = some k ∨ toDrop k v
  owned : ∀ k v, keyOf v = some k → v ∈ index.group k ∨ toPush k v
  pushing : ∀ k v, toPush k v → keyOf v = some k ∨ toDrop k v

variable {index : GroupedIndex κ ν} {keyOf keyOf' : ν → Option κ}
  {toPush toPush' toDrop toDrop' : κ → ν → Prop}

omit [DecidableEq ν] in
theorem lags_empty (hkey : ∀ v, keyOf v = none) (hpush : ∀ k v, ¬ toPush k v) :
    Lags (∅ : GroupedIndex κ ν) keyOf toPush toDrop where
  listed k v h := by simp at h
  owned k v h := by simp [hkey] at h
  pushing k v h := absurd h (hpush k v)

omit [DecidableEq ν] in
/-- When nothing is to be done any more, the index is right. -/
theorem Lags.mem_group_iff (h : index.Lags keyOf toPush toDrop) (hpush : ∀ k v, ¬ toPush k v)
    (hdrop : ∀ k v, ¬ toDrop k v) (k : κ) (v : ν) : v ∈ index.group k ↔ keyOf v = some k :=
  ⟨fun hmem => (h.listed k v hmem).resolve_right (hdrop k v),
    fun hkey => (h.owned k v hkey).resolve_right (hpush k v)⟩

omit [DecidableEq ν] in
theorem Lags.congr (h : index.Lags keyOf toPush toDrop) (hkey : ∀ v, keyOf' v = keyOf v)
    (hpush : ∀ k v, toPush' k v ↔ toPush k v) (hdrop : ∀ k v, toDrop' k v ↔ toDrop k v) :
    index.Lags keyOf' toPush' toDrop' := by
  obtain rfl : keyOf' = keyOf := funext hkey
  obtain rfl : toPush' = toPush := funext fun k => funext fun v => propext (hpush k v)
  obtain rfl : toDrop' = toDrop := funext fun k => funext fun v => propext (hdrop k v)
  exact h

/-- A value enters the map, and is to be filed. -/
theorem Lags.enter (h : index.Lags keyOf toPush toDrop) {k : κ} {v : ν} (hv : keyOf v = none)
    (hkey : ∀ w, keyOf' w = if w = v then some k else keyOf w)
    (hpush : ∀ k' w, toPush' k' w ↔ toPush k' w ∨ k' = k ∧ w = v) :
    index.Lags keyOf' toPush' toDrop := by
  have hold : ∀ k' w, keyOf w = some k' → keyOf' w = some k' := by
    intro k' w hw
    rw [hkey, if_neg fun heq => ?_, hw]
    rw [heq, hv] at hw
    cases hw
  refine ⟨fun k' w hmem => ?_, fun k' w hw => ?_, fun k' w hw => ?_⟩
  · exact (h.listed k' w hmem).imp_left (hold k' w)
  · rw [hkey] at hw
    split at hw
    · next heq =>
        obtain rfl := Option.some.inj hw
        exact Or.inr ((hpush k w).mpr (Or.inr ⟨rfl, heq⟩))
    · exact (h.owned k' w hw).imp_right fun hpushed => (hpush k' w).mpr (Or.inl hpushed)
  · rcases (hpush k' w).mp hw with hpushed | ⟨rfl, rfl⟩
    · exact (h.pushing k' w hpushed).imp_left (hold k' w)
    · exact Or.inl (by simp [hkey])

omit [DecidableEq ν] in
/-- A value is filed. -/
theorem Lags.push (h : index.Lags keyOf toPush toDrop) {k : κ} {v : ν}
    (hpush : ∀ k' w, toPush k' w ↔ toPush' k' w ∨ k' = k ∧ w = v) :
    (index.push k v).Lags keyOf toPush' toDrop := by
  refine ⟨fun k' w hmem => ?_, fun k' w hw => ?_, fun k' w hw => ?_⟩
  · rcases (mem_group_push index k k' v w).mp hmem with hmem | ⟨rfl, rfl⟩
    · exact h.listed k' w hmem
    · exact h.pushing k' w ((hpush k' w).mpr (Or.inr ⟨rfl, rfl⟩))
  · rw [mem_group_push]
    rcases h.owned k' w hw with hmem | hpushed
    · exact Or.inl (Or.inl hmem)
    · exact ((hpush k' w).mp hpushed).symm.imp_left Or.inr
  · exact h.pushing k' w ((hpush k' w).mpr (Or.inl hw))

/-- A value leaves the map, and is to be taken out of the index. -/
theorem Lags.leave (h : index.Lags keyOf toPush toDrop) {k : κ} {v : ν} (hv : keyOf v = some k)
    (hkey : ∀ w, keyOf' w = if w = v then none else keyOf w)
    (hdrop : ∀ k' w, toDrop' k' w ↔ toDrop k' w ∨ k' = k ∧ w = v) :
    index.Lags keyOf' toPush toDrop' := by
  have hold : ∀ k' w, keyOf w = some k' → keyOf' w = some k' ∨ toDrop' k' w := by
    intro k' w hw
    rw [hkey]
    split
    · next heq =>
        rw [heq, hv] at hw
        obtain rfl := Option.some.inj hw
        exact Or.inr ((hdrop k w).mpr (Or.inr ⟨rfl, heq⟩))
    · exact Or.inl hw
  have hstill : ∀ k' w, toDrop k' w → toDrop' k' w := fun k' w hw => (hdrop k' w).mpr (Or.inl hw)
  refine ⟨fun k' w hmem => ?_, fun k' w hw => ?_, fun k' w hw => ?_⟩
  · exact (h.listed k' w hmem).elim (hold k' w) fun hw => Or.inr (hstill k' w hw)
  · rw [hkey] at hw
    split at hw
    · cases hw
    · exact h.owned k' w hw
  · exact (h.pushing k' w hw).elim (hold k' w) fun hw => Or.inr (hstill k' w hw)

/-- A value is taken out of the index, and nobody is about to put it back there. -/
theorem Lags.discard (h : index.Lags keyOf toPush toDrop) {k : κ} {v : ν} (hv : keyOf v ≠ some k)
    (hpush : ¬ toPush k v) (hdrop : ∀ k' w, toDrop k' w ↔ toDrop' k' w ∨ k' = k ∧ w = v) :
    (index.discard k v).Lags keyOf toPush toDrop' := by
  refine ⟨fun k' w hmem => ?_, fun k' w hw => ?_, fun k' w hw => ?_⟩
  · obtain ⟨hmem, hne⟩ := (mem_group_discard index k k' v w).mp hmem
    exact (h.listed k' w hmem).imp_right fun hw => ((hdrop k' w).mp hw).resolve_right hne
  · rw [mem_group_discard]
    refine (h.owned k' w hw).imp_left fun hmem => ⟨hmem, ?_⟩
    rintro ⟨rfl, rfl⟩
    exact hv hw
  · refine (h.pushing k' w hw).imp_right fun hdropped =>
      ((hdrop k' w).mp hdropped).resolve_right ?_
    rintro ⟨rfl, rfl⟩
    exact hpush hw

/-- A value moves to another key, in the map and in the index at once. Nobody is about to
take it out of the index, or to file it under its old key. -/
theorem Lags.moveTo (h : index.Lags keyOf toPush toDrop) {k k' : κ} {v : ν}
    (hv : keyOf v = some k) (hkey : ∀ w, keyOf' w = if w = v then some k' else keyOf w)
    (hdrop : ∀ key, ¬ toDrop key v) (hpush : k ≠ k' → ¬ toPush k v) :
    Lags (if k ≠ k' then (index.discard k v).push k' v else index) keyOf' toPush toDrop := by
  by_cases hk : k = k'
  · subst hk
    simp only [ne_eq, not_true_eq_false, if_false]
    refine h.congr (fun w => ?_) (fun _ _ => Iff.rfl) fun _ _ => Iff.rfl
    rw [hkey]
    split
    · next hw => rw [hw, hv]
    · rfl
  rw [if_pos hk]
  have hmem : ∀ key w, w ∈ ((index.discard k v).push k' v).group key ↔
      w ∈ index.group key ∧ ¬ (key = k ∧ w = v) ∨ key = k' ∧ w = v := by
    intro key w
    rw [mem_group_push, mem_group_discard]
  refine ⟨fun key w hw => ?_, fun key w hw => ?_, fun key w hw => ?_⟩
  · rcases (hmem key w).mp hw with ⟨hw, hne⟩ | ⟨rfl, rfl⟩
    · rcases h.listed key w hw with hkept | hdropped
      · refine Or.inl ((hkey w).trans ((if_neg ?_).trans hkept))
        rintro rfl
        exact hne ⟨Option.some.inj (hkept.symm.trans hv), rfl⟩
      · exact Or.inr hdropped
    · exact Or.inl (by simp [hkey])
  · rw [hmem]
    rw [hkey] at hw
    split at hw
    · next heq => exact Or.inl (Or.inr ⟨(Option.some.inj hw).symm, heq⟩)
    · next hne =>
        exact (h.owned key w hw).imp_left fun hw => Or.inl ⟨hw, fun heq => hne heq.2⟩
  · rcases h.pushing key w hw with hkept | hdropped
    · refine Or.inl ((hkey w).trans ((if_neg ?_).trans hkept))
      rintro rfl
      obtain rfl := Option.some.inj (hkept.symm.trans hv)
      exact hpush hk hw
    · exact Or.inr hdropped

end GroupedIndex

end Library
