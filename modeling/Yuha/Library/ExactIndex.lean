import Mathlib.Algebra.GroupWithZero.Nat
import Mathlib.Data.List.Nodup
import Yuha.Library.HashMap

/-!
# Exact indexes

An index is exact for a map from values to keys if the group of a key lists every value
of that key once and nothing else, and no group is left empty. A lookup in an exact
index then answers as a scan of the map would.
-/

namespace Library

namespace GroupedIndex

variable {κ ν α : Type*} [DecidableEq κ] [DecidableEq ν]

/-- The index lists every value under its key, once, and keeps no empty group. -/
structure Indexes (index : GroupedIndex κ ν) (keyOf : ν → Option κ) : Prop where
  mem_group : ∀ k v, v ∈ index.group k ↔ keyOf v = some k
  nodup : ∀ k, (index.group k).Nodup
  no_empty : ∀ k, index.lookup k ≠ some []

variable {index : GroupedIndex κ ν} {keyOf keyOf' : ν → Option κ}

omit [DecidableEq ν] in
theorem indexes_empty (h : ∀ v, keyOf v = none) :
    Indexes (∅ : GroupedIndex κ ν) keyOf where
  mem_group k v := by simp [h]
  nodup k := by simp
  no_empty k := by simp

omit [DecidableEq ν] in
theorem Indexes.congr (h : index.Indexes keyOf) (heq : ∀ v, keyOf' v = keyOf v) :
    index.Indexes keyOf' := by
  obtain rfl : keyOf' = keyOf := funext heq
  exact h

omit [DecidableEq ν] in
theorem lookup_push_ne_nil (h : ∀ k, index.lookup k ≠ some []) (k : κ) (v : ν) (k' : κ) :
    (index.push k v).lookup k' ≠ some [] := by
  rw [push, HashMap.lookup_insert_ite]
  split
  · simp
  · exact h k'

theorem lookup_discard_ne_nil (h : ∀ k, index.lookup k ≠ some []) (k : κ) (v : ν) (k' : κ) :
    (index.discard k v).lookup k' ≠ some [] := by
  unfold discard
  split
  · exact h k'
  · dsimp only
    split
    · rw [HashMap.lookup_erase_ite]
      split
      · simp
      · exact h k'
    · next hkept =>
        rw [HashMap.lookup_insert_ite]
        split
        · simpa using hkept
        · exact h k'

/-- Filing a value that had no key. -/
theorem Indexes.push (h : index.Indexes keyOf) {k : κ} {v : ν} (hv : keyOf v = none)
    (heq : ∀ w, keyOf' w = if w = v then some k else keyOf w) :
    (index.push k v).Indexes keyOf' where
  mem_group k' w := by
    rw [mem_group_push, h.mem_group, heq]
    by_cases hw : w = v
    · subst hw
      simp [hv, eq_comm]
    · simp [hw]
  nodup k' := by
    rw [group_push]
    split
    · refine List.nodup_append.mpr ⟨h.nodup k, by simp, ?_⟩
      rintro w hw _ hv' rfl
      obtain rfl := List.mem_singleton.mp hv'
      simp [h.mem_group, hv] at hw
    · exact h.nodup k'
  no_empty := lookup_push_ne_nil h.no_empty k v

/-- Taking a value out of the group of its key. -/
theorem Indexes.discard (h : index.Indexes keyOf) {k : κ} {v : ν} (hv : keyOf v = some k)
    (heq : ∀ w, keyOf' w = if w = v then none else keyOf w) :
    (index.discard k v).Indexes keyOf' where
  mem_group k' w := by
    rw [mem_group_discard, h.mem_group, heq]
    by_cases hw : w = v
    · subst hw
      simp [hv, eq_comm]
    · simp [hw]
  nodup k' := by
    rw [group_discard]
    split
    · exact (h.nodup k).filter _
    · exact h.nodup k'
  no_empty := lookup_discard_ne_nil h.no_empty k v

/-- Moving a value to another key, where nothing is done if the key is the same. -/
theorem Indexes.moveTo (h : index.Indexes keyOf) {k k' : κ} {v : ν} (hv : keyOf v = some k)
    (heq : ∀ w, keyOf' w = if w = v then some k' else keyOf w) :
    Indexes (if k ≠ k' then (index.discard k v).push k' v else index) keyOf' := by
  by_cases hk : k = k'
  · subst hk
    simp only [ne_eq, not_true_eq_false, if_false]
    refine h.congr fun w => ?_
    rw [heq]
    split
    · next hw => rw [hw, hv]
    · rfl
  · rw [if_pos hk]
    have hout : (index.discard k v).Indexes fun w => if w = v then none else keyOf w :=
      h.discard hv fun _ => rfl
    refine hout.push (by simp) fun w => ?_
    rw [heq]
    split <;> rfl

theorem Indexes.count (h : index.Indexes keyOf) (k : κ) (v : ν) :
    (index.group k).count v = if keyOf v = some k then 1 else 0 := by
  rw [(h.nodup k).count]
  simp only [h.mem_group]

omit [DecidableEq ν] in
theorem Indexes.lookup_eq_some (h : index.Indexes keyOf) {k : κ} {vs : List ν}
    (hk : index.lookup k = some vs) : vs.Nodup ∧ vs ≠ [] := by
  have hgroup : index.group k = vs := by simp [group, hk]
  refine ⟨hgroup ▸ h.nodup k, ?_⟩
  rintro rfl
  exact h.no_empty k hk

/-! ## An exact index over a map of owners -/

section Owners

omit [DecidableEq ν]

theorem lookup_of_mem_entries {e : Σ _ : κ, List ν} (he : e ∈ index.entries) :
    index.lookup e.1 = some e.2 :=
  AList.mem_lookup_iff.mpr he

variable [DecidableEq ν] {owner : HashMap ν α} {f : α → κ}

/-- The groups together list every owned value once. -/
theorem Indexes.flatMap_perm (h : index.Indexes fun v => (owner.lookup v).map f) :
    (index.entries.flatMap Sigma.snd).Perm owner.keys := by
  have hgroup : ∀ e ∈ index.entries, index.group e.1 = e.2 := by
    intro e he
    simp [group, lookup_of_mem_entries he]
  have hnodup : (index.entries.flatMap Sigma.snd).Nodup := by
    refine List.nodup_flatMap.mpr ⟨fun e he => hgroup e he ▸ h.nodup e.1, ?_⟩
    apply (List.pairwise_map.mp index.keys_nodup).imp_of_mem
    intro e e' he he' hne v hv hv'
    rw [← hgroup e he, h.mem_group] at hv
    rw [← hgroup e' he', h.mem_group] at hv'
    exact hne (Option.some.inj (hv.symm.trans hv'))
  refine (List.perm_ext_iff_of_nodup hnodup owner.keys_nodup).mpr fun v => ?_
  rw [← AList.mem_keys, ← AList.lookup_isSome, List.mem_flatMap]
  constructor
  · rintro ⟨e, he, hv⟩
    rw [← hgroup e he, h.mem_group] at hv
    cases hlookup : owner.lookup v with
    | none => simp [hlookup] at hv
    | some a => rfl
  · intro hv
    obtain ⟨a, ha⟩ := Option.isSome_iff_exists.mp hv
    have hmem : v ∈ index.group (f a) := (h.mem_group _ _).mpr (by simp [ha])
    cases hk : index.lookup (f a) with
    | none => simp [group, hk] at hmem
    | some vs =>
        refine ⟨⟨f a, vs⟩, AList.mem_lookup_iff.mp hk, ?_⟩
        simpa [group, hk] using hmem

/-- The group sizes add up to the number of owned values. -/
theorem Indexes.sum_length (h : index.Indexes fun v => (owner.lookup v).map f) :
    (index.entries.map fun e => e.2.length).sum = owner.size := by
  calc (index.entries.map fun e => e.2.length).sum
    _ = (index.entries.flatMap Sigma.snd).length := List.length_flatMap.symm
    _ = owner.keys.length := h.flatMap_perm.length_eq
    _ = owner.size := by simp [AList.keys, List.keys, HashMap.size]

/-- The group of a key lists the values the owners' entries file under it. -/
theorem Indexes.group_perm (h : index.Indexes fun v => (owner.lookup v).map f) (k : κ) :
    (index.group k).Perm
      ((owner.entries.filter fun e => decide (f e.2 = k)).map Sigma.fst) := by
  have hnodup : ((owner.entries.filter fun e => decide (f e.2 = k)).map Sigma.fst).Nodup :=
    owner.keys_nodup.sublist ((List.filter_sublist).map _)
  refine (List.perm_ext_iff_of_nodup (h.nodup k) hnodup).mpr fun v => ?_
  rw [h.mem_group, Option.map_eq_some_iff, List.mem_map]
  constructor
  · rintro ⟨a, ha, hk⟩
    exact ⟨⟨v, a⟩, List.mem_filter.mpr ⟨AList.mem_lookup_iff.mp ha, by simpa using hk⟩, rfl⟩
  · rintro ⟨⟨w, a⟩, he, rfl⟩
    obtain ⟨he, hk⟩ := List.mem_filter.mp he
    exact ⟨a, AList.mem_lookup_iff.mpr he, by simpa using hk⟩

/-- A lookup through the index answers as a scan of the owners, in whatever order the
scan runs. -/
theorem Indexes.filterMap_perm (h : index.Indexes fun v => (owner.lookup v).map f)
    (rank : ν → Nat) (k : κ) :
    ((index.group k).filterMap fun v => owner.lookup v).Perm
      (((owner.listing rank).map Sigma.snd).filter fun a => decide (f a = k)) := by
  have hvalue : ∀ e ∈ owner.entries.filter (fun e => decide (f e.2 = k)),
      owner.lookup e.1 = some e.2 :=
    fun e he => AList.mem_lookup_iff.mpr (List.mem_filter.mp he).1
  calc (index.group k).filterMap fun v => owner.lookup v
    List.Perm _ (((owner.entries.filter fun e => decide (f e.2 = k)).map
        Sigma.fst).filterMap fun v => owner.lookup v) := (h.group_perm k).filterMap _
    _ = (owner.entries.filter fun e => decide (f e.2 = k)).map Sigma.snd := by
      rw [List.filterMap_map, ← List.filterMap_eq_map]
      exact List.filterMap_congr hvalue
    _ = (owner.entries.map Sigma.snd).filter fun a => decide (f a = k) := by
      rw [List.filter_map]
      rfl
    List.Perm _ (((owner.listing rank).map Sigma.snd).filter fun a => decide (f a = k)) :=
      (((HashMap.listing_perm rank owner).map _).filter _).symm

end Owners

end GroupedIndex

end Library
