import Mathlib.Data.List.AList
import Mathlib.Data.List.Induction
import Mathlib.Data.List.Sort

/-!
# Hash maps

A finite map, a listing of it in an order the map does not determine, and an index
that groups values under keys and keeps no empty group.
-/

namespace Library

/-- A finite map. Its entries are stored in some order; `listing` is what a program
sees when it iterates. -/
abbrev HashMap (κ ν : Type*) := AList fun _ : κ => ν

namespace HashMap

variable {κ ν : Type*} [DecidableEq κ]

/-- Two maps are compared by their entries, which evaluates. -/
instance [DecidableEq ν] : DecidableEq (HashMap κ ν) := fun m m' =>
  decidable_of_iff (m.entries = m'.entries) AList.ext_iff.symm

def size (m : HashMap κ ν) : Nat := m.entries.length

/-- The entries in the order of a rank. Every order of the entries is the listing
by some rank, so a statement for all ranks covers every iteration order. -/
def listing (rank : κ → Nat) (m : HashMap κ ν) : List (Σ _ : κ, ν) :=
  m.entries.insertionSort fun a b => rank a.1 ≤ rank b.1

theorem lookup_insert_ite (m : HashMap κ ν) (k k' : κ) (v : ν) :
    (AList.insert k v m).lookup k' = if k' = k then some v else m.lookup k' := by
  by_cases h : k' = k
  · subst h
    simp
  · simp [h, AList.lookup_insert_ne h]

theorem lookup_erase_ite (m : HashMap κ ν) (k k' : κ) :
    (AList.erase k m).lookup k' = if k' = k then none else m.lookup k' := by
  by_cases h : k' = k
  · subst h
    simp
  · simp [h, AList.lookup_erase_ne h]

/-- To change what is not there changes nothing. -/
theorem ite_map_of_none {g : κ → Option ν} {k : κ} (h : g k = none) (f : ν → ν) (k' : κ) :
    (if k' = k then (g k').map f else g k') = g k' := by
  by_cases hk : k' = k
  · subst hk
    simp [h]
  · simp [hk]

omit [DecidableEq κ] in
theorem listing_perm (rank : κ → Nat) (m : HashMap κ ν) :
    (m.listing rank).Perm m.entries :=
  List.perm_insertionSort _ _

theorem mem_listing (rank : κ → Nat) (m : HashMap κ ν) (k : κ) (v : ν) :
    ⟨k, v⟩ ∈ m.listing rank ↔ m.lookup k = some v := by
  rw [(listing_perm rank m).mem_iff]
  exact (AList.mem_lookup_iff (s := m)).symm

omit [DecidableEq κ] in
theorem nodup_keys_listing (rank : κ → Nat) (m : HashMap κ ν) :
    ((m.listing rank).map Sigma.fst).Nodup :=
  ((listing_perm rank m).map Sigma.fst).nodup_iff.mpr m.keys_nodup

/-- No iteration order is left out. -/
theorem exists_listing_eq (m : HashMap κ ν) (order : List (Σ _ : κ, ν))
    (h : order.Perm m.entries) : ∃ rank, m.listing rank = order := by
  let rank : κ → Nat := fun k => (order.map Sigma.fst).idxOf k
  refine ⟨rank, ?_⟩
  have hkeys : (order.map Sigma.fst).Nodup :=
    (h.map Sigma.fst).nodup_iff.mpr m.keys_nodup
  have hsorted : order.Pairwise fun a b => rank a.1 ≤ rank b.1 := by
    rw [List.pairwise_iff_getElem]
    intro i j hi hj hij
    have hrank : ∀ n (hn : n < order.length), rank (order[n]).1 = n := by
      intro n hn
      have := hkeys.idxOf_getElem n (by simpa using hn)
      simpa [rank] using this
    rw [hrank i hi, hrank j hj]
    exact hij.le
  let order' : (Σ _ : κ, ν) → (Σ _ : κ, ν) → Prop := fun a b => rank a.1 ≤ rank b.1
  have : Std.Total order' := ⟨fun a b => le_total (rank a.1) (rank b.1)⟩
  have : IsTrans _ order' := ⟨fun a b c => le_trans⟩
  have hperm : (m.listing rank).Perm order := (listing_perm rank m).trans h.symm
  refine hperm.eq_of_pairwise ?_ (List.pairwise_insertionSort order' m.entries) hsorted
  intro a b ha hb hab hba
  have ha' : a ∈ order := hperm.mem_iff.mp ha
  have hfst : a.1 = b.1 :=
    (List.idxOf_inj (List.mem_map_of_mem ha')).mp (le_antisymm hab hba)
  exact List.inj_on_of_nodup_map hkeys ha' hb hfst

/-- The map with these entries, inserted one after the other. -/
def ofEntries (entries : List (Σ _ : κ, ν)) : HashMap κ ν :=
  entries.foldl (fun m entry => AList.insert entry.1 entry.2 m) ∅

theorem ofEntries_concat (entries : List (Σ _ : κ, ν)) (k : κ) (v : ν) :
    ofEntries (entries ++ [⟨k, v⟩]) = AList.insert k v (ofEntries entries) := by
  simp [ofEntries]

theorem lookup_ofEntries_iff {entries : List (Σ _ : κ, ν)}
    (hkeys : (entries.map Sigma.fst).Nodup) (k : κ) (v : ν) :
    (ofEntries entries).lookup k = some v ↔ ⟨k, v⟩ ∈ entries := by
  induction entries using List.reverseRecOn with
  | nil => simp [ofEntries]
  | append_singleton entries entry ih =>
      obtain ⟨k', v'⟩ := entry
      rw [List.map_append, List.nodup_append] at hkeys
      obtain ⟨hkeys, -, hnew⟩ := hkeys
      rw [ofEntries_concat, lookup_insert_ite, List.mem_append, List.mem_singleton, ← ih hkeys]
      by_cases h : k = k'
      · subst h
        have hnone : (ofEntries entries).lookup k ≠ some v := by
          rw [ne_eq, ih hkeys]
          exact fun hmem => hnew k (List.mem_map_of_mem hmem) k (by simp) rfl
        simp [hnone, eq_comm]
      · simp [h]

/-- A copy made by iterating has the same entries. -/
theorem lookup_ofEntries_listing (rank : κ → Nat) (m : HashMap κ ν) (k : κ) :
    (ofEntries (m.listing rank)).lookup k = m.lookup k := by
  ext v
  rw [lookup_ofEntries_iff (nodup_keys_listing rank m), mem_listing]

/-- The number of values that satisfy a predicate. -/
def count (p : ν → Bool) (m : HashMap κ ν) : Nat := m.entries.countP fun entry => p entry.2

theorem erase_of_lookup_none {m : HashMap κ ν} {k : κ} (h : m.lookup k = none) :
    AList.erase k m = m := by
  apply AList.ext
  exact List.kerase_of_notMem_keys (AList.lookup_eq_none.mp h)

theorem entries_perm_of_lookup {m : HashMap κ ν} {k : κ} {v : ν} (h : m.lookup k = some v) :
    m.entries.Perm (⟨k, v⟩ :: (AList.erase k m).entries) := by
  have hk : k ∈ m.entries.keys := AList.lookup_isSome.mp (by simp [h])
  obtain ⟨v', before, after, _, hentries, herase⟩ := List.exists_of_kerase hk
  have hv : m.lookup k = some v' := by
    rw [← Option.mem_def, AList.mem_lookup_iff, hentries]
    simp
  obtain rfl : v = v' := Option.some.inj (h.symm.trans hv)
  calc m.entries
    _ = before ++ ⟨k, v⟩ :: after := hentries
    List.Perm _ (⟨k, v⟩ :: (before ++ after)) := List.perm_middle
    _ = ⟨k, v⟩ :: (AList.erase k m).entries := congrArg _ herase.symm

/-- Taking a key out lowers the count by its value's share. -/
theorem count_erase_add (p : ν → Bool) (m : HashMap κ ν) (k : κ) :
    count p (AList.erase k m) + (if (m.lookup k).any p then 1 else 0) = m.count p := by
  cases h : m.lookup k with
  | none => simp [erase_of_lookup_none h]
  | some v =>
      rw [count, count, (entries_perm_of_lookup h).countP_eq]
      simp [List.countP_cons]

theorem count_insert (p : ν → Bool) (m : HashMap κ ν) (k : κ) (v : ν) :
    count p (AList.insert k v m) =
      count p (AList.erase k m) + if p v then 1 else 0 := by
  have herase : (AList.erase k m).entries = m.entries.kerase k := rfl
  simp [count, AList.entries_insert, herase, List.countP_cons]

omit [DecidableEq κ] in
theorem count_true (m : HashMap κ ν) : m.count (fun _ => true) = m.size := by
  simp [count, size]

/-- There are no more entries that satisfy a predicate than keys they can have. -/
theorem count_le_length {p : ν → Bool} {m : HashMap κ ν} {keys : List κ}
    (h : ∀ k v, m.lookup k = some v → p v = true → k ∈ keys) : m.count p ≤ keys.length := by
  have hnodup : ((m.entries.filter fun entry => p entry.2).map Sigma.fst).Nodup :=
    ((List.filter_sublist (l := m.entries)).map Sigma.fst).nodup m.keys_nodup
  have hsubset : (m.entries.filter fun entry => p entry.2).map Sigma.fst ⊆ keys := by
    intro k hk
    obtain ⟨⟨k', v⟩, hentry, rfl⟩ := List.mem_map.mp hk
    obtain ⟨hmem, hp⟩ := List.mem_filter.mp hentry
    exact h k' v ((AList.mem_lookup_iff (s := m)).mpr hmem) hp
  calc
    m.count p = ((m.entries.filter fun entry => p entry.2).map Sigma.fst).length := by
      rw [count, List.length_map, List.countP_eq_length_filter]
    _ ≤ keys.length := (List.subperm_of_subset hnodup hsubset).length_le

omit [DecidableEq κ] in
/-- Predicates that exclude each other count different entries. -/
theorem count_add_count_le {p q : ν → Bool} (h : ∀ v, p v = true → q v = false)
    (m : HashMap κ ν) : m.count p + m.count q ≤ m.size := by
  have hq : m.entries.countP (fun entry => q entry.2) ≤
      m.entries.countP fun entry => !p entry.2 := by
    refine List.countP_mono_left fun entry _ hq => ?_
    cases hp : p entry.2 with
    | false => rfl
    | true => simp [h _ hp] at hq
  have hlength := List.length_eq_countP_add_countP (fun entry => p entry.2) (l := m.entries)
  simp only [Bool.not_eq_true, Bool.decide_eq_false] at hlength
  simp only [count, size]
  omega

theorem size_insert (m : HashMap κ ν) (k : κ) (v : ν) :
    size (AList.insert k v m) = if m.lookup k = none then m.size + 1 else m.size := by
  rw [← count_true, ← count_true, count_insert, ← count_erase_add _ m k]
  cases m.lookup k <;> simp

theorem size_erase_add (m : HashMap κ ν) (k : κ) :
    size (AList.erase k m) + (if m.lookup k = none then 0 else 1) = m.size := by
  rw [← count_true, ← count_true, ← count_erase_add _ m k]
  cases m.lookup k <;> simp

end HashMap

/-- An index of values by key. -/
abbrev GroupedIndex (κ ν : Type*) := HashMap κ (List ν)

namespace GroupedIndex

variable {κ ν : Type*} [DecidableEq κ] [DecidableEq ν]

/-- The values under a key. -/
def group (index : GroupedIndex κ ν) (k : κ) : List ν :=
  (index.lookup k).getD []

/-- Append a value to the group of a key, which is made if it is missing. -/
def push (index : GroupedIndex κ ν) (k : κ) (v : ν) : GroupedIndex κ ν :=
  AList.insert k (index.group k ++ [v]) index

/-- Take every occurrence of a value out of the group of a key, and the group out of
the index if that empties it. -/
def discard (index : GroupedIndex κ ν) (k : κ) (v : ν) : GroupedIndex κ ν :=
  match index.lookup k with
  | none => index
  | some vs =>
      let kept := vs.filter fun w => decide (w ≠ v)
      if kept.isEmpty then AList.erase k index else AList.insert k kept index

omit [DecidableEq ν] in
@[simp] theorem group_empty (k : κ) : group (∅ : GroupedIndex κ ν) k = [] := by
  simp [group]

omit [DecidableEq ν] in
theorem group_push (index : GroupedIndex κ ν) (k k' : κ) (v : ν) :
    (index.push k v).group k' =
      if k' = k then index.group k ++ [v] else index.group k' := by
  unfold push
  rw [group, HashMap.lookup_insert_ite]
  split <;> rfl

theorem group_discard (index : GroupedIndex κ ν) (k k' : κ) (v : ν) :
    (index.discard k v).group k' =
      if k' = k then (index.group k).filter fun w => decide (w ≠ v) else index.group k' := by
  unfold discard
  cases hk : index.lookup k with
  | none =>
      by_cases h : k' = k
      · subst h
        simp [group, hk]
      · simp [h]
  | some vs =>
      by_cases hempty : (vs.filter fun w => decide (w ≠ v)).isEmpty
      · simp only [hempty, if_true]
        rw [group, HashMap.lookup_erase_ite]
        split
        · simpa [group, hk] using hempty
        · rfl
      · simp only [Bool.not_eq_true] at hempty
        simp only [hempty, Bool.false_eq_true, if_false]
        rw [group, HashMap.lookup_insert_ite]
        split
        · simp [group, hk]
        · rfl

omit [DecidableEq ν] in
theorem mem_group_push (index : GroupedIndex κ ν) (k k' : κ) (v w : ν) :
    w ∈ (index.push k v).group k' ↔ w ∈ index.group k' ∨ (k' = k ∧ w = v) := by
  rw [group_push]
  by_cases h : k' = k
  · subst h
    simp
  · simp [h]

theorem mem_group_discard (index : GroupedIndex κ ν) (k k' : κ) (v w : ν) :
    w ∈ (index.discard k v).group k' ↔ w ∈ index.group k' ∧ ¬ (k' = k ∧ w = v) := by
  rw [group_discard]
  by_cases h : k' = k
  · subst h
    simp
  · simp [h]

end GroupedIndex

end Library
