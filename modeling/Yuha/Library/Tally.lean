import Mathlib.Algebra.Order.BigOperators.Group.List
import Mathlib.Algebra.Order.Ring.Nat
import Yuha.Library.HashMap

/-!
# Tallies

Each entry of a list counts for some number, and the list for their sum.
-/

namespace Library

variable {α : Type*} (count : α → Nat)

def tally (l : List α) : Nat := (l.map count).sum

@[simp] theorem tally_nil : tally count [] = 0 := rfl

@[simp] theorem tally_cons (x : α) (l : List α) :
    tally count (x :: l) = count x + tally count l := by
  simp [tally]

@[simp] theorem tally_append (l more : List α) :
    tally count (l ++ more) = tally count l + tally count more := by
  simp [tally]

variable {count} {l : List α}

theorem tally_eq_zero_iff : tally count l = 0 ↔ ∀ x ∈ l, count x = 0 := by
  simp [tally, List.sum_eq_zero_iff]

variable (count) in
/-- Replacing an entry adds what the new one counts for and takes away the old one. -/
theorem tally_set {i : Nat} {x : α} (h : l[i]? = some x) (y : α) :
    tally count (l.set i y) + count x = tally count l + count y := by
  obtain ⟨hlt, rfl⟩ := List.getElem?_eq_some_iff.mp h
  have hbefore : tally count l =
      tally count (l.take i) + (count l[i] + tally count (l.drop (i + 1))) := by
    conv_lhs => rw [← List.take_append_drop i l, List.drop_eq_getElem_cons hlt]
    rw [tally_append, tally_cons]
  have hafter : tally count (l.set i y) =
      tally count (l.take i) + (count y + tally count (l.drop (i + 1))) := by
    rw [List.set_eq_take_append_cons_drop, if_pos hlt, tally_append, tally_cons]
  omega

theorem tally_le_tally {more : α → Nat} (h : ∀ x, count x ≤ more x) (l : List α) :
    tally count l ≤ tally more l := by
  induction l with
  | nil => exact Nat.le_refl 0
  | cons x l ih =>
      rw [tally_cons, tally_cons]
      exact Nat.add_le_add (h x) ih

/-! ## The values of a map -/

namespace HashMap

variable {κ ν : Type*} [DecidableEq κ] (count : ν → Nat) (m : HashMap κ ν) (k : κ)

/-- What the values of a map count for. -/
def total : Nat := tally (fun entry => count entry.2) m.entries

/-- Taking a key out takes away what its value counts for. -/
theorem total_erase_add :
    total count (AList.erase k m) + ((m.lookup k).map count).getD 0 = m.total count := by
  cases h : m.lookup k with
  | none => simp [erase_of_lookup_none h]
  | some v =>
      have hperm := (entries_perm_of_lookup h).map fun entry : (Σ _ : κ, ν) => count entry.2
      rw [total, total, tally, tally, hperm.sum_eq]
      simp [Nat.add_comm]

theorem total_insert (v : ν) :
    total count (AList.insert k v m) + ((m.lookup k).map count).getD 0 =
      m.total count + count v := by
  have herase := total_erase_add count m k
  have hentries : (AList.erase k m).entries = m.entries.kerase k := rfl
  have hinsert : total count (AList.insert k v m) = total count (AList.erase k m) + count v := by
    simp [total, AList.entries_insert, hentries, Nat.add_comm]
  omega

end HashMap

end Library
