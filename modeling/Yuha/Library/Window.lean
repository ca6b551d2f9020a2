import Mathlib.Data.List.DropRight
import Yuha.Library.Execution

/-!
# Windows over a history

A window keeps the newest values of a history, and each value that enters pushes out at most
one. Under one limit the window holds as many values as the limit allows. Under limits that
change it never becomes shorter, so a limit is kept exactly if the earlier ones left room
for it.
-/

namespace Library

open Execution

namespace Window

/-! ## Sliding -/

section Slide

variable {α : Type*} {window history : List α}

/-- A window after one more value. -/
def slide (limit : Nat) (window : List α) (x : α) : List α :=
  if limit < (window ++ [x]).length then (window ++ [x]).tail else window ++ [x]

theorem length_slide (limit : Nat) (window : List α) (x : α) :
    (slide limit window x).length =
      if limit ≤ window.length then window.length else window.length + 1 := by
  simp only [slide, List.length_append, List.length_singleton, Nat.lt_succ_iff]
  split <;> simp

/-- What is in the window was added last. -/
theorem slide_suffix (h : window <:+ history) (limit : Nat) (x : α) :
    slide limit window x <:+ history ++ [x] := by
  have hall : window ++ [x] <:+ history ++ [x] := List.suffix_append_self_iff.mpr h
  unfold slide
  split
  · exact (List.tail_suffix _).trans hall
  · exact hall

/-- Under one limit the window holds the newest values that the limit allows. -/
theorem slide_rtake (limit : Nat) (history : List α) (x : α) :
    slide limit (history.rtake limit) x = (history ++ [x]).rtake limit := by
  have hdrop : history.rtake limit ++ [x] =
      (history ++ [x]).drop (history.length - limit) :=
    (List.drop_append_of_le_length (Nat.sub_le _ _)).symm
  rw [slide, hdrop, List.rtake, List.tail_drop, List.length_drop, List.length_append,
    List.length_singleton]
  split
  · congr 1
    omega
  · congr 1
    omega

theorem rtake_min_length (limit : Nat) (history : List α) :
    history.rtake (min history.length limit) = history.rtake limit := by
  rw [List.rtake, List.rtake]
  congr 1
  omega

end Slide

/-! ## Limits that change -/

/-- The earlier limits leave room for this one: no more values were added before it, or it
is above one of them by at least the values added in between. -/
def Admits (past : List Nat) (limit : Nat) : Prop :=
  past.length ≤ limit ∨
    ∃ earlier between, earlier :: between <:+ past ∧ earlier + between.length ≤ limit

theorem admits_nil (limit : Nat) : Admits [] limit := Or.inl (Nat.zero_le limit)

theorem admits_concat {past : List Nat} {last limit : Nat} :
    Admits (past ++ [last]) limit ↔ last ≤ limit ∨ ∃ n, limit = n + 1 ∧ Admits past n := by
  constructor
  · rintro (hlength | ⟨earlier, between, hsuffix, hroom⟩)
    · rw [List.length_append, List.length_singleton] at hlength
      obtain ⟨n, rfl⟩ := Nat.exists_eq_add_of_le' (Nat.le_of_add_left_le hlength)
      exact Or.inr ⟨n, rfl, Or.inl (Nat.le_of_succ_le_succ hlength)⟩
    · obtain hnil | ⟨front, heq, hfront⟩ := List.suffix_concat_iff.mp hsuffix
      · cases hnil
      · cases front with
        | nil =>
            obtain ⟨rfl, rfl⟩ := List.cons.inj heq
            exact Or.inl hroom
        | cons first front =>
            obtain ⟨rfl, hbetween⟩ : earlier = first ∧ between = front ++ [last] :=
              List.cons.inj heq
            rw [hbetween, List.length_append, List.length_singleton] at hroom
            obtain ⟨n, rfl⟩ : ∃ n, limit = n + 1 := ⟨limit - 1, by omega⟩
            exact Or.inr ⟨n, rfl, Or.inr ⟨earlier, front, hfront, by omega⟩⟩
  · rintro (hlast | ⟨n, rfl, hlength | ⟨earlier, between, hsuffix, hroom⟩⟩)
    · exact Or.inr ⟨last, [], List.suffix_append past [last], hlast⟩
    · exact Or.inl (by simpa using hlength)
    · refine Or.inr ⟨earlier, between ++ [last], ?_, ?_⟩
      · exact List.suffix_append_self_iff.mpr hsuffix
      · rw [List.length_append, List.length_singleton]
        omega

section Limits

variable {σ ι : Type*} {step : σ → ι → σ} (size : σ → Nat) (limit : ι → Nat) {s : σ}
  {es : List ι}

/-- A run whose limits are all admitted holds as little as the limits say. -/
theorem size_run_le_iff
    (hstep : ∀ s e, size (step s e) = if limit e ≤ size s then size s else size s + 1)
    (hstart : size s = 0)
    (h : Along step (fun past _ e => Admits (past.map limit) (limit e)) s es) (m : Nat) :
    size (run step s es) ≤ m ↔ Admits (es.map limit) m := by
  induction es using List.reverseRecOn generalizing m with
  | nil => simp [hstart, admits_nil]
  | append_singleton es e ih =>
      obtain ⟨hes, hlast⟩ := along_concat.mp h
      -- the window is full, or it has room for one more
      have hbelow : size (run step s es) ≤ limit e := (ih hes _).mpr hlast
      rw [run_append, run_cons, run_nil, hstep, List.map_append, List.map_singleton,
        admits_concat]
      simp only [← ih hes]
      constructor
      · intro hle
        by_cases hlimit : limit e ≤ m
        · exact Or.inl hlimit
        · refine Or.inr ⟨m - 1, ?_, ?_⟩
          · split at hle <;> omega
          · split at hle <;> omega
      · rintro (hlimit | ⟨n, rfl, hn⟩)
        · split <;> omega
        · split <;> omega

/-- Every step keeps its limit exactly if every limit is admitted by the earlier ones. -/
theorem along_size_le_iff
    (hstep : ∀ s e, size (step s e) = if limit e ≤ size s then size s else size s + 1)
    (hstart : size s = 0) :
    Along step (fun _ s e => size (step s e) ≤ limit e) s es ↔
      Along step (fun past _ e => Admits (past.map limit) (limit e)) s es := by
  induction es using List.reverseRecOn with
  | nil => simp
  | append_singleton es e ih =>
      rw [along_concat, along_concat, ih]
      refine and_congr_right fun hes => ?_
      rw [← size_run_le_iff size limit hstep hstart hes, hstep]
      split <;> omega

end Limits

end Window

end Library
