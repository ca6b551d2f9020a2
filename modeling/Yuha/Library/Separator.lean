import Mathlib.Data.List.Basic
import Mathlib.Data.List.Count

/-!
# Texts joined by a separator

A text that was joined from two parts by a separator can be cut again if it is known how
often the separator occurs in the first part, or if it does not occur in the second.
-/

namespace Library

variable {α : Type*} [DecidableEq α] {front front' back back' : List α} {separator : α}

theorem parts_eq_of_count (h : front ++ separator :: back = front' ++ separator :: back')
    (hcount : front.count separator = front'.count separator) :
    front = front' ∧ back = back' := by
  rcases List.append_eq_append_iff.mp h with ⟨between, hfront, hback⟩ | ⟨between, hfront, hback⟩
  · cases between with
    | nil => exact ⟨by simpa using hfront.symm, (List.cons.inj hback).2⟩
    | cons c between =>
        obtain ⟨rfl, _⟩ := List.cons.inj hback
        simp [hfront] at hcount
  · cases between with
    | nil => exact ⟨by simpa using hfront, (List.cons.inj hback).2.symm⟩
    | cons c between =>
        obtain ⟨rfl, _⟩ := List.cons.inj hback
        simp [hfront] at hcount

theorem parts_eq_of_notMem (h : front ++ separator :: back = front' ++ separator :: back')
    (hback : separator ∉ back) (hback' : separator ∉ back') :
    front = front' ∧ back = back' := by
  apply parts_eq_of_count h
  have hcount := congrArg (List.count separator) h
  simpa [List.count_eq_zero_of_not_mem hback, List.count_eq_zero_of_not_mem hback'] using hcount

omit [DecidableEq α] in
/-- Lists whose entries agree under two functions that tell entries apart together. -/
theorem map_inj_of_pair {β γ : Type*} {f : α → β} {g : α → γ}
    (hpair : ∀ a a', f a = f a' → g a = g a' → a = a') {as as' : List α}
    (hf : as.map f = as'.map f) (hg : as.map g = as'.map g) : as = as' := by
  induction as generalizing as' with
  | nil => simpa using hf.symm
  | cons a as ih =>
      cases as' with
      | nil => simp at hf
      | cons a' as' =>
          obtain ⟨hfirst, hf⟩ := List.cons.inj hf
          obtain ⟨hsecond, hg⟩ := List.cons.inj hg
          rw [hpair a a' hfirst hsecond, ih hf hg]

/-! ## Decimal numbers -/

theorem toDigits_injective : Function.Injective (Nat.toDigits 10) :=
  Function.LeftInverse.injective (g := fun digits => Nat.ofDigitChars 10 digits 0)
    fun _ => Nat.ofDigitChars_ten_toDigits

theorem notMem_toDigits {c : Char} (hc : c.isDigit = false) (n : Nat) :
    c ∉ Nat.toDigits 10 n := by
  intro hmem
  have hdigit := Nat.isDigit_of_mem_toDigits (by decide) (by decide) hmem
  rw [hc] at hdigit
  cases hdigit

end Library
