import Mathlib.Data.List.Basic

/-!
# Lines

A line goes up to the next terminator, which belongs to it. What comes after the last
terminator is a line, too, unless it is empty.
-/

namespace Library

variable {α : Type*} {terminator : α} {front back : List α}

/-- The terminator after `front` is in the first part of a text, or in the rest. -/
theorem append_eq_append_cons {first rest : List α}
    (h : first ++ rest = front ++ terminator :: back) :
    (∃ more : List α, first = front ++ terminator :: more ∧ more ++ rest = back) ∨
      ∃ more : List α, front = first ++ more ∧ rest = more ++ terminator :: back := by
  rcases List.append_eq_append_iff.mp h with ⟨more, hfront, hrest⟩ | ⟨more, hfirst, hback⟩
  · exact Or.inr ⟨more, hfront, hrest⟩
  · cases more with
    | nil =>
        rw [List.append_nil] at hfirst
        rw [List.nil_append] at hback
        exact Or.inr ⟨[], by rw [hfirst, List.append_nil], hback.symm⟩
    | cons b more =>
        obtain ⟨rfl, hmore⟩ := List.cons.inj hback
        exact Or.inl ⟨more, hfirst, hmore.symm⟩

variable [DecidableEq α]

def lines (terminator : α) : List α → List (List α)
  | [] => []
  | a :: rest =>
      if a = terminator then [a] :: lines terminator rest
      else
        match lines terminator rest with
        | [] => [[a]]
        | line :: more => (a :: line) :: more

/-- The first line, if it is ended by a terminator, and what follows it. -/
def cutLine (terminator : α) : List α → Option (List α × List α)
  | [] => none
  | a :: rest =>
      if a = terminator then some ([a], rest)
      else (cutLine terminator rest).map fun cut => (a :: cut.1, cut.2)

theorem lines_append_cons (h : terminator ∉ front) :
    lines terminator (front ++ terminator :: back) =
      (front ++ [terminator]) :: lines terminator back := by
  induction front with
  | nil => simp [lines]
  | cons a front ih =>
      obtain ⟨hne, hfront⟩ := not_or.mp (mt List.mem_cons.mpr h)
      simp [lines, Ne.symm hne, ih hfront]

/-- Texts that are each ended by a terminator are the lines of the text they make up. -/
theorem lines_flatMap {ι : Type*} {text : ι → List α} (parts : List ι)
    (h : ∀ part ∈ parts, terminator ∉ text part) :
    lines terminator (parts.flatMap fun part => text part ++ [terminator]) =
      parts.map fun part => text part ++ [terminator] := by
  induction parts with
  | nil => rfl
  | cons part parts ih =>
      obtain ⟨hpart, hparts⟩ := List.forall_mem_cons.mp h
      rw [List.flatMap_cons, List.append_assoc, List.singleton_append, lines_append_cons hpart,
        ih hparts, List.map_cons]

theorem cutLine_append_cons (h : terminator ∉ front) :
    cutLine terminator (front ++ terminator :: back) = some (front ++ [terminator], back) := by
  induction front with
  | nil => simp [cutLine]
  | cons a front ih =>
      obtain ⟨hne, hfront⟩ := not_or.mp (mt List.mem_cons.mpr h)
      simp [cutLine, Ne.symm hne, ih hfront]

theorem append_of_cutLine {text : List α} {cut : List α × List α}
    (h : cutLine terminator text = some cut) : cut.1 ++ cut.2 = text := by
  induction text generalizing cut with
  | nil => cases h
  | cons a text ih =>
      rw [cutLine] at h
      split at h
      · cases h
        rfl
      · obtain ⟨more, hmore, rfl⟩ := Option.map_eq_some_iff.mp h
        exact congrArg (List.cons a) (ih hmore)

theorem cutLine_eq_none (h : terminator ∉ front) : cutLine terminator front = none := by
  induction front with
  | nil => rfl
  | cons a front ih =>
      obtain ⟨hne, hfront⟩ := not_or.mp (mt List.mem_cons.mpr h)
      simp [cutLine, Ne.symm hne, ih hfront]

end Library
