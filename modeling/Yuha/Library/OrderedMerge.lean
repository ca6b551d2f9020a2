import Mathlib.Data.List.Perm.Basic

/-!
# Merging two sequences in order

What arrives from two sources, one after the other in any order, keeps the order of each.
-/

namespace Library

variable {α : Type*}

/-- The third list has the elements of the first two, each once and in order. -/
inductive OrderedMerge : List α → List α → List α → Prop
  | nil : OrderedMerge [] [] []
  | fromLeft {xs ys zs : List α} (h : OrderedMerge xs ys zs) (x : α) :
      OrderedMerge (xs ++ [x]) ys (zs ++ [x])
  | fromRight {xs ys zs : List α} (h : OrderedMerge xs ys zs) (y : α) :
      OrderedMerge xs (ys ++ [y]) (zs ++ [y])

/-- A merge has what the two sequences have. -/
theorem OrderedMerge.perm {xs ys zs : List α} (h : OrderedMerge xs ys zs) :
    zs.Perm (xs ++ ys) := by
  induction h with
  | nil => rfl
  | @fromLeft xs ys zs h x ih =>
      calc List.Perm (zs ++ [x]) ([x] ++ zs) := List.perm_append_comm
        List.Perm _ ([x] ++ (xs ++ ys)) := ih.append_left [x]
        _ = ([x] ++ xs) ++ ys := (List.append_assoc ..).symm
        List.Perm _ ((xs ++ [x]) ++ ys) := List.perm_append_comm.append_right ys
  | @fromRight xs ys zs h y ih =>
      calc List.Perm (zs ++ [y]) ((xs ++ ys) ++ [y]) := ih.append_right [y]
        _ = xs ++ (ys ++ [y]) := List.append_assoc ..

end Library
