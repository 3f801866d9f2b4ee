import Mathlib.Data.List.Perm.Basic

/-!
# Binary heaps in an array

The operations of Go's `container/heap` on an array and a comparison.  Each of them
only swaps elements, so whatever the comparison is, pushing adds the element and
popping removes one (`perm_push`, `perm_of_pop`).
-/

namespace StreamAnalytics
namespace BinaryHeap

universe u

variable {α : Type u} (less : α → α → Bool)

/-- `h.Less(i, j)`. -/
def lessAt (xs : Array α) (i j : Nat) : Bool :=
  match xs[i]?, xs[j]? with
  | some a, some b => less a b
  | _, _ => false

/-- `up`; every round moves to the parent, so `fuel` is never used up. -/
def up (xs : Array α) : (fuel j : Nat) → Array α
  | 0, _ => xs
  | fuel + 1, j =>
    let i := (j - 1) / 2
    if i = j ∨ lessAt less xs j i = false then xs
    else up (xs.swapIfInBounds i j) fuel i

/-- The child with which `down` compares its element. -/
def smallerChild (xs : Array α) (n i : Nat) : Nat :=
  if 2 * i + 2 < n ∧ lessAt less xs (2 * i + 2) (2 * i + 1) = true then 2 * i + 2
  else 2 * i + 1

/-- `down`; every round moves to a child, so `fuel` is never used up. -/
def down (xs : Array α) (n : Nat) : (fuel i : Nat) → Array α
  | 0, _ => xs
  | fuel + 1, i =>
    if n ≤ 2 * i + 1 then xs
    else if lessAt less xs (smallerChild less xs n i) i = false then xs
    else
      down (xs.swapIfInBounds i (smallerChild less xs n i)) n fuel (smallerChild less xs n i)

/-- `heap.Push`. -/
def push (xs : Array α) (x : α) : Array α := up less (xs.push x) (xs.size + 1) xs.size

/-- `heap.Pop`; an empty heap has nothing to pop. -/
def pop (xs : Array α) : Option (α × Array α) :=
  let ys := down less (xs.swapIfInBounds 0 (xs.size - 1)) (xs.size - 1) xs.size 0
  match ys.back? with
  | none => none
  | some x => some (x, ys.pop)

variable {less}

theorem perm_swapIfInBounds (xs : Array α) (i j : Nat) : (xs.swapIfInBounds i j).Perm xs := by
  unfold Array.swapIfInBounds
  split
  · split
    · exact Array.swap_perm _ _
    · exact .refl _
  · exact .refl _

theorem perm_up (xs : Array α) (fuel j : Nat) : (up less xs fuel j).Perm xs := by
  induction fuel generalizing xs j with
  | zero => exact .refl _
  | succ fuel ih =>
    unfold up
    dsimp only
    split
    · exact .refl _
    · exact (ih _ _).trans (perm_swapIfInBounds _ _ _)

theorem perm_down (xs : Array α) (n fuel i : Nat) : (down less xs n fuel i).Perm xs := by
  induction fuel generalizing xs i with
  | zero => exact .refl _
  | succ fuel ih =>
    unfold down
    split
    · exact .refl _
    · split
      · exact .refl _
      · exact (ih _ _).trans (perm_swapIfInBounds _ _ _)

/-- Pushing adds the element. -/
theorem perm_push (less : α → α → Bool) (xs : Array α) (x : α) :
    (push less xs x).toList.Perm (x :: xs.toList) := by
  have hperm : (push less xs x).toList.Perm (xs.push x).toList := (perm_up _ _ _).toList
  rw [Array.toList_push] at hperm
  exact hperm.trans (List.perm_append_singleton x xs.toList)

/-- Popping removes the element it returns. -/
theorem perm_of_pop {xs ys : Array α} {x : α} (h : pop less xs = some (x, ys)) :
    (x :: ys.toList).Perm xs.toList := by
  unfold pop at h
  dsimp only at h
  have hperm : (down less (xs.swapIfInBounds 0 (xs.size - 1)) (xs.size - 1) xs.size 0).Perm xs :=
    (perm_down _ _ _ _).trans (perm_swapIfInBounds xs 0 (xs.size - 1))
  generalize down less (xs.swapIfInBounds 0 (xs.size - 1)) (xs.size - 1) xs.size 0 = zs at h hperm
  split at h
  · cases h
  · rename_i y hback
    cases h
    have hlast : zs.toList.getLast? = some x := by
      rw [Array.getLast?_toList]
      exact hback
    obtain ⟨front, hfront⟩ := List.getLast?_eq_some_iff.mp hlast
    rw [Array.toList_pop, hfront, List.dropLast_concat]
    refine (List.perm_append_singleton x front).symm.trans ?_
    rw [← hfront]
    exact hperm.toList

end BinaryHeap
end StreamAnalytics
