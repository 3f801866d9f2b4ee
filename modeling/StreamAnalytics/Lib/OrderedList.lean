import Mathlib.Order.Lattice
import Mathlib.Data.List.Basic

/-!
# Ordered lists as ordered sets

A B-tree that is a correct ordered set is represented by the list of its elements
in ascending order.  The operations compare elements with a Boolean `less`, as the
tree does; `Compares` says that on the elements that occur `less` compares keys in
a linear order.  Two elements with the same key are the same element for the tree,
so inserting replaces.
-/

namespace StreamAnalytics
namespace OrderedList

universe u v

variable {α : Type u} {κ : Type v}

/-- The first key comes before the second one in a list of the given direction. -/
def Ahead [LT κ] (desc : Bool) (p q : κ) : Prop := if desc then q < p else p < q

section Ahead

variable [LinearOrder κ] {desc : Bool} {p q r : κ}

theorem ahead_of_not_ahead_of_ne (h : ¬ Ahead desc q p) (hne : p ≠ q) : Ahead desc p q := by
  cases desc with
  | false => exact lt_of_le_of_ne (not_lt.mp h) hne
  | true => exact lt_of_le_of_ne (not_lt.mp h) hne.symm

theorem Ahead.trans_not_ahead (h : Ahead desc p q) (h' : ¬ Ahead desc r q) : Ahead desc p r := by
  cases desc with
  | false => exact lt_of_lt_of_le h (not_lt.mp h')
  | true => exact lt_of_le_of_lt (not_lt.mp h') h

theorem Ahead.ne (h : Ahead desc p q) : p ≠ q := by
  rintro rfl
  cases desc with
  | false => exact lt_irrefl p h
  | true => exact lt_irrefl p h

end Ahead

/-- Inserts an element, or replaces the element with the same key. -/
def replaceOrInsert (less : α → α → Bool) (x : α) : List α → List α
  | [] => [x]
  | y :: ys =>
    if less x y then x :: y :: ys
    else if less y x then y :: replaceOrInsert less x ys
    else x :: ys

/-- Removes the element with the same key. -/
def delete (less : α → α → Bool) (x : α) : List α → List α
  | [] => []
  | y :: ys =>
    if less x y then y :: ys
    else if less y x then y :: delete less x ys
    else ys

/-- On the elements of `P`, the comparison is the order of the keys. -/
def Compares [LinearOrder κ] (P : α → Prop) (key : α → κ) (less : α → α → Bool) : Prop :=
  ∀ a b, P a → P b → (less a b = true ↔ key a < key b)

/-- Strictly ascending keys. -/
def Ascending [LinearOrder κ] (key : α → κ) (l : List α) : Prop :=
  l.Pairwise fun a b => key a < key b

section Operations

variable [LinearOrder κ] {P : α → Prop} {key : α → κ} {less : α → α → Bool} {x y : α} {l : List α}

theorem forall_mem_replaceOrInsert
    {Q : α → Prop} (hx : Q x) (hl : ∀ y ∈ l, Q y) : ∀ y ∈ replaceOrInsert less x l, Q y := by
  induction l with
  | nil => simpa [replaceOrInsert] using hx
  | cons z zs ih =>
    have hzs : ∀ y ∈ zs, Q y := fun y hy => hl y (List.mem_cons_of_mem z hy)
    have hz : Q z := hl z List.mem_cons_self
    unfold replaceOrInsert
    split_ifs
    · simpa [hx, hz] using hzs
    · simpa [hz] using ih hzs
    · simpa [hx] using hzs

theorem delete_sublist : (delete less x l).Sublist l := by
  induction l with
  | nil => exact .slnil
  | cons z zs ih =>
    unfold delete
    split_ifs
    · exact List.Sublist.refl _
    · exact ih.cons_cons z
    · exact List.sublist_cons_self z zs

theorem ascending_delete (hl : Ascending key l) : Ascending key (delete less x l) :=
  hl.sublist delete_sublist

theorem ascending_replaceOrInsert
    (h : Compares P key less) (hx : P x) (hP : ∀ y ∈ l, P y) (hl : Ascending key l) :
    Ascending key (replaceOrInsert less x l) := by
  induction l with
  | nil => exact List.pairwise_singleton _ x
  | cons z zs ih =>
    obtain ⟨hz, hzs⟩ := List.pairwise_cons.mp hl
    have hPz : P z := hP z List.mem_cons_self
    have hPzs : ∀ y ∈ zs, P y := fun y hy => hP y (List.mem_cons_of_mem z hy)
    unfold replaceOrInsert
    split_ifs with hxz hzx
    · have hkey : key x < key z := (h x z hx hPz).mp hxz
      refine List.pairwise_cons.mpr ⟨?_, hl⟩
      intro y hy
      rcases List.mem_cons.mp hy with rfl | hy
      · exact hkey
      · exact hkey.trans (hz y hy)
    · have hkey : key z < key x := (h z x hPz hx).mp hzx
      exact List.pairwise_cons.mpr ⟨forall_mem_replaceOrInsert hkey hz, ih hPzs hzs⟩
    · -- Neither key is below the other, so they are equal.
      have hkey : key x = key z := by
        refine le_antisymm (not_lt.mp fun hlt => hzx ?_) (not_lt.mp fun hlt => hxz ?_)
        · exact (h z x hPz hx).mpr hlt
        · exact (h x z hx hPz).mpr hlt
      exact List.pairwise_cons.mpr ⟨fun y hy => hkey ▸ hz y hy, hzs⟩

/-- Inserting above all elements appends. -/
theorem replaceOrInsert_eq_append
    (h : Compares P key less) (hx : P x) (hP : ∀ y ∈ l, P y) (hlt : ∀ y ∈ l, key y < key x) :
    replaceOrInsert less x l = l ++ [x] := by
  induction l with
  | nil => rfl
  | cons z zs ih =>
    have hPz : P z := hP z List.mem_cons_self
    have hkey := hlt z List.mem_cons_self
    have hxz : less x z = false := by
      rw [← Bool.not_eq_true, h x z hx hPz]
      exact hkey.not_gt
    have hzx : less z x = true := (h z x hPz hx).mpr hkey
    rw [replaceOrInsert, hxz, hzx, List.cons_append,
      ← ih (fun y hy => hP y (List.mem_cons_of_mem z hy))
        fun y hy => hlt y (List.mem_cons_of_mem z hy)]
    simp

/-- Inserting the elements of an ascending list one by one builds that list. -/
theorem foldl_replaceOrInsert (h : Compares P key less) {kept : List α} (hP : ∀ y ∈ l ++ kept, P y)
    (hl : Ascending key (l ++ kept)) :
    kept.foldl (fun tree x => replaceOrInsert less x tree) l = l ++ kept := by
  induction kept generalizing l with
  | nil => simp
  | cons x xs ih =>
    have hassoc : l ++ x :: xs = l ++ [x] ++ xs := by simp
    obtain ⟨-, -, hcross⟩ := List.pairwise_append.mp hl
    rw [List.foldl_cons, replaceOrInsert_eq_append h (hP x (by simp))
      (fun y hy => hP y (by simp [hy])) fun y hy => hcross y hy x List.mem_cons_self]
    rw [hassoc] at hP hl ⊢
    exact ih hP hl

end Operations

end OrderedList
end StreamAnalytics
