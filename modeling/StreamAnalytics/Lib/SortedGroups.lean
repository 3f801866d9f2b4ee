import Mathlib.Data.List.Sort

/-!
# Sorting by a key, group by group

A list with distinct keys has one arrangement in ascending order of the keys.
If the list is split into groups that occupy disjoint ranges of keys, sorting the
groups by their range and each group by key, and concatenating, sorts the list.
-/

namespace StreamAnalytics

universe u v

variable {α : Type u} {κ : Type v} [LinearOrder κ] {key : α → κ} {l : List α}

/-- Sorts a list by a key. -/
def sortBy (key : α → κ) (l : List α) : List α := l.insertionSort fun a b => key a ≤ key b

instance keyTotal (key : α → κ) : Std.Total fun a b => key a ≤ key b :=
  ⟨fun a b => le_total (key a) (key b)⟩

instance keyTrans (key : α → κ) : IsTrans α fun a b => key a ≤ key b := ⟨fun _ _ _ => le_trans⟩

theorem perm_sortBy (key : α → κ) (l : List α) : (sortBy key l).Perm l :=
  List.perm_insertionSort _ l

theorem pairwise_sortBy
    (key : α → κ) (l : List α) : (sortBy key l).Pairwise fun a b => key a ≤ key b :=
  List.pairwise_insertionSort _ l

@[simp] theorem mem_sortBy {a : α} : a ∈ sortBy key l ↔ a ∈ l := (perm_sortBy key l).mem_iff

theorem sortBy_eq_nil_iff : sortBy key l = [] ↔ l = [] := by
  constructor
  · intro h
    have hperm := perm_sortBy key l
    rw [h] at hperm
    exact hperm.symm.eq_nil
  · rintro rfl
    rfl

/-- With keys that tell the elements apart, the sorted arrangement is unique. -/
theorem sortBy_eq_of_perm
    {s : List α} (hperm : s.Perm l) (hsorted : s.Pairwise fun a b => key a ≤ key b)
    (hinj : ∀ a ∈ l, ∀ b ∈ l, key a = key b → a = b) : sortBy key l = s := by
  refine List.Perm.eq_of_pairwise ?_ (pairwise_sortBy key l) hsorted
    ((perm_sortBy key l).trans hperm.symm)
  intro a b ha hb hab hba
  exact hinj a (mem_sortBy.mp ha) b (hperm.mem_iff.mp hb) (le_antisymm hab hba)

/-- Different keys are sorted in strictly ascending order. -/
theorem pairwise_lt_sortBy (h : l.Pairwise fun a b => key a ≠ key b) :
    (sortBy key l).Pairwise fun a b => key a < key b := by
  have hne : (sortBy key l).Pairwise fun a b => key a ≠ key b :=
    (perm_sortBy key l).symm.pairwise h fun {_ _} => Ne.symm
  exact ((pairwise_sortBy key l).and hne).imp fun hab => lt_of_le_of_ne hab.1 hab.2

section Groups

variable {key : α → κ} {groups : List (List α)} {rank : List α → κ}

/-- Sorting the images of groups by rank arranges them as the groups sorted by rank. -/
theorem sortBy_map_eq
    {β : Type u} {key' : β → κ} {f : List α → β} (hrank : ∀ g ∈ groups, key' (f g) = rank g)
    (hinj : ∀ g ∈ groups, ∀ g' ∈ groups, rank g = rank g' → g = g') :
    sortBy key' (groups.map f) = (sortBy rank groups).map f := by
  have hmem : ∀ g ∈ sortBy rank groups, g ∈ groups := fun g hg => mem_sortBy.mp hg
  refine sortBy_eq_of_perm ((perm_sortBy rank groups).map f) ?_ ?_
  · rw [List.pairwise_map]
    refine (pairwise_sortBy rank groups).imp_of_mem ?_
    intro g g' hg hg' hle
    rw [hrank g (hmem g hg), hrank g' (hmem g' hg')]
    exact hle
  · intro a ha b hb hab
    obtain ⟨g, hg, rfl⟩ := List.mem_map.mp ha
    obtain ⟨g', hg', rfl⟩ := List.mem_map.mp hb
    rw [hrank g hg, hrank g' hg'] at hab
    rw [hinj g hg g' hg' hab]

/-- Sorting a list group by group. -/
theorem sortBy_eq_flatten
    (hperm : groups.flatten.Perm l) (hkey : ∀ a ∈ l, ∀ b ∈ l, key a = key b → a = b)
    (hrank : ∀ g ∈ groups, ∀ g' ∈ groups, ∀ a ∈ g, ∀ b ∈ g', rank g < rank g' → key a ≤ key b)
    (hsep : groups.Pairwise fun g g' => rank g ≠ rank g') :
    sortBy key l = ((sortBy rank groups).map (sortBy key)).flatten := by
  have hmem : ∀ g ∈ sortBy rank groups, g ∈ groups := fun g hg => mem_sortBy.mp hg
  have hflat : ∀ gs : List (List α), (gs.map (sortBy key)).flatten.Perm gs.flatten := by
    intro gs
    induction gs with
    | nil => exact List.Perm.refl _
    | cons g gs ih => exact (perm_sortBy key g).append ih
  refine sortBy_eq_of_perm (((hflat _).trans (perm_sortBy rank groups).flatten).trans hperm) ?_ hkey
  rw [List.pairwise_flatten]
  constructor
  · intro s hs
    obtain ⟨g, -, rfl⟩ := List.mem_map.mp hs
    exact pairwise_sortBy key g
  · -- Sorted and with distinct ranks, the groups are in strictly ascending order.
    have hne : (sortBy rank groups).Pairwise fun g g' => rank g ≠ rank g' :=
      hsep.perm (perm_sortBy rank groups).symm fun h => h.symm
    rw [List.pairwise_map]
    refine ((pairwise_sortBy rank groups).and hne).imp_of_mem ?_
    rintro g g' hg hg' ⟨hle, hlt⟩ a ha b hb
    exact hrank g (hmem g hg) g' (hmem g' hg') a (mem_sortBy.mp ha) b (mem_sortBy.mp hb)
      (lt_of_le_of_ne hle hlt)

end Groups

end StreamAnalytics
