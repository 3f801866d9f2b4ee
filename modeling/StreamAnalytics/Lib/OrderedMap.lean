import Mathlib.Data.List.Perm.Basic
import Mathlib.Data.List.Pairwise
import StreamAnalytics.Lib.OrderedList

/-!
# Ordered lists as maps

An ascending list is the ordered listing of a map from keys to elements: the element
with a key, if there is one.  Inserting and deleting write to this map at one key, and
an ascending list is determined by its map.
-/

namespace StreamAnalytics
namespace OrderedList

open Function

universe u v

variable {α : Type u} {κ : Type v} [LinearOrder κ] {P : α → Prop} {key : α → κ}
  {less : α → α → Bool} {x y : α} {l l' : List α}

/-- The element with a key. -/
def contents (key : α → κ) (l : List α) (k : κ) : Option α := l.find? fun x => key x = k

/-! ## Membership -/

/-- Elements that do not compare have one key. -/
theorem Compares.key_eq (h : Compares P key less) (hx : P x) (hy : P y)
    (hxy : ¬ less x y = true) (hyx : ¬ less y x = true) : key x = key y := by
  refine le_antisymm (not_lt.mp fun hlt => hyx ?_) (not_lt.mp fun hlt => hxy ?_)
  · exact (h y x hy hx).mpr hlt
  · exact (h x y hx hy).mpr hlt

theorem mem_delete (h : Compares P key less) (hx : P x) (hP : ∀ y ∈ l, P y) (hl : Ascending key l) :
    y ∈ delete less x l ↔ y ∈ l ∧ key y ≠ key x := by
  induction l with
  | nil => simp [delete]
  | cons z zs ih =>
    obtain ⟨hz, hzs⟩ := List.pairwise_cons.mp hl
    obtain ⟨hPz, hPzs⟩ := List.forall_mem_cons.mp hP
    unfold delete
    split_ifs with hxz hzx
    · have hkey : key x < key z := (h x z hx hPz).mp hxz
      refine (and_iff_left_of_imp fun hy => ?_).symm
      rcases List.mem_cons.mp hy with rfl | hy
      · exact hkey.ne'
      · exact (hkey.trans (hz y hy)).ne'
    · have hkey : key z < key x := (h z x hPz hx).mp hzx
      rw [List.mem_cons, ih hPzs hzs, List.mem_cons]
      constructor
      · rintro (rfl | ⟨hy, hne⟩)
        · exact ⟨.inl rfl, hkey.ne⟩
        · exact ⟨.inr hy, hne⟩
      · rintro ⟨rfl | hy, hne⟩
        · exact .inl rfl
        · exact .inr ⟨hy, hne⟩
    · have hkey := h.key_eq hx hPz hxz hzx
      rw [List.mem_cons]
      constructor
      · intro hy
        exact ⟨.inr hy, by rw [hkey]; exact (hz y hy).ne'⟩
      · rintro ⟨rfl | hy, hne⟩
        · exact absurd hkey.symm hne
        · exact hy

/-- Inserting puts the element in place of the one it deletes. -/
theorem perm_replaceOrInsert : (replaceOrInsert less x l).Perm (x :: delete less x l) := by
  induction l with
  | nil => exact .refl _
  | cons z zs ih =>
    unfold replaceOrInsert delete
    split_ifs
    · exact .refl _
    · exact (ih.cons z).trans (.swap x z _)
    · exact .refl _

theorem mem_replaceOrInsert
    (h : Compares P key less) (hx : P x) (hP : ∀ y ∈ l, P y) (hl : Ascending key l) :
    y ∈ replaceOrInsert less x l ↔ y = x ∨ y ∈ l ∧ key y ≠ key x := by
  rw [perm_replaceOrInsert.mem_iff, List.mem_cons, mem_delete h hx hP hl]

/-! ## Contents -/

theorem Ascending.nodup (hl : Ascending key l) : l.Nodup :=
  hl.imp fun hlt heq => hlt.ne (congrArg key heq)

theorem Ascending.eq_of_key_eq
    (hl : Ascending key l) (hx : x ∈ l) (hy : y ∈ l) (hkey : key x = key y) : x = y := by
  by_contra hne
  have hsymm : Std.Symm fun a b : α => key a ≠ key b := ⟨fun _ _ h => h.symm⟩
  exact (hl.imp fun hlt => hlt.ne).forall hx hy hne hkey

theorem Ascending.contents_eq_some_iff
    (hl : Ascending key l) {k : κ} : contents key l k = some x ↔ x ∈ l ∧ key x = k := by
  constructor
  · intro h
    exact ⟨List.mem_of_find?_eq_some h, by simpa using List.find?_some h⟩
  · rintro ⟨hx, rfl⟩
    have hsome : (contents key l (key x)).isSome := List.find?_isSome.mpr ⟨x, hx, by simp⟩
    obtain ⟨y, hy⟩ := Option.isSome_iff_exists.mp hsome
    have hkey : key y = key x := by simpa using List.find?_some hy
    rw [hy, hl.eq_of_key_eq (List.mem_of_find?_eq_some hy) hx hkey]

/-- An ascending list is determined by its contents. -/
theorem Ascending.ext (hl : Ascending key l) (hl' : Ascending key l')
    (h : ∀ k, contents key l k = contents key l' k) : l = l' := by
  have hmem : ∀ x, x ∈ l ↔ x ∈ l' := by
    intro x
    have hx := hl.contents_eq_some_iff (x := x) (k := key x)
    have hx' := hl'.contents_eq_some_iff (x := x) (k := key x)
    rw [h] at hx
    simpa using hx.symm.trans hx'
  refine List.Perm.eq_of_pairwise ?_ hl hl'
    ((List.perm_ext_iff_of_nodup hl.nodup hl'.nodup).mpr hmem)
  intro a b _ _ hab hba
  exact absurd hab hba.not_gt

/-- A list that holds `o` in place of the elements with the key `k` writes `o` at `k`. -/
theorem Ascending.contents_eq_update
    (hl : Ascending key l) (hl' : Ascending key l') {k : κ} {o : Option α}
    (ho : ∀ y, o = some y → key y = k) (hmem : ∀ y, y ∈ l' ↔ o = some y ∨ y ∈ l ∧ key y ≠ k) :
    contents key l' = update (contents key l) k o := by
  refine funext fun k' => Option.ext fun y => ?_
  rw [hl'.contents_eq_some_iff, hmem]
  by_cases hk : k' = k
  · subst hk
    rw [update_self]
    constructor
    · rintro ⟨hy | ⟨-, hne⟩, hkey⟩
      · exact hy
      · exact absurd hkey hne
    · intro hy
      exact ⟨.inl hy, ho y hy⟩
  · rw [update_of_ne hk, hl.contents_eq_some_iff]
    constructor
    · rintro ⟨hy | ⟨hy, -⟩, hkey⟩
      · exact absurd (hkey.symm.trans (ho y hy)) hk
      · exact ⟨hy, hkey⟩
    · rintro ⟨hy, hkey⟩
      exact ⟨.inr ⟨hy, fun heq => hk (hkey.symm.trans heq)⟩, hkey⟩

/-- Inserting writes the element at its key. -/
theorem contents_replaceOrInsert
    (h : Compares P key less) (hx : P x) (hP : ∀ y ∈ l, P y) (hl : Ascending key l) :
    contents key (replaceOrInsert less x l) =
      update (contents key l) (key x) (some x) := by
  refine hl.contents_eq_update (ascending_replaceOrInsert h hx hP hl) ?_ fun y => ?_
  · rintro y ⟨⟩
    rfl
  · rw [mem_replaceOrInsert h hx hP hl, Option.some.injEq, eq_comm]

/-- Deleting clears the key. -/
theorem contents_delete
    (h : Compares P key less) (hx : P x) (hP : ∀ y ∈ l, P y) (hl : Ascending key l) :
    contents key (delete less x l) = update (contents key l) (key x) none := by
  refine hl.contents_eq_update (ascending_delete hl) nofun fun y => ?_
  simp [mem_delete h hx hP hl]

end OrderedList
end StreamAnalytics
