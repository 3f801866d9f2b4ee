import Mathlib.Data.List.Basic
import Mathlib.Data.Nat.ModEq

/-!
# Ring buffers

A ring is a buffer of fixed length with the position of its first element and the
number of its elements.  The elements follow each other from the first one on, from
the end of the buffer round to its start.  A slot that is given up is overwritten with
a zero value.

`toList` is the list of the elements.  The operations on the ring are the operations
on this list: adding at the end, dropping the first element, reading and removing an
element at a position.
-/

namespace StreamAnalytics

universe u

/-- A ring; the position of the first element is one of the buffer. -/
structure Ring (α : Type u) where
  buf : List α
  head : Nat
  count : Nat
  head_lt : head < buf.length
  count_le : count ≤ buf.length

namespace Ring

variable {α : Type u} {r : Ring α} {i : Nat}

/-- The length of the buffer. -/
def cap (r : Ring α) : Nat := r.buf.length

theorem cap_pos (r : Ring α) : 0 < r.cap := Nat.zero_lt_of_lt r.head_lt

/-- The place in the buffer of the element `i` places after the first. -/
def slot (r : Ring α) (i : Nat) : Nat := (r.head + i) % r.cap

/-- Adds an element after the last. -/
def pushBack (r : Ring α) (x : α) (h : r.count < r.cap) : Ring α where
  buf := r.buf.set (r.slot r.count) x
  head := r.head
  count := r.count + 1
  head_lt := by rw [List.length_set]; exact r.head_lt
  count_le := by rw [List.length_set]; exact h

@[simp] theorem cap_pushBack {x : α} {h : r.count < r.cap} : (r.pushBack x h).cap = r.cap :=
  List.length_set

/-! ## Elements -/

theorem slot_lt (r : Ring α) (i : Nat) : r.slot i < r.buf.length := Nat.mod_lt _ r.cap_pos

/-- Places that differ by less than the length of the buffer are different slots. -/
theorem slot_inj
    {head cap j : Nat} (hi : i < cap) (hj : j < cap) (h : (head + i) % cap = (head + j) % cap) :
    i = j := by
  have hmod : i ≡ j [MOD cap] := Nat.ModEq.add_left_cancel' head h
  rwa [Nat.ModEq, Nat.mod_eq_of_lt hi, Nat.mod_eq_of_lt hj] at hmod

variable [Inhabited α]

/-- The empty ring. -/
def create (capacity : Nat) (h : 0 < capacity) : Ring α where
  buf := List.replicate capacity default
  head := 0
  count := 0
  head_lt := by rwa [List.length_replicate]
  count_le := Nat.zero_le _

/-- The element `i` places after the first. -/
def get (r : Ring α) (i : Nat) : α := r.buf.getD (r.slot i) default

/-- The elements, from the first on. -/
def toList (r : Ring α) : List α := (List.range r.count).map r.get

/-- Clears the slot of the first element and moves on. -/
def dropFront (r : Ring α) : Ring α where
  buf := r.buf.set r.head default
  head := (r.head + 1) % r.cap
  count := r.count - 1
  head_lt := by
    rw [List.length_set]
    exact Nat.mod_lt _ (Nat.zero_lt_of_lt r.head_lt)
  count_le := by
    rw [List.length_set]
    exact (Nat.sub_le _ _).trans r.count_le

/-- Moves the `n` elements after place `j` one place to the front. -/
def shift (head cap : Nat) : Nat → Nat → List α → List α
  | 0, _, buf => buf
  | n + 1, j, buf =>
    shift head cap n (j + 1)
      (buf.set ((head + j) % cap) (buf.getD ((head + j + 1) % cap) default))

theorem length_shift
    (head cap n j : Nat) (buf : List α) : (shift head cap n j buf).length = buf.length := by
  induction n generalizing j buf with
  | zero => rfl
  | succ n ih => rw [shift, ih, List.length_set]

/-- Removes an element by moving the elements after it; the last slot is cleared. -/
def closeGap (r : Ring α) (i : Nat) : Ring α where
  buf := (shift r.head r.cap (r.count - 1 - i) i r.buf).set (r.slot (r.count - 1)) default
  head := r.head
  count := r.count - 1
  head_lt := by
    rw [List.length_set, length_shift]
    exact r.head_lt
  count_le := by
    rw [List.length_set, length_shift]
    exact (Nat.sub_le _ _).trans r.count_le

/-- Removes the element at a place. -/
def removeAt (r : Ring α) (i : Nat) : Ring α := if i = 0 then r.dropFront else r.closeGap i

section ToList

variable (r : Ring α)

@[simp] theorem length_toList : r.toList.length = r.count := by
  rw [toList, List.length_map, List.length_range]

theorem getElem?_toList (h : i < r.count) : r.toList[i]? = some (r.get i) := by
  rw [toList, List.getElem?_map, List.getElem?_range h, Option.map_some]

/-- Two rings with the same elements at the same places have the same list. -/
theorem toList_eq_of
    {l : List α} (hlength : l.length = r.count) (hat : ∀ i < r.count, l[i]? = some (r.get i)) :
    r.toList = l := by
  refine List.ext_getElem? fun i => ?_
  by_cases hi : i < r.count
  · rw [getElem?_toList r hi, hat i hi]
  · rw [List.getElem?_eq_none (by simpa using hi), List.getElem?_eq_none (by omega)]

end ToList

theorem getD_set {buf : List α} {j : Nat} {x : α} (hi : i < buf.length) :
    (buf.set i x).getD j default = if i = j then x else buf.getD j default := by
  rw [List.getD_eq_getElem?_getD, List.getElem?_set, List.getD_eq_getElem?_getD]
  split_ifs <;> simp

/-! ## Operations -/

@[simp] theorem cap_create
    {capacity : Nat} {h : 0 < capacity} : (create capacity h : Ring α).cap = capacity :=
  List.length_replicate

@[simp] theorem cap_dropFront : r.dropFront.cap = r.cap := List.length_set

@[simp] theorem cap_closeGap : (r.closeGap i).cap = r.cap :=
  List.length_set.trans (length_shift _ _ _ _ _)

@[simp] theorem cap_removeAt : (r.removeAt i).cap = r.cap := by
  unfold removeAt
  split_ifs
  · exact cap_dropFront
  · exact cap_closeGap

@[simp] theorem toList_pushBack
    {x : α} {h : r.count < r.cap} : (r.pushBack x h).toList = r.toList ++ [x] := by
  have hat : ∀ i, (r.pushBack x h).get i =
      if r.slot r.count = r.slot i then x else r.get i := by
    intro i
    have hslot : (r.pushBack x h).slot i = r.slot i := by
      unfold slot
      rw [cap_pushBack]
      rfl
    rw [get, hslot]
    exact getD_set (r.slot_lt _)
  refine toList_eq_of _ (by simp [pushBack]) fun i hi => ?_
  rw [hat]
  have hcount : i ≤ r.count := Nat.le_of_lt_succ hi
  by_cases heq : i = r.count
  · subst heq
    rw [if_pos rfl, List.getElem?_append_right (by simp)]
    simp
  · have hlt : i < r.count := lt_of_le_of_ne hcount heq
    have hne : r.slot r.count ≠ r.slot i := fun hslot =>
      heq (slot_inj (hlt.trans h) h hslot.symm)
    rw [if_neg hne, List.getElem?_append_left (by simpa using hlt), getElem?_toList r hlt]

theorem toList_dropFront : r.dropFront.toList = r.toList.tail := by
  have hat : ∀ i, i + 1 < r.count → r.dropFront.get i = r.get (i + 1) := by
    intro i hi
    have hslot : r.dropFront.slot i = r.slot (i + 1) := by
      unfold slot
      rw [cap_dropFront]
      change ((r.head + 1) % r.cap + i) % r.cap = _
      rw [Nat.mod_add_mod]
      congr 1
      omega
    have hne : r.head ≠ r.slot (i + 1) := by
      intro heq
      have hcap : i + 1 < r.cap := hi.trans_le r.count_le
      have hzero : (r.head + 0) % r.cap = (r.head + (i + 1)) % r.cap := by
        rw [Nat.add_zero, Nat.mod_eq_of_lt (show r.head < r.cap from r.head_lt)]
        exact heq
      exact absurd (slot_inj r.cap_pos hcap hzero) (by omega)
    rw [get, hslot]
    exact (getD_set r.head_lt).trans (if_neg hne)
  refine toList_eq_of _ (by simp [dropFront]) fun i hi => ?_
  have hi' : i + 1 < r.count := by
    simp only [dropFront] at hi
    omega
  rw [hat i hi', List.getElem?_tail, getElem?_toList r hi']

/-- After the shift, the moved places hold what was one place further. -/
theorem getD_shift
    {head n j k : Nat} {buf : List α} (hj : j + n < buf.length) (hk : k < buf.length) :
    (shift head buf.length n j buf).getD ((head + k) % buf.length) default =
      buf.getD ((head + if j ≤ k ∧ k < j + n then k + 1 else k) % buf.length) default := by
  have hpos : 0 < buf.length := Nat.zero_lt_of_lt hk
  induction n generalizing j buf with
  | zero => rw [if_neg (by omega), shift]
  | succ n ih =>
    have hlength : (buf.set ((head + j) % buf.length)
        (buf.getD ((head + j + 1) % buf.length) default)).length = buf.length :=
      List.length_set
    have hrest := @ih (j + 1) (buf.set ((head + j) % buf.length)
      (buf.getD ((head + j + 1) % buf.length) default))
    rw [hlength] at hrest
    rw [shift, hrest (by omega) hk hpos, getD_set (Nat.mod_lt _ hpos)]
    by_cases hmoved : j + 1 ≤ k ∧ k < j + 1 + n
    · have hne : (head + j) % buf.length ≠ (head + (k + 1)) % buf.length := fun h =>
        absurd (slot_inj (by omega) (by omega) h) (by omega)
      rw [if_pos hmoved, if_neg hne, if_pos (by omega)]
    · rw [if_neg hmoved]
      by_cases heq : k = j
      · subst heq
        rw [if_pos rfl, if_pos (by omega), Nat.add_assoc]
      · have hne : (head + j) % buf.length ≠ (head + k) % buf.length := fun h =>
          heq (slot_inj (by omega) hk h).symm
        rw [if_neg hne, if_neg (by omega)]

theorem get_closeGap {k : Nat} (hi : i < r.count) (hk : k < r.count - 1) :
    (r.closeGap i).get k = r.get (if i ≤ k then k + 1 else k) := by
  have hcap : r.count ≤ r.cap := r.count_le
  have hslot : (r.closeGap i).slot k = (r.head + k) % r.cap := by
    unfold slot
    rw [cap_closeGap]
    rfl
  have hne : r.slot (r.count - 1) ≠ (r.head + k) % r.cap := fun heq =>
    absurd (slot_inj (by omega) (by omega) heq) (by omega)
  have hlast : r.slot (r.count - 1) <
      (shift r.head r.cap (r.count - 1 - i) i r.buf).length := by
    rw [length_shift]
    exact r.slot_lt _
  rw [get, hslot]
  refine (getD_set hlast).trans ((if_neg hne).trans ?_)
  refine (getD_shift (j := i) (n := r.count - 1 - i) ?_ ?_).trans ?_
  · change i + (r.count - 1 - i) < r.cap
    omega
  · change k < r.cap
    omega
  · have hiff : (i ≤ k ∧ k < i + (r.count - 1 - i)) ↔ i ≤ k := by omega
    simp only [hiff]
    rfl

theorem toList_removeAt (h : i < r.count) : (r.removeAt i).toList = r.toList.eraseIdx i := by
  unfold removeAt
  split_ifs with hi
  · subst hi
    rw [toList_dropFront, List.eraseIdx_zero]
  · refine toList_eq_of _ ?_ fun k hk => ?_
    · rw [List.length_eraseIdx, length_toList, if_pos h]
      rfl
    · have hk' : k < r.count - 1 := hk
      rw [get_closeGap h hk', List.getElem?_eraseIdx]
      by_cases hle : i ≤ k
      · rw [if_neg (by omega), if_pos hle, getElem?_toList r (by omega)]
      · rw [if_pos (by omega), if_neg hle, getElem?_toList r (by omega)]

/-- A ring from which an element has been removed has room for another. -/
theorem room_removeAt (r : Ring α) (i : Nat) : (r.removeAt i).count < (r.removeAt i).cap := by
  have hcount : (r.removeAt i).count = r.count - 1 := by
    unfold removeAt
    split_ifs <;> rfl
  have hcap : r.count ≤ r.cap := r.count_le
  have hpos := r.cap_pos
  rw [hcount, cap_removeAt]
  omega

theorem find?_range
    (n : Nat) (p : Nat → Bool) : (List.range n).find? p = (List.range n).findIdx? p := by
  induction n with
  | zero => rfl
  | succ n ih =>
    rw [List.range_succ, List.find?_append, List.findIdx?_append, ih]
    cases (List.range n).findIdx? p with
    | some i => rfl
    | none => cases hp : p n <;> simp [hp]

/-- A search from the first element on is a search in the list. -/
theorem find?_get (r : Ring α) (p : α → Bool) :
    (List.range r.count).find? (fun i => p (r.get i)) = r.toList.findIdx? p := by
  rw [find?_range, toList, List.findIdx?_map]
  rfl

end Ring
end StreamAnalytics
