import Mathlib.Data.List.AList
import Mathlib.Data.Finset.Card

/-!
# Finite maps

Go maps are modelled by Mathlib's association lists with distinct keys.  The
order of the entries stands for one iteration order of the map.  The lemmas
below give the lookups of an updated map as case distinctions.
-/

namespace StreamAnalytics

universe u v

/-- A finite map from `K` to `V`. -/
abbrev GoMap (K : Type u) (V : Type v) := AList (fun _ : K => V)

namespace GoMap

variable {K : Type u} {V : Type v} {m : GoMap K V} {k : K}

/-- Number of entries. -/
def size (m : GoMap K V) : Nat := m.entries.length

@[simp] theorem size_empty : size (∅ : GoMap K V) = 0 := by
  rfl

theorem size_eq_length_keys (m : GoMap K V) : m.size = m.keys.length := by
  simp [size, AList.keys, List.keys]

/-- The entries that satisfy `p`. -/
def filter (p : K → V → Bool) (m : GoMap K V) : GoMap K V :=
  ⟨m.entries.filter fun e => p e.1 e.2, m.nodupKeys.sublist List.filter_sublist⟩

theorem size_filter_le (p : K → V → Bool) (m : GoMap K V) : (m.filter p).size ≤ m.size :=
  List.length_filter_le _ _

variable [DecidableEq K]

/-- Reading a missing key yields the zero value. -/
def getD (m : GoMap K V) (k : K) (zero : V) : V := (m.lookup k).getD zero

theorem lookup_insert_ite (m : GoMap K V) (k k' : K) (v : V) :
    (m.insert k v).lookup k' = if k' = k then some v else m.lookup k' := by
  split_ifs with h
  · subst h
    exact AList.lookup_insert m
  · exact AList.lookup_insert_ne h

theorem lookup_erase_ite
    (m : GoMap K V) (k k' : K) : (m.erase k).lookup k' = if k' = k then none else m.lookup k' := by
  split_ifs with h
  · subst h
    exact AList.lookup_erase k' m
  · exact AList.lookup_erase_ne h

theorem getD_insert (m : GoMap K V) (k k' : K) (v zero : V) :
    getD (m.insert k v) k' zero = if k' = k then v else m.getD k' zero := by
  unfold getD
  rw [lookup_insert_ite]
  split_ifs
  · rfl
  · rfl

theorem getD_erase (m : GoMap K V) (k k' : K) (zero : V) :
    getD (m.erase k) k' zero = if k' = k then zero else m.getD k' zero := by
  unfold getD
  rw [lookup_erase_ite]
  split_ifs
  · rfl
  · rfl

/-- Erasing a key, and its value from the inverse map, keeps the two maps inverse. -/
theorem inverse_erase
    [DecidableEq V] {m₁ m₂ : GoMap V K} (h : ∀ v k, m₁.lookup v = some k ↔ m.lookup k = some v)
    (hsome : ∀ v, m.lookup k = some v → m₂ = m₁.erase v) (hnone : m.lookup k = none → m₂ = m₁)
    (v : V) (k' : K) : m₂.lookup v = some k' ↔ (m.erase k).lookup k' = some v := by
  rw [lookup_erase_ite]
  cases hk : m.lookup k with
  | none =>
    rw [hnone hk, h]
    split_ifs with hk'
    · subst hk'
      simp [hk]
    · rfl
  | some v' =>
    have hv' := (h v' k).mpr hk
    rw [hsome v' hk, lookup_erase_ite]
    split_ifs with hv hk' hk'
    · simp
    · -- The value of the key belongs to no other key.
      rw [← h, hv, hv']
      simp [Ne.symm hk']
    · rw [h, hk', hk]
      simp [Ne.symm hv]
    · exact h v k'

theorem mem_iff_lookup : k ∈ m ↔ ∃ v, m.lookup k = some v := by
  rw [← AList.lookup_isSome, Option.isSome_iff_exists]

theorem mem_entries_iff
    {v : V} : (⟨k, v⟩ : Sigma fun _ : K => V) ∈ m.entries ↔ m.lookup k = some v := by
  rw [← AList.mem_lookup_iff]
  rfl

/-- A new key adds one entry. -/
theorem size_insert_of_notMem (v : V) (hk : k ∉ m) : size (m.insert k v) = m.size + 1 := by
  rw [size, AList.entries_insert_of_notMem hk]
  rfl

/-- Erasing a present key removes one entry. -/
theorem size_erase_of_mem (hk : k ∈ m) : size (m.erase k) = m.size - 1 := by
  rw [size_eq_length_keys, AList.keys_erase, List.length_erase_of_mem hk, size_eq_length_keys]

theorem lookup_filter (p : K → V → Bool) (m : GoMap K V) (k : K) :
    (m.filter p).lookup k = (m.lookup k).filter (p k) := by
  refine Option.ext fun v => ?_
  rw [← mem_entries_iff, Option.filter_eq_some_iff, ← mem_entries_iff]
  exact List.mem_filter

theorem count_keys
    (m : GoMap K V) (k : K) : m.keys.count k = if (m.lookup k).isSome then 1 else 0 := by
  split_ifs with h
  · exact List.count_eq_one_of_mem m.keys_nodup (AList.lookup_isSome.mp h)
  · exact List.count_eq_zero_of_not_mem fun hk => h (AList.lookup_isSome.mpr hk)

/-- The same map with the given keys first in its iteration order. -/
def visitFirst (m : GoMap K V) : List K → GoMap K V
  | [] => m
  | k :: ks =>
    match m.lookup k with
    | some v => (m.visitFirst ks).insert k v
    | none => m.visitFirst ks

@[simp] theorem lookup_visitFirst
    (m : GoMap K V) (ks : List K) (k : K) : (m.visitFirst ks).lookup k = m.lookup k := by
  induction ks with
  | nil => rfl
  | cons k' ks ih =>
    unfold visitFirst
    cases hk' : m.lookup k' with
    | none => exact ih
    | some v =>
      dsimp only
      rw [lookup_insert_ite, ih]
      split_ifs with h
      · rw [h, hk']
      · rfl

theorem size_erase_le (m : GoMap K V) (k : K) : size (m.erase k) ≤ m.size := by
  rw [size_eq_length_keys, size_eq_length_keys, AList.keys_erase]
  exact List.length_erase_le

/-- Overwriting a present key keeps the number of entries. -/
theorem size_insert_of_mem (v : V) (hk : k ∈ m) : size (m.insert k v) = m.size := by
  have hpos : 0 < m.keys.length := List.length_pos_of_mem hk
  rw [size_eq_length_keys, size_eq_length_keys, AList.keys_insert, List.length_cons,
    List.length_erase_of_mem hk]
  omega

theorem size_eq_card (m : GoMap K V) : m.size = m.keys.toFinset.card := by
  rw [size_eq_length_keys, List.toFinset_card_of_nodup m.keys_nodup]

theorem size_le_of_subset {m' : GoMap K V} (h : ∀ k, k ∈ m' → k ∈ m) : m'.size ≤ m.size := by
  rw [size_eq_card, size_eq_card]
  refine Finset.card_le_card fun k hk => ?_
  rw [List.mem_toFinset] at hk ⊢
  exact h k hk

/-- The number of distinct keys in a list that a map does not have. -/
def missing (m : GoMap K V) (ks : List K) : Nat := (ks.filter (· ∉ m)).toFinset.card

/-- A map that has got the keys of a list has grown by the missing ones. -/
theorem size_of_mem_iff {m' : GoMap K V} {ks : List K} (h : ∀ k, k ∈ m' ↔ k ∈ m ∨ k ∈ ks) :
    m'.size = m.size + m.missing ks := by
  have hkeys : m'.keys.toFinset = m.keys.toFinset ∪ (ks.filter (· ∉ m)).toFinset := by
    ext k
    have hk := h k
    simp only [List.mem_toFinset, Finset.mem_union, List.mem_filter, decide_eq_true_eq]
    change k ∈ m' ↔ k ∈ m ∨ k ∈ ks ∧ k ∉ m
    tauto
  rw [size_eq_card, hkeys, Finset.card_union_of_disjoint, size_eq_card, missing]
  refine Finset.disjoint_left.mpr fun k hk hmissing => ?_
  rw [List.mem_toFinset] at hk hmissing
  exact (by simpa using (List.mem_filter.mp hmissing).2 : k ∉ m) hk

/-- `l` lists the values of `m`, one for each key, in some order. -/
def ValuesIn (m : GoMap K V) (l : List V) : Prop :=
  ∃ m' : GoMap K V, (∀ k, m'.lookup k = m.lookup k) ∧ l = m'.entries.map (·.2)

theorem valuesIn_visitFirst
    (m : GoMap K V) (ks : List K) : m.ValuesIn ((m.visitFirst ks).entries.map (·.2)) :=
  ⟨m.visitFirst ks, lookup_visitFirst m ks, rfl⟩

theorem ValuesIn.mem_iff
    {l : List V} (h : m.ValuesIn l) (v : V) : v ∈ l ↔ ∃ k, m.lookup k = some v := by
  obtain ⟨m', hm', rfl⟩ := h
  constructor
  · intro hv
    obtain ⟨e, he, rfl⟩ := List.mem_map.mp hv
    exact ⟨e.1, (hm' e.1).symm.trans (mem_entries_iff.mp he)⟩
  · rintro ⟨k, hk⟩
    exact List.mem_map.mpr ⟨⟨k, v⟩, mem_entries_iff.mpr ((hm' k).trans hk), rfl⟩

/-- The keys in the order of the listed values. -/
theorem ValuesIn.exists_keys {l : List V} (h : m.ValuesIn l) :
    ∃ ks : List K, ks.Nodup ∧ (∀ k, k ∈ ks ↔ k ∈ m) ∧ ks.map m.lookup = l.map some := by
  obtain ⟨m', hm', rfl⟩ := h
  refine ⟨m'.keys, m'.keys_nodup, fun k => ?_, ?_⟩
  · change k ∈ m' ↔ k ∈ m
    rw [mem_iff_lookup, mem_iff_lookup, hm']
  · simp only [AList.keys, List.keys, List.map_map]
    refine List.map_congr_left fun e he => ?_
    exact (hm' e.1).symm.trans (mem_entries_iff.mp he)

theorem size_eq_zero_iff : m.size = 0 ↔ ∀ k, m.lookup k = none := by
  constructor
  · intro h k
    rw [AList.lookup_eq_none]
    intro hk
    rw [size_eq_length_keys, List.length_eq_zero_iff] at h
    exact List.not_mem_nil (h ▸ (show k ∈ m.keys from hk))
  · intro h
    rw [size_eq_length_keys, List.length_eq_zero_iff]
    refine List.eq_nil_iff_forall_not_mem.mpr fun k hk => ?_
    exact AList.lookup_eq_none.mp (h k) hk

end GoMap
end StreamAnalytics
