import StreamAnalytics.Lib.GoMap

/-!
# Grouping a list by a key

Items are collected one after the other into a map from keys to groups.  The first item
of a key starts a group, every further one extends it; the keys are kept in the order in
which they first occur.

The group of a key is the fold over the items with this key (`lookup_collect`).  A
property of groups is proved by `group_induction`.
-/

namespace StreamAnalytics

universe u v w

/-- Groups under their keys, and the keys in the order of their first items. -/
structure Groups (κ : Type u) (γ : Type v) where
  index : GoMap κ γ
  keys : List κ
  nodup_keys : keys.Nodup
  mem_keys_iff : ∀ k, k ∈ keys ↔ k ∈ index

namespace Groups

variable {ι : Type w} {κ : Type u} {γ : Type v}

/-- The group of a list of items. -/
def group (start : ι → γ) (extend : γ → ι → γ) : List ι → Option γ
  | [] => none
  | i :: is => some (is.foldl extend (start i))

section Group

variable {start : ι → γ} {extend : γ → ι → γ}

theorem group_concat (is : List ι) (i : ι) :
    group start extend (is ++ [i]) =
      some (match group start extend is with
        | none => start i
        | some m => extend m i) := by
  cases is with
  | nil => rfl
  | cons i' is => simp [group]

/-- What holds of a started group, and is kept by every extension, holds of a group. -/
theorem group_induction {P : List ι → γ → Prop} (hstart : ∀ i, P [i] (start i))
    (hextend : ∀ is m i, P is m → P (is ++ [i]) (extend m i)) {is : List ι} {m : γ}
    (h : group start extend is = some m) : P is m := by
  induction is using List.reverseRecOn generalizing m with
  | nil => cases h
  | append_singleton is i ih =>
    rw [group_concat] at h
    cases hgroup : group start extend is with
    | none =>
      rw [hgroup] at h
      cases is with
      | nil =>
        cases h
        exact hstart i
      | cons i' is => cases hgroup
    | some m' =>
      rw [hgroup] at h
      cases h
      exact hextend is m' i (ih hgroup)

theorem exists_group_iff (start : ι → γ) (extend : γ → ι → γ) (is : List ι) :
    (∃ m, group start extend is = some m) ↔ is ≠ [] := by
  cases is with
  | nil => simp [group]
  | cons i is => simp [group]

end Group

variable [DecidableEq κ]

/-- No groups. -/
def empty : Groups κ γ where
  index := ∅
  keys := []
  nodup_keys := List.nodup_nil
  mem_keys_iff := fun k => by simp

/-- Adds an item to its group. -/
def add (key : ι → κ) (start : ι → γ) (extend : γ → ι → γ) (g : Groups κ γ) (i : ι) :
    Groups κ γ where
  index := g.index.insert (key i)
    (match g.index.lookup (key i) with
    | some m => extend m i
    | none => start i)
  keys := if key i ∈ g.index then g.keys else g.keys ++ [key i]
  nodup_keys := by
    split_ifs with hmem
    · exact g.nodup_keys
    · rw [List.nodup_append_comm]
      exact List.nodup_cons.mpr ⟨mt (g.mem_keys_iff _).mp hmem, g.nodup_keys⟩
  mem_keys_iff := fun k => by
    rw [AList.mem_insert]
    split_ifs with hmem
    · rw [g.mem_keys_iff]
      exact ⟨Or.inr, fun h => h.elim (fun hk => hk ▸ hmem) id⟩
    · rw [List.mem_append, List.mem_singleton, g.mem_keys_iff]
      exact or_comm

/-- The groups in the order of their first items. -/
def groups (g : Groups κ γ) : List γ := g.keys.filterMap fun k => g.index.lookup k

section Collect

variable {key : ι → κ} {start : ι → γ} {extend : γ → ι → γ}

theorem lookup_add (g : Groups κ γ) (i : ι) (k : κ) :
    (g.add key start extend i).index.lookup k =
      if k = key i then
        some (match g.index.lookup (key i) with
          | some m => extend m i
          | none => start i)
      else g.index.lookup k :=
  GoMap.lookup_insert_ite _ _ _ _

/-- The group of a key is that of the items with this key. -/
theorem lookup_foldl_add (items : List ι) (k : κ) :
    (items.foldl (add key start extend) empty).index.lookup k =
      group start extend (items.filter fun i => key i = k) := by
  induction items using List.reverseRecOn with
  | nil => rfl
  | append_singleton items i ih =>
    rw [List.foldl_concat, lookup_add, List.filter_append]
    by_cases hk : k = key i
    · subst hk
      have hfilter : [i].filter (fun j => key j = key i) = [i] := by simp
      rw [if_pos rfl, hfilter, group_concat, ih]
      cases group start extend (items.filter fun j => key j = key i) <;> rfl
    · have hfilter : [i].filter (fun j => key j = k) = [] := by simp [Ne.symm hk]
      rw [if_neg hk, hfilter, List.append_nil, ih]

/-- Groups that know their key are found under it. -/
theorem mem_groups_iff
    {name : γ → κ} {g : Groups κ γ} (hname : ∀ {k m}, g.index.lookup k = some m → name m = k)
    {m : γ} : m ∈ g.groups ↔ g.index.lookup (name m) = some m := by
  unfold groups
  rw [List.mem_filterMap]
  constructor
  · rintro ⟨k, -, hk⟩
    rwa [hname hk]
  · intro hm
    exact ⟨name m, (g.mem_keys_iff _).mpr (GoMap.mem_iff_lookup.mpr ⟨m, hm⟩), hm⟩

/-- Groups that know their key have different keys. -/
theorem pairwise_groups
    {name : γ → κ} (g : Groups κ γ) (hname : ∀ k m, g.index.lookup k = some m → name m = k) :
    g.groups.Pairwise fun a b => name a ≠ name b := by
  unfold groups
  rw [List.pairwise_filterMap]
  refine g.nodup_keys.imp ?_
  intro k k' hne a ha b hb
  rw [hname k a ha, hname k' b hb]
  exact hne

end Collect

end Groups
end StreamAnalytics
