import StreamAnalytics.Shared.BoundedMap

/-!
# Removals from the bounded LRU map

Every removal from the map goes through `evictLocked`.  The relation `Restricts`
collects what a sequence of such removals can do: it keeps the remaining entries
as they are, keeps the order of the remaining keys, and reports every removed
entry once.  Sweeping and size eviction are instances of it.
-/

namespace StreamAnalytics
namespace BoundedMap

open GoMap

universe u v

variable {K : Type u} {V : Type v}
variable {m m' : BoundedMap K V} {evs : List (EvictionEvent K V)} {why : K → BoundedEntry V → Prop}

/-- The configuration fields that no operation changes. -/
structure SameConfig (m m' : BoundedMap K V) : Prop where
  maxSize : m'.maxSize = m.maxSize
  ttl : m'.ttl = m.ttl
  onEvict : m'.onEvict = m.onEvict

theorem SameConfig.refl (m : BoundedMap K V) : SameConfig m m := ⟨rfl, rfl, rfl⟩

theorem SameConfig.trans
    {m₁ m₂ m₃ : BoundedMap K V} (h₁ : SameConfig m₁ m₂) (h₂ : SameConfig m₂ m₃) :
    SameConfig m₁ m₃ :=
  ⟨h₂.maxSize.trans h₁.maxSize, h₂.ttl.trans h₁.ttl, h₂.onEvict.trans h₁.onEvict⟩

theorem SameConfig.isExpiredAt_eq (h : SameConfig m m') (e : BoundedEntry V) (now : Nat) :
    m'.isExpiredAt e now = m.isExpiredAt e now := by
  simp [isExpiredAt, h.ttl]

theorem SameConfig.nextExpiryAt_eq
    (h : SameConfig m m') (now : Nat) : m'.nextExpiryAt now = m.nextExpiryAt now := by
  simp [nextExpiryAt, h.ttl]

/-- An entry stored at `now` is not expired at `now`. -/
theorem not_isExpiredAt_nextExpiryAt (m : BoundedMap K V) (value : V) (now : Nat) :
    m.isExpiredAt ⟨value, m.nextExpiryAt now⟩ now = false := by
  unfold isExpiredAt nextExpiryAt
  split_ifs
  · rfl
  · have hnot : ¬ now + m.ttl.toNat ≤ now := by omega
    simp [hnot]

/-- The lru list holds exactly the keys of the map, each once. -/
structure Indexed (m : BoundedMap K V) : Prop where
  nodup : m.lru.Nodup
  mem_lru : ∀ k, k ∈ m.lru ↔ k ∈ m.items

theorem Indexed.perm (h : m.Indexed) : m.items.keys.Perm m.lru := by
  rw [List.perm_ext_iff_of_nodup m.items.keys_nodup h.nodup]
  intro k
  exact (h.mem_lru k).symm

theorem Indexed.length_lru (h : m.Indexed) : m.lru.length = m.len := by
  rw [len, size_eq_length_keys, h.perm.length_eq]

variable [DecidableEq K]

/-! ## Removals -/

/--
`m'` results from `m` by removing entries, each for the reason `why`; `evs` are
the events reported for the removals.
-/
structure Restricts
    (m m' : BoundedMap K V)
    (evs : List (EvictionEvent K V))
    (why : K → BoundedEntry V → Prop) : Prop where
  config : SameConfig m m'
  indexed : m'.Indexed
  lru_sublist : m'.lru.Sublist m.lru
  sub : ∀ k e, m'.items.lookup k = some e → m.items.lookup k = some e
  removed : ∀ k e, m.items.lookup k = some e → m'.items.lookup k = none → why k e
  reported_nodup : (evs.map EvictionEvent.key).Nodup
  reported : m.onEvict = true → ∀ k v,
    (∃ reason, ⟨k, v, reason⟩ ∈ evs) ↔
      ∃ e, m.items.lookup k = some e ∧ e.value = v ∧ m'.items.lookup k = none
  reported_removed : ∀ ev ∈ evs, ev.key ∈ m.items ∧ ev.key ∉ m'.items

theorem Restricts.refl (hm : m.Indexed) (why : K → BoundedEntry V → Prop) :
    Restricts m m [] why where
  config := .refl m
  indexed := hm
  lru_sublist := List.Sublist.refl _
  sub := fun _ _ h => h
  removed := by
    intro k e h₁ h₂
    rw [h₁] at h₂
    cases h₂
  reported_nodup := List.nodup_nil
  reported := by
    intro _ k v
    constructor
    · rintro ⟨_, hev⟩
      cases hev
    · rintro ⟨e, h₁, _, h₂⟩
      rw [h₁] at h₂
      cases h₂
  reported_removed := by
    intro ev hev
    cases hev

/-- A surviving entry of a restriction is present before it. -/
theorem Restricts.mem (h : Restricts m m' evs why) {k : K} (hk : k ∈ m'.items) : k ∈ m.items := by
  obtain ⟨e, he⟩ := mem_iff_lookup.mp hk
  exact mem_iff_lookup.mpr ⟨e, h.sub k e he⟩

section Compose

variable {m₁ m₂ m₃ : BoundedMap K V} {evs₁ evs₂ : List (EvictionEvent K V)}
variable {why₁ why₂ : K → BoundedEntry V → Prop}

-- Between the two restrictions the map changes only at keys that both of them keep.
variable (h₁ : Restricts m m₁ evs₁ why₁) (h₂ : Restricts m₂ m₃ evs₂ why₂)
  (hkeep : ∀ k, m₂.items.lookup k = m₁.items.lookup k ∨
    m₃.items.lookup k ≠ none ∧ (k ∈ m.items → k ∈ m₁.items))

include h₁ h₂ hkeep

/-- What is gone in the end is what one of the two restrictions removes. -/
theorem Restricts.gone_iff (k : K) (e : BoundedEntry V) :
    m.items.lookup k = some e ∧ m₃.items.lookup k = none ↔
      m.items.lookup k = some e ∧ m₁.items.lookup k = none ∨
        m₂.items.lookup k = some e ∧ m₃.items.lookup k = none := by
  have hsub₁ := h₁.sub k
  have hsub₂ := h₂.sub k
  rcases hkeep k with heq | ⟨hkept, hkey⟩
  · rw [heq] at hsub₂ ⊢
    cases hmid : m₁.items.lookup k with
    | none =>
      have hafter := Option.eq_none_iff_forall_ne_some.mpr fun e' he' =>
        absurd (hmid.symm.trans (hsub₂ e' he')) (by simp)
      simp [hafter]
    | some e' => simp [hsub₁ e' hmid]
  · simp only [hkept, and_false, or_false, false_iff, not_and]
    intro hbefore
    exact Option.isSome_iff_ne_none.mp (AList.lookup_isSome.mpr
      (hkey (mem_iff_lookup.mpr ⟨e, hbefore⟩)))

theorem Restricts.removed_compose (k : K) (e : BoundedEntry V)
    (hbefore : m.items.lookup k = some e) (hafter : m₃.items.lookup k = none) :
    why₁ k e ∨ why₂ k e :=
  ((h₁.gone_iff h₂ hkeep k e).mp ⟨hbefore, hafter⟩).imp (fun h => h₁.removed k e h.1 h.2)
    fun h => h₂.removed k e h.1 h.2

theorem Restricts.reported_compose
    (hconfig : SameConfig m m₂) (hon : m.onEvict = true) (k : K) (v : V) :
    (∃ reason, ⟨k, v, reason⟩ ∈ evs₁ ++ evs₂) ↔
      ∃ e, m.items.lookup k = some e ∧ e.value = v ∧ m₃.items.lookup k = none := by
  simp only [List.mem_append, exists_or, h₁.reported hon, h₂.reported (hconfig.onEvict.trans hon)]
  rw [← exists_or]
  refine exists_congr fun e => ?_
  have hgone := h₁.gone_iff h₂ hkeep k e
  tauto

/-- No entry is reported twice. -/
theorem Restricts.nodup_compose : ((evs₁ ++ evs₂).map EvictionEvent.key).Nodup := by
  rw [List.map_append, List.nodup_append]
  refine ⟨h₁.reported_nodup, h₂.reported_nodup, ?_⟩
  intro a ha b hb hab
  obtain ⟨ev₁, hev₁, rfl⟩ := List.mem_map.mp ha
  obtain ⟨ev₂, hev₂, rfl⟩ := List.mem_map.mp hb
  obtain ⟨hin, hout⟩ := h₁.reported_removed ev₁ hev₁
  have hpresent := (h₂.reported_removed ev₂ hev₂).1
  rcases hkeep ev₁.key with heq | ⟨-, hkey⟩
  · rw [← hab, mem_iff_lookup, heq, ← mem_iff_lookup] at hpresent
    exact hout hpresent
  · exact hout (hkey hin)

end Compose

theorem Restricts.trans {m₁ m₂ : BoundedMap K V} {evs₁ evs₂ : List (EvictionEvent K V)}
    (h₁ : Restricts m m₁ evs₁ why) (h₂ : Restricts m₁ m₂ evs₂ why) :
    Restricts m m₂ (evs₁ ++ evs₂) why where
  config := h₁.config.trans h₂.config
  indexed := h₂.indexed
  lru_sublist := h₂.lru_sublist.trans h₁.lru_sublist
  sub := fun k e h => h₁.sub k e (h₂.sub k e h)
  removed := fun k e hbefore hafter =>
    or_self_iff.mp (h₁.removed_compose h₂ (fun _ => .inl rfl) k e hbefore hafter)
  reported_nodup := h₁.nodup_compose h₂ fun _ => .inl rfl
  reported := h₁.reported_compose h₂ (fun _ => .inl rfl) h₁.config
  reported_removed := by
    intro ev hev
    rcases List.mem_append.mp hev with hev | hev
    · obtain ⟨hin, hout⟩ := h₁.reported_removed ev hev
      exact ⟨hin, fun h => hout (h₂.mem h)⟩
    · obtain ⟨hin, hout⟩ := h₂.reported_removed ev hev
      exact ⟨h₁.mem hin, hout⟩

/-- One eviction is a restriction. -/
theorem evictLocked_restricts
    (hm : m.Indexed) {key : K} {entry : BoundedEntry V} (hentry : m.items.lookup key = some entry)
    (reason : EvictReason) (why : K → BoundedEntry V → Prop) (hwhy : why key entry) :
    Restricts m (m.evictLocked key entry reason).1
      (m.evictLocked key entry reason).2.toList why where
  config := ⟨rfl, rfl, rfl⟩
  indexed := by
    refine ⟨hm.nodup.erase key, ?_⟩
    intro k
    simp only [evictLocked, hm.nodup.mem_erase_iff, AList.mem_erase, hm.mem_lru]
  lru_sublist := List.erase_sublist
  sub := by
    intro k e h
    simp only [evictLocked, lookup_erase_ite] at h
    split_ifs at h
    exact h
  removed := by
    intro k e hbefore hafter
    simp only [evictLocked, lookup_erase_ite] at hafter
    split_ifs at hafter with hk
    · subst hk
      rw [hentry] at hbefore
      cases hbefore
      exact hwhy
    · rw [hbefore] at hafter
      cases hafter
  reported_nodup := by
    simp only [evictLocked]
    split_ifs <;> simp
  reported := by
    intro hon k v
    simp only [evictLocked, hon, if_true, Option.toList_some, List.mem_singleton,
      EvictionEvent.mk.injEq, lookup_erase_ite]
    constructor
    · rintro ⟨_, rfl, rfl, _⟩
      exact ⟨entry, hentry, rfl, by simp⟩
    · rintro ⟨e, hbefore, hv, hafter⟩
      by_cases hk : k = key
      · subst hk
        rw [hentry] at hbefore
        cases hbefore
        exact ⟨reason, rfl, hv.symm, rfl⟩
      · rw [if_neg hk, hbefore] at hafter
        cases hafter
  reported_removed := by
    intro ev hev
    simp only [evictLocked] at hev
    split_ifs at hev
    · simp only [Option.toList_some, List.mem_singleton] at hev
      subst hev
      exact ⟨mem_iff_lookup.mpr ⟨entry, hentry⟩, by simp [evictLocked, AList.mem_erase]⟩
    · cases hev

theorem Restricts.mono {why' : K → BoundedEntry V → Prop} (h : Restricts m m' evs why)
    (hwhy : ∀ k e, why k e → why' k e) : Restricts m m' evs why' :=
  { h with removed := fun k e h₁ h₂ => hwhy k e (h.removed k e h₁ h₂) }

theorem Restricts.setLastSweep
    (h : Restricts m m' evs why) (t : Nat) : Restricts m { m' with lastSweep := t } evs why :=
  { h with
    config := ⟨h.config.maxSize, h.config.ttl, h.config.onEvict⟩
    indexed := ⟨h.indexed.nodup, h.indexed.mem_lru⟩ }

/-- A restriction never has more entries. -/
theorem Restricts.len_le (hm : m.Indexed) (h : Restricts m m' evs why) : m'.len ≤ m.len := by
  rw [← hm.length_lru, ← h.indexed.length_lru]
  exact h.lru_sublist.length_le

/-- The sweep loop removes expired entries only, in whatever order it visits them. -/
theorem sweepLoop_restricts
    (now : Nat) (es : List (Sigma fun _ : K => BoundedEntry V)) (m : BoundedMap K V)
    (hm : m.Indexed) (hnodup : es.NodupKeys) (hes : ∀ e ∈ es, m.items.lookup e.1 = some e.2) :
    Restricts m (sweepLoop now es m).1 (sweepLoop now es m).2
      (fun _ e => m.isExpiredAt e now = true) := by
  induction es generalizing m with
  | nil => exact .refl hm _
  | cons e es ih =>
    obtain ⟨hfresh, hrest⟩ := List.nodupKeys_cons.mp hnodup
    by_cases hexp : m.isExpiredAt e.2 now = true
    · have hhead := evictLocked_restricts hm (hes e (by simp)) .ttl
        (fun _ e => m.isExpiredAt e now = true) hexp
      have htail := ih (m.evictLocked e.1 e.2 .ttl).1 hhead.indexed hrest (by
        intro e' he'
        have hne : e'.1 ≠ e.1 := by
          intro heq
          exact hfresh (heq ▸ List.mem_keys_of_mem he')
        simp only [evictLocked, lookup_erase_ite, if_neg hne]
        exact hes e' (by simp [he']))
      have htail' := htail.mono (fun _ e h => (hhead.config.isExpiredAt_eq e now) ▸ h)
      simpa only [sweepLoop, if_pos hexp] using hhead.trans htail'
    · simpa only [sweepLoop, if_neg hexp] using
        ih m hm hrest (fun e' he' => hes e' (by simp [he']))

theorem sweepLocked_restricts (hm : m.Indexed) (now : Nat) :
    Restricts m (m.sweepLocked now).1 (m.sweepLocked now).2
      (fun _ e => m.isExpiredAt e now = true) := by
  unfold sweepLocked
  split_ifs
  · exact .refl hm _
  · exact sweepLoop_restricts now m.items.entries m hm m.items.nodupKeys
      (fun _ he => mem_entries_iff.mp he)

theorem maybeSweepLocked_restricts (hm : m.Indexed) (now : Nat) :
    Restricts m (m.maybeSweepLocked now).1 (m.maybeSweepLocked now).2
      (fun _ e => m.isExpiredAt e now = true) := by
  unfold maybeSweepLocked
  split_ifs
  · exact (sweepLocked_restricts hm now).setLastSweep now
  · exact .refl hm _

/-- Size eviction removes the last key of the lru list, and only at full capacity. -/
theorem makeRoom_restricts (hm : m.Indexed) :
    Restricts m m.makeRoom.1 m.makeRoom.2
      (fun k _ => m.maxSize ≤ m.len ∧ m.lru.getLast? = some k) := by
  unfold makeRoom
  split_ifs with hfull
  · cases m.lru.getLast? with
    | none => exact .refl hm _
    | some tailKey =>
      cases hold : m.items.lookup tailKey with
      | none =>
        simp only [hold]
        exact .refl hm _
      | some old =>
        simp only [hold]
        exact evictLocked_restricts hm hold .size _ ⟨hfull, rfl⟩
  · exact .refl hm _

/-- After size eviction there is room for one entry. -/
theorem makeRoom_len_lt (hm : m.Indexed) (hpos : 0 < m.maxSize) (hlen : m.len ≤ m.maxSize) :
    m.makeRoom.1.len < m.maxSize := by
  unfold makeRoom
  split_ifs
  · have hne : m.lru ≠ [] := by
      intro hnil
      have hlength := hm.length_lru
      simp only [hnil, List.length_nil, len] at hlength
      omega
    have hlast := List.getLast?_eq_getLast_of_ne_nil hne
    have hmem : m.lru.getLast hne ∈ m.items := (hm.mem_lru _).mp (List.getLast_mem hne)
    obtain ⟨old, hold⟩ := mem_iff_lookup.mp hmem
    simp only [hlast, hold, evictLocked, len, size_erase_of_mem hmem]
    unfold len at hlen
    omega
  · have hsize : m.items.size < m.maxSize := by omega
    exact hsize

end BoundedMap
end StreamAnalytics
