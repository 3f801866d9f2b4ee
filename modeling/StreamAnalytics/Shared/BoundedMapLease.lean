import StreamAnalytics.Shared.BoundedMapContract

/-!
# Bounded maps whose values are stored once

A user of the map that stores a value under a key only after `Get` has missed
it, and does not store it again, holds a lease: the value is found until the time
to live has elapsed since the store, and never after.  `Get` renews the recency
of a key but not its expiry.

The first section is about properties of the entries that do not depend on time.

`stored k` is the last value stored under `k`, with the clock reading of that
store, whether or not the map still holds it.
-/

namespace StreamAnalytics
namespace BoundedMap

open GoMap Function

universe u v

variable {K : Type u} {V : Type v} [DecidableEq K]

/-! ## Properties of the entries -/

/-- Every entry satisfies `R`. -/
structure Entries (R : K → V → Prop) (m : BoundedMap K V) : Prop where
  indexed : m.Indexed
  holds : ∀ k e, m.items.lookup k = some e → R k e.value

section Entries

variable {R : K → V → Prop} {m : BoundedMap K V}

theorem Entries.mono
    {R' : K → V → Prop} (h : Entries R m) (hR : ∀ k v, R k v → R' k v) : Entries R' m :=
  ⟨h.indexed, fun k e he => hR k e.value (h.holds k e he)⟩

/-- A call keeps `R` if what it puts in front satisfies it. -/
theorem Entries.of_effect
    {m' : BoundedMap K V} {evs : List (EvictionEvent K V)} {touched : Option (K × BoundedEntry V)}
    {why : K → BoundedEntry V → Prop} (h : Entries R m) (heffect : Effect m m' evs touched why)
    (htouched : ∀ k e, touched = some (k, e) → R k e.value) : Entries R m' :=
  ⟨heffect.indexed, fun k e he => (heffect.entries k e he).elim (htouched k e)
    fun hbefore => h.holds k e hbefore.2⟩

/-- `Get` puts an entry of the map in front. -/
theorem lookup_of_touched_get
    {now : Nat} {k k' : K} {e : BoundedEntry V} (h : m.touched ⟨now, .get k⟩ = some (k', e)) :
    m.items.lookup k' = some e := by
  simp only [touched, Option.map_eq_some_iff, Option.filter_eq_some_iff] at h
  obtain ⟨e', ⟨hlookup, -⟩, heq⟩ := h
  cases heq
  exact hlookup

theorem Entries.get (h : Entries R m) (now : Nat) (k : K) : Entries R (m.get now k).2.1 :=
  h.of_effect (get_effect h.indexed now k) fun k' e htouched =>
    h.holds k' e (lookup_of_touched_get htouched)

theorem Entries.put
    (h : Entries R m) (now : Nat) {k : K} {v : V} (hv : R k v) : Entries R (m.put now k v).1 := by
  refine h.of_effect (put_effect h.indexed now k v) fun k' e htouched => ?_
  cases htouched
  exact hv

/-- What `Get` finds satisfies `R`. -/
theorem Entries.of_get
    (h : Entries R m) {now : Nat} {k : K} {v : V} (hget : (m.get now k).1 = some v) : R k v := by
  have hvalue : (m.get now k).1 = (m.touched ⟨now, .get k⟩).map fun p => p.2.value :=
    BoundedMap.get_value m now k
  rw [hget, touched] at hvalue
  obtain ⟨p, hp, rfl⟩ := Option.map_eq_some_iff.mp hvalue.symm
  obtain ⟨e, he, rfl⟩ := Option.map_eq_some_iff.mp hp
  exact h.holds k e (Option.filter_eq_some_iff.mp he).1

theorem Entries.delete (h : Entries R m) (now : Nat) (k : K) : Entries R (m.delete now k).1 :=
  h.of_effect (delete_effect h.indexed now k) fun _ _ htouched => nomatch htouched

/-- A map whose keys are among `ids` has room for another one of them. -/
theorem Entries.len_lt_card {ids : Finset K} {k : K}
    (h : Entries (fun k _ => k ∈ ids) m) (hnew : k ∉ m.items) (hk : k ∈ ids) :
    m.len < ids.card := by
  rw [BoundedMap.len, size_eq_card]
  refine Finset.card_lt_card ⟨fun k' hk' => ?_, fun hsub => hnew (List.mem_toFinset.mp (hsub hk))⟩
  obtain ⟨e, he⟩ := mem_iff_lookup.mp (List.mem_toFinset.mp hk')
  exact h.holds k' e he

end Entries

/-! ## Changes of a value in place -/

/-- The value of a key is changed through a pointer, which the map does not notice. -/
def setValue (m : BoundedMap K V) (k : K) (v : V) : BoundedMap K V :=
  match m.items.lookup k with
  | some e => { m with items := m.items.insert k { e with value := v } }
  | none => m

theorem Entries.setValue
    {R : K → V → Prop} {m : BoundedMap K V} (h : Entries R m) {k : K} {v : V} (hv : R k v) :
    Entries R (m.setValue k v) := by
  unfold BoundedMap.setValue
  cases hlookup : m.items.lookup k with
  | none => exact h
  | some e =>
    refine ⟨⟨h.indexed.nodup, fun k' => ?_⟩, fun k' e' he' => ?_⟩
    · have hk : k ∈ m.items := mem_iff_lookup.mpr ⟨e, hlookup⟩
      refine (h.indexed.mem_lru k').trans ?_
      refine Iff.trans ?_ (AList.mem_insert _).symm
      refine ⟨.inr, ?_⟩
      rintro (rfl | hk')
      · exact hk
      · exact hk'
    · change (m.items.insert k { e with value := v }).lookup k' = some e' at he'
      rw [lookup_insert_ite] at he'
      split_ifs at he' with hk
      · cases he'
        subst hk
        exact hv
      · exact h.holds k' e' he'

/-! ## Leases -/

/-- The map holds the stored values, except for those that had expired by `reached`. -/
structure Leases (m : BoundedMap K V) (stored : K → Option (V × Nat)) (reached : Nat) : Prop where
  indexed : m.Indexed
  ttl_pos : 0 < m.ttl
  entry : ∀ k e, m.items.lookup k = some e →
    ∃ t, stored k = some (e.value, t) ∧ e.expiresAt = m.nextExpiryAt t
  kept : ∀ k v t, stored k = some (v, t) → k ∈ m.items ∨ (t : Int) + m.ttl ≤ reached

section Leases

variable {m : BoundedMap K V} {stored : K → Option (V × Nat)} {reached now : Nat}

theorem Leases.mono (h : m.Leases stored reached) (hle : reached ≤ now) : m.Leases stored now :=
  { h with kept := fun k v t hk => (h.kept k v t hk).imp_right fun hexpired => by omega }

theorem Leases.live_iff
    (h : m.Leases stored reached) {t : Nat} : m.Live t now ↔ (now : Int) < t + m.ttl :=
  or_iff_right (Int.not_le.mpr h.ttl_pos)

theorem Leases.expired_iff
    (h : m.Leases stored reached) (now : Nat) {k : K} {e : BoundedEntry V} {v : V} {t : Nat}
    (hlookup : m.items.lookup k = some e) (hstored : stored k = some (v, t)) :
    m.isExpiredAt e now = true ↔ (t : Int) + m.ttl ≤ now := by
  obtain ⟨t', ht', hexpiry⟩ := h.entry k e hlookup
  obtain ⟨-, rfl⟩ : e.value = v ∧ t' = t := by simpa using ht'.symm.trans hstored
  have hiff : m.isExpiredAt ⟨e.value, m.nextExpiryAt t'⟩ now = false ↔ m.Live t' now :=
    isExpiredAt_eq_false_iff
  rw [← hexpiry, h.live_iff] at hiff
  rw [← Int.not_lt, ← hiff, Bool.not_eq_false]

/-- `Get` finds a key exactly as long as its lease runs. -/
theorem Leases.get_value (h : m.Leases stored reached) (hnow : reached ≤ now) (k : K) :
    (m.get now k).1 =
      ((stored k).filter fun p => decide ((now : Int) < p.2 + m.ttl)).map Prod.fst := by
  have hvalue : (m.get now k).1 = (m.touched ⟨now, .get k⟩).map fun p => p.2.value :=
    BoundedMap.get_value m now k
  rw [hvalue, touched]
  dsimp only
  cases hlookup : m.items.lookup k with
  | none =>
    cases hstored : stored k with
    | none => rfl
    | some p =>
      have hmem : k ∉ m.items := AList.lookup_eq_none.mp hlookup
      have hexpired := (h.kept k p.1 p.2 hstored).resolve_left hmem
      rw [Option.filter_some_neg (by simp; omega)]
      rfl
  | some e =>
    obtain ⟨t, hstored, -⟩ := h.entry k e hlookup
    have hexpired := h.expired_iff now hlookup hstored
    rw [hstored]
    by_cases hlive : (now : Int) < t + m.ttl
    · have hfresh : m.isExpiredAt e now = false := by
        rw [← Bool.not_eq_true, hexpired]
        omega
      rw [Option.filter_some_pos (by simp [hfresh]), Option.filter_some_pos (by simp [hlive])]
      rfl
    · have hexp : m.isExpiredAt e now = true := hexpired.mpr (by omega)
      rw [Option.filter_some_neg (by simp [hexp]), Option.filter_some_neg (by simp [hlive])]
      rfl

/-- A call that deletes nothing and evicts nothing for room keeps what has not expired. -/
theorem Leases.kept_of_effect
    {m' : BoundedMap K V} {evs : List (EvictionEvent K V)} {touched : Option (K × BoundedEntry V)}
    {op : Op K V} {k : K} {v : V} {t : Nat} (h : m.Leases stored reached) (hnow : reached ≤ now)
    (heffect : Effect m m' evs touched (m.LostBy ⟨now, op⟩)) (hdelete : ∀ k, op ≠ .delete k)
    (hroom : ∀ k v, op = .put k v → k ∉ m.items → m.len < m.maxSize)
    (hstored : stored k = some (v, t)) : k ∈ m'.items ∨ (t : Int) + m'.ttl ≤ now := by
  rw [heffect.config.ttl]
  refine or_iff_not_imp_left.mpr fun hgone => ?_
  rcases h.kept k v t hstored with hmem | hexpired
  · obtain ⟨e, hlookup⟩ := mem_iff_lookup.mp hmem
    rcases heffect.removed k e hlookup (AList.lookup_eq_none.mpr hgone) with
      hexp | hop | ⟨_, _, hop, hnew, hfull, -⟩
    · exact (h.expired_iff _ hlookup hstored).mp hexp
    · exact absurd hop (hdelete k)
    · exact absurd (hroom _ _ hop hnew) (Nat.not_lt.mpr hfull)
  · omega

theorem Leases.get (h : m.Leases stored reached) (hnow : reached ≤ now) (k : K) :
    (m.get now k).2.1.Leases stored now := by
  have heffect := get_effect h.indexed now k
  refine
    { indexed := heffect.indexed
      ttl_pos := by rw [heffect.config.ttl]; exact h.ttl_pos
      entry := fun k' e he => ?_
      kept := fun _ _ _ => h.kept_of_effect hnow heffect nofun nofun }
  simp only [heffect.config.nextExpiryAt_eq]
  refine h.entry k' e ?_
  exact (heffect.entries k' e he).elim lookup_of_touched_get And.right

/-- A store is present afterwards. -/
theorem lookup_put_self (hm : m.Indexed) (now : Nat) (k : K) (v : V) :
    (m.put now k v).1.items.lookup k = some ⟨v, m.nextExpiryAt now⟩ := by
  obtain ⟨m₁, m₂, evs₁, evs₂, hcase, hstores, hsweep, -⟩ := put_steps hm now k v
  have hbefore : m₂.items.lookup k = some ⟨v, m.nextExpiryAt now⟩ := by
    rw [hstores.lookup, if_pos rfl]
  cases hafter : (m.put now k v).1.items.lookup k with
  | some e =>
    rw [← hbefore]
    exact (hsweep.sub k e hafter).symm
  | none =>
    have hconfig : SameConfig m m₂ := by
      have heffect := put_effect hm now k v
      exact ⟨by rw [← hsweep.config.maxSize, heffect.config.maxSize],
        by rw [← hsweep.config.ttl, heffect.config.ttl],
        by rw [← hsweep.config.onEvict, heffect.config.onEvict]⟩
    have hexp := hsweep.removed k _ hbefore hafter
    rw [← hconfig.nextExpiryAt_eq, not_isExpiredAt_nextExpiryAt] at hexp
    cases hexp

theorem Leases.put (h : m.Leases stored reached) (hnow : reached ≤ now) {k : K}
    (hroom : k ∉ m.items → m.len < m.maxSize) (v : V) :
    (m.put now k v).1.Leases (update stored k (some (v, now))) now := by
  have heffect := put_effect h.indexed now k v
  refine
    { indexed := heffect.indexed
      ttl_pos := by rw [heffect.config.ttl]; exact h.ttl_pos
      entry := ?_
      kept := ?_ }
  · intro k' e he
    simp only [heffect.config.nextExpiryAt_eq]
    by_cases hk : k' = k
    · subst hk
      rw [lookup_put_self h.indexed] at he
      cases he
      exact ⟨now, update_self .., rfl⟩
    · rcases heffect.entries k' e he with htouched | ⟨-, hbefore⟩
      · simp only [touched, Option.some.injEq, Prod.mk.injEq] at htouched
        exact absurd htouched.1.symm hk
      · rw [update_of_ne hk]
        exact h.entry k' e hbefore
  · intro k' v' t hstored
    by_cases hk : k' = k
    · subst hk
      exact .inl (mem_iff_lookup.mpr ⟨_, lookup_put_self h.indexed now k' v⟩)
    · rw [update_of_ne hk] at hstored
      refine h.kept_of_effect hnow heffect (fun _ hop => by cases hop) (fun _ _ hop => ?_) hstored
      cases hop
      exact hroom

end Leases

end BoundedMap
end StreamAnalytics
