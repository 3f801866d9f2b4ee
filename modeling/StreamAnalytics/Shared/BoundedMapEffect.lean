import StreamAnalytics.Shared.BoundedMapRemoval

/-!
# The effect of one call on the bounded LRU map

One call of `Get`, `Put`, `Delete` or `Sweep` removes entries, may move one key
to the front, and removes expired entries again.  `Effect` says what such a call
does to the map, and `step_effect` shows that every call has one.
-/

namespace StreamAnalytics
namespace BoundedMap

open GoMap

universe u v

variable {K : Type u} {V : Type v} [DecidableEq K]
variable {m m' : BoundedMap K V} {evs : List (EvictionEvent K V)} {why : K → BoundedEntry V → Prop}

/-! ## Calls -/

/-- The four operations. -/
inductive Op (K : Type u) (V : Type v) where
  | get (key : K)
  | put (key : K) (value : V)
  | delete (key : K)
  | sweep
deriving Repr, DecidableEq

/-- An operation with the clock reading it obtains. -/
structure Call (K : Type u) (V : Type v) where
  now : Nat
  op : Op K V
deriving Repr, DecidableEq

/-- What a call returns, the map it leaves, and the eviction events it fires. -/
structure Reply (K : Type u) (V : Type v) where
  value : Option V
  map : BoundedMap K V
  events : List (EvictionEvent K V)

/-- Runs one call. -/
def step (m : BoundedMap K V) (c : Call K V) : Reply K V :=
  match c.op with
  | .get key =>
    let (value, m₁, evs) := m.get c.now key
    ⟨value, m₁, evs⟩
  | .put key value =>
    let (m₁, evs) := m.put c.now key value
    ⟨none, m₁, evs⟩
  | .delete key =>
    let (m₁, evs) := m.delete c.now key
    ⟨none, m₁, evs⟩
  | .sweep =>
    let (m₁, evs) := m.sweep c.now
    ⟨none, m₁, evs⟩

/-- The key and entry that a call puts in front of the lru list. -/
def touched (m : BoundedMap K V) (c : Call K V) : Option (K × BoundedEntry V) :=
  match c.op with
  | .get key => ((m.items.lookup key).filter fun e => !m.isExpiredAt e c.now).map fun e => (key, e)
  | .put key value => some (key, ⟨value, m.nextExpiryAt c.now⟩)
  | .delete _ => none
  | .sweep => none

/-- Moves the given key, if any, to the front. -/
def front (key : Option K) (lru : List K) : List K :=
  match key with
  | none => lru
  | some k => k :: lru.erase k

/--
`m'` results from `m` by removing entries, each for the reason `why`, and by
putting the entry `touched` in front.
-/
structure Effect
    (m m' : BoundedMap K V)
    (evs : List (EvictionEvent K V))
    (touched : Option (K × BoundedEntry V))
    (why : K → BoundedEntry V → Prop) : Prop where
  config : SameConfig m m'
  indexed : m'.Indexed
  lru_sublist : m'.lru.Sublist (front (touched.map Prod.fst) m.lru)
  entries : ∀ k e, m'.items.lookup k = some e →
    touched = some (k, e) ∨ (touched.map Prod.fst ≠ some k ∧ m.items.lookup k = some e)
  removed : ∀ k e, m.items.lookup k = some e → m'.items.lookup k = none → why k e
  reported_nodup : (evs.map EvictionEvent.key).Nodup
  reported : m.onEvict = true → ∀ k v,
    (∃ reason, ⟨k, v, reason⟩ ∈ evs) ↔
      ∃ e, m.items.lookup k = some e ∧ e.value = v ∧ m'.items.lookup k = none

variable {key : K} {entry : BoundedEntry V} {touched : Option (K × BoundedEntry V)}

/-- Removals alone touch no key. -/
theorem Restricts.effect (h : Restricts m m' evs why) :
    Effect m m' evs none why where
  config := h.config
  indexed := h.indexed
  lru_sublist := h.lru_sublist
  entries := fun k e he => .inr ⟨by simp, h.sub k e he⟩
  removed := h.removed
  reported_nodup := h.reported_nodup
  reported := h.reported

/-- `m'` is `m` with `entry` stored under `key`, in front of the lru list. -/
structure Stores
    (m m' : BoundedMap K V)
    (key : K) (entry : BoundedEntry V) : Prop where
  config : SameConfig m m'
  lru : m'.lru = key :: m.lru.erase key
  lookup : ∀ k, m'.items.lookup k = if k = key then some entry else m.items.lookup k

theorem Stores.indexed (hm : m.Indexed) (h : Stores m m' key entry) :
    m'.Indexed where
  nodup := by
    rw [h.lru, List.nodup_cons]
    exact ⟨hm.nodup.not_mem_erase, hm.nodup.erase key⟩
  mem_lru := by
    intro k
    rw [h.lru, List.mem_cons, hm.nodup.mem_erase_iff, hm.mem_lru,
      mem_iff_lookup, mem_iff_lookup, h.lookup]
    by_cases hk : k = key <;> simp [hk]

/--
Removals, a store, and a removal of expired entries together.  The stored key
must not be lost by the first removals, and the stored entry is not expired.
-/
theorem Stores.effect {m₁ m₂ m₃ : BoundedMap K V} {evs₁ evs₂ : List (EvictionEvent K V)} {now : Nat}
    (h₁ : Restricts m m₁ evs₁ why) (h₂ : Stores m₁ m₂ key entry)
    (h₃ : Restricts m₂ m₃ evs₂ (fun _ e => m₂.isExpiredAt e now = true))
    (hkey : key ∈ m.items → key ∈ m₁.items) (hfresh : m.isExpiredAt entry now = false) :
    Effect m m₃ (evs₁ ++ evs₂) (some (key, entry))
      (fun k e => why k e ∨ m.isExpiredAt e now = true) := by
  have hconfig : SameConfig m m₂ := h₁.config.trans h₂.config
  -- The stored entry survives the sweep.
  have hkept : m₃.items.lookup key ≠ none := by
    intro hnone
    have hexp := h₃.removed key entry (by simp [h₂.lookup]) hnone
    rw [hconfig.isExpiredAt_eq, hfresh] at hexp
    cases hexp
  have hkeep : ∀ k, m₂.items.lookup k = m₁.items.lookup k ∨
      m₃.items.lookup k ≠ none ∧ (k ∈ m.items → k ∈ m₁.items) := by
    intro k
    by_cases hk : k = key
    · subst hk
      exact .inr ⟨hkept, hkey⟩
    · exact .inl (by rw [h₂.lookup, if_neg hk])
  refine
    { config := hconfig.trans h₃.config
      indexed := h₃.indexed
      lru_sublist := ?_
      entries := ?_
      removed := ?_
      reported_nodup := h₁.nodup_compose h₃ hkeep
      reported := h₁.reported_compose h₃ hkeep hconfig }
  · refine h₃.lru_sublist.trans ?_
    rw [h₂.lru]
    exact (h₁.lru_sublist.erase key).cons_cons key
  · intro k e he
    have hmid := h₃.sub k e he
    rw [h₂.lookup] at hmid
    split_ifs at hmid with hk
    · left
      rw [hk, Option.some.inj hmid]
    · exact .inr ⟨by simpa using fun h => hk h.symm, h₁.sub k e hmid⟩
  · intro k e hbefore hafter
    have hwhy := h₁.removed_compose h₃ hkeep k e hbefore hafter
    rwa [hconfig.isExpiredAt_eq] at hwhy

theorem Effect.mono {why' : K → BoundedEntry V → Prop} (h : Effect m m' evs touched why)
    (hwhy : ∀ k e, why k e → why' k e) : Effect m m' evs touched why' :=
  { h with removed := fun k e h₁ h₂ => hwhy k e (h.removed k e h₁ h₂) }

/-- Counting the operation does not matter to its effect. -/
theorem Effect.of_countOp (h : Effect m.countOp m' evs touched why) : Effect m m' evs touched why :=
  { h with config := ⟨h.config.maxSize, h.config.ttl, h.config.onEvict⟩ }

omit [DecidableEq K] in
theorem Indexed.countOp (hm : m.Indexed) : m.countOp.Indexed := ⟨hm.nodup, hm.mem_lru⟩

/-- The reasons for which a call removes an entry. -/
def LostBy (m : BoundedMap K V) (c : Call K V) (k : K) (e : BoundedEntry V) : Prop :=
  m.isExpiredAt e c.now = true ∨
    c.op = .delete k ∨
    ∃ key value, c.op = .put key value ∧ key ∉ m.items ∧
      m.maxSize ≤ m.len ∧ m.lru.getLast? = some k

theorem stores_moveToFront (hentry : m.items.lookup key = some entry) :
    Stores m (m.moveToFront key) key entry where
  config := ⟨rfl, rfl, rfl⟩
  lru := rfl
  lookup := by
    intro k
    split_ifs with hk
    · rw [hk]
      exact hentry
    · rfl

theorem get_effect (hm : m.Indexed) (now : Nat) (key : K) :
    Effect m (m.get now key).2.1 (m.get now key).2.2
      (m.touched ⟨now, .get key⟩) (m.LostBy ⟨now, .get key⟩) := by
  apply Effect.of_countOp
  have hexpiry : ∀ e, m.countOp.isExpiredAt e now = m.isExpiredAt e now := fun _ => rfl
  have hitems : m.countOp.items = m.items := rfl
  cases hentry : m.items.lookup key with
  | none =>
    simp only [get, touched, hitems, hentry, Option.filter_none, Option.map_none]
    exact (maybeSweepLocked_restricts hm.countOp now).effect.mono fun _ _ h => .inl h
  | some entry =>
    by_cases hexp : m.isExpiredAt entry now = true
    · -- An expired entry is removed on read, before the opportunistic sweep.
      simp only [get, touched, hitems, hentry, hexpiry, hexp, if_true,
        Option.filter_some, Bool.not_true, Bool.false_eq_true, if_false, Option.map_none]
      have hevict := evictLocked_restricts hm.countOp hentry .ttl
        (fun _ e => m.isExpiredAt e now = true) hexp
      have hsweep := maybeSweepLocked_restricts hevict.indexed now
      exact (hevict.trans hsweep).effect.mono fun _ _ h => .inl h
    · rw [Bool.not_eq_true] at hexp
      simp only [get, touched, hitems, hentry, hexpiry, hexp, Bool.false_eq_true, if_false,
        Option.filter_some, Bool.not_false, if_true, Option.map_some]
      have hstores := stores_moveToFront (m := m.countOp) hentry
      have hsweep := maybeSweepLocked_restricts (hstores.indexed hm.countOp) now
      have heffect := Stores.effect (.refl hm.countOp fun _ _ => False) hstores hsweep
        (fun h => h) hexp
      exact heffect.mono fun _ _ h => .inl (h.resolve_left id)

/--
`Put` removes for room if the key is new, stores the entry, and sweeps.
-/
theorem put_steps (hm : m.Indexed) (now : Nat) (key : K) (value : V) :
    ∃ m₁ m₂ evs₁ evs₂,
      (key ∈ m.items ∧ m₁ = m.countOp ∧ evs₁ = [] ∨
        key ∉ m.items ∧ m₁ = m.countOp.makeRoom.1 ∧ evs₁ = m.countOp.makeRoom.2) ∧
      Stores m₁ m₂ key ⟨value, m.nextExpiryAt now⟩ ∧
      Restricts m₂ (m.put now key value).1 evs₂ (fun _ e => m₂.isExpiredAt e now = true) ∧
      (m.put now key value).2 = evs₁ ++ evs₂ := by
  by_cases hmem : key ∈ m.countOp.items
  · have hstores : Stores m.countOp
        ({ m.countOp with
            items := m.countOp.items.insert key ⟨value, m.countOp.nextExpiryAt now⟩ }.moveToFront
          key)
        key ⟨value, m.nextExpiryAt now⟩ :=
      ⟨⟨rfl, rfl, rfl⟩, rfl, fun k => lookup_insert_ite _ key k _⟩
    have hsweep := maybeSweepLocked_restricts (hstores.indexed hm.countOp) now
    simp only [put, if_pos hmem]
    exact ⟨_, _, [], _, .inl ⟨hmem, rfl, rfl⟩, hstores, hsweep, rfl⟩
  · have hroom := makeRoom_restricts hm.countOp
    have hout : key ∉ m.countOp.makeRoom.1.lru := by
      rw [hroom.indexed.mem_lru]
      exact fun h => hmem (hroom.mem h)
    have hstores : Stores m.countOp.makeRoom.1
        { m.countOp.makeRoom.1 with
          lru := key :: m.countOp.makeRoom.1.lru
          items := m.countOp.makeRoom.1.items.insert key
            ⟨value, m.countOp.makeRoom.1.nextExpiryAt now⟩ }
        key ⟨value, m.nextExpiryAt now⟩ := by
      refine ⟨⟨rfl, rfl, rfl⟩, ?_, fun k => ?_⟩
      · rw [List.erase_of_not_mem hout]
      · rw [hroom.config.nextExpiryAt_eq now]
        exact lookup_insert_ite _ key k _
    have hsweep := maybeSweepLocked_restricts (hstores.indexed hroom.indexed) now
    simp only [put, if_neg hmem]
    exact ⟨_, _, _, _, .inr ⟨hmem, rfl, rfl⟩, hstores, hsweep, rfl⟩

theorem put_effect (hm : m.Indexed) (now : Nat) (key : K) (value : V) :
    Effect m (m.put now key value).1 (m.put now key value).2
      (m.touched ⟨now, .put key value⟩) (m.LostBy ⟨now, .put key value⟩) := by
  apply Effect.of_countOp
  have hfresh := not_isExpiredAt_nextExpiryAt m.countOp value now
  obtain ⟨m₁, m₂, evs₁, evs₂, hcase, hstores, hsweep, hevs⟩ := put_steps hm now key value
  rw [hevs]
  rcases hcase with ⟨-, rfl, rfl⟩ | ⟨hmem, rfl, rfl⟩
  · have heffect := Stores.effect (.refl hm.countOp fun _ _ => False) hstores hsweep
      (fun h => h) hfresh
    exact heffect.mono fun _ _ h => .inl (h.resolve_left id)
  · refine (Stores.effect (makeRoom_restricts hm.countOp) hstores hsweep
      (fun h => absurd h hmem) hfresh).mono ?_
    rintro k e (⟨hfull, hlast⟩ | hexp)
    · exact .inr (.inr ⟨key, value, rfl, hmem, hfull, hlast⟩)
    · exact .inl hexp

theorem put_len_le (hm : m.Indexed) (hpos : 0 < m.maxSize) (hlen : m.len ≤ m.maxSize)
    (now : Nat) (key : K) (value : V) : (m.put now key value).1.len ≤ m.maxSize := by
  obtain ⟨m₁, m₂, evs₁, evs₂, hcase, hstores, hsweep, -⟩ := put_steps hm now key value
  rcases hcase with ⟨hmem, rfl, -⟩ | ⟨hmem, rfl, -⟩
  · have hindexed := hstores.indexed hm.countOp
    have hle := hsweep.len_le hindexed
    have hkey : key ∈ m.lru := (hm.mem_lru key).mpr hmem
    have hlru : m₂.lru.length = m.lru.length := by
      rw [hstores.lru, List.length_cons]
      exact List.length_erase_add_one hkey
    rw [hindexed.length_lru, hm.length_lru] at hlru
    omega
  · have hroom := makeRoom_restricts hm.countOp
    have hindexed := hstores.indexed hroom.indexed
    have hle := hsweep.len_le hindexed
    have hlt := makeRoom_len_lt hm.countOp hpos hlen
    have hlru : m₂.lru.length ≤ m.countOp.makeRoom.1.lru.length + 1 := by
      rw [hstores.lru, List.length_cons]
      exact Nat.succ_le_succ List.length_erase_le
    rw [hindexed.length_lru, hroom.indexed.length_lru] at hlru
    have hbound : m.countOp.maxSize = m.maxSize := rfl
    omega

theorem delete_effect (hm : m.Indexed) (now : Nat) (key : K) :
    Effect m (m.delete now key).1 (m.delete now key).2
      (m.touched ⟨now, .delete key⟩) (m.LostBy ⟨now, .delete key⟩) := by
  apply Effect.of_countOp
  have hitems : m.countOp.items = m.items := rfl
  cases hentry : m.items.lookup key with
  | none =>
    simp only [delete, hitems, hentry]
    exact (maybeSweepLocked_restricts hm.countOp now).effect.mono fun _ _ h => .inl h
  | some entry =>
    simp only [delete, hitems, hentry]
    have hevict := evictLocked_restricts hm.countOp hentry .unknown
      (fun k e => m.LostBy ⟨now, .delete key⟩ k e) (.inr (.inl rfl))
    have hsweep := maybeSweepLocked_restricts hevict.indexed now
    exact (hevict.trans (hsweep.mono fun _ _ h => .inl h)).effect

theorem sweep_effect (hm : m.Indexed) (now : Nat) :
    Effect m (m.sweep now).1 (m.sweep now).2
      (m.touched ⟨now, .sweep⟩) (m.LostBy ⟨now, .sweep⟩) :=
  ((sweepLocked_restricts hm now).setLastSweep now).effect.mono fun _ _ h => .inl h

/-- The effect of every call. -/
theorem step_effect (hm : m.Indexed) (c : Call K V) :
    Effect m (m.step c).map (m.step c).events (m.touched c) (m.LostBy c) := by
  obtain ⟨now, op⟩ := c
  cases op with
  | get key => exact get_effect hm now key
  | put key value => exact put_effect hm now key value
  | delete key => exact delete_effect hm now key
  | sweep => exact sweep_effect hm now

/-- What `Get` returns: the value of the entry it touches. -/
theorem get_value (m : BoundedMap K V) (now : Nat) (key : K) :
    (m.step ⟨now, .get key⟩).value =
      (m.touched ⟨now, .get key⟩).map fun t => t.2.value := by
  have hexpiry : ∀ e, m.countOp.isExpiredAt e now = m.isExpiredAt e now := fun _ => rfl
  have hitems : m.countOp.items = m.items := rfl
  simp only [step, get, touched, hitems, hexpiry]
  cases m.items.lookup key with
  | none => rfl
  | some entry => cases hexp : m.isExpiredAt entry now <;> simp [hexp, Option.filter_some]

/-- Removals and moving a present key to the front do not enlarge the map. -/
theorem Effect.len_le (hm : m.Indexed) (h : Effect m m' evs touched why)
    (hpresent : ∀ k e, touched = some (k, e) → k ∈ m.items) : m'.len ≤ m.len := by
  have hlength := h.lru_sublist.length_le
  rw [h.indexed.length_lru] at hlength
  cases touched with
  | none =>
    rw [← hm.length_lru]
    exact hlength
  | some t =>
    have hkey : t.1 ∈ m.lru := (hm.mem_lru _).mpr (hpresent t.1 t.2 rfl)
    have herase := List.length_erase_add_one hkey
    simp only [Option.map_some, front, List.length_cons, herase, hm.length_lru] at hlength
    exact hlength

/-- No call makes the map larger than its bound. -/
theorem step_len_le
    (hm : m.Indexed) (hpos : 0 < m.maxSize) (hlen : m.len ≤ m.maxSize) (c : Call K V) :
    (m.step c).map.len ≤ m.maxSize := by
  obtain ⟨now, op⟩ := c
  cases op with
  | get key =>
    refine Nat.le_trans ((get_effect hm now key).len_le hm ?_) hlen
    intro k e htouched
    simp only [touched, Option.map_eq_some_iff, Option.filter_eq_some_iff] at htouched
    obtain ⟨e', ⟨hlookup, -⟩, heq⟩ := htouched
    cases heq
    exact mem_iff_lookup.mpr ⟨_, hlookup⟩
  | put key value => exact put_len_le hm hpos hlen now key value
  | delete key => exact Nat.le_trans ((delete_effect hm now key).len_le hm (by simp [touched])) hlen
  | sweep => exact Nat.le_trans ((sweep_effect hm now).len_le hm (by simp [touched])) hlen

end BoundedMap
end StreamAnalytics
