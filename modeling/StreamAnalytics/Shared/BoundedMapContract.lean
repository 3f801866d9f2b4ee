import StreamAnalytics.Shared.BoundedMapEffect

/-!
# The contract of the bounded LRU map

The contract is stated against the history of calls.  `lastPut` is the last
value stored under a key with the clock reading of the call, `lastUse` the
position of the last call that used the key, that is, stored it or read it
successfully.  `Tracks` relates the map to its history; it is preserved by every
call (`step_tracks`) and hence holds along every run (`run_tracks`).
-/

namespace StreamAnalytics
namespace BoundedMap

universe u v

variable {K : Type u} {V : Type v} [DecidableEq K]

/-! ## Histories -/

/-- The calls made so far with the values they returned, the latest first. -/
abbrev History (K : Type u) (V : Type v) := List (Call K V × Option V)

/-- The last value stored under `k`, with the clock reading of that `Put`. -/
def lastPut (k : K) : History K V → Option (Nat × V)
  | [] => none
  | (c, _) :: h =>
    match c.op with
    | .put k' v => if k' = k then some (c.now, v) else lastPut k h
    | _ => lastPut k h

/-- The key a finished call used: the key it stored, or the key it found. -/
def usedKey (r : Call K V × Option V) : Option K :=
  match r.1.op with
  | .get k => r.2.map fun _ => k
  | .put k _ => some k
  | .delete _ => none
  | .sweep => none

/-- The position of the last call that used `k`; zero if there is none. -/
def lastUse (k : K) : History K V → Nat
  | [] => 0
  | r :: h => if usedKey r = some k then h.length + 1 else lastUse k h

variable {m : BoundedMap K V} {k : K} {h : History K V}

theorem lastUse_le_length (k : K) (h : History K V) : lastUse k h ≤ h.length := by
  induction h with
  | nil => exact Nat.le_refl 0
  | cons r h ih =>
    simp only [lastUse, List.length_cons]
    split_ifs <;> omega

/-- A map together with its history. -/
structure Run (K : Type u) (V : Type v) where
  map : BoundedMap K V
  history : History K V

/-- Extends a run by one call. -/
def Run.next (r : Run K V) (c : Call K V) : Run K V :=
  ⟨(r.map.step c).map, (c, (r.map.step c).value) :: r.history⟩

/-- The run of a list of calls. -/
def run (m : BoundedMap K V) (calls : List (Call K V)) : Run K V := calls.foldl Run.next ⟨m, []⟩

/-- An unexpired store: there is no time to live, or it has not elapsed since `t`. -/
def Live (m : BoundedMap K V) (t now : Nat) : Prop := m.ttl ≤ 0 ∨ (now : Int) < t + m.ttl

omit [DecidableEq K] in
theorem isExpiredAt_eq_false_iff {value : V} {t now : Nat} :
    m.isExpiredAt ⟨value, m.nextExpiryAt t⟩ now = false ↔ m.Live t now := by
  unfold isExpiredAt nextExpiryAt Live
  by_cases httl : m.ttl ≤ 0
  · simp [httl]
  · simp only [httl, if_false, Bool.and_eq_false_iff, Bool.not_eq_false', beq_iff_eq,
      decide_eq_false_iff_not, false_or]
    omega

/-! ## The map tracks its history -/

/--
The relation between a map and its history: every entry is the last store of its
key, and the lru list is ordered by last use.
-/
structure Tracks (m : BoundedMap K V) (h : History K V) : Prop where
  indexed : m.Indexed
  maxSize_pos : 0 < m.maxSize
  len_le : m.len ≤ m.maxSize
  entry : ∀ k e, m.items.lookup k = some e →
    ∃ t, lastPut k h = some (t, e.value) ∧ e.expiresAt = m.nextExpiryAt t
  recency : m.lru.Pairwise fun a b => lastUse b h < lastUse a h

/-- The used key of a call is the touched one. -/
theorem usedKey_step (m : BoundedMap K V) (c : Call K V) :
    usedKey (c, (m.step c).value) = (m.touched c).map Prod.fst := by
  obtain ⟨now, op⟩ := c
  cases op with
  | get key =>
    simp only [usedKey, get_value, Option.map_map]
    simp only [touched, Option.map_map]
    rfl
  | put key value => rfl
  | delete key => rfl
  | sweep => rfl

/-- Storing another key, or anything but storing, keeps the last store of a key. -/
theorem lastPut_cons_of_untouched
    {c : Call K V} (hk : (m.touched c).map Prod.fst ≠ some k) (value : Option V) (h : History K V) :
    lastPut k ((c, value) :: h) = lastPut k h := by
  obtain ⟨now, op⟩ := c
  cases op with
  | put key v =>
    have hne : key ≠ k := by simpa [touched] using hk
    simp only [lastPut, if_neg hne]
  | get key => rfl
  | delete key => rfl
  | sweep => rfl

/-- Moving the used key to the front keeps the list ordered by last use. -/
theorem recency_front {lru : List K} (hnodup : lru.Nodup)
    (hrecency : lru.Pairwise fun a b => lastUse b h < lastUse a h) (r : Call K V × Option V) :
    (front (usedKey r) lru).Pairwise fun a b => lastUse b (r :: h) < lastUse a (r :: h) := by
  cases hused : usedKey r with
  | none => simpa only [front, lastUse, hused, reduceCtorEq, if_false] using hrecency
  | some k =>
    simp only [front, List.pairwise_cons]
    constructor
    · intro b hb
      have hne : k ≠ b := by
        rintro rfl
        exact hnodup.not_mem_erase hb
      have hle := lastUse_le_length b h
      simp only [lastUse, hused, Option.some.injEq, if_neg hne, if_true]
      omega
    · refine (hrecency.sublist List.erase_sublist).imp_of_mem ?_
      intro a b ha hb hab
      have hka : k ≠ a := by
        rintro rfl
        exact hnodup.not_mem_erase ha
      have hkb : k ≠ b := by
        rintro rfl
        exact hnodup.not_mem_erase hb
      simpa only [lastUse, hused, Option.some.injEq, if_neg hka, if_neg hkb] using hab

/-- Every call keeps the map in step with its history. -/
theorem step_tracks
    (hm : m.Tracks h) (c : Call K V) : (m.step c).map.Tracks ((c, (m.step c).value) :: h) := by
  have heffect := step_effect hm.indexed c
  refine
    { indexed := heffect.indexed
      maxSize_pos := by rw [heffect.config.maxSize]; exact hm.maxSize_pos
      len_le := by
        rw [heffect.config.maxSize]
        exact step_len_le hm.indexed hm.maxSize_pos hm.len_le c
      entry := ?_
      recency := ?_ }
  · intro k e he
    simp only [heffect.config.nextExpiryAt_eq]
    rcases heffect.entries k e he with htouched | ⟨huntouched, hbefore⟩
    · obtain ⟨now, op⟩ := c
      cases op with
      | get key =>
        simp only [touched, Option.map_eq_some_iff, Option.filter_eq_some_iff] at htouched
        obtain ⟨e', ⟨hlookup, -⟩, heq⟩ := htouched
        cases heq
        exact hm.entry k e hlookup
      | put key value =>
        simp only [touched, Option.some.injEq, Prod.mk.injEq] at htouched
        obtain ⟨rfl, rfl⟩ := htouched
        exact ⟨now, by simp [lastPut], rfl⟩
      | delete key => cases htouched
      | sweep => cases htouched
    · rw [lastPut_cons_of_untouched huntouched]
      exact hm.entry k e hbefore
  · have hsublist := heffect.lru_sublist
    rw [← usedKey_step] at hsublist
    exact (recency_front hm.indexed.nodup hm.recency _).sublist hsublist

theorem run_tracks (hm : m.Tracks []) (calls : List (Call K V)) :
    (run m calls).map.Tracks (run m calls).history := by
  have hfold : ∀ (calls : List (Call K V)) (r : Run K V), r.map.Tracks r.history →
      (calls.foldl Run.next r).map.Tracks (calls.foldl Run.next r).history := by
    intro calls
    induction calls with
    | nil => exact fun _ hr => hr
    | cons c calls ih => exact fun r hr => ih (r.next c) (step_tracks hr c)
  exact hfold calls ⟨m, []⟩ hm

/-- No operation changes the configuration. -/
theorem run_config
    (hm : m.Tracks []) (calls : List (Call K V)) : SameConfig m (run m calls).map := by
  have hfold : ∀ (calls : List (Call K V)) (r : Run K V), r.map.Tracks r.history →
      SameConfig r.map (calls.foldl Run.next r).map := by
    intro calls
    induction calls with
    | nil => exact fun r _ => .refl r.map
    | cons c calls ih =>
      exact fun r hr => (step_effect hr.indexed c).config.trans (ih (r.next c) (step_tracks hr c))
  exact hfold calls ⟨m, []⟩ hm

/-! ## The contract -/

/-- The last key of the lru list is the least recently used one. -/
theorem Tracks.lastUse_lt_of_getLast
    (hm : m.Tracks h) {k' : K} (hlast : m.lru.getLast? = some k) (hk' : k' ∈ m.items)
    (hne : k' ≠ k) : lastUse k h < lastUse k' h := by
  obtain ⟨lru, hlru⟩ := List.getLast?_eq_some_iff.mp hlast
  have hrecency := hm.recency
  rw [hlru, List.pairwise_append] at hrecency
  have hmem : k' ∈ lru ++ [k] := hlru ▸ (hm.indexed.mem_lru k').mpr hk'
  have hmem' : k' ∈ lru := by simpa [hne] using hmem
  exact hrecency.2.2 k' hmem' k (by simp)

/-- A present key was stored; its entry is the last store. -/
theorem Tracks.lookup_iff (hm : m.Tracks h) {t : Nat} {v : V} (hput : lastPut k h = some (t, v)) :
    k ∈ m.items ↔ m.items.lookup k = some ⟨v, m.nextExpiryAt t⟩ := by
  rw [GoMap.mem_iff_lookup]
  constructor
  · rintro ⟨⟨value, expiresAt⟩, hlookup⟩
    obtain ⟨t', hput', hexpiry⟩ := hm.entry k _ hlookup
    rw [hput] at hput'
    cases hput'
    simp only at hexpiry
    rw [hlookup, hexpiry]
  · intro hlookup
    exact ⟨_, hlookup⟩

/-- `Get` returns exactly the unexpired last store of a present key. -/
theorem Tracks.get_value_iff (hm : m.Tracks h) (now : Nat) (k : K) (v : V) :
    (m.step ⟨now, .get k⟩).value = some v ↔
      k ∈ m.items ∧ ∃ t, lastPut k h = some (t, v) ∧ m.Live t now := by
  rw [get_value]
  simp only [touched, Option.map_map, Option.map_eq_some_iff, Option.filter_eq_some_iff,
    Function.comp_apply, Bool.not_eq_true']
  constructor
  · rintro ⟨⟨value, expiresAt⟩, ⟨hlookup, hfresh⟩, rfl⟩
    obtain ⟨t, hput, rfl⟩ := hm.entry k _ hlookup
    exact ⟨GoMap.mem_iff_lookup.mpr ⟨_, hlookup⟩, t, hput, isExpiredAt_eq_false_iff.mp hfresh⟩
  · rintro ⟨hmem, t, hput, hlive⟩
    exact ⟨_, ⟨(hm.lookup_iff hput).mp hmem, isExpiredAt_eq_false_iff.mpr hlive⟩, rfl⟩

/-- A live key is lost to `Delete`, or to a `Put` of a new key into a full map. -/
theorem Tracks.removed_live (hm : m.Tracks h) {c : Call K V} {t : Nat} {v : V} (hk : k ∈ m.items)
    (hput : lastPut k h = some (t, v)) (hlive : m.Live t c.now) (hgone : k ∉ (m.step c).map.items) :
    c.op = .delete k ∨
      ∃ key value, c.op = .put key value ∧ key ∉ m.items ∧ m.len = m.maxSize ∧
        ∀ k' ∈ m.items, k' ≠ k → lastUse k h < lastUse k' h := by
  have hlookup := (hm.lookup_iff hput).mp hk
  have hnone : (m.step c).map.items.lookup k = none := AList.lookup_eq_none.mpr hgone
  rcases (step_effect hm.indexed c).removed k _ hlookup hnone with hexp | hdelete | hsize
  · rw [isExpiredAt_eq_false_iff.mpr hlive] at hexp
    cases hexp
  · exact .inl hdelete
  · obtain ⟨key, value, hop, hnew, hfull, hlast⟩ := hsize
    exact .inr ⟨key, value, hop, hnew, Nat.le_antisymm hm.len_le hfull,
      fun k' hk' hne => hm.lastUse_lt_of_getLast hlast hk' hne⟩

/-- The eviction callback receives exactly the removed entries. -/
theorem Tracks.reported_iff
    (hm : m.Tracks h) (hon : m.onEvict = true) (c : Call K V) (k : K) (v : V) :
    (∃ reason, ⟨k, v, reason⟩ ∈ (m.step c).events) ↔
      k ∈ m.items ∧ k ∉ (m.step c).map.items ∧ ∃ t, lastPut k h = some (t, v) := by
  rw [(step_effect hm.indexed c).reported hon]
  constructor
  · rintro ⟨e, hlookup, rfl, hnone⟩
    obtain ⟨t, hput, -⟩ := hm.entry k e hlookup
    exact ⟨GoMap.mem_iff_lookup.mpr ⟨e, hlookup⟩, AList.lookup_eq_none.mp hnone, t, hput⟩
  · rintro ⟨hmem, hgone, t, hput⟩
    exact ⟨_, (hm.lookup_iff hput).mp hmem, rfl, AList.lookup_eq_none.mpr hgone⟩

/-- A new map with the given sweep cadence and, optionally, an eviction callback. -/
def configured (maxSize ttl : Int) (t₀ : Nat) (callback : Bool)
    (everyOps : Nat) (minInterval : Int) : BoundedMap K V :=
  let m := ((create maxSize ttl t₀).setSweepEveryOps everyOps).setSweepMinInterval minInterval
  if callback then m.setOnEvict else m

theorem configured_tracks
    (maxSize ttl : Int) (t₀ : Nat) (callback : Bool) (everyOps : Nat) (minInterval : Int) :
    (configured maxSize ttl t₀ callback everyOps minInterval : BoundedMap K V).Tracks [] := by
  have hsize : 0 < (create maxSize ttl t₀ : BoundedMap K V).maxSize := by
    unfold create
    dsimp only
    split_ifs <;> omega
  have hcreate : (create maxSize ttl t₀ : BoundedMap K V).Tracks [] :=
    { indexed := ⟨List.nodup_nil, fun k => by simp [create]⟩
      maxSize_pos := hsize
      len_le := Nat.zero_le _
      entry := by
        intro k e he
        simp [create] at he
      recency := List.Pairwise.nil }
  cases callback <;>
    exact ⟨⟨hcreate.indexed.nodup, hcreate.indexed.mem_lru⟩, hcreate.maxSize_pos,
      hcreate.len_le, hcreate.entry, hcreate.recency⟩

end BoundedMap
end StreamAnalytics
