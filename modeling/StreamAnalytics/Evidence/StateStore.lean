import Mathlib.Data.Prod.Lex
import Mathlib.Data.String.Basic
import StreamAnalytics.Lib.GoMap
import StreamAnalytics.Lib.GoStrings
import StreamAnalytics.Lib.SortedGroups

/-!
# The streams an evidence engine tracks

Model of `internal/core/evidence/app/state_store.go`.  The store has a bounded number of
entries, one for each stream.  `Observe` drops the entries whose last timestamp is too far
below the timestamp of the event, refuses an event whose seq does not exceed the last seq
of its stream, and otherwise records the event.  If this makes the store too large, the
entry with the oldest timestamp is dropped.  The dropped entry can be the new one.

Timestamps are positive `int64` values, so their differences do not overflow.
-/

namespace StreamAnalytics
namespace Evidence

open GoStrings GoMap AList

/-! ## The oldest of the listed keys -/

section Oldest

variable {κ : Type}

/-- The loop over the keys after the first one. -/
def oldestFrom (lastTs : κ → Int) (victim : κ) (ks : List κ) : κ :=
  ks.foldl (fun victim k => if lastTs k < lastTs victim then k else victim) victim

/-- Keys are compared by timestamp, then by themselves. -/
def age (lastTs : κ → Int) (k : κ) : Int ×ₗ κ := toLex (lastTs k, k)

theorem age_injective (lastTs : κ → Int) : Function.Injective (age lastTs) := by
  intro k k' h
  exact congrArg Prod.snd (toLex.injective h)

theorem oldestFrom_mem
    (lastTs : κ → Int) (victim : κ) (ks : List κ) : oldestFrom lastTs victim ks ∈ victim :: ks := by
  induction ks generalizing victim with
  | nil => exact List.mem_cons_self
  | cons k ks ih =>
    rcases List.mem_cons.mp (ih (if lastTs k < lastTs victim then k else victim)) with h | h
    · change oldestFrom lastTs _ ks ∈ _
      rw [h]
      split_ifs
      · exact List.mem_cons_of_mem _ List.mem_cons_self
      · exact List.mem_cons_self
    · exact List.mem_cons_of_mem _ (List.mem_cons_of_mem _ h)

variable [LinearOrder κ]

theorem age_le_iff {lastTs : κ → Int} {k k' : κ} :
    age lastTs k ≤ age lastTs k' ↔ lastTs k < lastTs k' ∨ lastTs k = lastTs k' ∧ k ≤ k' :=
  Prod.Lex.toLex_le_toLex

theorem age_lt_iff {lastTs : κ → Int} {k k' : κ} :
    age lastTs k < age lastTs k' ↔ lastTs k < lastTs k' ∨ lastTs k = lastTs k' ∧ k < k' :=
  Prod.Lex.toLex_lt_toLex

/-- On ascending keys the loop finds the oldest one.  A key that replaces the victim is
older than it; a key that does not is later in the list. -/
theorem age_oldestFrom_le
    {lastTs : κ → Int} {victim : κ} {ks : List κ} (hsorted : (victim :: ks).Pairwise (· ≤ ·)) :
    ∀ k ∈ victim :: ks, age lastTs (oldestFrom lastTs victim ks) ≤ age lastTs k := by
  induction ks generalizing victim with
  | nil =>
    intro k hk
    rw [List.mem_singleton.mp hk]
    exact le_refl _
  | cons k ks ih =>
    obtain ⟨hvictim, htail⟩ := List.pairwise_cons.mp hsorted
    have hstep : oldestFrom lastTs victim (k :: ks)
        = oldestFrom lastTs (if lastTs k < lastTs victim then k else victim) ks := rfl
    rw [hstep]
    by_cases hlt : lastTs k < lastTs victim
    · rw [if_pos hlt]
      have hle := ih htail
      intro x hx
      rcases List.mem_cons.mp hx with rfl | hx
      · exact (hle k List.mem_cons_self).trans (age_le_iff.mpr (.inl hlt))
      · exact hle x hx
    · rw [if_neg hlt]
      have hle := ih (hsorted.sublist (List.Sublist.cons_cons victim (List.sublist_cons_self k ks)))
      intro x hx
      rcases List.mem_cons.mp hx with rfl | hx
      · exact hle x List.mem_cons_self
      · rcases List.mem_cons.mp hx with rfl | hx
        · refine (hle victim List.mem_cons_self).trans (age_le_iff.mpr ?_)
          rcases lt_or_eq_of_le (not_lt.mp hlt) with h | h
          · exact .inl h
          · exact .inr ⟨h, hvictim x List.mem_cons_self⟩
        · exact hle x (List.mem_cons_of_mem _ hx)

end Oldest

/-! ## The store -/

/-- `streamState`. -/
structure StreamState where
  lastTs : Int
  lastSeq : Int
deriving DecidableEq

/-- The reasons of a `StateEviction`. -/
inductive EvictionReason where
  | ttl
  | capacity
deriving DecidableEq

/-- `StateEviction`. -/
structure StateEviction where
  streamID : String
  reason : EvictionReason
deriving DecidableEq

/-- The reasons for which `Observe` does not accept an event. -/
inductive DropReason where
  | emptyStreamID
  | invalidSeq
  | invalidTsServer
  | nonMonotonicSeq
deriving DecidableEq

/-- `StateObserveResult`.  An accepted event has no reason. -/
structure StateObserveResult where
  reason : Option DropReason
  prevTs : Int
  evictions : List StateEviction
deriving DecidableEq

/-- `Accepted`. -/
def StateObserveResult.Accepted (r : StateObserveResult) : Prop := r.reason = none

instance (r : StateObserveResult) : Decidable r.Accepted := inferInstanceAs (Decidable (_ = _))

/-- The streams whose entries were removed. -/
def StateObserveResult.evicted (r : StateObserveResult) : List String :=
  r.evictions.map (·.streamID)

/-- `EvidenceStateStoreConfig`. -/
structure StateStoreConfig where
  maxEntries : Int
  ttlMillis : Int

/-- `EvidenceStateStore`. -/
structure StateStore where
  maxEntries : Int
  ttlMillis : Int
  entries : GoMap String StreamState
  named : "" ∉ entries
  bounded : (entries.size : Int) ≤ maxEntries

/-- The timestamp in the entry of a stream. -/
def lastTsIn (entries : GoMap String StreamState) (k : String) : Int :=
  (entries.getD k ⟨0, 0⟩).lastTs

/-- `oldestStream`. -/
def oldestStream (entries : GoMap String StreamState) : String :=
  match sortBy id entries.keys with
  | [] => ""
  | k :: ks => oldestFrom (lastTsIn entries) k ks

variable {entries : GoMap String StreamState} {k : String} {st : StreamState}

theorem lastTsIn_of_lookup (h : entries.lookup k = some st) : lastTsIn entries k = st.lastTs := by
  rw [lastTsIn, GoMap.getD, h]
  rfl

theorem oldestStream_spec {k₀ : String} (hk₀ : k₀ ∈ entries) :
    oldestStream entries ∈ entries ∧
      ∀ k ∈ entries, age (lastTsIn entries) (oldestStream entries) ≤ age (lastTsIn entries) k := by
  have hmem : ∀ k, k ∈ sortBy id entries.keys ↔ k ∈ entries := fun k => mem_sortBy
  have hsorted : (sortBy id entries.keys).Pairwise (· ≤ ·) := pairwise_sortBy id entries.keys
  unfold oldestStream
  cases h : sortBy id entries.keys with
  | nil =>
    have hnil := (hmem k₀).mpr hk₀
    rw [h] at hnil
    exact absurd hnil List.not_mem_nil
  | cons k ks =>
    rw [h] at hmem hsorted
    refine ⟨(hmem _).mp (oldestFrom_mem _ k ks), fun x hx => ?_⟩
    exact age_oldestFrom_le hsorted x ((hmem x).mpr hx)

namespace StateStore

/-- `NewEvidenceStateStore`. -/
def new (cfg : StateStoreConfig) : StateStore where
  maxEntries := if cfg.maxEntries ≤ 0 then 1024 else cfg.maxEntries
  ttlMillis := if cfg.ttlMillis ≤ 0 then 10 * 60 * 1000 else cfg.ttlMillis
  entries := ∅
  named := notMem_empty ""
  bounded := by
    rw [size_empty]
    split_ifs
    · decide
    · omega

/-- The test of `evictTTL`, which does nothing without a positive TTL. -/
def expired (s : StateStore) (currentTs : Int) (st : StreamState) : Bool :=
  decide (0 < s.ttlMillis) && decide (s.ttlMillis < currentTs - st.lastTs)

/-- The keys that `evictTTL` deletes, in the order of the deletions. -/
def expiredKeys (s : StateStore) (currentTs : Int) : List String :=
  (sortBy id s.entries.keys).filter fun k => (s.entries.lookup k).any (s.expired currentTs)

/-- The store after `evictTTL`. -/
def evictTTL (s : StateStore) (currentTs : Int) : StateStore where
  maxEntries := s.maxEntries
  ttlMillis := s.ttlMillis
  entries := s.entries.filter fun _ st => !s.expired currentTs st
  named := by
    intro h
    obtain ⟨st, hst⟩ := mem_iff_lookup.mp h
    rw [lookup_filter, Option.filter_eq_some_iff] at hst
    exact s.named (mem_iff_lookup.mpr ⟨st, hst.1⟩)
  bounded := by
    have h := size_filter_le (fun _ st => !s.expired currentTs st) s.entries
    have hbounded := s.bounded
    omega

theorem mem_insert_iff {id : String} : k ∈ entries.insert id st ↔ k = id ∨ k ∈ entries :=
  mem_insert entries

/-- The oldest entry of a store with a new entry is one of its entries, so the test of
`Observe` that the victim is not empty succeeds. -/
theorem oldestStream_insert_mem
    (entries : GoMap String StreamState) (id : String) (st : StreamState) :
    oldestStream (entries.insert id st) ∈ entries.insert id st :=
  (oldestStream_spec (mem_insert_iff.mpr (.inl rfl))).1

theorem size_insert_le (entries : GoMap String StreamState) (id : String) (st : StreamState) :
    GoMap.size (entries.insert id st) ≤ entries.size + 1 := by
  by_cases hid : id ∈ entries
  · rw [size_insert_of_mem st hid]
    omega
  · rw [size_insert_of_notMem st hid]

theorem notMem_insert_empty (s : StateStore) {id : String} (st : StreamState) (hid : id ≠ "") :
    "" ∉ s.entries.insert id st := by
  intro h
  rcases mem_insert_iff.mp h with heq | hmem
  · exact hid heq.symm
  · exact s.named hmem

/-- The end of `Observe`: the entry is written and the oldest entry dropped if there are too
many. -/
def put (s : StateStore) (id : String) (st : StreamState) (hid : id ≠ "") :
    StateStore × List StateEviction :=
  if hover : s.maxEntries < (GoMap.size (s.entries.insert id st) : Int) then
    ({ maxEntries := s.maxEntries
       ttlMillis := s.ttlMillis
       entries := (s.entries.insert id st).erase (oldestStream (s.entries.insert id st))
       named := fun h => s.notMem_insert_empty st hid (mem_erase.mp h).2
       bounded := by
        rw [size_erase_of_mem (oldestStream_insert_mem s.entries id st)]
        have hle := size_insert_le s.entries id st
        have hbounded := s.bounded
        omega },
      [⟨oldestStream (s.entries.insert id st), .capacity⟩])
  else
    ({ maxEntries := s.maxEntries
       ttlMillis := s.ttlMillis
       entries := s.entries.insert id st
       named := s.notMem_insert_empty st hid
       bounded := not_lt.mp hover }, [])

/-- `Observe`. -/
@[irreducible] def observe (s : StateStore) (streamID : String) (seq tsServer : Int) :
    StateStore × StateObserveResult :=
  let id := trimSpace streamID
  if hid : id = "" then (s, ⟨some .emptyStreamID, 0, []⟩)
  else if seq ≤ 0 then (s, ⟨some .invalidSeq, 0, []⟩)
  else if tsServer ≤ 0 then (s, ⟨some .invalidTsServer, 0, []⟩)
  else
    let kept := s.evictTTL tsServer
    let evictions := (s.expiredKeys tsServer).map fun k => ⟨k, .ttl⟩
    let prev := kept.entries.lookup id
    let prevTs := (prev.map (·.lastTs)).getD 0
    if prev.any fun p => seq ≤ p.lastSeq then (kept, ⟨some .nonMonotonicSeq, prevTs, evictions⟩)
    else
      let (stored, dropped) := kept.put id ⟨tsServer, seq⟩ hid
      (stored, ⟨none, prevTs, evictions ++ dropped⟩)

/-! ## What an observation does -/

theorem lookup_evictTTL (s : StateStore) (currentTs : Int) (k : String) :
    (s.evictTTL currentTs).entries.lookup k
      = (s.entries.lookup k).filter fun st => !s.expired currentTs st :=
  lookup_filter _ s.entries k

/-- A tracked stream that is not among the deleted ones is still tracked. -/
theorem mem_evictTTL
    {s : StateStore} {currentTs : Int} (hk : k ∈ s.entries) (hkept : k ∉ s.expiredKeys currentTs) :
    k ∈ (s.evictTTL currentTs).entries := by
  obtain ⟨st, hst⟩ := mem_iff_lookup.mp hk
  refine mem_iff_lookup.mpr ⟨st, ?_⟩
  rw [lookup_evictTTL, hst, Option.filter_some_eq_some]
  rw [Bool.not_eq_true']
  by_contra hexpired
  refine hkept (List.mem_filter.mpr ⟨mem_sortBy.mpr hk, ?_⟩)
  rw [hst]
  exact Bool.not_eq_false _ ▸ hexpired

/-- An entry that is written stays if its stream was there, if there was room for one more
entry, or if another entry is older. -/
def Room (s : StateStore) (id : String) (ts : Int) : Prop :=
  id ∈ s.entries ∨ (s.entries.size : Int) < s.maxEntries ∨
    ∃ k st, s.entries.lookup k = some st ∧ (st.lastTs < ts ∨ st.lastTs = ts ∧ k < id)

section Put

variable {s : StateStore} {id k : String} {st : StreamState} {hid : id ≠ ""}

/-- Every stream but the victim is tracked afterwards. -/
theorem mem_put (hk : k = id ∨ k ∈ s.entries) (hkept : k ∉ (s.put id st hid).2.map (·.streamID)) :
    k ∈ (s.put id st hid).1.entries := by
  unfold put at hkept ⊢
  split_ifs at hkept ⊢
  · refine mem_erase.mpr ⟨?_, mem_insert_iff.mpr hk⟩
    rintro rfl
    exact hkept List.mem_cons_self
  · exact mem_insert_iff.mpr hk

theorem lookup_of_lookup_put
    {st' : StreamState} (h : (s.put id st hid).1.entries.lookup k = some st') :
    s.entries.lookup k = some st' ∨ k = id ∧ st' = st := by
  have hinserted : (s.entries.insert id st).lookup k = some st' →
      s.entries.lookup k = some st' ∨ k = id ∧ st' = st := by
    rw [lookup_insert_ite]
    split_ifs with hk
    · exact fun h => .inr ⟨hk, (Option.some.inj h).symm⟩
    · exact .inl
  unfold put at h
  split_ifs at h
  · dsimp only at h
    rw [lookup_erase_ite] at h
    split_ifs at h
    exact hinserted h
  · exact hinserted h

theorem mem_put_self_iff : id ∈ (s.put id st hid).1.entries ↔ s.Room id st.lastTs := by
  unfold put
  split_ifs with hover
  · -- Too many entries: the stream is new and it stays unless it is the oldest.
    have hspec := oldestStream_spec (mem_insert_iff.mpr (.inl rfl) : id ∈ s.entries.insert id st)
    have hbounded := s.bounded
    have hnew : id ∉ s.entries := by
      intro hmem
      rw [size_insert_of_mem st hmem] at hover
      omega
    have hfull : ¬ (s.entries.size : Int) < s.maxEntries := by
      rw [size_insert_of_notMem st hnew] at hover
      omega
    have hself : lastTsIn (s.entries.insert id st) id = st.lastTs :=
      lastTsIn_of_lookup (lookup_insert s.entries)
    have hother : ∀ {k st'}, s.entries.lookup k = some st' →
        lastTsIn (s.entries.insert id st) k = st'.lastTs := by
      intro k st' hk
      have hne : k ≠ id := by
        rintro rfl
        exact hnew (mem_iff_lookup.mpr ⟨st', hk⟩)
      refine lastTsIn_of_lookup ?_
      rw [lookup_insert_ite, if_neg hne, hk]
    rw [mem_erase]
    constructor
    · rintro ⟨hne, -⟩
      obtain ⟨st', hst'⟩ : ∃ st', s.entries.lookup (oldestStream (s.entries.insert id st))
          = some st' := by
        rcases mem_insert_iff.mp hspec.1 with heq | hmem
        · exact absurd heq.symm hne
        · exact mem_iff_lookup.mp hmem
      have hlt := lt_of_le_of_ne (hspec.2 id (mem_insert_iff.mpr (.inl rfl)))
        fun heq => hne (age_injective _ heq).symm
      rw [age_lt_iff, hself, hother hst'] at hlt
      exact .inr (.inr ⟨_, st', hst', hlt⟩)
    · rintro (hmem | hroom | ⟨k, st', hk, hlt⟩)
      · exact absurd hmem hnew
      · exact absurd hroom hfull
      · refine ⟨?_, mem_insert_iff.mpr (.inl rfl)⟩
        intro heq
        have hle := hspec.2 k (mem_insert_iff.mpr (.inr (mem_iff_lookup.mpr ⟨st', hk⟩)))
        rw [← heq] at hle
        refine absurd (age_lt_iff.mpr ?_) (not_lt.mpr hle)
        rw [hself, hother hk]
        exact hlt
  · refine iff_of_true (mem_insert_iff.mpr (.inl rfl)) ?_
    by_cases hmem : id ∈ s.entries
    · exact .inl hmem
    · rw [size_insert_of_notMem st hmem] at hover
      exact .inr (.inl (by omega))

end Put

/-- The checks of `Observe` before it reads the store. -/
def Valid (streamID : String) (seq tsServer : Int) : Prop :=
  trimSpace streamID ≠ "" ∧ 0 < seq ∧ 0 < tsServer

/-- The seq does not exceed the last one of the stream, whose entry has not expired. -/
def Stale (s : StateStore) (streamID : String) (seq tsServer : Int) : Prop :=
  ∃ prev, s.entries.lookup (trimSpace streamID) = some prev ∧
    s.expired tsServer prev = false ∧ seq ≤ prev.lastSeq

section Observe

variable {s : StateStore} {streamID : String} {seq tsServer : Int}

theorem stale_iff :
    s.Stale streamID seq tsServer ↔
      ((s.evictTTL tsServer).entries.lookup (trimSpace streamID)).any
        (fun p => seq ≤ p.lastSeq) = true := by
  rw [lookup_evictTTL]
  unfold Stale
  cases s.entries.lookup (trimSpace streamID) with
  | none => simp
  | some prev =>
    cases h : s.expired tsServer prev with
    | false => simp [Option.filter, h]
    | true => simp [Option.filter, h]

/-- An observation has one of three outcomes. -/
theorem observe_cases (s : StateStore) (streamID : String) (seq tsServer : Int) :
    (¬ Valid streamID seq tsServer ∧ (s.observe streamID seq tsServer).1 = s ∧
        (s.observe streamID seq tsServer).2.evictions = [] ∧
        ∃ r ≠ DropReason.nonMonotonicSeq, (s.observe streamID seq tsServer).2.reason = some r) ∨
      (Valid streamID seq tsServer ∧ s.Stale streamID seq tsServer ∧
        (s.observe streamID seq tsServer).1 = s.evictTTL tsServer ∧
        (s.observe streamID seq tsServer).2.evicted = s.expiredKeys tsServer ∧
        (s.observe streamID seq tsServer).2.reason = some .nonMonotonicSeq) ∨
      (Valid streamID seq tsServer ∧ ¬ s.Stale streamID seq tsServer ∧
        ∃ hid : trimSpace streamID ≠ "",
          (s.observe streamID seq tsServer).1
            = ((s.evictTTL tsServer).put (trimSpace streamID) ⟨tsServer, seq⟩ hid).1 ∧
          (s.observe streamID seq tsServer).2.evicted = s.expiredKeys tsServer ++
            ((s.evictTTL tsServer).put (trimSpace streamID) ⟨tsServer, seq⟩ hid).2.map
              (·.streamID) ∧
          (s.observe streamID seq tsServer).2.reason = none) := by
  rw [stale_iff]
  unfold observe Valid StateObserveResult.evicted
  by_cases hid : trimSpace streamID = ""
  · rw [dif_pos hid]
    exact .inl ⟨fun h => h.1 hid, rfl, rfl, _, by decide, rfl⟩
  rw [dif_neg hid]
  by_cases hseq : seq ≤ 0
  · rw [if_pos hseq]
    exact .inl ⟨fun h => absurd h.2.1 (not_lt.mpr hseq), rfl, rfl, _, by decide, rfl⟩
  rw [if_neg hseq]
  by_cases hts : tsServer ≤ 0
  · rw [if_pos hts]
    exact .inl ⟨fun h => absurd h.2.2 (not_lt.mpr hts), rfl, rfl, _, by decide, rfl⟩
  rw [if_neg hts]
  refine .inr ?_
  have hvalid : trimSpace streamID ≠ "" ∧ 0 < seq ∧ 0 < tsServer :=
    ⟨hid, not_le.mp hseq, not_le.mp hts⟩
  have hkeys : ((s.expiredKeys tsServer).map fun k => (⟨k, .ttl⟩ : StateEviction)).map
      (·.streamID) = s.expiredKeys tsServer := by
    rw [List.map_map]
    exact List.map_id _
  by_cases hstale : ((s.evictTTL tsServer).entries.lookup (trimSpace streamID)).any
      (fun p => seq ≤ p.lastSeq) = true
  · left
    refine ⟨hvalid, hstale, ?_⟩
    dsimp only
    rw [if_pos hstale]
    exact ⟨rfl, hkeys, rfl⟩
  · right
    refine ⟨hvalid, hstale, hid, ?_⟩
    dsimp only
    rw [if_neg hstale]
    refine ⟨rfl, ?_, rfl⟩
    dsimp only
    rw [List.map_append, hkeys]

theorem reason_observe_iff :
    (s.observe streamID seq tsServer).2.reason = some .nonMonotonicSeq ↔
      Valid streamID seq tsServer ∧ s.Stale streamID seq tsServer := by
  rcases observe_cases s streamID seq tsServer with
    ⟨hvalid, -, -, r, hne, hreason⟩ | ⟨hvalid, hstale, -, -, hreason⟩ |
      ⟨hvalid, hstale, -, -, -, hreason⟩
  · rw [hreason]
    exact iff_of_false (fun h => hne (Option.some.inj h)) fun h => hvalid h.1
  · exact iff_of_true hreason ⟨hvalid, hstale⟩
  · rw [hreason]
    exact iff_of_false (fun h => nomatch h) fun h => hstale h.2

theorem valid_of_accepted
    (haccepted : (s.observe streamID seq tsServer).2.Accepted) : Valid streamID seq tsServer := by
  rcases observe_cases s streamID seq tsServer with
    ⟨-, -, -, r, -, hreason⟩ | ⟨hvalid, -⟩ | ⟨hvalid, -⟩
  · exact absurd (hreason.symm.trans haccepted) (Option.some_ne_none r)
  · exact hvalid
  · exact hvalid

/-- A tracked stream that is not evicted by an observation is tracked after it. -/
theorem mem_observe (hk : k ∈ s.entries) (hkept : k ∉ (s.observe streamID seq tsServer).2.evicted) :
    k ∈ (s.observe streamID seq tsServer).1.entries := by
  rcases observe_cases s streamID seq tsServer with
    ⟨-, hstore, -⟩ | ⟨-, -, hstore, hevicted, -⟩ | ⟨-, -, hid, hstore, hevicted, -⟩
  · rw [hstore]
    exact hk
  · rw [hevicted] at hkept
    rw [hstore]
    exact mem_evictTTL hk hkept
  · rw [hevicted, List.mem_append, not_or] at hkept
    rw [hstore]
    exact mem_put (.inr (mem_evictTTL hk hkept.1)) hkept.2

/-- An entry after an observation was there before or is the one of the observed event. -/
theorem lookup_of_lookup_observe
    (h : (s.observe streamID seq tsServer).1.entries.lookup k = some st) :
    s.entries.lookup k = some st ∨
      k = trimSpace streamID ∧ st = ⟨tsServer, seq⟩ := by
  have hkept : (s.evictTTL tsServer).entries.lookup k = some st → s.entries.lookup k = some st := by
    rw [lookup_evictTTL, Option.filter_eq_some_iff]
    exact fun h => h.1
  rcases observe_cases s streamID seq tsServer with
    ⟨-, hstore, -⟩ | ⟨-, -, hstore, -⟩ | ⟨-, -, hid, hstore, -⟩
  · rw [hstore] at h
    exact .inl h
  · rw [hstore] at h
    exact .inl (hkept h)
  · rw [hstore] at h
    rcases lookup_of_lookup_put h with h | h
    · exact .inl (hkept h)
    · exact .inr h

/-- The stream of an accepted event is tracked afterwards exactly if there is room for it
among the streams that have not expired. -/
theorem mem_observe_self_iff (haccepted : (s.observe streamID seq tsServer).2.Accepted) :
    trimSpace streamID ∈ (s.observe streamID seq tsServer).1.entries ↔
      (s.evictTTL tsServer).Room (trimSpace streamID) tsServer := by
  rcases observe_cases s streamID seq tsServer with
    ⟨-, -, -, r, -, hreason⟩ | ⟨-, -, -, -, hreason⟩ | ⟨-, -, hid, hstore, -⟩
  · exact absurd (hreason.symm.trans haccepted) (Option.some_ne_none r)
  · exact absurd (hreason.symm.trans haccepted) (Option.some_ne_none _)
  · rw [hstore]
    exact mem_put_self_iff

end Observe

end StateStore
end Evidence
end StreamAnalytics
