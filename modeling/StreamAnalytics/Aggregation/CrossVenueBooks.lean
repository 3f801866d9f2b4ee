import StreamAnalytics.Aggregation.Publications

/-!
# The books kept for cross-venue snapshots

The processor keeps a bounded number of instruments and, for each of them, the books of a bounded
number of venues (`upsertCrossVenueBook` in `processor_crossvenue_strategy.go`).  `InsertionLog`
is what this is meant to be: a first-in-first-out queue of instruments, and all the venues of an
instrument since its insertion.  After any calls the actor has the queue of the log and, of each
instrument, the venues with the smallest names.

Names are compared by code points, which is the order of their UTF-8 bytes.
-/

namespace StreamAnalytics
namespace Aggregation
namespace SnapshotPublisher

open GoMap Function AList

variable {n : Int} {latest : String → Option CrossVenueVenueBook}
  {venues : GoMap String CrossVenueVenueBook} {b : CrossVenueVenueBook}

/-! ## The venues of an instrument -/

/-- The venues are the `n` smallest of those that have a latest book: one is left out only for `n`
smaller ones. -/
structure KeepsSmallest (n : Int) (latest : String → Option CrossVenueVenueBook)
    (venues : GoMap String CrossVenueVenueBook) : Prop where
  size_le : (venues.size : Int) ≤ n
  latest_eq : ∀ venue b, venues.lookup venue = some b → latest venue = some b
  dropped : ∀ venue, latest venue ≠ none → venue ∉ venues →
    (venues.size : Int) = n ∧ ∀ kept ∈ venues, kept < venue

theorem keepsSmallest_empty (hn : 0 ≤ n) : KeepsSmallest n (fun _ => none) ∅ :=
  ⟨hn, fun _ _ h => (nomatch h), fun _ h => absurd rfl h⟩

theorem evictionCandidate_eq_max
    (venues : GoMap String CrossVenueVenueBook) : evictionCandidate venues = venues.keys.max? := by
  unfold evictionCandidate
  cases venues.keys with
  | nil => rfl
  | cons venue rest =>
    refine List.foldl_hom some fun evict venue => ?_
    rcases lt_or_ge evict venue with h | h
    · rw [Option.all_some, decide_eq_true h, if_pos rfl, max_eq_right h.le]
    · rw [Option.all_some, decide_eq_false h.not_gt, if_neg Bool.false_ne_true, max_eq_left h]

/-- The new book is written, and the other venues are kept or dropped. -/
theorem KeepsSmallest.insert
    {rest : GoMap String CrossVenueVenueBook} (h : KeepsSmallest n latest venues)
    (hrest : ∀ venue c, rest.lookup venue = some c → venues.lookup venue = some c)
    (hsize : (GoMap.size (rest.insert b.venue b) : Int) ≤ n)
    (hdropped : ∀ venue, latest venue ≠ none → venue ≠ b.venue → venue ∉ rest →
      (GoMap.size (rest.insert b.venue b) : Int) = n ∧ b.venue < venue ∧
        ∀ kept ∈ rest, kept < venue) :
    KeepsSmallest n (update latest b.venue (some b)) (rest.insert b.venue b) := by
  refine ⟨hsize, fun venue c hc => ?_, fun venue hvenue hnot => ?_⟩
  · rw [lookup_insert_ite] at hc
    rw [update_apply]
    split_ifs at hc ⊢
    · exact hc
    · exact h.latest_eq venue c (hrest venue c hc)
  · rw [mem_insert, not_or] at hnot
    rw [update_of_ne hnot.1] at hvenue
    obtain ⟨hfull, hlt, hall⟩ := hdropped venue hvenue hnot.1 hnot.2
    refine ⟨hfull, fun kept hkept => ?_⟩
    exact ((mem_insert _).mp hkept).elim (fun heq => heq ▸ hlt) (hall kept)

theorem KeepsSmallest.putVenue
    (h : KeepsSmallest n latest venues) (hn : 0 < n) (b : CrossVenueVenueBook) :
    KeepsSmallest n (update latest b.venue (some b)) (putVenue n venues b) := by
  unfold SnapshotPublisher.putVenue
  by_cases hmem : b.venue ∈ venues
  · have hsame := size_insert_of_mem b hmem
    rw [if_neg fun hfull => hfull.1 hmem]
    refine h.insert (fun _ _ hc => hc) (hsame ▸ h.size_le) fun venue hvenue _ hnot => ?_
    obtain ⟨hsize, hall⟩ := h.dropped venue hvenue hnot
    exact ⟨hsame ▸ hsize, hall _ hmem, hall⟩
  by_cases hroom : (venues.size : Int) < n
  · rw [if_neg fun hfull => hfull.2.not_gt hroom]
    refine h.insert (fun _ _ hc => hc) ?_ fun venue hvenue _ hnot => ?_
    · rw [size_insert_of_notMem b hmem]
      omega
    · exact absurd (h.dropped venue hvenue hnot).1 hroom.ne
  have hsize := le_antisymm h.size_le (not_lt.mp hroom)
  rw [if_pos ⟨hmem, hsize.ge⟩, evictionCandidate_eq_max]
  cases hmax : venues.keys.max? with
  | none =>
    rw [size_eq_length_keys, List.max?_eq_none_iff.mp hmax] at hsize
    exact absurd hsize hn.ne
  | some evict =>
    obtain ⟨hevict, hgreatest⟩ := List.max?_eq_some_iff.mp hmax
    dsimp only
    split_ifs with hlt
    · have hsize' : (GoMap.size ((venues.erase evict).insert b.venue b) : Int) = n := by
        rw [size_insert_of_notMem _ fun hb => hmem (mem_erase.mp hb).2,
          size_erase_of_mem hevict]
        omega
      refine h.insert (fun venue c hc => ?_) hsize'.le fun venue hvenue _ hnot => ⟨hsize', ?_⟩
      · rw [lookup_erase_ite] at hc
        split_ifs at hc
        exact hc
      · -- A venue that is left out is the evicted one or greater than it.
        have hge : evict ≤ venue := by
          by_cases hold : venue ∈ venues
          · exact (of_not_not fun hne => hnot (mem_erase.mpr ⟨Ne.symm hne, hold⟩)).le
          · exact ((h.dropped venue hvenue hold).2 evict hevict).le
        refine ⟨hlt.trans_le hge, fun kept hkept => ?_⟩
        obtain ⟨hne, hkept⟩ := mem_erase.mp hkept
        exact ((hgreatest kept hkept).lt_of_ne hne).trans_le hge
    · -- The new venue is greater than all of those kept.
      have hlt' := (not_lt.mp hlt).lt_of_ne fun heq => hmem (heq ▸ hevict)
      refine ⟨h.size_le, fun venue c hc => ?_, fun venue hvenue hnot => ?_⟩
      · rw [update_of_ne, h.latest_eq venue c hc]
        rintro rfl
        exact hmem (mem_iff_lookup.mpr ⟨c, hc⟩)
      · by_cases heq : venue = b.venue
        · exact ⟨hsize, fun kept hkept => heq ▸ (hgreatest kept hkept).trans_lt hlt'⟩
        · rw [update_of_ne heq] at hvenue
          exact h.dropped venue hvenue hnot

/-! ## The queue of instruments -/

/-- The instruments in the order of their insertion, and the latest book of each venue since. -/
structure InsertionLog where
  queue : List String
  since : String → String → Option CrossVenueVenueBook

/-- A new instrument takes the place of the earliest one when `maxInstruments` are kept. -/
def InsertionLog.put (maxInstruments : Int) (log : InsertionLog) (key : String)
    (b : CrossVenueVenueBook) : InsertionLog :=
  if key ∈ log.queue then
    ⟨log.queue, update log.since key (update (log.since key) b.venue (some b))⟩
  else
    ⟨(if maxInstruments ≤ log.queue.length then log.queue.tail else log.queue) ++ [key],
      update log.since key (update (fun _ => none) b.venue (some b))⟩

/-- The actor keeps the instruments of the log, and of each the venues with the smallest names. -/
structure Follows (cfg : PublisherConfig) (p : SnapshotPublisher) (log : InsertionLog) : Prop where
  cfg_eq : p.cfg = cfg
  queue_eq : p.crossVenueInstrumentQ = log.queue
  nodup : p.crossVenueInstrumentQ.Nodup
  mem_iff : ∀ key, key ∈ p.crossVenueBooks ↔ key ∈ p.crossVenueInstrumentQ
  size_le : (p.crossVenueBooks.size : Int) ≤ cfg.maxInstruments
  smallest : ∀ key venues, p.crossVenueBooks.lookup key = some venues →
    KeepsSmallest cfg.maxVenues (log.since key) venues

variable {cfg : PublisherConfig} {p : SnapshotPublisher} {log : InsertionLog}

theorem Follows.size_eq
    (h : Follows cfg p log) : p.crossVenueBooks.size = p.crossVenueInstrumentQ.length := by
  rw [size_eq_card, ← List.toFinset_card_of_nodup h.nodup]
  congr 1
  ext key
  rw [List.mem_toFinset, List.mem_toFinset]
  exact h.mem_iff key

/-- The earliest instrument makes room for a new one. -/
theorem Follows.evict (h : Follows cfg p log) (hpos : 0 < cfg.maxInstruments) :
    Follows cfg p.evictCrossVenueInstrumentIfNeeded
        ⟨if cfg.maxInstruments ≤ log.queue.length then log.queue.tail else log.queue, log.since⟩ ∧
      (p.evictCrossVenueInstrumentIfNeeded.crossVenueBooks.size : Int) < cfg.maxInstruments := by
  obtain rfl := h.cfg_eq
  have hsize := h.size_eq
  have hle := h.size_le
  unfold evictCrossVenueInstrumentIfNeeded
  rw [← h.queue_eq, ← hsize]
  by_cases hroom : (p.crossVenueBooks.size : Int) < p.cfg.maxInstruments
  · rw [if_pos (.inr hroom), if_neg (not_le.mpr hroom)]
    exact ⟨{ h with queue_eq := rfl }, hroom⟩
  rw [if_neg (not_or.mpr ⟨not_le.mpr hpos, hroom⟩), if_pos (not_lt.mp hroom)]
  have hnodup := h.nodup
  have hmem := h.mem_iff
  cases hq : p.crossVenueInstrumentQ with
  | nil =>
    rw [hq, List.length_nil] at hsize
    omega
  | cons evicted rest =>
    rw [hq] at hnodup
    obtain ⟨hnot, hrest⟩ := List.nodup_cons.mp hnodup
    simp only [hq, List.mem_cons] at hmem
    have hless := size_erase_of_mem ((hmem evicted).mpr (.inl rfl))
    have hsmall : (GoMap.size (p.crossVenueBooks.erase evicted) : Int) < p.cfg.maxInstruments := by
      omega
    refine ⟨⟨rfl, rfl, hrest, fun key => ?_, hsmall.le, fun key venues hv => ?_⟩, hsmall⟩
    · rw [mem_erase, hmem]
      exact ⟨fun hkey => hkey.2.resolve_left hkey.1,
        fun hkey => ⟨fun heq => hnot (heq ▸ hkey), .inr hkey⟩⟩
    · rw [lookup_erase_ite] at hv
      split_ifs at hv
      exact h.smallest key venues hv

theorem smallest_update {books : GoMap String (GoMap String CrossVenueVenueBook)}
    {since : String → String → Option CrossVenueVenueBook}
    (h : ∀ k venues, books.lookup k = some venues → KeepsSmallest n (since k) venues)
    (hkey : KeepsSmallest n latest venues)
    (key k : String) (venues' : GoMap String CrossVenueVenueBook)
    (hv : (books.insert key venues).lookup k = some venues') :
    KeepsSmallest n (update since key latest k) venues' := by
  rw [lookup_insert_ite] at hv
  split_ifs at hv with hk
  · rw [hk, update_self, ← Option.some.inj hv]
    exact hkey
  · rw [update_of_ne hk]
    exact h k venues' hv

theorem Follows.upsertCrossVenueBook
    (h : Follows cfg p log) (hinstruments : 0 < cfg.maxInstruments) (hvenues : 0 < cfg.maxVenues)
    (key : String) (b : CrossVenueVenueBook) :
    Follows cfg (p.upsertCrossVenueBook key b) (log.put cfg.maxInstruments key b) := by
  obtain rfl := h.cfg_eq
  have hknown := h.mem_iff key
  rw [h.queue_eq] at hknown
  unfold SnapshotPublisher.upsertCrossVenueBook InsertionLog.put
  cases hkey : p.crossVenueBooks.lookup key with
  | some venues =>
    have hmem := mem_iff_lookup.mpr ⟨venues, hkey⟩
    rw [if_pos (hknown.mp hmem)]
    refine ⟨rfl, h.queue_eq, h.nodup, fun k => ?_, ?_,
      smallest_update h.smallest ((h.smallest key venues hkey).putVenue hvenues b) key⟩
    · rw [mem_insert, ← h.mem_iff]
      exact ⟨fun hk => hk.elim (fun hk => hk ▸ hmem) id, .inr⟩
    · rw [size_insert_of_mem _ hmem]
      exact h.size_le
  | none =>
    have hnew := lookup_eq_none.mp hkey
    obtain ⟨hkept, hroom⟩ := h.evict hinstruments
    have hnot := fun hmem => hnew (getD_evictCrossVenueInstrumentIfNeeded hmem).1
    rw [if_neg (hnew ∘ hknown.mpr)]
    refine ⟨hkept.cfg_eq, congrArg (· ++ [key]) hkept.queue_eq, ?_, fun k => ?_, ?_,
      smallest_update hkept.smallest ((keepsSmallest_empty hvenues.le).putVenue hvenues b) key⟩
    · rw [hkept.mem_iff] at hnot
      exact hkept.nodup.append (List.nodup_singleton key) (List.disjoint_singleton.mpr hnot)
    · rw [mem_insert, hkept.mem_iff, List.mem_append, List.mem_singleton, or_comm]
    · rw [size_insert_of_notMem _ hnot]
      omega

theorem limit_pos
    {limit default : Int} (h : 0 < default) : 0 < if limit ≤ 0 then default else limit := by
  split_ifs <;> omega

/-- The books kept after any calls, with the limits that the actor has got at its start. -/
theorem upsertCrossVenueBook_follows
    (cfg : PublisherConfig) (uc : UpdateOrderBook) (join : Insights.JoinCrossVenueTrades)
    (calls : List (String × CrossVenueVenueBook)) :
    Follows cfg.withDefaults
      (calls.foldl (fun p call => p.upsertCrossVenueBook call.1 call.2) (new cfg uc join))
      (calls.foldl (fun log call => log.put cfg.withDefaults.maxInstruments call.1 call.2)
        ⟨[], fun _ _ => none⟩) := by
  induction calls using List.reverseRecOn with
  | nil =>
    exact ⟨rfl, rfl, List.nodup_nil, by simp [new], (limit_pos (by decide)).le,
      fun _ _ h => nomatch h⟩
  | append_singleton calls call ih =>
    rw [List.foldl_append, List.foldl_append]
    exact ih.upsertCrossVenueBook (limit_pos (by decide)) (limit_pos (by decide)) call.1 call.2

end SnapshotPublisher
end Aggregation
end StreamAnalytics
