import StreamAnalytics.Aggregation.BuildTape

/-!
# The cumulative volume delta as a sum

The total that is published with a closed window is the sum of the deltas of all windows of its
key published so far, as long as the total is read before its time to live has elapsed since the
window before was closed.  The total is not renewed by trades, so a pause makes it start from zero
again.  `cumulative_iff_timely` says that this is the only reason, given room for the keys.
-/

namespace StreamAnalytics
namespace Aggregation

open Runs Prog Function GoStrings

/-! ## Windows keep their key -/

variable {w : TapeWindowV1} {uc : BuildTapeFromTrades}

namespace TapeWindowV1

theorem key_addTrade
    (isBuy : Bool) (priceFixed sizeFixed notionalFixed seq : Int) (w : TapeWindowV1) :
    (addTrade isBuy priceFixed sizeFixed notionalFixed seq w).key = w.key := by
  unfold addTrade applySide updateExtrema
  dsimp only
  split_ifs <;> rfl

theorem key_applyTrade (price size : Float) (isBuy : Bool) (seq : Int) (w : TapeWindowV1) :
    (applyTrade price size isBuy seq w).1.key = w.key := by
  have hkeeps : Preserves (fun w' => w'.key = w.key) (applyTrade price size isBuy seq) := by
    unfold applyTrade checkMutable
    refine Preserves.bind ?_ fun _ => ?_
    · exact Preserves.bind preserves_get fun _ => preserves_check _
    · refine Preserves.bind (preserves_check _) fun _ => ?_
      refine Preserves.bind (preserves_lift _) fun fixed => ?_
      refine Preserves.bind (preserves_modify fun w' h => ?_) fun _ => ?_
      · rw [key_addTrade, h]
      · exact Preserves.bind preserves_get fun _ => preserves_check _
  exact hkeeps.apply rfl

theorem key_close (windowEndTs : Int) (w : TapeWindowV1) : (close windowEndTs w).1.key = w.key := by
  have hkeeps : Preserves (fun w' => w'.key = w.key) (close windowEndTs) := by
    unfold close checkMutable
    refine Preserves.bind ?_ fun _ => ?_
    · exact Preserves.bind preserves_get fun _ => preserves_check _
    · refine Preserves.bind preserves_get fun _ => ?_
      refine Preserves.bind (preserves_check _) fun _ => ?_
      refine Preserves.bind (preserves_modify fun _ h => h) fun _ => ?_
      exact Preserves.bind preserves_get fun _ => preserves_check _
  exact hkeeps.apply rfl

/-- The key under which a window that is stored under `k` is published. -/
def publishedKey (k : TapeKey) : TapeKey :=
  ⟨trimSpace k.venue, trimSpace k.instrument, trimSpace k.timeframe⟩

theorem key_of_create {k : TapeKey} {windowStartTs : Int}
    (h : create k.venue k.instrument k.timeframe windowStartTs = .ok w) :
    w.key = publishedKey k := by
  unfold create at h
  split at h
  · exact nomatch h
  · rw [← Except.ok.inj h]
    rfl

end TapeWindowV1

namespace BuildTapeFromTrades

open TapeWindowV1

/-! ## The totals -/

/-- The total of a key that was stored last, and when. -/
def stored (uc : BuildTapeFromTrades) (k : TapeKey) : Option (ℚ × Nat) :=
  (Posting.last k uc.published).map fun e => (e.total, e.storedAt)

/--
The totals are held as long as their time to live runs, the keys that are published are among
`ids`, and there is room for all of them.
-/
structure Booked (ids : Finset TapeKey) (ttl : Int) (uc : BuildTapeFromTrades) : Prop where
  clock_mono : Monotone uc.clock
  timeframes : uc.timeframes = allowedTapeTimeframes
  ttl_eq : uc.cvdState.ttl = ttl
  leases : uc.cvdState.Leases uc.stored (uc.clock uc.readings)
  used : uc.cvdState.Entries fun k _ => k ∈ ids
  room : ids.card ≤ uc.cvdState.maxSize
  windows : uc.windows.Entries fun _ w => w.key ∈ ids
  chained : Posting.Chained ttl uc.published

section Actions

variable {ids : Finset TapeKey} {ttl : Int}

theorem Booked.tick
    (h : uc.Booked ids ttl) : Booked ids ttl { uc with readings := uc.readings + 1 } :=
  { h with leases := h.leases.mono (h.clock_mono (Nat.le_succ _)) }

theorem preserves_now : Preserves (Booked ids ttl) now := preserves_act fun _ h => h.tick

theorem yields_getWindow (key : TapeKey) :
    Yields (Booked ids ttl) (fun found => ∀ w ∈ found, w.key ∈ ids) (getWindow key) := by
  unfold getWindow
  refine preserves_now.bind_yields fun t => ⟨fun uc h => .ok ⟨?_, fun w hw => ?_⟩⟩
  · exact { h with windows := h.windows.get t key }
  · exact h.windows.of_get hw

theorem preserves_putWindow
    (key : TapeKey) (hw : w.key ∈ ids) : Preserves (Booked ids ttl) (putWindow key w) := by
  unfold putWindow
  refine Preserves.bind preserves_now fun t => preserves_modify fun uc h => ?_
  exact { h with windows := h.windows.put t hw }

theorem preserves_deleteWindow
    (key : TapeKey) : Preserves (Booked ids ttl) (deleteWindow key) := by
  unfold deleteWindow
  refine Preserves.bind preserves_now fun t => preserves_modify fun uc h => ?_
  exact { h with windows := h.windows.delete t key }

theorem yields_mutateWindow
    (key : TapeKey) {x : Prog Problem TapeWindowV1 PUnit} (hx : (x w).1.key = w.key)
    (hw : w.key ∈ ids) :
    Yields (Booked ids ttl) (fun w' => w'.key ∈ ids) (mutateWindow key w x) := by
  have hx' : (x w).1.key ∈ ids := by
    rw [hx]
    exact hw
  refine ⟨fun uc h => ?_⟩
  have hset : Booked ids ttl { uc with windows := uc.windows.setValue key (x w).1 } :=
    { h with windows := h.windows.setValue hx' }
  unfold mutateWindow
  cases (x w).2 with
  | ok _ => exact .ok ⟨hset, hx'⟩
  | error p => exact .error hset

/-- The state after the total of a closed window has been read and stored. -/
def posted (uc : BuildTapeFromTrades) (w : TapeWindowV1) : BuildTapeFromTrades :=
  let readAt := uc.clock uc.readings
  let storedAt := uc.clock (uc.readings + 1)
  let nextCVD := (uc.cvdState.get readAt w.key).1.getD 0 + w.deltaVolume
  { uc with
    readings := uc.readings + 2
    cvdState := ((uc.cvdState.get readAt w.key).2.1.put storedAt w.key nextCVD).1
    published := uc.published ++ [⟨w.key, w.deltaVolume, nextCVD, readAt, storedAt⟩] }

theorem persistClosedWindow_apply (uc : BuildTapeFromTrades) (w : TapeWindowV1) :
    persistClosedWindow w uc = (uc.posted w, .ok ⟨⟩) := by
  rfl

theorem stored_posted (uc : BuildTapeFromTrades) (w : TapeWindowV1) :
    (uc.posted w).stored = update uc.stored w.key
      (some ((uc.cvdState.get (uc.clock uc.readings) w.key).1.getD 0 + w.deltaVolume,
        uc.clock (uc.readings + 1))) := by
  funext k
  unfold stored posted
  rw [Posting.last_concat]
  by_cases hk : w.key = k
  · subst hk
    rw [if_pos rfl, update_self]
    rfl
  · rw [if_neg hk, update_of_ne (Ne.symm hk)]

/-- What is found for a key is what the posting of a window carries over. -/
theorem Booked.getD_get
    (h : uc.Booked ids ttl) (e : Posting TapeKey ℚ) (hread : e.readAt = uc.clock uc.readings) :
    (uc.cvdState.get (uc.clock uc.readings) e.key).1.getD 0 =
      Posting.carried ttl uc.published e := by
  rw [h.leases.get_value le_rfl, h.ttl_eq]
  unfold stored Posting.carried
  cases Posting.last e.key uc.published with
  | none => rfl
  | some e' =>
    have hin : Posting.InTime ttl e' e ↔ (uc.clock uc.readings : Int) < e'.storedAt + ttl := by
      rw [← hread]
      exact Iff.rfl
    by_cases hlive : (uc.clock uc.readings : Int) < e'.storedAt + ttl
    · dsimp only [Option.map_some]
      rw [if_pos (hin.mpr hlive), Option.filter_some_pos (by simpa using hlive)]
      rfl
    · dsimp only [Option.map_some]
      rw [if_neg (hin.not.mpr hlive), Option.filter_some_neg (by simpa using hlive)]
      rfl

theorem Booked.posted
    (h : uc.Booked ids ttl) (hw : w.key ∈ ids) : (uc.posted w).Booked ids ttl := by
  have hread := BoundedMap.get_effect h.leases.indexed (uc.clock uc.readings) w.key
  have hused := h.used.get (uc.clock uc.readings) w.key
  have hstore := BoundedMap.put_effect hused.indexed (uc.clock (uc.readings + 1)) w.key
    ((uc.cvdState.get (uc.clock uc.readings) w.key).1.getD 0 + w.deltaVolume)
  have hroom : w.key ∉ (uc.cvdState.get (uc.clock uc.readings) w.key).2.1.items →
      (uc.cvdState.get (uc.clock uc.readings) w.key).2.1.len <
        (uc.cvdState.get (uc.clock uc.readings) w.key).2.1.maxSize := by
    intro hnew
    rw [hread.config.maxSize]
    exact Nat.lt_of_lt_of_le (hused.len_lt_card hnew hw) h.room
  refine
    { clock_mono := h.clock_mono
      timeframes := h.timeframes
      ttl_eq := ?_
      leases := ?_
      used := hused.put _ hw
      room := ?_
      windows := h.windows
      chained := ?_ }
  · exact (hstore.config.ttl.trans hread.config.ttl).trans h.ttl_eq
  · rw [stored_posted]
    exact ((h.leases.get le_rfl w.key).put (h.clock_mono (Nat.le_succ _)) hroom _).mono
      (h.clock_mono (Nat.le_succ _))
  · exact h.room.trans_eq (hstore.config.maxSize.trans hread.config.maxSize).symm
  · refine eachAfter_concat h.chained ?_
    exact congrArg (· + w.deltaVolume) (h.getD_get ⟨w.key, w.deltaVolume, _, _, _⟩ rfl)

theorem preserves_persistClosedWindow
    (hw : w.key ∈ ids) : Preserves (Booked ids ttl) (persistClosedWindow w) := by
  refine ⟨fun uc h => ?_⟩
  rw [persistClosedWindow_apply]
  exact .ok (h.posted hw)

/-! ## Requests -/

theorem preserves_finalizeWindow
    (key : TapeKey) {existing : TapeWindowV1} (windowDurationMs : Int) (hw : existing.key ∈ ids) :
    Yields (Booked ids ttl) (fun _ => True)
      (finalizeWindow key existing windowDurationMs) := by
  unfold finalizeWindow
  refine (yields_mutateWindow key (key_close _ existing) hw).bind fun w hw' => ?_
  refine (preserves_persistClosedWindow hw').bind_yields fun _ => ?_
  exact (preserves_deleteWindow key).bind_yields fun _ => yields_pure trivial

theorem yields_closeIfWindowChanged (key : TapeKey) (windowStart windowDurationMs : Int) :
    Yields (Booked ids ttl) (fun _ => True)
      (closeIfWindowChanged key windowStart windowDurationMs) := by
  unfold closeIfWindowChanged
  refine (yields_getWindow key).bind fun found hfound => ?_
  cases found with
  | none => exact yields_pure trivial
  | some existing =>
    dsimp only
    split_ifs
    · exact yields_pure trivial
    · refine (preserves_finalizeWindow key windowDurationMs (hfound existing rfl)).bind ?_
      exact fun _ _ => yields_pure trivial

theorem yields_getOrCreateWindow
    {key : TapeKey} (windowStart : Int) (hkey : publishedKey key ∈ ids) :
    Yields (Booked ids ttl) (fun w => w.key ∈ ids) (getOrCreateWindow key windowStart) := by
  unfold getOrCreateWindow
  refine (yields_getWindow key).bind fun found hfound => ?_
  cases found with
  | some w => exact (preserves_check _).bind_yields fun _ => yields_pure (hfound w rfl)
  | none =>
    refine Yields.bind (P := fun w => w.key ∈ ids) (yields_lift fun w hw => ?_)
      fun w hw => ?_
    · rw [key_of_create hw]
      exact hkey
    · exact (preserves_putWindow key hw).bind_yields fun _ => yields_pure hw

theorem yields_forceCloseWindow (forced : ForcedWindowClose) :
    Yields (Booked ids ttl) (fun _ => True) (forceCloseWindow forced) := by
  unfold forceCloseWindow
  refine (yields_getWindow forced.key).bind fun found hfound => ?_
  cases found with
  | none => exact yields_pure trivial
  | some existing =>
    dsimp only
    split_ifs
    · exact yields_pure trivial
    · refine preserves_get.bind_yields fun uc => ?_
      refine (preserves_check _).bind_yields fun _ => ?_
      refine (preserves_finalizeWindow forced.key _ (hfound existing rfl)).bind ?_
      exact fun _ _ => yields_pure trivial

theorem yields_observeWindow (key : TapeKey) (eventTsMs windowDurationMs : Int) :
    Yields (Booked ids ttl) (fun _ => True)
      (observeWindow key eventTsMs windowDurationMs) := by
  unfold observeWindow
  refine (preserves_zoom _ fun uc m h => ?_).bind_yields fun decision => ?_
  · exact { h with }
  · cases decision.forcedClose with
    | none => exact yields_pure trivial
    | some forced => exact (yields_forceCloseWindow forced).bind fun _ _ => yields_pure trivial

theorem yields_updateWindow
    {key : TapeKey} (windowDurationMs : Int) (req : BuildTapeRequest) (decision : WindowDecision)
    (forced : Option TapeWindowV1) (hkey : publishedKey key ∈ ids) :
    Yields (Booked ids ttl) (fun _ => True)
      (updateWindow key windowDurationMs req decision forced) := by
  unfold updateWindow
  split_ifs
  · exact yields_pure trivial
  · refine (yields_closeIfWindowChanged key _ _).bind fun _ _ => ?_
    refine (yields_getOrCreateWindow _ hkey).bind fun w hw => ?_
    refine (yields_mutateWindow key (key_applyTrade _ _ _ _ w) hw).bind fun w' hw' => ?_
    exact (preserves_putWindow key hw').bind_yields fun _ => yields_pure trivial

theorem yields_rollWindow (req : BuildTapeRequest) {timeframe : String}
    (hkey : publishedKey (keyIn req timeframe) ∈ ids) :
    Yields (Booked ids ttl) (fun _ => True) (rollWindow req timeframe) := by
  unfold rollWindow
  refine preserves_get.bind_yields fun uc => ?_
  refine (yields_observeWindow _ _ _).bind fun decision _ => ?_
  exact yields_updateWindow _ req decision.1 decision.2 hkey

/-- A request whose keys are among `ids` keeps the totals booked. -/
theorem Booked.step {req : BuildTapeRequest} (h : uc.Booked ids ttl)
    (hreq : ∀ timeframe ∈ allowedTapeTimeframes, publishedKey (keyIn req timeframe) ∈ ids) :
    (BuildTapeFromTrades.step uc req).Booked ids ttl := by
  have hpost : Post (fun _ => Booked ids ttl) (fun _ => Booked ids ttl) (execute req uc) := by
    unfold execute
    refine Post.check (fun _ _ => h) fun _ => ?_
    refine Post.bind (Q := fun uc₁ uc₂ => uc₁ = uc ∧ uc₂ = uc) (.ok ⟨rfl, rfl⟩) ?_
    rintro uc₁ uc₂ ⟨rfl, rfl⟩
    rw [h.timeframes]
    have hroll : Yields (Booked ids ttl) _ _ := yields_flatMap fun timeframe htf =>
      yields_rollWindow req (hreq timeframe htf)
    exact (hroll.post _ h).imp (fun _ _ h => h.1) fun _ _ h => h
  exact hpost.state

end Actions

/-! ## Runs -/

/-- The keys that the requests store windows under. -/
def usedKeys (reqs : List BuildTapeRequest) : Finset TapeKey :=
  (reqs.flatMap fun req => allowedTapeTimeframes.map (keyIn req)).toFinset

theorem booked_create
    (cfg : BuildTapeConfig) {clock : Nat → Nat} (hclock : Monotone clock) {ids : Finset TapeKey}
    (hids : (ids.card : Int) ≤ maxWindows cfg) :
    (create cfg clock).Booked ids (windowTTL cfg) where
  clock_mono := hclock
  timeframes := rfl
  ttl_eq := rfl
  leases :=
    { indexed := ⟨List.nodup_nil, fun _ => by simp [create, BoundedMap.create,
        BoundedMap.setSweepEveryOps, BoundedMap.setSweepMinInterval]⟩
      ttl_pos := by
        change 0 < windowTTL cfg
        unfold windowTTL
        split_ifs <;> omega
      entry := fun _ _ h => nomatch h
      kept := fun _ _ _ h => nomatch h }
  used := ⟨⟨List.nodup_nil, fun _ => by simp [create, BoundedMap.create,
    BoundedMap.setSweepEveryOps, BoundedMap.setSweepMinInterval]⟩, fun _ _ h => nomatch h⟩
  room := by
    change ids.card ≤ if maxWindows cfg ≤ 0 then 1 else (maxWindows cfg).toNat
    split_ifs <;> omega
  windows := ⟨⟨List.nodup_nil, fun _ => by simp [create, BoundedMap.create,
    BoundedMap.setSweepEveryOps, BoundedMap.setSweepMinInterval]⟩, fun _ _ h => nomatch h⟩
  chained := eachAfter_nil

/--
In every run with no more keys than there is room for, every published total is the sum of the
deltas of its key so far exactly if every total other than zero is read before the time to live
has elapsed since it was stored.
-/
theorem cumulative_iff_timely (cfg : BuildTapeConfig) {clock : Nat → Nat} (hclock : Monotone clock)
    (reqs : List BuildTapeRequest) (hkeys : ((usedKeys reqs).card : Int) ≤ maxWindows cfg) :
    Posting.Cumulative (run step (create cfg clock) reqs).published ↔
      Posting.Timely (windowTTL cfg) (run step (create cfg clock) reqs).published := by
  have hcard : (((usedKeys reqs).image publishedKey).card : Int) ≤ maxWindows cfg :=
    (Int.ofNat_le.mpr Finset.card_image_le).trans hkeys
  have hused : ∀ req ∈ reqs, ∀ timeframe ∈ allowedTapeTimeframes,
      publishedKey (keyIn req timeframe) ∈ (usedKeys reqs).image publishedKey := by
    intro req hreq timeframe htf
    refine Finset.mem_image_of_mem _ (List.mem_toFinset.mpr ?_)
    exact List.mem_flatMap.mpr ⟨req, hreq, List.mem_map_of_mem htf⟩
  have hbooked := booked_create cfg hclock hcard
  have hrun : (run step (create cfg clock) reqs).Booked
      ((usedKeys reqs).image publishedKey) (windowTTL cfg) := by
    refine invariant_of_always (P := fun _ req => ∀ timeframe ∈ allowedTapeTimeframes,
      publishedKey (keyIn req timeframe) ∈ (usedKeys reqs).image publishedKey)
      (fun _ _ h hreq => h.step hreq) hbooked ?_
    exact always_iff_forall_prefix.mpr fun before req hinitial =>
      hused req (hinitial.subset (List.mem_append_right _ (List.mem_singleton_self req)))
  exact hrun.chained.cumulative_iff_steps_timely

/-- The default settings. -/
def defaultTapeConfig : BuildTapeConfig := ⟨0, 0, 0, 0, none⟩

/-- A trade that buys one unit. -/
def sampleBuy (seq tsIngest : Int) : BuildTapeRequest :=
  ⟨"BINANCE", "BTCUSDT", 100, 1, true, seq, tsIngest⟩

/-- Two trades that follow each other without a pause close three windows. -/
theorem cumulative_iff_timely_noPause :
    (run step (create defaultTapeConfig fun _ => 0)
        [sampleBuy 1 1000, sampleBuy 2 7000]).published.length = 3 ∧
      Posting.Cumulative (run step (create defaultTapeConfig fun _ => 0)
        [sampleBuy 1 1000, sampleBuy 2 7000]).published := by
  refine ⟨by decide +kernel, ?_⟩
  refine (cumulative_iff_timely defaultTapeConfig monotone_const _ (by decide +kernel)).mpr ?_
  decide +kernel

/-- A clock that stands still for the first two trades and then advances by two hours. -/
def twoHourPause (n : Nat) : Nat := if n < 35 then 0 else 7200000000000

theorem monotone_twoHourPause : Monotone twoHourPause := by
  intro m n hmn
  unfold twoHourPause
  split_ifs <;> omega

/--
Four trades buy one unit each.  The second one closes the windows of the first, and after a pause
of two hours the fourth one closes those of the third.  Their totals are one and not two.
-/
theorem not_cumulative_twoHourPause :
    Monotone twoHourPause ∧
      ((usedKeys [sampleBuy 1 1000, sampleBuy 2 7000, sampleBuy 3 7207000,
        sampleBuy 4 7213000]).card : Int) ≤ maxWindows defaultTapeConfig ∧
      ¬ Posting.Cumulative (run step (create defaultTapeConfig twoHourPause)
        [sampleBuy 1 1000, sampleBuy 2 7000, sampleBuy 3 7207000, sampleBuy 4 7213000]).published := by
  refine ⟨monotone_twoHourPause, ?_, ?_⟩
  · decide +kernel
  · decide +kernel

end BuildTapeFromTrades
end Aggregation
end StreamAnalytics
