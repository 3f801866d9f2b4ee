import StreamAnalytics.Lib.Runs
import StreamAnalytics.Aggregation.BuildCandleSpec

/-!
# The order in which windows are emitted

The candles that `Execute` saves for one key have strictly increasing window
starts as long as the manager does not drop the watermark of that key at its cap
and the candles of the key are stored under one entry of the map
(`saved_strictly_increasing`).  The invariant relates three places that know the
window of a key: the saved candles, the open candle, and the watermark.

Once the cap has dropped the watermark, a late event is taken for the first event
of its key, and it closes and reopens windows that have been emitted already
(`saved_again_after_cap`).
-/

namespace StreamAnalytics
namespace Aggregation

open GoInt WatermarkWindowManager GoStrings Runs Prog CandleV1

namespace BuildCandleFromEvents

/-- The window starts of the saved candles of a key, in the order of their emission. -/
def savedStarts (uc : BuildCandleFromEvents) (key : CandleKey) : List Int :=
  (uc.savedOf key).map windowStartTs

variable {uc : BuildCandleFromEvents} {K key : CandleKey} {c c' : CandleV1} {windowStart : Int}

/-! ## The invariant -/

/-- The windows of a key: emitted before open, and none of them after the watermark. -/
structure Ordered (K : CandleKey) (uc : BuildCandleFromEvents) : Prop where
  starts : (uc.savedStarts K ++ (uc.openStart K).toList).Pairwise (· < ·)
  saved_lt : ∀ s ∈ uc.savedStarts K, ∃ w, uc.watermark K = some w ∧ s < w
  open_le : ∀ s, uc.openStart K = some s → ∃ w, uc.watermark K = some w ∧ s ≤ w

/-- No window of the key has been dropped at the cap. -/
def Undisturbed (K : CandleKey) (uc : BuildCandleFromEvents) : Prop :=
  ∀ k ∈ uc.forceClosed, normalizedKey k ≠ normalizedKey K

/-- The invariant of runs for the key `K`. -/
structure OrderInv (K : CandleKey) (uc : BuildCandleFromEvents) : Prop where
  timeframes : ∀ tf ∈ uc.timeframes, trimSpace tf = tf
  /-- Candles carry the trimmed names of their entry, and only the entry `K` those of `K`. -/
  keyed : ∀ k c, uc.candles.lookup k = some c → c.key = k.trimmed ∧ (k.trimmed = K → k = K)
  ordered : Undisturbed K uc → Ordered K uc

theorem orderInv_create (cfg : BuildCandleConfig) :
    OrderInv K (create cfg) where
  timeframes := by
    change ∀ tf ∈ ["1s", "5s", "1m", "5m", "15m", "30m", "1h", "4h", "1d"],
      trimSpace tf = tf
    decide
  keyed := by
    intro k c h
    cases h
  ordered := by
    intro _
    refine ⟨List.Pairwise.nil, ?_, ?_⟩
    · intro s hs
      cases hs
    · intro s hs
      cases hs

/-- The invariant depends on the candle map only through the window of each entry. -/
theorem OrderInv.stored
    (h : OrderInv K uc) (hlookup : uc.candles.lookup key = some c) (hkey : c'.key = c.key)
    (hstart : c'.windowStartTs = c.windowStartTs) : OrderInv K (uc.stored key c') := by
  have hopen : (uc.stored key c').openStart K = uc.openStart K := by
    unfold openStart
    rw [lookup_stored]
    split_ifs with hK
    · rw [hK, hlookup, Option.map_some, Option.map_some, hstart]
    · rfl
  refine ⟨h.timeframes, ?_, fun hclean => ?_⟩
  · exact forall_stored (hkey ▸ h.keyed key c hlookup) h.keyed
  · have hordered := h.ordered hclean
    refine ⟨?_, hordered.saved_lt, ?_⟩
    · rw [hopen]
      exact hordered.starts
    · rw [hopen]
      exact hordered.open_le

/-- A new candle of the tracked window continues the windows of its key. -/
theorem OrderInv.created
    (h : OrderInv K uc) (hlookup : uc.candles.lookup key = none) (hkey : c.key = key.trimmed)
    (hK : key.trimmed = K → key = K) (hwatermark : uc.watermark key = some c.windowStartTs) :
    OrderInv K (uc.stored key c) := by
  refine ⟨h.timeframes, ?_, fun hclean => ?_⟩
  · exact forall_stored ⟨hkey, hK⟩ h.keyed
  · have hordered := h.ordered hclean
    by_cases hkK : K = key
    · subst hkK
      have hopen : (uc.stored K c).openStart K = some c.windowStartTs := by
        rw [openStart, lookup_stored, if_pos rfl]
        rfl
      have hnone : uc.openStart K = none := by
        rw [openStart, hlookup]
        rfl
      have hstarts := hordered.starts
      rw [hnone, Option.toList_none, List.append_nil] at hstarts
      refine ⟨?_, hordered.saved_lt, ?_⟩
      · rw [hopen, Option.toList_some, List.pairwise_append]
        refine ⟨hstarts, List.pairwise_singleton _ _, ?_⟩
        intro s hs s' hs'
        obtain ⟨w, hw, hlt⟩ := hordered.saved_lt s hs
        rw [hwatermark] at hw
        cases hw
        rw [List.mem_singleton.mp hs']
        exact hlt
      · intro s hs
        rw [hopen] at hs
        cases hs
        exact ⟨_, hwatermark, Int.le_refl _⟩
    · have hopen : (uc.stored key c).openStart K = uc.openStart K := by
        rw [openStart, lookup_stored, if_neg hkK]
        rfl
      refine ⟨?_, hordered.saved_lt, ?_⟩
      · rw [hopen]
        exact hordered.starts
      · rw [hopen]
        exact hordered.open_le

theorem savedStarts_finalized (K : CandleKey) :
    (uc.finalized key c').savedStarts K =
      uc.savedStarts K ++ if c'.key = K then [c'.windowStartTs] else [] := by
  unfold savedStarts
  rw [savedOf_finalized, List.map_append]
  by_cases hK : c'.key = K <;> simp [hK]

/-- Closing a candle before the watermark moves its window from open to emitted. -/
theorem OrderInv.finalized
    (h : OrderInv K uc) (hlookup : uc.candles.lookup key = some c) (hkey : c'.key = c.key)
    (hstart : c'.windowStartTs = c.windowStartTs)
    (hwatermark : key = K → Undisturbed K uc →
      ∃ w, uc.watermark K = some w ∧ c.windowStartTs < w) : OrderInv K (uc.finalized key c') := by
  obtain ⟨hkeyed, honly⟩ := h.keyed key c hlookup
  refine ⟨h.timeframes, ?_, fun hclean => ?_⟩
  · exact fun k d hd => h.keyed k d (lookup_of_finalized hd).2
  · have hordered := h.ordered hclean
    by_cases hkK : K = key
    · subst hkK
      have hopen : (uc.finalized K c').openStart K = none := by
        rw [openStart, lookup_finalized, if_pos rfl]
        rfl
      have hold : uc.openStart K = some c.windowStartTs := by
        rw [openStart, hlookup]
        rfl
      obtain ⟨w, hw, hlt⟩ := hwatermark rfl hclean
      -- The candle may carry the trimmed names of another key; then nothing is appended.
      have hstarts := hordered.starts
      rw [hold, Option.toList_some] at hstarts
      refine ⟨?_, ?_, ?_⟩
      · rw [hopen, savedStarts_finalized, Option.toList_none, List.append_nil]
        split_ifs
        · rw [hstart]
          exact hstarts
        · rw [List.append_nil]
          exact (List.pairwise_append.mp hstarts).1
      · intro s hs
        rw [savedStarts_finalized, List.mem_append] at hs
        rcases hs with hs | hs
        · exact hordered.saved_lt s hs
        · split_ifs at hs
          · rw [List.mem_singleton.mp hs, hstart]
            exact ⟨w, hw, hlt⟩
          · cases hs
      · intro s hs
        rw [hopen] at hs
        cases hs
    · have hopen : (uc.finalized key c').openStart K = uc.openStart K := by
        rw [openStart, lookup_finalized, if_neg hkK]
        rfl
      have hother : c'.key ≠ K := by
        intro hc
        rw [hkey, hkeyed] at hc
        exact hkK (honly hc).symm
      have hsaved : (uc.finalized key c').savedStarts K = uc.savedStarts K := by
        rw [savedStarts_finalized, if_neg hother, List.append_nil]
      refine ⟨?_, ?_, ?_⟩
      · rw [hopen, hsaved]
        exact hordered.starts
      · rw [hsaved]
        exact hordered.saved_lt
      · rw [hopen]
        exact hordered.open_le

/-- An accepted event raises the watermark, unless the cap drops it. -/
theorem OrderInv.observed
    (h : OrderInv K uc) (hlate : ¬ uc.windows.Late (normalizedKey key) windowStart) :
    OrderInv K (uc.observed key windowStart) := by
  have haccepts := (assign_accepts hlate).2.2
  refine ⟨h.timeframes, h.keyed, fun hclean => ?_⟩
  have hclean' : Undisturbed K uc := fun k hk => hclean k (List.mem_append_left _ hk)
  have hordered := h.ordered hclean'
  have hforced : (uc.windows.assign (normalizedKey key) windowStart).2.forcedClose.map
      ForcedWindowClose.key ≠ some (normalizedKey K) := by
    intro hf
    refine hclean (normalizedKey K) (List.mem_append_right _ ?_) (normalizedKey_normalizedKey K)
    rw [Option.mem_toList]
    exact hf
  have hraise : ∀ w, uc.watermark K = some w →
      ∃ w', (uc.observed key windowStart).watermark K = some w' ∧ w ≤ w' := by
    intro w hw
    have hlookup := haccepts.lookup (normalizedKey K)
    by_cases hK : normalizedKey K = normalizedKey key
    · rw [if_pos hK] at hlookup
      refine ⟨windowStart, hlookup, haccepts.le w ?_⟩
      rw [← hK]
      exact hw
    · rw [if_neg hK, if_neg hforced] at hlookup
      exact ⟨w, hlookup.trans hw, Int.le_refl w⟩
  refine ⟨hordered.starts, ?_, ?_⟩
  · intro s hs
    obtain ⟨w, hw, hlt⟩ := hordered.saved_lt s hs
    obtain ⟨w', hw', hle⟩ := hraise w hw
    exact ⟨w', hw', Int.lt_of_lt_of_le hlt hle⟩
  · intro s hs
    obtain ⟨w, hw, hle⟩ := hordered.open_le s hs
    obtain ⟨w', hw', hle'⟩ := hraise w hw
    exact ⟨w', hw', Int.le_trans hle hle'⟩

/-! ## One timeframe -/

variable {windowDurationMs eventTsMs : Int}

/-- A forced close touches the entry of the manager's key, which is not that of `K`. -/
theorem OrderInv.post_forceCloseWindow
    {forced : ForcedWindowClose} (h : OrderInv K uc) (hforced : forced.key ∈ uc.forceClosed) :
    Post (fun _ uc' => OrderInv K uc' ∧ uc'.windows = uc.windows) (fun _ => OrderInv K)
      (forceCloseWindow .succeeding forced uc) := by
  refine BuildCandleFromEvents.post_forceCloseWindow (fun _ => ⟨h, rfl⟩) (fun _ _ _ _ _ => h) ?_
  intro c hlookup _ _
  refine ((keepsWindow_close _).post c).imp ?_ fun _ c' hw => h.stored hlookup hw.1 hw.2
  rintro _ c' ⟨hkey, hstart⟩
  refine ⟨h.finalized hlookup hkey hstart ?_, rfl⟩
  rintro rfl hclean
  exact absurd rfl (hclean _ hforced)

theorem OrderInv.post_observeWindow (h : OrderInv K uc) :
    Post
      (fun r uc' => OrderInv K uc' ∧ (r.1.isLate = false → uc'.watermark key = some r.1.windowStart))
      (fun _ => OrderInv K)
      (observeWindow .succeeding key eventTsMs windowDurationMs uc) := by
  refine BuildCandleFromEvents.post_observeWindow (fun _ _ => h) ?_ ?_ ?_
  · intro _ _ d hd
    exact ⟨h, by simp [hd]⟩
  · intro _ hlate _ d _ hstart
    refine ⟨h.observed hlate, fun _ => ?_⟩
    rw [watermark_observed hlate, hstart]
  · intro _ hlate forced hforced d _ hstart
    refine ((h.observed hlate).post_forceCloseWindow ?_).imp ?_ fun _ _ h => h
    · rw [forceClosed_observed_of_some hforced]
      exact List.mem_append_right _ (List.mem_singleton.mpr rfl)
    · rintro _ uc' ⟨hinv, hwindows⟩
      refine ⟨hinv, fun _ => ?_⟩
      rw [watermark, hwindows, hstart]
      exact watermark_observed hlate

/-- The roll closes a window before the watermark. -/
theorem OrderInv.post_closeIfWindowChanged
    (h : OrderInv K uc) (hwatermark : uc.watermark key = some windowStart) :
    Post
      (fun rolled uc' => OrderInv K uc' ∧ uc'.watermark key = some windowStart ∧
        ∀ c, rolled = some c → c.key = key.trimmed)
      (fun _ => OrderInv K)
      (closeIfWindowChanged .succeeding key windowStart windowDurationMs uc) := by
  refine BuildCandleFromEvents.post_closeIfWindowChanged (fun _ => ⟨h, hwatermark, by simp⟩) ?_
  intro c hlookup hne
  refine ((keepsWindow_close _).post c).imp ?_ fun _ c' hw => h.stored hlookup hw.1 hw.2
  rintro _ c' ⟨hkey, hstart⟩
  refine ⟨h.finalized hlookup hkey hstart ?_, hwatermark, ?_⟩
  · rintro rfl hclean
    obtain ⟨w, hw, hle⟩ := (h.ordered hclean).open_le c.windowStartTs (by
      rw [openStart, hlookup]
      rfl)
    rw [hwatermark] at hw
    cases hw
    exact ⟨windowStart, hwatermark, by omega⟩
  · rintro _ ⟨⟩
    rw [hkey]
    exact (h.keyed key c hlookup).1

theorem OrderInv.post_getOrCreateCandle (h : OrderInv K uc) (hK : key.trimmed = K → key = K)
    (hwatermark : uc.watermark key = some windowStart) :
    Post (fun c uc' => OrderInv K uc' ∧ uc'.candles.lookup key = some c)
      (fun _ => OrderInv K) (getOrCreateCandle key windowStart uc) := by
  refine BuildCandleFromEvents.post_getOrCreateCandle (fun c hlookup _ => ⟨h, hlookup⟩)
    (fun _ _ _ _ => h) ?_ (fun _ _ _ => h)
  intro c hlookup hcreate
  obtain ⟨hkey, hstart⟩ := create_eq_ok hcreate
  refine ⟨h.created hlookup hkey hK (hstart ▸ hwatermark), ?_⟩
  rw [lookup_stored, if_pos rfl]

theorem OrderInv.post_rollWindow
    {update : Prog Problem CandleV1 PUnit} (h : OrderInv K uc) (hK : key.trimmed = K → key = K)
    (hupdate : KeepsWindow update) :
    Post (fun roll uc' => OrderInv K uc' ∧ ∀ c, roll.rolled = some c → c.key = key.trimmed)
      (fun _ => OrderInv K) (rollWindow .succeeding key eventTsMs update uc) := by
  unfold rollWindow
  rw [get_bind_apply]
  refine Post.bind h.post_observeWindow ?_
  rintro ⟨d, forced⟩ uc₁ ⟨h₁, hwatermark⟩
  dsimp only
  unfold updateWindow
  by_cases hd : d.isLate = true
  · rw [if_pos hd]
    exact .ok ⟨h₁, by simp⟩
  rw [if_neg hd]
  refine Post.bind (h₁.post_closeIfWindowChanged (hwatermark (by simpa using hd))) ?_
  rintro rolled uc₂ ⟨h₂, hwatermark₂, hrolled⟩
  refine Post.bind (h₂.post_getOrCreateCandle hK hwatermark₂) ?_
  rintro c uc₃ ⟨h₃, hlookup⟩
  exact post_updateCandle ((hupdate.post c).imp
    (fun _ c' hw => ⟨h₃.stored hlookup hw.1 hw.2, hrolled⟩)
    fun _ c' hw => h₃.stored hlookup hw.1 hw.2)

/-! ## Requests and runs -/

/-- The cascade works on trimmed keys. -/
theorem OrderInv.post_cascadeFromClosedBase
    {base : CandleV1} (hbase : base.key.trimmed = base.key) (timeframes : List String)
    (htimeframes : ∀ tf ∈ timeframes, trimSpace tf = tf) (h : OrderInv K uc) :
    Post (fun _ => OrderInv K) (fun _ => OrderInv K)
      (cascadeFromClosedBase .succeeding base timeframes uc) := by
  induction timeframes generalizing uc with
  | nil => exact .ok h
  | cons tf tfs ih =>
    have htimeframes' := fun tf' htf' => htimeframes tf' (List.mem_cons_of_mem tf htf')
    unfold cascadeFromClosedBase
    by_cases htf : tf = candleTimeframeBase
    · rw [if_pos htf]
      exact ih htimeframes' h
    · rw [if_neg htf]
      have htrimmed : CandleKey.trimmed ⟨base.venue, base.instrument, tf⟩ =
          ⟨base.venue, base.instrument, tf⟩ := by
        simp only [CandleKey.trimmed, CandleV1.key, CandleKey.mk.injEq] at hbase ⊢
        exact ⟨hbase.1, hbase.2.1, htimeframes tf (by simp)⟩
      refine Post.bind (h.post_rollWindow (fun hK => htrimmed ▸ hK)
        (keepsWindow_applyClosedCandle base)) ?_
      rintro roll uc₁ ⟨h₁, -⟩
      refine Post.bind (ih htimeframes' h₁) fun closed uc₂ h₂ => .ok h₂

/-- The condition on a request: if it belongs to `K`, its canonical instrument is trimmed. -/
def StoredUnder (K : CandleKey) (req : BuildCandleRequest) : Prop :=
  normalizedKey (baseKey req) = normalizedKey K →
    trimSpace (Naming.canonicalInstrument req.instrument) =
      Naming.canonicalInstrument req.instrument

theorem StoredUnder.baseKey_eq
    {req : BuildCandleRequest} (h : StoredUnder K req) (hK : (baseKey req).trimmed = K) :
    baseKey req = K := by
  have hinstrument := h (by rw [← hK, CandleKey.normalizedKey_trimmed])
  rw [← hK]
  have htimeframe : trimSpace candleTimeframeBase = candleTimeframeBase := by decide
  simp [CandleKey.trimmed, baseKey, hinstrument, htimeframe]

theorem OrderInv.post_execute
    {req : BuildCandleRequest} (h : OrderInv K uc) (hreq : StoredUnder K req) :
    Post (fun _ => OrderInv K) (fun _ => OrderInv K) (execute .succeeding req uc) := by
  unfold execute
  cases validateRequest req with
  | some p => exact .error h
  | none =>
    refine Post.bind (Q := fun _ => OrderInv K) (.ok h) fun _ uc₀ h₀ => ?_
    refine Post.bind (h₀.post_rollWindow hreq.baseKey_eq
      (keepsWindow_applyTrade _ _ _ _)) ?_
    rintro roll uc₁ ⟨h₁, hrolled⟩
    rw [get_bind_apply]
    refine Post.bind (Q := fun _ => OrderInv K) ?_ fun closed uc₂ h₂ => ?_
    · cases hroll : roll.rolled with
      | none => exact .ok h₁
      | some base =>
        refine h₁.post_cascadeFromClosedBase ?_ _ h₁.timeframes
        rw [hrolled base hroll, CandleKey.trimmed_trimmed]
    · rw [get_bind_apply]
      exact .ok h₂

/--
The requests that keep the order of `K`: the manager drops no window of `K` at its
cap, and a request for `K` uses the entry `K` of the candle map.
-/
structure Orderly (K : CandleKey) (uc : BuildCandleFromEvents) (req : BuildCandleRequest) :
    Prop where
  stored : StoredUnder K req
  kept : ∀ k ∈ droppedBy uc req, normalizedKey k ≠ normalizedKey K

theorem OrderInv.step
    {req : BuildCandleRequest} (h : OrderInv K uc ∧ Undisturbed K uc) (hreq : Orderly K uc req) :
    OrderInv K (step uc req) ∧ Undisturbed K (step uc req) := by
  refine ⟨(h.1.post_execute hreq.stored).state, ?_⟩
  intro k hk
  rw [forceClosed_step, List.mem_append] at hk
  rcases hk with hk | hk
  · exact h.2 k hk
  · exact hreq.kept k hk

/--
In every run of orderly requests the candles saved for `K` have strictly
increasing window starts: no window is emitted twice or after a later one.
-/
theorem saved_strictly_increasing
    (cfg : BuildCandleConfig) (K : CandleKey) (reqs : List BuildCandleRequest)
    (hreqs : Always step (Orderly K) (create cfg) reqs) :
    ((run step (create cfg) reqs).savedStarts K).Pairwise (· < ·) := by
  have hinv : OrderInv K (create cfg) ∧ Undisturbed K (create cfg) :=
    ⟨orderInv_create cfg, fun k hk => nomatch hk⟩
  obtain ⟨hfinal, hclean⟩ :=
    invariant_of_always (I := fun uc => OrderInv K uc ∧ Undisturbed K uc)
      (fun _ _ h hreq => OrderInv.step h hreq) hinv hreqs
  exact (List.pairwise_append.mp (hfinal.ordered hclean).starts).1

/-- Two windows of one instrument at the default cap: the first is emitted. -/
theorem saved_strictly_increasing_sample :
    ((run step (create {}) [unitTrade "binance" "BTC" 1 1000, unitTrade "binance" "BTC" 2 2000]).savedStarts
        ⟨"BINANCE", "BTC", "1s"⟩).Pairwise (· < ·) ∧
    (run step (create {}) [unitTrade "binance" "BTC" 1 1000, unitTrade "binance" "BTC" 2 2000]).savedStarts
        ⟨"BINANCE", "BTC", "1s"⟩ = [1000] := by
  refine ⟨saved_strictly_increasing _ _ _ ⟨⟨?_, ?_⟩, ⟨?_, ?_⟩, trivial⟩, ?_⟩
  · exact fun _ => by decide +kernel
  · decide +kernel
  · exact fun _ => by decide +kernel
  · decide +kernel
  · decide +kernel

/--
With a cap of one window, the trade of `B` drops the watermark of `A`, whose candle
stays open.  The late trade of `A` then closes the window 5000 and opens the window
3000, which the last trade closes: 3000 is emitted after 5000.
-/
theorem saved_again_after_cap :
    ¬ ((run step (create { windowCap := 1 })
      [unitTrade "binance" "A" 1 5000, unitTrade "binance" "B" 1 5000, unitTrade "binance" "A" 2 3000,
        unitTrade "binance" "A" 3 5000]).savedStarts ⟨"BINANCE", "A", "1s"⟩).Pairwise (· < ·) := by
  decide +kernel

end BuildCandleFromEvents

end Aggregation
end StreamAnalytics
