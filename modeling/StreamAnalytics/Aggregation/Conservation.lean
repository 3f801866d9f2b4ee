import StreamAnalytics.Lib.Runs
import StreamAnalytics.Aggregation.Cascade

/-!
# Conservation across timeframes

A request that opens a new base window closes and saves the base candle before it
applies its trade, and folds the closed candle into the higher timeframes only
afterwards.  If the trade fails in between, or if a timeframe cannot take the
candle, the saved base candle is missing from the higher timeframes
(`base_candle_lost`).

In every run whose requests let the cascade finish (`Folds`), each saved base
candle is folded exactly once into every higher timeframe, so that trade counts and
volumes are conserved (`base_candles_conserved`).
-/

namespace StreamAnalytics
namespace Aggregation

open GoInt WatermarkWindowManager Validation Runs Prog CandleV1

/-- The trade of a request. -/
def BuildCandleRequest.trade (req : BuildCandleRequest) : Trade where
  price := req.price
  qty := req.quantity
  isBuy := req.isBuy
  seq := req.seq

namespace BuildCandleFromEvents

variable {uc uc' : BuildCandleFromEvents} {req : BuildCandleRequest} {rolled : Option CandleV1}
  {n : Nat}

/-! ## The condition on a request -/

/-- The duration of a base window. -/
def baseMs (uc : BuildCandleFromEvents) : Int := uc.windowMs.getD candleTimeframeBase 0

/-- The request is valid and belongs to the tracked base window or to a later one. -/
structure Accepted (uc : BuildCandleFromEvents) (req : BuildCandleRequest) : Prop where
  valid : validateRequest req = none
  observable : Observable (baseKey req) req.tsIngest uc.baseMs
  current : ¬ uc.windows.Late (normalizedKey (baseKey req)) (bucket req.tsIngest uc.baseMs)

/-- The request closes the base candle of an earlier window, which becomes `base`. -/
structure ClosesBase (uc : BuildCandleFromEvents) (req : BuildCandleRequest) (c base : CandleV1) :
    Prop extends Accepted uc req where
  lookup : uc.candles.lookup (baseKey req) = some c
  changed : c.windowStartTs ≠ bucket req.tsIngest uc.baseMs
  close : CandleV1.close (wrap64 (c.windowStartTs + uc.baseMs)) c = (base, .ok ⟨⟩)

/--
The requests after which nothing is lost: no window is dropped at the cap, and if
the request closes a base candle, then its own trade is positive at the fixed
precision and every higher timeframe can take the closed candle.
-/
structure Folds (uc : BuildCandleFromEvents) (req : BuildCandleRequest) : Prop where
  dropped : droppedBy uc req = []
  positive : ∀ c base, ClosesBase uc req c base → req.trade.Positive
  receives : ∀ c base, ClosesBase uc req c base →
    ∀ tf ∈ uc.timeframes, tf ≠ candleTimeframeBase → Receives uc base tf

/-! ## The base timeframe -/

/-- The base candles of the map carry the trimmed names of their keys and are in range. -/
def BaseCandles (uc : BuildCandleFromEvents) : Prop :=
  ∀ k c, k.timeframe = candleTimeframeBase → uc.candles.lookup k = some c →
    c.key = k.trimmed ∧ c.InRange

/-- What the base timeframe of a request changes: at most one base candle has been saved. -/
structure BaseStep (uc uc' : BuildCandleFromEvents) (rolled : Option CandleV1) : Prop where
  lookup : ∀ k, k.timeframe ≠ candleTimeframeBase →
    uc'.candles.lookup k = uc.candles.lookup k
  saved : uc'.saved = uc.saved ++ rolled.toList
  states : ∀ nk, nk.timeframe ≠ candleTimeframeBase →
    uc'.windows.states.lookup nk = uc.windows.states.lookup nk
  tracked : Tracked uc'
  base : BaseCandles uc'

theorem BaseStep.stored {k : CandleKey} {c : CandleV1} (h : BaseStep uc uc' rolled)
    (hk : k.timeframe = candleTimeframeBase) (hkey : c.key = k.trimmed) (hrange : c.InRange) :
    BaseStep uc (uc'.stored k c) rolled := by
  have hlookup : ∀ k', k'.timeframe ≠ candleTimeframeBase →
      (uc'.stored k c).candles.lookup k' = uc'.candles.lookup k' := by
    rintro k' hk'
    rw [lookup_stored, if_neg]
    rintro rfl
    exact hk' hk
  refine ⟨fun k' hk' => (hlookup k' hk').trans (h.lookup k' hk'), h.saved, h.states, ?_, ?_⟩
  · intro k' c' hk' hc'
    rw [hlookup k' hk'] at hc'
    exact h.tracked k' c' hk' hc'
  · intro k' c' hk' hc'
    rw [lookup_stored] at hc'
    split_ifs at hc' with heq
    · cases hc'
      rw [heq]
      exact ⟨hkey, hrange⟩
    · exact h.base k' c' hk' hc'

theorem BaseStep.finalized {k : CandleKey} {c : CandleV1} (h : BaseStep uc uc' none)
    (hk : k.timeframe = candleTimeframeBase) : BaseStep uc (uc'.finalized k c) (some c) := by
  refine ⟨?_, ?_, h.states, fun k' c' hk' hc' => h.tracked k' c' hk' (lookup_of_finalized hc').2,
    fun k' c' hk' hc' => h.base k' c' hk' (lookup_of_finalized hc').2⟩
  · intro k' hk'
    rw [lookup_finalized, if_neg, h.lookup k' hk']
    rintro rfl
    exact hk' hk
  · change uc'.saved ++ [c] = uc.saved ++ [c]
    rw [h.saved, Option.toList_none, List.append_nil]

/-- The observation of an accepted event changes only the window of the base key. -/
theorem baseStep_observed (hbase : BaseCandles uc) (htracked : Tracked uc) {windowStart : Int}
    (hlate : ¬ uc.windows.Late (normalizedKey (baseKey req)) windowStart)
    (hforced : forcedBy uc (baseKey req) windowStart = none) :
    BaseStep uc (uc.observed (baseKey req) windowStart) none := by
  refine ⟨fun _ _ => rfl, (List.append_nil _).symm, ?_, htracked.observed hlate hforced, hbase⟩
  intro nk hnk
  rw [states_observed hlate hforced, if_neg]
  rintro rfl
  exact hnk (timeframe_normalizedKey (show candleTimeframeBase ∈ allowedCandleTimeframes by decide))

/-- A closed base candle is ready for the cascade. -/
theorem ClosesBase.cascaded
    {c base : CandleV1} (h : ClosesBase uc req c base) (hbase : BaseCandles uc) :
    Cascaded base ∧ base.key = (baseKey req).trimmed := by
  obtain ⟨hkey, hrange⟩ := hbase _ c rfl h.lookup
  obtain ⟨hkey', hstart'⟩ := keepsWindow_close (wrap64 (c.windowStartTs + uc.baseMs)) c
  rw [h.close] at hkey' hstart'
  have hkey'' : base.key = (baseKey req).trimmed := hkey'.trans hkey
  refine ⟨⟨settled_of_close hrange h.close, ?_, ?_⟩, hkey''⟩
  · rw [hkey'', CandleKey.trimmed_trimmed]
  · -- The window of the candle ends in range.
    have hend := (close_eq_ok_iff_validate.mp h.close).2.2.1
    have hrange64 := (inInt64_wrap64 (c.windowStartTs + uc.baseMs)).2
    change base.windowStartTs = c.windowStartTs at hstart'
    omega

/-- A positive trade can be applied to a new candle. -/
theorem applyTrade_fresh {key : CandleKey} {windowStart : Int} {c : CandleV1}
    (hcreate : CandleV1.create key.venue key.instrument key.timeframe windowStart = .ok c)
    (hpositive : req.trade.Positive) (hseq : 0 < req.seq) :
    ∃ c', applyTrade req.price req.quantity req.isBuy req.seq c = (c', .ok ⟨⟩) := by
  obtain ⟨p, q, hp, hq⟩ := hpositive
  obtain ⟨hacc, hfresh⟩ := create_fresh hcreate
  have hqrange := toPositiveFixed_range hq
  refine ⟨_, (applyTrade_eq_ok_iff hacc _ _ _ _).mpr ⟨p, q, hp, hq,
    ⟨Bar.sound_ofTrade (toPositiveFixed_range hp).1 hqrange.1 hseq req.isBuy, ?_⟩, ?_, rfl⟩⟩
  · rw [hfresh.seqLast]
    exact Int.le_of_lt hseq
  · rw [nextBar, if_pos hfresh.tradeCount]
    exact ⟨hqrange.2, show (1 : Int) < 2 ^ 63 by decide⟩

/-- The close of the base candle of an earlier window. -/
theorem Accepted.post_closeIfWindowChanged (h : Accepted uc req) (hbase : BaseCandles uc)
    (hstep : BaseStep uc (uc.observed (baseKey req) (bucket req.tsIngest uc.baseMs)) none) :
    Post
      (fun rolled uc₁ => BaseStep uc uc₁ rolled ∧
        (∀ base, rolled = some base → (∃ c, ClosesBase uc req c base) ∧
          uc₁.candles.lookup (baseKey req) = none))
      (fun _ uc₁ => BaseStep uc uc₁ none)
      (closeIfWindowChanged .succeeding (baseKey req) (bucket req.tsIngest uc.baseMs) uc.baseMs
        (uc.observed (baseKey req) (bucket req.tsIngest uc.baseMs))) := by
  refine BuildCandleFromEvents.post_closeIfWindowChanged ?_ ?_
  · intro _
    exact ⟨hstep, by simp⟩
  · intro c hc hne
    obtain ⟨hkey, hrange⟩ := hbase _ c rfl hc
    have hkey' := (keepsWindow_close (wrap64 (c.windowStartTs + uc.baseMs)) c).1
    have hrange' := (preserves_inRange_close
      (wrap64 (c.windowStartTs + uc.baseMs))).apply hrange
    rcases hclose : CandleV1.close (wrap64 (c.windowStartTs + uc.baseMs)) c with ⟨base, p | u⟩
    · rw [hclose] at hkey' hrange'
      exact .error (hstep.stored rfl (hkey'.trans hkey) hrange')
    · refine .ok ⟨hstep.finalized rfl, ?_⟩
      rintro _ ⟨⟩
      refine ⟨⟨c, h, hc, hne, hclose⟩, ?_⟩
      rw [lookup_finalized, if_pos rfl]

/-- The base timeframe of an accepted request. -/
theorem Accepted.post_updateWindow {decision : WindowDecision} (h : Accepted uc req)
    (hpositive : ∀ c base, ClosesBase uc req c base → req.trade.Positive) (hbase : BaseCandles uc)
    (hstep : BaseStep uc (uc.observed (baseKey req) (bucket req.tsIngest uc.baseMs)) none)
    (hlate : decision.isLate = false)
    (hstart : decision.windowStart = bucket req.tsIngest uc.baseMs) :
    Post
      (fun roll uc' => BaseStep uc uc' roll.rolled ∧
        ∀ base, roll.rolled = some base → ∃ c, ClosesBase uc req c base)
      (fun _ uc' => BaseStep uc uc' none)
      (updateWindow .succeeding (baseKey req) uc.baseMs
        (applyTrade req.price req.quantity req.isBuy req.seq) decision none
        (uc.observed (baseKey req) (bucket req.tsIngest uc.baseMs))) := by
  have hseq : 0 < req.seq :=
    positiveInt_eq_none.mp (collect_eq_none.mp h.valid
      (positiveInt "seq" req.seq) (by simp))
  unfold updateWindow
  rw [hlate, if_neg (by simp), hstart]
  refine Post.bind (h.post_closeIfWindowChanged hbase hstep) ?_
  rintro rolled uc₁ ⟨hstep₁, hrolled⟩
  refine Post.bind (Q := fun c uc₂ => BaseStep uc uc₂ rolled ∧
    c.key = (baseKey req).trimmed ∧ c.InRange ∧ (rolled ≠ none →
      CandleV1.create (baseKey req).venue (baseKey req).instrument (baseKey req).timeframe
        (bucket req.tsIngest uc.baseMs) = .ok c)) (post_getOrCreateCandle ?_ ?_ ?_ ?_) ?_
  · intro c hc _
    obtain ⟨hkey, hrange⟩ := hstep₁.base _ c rfl hc
    refine ⟨hstep₁, hkey, hrange, fun hne => ?_⟩
    obtain ⟨base, hbase'⟩ := Option.ne_none_iff_exists'.mp hne
    rw [(hrolled base hbase').2] at hc
    cases hc
  · intro c p hc _
    cases rolled with
    | none => exact hstep₁
    | some base =>
      rw [(hrolled base rfl).2] at hc
      cases hc
  · intro c _ hcreate
    have hkey := (create_eq_ok hcreate).1
    have hrange := (create_fresh hcreate).2.inRange
    exact ⟨hstep₁.stored rfl hkey hrange, hkey, hrange, fun _ => hcreate⟩
  · intro p _ hcreate
    obtain ⟨c, hc⟩ := creates_of_observable h.observable
      (show candleTimeframeBase ∈ allowedCandleTimeframes by decide)
    rw [hc] at hcreate
    cases hcreate
  · rintro c uc₂ ⟨hstep₂, hkey, hrange, hcreate⟩
    have hkey' := (keepsWindow_applyTrade req.price req.quantity req.isBuy req.seq c).1
    have hrange' := (preserves_inRange_applyTrade req.price req.quantity req.isBuy
      req.seq).apply hrange
    refine post_updateCandle ?_
    rcases hrun : applyTrade req.price req.quantity req.isBuy req.seq c with ⟨c', p | u⟩
    · rw [hrun] at hkey' hrange'
      cases hr : rolled with
      | none =>
        rw [hr] at hstep₂
        exact .error (hstep₂.stored rfl (hkey'.trans hkey) hrange')
      | some base =>
        -- A trade that follows a close is applied to a new candle.
        obtain ⟨e, hcloses⟩ := (hrolled base hr).1
        obtain ⟨c'', hok⟩ := applyTrade_fresh (hcreate (by simp [hr]))
          (hpositive e base hcloses) hseq
        rw [hok] at hrun
        cases hrun
    · rw [hrun] at hkey' hrange'
      exact .ok ⟨hstep₂.stored rfl (hkey'.trans hkey) hrange',
        fun base hbase' => (hrolled base hbase').1⟩

/-- The base timeframe of a valid request, as long as no window is dropped. -/
theorem post_rollWindow_base (hn : n ≤ uc.forceClosed.length) (hvalid : validateRequest req = none)
    (hpositive : ∀ c base, ClosesBase uc req c base → req.trade.Positive) (hbase : BaseCandles uc)
    (htracked : Tracked uc) :
    Post
      (fun roll uc' => Quiet n uc' → BaseStep uc uc' roll.rolled ∧
        ∀ base, roll.rolled = some base → ∃ c, ClosesBase uc req c base)
      (fun _ uc' => Quiet n uc' → BaseStep uc uc' none)
      (rollWindow .succeeding (baseKey req) req.tsIngest
        (applyTrade req.price req.quantity req.isBuy req.seq) uc) := by
  have hrefl : BaseStep uc uc none :=
    ⟨fun _ _ => rfl, (List.append_nil _).symm, fun _ _ => rfl, htracked, hbase⟩
  refine post_rollWindow_quiet (w := uc.baseMs) hn rfl ?_ ?_ ?_
  · exact fun _ _ => hrefl
  · exact fun _ _ => ⟨hrefl, by simp⟩
  · intro hobs hlate hforced d hd hstart
    exact Accepted.post_updateWindow ⟨hvalid, hobs, hlate⟩ hpositive hbase
      (baseStep_observed hbase htracked hlate hforced) hd hstart

/-! ## Requests and runs -/

/-- The invariant between requests. -/
structure Conserving (uc : BuildCandleFromEvents) : Prop where
  timeframes : uc.timeframes = allowedCandleTimeframes
  base : BaseCandles uc
  tracked : Tracked uc
  settled : ∀ venue instrument, ∀ c ∈ uc.savedOf ⟨venue, instrument, candleTimeframeBase⟩,
    c.Settled
  folded : ∀ venue instrument, ∀ tf ∈ allowedCandleTimeframes, tf ≠ candleTimeframeBase →
    FoldedOnce ⟨venue, instrument, tf⟩ (uc.windowMs.getD tf 0)
      (uc.savedOf ⟨venue, instrument, candleTimeframeBase⟩)
      (uc.savedOf ⟨venue, instrument, tf⟩) (uc.candles.lookup ⟨venue, instrument, tf⟩)

theorem conserving_create (cfg : BuildCandleConfig) : Conserving (create cfg) :=
  ⟨rfl, fun _ _ _ h => (nomatch h), fun _ _ _ h => (nomatch h), fun _ _ _ h => (nomatch h),
    fun _ _ _ _ _ => foldedOnce_nil⟩

theorem savedOf_of_saved (h : uc'.saved = uc.saved ++ rolled.toList) (k : CandleKey) :
    uc'.savedOf k = uc.savedOf k ++ rolled.toList.filter fun c => c.key = k := by
  unfold savedOf
  rw [h, List.filter_append]

/-- A request that saves no base candle. -/
theorem Conserving.of_baseStep
    (h : Conserving uc) (hstep : BaseStep uc uc' none) (hcontinues : Continues uc uc') :
    Conserving uc' := by
  have hsaved : ∀ k, uc'.savedOf k = uc.savedOf k := fun k => by
    simpa using savedOf_of_saved hstep.saved k
  refine ⟨hcontinues.timeframes.trans h.timeframes, hstep.base, hstep.tracked, ?_, ?_⟩
  · intro venue instrument
    rw [hsaved]
    exact h.settled venue instrument
  · intro venue instrument tf htf hne
    rw [hsaved, hsaved, hstep.lookup ⟨venue, instrument, tf⟩ hne, hcontinues.windowMs]
    exact h.folded venue instrument tf htf hne

/-- A request that saves a base candle, after the cascade. -/
theorem Conserving.of_cascadedInto
    {base : CandleV1} {uc₁ : BuildCandleFromEvents} (h : Conserving uc)
    (hbase : base.timeframe = candleTimeframeBase) (hsettled : base.Settled)
    (hstep : BaseStep uc uc₁ (some base)) (hcontinues₁ : Continues uc uc₁)
    (hcontinues : Continues uc uc')
    (hinto : CascadedInto allowedCandleTimeframes
      (uc.savedOf ⟨base.venue, base.instrument, candleTimeframeBase⟩) base uc₁ uc') :
    Conserving uc' := by
  -- The cascade leaves the base candles alone.
  have hother : ∀ k : CandleKey, k.timeframe = candleTimeframeBase →
      ∀ tf ∈ allowedCandleTimeframes, tf ≠ candleTimeframeBase → k ≠ childKey base tf := by
    rintro k hk tf - hne rfl
    exact hne hk
  have hbases : ∀ venue instrument,
      uc'.savedOf ⟨venue, instrument, candleTimeframeBase⟩ =
        uc.savedOf ⟨venue, instrument, candleTimeframeBase⟩ ++
          if base.venue = venue ∧ base.instrument = instrument then [base] else [] := by
    intro venue instrument
    rw [(hinto.others _ (hother _ rfl)).2, savedOf_of_saved hstep.saved]
    congr 1
    simp [CandleV1.key, hbase, List.filter_cons]
  refine ⟨hcontinues.timeframes.trans h.timeframes, ?_, hinto.tracked, ?_, ?_⟩
  · intro k c hk hc
    rw [(hinto.others k (hother k hk)).1] at hc
    exact hstep.base k c hk hc
  · intro venue instrument c hc
    rw [hbases] at hc
    rcases List.mem_append.mp hc with hc | hc
    · exact h.settled venue instrument c hc
    · split_ifs at hc
      · rw [List.mem_singleton.mp hc]
        exact hsettled
      · cases hc
  · intro venue instrument tf htf hne
    rw [hbases]
    by_cases hnames : base.venue = venue ∧ base.instrument = instrument
    · obtain ⟨rfl, rfl⟩ := hnames
      rw [if_pos ⟨rfl, rfl⟩, hcontinues.windowMs, ← hcontinues₁.windowMs]
      exact hinto.folded tf htf hne
    · have hkey : ∀ tf' ∈ allowedCandleTimeframes, tf' ≠ candleTimeframeBase →
          (⟨venue, instrument, tf⟩ : CandleKey) ≠ childKey base tf' := by
        rintro tf' - - heq
        refine hnames ⟨?_, ?_⟩
        · exact (congrArg CandleKey.venue heq).symm
        · exact (congrArg CandleKey.instrument heq).symm
      obtain ⟨hlookup, hsaved⟩ := hinto.others _ hkey
      have hfilter : (some base).toList.filter
          (fun c => c.key = (⟨venue, instrument, tf⟩ : CandleKey)) = [] := by
        simp [CandleV1.key, hbase, hne.symm]
      rw [if_neg hnames, List.append_nil, hlookup, hsaved, savedOf_of_saved hstep.saved, hfilter,
        List.append_nil, hstep.lookup ⟨venue, instrument, tf⟩ hne, hcontinues.windowMs]
      exact h.folded venue instrument tf htf hne

/-- The cascade of a request that closes a base candle. -/
theorem Conserving.post_cascade
    {c base : CandleV1} {uc₁ : BuildCandleFromEvents} (h : Conserving uc)
    (hcloses : ClosesBase uc req c base)
    (hreceives : ∀ tf ∈ uc.timeframes, tf ≠ candleTimeframeBase → Receives uc base tf)
    (hstep : BaseStep uc uc₁ (some base)) (hcontinues : Continues uc uc₁) :
    Post (fun _ uc' => Quiet uc.forceClosed.length uc' → Conserving uc')
      (fun _ uc' => Quiet uc.forceClosed.length uc' → Conserving uc')
      (cascadeFromClosedBase .succeeding base uc₁.timeframes uc₁) := by
  obtain ⟨hcascaded, hkey⟩ := hcloses.cascaded h.base
  have hbase : base.timeframe = candleTimeframeBase :=
    (congrArg CandleKey.timeframe hkey).trans
      (show GoStrings.trimSpace candleTimeframeBase = candleTimeframeBase by decide)
  have htimeframes : uc₁.timeframes = allowedCandleTimeframes :=
    hcontinues.timeframes.trans h.timeframes
  rw [h.timeframes] at hreceives
  have hpost := hcascaded.post_cascadeFromClosedBase
    (h.settled base.venue base.instrument) allowedCandleTimeframes (by decide) (fun _ htf => htf)
    hcontinues.forceClosed.length_le ?_ ?_ hstep.tracked
  · rw [htimeframes]
    refine (hpost.and (((walk_continues uc).cascadeFromClosedBase .succeeding base
      allowedCandleTimeframes).post uc₁ hcontinues)).imp ?_ fun _ _ h' hquiet => (h'.1 hquiet).elim
    rintro _ uc' ⟨hinto, hcontinues'⟩ hquiet
    exact h.of_cascadedInto hbase hcascaded.settled hstep hcontinues hcontinues' (hinto hquiet)
  · intro tf htf hne
    have hfilter : (some base).toList.filter (fun c => c.key = childKey base tf) = [] := by
      simp [CandleV1.key, childKey, hbase, hne.symm]
    rw [savedOf_of_saved hstep.saved, hfilter, List.append_nil, hcontinues.windowMs,
      hstep.lookup (childKey base tf) hne]
    exact h.folded base.venue base.instrument tf htf hne
  · intro tf htf hne
    refine (hreceives tf htf hne).mono hcontinues.windowMs (hstep.lookup _ hne) (hstep.states _ ?_)
    rw [timeframe_normalizedKey htf]
    exact hne

theorem Conserving.post_execute (h : Conserving uc) (hfolds : Folds uc req) :
    Post (fun _ uc' => Quiet uc.forceClosed.length uc' → Conserving uc')
      (fun _ uc' => Quiet uc.forceClosed.length uc' → Conserving uc')
      (execute .succeeding req uc) := by
  refine post_execute_guarded (fun _ _ => quiet_of_continues) h (fun hvalid =>
    ((post_rollWindow_base (Nat.le_refl _) hvalid hfolds.positive h.base h.tracked).and
      (((walk_continues uc).rollWindow .succeeding (baseKey req) req.tsIngest trivial).post uc
        (.refl uc))).imp
      (fun _ _ hpost => hpost.1) fun _ _ hpost hquiet => h.of_baseStep (hpost.1 hquiet) hpost.2) ?_
  rintro roll uc₁ hcontinues ⟨hstep, hrolled⟩
  cases hr : roll.rolled with
  | none =>
    rw [hr] at hstep
    exact .ok fun _ => h.of_baseStep hstep hcontinues
  | some base =>
    rw [hr] at hstep
    obtain ⟨c, hcloses⟩ := hrolled base hr
    exact h.post_cascade hcloses (hfolds.receives c base hcloses) hstep hcontinues

theorem Conserving.step (h : Conserving uc) (hfolds : Folds uc req) : Conserving (step uc req) := by
  have hquiet : Quiet uc.forceClosed.length (BuildCandleFromEvents.step uc req) := by
    unfold Quiet
    rw [forceClosed_step, hfolds.dropped, List.append_nil]
  have hstate : Quiet uc.forceClosed.length (BuildCandleFromEvents.step uc req) →
      Conserving (BuildCandleFromEvents.step uc req) := (h.post_execute hfolds).state
  exact hstate hquiet

/--
In every run of requests that let the cascade finish, each saved base candle is
folded exactly once by `ApplyClosedCandle` into a candle of every higher timeframe,
and the trade count and the volume of the saved and the open candles of the
timeframe are those of the saved base candles.
-/
theorem base_candles_conserved (cfg : BuildCandleConfig) (reqs : List BuildCandleRequest)
    (hreqs : Always step Folds (create cfg) reqs) (venue instrument tf : String)
    (htf : tf ∈ allowedCandleTimeframes) (hne : tf ≠ candleTimeframeBase) :
    let uc := run step (create cfg) reqs
    let bases := uc.savedOf ⟨venue, instrument, candleTimeframeBase⟩
    let closed := uc.savedOf ⟨venue, instrument, tf⟩
    let current := uc.candles.lookup ⟨venue, instrument, tf⟩
    FoldedOnce ⟨venue, instrument, tf⟩ (uc.windowMs.getD tf 0) bases closed current ∧
    ((closed ++ current.toList).map tradeCount).sum =
      (bases.map tradeCount).sum ∧
    ((closed ++ current.toList).map volumeFixed).sum =
      (bases.map volumeFixed).sum := by
  have hinv := invariant_of_always (I := Conserving) (fun _ _ h hreq => h.step hreq)
    (conserving_create cfg) hreqs
  have hfold := hinv.folded venue instrument tf htf hne
  have hsettled := hinv.settled venue instrument
  exact ⟨hfold, hfold.sum_eq Bar.tradeCount_total hsettled, hfold.sum_eq Bar.volume_total hsettled⟩

/-- The parts of `Folds`, with the closed candle computed from the open one. -/
theorem folds_of_checks (hdropped : droppedBy uc req = []) (hpositive : req.trade.Positive)
    (hreceives : ∀ c ∈ uc.candles.lookup (baseKey req), ∀ tf ∈ uc.timeframes,
      tf ≠ candleTimeframeBase →
      Receives uc (CandleV1.close (wrap64 (c.windowStartTs + uc.baseMs)) c).1 tf) :
    Folds uc req := by
  refine ⟨hdropped, fun _ _ _ => hpositive, ?_⟩
  intro c base h tf htf hne
  have hreceive := hreceives c h.lookup tf htf hne
  rw [h.close] at hreceive
  exact hreceive

theorem unitTrade_positive (venue instrument : String) (seq tsIngest : Int) :
    (unitTrade venue instrument seq tsIngest).trade.Positive :=
  ⟨10000000000, 100000000,
    show toPositiveFixed "price" 100 candleFixedScale = .ok 10000000000 by decide +kernel,
    show toPositiveFixed "qty" 1 candleFixedScale = .ok 100000000 by decide +kernel⟩

/-- Two base windows of one instrument: the first one reaches the higher timeframes. -/
theorem base_candles_conserved_sample :
    let uc := run step (create {})
      [unitTrade "binance" "A" 1 1000, unitTrade "binance" "A" 2 2000]
    (uc.savedOf ⟨"BINANCE", "A", "1s"⟩).map tradeCount = [1] ∧
    ((uc.savedOf ⟨"BINANCE", "A", "5s"⟩ ++
        (uc.candles.lookup ⟨"BINANCE", "A", "5s"⟩).toList).map tradeCount).sum =
      ((uc.savedOf ⟨"BINANCE", "A", "1s"⟩).map tradeCount).sum := by
  have hfolds : Always step Folds (create {})
      [unitTrade "binance" "A" 1 1000, unitTrade "binance" "A" 2 2000] :=
    ⟨folds_of_checks (by decide +kernel) (unitTrade_positive _ _ 1 1000) (by decide +kernel),
      folds_of_checks (by decide +kernel) (unitTrade_positive _ _ 2 2000) (by decide +kernel), trivial⟩
  refine ⟨by decide +kernel, ?_⟩
  exact (base_candles_conserved {} _ hfolds "BINANCE" "A" "5s" (by decide) (by decide)).2.1

/-- A trade whose price is zero at the precision of eight decimals. -/
def dustTrade : BuildCandleRequest := { unitTrade "binance" "A" 2 2000 with price := 1e-9 }

/--
The trade passes `validateRequest`, closes the base candle of the window before it
and is then rejected by `ApplyTrade`: the base candle is saved, and no higher
timeframe gets it.
-/
theorem base_candle_lost :
    let uc := run step (create {}) [unitTrade "binance" "A" 1 1000, dustTrade]
    validateRequest dustTrade = none ∧
    droppedBy (step (create {}) (unitTrade "binance" "A" 1 1000)) dustTrade = [] ∧
    uc.saved.map (fun c => (c.timeframe, c.tradeCount)) = [("1s", 1)] ∧
    uc.candles.keys.map CandleKey.timeframe = ["1s"] ∧
    ((uc.savedOf ⟨"BINANCE", "A", "5s"⟩ ++
        (uc.candles.lookup ⟨"BINANCE", "A", "5s"⟩).toList).map tradeCount).sum ≠
      ((uc.savedOf ⟨"BINANCE", "A", "1s"⟩).map tradeCount).sum := by
  decide +kernel

end BuildCandleFromEvents

end Aggregation
end StreamAnalytics
