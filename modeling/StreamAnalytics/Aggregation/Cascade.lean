import StreamAnalytics.Aggregation.FoldedOnce

/-!
# The cascade into the higher timeframes

A timeframe takes one more base candle whenever `Receives` holds before the
cascade: its window is not late, and the open candle of that window ends before the
base candle and has room for it.  As long as no window is dropped at the cap, the
cascade then folds the base candle into every timeframe
(`Cascaded.post_cascadeFromClosedBase`).
-/

namespace StreamAnalytics
namespace Aggregation

open GoInt WatermarkWindowManager GoStrings Prog CandleV1

/-! ## One timeframe of the cascade -/

variable {uc' : BuildCandleFromEvents} {n : Nat}

namespace BuildCandleFromEvents

variable {uc : BuildCandleFromEvents} {base : CandleV1} {tf : String} {K : CandleKey} {w : Int}
  {bases : List CandleV1}

/-- The key of a base candle in a higher timeframe. -/
def childKey (base : CandleV1) (tf : String) : CandleKey := ⟨base.venue, base.instrument, tf⟩

/-- The open candle of the window of `base` ends before it and has room for it. -/
def HasRoom (base d : CandleV1) : Prop :=
  d.seqLast ≤ base.seqFirst ∧ d.volumeFixed + base.volumeFixed < 2 ^ 63 ∧
    d.tradeCount + base.tradeCount < 2 ^ 63

/-- The timeframe can take the closed base candle. -/
structure Receives (uc : BuildCandleFromEvents) (base : CandleV1) (tf : String) : Prop where
  duration : 0 < uc.windowMs.getD tf 0
  current : ¬ uc.windows.Late (normalizedKey (childKey base tf))
    (bucket base.windowStartTs (uc.windowMs.getD tf 0))
  room : ∀ d ∈ uc.candles.lookup (childKey base tf),
    d.windowStartTs = bucket base.windowStartTs (uc.windowMs.getD tf 0) → HasRoom base d

instance (base d : CandleV1) : Decidable (HasRoom base d) := inferInstanceAs (Decidable (_ ∧ _ ∧ _))

instance : Decidable (Receives uc base tf) :=
  decidable_of_iff (0 < uc.windowMs.getD tf 0 ∧
      ¬ uc.windows.Late (normalizedKey (childKey base tf))
        (bucket base.windowStartTs (uc.windowMs.getD tf 0)) ∧
      ∀ d ∈ uc.candles.lookup (childKey base tf),
        d.windowStartTs = bucket base.windowStartTs (uc.windowMs.getD tf 0) → HasRoom base d)
    ⟨fun h => ⟨h.1, h.2.1, h.2.2⟩, fun h => ⟨h.duration, h.current, h.room⟩⟩

/-- A closed base candle as the cascade gets it. -/
structure Cascaded (base : CandleV1) : Prop where
  settled : base.Settled
  trimmed : base.key.trimmed = base.key
  start_lt : base.windowStartTs < 2 ^ 63

/-- The candles of other keys are as before. -/
structure OnlyAt (K : CandleKey) (uc uc' : BuildCandleFromEvents) : Prop where
  lookup : ∀ k, k ≠ K → uc'.candles.lookup k = uc.candles.lookup k
  savedOf : ∀ k, k ≠ K → uc'.savedOf k = uc.savedOf k

theorem OnlyAt.stored (h : OnlyAt K uc uc') (c : CandleV1) : OnlyAt K uc (uc'.stored K c) := by
  refine ⟨fun k hk => ?_, h.savedOf⟩
  rw [lookup_stored, if_neg hk, h.lookup k hk]

theorem onlyAt_finalized {c : CandleV1} (hc : c.key = K) : OnlyAt K uc (uc.finalized K c) := by
  refine ⟨fun k hk => ?_, fun k hk => ?_⟩
  · rw [lookup_finalized, if_neg hk]
  · rw [savedOf_finalized, if_neg (by rw [hc]; exact hk.symm), List.append_nil]

theorem Cascaded.childKey_trimmed (h : Cascaded base) (htf : tf ∈ allowedCandleTimeframes) :
    (childKey base tf).trimmed = childKey base tf := by
  have htrimmed := h.trimmed
  simp only [CandleKey.trimmed, CandleV1.key, CandleKey.mk.injEq] at htrimmed
  simp only [CandleKey.trimmed, childKey, CandleKey.mk.injEq]
  exact ⟨htrimmed.1, htrimmed.2.1, trimSpace_of_mem_allowed htf⟩

theorem Cascaded.observable (h : Cascaded base) (htf : tf ∈ allowedCandleTimeframes) (hw : 0 < w) :
    Observable (childKey base tf) base.windowStartTs w := by
  have hidentified := h.settled.complete.identified
  refine ⟨hidentified.venue, hidentified.instrument, ?_, hw, hidentified.windowStartTs⟩
  change trimSpace tf ≠ ""
  rw [trimSpace_of_mem_allowed htf]
  rintro rfl
  revert htf
  decide

/-- `ApplyClosedCandle` appends the base candle to a candle of its key. -/
theorem Cascaded.apply_ok {d : CandleV1} (h : Cascaded base) (hd : d.Accumulating)
    (hkey : d.key = (childKey base tf).trimmed) (hseq : d.seqLast ≤ base.seqFirst)
    (hfits : (d.nextBar base.bar).Fits) :
    applyClosedCandle base d = (d.absorb base.bar, .ok ⟨⟩) := by
  refine (applyClosedCandle_eq_ok_iff hd h.settled.inRange).mpr
    ⟨h.settled.complete, ?_, ?_, ?_, ?_, ?_⟩
  · exact (congrArg CandleKey.venue hkey).symm
  · exact (congrArg CandleKey.instrument hkey).symm
  · rw [h.settled.settledBar_eq]
    exact hseq
  · rw [h.settled.settledBar_eq]
    exact hfits
  · rw [h.settled.settledBar_eq]

/-- The open candle of an earlier window is closed; nothing else can happen. -/
theorem post_closeIfWindowChanged_child
    {ts : Int} (hK : K.trimmed = K) (hw : 0 < w) (hts : 0 ≤ ts ∧ ts < 2 ^ 63)
    (hbases : ∀ c ∈ bases, c.Settled)
    (hfold : FoldedOnce K w bases (uc.savedOf K) (uc.candles.lookup K))
    (hle : ∀ d, uc.candles.lookup K = some d → d.windowStartTs ≤ bucket ts w) :
    Post
      (fun _ uc₁ => FoldedOnce K w bases (uc₁.savedOf K) (uc₁.candles.lookup K) ∧
        (∀ d, uc₁.candles.lookup K = some d →
          d.windowStartTs = bucket ts w ∧ uc.candles.lookup K = some d) ∧
        OnlyAt K uc uc₁ ∧ uc₁.windows = uc.windows)
      (fun _ _ => False)
      (closeIfWindowChanged .succeeding K (bucket ts w) w uc) := by
  refine post_closeIfWindowChanged ?_ ?_
  · intro hsame
    exact ⟨hfold, fun d hd => ⟨hsame d hd, hd⟩, ⟨fun _ _ => rfl, fun _ _ => rfl⟩, rfl⟩
  · intro d hd hne
    rw [hd] at hfold
    obtain ⟨hdvd, group, hholds⟩ := hfold.holds hbases
    -- Both windows start at multiples of the duration, so the earlier one ends in range.
    have hstep := add_le_of_dvd_of_lt hdvd (dvd_bucket ts w) (by have := hle d hd; omega)
    have hbucket := bucket_le hts.1 hw
    have hstart := hholds.accumulating.isOpen.windowStartTs
    have hend : wrap64 (d.windowStartTs + w) = d.windowStartTs + w :=
      wrap64_eq_self ⟨by omega, by omega⟩
    have hclose := (close_eq_ok_iff (u := ⟨⟩) hholds.accumulating).mpr
      ⟨hholds.filled, show d.windowStartTs < wrap64 (d.windowStartTs + w) by omega, rfl⟩
    have hkey : (d.closedAt (wrap64 (d.windowStartTs + w))).key = K := hholds.key_eq.trans hK
    rw [hclose]
    refine .ok ⟨?_, fun e he => absurd rfl (lookup_of_finalized he).1, onlyAt_finalized hkey, rfl⟩
    rw [lookup_finalized, if_pos rfl, savedOf_finalized, if_pos hkey]
    exact hfold.close hclose

/-- Where a timeframe stands after it has taken a base candle. -/
structure Took (K : CandleKey) (w : Int) (bases : List CandleV1) (base : CandleV1)
    (uc uc' : BuildCandleFromEvents) : Prop where
  folded : FoldedOnce K w (bases ++ [base]) (uc'.savedOf K) (uc'.candles.lookup K)
  openStart : uc'.openStart K = some (bucket base.windowStartTs w)
  onlyAt : OnlyAt K uc uc'

theorem Took.after
    {uc₁ : BuildCandleFromEvents} (h : Took K w bases base uc₁ uc') (honly : OnlyAt K uc uc₁) :
    Took K w bases base uc uc' :=
  ⟨h.folded, h.openStart, fun k hk => (h.onlyAt.lookup k hk).trans (honly.lookup k hk),
    fun k hk => (h.onlyAt.savedOf k hk).trans (honly.savedOf k hk)⟩

theorem took_stored
    {d : CandleV1} (hfold : FoldedOnce K w (bases ++ [base]) (uc.savedOf K) (some d))
    (hstart : d.windowStartTs = bucket base.windowStartTs w) :
    Took K w bases base uc (uc.stored K d) := by
  have hlookup : (uc.stored K d).candles.lookup K = some d := by rw [lookup_stored, if_pos rfl]
  refine ⟨by rwa [hlookup], ?_, OnlyAt.stored ⟨fun _ _ => rfl, fun _ _ => rfl⟩ d⟩
  rw [openStart, hlookup, Option.map_some, hstart]

/-- The base candle is appended to the current candle. -/
theorem Cascaded.took_append {d : CandleV1} (h : Cascaded base) (hbases : ∀ c ∈ bases, c.Settled)
    (hfold : FoldedOnce (childKey base tf) w bases (uc.savedOf (childKey base tf)) (some d))
    (hstart : d.windowStartTs = bucket base.windowStartTs w) (hroom : HasRoom base d) :
    Post (fun _ d' => Took (childKey base tf) w bases base uc (uc.stored (childKey base tf) d'))
      (fun _ _ => False) (applyClosedCandle base d) := by
  obtain ⟨-, group, hholds⟩ := hfold.holds hbases
  obtain ⟨hseq, hvolume, hcount⟩ := hroom
  have hfits : (d.nextBar base.bar).Fits := by
    rw [nextBar, if_neg hholds.filled.tradeCount_ne_zero]
    exact ⟨hvolume, hcount⟩
  have happly := h.apply_ok hholds.accumulating hholds.key_eq hseq hfits
  rw [happly]
  exact .ok (took_stored (hfold.append hstart.symm happly) hstart)

/-- The base candle is the first one of a new candle. -/
theorem Cascaded.took_first {fresh : CandleV1} (h : Cascaded base)
    (hfold : FoldedOnce (childKey base tf) w bases (uc.savedOf (childKey base tf)) none)
    (hcreate : CandleV1.create base.venue base.instrument tf (bucket base.windowStartTs w) =
      .ok fresh) :
    Post (fun _ d' => Took (childKey base tf) w bases base uc (uc.stored (childKey base tf) d'))
      (fun _ _ => False) (applyClosedCandle base fresh) := by
  obtain ⟨hacc, hfresh⟩ := create_fresh hcreate
  obtain ⟨hkey, hstart⟩ : fresh.key = (childKey base tf).trimmed ∧
      fresh.windowStartTs = bucket base.windowStartTs w := create_eq_ok hcreate
  obtain ⟨hsound, hfits⟩ := h.settled.complete.settledBar_sound h.settled.inRange
  rw [h.settled.settledBar_eq] at hsound hfits
  have hnext : (fresh.nextBar base.bar).Fits := by
    rw [nextBar, if_pos hfresh.tradeCount]
    exact hfits
  have hseq : fresh.seqLast ≤ base.seqFirst := by
    have : 0 < base.seqFirst := hsound.seqFirst_pos
    rw [hfresh.seqLast]
    omega
  have happly := h.apply_ok hacc hkey hseq hnext
  rw [happly]
  exact .ok (took_stored (hfold.first hcreate happly) hstart)

/-- After the observation of the window, the timeframe takes the base candle. -/
theorem Cascaded.post_updateWindow
    {decision : WindowDecision} (h : Cascaded base) (htf : tf ∈ allowedCandleTimeframes)
    (hw : 0 < w) (hbases : ∀ c ∈ bases, c.Settled)
    (hfold : FoldedOnce (childKey base tf) w bases (uc.savedOf (childKey base tf))
      (uc.candles.lookup (childKey base tf)))
    (hle : ∀ d, uc.candles.lookup (childKey base tf) = some d →
      d.windowStartTs ≤ bucket base.windowStartTs w)
    (hroom : ∀ d ∈ uc.candles.lookup (childKey base tf),
      d.windowStartTs = bucket base.windowStartTs w → HasRoom base d)
    (hlate : decision.isLate = false)
    (hstart : decision.windowStart = bucket base.windowStartTs w) :
    Post
      (fun _ uc' => Took (childKey base tf) w bases base uc uc' ∧ uc'.windows = uc.windows)
      (fun _ _ => False)
      (updateWindow .succeeding (childKey base tf) w (applyClosedCandle base) decision
        none uc) := by
  have hobs := h.observable htf hw
  unfold updateWindow
  rw [hlate, if_neg (by simp), hstart]
  refine Post.bind (post_closeIfWindowChanged_child (h.childKey_trimmed htf) hw
    ⟨hobs.eventTs, h.start_lt⟩ hbases hfold hle) ?_
  rintro rolled uc₁ ⟨hfold₁, hcurrent, honly, hwindows⟩
  refine Post.bind (Q := fun c uc₂ => Post
    (fun _ d' => Took (childKey base tf) w bases base uc (uc₂.stored (childKey base tf) d') ∧
      uc₂.windows = uc.windows) (fun _ _ => False) (applyClosedCandle base c))
    (post_getOrCreateCandle ?_ ?_ ?_ ?_) fun _ _ hpost => post_updateCandle hpost
  · intro d hd hds
    rw [hd] at hfold₁
    exact (h.took_append hbases hfold₁ hds (hroom d (hcurrent d hd).2 hds)).imp
      (fun _ _ htook => ⟨htook.after honly, hwindows⟩) fun _ _ hfalse => hfalse
  · intro d p hd hne
    exact hne (hcurrent d hd).1
  · intro fresh hnone hcreate
    rw [hnone] at hfold₁
    simp only [stored_stored]
    exact (h.took_first hfold₁ hcreate).imp (fun _ _ htook => ⟨htook.after honly, hwindows⟩)
      fun _ _ hfalse => hfalse
  · intro p _ hcreate
    obtain ⟨c, hc⟩ := creates_of_observable hobs htf
    rw [hc] at hcreate
    cases hcreate

/-! ## The cascade while no window is dropped -/

/-- At most `n` windows have been dropped. -/
def Quiet (n : Nat) (uc : BuildCandleFromEvents) : Prop := uc.forceClosed.length ≤ n

theorem quiet_of_continues (hcontinues : Continues uc uc') (h : Quiet n uc') : Quiet n uc :=
  hcontinues.forceClosed.length_le.trans h

theorem preserves_not_quiet {α : Type} {x : Prog Problem BuildCandleFromEvents α}
    (hx : ∀ uc₀, Preserves (Continues uc₀) x) : Preserves (fun uc => ¬ Quiet n uc) x :=
  preserves_not_of_continues (fun _ _ => quiet_of_continues) hx

/-- While no window is dropped, only the window of the event changes. -/
theorem states_observed {key : CandleKey} {windowStart : Int}
    (hlate : ¬ uc.windows.Late (normalizedKey key) windowStart)
    (hforced : forcedBy uc key windowStart = none) (nk : WindowKey) :
    (uc.observed key windowStart).windows.states.lookup nk =
      if nk = normalizedKey key then some windowStart else uc.windows.states.lookup nk := by
  have hlookup := (assign_accepts hlate).2.2.lookup nk
  rw [show (uc.windows.assign (normalizedKey key) windowStart).2.forcedClose = none from hforced]
    at hlookup
  simp only [Option.map_none, reduceCtorEq, if_false] at hlookup
  exact hlookup

/-- One timeframe of a request, as long as no window is dropped. -/
theorem post_rollWindow_quiet
    {key : CandleKey} {eventTsMs : Int} {update : Prog Problem CandleV1 PUnit}
    {Q : WindowRoll → BuildCandleFromEvents → Prop} {R : Problem → BuildCandleFromEvents → Prop}
    (hn : n ≤ uc.forceClosed.length) (hw : uc.windowMs.getD key.timeframe 0 = w)
    (hreject : ∀ p, ¬ Observable key eventTsMs w → R p uc)
    (hlate : Observable key eventTsMs w →
      uc.windows.Late (normalizedKey key) (bucket eventTsMs w) → Q ⟨none, none⟩ uc)
    (haccept : Observable key eventTsMs w →
      ¬ uc.windows.Late (normalizedKey key) (bucket eventTsMs w) →
      forcedBy uc key (bucket eventTsMs w) = none →
      ∀ d : WindowDecision, d.isLate = false → d.windowStart = bucket eventTsMs w →
      Post Q R (updateWindow .succeeding key w update d none
        (uc.observed key (bucket eventTsMs w)))) :
    Post (fun roll uc' => Quiet n uc' → Q roll uc') (fun p uc' => Quiet n uc' → R p uc')
      (rollWindow .succeeding key eventTsMs update uc) := by
  unfold rollWindow
  rw [get_bind_apply, hw]
  refine Post.bind_guarded
    (Q := fun r uc₁ => Post Q R (updateWindow .succeeding key w update r.1 r.2 uc₁))
    (fun r => preserves_not_quiet fun uc₀ =>
      (walk_continues uc₀).updateWindow .succeeding key w trivial r.1 r.2)
    (post_observeWindow ?_ ?_ ?_ ?_) ?_
  · exact fun p hobs _ => hreject p hobs
  · intro hobs hl d hd _
    rw [updateWindow, if_pos hd]
    exact .ok (hlate hobs hl)
  · exact fun hobs hl hforced d hd hstart _ => haccept hobs hl hforced d hd hstart
  · intro hobs hl forced hforced d _ _
    -- The dropped window is logged, so the guard is lost.
    have hlost : ¬ Quiet n (uc.observed key (bucket eventTsMs w)) := by
      unfold Quiet
      rw [forceClosed_observed_of_some hforced, List.length_append, List.length_singleton]
      omega
    exact ((preserves_not_quiet fun uc₀ =>
      (walk_continues uc₀).forceCloseWindow .succeeding forced).post _ hlost).imp
        (fun _ _ h hq => absurd hq h) fun _ _ h hq => absurd hq h
  · rintro ⟨d, forced⟩ uc₁ - h
    exact h.imp (fun _ _ h _ => h) fun _ _ h _ => h

/-- The open candles of the higher timeframes are not ahead of the tracked windows. -/
def Tracked (uc : BuildCandleFromEvents) : Prop :=
  ∀ k c, k.timeframe ≠ candleTimeframeBase → uc.candles.lookup k = some c →
    ∃ w, uc.watermark k = some w ∧ c.windowStartTs ≤ w

theorem Tracked.observed {key : CandleKey} {windowStart : Int} (h : Tracked uc)
    (hlate : ¬ uc.windows.Late (normalizedKey key) windowStart)
    (hforced : forcedBy uc key windowStart = none) : Tracked (uc.observed key windowStart) := by
  intro k c hk hc
  obtain ⟨w, hw, hle⟩ := h k c hk hc
  rw [watermark, states_observed hlate hforced]
  by_cases hnk : normalizedKey k = normalizedKey key
  · rw [if_pos hnk]
    refine ⟨windowStart, rfl, ?_⟩
    rw [watermark, hnk] at hw
    have := (assign_accepts hlate).2.2.le w hw
    omega
  · rw [if_neg hnk]
    exact ⟨w, hw, hle⟩

/-- A timeframe takes the base candle. -/
theorem Cascaded.post_rollWindow
    (h : Cascaded base) (htf : tf ∈ allowedCandleTimeframes) (hne : tf ≠ candleTimeframeBase)
    (hn : n ≤ uc.forceClosed.length) (hbases : ∀ c ∈ bases, c.Settled)
    (hfold : FoldedOnce (childKey base tf) (uc.windowMs.getD tf 0) bases
      (uc.savedOf (childKey base tf)) (uc.candles.lookup (childKey base tf)))
    (hreceives : Receives uc base tf)
    (htracked : Tracked uc) :
    Post
      (fun _ uc' => Quiet n uc' →
        Took (childKey base tf) (uc.windowMs.getD tf 0) bases base uc uc' ∧ Tracked uc' ∧
        ∀ nk, nk ≠ normalizedKey (childKey base tf) →
          uc'.windows.states.lookup nk = uc.windows.states.lookup nk)
      (fun _ uc' => Quiet n uc' → False)
      (rollWindow .succeeding (childKey base tf) base.windowStartTs
        (applyClosedCandle base) uc) := by
  refine post_rollWindow_quiet hn rfl ?_ ?_ ?_
  · exact fun p hobs => hobs (h.observable htf hreceives.duration)
  · exact fun _ hlate => (hreceives.current hlate).elim
  · intro hobs hlate hforced d hd hstart
    have hle : ∀ e, uc.candles.lookup (childKey base tf) = some e →
        e.windowStartTs ≤ bucket base.windowStartTs (uc.windowMs.getD tf 0) := by
      intro e he
      obtain ⟨wm, hwm, hewm⟩ := htracked _ e hne he
      have := (assign_accepts hlate).2.2.le wm hwm
      exact hewm.trans this
    -- The observation changes neither the candles nor the saved ones.
    have hfold' : FoldedOnce (childKey base tf) (uc.windowMs.getD tf 0) bases
        ((uc.observed (childKey base tf) (bucket base.windowStartTs
          (uc.windowMs.getD tf 0))).savedOf (childKey base tf))
        ((uc.observed (childKey base tf) (bucket base.windowStartTs
          (uc.windowMs.getD tf 0))).candles.lookup (childKey base tf)) := hfold
    refine (h.post_updateWindow htf hreceives.duration hbases hfold' hle hreceives.room hd
      hstart).imp ?_ fun _ _ hfalse => hfalse
    rintro _ uc' ⟨htook, hwindows⟩
    refine ⟨htook.after ⟨fun _ _ => rfl, fun _ _ => rfl⟩, ?_, ?_⟩
    · intro k c hk hc
      rw [watermark, hwindows]
      by_cases hkey : k = childKey base tf
      · subst hkey
        have hopen := htook.openStart
        rw [openStart, hc, Option.map_some, Option.some.injEq] at hopen
        exact ⟨_, watermark_observed hlate, hopen.le⟩
      · rw [htook.onlyAt.lookup k hkey] at hc
        exact htracked.observed hlate hforced k c hk hc
    · intro nk hnk
      rw [hwindows]
      exact (states_observed hlate hforced nk).trans (if_neg hnk)

/-- The manager keeps the timeframe of a key. -/
theorem timeframe_normalizedKey {k : CandleKey} (h : k.timeframe ∈ allowedCandleTimeframes) :
    (normalizedKey k).timeframe = k.timeframe := by
  have hlower : ∀ tf ∈ allowedCandleTimeframes,
      toLower (trimSpace tf) = tf := by decide +kernel
  exact hlower k.timeframe h

/-- Where the higher timeframes stand after a cascade. -/
structure CascadedInto (timeframes : List String) (bases : List CandleV1) (base : CandleV1)
    (uc uc' : BuildCandleFromEvents) : Prop where
  folded : ∀ tf ∈ timeframes, tf ≠ candleTimeframeBase →
    FoldedOnce (childKey base tf) (uc.windowMs.getD tf 0) (bases ++ [base])
      (uc'.savedOf (childKey base tf)) (uc'.candles.lookup (childKey base tf))
  others : ∀ k, (∀ tf ∈ timeframes, tf ≠ candleTimeframeBase → k ≠ childKey base tf) →
    uc'.candles.lookup k = uc.candles.lookup k ∧ uc'.savedOf k = uc.savedOf k
  tracked : Tracked uc'

/-- What a timeframe needs is not touched by the timeframes before it. -/
theorem Receives.mono (h : Receives uc base tf) (hms : uc'.windowMs = uc.windowMs)
    (hlookup : uc'.candles.lookup (childKey base tf) = uc.candles.lookup (childKey base tf))
    (hstates : uc'.windows.states.lookup (normalizedKey (childKey base tf)) =
      uc.windows.states.lookup (normalizedKey (childKey base tf))) : Receives uc' base tf := by
  refine ⟨by rw [hms]; exact h.duration, ?_, ?_⟩
  · rw [hms]
    unfold Late
    rw [hstates]
    exact h.current
  · rw [hms, hlookup]
    exact h.room

theorem Cascaded.post_cascadeFromClosedBase
    (h : Cascaded base) (hbases : ∀ c ∈ bases, c.Settled) (timeframes : List String)
    (hnodup : timeframes.Nodup) (hallowed : ∀ tf ∈ timeframes, tf ∈ allowedCandleTimeframes)
    (hn : n ≤ uc.forceClosed.length)
    (hfold : ∀ tf ∈ timeframes, tf ≠ candleTimeframeBase →
      FoldedOnce (childKey base tf) (uc.windowMs.getD tf 0) bases
        (uc.savedOf (childKey base tf)) (uc.candles.lookup (childKey base tf)))
    (hreceives : ∀ tf ∈ timeframes, tf ≠ candleTimeframeBase → Receives uc base tf)
    (htracked : Tracked uc) :
    Post (fun _ uc' => Quiet n uc' → CascadedInto timeframes bases base uc uc')
      (fun _ uc' => Quiet n uc' → False)
      (cascadeFromClosedBase .succeeding base timeframes uc) := by
  induction timeframes generalizing uc with
  | nil => exact .ok fun _ => ⟨by simp, fun _ _ => ⟨rfl, rfl⟩, htracked⟩
  | cons tf tfs ih =>
    obtain ⟨hnotin, hnodup'⟩ := List.nodup_cons.mp hnodup
    have hmem : ∀ tf' ∈ tfs, tf' ∈ tf :: tfs := fun tf' => List.mem_cons_of_mem tf
    unfold cascadeFromClosedBase
    by_cases htf : tf = candleTimeframeBase
    · rw [if_pos htf]
      refine (ih hnodup' (fun tf' h' => hallowed tf' (hmem tf' h')) hn
        (fun tf' h' => hfold tf' (hmem tf' h')) (fun tf' h' => hreceives tf' (hmem tf' h'))
        htracked).imp ?_ fun _ _ hfalse => hfalse
      intro _ uc' hinto hquiet
      refine ⟨?_, ?_, (hinto hquiet).tracked⟩
      · intro tf' htf' hne
        rcases List.mem_cons.mp htf' with rfl | htf'
        · exact absurd htf hne
        · exact (hinto hquiet).folded tf' htf' hne
      · exact fun k hk => (hinto hquiet).others k fun tf' htf' => hk tf' (hmem tf' htf')
    · rw [if_neg htf]
      have hhead := hallowed tf List.mem_cons_self
      refine Post.bind_guarded (fun roll => preserves_not_quiet fun uc₀ =>
        Preserves.bind ((walk_continues uc₀).cascadeFromClosedBase .succeeding base tfs)
          fun _ => preserves_pure _)
        ((h.post_rollWindow hhead htf hn hbases (hfold tf List.mem_cons_self htf)
          (hreceives tf List.mem_cons_self htf) htracked).and
          (((walk_continues uc).rollWindow .succeeding (childKey base tf) base.windowStartTs
            trivial).post uc (.refl uc)) |>.imp
          (fun _ _ hpost hquiet => And.intro (hpost.1 hquiet) hpost.2)
          fun _ _ hpost => hpost.1) ?_
      rintro roll uc₁ hquiet₁ ⟨⟨htook, htracked₁, hstates⟩, hcontinues⟩
      have htail : ∀ tf' ∈ tfs, tf' ≠ tf := by
        rintro tf' htf' rfl
        exact hnotin htf'
      have hkey : ∀ tf' ∈ tfs, childKey base tf' ≠ childKey base tf := fun tf' htf' heq =>
        htail tf' htf' (congrArg CandleKey.timeframe heq)
      have hn₁ := hn.trans hcontinues.forceClosed.length_le
      refine Post.bind (ih hnodup' (fun tf' h' => hallowed tf' (hmem tf' h')) hn₁ ?_ ?_
        htracked₁) ?_
      · intro tf' htf' hne
        rw [hcontinues.windowMs, htook.onlyAt.savedOf _ (hkey tf' htf'),
          htook.onlyAt.lookup _ (hkey tf' htf')]
        exact hfold tf' (hmem tf' htf') hne
      · intro tf' htf' hne
        exact (hreceives tf' (hmem tf' htf') hne).mono hcontinues.windowMs
          (htook.onlyAt.lookup _ (hkey tf' htf'))
          (hstates _ fun heq => htail tf' htf' (by
            have htimeframe := congrArg CandleKey.timeframe heq
            rwa [timeframe_normalizedKey (hallowed tf' (hmem tf' htf')),
              timeframe_normalizedKey hhead] at htimeframe))
      · intro closed uc₂ hinto
        refine .ok fun hquiet => ⟨?_, ?_, (hinto hquiet).tracked⟩
        · intro tf' htf' hne
          rcases List.mem_cons.mp htf' with rfl | htf'
          · obtain ⟨hlookup, hsaved⟩ :=
              (hinto hquiet).others _ fun tf'' htf'' _ => (hkey tf'' htf'').symm
            rw [hlookup, hsaved]
            exact htook.folded
          · rw [← hcontinues.windowMs]
            exact (hinto hquiet).folded tf' htf' hne
        · intro k hk
          have hktf := hk tf List.mem_cons_self htf
          obtain ⟨hlookup, hsaved⟩ :=
            (hinto hquiet).others k fun tf' htf' => hk tf' (hmem tf' htf')
          exact ⟨hlookup.trans (htook.onlyAt.lookup k hktf),
            hsaved.trans (htook.onlyAt.savedOf k hktf)⟩

end BuildCandleFromEvents

end Aggregation
end StreamAnalytics
