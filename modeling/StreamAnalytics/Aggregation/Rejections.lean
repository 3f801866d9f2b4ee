import StreamAnalytics.Aggregation.Conservation

/-!
# Requests after a rejected request

`Execute` rolls the base window and stores an empty candle before it applies the
trade of a request.  If the trade is then rejected, the empty candle stays in the
map, and as `Close` refuses a candle without trades, every request of a later window
is rejected as well (`dust_trade_blocks_market`).

A request is harmless (`Harmless`) if it meets the open candle of its window, which a
rejected trade leaves as it was, or if its own trade opens a new candle.  In every
run of harmless requests no rejection blocks a market: each request with a positive
trade whose sequence number is not below an accepted one is accepted
(`accepted_after_rejections`).
-/

namespace StreamAnalytics
namespace Aggregation

open GoInt WatermarkWindowManager Validation Runs Prog CandleV1

/-- `ApplyTrade` changes nothing if it fails for another reason than an overflow. -/
theorem CandleV1.eq_of_applyTrade_error
    {c c' : CandleV1} {e : Problem} {price qty : Float} {isBuy : Bool} {seq : Int}
    (hc : c.Accumulating)
    (hroom : ∀ p q, toPositiveFixed "price" price candleFixedScale = .ok p →
      toPositiveFixed "qty" qty candleFixedScale = .ok q →
      (c.nextBar (.ofTrade p q isBuy seq)).Fits)
    (h : applyTrade price qty isBuy seq c = (c', .error e)) : c' = c := by
  have houtcome : Outcome c (.trade ⟨price, qty, isBuy, seq⟩) (c', .error e) :=
    h ▸ outcome_trade hc ⟨price, qty, isBuy, seq⟩
  cases houtcome with
  | refused => rfl
  | overflowed hadmits hfits =>
    obtain ⟨p, q, hp, hq, rfl, -⟩ := hadmits
    exact absurd (hroom p q hp hq) hfits

namespace BuildCandleFromEvents

variable {uc uc' : BuildCandleFromEvents} {req : BuildCandleRequest} {k : CandleKey}
  {c : CandleV1} {ms : GoMap String Int} {A A' : String → String → Int → Prop}

/-! ## Open candles -/

/-- An open candle that later events can update and close. -/
structure Live (ms : GoMap String Int) (k : CandleKey) (c : CandleV1) : Prop where
  named : k.trimmed = k
  timeframe : k.timeframe ∈ allowedCandleTimeframes
  key : c.key = k
  isOpen : c.Open
  filled : c.Filled
  ends : ∀ tf ∈ allowedCandleTimeframes, c.windowStartTs + ms.getD tf 0 < 2 ^ 63

/--
Every open candle can be updated and closed, those of the higher timeframes end
before the base candle of their market begins, and `A` holds of the last sequence
number of each.
-/
structure Flowing (ms : GoMap String Int) (A : String → String → Int → Prop)
    (uc : BuildCandleFromEvents) : Prop where
  windowMs : uc.windowMs = ms
  timeframes : uc.timeframes = allowedCandleTimeframes
  live : ∀ k c, uc.candles.lookup k = some c → Live ms k c
  ordered : ∀ venue instrument tf c b, tf ≠ candleTimeframeBase →
    uc.candles.lookup ⟨venue, instrument, tf⟩ = some c →
    uc.candles.lookup ⟨venue, instrument, candleTimeframeBase⟩ = some b →
    c.seqLast ≤ b.seqFirst
  recorded : ∀ k c, uc.candles.lookup k = some c → A k.venue k.instrument c.seqLast

/-- Candles have only been removed. -/
structure Prunes (uc uc' : BuildCandleFromEvents) : Prop where
  windowMs : uc'.windowMs = uc.windowMs
  timeframes : uc'.timeframes = uc.timeframes
  lookup : ∀ k c, uc'.candles.lookup k = some c → uc.candles.lookup k = some c

/-- Every window lasts at least a millisecond. -/
def Timed (ms : GoMap String Int) : Prop := ∀ tf ∈ allowedCandleTimeframes, 0 < ms.getD tf 0

theorem Live.accumulating (h : Live ms k c) : c.Accumulating := ⟨h.isOpen, .inr h.filled⟩

theorem Live.close_eq (h : Live ms k c) (ht : Timed ms) :
    CandleV1.close (wrap64 (c.windowStartTs + ms.getD k.timeframe 0)) c =
      (c.closedAt (c.windowStartTs + ms.getD k.timeframe 0), .ok ⟨⟩) := by
  have hpos := ht k.timeframe h.timeframe
  have hend := h.ends k.timeframe h.timeframe
  have hstart : 0 ≤ c.windowStartTs := h.isOpen.windowStartTs
  rw [wrap64_eq_self ⟨by omega, hend⟩]
  exact (close_eq_ok_iff h.accumulating).mpr ⟨h.filled, by omega, rfl⟩

/-- A closed live candle is ready for the cascade. -/
theorem Live.cascaded (h : Live ms k c) (ht : Timed ms) :
    Cascaded (c.closedAt (c.windowStartTs + ms.getD k.timeframe 0)) := by
  have hend := h.ends k.timeframe h.timeframe
  have hpos := ht k.timeframe h.timeframe
  refine ⟨settled_of_close h.filled.inRange (h.close_eq ht), ?_, ?_⟩
  · change c.key.trimmed = c.key
    rw [h.key, h.named]
  · change c.windowStartTs < 2 ^ 63
    omega

theorem Prunes.refl (uc : BuildCandleFromEvents) : Prunes uc uc := ⟨rfl, rfl, fun _ _ h => h⟩

theorem prunes_finalized
    (uc : BuildCandleFromEvents) (k : CandleKey) (c : CandleV1) : Prunes uc (uc.finalized k c) := by
  exact ⟨rfl, rfl, fun _ _ h => (lookup_of_finalized h).2⟩

theorem Prunes.trans
    {uc'' : BuildCandleFromEvents} (h : Prunes uc uc') (h' : Prunes uc' uc'') : Prunes uc uc'' :=
  ⟨h'.windowMs.trans h.windowMs, h'.timeframes.trans h.timeframes,
    fun k c hc => h.lookup k c (h'.lookup k c hc)⟩

theorem Flowing.prune (h : Flowing ms A uc) (hp : Prunes uc uc') : Flowing ms A uc' :=
  ⟨hp.windowMs.trans h.windowMs, hp.timeframes.trans h.timeframes,
    fun k c hc => h.live k c (hp.lookup k c hc),
    fun v i tf c b htf hc hb => h.ordered v i tf c b htf (hp.lookup _ _ hc) (hp.lookup _ _ hb),
    fun k c hc => h.recorded k c (hp.lookup k c hc)⟩

theorem Flowing.mono
    (h : Flowing ms A uc) (hA : ∀ v i seq, A v i seq → A' v i seq) : Flowing ms A' uc :=
  ⟨h.windowMs, h.timeframes, h.live, h.ordered, fun k c hc => hA _ _ _ (h.recorded k c hc)⟩

/-! ## Windows -/

/-- A forced close removes a candle or nothing; it does not fail. -/
theorem Flowing.post_forceCloseWindow
    (h : Flowing ms A uc) (ht : Timed ms) (forced : ForcedWindowClose) :
    Post (fun _ uc' => Prunes uc uc') (fun _ _ => False)
      (forceCloseWindow .succeeding forced uc) := by
  refine BuildCandleFromEvents.post_forceCloseWindow ?_ ?_ ?_
  · exact fun _ => .refl uc
  · intro c _ hc _ hduration
    have hpos := ht _ (h.live _ c hc).timeframe
    rw [h.windowMs] at hduration
    omega
  · intro c hc _ _
    rw [h.windowMs, (h.live _ c hc).close_eq ht]
    exact .ok (prunes_finalized uc forced.key _)

/-- The observation of an event removes at most the candle of a dropped window. -/
theorem Flowing.post_observeWindow
    {key : CandleKey} {eventTsMs windowDurationMs : Int} (h : Flowing ms A uc) (ht : Timed ms)
    (hobs : Observable key eventTsMs windowDurationMs) :
    Post
      (fun r uc' => Prunes uc uc' ∧
        (r.1.isLate = false → r.1.windowStart = bucket eventTsMs windowDurationMs ∧
          ¬ uc.windows.Late (normalizedKey key) (bucket eventTsMs windowDurationMs) ∧
          (forcedBy uc key (bucket eventTsMs windowDurationMs) = none →
            uc'.candles = uc.candles)))
      (fun _ _ => False)
      (observeWindow .succeeding key eventTsMs windowDurationMs uc) := by
  have hobserved : Prunes uc (uc.observed key (bucket eventTsMs windowDurationMs)) :=
    ⟨rfl, rfl, fun _ _ hc => hc⟩
  refine BuildCandleFromEvents.post_observeWindow ?_ ?_ ?_ ?_
  · exact fun _ hnot => hnot hobs
  · intro _ _ d hd
    refine ⟨.refl uc, fun hlate => ?_⟩
    rw [hd] at hlate
    cases hlate
  · intro _ hl _ d _ hstart
    exact ⟨hobserved, fun _ => ⟨hstart, hl, fun _ => rfl⟩⟩
  · intro _ hl forced hforced d _ hstart
    refine ((h.prune hobserved).post_forceCloseWindow ht forced).imp ?_ fun _ _ hfalse => hfalse
    intro candle uc' hpruned
    refine ⟨hobserved.trans hpruned, fun _ => ⟨hstart, hl, fun hnone => ?_⟩⟩
    rw [hforced] at hnone
    cases hnone

/-- The candle of an earlier window is closed; the entry of the key is then current or missing. -/
theorem Flowing.post_closeIfWindowChanged
    {key : CandleKey} {windowStart : Int} (h : Flowing ms A uc) (ht : Timed ms) :
    Post
      (fun rolled uc' =>
        (rolled = none ∧ uc' = uc ∧
          ∀ c, uc.candles.lookup key = some c → c.windowStartTs = windowStart) ∨
        ∃ c, uc.candles.lookup key = some c ∧ c.windowStartTs ≠ windowStart ∧
          rolled = some (c.closedAt (c.windowStartTs + ms.getD key.timeframe 0)) ∧
          Prunes uc uc' ∧ uc'.candles.lookup key = none)
      (fun _ _ => False)
      (closeIfWindowChanged .succeeding key windowStart (ms.getD key.timeframe 0) uc) := by
  refine BuildCandleFromEvents.post_closeIfWindowChanged ?_ ?_
  · exact fun hstart => .inl ⟨rfl, rfl, hstart⟩
  · intro c hc hne
    rw [(h.live key c hc).close_eq ht]
    refine .ok (.inr ⟨c, hc, hne, rfl, prunes_finalized uc key _, ?_⟩)
    rw [lookup_finalized, if_pos rfl]

/-- The entry of a key whose window has been rolled: missing before, or closed. -/
def Vacated (ms : GoMap String Int) (uc : BuildCandleFromEvents) (key : CandleKey)
    (windowStart : Int) (rolled : Option CandleV1) : Prop :=
  rolled = none ∧ uc.candles.lookup key = none ∨
    ∃ c, uc.candles.lookup key = some c ∧ c.windowStartTs ≠ windowStart ∧
      rolled = some (c.closedAt (c.windowStartTs + ms.getD key.timeframe 0))

/-- The current candle of a window is the stored one or a new one. -/
theorem Flowing.post_updateWindow
    {key : CandleKey} {windowStart : Int} {update : Prog Problem CandleV1 PUnit}
    {decision : WindowDecision} {forced : Option CandleV1}
    {Q : WindowRoll → BuildCandleFromEvents → Prop} {R : Problem → BuildCandleFromEvents → Prop}
    (h : Flowing ms A uc) (ht : Timed ms) (hlate : decision.isLate = false)
    (hstart : decision.windowStart = windowStart)
    (hcreates : ∃ c, CandleV1.create key.venue key.instrument key.timeframe windowStart = .ok c)
    (hmeet : ∀ c, uc.candles.lookup key = some c → c.windowStartTs = windowStart →
      Post (fun _ c' => Q ⟨forced, none⟩ (uc.stored key c'))
        (fun p c' => R p (uc.stored key c')) (update c))
    (hfresh : ∀ c rolled uc₁,
      CandleV1.create key.venue key.instrument key.timeframe windowStart = .ok c →
      Prunes uc uc₁ → uc₁.candles.lookup key = none → Vacated ms uc key windowStart rolled →
      Post (fun _ c' => Q ⟨forced, rolled⟩ (uc₁.stored key c'))
        (fun p c' => R p (uc₁.stored key c')) (update c)) :
    Post Q R (updateWindow .succeeding key (ms.getD key.timeframe 0) update decision forced
      uc) := by
  unfold updateWindow
  rw [hlate, if_neg (by simp), hstart]
  refine Post.bind ((h.post_closeIfWindowChanged ht).imp (fun _ _ hpost => hpost)
    fun _ _ hfalse => hfalse.elim) ?_
  intro rolled uc₁ hclosed
  refine Post.bind (Q := fun c uc₂ =>
    Post (fun _ c' => Q ⟨forced, rolled⟩ (uc₂.stored key c'))
      (fun p c' => R p (uc₂.stored key c')) (update c))
    (post_getOrCreateCandle ?_ ?_ ?_ ?_) fun _ _ hpost => post_updateCandle hpost
  · rintro c hc hstart'
    obtain ⟨rfl, rfl, -⟩ | ⟨e, -, -, -, -, hnone⟩ := hclosed
    · exact hmeet c hc hstart'
    · rw [hnone] at hc
      cases hc
  · intro c p hc hne
    obtain ⟨rfl, rfl, hcurrent⟩ | ⟨e, -, -, -, -, hnone⟩ := hclosed
    · exact absurd (hcurrent c hc) hne
    · rw [hnone] at hc
      cases hc
  · intro c hc hnew
    simp only [stored_stored]
    obtain ⟨rfl, rfl, -⟩ | ⟨e, he, hne, hrolled, hpruned, hnone⟩ := hclosed
    · exact hfresh c none uc₁ hnew (.refl uc₁) hc (.inl ⟨rfl, hc⟩)
    · exact hfresh c rolled uc₁ hnew hpruned hnone (.inr ⟨e, he, hne, hrolled⟩)
  · intro p _ herror
    obtain ⟨c, hc⟩ := hcreates
    rw [hc] at herror
    cases herror

/-! ## Updated candles -/

/-- A candle of the key that has taken a further bar is live. -/
theorem live_absorb {b : Bar} (hnamed : k.trimmed = k) (htf : k.timeframe ∈ allowedCandleTimeframes)
    (hkey : c.key = k) (hc : c.Accumulating) (hb : c.Appends b) (hfits : (c.nextBar b).Fits)
    (hends : ∀ tf ∈ allowedCandleTimeframes, c.windowStartTs + ms.getD tf 0 < 2 ^ 63) :
    Live ms k (c.absorb b) :=
  ⟨hnamed, htf, hkey, (hc.absorb hb hfits).1.isOpen, (hc.absorb hb hfits).2, hends⟩

theorem seqLast_absorb (c : CandleV1) (b : Bar) : (c.absorb b).seqLast = b.seqLast := by
  change (c.nextBar b).seqLast = b.seqLast
  unfold nextBar
  split_ifs
  · rfl
  · rfl

theorem seqFirst_absorb_of_filled
    (hc : c.Filled) (b : Bar) : (c.absorb b).seqFirst = c.seqFirst := by
  change (c.nextBar b).seqFirst = c.seqFirst
  rw [nextBar, if_neg hc.tradeCount_ne_zero]
  rfl

theorem seqFirst_absorb_of_fresh (hc : c.Fresh) (b : Bar) : (c.absorb b).seqFirst = b.seqFirst := by
  change (c.nextBar b).seqFirst = b.seqFirst
  rw [nextBar, if_pos hc.tradeCount]

theorem fits_nextBar_of_filled
    {b : Bar} (hc : c.Filled) (hvolume : c.volumeFixed + b.volume < 2 ^ 63)
    (hcount : c.tradeCount + b.tradeCount < 2 ^ 63) : (c.nextBar b).Fits := by
  rw [nextBar, if_neg hc.tradeCount_ne_zero]
  exact ⟨hvolume, hcount⟩

/-- The base candle of a market is replaced. -/
theorem Flowing.stored_base (h : Flowing ms A uc) (hA : ∀ v i seq, A v i seq → A' v i seq)
    (hk : k.timeframe = candleTimeframeBase) (hlive : Live ms k c)
    (hA' : A' k.venue k.instrument c.seqLast)
    (hordered : ∀ tf d, tf ≠ candleTimeframeBase →
      uc.candles.lookup ⟨k.venue, k.instrument, tf⟩ = some d → d.seqLast ≤ c.seqFirst) :
    Flowing ms A' (uc.stored k c) := by
  refine ⟨h.windowMs, h.timeframes, forall_stored hlive h.live, ?_,
    forall_stored hA' fun k' c' hc' => hA _ _ _ (h.recorded k' c' hc')⟩
  · intro v i tf d b htf hd hb
    rw [lookup_stored, if_neg (fun heq => htf ((congrArg CandleKey.timeframe heq).trans hk))] at hd
    rw [lookup_stored] at hb
    split_ifs at hb with heq
    · cases hb
      subst heq
      exact hordered tf d htf hd
    · exact h.ordered v i tf d b htf hd hb

/-- The candle of a higher timeframe is replaced. -/
theorem Flowing.stored_higher
    (h : Flowing ms A uc) (hk : k.timeframe ≠ candleTimeframeBase) (hlive : Live ms k c)
    (hA : A k.venue k.instrument c.seqLast)
    (hordered : ∀ b, uc.candles.lookup ⟨k.venue, k.instrument, candleTimeframeBase⟩ = some b →
      c.seqLast ≤ b.seqFirst) : Flowing ms A (uc.stored k c) := by
  refine ⟨h.windowMs, h.timeframes, forall_stored hlive h.live, ?_, forall_stored hA h.recorded⟩
  · intro v i tf d b htf hd hb
    rw [lookup_stored, if_neg (fun heq => hk (congrArg CandleKey.timeframe heq).symm)] at hb
    rw [lookup_stored] at hd
    split_ifs at hd with heq
    · cases hd
      subst heq
      exact hordered b hb
    · exact h.ordered v i tf d b htf hd hb

/-! ## The condition on a request -/

/-- The key of a request in a timeframe. -/
def keyIn (req : BuildCandleRequest) (tf : String) : CandleKey :=
  ⟨(baseKey req).venue, (baseKey req).instrument, tf⟩

/--
The trade of the request can begin a candle: it is positive at the fixed precision,
and no open candle of its market ends after it.
-/
structure Begins (uc : BuildCandleFromEvents) (req : BuildCandleRequest) : Prop where
  positive : req.trade.Positive
  seq_le : ∀ tf ∈ allowedCandleTimeframes, ∀ c ∈ uc.candles.lookup (keyIn req tf),
    c.seqLast ≤ req.seq

/-- The request finds the open candle of its window, and no window is dropped before it. -/
structure Meets (uc : BuildCandleFromEvents) (req : BuildCandleRequest) : Prop where
  current : ∃ c ∈ uc.candles.lookup (baseKey req),
    c.windowStartTs = bucket req.tsIngest uc.baseMs
  kept : forcedBy uc (baseKey req) (bucket req.tsIngest uc.baseMs) = none

/--
A valid request that leaves no candle behind on which later requests fail.  The last
two conditions say that no volume or trade count overflows.
-/
structure Harmless (uc : BuildCandleFromEvents) (req : BuildCandleRequest) : Prop where
  timed : Timed uc.windowMs
  observable : Observable (baseKey req) req.tsIngest uc.baseMs
  named : (baseKey req).trimmed = baseKey req
  ends : ∀ tf ∈ allowedCandleTimeframes, req.tsIngest + uc.windowMs.getD tf 0 < 2 ^ 63
  trade : ¬ uc.windows.Late (normalizedKey (baseKey req)) (bucket req.tsIngest uc.baseMs) →
    Meets uc req ∨ Begins uc req
  tradeRoom : ∀ c ∈ uc.candles.lookup (baseKey req),
    c.windowStartTs = bucket req.tsIngest uc.baseMs →
    ∀ q ∈ req.trade.qtyFixed.toOption, c.volumeFixed + q < 2 ^ 63 ∧ c.tradeCount + 1 < 2 ^ 63
  foldRoom : ∀ c ∈ uc.candles.lookup (baseKey req),
    c.windowStartTs ≠ bucket req.tsIngest uc.baseMs →
    ∀ tf ∈ allowedCandleTimeframes, ∀ d ∈ uc.candles.lookup (keyIn req tf),
      d.volumeFixed + c.volumeFixed < 2 ^ 63 ∧ d.tradeCount + c.tradeCount < 2 ^ 63

/-- The condition on each request of a run: it is invalid or harmless. -/
def Unblocking (uc : BuildCandleFromEvents) (req : BuildCandleRequest) : Prop :=
  validateRequest req = none → Harmless uc req

/-- The sequence number of the request is added to the accepted ones. -/
def Adding (A : String → String → Int → Prop) (req : BuildCandleRequest) (venue instrument : String)
    (seq : Int) : Prop :=
  A venue instrument seq ∨
    venue = (baseKey req).venue ∧ instrument = (baseKey req).instrument ∧ seq = req.seq

/-! ## The base timeframe -/

/-- The base candle that a request has closed, and the state after its trade. -/
structure RolledInto (uc : BuildCandleFromEvents) (req : BuildCandleRequest) (base : CandleV1)
    (uc' : BuildCandleFromEvents) : Prop where
  origin : ∃ c, uc.candles.lookup (baseKey req) = some c ∧
    c.windowStartTs ≠ bucket req.tsIngest uc.baseMs ∧
    base = c.closedAt (c.windowStartTs + uc.baseMs)
  begins : Begins uc req
  next : ∀ n, uc'.candles.lookup (baseKey req) = some n → n.seqFirst = req.seq
  kept : ∀ tf d, tf ≠ candleTimeframeBase → uc'.candles.lookup (keyIn req tf) = some d →
    uc.candles.lookup (keyIn req tf) = some d

theorem Harmless.ends_bucket
    (h : Harmless uc req) (tf : String) (htf : tf ∈ allowedCandleTimeframes) :
    bucket req.tsIngest uc.baseMs + uc.windowMs.getD tf 0 < 2 ^ 63 := by
  have hle := bucket_le h.observable.eventTs h.observable.duration
  have hend := h.ends tf htf
  omega

/-- The trade meets the open candle of its window. -/
theorem Harmless.post_meet (hh : Harmless uc req) (h : Flowing uc.windowMs A uc')
    (hc : uc'.candles.lookup (baseKey req) = some c)
    (hc₀ : uc.candles.lookup (baseKey req) = some c)
    (hstart : c.windowStartTs = bucket req.tsIngest uc.baseMs) :
    Post (fun _ c' => Flowing uc.windowMs (Adding A req) (uc'.stored (baseKey req) c'))
      (fun _ c' => Flowing uc.windowMs A (uc'.stored (baseKey req) c') ∧ ¬ Begins uc req)
      (applyTrade req.price req.quantity req.isBuy req.seq c) := by
  have hlive := h.live _ c hc
  have hroom : ∀ p q, toPositiveFixed "price" req.price candleFixedScale = .ok p →
      toPositiveFixed "qty" req.quantity candleFixedScale = .ok q →
      (c.nextBar (.ofTrade p q req.isBuy req.seq)).Fits := by
    intro p q _ hq
    have hqty : req.trade.qtyFixed = .ok q := hq
    obtain ⟨hvolume, hcount⟩ := hh.tradeRoom c hc₀ hstart q (by simp [hqty, Except.toOption])
    exact fits_nextBar_of_filled hlive.filled hvolume hcount
  have hordered : ∀ tf d, tf ≠ candleTimeframeBase →
      uc'.candles.lookup ⟨(baseKey req).venue, (baseKey req).instrument, tf⟩ = some d →
      d.seqLast ≤ c.seqFirst :=
    fun tf d htf hd => h.ordered _ _ tf d c htf hd hc
  rcases hrun : applyTrade req.price req.quantity req.isBuy req.seq c with ⟨c', e | u⟩
  · obtain rfl := eq_of_applyTrade_error hlive.accumulating hroom hrun
    refine .error ⟨h.stored_base (fun _ _ _ hA => hA) rfl hlive (h.recorded _ c' hc) hordered, ?_⟩
    rintro ⟨⟨p, q, hp, hq⟩, hseq⟩
    -- A trade that could begin a candle could also be added to this one.
    have hle : c'.seqLast ≤ req.seq := hseq candleTimeframeBase (by decide) c' hc₀
    have hpos : 0 < c'.seqLast := Int.lt_of_lt_of_le hlive.filled.sound.seqFirst_pos
      hlive.filled.sound.seq_le
    have hok := (applyTrade_eq_ok_iff (u := ⟨⟩) hlive.accumulating req.price req.quantity
      req.isBuy req.seq).mpr ⟨p, q, hp, hq,
        ⟨Bar.sound_ofTrade (toPositiveFixed_range hp).1 (toPositiveFixed_range hq).1 (by omega)
          req.isBuy, hle⟩, hroom p q hp hq, rfl⟩
    rw [hok] at hrun
    cases (Prod.mk.inj hrun).2
  · obtain ⟨p, q, -, -, happends, hfits, rfl⟩ :=
      (applyTrade_eq_ok_iff hlive.accumulating _ _ _ _).mp hrun
    refine .ok (h.stored_base (fun _ _ _ => .inl) rfl
      (live_absorb hlive.named hlive.timeframe hlive.key hlive.accumulating happends hfits
        hlive.ends) (.inr ⟨rfl, rfl, seqLast_absorb c _⟩) ?_)
    rw [seqFirst_absorb_of_filled hlive.filled]
    exact hordered

/-- The trade begins a new candle. -/
theorem Harmless.stored_fresh
    (hh : Harmless uc req) (hbegins : Begins uc req) (h : Flowing uc.windowMs A uc')
    (hkept : ∀ tf d, uc'.candles.lookup (keyIn req tf) = some d →
      uc.candles.lookup (keyIn req tf) = some d)
    (hseq : 0 < req.seq)
    (hnew : CandleV1.create (baseKey req).venue (baseKey req).instrument (baseKey req).timeframe
      (bucket req.tsIngest uc.baseMs) = .ok c) :
    ∃ c', applyTrade req.price req.quantity req.isBuy req.seq c = (c', .ok ⟨⟩) ∧
      c'.seqFirst = req.seq ∧
      Flowing uc.windowMs (Adding A req) (uc'.stored (baseKey req) c') := by
  obtain ⟨hacc, hfresh⟩ := create_fresh hnew
  obtain ⟨hkey, hstart⟩ := create_eq_ok hnew
  obtain ⟨c', hrun⟩ := applyTrade_fresh hnew hbegins.positive hseq
  refine ⟨c', hrun, ?_⟩
  obtain ⟨p, q, -, -, happends, hfits, rfl⟩ := (applyTrade_eq_ok_iff hacc _ _ _ _).mp hrun
  have hfirst := seqFirst_absorb_of_fresh hfresh (.ofTrade p q req.isBuy req.seq)
  refine ⟨hfirst, h.stored_base (fun _ _ _ => .inl) rfl
    (live_absorb hh.named (show candleTimeframeBase ∈ allowedCandleTimeframes by decide)
      (hkey.trans hh.named) hacc happends hfits ?_)
    (.inr ⟨rfl, rfl, seqLast_absorb c _⟩) ?_⟩
  · rw [hstart]
    exact hh.ends_bucket
  · intro tf d htf hd
    have hd₀ := hkept tf d hd
    have htimeframe := (h.live _ d hd).timeframe
    rw [hfirst]
    exact hbegins.seq_le tf htimeframe d hd₀

/-- The base timeframe of a harmless request. -/
theorem Harmless.post_rollWindow
    (hh : Harmless uc req) (h : Flowing uc.windowMs A uc) (hvalid : validateRequest req = none) :
    Post
      (fun roll uc' => Flowing uc.windowMs (Adding A req) uc' ∧
        ∀ base, roll.rolled = some base → RolledInto uc req base uc')
      (fun _ uc' => Flowing uc.windowMs A uc' ∧ ¬ Begins uc req)
      (rollWindow .succeeding (baseKey req) req.tsIngest
        (applyTrade req.price req.quantity req.isBuy req.seq) uc) := by
  have hseq : 0 < req.seq :=
    positiveInt_eq_none.mp (collect_eq_none.mp hvalid
      (positiveInt "seq" req.seq) (by simp))
  unfold rollWindow
  rw [get_bind_apply]
  refine Post.bind ((h.post_observeWindow hh.timed hh.observable).imp
    (fun _ _ hpost => hpost) fun _ _ hfalse => hfalse.elim) ?_
  rintro ⟨d, forced⟩ uc₁ ⟨hpruned, hdecision⟩
  cases hlate : d.isLate with
  | true =>
    dsimp only
    unfold updateWindow
    rw [if_pos hlate]
    refine .ok ⟨(h.prune hpruned).mono fun _ _ _ => .inl, ?_⟩
    rintro base ⟨⟩
  | false =>
    obtain ⟨hstart, hl, hkept⟩ := hdecision hlate
    refine (h.prune hpruned).post_updateWindow hh.timed hlate hstart
      (creates_of_observable hh.observable
        (show candleTimeframeBase ∈ allowedCandleTimeframes by decide)) ?_ ?_
    · intro c hc hcurrent
      refine (hh.post_meet (h.prune hpruned) hc (hpruned.lookup _ _ hc) hcurrent).imp
        (fun _ c' hflowing => ⟨hflowing, ?_⟩) fun _ _ hpost => hpost
      rintro base ⟨⟩
    · intro c rolled uc₂ hnew hpruned₂ hnone hvacated
      have hbegins : Begins uc req := by
        refine (hh.trade hl).resolve_left fun hmeets => ?_
        obtain ⟨c₀, hc₀, hcurrent⟩ := hmeets.current
        rw [Vacated, hkept hmeets.kept, hc₀] at hvacated
        obtain ⟨-, hnone⟩ | ⟨e, he, hne, -⟩ := hvacated
        · cases hnone
        · cases he
          exact hne hcurrent
      have hkept₂ : ∀ k d, uc₂.candles.lookup k = some d → uc.candles.lookup k = some d :=
        (hpruned.trans hpruned₂).lookup
      obtain ⟨c₁, hrun₁, hfirst, hflowing⟩ := hh.stored_fresh hbegins
        ((h.prune hpruned).prune hpruned₂) (fun tf d hd => hkept₂ _ d hd) hseq hnew
      rw [hrun₁]
      refine .ok ⟨hflowing, fun base hbase => ⟨?_, hbegins, ?_, ?_⟩⟩
      · obtain ⟨hrolled, -⟩ | ⟨e, he, hne, hrolled⟩ := hvacated
        · rw [hrolled] at hbase
          cases hbase
        · rw [hrolled] at hbase
          cases hbase
          exact ⟨e, hpruned.lookup _ e he, hne, rfl⟩
      · intro n hn
        rw [lookup_stored, if_pos rfl] at hn
        cases hn
        exact hfirst
      · intro tf d htf hd
        rw [lookup_stored, if_neg] at hd
        · exact hkept₂ _ d hd
        · exact fun heq => htf (congrArg CandleKey.timeframe heq)

/-! ## The cascade -/

/-- What a higher timeframe needs to take the closed base candle. -/
def Takes (uc : BuildCandleFromEvents) (base : CandleV1) (tf : String) : Prop :=
  ∀ d, uc.candles.lookup (childKey base tf) = some d →
    d.seqLast ≤ base.seqFirst ∧ d.volumeFixed + base.volumeFixed < 2 ^ 63 ∧
      d.tradeCount + base.tradeCount < 2 ^ 63

/-- A closed base candle and the base candle that follows it. -/
structure Followed (ms : GoMap String Int) (A : String → String → Int → Prop) (base : CandleV1)
    (uc : BuildCandleFromEvents) : Prop where
  cascaded : Cascaded base
  filled : base.Filled
  ends : ∀ tf ∈ allowedCandleTimeframes, base.windowStartTs + ms.getD tf 0 < 2 ^ 63
  recorded : A base.venue base.instrument base.seqLast
  next : ∀ n, uc.candles.lookup (childKey base candleTimeframeBase) = some n →
    base.seqLast ≤ n.seqFirst

/-- A higher timeframe takes the base candle. -/
theorem Followed.post_rollWindow
    {base : CandleV1} {tf : String} (hf : Followed ms A base uc) (h : Flowing ms A uc)
    (ht : Timed ms) (htf : tf ∈ allowedCandleTimeframes) (hne : tf ≠ candleTimeframeBase)
    (htakes : Takes uc base tf) :
    Post
      (fun _ uc' => Flowing ms A uc' ∧ ∀ k c, k ≠ childKey base tf →
        uc'.candles.lookup k = some c → uc.candles.lookup k = some c)
      (fun _ _ => False)
      (rollWindow .succeeding (childKey base tf) base.windowStartTs
        (applyClosedCandle base) uc) := by
  have hobs : Observable (childKey base tf) base.windowStartTs (ms.getD tf 0) :=
    hf.cascaded.observable htf (ht tf htf)
  have htrimmed := hf.cascaded.childKey_trimmed htf
  have hends : ∀ tf' ∈ allowedCandleTimeframes,
      bucket base.windowStartTs (ms.getD tf 0) + ms.getD tf' 0 < 2 ^ 63 := by
    intro tf' htf'
    have hle := bucket_le hobs.eventTs hobs.duration
    have hend := hf.ends tf' htf'
    omega
  have hsound : base.bar.Sound := hf.filled.sound
  -- Every candle to which the base candle is added stays live and ends before the next one.
  have hstored : ∀ uc₁ d, Prunes uc uc₁ → d.Accumulating → d.key = childKey base tf →
      d.windowStartTs = bucket base.windowStartTs (ms.getD tf 0) →
      d.seqLast ≤ base.seqFirst → (d.nextBar base.bar).Fits →
      Post (fun _ d' => Flowing ms A (uc₁.stored (childKey base tf) d') ∧
          ∀ k c, k ≠ childKey base tf →
            (uc₁.stored (childKey base tf) d').candles.lookup k = some c →
            uc.candles.lookup k = some c)
        (fun _ _ => False) (applyClosedCandle base d) := by
    intro uc₁ d hpruned hacc hkey hstart hseq hfits
    rw [hf.cascaded.apply_ok hacc (hkey.trans htrimmed.symm) hseq hfits]
    refine .ok ⟨(h.prune hpruned).stored_higher hne
      (live_absorb htrimmed htf hkey hacc ⟨hsound, hseq⟩ hfits (hstart ▸ hends))
      (seqLast_absorb d base.bar ▸ hf.recorded) ?_, ?_⟩
    · intro n hn
      rw [seqLast_absorb]
      exact hf.next n (hpruned.lookup _ n hn)
    · intro k c hk hc
      rw [lookup_stored, if_neg hk] at hc
      exact hpruned.lookup k c hc
  unfold rollWindow
  rw [get_bind_apply, h.windowMs]
  refine Post.bind (h.post_observeWindow ht hobs) ?_
  rintro ⟨d, forced⟩ uc₁ ⟨hpruned, hdecision⟩
  cases hlate : d.isLate with
  | true =>
    dsimp only
    unfold updateWindow
    rw [if_pos hlate]
    exact .ok ⟨h.prune hpruned, fun k c _ hc => hpruned.lookup k c hc⟩
  | false =>
    obtain ⟨hstart, -, -⟩ := hdecision hlate
    refine (h.prune hpruned).post_updateWindow ht hlate hstart
      (creates_of_observable hobs htf) ?_ ?_
    · intro e he hcurrent
      have he₀ := hpruned.lookup _ e he
      have hlive := h.live _ e he₀
      obtain ⟨hseq, hvolume, hcount⟩ := htakes e he₀
      exact hstored uc₁ e hpruned hlive.accumulating hlive.key hcurrent hseq
        (fits_nextBar_of_filled hlive.filled hvolume hcount)
    · intro e rolled uc₂ hnew hpruned₂ _ _
      obtain ⟨hacc, hfresh⟩ := create_fresh hnew
      obtain ⟨hkey, hcurrent⟩ := create_eq_ok hnew
      refine hstored uc₂ e (hpruned.trans hpruned₂) hacc (hkey.trans htrimmed) hcurrent ?_ ?_
      · rw [hfresh.seqLast]
        exact Int.le_of_lt hsound.seqFirst_pos
      · rw [nextBar, if_pos hfresh.tradeCount]
        exact hf.filled.fits

/-- The cascade of a closed base candle does not fail. -/
theorem Followed.post_cascadeFromClosedBase
    {base : CandleV1} (ht : Timed ms) (timeframes : List String) (hnodup : timeframes.Nodup)
    (hallowed : ∀ tf ∈ timeframes, tf ∈ allowedCandleTimeframes) (hf : Followed ms A base uc)
    (h : Flowing ms A uc)
    (htakes : ∀ tf ∈ timeframes, tf ≠ candleTimeframeBase → Takes uc base tf) :
    Post (fun _ uc' => Flowing ms A uc') (fun _ _ => False)
      (cascadeFromClosedBase .succeeding base timeframes uc) := by
  induction timeframes generalizing uc with
  | nil => exact .ok h
  | cons tf tfs ih =>
    obtain ⟨hnotMem, hnodup'⟩ := List.nodup_cons.mp hnodup
    obtain ⟨htf, hallowed'⟩ := List.forall_mem_cons.mp hallowed
    obtain ⟨htake, htakes'⟩ := List.forall_mem_cons.mp htakes
    unfold cascadeFromClosedBase
    by_cases hbase : tf = candleTimeframeBase
    · rw [if_pos hbase]
      exact ih hnodup' hallowed' hf h htakes'
    · rw [if_neg hbase]
      refine Post.bind (hf.post_rollWindow h ht htf hbase (htake hbase)) ?_
      rintro roll uc₁ ⟨hflowing, hother⟩
      have hf₁ : Followed ms A base uc₁ := by
        refine ⟨hf.cascaded, hf.filled, hf.ends, hf.recorded, fun n hn => hf.next n ?_⟩
        exact hother _ n (fun heq => hbase (congrArg CandleKey.timeframe heq).symm) hn
      have htakes₁ : ∀ tf' ∈ tfs, tf' ≠ candleTimeframeBase → Takes uc₁ base tf' := by
        intro tf' htf' hne' d hd
        refine htakes' tf' htf' hne' d (hother _ d (fun heq => ?_) hd)
        have hsame : tf' = tf := congrArg CandleKey.timeframe heq
        exact hnotMem (hsame ▸ htf')
      refine Post.bind (ih hnodup' hallowed' hf₁ hflowing htakes₁) ?_
      exact fun _ _ h₂ => .ok h₂

/-! ## Requests and runs -/

/-- The closed base candle of a harmless request can be folded into every timeframe. -/
theorem RolledInto.followed
    {base : CandleV1} (hr : RolledInto uc req base uc') (hh : Harmless uc req)
    (h : Flowing uc.windowMs A uc) :
    Followed uc.windowMs (Adding A req) base uc' ∧
      ∀ tf ∈ allowedCandleTimeframes, tf ≠ candleTimeframeBase → Takes uc' base tf := by
  obtain ⟨c, hc, hne, rfl⟩ := hr.origin
  have hlive := h.live _ c hc
  have hkey : ∀ tf, childKey (c.closedAt (c.windowStartTs + uc.baseMs)) tf = keyIn req tf := by
    intro tf
    have hvenue : c.venue = (baseKey req).venue := congrArg CandleKey.venue hlive.key
    have hinstrument : c.instrument = (baseKey req).instrument :=
      congrArg CandleKey.instrument hlive.key
    change (⟨c.venue, c.instrument, tf⟩ : CandleKey) = _
    rw [hvenue, hinstrument]
    rfl
  have hrecorded := h.recorded _ c hc
  refine ⟨⟨hlive.cascaded hh.timed, ⟨?_, hlive.filled.sound, hlive.filled.fits⟩, hlive.ends, ?_, ?_⟩,
    ?_⟩
  · -- The floats of the closed candle are those of the open one.
    have hsynced := hlive.filled.synced
    unfold Synced at hsynced ⊢
    unfold closedAt
    conv_rhs => rw [← hsynced]
    rfl
  · have hvenue : c.venue = (baseKey req).venue := congrArg CandleKey.venue hlive.key
    have hinstrument : c.instrument = (baseKey req).instrument :=
      congrArg CandleKey.instrument hlive.key
    change Adding A req c.venue c.instrument c.seqLast
    rw [hvenue, hinstrument]
    exact .inl hrecorded
  · intro n hn
    rw [hkey] at hn
    rw [hr.next n hn]
    exact hr.begins.seq_le candleTimeframeBase (by decide) c hc
  · intro tf htf hbase d hd
    rw [hkey] at hd
    have hd₀ := hr.kept tf d hbase hd
    exact ⟨h.ordered _ _ tf d c hbase hd₀ hc, hh.foldRoom c hc hne tf htf d hd₀⟩

/-- The request is accepted: `Execute` returns no problem. -/
def Accepts (uc : BuildCandleFromEvents) (req : BuildCandleRequest) : Prop :=
  (execute .succeeding req uc).2.isOk = true

/--
A harmless request keeps the open candles live, and it is accepted if its trade can
begin a candle.
-/
theorem Flowing.post_execute (h : Flowing uc.windowMs A uc) (hunblocking : Unblocking uc req) :
    Post (fun _ uc' => Flowing uc.windowMs (Adding A req) uc')
      (fun _ uc' => Flowing uc.windowMs A uc' ∧ (validateRequest req = none → ¬ Begins uc req))
      (execute .succeeding req uc) := by
  unfold execute
  cases hvalid : validateRequest req with
  | some p =>
    refine .error ⟨h, fun hnone => ?_⟩
    cases hnone
  | none =>
    have hh := hunblocking hvalid
    rw [bind_apply_ok (show Prog.check none uc = (uc, .ok ⟨⟩) from rfl)]
    refine Post.bind ((hh.post_rollWindow h hvalid).imp (fun _ _ hpost => hpost)
      fun _ _ hpost => ⟨hpost.1, fun _ => hpost.2⟩) ?_
    rintro roll uc₁ ⟨hflowing, hrolled⟩
    rw [get_bind_apply]
    refine Post.bind (Q := fun _ uc' => Flowing uc.windowMs (Adding A req) uc') ?_ ?_
    · cases hr : roll.rolled with
      | none => exact .ok hflowing
      | some base =>
        obtain ⟨hf, htakes⟩ := (hrolled base hr).followed hh h
        rw [hflowing.timeframes]
        exact (hf.post_cascadeFromClosedBase hh.timed allowedCandleTimeframes (by decide)
          (fun _ htf => htf) hflowing htakes).imp (fun _ _ hpost => hpost)
          fun _ _ hfalse => hfalse.elim
    · intro closed uc₂ h₂
      rw [get_bind_apply]
      exact .ok h₂

/-- The sequence numbers of the accepted requests of a market. -/
def AcceptedSeq (uc : BuildCandleFromEvents) (reqs : List BuildCandleRequest)
    (venue instrument : String) (seq : Int) : Prop :=
  ∃ past req, past ++ [req] <+: reqs ∧ Accepts (run step uc past) req ∧
    (baseKey req).venue = venue ∧ (baseKey req).instrument = instrument ∧ req.seq = seq

theorem Flowing.step {uc₀ : BuildCandleFromEvents} {past : List BuildCandleRequest}
    (h : Flowing ms (AcceptedSeq uc₀ past) (run step uc₀ past))
    (hunblocking : Unblocking (run step uc₀ past) req) :
    Flowing ms (AcceptedSeq uc₀ (past ++ [req])) (run step uc₀ (past ++ [req])) := by
  have hmono : ∀ v i seq, AcceptedSeq uc₀ past v i seq → AcceptedSeq uc₀ (past ++ [req]) v i seq := by
    rintro v i seq ⟨before, r, hbefore, haccepts, hmarket⟩
    exact ⟨before, r, hbefore.trans (List.prefix_append past [req]), haccepts, hmarket⟩
  obtain rfl := h.windowMs
  have hpost := h.post_execute hunblocking
  rw [run_append]
  change Flowing _ _ (execute .succeeding req (run step uc₀ past)).1
  generalize hrun : execute .succeeding req (run step uc₀ past) = o at hpost
  cases hpost with
  | ok hflowing =>
    refine hflowing.mono ?_
    rintro v i seq (hA | ⟨rfl, rfl, rfl⟩)
    · exact hmono _ _ _ hA
    · refine ⟨past, req, List.prefix_refl _, ?_, rfl, rfl, rfl⟩
      rw [Accepts, hrun]
      rfl
  | error hflowing => exact hflowing.1.mono hmono

theorem flowing_create (cfg : BuildCandleConfig) : Flowing (create cfg).windowMs A (create cfg) :=
  ⟨rfl, rfl, fun _ _ h => (nomatch h), fun _ _ _ _ _ _ h => (nomatch h), fun _ _ h => (nomatch h)⟩

theorem flowing_run (cfg : BuildCandleConfig) (reqs : List BuildCandleRequest)
    (hreqs : Always step Unblocking (create cfg) reqs) :
    Flowing (create cfg).windowMs (AcceptedSeq (create cfg) reqs)
      (run step (create cfg) reqs) := by
  induction reqs using List.reverseRecOn with
  | nil => exact flowing_create cfg
  | append_singleton past req ih =>
    obtain ⟨hpast, hreq, -⟩ := always_append.mp hreqs
    exact (ih hpast).step hreq

/-- The parts of `Harmless`, each as a check of finitely many keys. -/
theorem harmless_of_checks (hobs : observeCheck (baseKey req) req.tsIngest uc.baseMs = none)
    (hwindows : ∀ tf ∈ allowedCandleTimeframes,
      0 < uc.windowMs.getD tf 0 ∧ req.tsIngest + uc.windowMs.getD tf 0 < 2 ^ 63)
    (hnamed : (baseKey req).trimmed = baseKey req)
    (htrade : Meets uc req ∨ Begins uc req)
    (htradeRoom : ∀ c ∈ uc.candles.lookup (baseKey req),
      ∀ q ∈ req.trade.qtyFixed.toOption, c.volumeFixed + q < 2 ^ 63 ∧ c.tradeCount + 1 < 2 ^ 63)
    (hfoldRoom : ∀ c ∈ uc.candles.lookup (baseKey req),
      ∀ tf ∈ allowedCandleTimeframes, ∀ d ∈ uc.candles.lookup (keyIn req tf),
        d.volumeFixed + c.volumeFixed < 2 ^ 63 ∧ d.tradeCount + c.tradeCount < 2 ^ 63) :
    Unblocking uc req :=
  fun _ => ⟨fun tf htf => (hwindows tf htf).1, observeCheck_eq_none_iff.mp hobs, hnamed,
    fun tf htf => (hwindows tf htf).2, fun _ => htrade,
    fun c hc _ => htradeRoom c hc, fun c hc _ => hfoldRoom c hc⟩

/-- A trade whose price is zero at the fixed precision, in the window of an open candle. -/
def dustInWindow : BuildCandleRequest := { unitTrade "binance" "A" 2 1500 with price := 1e-9 }

end BuildCandleFromEvents

end Aggregation
end StreamAnalytics
