import StreamAnalytics.Aggregation.CandleOutcome

/-!
# Folding trades and candles

Folding a list of trades with `ApplyTrade`, or a list of closed candles with
`ApplyClosedCandle`, succeeds exactly when the bars are acceptable after the
content of the candle, and leaves the candle with the total of all bars.  Since
acceptability and totals can be computed group by group, folding groups of trades
into closed candles first and folding these candles afterwards is the same as
folding all trades.
-/

namespace StreamAnalytics
namespace Aggregation

open GoInt GoStrings Validation Prog

namespace CandleV1

/-! ## Acceptable continuations of a candle -/

variable {c : CandleV1}

theorem Fresh.bars_eq (h : c.Fresh) : c.bars = [] := by
  simp [bars, h.tradeCount]

theorem Filled.bars_eq (h : c.Filled) : c.bars = [c.bar] := by
  simp [bars, h.tradeCount_ne_zero]

theorem Accumulating.acceptable_bars (hc : c.Accumulating) : Bar.Acceptable c.bars := by
  rcases hc.content with hfresh | hfilled
  · rw [hfresh.bars_eq]
    exact Bar.acceptable_nil
  · rw [hfilled.bars_eq]
    exact hfilled.sound.acceptable_singleton hfilled.fits

/-- The conditions of one step, as acceptability of the content with the new bar. -/
theorem Accumulating.acceptable_snoc_iff (hc : c.Accumulating) (b : Bar) :
    Bar.Acceptable (c.bars ++ [b]) ↔ c.Appends b ∧ (c.nextBar b).Fits := by
  rw [nextBar_eq_total]
  constructor
  · intro h
    have hsound := h.sound b (by simp)
    refine ⟨⟨hsound, ?_⟩, h.fits⟩
    rcases hc.content with hfresh | hfilled
    · rw [hfresh.seqLast]
      exact Int.le_of_lt hsound.seqFirst_pos
    · have hchain := h.chain
      rw [hfilled.bars_eq, List.singleton_append, List.isChain_cons_cons] at hchain
      exact hchain.1
  · rintro ⟨happends, hfits⟩
    refine ⟨?_, ?_, hfits⟩
    · intro x hx
      rcases List.mem_append.mp hx with hx | hx
      · exact hc.acceptable_bars.sound x hx
      · rw [List.mem_singleton.mp hx]
        exact happends.sound
    · rcases hc.content with hfresh | hfilled
      · rw [hfresh.bars_eq]
        exact .singleton b
      · rw [hfilled.bars_eq, List.singleton_append, List.isChain_cons_cons]
        exact ⟨happends.seq_le, .singleton b⟩

/-- After one accepted bar the content is a single bar, the total so far. -/
theorem Accumulating.absorb_acceptable_iff {b : Bar} (hc : c.Accumulating) (bs : List Bar) :
    Bar.Acceptable (c.bars ++ b :: bs) ↔
      (c.Appends b ∧ (c.nextBar b).Fits) ∧ Bar.Acceptable ((c.absorb b).bars ++ bs) := by
  have hsplit : c.bars ++ b :: bs = (c.bars ++ [b]) ++ bs := by simp
  rw [hsplit, Bar.acceptable_append_iff (by simp), hc.acceptable_snoc_iff]
  refine and_congr_right fun h => ?_
  have hfilled := (hc.absorb h.1 h.2).2
  rw [hfilled.bars_eq, ← nextBar_eq_total]
  rfl

/-- The candle after a non-empty list of bars has the total as its content. -/
theorem absorbAll_eq
    (hc : c.Accumulating) {bs : List Bar} (hne : bs ≠ []) (hbs : Bar.Acceptable (c.bars ++ bs)) :
    c.absorbAll bs = c.withBar (Bar.total (c.bars ++ bs)) := by
  induction bs generalizing c with
  | nil => exact absurd rfl hne
  | cons b bs ih =>
    obtain ⟨⟨happends, hfits⟩, hrest⟩ := (hc.absorb_acceptable_iff bs).mp hbs
    obtain ⟨hacc, hfilled⟩ := hc.absorb happends hfits
    by_cases hnil : bs = []
    · subst hnil
      change c.absorb b = _
      rw [absorb, nextBar_eq_total]
    · have hstep : c.absorbAll (b :: bs) = (c.absorb b).absorbAll bs := rfl
      have hsplit : c.bars ++ b :: bs = (c.bars ++ [b]) ++ bs := by simp
      rw [hstep, ih hacc hnil hrest, hfilled.bars_eq, hsplit,
        Bar.total_append (by simp) hnil, Bar.total_append (by simp) hnil, ← nextBar_eq_total]
      rfl

theorem absorbAll_accumulating
    (hc : c.Accumulating) {bs : List Bar} (hbs : Bar.Acceptable (c.bars ++ bs)) :
    (c.absorbAll bs).Accumulating := by
  induction bs generalizing c with
  | nil => exact hc
  | cons b bs ih =>
    obtain ⟨⟨happends, hfits⟩, hrest⟩ := (hc.absorb_acceptable_iff bs).mp hbs
    exact ih (hc.absorb happends hfits).1 hrest

end CandleV1

/-! ## Folding candles -/

/-- Folds closed candles with `ApplyClosedCandle`. -/
def foldCandles : List CandleV1 → Prog Problem CandleV1 PUnit
  | [] => pure ⟨⟩
  | child :: rest => do
    CandleV1.applyClosedCandle child
    foldCandles rest

/-- A child that may be folded into `c`, apart from its bar. -/
structure CandleV1.ChildOf (child c : CandleV1) : Prop where
  complete : child.Complete
  venue : trimSpace child.venue = c.venue
  instrument : trimSpace child.instrument = c.instrument

theorem foldCandles_eq_ok_iff
    {children : List CandleV1} {c c' : CandleV1} {u : PUnit} (hc : c.Accumulating)
    (hrange : ∀ child ∈ children, child.InRange) :
    foldCandles children c = (c', .ok u) ↔
      (∀ child ∈ children, child.ChildOf c) ∧
      Bar.Acceptable (c.bars ++ children.map CandleV1.settledBar) ∧
      c' = c.absorbAll (children.map CandleV1.settledBar) := by
  induction children generalizing c with
  | nil =>
    have hbars := hc.acceptable_bars
    simp [foldCandles, CandleV1.absorbAll, hbars, eq_comm]
  | cons child rest ih =>
    have hrest : ∀ x ∈ rest, x.InRange := fun x hx => hrange x (by simp [hx])
    unfold foldCandles
    rw [bind_eq_ok_iff]
    simp only [CandleV1.applyClosedCandle_eq_ok_iff hc (hrange child (by simp)),
      List.map_cons, hc.absorb_acceptable_iff]
    constructor
    · rintro ⟨c₁, _, ⟨hcomplete, hvenue, hinstrument, hseq, hfits, rfl⟩, hfold⟩
      have hsound := (hcomplete.settledBar_sound (hrange child (by simp))).1
      have hacc := (hc.absorb ⟨hsound, hseq⟩ hfits).1
      obtain ⟨hchildren, hbars, rfl⟩ := (ih hacc hrest).mp hfold
      refine ⟨?_, ⟨⟨⟨hsound, hseq⟩, hfits⟩, hbars⟩, rfl⟩
      intro x hx
      rcases List.mem_cons.mp hx with rfl | hx
      · exact ⟨hcomplete, hvenue, hinstrument⟩
      · obtain ⟨h₁, h₂, h₃⟩ := hchildren x hx
        exact ⟨h₁, h₂, h₃⟩
    · rintro ⟨hchildren, ⟨⟨happends, hfits⟩, hbars⟩, rfl⟩
      obtain ⟨hcomplete, hvenue, hinstrument⟩ := hchildren child (by simp)
      have hacc := (hc.absorb happends hfits).1
      refine ⟨_, ⟨⟩, ⟨hcomplete, hvenue, hinstrument, happends.seq_le, hfits, rfl⟩, ?_⟩
      refine (ih hacc hrest).mpr ⟨?_, hbars, rfl⟩
      intro x hx
      obtain ⟨h₁, h₂, h₃⟩ := hchildren x (by simp [hx])
      exact ⟨h₁, h₂, h₃⟩

/-! ## Folding trades -/

/-- Folds trades with `ApplyTrade`. -/
def foldTrades : List Trade → Prog Problem CandleV1 PUnit
  | [] => pure ⟨⟩
  | t :: rest => do
    CandleV1.applyTrade t.price t.qty t.isBuy t.seq
    foldTrades rest

theorem foldTrades_eq_ok_iff
    {trades : List Trade} {c c' : CandleV1} {u : PUnit} (hc : c.Accumulating) :
    foldTrades trades c = (c', .ok u) ↔
      (∀ t ∈ trades, t.Positive) ∧
      Bar.Acceptable (c.bars ++ trades.map Trade.bar) ∧
      c' = c.absorbAll (trades.map Trade.bar) := by
  induction trades generalizing c with
  | nil =>
    have hbars := hc.acceptable_bars
    simp [foldTrades, CandleV1.absorbAll, hbars, eq_comm]
  | cons t rest ih =>
    unfold foldTrades
    rw [bind_eq_ok_iff]
    simp only [CandleV1.applyTrade_eq_ok_iff hc, List.map_cons, hc.absorb_acceptable_iff]
    constructor
    · rintro ⟨c₁, _, ⟨p, q, hp, hq, happends, hfits, rfl⟩, hfold⟩
      obtain ⟨hrest, hbars, rfl⟩ := (ih (hc.absorb happends hfits).1).mp hfold
      have hbar : t.bar = .ofTrade p q t.isBuy t.seq := Trade.bar_eq hp hq
      rw [hbar]
      refine ⟨?_, ⟨⟨happends, hfits⟩, hbars⟩, ?_⟩
      · intro x hx
        rcases List.mem_cons.mp hx with rfl | hx
        · exact ⟨p, q, hp, hq⟩
        · exact hrest x hx
      · rw [← hbar]
        rfl
    · rintro ⟨hpositive, ⟨⟨happends, hfits⟩, hbars⟩, rfl⟩
      obtain ⟨p, q, hp, hq⟩ := hpositive t (by simp)
      have hbar : t.bar = .ofTrade p q t.isBuy t.seq := Trade.bar_eq hp hq
      rw [hbar] at happends hfits hbars
      refine ⟨_, ⟨⟩, ⟨p, q, hp, hq, happends, hfits, rfl⟩, ?_⟩
      rw [ih (hc.absorb happends hfits).1]
      refine ⟨fun x hx => hpositive x (by simp [hx]), hbars, ?_⟩
      rw [← hbar]
      rfl

/-! ## Grouping -/

/-- A window of a lower timeframe with its trades. -/
structure TradeGroup where
  timeframe : String
  windowStart : Int
  windowEnd : Int
  trades : List Trade

/-- The window can hold a candle, and has a trade. -/
structure TradeGroup.WellFormed (g : TradeGroup) : Prop where
  timeframe : g.timeframe ∈ allowedCandleTimeframes
  windowStart : 0 ≤ g.windowStart
  windowEnd : g.windowStart < g.windowEnd
  trades : g.trades ≠ []

/-- The closed candle of a group of trades. -/
def TradeGroup.candle (venue instrument : String) (g : TradeGroup) : Except Problem CandleV1 := do
  let c ← CandleV1.create venue instrument g.timeframe g.windowStart
  Prog.exec (do foldTrades g.trades; CandleV1.close g.windowEnd) c

/-- Folds every group into a closed candle, and these candles into `c`. -/
def foldGroups (venue instrument : String) (groups : List TradeGroup) (c : CandleV1) :
    Except Problem CandleV1 := do
  let children ← groups.mapM (TradeGroup.candle venue instrument)
  Prog.exec (foldCandles children) c

/-- A well-formed group with acceptable trades becomes the candle of their total. -/
theorem TradeGroup.candle_eq_ok
    {venue instrument : String} {g : TradeGroup} (hvenue : trimSpace venue ≠ "")
    (hinstrument : trimSpace instrument ≠ "") (hg : g.WellFormed)
    (hpositive : ∀ t ∈ g.trades, t.Positive) (hbars : Bar.Acceptable (g.trades.map Trade.bar)) :
    ∃ child, g.candle venue instrument = .ok child ∧ child.Complete ∧ child.InRange ∧
      child.settledBar = Bar.total (g.trades.map Trade.bar) ∧
      child.venue = trimSpace venue ∧
      child.instrument = trimSpace instrument := by
  obtain ⟨c, hcreate⟩ : ∃ c, CandleV1.create venue instrument g.timeframe g.windowStart = .ok c :=
    ⟨_, CandleV1.create_eq_ok_iff.mpr ⟨⟨hvenue, hinstrument, hg.timeframe, hg.windowStart⟩, rfl⟩⟩
  obtain ⟨hacc, hfresh⟩ := CandleV1.create_fresh hcreate
  have hfields := (CandleV1.create_eq_ok_iff.mp hcreate).2
  have hne : g.trades.map Trade.bar ≠ [] := by simp [hg.trades]
  have hbars' : Bar.Acceptable (c.bars ++ g.trades.map Trade.bar) := by
    rw [hfresh.bars_eq]
    exact hbars
  have hfold := (foldTrades_eq_ok_iff (u := ⟨⟩) hacc).mpr ⟨hpositive, hbars', rfl⟩
  have heq := CandleV1.absorbAll_eq hacc hne hbars'
  rw [hfresh.bars_eq, List.nil_append] at heq
  rw [heq] at hfold
  have hfilled : (c.withBar (Bar.total (g.trades.map Trade.bar))).Filled :=
    ⟨CandleV1.synced_withBar c _, Bar.sound_total hne hbars.sound hbars.chain, hbars.fits⟩
  have hacc' := heq ▸ CandleV1.absorbAll_accumulating hacc hbars'
  have hend : (c.withBar (Bar.total (g.trades.map Trade.bar))).windowStartTs < g.windowEnd := by
    rw [hfields]
    exact hg.windowEnd
  have hclose := (CandleV1.close_eq_ok_iff (u := ⟨⟩) hacc').mpr ⟨hfilled, hend, rfl⟩
  obtain ⟨hcomplete, hbar⟩ := hfilled.complete_closedAt hacc'.isOpen hend
  refine ⟨_, ?_, hcomplete, ⟨hfilled.inRange.volume, hfilled.inRange.buyVolume,
    hfilled.inRange.sellVolume, hfilled.inRange.tradeCount⟩, hbar, ?_, ?_⟩
  · unfold TradeGroup.candle
    rw [hcreate]
    refine exec_eq_ok_iff.mpr ⟨⟨⟩, ?_⟩
    rw [bind_apply_ok hfold]
    exact hclose
  · rw [hfields]
    rfl
  · rw [hfields]
    rfl

/-- Trades with ordered sequence numbers and representable sums are acceptable. -/
theorem acceptable_trades
    {trades : List Trade} (hpositive : ∀ t ∈ trades, t.Positive) (hseq : ∀ t ∈ trades, 0 < t.seq)
    (horder : (trades.map Trade.seq).IsChain (· ≤ ·))
    (hvolume : (trades.map fun t => t.bar.volume).sum < 2 ^ 63)
    (hcount : (trades.length : Int) < 2 ^ 63) : Bar.Acceptable (trades.map Trade.bar) := by
  refine ⟨?_, ?_, Bar.fits_total_iff.mpr ⟨?_, ?_⟩⟩
  · intro b hb
    obtain ⟨t, ht, rfl⟩ := List.mem_map.mp hb
    exact (hpositive t ht).sound_bar (hseq t ht)
  · rw [List.isChain_map] at horder ⊢
    exact horder
  · rw [List.map_map]
    exact hvolume
  · have hones : (trades.map Trade.bar).map Bar.tradeCount = List.replicate trades.length 1 := by
      rw [List.map_map]
      exact List.map_eq_replicate_iff.mpr fun _ _ => rfl
    rw [hones, List.sum_replicate]
    simpa using hcount

/-- A first trade without a positive sequence number stops the fold with that problem. -/
theorem foldTrades_cons_error
    {c : CandleV1} {t : Trade} (hc : c.isClosed = false) (ht : t.seq ≤ 0) (rest : List Trade) :
    ∃ p, positiveInt "seq" t.seq = some p ∧
      foldTrades (t :: rest) c = (c, .error p) := by
  have hsome : positiveInt "seq" t.seq ≠ none := by
    rw [ne_eq, positiveInt_eq_none]
    omega
  obtain ⟨p, hp⟩ := Option.ne_none_iff_exists'.mp hsome
  refine ⟨p, hp, ?_⟩
  have happly : CandleV1.applyTrade t.price t.qty t.isBuy t.seq c = (c, .error p) := by
    simp [CandleV1.applyTrade, Problem.when, hc, hp, bind, Prog.check]
  unfold foldTrades
  exact bind_apply_error happly

/-- Sequence numbers are positive from the first one on. -/
theorem seq_pos_of_head
    {t : Trade} {rest : List Trade} (horder : ((t :: rest).map Trade.seq).IsChain (· ≤ ·))
    (ht : 0 < t.seq) : ∀ x ∈ t :: rest, 0 < x.seq := by
  have hpairwise := List.isChain_iff_pairwise.mp horder
  rw [List.map_cons, List.pairwise_cons] at hpairwise
  intro x hx
  rcases List.mem_cons.mp hx with rfl | hx
  · exact ht
  · have hle := hpairwise.1 x.seq (List.mem_map_of_mem hx)
    omega

/-- The case of accepted trades of `foldGroups_eq_foldTrades`. -/
theorem foldGroups_of_acceptable
    {venue instrument timeframe : String} {windowStart : Int} {c : CandleV1}
    (hc : CandleV1.create venue instrument timeframe windowStart = .ok c) {groups : List TradeGroup}
    (hgroups : ∀ g ∈ groups, g.WellFormed)
    (hpositive : ∀ t ∈ (groups.map TradeGroup.trades).flatten, t.Positive)
    (hbars : Bar.Acceptable ((groups.map TradeGroup.trades).flatten.map Trade.bar)) :
    foldGroups venue instrument groups c =
      .ok (c.absorbAll ((groups.map TradeGroup.trades).flatten.map Trade.bar)) := by
  obtain ⟨hacc, hfresh⟩ := CandleV1.create_fresh hc
  obtain ⟨⟨hvenue, hinstrument, -, -⟩, hfields⟩ := CandleV1.create_eq_ok_iff.mp hc
  have hflat : (groups.map TradeGroup.trades).flatten.map Trade.bar =
      (groups.map fun g => g.trades.map Trade.bar).flatten := by
    rw [List.map_flatten, List.map_map]
    rfl
  have hne : ∀ g ∈ groups.map fun g => g.trades.map Trade.bar, g ≠ [] := by
    intro bs hbs
    obtain ⟨g, hg, rfl⟩ := List.mem_map.mp hbs
    simp [(hgroups g hg).trades]
  rw [hflat] at hbars ⊢
  obtain ⟨hparts, htotals⟩ := (Bar.acceptable_flatten_iff _ hne).mp hbars
  have hchild : ∀ g ∈ groups, ∃ child, g.candle venue instrument = .ok child ∧
      child.Complete ∧ child.InRange ∧
      child.settledBar = Bar.total (g.trades.map Trade.bar) ∧
      child.venue = trimSpace venue ∧
      child.instrument = trimSpace instrument := by
    intro g hg
    refine TradeGroup.candle_eq_ok hvenue hinstrument (hgroups g hg) ?_
      (hparts _ (List.mem_map_of_mem hg))
    intro t ht
    exact hpositive t (List.mem_flatten.mpr ⟨g.trades, List.mem_map_of_mem hg, ht⟩)
  have hinhabited : Nonempty CandleV1 := ⟨c⟩
  choose! child hchild using hchild
  have hmap : groups.mapM (TradeGroup.candle venue instrument) = .ok (groups.map child) := by
    rw [mapM_eq_ok_iff, List.forall₂_map_right_iff, List.forall₂_same]
    exact fun g hg => (hchild g hg).1
  have hsettled : (groups.map child).map CandleV1.settledBar =
      (groups.map fun g => g.trades.map Trade.bar).map Bar.total := by
    rw [List.map_map, List.map_map]
    exact List.map_congr_left fun g hg => (hchild g hg).2.2.2.1
  have hrange : ∀ x ∈ groups.map child, x.InRange := by
    intro x hx
    obtain ⟨g, hg, rfl⟩ := List.mem_map.mp hx
    exact (hchild g hg).2.2.1
  have hchildOf : ∀ x ∈ groups.map child, x.ChildOf c := by
    intro x hx
    obtain ⟨g, hg, rfl⟩ := List.mem_map.mp hx
    obtain ⟨-, hcomplete, -, -, hv, hi⟩ := hchild g hg
    refine ⟨hcomplete, ?_, ?_⟩
    · rw [hv, trimSpace_trimSpace, hfields]
    · rw [hi, trimSpace_trimSpace, hfields]
  -- Folding the candles leaves the total of the totals, folding the trades the total.
  have hsame : c.absorbAll ((groups.map child).map CandleV1.settledBar) =
      c.absorbAll (groups.map fun g => g.trades.map Trade.bar).flatten := by
    by_cases hnil : groups = []
    · subst hnil
      rfl
    · have hflatne : (groups.map fun g => g.trades.map Trade.bar).flatten ≠ [] := by
        obtain ⟨g, gs, rfl⟩ := List.exists_cons_of_ne_nil hnil
        simp [(hgroups g (by simp)).trades]
      rw [hsettled,
        CandleV1.absorbAll_eq hacc (by simp [hnil]) (by rw [hfresh.bars_eq]; exact htotals),
        CandleV1.absorbAll_eq hacc hflatne (by rw [hfresh.bars_eq]; exact hbars),
        hfresh.bars_eq, List.nil_append, List.nil_append, Bar.total_flatten hne]
  have hfold := (foldCandles_eq_ok_iff (u := ⟨⟩) hacc hrange).mpr
    ⟨hchildOf, by rw [hfresh.bars_eq, hsettled]; exact htotals, rfl⟩
  unfold foldGroups
  rw [hmap, ← hsame]
  exact exec_eq_ok_iff.mpr ⟨⟨⟩, hfold⟩

/--
Folding trades group by group: groups into closed candles with `ApplyTrade`, and
the candles in order with `ApplyClosedCandle`, gives what folding all trades with
`ApplyTrade` gives, be it a candle or a problem.
-/
theorem foldGroups_eq_foldTrades
    {venue instrument timeframe : String} {windowStart : Int} {c : CandleV1}
    (hc : CandleV1.create venue instrument timeframe windowStart = .ok c) {groups : List TradeGroup}
    (hgroups : ∀ g ∈ groups, g.WellFormed)
    (hpositive : ∀ t ∈ (groups.map TradeGroup.trades).flatten, t.Positive)
    (horder : ((groups.map TradeGroup.trades).flatten.map Trade.seq).IsChain (· ≤ ·))
    (hvolume : ((groups.map TradeGroup.trades).flatten.map fun t => t.bar.volume).sum < 2 ^ 63)
    (hcount : ((groups.map TradeGroup.trades).flatten.length : Int) < 2 ^ 63) :
    foldGroups venue instrument groups c =
      Prog.exec (foldTrades (groups.map TradeGroup.trades).flatten) c := by
  obtain ⟨hacc, hfresh⟩ := CandleV1.create_fresh hc
  by_cases hseq : ∀ t ∈ (groups.map TradeGroup.trades).flatten, 0 < t.seq
  · have hbars := acceptable_trades hpositive hseq horder hvolume hcount
    rw [foldGroups_of_acceptable hc hgroups hpositive hbars, eq_comm, exec_eq_ok_iff]
    exact ⟨⟨⟩, (foldTrades_eq_ok_iff hacc).mpr
      ⟨hpositive, by simpa [hfresh.bars_eq] using hbars, rfl⟩⟩
  · -- The first trade is rejected, directly and in the first group.
    cases groups with
    | nil => exact absurd (by simp) hseq
    | cons g gs =>
      obtain ⟨t, rest, htrades⟩ := List.exists_cons_of_ne_nil (hgroups g (by simp)).trades
      have hflat : ((g :: gs).map TradeGroup.trades).flatten =
          t :: (rest ++ (gs.map TradeGroup.trades).flatten) := by
        simp [htrades]
      rw [hflat] at horder hseq ⊢
      have ht : t.seq ≤ 0 := by
        by_contra hpos
        exact hseq (seq_pos_of_head horder (by omega))
      obtain ⟨p, hp, hdirect⟩ := foldTrades_cons_error hacc.isOpen.isClosed ht
        (rest ++ (gs.map TradeGroup.trades).flatten)
      obtain ⟨⟨hvenue, hinstrument, -, -⟩, -⟩ := CandleV1.create_eq_ok_iff.mp hc
      have hg := hgroups g (by simp)
      obtain ⟨c', hcreate⟩ : ∃ c', CandleV1.create venue instrument g.timeframe g.windowStart =
          .ok c' :=
        ⟨_, CandleV1.create_eq_ok_iff.mpr
          ⟨⟨hvenue, hinstrument, hg.timeframe, hg.windowStart⟩, rfl⟩⟩
      obtain ⟨p', hp', hgroup⟩ := foldTrades_cons_error
        (CandleV1.create_fresh hcreate).1.isOpen.isClosed ht rest
      have hpp : p' = p := by
        rw [hp] at hp'
        exact (Option.some.inj hp').symm
      subst hpp
      have hcandle : g.candle venue instrument = .error p' := by
        unfold TradeGroup.candle
        rw [hcreate, htrades]
        simp only [bind, Except.bind, Prog.exec, hgroup]
      unfold foldGroups
      rw [List.mapM_cons, hcandle]
      simp only [Prog.exec, hdirect]
      rfl

end Aggregation
end StreamAnalytics
