import StreamAnalytics.Aggregation.CandleSpec

/-!
# The outcome of a call on an open candle

`ApplyTrade` and `ApplyClosedCandle` are the same operation on bars: both append one
further bar to the content of the candle.  The checks before the assignments admit a
call with a bar (`Admits`); on a candle that is fresh or has been filled by earlier
successful calls the call is then applied, unless a sum leaves the range of `int64`
(`outcome`).
-/

namespace StreamAnalytics
namespace Aggregation

open GoStrings Prog

/-- The arguments of one `ApplyTrade` call. -/
structure Trade where
  price : Float
  qty : Float
  isBuy : Bool
  seq : Int
deriving DecidableEq

namespace Trade

/-- The price in fixed-point units. -/
def priceFixed (t : Trade) : Except Problem Int := toPositiveFixed "price" t.price candleFixedScale

/-- The quantity in fixed-point units. -/
def qtyFixed (t : Trade) : Except Problem Int := toPositiveFixed "qty" t.qty candleFixedScale

/-- Price and quantity are positive at the fixed precision. -/
def Positive (t : Trade) : Prop := ∃ p q, t.priceFixed = .ok p ∧ t.qtyFixed = .ok q

/-- The bar of a trade. -/
def bar (t : Trade) : Bar :=
  .ofTrade (t.priceFixed.toOption.getD 0) (t.qtyFixed.toOption.getD 0) t.isBuy t.seq

theorem bar_eq {t : Trade} {p q : Int} (hp : t.priceFixed = .ok p) (hq : t.qtyFixed = .ok q) :
    t.bar = .ofTrade p q t.isBuy t.seq := by
  simp [bar, hp, hq, Except.toOption]

theorem Positive.sound_bar {t : Trade} (h : t.Positive) (hseq : 0 < t.seq) : t.bar.Sound := by
  obtain ⟨p, q, hp, hq⟩ := h
  rw [bar_eq hp hq]
  exact Bar.sound_ofTrade (toPositiveFixed_range hp).1 (toPositiveFixed_range hq).1 hseq t.isBuy

end Trade

namespace CandleV1

open GoInt

/-- A call that may change an open candle. -/
inductive Call where
  | trade (t : Trade)
  | child (closed : CandleV1)

namespace Call

/-- Runs a call. -/
def apply : Call → Prog Problem CandleV1 PUnit
  | trade t => applyTrade t.price t.qty t.isBuy t.seq
  | child closed => applyClosedCandle closed

/-- The number of trades that a call applies. -/
def trades : Call → Int
  | trade _ => 1
  | child closed => closed.tradeCount

/-- The `int64` fields of the argument hold `int64` values. -/
def InRange : Call → Prop
  | trade _ => True
  | child closed => closed.InRange

end Call

/-- The checks before the assignments let a call pass with a bar. -/
def Admits (c : CandleV1) : Call → Bar → Prop
  | .trade t, b =>
    ∃ p q, t.priceFixed = .ok p ∧ t.qtyFixed = .ok q ∧ b = .ofTrade p q t.isBuy t.seq ∧
      0 < t.seq ∧ c.seqLast ≤ t.seq
  | .child closed, b =>
    closed.Complete ∧ trimSpace closed.venue = c.venue ∧
      trimSpace closed.instrument = c.instrument ∧
      b = closed.settledBar ∧ c.seqLast ≤ closed.settledBar.seqFirst

variable {c c' : CandleV1} {call : Call} {u : PUnit}

/-- What a call does to a candle that is being built. -/
inductive Outcome (c : CandleV1) (call : Call) : CandleV1 × Except Problem PUnit → Prop where
  | refused
      {p : Problem}
      (hrefused : ∀ b, ¬ c.Admits call b) :
      Outcome c call (c, .error p)
  | applied
      {b : Bar}
      (hadmits : c.Admits call b) (hfits : (c.nextBar b).Fits) :
      Outcome c call (c.absorb b, .ok ⟨⟩)
  | overflowed
      {b : Bar} {p : Problem}
      (hadmits : c.Admits call b) (hfits : ¬ (c.nextBar b).Fits) :
      Outcome c call (c.withBar (wrapBar (c.nextBar b)), .error p)

theorem of_when_eq_some
    {bad : Prop} [Decidable bad] {p e : Problem} (h : Problem.when bad p = some e) : bad := by
  by_contra hgood
  cases h.symm.trans (Problem.when_eq_none.mpr hgood)

/-- `Validate` of a candle whose fixed-point fields are set changes nothing. -/
theorem Hydrated.validate_fst
    (h : c.Hydrated) (hcount : c.tradeCount ≠ 0) : (validate c).1 = c := by
  unfold validate
  rw [get_bind_apply, check_bind_apply]
  split
  · rfl
  · simp only [if_neg hcount]
    rw [bind_apply_ok h.hydrate, get_bind_apply]
    cases c.validateFixed <;> rfl

/-- The last statement of both operations. -/
theorem outcome_validate {b : Bar} (hc : c.Accumulating) (hadmits : c.Admits call b)
    (happends : c.Appends b) (hfits : b.Fits) :
    Outcome c call (validate (c.withBar (wrapBar (c.nextBar b)))) := by
  obtain ⟨hv, hn⟩ := nextBar_lt hc.content hfits.volume_lt hfits.tradeCount_lt
  have hsound := hc.sound_nextBar happends
  have hvalid : ∀ c', validate (c.withBar (wrapBar (c.nextBar b))) = (c', .ok ⟨⟩) ↔
      (c.nextBar b).Fits ∧ c' = c.withBar (c.nextBar b) :=
    fun c' => validate_withBar_wrapBar_eq_ok_iff hc.isOpen hsound hv hn
  by_cases hfits' : (c.nextBar b).Fits
  · rw [(hvalid _).mpr ⟨hfits', rfl⟩]
    exact .applied hadmits hfits'
  · obtain ⟨hhydrated, hcount⟩ := hydrated_withBar_wrapBar c hsound hn
    have hsame := hhydrated.validate_fst hcount
    generalize hout : validate (c.withBar (wrapBar (c.nextBar b))) = out at hsame
    obtain ⟨c', r⟩ := out
    cases hsame
    cases r with
    | error p => exact .overflowed hadmits hfits'
    | ok u => exact absurd ((hvalid _).mp hout).1 hfits'

theorem outcome_trade
    (hc : c.Accumulating) (t : Trade) : Outcome c (.trade t) ((Call.trade t).apply c) := by
  show Outcome c (.trade t) (applyTrade t.price t.qty t.isBuy t.seq c)
  unfold applyTrade
  rw [get_bind_apply, check_bind_apply]
  split
  next e h => exact absurd (hc.isOpen.isClosed.symm.trans (of_when_eq_some h)) Bool.false_ne_true
  rw [check_bind_apply]
  split
  next e h =>
    refine .refused ?_
    rintro b ⟨p, q, -, -, -, hpos, -⟩
    cases h.symm.trans (Validation.positiveInt_eq_none.mpr hpos)
  next hseq =>
  have hpos := Validation.positiveInt_eq_none.mp hseq
  cases hp : toPositiveFixed "price" t.price candleFixedScale with
  | error e =>
    refine .refused ?_
    rintro b ⟨p, q, hp', -⟩
    cases hp.symm.trans hp'
  | ok p =>
    rw [lift_ok_bind_apply]
    cases hq : toPositiveFixed "qty" t.qty candleFixedScale with
    | error e =>
      refine .refused ?_
      rintro b ⟨p, q, -, hq', -⟩
      cases hq.symm.trans hq'
    | ok q =>
      rw [lift_ok_bind_apply, check_bind_apply]
      split
      next e h =>
        have hlate := of_when_eq_some h
        refine .refused ?_
        rintro b ⟨p, q, -, -, -, -, hle⟩
        omega
      next hlast =>
      have hle : c.seqLast ≤ t.seq := by
        have := Problem.when_eq_none.mp hlast
        omega
      have hqrange := toPositiveFixed_range hq
      have happends : c.Appends (.ofTrade p q t.isBuy t.seq) :=
        ⟨Bar.sound_ofTrade (toPositiveFixed_range hp).1 hqrange.1 hpos t.isBuy, hle⟩
      rw [modify_bind_apply, recordTrade_eq hc.content]
      exact outcome_validate hc ⟨p, q, hp, hq, rfl, hpos, hle⟩ happends
        ⟨hqrange.2, show (1 : Int) < 2 ^ 63 by decide⟩

theorem outcome_child {closed : CandleV1} (hc : c.Accumulating) (hrange : closed.InRange) :
    Outcome c (.child closed) ((Call.child closed).apply c) := by
  show Outcome c (.child closed) (applyClosedCandle closed c)
  unfold applyClosedCandle
  rw [get_bind_apply, check_bind_apply]
  split
  next e h => exact absurd (hc.isOpen.isClosed.symm.trans (of_when_eq_some h)) Bool.false_ne_true
  rw [check_bind_apply]
  split
  next e h =>
    refine .refused fun b hadmits => ?_
    exact absurd ((of_when_eq_some h).symm.trans hadmits.1.isClosed) Bool.false_ne_true
  next hclosed =>
  rw [check_bind_apply]
  split
  next e h => exact .refused fun b hadmits => of_when_eq_some h hadmits.2.1
  next hvenue =>
  rw [check_bind_apply]
  split
  next e h => exact .refused fun b hadmits => of_when_eq_some h hadmits.2.2.1
  next hinstrument =>
  rw [check_bind_apply]
  split
  next e h =>
    exact .refused fun b hadmits =>
      absurd hadmits.1.tradeCount_pos (not_lt.mpr (of_when_eq_some h))
  next hcount =>
  rw [Problem.when_eq_none] at hclosed hvenue hinstrument hcount
  cases hvalid : validate closed with
  | mk closed' r =>
    cases r with
    | error e =>
      have hcopy : Prog.onCopy closed validate c = (c, .error e) := by
        simp only [Prog.onCopy, hvalid]
      rw [bind_apply_error hcopy]
      refine .refused fun b hadmits => ?_
      have hok := hadmits.1.valid
      rw [hvalid] at hok
      cases hok
    | ok u =>
      have hcomplete : closed.Complete :=
        ⟨Bool.eq_true_of_not_eq_false hclosed, not_le.mp hcount, by rw [hvalid]⟩
      have hbar : closed'.bar = closed.settledBar := by rw [settledBar, hvalid]
      have hfirst : closed'.seqFirst = closed.settledBar.seqFirst := by rw [← hbar]; rfl
      -- the second hydration changes nothing
      have hhydrate := (validate_eq_ok (not_le.mp hcount) hvalid).1.hydrate
      have hcopy : Prog.onCopy closed validate c = (c, .ok closed') := by
        simp only [Prog.onCopy, hvalid]
      have hcopy' : Prog.onCopy closed' hydrateFixedFromFields c = (c, .ok closed') := by
        simp only [Prog.onCopy, hhydrate]
      rw [bind_apply_ok hcopy, bind_apply_ok hcopy', check_bind_apply]
      obtain ⟨hsound, hfits⟩ := hcomplete.settledBar_sound hrange
      have hpos := hsound.seqFirst_pos
      split
      next e h =>
        have hlate := of_when_eq_some h
        refine .refused ?_
        rintro b ⟨-, -, -, -, hle⟩
        omega
      next hlast =>
      have hle : c.seqLast ≤ closed.settledBar.seqFirst := by
        have := Problem.when_eq_none.mp hlast
        omega
      rw [modify_bind_apply, recordChild_eq hc.content, hbar]
      exact outcome_validate hc ⟨hcomplete, not_not.mp hvenue, not_not.mp hinstrument, rfl, hle⟩
        ⟨hsound, hle⟩ hfits

theorem outcome (hc : c.Accumulating) (hrange : call.InRange) : Outcome c call (call.apply c) := by
  cases call with
  | trade t => exact outcome_trade hc t
  | child closed => exact outcome_child hc hrange

theorem Admits.appends {b : Bar} (hadmits : c.Admits call b) (hrange : call.InRange) :
    c.Appends b ∧ b.Fits ∧ b.tradeCount = call.trades := by
  cases call with
  | trade t =>
    obtain ⟨p, q, hp, hq, rfl, hpos, hle⟩ := hadmits
    have hqrange := toPositiveFixed_range hq
    exact ⟨⟨Bar.sound_ofTrade (toPositiveFixed_range hp).1 hqrange.1 hpos t.isBuy, hle⟩,
      ⟨hqrange.2, show (1 : Int) < 2 ^ 63 by decide⟩, rfl⟩
  | child closed =>
    obtain ⟨hcomplete, -, -, rfl, hle⟩ := hadmits
    obtain ⟨hsound, hfits⟩ := hcomplete.settledBar_sound hrange
    refine ⟨⟨hsound, hle⟩, hfits, ?_⟩
    obtain ⟨closed', hvalid, hbar⟩ := hcomplete.exists_validate
    obtain ⟨-, -, -, ⟨o, hi, lo, cl, v, b, s, heq⟩, -⟩ :=
      validate_eq_ok hcomplete.tradeCount_pos hvalid
    rw [hbar, heq]
    rfl

theorem Admits.unique {b b' : Bar} (h : c.Admits call b) (h' : c.Admits call b') : b = b' := by
  cases call with
  | trade t =>
    obtain ⟨p, q, hp, hq, rfl, -⟩ := h
    obtain ⟨p', q', hp', hq', rfl, -⟩ := h'
    cases hp.symm.trans hp'
    cases hq.symm.trans hq'
    rfl
  | child closed => exact h.2.2.2.1.trans h'.2.2.2.1.symm

/-- A call succeeds exactly when it is admitted and does not overflow. -/
theorem Outcome.eq_ok_iff {out : CandleV1 × Except Problem PUnit} (h : Outcome c call out) :
    out = (c', .ok u) ↔ ∃ b, c.Admits call b ∧ (c.nextBar b).Fits ∧ c' = c.absorb b := by
  cases h with
  | refused hrefused => exact ⟨nofun, fun ⟨b, hadmits, _⟩ => absurd hadmits (hrefused b)⟩
  | applied hadmits hfits =>
    constructor
    · rintro ⟨⟩
      exact ⟨_, hadmits, hfits, rfl⟩
    · rintro ⟨b, hadmits', -, rfl⟩
      rw [hadmits.unique hadmits']
  | overflowed hadmits hfits =>
    refine ⟨nofun, ?_⟩
    rintro ⟨b, hadmits', hfits', -⟩
    exact absurd (hadmits.unique hadmits' ▸ hfits') hfits

/--
`ApplyTrade` on a candle that is being built succeeds exactly when the sequence
number is positive and not below the last one, price and quantity are positive at
the fixed precision, and the sums stay representable; it then appends the trade.
-/
theorem applyTrade_eq_ok_iff (hc : c.Accumulating) (price qty : Float) (isBuy : Bool) (seq : Int) :
    applyTrade price qty isBuy seq c = (c', .ok u) ↔
      ∃ p q, toPositiveFixed "price" price candleFixedScale = .ok p ∧
        toPositiveFixed "qty" qty candleFixedScale = .ok q ∧
        c.Appends (.ofTrade p q isBuy seq) ∧
        (c.nextBar (.ofTrade p q isBuy seq)).Fits ∧
        c' = c.absorb (.ofTrade p q isBuy seq) := by
  refine Iff.trans (outcome_trade hc ⟨price, qty, isBuy, seq⟩).eq_ok_iff ⟨?_, ?_⟩
  · rintro ⟨_, ⟨p, q, hp, hq, rfl, hseq, hle⟩, hfits, rfl⟩
    exact ⟨p, q, hp, hq, ⟨Bar.sound_ofTrade (toPositiveFixed_range hp).1 (toPositiveFixed_range hq).1
      hseq isBuy, hle⟩, hfits, rfl⟩
  · rintro ⟨p, q, hp, hq, happends, hfits, rfl⟩
    exact ⟨_, ⟨p, q, hp, hq, rfl, happends.sound.seqFirst_pos, happends.seq_le⟩, hfits, rfl⟩

theorem applyClosedCandle_eq_ok_iff
    {child : CandleV1} (hc : c.Accumulating) (hrange : child.InRange) :
    applyClosedCandle child c = (c', .ok u) ↔
      child.Complete ∧
      trimSpace child.venue = c.venue ∧
      trimSpace child.instrument = c.instrument ∧
      c.seqLast ≤ child.settledBar.seqFirst ∧
      (c.nextBar child.settledBar).Fits ∧
      c' = c.absorb child.settledBar := by
  refine Iff.trans (outcome_child hc hrange).eq_ok_iff ⟨?_, ?_⟩
  · rintro ⟨_, ⟨hcomplete, hvenue, hinstrument, rfl, hle⟩, hfits, rfl⟩
    exact ⟨hcomplete, hvenue, hinstrument, hle, hfits, rfl⟩
  · rintro ⟨hcomplete, hvenue, hinstrument, hle, hfits, rfl⟩
    exact ⟨_, ⟨hcomplete, hvenue, hinstrument, rfl, hle⟩, hfits, rfl⟩

end CandleV1
end Aggregation
end StreamAnalytics
