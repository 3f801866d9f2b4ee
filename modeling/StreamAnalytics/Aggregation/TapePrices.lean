import Mathlib.Tactic.Linarith
import Mathlib.Tactic.LinearCombination
import StreamAnalytics.Aggregation.TapeWindow

/-!
# The volume-weighted price of a tape window

Trades with an exact price and size enter a tape window through the roundings of
`toTradeFixedValues`: the price, the size and the notional are each rounded to the grid of
`1e-8`.

The notional is not the product of the rounded price and the rounded size.  The
volume-weighted price therefore stays between the extreme prices exactly as long as the
sum of these differences is covered by the spread of the prices
(`vwap_between_iff`).  The sums of the volumes are validated after every trade; those of
the notionals are not.
-/

namespace StreamAnalytics
namespace Aggregation

open GoInt

/-- A trade with an exact price and size. -/
structure ExactTrade where
  price : ℚ
  size : ℚ
  isBuy : Bool
  seq : Int
  price_pos : 0 < price
  size_pos : 0 < size

/-- `math.RoundToEven` of an exact positive number on the fixed-point grid. -/
def roundFixed (x : ℚ) : Int :=
  Binary64.divRoundEven (x * candleFixedScale).num.toNat (x * candleFixedScale).den

/-- `toPositiveFixed` of an exact positive number. -/
def exactPositiveFixed (field : String) (x : ℚ) : Except Problem Int :=
  if 2 ^ 63 < roundFixed x then
    .error (.newf .validationFailed "%s out of fixed precision range" [.str field])
  else if wrap64 (roundFixed x) < 0 then
    .error (.newf .validationFailed "%s must be non-negative" [.str field])
  else if wrap64 (roundFixed x) ≤ 0 then
    .error (.newf .validationFailed "%s must be positive" [.str field])
  else .ok (wrap64 (roundFixed x))

/-- `toTradeFixedValues` of an exact positive price and size. -/
def exactTradeFixedValues (price size : ℚ) : Except Problem (Int × Int × Int) :=
  match exactPositiveFixed "price" price with
  | .error p => .error p
  | .ok priceFixed =>
    match exactPositiveFixed "size" size with
    | .error p => .error p
    | .ok sizeFixed =>
      -- A number out of range converts to the least integer.
      if roundFixed (price * size) ≤ 0 ∨ 2 ^ 63 ≤ roundFixed (price * size) then
        .error (.new .validationFailed "notional must be > 0")
      else .ok (priceFixed, sizeFixed, roundFixed (price * size))

theorem exactPositiveFixed_range
    {field : String} {x : ℚ} {fixed : Int} (h : exactPositiveFixed field x = .ok fixed) :
    0 < fixed ∧ fixed < 2 ^ 63 := by
  unfold exactPositiveFixed at h
  split_ifs at h
  rw [← Except.ok.inj h]
  have hrange := inInt64_wrap64 (roundFixed x)
  unfold InInt64 at hrange
  omega

theorem exactTradeFixedValues_range
    {price size : ℚ} {p s n : Int} (h : exactTradeFixedValues price size = .ok (p, s, n)) :
    0 < p ∧ 0 < s ∧ s < 2 ^ 63 ∧ 0 < n ∧ n < 2 ^ 63 := by
  unfold exactTradeFixedValues at h
  split at h
  next e hp => cases h
  next priceFixed hp =>
    split at h
    next e hs => cases h
    next sizeFixed hs =>
      split at h
      next => cases h
      next hrange =>
        cases h
        have hprice := exactPositiveFixed_range hp
        have hsize := exactPositiveFixed_range hs
        omega

/-- The call of `ApplyTrade` with the trade. -/
def ExactTrade.tapeCall (t : ExactTrade) : TapeCall where
  values := exactTradeFixedValues t.price t.size
  isBuy := t.isBuy
  seq := t.seq
  range := fun _ _ _ h => exactTradeFixedValues_range h

namespace TapeWindowV1

/-- `VwapPrice`, as an exact number. -/
def vwap (w : TapeWindowV1) : ℚ :=
  (wrap64 (w.buyNotionalFixed + w.sellNotionalFixed) : ℚ) / w.totalVolumeFixed

/-- The volume-weighted price lies between `MinPrice` and `MaxPrice`. -/
def VwapBetween (w : TapeWindowV1) : Prop :=
  (w.minPriceFixed : ℚ) / candleFixedScale ≤ w.vwap ∧
    w.vwap ≤ (w.maxPriceFixed : ℚ) / candleFixedScale

instance (w : TapeWindowV1) : Decidable w.VwapBetween := inferInstanceAs (Decidable (_ ∧ _))

/-- The sums of the window are those of the trades: none of them has wrapped around. -/
structure SumsExact (ts : List TapeTrade) (w : TapeWindowV1) : Prop where
  buyVolume : w.buyVolumeFixed = total TapeTrade.buyVolume ts
  sellVolume : w.sellVolumeFixed = total TapeTrade.sellVolume ts
  totalVolume : w.totalVolumeFixed = total TapeTrade.sizeFixed ts
  buyNotional : w.buyNotionalFixed = total TapeTrade.buyNotional ts
  sellNotional : w.sellNotionalFixed = total TapeTrade.sellNotional ts

end TapeWindowV1

/-- What the roundings add to the notional, against the rounded price and size. -/
def TapeTrade.roundingGain (t : TapeTrade) : Int :=
  t.notionalFixed * candleFixedScale - t.priceFixed * t.sizeFixed

/-- What the trade is worth above the price. -/
def TapeTrade.above (price : Int) (t : TapeTrade) : Int := (t.priceFixed - price) * t.sizeFixed

namespace TapeWindowV1

/-- The sum of the notionals fits, and the spread of the prices covers what the roundings
add to it. -/
structure Covered (ts : List TapeTrade) : Prop where
  notional : total TapeTrade.notionalFixed ts < 2 ^ 63
  loss : ∃ a ∈ ts, -total (TapeTrade.above a.priceFixed) ts ≤ total TapeTrade.roundingGain ts
  gain : ∃ b ∈ ts, total TapeTrade.roundingGain ts ≤ -total (TapeTrade.above b.priceFixed) ts

/-- The gain of the roundings over the value above a price is the notional over the volume
at that price. -/
theorem total_roundingGain_add_above (price : Int) (ts : List TapeTrade) :
    total TapeTrade.roundingGain ts + total (TapeTrade.above price) ts =
      total TapeTrade.notionalFixed ts * candleFixedScale -
        price * total TapeTrade.sizeFixed ts := by
  induction ts with
  | nil => simp
  | cons t ts ih =>
    unfold total at ih ⊢
    simp only [List.map_cons, List.sum_cons]
    unfold TapeTrade.roundingGain TapeTrade.above at ih ⊢
    linear_combination ih

theorem covered_iff {w₀ w : TapeWindowV1} {ts : List TapeTrade}
    (h : Holds w₀ ts w) (hts : ts ≠ []) (hpos : ∀ t ∈ ts, t.Positive) :
    Covered ts ↔ total TapeTrade.notionalFixed ts < 2 ^ 63 ∧
      w.minPriceFixed * total TapeTrade.sizeFixed ts ≤
        total TapeTrade.notionalFixed ts * candleFixedScale ∧
      total TapeTrade.notionalFixed ts * candleFixedScale ≤
        w.maxPriceFixed * total TapeTrade.sizeFixed ts := by
  obtain ⟨⟨tmin, htmin, hmin⟩, hmin_le⟩ := h.minPrice hts
  obtain ⟨⟨tmax, htmax, hmax⟩, hmax_le⟩ := h.maxPrice hts
  have hmin' : tmin.priceFixed = w.minPriceFixed := OrderDual.toDual.injective hmin
  have hvolume : 0 ≤ total TapeTrade.sizeFixed ts := by
    have hlength := (length_le_total hpos).1
    omega
  have hsum := fun t : TapeTrade => total_roundingGain_add_above t.priceFixed ts
  constructor
  · rintro ⟨hnotional, ⟨a, ha, hloss⟩, b, hb, hgain⟩
    have hle_a : w.minPriceFixed ≤ a.priceFixed := hmin_le a ha
    have hle_b : b.priceFixed ≤ w.maxPriceFixed := hmax_le b hb
    have hmul_a := mul_le_mul_of_nonneg_right hle_a hvolume
    have hmul_b := mul_le_mul_of_nonneg_right hle_b hvolume
    have hsum_a := hsum a
    have hsum_b := hsum b
    exact ⟨hnotional, by linarith, by linarith⟩
  · rintro ⟨hnotional, hloss, hgain⟩
    have hsum_min := hsum tmin
    have hsum_max := hsum tmax
    rw [hmin'] at hsum_min
    rw [hmax] at hsum_max
    refine ⟨hnotional, ⟨tmin, htmin, ?_⟩, tmax, htmax, ?_⟩
    · rw [hmin']
      linarith
    · rw [hmax]
      linarith

/-- A quotient of an exact sum against a fixed-point price. -/
theorem fixed_le_div_iff {price notional volume : Int} (hvolume : 0 < volume) :
    ((price : ℚ) / candleFixedScale ≤ (notional : ℚ) / volume ↔
        price * volume ≤ notional * candleFixedScale) ∧
      ((notional : ℚ) / volume ≤ (price : ℚ) / candleFixedScale ↔
        notional * candleFixedScale ≤ price * volume) := by
  have hvolume' : (0 : ℚ) < volume := by exact_mod_cast hvolume
  have hscale : (0 : ℚ) < (candleFixedScale : Int) := by norm_num [candleFixedScale]
  constructor
  · rw [div_le_div_iff₀ hscale hvolume']
    exact_mod_cast Iff.rfl
  · rw [div_le_div_iff₀ hvolume' hscale]
    exact_mod_cast Iff.rfl

theorem Holds.vwapBetween_iff {w₀ w : TapeWindowV1} {ts : List TapeTrade}
    (h : Holds w₀ ts w) (hts : ts ≠ []) (hpos : ∀ t ∈ ts, t.Positive)
    (hvolume : total TapeTrade.sizeFixed ts < 2 ^ 63) :
    w.VwapBetween ∧ SumsExact ts w ↔ Covered ts := by
  obtain ⟨hlength, -, -⟩ := length_le_total hpos
  have hlength_pos : 0 < ts.length := List.length_pos_iff.mpr hts
  have hvolume_pos : 0 < total TapeTrade.sizeFixed ts := by omega
  obtain ⟨hnotionals, hbuy, hsell⟩ := total_notionals hpos
  obtain ⟨⟨tmin, htmin, hmin⟩, -⟩ := h.minPrice hts
  have hmin_pos : 0 < w.minPriceFixed := by
    have hmin' : tmin.priceFixed = w.minPriceFixed := OrderDual.toDual.injective hmin
    rw [← hmin']
    exact (hpos tmin htmin).price
  rw [covered_iff h hts hpos]
  -- with exact sums the quotient is that of the notionals and the volumes
  have hbetween : SumsExact ts w →
      (w.VwapBetween ↔
        w.minPriceFixed * total TapeTrade.sizeFixed ts ≤
            wrap64 (total TapeTrade.notionalFixed ts) * candleFixedScale ∧
          wrap64 (total TapeTrade.notionalFixed ts) * candleFixedScale ≤
            w.maxPriceFixed * total TapeTrade.sizeFixed ts) := by
    intro hexact
    unfold VwapBetween vwap
    rw [hexact.buyNotional, hexact.sellNotional, hexact.totalVolume, hnotionals,
      (fixed_le_div_iff hvolume_pos).1, (fixed_le_div_iff hvolume_pos).2]
  constructor
  · rintro ⟨hvwap, hexact⟩
    have hbounds := (hbetween hexact).mp hvwap
    have hbuy_range := h.buyNotional ▸ inInt64_wrap64 (total TapeTrade.buyNotional ts)
    have hsell_range := h.sellNotional ▸ inInt64_wrap64 (total TapeTrade.sellNotional ts)
    rw [hexact.buyNotional] at hbuy_range
    rw [hexact.sellNotional] at hsell_range
    unfold InInt64 at hbuy_range hsell_range
    -- a sum that wraps is negative, and so would be the price
    have hfits : total TapeTrade.notionalFixed ts < 2 ^ 63 := by
      by_contra hover
      have hneg : wrap64 (total TapeTrade.notionalFixed ts) < 0 := by
        unfold wrap64
        omega
      have hmin_mul := mul_pos hmin_pos hvolume_pos
      have hscale : (0 : Int) < candleFixedScale := by decide
      have hneg_mul := mul_neg_of_neg_of_pos hneg hscale
      linarith [hbounds.1]
    rw [wrap64_eq_self ⟨by omega, by omega⟩] at hbounds
    exact ⟨hfits, hbounds⟩
  · rintro ⟨hfits, hbounds⟩
    have hreports := h.reports hpos hvolume hfits
    have hexact : SumsExact ts w :=
      ⟨hreports.buyVolume, hreports.sellVolume, hreports.totalVolume, hreports.buyNotional,
        hreports.sellNotional⟩
    refine ⟨(hbetween hexact).mpr ?_, hexact⟩
    rwa [wrap64_eq_self ⟨by omega, by omega⟩]

/-- The trades in fixed-point numbers, without those that are not valid. -/
def exactFixedTrades (trades : List ExactTrade) : List TapeTrade :=
  (trades.map ExactTrade.tapeCall).filterMap TapeCall.trade?

/-- The window after the trades. -/
def afterTrades (trades : List ExactTrade) (w : TapeWindowV1) : TapeWindowV1 :=
  (applyCalls (trades.map ExactTrade.tapeCall) w).1

/-- A purchase and a sale at different prices. -/
def sampleExactTrades : List ExactTrade :=
  [⟨100, 2, true, 7, by norm_num, by norm_num⟩, ⟨101, 1 / 2, false, 8, by norm_num, by norm_num⟩]

/-- A trade whose size is rounded down to one unit. -/
def dustTrades : List ExactTrade := [⟨100, 14 / 1000000000, true, 7, by norm_num, by norm_num⟩]

/-- Two trades whose notionals add up to more than `2 ^ 63`. -/
def largeTrades : List ExactTrade :=
  [⟨50000000000, 1, true, 7, by norm_num, by norm_num⟩,
    ⟨50000000000, 1, true, 8, by norm_num, by norm_num⟩]

end TapeWindowV1
end Aggregation
end StreamAnalytics
