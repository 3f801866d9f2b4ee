import StreamAnalytics.Aggregation.Bar

/-!
# Specifications of the candle operations

What the parts of `ApplyTrade` and `ApplyClosedCandle` do to a candle that is fresh or
has been filled by earlier successful calls: the checks of `Validate`, the assignments
in terms of bars, and `Close`.
-/

namespace StreamAnalytics
namespace Aggregation

open GoInt GoStrings Validation Prog

/-! ## Fixed-point conversion -/

variable {field timeframe : String} {missing : CandleV1 → Bool}
  {convert : CandleV1 → Except Problem Int} {store : CandleV1 → Int → CandleV1}

variable {c c' : CandleV1} {u : PUnit} {b : Bar} {e : Int}

theorem toNonNegativeFixed_range
    {value : Float} {scale fixed : Int} (h : toNonNegativeFixed field value scale = .ok fixed) :
    0 ≤ fixed ∧ fixed < 2 ^ 63 := by
  unfold toNonNegativeFixed at h
  split_ifs at h
  split at h
  · cases h
  · rename_i scaled _
    have hwrap := inInt64_wrap64 scaled
    unfold InInt64 at hwrap
    dsimp only at h
    split_ifs at h
    cases h
    omega

theorem toPositiveFixed_range
    {value : Float} {scale fixed : Int} (h : toPositiveFixed field value scale = .ok fixed) :
    0 < fixed ∧ fixed < 2 ^ 63 := by
  unfold toPositiveFixed at h
  split at h
  · cases h
  · rename_i hconv
    have hrange := toNonNegativeFixed_range hconv
    split_ifs at h
    cases h
    omega

/-- An empty volume is stored as the float zero, which converts back to zero. -/
theorem toNonNegativeFixed_fromFixed_zero (field : String) :
    toNonNegativeFixed field (fromFixed 0 candleFixedScale) candleFixedScale = .ok 0 := by
  have hnan : (fromFixed 0 candleFixedScale).isNaN = false := by decide
  have hinf : (fromFixed 0 candleFixedScale).isInf = false := by decide
  have hround : Binary64.roundToEven
      (fromFixed 0 candleFixedScale * Float.ofInt candleFixedScale) = some 0 := by decide
  simp only [toNonNegativeFixed, hnan, hinf, hround]
  rfl

theorem not_pos_fromFixed_zero : ¬ (0 : Float) < fromFixed 0 candleFixedScale := by
  decide

namespace CandleV1

/-! ## Validation -/

/-- The venue, instrument, timeframe and window start of a candle are acceptable. -/
structure Identified (c : CandleV1) : Prop where
  venue : trimSpace c.venue ≠ ""
  instrument : trimSpace c.instrument ≠ ""
  timeframe : c.timeframe ∈ allowedCandleTimeframes
  windowStartTs : 0 ≤ c.windowStartTs

theorem validateIdentity_eq_none_iff :
    c.validateIdentity = none ↔
      c.Identified ∧ 0 ≤ c.tradeCount ∧
        (c.isClosed = true → c.windowStartTs < c.windowEndTs) ∧
        (c.isClosed = false → c.windowEndTs = 0) := by
  simp only [validateIdentity, collect_eq_none, List.mem_cons, List.not_mem_nil,
    or_false, forall_eq_or_imp, forall_eq, nonEmptyString_eq_none,
    oneOf_eq_none, nonNegativeInt_eq_none, Problem.when_eq_none,
    not_and, Int.not_le, ne_eq, Decidable.not_not]
  constructor
  · rintro ⟨h₁, h₂, h₃, h₄, h₅, h₆, h₇⟩
    exact ⟨⟨h₁, h₂, h₃, h₄⟩, h₅, h₆, h₇⟩
  · rintro ⟨⟨h₁, h₂, h₃, h₄⟩, h₅, h₆, h₇⟩
    exact ⟨h₁, h₂, h₃, h₄, h₅, h₆, h₇⟩

theorem validateFixed_eq_none_iff :
    c.validateFixed = none ↔
      (0 < c.seqFirst ∧ c.seqFirst ≤ c.seqLast) ∧
      (0 < c.openFixed ∧ 0 < c.highFixed ∧ 0 < c.lowFixed ∧ 0 < c.closeFixed) ∧
      c.lowFixed ≤ c.highFixed ∧
      (c.openFixed ≤ c.highFixed ∧ c.closeFixed ≤ c.highFixed) ∧
      (c.lowFixed ≤ c.openFixed ∧ c.lowFixed ≤ c.closeFixed) ∧
      (0 ≤ c.volumeFixed ∧ 0 ≤ c.buyVolumeFixed ∧ 0 ≤ c.sellVolumeFixed) ∧
      c.volumeFixed = wrap64 (c.buyVolumeFixed + c.sellVolumeFixed) := by
  simp only [validateFixed, collect_eq_none, List.mem_cons, List.not_mem_nil,
    or_false, forall_eq_or_imp, forall_eq, Problem.when_eq_none, not_or, Int.not_le, Int.not_lt,
    ne_eq, Decidable.not_not]

/-- The fixed-point volumes and the trade count are values of type `int64`. -/
structure InRange (c : CandleV1) : Prop where
  volume : InInt64 c.volumeFixed
  buyVolume : InInt64 c.buyVolumeFixed
  sellVolume : InInt64 c.sellVolumeFixed
  tradeCount : InInt64 c.tradeCount

/-- The checks on the fixed-point fields say that the bar is sound; the volume cannot wrap. -/
theorem validateFixed_eq_none_iff_sound
    (hrange : c.InRange) (hcount : 0 < c.tradeCount) : c.validateFixed = none ↔ c.bar.Sound := by
  obtain ⟨hv, hb, hs, hn⟩ := hrange
  unfold InInt64 at hv hb hs
  rw [validateFixed_eq_none_iff]
  constructor
  · rintro ⟨⟨h₁, h₂⟩, ⟨h₃, h₄, h₅, h₆⟩, h₇, ⟨h₈, h₉⟩, ⟨h₁₀, h₁₁⟩, ⟨h₁₂, h₁₃, h₁₄⟩, h₁₅⟩
    have hsum : c.volumeFixed = c.buyVolumeFixed + c.sellVolumeFixed := by
      unfold wrap64 at h₁₅
      omega
    exact ⟨h₁, h₂, h₅, h₁₀, h₁₁, h₈, h₉, h₁₃, h₁₄, hsum, hcount⟩
  · rintro ⟨h₁, h₂, h₃, h₄, h₅, h₆, h₇, h₈, h₉, h₁₀, -⟩
    simp only [bar] at h₁ h₂ h₃ h₄ h₅ h₆ h₇ h₈ h₉ h₁₀
    have hwrap : wrap64 (c.buyVolumeFixed + c.sellVolumeFixed) = c.volumeFixed := by
      rw [← h₁₀]
      exact wrap64_eq_self hv
    refine ⟨⟨h₁, h₂⟩, ⟨?_, ?_, h₃, ?_⟩, ?_, ⟨h₆, h₇⟩, ⟨h₄, h₅⟩, ⟨?_, h₈, h₉⟩, hwrap.symm⟩ <;> omega

theorem hydrateField_of_not_missing
    (h : missing c = false) : hydrateField missing convert store c = (c, .ok ⟨⟩) := by
  simp [hydrateField, h]

/-- A conversion that yields the stored value changes nothing. -/
theorem hydrateField_of_convert
    {v : Int} (hmissing : missing c = true) (hconvert : convert c = .ok v)
    (hstore : store c v = c) : hydrateField missing convert store c = (c, .ok ⟨⟩) := by
  simp [hydrateField, hmissing, hconvert, hstore, bind, Prog.lift]

/-- A field that was present keeps its value `old`; a missing one is converted. -/
theorem hydrateField_eq_ok
    (old : Int) (hold : store c old = c) (h : hydrateField missing convert store c = (c', .ok u)) :
    ∃ v, c' = store c v ∧
      (missing c = false ∧ v = old ∨ missing c = true ∧ convert c = .ok v) := by
  unfold hydrateField at h
  rw [get_bind_apply] at h
  split_ifs at h with hmissing
  · obtain ⟨v, hv, hstore⟩ := lift_bind_eq_ok_iff.mp h
    simp only [modify_apply, Prod.mk.injEq] at hstore
    exact ⟨v, hstore.1.symm, .inr ⟨hmissing, hv⟩⟩
  · simp only [pure_apply, Prod.mk.injEq] at h
    exact ⟨old, by rw [hold, h.1], .inl ⟨by simpa using hmissing, rfl⟩⟩

/-- Every fixed-point field is present, or its float converts to zero. -/
structure Hydrated (c : CandleV1) : Prop where
  openFixed : c.openFixed ≠ 0
  highFixed : c.highFixed ≠ 0
  lowFixed : c.lowFixed ≠ 0
  closeFixed : c.closeFixed ≠ 0
  volume : c.volumeFixed = 0 →
    toNonNegativeFixed "volume" c.volume candleFixedScale = .ok 0
  buyVolume : c.buyVolumeFixed = 0 → 0 < c.buyVolume →
    toNonNegativeFixed "buy_volume" c.buyVolume candleFixedScale = .ok 0
  sellVolume : c.sellVolumeFixed = 0 → 0 < c.sellVolume →
    toNonNegativeFixed "sell_volume" c.sellVolume candleFixedScale = .ok 0

/-- A hydrated candle is not changed by hydration. -/
theorem Hydrated.hydrate (h : c.Hydrated) : hydrateFixedFromFields c = (c, .ok ⟨⟩) := by
  have hvolume : hydrateField (fun c => c.volumeFixed == 0)
      (fun c => toNonNegativeFixed "volume" c.volume candleFixedScale)
      (fun c v => { c with volumeFixed := v }) c = (c, .ok ⟨⟩) := by
    by_cases hzero : c.volumeFixed = 0
    · exact hydrateField_of_convert (by simp [hzero]) (h.volume hzero) (by rw [← hzero])
    · exact hydrateField_of_not_missing (by simp [hzero])
  have hbuy : hydrateField (fun c => c.buyVolumeFixed == 0 && decide (0 < c.buyVolume))
      (fun c => toNonNegativeFixed "buy_volume" c.buyVolume candleFixedScale)
      (fun c v => { c with buyVolumeFixed := v }) c = (c, .ok ⟨⟩) := by
    by_cases hzero : c.buyVolumeFixed = 0 ∧ 0 < c.buyVolume
    · exact hydrateField_of_convert (by simp [hzero]) (h.buyVolume hzero.1 hzero.2)
        (by rw [← hzero.1])
    · exact hydrateField_of_not_missing (by simpa using hzero)
  have hsell : hydrateField (fun c => c.sellVolumeFixed == 0 && decide (0 < c.sellVolume))
      (fun c => toNonNegativeFixed "sell_volume" c.sellVolume candleFixedScale)
      (fun c v => { c with sellVolumeFixed := v }) c = (c, .ok ⟨⟩) := by
    by_cases hzero : c.sellVolumeFixed = 0 ∧ 0 < c.sellVolume
    · exact hydrateField_of_convert (by simp [hzero]) (h.sellVolume hzero.1 hzero.2)
        (by rw [← hzero.1])
    · exact hydrateField_of_not_missing (by simpa using hzero)
  unfold hydrateFixedFromFields
  rw [get_bind_apply]
  split_ifs
  · rfl
  · rw [bind_apply_ok (hydrateField_of_not_missing (by simp [h.openFixed])),
      bind_apply_ok (hydrateField_of_not_missing (by simp [h.highFixed])),
      bind_apply_ok (hydrateField_of_not_missing (by simp [h.lowFixed])),
      bind_apply_ok (hydrateField_of_not_missing (by simp [h.closeFixed])),
      bind_apply_ok hvolume, bind_apply_ok hbuy, hsell]

/-- A converted positive field is present. -/
theorem ne_zero_of_hydrateField {old v : Int} {x : Float}
    (h : (old == 0) = false ∧ v = old ∨
      (old == 0) = true ∧ toPositiveFixed field x candleFixedScale = .ok v) : v ≠ 0 := by
  rcases h with ⟨hold, rfl⟩ | ⟨-, hconv⟩
  · simpa using hold
  · have := toPositiveFixed_range hconv
    omega

/-- Hydration of a candle with trades yields a hydrated candle with the same other fields. -/
theorem hydrate_eq_ok (hcount : 0 < c.tradeCount) (h : hydrateFixedFromFields c = (c', .ok u)) :
    c'.Hydrated ∧ ∃ o hi lo cl v b s,
      c' = { c with
        openFixed := o, highFixed := hi, lowFixed := lo, closeFixed := cl
        volumeFixed := v, buyVolumeFixed := b, sellVolumeFixed := s } ∧
      (InInt64 c.volumeFixed → InInt64 v) ∧ (InInt64 c.buyVolumeFixed → InInt64 b) ∧
      (InInt64 c.sellVolumeFixed → InInt64 s) := by
  have hrange : ∀ {field x old w} {missing : Bool},
      (missing = false ∧ w = old ∨
        missing = true ∧ toNonNegativeFixed field x candleFixedScale = .ok w) →
      InInt64 old → InInt64 w := by
    rintro field x old w missing (⟨-, rfl⟩ | ⟨-, hconv⟩) hin
    · exact hin
    · have := toNonNegativeFixed_range hconv
      exact ⟨by omega, by omega⟩
  unfold hydrateFixedFromFields at h
  rw [get_bind_apply, if_neg (by omega)] at h
  obtain ⟨c₁, _, h₁, h⟩ := bind_eq_ok_iff.mp h
  obtain ⟨o, rfl, ho⟩ := hydrateField_eq_ok c.openFixed rfl h₁
  obtain ⟨c₂, _, h₂, h⟩ := bind_eq_ok_iff.mp h
  obtain ⟨hi, rfl, hhi⟩ := hydrateField_eq_ok c.highFixed rfl h₂
  obtain ⟨c₃, _, h₃, h⟩ := bind_eq_ok_iff.mp h
  obtain ⟨lo, rfl, hlo⟩ := hydrateField_eq_ok c.lowFixed rfl h₃
  obtain ⟨c₄, _, h₄, h⟩ := bind_eq_ok_iff.mp h
  obtain ⟨cl, rfl, hcl⟩ := hydrateField_eq_ok c.closeFixed rfl h₄
  obtain ⟨c₅, _, h₅, h⟩ := bind_eq_ok_iff.mp h
  obtain ⟨v, rfl, hv⟩ := hydrateField_eq_ok c.volumeFixed rfl h₅
  obtain ⟨c₆, _, h₆, h⟩ := bind_eq_ok_iff.mp h
  obtain ⟨b, rfl, hb⟩ := hydrateField_eq_ok c.buyVolumeFixed rfl h₆
  obtain ⟨s, rfl, hs⟩ := hydrateField_eq_ok c.sellVolumeFixed rfl h
  refine ⟨?_, o, hi, lo, cl, v, b, s, rfl, hrange hv, hrange hb, hrange hs⟩
  refine
    { openFixed := ne_zero_of_hydrateField ho
      highFixed := ne_zero_of_hydrateField hhi
      lowFixed := ne_zero_of_hydrateField hlo
      closeFixed := ne_zero_of_hydrateField hcl
      volume := ?_
      buyVolume := ?_
      sellVolume := ?_ }
  · rintro rfl
    rcases hv with ⟨hpresent, hzero⟩ | ⟨-, hconv⟩
    · simp [← hzero] at hpresent
    · exact hconv
  · rintro rfl hpos
    rcases hb with ⟨hpresent, hzero⟩ | ⟨-, hconv⟩
    · simp [← hzero, hpos] at hpresent
    · exact hconv
  · rintro rfl hpos
    rcases hs with ⟨hpresent, hzero⟩ | ⟨-, hconv⟩
    · simp [← hzero, hpos] at hpresent
    · exact hconv

/-- The floats are the conversions of the fixed-point fields. -/
def Synced (c : CandleV1) : Prop := c.syncFromFixed = c

theorem synced_withBar (c : CandleV1) (b : Bar) : (c.withBar b).Synced := by
  rfl

theorem Synced.hydrated (hsync : c.Synced) (hopen : c.openFixed ≠ 0) (hhigh : c.highFixed ≠ 0)
    (hlow : c.lowFixed ≠ 0) (hclose : c.closeFixed ≠ 0) : c.Hydrated := by
  have hvolume : c.volume = fromFixed c.volumeFixed candleFixedScale :=
    (congrArg CandleV1.volume hsync).symm
  have hbuy : c.buyVolume = fromFixed c.buyVolumeFixed candleFixedScale :=
    (congrArg CandleV1.buyVolume hsync).symm
  have hsell : c.sellVolume = fromFixed c.sellVolumeFixed candleFixedScale :=
    (congrArg CandleV1.sellVolume hsync).symm
  refine ⟨hopen, hhigh, hlow, hclose, ?_, ?_, ?_⟩
  · intro hzero
    rw [hvolume, hzero]
    exact toNonNegativeFixed_fromFixed_zero "volume"
  · intro hzero hpos
    rw [hbuy, hzero] at hpos
    exact absurd hpos not_pos_fromFixed_zero
  · intro hzero hpos
    rw [hsell, hzero] at hpos
    exact absurd hpos not_pos_fromFixed_zero

/-- `Validate` of a hydrated candle changes nothing and performs the checks. -/
theorem Hydrated.validate_eq_ok_iff (h : c.Hydrated) (hcount : c.tradeCount ≠ 0) :
    validate c = (c', .ok u) ↔
      c = c' ∧ c.validateIdentity = none ∧ c.validateFixed = none := by
  simp only [validate, get_bind_apply, check_bind_eq_ok_iff, if_neg hcount]
  rw [bind_apply_ok h.hydrate]
  simp only [get_bind_apply, check_eq_ok_iff]
  constructor
  · rintro ⟨hidentity, hfixed, heq⟩
    exact ⟨heq, hidentity, hfixed⟩
  · rintro ⟨heq, hidentity, hfixed⟩
    exact ⟨hidentity, hfixed, heq⟩

/-- What a successful `Validate` of a candle with trades leaves. -/
theorem validate_eq_ok (hcount : 0 < c.tradeCount) (h : validate c = (c', .ok u)) :
    c'.Hydrated ∧ c.validateIdentity = none ∧ c'.validateFixed = none ∧
      (∃ o hi lo cl v b s,
        c' = { c with
          openFixed := o, highFixed := hi, lowFixed := lo, closeFixed := cl
          volumeFixed := v, buyVolumeFixed := b, sellVolumeFixed := s }) ∧
      (c.InRange → c'.InRange) := by
  simp only [validate, get_bind_apply, check_bind_eq_ok_iff,
    if_neg (show c.tradeCount ≠ 0 by omega)] at h
  obtain ⟨hidentity, h⟩ := h
  obtain ⟨c₁, _, hhydrate, h⟩ := bind_eq_ok_iff.mp h
  simp only [get_bind_apply, check_eq_ok_iff] at h
  obtain ⟨hfixed, rfl⟩ := h
  obtain ⟨hhydrated, o, hi, lo, cl, v, b, s, rfl, hv, hb, hs⟩ := hydrate_eq_ok hcount hhydrate
  exact ⟨hhydrated, hidentity, hfixed, ⟨o, hi, lo, cl, v, b, s, rfl⟩,
    fun hrange => ⟨hv hrange.volume, hb hrange.buyVolume, hs hrange.sellVolume, hrange.tradeCount⟩⟩

/-! ## Appending a bar -/

/-- A candle before `Close`. -/
structure Open (c : CandleV1) : Prop extends Identified c where
  isClosed : c.isClosed = false
  windowEndTs : c.windowEndTs = 0

/-- A candle without trades. -/
structure Fresh (c : CandleV1) : Prop where
  tradeCount : c.tradeCount = 0
  seqLast : c.seqLast = 0
  volume : c.volumeFixed = 0
  buyVolume : c.buyVolumeFixed = 0
  sellVolume : c.sellVolumeFixed = 0

theorem Fresh.inRange (h : c.Fresh) : c.InRange := by
  have hzero : InInt64 0 := by decide
  exact ⟨h.volume ▸ hzero, h.buyVolume ▸ hzero, h.sellVolume ▸ hzero, h.tradeCount ▸ hzero⟩

/-- A candle to which trades or candles have been applied successfully. -/
structure Filled (c : CandleV1) : Prop where
  synced : c.Synced
  sound : c.bar.Sound
  fits : c.bar.Fits

/-- The candles that the operations build up: open, and fresh or filled. -/
structure Accumulating (c : CandleV1) : Prop where
  isOpen : c.Open
  content : c.Fresh ∨ c.Filled

/-- A bar of the candle's window: it is sound and does not precede the content. -/
structure Appends (c : CandleV1) (b : Bar) : Prop where
  sound : b.Sound
  seq_le : c.seqLast ≤ b.seqFirst

theorem Filled.tradeCount_ne_zero (h : c.Filled) : c.tradeCount ≠ 0 := by
  have hpos : 0 < c.tradeCount := h.sound.tradeCount_pos
  omega

theorem Accumulating.sound_nextBar
    (hc : c.Accumulating) (hb : c.Appends b) : (c.nextBar b).Sound := by
  unfold nextBar
  rcases hc.content with hfresh | hfilled
  · rw [if_pos hfresh.tradeCount]
    exact hb.sound
  · rw [if_neg hfilled.tradeCount_ne_zero]
    exact hfilled.sound.mul hb.sound hb.seq_le

/-- The fields of a bar after reduction to `int64`. -/
def wrapBar (b : Bar) : Bar :=
  { b with
    volume := wrap64 b.volume
    buyVolume := wrap64 b.buyVolume
    sellVolume := wrap64 b.sellVolume
    tradeCount := wrap64 b.tradeCount }

theorem wrapBar_eq_self (hsound : b.Sound) (hfits : b.Fits) : wrapBar b = b := by
  have hv := hsound.volume_nonneg
  have hb := hsound.buyVolume_nonneg
  have hs := hsound.sellVolume_nonneg
  have hn := hsound.tradeCount_pos
  have hsum := hsound.volume_eq
  obtain ⟨hvolume, hcount⟩ := hfits
  unfold wrapBar
  rw [wrap64_eq_self (x := b.volume) ⟨by omega, by omega⟩,
    wrap64_eq_self (x := b.buyVolume) ⟨by omega, by omega⟩,
    wrap64_eq_self (x := b.sellVolume) ⟨by omega, by omega⟩,
    wrap64_eq_self (x := b.tradeCount) ⟨by omega, by omega⟩]

theorem inRange_withBar_wrapBar (c : CandleV1) (b : Bar) : (c.withBar (wrapBar b)).InRange :=
  ⟨inInt64_wrap64 _, inInt64_wrap64 _, inInt64_wrap64 _, inInt64_wrap64 _⟩

/-- The fixed-point fields that a sound bar has set are present, and the candle has trades. -/
theorem hydrated_withBar_wrapBar
    (c : CandleV1) (hsound : b.Sound) (hcount : b.tradeCount < 2 ^ 64) :
    (c.withBar (wrapBar b)).Hydrated ∧ (c.withBar (wrapBar b)).tradeCount ≠ 0 := by
  have hlow := hsound.low_pos
  have hlo := hsound.low_le_opening
  have hlc := hsound.low_le_closing
  have hoh := hsound.opening_le_high
  have hn := hsound.tradeCount_pos
  constructor
  · exact (synced_withBar c (wrapBar b)).hydrated (show b.opening ≠ 0 by omega)
      (show b.high ≠ 0 by omega) (show b.low ≠ 0 by omega) (show b.closing ≠ 0 by omega)
  · change wrap64 b.tradeCount ≠ 0
    unfold wrap64
    omega

/--
The final `Validate` of both operations: it fails exactly when a sum has left the
range of `int64`, because a sum of two values of that range wraps to a negative
one.
-/
theorem validate_withBar_wrapBar_eq_ok_iff
    (hc : c.Open) (hsound : b.Sound) (hvolume : b.volume < 2 ^ 64)
    (hcount : b.tradeCount < 2 ^ 64) :
    validate (c.withBar (wrapBar b)) = (c', .ok u) ↔ b.Fits ∧ c' = c.withBar b := by
  have hn := hsound.tradeCount_pos
  have hv := hsound.volume_nonneg
  obtain ⟨hhydrated, hne⟩ := hydrated_withBar_wrapBar c hsound hcount
  rw [hhydrated.validate_eq_ok_iff hne]
  constructor
  · rintro ⟨rfl, hidentity, hfixed⟩
    have hcount' : 0 ≤ wrap64 b.tradeCount := (validateIdentity_eq_none_iff.mp hidentity).2.1
    have hvolume' : 0 ≤ wrap64 b.volume := (validateFixed_eq_none_iff.mp hfixed).2.2.2.2.2.1.1
    have hfits : b.Fits := by
      unfold wrap64 at hcount' hvolume'
      exact ⟨by omega, by omega⟩
    exact ⟨hfits, by rw [wrapBar_eq_self hsound hfits]⟩
  · rintro ⟨hfits, rfl⟩
    have hrange := inRange_withBar_wrapBar c b
    rw [wrapBar_eq_self hsound hfits] at hrange ⊢
    refine ⟨rfl, validateIdentity_eq_none_iff.mpr ⟨⟨hc.venue, hc.instrument, hc.timeframe,
      hc.windowStartTs⟩, Int.le_of_lt hn, ?_, fun _ => hc.windowEndTs⟩,
      (validateFixed_eq_none_iff_sound hrange hn).mpr hsound⟩
    intro hclosed
    have hopen : (c.withBar b).isClosed = false := hc.isClosed
    rw [hopen] at hclosed
    cases hclosed

theorem absorbPrices_of_ne_zero
    (hc : c.tradeCount ≠ 0) (openFixed highFixed lowFixed closeFixed seqFirst : Int) :
    c.absorbPrices openFixed highFixed lowFixed closeFixed seqFirst =
      { c with
        highFixed := max c.highFixed highFixed
        lowFixed := min c.lowFixed lowFixed
        closeFixed := closeFixed } := by
  have hmax : (if c.highFixed < highFixed then highFixed else c.highFixed) =
      max c.highFixed highFixed := by
    split_ifs <;> omega
  have hmin : (if lowFixed < c.lowFixed then lowFixed else c.lowFixed) =
      min c.lowFixed lowFixed := by
    split_ifs <;> omega
  simp only [absorbPrices, if_neg hc, hmax, hmin]

theorem recordTrade_eq (hc : c.Fresh ∨ c.Filled) (price qty : Int) (isBuy : Bool) (seq : Int) :
    c.recordTrade price qty isBuy seq =
      c.withBar (wrapBar (c.nextBar (.ofTrade price qty isBuy seq))) := by
  rcases hc with hfresh | hfilled
  · have hzero : wrap64 0 = 0 := by decide
    cases isBuy <;>
      simp [recordTrade, absorbPrices, nextBar, hfresh.tradeCount, hfresh.volume,
        hfresh.buyVolume, hfresh.sellVolume, withBar, wrapBar, Bar.ofTrade, syncFromFixed, hzero]
  · have hbuy := hfilled.sound.buyVolume_nonneg
    have hsell := hfilled.sound.sellVolume_nonneg
    have hsum := hfilled.sound.volume_eq
    have hlt := hfilled.fits.volume_lt
    simp only [bar] at hbuy hsell hsum hlt
    have hbuy' : wrap64 c.buyVolumeFixed = c.buyVolumeFixed := wrap64_eq_self ⟨by omega, by omega⟩
    have hsell' : wrap64 c.sellVolumeFixed = c.sellVolumeFixed :=
      wrap64_eq_self ⟨by omega, by omega⟩
    cases isBuy <;>
      simp [recordTrade, absorbPrices_of_ne_zero, nextBar, hfilled.tradeCount_ne_zero, withBar,
        wrapBar, Bar.ofTrade, syncFromFixed, bar, hbuy', hsell']

theorem recordChild_eq (hc : c.Fresh ∨ c.Filled) (child : CandleV1) :
    c.recordChild child = c.withBar (wrapBar (c.nextBar child.bar)) := by
  rcases hc with hfresh | hfilled
  · simp [recordChild, absorbPrices, nextBar, hfresh.tradeCount, hfresh.volume,
      hfresh.buyVolume, hfresh.sellVolume, withBar, wrapBar, syncFromFixed, bar]
  · simp [recordChild, absorbPrices_of_ne_zero, nextBar, hfilled.tradeCount_ne_zero, withBar,
      wrapBar, syncFromFixed, bar]

/-- A sum of two representable bars is below the wrap-around of the sum. -/
theorem nextBar_lt
    (hc : c.Fresh ∨ c.Filled) (hvolume : b.volume < 2 ^ 63) (hcount : b.tradeCount < 2 ^ 63) :
    (c.nextBar b).volume < 2 ^ 64 ∧ (c.nextBar b).tradeCount < 2 ^ 64 := by
  unfold nextBar
  rcases hc with hfresh | hfilled
  · rw [if_pos hfresh.tradeCount]
    omega
  · have hv := hfilled.fits.volume_lt
    have hn := hfilled.fits.tradeCount_lt
    rw [if_neg hfilled.tradeCount_ne_zero, Bar.volume_mul, Bar.tradeCount_mul]
    omega

/-- Appending a bar keeps a candle that is being built. -/
theorem Accumulating.absorb (hc : c.Accumulating) (hb : c.Appends b) (hfits : (c.nextBar b).Fits) :
    (c.absorb b).Accumulating ∧ (c.absorb b).Filled := by
  have hfilled : (c.absorb b).Filled := ⟨synced_withBar c _, hc.sound_nextBar hb, hfits⟩
  have hopen := hc.isOpen
  exact ⟨⟨⟨⟨hopen.venue, hopen.instrument, hopen.timeframe, hopen.windowStartTs⟩,
    hopen.isClosed, hopen.windowEndTs⟩, .inr hfilled⟩, hfilled⟩

/-! ## Closed candles -/

/-- A closed candle with trades that passes `Validate`. -/
structure Complete (c : CandleV1) : Prop where
  isClosed : c.isClosed = true
  tradeCount_pos : 0 < c.tradeCount
  valid : (validate c).2 = .ok ⟨⟩

/-- The bar of a closed candle, after hydration. -/
def settledBar (c : CandleV1) : Bar := (validate c).1.bar

theorem Complete.exists_validate
    (h : c.Complete) : ∃ c', validate c = (c', .ok ⟨⟩) ∧ c.settledBar = c'.bar := by
  have hvalid := h.valid
  unfold settledBar
  generalize validate c = o at hvalid
  obtain ⟨c', r⟩ := o
  exact ⟨c', by rw [← hvalid], rfl⟩

theorem Complete.identified (h : c.Complete) : c.Identified := by
  obtain ⟨c', hvalid, -⟩ := h.exists_validate
  exact (validateIdentity_eq_none_iff.mp (validate_eq_ok h.tradeCount_pos hvalid).2.1).1

theorem Complete.settledBar_sound
    (h : c.Complete) (hrange : c.InRange) : c.settledBar.Sound ∧ c.settledBar.Fits := by
  obtain ⟨c', hvalid, hbar⟩ := h.exists_validate
  obtain ⟨-, -, hfixed, ⟨o, hi, lo, cl, v, b, s, heq⟩, hrange'⟩ :=
    validate_eq_ok h.tradeCount_pos hvalid
  have hin := hrange' hrange
  have hcount : 0 < c'.tradeCount := by
    rw [heq]
    exact h.tradeCount_pos
  rw [hbar]
  exact ⟨(validateFixed_eq_none_iff_sound hin hcount).mp hfixed, hin.volume.2, hin.tradeCount.2⟩

/-- The fields that `Close` sets. -/
def closedAt (c : CandleV1) (windowEndTs : Int) : CandleV1 :=
  { c with windowEndTs := windowEndTs, isClosed := true }

/-- `Close` performs its checks and validates the closed candle. -/
theorem close_eq_ok_iff_validate :
    close e c = (c', .ok u) ↔
      c.isClosed = false ∧ 0 < c.tradeCount ∧ c.windowStartTs < e ∧
        validate (c.closedAt e) = (c', .ok u) := by
  simp only [close, get_bind_apply, check_bind_eq_ok_iff, modify_bind_apply,
    Problem.when_eq_none, Int.not_le, Bool.not_eq_true]
  exact Iff.rfl

theorem Filled.inRange (h : c.Filled) : c.InRange := by
  have hv := h.sound.volume_nonneg
  have hvlt := h.fits.volume_lt
  have hsum := h.sound.volume_eq
  have hbuy := h.sound.buyVolume_nonneg
  have hsell := h.sound.sellVolume_nonneg
  have hn := h.sound.tradeCount_pos
  have hnlt := h.fits.tradeCount_lt
  simp only [bar] at hv hvlt hsum hbuy hsell hn hnlt
  refine ⟨⟨?_, ?_⟩, ⟨?_, ?_⟩, ⟨?_, ?_⟩, ⟨?_, ?_⟩⟩ <;> omega

/-- A filled candle closed after its start passes `Validate` unchanged. -/
theorem Filled.validate_closedAt (hopen : c.Open) (hfilled : c.Filled) (he : c.windowStartTs < e) :
    validate (c.closedAt e) = (c.closedAt e, .ok ⟨⟩) := by
  have hlow := hfilled.sound.low_pos
  have hlo := hfilled.sound.low_le_opening
  have hlc := hfilled.sound.low_le_closing
  have hoh := hfilled.sound.opening_le_high
  have hn := hfilled.sound.tradeCount_pos
  simp only [bar] at hlow hlo hlc hoh hn
  have hsync : (c.closedAt e).Synced := by
    have h := hfilled.synced
    unfold Synced at h ⊢
    unfold CandleV1.closedAt
    conv_rhs => rw [← h]
    rfl
  have hhydrated : (c.closedAt e).Hydrated :=
    hsync.hydrated (show c.openFixed ≠ 0 by omega) (show c.highFixed ≠ 0 by omega)
      (show c.lowFixed ≠ 0 by omega) (show c.closeFixed ≠ 0 by omega)
  have hrange : (c.closedAt e).InRange :=
    ⟨hfilled.inRange.volume, hfilled.inRange.buyVolume, hfilled.inRange.sellVolume,
      hfilled.inRange.tradeCount⟩
  rw [hhydrated.validate_eq_ok_iff (show c.tradeCount ≠ 0 by omega)]
  refine ⟨rfl, validateIdentity_eq_none_iff.mpr ⟨⟨hopen.venue, hopen.instrument, hopen.timeframe,
    hopen.windowStartTs⟩, show 0 ≤ c.tradeCount by omega, fun _ => he, ?_⟩,
    (validateFixed_eq_none_iff_sound hrange hn).mpr hfilled.sound⟩
  intro hfalse
  cases hfalse

/-- `Close` of a candle that is being built. -/
theorem close_eq_ok_iff (hc : c.Accumulating) :
    close e c = (c', .ok u) ↔
      c.Filled ∧ c.windowStartTs < e ∧ c' = c.closedAt e := by
  rw [close_eq_ok_iff_validate]
  constructor
  · rintro ⟨-, hcount, he, hvalid⟩
    have hfilled : c.Filled := by
      refine hc.content.resolve_left fun hfresh => ?_
      have := hfresh.tradeCount
      omega
    rw [hfilled.validate_closedAt hc.isOpen he] at hvalid
    exact ⟨hfilled, he, (Prod.mk.inj hvalid).1.symm⟩
  · rintro ⟨hfilled, he, rfl⟩
    exact ⟨hc.isOpen.isClosed, hfilled.sound.tradeCount_pos, he,
      hfilled.validate_closedAt hc.isOpen he⟩

theorem Filled.complete_closedAt (hopen : c.Open) (hfilled : c.Filled) (he : c.windowStartTs < e) :
    (c.closedAt e).Complete ∧ (c.closedAt e).settledBar = c.bar := by
  have hvalid := hfilled.validate_closedAt hopen he
  refine ⟨⟨rfl, hfilled.sound.tradeCount_pos, by rw [hvalid]⟩, ?_⟩
  unfold settledBar
  rw [hvalid]
  rfl

/-! ## New candles -/

theorem create_eq_ok_iff {venue instrument : String} {windowStart : Int} :
    create venue instrument timeframe windowStart = .ok c ↔
      (trimSpace venue ≠ "" ∧ trimSpace instrument ≠ "" ∧
        timeframe ∈ allowedCandleTimeframes ∧ 0 ≤ windowStart) ∧
      c = { venue := trimSpace venue
            instrument := trimSpace instrument
            timeframe := trimSpace timeframe
            windowStartTs := windowStart } := by
  have hchecks : collect
      [nonEmptyString "venue" venue,
        nonEmptyString "instrument" instrument,
        oneOf "timeframe" timeframe allowedCandleTimeframes,
        nonNegativeInt "window_start_ts" windowStart] = none ↔
      trimSpace venue ≠ "" ∧ trimSpace instrument ≠ "" ∧
        timeframe ∈ allowedCandleTimeframes ∧ 0 ≤ windowStart := by
    simp [collect_eq_none]
  unfold create
  split
  · rename_i p hp
    rw [← hchecks, hp]
    simp
  · rename_i hp
    rw [← hchecks, hp]
    simp [eq_comm]

theorem trimSpace_of_mem_allowed
    (h : timeframe ∈ allowedCandleTimeframes) : trimSpace timeframe = timeframe := by
  simp only [allowedCandleTimeframes, List.mem_cons, List.not_mem_nil, or_false] at h
  rcases h with rfl | rfl | rfl | rfl | rfl | rfl | rfl | rfl | rfl <;> decide

/-- A created candle is fresh and can be built up. -/
theorem create_fresh {venue instrument : String} {windowStart : Int}
    (h : create venue instrument timeframe windowStart = .ok c) : c.Accumulating ∧ c.Fresh := by
  obtain ⟨⟨hvenue, hinstrument, htimeframe, hstart⟩, rfl⟩ := create_eq_ok_iff.mp h
  have hfresh : Fresh
      { venue := trimSpace venue
        instrument := trimSpace instrument
        timeframe := trimSpace timeframe
        windowStartTs := windowStart } := ⟨rfl, rfl, rfl, rfl, rfl⟩
  refine ⟨⟨⟨⟨?_, ?_, ?_, hstart⟩, rfl, rfl⟩, .inl hfresh⟩, hfresh⟩
  · rw [trimSpace_trimSpace]
    exact hvenue
  · rw [trimSpace_trimSpace]
    exact hinstrument
  · rw [trimSpace_of_mem_allowed htimeframe]
    exact htimeframe

end CandleV1
end Aggregation
end StreamAnalytics
