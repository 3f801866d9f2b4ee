import StreamAnalytics.Aggregation.CandleSpec

/-!
# What the candle methods keep

The methods of a candle never change its key and its window start, and they keep
its volumes and its trade count within `int64`, whether they succeed or not.
After a successful update a candle can be closed.
-/

namespace StreamAnalytics
namespace Aggregation

open GoInt Prog

namespace CandleV1

/-! ## Key and window -/

/-- A method that changes neither the key nor the window start of a candle. -/
def KeepsWindow (x : Prog Problem CandleV1 PUnit) : Prop :=
  ∀ c, (x c).1.key = c.key ∧ (x c).1.windowStartTs = c.windowStartTs

variable {I : CandleV1 → Prop}

theorem preserves_hydrateField {missing : CandleV1 → Bool} {convert : CandleV1 → Except Problem Int}
    {store : CandleV1 → Int → CandleV1}
    (hstore : ∀ c c' v, convert c' = .ok v → I c → I (store c v)) :
    Preserves I (hydrateField missing convert store) := by
  refine ⟨fun c hc => ?_⟩
  unfold hydrateField
  rw [get_bind_apply]
  split_ifs
  · cases hconvert : convert c with
    | error p => exact .error hc
    | ok v => exact .ok (hstore c c v hconvert hc)
  · exact .ok hc

/-- Hydration keeps every property that survives an assignment to a fixed-point field. -/
theorem preserves_hydrateFixedFromFields
    (hprices : ∀ c v, I c → I { c with openFixed := v } ∧ I { c with highFixed := v } ∧
      I { c with lowFixed := v } ∧ I { c with closeFixed := v })
    (hvolumes : ∀ c v, InInt64 v → I c → I { c with volumeFixed := v } ∧
      I { c with buyVolumeFixed := v } ∧ I { c with sellVolumeFixed := v }) :
    Preserves I hydrateFixedFromFields := by
  have hrange : ∀ {field x v}, toNonNegativeFixed field x candleFixedScale = .ok v → InInt64 v := by
    intro field x v hconvert
    have := toNonNegativeFixed_range hconvert
    exact ⟨by omega, by omega⟩
  unfold hydrateFixedFromFields
  refine Preserves.bind preserves_get fun c => ?_
  refine Preserves.ite (preserves_pure _) ?_
  refine Preserves.bind (preserves_hydrateField fun c _ v _ h => (hprices c v h).1) fun _ => ?_
  refine Preserves.bind (preserves_hydrateField fun c _ v _ h => (hprices c v h).2.1)
    fun _ => ?_
  refine Preserves.bind (preserves_hydrateField fun c _ v _ h => (hprices c v h).2.2.1)
    fun _ => ?_
  refine Preserves.bind (preserves_hydrateField fun c _ v _ h => (hprices c v h).2.2.2)
    fun _ => ?_
  refine Preserves.bind
    (preserves_hydrateField fun c _ v hv h => (hvolumes c v (hrange hv) h).1) fun _ => ?_
  refine Preserves.bind
    (preserves_hydrateField fun c _ v hv h => (hvolumes c v (hrange hv) h).2.1) fun _ => ?_
  exact preserves_hydrateField fun c _ v hv h => (hvolumes c v (hrange hv) h).2.2

theorem preserves_validate
    (hhydrate : Preserves I hydrateFixedFromFields) : Preserves I validate := by
  unfold validate
  refine Preserves.bind preserves_get fun c => ?_
  refine Preserves.bind (preserves_check _) fun _ => ?_
  refine Preserves.ite (preserves_pure _) ?_
  refine Preserves.bind hhydrate fun _ => ?_
  exact Preserves.bind preserves_get fun c => preserves_check _

theorem preserves_applyTrade
    (hvalidate : Preserves I validate) (price qty : Float) (isBuy : Bool) (seq : Int)
    (hrecord : ∀ c p q, I c → I (c.recordTrade p q isBuy seq)) :
    Preserves I (applyTrade price qty isBuy seq) := by
  unfold applyTrade
  refine Preserves.bind preserves_get fun c => ?_
  refine Preserves.bind (preserves_check _) fun _ => ?_
  refine Preserves.bind (preserves_check _) fun _ => ?_
  refine Preserves.bind (preserves_lift _) fun p => ?_
  refine Preserves.bind (preserves_lift _) fun q => ?_
  refine Preserves.bind (preserves_check _) fun _ => ?_
  exact Preserves.bind (preserves_modify fun c => hrecord c p q) fun _ => hvalidate

theorem preserves_applyClosedCandle (hvalidate : Preserves I validate) (child : CandleV1)
    (hrecord : ∀ c child', I c → I (c.recordChild child')) :
    Preserves I (applyClosedCandle child) := by
  unfold applyClosedCandle
  refine Preserves.bind preserves_get fun c => ?_
  refine Preserves.bind (preserves_check _) fun _ => ?_
  refine Preserves.bind (preserves_check _) fun _ => ?_
  refine Preserves.bind (preserves_check _) fun _ => ?_
  refine Preserves.bind (preserves_check _) fun _ => ?_
  refine Preserves.bind (preserves_check _) fun _ => ?_
  refine Preserves.bind (preserves_onCopy _ _) fun child₁ => ?_
  refine Preserves.bind (preserves_onCopy _ _) fun child₂ => ?_
  refine Preserves.bind (preserves_check _) fun _ => ?_
  exact Preserves.bind (preserves_modify fun c => hrecord c child₂) fun _ => hvalidate

theorem preserves_close (hvalidate : Preserves I validate) (windowEndTs : Int)
    (hclose : ∀ c, I c → I { c with windowEndTs := windowEndTs, isClosed := true }) :
    Preserves I (close windowEndTs) := by
  unfold close
  refine Preserves.bind preserves_get fun c => ?_
  refine Preserves.bind (preserves_check _) fun _ => ?_
  refine Preserves.bind (preserves_check _) fun _ => ?_
  refine Preserves.bind (preserves_check _) fun _ => ?_
  exact Preserves.bind (preserves_modify hclose) fun _ => hvalidate

section Window

variable {k : CandleKey} {s : Int}

theorem preserves_window_validate :
    Preserves (fun c => c.key = k ∧ c.windowStartTs = s) validate :=
  preserves_validate (preserves_hydrateFixedFromFields (fun _ _ h => ⟨h, h, h, h⟩)
    fun _ _ _ h => ⟨h, h, h⟩)

theorem window_absorbPrices (c : CandleV1) (o h l cl sf : Int) :
    (c.absorbPrices o h l cl sf).key = c.key ∧
      (c.absorbPrices o h l cl sf).windowStartTs = c.windowStartTs := by
  unfold absorbPrices
  by_cases hcount : c.tradeCount = 0
  · rw [if_pos hcount]
    exact ⟨rfl, rfl⟩
  · rw [if_neg hcount]
    exact ⟨rfl, rfl⟩

theorem window_recordTrade (c : CandleV1) (p q : Int) (isBuy : Bool) (seq : Int) :
    (c.recordTrade p q isBuy seq).key = c.key ∧
      (c.recordTrade p q isBuy seq).windowStartTs = c.windowStartTs := by
  have h := window_absorbPrices c p p p p seq
  cases isBuy
  · exact h
  · exact h

theorem keepsWindow_of_preserves {x : Prog Problem CandleV1 PUnit}
    (h : ∀ k s, Preserves (fun c => c.key = k ∧ c.windowStartTs = s) x) : KeepsWindow x :=
  fun c => (h c.key c.windowStartTs).apply ⟨rfl, rfl⟩

theorem KeepsWindow.post {x : Prog Problem CandleV1 PUnit} (h : KeepsWindow x) (c : CandleV1) :
    Post (fun _ c' => c'.key = c.key ∧ c'.windowStartTs = c.windowStartTs)
      (fun _ c' => c'.key = c.key ∧ c'.windowStartTs = c.windowStartTs) (x c) :=
  .of_state (h c)

theorem keepsWindow_applyTrade (price qty : Float) (isBuy : Bool) (seq : Int) :
    KeepsWindow (applyTrade price qty isBuy seq) := by
  refine keepsWindow_of_preserves fun k s => ?_
  refine preserves_applyTrade preserves_window_validate price qty isBuy seq ?_
  rintro c p q ⟨rfl, rfl⟩
  exact window_recordTrade c p q isBuy seq

theorem keepsWindow_applyClosedCandle
    (child : CandleV1) : KeepsWindow (applyClosedCandle child) := by
  refine keepsWindow_of_preserves fun k s => ?_
  refine preserves_applyClosedCandle preserves_window_validate child ?_
  rintro c child' ⟨rfl, rfl⟩
  exact window_absorbPrices c child'.openFixed child'.highFixed child'.lowFixed
    child'.closeFixed child'.seqFirst

theorem keepsWindow_close (windowEndTs : Int) : KeepsWindow (close windowEndTs) :=
  keepsWindow_of_preserves fun _ _ =>
    preserves_close preserves_window_validate windowEndTs fun _ h => h

end Window

/-! ## Ranges -/

theorem preserves_inRange_validate : Preserves InRange validate :=
  preserves_validate (preserves_hydrateFixedFromFields (fun _ _ h => ⟨⟨h.1, h.2, h.3, h.4⟩,
    ⟨h.1, h.2, h.3, h.4⟩, ⟨h.1, h.2, h.3, h.4⟩, ⟨h.1, h.2, h.3, h.4⟩⟩)
    fun _ _ hv h => ⟨⟨hv, h.2, h.3, h.4⟩, ⟨h.1, hv, h.3, h.4⟩, ⟨h.1, h.2, hv, h.4⟩⟩)

theorem inRange_recordTrade {c : CandleV1} (h : c.InRange) (p q : Int) (isBuy : Bool) (seq : Int) :
    (c.recordTrade p q isBuy seq).InRange := by
  have habsorb : ∀ o hi lo cl sf, (c.absorbPrices o hi lo cl sf).InRange := by
    intro o hi lo cl sf
    unfold absorbPrices
    by_cases hcount : c.tradeCount = 0
    · rw [if_pos hcount]
      exact ⟨h.1, h.2, h.3, h.4⟩
    · rw [if_neg hcount]
      exact ⟨h.1, h.2, h.3, h.4⟩
  have h' := habsorb p p p p seq
  cases isBuy
  · exact ⟨inInt64_wrap64 _, h'.buyVolume, inInt64_wrap64 _, inInt64_wrap64 _⟩
  · exact ⟨inInt64_wrap64 _, inInt64_wrap64 _, h'.sellVolume, inInt64_wrap64 _⟩

theorem preserves_inRange_applyTrade (price qty : Float) (isBuy : Bool) (seq : Int) :
    Preserves InRange (applyTrade price qty isBuy seq) :=
  preserves_applyTrade preserves_inRange_validate price qty isBuy seq fun _ p q h =>
    inRange_recordTrade h p q isBuy seq

theorem preserves_inRange_applyClosedCandle
    (child : CandleV1) : Preserves InRange (applyClosedCandle child) :=
  preserves_applyClosedCandle preserves_inRange_validate child fun _ _ _ =>
    ⟨inInt64_wrap64 _, inInt64_wrap64 _, inInt64_wrap64 _, inInt64_wrap64 _⟩

theorem preserves_inRange_close (windowEndTs : Int) : Preserves InRange (close windowEndTs) :=
  preserves_close preserves_inRange_validate windowEndTs fun _ h => ⟨h.1, h.2, h.3, h.4⟩

/-! ## Candles that can be closed -/

/-- `Close` succeeds with this window end. -/
def Closable (c : CandleV1) (windowEndTs : Int) : Prop := ∃ c', close windowEndTs c = (c', .ok ⟨⟩)

/-- A candle that has just passed `Validate` with trades can be closed. -/
theorem closable_of_validate
    {c c' : CandleV1} {u : PUnit} {e : Int} (hopen : c.isClosed = false) (hcount : 0 < c.tradeCount)
    (he : c.windowStartTs < e) (h : validate c = (c', .ok u)) : c'.Closable e := by
  obtain ⟨hhydrated, hidentity, hfixed, ⟨o, hi, lo, cl, v, b, s, heq⟩, -⟩ := validate_eq_ok hcount h
  obtain ⟨hidentified, hnonneg, -, -⟩ := validateIdentity_eq_none_iff.mp hidentity
  have hopen' : c'.isClosed = false := by rw [heq]; exact hopen
  have hcount' : 0 < c'.tradeCount := by rw [heq]; exact hcount
  have he' : c'.windowStartTs < e := by rw [heq]; exact he
  have hidentified' : c'.Identified := by
    rw [heq]
    exact ⟨hidentified.venue, hidentified.instrument, hidentified.timeframe,
      hidentified.windowStartTs⟩
  have hhydrated' : (c'.closedAt e).Hydrated :=
    ⟨hhydrated.openFixed, hhydrated.highFixed, hhydrated.lowFixed, hhydrated.closeFixed,
      hhydrated.volume, hhydrated.buyVolume, hhydrated.sellVolume⟩
  refine ⟨c'.closedAt e, close_eq_ok_iff_validate.mpr ⟨hopen', hcount', he', ?_⟩⟩
  rw [hhydrated'.validate_eq_ok_iff (show c'.tradeCount ≠ 0 by omega)]
  refine ⟨rfl, validateIdentity_eq_none_iff.mpr ⟨⟨hidentified'.venue, hidentified'.instrument,
    hidentified'.timeframe, hidentified'.windowStartTs⟩, Int.le_of_lt hcount', fun _ => he', ?_⟩,
    hfixed⟩
  intro hfalse
  cases hfalse

theorem validate_tradeCount_nonneg
    {c c' : CandleV1} {u : PUnit} (h : validate c = (c', .ok u)) : 0 ≤ c.tradeCount := by
  simp only [validate, get_bind_apply, check_bind_eq_ok_iff] at h
  exact (validateIdentity_eq_none_iff.mp h.1).2.1

/-- A method that leaves a candle that can be closed whenever it succeeds. -/
def Settles (x : Prog Problem CandleV1 PUnit) : Prop :=
  ∀ c c' u, c.InRange → 0 ≤ c.tradeCount → x c = (c', .ok u) →
    ∀ e, c'.windowStartTs < e → c'.Closable e

theorem settles_applyTrade
    (price qty : Float) (isBuy : Bool) (seq : Int) : Settles (applyTrade price qty isBuy seq) := by
  intro c c' u hrange hcount h e he
  have hwindow := (keepsWindow_applyTrade price qty isBuy seq c).2
  rw [h] at hwindow
  simp only [applyTrade, get_bind_apply, check_bind_eq_ok_iff,
    lift_bind_eq_ok_iff, modify_bind_apply, Problem.when_eq_none,
    Bool.not_eq_true] at h
  obtain ⟨hopen, -, p, -, q, -, -, hvalid⟩ := h
  have hrecord : (c.recordTrade p q isBuy seq).isClosed = false ∧
      (c.recordTrade p q isBuy seq).tradeCount = wrap64 (c.tradeCount + 1) := by
    unfold recordTrade absorbPrices
    by_cases hzero : c.tradeCount = 0
    · rw [if_pos hzero]
      cases isBuy
      · exact ⟨hopen, rfl⟩
      · exact ⟨hopen, rfl⟩
    · rw [if_neg hzero]
      cases isBuy
      · exact ⟨hopen, rfl⟩
      · exact ⟨hopen, rfl⟩
  have hnonneg := validate_tradeCount_nonneg hvalid
  have hin := hrange.tradeCount
  unfold InInt64 at hin
  refine closable_of_validate hrecord.1 ?_ ?_ hvalid
  · rw [hrecord.2] at hnonneg ⊢
    unfold wrap64 at hnonneg ⊢
    omega
  · rw [(window_recordTrade c p q isBuy seq).2, ← hwindow]
    exact he

theorem settles_applyClosedCandle
    {child : CandleV1} (hchild : child.InRange) : Settles (applyClosedCandle child) := by
  intro c c' u hrange hcount h e he
  have hwindow := (keepsWindow_applyClosedCandle child c).2
  rw [h] at hwindow
  simp only [applyClosedCandle, get_bind_apply, check_bind_eq_ok_iff,
    onCopy_bind_eq_ok_iff, modify_bind_apply, Problem.when_eq_none, Bool.not_eq_true,
    Int.not_le] at h
  obtain ⟨hopen, -, -, -, hpos, child₁, _, hvalid, child₂, _, hhydrate, -, hfinal⟩ := h
  have hcount₂ : child₂.tradeCount = child.tradeCount := by
    obtain ⟨hhydrated, -, -, ⟨o, hi, lo, cl, v, b, s, heq⟩, -⟩ := validate_eq_ok hpos hvalid
    rw [hhydrated.hydrate] at hhydrate
    rw [← (Prod.mk.inj hhydrate).1, heq]
  have hrecord : (c.recordChild child₂).isClosed = false ∧
      (c.recordChild child₂).tradeCount = wrap64 (c.tradeCount + child.tradeCount) := by
    rw [← hcount₂]
    unfold recordChild absorbPrices
    by_cases hzero : c.tradeCount = 0
    · rw [if_pos hzero]
      exact ⟨hopen, rfl⟩
    · rw [if_neg hzero]
      exact ⟨hopen, rfl⟩
  have hnonneg := validate_tradeCount_nonneg hfinal
  have hin := hrange.tradeCount
  have hin' := hchild.tradeCount
  unfold InInt64 at hin hin'
  refine closable_of_validate hrecord.1 ?_ ?_ hfinal
  · rw [hrecord.2] at hnonneg ⊢
    unfold wrap64 at hnonneg ⊢
    omega
  · have hstart : (c.recordChild child₂).windowStartTs = c.windowStartTs :=
      (window_absorbPrices c child₂.openFixed child₂.highFixed child₂.lowFixed
        child₂.closeFixed child₂.seqFirst).2
    rw [hstart, ← hwindow]
    exact he

end CandleV1

end Aggregation
end StreamAnalytics
