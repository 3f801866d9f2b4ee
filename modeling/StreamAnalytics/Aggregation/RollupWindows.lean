import StreamAnalytics.Aggregation.Rollup

/-!
# The windows of a rolled up candle

`RollupCandle` compares the bucketed starts of its source windows and the sequence
numbers of their trades.  It does not look at the ends of the windows, and sequence
numbers may be equal at a boundary, so long windows and repeated windows slip through.

A result counts every source window once and inside its own window, whatever the order
of the sources, exactly if no source window ends after the target window and the source
windows start at different times (`rollup_windows_iff`).
-/

namespace StreamAnalytics
namespace Aggregation

open GoInt CandleV1

variable {source : List CandleV1} {toInterval : String} {intervalMs : Int} {out : CandleV1}

/-- The window of a candle lies inside the window of another one. -/
def CandleV1.Within (src out : CandleV1) : Prop :=
  ∀ ts, src.windowStartTs ≤ ts ∧ ts < src.windowEndTs →
    out.windowStartTs ≤ ts ∧ ts < out.windowEndTs

theorem CandleV1.Complete.window
    {c : CandleV1} (h : c.Complete) : 0 ≤ c.windowStartTs ∧ c.windowStartTs < c.windowEndTs := by
  obtain ⟨c', hvalidate, -⟩ := h.exists_validate
  obtain ⟨-, hidentity, -⟩ := validate_eq_ok h.tradeCount_pos hvalidate
  obtain ⟨hidentified, -, hend, -⟩ := validateIdentity_eq_none_iff.mp hidentity
  exact ⟨hidentified.windowStartTs, hend h.isClosed⟩

/-- A result spans the target window of each source candle, which is complete. -/
theorem window_of_rollupCandle
    (hrange : ∀ src ∈ source, src.InRange) (hms : timeframeToMs toInterval = .ok intervalMs)
    (h : rollupCandle source toInterval = .ok out) {src : CandleV1} (hsrc : src ∈ source) :
    src.Complete ∧
      out.windowStartTs = bucketStartDomain src.windowStartTs intervalMs ∧
      out.windowEndTs = bucketStartDomain src.windowStartTs intervalMs + intervalMs := by
  obtain ⟨ms, first, rest, hms', hsort, hrollable, rfl⟩ := (rollupCandle_eq_ok_iff hrange).mp h
  obtain rfl : intervalMs = ms := by
    rw [hms] at hms'
    exact Except.ok.inj hms'
  have hmem : src ∈ first :: rest := by
    rw [← hsort]
    exact mem_sortBy.mpr hsrc
  have hsame := hrollable.sources src hmem
  obtain ⟨hpos, hlt⟩ := timeframeToMs_range hms
  have hstart := hrollable.windowStart
  have hend := hrollable.windowEnd
  have hbound : bucketStartDomain first.windowStartTs intervalMs < 2 ^ 63 := by
    refine hend.trans_le ?_
    unfold wrap64
    omega
  have hfits := (lt_wrap64_add_iff hstart hbound hpos hlt).mp hend
  refine ⟨hsame.complete, hsame.window.symm, ?_⟩
  rw [hsame.window]
  change wrap64 (bucketStartDomain first.windowStartTs intervalMs + intervalMs) = _
  unfold wrap64
  omega

/-- Source windows with different starts are folded in one order. -/
theorem rollupCandle_perm
    (hdistinct : (source.map windowStartTs).Nodup) {source' : List CandleV1}
    (hperm : source'.Perm source) :
    rollupCandle source' toInterval = rollupCandle source toInterval := by
  have hsort : sortByWindowStart source = sortByWindowStart source' := by
    refine sortBy_eq_of_perm ((perm_sortBy _ _).trans hperm) (pairwise_sortBy _ _) ?_
    exact fun a ha b hb heq => List.inj_on_of_nodup_map hdistinct ha hb heq
  unfold rollupCandle
  rw [hsort, hperm.length_eq]

/-- What is asked of a result. -/
structure CountsWindowsOnce (source : List CandleV1) (toInterval : String) (out : CandleV1) :
    Prop where
  within : ∀ src ∈ source, src.Within out
  distinct : (source.map windowStartTs).Nodup
  perm : ∀ source' : List CandleV1, source'.Perm source →
    rollupCandle source' toInterval = .ok out

/-- A result is as asked exactly if the source windows start at different times and none
of them ends after the target window. -/
theorem rollup_windows_iff
    (source : List CandleV1) (toInterval : String) (intervalMs : Int) (out : CandleV1)
    (hrange : ∀ src ∈ source, src.InRange) (hms : timeframeToMs toInterval = .ok intervalMs)
    (h : rollupCandle source toInterval = .ok out) :
    CountsWindowsOnce source toInterval out ↔
      (source.map windowStartTs).Nodup ∧
        ∀ src ∈ source,
          src.windowEndTs ≤ bucketStartDomain src.windowStartTs intervalMs + intervalMs := by
  have hpos := (timeframeToMs_range hms).1
  constructor
  · rintro ⟨hwithin, hdistinct, -⟩
    refine ⟨hdistinct, fun src hsrc => ?_⟩
    obtain ⟨hcomplete, -, hend⟩ := window_of_rollupCandle hrange hms h hsrc
    obtain ⟨-, hwindow⟩ := hcomplete.window
    -- The last instant of the source window lies inside the target window.
    have hlast := (hwithin src hsrc (src.windowEndTs - 1) (by omega)).2
    omega
  · rintro ⟨hdistinct, hends⟩
    refine ⟨fun src hsrc ts hts => ?_, hdistinct, fun source' hperm => ?_⟩
    · obtain ⟨hcomplete, hstart, hend⟩ := window_of_rollupCandle hrange hms h hsrc
      have hle := bucket_le hcomplete.window.1 hpos
      rw [← bucketStartDomain_eq_bucket hpos] at hle
      have hends' := hends src hsrc
      omega
    · rw [rollupCandle_perm hdistinct hperm, h]

theorem exists_eq_ok_of_isOk
    {ε α : Type} {x : Except ε α} (h : x.isOk = true) : ∃ a, x = .ok a := by
  cases x with
  | ok a => exact ⟨a, rfl⟩
  | error e => cases h

theorem inRange_sampleCandle (timeframe : String) (windowStart windowEnd seq : Int) :
    (sampleCandle timeframe windowStart windowEnd seq).InRange := by
  have hone : InInt64 100000000 ∧ InInt64 0 ∧ InInt64 1 := by decide
  exact ⟨hone.1, hone.1, hone.2.1, hone.2.2⟩

/-- Two candles of a second make one candle of a minute. -/
theorem rollup_windows_twoSeconds :
    ∃ out, rollupCandle [sampleCandle "1s" 0 1000 1, sampleCandle "1s" 6000 7000 2] "1m" = .ok out ∧
      CountsWindowsOnce [sampleCandle "1s" 0 1000 1, sampleCandle "1s" 6000 7000 2] "1m" out := by
  have hrange : ∀ src ∈ [sampleCandle "1s" 0 1000 1, sampleCandle "1s" 6000 7000 2],
      src.InRange := by
    intro src hsrc
    simp only [List.mem_cons, List.not_mem_nil, or_false] at hsrc
    rcases hsrc with rfl | rfl
    · exact inRange_sampleCandle _ _ _ _
    · exact inRange_sampleCandle _ _ _ _
  obtain ⟨out, hout⟩ := exists_eq_ok_of_isOk (show (rollupCandle
    [sampleCandle "1s" 0 1000 1, sampleCandle "1s" 6000 7000 2] "1m").isOk = true by decide +kernel)
  exact ⟨out, hout, (rollup_windows_iff _ "1m" 60000 out hrange rfl hout).mpr (by decide +kernel)⟩

/-- A candle of five minutes is rolled up to a candle of one minute, and a candle with a
single trade is counted twice. -/
theorem not_countsWindowsOnce_samples :
    (∃ out, rollupCandle [sampleCandle "5m" 0 300000 1] "1m" = .ok out ∧
      ¬ (sampleCandle "5m" 0 300000 1).Within out) ∧
    (∃ out, rollupCandle [sampleCandle "1s" 0 1000 1, sampleCandle "1s" 0 1000 1] "1m" = .ok out ∧
      out.tradeCount = 2) := by
  refine ⟨?_, ?_⟩
  · obtain ⟨out, hout⟩ := exists_eq_ok_of_isOk
      (show (rollupCandle [sampleCandle "5m" 0 300000 1] "1m").isOk = true by decide +kernel)
    have hrange : ∀ src ∈ [sampleCandle "5m" 0 300000 1], src.InRange := by
      intro src hsrc
      rw [List.mem_singleton.mp hsrc]
      exact inRange_sampleCandle _ _ _ _
    have hms : timeframeToMs "1m" = .ok 60000 := rfl
    obtain ⟨-, -, hend⟩ := window_of_rollupCandle hrange hms hout List.mem_cons_self
    have hend' : out.windowEndTs = 60000 := hend
    refine ⟨out, hout, fun hwithin => ?_⟩
    have hlast := (hwithin 60000 (by decide)).2
    omega
  · have hcount : (rollupCandle [sampleCandle "1s" 0 1000 1, sampleCandle "1s" 0 1000 1]
        "1m").toOption.map tradeCount = some 2 := by
      decide +kernel
    cases hout : rollupCandle [sampleCandle "1s" 0 1000 1, sampleCandle "1s" 0 1000 1] "1m" with
    | ok out =>
      rw [hout] at hcount
      exact ⟨out, rfl, Option.some.inj hcount⟩
    | error p =>
      rw [hout] at hcount
      cases hcount

end Aggregation
end StreamAnalytics
