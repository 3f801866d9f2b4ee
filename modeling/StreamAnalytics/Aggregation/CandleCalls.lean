import StreamAnalytics.Lib.Runs
import StreamAnalytics.Aggregation.CandleFold

/-!
# Calls on an open candle

`ApplyTrade` and `ApplyClosedCandle` assign all fields and call `Validate` last.  The
checks before the assignments admit a call with a bar (`Admits`); the call is then
applied, unless a sum overflows.  An overflow is reported by `Validate`, but the
assignments stay.

`calls_atomic_iff` says that the calls of a run leave the candle unchanged when they fail,
and sound when they succeed, exactly when no admitted call overflows.
-/

namespace StreamAnalytics
namespace Aggregation
namespace CandleV1

open GoInt Runs

/-- An admitted call does not overflow. -/
def Room (c : CandleV1) (call : Call) : Prop := ∀ b, c.Admits call b → (c.nextBar b).Fits

/-- The state of a candle after a call that succeeded. -/
structure Applied (c c' : CandleV1) (call : Call) : Prop where
  low_le : c'.lowFixed ≤ c'.openFixed ∧ c'.lowFixed ≤ c'.closeFixed
  le_high : c'.openFixed ≤ c'.highFixed ∧ c'.closeFixed ≤ c'.highFixed
  volume_eq : c'.volumeFixed = c'.buyVolumeFixed + c'.sellVolumeFixed
  volume_nonneg : 0 ≤ c'.volumeFixed
  seq_le : c'.seqFirst ≤ c'.seqLast
  tradeCount_eq : c'.tradeCount = c.tradeCount + call.trades

/-- A call that fails changes nothing, and a call that succeeds is applied. -/
def Atomic (c : CandleV1) (call : Call) : Prop :=
  match call.apply c with
  | (c', .error _) => c' = c
  | (c', .ok _) => c.Applied c' call

/-- The candle after a call. -/
def step (c : CandleV1) (call : Call) : CandleV1 := (call.apply c).1

/-! ## One call -/

variable {c : CandleV1} {call : Call}

theorem tradeCount_nextBar
    (hc : c.Accumulating) (b : Bar) : (c.nextBar b).tradeCount = c.tradeCount + b.tradeCount := by
  unfold nextBar
  rcases hc.content with hfresh | hfilled
  · rw [if_pos hfresh.tradeCount, hfresh.tradeCount, zero_add]
  · rw [if_neg hfilled.tradeCount_ne_zero, Bar.tradeCount_mul]
    rfl

/-- A call is atomic exactly when there is room for it, and keeps the candle open then. -/
theorem atomic_iff (hc : c.Accumulating) (hrange : call.InRange) :
    (c.Atomic call ↔ c.Room call) ∧ (c.Room call → (c.step call).Accumulating) := by
  have houtcome := outcome hc hrange
  unfold Atomic step
  generalize call.apply c = out at houtcome
  cases houtcome with
  | refused hrefused => exact ⟨iff_of_true rfl fun b hb => absurd hb (hrefused b), fun _ => hc⟩
  | @applied b hadmits hfits =>
    obtain ⟨happends, -, hcount⟩ := hadmits.appends hrange
    have hroom : c.Room call := fun b' hb' => hadmits.unique hb' ▸ hfits
    refine ⟨iff_of_true ?_ hroom, fun _ => (hc.absorb happends hfits).1⟩
    have hsound := hc.sound_nextBar happends
    exact
      { low_le := ⟨hsound.low_le_opening, hsound.low_le_closing⟩
        le_high := ⟨hsound.opening_le_high, hsound.closing_le_high⟩
        volume_eq := hsound.volume_eq
        volume_nonneg := hsound.volume_nonneg
        seq_le := hsound.seq_le
        tradeCount_eq := (tradeCount_nextBar hc b).trans (by rw [hcount]) }
  | @overflowed b p hadmits hfits =>
    have hno : ¬ c.Room call := fun hroom => hfits (hroom b hadmits)
    refine ⟨iff_of_false (fun hsame => ?_) hno, fun hroom => absurd hroom hno⟩
    -- the number of trades has changed
    obtain ⟨happends, hbar, -⟩ := hadmits.appends hrange
    have htrades : wrap64 (c.nextBar b).tradeCount = c.tradeCount :=
      congrArg CandleV1.tradeCount hsame
    have hpos := happends.sound.tradeCount_pos
    have hlt := hbar.tradeCount_lt
    rw [tradeCount_nextBar hc] at htrades
    unfold wrap64 at htrades
    omega

/-! ## Runs -/

/--
In every run of calls on a new candle, all calls are atomic exactly when there is room
for each of them.
-/
theorem calls_atomic_iff (venue instrument timeframe : String) (windowStartTs : Int) (c : CandleV1)
    (hcreate : create venue instrument timeframe windowStartTs = .ok c)
    (calls : List Call) (hrange : ∀ call ∈ calls, call.InRange) :
    (∀ before call, before ++ [call] <+: calls → (run step c before).Atomic call) ↔
      Always step Room c calls := by
  have hstart : c.Accumulating := (create_fresh hcreate).1
  rw [← always_iff_forall_prefix]
  constructor
  · intro hatomic
    refine always_of_always (I := Accumulating) ?_ ?_ hstart
      (always_and hatomic hrange)
    · intro c call hc hcall
      obtain ⟨hiff, hnext⟩ := atomic_iff hc hcall.1
      exact hnext (hiff.mp hcall.2)
    · intro c call hc hcall
      exact (atomic_iff hc hcall.1).1.mp hcall.2
  · intro hroom
    refine always_of_always (I := Accumulating) ?_ ?_ hstart
      (always_and hroom hrange)
    · intro c call hc hcall
      exact (atomic_iff hc hcall.1).2 hcall.2
    · intro c call hc hcall
      exact (atomic_iff hc hcall.1).1.mpr hcall.2

/-- An open candle without trades. -/
def sampleCandle : CandleV1 :=
  { venue := "BINANCE", instrument := "BTCUSDT", timeframe := "1m", windowStartTs := 0 }

/-- A trade with the price one. -/
def sampleTrade (qty : Float) (seq : Int) : Call := .trade ⟨1, qty, true, seq⟩

theorem room_trade {t : Trade} {p q : Int} (hp : t.priceFixed = .ok p) (hq : t.qtyFixed = .ok q)
    (hfits : (c.nextBar (.ofTrade p q t.isBuy t.seq)).Fits) : c.Room (.trade t) := by
  rintro b ⟨p', q', hp', hq', rfl, -⟩
  cases hp.symm.trans hp'
  cases hq.symm.trans hq'
  exact hfits

theorem calls_atomic_sampleTrades :
    create "BINANCE" "BTCUSDT" "1m" 0 = .ok sampleCandle ∧
      ∀ before call, before ++ [call] <+: [sampleTrade 2 1, sampleTrade 3 4] →
        (run step sampleCandle before).Atomic call := by
  have hprice : toPositiveFixed "price" 1 candleFixedScale = .ok 100000000 := by decide +kernel
  have htwo : toPositiveFixed "qty" 2 candleFixedScale = .ok 200000000 := by decide +kernel
  have hthree : toPositiveFixed "qty" 3 candleFixedScale = .ok 300000000 := by decide +kernel
  have hcreate : create "BINANCE" "BTCUSDT" "1m" 0 = .ok sampleCandle := by decide +kernel
  refine ⟨hcreate, (calls_atomic_iff "BINANCE" "BTCUSDT" "1m" 0 sampleCandle hcreate _ ?_).mpr ?_⟩
  · simp [sampleTrade, Call.InRange]
  · exact ⟨room_trade hprice htwo ⟨by decide +kernel, by decide +kernel⟩,
      room_trade hprice hthree ⟨by decide +kernel, by decide +kernel⟩, trivial⟩

/-- Two trades of 9e10 units: the second one fails, but it has been counted. -/
theorem not_atomic_overflow :
    ¬ (run step sampleCandle [sampleTrade 9e10 1]).Atomic (sampleTrade 9e10 2) := by
  have hfails : ((sampleTrade 9e10 2).apply
      (run step sampleCandle [sampleTrade 9e10 1])).2.isOk = false := by decide +kernel
  have hcounted : ((sampleTrade 9e10 2).apply
      (run step sampleCandle [sampleTrade 9e10 1])).1.tradeCount ≠
        (run step sampleCandle [sampleTrade 9e10 1]).tradeCount := by decide +kernel
  intro hatomic
  unfold Atomic at hatomic
  generalize (sampleTrade 9e10 2).apply (run step sampleCandle [sampleTrade 9e10 1]) = out
    at hfails hcounted hatomic
  obtain ⟨c', r⟩ := out
  cases r with
  | error p => exact hcounted (congrArg CandleV1.tradeCount hatomic)
  | ok u => cases hfails

end CandleV1
end Aggregation
end StreamAnalytics
