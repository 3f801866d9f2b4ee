import StreamAnalytics.Lib.Prog
import StreamAnalytics.Lib.SortedGroups
import StreamAnalytics.Lib.GoInt
import StreamAnalytics.Lib.Binary64
import StreamAnalytics.Shared.Problem

/-!
# Candles

Model of `internal/core/aggregation/domain/candle.go` and `timeframe.go`.

A candle carries its prices and volumes twice: as floats, which are the
serialised fields, and as fixed-point integers with eight decimals, on which all
arithmetic is done.  Methods mutate the candle and return a problem or nothing;
a problem leaves the fields written so far.

The conversion `int64(x)` of the float `2 ^ 63` yields the smallest integer, as
on amd64.
-/

namespace StreamAnalytics
namespace Aggregation

open GoInt GoStrings Validation

/-- `candleFixedScale`. -/
def candleFixedScale : Int := 100000000

/-- `AllowedCandleTimeframes`. -/
def allowedCandleTimeframes : List String :=
  ["1s", "5s", "1m", "5m", "15m", "30m", "1h", "4h", "1d"]

/-- `timeframeToMs`. -/
def timeframeTable : List (String × Int) :=
  [("1s", 1000), ("5s", 5000), ("1m", 60000), ("5m", 300000), ("15m", 900000),
    ("30m", 1800000), ("1h", 3600000), ("4h", 14400000), ("1d", 86400000)]

/-- `TimeframeToMs`. -/
def timeframeToMs (tf : String) : Except Problem Int :=
  match timeframeTable.lookup (toLower (trimSpace tf)) with
  | some ms => .ok ms
  | none => .error (.newf .validationFailed "unsupported timeframe %q" [.str tf])

/-- `CandleKey`. -/
structure CandleKey where
  venue : String
  instrument : String
  timeframe : String
deriving Repr, DecidableEq

/-- `CandleV1`. -/
structure CandleV1 where
  venue : String
  instrument : String
  timeframe : String
  windowStartTs : Int
  windowEndTs : Int := 0
  openPrice : Float := 0
  high : Float := 0
  low : Float := 0
  closePrice : Float := 0
  volume : Float := 0
  buyVolume : Float := 0
  sellVolume : Float := 0
  tradeCount : Int := 0
  seqFirst : Int := 0
  seqLast : Int := 0
  isClosed : Bool := false
  openFixed : Int := 0
  highFixed : Int := 0
  lowFixed : Int := 0
  closeFixed : Int := 0
  volumeFixed : Int := 0
  buyVolumeFixed : Int := 0
  sellVolumeFixed : Int := 0
deriving DecidableEq

/-! ## Fixed-point conversion -/

/-- `toNonNegativeFixed`. -/
def toNonNegativeFixed (field : String) (value : Float) (scale : Int) : Except Problem Int :=
  if value.isNaN || value.isInf then
    .error (.newf .validationFailed "%s must be a finite number" [.str field])
  else
    match Binary64.roundToEven (value * Float.ofInt scale) with
    -- The product overflowed to an infinity.
    | none => .error (.newf .validationFailed "%s out of fixed precision range" [.str field])
    | some scaled =>
      if 2 ^ 63 < scaled ∨ scaled < -2 ^ 63 then
        .error (.newf .validationFailed "%s out of fixed precision range" [.str field])
      else
        let fixed := wrap64 scaled
        if fixed < 0 then
          .error (.newf .validationFailed "%s must be non-negative" [.str field])
        else
          .ok fixed

/-- `toPositiveFixed`. -/
def toPositiveFixed (field : String) (value : Float) (scale : Int) : Except Problem Int :=
  match toNonNegativeFixed field value scale with
  | .error p => .error p
  | .ok fixed =>
    if fixed ≤ 0 then
      .error (.newf .validationFailed "%s must be positive" [.str field])
    else
      .ok fixed

/-- `fromFixed`. -/
def fromFixed (value scale : Int) : Float := Float.ofInt value / Float.ofInt scale

namespace CandleV1

/-- `NewCandleV1`. -/
def create (venue instrument timeframe : String) (windowStartTs : Int) :
    Except Problem CandleV1 :=
  match collect
      [nonEmptyString "venue" venue,
        nonEmptyString "instrument" instrument,
        oneOf "timeframe" timeframe allowedCandleTimeframes,
        nonNegativeInt "window_start_ts" windowStartTs] with
  | some p => .error p
  | none =>
    .ok
      { venue := trimSpace venue
        instrument := trimSpace instrument
        timeframe := trimSpace timeframe
        windowStartTs := windowStartTs }

/-- `Key`. -/
def key (c : CandleV1) : CandleKey := ⟨c.venue, c.instrument, c.timeframe⟩

/-- `syncFromFixed`. -/
def syncFromFixed (c : CandleV1) : CandleV1 :=
  { c with
    openPrice := fromFixed c.openFixed candleFixedScale
    high := fromFixed c.highFixed candleFixedScale
    low := fromFixed c.lowFixed candleFixedScale
    closePrice := fromFixed c.closeFixed candleFixedScale
    volume := fromFixed c.volumeFixed candleFixedScale
    buyVolume := fromFixed c.buyVolumeFixed candleFixedScale
    sellVolume := fromFixed c.sellVolumeFixed candleFixedScale }

/-- One field of `hydrateFixedFromFields`: a missing fixed value is read from its float. -/
def hydrateField
    (missing : CandleV1 → Bool)
    (convert : CandleV1 → Except Problem Int)
    (store : CandleV1 → Int → CandleV1) :
    Prog Problem CandleV1 PUnit := do
  let c ← Prog.get
  if missing c then do
    let v ← Prog.lift (convert c)
    Prog.modify fun c => store c v
  else
    pure ⟨⟩

/-- `hydrateFixedFromFields`. -/
def hydrateFixedFromFields : Prog Problem CandleV1 PUnit := do
  let c ← Prog.get
  if c.tradeCount ≤ 0 then
    pure ⟨⟩
  else do
    hydrateField (fun c => c.openFixed == 0)
      (fun c => toPositiveFixed "open" c.openPrice candleFixedScale)
      (fun c v => { c with openFixed := v })
    hydrateField (fun c => c.highFixed == 0)
      (fun c => toPositiveFixed "high" c.high candleFixedScale)
      (fun c v => { c with highFixed := v })
    hydrateField (fun c => c.lowFixed == 0)
      (fun c => toPositiveFixed "low" c.low candleFixedScale)
      (fun c v => { c with lowFixed := v })
    hydrateField (fun c => c.closeFixed == 0)
      (fun c => toPositiveFixed "close" c.closePrice candleFixedScale)
      (fun c v => { c with closeFixed := v })
    hydrateField (fun c => c.volumeFixed == 0)
      (fun c => toNonNegativeFixed "volume" c.volume candleFixedScale)
      (fun c v => { c with volumeFixed := v })
    hydrateField (fun c => c.buyVolumeFixed == 0 && decide (0 < c.buyVolume))
      (fun c => toNonNegativeFixed "buy_volume" c.buyVolume candleFixedScale)
      (fun c v => { c with buyVolumeFixed := v })
    hydrateField (fun c => c.sellVolumeFixed == 0 && decide (0 < c.sellVolume))
      (fun c => toNonNegativeFixed "sell_volume" c.sellVolume candleFixedScale)
      (fun c v => { c with sellVolumeFixed := v })

/-- The checks of `Validate` on the identity and the window of a candle. -/
def validateIdentity (c : CandleV1) : Option Problem :=
  collect
    [nonEmptyString "venue" c.venue,
      nonEmptyString "instrument" c.instrument,
      oneOf "timeframe" c.timeframe allowedCandleTimeframes,
      nonNegativeInt "window_start_ts" c.windowStartTs,
      nonNegativeInt "trade_count" c.tradeCount,
      Problem.when (c.isClosed = true ∧ c.windowEndTs ≤ c.windowStartTs)
        (.new .integrityViolation "closed candle must have window_end_ts > window_start_ts"),
      Problem.when (c.isClosed = false ∧ c.windowEndTs ≠ 0)
        (.new .integrityViolation "open candle must not have window_end_ts set")]

/-- The checks of `Validate` on the fixed-point fields of a candle with trades. -/
def validateFixed (c : CandleV1) : Option Problem :=
  collect
    [Problem.when (c.seqFirst ≤ 0 ∨ c.seqLast < c.seqFirst)
        (.new .integrityViolation "seq bounds are invalid"),
      Problem.when (c.openFixed ≤ 0 ∨ c.highFixed ≤ 0 ∨ c.lowFixed ≤ 0 ∨ c.closeFixed ≤ 0)
        (.new .integrityViolation "ohlc must be strictly positive"),
      Problem.when (c.highFixed < c.lowFixed)
        (.new .integrityViolation "high must be >= low"),
      Problem.when (c.highFixed < c.openFixed ∨ c.highFixed < c.closeFixed)
        (.new .integrityViolation "high must be >= open and close"),
      Problem.when (c.openFixed < c.lowFixed ∨ c.closeFixed < c.lowFixed)
        (.new .integrityViolation "low must be <= open and close"),
      Problem.when (c.volumeFixed < 0 ∨ c.buyVolumeFixed < 0 ∨ c.sellVolumeFixed < 0)
        (.new .integrityViolation "volumes must be non-negative"),
      Problem.when (c.volumeFixed ≠ wrap64 (c.buyVolumeFixed + c.sellVolumeFixed))
        (.new .integrityViolation "volume must equal buy_volume + sell_volume")]

/-- `Validate`. -/
@[irreducible] def validate : Prog Problem CandleV1 PUnit := do
  let c ← Prog.get
  Prog.check c.validateIdentity
  if c.tradeCount = 0 then
    pure ⟨⟩
  else do
    hydrateFixedFromFields
    let c ← Prog.get
    Prog.check c.validateFixed

/--
The update of the prices and of `SeqFirst` common to `ApplyTrade`, where all four
prices are the price of the trade, and `ApplyClosedCandle`.
-/
def absorbPrices (c : CandleV1) (openFixed highFixed lowFixed closeFixed seqFirst : Int) :
    CandleV1 :=
  if c.tradeCount = 0 then
    { c with
      openFixed := openFixed
      highFixed := highFixed
      lowFixed := lowFixed
      closeFixed := closeFixed
      seqFirst := seqFirst }
  else
    { c with
      highFixed := if c.highFixed < highFixed then highFixed else c.highFixed
      lowFixed := if lowFixed < c.lowFixed then lowFixed else c.lowFixed
      closeFixed := closeFixed }

/-- The assignments of `ApplyTrade`. -/
def recordTrade (c : CandleV1) (priceFixed qtyFixed : Int) (isBuy : Bool) (seq : Int) : CandleV1 :=
  let c := c.absorbPrices priceFixed priceFixed priceFixed priceFixed seq
  let c := { c with volumeFixed := wrap64 (c.volumeFixed + qtyFixed) }
  let c :=
    if isBuy then { c with buyVolumeFixed := wrap64 (c.buyVolumeFixed + qtyFixed) }
    else { c with sellVolumeFixed := wrap64 (c.sellVolumeFixed + qtyFixed) }
  let c := { c with seqLast := seq, tradeCount := wrap64 (c.tradeCount + 1) }
  c.syncFromFixed

/-- `ApplyTrade`. -/
def applyTrade (price qty : Float) (isBuy : Bool) (seq : Int) : Prog Problem CandleV1 PUnit := do
  let c ← Prog.get
  Prog.check (Problem.when (c.isClosed = true) (.new .conflict "cannot mutate closed candle"))
  Prog.check (positiveInt "seq" seq)
  let priceFixed ← Prog.lift (toPositiveFixed "price" price candleFixedScale)
  let qtyFixed ← Prog.lift (toPositiveFixed "qty" qty candleFixedScale)
  Prog.check (Problem.when (0 < c.seqLast ∧ seq < c.seqLast)
    (.newf .outOfOrder "seq must be monotonic: got=%d last=%d" [.int seq, .int c.seqLast]))
  Prog.modify fun c => c.recordTrade priceFixed qtyFixed isBuy seq
  validate

/-- The assignments of `ApplyClosedCandle`. -/
def recordChild (c child : CandleV1) : CandleV1 :=
  let c := c.absorbPrices child.openFixed child.highFixed child.lowFixed child.closeFixed
    child.seqFirst
  let c :=
    { c with
      volumeFixed := wrap64 (c.volumeFixed + child.volumeFixed)
      buyVolumeFixed := wrap64 (c.buyVolumeFixed + child.buyVolumeFixed)
      sellVolumeFixed := wrap64 (c.sellVolumeFixed + child.sellVolumeFixed)
      tradeCount := wrap64 (c.tradeCount + child.tradeCount)
      seqLast := child.seqLast }
  c.syncFromFixed

/-- `ApplyClosedCandle`; the child is passed by value. -/
def applyClosedCandle (child : CandleV1) : Prog Problem CandleV1 PUnit := do
  let c ← Prog.get
  Prog.check (Problem.when (c.isClosed = true) (.new .conflict "cannot mutate closed candle"))
  Prog.check (Problem.when (child.isClosed = false)
    (.new .validationFailed "child candle must be closed"))
  Prog.check (Problem.when (trimSpace child.venue ≠ c.venue)
    (.new .validationFailed "child venue mismatch"))
  Prog.check (Problem.when (trimSpace child.instrument ≠ c.instrument)
    (.new .validationFailed "child instrument mismatch"))
  Prog.check (Problem.when (child.tradeCount ≤ 0)
    (.new .validationFailed "child candle must contain trades"))
  let child ← Prog.onCopy child validate
  let child ← Prog.onCopy child hydrateFixedFromFields
  Prog.check (Problem.when (0 < c.seqLast ∧ child.seqFirst < c.seqLast)
    (.newf .outOfOrder "child seq out of order: child_first=%d last=%d"
      [.int child.seqFirst, .int c.seqLast]))
  Prog.modify fun c => c.recordChild child
  validate

/-- `Close`. -/
def close (windowEndTs : Int) : Prog Problem CandleV1 PUnit := do
  let c ← Prog.get
  Prog.check (Problem.when (c.isClosed = true) (.new .conflict "candle already closed"))
  Prog.check (Problem.when (c.tradeCount ≤ 0)
    (.new .validationFailed "cannot close candle without trades"))
  Prog.check (Problem.when (windowEndTs ≤ c.windowStartTs)
    (.newf .validationFailed "window_end_ts must be > window_start_ts: start=%d end=%d"
      [.int c.windowStartTs, .int windowEndTs]))
  Prog.modify fun c => { c with windowEndTs := windowEndTs, isClosed := true }
  validate

end CandleV1

/-! ## Rollup -/

/-- `bucketStartDomain`; Go's integer division truncates. -/
def bucketStartDomain (tsMs windowMs : Int) : Int :=
  if windowMs ≤ 0 then tsMs else tsMs.tdiv windowMs * windowMs

/-- The loop of `RollupCandle` over the sorted source candles. -/
def rollupLoop (venue instrument : String) (windowStart intervalMs : Int) :
    List CandleV1 → Prog Problem CandleV1 PUnit
  | [] => pure ⟨⟩
  | src :: rest => do
    Prog.check (Problem.when (src.isClosed = false)
      (.new .validationFailed "all source candles must be closed"))
    Prog.check (Problem.when (src.venue ≠ venue)
      (.new .validationFailed "all source candles must have the same venue"))
    Prog.check (Problem.when (src.instrument ≠ instrument)
      (.new .validationFailed "all source candles must have the same instrument"))
    Prog.check (Problem.when (bucketStartDomain src.windowStartTs intervalMs ≠ windowStart)
      (.new .validationFailed "all source candles must belong to the same target window"))
    CandleV1.applyClosedCandle src
    rollupLoop venue instrument windowStart intervalMs rest

/--
The order in which `RollupCandle` folds its source candles.  `sort.Slice` is not
stable; for distinct window starts the order is determined.
-/
def sortByWindowStart (source : List CandleV1) : List CandleV1 :=
  sortBy CandleV1.windowStartTs source

/-- The fold of `RollupCandle` into a fresh candle, and its close. -/
def rollupInto (venue instrument : String) (windowStart intervalMs : Int)
    (sorted : List CandleV1) : Prog Problem CandleV1 PUnit := do
  rollupLoop venue instrument windowStart intervalMs sorted
  CandleV1.close (wrap64 (windowStart + intervalMs))

/-- `RollupCandle`. -/
def rollupCandle (source : List CandleV1) (toInterval : String) : Except Problem CandleV1 :=
  match nonEmptySliceLen "source" source.length, timeframeToMs toInterval,
      sortByWindowStart source with
  | some p, _, _ => .error p
  | none, .error p, _ => .error p
  -- Not reached: a non-empty source has a first candle.
  | none, .ok _, [] => .error (.new .internal "")
  | none, .ok intervalMs, first :: rest =>
    if first.isClosed = false then
      .error (.new .validationFailed "all source candles must be closed")
    else
      let windowStart := bucketStartDomain first.windowStartTs intervalMs
      match CandleV1.create first.venue first.instrument toInterval windowStart with
      | .error p => .error p
      | .ok candle =>
        Prog.exec (rollupInto first.venue first.instrument windowStart intervalMs
          (first :: rest)) candle

end Aggregation
end StreamAnalytics
