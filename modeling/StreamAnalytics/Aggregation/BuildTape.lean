import StreamAnalytics.Lib.LeasedTotals
import StreamAnalytics.Shared.BoundedMapLease
import StreamAnalytics.Aggregation.BuildCandle

/-!
# Tape windows and the cumulative volume delta

Model of `BuildTapeFromTrades` (`internal/core/aggregation/app/build_tape.go`) and of the tape
window (`internal/core/aggregation/domain/tape.go`).  A trade is added to one window for each of
three timeframes.  When a window closes, the difference of its buy and sell volume is added to the
running total of its key, and both are published.

The windows and the totals are kept in two maps of bounded size with one time to live.  The time
to live of a window starts anew with every trade, that of a total only when a window closes.

Volumes are exact here: the sums of the fixed-point volumes do not overflow, and the difference
and the total are rational numbers.  The ports succeed.  The prices and rates that a window
derives when it closes, its burst flag and the bar statistics are left out.
-/

namespace StreamAnalytics
namespace Aggregation

open GoInt GoStrings Validation

/-- `TapeKey`, which is converted from and to the key of a window. -/
abbrev TapeKey := WindowKey

/-- `AllowedTapeTimeframes`. -/
def allowedTapeTimeframes : List String := ["250ms", "1s", "5s"]

/-- `TapeWindowV1`, in fixed-point numbers. -/
structure TapeWindowV1 where
  venue : String
  instrument : String
  timeframe : String
  windowStartTs : Int
  windowEndTs : Int := 0
  tradeCount : Int := 0
  buyCount : Int := 0
  sellCount : Int := 0
  lastSeq : Int := 0
  isClosed : Bool := false
  buyVolumeFixed : Int := 0
  sellVolumeFixed : Int := 0
  totalVolumeFixed : Int := 0
  buyNotionalFixed : Int := 0
  sellNotionalFixed : Int := 0
  maxPriceFixed : Int := 0
  minPriceFixed : Int := 0
  lastPriceFixed : Int := 0
  maxTradeSizeFixed : Int := 0
  hasTrades : Bool := false

namespace TapeWindowV1

/-- `NewTapeWindowV1`. -/
def create (venue instrument timeframe : String) (windowStartTs : Int) :
    Except Problem TapeWindowV1 :=
  match collect
      [nonEmptyString "venue" venue,
        nonEmptyString "instrument" instrument,
        oneOf "timeframe" timeframe allowedTapeTimeframes,
        nonNegativeInt "window_start_ts" windowStartTs] with
  | some p => .error p
  | none =>
    .ok
      { venue := trimSpace venue
        instrument := trimSpace instrument
        timeframe := trimSpace timeframe
        windowStartTs := windowStartTs }

/-- The key under which the window is published. -/
def key (w : TapeWindowV1) : TapeKey := ⟨w.venue, w.instrument, w.timeframe⟩

/-- `checkMutable`. -/
def checkMutable : Prog Problem TapeWindowV1 PUnit := do
  let w ← Prog.get
  Prog.check (Problem.when w.isClosed (.new .conflict "cannot mutate closed tape window"))

/-- `toTradeFixedValues`. -/
def toTradeFixedValues (price size : Float) : Except Problem (Int × Int × Int) := do
  let priceFixed ← toPositiveFixed "price" price candleFixedScale
  let sizeFixed ← toPositiveFixed "size" size candleFixedScale
  let notional := price * size
  if notional.isNaN ∨ notional.isInf ∨ notional ≤ 0 then
    .error (.new .validationFailed "notional must be a positive finite number")
  else
    match Binary64.roundToEven (notional * Float.ofInt candleFixedScale) with
    -- A number out of range converts to the least integer.
    | none => .error (.new .validationFailed "notional must be > 0")
    | some scaled =>
      if scaled ≤ 0 ∨ 2 ^ 63 ≤ scaled then
        .error (.new .validationFailed "notional must be > 0")
      else .ok (priceFixed, sizeFixed, scaled)

/-- `applySide`. -/
def applySide (isBuy : Bool) (sizeFixed notionalFixed : Int) (w : TapeWindowV1) : TapeWindowV1 :=
  if isBuy then
    { w with
      buyCount := w.buyCount + 1
      buyVolumeFixed := w.buyVolumeFixed + sizeFixed
      buyNotionalFixed := w.buyNotionalFixed + notionalFixed }
  else
    { w with
      sellCount := w.sellCount + 1
      sellVolumeFixed := w.sellVolumeFixed + sizeFixed
      sellNotionalFixed := w.sellNotionalFixed + notionalFixed }

/-- `updateExtrema`. -/
def updateExtrema (priceFixed sizeFixed seq : Int) (w : TapeWindowV1) : TapeWindowV1 :=
  if w.hasTrades = false then
    { w with
      maxPriceFixed := priceFixed
      minPriceFixed := priceFixed
      lastPriceFixed := priceFixed
      maxTradeSizeFixed := sizeFixed
      lastSeq := seq
      hasTrades := true }
  else
    let later := w.lastSeq < seq ∨ (seq = w.lastSeq ∧ w.lastPriceFixed < priceFixed)
    { w with
      maxPriceFixed := if w.maxPriceFixed < priceFixed then priceFixed else w.maxPriceFixed
      minPriceFixed := if priceFixed < w.minPriceFixed then priceFixed else w.minPriceFixed
      maxTradeSizeFixed := if w.maxTradeSizeFixed < sizeFixed then sizeFixed else w.maxTradeSizeFixed
      lastSeq := if later then seq else w.lastSeq
      lastPriceFixed := if later then priceFixed else w.lastPriceFixed }

/-- `validateNonEmptyWindow`. -/
def validateNonEmptyWindow (w : TapeWindowV1) : Option Problem :=
  if w.buyCount + w.sellCount ≠ w.tradeCount then
    some (.new .integrityViolation "trade_count must equal buy_count + sell_count")
  else if w.totalVolumeFixed ≤ 0 ∨ w.buyVolumeFixed < 0 ∨ w.sellVolumeFixed < 0 then
    some (.new .integrityViolation "volume totals are invalid")
  else if w.totalVolumeFixed ≠ w.buyVolumeFixed + w.sellVolumeFixed then
    some (.new .integrityViolation "total_volume must equal buy_volume + sell_volume")
  else if w.maxPriceFixed ≤ 0 ∨ w.minPriceFixed ≤ 0 ∨ w.lastPriceFixed ≤ 0 then
    some (.new .integrityViolation "price extrema must be positive")
  else if w.maxPriceFixed < w.minPriceFixed then
    some (.new .integrityViolation "max_price must be >= min_price")
  else if w.maxTradeSizeFixed ≤ 0 then
    some (.new .integrityViolation "max_trade_size must be positive")
  else
    Problem.when (w.lastSeq ≤ 0)
      (.new .integrityViolation "last_seq must be positive when trades exist")

/-- `Validate`. -/
def validate (w : TapeWindowV1) : Option Problem :=
  match collect
      [nonEmptyString "venue" w.venue,
        nonEmptyString "instrument" w.instrument,
        oneOf "timeframe" w.timeframe allowedTapeTimeframes,
        nonNegativeInt "window_start_ts" w.windowStartTs,
        nonNegativeInt "trade_count" w.tradeCount] with
  | some p => some p
  | none =>
    if w.isClosed ∧ w.windowEndTs ≤ w.windowStartTs then
      some (.new .integrityViolation "closed tape window must have valid window bounds")
    else if w.isClosed = false ∧ w.windowEndTs ≠ 0 then
      some (.new .integrityViolation "open tape window must not have window_end_ts set")
    else if w.tradeCount = 0 then
      Problem.when (w.buyCount ≠ 0 ∨ w.sellCount ≠ 0)
        (.new .integrityViolation "empty tape window cannot have side counts")
    else w.validateNonEmptyWindow

/-- The window with a further trade. -/
def addTrade (isBuy : Bool) (priceFixed sizeFixed notionalFixed seq : Int) (w : TapeWindowV1) :
    TapeWindowV1 :=
  let sided := applySide isBuy sizeFixed notionalFixed { w with tradeCount := w.tradeCount + 1 }
  updateExtrema priceFixed sizeFixed seq
    { sided with totalVolumeFixed := sided.buyVolumeFixed + sided.sellVolumeFixed }

/-- `ApplyTrade`. -/
def applyTrade (price size : Float) (isBuy : Bool) (seq : Int) :
    Prog Problem TapeWindowV1 PUnit := do
  checkMutable
  Prog.check (positiveInt "seq" seq)
  let (priceFixed, sizeFixed, notionalFixed) ← Prog.lift (toTradeFixedValues price size)
  Prog.modify (addTrade isBuy priceFixed sizeFixed notionalFixed seq)
  let w ← Prog.get
  Prog.check w.validate

/-- `Close`. -/
def close (windowEndTs : Int) : Prog Problem TapeWindowV1 PUnit := do
  checkMutable
  let w ← Prog.get
  Prog.check (Problem.when (windowEndTs ≤ w.windowStartTs)
    (.newf .validationFailed "window_end_ts must be > window_start_ts: start=%d end=%d"
      [.int w.windowStartTs, .int windowEndTs]))
  Prog.modify fun w => { w with windowEndTs := windowEndTs, isClosed := true }
  let w ← Prog.get
  Prog.check w.validate

/-- The `DeltaVolume` of `NewDeltaVolumeWindowV1`. -/
def deltaVolume (w : TapeWindowV1) : ℚ :=
  (w.buyVolumeFixed : ℚ) / candleFixedScale - (w.sellVolumeFixed : ℚ) / candleFixedScale

end TapeWindowV1

/-! ## The use case -/

/-- `BuildTapeConfig`; durations in nanoseconds. -/
structure BuildTapeConfig where
  maxWindows : Int
  windowCap : Int
  windowTTL : Int
  lateTolerance : Int
  windowDuration : Option (GoMap String Int)

/-- `BuildTapeRequest`. -/
structure BuildTapeRequest where
  venue : String
  instrument : String
  price : Float
  quantity : Float
  isBuy : Bool
  seq : Int
  tsIngest : Int

/-- `BuildTapeFromTrades`, with the deltas and totals that it has published. -/
structure BuildTapeFromTrades where
  windows : BoundedMap TapeKey TapeWindowV1
  cvdState : BoundedMap TapeKey ℚ
  lifecycle : WatermarkWindowManager
  windowMs : GoMap String Int
  timeframes : List String
  /-- The readings of the clock, in nanoseconds since the zero time. -/
  clock : Nat → Nat
  readings : Nat
  published : List (Posting TapeKey ℚ)

/-- The defaults of `resolveTapeWindowDurations`, in nanoseconds. -/
def defaultTapeDuration (timeframe : String) : Int :=
  ([("250ms", 250000000), ("1s", 1000000000), ("5s", 5000000000)].lookup timeframe).getD 0

/-- `resolveTapeWindowDurations`, for the given timeframes. -/
def resolveTapeWindowDurations (config : Option (GoMap String Int)) :
    List String → Except Problem (GoMap String Int)
  | [] => .ok ∅
  | timeframe :: rest =>
    let dur := (config.bind (·.lookup timeframe)).getD (defaultTapeDuration timeframe)
    if dur ≤ 0 then
      .error (.newf .validationFailed "window duration must be > 0 for timeframe=%s"
        [.str timeframe])
    else
      match resolveTapeWindowDurations config rest with
      | .error p => .error p
      | .ok out => .ok (out.insert timeframe (milliseconds dur))

namespace BuildTapeFromTrades

/-- The maximal number of windows of a configuration. -/
def maxWindows (cfg : BuildTapeConfig) : Int := if cfg.maxWindows ≤ 0 then 50000 else cfg.maxWindows

/-- The time to live of a configuration. -/
def windowTTL (cfg : BuildTapeConfig) : Int :=
  if cfg.windowTTL ≤ 0 then 3600000000000 else cfg.windowTTL

/-- `NewBuildTapeFromTrades`. -/
def create (cfg : BuildTapeConfig) (clock : Nat → Nat) : BuildTapeFromTrades where
  windows := ((BoundedMap.create (maxWindows cfg) (windowTTL cfg) (clock 0)).setSweepEveryOps
    1024).setSweepMinInterval 1000000000
  cvdState := ((BoundedMap.create (maxWindows cfg) (windowTTL cfg) (clock 1)).setSweepEveryOps
    1024).setSweepMinInterval 1000000000
  lifecycle := resultOr
    (WatermarkWindowManager.create
      { maxOpenWindows := if cfg.windowCap ≤ 0 then 96 else cfg.windowCap
        lateToleranceMs :=
          milliseconds (if cfg.lateTolerance ≤ 0 then 30000000000 else cfg.lateTolerance) })
    (WatermarkWindowManager.create { maxOpenWindows := 96, lateToleranceMs := 30000 })
    ⟨96, 30000, ∅, []⟩
  windowMs := resultOr (resolveTapeWindowDurations cfg.windowDuration allowedTapeTimeframes)
    (resolveTapeWindowDurations none allowedTapeTimeframes) ∅
  timeframes := ["250ms", "1s", "5s"]
  clock := clock
  readings := 2
  published := []

/-- Actions of the use case. -/
abbrev Action (α : Type) : Type := Prog Problem BuildTapeFromTrades α

/-- A reading of the clock. -/
def now : Action Nat :=
  Prog.act fun uc => ({ uc with readings := uc.readings + 1 }, uc.clock uc.readings)

/-- `windows.Get`. -/
def getWindow (key : TapeKey) : Action (Option TapeWindowV1) := do
  let t ← now
  Prog.act fun uc => ({ uc with windows := (uc.windows.get t key).2.1 }, (uc.windows.get t key).1)

/-- `windows.Put`. -/
def putWindow (key : TapeKey) (w : TapeWindowV1) : Action PUnit := do
  let t ← now
  Prog.modify fun uc => { uc with windows := (uc.windows.put t key w).1 }

/-- `windows.Delete`. -/
def deleteWindow (key : TapeKey) : Action PUnit := do
  let t ← now
  Prog.modify fun uc => { uc with windows := (uc.windows.delete t key).1 }

/-- Calls a method on the window that is stored under the key. -/
def mutateWindow (key : TapeKey) (w : TapeWindowV1) (x : Prog Problem TapeWindowV1 PUnit) :
    Action TapeWindowV1 :=
  fun uc =>
    ({ uc with windows := uc.windows.setValue key (x w).1 },
      match (x w).2 with
      | .ok _ => .ok (x w).1
      | .error p => .error p)

/--
`persistClosedWindow` and `publishDerivedAnalytics`: the total of the key of the window is read,
increased, stored and published.
-/
def persistClosedWindow (w : TapeWindowV1) : Action PUnit := do
  let readAt ← now
  let prev ← Prog.act fun uc =>
    ({ uc with cvdState := (uc.cvdState.get readAt w.key).2.1 }, (uc.cvdState.get readAt w.key).1)
  let nextCVD := prev.getD 0 + w.deltaVolume
  let storedAt ← now
  Prog.modify fun uc =>
    { uc with
      cvdState := (uc.cvdState.put storedAt w.key nextCVD).1
      published := uc.published ++ [⟨w.key, w.deltaVolume, nextCVD, readAt, storedAt⟩] }

/-- Closes a stored window, publishes it and removes it from the map. -/
def finalizeWindow (key : TapeKey) (existing : TapeWindowV1) (windowDurationMs : Int) :
    Action TapeWindowV1 := do
  let w ← mutateWindow key existing
    (TapeWindowV1.close (wrap64 (existing.windowStartTs + windowDurationMs)))
  persistClosedWindow w
  deleteWindow key
  pure w

/-- `closeIfWindowChanged`. -/
def closeIfWindowChanged (key : TapeKey) (windowStart windowDurationMs : Int) :
    Action (Option TapeWindowV1) := do
  match ← getWindow key with
  | none => pure none
  | some existing =>
    if existing.windowStartTs = windowStart then pure none
    else do
      let w ← finalizeWindow key existing windowDurationMs
      pure (some w)

/-- `getOrCreateWindow`. -/
def getOrCreateWindow (key : TapeKey) (windowStart : Int) : Action TapeWindowV1 := do
  match ← getWindow key with
  | some w => do
    Prog.check (Problem.when (w.windowStartTs ≠ windowStart)
      (.new .integrityViolation "tape window mismatch after window roll"))
    pure w
  | none => do
    let w ← Prog.lift (TapeWindowV1.create key.venue key.instrument key.timeframe windowStart)
    putWindow key w
    pure w

/-- `forceCloseWindow`: the window is looked up under the key of the manager. -/
def forceCloseWindow (forced : ForcedWindowClose) : Action (Option TapeWindowV1) := do
  match ← getWindow forced.key with
  | none => pure none
  | some existing =>
    if existing.windowStartTs ≠ forced.windowStart then pure none
    else do
      let uc ← Prog.get
      let windowDurationMs := uc.windowMs.getD forced.key.timeframe 0
      Prog.check (Problem.when (windowDurationMs ≤ 0)
        (.newf .validationFailed "window duration must be > 0 for timeframe=%s"
          [.str forced.key.timeframe]))
      let w ← finalizeWindow forced.key existing windowDurationMs
      pure (some w)

/-- `observeWindow`; the constructor always sets a window manager. -/
def observeWindow (key : TapeKey) (eventTsMs windowDurationMs : Int) :
    Action (WindowDecision × Option TapeWindowV1) := do
  let decision ← Prog.zoom BuildTapeFromTrades.lifecycle (fun uc m => { uc with lifecycle := m })
    (WatermarkWindowManager.observe key eventTsMs windowDurationMs)
  match decision.forcedClose with
  | none => pure (decision, none)
  | some forced => do
    let forcedClosed ← forceCloseWindow forced
    pure (decision, forcedClosed)

/-- `validateRequest`. -/
def validateRequest (req : BuildTapeRequest) : Option Problem :=
  match collect
      [nonEmptyString "venue" req.venue,
        nonEmptyString "instrument" req.instrument,
        positiveInt "seq" req.seq,
        positiveInt "ts_ingest" req.tsIngest] with
  | some p => some p
  | none =>
    if req.price.isNaN ∨ req.price.isInf ∨ req.price ≤ 0 then
      some (.new .validationFailed "price must be a positive finite number")
    else
      Problem.when (req.quantity.isNaN ∨ req.quantity.isInf ∨ req.quantity ≤ 0)
        (.new .validationFailed "quantity must be a positive finite number")

/-- The key of a request in a timeframe. -/
def keyIn (req : BuildTapeRequest) (timeframe : String) : TapeKey :=
  ⟨Naming.canonicalVenue req.venue, Naming.canonicalInstrument req.instrument, timeframe⟩

/-- The statements of `Execute` that follow the observation of a window. -/
def updateWindow (key : TapeKey) (windowDurationMs : Int) (req : BuildTapeRequest)
    (decision : WindowDecision) (forced : Option TapeWindowV1) : Action (List TapeWindowV1) :=
  if decision.isLate then pure forced.toList
  else do
    let rolled ← closeIfWindowChanged key decision.windowStart windowDurationMs
    let win ← getOrCreateWindow key decision.windowStart
    let win ← mutateWindow key win
      (TapeWindowV1.applyTrade req.price req.quantity req.isBuy req.seq)
    putWindow key win
    pure (forced.toList ++ rolled.toList)

/-- One timeframe of a request; the result lists the windows it has closed. -/
def rollWindow (req : BuildTapeRequest) (timeframe : String) : Action (List TapeWindowV1) := do
  let uc ← Prog.get
  let windowDurationMs := uc.windowMs.getD timeframe 0
  let (decision, forced) ← observeWindow (keyIn req timeframe) req.tsIngest windowDurationMs
  updateWindow (keyIn req timeframe) windowDurationMs req decision forced

/-- `Execute`; the result lists the closed windows. -/
def execute (req : BuildTapeRequest) : Action (List TapeWindowV1) := do
  Prog.check (validateRequest req)
  let uc ← Prog.get
  Prog.flatMap (rollWindow req) uc.timeframes

/-- The state after a request. -/
def step (uc : BuildTapeFromTrades) (req : BuildTapeRequest) : BuildTapeFromTrades :=
  (execute req uc).1

end BuildTapeFromTrades
end Aggregation
end StreamAnalytics
