import StreamAnalytics.Shared.Naming
import StreamAnalytics.Aggregation.WatermarkWindow

/-!
# Building candles from trades

Model of `internal/core/aggregation/app/build_candle.go`.

The candle map is modelled as a map without bound: it agrees with the bounded map
of the source in every run in which that map evicts nothing.  The map holds
pointers, so a method called on a stored candle changes the entry of the map, also
when it returns a problem.

The store and the publisher are functions that return a problem or nothing;
`saved` and `published` list the events they have accepted.  `forceClosed` lists
the keys counted by the forced-close metric, one for each window that the manager
has dropped at its cap.
-/

namespace StreamAnalytics
namespace Aggregation

open GoInt Validation

/-- `candleTimeframeBase`. -/
def candleTimeframeBase : String := "1s"

/-- `BuildCandleConfig`; durations are nanoseconds. -/
structure BuildCandleConfig where
  windowCap : Int := 0
  lateTolerance : Int := 0
  windowDuration : Option (GoMap String Int) := none

/-- `BuildCandleRequest`. -/
structure BuildCandleRequest where
  venue : String
  instrument : String
  price : Float
  quantity : Float
  isBuy : Bool
  seq : Int
  tsIngest : Int
deriving DecidableEq

/-- `BuildCandleResponse`. -/
structure BuildCandleResponse where
  closed : List CandleV1
  activeCandles : Nat

/-- The store and the publisher, where they are configured. -/
structure CandlePorts where
  saveCandle : Option (CandleV1 → Option Problem)
  publishCandleClosed : Option (CandleV1 → Option Problem)

/-- Ports that accept every candle. -/
def CandlePorts.succeeding : CandlePorts := ⟨some fun _ => none, some fun _ => none⟩

/-- `BuildCandleFromEvents`, with the events that its ports have accepted. -/
structure BuildCandleFromEvents where
  candles : GoMap CandleKey CandleV1
  windows : WatermarkWindowManager
  windowMs : GoMap String Int
  timeframes : List String
  saved : List CandleV1
  published : List CandleV1
  forceClosed : List WindowKey

/-! ## Construction -/

/-- `dur.Milliseconds()`. -/
def milliseconds (dur : Int) : Int := dur.tdiv 1000000

/-- The defaults of `resolveWindowDurations`, in nanoseconds. -/
def defaultWindowDurations : List (String × Int) :=
  timeframeTable.map fun (timeframe, ms) => (timeframe, ms * 1000000)

/-- The duration that `resolveWindowDurations` picks for one timeframe. -/
def windowDuration (config : Option (GoMap String Int)) (timeframe : String) : Int :=
  match config.bind (·.lookup timeframe) with
  | some custom => custom
  | none => (defaultWindowDurations.lookup timeframe).getD 0

/-- `resolveWindowDurations`. -/
def resolveWindowDurations (config : Option (GoMap String Int)) :
    List String → Except Problem (GoMap String Int)
  | [] => .ok ∅
  | timeframe :: rest =>
    if windowDuration config timeframe ≤ 0 then
      .error (.newf .validationFailed "window duration must be > 0 for timeframe=%s"
        [.str timeframe])
    else
      match resolveWindowDurations config rest with
      | .error p => .error p
      | .ok out => .ok (out.insert timeframe (milliseconds (windowDuration config timeframe)))

/-- The result of a constructor, or else of a second attempt that does not fail. -/
def resultOr {α : Type} (result fallback : Except Problem α) (zero : α) : α :=
  match result, fallback with
  | .ok a, _ => a
  | .error _, .ok a => a
  | .error _, .error _ => zero

/-- `NewBuildCandleFromEvents`. -/
def BuildCandleFromEvents.create (cfg : BuildCandleConfig) : BuildCandleFromEvents where
  candles := ∅
  windows := resultOr
    (WatermarkWindowManager.create
      { maxOpenWindows := if cfg.windowCap ≤ 0 then 96 else cfg.windowCap
        lateToleranceMs :=
          milliseconds (if cfg.lateTolerance ≤ 0 then 30000000000 else cfg.lateTolerance) })
    (WatermarkWindowManager.create { maxOpenWindows := 96, lateToleranceMs := 30000 })
    ⟨96, 30000, ∅, []⟩
  windowMs := resultOr (resolveWindowDurations cfg.windowDuration allowedCandleTimeframes)
    (resolveWindowDurations none allowedCandleTimeframes) ∅
  timeframes := ["1s", "5s", "1m", "5m", "15m", "30m", "1h", "4h", "1d"]
  saved := []
  published := []
  forceClosed := []

namespace BuildCandleFromEvents

/-! ## The candle map and the ports -/

/-- Calls a method on the candle that is stored under the key. -/
def mutateCandle (key : CandleKey) (c : CandleV1) (x : Prog Problem CandleV1 PUnit) :
    Prog Problem BuildCandleFromEvents CandleV1 :=
  fun uc =>
    ({ uc with candles := uc.candles.insert key (x c).1 },
      match (x c).2 with
      | .ok _ => .ok (x c).1
      | .error p => .error p)

/-- One port call of `persistClosedCandle`; an accepted event is recorded. -/
def callPort (port : Option (CandleV1 → Option Problem)) (candle : CandleV1)
    (record : BuildCandleFromEvents → BuildCandleFromEvents) :
    Prog Problem BuildCandleFromEvents PUnit :=
  match port with
  | none => pure ⟨⟩
  | some call => do
    Prog.check (call candle)
    Prog.modify record

/-- `persistClosedCandle`. -/
def persistClosedCandle (ports : CandlePorts) (candle : CandleV1) :
    Prog Problem BuildCandleFromEvents PUnit := do
  callPort ports.saveCandle candle fun uc => { uc with saved := uc.saved ++ [candle] }
  callPort ports.publishCandleClosed candle fun uc =>
    { uc with published := uc.published ++ [candle] }

/-- Closes a stored candle, hands it to the ports and removes it from the map. -/
def finalizeCandle (ports : CandlePorts) (key : CandleKey) (existing : CandleV1)
    (windowDurationMs : Int) : Prog Problem BuildCandleFromEvents CandleV1 := do
  let candle ← mutateCandle key existing
    (CandleV1.close (wrap64 (existing.windowStartTs + windowDurationMs)))
  persistClosedCandle ports candle
  Prog.modify fun uc => { uc with candles := uc.candles.erase key }
  pure candle

/-- `closeIfWindowChanged`; the closed event and the closed copy are the same candle. -/
def closeIfWindowChanged (ports : CandlePorts) (key : CandleKey)
    (windowStart windowDurationMs : Int) :
    Prog Problem BuildCandleFromEvents (Option CandleV1) := do
  let uc ← Prog.get
  match uc.candles.lookup key with
  | none => pure none
  | some existing =>
    if existing.windowStartTs = windowStart then
      pure none
    else do
      let candle ← finalizeCandle ports key existing windowDurationMs
      pure (some candle)

/-- `getOrCreateCandle`. -/
def getOrCreateCandle (key : CandleKey) (windowStart : Int) :
    Prog Problem BuildCandleFromEvents CandleV1 := do
  let uc ← Prog.get
  match uc.candles.lookup key with
  | some c => do
    Prog.check (Problem.when (c.windowStartTs ≠ windowStart)
      (.new .integrityViolation "candle window mismatch after window roll"))
    pure c
  | none => do
    let c ← Prog.lift (CandleV1.create key.venue key.instrument key.timeframe windowStart)
    Prog.modify fun uc => { uc with candles := uc.candles.insert key c }
    pure c

/-- `forceCloseWindow`: the window is looked up under the key of the manager. -/
def forceCloseWindow (ports : CandlePorts) (forced : ForcedWindowClose) :
    Prog Problem BuildCandleFromEvents (Option CandleV1) := do
  let uc ← Prog.get
  match uc.candles.lookup forced.key with
  | none => pure none
  | some existing =>
    if existing.windowStartTs ≠ forced.windowStart then
      pure none
    else do
      let windowDurationMs := uc.windowMs.getD forced.key.timeframe 0
      Prog.check (Problem.when (windowDurationMs ≤ 0)
        (.newf .validationFailed "window duration must be > 0 for timeframe=%s"
          [.str forced.key.timeframe]))
      let candle ← finalizeCandle ports forced.key existing windowDurationMs
      pure (some candle)

/-- `observeWindow`; the constructor always sets a window manager. -/
def observeWindow (ports : CandlePorts) (key : CandleKey) (eventTsMs windowDurationMs : Int) :
    Prog Problem BuildCandleFromEvents (WindowDecision × Option CandleV1) := do
  let decision ← Prog.zoom BuildCandleFromEvents.windows (fun uc m => { uc with windows := m })
    (WatermarkWindowManager.observe key eventTsMs windowDurationMs)
  match decision.forcedClose with
  | none => pure (decision, none)
  | some forced => do
    Prog.modify fun uc => { uc with forceClosed := uc.forceClosed ++ [forced.key] }
    let forcedClosed ← forceCloseWindow ports forced
    pure (decision, forcedClosed)

/-! ## Requests -/

/-- The candles that one timeframe has closed: at the cap of the manager and by a window roll. -/
structure WindowRoll where
  forced : Option CandleV1
  rolled : Option CandleV1

/-- The closed events of a roll, in the order in which they are appended. -/
def WindowRoll.closed (r : WindowRoll) : List CandleV1 := r.forced.toList ++ r.rolled.toList

/--
The statements that follow the observation of a window, in `Execute` for the base
key and in `cascadeFromClosedBase` for each higher timeframe: the candle of an
earlier window is closed, and the candle of the current window is updated.  A late
event closes and updates nothing.
-/
def updateWindow (ports : CandlePorts) (key : CandleKey) (windowDurationMs : Int)
    (update : Prog Problem CandleV1 PUnit) (decision : WindowDecision)
    (forced : Option CandleV1) : Prog Problem BuildCandleFromEvents WindowRoll :=
  if decision.isLate then
    pure ⟨forced, none⟩
  else do
    let rolled ← closeIfWindowChanged ports key decision.windowStart windowDurationMs
    let candle ← getOrCreateCandle key decision.windowStart
    let candle ← mutateCandle key candle update
    Prog.modify fun uc => { uc with candles := uc.candles.insert key candle }
    pure ⟨forced, rolled⟩

/-- One timeframe of a request: the window is observed, and then its candle is updated. -/
def rollWindow (ports : CandlePorts) (key : CandleKey) (eventTsMs : Int)
    (update : Prog Problem CandleV1 PUnit) : Prog Problem BuildCandleFromEvents WindowRoll := do
  let uc ← Prog.get
  let windowDurationMs := uc.windowMs.getD key.timeframe 0
  let (decision, forced) ← observeWindow ports key eventTsMs windowDurationMs
  updateWindow ports key windowDurationMs update decision forced

/-- `validateRequest`. -/
def validateRequest (req : BuildCandleRequest) : Option Problem :=
  collect
    [nonEmptyString "venue" req.venue,
      nonEmptyString "instrument" req.instrument,
      positiveInt "seq" req.seq,
      positiveInt "ts_ingest" req.tsIngest,
      Problem.when (req.price.isNaN ∨ req.price.isInf ∨ req.price ≤ 0)
        (.new .validationFailed "price must be a positive finite number"),
      Problem.when (req.quantity.isNaN ∨ req.quantity.isInf ∨ req.quantity ≤ 0)
        (.new .validationFailed "quantity must be a positive finite number")]

/-- The loop of `cascadeFromClosedBase` over the timeframes. -/
def cascadeFromClosedBase (ports : CandlePorts) (base : CandleV1) :
    List String → Prog Problem BuildCandleFromEvents (List CandleV1)
  | [] => pure []
  | timeframe :: rest =>
    if timeframe = candleTimeframeBase then
      cascadeFromClosedBase ports base rest
    else do
      let roll ← rollWindow ports ⟨base.venue, base.instrument, timeframe⟩ base.windowStartTs
        (CandleV1.applyClosedCandle base)
      let closed ← cascadeFromClosedBase ports base rest
      pure (roll.closed ++ closed)

/-- The cascade of `Execute`, which runs if a base candle has been closed. -/
def cascadeIfClosed (ports : CandlePorts) (timeframes : List String) :
    Option CandleV1 → Prog Problem BuildCandleFromEvents (List CandleV1)
  | none => pure []
  | some baseClosed => cascadeFromClosedBase ports baseClosed timeframes

/-- The key of the base candle of a request. -/
def baseKey (req : BuildCandleRequest) : CandleKey :=
  ⟨Naming.canonicalVenue req.venue, Naming.canonicalInstrument req.instrument,
    candleTimeframeBase⟩

/-- `Execute`. -/
def execute (ports : CandlePorts) (req : BuildCandleRequest) :
    Prog Problem BuildCandleFromEvents BuildCandleResponse := do
  Prog.check (validateRequest req)
  let base ← rollWindow ports (baseKey req) req.tsIngest
    (CandleV1.applyTrade req.price req.quantity req.isBuy req.seq)
  let uc ← Prog.get
  let cascadeClosed ← cascadeIfClosed ports uc.timeframes base.rolled
  let uc ← Prog.get
  pure ⟨base.closed ++ cascadeClosed, uc.candles.size⟩

/-- The state after a request whose port calls succeed. -/
def step (uc : BuildCandleFromEvents) (req : BuildCandleRequest) : BuildCandleFromEvents :=
  (execute .succeeding req uc).1

end BuildCandleFromEvents

end Aggregation
end StreamAnalytics
