import StreamAnalytics.Shared.Envelope
import StreamAnalytics.Shared.Naming

/-!
# Delivery subjects

Model of `internal/core/delivery/domain`: the routing key of a delivery stream
(`subject.go`) and the contract policy for envelopes (`envelope_policy.go`).
-/

namespace StreamAnalytics
namespace Delivery

open GoStrings

/-- `DefaultTimeframe`. -/
def defaultTimeframe : String := "raw"

def signalStreamType : String := "signal"
def signalCompositeEventType : String := "signal.composite"
def signalEventType : String := "signal.event"
def unknownSignalSubjectKind : String := "unknown"

/-- `Subject`. -/
structure Subject where
  streamType : String
  kind : String
  venue : String
  symbol : String
  timeframe : String
deriving Repr, DecidableEq

/-- `NormalizeSymbol`. -/
def normalizeSymbol (raw : String) : String := Naming.canonicalInstrument raw

/-- `NewSubject`. -/
def newSubject (streamType venue symbol timeframe : String) : Except Problem Subject :=
  let streamType := toLower (trimSpace streamType)
  let venue := toLower (trimSpace venue)
  let symbol := normalizeSymbol symbol
  let timeframe := toLower (trimSpace timeframe)
  if streamType = "" then
    .error (Problem.new .validationFailed "subject stream_type must not be empty")
  else if venue = "" then
    .error (Problem.new .validationFailed "subject venue must not be empty")
  else if symbol = "" then
    .error (Problem.new .validationFailed "subject symbol must not be empty")
  else
    .ok
      { streamType := streamType
        kind := ""
        venue := venue
        symbol := symbol
        timeframe := if timeframe = "" then defaultTimeframe else timeframe }

/-- `NewSignalSubject`. -/
def newSignalSubject (kind venue symbol timeframe : String) : Except Problem Subject :=
  let kind := toLower (trimSpace kind)
  let venue := toLower (trimSpace venue)
  let symbol := normalizeSymbol symbol
  let timeframe := toLower (trimSpace timeframe)
  if kind = "" then
    .error (Problem.new .validationFailed "subject signal kind must not be empty")
  else if venue = "" then
    .error (Problem.new .validationFailed "subject venue must not be empty")
  else if symbol = "" then
    .error (Problem.new .validationFailed "subject symbol must not be empty")
  else
    .ok
      { streamType := signalStreamType
        kind := kind
        venue := venue
        symbol := symbol
        timeframe := if timeframe = "" then defaultTimeframe else timeframe }

/-- `ParseSubject`. -/
def parseSubject (raw : String) : Except Problem Subject :=
  match split (trimSpace raw) '/' with
  | [streamType, venue, symbol, timeframe] => newSubject streamType venue symbol timeframe
  | [signal, kind, venue, symbol, timeframe] =>
    if equalFoldASCII (trimSpace signal) signalStreamType then
      newSignalSubject kind venue symbol timeframe
    else
      .error (segmentProblem raw)
  | _ => .error (segmentProblem raw)
where
  segmentProblem (raw : String) : Problem :=
    Problem.newf .validationFailed
      "subject must have 4 segments <stream_type>/<venue>/<symbol>/<timeframe> or 5 segments signal/<kind>/<venue>/<symbol>/<timeframe>, got %q"
      [.str raw]

/-- A metadata value, the empty string if the key is missing. -/
def metaValue (env : Envelope) (key : String) : String := env.metadata.getD key ""

/-- `SubjectFromEnvelope`. -/
def subjectFromEnvelope (env : Envelope) (timeframe : String) : Except Problem Subject :=
  let eventType := toLower (trimSpace env.type)
  if eventType = signalCompositeEventType ∨ eventType = signalEventType then
    let rawKind := toLower (trimSpace (metaValue env "kind"))
    let kind := if rawKind = "" then unknownSignalSubjectKind else rawKind
    newSignalSubject kind env.venue env.instrument timeframe
  else
    newSubject env.type env.venue env.instrument timeframe

namespace Subject

/-- `IsSignal`. -/
def isSignal (s : Subject) : Bool := equalFoldASCII (trimSpace s.streamType) signalStreamType

/-- `String`: the identifier of the subject's stream. -/
@[irreducible] def string (s : Subject) : String :=
  if s.isSignal then
    let kind := toLower (trimSpace s.kind)
    let kind := if kind = "" then unknownSignalSubjectKind else kind
    signalStreamType ++ "/" ++ kind ++ "/" ++ s.venue ++ "/" ++ s.symbol ++ "/" ++ s.timeframe
  else
    s.streamType ++ "/" ++ s.venue ++ "/" ++ s.symbol ++ "/" ++ s.timeframe

end Subject

/-! ## The contract policy -/

/-- `deliveryContract`. -/
structure DeliveryContract where
  version : Int
  ownerBC : String
  producerBC : String
  schemaAuthority : String
deriving Repr, DecidableEq

/-- A contract of version 1 whose schema belongs to the producer. -/
def contractV1 (ownerBC producerBC : String) : DeliveryContract :=
  ⟨1, ownerBC, producerBC, producerBC⟩

/-- `deliveryContracts`. -/
def deliveryContracts : List (String × DeliveryContract) :=
  [("marketdata.trade", contractV1 "marketdata" "marketdata"),
    ("marketdata.bookdelta", contractV1 "marketdata" "marketdata"),
    ("marketdata.markprice", contractV1 "marketdata" "marketdata"),
    ("marketdata.open_interest", contractV1 "marketdata" "marketdata"),
    ("marketdata.liquidation", contractV1 "marketdata" "marketdata"),
    ("insights.crossvenue.trade_snapshot", contractV1 "insights" "aggregation"),
    ("insights.crossvenue.spread_signal", contractV1 "insights" "aggregation"),
    ("evidence.microstructure_evidence", contractV1 "evidence" "evidence"),
    ("liquidity.evidence", contractV1 "evidence" "evidence"),
    ("evidence.regime_evidence", contractV1 "evidence" "evidence"),
    ("insights.microstructure_evidence", contractV1 "evidence" "evidence"),
    ("insights.regime_evidence", contractV1 "evidence" "evidence"),
    ("signal.composite", contractV1 "signal" "signal"),
    ("signal.event", contractV1 "signal" "signal"),
    ("strategy.intent", contractV1 "strategy" "strategy"),
    ("execution.event", contractV1 "execution" "execution"),
    ("portfolio.state", contractV1 "portfolio" "portfolio"),
    ("aggregation.snapshot", contractV1 "aggregation" "aggregation"),
    ("aggregation.orderbook_inconsistency", contractV1 "aggregation" "aggregation"),
    ("aggregation.candle", contractV1 "aggregation" "aggregation"),
    ("aggregation.stats", contractV1 "aggregation" "aggregation"),
    ("aggregation.tape", contractV1 "aggregation" "aggregation"),
    ("aggregation.oi", contractV1 "aggregation" "aggregation"),
    ("aggregation.delta_volume", contractV1 "aggregation" "aggregation"),
    ("aggregation.cvd", contractV1 "aggregation" "aggregation"),
    ("aggregation.bar_stats", contractV1 "aggregation" "aggregation"),
    ("insights.heatmap_snapshot", contractV1 "insights" "aggregation"),
    ("insights.heatmap_delta", contractV1 "insights" "aggregation"),
    ("insights.volume_profile_snapshot", contractV1 "insights" "aggregation"),
    ("insights.volume_profile_delta", contractV1 "insights" "aggregation"),
    ("insights.session_volume_profile", contractV1 "insights" "aggregation"),
    ("insights.tpo_profile", contractV1 "insights" "aggregation"),
    ("insights.fused_volume_profile_snapshot", contractV1 "insights" "aggregation"),
    ("insights.fused_heatmap_snapshot", contractV1 "insights" "aggregation")]

/-- `ValidateEnvelopeForDelivery`. -/
@[irreducible]
def validateEnvelopeForDelivery (env : Envelope) : Option Problem :=
  let eventType := toLower (trimSpace env.type)
  match deliveryContracts.lookup eventType with
  | none =>
    some (Problem.newf .validationFailed "delivery stream type %q is not allowed" [.str env.type])
  | some contract =>
    if env.version ≠ contract.version then
      some (Problem.newf .validationFailed
        "delivery stream version mismatch for %q: got v%d want v%d"
        [.str eventType, .int env.version, .int contract.version])
    else if contract.ownerBC ≠ contract.producerBC then
      if trimSpace contract.schemaAuthority = "" then
        some (Problem.newf .validationFailed
          "delivery governance missing schema authority for %q" [.str eventType])
      else if contract.schemaAuthority ≠ contract.ownerBC ∧
          contract.schemaAuthority ≠ contract.producerBC then
        some (Problem.newf .validationFailed
          "delivery governance invalid schema authority for %q" [.str eventType])
      else
        none
    else
      none

end Delivery
end StreamAnalytics
