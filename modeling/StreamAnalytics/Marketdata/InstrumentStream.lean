import StreamAnalytics.Lib.Fnv
import StreamAnalytics.Lib.Prog
import StreamAnalytics.Shared.Envelope
import StreamAnalytics.Shared.Naming

/-!
# Instrument streams

Model of `internal/core/marketdata/domain`: the identity of a stream and the
aggregate that numbers and deduplicates its events (`instrument_stream.go`,
`market_type.go`, `value_objects.go`).  Value objects over strings and integers
are the strings and integers themselves.
-/

namespace StreamAnalytics
namespace Marketdata

/-- `MarketType`. -/
inductive MarketType where
  | spot
  | usdMFutures
  | coinMFutures
deriving Repr, DecidableEq

namespace MarketType

/-- `String`. -/
def string : MarketType → String
  | spot => "SPOT"
  | usdMFutures => "USD_M_FUTURES"
  | coinMFutures => "COIN_M_FUTURES"

/-- `NewMarketType`. -/
def create (raw : String) : Except Problem MarketType :=
  let v := GoStrings.toUpper (GoStrings.trimSpace raw)
  if v = "SPOT" then .ok spot
  else if v = "USD_M_FUTURES" then .ok usdMFutures
  else if v = "COIN_M_FUTURES" then .ok coinMFutures
  else
    .error ((Problem.newf .validationFailed
      "market_type must be SPOT|USD_M_FUTURES|COIN_M_FUTURES, got %q" [.str raw]).withDetail
        "field" (.str "market_type"))

end MarketType

/-- A value object over a string that must not be empty. -/
def newName (field : String) (normalize : String → String) (raw : String) : Except Problem String :=
  match Validation.nonEmptyString field raw with
  | some p => .error p
  | none => .ok (normalize raw)

/-- `NewVenueID`. -/
def newVenueID : String → Except Problem String := newName "venue_id" Naming.canonicalVenue

/-- `NewInstrumentID`. -/
def newInstrumentID : String → Except Problem String :=
  newName "instrument_id" Naming.canonicalInstrument

/-- `NewEventType`. -/
def newEventType : String → Except Problem String := newName "event_type" Naming.normalizeEventType

/-- `NewSchemaVersion`. -/
def newSchemaVersion (v : Int) : Except Problem Int :=
  if v < 1 then
    .error ((Problem.newf .validationFailed "schema_version must be >= 1, got %d" [.int v]).withDetail
      "field" (.str "schema_version"))
  else .ok v

/-- `NewSequence`. -/
def newSequence (s : Int) : Except Problem Int :=
  match Validation.nonNegativeInt "seq" s with
  | some p => .error p
  | none => .ok s

/-- `NewTimestamp`. -/
def newTimestamp (ms : Int) : Except Problem Int :=
  match Validation.positiveInt "timestamp" ms with
  | some p => .error p
  | none => .ok ms

/-- `StreamID`. -/
structure StreamID where
  venue : String
  instrument : String
  marketType : MarketType
deriving Repr, DecidableEq

/-- `SequencerInstrumentKey`. -/
def StreamID.sequencerInstrumentKey (id : StreamID) : String :=
  id.instrument ++ ":" ++ id.marketType.string

/-- `InstrumentStream`. -/
structure InstrumentStream where
  id : StreamID
  dedupWindow : Int
  lastSeq : Int
  seen : GoMap UInt64 Unit
  seenOrd : List UInt64
  outOfOrderCount : Nat
  duplicateCount : Nat

/-- The arguments of `BuildEnvelope`. -/
structure EventDraft where
  eventType : String
  version : Int
  tsExchange : Int
  tsIngest : Int
  seq : Int
  contentType : String
  payload : List UInt8
  sourceIdempotencyKey : String

/-- What an idempotency key is made from. -/
inductive KeySource where
  | source (key : String)
  | derived (venue instrument eventType : String) (seq : Int)
deriving Repr, DecidableEq

namespace KeySource

/-- The idempotency key of an envelope. -/
def key : KeySource → String
  | source key => key
  | derived venue instrument eventType seq => Fnv.idempotencyKeyFast venue instrument eventType seq

/-- The hash under which the key is remembered. -/
def hash : KeySource → UInt64
  | source key => Fnv.sumFieldsFast64 [key]
  | derived venue instrument eventType seq =>
    Fnv.sumIdempotencyKeyFast64 venue instrument eventType seq

end KeySource

namespace InstrumentStream

/-- `NewInstrumentStreamWithMarketType`. -/
def create (rawVenue rawInstrument rawMarketType : String) (dedupWindow : Int) :
    Except Problem InstrumentStream := do
  let venue ← newVenueID rawVenue
  let instrument ← newInstrumentID rawInstrument
  let marketType ← MarketType.create (if rawMarketType = "" then MarketType.spot.string else rawMarketType)
  if dedupWindow ≤ 0 then .error (.new .validationFailed "dedup_window must be > 0")
  else
    .ok
      { id := ⟨venue, instrument, marketType⟩
        dedupWindow := dedupWindow
        lastSeq := 0
        seen := ∅
        seenOrd := []
        outOfOrderCount := 0
        duplicateCount := 0 }

/-- A new stream has accepted nothing. -/
theorem create_eq_ok
    {rawVenue rawInstrument rawMarketType : String} {dedupWindow : Int} {s : InstrumentStream}
    (h : create rawVenue rawInstrument rawMarketType dedupWindow = .ok s) :
    0 < s.dedupWindow ∧ s.lastSeq = 0 ∧ s.seen = ∅ ∧ s.seenOrd = [] := by
  unfold create at h
  cases hvenue : newVenueID rawVenue with
  | error p => simp [hvenue, bind, Except.bind] at h
  | ok venue =>
    cases hinstrument : newInstrumentID rawInstrument with
    | error p => simp [hvenue, hinstrument, bind, Except.bind] at h
    | ok instrument =>
      simp only [hvenue, hinstrument, bind, Except.bind] at h
      split at h
      · cases h
      · split at h
        · cases h
        · rename_i hwindow
          cases h
          exact ⟨not_le.mp hwindow, rfl, rfl, rfl⟩

/-- What the idempotency key of a draft is made from. -/
def keySource (s : InstrumentStream) (d : EventDraft) : KeySource :=
  if d.sourceIdempotencyKey ≠ "" then .source d.sourceIdempotencyKey
  else .derived s.id.venue s.id.instrument d.eventType d.seq

/-- `recordSeen`; the compaction of the backing array is left out. -/
def recordSeen (s : InstrumentStream) (ikeyHash : UInt64) : InstrumentStream :=
  let s :=
    if s.dedupWindow ≤ s.seenOrd.length then
      match s.seenOrd with
      | [] => s
      | oldest :: rest => { s with seenOrd := rest, seen := s.seen.erase oldest }
    else s
  { s with seen := s.seen.insert ikeyHash (), seenOrd := s.seenOrd ++ [ikeyHash] }

@[simp] theorem recordSeen_id
    (s : InstrumentStream) (hash : UInt64) : (s.recordSeen hash).id = s.id := by
  unfold recordSeen
  split_ifs
  · cases s.seenOrd <;> rfl
  · rfl

@[simp] theorem recordSeen_lastSeq
    (s : InstrumentStream) (hash : UInt64) : (s.recordSeen hash).lastSeq = s.lastSeq := by
  unfold recordSeen
  split_ifs
  · cases s.seenOrd <;> rfl
  · rfl

@[simp] theorem recordSeen_dedupWindow
    (s : InstrumentStream) (hash : UInt64) : (s.recordSeen hash).dedupWindow = s.dedupWindow := by
  unfold recordSeen
  split_ifs
  · cases s.seenOrd <;> rfl
  · rfl

/-- The problem of an event whose key was seen before. -/
def duplicateProblem (key : String) : Problem :=
  (Problem.newf .duplicate "duplicate event for key %s" [.str key]).withDetail
    "idempotency_key" (.str key)

/-- `BuildEnvelope`. -/
def buildEnvelope (d : EventDraft) : Prog Problem InstrumentStream Envelope :=
  fun s =>
    if d.seq ≤ s.lastSeq ∧ 0 < s.lastSeq then
      ({ s with outOfOrderCount := s.outOfOrderCount + 1 },
        .error (((Problem.newf .outOfOrder "seq %d is not greater than last seq %d for %s/%s"
          [.int d.seq, .int s.lastSeq, .str s.id.venue, .str s.id.instrument]).withDetail
            "seq" (.int d.seq)).withDetail "last_seq" (.int s.lastSeq)))
    else if (s.keySource d).hash ∈ s.seen then
      ({ s with duplicateCount := s.duplicateCount + 1 },
        .error (duplicateProblem (s.keySource d).key))
    else
      match Envelope.validate
          { type := d.eventType
            version := d.version
            venue := s.id.venue
            instrument := s.id.instrument
            tsExchange := d.tsExchange
            tsIngest := d.tsIngest
            seq := d.seq
            idempotencyKey := (s.keySource d).key
            contentType := d.contentType
            metadata := ∅
            payload := d.payload } with
      | .error p => (s, .error p)
      | .ok env => ({ s with lastSeq := d.seq }.recordSeen (s.keySource d).hash, .ok env)

end InstrumentStream

end Marketdata
end StreamAnalytics
