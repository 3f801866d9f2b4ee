import StreamAnalytics.Lib.GoTime
import StreamAnalytics.Lib.Runs
import StreamAnalytics.Shared.BoundedMapContract
import StreamAnalytics.Marketdata.InstrumentStream

/-!
# The ingest use case

Model of `internal/core/marketdata/app/ingest.go`.  The streams are shared by
pointer, so the map of streams holds positions of a heap.  The clock, the
sequencer and the publisher are given by the sequence of their answers; the codec
that encodes a payload is a function.  The calls of the sequencer and the
published envelopes, with the streams they come from, are recorded in order.
-/

namespace StreamAnalytics
namespace Marketdata

open Validation

/-- `IngestRequest`; a missing payload is nil. -/
structure IngestRequest (P : Type) where
  venue : String
  instrument : String
  marketType : String
  eventType : String
  version : Int
  tsExchange : Int
  idempotencyKey : String
  payload : Option P
  metadata : GoMap String String

/-- `IngestConfig`, with the error of the codec registry, if its bootstrap fails. -/
structure IngestConfig where
  dedupWindowSize : Int
  maxStreams : Int
  streamTTL : Int
  publishContentType : String
  bootstrapErr : Option Problem

/-- A call of the sequencer that returned a number. -/
structure SequencerCall where
  venue : String
  instrumentKey : String
  seq : Int
deriving Repr, DecidableEq

/-- `IngestMarketData` with the heap of its streams and its ports. -/
structure IngestMarketData (P : Type) where
  streams : BoundedMap StreamID Nat
  heap : List InstrumentStream
  dedupWindow : Int
  publishContentType : String
  payloadCodecErr : Option Problem
  /-- `codec.EncodePayload` of an event type, a version and a content type. -/
  encode : String → Int → String → P → Except Problem (List UInt8)
  /-- The readings of the clock, in nanoseconds since the zero time. -/
  clock : Nat → Nat
  readings : Nat
  /-- The answers of the sequencer, call by call. -/
  sequencer : Nat → Except Problem Int
  sequencerCalls : Nat
  numbers : List SequencerCall
  /-- The answers of the publisher, call by call. -/
  publisher : Nat → Option Problem
  publisherCalls : Nat
  published : List (StreamID × Envelope)
  /-- The keys that the streams have accepted, for the statements only. -/
  accepted : List (Nat × KeySource)

/-- `IngestResponse`; the topic is a function of the envelope. -/
structure IngestResponse where
  published : Envelope
  seq : Int

namespace IngestMarketData

variable {P : Type}

/-- The default of `DedupWindowSize`. -/
def defaultDedupWindowSize : Int := 1024

/-- `NewIngestMarketDataWithConfig`. -/
def create (cfg : IngestConfig)
    (encode : String → Int → String → P → Except Problem (List UInt8)) (clock : Nat → Nat)
    (sequencer : Nat → Except Problem Int) (publisher : Nat → Option Problem) :
    IngestMarketData P where
  streams := BoundedMap.configured (if cfg.maxStreams ≤ 0 then 10000 else cfg.maxStreams)
    (if cfg.streamTTL ≤ 0 then 3600000000000 else cfg.streamTTL) (clock 0) true 1024 1000000000
  heap := []
  dedupWindow := if cfg.dedupWindowSize ≤ 0 then defaultDedupWindowSize else cfg.dedupWindowSize
  publishContentType := (Envelope.normalizeContentType cfg.publishContentType).toOption.getD ""
  payloadCodecErr :=
    match Envelope.normalizeContentType cfg.publishContentType with
    | .error p => some p
    | .ok _ => cfg.bootstrapErr
  encode := encode
  clock := clock
  readings := 1
  sequencer := sequencer
  sequencerCalls := 0
  numbers := []
  publisher := publisher
  publisherCalls := 0
  published := []
  accepted := []

/-- A program of the use case. -/
abbrev Action (P α : Type) := Prog Problem (IngestMarketData P) α

/-- `clock.Now`. -/
def now : Action P Nat :=
  Prog.act fun uc => ({ uc with readings := uc.readings + 1 }, uc.clock uc.readings)

/-- `prepareRequest`: the event type, the version and the encoded payload. -/
def prepareRequest (uc : IngestMarketData P) (req : IngestRequest P) :
    Except Problem (String × Int × List UInt8) :=
  match uc.payloadCodecErr with
  | some p => .error p
  | none =>
    match collect
        [nonEmptyString "venue" req.venue,
          nonEmptyString "instrument" req.instrument,
          nonEmptyString "event_type" req.eventType,
          positiveInt "version" req.version] with
    | some p => .error p
    | none =>
      match req.payload with
      | none => .error (.new .validationFailed "payload must not be nil")
      | some payload => do
        let eventType ← newEventType req.eventType
        let version ← newSchemaVersion req.version
        let bytes ← uc.encode eventType version uc.publishContentType payload
        .ok (eventType, version, bytes)

/-- `getOrCreateStream`: the position of the stream and its identity. -/
def getOrCreateStream (rawVenue rawInstrument rawMarketType : String) :
    Action P (Nat × StreamID) := do
  let uc ← Prog.get
  let tmp ← Prog.lift (InstrumentStream.create rawVenue rawInstrument rawMarketType uc.dedupWindow)
  let t ← now
  let existing ← Prog.act fun uc =>
    ({ uc with streams := (uc.streams.get t tmp.id).2.1 }, (uc.streams.get t tmp.id).1)
  match existing with
  | some ref => pure (ref, tmp.id)
  | none => do
    let t ← now
    Prog.act fun uc =>
      ({ uc with
        streams := (uc.streams.put t tmp.id uc.heap.length).1
        heap := uc.heap ++ [tmp] }, (uc.heap.length, tmp.id))

/-- `sequencer.Next` for a stream. -/
def next (id : StreamID) : Action P Int := do
  let uc ← Prog.get
  Prog.modify fun uc => { uc with sequencerCalls := uc.sequencerCalls + 1 }
  let n ← Prog.lift (uc.sequencer uc.sequencerCalls)
  Prog.modify fun uc =>
    { uc with numbers := uc.numbers ++ [⟨id.venue, id.sequencerInstrumentKey, n⟩] }
  pure n

/-- The steps of `Execute` up to the call of `BuildEnvelope`. -/
def prepare (req : IngestRequest P) : Action P (Nat × StreamID × EventDraft) := do
  let uc ← Prog.get
  let (eventType, version, bytes) ← Prog.lift (uc.prepareRequest req)
  let (ref, id) ← getOrCreateStream req.venue req.instrument req.marketType
  let t ← now
  let tsIngest ← Prog.lift (newTimestamp (GoTime.unixMilli t))
  let n ← next id
  let seq ← Prog.lift (newSequence n)
  pure (ref, id,
    { eventType := eventType
      version := version
      tsExchange := if req.tsExchange ≤ 0 then tsIngest else req.tsExchange
      tsIngest := tsIngest
      seq := seq
      contentType := uc.publishContentType
      payload := bytes
      sourceIdempotencyKey := req.idempotencyKey })

/-- `BuildEnvelope` of the stream at a position of the heap. -/
def build (ref : Nat) (d : EventDraft) : Action P Envelope :=
  fun uc =>
    match uc.heap[ref]? with
    -- Not in the source: the positions that `getOrCreateStream` returns are on the heap.
    | none => (uc, .error (.new .internal "dangling pointer"))
    | some s =>
      match InstrumentStream.buildEnvelope d s with
      | (s', .error p) => ({ uc with heap := uc.heap.set ref s' }, .error p)
      | (s', .ok env) =>
        ({ uc with
          heap := uc.heap.set ref s'
          accepted := uc.accepted ++ [(ref, s.keySource d)] }, .ok env)

/-- The envelope with the metadata of the request, if there are any. -/
def withMetadata (req : IngestRequest P) (env : Envelope) : Envelope :=
  if req.metadata.size = 0 then env else { env with metadata := req.metadata }

/-- `publisher.Publish`. -/
def publish (id : StreamID) (env : Envelope) : Action P IngestResponse := do
  let uc ← Prog.get
  Prog.modify fun uc => { uc with publisherCalls := uc.publisherCalls + 1 }
  Prog.check (uc.publisher uc.publisherCalls)
  Prog.modify fun uc => { uc with published := uc.published ++ [(id, env)] }
  pure ⟨env, env.seq⟩

/-- `Execute`. -/
def execute (req : IngestRequest P) : Action P IngestResponse := do
  let (ref, id, d) ← prepare req
  let env ← build ref d
  publish id (withMetadata req env)

/-- One request of a run. -/
def step (uc : IngestMarketData P) (req : IngestRequest P) : IngestMarketData P :=
  (execute req uc).1

end IngestMarketData

end Marketdata
end StreamAnalytics
