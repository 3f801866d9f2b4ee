import StreamAnalytics.Delivery.SessionCommands

/-!
# The session actor: delivery

Model of the write paths of `session_delivery.go` and of `Receive` in `session.go`,
in `internal/actors/delivery/runtime`.  The periodic ticks, which write control
frames only, and the messages that attach a connection or read a range are left out.
-/

namespace StreamAnalytics
namespace Delivery

open GoStrings Json

namespace SessionActor

variable (cfg : SessionConfig) (now : Nat)

/-- `prepareJSONPayload`. -/
def prepareJSONPayload (env : Envelope) : Except Problem Bytes :=
  if env.contentType ≠ Envelope.contentTypeProto then .ok env.payload else cfg.transcode env

/-- Tries again to send a snapshot that was not available at the subscription. -/
def emitDeferred (subject : Subject) : SessionProg PUnit := do
  let s ← Prog.get
  if subject.string ∈ s.deferredSnapshotSubjects then
    if ← emitHotSnapshot cfg now subject then
      Prog.modify fun s =>
        { s with
          deferredSnapshotSubjects := s.deferredSnapshotSubjects.erase subject.string }

/-! ## Single events -/

/-- A problem that wraps the error of an encoder or of the connection. -/
def internalProblem (msg : String) : Option Problem := some (Problem.new .internal msg)

/-- The record of a delivered event. -/
def recordDelivered (key : String) (seq : Int) (s : SessionActor) : SessionActor :=
  { s with lastDeliveredSeq := s.lastDeliveredSeq.insert key seq }

/-- The record of the payload of a delivered event, if it can serve as a snapshot. -/
def recordSnapshot (key : String) (entry : SessionSnapshotEntry) (s : SessionActor) :
    SessionActor :=
  if validJSON entry.payload then { s with lastSnapshot := s.lastSnapshot.insert key entry } else s

/--
Writes an encoded event: one that does not fit is dropped, one that is written is
recorded.
-/
def transmit (raw : Bytes) (frame : Frame) (failure : String)
    (record : SessionActor → SessionActor) : SessionProg (Option Problem) := do
  let s ← Prog.get
  if s.fits cfg raw then
    if ← Prog.act fun s => s.tryWrite cfg frame then
      assign record
      pure none
    else
      pure (internalProblem failure)
  else
    Prog.modify fun s => (s.onDrop cfg .frameTooLarge).1
    pure none

/-- The metadata that the protobuf path writes into the map of the envelope. -/
def stampMeta (subject : Subject) (prevSeq : Int) (metadata : GoMap String String) :
    GoMap String String :=
  let stamped := ((((metadata.insert "protocol_version" (toString wsProtocolVersion)).insert
    "server_instance_id" cfg.instanceID).insert
    "stream_id" subject.string).insert
    "channel" subject.channel).insert
    "ts_server" (toString (serverTS now))
  if 0 < prevSeq then stamped.insert "prev_seq" (toString prevSeq) else stamped

/-- The envelope that the protobuf path writes. -/
def protoEnvelope (evt : DeliveryEvent) (prevSeq : Int) : Envelope :=
  { evt.env with metadata := stampMeta cfg now evt.subject prevSeq evt.env.metadata }

/-- The frame of an event. -/
def eventFrame (evt : DeliveryEvent) (payload : Bytes) (prevSeq : Int) : EventFrame where
  subject := evt.subject.string
  serverInstanceID := cfg.instanceID
  seq := evt.env.seq
  prevSeq := prevSeq
  tsIngest := evt.env.tsIngest
  tsServer := serverTS now
  venue := evt.subject.venue
  symbol := evt.subject.symbol
  channel := evt.subject.channel
  payload := payload

/-- The entry that serves as a snapshot after an event. -/
def snapshotEntry (evt : DeliveryEvent) (channel : String) (payload : Bytes) :
    SessionSnapshotEntry where
  seq := evt.env.seq
  tsServer := serverTS now
  venue := evt.subject.venue
  symbol := evt.subject.symbol
  channel := channel
  payload := payload

/-- The protobuf path of `writeDeliveryEvent`. -/
def writeProtoEvent (evt : DeliveryEvent) : SessionProg (Option Problem) := do
  let s ← Prog.get
  let env := protoEnvelope cfg now evt (s.lastDeliveredSeq.getD evt.subject.string 0)
  match cfg.marshalEnvelope env with
  | .error p => pure (some p)
  | .ok raw =>
    transmit cfg raw (.proto env) "proto write failed"
      (recordDelivered evt.subject.string evt.env.seq)

/-- The path of `writeDeliveryEvent` for signals. -/
def writeSignalEvent (evt : DeliveryEvent) (payload : Bytes) : SessionProg (Option Problem) :=
  match cfg.signalPayload payload with
  | .error p => pure (some p)
  | .ok signal =>
    let frame : SignalFrame := ⟨evt.subject.string, evt.env.seq, serverTS now, signal⟩
    transmit cfg frame.marshal (.signal frame) "signal frame write failed" fun s =>
      s |> recordDelivered evt.subject.string evt.env.seq
        |> recordSnapshot evt.subject.string (snapshotEntry now evt "signal" payload)

/-- The path of `writeDeliveryEvent` for other events. -/
def writeJSONEvent (evt : DeliveryEvent) (payload : Bytes) : SessionProg (Option Problem) := do
  let s ← Prog.get
  let frame := eventFrame cfg now evt payload (s.lastDeliveredSeq.getD evt.subject.string 0)
  match frame.marshal with
  | none => pure (internalProblem "json marshal failed")
  | some raw =>
    transmit cfg raw (.event frame) "json write failed" fun s =>
      s |> recordDelivered evt.subject.string evt.env.seq
        |> recordSnapshot evt.subject.string (snapshotEntry now evt evt.subject.channel payload)

/-- `writeDeliveryEvent`. -/
def writeDeliveryEvent (evt : DeliveryEvent) : SessionProg (Option Problem) := do
  emitDeferred cfg now evt.subject
  if cfg.preferProto && cfg.protoRollout evt.env.type then
    writeProtoEvent cfg now evt
  else
    match prepareJSONPayload cfg evt.env with
    | .error p => pure (some p)
    | .ok payload =>
      if evt.subject.isSignal then writeSignalEvent cfg now evt payload
      else writeJSONEvent cfg now evt payload

/-! ## Batches -/

/-- The events at the front of the queue that one batch may hold. -/
def batchCandidates (maxItems : Nat) : List DeliveryEvent → List DeliveryEvent
  | [] => []
  | first :: rest =>
    first :: (rest.take (maxItems - 1)).takeWhile fun evt => evt.subject = first.subject

/-- The events of a batch in the form in which the frame needs them. -/
def prepareBatch (prevSeq : Int) : List DeliveryEvent → Except Problem (List PreparedBatchEvent)
  | [] => .ok []
  | evt :: rest =>
    match prepareJSONPayload cfg evt.env with
    | .error p => .error p
    | .ok payload =>
      match prepareBatch evt.env.seq rest with
      | .error p => .error p
      | .ok preps =>
        .ok (⟨evt.env.seq, prevSeq, evt.env.tsIngest, serverTS now, payload⟩ :: preps)

/-- The header of the batches of a subject. -/
def batchHeader (subject : Subject) : BatchHeader where
  streamID := subject.string
  serverInstanceID := cfg.instanceID
  venue := subject.venue
  symbol := subject.symbol
  channel := subject.channel

/-- The record of one event of a written batch, which is taken off the queue. -/
def recordBatchEvent (subject : Subject) (s : SessionActor) (prep : PreparedBatchEvent) :
    SessionActor :=
  ({ s with outbound := s.outbound.tail } : SessionActor)
    |> recordDelivered subject.string prep.seq
    |> recordSnapshot subject.string
      ⟨prep.seq, prep.tsServer, subject.venue, subject.symbol, subject.channel, prep.payload⟩

/-- The record of the events of a written batch. -/
def recordBatch (subject : Subject) (preps : List PreparedBatchEvent) (s : SessionActor) :
    SessionActor :=
  preps.foldl (recordBatchEvent subject) s

/-- The problem of events of which not even two fit into a frame. -/
def batchTooLarge (subject : Subject) (candidates : Nat) : Problem :=
  Problem.newf .validationFailed
    "batch candidate does not fit max_frame_bytes: stream_id=%s candidates=%d max_frame_bytes=%d"
    [.str subject.string, .int candidates, .int cfg.frameLimit]

/--
Writes the longest batch of at most `count` events that fits.  The result is the
number of events written.
-/
def writeLargestBatch (subject : Subject) (preps : List PreparedBatchEvent) :
    Nat → SessionProg (Except Problem Nat)
  | count + 2 => do
    let s ← Prog.get
    let events := preps.take (count + 2)
    match batchFrame (batchHeader cfg subject) events with
    | none => pure (.error (Problem.new .internal "batch marshal failed"))
    | some raw =>
      if s.fits cfg raw then
        if ← Prog.act fun s => s.tryWrite cfg (.batch (batchHeader cfg subject) events) then
          assign (recordBatch subject events)
          pure (.ok (count + 2))
        else
          pure (.error (Problem.new .internal "batch write failed"))
      else
        writeLargestBatch subject preps (count + 1)
  | _ => pure (.error (batchTooLarge cfg subject preps.length))

/-- `writeDeliveryBatchFromQueue`. -/
def writeDeliveryBatchFromQueue (maxItems : Nat) : SessionProg (Except Problem Nat) := do
  let s ← Prog.get
  match s.outbound with
  | [] => pure (.ok 0)
  | first :: rest =>
    if maxItems < 2 || rest.isEmpty then pure (.ok 0)
    else
      emitDeferred cfg now first.subject
      let candidates := batchCandidates maxItems (first :: rest)
      if candidates.length < 2 then pure (.ok 0)
      else
        let s ← Prog.get
        match prepareBatch cfg now (s.lastDeliveredSeq.getD first.subject.string 0) candidates with
        | .error p => pure (.error p)
        | .ok preps => writeLargestBatch cfg first.subject preps candidates.length

/-! ## Flushing -/

/-- The end of `flushOutbound` after its loop. -/
def flushAgain (s : SessionActor) : SessionActor :=
  if s.outbound = [] then { s with flushing := false }
  else { s with sent := s.sent ++ [.flushOutbound] }

/-- Takes the first event off the queue and writes it; the result says whether to go on. -/
def flushOne : SessionProg Bool := do
  let s ← Prog.get
  match s.outbound with
  | [] =>
    Prog.modify fun s => { s with flushing := false }
    pure false
  | evt :: rest =>
    Prog.modify fun s => { s with outbound := rest }
    match ← writeDeliveryEvent cfg now evt with
    | none => pure true
    | some _ =>
      Prog.modify (closeSession cfg)
      pure false

/-- The events that one round of `flushOutbound` writes as a batch. -/
def flushBatch (maxItems : Nat) : SessionProg (Except Problem Nat) := do
  let s ← Prog.get
  if s.features.batching && !cfg.preferProto then
    writeDeliveryBatchFromQueue cfg now maxItems
  else
    pure (.ok 0)

/-- The loop of `flushOutbound`, with the number of events it may still write. -/
def flushLoop : Nat → Nat → SessionProg PUnit
  | fuel + 1, remaining + 1 => do
    match ← flushBatch cfg now (remaining + 1) with
    | .error _ => Prog.modify (closeSession cfg)
    | .ok 0 => if ← flushOne cfg now then flushLoop fuel remaining
    | .ok sent => flushLoop fuel (remaining + 1 - sent)
  | _, _ => Prog.modify flushAgain

/-- `flushOutbound`. -/
def flushOutbound : SessionProg PUnit := do
  let s ← Prog.get
  if s.closed then
    Prog.modify fun s => { s with flushing := false }
  else
    flushLoop cfg now wsFlushBatchSize wsFlushBatchSize

/-! ## Messages -/

/-- The messages of a session, as far as they are modelled. -/
inductive SessionMsg where
  | started
  | stopped
  | disconnected
  | command (cmd : ClientCommand)
  | invalidText (op requestID : String)
  | event (evt : DeliveryEvent)
  | flush

/-- `emitHello`. -/
def emitHello (s : SessionActor) : SessionActor :=
  s.writeJSON cfg (.hello (GoTime.unixMilli now) cfg.instanceID)

/-- The maps after `ensureDefaults`. -/
def ensureDefaults (s : SessionActor) : SessionActor := { s with mapsNil := false }

/-- `Receive`. -/
def receive (msg : SessionMsg) : SessionProg PUnit := do
  Prog.modify ensureDefaults
  match msg with
  | .started =>
    Prog.modify fun s => sendRouter cfg .register { s with started := true }
    Prog.modify (emitHello cfg now)
  | .stopped | .disconnected => Prog.modify (closeSession cfg)
  | .command cmd => handleCommand cfg now cmd
  | .invalidText op requestID =>
    Prog.modify fun s => s.writeProblem cfg op requestID
      (Problem.new .validationFailed "invalid JSON payload")
  | .event evt => Prog.modify fun s => s.enqueueDelivery cfg evt
  | .flush => flushOutbound cfg now

/-- A message with the time of its arrival and the content of the shared cache then. -/
structure SessionInput where
  now : Nat
  cache : Option SnapshotWireCache := none
  msg : SessionMsg

/-- The session after a message; a panic leaves it as it was when the panic occurred. -/
def step (s : SessionActor) (input : SessionInput) : SessionActor :=
  (receive cfg input.now input.msg { s with wireCache := input.cache }).1

/-! ## Sample sessions -/

/-- A session without a provider whose connection takes every frame. -/
def plainConfig : SessionConfig where
  serverInstanceID := "srv"
  hasRouter := true
  conn := fun _ => true
  connCompression := false
  hotSnapshotProvider := none
  rangeStore := fun _ _ => .ok []
  rateLimiter := none
  outboundQueueSize := 0
  backpressurePolicy := .dropNewest
  backpressurePriorities := []
  preferProto := false
  protoRollout := fun _ => false
  slowClientDropThreshold := 0
  maxSubscriptions := 0
  maxSignalSubscriptions := 0
  maxSymbolsPerConnection := 0
  maxFrameBytes := 0
  compressionEnabled := false
  requireClientHello := false
  transcode := fun env => .ok env.payload
  signalPayload := .ok
  marshalEnvelope := fun env => .ok env.payload
  deflateSize := List.length
  snapshotMeta := fun _ => none

/-- A session whose provider has an empty object for every subject. -/
def hotConfig : SessionConfig :=
  { plainConfig with hotSnapshotProvider := some fun _ _ => some [123, 125] }

/-- The trades of one instrument. -/
def trades : Subject := ⟨"marketdata.trade", "", "binance", "BTCUSDT", "raw"⟩

/-- A command for a subject. -/
def request (op : String) (subject : Subject) : SessionMsg :=
  .command { op := op, subject := subject.string }

/-- An event of a subject with an empty object as its payload. -/
def delivery (subject : Subject) (seq : Int) : SessionMsg :=
  .event
    { subject := subject
      env :=
        { type := subject.streamType
          version := 1
          venue := subject.venue
          instrument := subject.symbol
          tsExchange := 1
          tsIngest := 1
          seq := seq
          idempotencyKey := ""
          contentType := Envelope.contentTypeJSON
          metadata := ∅
          payload := [123, 125] } }

/-- Messages that arrive one after the other at a session without a cache. -/
def atOnce (msgs : List SessionMsg) : List SessionInput :=
  msgs.map fun msg => { now := 0, msg := msg }

end SessionActor

end Delivery
end StreamAnalytics
