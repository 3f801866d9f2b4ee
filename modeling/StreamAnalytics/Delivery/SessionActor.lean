import StreamAnalytics.Delivery.Router
import StreamAnalytics.Delivery.SessionFrames
import StreamAnalytics.Lib.GoTime
import StreamAnalytics.Lib.LruCache
import StreamAnalytics.Lib.Prog

/-!
# The session actor: state, writes and the outbound queue

Model of `session.go`, `session_drop_policy.go`, `delivery_ring.go`,
`effective_limits.go`, `snapshot_wire_cache.go` and the write helpers of
`session_delivery.go` in `internal/actors/delivery/runtime`.

A session answers the commands of one client and delivers events to it.  What it
cannot control is given by its configuration: `conn n` says whether the `n`-th write
to the connection succeeds, `rateLimiter n` what the limiter answers to its `n`-th
question, `hotSnapshotProvider n` and `rangeStore n` what the provider and the store
return to the `n`-th call.  A closed connection refuses every write.  The codecs of
other packages are functions of the configuration as well.

Frames written to the connection are collected in `written`, messages to the router
and to the session itself in `sent`, the snapshots that the provider returned in
`provided`.  The ring of queued events is a list.  `closeSession` sets the maps of
the session to nil: they read as empty, and assigning to one stops the actor with a
panic until `ensureDefaults` makes them again at the next message.

The cache of encoded snapshots is shared by the sessions of a process; the model
keeps the frames in it and encodes them where their size matters.
-/

namespace StreamAnalytics
namespace Delivery

open GoStrings Json

/-! ## Configuration -/

/-- `BackpressurePolicy`, normalized. -/
inductive BackpressurePolicy where
  | dropNewest
  | dropOldest
  | priorityDrop
deriving Repr, DecidableEq

/-- `app.GetRangeRequest`, as a session fills it in. -/
structure RangeRequest where
  subjectRaw : String
  fromMs : Int
  toMs : Int
  limit : Int
deriving Repr, DecidableEq

/-- `SessionConfig` and the surroundings of a session. -/
structure SessionConfig where
  serverInstanceID : String
  hasRouter : Bool
  conn : Nat → Bool
  connCompression : Bool
  hotSnapshotProvider : Option (Nat → Subject → Option Bytes)
  rangeStore : Nat → RangeRequest → Except Problem (List RangeItem)
  rateLimiter : Option (Nat → Bool)
  outboundQueueSize : Int
  backpressurePolicy : BackpressurePolicy
  backpressurePriorities : List (String × Int)
  preferProto : Bool
  protoRollout : String → Bool
  slowClientDropThreshold : Int
  maxSubscriptions : Int
  maxSignalSubscriptions : Int
  maxSymbolsPerConnection : Int
  maxFrameBytes : Int
  compressionEnabled : Bool
  requireClientHello : Bool
  transcode : Envelope → Except Problem Bytes
  signalPayload : Bytes → Except Problem Bytes
  marshalEnvelope : Envelope → Except Problem Bytes
  deflateSize : Bytes → Nat
  snapshotMeta : Bytes → Option (Int × Int)

/-- `readLimitBytes`. -/
def readLimitBytes : Int := 64 * 1024

/-- `wsFlushBatchSize`. -/
def wsFlushBatchSize : Nat := 32

/-- `wsCompressThresholdBytes`. -/
def wsCompressThresholdBytes : Nat := 1024

namespace SessionConfig

/-- The server instance after `ensureDefaults`. -/
def instanceID (cfg : SessionConfig) : String :=
  if trimSpace cfg.serverInstanceID = "" then "unknown" else cfg.serverInstanceID

/-- `MaxFrameBytes` of `NewEffectiveLimits`. -/
def frameLimit (cfg : SessionConfig) : Int :=
  if cfg.maxFrameBytes ≤ 0 then readLimitBytes else cfg.maxFrameBytes

/-- `OutboundQueueSize` of `NewEffectiveLimits`. -/
def queueCapacity (cfg : SessionConfig) : Int :=
  if cfg.outboundQueueSize ≤ 0 then 256 else cfg.outboundQueueSize

end SessionConfig

/-- `DefaultBackpressurePriorities`. -/
def defaultBackpressurePriorities : List (String × Int) :=
  [("marketdata.trade", 100),
    ("aggregation.candle", 90),
    ("aggregation.stats", 80),
    ("aggregation.bar_stats", 78),
    ("aggregation.delta_volume", 76),
    ("aggregation.cvd", 76),
    ("aggregation.oi", 72),
    ("marketdata.bookdelta", 20),
    ("insights.heatmap_snapshot", 55),
    ("marketdata.markprice", 50),
    ("marketdata.open_interest", 48),
    ("marketdata.liquidation", 40),
    ("insights.crossvenue.trade_snapshot", 30),
    ("insights.crossvenue.spread_signal", 20),
    ("evidence.microstructure_evidence", 25),
    ("insights.microstructure_evidence", 25),
    ("liquidity.evidence", 25),
    ("signal.event", 70),
    ("signal.composite", 65),
    ("strategy.intent", 68),
    ("execution.event", 66),
    ("portfolio.state", 64),
    ("insights.volume_profile_snapshot", 20),
    ("insights.volume_profile_delta", 20),
    ("insights.heatmap_delta", 55),
    ("insights.session_volume_profile", 18),
    ("insights.tpo_profile", 18),
    ("insights.fused_volume_profile_snapshot", 15),
    ("insights.fused_heatmap_snapshot", 15)]

namespace SessionConfig

/-- `eventPriority`; configured priorities take precedence over the defaults. -/
def eventPriority (cfg : SessionConfig) (eventType : String) : Int :=
  let configured := cfg.backpressurePriorities.map fun (key, pri) => (toLower (trimSpace key), pri)
  ((configured.reverse ++ defaultBackpressurePriorities).lookup eventType).getD 0

/-- `isHighVolumeEventType`. -/
def isHighVolumeEventType (eventType : String) : Bool :=
  equalFoldASCII (trimSpace eventType) "marketdata.bookdelta"

/-- `dropScore`. -/
def dropScore (cfg : SessionConfig) (eventType : String) : Int :=
  cfg.eventPriority eventType * 10 - if isHighVolumeEventType eventType then 5 else 0

end SessionConfig

/-! ## Negotiated features -/

/-- `NegotiatedFeatures`. -/
structure NegotiatedFeatures where
  batching : Bool := false
  compress : Bool := false
  snapshotHash : Bool := false
  prevSeq : Bool := false
deriving Repr, DecidableEq

namespace NegotiatedFeatures

/-- The features with the named one, if it is known. -/
def add (nf : NegotiatedFeatures) (name : String) : Option NegotiatedFeatures :=
  match name with
  | "batching" => some { nf with batching := true }
  | "compress" => some { nf with compress := true }
  | "snapshot_hash" => some { nf with snapshotHash := true }
  | "prev_seq" => some { nf with prevSeq := true }
  | _ => none

/-- `List`. -/
def list (nf : NegotiatedFeatures) : List String :=
  (if nf.batching then ["batching"] else []) ++
    (if nf.compress then ["compress"] else []) ++
    (if nf.snapshotHash then ["snapshot_hash"] else []) ++
    (if nf.prevSeq then ["prev_seq"] else [])

/-- `NegotiateFeatures`: the features and the names that are not supported. -/
def negotiate (requested : List String) (compressionEnabled : Bool) :
    NegotiatedFeatures × List String :=
  let names := ((requested.map fun raw => toLower (trimSpace raw)).filter (· ≠ "")).dedup
  names.foldl (fun (nf, unknown) name =>
    if name = "compress" ∧ ¬ compressionEnabled then (nf, unknown ++ [name])
    else
      match nf.add name with
      | some nf => (nf, unknown)
      | none => (nf, unknown ++ [name])) ({}, [])

end NegotiatedFeatures

/-! ## State -/

/-- `SnapshotWireCache`. -/
abbrev SnapshotWireCache := LruCache String SnapshotFrame

/-- `snapshotWireCacheKey`. -/
def snapshotWireCacheKey (subject : Subject) (depth : Nat) : String :=
  toLower (trimSpace subject.venue) ++ "|" ++ toUpper (trimSpace subject.symbol) ++ "|" ++
    toLower (trimSpace subject.streamType) ++ "|" ++ toString depth

/-- `sessionSnapshotEntry`. -/
structure SessionSnapshotEntry where
  seq : Int
  tsServer : Int
  venue : String
  symbol : String
  channel : String
  payload : Bytes
deriving Repr, DecidableEq

/-- The messages that a session sends to the router and to itself. -/
inductive SessionSend where
  | register
  | subscribe (subject : Subject)
  | unsubscribe (subject : Subject)
  | unregister
  | flushOutbound
deriving Repr, DecidableEq

/-- A snapshot that the provider returned. -/
structure ProvidedSnapshot where
  time : Nat
  subject : Subject
  raw : Bytes
deriving Repr, DecidableEq

/-- `SessionActor`. -/
structure SessionActor where
  subscriptions : GoMap Subject Unit := ∅
  features : NegotiatedFeatures := {}
  started : Bool := false
  closed : Bool := false
  outbound : List DeliveryEvent := []
  flushing : Bool := false
  dropCount : Nat := 0
  helloSeen : Bool := false
  lastSnapshot : GoMap String SessionSnapshotEntry := ∅
  snapshotSeq : GoMap String Int := ∅
  lastDeliveredSeq : GoMap String Int := ∅
  deferredSnapshotSubjects : GoMap String Unit := ∅
  mapsNil : Bool := false
  resyncCount : Nat := 0
  wireCache : Option SnapshotWireCache := none
  written : List Frame := []
  sent : List SessionSend := []
  provided : List ProvidedSnapshot := []
  writes : Nat := 0
  providerCalls : Nat := 0
  storeCalls : Nat := 0
  limiterCalls : Nat := 0

/-- What stops the actor: an assignment to an entry of a nil map. -/
inductive Panic where
  | assignmentToNilMap
deriving Repr, DecidableEq

/-- A method of the session. -/
abbrev SessionProg (α : Type) := Prog Panic SessionActor α

namespace SessionActor

variable (cfg : SessionConfig)

/-! ## Writing to the connection -/

/-- `closeSession`. -/
def closeSession (s : SessionActor) : SessionActor :=
  if s.closed then s
  else
    { s with
      closed := true
      sent := s.sent ++
        if s.started ∧ cfg.hasRouter then
          s.subscriptions.keys.map SessionSend.unsubscribe ++ [.unregister]
        else []
      lastSnapshot := ∅
      snapshotSeq := ∅
      lastDeliveredSeq := ∅
      deferredSnapshotSubjects := ∅
      mapsNil := true }

/-- One write to the connection, and whether it succeeds. -/
def tryWrite (s : SessionActor) (f : Frame) : SessionActor × Bool :=
  if ¬ s.closed ∧ cfg.conn s.writes then
    ({ s with writes := s.writes + 1, written := s.written ++ [f] }, true)
  else
    ({ s with writes := s.writes + 1 }, false)

/-- `writeJSON`. -/
def writeJSON (s : SessionActor) (f : Frame) : SessionActor :=
  match s.tryWrite cfg f with
  | (s, true) => s
  | (s, false) => s.closeSession cfg

/-- `writeProblem`. -/
def writeProblem (s : SessionActor) (op requestID : String) (p : Problem) : SessionActor :=
  s.writeJSON cfg (.error op requestID p)

/-- The size on the wire that `planWireCompression` computes. -/
def wireSize (s : SessionActor) (raw : Bytes) : Nat :=
  if s.features.compress ∧ wsCompressThresholdBytes ≤ raw.length ∧ cfg.connCompression then
    let compressed := cfg.deflateSize raw
    if 0 < compressed ∧ compressed < raw.length then compressed else raw.length
  else
    raw.length

/-- Whether an encoded frame is within `MaxFrameBytes`. -/
def fits (s : SessionActor) (raw : Bytes) : Bool := s.wireSize cfg raw ≤ cfg.frameLimit

/-- `frameFitsMaxBytes`; a frame that cannot be encoded does not fit. -/
def frameFitsMaxBytes (s : SessionActor) (wire : Option Bytes) : Bool := wire.any (s.fits cfg)

/-- `clockNowMs` followed by `normalizeServerTS`. -/
def serverTS (now : Nat) : Int := max (GoTime.unixMilli now) 1

/-- `normalizeServerTS`. -/
def normalizeServerTS (now : Nat) (ts : Int) : Int := if 0 < ts then ts else serverTS now

/-! ## Drops -/

/-- The reasons for dropping an event. -/
inductive DropReason where
  | queueFull
  | dropOldest
  | priorityDrop
  | priorityDropSelf
  | frameTooLarge
deriving Repr, DecidableEq

/-- `withWSLimitProblemDetails`. -/
def withWSLimitProblemDetails (p : Problem) (limitType actionHint : String) : Problem :=
  (p.withDetail "error_code" (.str (trimSpace limitType))).withDetail
    "action_hint" (.str actionHint)

/-- The problem that a drop reports to the client. -/
def dropProblem : DropReason → Option Problem
  | .queueFull | .priorityDropSelf =>
    some (withWSLimitProblemDetails
      (Problem.new .unavailable "outbound queue limit reached")
      "outbound_queue_size" "ACTION_HINT_RECONNECT")
  | .frameTooLarge =>
    some (withWSLimitProblemDetails
      (Problem.newf .validationFailed "event exceeds max_frame_bytes (%d)" [.int cfg.frameLimit])
      "max_frame_bytes" "ACTION_HINT_NONE")
  | .dropOldest | .priorityDrop => none

/-- The problem reported before a slow client is disconnected. -/
def slowClientProblem : Problem :=
  withWSLimitProblemDetails
    (Problem.new .unavailable "outbound queue limit reached; disconnecting slow client")
    "outbound_queue_size" "ACTION_HINT_RECONNECT"

/-- The report of a drop to the client. -/
def reportDrop (s : SessionActor) (reason : DropReason) : SessionActor :=
  match dropProblem cfg reason with
  | some p => s.writeProblem cfg "delivery" "" p
  | none => s

/-- `onDrop`, and whether the session was closed for it. -/
def onDrop (s : SessionActor) (reason : DropReason) : SessionActor × Bool :=
  let s := s.reportDrop cfg reason
  let s := { s with dropCount := s.dropCount + 1 }
  if cfg.slowClientDropThreshold ≤ 0 ∨ s.dropCount < cfg.slowClientDropThreshold then
    (s, false)
  else
    ((s.writeProblem cfg "delivery" "" slowClientProblem).closeSession cfg, true)

/-! ## The outbound queue -/

/-- `IsFull` of the ring. -/
def isFull (s : SessionActor) : Bool := cfg.queueCapacity ≤ s.outbound.length

/-- Asks the session itself for a flush, unless one is on its way. -/
def requestFlush (s : SessionActor) : SessionActor :=
  if s.flushing then s
  else { s with flushing := true, sent := s.sent ++ [.flushOutbound] }

/--
The first queued event of the lowest score below `score`, at or behind `index`, or
`best` if there is none.
-/
def lowestScored (score : Int) (best : Option Nat) : Nat → List DeliveryEvent → Option Nat
  | _, [] => best
  | index, evt :: rest =>
    if cfg.dropScore evt.env.type < score then
      lowestScored (cfg.dropScore evt.env.type) (some index) (index + 1) rest
    else
      lowestScored score best (index + 1) rest

/-- `priorityDrop` on a full queue: the queue with the event in place of another one. -/
def priorityDrop (s : SessionActor) (evt : DeliveryEvent) : Option SessionActor :=
  (lowestScored cfg (cfg.dropScore evt.env.type) none 0 s.outbound).map fun index =>
    { s with outbound := s.outbound.eraseIdx index ++ [evt] }

/-- `PushBack` and the request for a flush. -/
def pushBack (s : SessionActor) (evt : DeliveryEvent) : SessionActor :=
  requestFlush { s with outbound := s.outbound ++ [evt] }

/-- `enqueueDelivery`. -/
def enqueueDelivery (s : SessionActor) (evt : DeliveryEvent) : SessionActor :=
  if s.isFull cfg then
    match cfg.backpressurePolicy with
    | .dropNewest => (s.onDrop cfg .queueFull).1
    | .dropOldest =>
      match ({ s with outbound := s.outbound.tail } : SessionActor).onDrop cfg .dropOldest with
      | (s, true) => s
      | (s, false) => s.pushBack evt
    | .priorityDrop =>
      match s.priorityDrop cfg evt with
      | none => (s.onDrop cfg .priorityDropSelf).1
      | some s =>
        match s.onDrop cfg .priorityDrop with
        | (s, true) => s
        | (s, false) => s.requestFlush
  else
    s.pushBack evt

/-! ## Maps and the provider -/

/-- An assignment to an entry of one of the maps. -/
def assign (f : SessionActor → SessionActor) : SessionProg PUnit :=
  fun s => if s.mapsNil then (s, .error .assignmentToNilMap) else (f s, .ok ⟨⟩)

/-- `GetLatest` of the provider. -/
def getLatest (provider : Nat → Subject → Option Bytes) (now : Nat) (subject : Subject)
    (s : SessionActor) : SessionActor × Option Bytes :=
  let answer := provider s.providerCalls subject
  ({ s with
      providerCalls := s.providerCalls + 1
      provided := s.provided ++ (answer.toList.map fun raw => ⟨now, subject, raw⟩) }, answer)

end SessionActor

end Delivery
end StreamAnalytics
