import StreamAnalytics.Delivery.SessionActor

/-!
# The session actor: snapshots and commands

Model of `session_commands.go` and of the command handlers of `session_protocol.go`
in `internal/actors/delivery/runtime`.  The commands `getlast` and `getrange`, which
only read the store, are left out.  A clock reading stays the same while one message
is handled.
-/

namespace StreamAnalytics
namespace Delivery

open GoInt GoStrings Json

namespace SessionActor

variable (cfg : SessionConfig) (now : Nat)

/-! ## Snapshots -/

/-- `hotSnapshotRangeItem`. -/
def hotSnapshotRangeItem (raw : Bytes) : RangeItem :=
  match cfg.snapshotMeta raw with
  | none => ⟨0, 0, raw⟩
  | some (seqLast, windowEndTs) =>
    ⟨if 0 < seqLast then seqLast else 0, if 0 < windowEndTs then windowEndTs else 0, raw⟩

/-- The snapshot frame of a payload of the provider. -/
def hotFrame (subject : Subject) (raw : Bytes) (snapshotSeq : Int) : SnapshotFrame where
  subject := subject.string
  serverInstanceID := cfg.instanceID
  seq := (hotSnapshotRangeItem cfg raw).seq
  tsServer := serverTS now
  venue := subject.venue
  symbol := subject.symbol
  channel := subject.channel
  payload := raw
  source := .hotSnapshotFallback
  snapshotSeq := snapshotSeq
  watermarkSeq := (hotSnapshotRangeItem cfg raw).seq

/-- The snapshot frame of the last event of a subject. -/
def lastEventFrame (key : String) (entry : SessionSnapshotEntry) (snapshotSeq : Int) :
    SnapshotFrame where
  subject := key
  serverInstanceID := cfg.instanceID
  seq := entry.seq
  tsServer := normalizeServerTS now entry.tsServer
  venue := entry.venue
  symbol := entry.symbol
  channel := entry.channel
  payload := entry.payload
  source := .sessionLastEvent
  snapshotSeq := snapshotSeq
  watermarkSeq := entry.seq

/-- The number of the next snapshot of a subject. -/
def nextSnapshotSeq (s : SessionActor) (key : String) : Int := s.snapshotSeq.getD key 0 + 1

/-- Counts a snapshot of a subject. -/
def countSnapshot (key : String) (s : SessionActor) : SessionActor :=
  { s with snapshotSeq := s.snapshotSeq.insert key (s.nextSnapshotSeq key) }

/-- Writes a numbered snapshot frame if it fits, and counts a drop otherwise. -/
def writeSnapshot (f : SnapshotFrame) (s : SessionActor) : SessionActor × Bool :=
  if s.frameFitsMaxBytes cfg f.marshal then
    (s.writeJSON cfg (.snapshot f), true)
  else
    ((s.onDrop cfg .frameTooLarge).1, false)

/-- Counts a snapshot and writes the frame with its number. -/
def emitNumbered (key : String) (frame : Int → SnapshotFrame) : SessionProg Bool := do
  let s ← Prog.get
  assign (countSnapshot key)
  Prog.act (writeSnapshot cfg (frame (s.nextSnapshotSeq key)))

/-- `writeJSONRawWithLimits` of an encoded snapshot frame. -/
def writeJSONRawWithLimits (f : SnapshotFrame) (s : SessionActor) : SessionActor × Bool :=
  if s.frameFitsMaxBytes cfg f.marshal then s.tryWrite cfg (.snapshot f) else (s, false)

/-- Looks a snapshot up in the shared cache and writes the frame found there. -/
def replayCached (cache : SnapshotWireCache) (subject : Subject) (s : SessionActor) :
    SessionActor × Bool :=
  match cache.get (snapshotWireCacheKey subject 0) now with
  | (none, cache) => ({ s with wireCache := some cache }, false)
  | (some frame, cache) =>
    ({ s with wireCache := some cache } : SessionActor) |> writeJSONRawWithLimits cfg frame

/-- Stores the frame of a snapshot in the shared cache. -/
def storeCached (subject : Subject) (frame : SnapshotFrame) (s : SessionActor) : SessionActor :=
  { s with
    wireCache := s.wireCache.map fun cache =>
      cache.set (snapshotWireCacheKey subject 0) frame now }

/-- Writes the frame of a payload of the provider and stores it in the shared cache. -/
def writeAndCache (subject : Subject) (raw : Bytes) (s : SessionActor) : SessionActor × Bool :=
  match s |> writeJSONRawWithLimits cfg (hotFrame cfg now subject raw 0) with
  | (s, true) => (s.storeCached now subject (hotFrame cfg now subject raw 0), true)
  | (s, false) => ((s.onDrop cfg .frameTooLarge).1, false)

/-- The cached frame of a subject, or else the frame of a payload of the provider. -/
def emitCached (cache : SnapshotWireCache) (subject : Subject) (raw : Bytes) (s : SessionActor) :
    SessionActor × Bool :=
  match s |> replayCached cfg now cache subject with
  | (s, true) => (s, true)
  | (s, false) => s |> writeAndCache cfg now subject raw

/-- A snapshot made of the last event of the subject. -/
def emitLastEvent (subject : Subject) : SessionProg Bool := do
  let s ← Prog.get
  match s.lastSnapshot.lookup subject.string with
  | none => pure false
  | some entry =>
    if validJSON entry.payload then
      emitNumbered cfg subject.string (lastEventFrame cfg now subject.string entry)
    else
      pure false

/-- A payload of the provider that is not empty and is valid JSON. -/
def usablePayload (answer : Option Bytes) : Option Bytes :=
  answer.filter fun raw => raw ≠ [] && validJSON raw

/-- The usable payload of the provider for a subject. -/
def hotPayload (subject : Subject) (s : SessionActor) : SessionActor × Option Bytes :=
  match cfg.hotSnapshotProvider with
  | none => (s, none)
  | some provider =>
    match s |> getLatest provider now subject with
    | (s, answer) => (s, usablePayload answer)

/-- `emitSnapshot`. -/
def emitSnapshot (subject : Subject) : SessionProg Bool := do
  match ← Prog.act (hotPayload cfg now subject) with
  | none => emitLastEvent cfg now subject
  | some raw =>
    let s ← Prog.get
    match s.wireCache with
    | none => emitNumbered cfg subject.string (hotFrame cfg now subject raw)
    | some cache => Prog.act (emitCached cfg now cache subject raw)

/-- `emitHotSnapshot`. -/
def emitHotSnapshot (subject : Subject) : SessionProg Bool :=
  match cfg.hotSnapshotProvider with
  | none => pure false
  | some provider => do
    match ← Prog.act (getLatest provider now subject) with
    | none | some [] => pure false
    | some _ => emitSnapshot cfg now subject

/-! ## Commands -/

/-- `clientCommand`, without the fields that only `getrange` and the client's books use. -/
structure ClientCommand where
  type : String := ""
  op : String := ""
  subject : String := ""
  streamID : String := ""
  requestID : String := ""
  venue : String := ""
  symbol : String := ""
  channel : String := ""
  aggregation : String := ""
  tsClient : Int := 0
  requestedFeatures : List String := []
deriving Repr, DecidableEq

/-- The cases of `canonicalStreamTypeForCommandChannel`. -/
def commandChannels : List (String × String) :=
  [("trade", "marketdata.trade"), ("marketdata.trade", "marketdata.trade"),
    ("book_delta", "marketdata.bookdelta"), ("marketdata.bookdelta", "marketdata.bookdelta"),
    ("book_snapshot", "aggregation.snapshot"), ("aggregation.snapshot", "aggregation.snapshot"),
    ("ticker", "marketdata.markprice"), ("marketdata.markprice", "marketdata.markprice"),
    ("open_interest", "marketdata.open_interest"),
    ("marketdata.open_interest", "marketdata.open_interest"),
    ("oi", "aggregation.oi"), ("aggregation.oi", "aggregation.oi"),
    ("delta_volume", "aggregation.delta_volume"),
    ("aggregation.delta_volume", "aggregation.delta_volume"),
    ("cvd", "aggregation.cvd"), ("aggregation.cvd", "aggregation.cvd"),
    ("bar_stats", "aggregation.bar_stats"), ("aggregation.bar_stats", "aggregation.bar_stats"),
    ("liquidation", "marketdata.liquidation"), ("marketdata.liquidation", "marketdata.liquidation"),
    ("stats", "aggregation.stats"), ("aggregation.stats", "aggregation.stats"),
    ("candle", "aggregation.candle"), ("aggregation.candle", "aggregation.candle"),
    ("tape", "aggregation.tape"), ("aggregation.tape", "aggregation.tape"),
    ("heatmap_snapshot", "insights.heatmap_snapshot"),
    ("insights.heatmap_snapshot", "insights.heatmap_snapshot"),
    ("volume_profile_snapshot", "insights.volume_profile_snapshot"),
    ("insights.volume_profile_snapshot", "insights.volume_profile_snapshot"),
    ("evidence", "liquidity.evidence"), ("liquidity.evidence", "liquidity.evidence"),
    ("signal", "signal"), ("signal.event", "signal"),
    ("strategy_intent", "strategy.intent"), ("strategy.intent", "strategy.intent"),
    ("execution_event", "execution.event"), ("execution.event", "execution.event"),
    ("portfolio_state", "portfolio.state"), ("portfolio.state", "portfolio.state")]

/-- `canonicalStreamTypeForCommandChannel`. -/
def canonicalStreamTypeForCommandChannel (channel : String) : String :=
  (commandChannels.lookup (toLower (trimSpace channel))).getD channel

/-- The problem of a removed stream type. -/
def legacyProblem (msg : String) : Option Problem := some (Problem.new .validationFailed msg)

/-- `rejectLegacyCutoverSubject`. -/
def rejectLegacyCutoverSubject (subject : Subject) : Option Problem :=
  match toLower (trimSpace subject.streamType) with
  | "insights.microstructure_evidence" =>
    legacyProblem "legacy subject \"insights.microstructure_evidence\" removed; use \"evidence.microstructure_evidence\" or \"liquidity.evidence\""
  | "insights.regime_evidence" =>
    legacyProblem "legacy subject \"insights.regime_evidence\" removed; use \"evidence.regime_evidence\""
  | "signal.composite" =>
    legacyProblem "legacy stream type \"signal.composite\" removed; use \"signal/<kind>/<venue>/<symbol>/<timeframe>\""
  | _ =>
    if subject.isSignal ∧ equalFoldASCII (trimSpace subject.kind) "composite" then
      legacyProblem "legacy signal kind \"composite\" removed; use \"signal/<kind>/<venue>/<symbol>/<timeframe>\""
    else
      none

/-- The subject unless its stream type has been removed. -/
def unlessLegacy (subject : Except Problem Subject) : Except Problem Subject := do
  let subject ← subject
  match rejectLegacyCutoverSubject subject with
  | some p => .error p
  | none => .ok subject

/-- `resolveCommandSubject`. -/
def resolveCommandSubject (cmd : ClientCommand) (op : String) : Except Problem Subject :=
  if trimSpace cmd.subject ≠ "" then
    unlessLegacy (parseSubject (trimSpace cmd.subject))
  else if trimSpace cmd.streamID ≠ "" then
    unlessLegacy (parseSubject (trimSpace cmd.streamID))
  else if trimSpace cmd.venue = "" ∨ trimSpace cmd.symbol = "" ∨ trimSpace cmd.channel = "" then
    .error (Problem.newf .validationFailed "%s requires stream_id or (venue,symbol,channel)"
      [.str op])
  else
    let channel := canonicalStreamTypeForCommandChannel (toLower (trimSpace cmd.channel))
    let aggregation := trimSpace cmd.aggregation
    let timeframe := if aggregation = "" then "raw" else toLower aggregation
    unlessLegacy (newSubject channel cmd.venue cmd.symbol timeframe)

/-- `requireHelloGate`: the session after the rejection of a command, if it is rejected. -/
def requireHelloGate (s : SessionActor) (op requestID : String) : Option SessionActor :=
  if ¬ cfg.requireClientHello ∨ s.helloSeen then none
  else
    some (s.writeProblem cfg op requestID (Problem.new .validationFailed
      ("client hello required before " ++ op ++ "; send \x7b\"op\":\"hello\"\x7d first")))

/-- `allowRateLimitedCommand` for a limited command. -/
def allowRateLimitedCommand (s : SessionActor) (op requestID : String) : SessionActor × Bool :=
  match cfg.rateLimiter with
  | none => (s, true)
  | some allow =>
    let s' := { s with limiterCalls := s.limiterCalls + 1 }
    if allow s.limiterCalls then (s', true)
    else
      (s'.writeProblem cfg op requestID (withWSLimitProblemDetails
        (Problem.new .unavailable "rate limit exceeded") "rate_limit" "ACTION_HINT_RETRY"), false)

/-- The number of subscriptions to signals. -/
def signalSubscriptionCount (s : SessionActor) : Nat :=
  (s.subscriptions.keys.filter Subject.isSignal).length

/-- The number of symbols subscribed to, together with that of `subject`. -/
def symbolCount (s : SessionActor) (subject : Subject) : Nat :=
  ((subject :: s.subscriptions.keys).map Subject.symbol).dedup.length

/-- `enforceSubscriptionLimits`. -/
def enforceSubscriptionLimits (s : SessionActor) (subject : Subject) : Option Problem :=
  if subject ∈ s.subscriptions then none
  else if subject.isSignal ∧ 0 < cfg.maxSignalSubscriptions ∧
      cfg.maxSignalSubscriptions ≤ s.signalSubscriptionCount then
    exceeded "max signal subscriptions per connection exceeded (%d)" cfg.maxSignalSubscriptions
      "max_subscriptions_per_connection"
  else if 0 < cfg.maxSubscriptions ∧ cfg.maxSubscriptions ≤ s.subscriptions.size then
    exceeded "max subscriptions per connection exceeded (%d)" cfg.maxSubscriptions
      "max_subscriptions_per_connection"
  else if 0 < cfg.maxSymbolsPerConnection ∧ cfg.maxSymbolsPerConnection < s.symbolCount subject then
    exceeded "max symbols per connection exceeded (%d)" cfg.maxSymbolsPerConnection
      "max_symbols_per_connection"
  else
    none
where
  exceeded (format : String) (limit : Int) (limitType : String) : Option Problem :=
    some (withWSLimitProblemDetails (Problem.newf .validationFailed format [.int limit])
      limitType "ACTION_HINT_NONE")

/-! ### Ranges -/

/-- `getRangeParams`. -/
structure RangeParams where
  fromMs : Int := 0
  toMs : Int := 0
  limit : Int
  page : Int
deriving Repr, DecidableEq

/-- `paginateTail`. -/
def paginateTail (items : List RangeItem) (page limit : Int) : List RangeItem :=
  if limit ≤ 0 then items
  else
    let page := if page ≤ 0 then 1 else page
    let stop := items.length - (page - 1) * limit
    if stop ≤ 0 then []
    else
      let start := if stop - limit < 0 then 0 else stop - limit
      (items.take stop.toNat).drop start.toNat

/-- The order of `sortRangeItems`. -/
def rangeItemLess (a b : RangeItem) : Bool :=
  if a.seq ≠ b.seq then a.seq < b.seq
  else if a.tsIngest ≠ b.tsIngest then a.tsIngest < b.tsIngest
  else a.payload < b.payload

/-- `sortRangeItems`. -/
def sortRangeItems (items : List RangeItem) : List RangeItem :=
  items.mergeSort fun a b => !rangeItemLess b a

/-- `maxQueryLimit`. -/
def maxQueryLimit : Int := 20000

/-- `maxResponseItems`. -/
def maxResponseItems : Nat := 1000

/-- `defaultRangeLimit`. -/
def defaultRangeLimit : Int := 100

/-- `subscribeBackfillLimit`. -/
def subscribeBackfillLimit : Int := 64

/-- The items of a range: those of the store, or else the payload of the provider. -/
def rangeItems (subject : Subject) (params : RangeParams) (page : Int) (items : List RangeItem)
    (s : SessionActor) : SessionActor × List RangeItem × Option SnapshotSource :=
  match cfg.hotSnapshotProvider with
  | none => (s, sortRangeItems items, none)
  | some provider =>
    if items = [] ∧ page = 1 ∧ params.fromMs = 0 ∧ params.toMs = 0 then
      match s |> getLatest provider now subject with
      | (s, none) | (s, some []) => (s, [], none)
      | (s, some raw) => (s, [hotSnapshotRangeItem cfg raw], some .hotSnapshotFallback)
    else
      (s, sortRangeItems items, none)

/-- The frame of a page of the items of a range. -/
def rangeFrame (op requestID : String) (subject : Subject) (page limit : Int)
    (items : List RangeItem) (source : Option SnapshotSource) : RangeFrame :=
  let tail := paginateTail items page limit
  let shown := tail.drop (tail.length - maxResponseItems)
  { op := if trimSpace op = "" then "backfill" else op
    requestID := requestID
    subject := subject.string
    page := page
    limit := limit
    items := shown
    source := source
    watermarkSeq := (shown.map RangeItem.seq).foldl max 0 }

/-- Writes a range frame if it fits. -/
def writeRangeFrame (f : RangeFrame) (s : SessionActor) : SessionActor :=
  if s.frameFitsMaxBytes cfg f.marshal then s.writeJSON cfg (.range f) else s

/-- `emitRangeFrame` for a caller that does not report failures. -/
def emitRangeFrame (op requestID : String) (subject : Subject) (params : RangeParams)
    (s : SessionActor) : SessionActor :=
  let page := if params.page ≤ 0 then 1 else params.page
  let limit := if params.limit ≤ 0 then defaultRangeLimit else params.limit
  let request : RangeRequest := ⟨subject.string, params.fromMs, params.toMs, maxQueryLimit⟩
  match cfg.rangeStore s.storeCalls request with
  | .error _ => { s with storeCalls := s.storeCalls + 1 }
  | .ok stored =>
    match rangeItems cfg now subject params page stored
        { s with storeCalls := s.storeCalls + 1 } with
    | (s, items, source) =>
      s |> writeRangeFrame cfg (rangeFrame op requestID subject page limit items source)

/-- `emitSubscribeBackfill`. -/
def emitSubscribeBackfill (subject : Subject) (s : SessionActor) : SessionActor :=
  if s.features.batching ∧
      equalFoldASCII (trimSpace subject.streamType) "aggregation.candle" then
    s |> emitRangeFrame cfg now "backfill" "" subject { limit := subscribeBackfillLimit, page := 1 }
  else
    s

/-! ### Handlers -/

/-- A message to the router. -/
def sendRouter (m : SessionSend) (s : SessionActor) : SessionActor :=
  if cfg.hasRouter then { s with sent := s.sent ++ [m] } else s

/-- Answers a command. -/
def writeAck (command : AckedCommand) (f : AckFrame) (s : SessionActor) : SessionActor :=
  s.writeJSON cfg (.ack command f)

/-- Marks a subject whose snapshot is to be sent with its first event. -/
def deferSnapshot (subject : Subject) (s : SessionActor) : SessionActor :=
  { s with deferredSnapshotSubjects := s.deferredSnapshotSubjects.insert subject.string () }

/-- Marks a subject whose snapshot the provider does not have yet. -/
def deferUnlessEmitted (subject : Subject) (emitted : Bool) : SessionProg PUnit :=
  if !emitted && cfg.hotSnapshotProvider.isSome then assign (deferSnapshot subject) else pure ⟨⟩

/-- The part of `handleSubscribe` after the checks. -/
def acceptSubscribe (cmd : ClientCommand) (subject : Subject) : SessionProg PUnit := do
  Prog.modify fun s => { s with subscriptions := s.subscriptions.insert subject () }
  let emitted ← emitSnapshot cfg now subject
  deferUnlessEmitted cfg subject emitted
  Prog.modify (sendRouter cfg (.subscribe subject))
  Prog.modify (writeAck cfg .subscribe ⟨cmd.op, cmd.requestID, subject.string, 0, 0⟩)
  Prog.modify (emitSubscribeBackfill cfg now subject)

/--
The checks that a command for a subscription has to pass, the last of them `check`: the
subject, unless the command is rejected.
-/
def admitCommand (op : String) (check : SessionActor → Subject → Option Problem)
    (cmd : ClientCommand) (s : SessionActor) : SessionActor × Option Subject :=
  match s.requireHelloGate cfg op cmd.requestID with
  | some s => (s, none)
  | none =>
    match s.allowRateLimitedCommand cfg op cmd.requestID with
    | (s, false) => (s, none)
    | (s, true) =>
      match resolveCommandSubject cmd op with
      | .error p => (s.writeProblem cfg op cmd.requestID p, none)
      | .ok subject =>
        match check s subject with
        | some p => (s.writeProblem cfg op cmd.requestID p, none)
        | none => (s, some subject)

/-- The checks of `handleSubscribe`. -/
def admitSubscribe : ClientCommand → SessionActor → SessionActor × Option Subject :=
  admitCommand cfg "subscribe" fun s subject => s.enforceSubscriptionLimits cfg subject

/-- `handleSubscribe`. -/
def handleSubscribe (cmd : ClientCommand) : SessionProg PUnit := do
  match ← Prog.act (admitSubscribe cfg cmd) with
  | none => pure ⟨⟩
  | some subject => acceptSubscribe cfg now cmd subject

/-- Forgets a subject. -/
def forget (subject : Subject) (s : SessionActor) : SessionActor :=
  { s with
    subscriptions := s.subscriptions.erase subject
    lastSnapshot := s.lastSnapshot.erase subject.string
    snapshotSeq := s.snapshotSeq.erase subject.string
    lastDeliveredSeq := s.lastDeliveredSeq.erase subject.string
    deferredSnapshotSubjects := s.deferredSnapshotSubjects.erase subject.string }

/-- `handleUnsubscribe`. -/
def handleUnsubscribe (cmd : ClientCommand) (s : SessionActor) : SessionActor :=
  match resolveCommandSubject cmd "unsubscribe" with
  | .error p => s.writeProblem cfg "unsubscribe" cmd.requestID p
  | .ok subject =>
    if subject ∈ s.subscriptions then
      forget subject s
        |> sendRouter cfg (.unsubscribe subject)
        |> writeAck cfg .unsubscribe ⟨cmd.op, cmd.requestID, subject.string, 0, 0⟩
    else
      s.writeProblem cfg cmd.op cmd.requestID
        (Problem.newf .notFound "not subscribed to subject %q" [.str subject.string])

/-- The checks of `handleResync`. -/
def admitResync : ClientCommand → SessionActor → SessionActor × Option Subject :=
  admitCommand cfg "resync" fun s subject =>
    if subject ∈ s.subscriptions then none
    else some (Problem.newf .notFound "not subscribed to stream %q" [.str subject.string])

/-- The part of `handleResync` after the snapshot. -/
def acceptResync (cmd : ClientCommand) (subject : Subject) (s : SessionActor) : SessionActor :=
  let s := { s with
    lastDeliveredSeq := s.lastDeliveredSeq.erase subject.string
    resyncCount := s.resyncCount + 1 }
  let watermark := ((s.lastSnapshot.lookup subject.string).map SessionSnapshotEntry.seq).getD 0
  s |> writeAck cfg .resync
    ⟨"resync", cmd.requestID, subject.string, watermark, s.snapshotSeq.getD subject.string 0⟩

/-- `handleResync`. -/
def handleResync (cmd : ClientCommand) : SessionProg PUnit := do
  match ← Prog.act (admitResync cfg cmd) with
  | none => pure ⟨⟩
  | some subject =>
    if ← emitSnapshot cfg now subject then
      Prog.modify (acceptResync cfg cmd subject)
    else
      Prog.modify fun s => s.writeProblem cfg "resync" cmd.requestID
        (Problem.new .notFound "snapshot unavailable for requested stream")

/-- `handleClientHello`. -/
def handleClientHello (cmd : ClientCommand) (s : SessionActor) : SessionActor :=
  let s := { s with helloSeen := true }
  match NegotiatedFeatures.negotiate cmd.requestedFeatures cfg.compressionEnabled with
  | (nf, []) =>
    let s := if cmd.requestedFeatures = [] then s else { s with features := nf }
    s.writeJSON cfg (.helloAck
      { requestID := cmd.requestID
        negotiatedFeatures := s.features.list
        tsServer := GoTime.unixMilli now
        clockSkewMs := if 0 < cmd.tsClient then GoTime.unixMilli now - cmd.tsClient else 0 })
  | (_, unknown) =>
    s.writeProblem cfg "hello" cmd.requestID
      (Problem.newf .validationFailed "unsupported features: %s"
        [.str (String.intercalate ", " unknown)])

/-- `handlePing`. -/
def handlePing (cmd : ClientCommand) (s : SessionActor) : SessionActor :=
  s.writeJSON cfg (.pong ⟨trimSpace cmd.requestID, cmd.tsClient, serverTS now⟩)

/-- The operation of a command. -/
def ClientCommand.operation (cmd : ClientCommand) : String :=
  let op := toLower (trimSpace cmd.op)
  if op = "" then toLower (trimSpace cmd.type) else op

/-- `handleInboundText` of a text that decodes to a command, as far as it is modelled. -/
def handleCommand (cmd : ClientCommand) : SessionProg PUnit :=
  if cmd.operation = "hello" then Prog.modify (handleClientHello cfg now cmd)
  else if cmd.operation = "subscribe" then handleSubscribe cfg now cmd
  else if cmd.operation = "unsubscribe" then Prog.modify (handleUnsubscribe cfg cmd)
  else if cmd.operation = "ping" then Prog.modify (handlePing cfg now cmd)
  else if cmd.operation = "resync" then handleResync cfg now cmd
  else
    Prog.modify fun s => s.writeProblem cfg cmd.operation cmd.requestID
      (Problem.newf .validationFailed "unsupported op %q" [.str cmd.operation])

/-! ### Pages of a range -/

/--
`paginateTail` on the values of `int`; `none` stands for a slice out of range.  The pages and
limits of a request are too small for it to differ from `paginateTail`.
-/
def paginateTailInt64 (items : List RangeItem) (page limit : Int) : Option (List RangeItem) :=
  if limit ≤ 0 then some items
  else
    let page := if page ≤ 0 then 1 else page
    let stop := wrap64 (items.length - wrap64 ((page - 1) * limit))
    if stop ≤ 0 then some []
    else
      let start := if wrap64 (stop - limit) < 0 then 0 else wrap64 (stop - limit)
      if stop ≤ items.length then some ((items.take stop.toNat).drop start.toNat) else none

/-- The pages `P, …, 1`, one after the other. -/
def lastPages (items : List RangeItem) (limit : Nat) : Nat → Option (List RangeItem)
  | 0 => some []
  | P + 1 => do
    let page ← paginateTailInt64 items (P + 1) limit
    return page ++ (← lastPages items limit P)

section Pages

variable {items : List RangeItem} {limit : Nat} (hpos : 0 < limit) (hlimit : limit < 2 ^ 63)
  (hlength : items.length < 2 ^ 63)

include hpos hlimit hlength

/-- A page whose distance from the tail does not overflow is a stretch of the items. -/
theorem paginateTailInt64_eq {p : Nat} (hp : p * limit < 2 ^ 63) :
    paginateTailInt64 items (p + 1) limit =
      some ((items.take (items.length - p * limit)).drop (items.length - (p + 1) * limit)) := by
  have hstop : wrap64 (items.length - wrap64 (((p : Int) + 1 - 1) * limit)) =
      items.length - (p * limit : Nat) := by
    rw [Int.add_sub_cancel, ← Int.natCast_mul]
    unfold wrap64
    omega
  unfold paginateTailInt64
  rw [if_neg (by omega)]
  simp only [show ¬ (p : Int) + 1 ≤ 0 by omega, if_false, hstop, Nat.add_one_mul]
  by_cases hend : (items.length : Int) - (p * limit : Nat) ≤ 0
  · rw [if_pos hend, show items.length - p * limit = 0 by omega, List.take_zero, List.drop_nil]
  · have hstart : wrap64 ((items.length : Int) - (p * limit : Nat) - limit) =
        items.length - (p * limit : Nat) - limit := by
      unfold wrap64
      omega
    rw [if_neg hend, hstart, if_pos (by omega)]
    congr 2
    · split_ifs <;> omega
    · congr 1
      omega

/--
As long as the distance of the furthest page from the tail does not overflow, the last `P` pages
are together the last `P * limit` items, or all of them.
-/
theorem lastPages_eq (P : Nat) (hP : (P - 1) * limit < 2 ^ 63) :
    lastPages items limit P = some (items.drop (items.length - min (P * limit) items.length)) := by
  have hmin (k : Nat) : items.length - min k items.length = items.length - k := by omega
  rw [hmin]
  induction P with
  | zero => simp [lastPages]
  | succ P ih =>
    have hle : (P - 1) * limit ≤ P * limit := Nat.mul_le_mul_right limit (Nat.sub_le P 1)
    rw [Nat.add_sub_cancel] at hP
    rw [lastPages, paginateTailInt64_eq hpos hlimit hlength hP, ih (by omega)]
    -- the page ends where the later pages start
    have hstart : items.length - (P + 1) * limit ≤
        (items.take (items.length - P * limit)).length := by
      rw [List.length_take, Nat.add_one_mul]
      omega
    refine congrArg some ?_
    rw [← List.drop_append_of_le_length hstart, List.take_append_drop]

end Pages

theorem lastPages_eq_two :
    (0 < 2 ∧ (2 - 1) * 2 < 2 ^ 63) ∧
      ∀ items : List RangeItem, items.length < 2 ^ 63 →
        lastPages items 2 2 = some (items.drop (items.length - min 4 items.length)) :=
  ⟨by decide, fun _ hlength => lastPages_eq (by decide) (by decide) hlength 2 (by decide)⟩

/-- The distance of the fourth page overflows, and its slice is out of range. -/
theorem lastPages_overflow : lastPages [] (2 ^ 62) 4 = none := by
  decide +kernel

end SessionActor

end Delivery
end StreamAnalytics
