import StreamAnalytics.Delivery.Subject
import StreamAnalytics.Delivery.WsFrames

/-!
# Frames of a session

Model of the frames of `session_protocol.go` that a session writes to its
connection, and of the encoding of those whose size the session checks.  Frames
that are only written (the greeting and the answers to commands) are kept as data.

An acknowledgement repeats the field `op` of the command, which a client may leave
empty; the command that is acknowledged is therefore kept beside the frame.
-/

namespace StreamAnalytics
namespace Delivery

open GoStrings Json

/-! ## Channels -/

/-- `deliveryv1.Channel`, as far as stream types are mapped to it. -/
inductive Channel where
  | unspecified
  | trade
  | bookDelta
  | bookSnapshot
  | ticker
  | openInterest
  | liquidation
  | stats
  | candle
  | heatmapSnapshot
  | volumeProfileSnapshot
  | evidence
deriving Repr, DecidableEq

/-- The cases of `channelEnumFromStreamType`. -/
def streamChannels : List (String × Channel) :=
  [("marketdata.trade", .trade),
    ("marketdata.bookdelta", .bookDelta),
    ("aggregation.snapshot", .bookSnapshot),
    ("marketdata.markprice", .ticker),
    ("marketdata.open_interest", .openInterest),
    ("aggregation.oi", .openInterest),
    ("aggregation.stats", .stats),
    ("aggregation.bar_stats", .stats),
    ("aggregation.candle", .candle),
    ("aggregation.tape", .unspecified),
    ("marketdata.liquidation", .liquidation),
    ("insights.heatmap_snapshot", .heatmapSnapshot),
    ("insights.volume_profile_snapshot", .volumeProfileSnapshot),
    ("liquidity.evidence", .evidence),
    ("evidence.microstructure_evidence", .evidence),
    ("evidence.regime_evidence", .evidence),
    ("insights.microstructure_evidence", .evidence),
    ("insights.regime_evidence", .evidence)]

/-- `channelEnumFromStreamType`. -/
def channelEnumFromStreamType (streamType : String) : Channel :=
  (streamChannels.lookup (toLower (trimSpace streamType))).getD .unspecified

/-- The names that `channelName` gives to stream types without a channel. -/
def fallbackNames : List (String × String) :=
  [("aggregation.tape", "tape"), ("tape", "tape"),
    ("aggregation.delta_volume", "delta_volume"), ("delta_volume", "delta_volume"),
    ("aggregation.cvd", "cvd"), ("cvd", "cvd"),
    ("aggregation.bar_stats", "bar_stats"), ("bar_stats", "bar_stats")]

/-- `channelName`. -/
def channelName (channel : Channel) (fallback : String) : String :=
  match channel with
  | .trade => "trade"
  | .bookDelta => "book_delta"
  | .bookSnapshot => "book_snapshot"
  | .ticker => "ticker"
  | .openInterest => "open_interest"
  | .liquidation => "liquidation"
  | .stats => "stats"
  | .candle => "candle"
  | .heatmapSnapshot => "heatmap_snapshot"
  | .volumeProfileSnapshot => "volume_profile_snapshot"
  | .evidence => "evidence"
  | .unspecified =>
    let name := toLower (trimSpace fallback)
    match fallbackNames.lookup name with
    | some known => known
    | none => if name = "" then "unknown" else name

namespace Subject

/-- The channel of the frames of a subject. -/
def channel (s : Subject) : String :=
  channelName (channelEnumFromStreamType s.streamType) s.streamType

end Subject

/-! ## Frames that carry payloads -/

/-- `json.Valid`. -/
def validJSON (raw : Bytes) : Bool := (compact raw).isSome

/-- `fnvHexHash`. -/
def fnvHexHash (data : Bytes) : String :=
  let digits := (Fnv.bigEndian (data.foldl Fnv.mix Fnv.offset)).flatMap fun (b : UInt8) =>
    [hexDigit (b >>> 4), hexDigit (b &&& 15)]
  String.ofList (digits.map fun d => Char.ofNat d.toNat)

/-- `wsEventFrame`; `stream_id` repeats the subject. -/
structure EventFrame where
  subject : String
  serverInstanceID : String
  seq : Int
  prevSeq : Int
  tsIngest : Int
  tsServer : Int
  venue : String
  symbol : String
  channel : String
  payload : Bytes
deriving Repr, DecidableEq

/-- `json.Marshal` of an event frame. -/
def EventFrame.marshal (f : EventFrame) : Option Bytes :=
  (rawMessage f.payload).map fun payload =>
    renderObject
      (field "type" (ofString "event") ++
        field "subject" (ofString f.subject) ++
        field "stream_id" (ofString f.subject) ++
        field "protocol_version" (formatInt wsProtocolVersion) ++
        field "server_instance_id" (ofString f.serverInstanceID) ++
        field "seq" (formatInt f.seq) ++
        omitZero "prev_seq" f.prevSeq ++
        field "ts_ingest" (formatInt f.tsIngest) ++
        field "ts_server" (formatInt f.tsServer) ++
        field "venue" (ofString f.venue) ++
        field "symbol" (ofString f.symbol) ++
        field "channel" (ofString f.channel) ++
        field "payload" payload)

/-- `wsSignalFrame`, with the encoding of its payload. -/
structure SignalFrame where
  subject : String
  seq : Int
  tsServer : Int
  payload : Bytes
deriving Repr, DecidableEq

/-- `json.Marshal` of a signal frame. -/
def SignalFrame.marshal (f : SignalFrame) : Bytes :=
  renderObject
    (field "type" (ofString "signal") ++
      field "subject" (ofString f.subject) ++
      field "seq" (formatInt f.seq) ++
      field "ts_server" (formatInt f.tsServer) ++
      field "payload" f.payload)

/-- The values of `snapshot_source`. -/
inductive SnapshotSource where
  | hotSnapshotFallback
  | sessionLastEvent
deriving Repr, DecidableEq

/-- The text of a snapshot source. -/
def SnapshotSource.text : SnapshotSource → String
  | .hotSnapshotFallback => "hot_snapshot_fallback"
  | .sessionLastEvent => "session_last_event"

/--
`wsSnapshotFrame`; `stream_id` repeats the subject and `snapshot_hash` is the hash of
the payload.
-/
structure SnapshotFrame where
  subject : String
  serverInstanceID : String
  seq : Int
  tsServer : Int
  venue : String
  symbol : String
  channel : String
  payload : Bytes
  source : SnapshotSource
  snapshotSeq : Int
  watermarkSeq : Int
deriving Repr, DecidableEq

/-- `json.Marshal` of a snapshot frame. -/
def SnapshotFrame.marshal (f : SnapshotFrame) : Option Bytes :=
  (rawMessage f.payload).map fun payload =>
    renderObject
      (field "type" (ofString "snapshot") ++
        field "subject" (ofString f.subject) ++
        omitEmpty "stream_id" f.subject ++
        omitZero "protocol_version" wsProtocolVersion ++
        omitEmpty "server_instance_id" f.serverInstanceID ++
        omitZero "seq" f.seq ++
        omitZero "ts_server" f.tsServer ++
        omitEmpty "venue" f.venue ++
        omitEmpty "symbol" f.symbol ++
        omitEmpty "channel" f.channel ++
        field "payload" payload ++
        omitEmpty "snapshot_source" f.source.text ++
        omitZero "snapshot_seq" f.snapshotSeq ++
        omitZero "watermark_seq" f.watermarkSeq ++
        omitEmpty "snapshot_hash" (fnvHexHash f.payload))

/-- `ports.RangeItem`. -/
structure RangeItem where
  seq : Int
  tsIngest : Int
  payload : Bytes
deriving Repr, DecidableEq

/-- `wsRangeFrame`; the source is set if the items come from the provider. -/
structure RangeFrame where
  op : String
  requestID : String
  subject : String
  page : Int
  limit : Int
  items : List RangeItem
  source : Option SnapshotSource
  watermarkSeq : Int
deriving Repr, DecidableEq

/-- `json.Marshal` of an item of a range. -/
def RangeItem.marshal (item : RangeItem) : Option Bytes :=
  (rawMessage item.payload).map fun payload =>
    renderObject
      (field "Seq" (formatInt item.seq) ++
        field "TsIngest" (formatInt item.tsIngest) ++
        field "Payload" payload)

/-- `json.Marshal` of a range frame. -/
def RangeFrame.marshal (f : RangeFrame) : Option Bytes :=
  (f.items.mapM RangeItem.marshal).map fun items =>
    renderObject
      (field "type" (ofString "range") ++
        field "op" (ofString f.op) ++
        field "request_id" (ofString f.requestID) ++
        field "subject" (ofString f.subject) ++
        field "page" (formatInt f.page) ++
        field "limit" (formatInt f.limit) ++
        field "items" (renderArray items) ++
        omitEmpty "snapshot_source" ((f.source.map SnapshotSource.text).getD "") ++
        omitZero "watermark_seq" f.watermarkSeq)

/-! ## All frames -/

/-- The commands that are answered by an acknowledgement. -/
inductive AckedCommand where
  | subscribe
  | unsubscribe
  | resync
deriving Repr, DecidableEq

/-- `wsAckFrame`. -/
structure AckFrame where
  op : String
  requestID : String
  subject : String
  watermarkSeq : Int := 0
  snapshotSeq : Int := 0
deriving Repr, DecidableEq

/-- `wsHelloAckFrame`. -/
structure HelloAckFrame where
  requestID : String
  negotiatedFeatures : List String
  tsServer : Int
  clockSkewMs : Int
deriving Repr, DecidableEq

/-- `wsPongFrame`. -/
structure PongFrame where
  requestID : String
  tsClient : Int
  tsServer : Int
deriving Repr, DecidableEq

/-- What a session writes to its connection. -/
inductive Frame where
  | hello (serverTime : Int) (serverInstanceID : String)
  | helloAck (f : HelloAckFrame)
  | pong (f : PongFrame)
  | error (op requestID : String) (p : Problem)
  | ack (command : AckedCommand) (f : AckFrame)
  | range (f : RangeFrame)
  | snapshot (f : SnapshotFrame)
  | event (f : EventFrame)
  | signal (f : SignalFrame)
  | batch (header : BatchHeader) (events : List PreparedBatchEvent)
  | proto (env : Envelope)

namespace Frame

/-- The frame answers a command or greets, and carries nothing of a stream. -/
def isControl : Frame → Bool
  | .hello .. | .helloAck _ | .pong _ | .error .. | .range _ => true
  | _ => false

/-- The frame carries events in another form than an event frame. -/
def isPackaged : Frame → Bool
  | .signal _ | .batch .. | .proto _ => true
  | _ => false

end Frame

end Delivery
end StreamAnalytics
