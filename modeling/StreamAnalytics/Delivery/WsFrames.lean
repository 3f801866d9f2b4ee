import StreamAnalytics.Lib.GoInt
import StreamAnalytics.Lib.Json

/-!
# Frames of the delivery protocol

Model of the frames of `session_protocol.go` that carry events, as the standard
encoder writes them: the fields in the order of their declaration, those with the
option `omitempty` only if they are not zero, and raw messages compacted.  A frame
with a raw message that is not valid JSON cannot be encoded.
-/

namespace StreamAnalytics
namespace Delivery

open Json

/-! ## Fields -/

/-- A field. -/
def field (key : String) (value : Bytes) : List Bytes := [renderMember (Fnv.bytes key) value]

/-- An integer field with the option `omitempty`. -/
def omitZero (key : String) (v : Int) : List Bytes := if v = 0 then [] else field key (formatInt v)

/-- A string field with the option `omitempty`. -/
def omitEmpty (key s : String) : List Bytes := if s = "" then [] else field key (ofString s)

/-- The encoding of a `json.RawMessage`; an empty one is nil. -/
def rawMessage (payload : Bytes) : Option Bytes :=
  if payload = [] then some (Fnv.bytes "null") else compact payload

/-! ## Batches -/

/-- `wsProtocolVersion`. -/
def wsProtocolVersion : Int := 1

/-- `preparedBatchEvent`, as far as the frame depends on it. -/
structure PreparedBatchEvent where
  seq : Int
  prevSeq : Int
  tsIngest : Int
  tsServer : Int
  payload : Bytes
deriving Repr, DecidableEq

/-- The fields of `wsBatchFrame` that do not depend on the events. -/
structure BatchHeader where
  streamID : String
  serverInstanceID : String
  venue : String
  symbol : String
  channel : String
deriving Repr, DecidableEq

/-- `wsBatchItem`, as a difference to the first event of the batch. -/
def batchItem (base prep : PreparedBatchEvent) : Option Bytes :=
  (rawMessage prep.payload).map fun payload =>
    renderObject
      (omitZero "dseq" (GoInt.wrap64 (prep.seq - base.seq)) ++
        omitZero "dprev" (GoInt.wrap64 (prep.prevSeq - base.prevSeq)) ++
        omitZero "dts" (GoInt.wrap64 (prep.tsServer - base.tsServer)) ++
        omitZero "dti" (GoInt.wrap64 (prep.tsIngest - base.tsIngest)) ++
        field "p" payload)

/-- The fields of a batch frame, for the items of its events. -/
def batchFields (header : BatchHeader) (base : PreparedBatchEvent) (items : List Bytes) :
    List Bytes :=
  field "type" (ofString "batch") ++
    field "stream_id" (ofString header.streamID) ++
    field "protocol_version" (formatInt wsProtocolVersion) ++
    field "server_instance_id" (ofString header.serverInstanceID) ++
    field "venue" (ofString header.venue) ++
    field "symbol" (ofString header.symbol) ++
    field "channel" (ofString header.channel) ++
    field "base_seq" (formatInt base.seq) ++
    field "count" (formatInt items.length) ++
    field "ts_server_base" (formatInt base.tsServer) ++
    omitZero "ts_ingest_base" base.tsIngest ++
    field "events" (renderArray items)

/-- `json.Marshal` of a batch frame of the given events. -/
def batchFrame (header : BatchHeader) : List PreparedBatchEvent → Option Bytes
  | [] => none
  | base :: preps =>
    ((base :: preps).mapM (batchItem base)).map fun items =>
      renderObject (batchFields header base items)

end Delivery
end StreamAnalytics
