import StreamAnalytics.Lib.BinaryHeap
import StreamAnalytics.Lib.GoTime
import StreamAnalytics.Lib.Prog
import StreamAnalytics.Shared.Envelope

/-!
# The replay source

Model of `readLoop` of `internal/adapters/jetstream/replay_source.go`.

The loop merges the fetched messages in a heap and emits them in the order of
`envelopeLess`: when a fetch times out, when the heap exceeds the merge buffer, and
when the limit of messages is near.  What it depends on in one round is a `Turn`: the
result of the fetch, the number of pending messages, whether acknowledgements succeed
and whether the context is cancelled.  A fetched message is given as the result of its
decoding.

The state keeps, besides the variables of the loop, the messages fetched and the
envelopes emitted.
-/

namespace StreamAnalytics
namespace Replay

open GoStrings Prog

/-- `DecodeErrorMode`. -/
inductive DecodeErrorMode where
  | fail
  | skip
deriving Repr, DecidableEq

/-- The fields of `ReplaySourceConfig` that `readLoop` reads; the window is in nanoseconds. -/
structure ReplaySourceConfig where
  window : Int := 0
  maxMessages : Int := 0
  idleTimeoutLimit : Int := 0
  mergeBufferSize : Int := 0
  decodeErrorMode : DecodeErrorMode := .fail

/-- `defaultReplayMergeBuffer`. -/
def defaultReplayMergeBuffer : Int := 4096

/-- The defaults that `withReplaySourceDefaults` fills in for these fields. -/
def withReplaySourceDefaults (cfg : ReplaySourceConfig) : ReplaySourceConfig :=
  { cfg with
    idleTimeoutLimit := if cfg.idleTimeoutLimit ≤ 0 then 2 else cfg.idleTimeoutLimit
    mergeBufferSize :=
      if cfg.mergeBufferSize ≤ 0 then defaultReplayMergeBuffer else cfg.mergeBufferSize
    maxMessages := if cfg.maxMessages ≤ 0 then 100000 else cfg.maxMessages }

/-- `wrapUnavailable`. -/
def wrapUnavailable (kind msg : String) : Problem :=
  (Problem.new .unavailable msg).withDetail "kind" (.str kind)

/-! ## The order of the envelopes -/

/-- `envelopeLess`. -/
def envelopeLess (a b : Envelope) : Bool :=
  let aVenue := toLower (trimSpace a.venue)
  let bVenue := toLower (trimSpace b.venue)
  let aInstrument := toUpper (trimSpace a.instrument)
  let bInstrument := toUpper (trimSpace b.instrument)
  let aType := toLower (trimSpace a.type)
  let bType := toLower (trimSpace b.type)
  if a.tsIngest ≠ b.tsIngest then decide (a.tsIngest < b.tsIngest)
  else if aVenue ≠ bVenue then decide (aVenue < bVenue)
  else if aInstrument ≠ bInstrument then decide (aInstrument < bInstrument)
  else if aType ≠ bType then decide (aType < bType)
  else if a.seq ≠ b.seq then decide (a.seq < b.seq)
  else decide (trimSpace a.idempotencyKey < trimSpace b.idempotencyKey)

/-- `newEnvelopeHeap`: the size of the merge buffer. -/
def maxSize (cfg : ReplaySourceConfig) : Int :=
  if cfg.mergeBufferSize ≤ 0 then defaultReplayMergeBuffer else cfg.mergeBufferSize

/-! ## One round of the loop -/

/-- A fetched message: the envelope it decodes to, or the problem of the decoding. -/
abbrev ReplayMsg := Except Problem Envelope

/-- The result of `sub.Fetch(1, …)`. -/
inductive Fetched where
  | message (msg : Option ReplayMsg)
  | timeout
  | cancelled
  | failed

/-- What happens around one round of the loop. -/
structure Turn where
  /-- `ctx.Err()` at the start of the round. -/
  cancelled : Bool := false
  fetched : Fetched := .timeout
  /-- The result of `pendingMessages`. -/
  pending : Except Problem Nat := .ok 0
  /-- The context is cancelled before the envelope is received. -/
  interrupted : Bool := false
  /-- The acknowledgement of the message of this round succeeds. -/
  acked : Bool := true

/-- How the loop ends. -/
inductive Stop where
  | finished
  | cancelled
  | failed (p : Problem)

/-- The variables of `readLoop`, and the messages fetched and envelopes emitted so far. -/
structure ReadLoop where
  heap : Array Envelope := #[]
  lastEmitted : Option Envelope := none
  idleTimeouts : Nat := 0
  fetched : List ReplayMsg := []
  emitted : List Envelope := []

namespace ReadLoop

/-- An envelope sorts before the last one emitted. -/
def behind (s : ReadLoop) (env : Envelope) : Bool :=
  match s.lastEmitted with
  | none => false
  | some last => envelopeLess env last

/-- `emitOne`. -/
def emitOne (turn : Turn) : Prog Stop ReadLoop PUnit := do
  let s ← Prog.get
  match BinaryHeap.pop envelopeLess s.heap with
  | none => pure ⟨⟩
  | some (item, heap) => do
    Prog.modify fun s => { s with heap := heap }
    Prog.check (if s.behind item then
      some (.failed (wrapUnavailable "merge_buffer_overflow"
        "jetstream replay deterministic ordering violated: increase merge buffer or reduce disorder"))
      else none)
    Prog.check (if turn.interrupted then some .cancelled else none)
    Prog.modify fun s => { s with emitted := s.emitted ++ [item] }
    Prog.check (if turn.acked then none
      else some (.failed (wrapUnavailable "ack_failed" "jetstream replay source ack failed")))
    Prog.modify fun s => { s with lastEmitted := some item }

/-- `windowStartMillis`. -/
def windowStartMillis (cfg : ReplaySourceConfig) (startNow : Nat) : Int :=
  if 0 < cfg.window then ((startNow : Int) - cfg.window - GoTime.unixEpoch) / 1000000 else 0

/-- The window check lets the envelope through. -/
def inWindow (cfg : ReplaySourceConfig) (startNow : Nat) (env : Envelope) : Bool :=
  !(decide (0 < windowStartMillis cfg startNow) &&
    (decide (env.tsIngest < windowStartMillis cfg startNow) ||
      decide (GoTime.unixMilli startNow < env.tsIngest)))

/-- A message is acknowledged and skipped. -/
def skipMessage (turn : Turn) : Prog Stop ReadLoop PUnit :=
  Prog.check (if turn.acked then none
    else some (.failed (wrapUnavailable "ack_failed" "jetstream replay source ack failed")))

/-- The body of the loop over the fetched messages. -/
def takeMessage (cfg : ReplaySourceConfig) (startNow : Nat) (turn : Turn) (msg : ReplayMsg) :
    Prog Stop ReadLoop PUnit :=
  match msg with
  | .error p =>
    match cfg.decodeErrorMode with
    | .skip => skipMessage turn
    | .fail => throw (.failed p)
  | .ok env =>
    if inWindow cfg startNow env = false then
      skipMessage turn
    else do
      let s ← Prog.get
      Prog.check (if s.behind env then
        some (.failed (wrapUnavailable "merge_buffer_overflow"
          "jetstream replay deterministic ordering overflow; message arrived behind emitted frontier"))
        else none)
      Prog.modify fun s => { s with heap := BinaryHeap.push envelopeLess s.heap env }
      let s ← Prog.get
      if maxSize cfg < s.heap.size then emitOne turn else pure ⟨⟩

/-- The branch of a fetch that has timed out. -/
def onTimeout (cfg : ReplaySourceConfig) (turn : Turn) : Prog Stop ReadLoop PUnit := do
  Prog.modify fun s => { s with idleTimeouts := s.idleTimeouts + 1 }
  let s ← Prog.get
  if 0 < s.heap.size then
    emitOne turn
  else if cfg.idleTimeoutLimit ≤ s.idleTimeouts then
    match turn.pending with
    | .error p => throw (.failed p)
    -- The heap is empty here, so the last loop over it emits nothing.
    | .ok pending => if pending = 0 then throw .finished else pure ⟨⟩
  else
    pure ⟨⟩

/-- The fetch of one round. -/
def onFetch (cfg : ReplaySourceConfig) (startNow : Nat) (turn : Turn) :
    Prog Stop ReadLoop PUnit :=
  match turn.fetched with
  | .timeout => onTimeout cfg turn
  | .cancelled => throw .cancelled
  | .failed =>
    throw (.failed (wrapUnavailable "fetch_failed" "jetstream replay source fetch failed"))
  | .message none => Prog.modify fun s => { s with idleTimeouts := 0 }
  | .message (some msg) => do
    Prog.modify fun s => { s with idleTimeouts := 0, fetched := s.fetched ++ [msg] }
    takeMessage cfg startNow turn msg

/-- One round of the loop. -/
def round (cfg : ReplaySourceConfig) (startNow : Nat) (turn : Turn) :
    Prog Stop ReadLoop PUnit := do
  Prog.check (if turn.cancelled then some .cancelled else none)
  let s ← Prog.get
  Prog.check (if 0 < cfg.maxMessages ∧ cfg.maxMessages ≤ s.emitted.length then some .finished
    else none)
  if 0 < cfg.maxMessages ∧ cfg.maxMessages ≤ s.emitted.length + s.heap.size then
    emitOne turn
  else
    onFetch cfg startNow turn

/-- `readLoop` along the given turns: the state reached, and how the loop has ended. -/
def readLoop (cfg : ReplaySourceConfig) (startNow : Nat) :
    List Turn → ReadLoop → ReadLoop × Option Stop
  | [], s => (s, none)
  | turn :: turns, s =>
    match round cfg startNow turn s with
    | (s', .ok _) => readLoop cfg startNow turns s'
    | (s', .error stop) => (s', some stop)

end ReadLoop

end Replay
end StreamAnalytics
