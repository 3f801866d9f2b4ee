import StreamAnalytics.Lib.GoTime
import StreamAnalytics.Lib.Runs
import StreamAnalytics.Shared.BoundedMapContract
import StreamAnalytics.Aggregation.OrderBook

/-!
# The order book use case

Model of `internal/core/aggregation/app/update_orderbook.go` and of the snapshot
event of `domain/events.go`.

The books are shared by pointer, so the map of books holds positions of a heap,
and an update changes the heap in place.  The clock and the two ports (the hot
store and the publisher) are given by the sequence of their answers; the calls
made to the ports are recorded in order.  Metrics and the checksum of a snapshot
are left out.
-/

namespace StreamAnalytics
namespace Aggregation

open Validation Prog

/-! ## Snapshots -/

/-- `SnapshotProduced` without its checksum. -/
structure SnapshotProduced where
  bookID : BookID
  seq : Int
  bids : List Level
  asks : List Level
  bestBidPrice : Float
  bestAskPrice : Float
  spreadBPS : Float
  tsIngestMs : Int
  bidCount : Int
  askCount : Int
  depthCap : Int
  version : Int
deriving DecidableEq

/-- `snapshotBestBid` and `snapshotBestAsk`. -/
def snapshotBest (levels : List Level) : Float :=
  match levels with
  | [] => 0
  | l :: _ => l.price

/-- `spreadBPSFromBest`. -/
def spreadBPSFromBest (bestBid bestAsk : Float) : Float :=
  if bestBid ≤ 0 ∨ bestAsk ≤ 0 then -1
  else
    let mid := (bestBid + bestAsk) * 0.5
    if mid ≤ 0 then -1 else ((bestAsk - bestBid) / mid) * 10000

/-- `capLevels`. -/
def capLevels (levels : List Level) (depthCap : Int) : List Level :=
  if depthCap ≤ 0 ∨ levels.length ≤ depthCap then levels else levels.take depthCap.toNat

namespace SnapshotProduced

/-- `NewSnapshotProduced`. -/
def create (book : OrderBook) : SnapshotProduced where
  bookID := book.id
  seq := book.lastSeq
  bids := book.bids
  asks := book.asks
  bestBidPrice := snapshotBest book.bids
  bestAskPrice := snapshotBest book.asks
  spreadBPS := spreadBPSFromBest (snapshotBest book.bids) (snapshotBest book.asks)
  tsIngestMs := 0
  bidCount := book.bids.length
  askCount := book.asks.length
  depthCap := 0
  version := 2

/-- `Capped`. -/
def capped (s : SnapshotProduced) (depthCap tsIngestMs : Int) : SnapshotProduced :=
  let bids := if depthCap ≤ 0 then s.bids else capLevels s.bids depthCap
  let asks := if depthCap ≤ 0 then s.asks else capLevels s.asks depthCap
  { s with
    tsIngestMs := tsIngestMs
    version := if s.version ≤ 0 then 2 else s.version
    bidCount := if s.bidCount ≤ 0 then s.bids.length else s.bidCount
    askCount := if s.askCount ≤ 0 then s.asks.length else s.askCount
    depthCap := if depthCap ≤ 0 then 0 else depthCap
    bids := bids
    asks := asks
    bestBidPrice := snapshotBest bids
    bestAskPrice := snapshotBest asks
    spreadBPS := spreadBPSFromBest (snapshotBest bids) (snapshotBest asks) }

end SnapshotProduced

namespace OrderBook

/-- `Spread`. -/
def spread (b : OrderBook) : Float :=
  match b.bestBid, b.bestAsk with
  | some bid, some ask => ask.price - bid.price
  | _, _ => -1

/-- The book after `PullDomainEvents`, which returns `events`. -/
def pulled (b : OrderBook) : OrderBook := { b with events := [] }

end OrderBook

/-! ## The use case -/

/-- `UpdateRequest`. -/
structure UpdateRequest where
  venue : String
  instrument : String
  seq : Int
  bids : List Level
  asks : List Level
  isSnapshot : Bool
deriving DecidableEq

/-- `UpdateResponse` without its checksum. -/
structure UpdateResponse where
  seq : Int
  spread : Float
  spreadBPS : Float
  bidLevels : Nat
  askLevels : Nat
  prunedLevels : Nat
  bestBidPrice : Float
  bestAskPrice : Float
deriving DecidableEq

/-- `UpdateConfig` without its clock. -/
structure UpdateConfig where
  maxBooks : Int
  bookTTL : Int
  maxLevels : Int
  publishDepthCap : Int
  snapshotPublishMinInterval : Int

/-- The calls of the store and of the publisher. -/
inductive PortCall where
  | save (snap : SnapshotProduced)
  | publishSnapshot (snap : SnapshotProduced)
  | publishInconsistent (event : OrderBookInconsistentDetected)

/-- A book on the heap; the clock reading of its `Put` is kept for the statements. -/
structure Allocation where
  book : OrderBook
  createdAt : Nat

/-- `UpdateOrderBookFromEvents` with the heap of its books, its clock and its ports. -/
structure UpdateOrderBook where
  books : BoundedMap BookID Nat
  heap : List Allocation
  maxLevels : Int
  publishDepthCap : Int
  snapshotPublishMinInterval : Int
  lastSnapshotPublishedAt : GoMap BookID Nat
  /-- The readings of the clock, in nanoseconds since the zero time. -/
  clock : Nat → Nat
  readings : Nat
  /-- The answers of the ports, call by call. -/
  answers : Nat → Option Problem
  calls : List PortCall

namespace UpdateOrderBook

/-- A setting that is not positive is replaced by its default. -/
def orDefault (value default : Int) : Int := if value ≤ 0 then default else value

/-- `NewUpdateOrderBookFromEventsWithConfig`. -/
def create (cfg : UpdateConfig) (clock : Nat → Nat) (answers : Nat → Option Problem) :
    UpdateOrderBook where
  books := BoundedMap.configured (orDefault cfg.maxBooks 10000)
    (orDefault cfg.bookTTL 3600000000000) (clock 0) true 1024 1000000000
  heap := []
  maxLevels := orDefault cfg.maxLevels 1000
  publishDepthCap := orDefault cfg.publishDepthCap 50
  snapshotPublishMinInterval := cfg.snapshotPublishMinInterval
  lastSnapshotPublishedAt := ∅
  clock := clock
  readings := 1
  answers := answers
  calls := []

/-- A program of the use case. -/
abbrev Action (α : Type) := Prog Problem UpdateOrderBook α

/-- `clock.Now`. -/
def now : Action Nat :=
  Prog.act fun uc => ({ uc with readings := uc.readings + 1 }, uc.clock uc.readings)

/-- A call of a port, which may fail. -/
def callPort (c : PortCall) : Action PUnit := do
  let uc ← Prog.get
  Prog.modify fun uc => { uc with calls := uc.calls ++ [c] }
  Prog.check (uc.answers uc.calls.length)

/-- `books.Get`. -/
def getBook (id : BookID) : Action (Option Nat) := do
  let t ← now
  Prog.act fun uc => ({ uc with books := (uc.books.get t id).2.1 }, (uc.books.get t id).1)

/-- `books.Put` of a new book. -/
def putBook (id : BookID) (b : OrderBook) : Action Nat := do
  let t ← now
  Prog.act fun uc =>
    ({ uc with
      books := (uc.books.put t id uc.heap.length).1
      heap := uc.heap ++ [⟨b, t⟩] }, uc.heap.length)

/-- `getOrCreateBook`. -/
def getOrCreateBook (venue instrument : String) : Action Nat := do
  match ← getBook ⟨venue, instrument⟩ with
  | some ref => pure ref
  | none =>
    let uc ← Prog.get
    let b ← Prog.lift (OrderBook.createWithMaxLevels venue instrument uc.maxLevels)
    putBook ⟨venue, instrument⟩ b

/-- Changes the book at a position of the heap. -/
def setBook (heap : List Allocation) (ref : Nat) (b : OrderBook) : List Allocation :=
  heap.modify ref fun a => { a with book := b }

/-- `shouldPublishSnapshot`. -/
def shouldPublishSnapshot (id : BookID) : Action Bool := do
  let uc ← Prog.get
  if uc.snapshotPublishMinInterval ≤ 0 then pure true
  else
    match uc.lastSnapshotPublishedAt.lookup id with
    | none => pure true
    | some last =>
      if last = 0 then pure true
      else do
        let t ← now
        pure (uc.snapshotPublishMinInterval ≤ (t : Int) - last)

/-- `recordSnapshotPublished`. -/
def recordSnapshotPublished (id : BookID) : Action PUnit := do
  let uc ← Prog.get
  if uc.snapshotPublishMinInterval ≤ 0 then pure ⟨⟩
  else do
    let t ← now
    Prog.modify fun uc =>
      { uc with lastSnapshotPublishedAt := uc.lastSnapshotPublishedAt.insert id t }

/-- `updateResponseFromSnapshot`. -/
def updateResponseFromSnapshot (book : OrderBook) (snap : SnapshotProduced) : UpdateResponse where
  seq := book.lastSeq
  spread := book.spread
  spreadBPS := snap.spreadBPS
  bidLevels := book.bids.length
  askLevels := book.asks.length
  prunedLevels := book.lastPrunedLevels
  bestBidPrice := snap.bestBidPrice
  bestAskPrice := snap.bestAskPrice

/-- The validation of a request. -/
def validate (req : UpdateRequest) : Option Problem :=
  collect
    [nonEmptyString "venue" req.venue,
      nonEmptyString "instrument" req.instrument,
      positiveInt "seq" req.seq]

/-- The loop over the events of a crossed book, which a failing publisher stops. -/
def publishEvents : List OrderBookInconsistentDetected → Action PUnit
  | [] => pure ⟨⟩
  | e :: es => do
    callPort (.publishInconsistent e)
    publishEvents es

/-- The report of a crossed book, whose events it pulls. -/
def reportCrossed (ref : Nat) (p : Problem) : Action PUnit :=
  if p.code = .integrityViolation then do
    let uc ← Prog.get
    Prog.modify fun uc =>
      { uc with heap := uc.heap.modify ref fun a => { a with book := a.book.pulled } }
    publishEvents ((uc.heap[ref]?).elim [] fun a => a.book.events)
  else pure ⟨⟩

/-- The branch of `Execute` for an update that the book refuses. -/
def refuse (ref : Nat) (p : Problem) : Action UpdateResponse := do
  reportCrossed ref p
  throw p

/-- The publication of a snapshot, unless it follows the previous one too soon. -/
def publishSnapshot (id : BookID) (snap : SnapshotProduced) : Action PUnit := do
  let due ← shouldPublishSnapshot id
  if due = true then do
    let uc ← Prog.get
    let t ← now
    callPort (.publishSnapshot (snap.capped uc.publishDepthCap (GoTime.unixMilli t)))
    recordSnapshotPublished id
  else pure ⟨⟩

/-- The steps of `Execute` after an update that the book accepts. -/
def publish (book : OrderBook) : Action UpdateResponse := do
  callPort (.save (.create book))
  publishSnapshot book.id (.create book)
  pure (updateResponseFromSnapshot book (.create book))

/-- The steps of `Execute` on the book at a position of the heap. -/
def update (req : UpdateRequest) (ref : Nat) : Action UpdateResponse :=
  fun uc =>
    match uc.heap[ref]? with
    -- Not in the source: the positions that `getOrCreateBook` returns are on the heap.
    | none => (uc, .error (Problem.new .internal "dangling pointer"))
    | some a =>
      match OrderBook.applyDelta req.seq req.bids req.asks req.isSnapshot a.book with
      | (b, .error p) => refuse ref p { uc with heap := setBook uc.heap ref b }
      | (b, .ok _) => publish b { uc with heap := setBook uc.heap ref b }

/-- The statements of `Execute`. -/
def body (req : UpdateRequest) : Action UpdateResponse := do
  let _startedAt ← now
  Prog.check (validate req)
  let ref ← getOrCreateBook req.venue req.instrument
  update req ref

/-- `Execute`; its deferred function reads the clock once more. -/
def execute (req : UpdateRequest) : Action UpdateResponse :=
  fun uc =>
    ({ (body req uc).1 with readings := (body req uc).1.readings + 1 }, (body req uc).2)

/-! ## What the steps keep -/

/-- A property that the clock, the publications and their times do not affect. -/
structure Stable (I : UpdateOrderBook → Prop) : Prop where
  readings : ∀ uc, I uc → I { uc with readings := uc.readings + 1 }
  publishedAt : ∀ uc m, I uc → I { uc with lastSnapshotPublishedAt := m }
  calls : ∀ uc c, (∀ snap, c ≠ .save snap) → I uc → I { uc with calls := uc.calls ++ [c] }

namespace Stable

variable {I : UpdateOrderBook → Prop}

theorem now (h : Stable I) : Preserves I now := preserves_act h.readings

theorem callPort (h : Stable I) {c : PortCall} (hc : ∀ snap, c ≠ .save snap) :
    Preserves I (callPort c) := by
  unfold UpdateOrderBook.callPort
  refine Preserves.bind preserves_get fun _ => ?_
  exact Preserves.bind (preserves_modify fun uc => h.calls uc c hc) fun _ =>
    preserves_check _

theorem shouldPublishSnapshot
    (h : Stable I) (id : BookID) : Preserves I (shouldPublishSnapshot id) := by
  unfold UpdateOrderBook.shouldPublishSnapshot
  refine Preserves.bind preserves_get fun s => ?_
  refine Preserves.ite (preserves_pure _) ?_
  cases s.lastSnapshotPublishedAt.lookup id with
  | none => exact preserves_pure _
  | some last =>
    refine Preserves.ite (preserves_pure _) ?_
    exact Preserves.bind h.now fun _ => preserves_pure _

theorem recordSnapshotPublished
    (h : Stable I) (id : BookID) : Preserves I (recordSnapshotPublished id) := by
  unfold UpdateOrderBook.recordSnapshotPublished
  refine Preserves.bind preserves_get fun _ => ?_
  refine Preserves.ite (preserves_pure _) ?_
  exact Preserves.bind h.now fun _ => preserves_modify fun uc => h.publishedAt uc _

theorem publishSnapshot (h : Stable I) (id : BookID) (snap : SnapshotProduced) :
    Preserves I (publishSnapshot id snap) := by
  unfold UpdateOrderBook.publishSnapshot
  refine Preserves.bind (h.shouldPublishSnapshot id) fun _ => ?_
  refine Preserves.ite ?_ (preserves_pure _)
  refine Preserves.bind preserves_get fun _ => ?_
  refine Preserves.bind h.now fun _ => ?_
  refine Preserves.bind (h.callPort fun _ hsave => ?_) fun _ => h.recordSnapshotPublished id
  exact nomatch hsave

theorem publishEvents (h : Stable I) (events : List OrderBookInconsistentDetected) :
    Preserves I (publishEvents events) := by
  induction events with
  | nil => exact preserves_pure _
  | cons e events ih =>
    exact Preserves.bind (h.callPort fun _ hsave => nomatch hsave) fun _ => ih

end Stable

theorem preserves_throw {I : UpdateOrderBook → Prop} (p : Problem) :
    Preserves I (throw p : Action UpdateResponse) :=
  ⟨fun _ h => .error h⟩

end UpdateOrderBook

end Aggregation
end StreamAnalytics
