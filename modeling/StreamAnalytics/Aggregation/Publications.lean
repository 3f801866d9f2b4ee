import StreamAnalytics.Aggregation.FuseDepth
import StreamAnalytics.Aggregation.StoreSync
import StreamAnalytics.Insights.JoinTrades

/-!
# The numbering of published snapshots

Model of the envelopes that the processor actor publishes for order books, cross-venue books,
fused depth and cross-venue trades (`processor.go`, `processor_crossvenue_strategy.go` and
`processor_fusion_strategy.go` in `internal/actors/aggregation/runtime`).  An envelope is
identified by its type, venue, instrument and market type.  Its seq is that of a book, a
counter of the actor, or the seq of the trade that triggered it.

The market type is cut off the instrument of an order book and not given otherwise, a counter
is deleted with its instrument, and the trades of different venues are numbered
independently.  So neither the state behind an identity nor the order of its seqs is fixed in
general; `ordered_of_always` gives conditions on the steps of a run under which they are.

The merger of the books, the fusion of depths and the answers of the publisher are parameters,
and the order in which a map is visited is part of the event.  The counters of the actor do not
overflow here.
-/

namespace StreamAnalytics
namespace Aggregation

open Runs GoStrings Validation GoMap AList

/-- `StripMarketType`. -/
def stripMarketType (instrument : String) : String :=
  String.ofList (instrument.toList.takeWhile (· ≠ ':'))

/-! ## Published envelopes -/

/-- The types of the envelopes. -/
inductive SnapshotType where
  | orderBook
  | crossVenueBook
  | fusedDepth
  | crossVenueTrade
deriving DecidableEq

/-- The state that an envelope is a snapshot of. -/
inductive StateKey where
  | book (id : BookID)
  | instrument (key : String)
  | join (instrument marketType : String)
deriving DecidableEq

/-- An envelope, without its payload, and the state it was built from. -/
structure Publication where
  type : SnapshotType
  venue : String
  instrument : String
  marketType : String
  tsIngest : Int
  seq : Int
  key : StateKey
deriving DecidableEq

namespace Publication

/-- The checks of `Envelope.Validate` that can fail here. -/
def valid (q : Publication) : Bool :=
  trimSpace q.venue ≠ "" ∧ trimSpace q.instrument ≠ "" ∧ 0 < q.tsIngest ∧
    0 ≤ q.seq

/-- The envelopes have one identity. -/
def SameIdentity (q q' : Publication) : Prop :=
  q.type = q'.type ∧ q.venue = q'.venue ∧ q.instrument = q'.instrument ∧
    q.marketType = q'.marketType

instance (q q' : Publication) : Decidable (SameIdentity q q') := inferInstanceAs (Decidable (_ ∧ _))

/-- An earlier envelope of the same identity comes from the same state and has no higher seq. -/
def Ordered (q q' : Publication) : Prop := SameIdentity q q' → q.key = q'.key ∧ q.seq ≤ q'.seq

instance : DecidableRel Ordered := fun _ _ => inferInstanceAs (Decidable (_ → _))

end Publication

/-! ## The processor -/

/-- `CrossVenueVenueBook`. -/
structure CrossVenueVenueBook where
  venue : String
  tsIngest : Int
  seq : Int
  bestBid : Option Level
  bestAsk : Option Level

/-- `TradeTickV1`, as far as `handleTrade` reads it. -/
structure TradeTickV1 where
  price : Float
  size : Float
  side : String
  tradeID : String

/-- The settings of the actor and what it calls. -/
structure PublisherConfig where
  crossVenueEnabled : Bool
  maxInstruments : Int
  maxVenues : Int
  fusionEnabled : Bool
  /-- `CrossVenueMerger`: the timestamp of the merged book of an instrument, or a problem. -/
  merge : String → Int → List CrossVenueVenueBook → Option Int
  /-- `FuseDepth` gives a depth with levels. -/
  fuse : String → Int → List FusionDepthInput → Bool
  /-- The payload is encoded and `PublishEnvelope` succeeds, attempt by attempt. -/
  accepts : Nat → Bool

/-- The defaults of the settings. -/
def PublisherConfig.withDefaults (cfg : PublisherConfig) : PublisherConfig :=
  { cfg with
    maxInstruments := if cfg.maxInstruments ≤ 0 then 2048 else cfg.maxInstruments
    maxVenues := if cfg.maxVenues ≤ 0 then 6 else cfg.maxVenues }

/-- The part of the actor that publishes, and what it has published. -/
structure SnapshotPublisher where
  cfg : PublisherConfig
  updateBook : UpdateOrderBook
  joinTrades : Insights.JoinCrossVenueTrades
  activeOrderBooks : GoMap BookID Unit
  crossVenueBooks : GoMap String (GoMap String CrossVenueVenueBook)
  crossVenueInstrumentQ : List String
  crossVenueSeq : GoMap String Int
  fusionSeq : GoMap String Int
  attempts : Nat
  published : List Publication

namespace SnapshotPublisher

/-- The actor at its start. -/
def new (cfg : PublisherConfig) (uc : UpdateOrderBook) (join : Insights.JoinCrossVenueTrades) :
    SnapshotPublisher where
  cfg := cfg.withDefaults
  updateBook := uc
  joinTrades := join
  activeOrderBooks := ∅
  crossVenueBooks := ∅
  crossVenueInstrumentQ := []
  crossVenueSeq := ∅
  fusionSeq := ∅
  attempts := 0
  published := []

/-- A valid envelope is handed to the publisher, which may fail. -/
def publish (p : SnapshotPublisher) (q : Publication) : SnapshotPublisher :=
  if q.valid then
    { p with
      attempts := p.attempts + 1
      published := if p.cfg.accepts p.attempts then p.published ++ [q] else p.published }
  else p

/-- `Snapshot` of the use case. -/
def snapshotBook (uc : UpdateOrderBook) (id : BookID) :
    UpdateOrderBook × Option SnapshotProduced :=
  match collect
      [nonEmptyString "venue" id.venue,
        nonEmptyString "instrument" id.instrument] with
  | some _ => (uc, none)
  | none =>
    let found := uc.books.get (uc.clock uc.readings) id
    ({ uc with books := found.2.1, readings := uc.readings + 1 },
      found.1.bind fun ref => (uc.heap[ref]?).map fun a => .create a.book)

/-- `deterministicCrossVenueEvictionCandidate`. -/
def evictionCandidate (venues : GoMap String CrossVenueVenueBook) : Option String :=
  venues.keys.foldl (fun evict venue => if evict.all fun e => e < venue then some venue else evict)
    none

/-- The venues of an instrument after the book of one of them has been put. -/
def putVenue (maxVenues : Int) (venues : GoMap String CrossVenueVenueBook)
    (book : CrossVenueVenueBook) : GoMap String CrossVenueVenueBook :=
  if book.venue ∉ venues ∧ maxVenues ≤ venues.size then
    match evictionCandidate venues with
    | some evict =>
      if book.venue < evict then (venues.erase evict).insert book.venue book else venues
    | none => venues
  else venues.insert book.venue book

/-- `evictCrossVenueInstrumentIfNeeded`. -/
def evictCrossVenueInstrumentIfNeeded (p : SnapshotPublisher) : SnapshotPublisher :=
  if p.cfg.maxInstruments ≤ 0 ∨ (p.crossVenueBooks.size : Int) < p.cfg.maxInstruments then p
  else
    match p.crossVenueInstrumentQ with
    | [] => p
    | evicted :: rest =>
      { p with
        crossVenueInstrumentQ := rest
        crossVenueBooks := p.crossVenueBooks.erase evicted
        crossVenueSeq := p.crossVenueSeq.erase evicted }

/-- `upsertCrossVenueBook`. -/
def upsertCrossVenueBook (p : SnapshotPublisher) (key : String) (book : CrossVenueVenueBook) :
    SnapshotPublisher :=
  match p.crossVenueBooks.lookup key with
  | some venues =>
    { p with
      crossVenueBooks := p.crossVenueBooks.insert key (putVenue p.cfg.maxVenues venues book) }
  | none =>
    let kept := p.evictCrossVenueInstrumentIfNeeded
    { kept with
      crossVenueBooks := kept.crossVenueBooks.insert key (putVenue p.cfg.maxVenues ∅ book)
      crossVenueInstrumentQ := kept.crossVenueInstrumentQ ++ [key] }

/-- `collectCrossVenueBooks`. -/
def collectCrossVenueBooks (p : SnapshotPublisher) (key : String) : List CrossVenueVenueBook :=
  let venues := p.crossVenueBooks.getD key ∅
  (sortBy id venues.keys).filterMap venues.lookup

/-- The next value of `nextCrossVenueSeq` and `nextFusionSeq`. -/
def nextSeq (counters : GoMap String Int) (key : String) : Int :=
  if counters.getD key 0 + 1 ≤ 0 then 1 else counters.getD key 0 + 1

/-- `nextCrossVenueSeq`, which keeps the new value. -/
def countCrossVenue (p : SnapshotPublisher) (key : String) : SnapshotPublisher :=
  { p with crossVenueSeq := p.crossVenueSeq.insert key (nextSeq p.crossVenueSeq key) }

/-- `nextFusionSeq`, which keeps the new value. -/
def countFusion (p : SnapshotPublisher) (key : String) : SnapshotPublisher :=
  { p with fusionSeq := p.fusionSeq.insert key (nextSeq p.fusionSeq key) }

/-- The envelope of `buildCrossVenueBookEnvelope`. -/
def crossVenueBookEnvelope (env : Envelope) (key : String) (tsIngest seq : Int) : Publication where
  type := .crossVenueBook
  venue := "crossvenue"
  instrument := stripMarketType key
  marketType := envelopeMarketType env
  tsIngest := tsIngest
  seq := seq
  key := .instrument key

/-- The envelope of `buildFusedDepthEnvelope`. -/
def fusedDepthEnvelope (env : Envelope) (key : String) (seq : Int) : Publication where
  type := .fusedDepth
  venue := "GLOBAL"
  instrument := stripMarketType key
  marketType := envelopeMarketType env
  tsIngest := env.tsIngest
  seq := seq
  key := .instrument key

/-- The envelope of `buildSnapshotEnvelope`. -/
def tradeSnapshotEnvelope (env : Envelope) (snap : Insights.CrossVenueTradeSnapshotV1) :
    Publication where
  type := .crossVenueTrade
  venue := "GLOBAL"
  instrument := snap.instrument
  marketType := snap.marketType
  tsIngest := snap.watermarkTsIngest
  seq := env.seq
  key := .join (Naming.canonicalInstrument env.instrument)
    (Naming.canonicalVenue (envelopeMarketType env))

/-- The envelope of `buildOrderbookSnapshotEnvelope`. -/
def orderBookEnvelope (snap : SnapshotProduced) (tsIngest : Int) : Publication where
  type := .orderBook
  venue := snap.bookID.venue
  instrument := stripMarketType snap.bookID.instrument
  marketType := ""
  tsIngest := tsIngest
  seq := snap.seq
  key := .book snap.bookID

/-- The end of `handleBookDeltaForCrossVenue`, with the book of the venue put. -/
def mergeCrossVenue (p : SnapshotPublisher) (env : Envelope) (key : String) : SnapshotPublisher :=
  match p.cfg.merge (stripMarketType key) env.tsIngest (p.collectCrossVenueBooks key) with
  | none => p
  | some tsServerMs =>
    if nextSeq p.crossVenueSeq key ≤ 0 then p.countCrossVenue key
    else (p.countCrossVenue key).publish
      (crossVenueBookEnvelope env key tsServerMs (nextSeq p.crossVenueSeq key))

/-- `handleBookDeltaForCrossVenue`. -/
def handleBookDeltaForCrossVenue (p : SnapshotPublisher) (env : Envelope) (key : String) :
    SnapshotPublisher :=
  if p.cfg.crossVenueEnabled = false ∨ env.tsIngest ≤ 0 then p
  else
    match snapshotBook p.updateBook ⟨env.venue, key⟩ with
    | (uc, none) => { p with updateBook := uc }
    | (uc, some snap) =>
      let venue := toUpper (trimSpace env.venue)
      if venue = "" then { p with updateBook := uc }
      else
        (upsertCrossVenueBook { p with updateBook := uc } key
          ⟨venue, env.tsIngest, snap.seq, snap.bids.head?, snap.asks.head?⟩).mergeCrossVenue
            env key

/-- The loop of `handleBookDeltaForFusion` over the books of the venues. -/
def fusionInputs (key : String) :
    List CrossVenueVenueBook → UpdateOrderBook → UpdateOrderBook × List FusionDepthInput
  | [], uc => (uc, [])
  | vb :: rest, uc =>
    let (uc₁, snap) := snapshotBook uc ⟨vb.venue, key⟩
    let (uc₂, inputs) := fusionInputs key rest uc₁
    match snap with
    | some s => (uc₂, ⟨vb.venue, vb.tsIngest, s.seq, s.bids, s.asks⟩ :: inputs)
    | none => (uc₂, inputs)

/-- `handleBookDeltaForFusion`; `order` are the venues as the loop visits them. -/
def handleBookDeltaForFusion (p : SnapshotPublisher) (env : Envelope) (key : String)
    (order : List String) : SnapshotPublisher :=
  let venueBooks := p.crossVenueBooks.getD key ∅
  if p.cfg.fusionEnabled = false ∨ env.tsIngest ≤ 0 ∨ venueBooks.size < 2 then p
  else
    let (uc, inputs) := fusionInputs key (order.filterMap venueBooks.lookup) p.updateBook
    let read := { p with updateBook := uc }
    if inputs.length < 2 ∨ p.cfg.fuse (stripMarketType key) env.tsIngest inputs = false then read
    else if nextSeq p.fusionSeq key ≤ 0 then read.countFusion key
    else (read.countFusion key).publish (fusedDepthEnvelope env key (nextSeq p.fusionSeq key))

/-- `handleBookDelta` after the payload has been decoded. -/
def handleBookDelta (p : SnapshotPublisher) (env : Envelope) (delta : BookDeltaV1)
    (order : List String) : SnapshotPublisher :=
  match UpdateOrderBook.execute (updateRequest env delta) p.updateBook with
  | (uc, .error _) => { p with updateBook := uc }
  | (uc, .ok _) =>
    let active := { p with
      updateBook := uc
      activeOrderBooks := p.activeOrderBooks.insert ⟨env.venue, stateInstrumentKey env⟩ () }
    let merged := active.handleBookDeltaForCrossVenue env (stateInstrumentKey env)
    merged.handleBookDeltaForFusion env (stateInstrumentKey env) order

/-- The request that `handleTrade` makes of an envelope. -/
def joinRequest (env : Envelope) (trade : TradeTickV1) : Insights.JoinCrossVenueTradesRequest where
  venue := env.venue
  instrument := env.instrument
  marketType := envelopeMarketType env
  price := trade.price
  size := trade.size
  side := trade.side
  tradeID := trade.tradeID
  tsExchange := env.tsExchange
  tsIngest := env.tsIngest
  seq := env.seq
  idempotencyKey := env.idempotencyKey

/-- `handleTrade` after the payload has been decoded. -/
def handleTrade (p : SnapshotPublisher) (env : Envelope) (trade : TradeTickV1) :
    SnapshotPublisher :=
  match Insights.JoinCrossVenueTrades.execute (joinRequest env trade) p.joinTrades with
  | (join, .error _) => { p with joinTrades := join }
  | (join, .ok none) => { p with joinTrades := join }
  | (join, .ok (some snap)) =>
    { p with joinTrades := join }.publish (tradeSnapshotEnvelope env snap)

/-- One iteration of `publishOrderBookSnapshots`. -/
def publishOrderBook (tsIngest : Int) (p : SnapshotPublisher) (id : BookID) : SnapshotPublisher :=
  match snapshotBook p.updateBook id with
  | (uc, none) => { p with updateBook := uc }
  | (uc, some snap) => { p with updateBook := uc }.publish (orderBookEnvelope snap tsIngest)

/-- `sortedOrderBookKeys`. -/
def sortedOrderBookKeys (p : SnapshotPublisher) : List BookID :=
  sortBy (fun id => toLex (id.venue, id.instrument)) p.activeOrderBooks.keys

/-- What the actor handles: book deltas, trades and the ticks of order books. -/
inductive Event where
  | bookDelta (env : Envelope) (delta : BookDeltaV1) (order : List String)
  | trade (env : Envelope) (trade : TradeTickV1)
  | orderBookTick (tsIngest : Int)

/-- The actor after an event. -/
def step (p : SnapshotPublisher) : Event → SnapshotPublisher
  | .bookDelta env delta order => p.handleBookDelta env delta order
  | .trade env trade => p.handleTrade env trade
  | .orderBookTick tsIngest => run (publishOrderBook tsIngest) p p.sortedOrderBookKeys

/-! ## The counters -/

/--
The counters bound the seqs of their envelopes, a trade snapshot comes from the join of its names,
and the envelopes are ordered.
-/
structure Counted (p : SnapshotPublisher) : Prop where
  crossVenue : ∀ k ∈ p.crossVenueBooks, ∀ q ∈ p.published, q.type = .crossVenueBook →
    q.key = .instrument k → q.seq ≤ p.crossVenueSeq.getD k 0
  fusion : ∀ k, ∀ q ∈ p.published, q.type = .fusedDepth → q.key = .instrument k →
    q.seq ≤ p.fusionSeq.getD k 0
  trade : ∀ q ∈ p.published, q.type = .crossVenueTrade → q.key = .join q.instrument q.marketType
  ordered : p.published.Pairwise Publication.Ordered

theorem counted_new
    (cfg : PublisherConfig) (uc : UpdateOrderBook) (join : Insights.JoinCrossVenueTrades) :
    Counted (new cfg uc join) where
  crossVenue := fun _ _ _ hq => absurd hq List.not_mem_nil
  fusion := fun _ _ hq => absurd hq List.not_mem_nil
  trade := fun _ hq => absurd hq List.not_mem_nil
  ordered := List.Pairwise.nil

theorem lt_nextSeq
    (counters : GoMap String Int) (key : String) : counters.getD key 0 < nextSeq counters key := by
  unfold nextSeq
  split_ifs
  · omega
  · omega

/-- Counting on raises no other counter and lowers none. -/
theorem le_getD_insert_nextSeq (counters : GoMap String Int) (key k : String) :
    counters.getD k 0 ≤ GoMap.getD (counters.insert key (nextSeq counters key)) k 0 := by
  rw [getD_insert]
  split_ifs with hk
  · rw [hk]
    exact (lt_nextSeq counters key).le
  · exact le_rfl

section Publish

variable {p : SnapshotPublisher} {q : Publication}

theorem published_publish :
    (p.publish q).published = p.published ∨ (p.publish q).published = p.published ++ [q] := by
  unfold publish
  split_ifs
  · exact .inr rfl
  · exact .inl rfl
  · exact .inl rfl

theorem mem_publish
    {q' : Publication} (h : q' ∈ (p.publish q).published) : q' ∈ p.published ∨ q' = q := by
  rcases published_publish (p := p) (q := q) with hsame | hmore
  · rw [hsame] at h
    exact .inl h
  · rw [hmore] at h
    rcases List.mem_append.mp h with h | h
    · exact .inl h
    · exact .inr (List.mem_singleton.mp h)

@[simp] theorem crossVenueBooks_publish : (p.publish q).crossVenueBooks = p.crossVenueBooks := by
  unfold publish
  split_ifs <;> rfl

@[simp] theorem crossVenueSeq_publish : (p.publish q).crossVenueSeq = p.crossVenueSeq := by
  unfold publish
  split_ifs <;> rfl

@[simp] theorem fusionSeq_publish : (p.publish q).fusionSeq = p.fusionSeq := by
  unfold publish
  split_ifs <;> rfl

/-- An envelope within the counters that is ordered after the earlier ones can be published. -/
theorem Counted.publish (h : p.Counted)
    (hcross : q.type = .crossVenueBook → ∀ k, q.key = .instrument k →
      q.seq ≤ p.crossVenueSeq.getD k 0)
    (hfusion : q.type = .fusedDepth → ∀ k, q.key = .instrument k → q.seq ≤ p.fusionSeq.getD k 0)
    (htrade : q.type = .crossVenueTrade → q.key = .join q.instrument q.marketType)
    (hq : ∀ q' ∈ p.published, q'.Ordered q) :
    (p.publish q).Counted where
  crossVenue := by
    intro k hk q' hq' htype hkey
    rw [crossVenueBooks_publish] at hk
    rw [crossVenueSeq_publish]
    rcases mem_publish hq' with hq' | rfl
    · exact h.crossVenue k hk q' hq' htype hkey
    · exact hcross htype k hkey
  fusion := by
    intro k q' hq' htype hkey
    rw [fusionSeq_publish]
    rcases mem_publish hq' with hq' | rfl
    · exact h.fusion k q' hq' htype hkey
    · exact hfusion htype k hkey
  trade := by
    intro q' hq' htype
    rcases mem_publish hq' with hq' | rfl
    · exact h.trade q' hq' htype
    · exact htrade htype
  ordered := by
    rcases published_publish (p := p) (q := q) with hsame | hmore
    · rw [hsame]
      exact h.ordered
    · rw [hmore]
      refine List.pairwise_append.mpr ⟨h.ordered, List.pairwise_singleton _ _, ?_⟩
      intro q' hq' q'' hq''
      rw [List.mem_singleton.mp hq'']
      exact hq q' hq'

end Publish

/-- What `Counted` says does not depend on the rest of the state. -/
theorem Counted.congr
    {p p' : SnapshotPublisher} (h : p.Counted) (hbooks : p'.crossVenueBooks = p.crossVenueBooks)
    (hcross : p'.crossVenueSeq = p.crossVenueSeq) (hfusion : p'.fusionSeq = p.fusionSeq)
    (hpublished : p'.published = p.published) :
    p'.Counted where
  crossVenue := by
    rw [hbooks, hcross, hpublished]
    exact h.crossVenue
  fusion := by
    rw [hfusion, hpublished]
    exact h.fusion
  trade := by
    rw [hpublished]
    exact h.trade
  ordered := by
    rw [hpublished]
    exact h.ordered

/-! ## Steps -/

/-- Earlier envelopes with the instrument and the market type of `env` come from its key. -/
def KeyApart (p : SnapshotPublisher) (env : Envelope) : Prop :=
  ∀ q ∈ p.published, q.type = .crossVenueBook ∨ q.type = .fusedDepth →
    q.instrument = stripMarketType (stateInstrumentKey env) →
      q.marketType = envelopeMarketType env → q.key = .instrument (stateInstrumentKey env)

/-- An instrument that has been evicted does not come back. -/
def NoReturn (p : SnapshotPublisher) (key : String) : Prop :=
  key ∉ p.crossVenueBooks → ∀ q ∈ p.published, q.type = .crossVenueBook → q.key ≠ .instrument key

instance (p : SnapshotPublisher) (env : Envelope) : Decidable (p.KeyApart env) :=
  inferInstanceAs (Decidable (∀ q ∈ p.published, _))

instance (p : SnapshotPublisher) (key : String) : Decidable (p.NoReturn key) :=
  inferInstanceAs (Decidable (_ → ∀ q ∈ p.published, _))

/-- The snapshot that a trade emits, if any. -/
def emitted (p : SnapshotPublisher) (env : Envelope) (trade : TradeTickV1) :
    Option Insights.CrossVenueTradeSnapshotV1 :=
  match (Insights.JoinCrossVenueTrades.execute (joinRequest env trade) p.joinTrades).2 with
  | .ok snap => snap
  | .error _ => none

/-- A trade that emits a snapshot is not numbered below the earlier snapshots of its names. -/
def TradeAbove (p : SnapshotPublisher) (env : Envelope) (trade : TradeTickV1) : Prop :=
  ∀ snap ∈ p.emitted env trade, ∀ q ∈ p.published, q.type = .crossVenueTrade →
    q.instrument = snap.instrument → q.marketType = snap.marketType → q.seq ≤ env.seq

/--
Earlier snapshots with the venue of a book and its instrument, without the market type, come from
this book and are not numbered above it.
-/
def BookAbove (p : SnapshotPublisher) (id : BookID) : Prop :=
  ∀ snap ∈ (snapshotBook p.updateBook id).2, ∀ q ∈ p.published, q.type = .orderBook →
    q.venue = snap.bookID.venue → q.instrument = stripMarketType snap.bookID.instrument →
      q.key = .book snap.bookID ∧ q.seq ≤ snap.seq

instance (p : SnapshotPublisher) (env : Envelope) (trade : TradeTickV1) :
    Decidable (p.TradeAbove env trade) :=
  inferInstanceAs (Decidable (∀ snap ∈ p.emitted env trade, _))

instance (p : SnapshotPublisher) (id : BookID) : Decidable (p.BookAbove id) :=
  inferInstanceAs (Decidable (∀ snap ∈ (snapshotBook p.updateBook id).2, _))

/-- The condition on a step. -/
def Admits (p : SnapshotPublisher) : Event → Prop
  | .bookDelta env _ _ => p.KeyApart env ∧ p.NoReturn (stateInstrumentKey env)
  | .trade env trade => p.TradeAbove env trade
  | .orderBookTick tsIngest => Always (publishOrderBook tsIngest) BookAbove p p.sortedOrderBookKeys

instance (p : SnapshotPublisher) : (e : Event) → Decidable (p.Admits e)
  | .bookDelta _ _ _ => inferInstanceAs (Decidable (_ ∧ _))
  | .trade env trade => inferInstanceAs (Decidable (p.TradeAbove env trade))
  | .orderBookTick tsIngest =>
    inferInstanceAs (Decidable (Always (publishOrderBook tsIngest) BookAbove p _))

section Upsert

variable {p : SnapshotPublisher} {key : String}

theorem getD_evictCrossVenueInstrumentIfNeeded
    {k : String} (hk : k ∈ p.evictCrossVenueInstrumentIfNeeded.crossVenueBooks) :
    k ∈ p.crossVenueBooks ∧
      p.evictCrossVenueInstrumentIfNeeded.crossVenueSeq.getD k 0 = p.crossVenueSeq.getD k 0 := by
  unfold evictCrossVenueInstrumentIfNeeded at hk ⊢
  by_cases hroom : p.cfg.maxInstruments ≤ 0 ∨
      (p.crossVenueBooks.size : Int) < p.cfg.maxInstruments
  · rw [if_pos hroom] at hk ⊢
    exact ⟨hk, rfl⟩
  · rw [if_neg hroom] at hk ⊢
    cases hqueue : p.crossVenueInstrumentQ with
    | nil =>
      rw [hqueue] at hk
      exact ⟨hk, rfl⟩
    | cons evicted rest =>
      rw [hqueue] at hk
      obtain ⟨hne, hmem⟩ := mem_erase.mp hk
      refine ⟨hmem, ?_⟩
      change GoMap.getD (p.crossVenueSeq.erase evicted) k 0 = _
      rw [getD_erase, if_neg hne]

theorem upsertCrossVenueBook_frame
    (p : SnapshotPublisher) (key : String) (book : CrossVenueVenueBook) :
    (p.upsertCrossVenueBook key book).published = p.published ∧
      (p.upsertCrossVenueBook key book).fusionSeq = p.fusionSeq := by
  unfold upsertCrossVenueBook evictCrossVenueInstrumentIfNeeded
  cases p.crossVenueBooks.lookup key with
  | some venues => exact ⟨rfl, rfl⟩
  | none =>
    dsimp only
    split_ifs
    · exact ⟨rfl, rfl⟩
    · cases p.crossVenueInstrumentQ <;> exact ⟨rfl, rfl⟩

theorem mem_upsertCrossVenueBook
    (book : CrossVenueVenueBook) : key ∈ (p.upsertCrossVenueBook key book).crossVenueBooks := by
  unfold upsertCrossVenueBook
  cases p.crossVenueBooks.lookup key with
  | some venues => exact (mem_insert _).mpr (.inl rfl)
  | none => exact (mem_insert _).mpr (.inl rfl)

/-- An instrument that is there afterwards is new, or it was there and its counter stays. -/
theorem getD_upsertCrossVenueBook {book : CrossVenueVenueBook} {k : String}
    (hk : k ∈ (p.upsertCrossVenueBook key book).crossVenueBooks) :
    k = key ∧ key ∉ p.crossVenueBooks ∨
      k ∈ p.crossVenueBooks ∧
        (p.upsertCrossVenueBook key book).crossVenueSeq.getD k 0 = p.crossVenueSeq.getD k 0 := by
  unfold upsertCrossVenueBook at hk ⊢
  cases hlookup : p.crossVenueBooks.lookup key with
  | some venues =>
    rw [hlookup] at hk
    refine .inr ⟨?_, rfl⟩
    rcases (mem_insert _).mp hk with rfl | hk
    · exact mem_iff_lookup.mpr ⟨venues, hlookup⟩
    · exact hk
  | none =>
    rw [hlookup] at hk
    rcases (mem_insert _).mp hk with rfl | hk
    · exact .inl ⟨rfl, lookup_eq_none.mp hlookup⟩
    · exact .inr (getD_evictCrossVenueInstrumentIfNeeded hk)

theorem Counted.upsertCrossVenueBook
    (h : p.Counted) (hreturn : p.NoReturn key) (book : CrossVenueVenueBook) :
    (p.upsertCrossVenueBook key book).Counted := by
  obtain ⟨hpublished, hfusion⟩ := upsertCrossVenueBook_frame p key book
  refine ⟨fun k hk q hq htype hkey => ?_, hpublished ▸ hfusion ▸ h.fusion, hpublished ▸ h.trade,
    hpublished ▸ h.ordered⟩
  rcases getD_upsertCrossVenueBook hk with ⟨rfl, hnew⟩ | ⟨hold, hgetD⟩
  · exact absurd hkey (hreturn hnew q (hpublished ▸ hq) htype)
  · rw [hgetD]
    exact h.crossVenue k hold q (hpublished ▸ hq) htype hkey

end Upsert

section BookDelta

variable {p : SnapshotPublisher} {env : Envelope}

theorem Counted.countCrossVenue (h : p.Counted) (key : String) :
    (p.countCrossVenue key).Counted where
  crossVenue := fun k hk q hq htype hkey =>
    (h.crossVenue k hk q hq htype hkey).trans (le_getD_insert_nextSeq p.crossVenueSeq key k)
  fusion := h.fusion
  trade := h.trade
  ordered := h.ordered

theorem Counted.countFusion (h : p.Counted) (key : String) :
    (p.countFusion key).Counted where
  crossVenue := h.crossVenue
  fusion := fun k q hq htype hkey =>
    (h.fusion k q hq htype hkey).trans (le_getD_insert_nextSeq p.fusionSeq key k)
  trade := h.trade
  ordered := h.ordered

/-- An envelope of the key of `env` leaves the keys apart. -/
theorem KeyApart.publish
    {q : Publication} (h : p.KeyApart env) (hkey : q.key = .instrument (stateInstrumentKey env)) :
    (p.publish q).KeyApart env := by
  intro q' hq' htype hinst hmarket
  rcases mem_publish hq' with hq' | rfl
  · exact h q' hq' htype hinst hmarket
  · exact hkey

theorem getD_countCrossVenue (key : String) :
    (p.countCrossVenue key).crossVenueSeq.getD key 0 = nextSeq p.crossVenueSeq key := by
  unfold countCrossVenue
  rw [getD_insert, if_pos rfl]

theorem getD_countFusion
    (key : String) : (p.countFusion key).fusionSeq.getD key 0 = nextSeq p.fusionSeq key := by
  unfold countFusion
  rw [getD_insert, if_pos rfl]

theorem Counted.mergeCrossVenue
    (h : p.Counted) (hapart : p.KeyApart env) (hmem : stateInstrumentKey env ∈ p.crossVenueBooks) :
    (p.mergeCrossVenue env (stateInstrumentKey env)).Counted ∧
      (p.mergeCrossVenue env (stateInstrumentKey env)).KeyApart env := by
  have hcount := h.countCrossVenue (stateInstrumentKey env)
  have hseq := getD_countCrossVenue (p := p) (stateInstrumentKey env)
  unfold SnapshotPublisher.mergeCrossVenue
  cases p.cfg.merge _ _ _ with
  | none => exact ⟨h, hapart⟩
  | some tsServerMs =>
    dsimp only
    split_ifs
    · exact ⟨hcount, hapart⟩
    · refine ⟨hcount.publish ?_ (fun ht => nomatch ht) (fun ht => nomatch ht) ?_,
        KeyApart.publish hapart rfl⟩
      · intro _ k hk
        rw [← StateKey.instrument.inj hk]
        exact hseq.ge
      · -- Earlier envelopes of the identity have this key, so the counter bounds them.
        rintro q hq ⟨htype, -, hinst, hmarket⟩
        have hkey := hapart q hq (.inl htype) hinst hmarket
        refine ⟨hkey, ?_⟩
        exact (hcount.crossVenue _ hmem q hq htype hkey).trans_eq hseq

theorem Counted.handleBookDeltaForCrossVenue
    (h : p.Counted) (hapart : p.KeyApart env) (hreturn : p.NoReturn (stateInstrumentKey env)) :
    (p.handleBookDeltaForCrossVenue env (stateInstrumentKey env)).Counted ∧
      (p.handleBookDeltaForCrossVenue env (stateInstrumentKey env)).KeyApart env := by
  unfold SnapshotPublisher.handleBookDeltaForCrossVenue
  split_ifs
  · exact ⟨h, hapart⟩
  · rcases snapshotBook p.updateBook ⟨env.venue, stateInstrumentKey env⟩ with ⟨uc, _ | snap⟩
    · exact ⟨h.congr rfl rfl rfl rfl, hapart⟩
    · dsimp only
      split_ifs
      · exact ⟨h.congr rfl rfl rfl rfl, hapart⟩
      · have hread : Counted { p with updateBook := uc } := h.congr rfl rfl rfl rfl
        refine (hread.upsertCrossVenueBook hreturn _).mergeCrossVenue ?_
          (mem_upsertCrossVenueBook _)
        intro q hq
        rw [(upsertCrossVenueBook_frame _ _ _).1] at hq
        exact hapart q hq

theorem Counted.publish_fusedDepth (h : p.Counted) (hapart : p.KeyApart env) :
    ((p.countFusion (stateInstrumentKey env)).publish (fusedDepthEnvelope env
      (stateInstrumentKey env) (nextSeq p.fusionSeq (stateInstrumentKey env)))).Counted := by
  have hcount := h.countFusion (stateInstrumentKey env)
  have hseq := getD_countFusion (p := p) (stateInstrumentKey env)
  refine hcount.publish (fun ht => nomatch ht) ?_ (fun ht => nomatch ht) ?_
  · intro _ k hk
    rw [← StateKey.instrument.inj hk]
    exact hseq.ge
  · rintro q hq ⟨htype, -, hinst, hmarket⟩
    have hkey := hapart q hq (.inr htype) hinst hmarket
    exact ⟨hkey, (hcount.fusion _ q hq htype hkey).trans_eq hseq⟩

theorem Counted.handleBookDeltaForFusion
    (h : p.Counted) (hapart : p.KeyApart env) (order : List String) :
    (p.handleBookDeltaForFusion env (stateInstrumentKey env) order).Counted := by
  have hread : ∀ uc, Counted { p with updateBook := uc } := fun _ => h.congr rfl rfl rfl rfl
  unfold SnapshotPublisher.handleBookDeltaForFusion
  dsimp only
  split_ifs
  · exact h
  · exact hread _
  · exact (hread _).countFusion _
  · exact (hread _).publish_fusedDepth hapart

theorem Counted.handleBookDelta
    (h : p.Counted) (hapart : p.KeyApart env) (hreturn : p.NoReturn (stateInstrumentKey env))
    (delta : BookDeltaV1) (order : List String) : (p.handleBookDelta env delta order).Counted := by
  unfold SnapshotPublisher.handleBookDelta
  rcases UpdateOrderBook.execute (updateRequest env delta) p.updateBook with ⟨uc, _ | response⟩
  · exact h.congr rfl rfl rfl rfl
  · have hactive : Counted { p with
        updateBook := uc
        activeOrderBooks := p.activeOrderBooks.insert ⟨env.venue, stateInstrumentKey env⟩ () } :=
      h.congr rfl rfl rfl rfl
    obtain ⟨hmerged, hapart'⟩ := hactive.handleBookDeltaForCrossVenue hapart hreturn
    exact hmerged.handleBookDeltaForFusion hapart' order

end BookDelta

theorem Counted.handleTrade {p : SnapshotPublisher} {env : Envelope} {trade : TradeTickV1}
    (h : p.Counted) (habove : p.TradeAbove env trade) : (p.handleTrade env trade).Counted := by
  unfold TradeAbove emitted at habove
  unfold SnapshotPublisher.handleTrade
  rcases hrun : Insights.JoinCrossVenueTrades.execute (joinRequest env trade) p.joinTrades
    with ⟨join, _ | _ | snap⟩
  · exact h.congr rfl rfl rfl rfl
  · exact h.congr rfl rfl rfl rfl
  · rw [hrun] at habove
    have hnamed := Insights.JoinCrossVenueTrades.named_execute (congrArg Prod.snd hrun)
    have hkey : (tradeSnapshotEnvelope env snap).key =
        .join (tradeSnapshotEnvelope env snap).instrument
          (tradeSnapshotEnvelope env snap).marketType :=
      congrArg₂ StateKey.join hnamed.1.symm hnamed.2.symm
    have hread : Counted { p with joinTrades := join } := h.congr rfl rfl rfl rfl
    refine hread.publish (fun ht => nomatch ht) (fun ht => nomatch ht) (fun _ => hkey) ?_
    rintro q hq ⟨htype, -, hinst, hmarket⟩
    refine ⟨?_, habove snap rfl q hq htype hinst hmarket⟩
    rw [h.trade q hq htype, hkey, hinst, hmarket]

theorem Counted.publishOrderBook {p : SnapshotPublisher} {id : BookID} (tsIngest : Int)
    (h : p.Counted) (habove : p.BookAbove id) : (publishOrderBook tsIngest p id).Counted := by
  unfold BookAbove at habove
  unfold SnapshotPublisher.publishOrderBook
  rcases hrun : snapshotBook p.updateBook id with ⟨uc, _ | snap⟩
  · exact h.congr rfl rfl rfl rfl
  · rw [hrun] at habove
    have hread : Counted { p with updateBook := uc } := h.congr rfl rfl rfl rfl
    refine hread.publish (fun ht => nomatch ht) (fun ht => nomatch ht) (fun ht => nomatch ht) ?_
    rintro q hq ⟨htype, hvenue, hinst, -⟩
    exact habove snap rfl q hq htype hvenue hinst

/-- A step that meets its condition keeps the envelopes ordered. -/
theorem Counted.step {p : SnapshotPublisher} {e : Event} (h : p.Counted) (hadmits : p.Admits e) :
    (SnapshotPublisher.step p e).Counted := by
  cases e with
  | bookDelta env delta order => exact h.handleBookDelta hadmits.1 hadmits.2 delta order
  | trade env trade => exact h.handleTrade hadmits
  | orderBookTick tsIngest =>
    exact Runs.invariant_of_always (fun _ _ => Counted.publishOrderBook tsIngest) h hadmits

/-- The envelope of an event. -/
def Event.envelope : Event → Option Envelope
  | .bookDelta env _ _ => some env
  | .trade env _ => some env
  | .orderBookTick _ => none

/-- The seqs of every source stream increase. -/
def SeqsIncrease (events : List Event) : Prop :=
  (events.filterMap Event.envelope).Pairwise fun e e' =>
    e.type = e'.type ∧ e.venue = e'.venue ∧ e.instrument = e'.instrument ∧
      envelopeMarketType e = envelopeMarketType e' → e.seq < e'.seq

instance (events : List Event) : Decidable (SeqsIncrease events) :=
  inferInstanceAs (Decidable (List.Pairwise _ _))

/-- An actor that merges every book, at its start. -/
def samplePublisher : SnapshotPublisher :=
  new ⟨true, 0, 0, true, fun _ now _ => some now, fun _ _ _ => true, fun _ => true⟩
    (UpdateOrderBook.create UpdateOrderBook.defaultConfig (fun _ => 0) fun _ => none)
    (.create 0 0 1024 0 (fun _ => none) fun _ => 0)

/-- A delta of a market. -/
def marketDelta (venue marketType : String) (seq : Int) : Event :=
  .bookDelta { deltaEnvelope with
      venue := venue
      seq := seq
      metadata := insert "instrument_market_type" marketType ∅ }
    ⟨[⟨100, 1⟩], [], 0, false⟩ ["BINANCE", "BYBIT"]

/-- A trade of a venue. -/
def venueTrade (venue : String) (seq : Int) : Event :=
  .trade { deltaEnvelope with type := "marketdata.trade", venue := venue, seq := seq }
    ⟨100, 1, "buy", "1"⟩

end SnapshotPublisher
end Aggregation
end StreamAnalytics
