import StreamAnalytics.Evidence.Engine

/-!
# The two engines and their rules

The events of `internal/core/evidence/domain/rule.go` and `lel_input.go`, the rules of
`internal/core/evidence/app`, each with the events it evaluates, and `OnEvent` of the two
engines.
-/

namespace StreamAnalytics
namespace Evidence

open Runs GoStrings Naming

/-! ## Events -/

/-- `EventKind`. -/
inductive EventKind where
  | trade
  | book
  | candle
deriving DecidableEq

/-- `RuleEvent`, without the fields of candles, which no rule evaluates. -/
structure RuleEvent where
  kind : EventKind
  venue : String
  symbol : String
  streamID : String
  tsServer : Int
  seq : Int
  tradePrice : Float := 0
  tradeSize : Float := 0
  tradeSide : String := ""
  bestBid : Float := 0
  bestAsk : Float := 0
  bidDepth : Float := 0
  askDepth : Float := 0
  bidLevels : Int := 0
  askLevels : Int := 0

/-- `RuleEvent.StreamKey`. -/
def RuleEvent.streamKey (e : RuleEvent) : String := e.venue ++ "|" ++ e.symbol

instance : RuleInput RuleEvent where
  streamID := RuleEvent.streamID
  seq := RuleEvent.seq
  tsServer := RuleEvent.tsServer
  streamKey := RuleEvent.streamKey

/-- `LELEventKind`, an integer in the source. -/
inductive LELEventKind where
  | snapshot
  | tape
  | unknown
deriving DecidableEq

/-- `LELEvent`. -/
structure LELEvent where
  kind : LELEventKind
  venue : String
  symbol : String
  streamID : String
  tsServer : Int
  seq : Int
  bestBid : Float := 0
  bestAsk : Float := 0
  spreadBPS : Float := 0
  bidDepth : Float := 0
  askDepth : Float := 0
  bidLevels : Int := 0
  askLevels : Int := 0
  tradeCount : Int := 0
  buyVolume : Float := 0
  sellVolume : Float := 0
  totalVolume : Float := 0
  vwapPrice : Float := 0
  maxPrice : Float := 0
  minPrice : Float := 0
  rate : Float := 0
  imbalance : Float := 0
  isBurst : Bool := false
  windowStartTs : Int := 0
  windowEndTs : Int := 0

/-- `LELEvent.StreamKey`. -/
def LELEvent.streamKey (e : LELEvent) : String :=
  if trimSpace e.streamID ≠ "" then trimSpace e.streamID
  else canonicalVenue e.venue ++ "|" ++ canonicalInstrument e.symbol

instance : RuleInput LELEvent where
  streamID := LELEvent.streamID
  seq := LELEvent.seq
  tsServer := LELEvent.tsServer
  streamKey := LELEvent.streamKey

/-- `normalizeLELEvent`. -/
def normalizeLELEvent (e : LELEvent) : LELEvent :=
  let venue := canonicalVenue e.venue
  let symbol := canonicalInstrument e.symbol
  { e with
    venue := venue
    symbol := symbol
    streamID := if trimSpace e.streamID = "" then venue ++ "|" ++ symbol else e.streamID }

variable {complete : LELEvent → O → Option O} {f : Fed LELEvent S O}

@[simp] theorem kind_normalizeLELEvent (e : LELEvent) : (normalizeLELEvent e).kind = e.kind := by
  simp only [normalizeLELEvent]

@[simp] theorem seq_normalizeLELEvent (e : LELEvent) : (normalizeLELEvent e).seq = e.seq := by
  simp only [normalizeLELEvent]

@[simp] theorem tsServer_normalizeLELEvent
    (e : LELEvent) : (normalizeLELEvent e).tsServer = e.tsServer := by
  simp only [normalizeLELEvent]

theorem trimSpace_bar_ne_empty
    (venue symbol : String) : trimSpace (venue ++ "|" ++ symbol) ≠ "" := by
  refine trimSpace_ne_empty (c := '|') ?_ (by decide +kernel)
  simp [String.toList_append]

/-- A normalized event has a stream, and its stream is its key. -/
theorem trimSpace_streamID_normalizeLELEvent
    (e : LELEvent) : trimSpace (normalizeLELEvent e).streamID ≠ "" := by
  unfold normalizeLELEvent
  dsimp only
  split_ifs with hblank
  · exact trimSpace_bar_ne_empty _ _
  · exact hblank

theorem streamKey_normalizeLELEvent (e : LELEvent) :
    (normalizeLELEvent e).streamKey = trimSpace (normalizeLELEvent e).streamID := by
  unfold LELEvent.streamKey
  exact if_pos (trimSpace_streamID_normalizeLELEvent e)

/-! ## Rules -/

section Rules

variable {S O : Type}

/-- A rule without streams. -/
def Rule.new {E : Type} (name : String) (maxStreams : Int) (admits : E → Bool) (zero : S)
    (evaluate : E → S → S × List O) : Rule E S O where
  name := name
  maxStreams := maxStreams
  admits := admits
  zero := zero
  evaluate := evaluate
  streams := ∅

/-- `SpreadBps`. -/
def spreadBps (bestBid bestAsk : Float) : Float :=
  let mid := (bestBid + bestAsk) / 2
  if mid ≤ 0 then 0 else (bestAsk - bestBid) / mid * 10000

variable (maxStreams : Int) (zero : S)

section RuleEvents

variable (evaluate : RuleEvent → S → S × List O)

/-- `NewSpreadExplosionRule`. -/
def spreadExplosionRule : Rule RuleEvent S O :=
  Rule.new "spread_explosion" maxStreams
    (fun e => e.kind = .book ∧ ¬ (e.bestBid ≤ 0 ∨ e.bestAsk ≤ 0 ∨ e.bestAsk ≤ e.bestBid))
    zero evaluate

/-- `NewLiquidityThinningRule`. -/
def liquidityThinningRule : Rule RuleEvent S O :=
  Rule.new "liquidity_thinning" maxStreams
    (fun e => e.kind = .book ∧ ¬ e.bidDepth + e.askDepth < 0) zero evaluate

/-- `NewPersistentImbalanceRule`. -/
def persistentImbalanceRule : Rule RuleEvent S O :=
  Rule.new "persistent_imbalance" maxStreams (fun e => e.kind = .book) zero evaluate

/-- `NewAbsorptionRule`. -/
def absorptionRule : Rule RuleEvent S O :=
  Rule.new "absorption" maxStreams
    (fun e => e.kind = .trade ∧ ¬ (e.tradePrice ≤ 0 ∨ e.tradeSize ≤ 0)) zero evaluate

/-- `NewSweepRule`. -/
def sweepRule : Rule RuleEvent S O :=
  Rule.new "sweep" maxStreams (fun e => e.kind = .book) zero evaluate

end RuleEvents

section LELEvents

variable (evaluate : LELEvent → S → S × List O)

/-- `NewLELBookImbalanceRule`. -/
def lelBookImbalanceRule : Rule LELEvent S O :=
  Rule.new "BOOK_IMBALANCE" maxStreams (fun e => e.kind = .snapshot) zero evaluate

/-- `NewLELAbsorptionRule`. -/
def lelAbsorptionRule : Rule LELEvent S O :=
  Rule.new "ABSORPTION" maxStreams (fun _ => true) zero evaluate

/-- `NewLELSweepRule`. -/
def lelSweepRule : Rule LELEvent S O :=
  Rule.new "SWEEP" maxStreams (fun e => e.kind = .snapshot) zero evaluate

/-- `NewLELThinningRule`. -/
def lelThinningRule : Rule LELEvent S O :=
  Rule.new "THINNING" maxStreams
    (fun e => e.kind = .snapshot ∧ ¬ e.bidDepth + e.askDepth < 0) zero evaluate

/-- The spread that `LELSpreadRegimeRule` evaluates. -/
def observedSpread (e : LELEvent) : Float :=
  if e.spreadBPS ≤ 0 ∧ 0 < e.bestBid ∧ e.bestBid < e.bestAsk then spreadBps e.bestBid e.bestAsk
  else e.spreadBPS

/-- `NewLELSpreadRegimeRule`. -/
def lelSpreadRegimeRule : Rule LELEvent S O :=
  Rule.new "SPREAD_REGIME" maxStreams
    (fun e => e.kind = .snapshot ∧ ¬ observedSpread e ≤ 0) zero evaluate

end LELEvents
end Rules

/-! ## Engines -/

section Engines

variable {S O : Type}

/-- `EvidenceEngine.OnEvent`. -/
def EvidenceEngine.onEvent (complete : RuleEvent → O → Option O) (eng : Engine RuleEvent S O)
    (e : RuleEvent) : Engine RuleEvent S O × List O :=
  eng.dispatch complete e

/-- `LELEngine.OnEvent`. -/
def LELEngine.onEvent (complete : LELEvent → O → Option O) (eng : Engine LELEvent S O)
    (e : LELEvent) : Engine LELEvent S O × List O :=
  let normalized := normalizeLELEvent e
  if normalized.seq ≤ 0 ∨ normalized.tsServer ≤ 0 then (eng, [])
  else
    match normalized.kind with
    | .unknown => (eng, [])
    | .snapshot | .tape => eng.dispatch complete normalized

/-- `EvidenceEngine` is given an event. -/
def EvidenceEngine.feed (complete : RuleEvent → O → Option O) (f : Fed RuleEvent S O)
    (e : RuleEvent) : Fed RuleEvent S O :=
  ⟨f.events ++ [e], (EvidenceEngine.onEvent complete f.engine e).1⟩

/-- `LELEngine` is given an event, which counts with the stream it gets. -/
def LELEngine.feed (complete : LELEvent → O → Option O) (f : Fed LELEvent S O)
    (e : LELEvent) : Fed LELEvent S O :=
  ⟨f.events ++ [normalizeLELEvent e], (LELEngine.onEvent complete f.engine e).1⟩

theorem LELEngine.onEvent_cases
    (complete : LELEvent → O → Option O) (eng : Engine LELEvent S O) (e : LELEvent) :
    (LELEngine.onEvent complete eng e).1 = eng ∧
        ((normalizeLELEvent e).kind = .unknown ∨ ¬ (eng.observe (normalizeLELEvent e)).2.Accepted) ∨
      (normalizeLELEvent e).kind ≠ .unknown ∧
        LELEngine.onEvent complete eng e = eng.dispatch complete (normalizeLELEvent e) := by
  unfold LELEngine.onEvent
  dsimp only
  split_ifs with hinvalid
  · refine .inl ⟨rfl, .inr fun haccepted => ?_⟩
    have hvalid := StateStore.valid_of_accepted haccepted
    rcases hinvalid with hseq | hts
    · exact absurd hvalid.2.1 (not_lt.mpr hseq)
    · exact absurd hvalid.2.2 (not_lt.mpr hts)
  · cases (normalizeLELEvent e).kind with
    | unknown => exact .inl ⟨rfl, .inl rfl⟩
    | snapshot => exact .inr ⟨LELEventKind.noConfusion, rfl⟩
    | tape => exact .inr ⟨LELEventKind.noConfusion, rfl⟩

/-- The streams of normalized events are their keys. -/
def Agree (f : Fed LELEvent S O) : Prop :=
  ∀ e ∈ f.events, e.streamKey = trimSpace e.streamID

theorem Agree.feed (h : Agree f) (e : LELEvent) : Agree (LELEngine.feed complete f e) := by
  intro e' he'
  rcases List.mem_append.mp he' with he' | he'
  · exact h e' he'
  · rw [List.mem_singleton.mp he']
    exact streamKey_normalizeLELEvent e

/-- An event that an engine does not dispatch changes nothing but the list of events. -/
theorem Fed.Belongs.append {E : Type} [RuleInput E] {f : Fed E S O} (h : f.Belongs) (e : E) :
    Fed.Belongs ⟨f.events ++ [e], f.engine⟩ := by
  intro r hr k hk
  obtain ⟨e', he', hkey, htracks⟩ := h r hr k hk
  exact ⟨e', List.mem_append_left _ he', hkey, htracks⟩

theorem LELEngine.belongs_feed {e : LELEvent} (hagree : Agree f) (hbelongs : f.Belongs)
    (hlasts : (normalizeLELEvent e).kind ≠ .unknown → f.Lasts (normalizeLELEvent e)) :
    (LELEngine.feed complete f e).Belongs := by
  unfold LELEngine.feed
  rcases LELEngine.onEvent_cases complete f.engine e with ⟨heng, -⟩ | ⟨hkind, hdispatch⟩
  · rw [heng]
    exact hbelongs.append _
  · rw [hdispatch]
    exact hbelongs.dispatch complete (hlasts hkind) fun e' he' _ => hagree e' he'

theorem LELEngine.lasts_of_belongs_feed
    {e : LELEvent} (hagree : Agree f) (hbelongs : (LELEngine.feed complete f e).Belongs)
    (hkind : (normalizeLELEvent e).kind ≠ .unknown) : f.Lasts (normalizeLELEvent e) := by
  rcases LELEngine.onEvent_cases complete f.engine e with ⟨-, h⟩ | ⟨-, hdispatch⟩
  · intro haccepted
    exact (h.elim hkind fun hrefused => hrefused haccepted).elim
  · unfold LELEngine.feed at hbelongs
    rw [hdispatch] at hbelongs
    have hfeed : Agree (LELEngine.feed complete f e) := hagree.feed e
    exact Fed.Belongs.lasts complete hfeed hbelongs

/--
In every run of `EvidenceEngine` in which the events that a rule evaluates are not evicted by
their own observation and the evicted streams are named by the keys of their events, all rule
states belong to tracked streams after every event.  In a run of `LELEngine` this is so
exactly if the events that a rule evaluates are not evicted by their own observation.
-/
theorem ruleState_tracked (cfg : EngineConfig) :
    (∀ (complete : RuleEvent → O → Option O) (rules : List (Rule RuleEvent S O)),
      (∀ r ∈ rules, r.streams = ∅) → ∀ events : List RuleEvent,
        Always (EvidenceEngine.feed complete) (fun f e => f.Lasts e ∧ f.EvictsByKey e)
            ⟨[], Engine.new cfg rules⟩ events →
          ∀ events', events' <+: events →
            (run (EvidenceEngine.feed complete) ⟨[], Engine.new cfg rules⟩ events').Belongs) ∧
      ∀ (complete : LELEvent → O → Option O) (rules : List (Rule LELEvent S O)),
        (∀ r ∈ rules, r.streams = ∅) → ∀ events : List LELEvent,
          ((∀ events', events' <+: events →
              (run (LELEngine.feed complete) ⟨[], Engine.new cfg rules⟩ events').Belongs) ↔
            Always (LELEngine.feed complete)
              (fun f e => (normalizeLELEvent e).kind ≠ .unknown → f.Lasts (normalizeLELEvent e))
              ⟨[], Engine.new cfg rules⟩ events) := by
  constructor
  · intro complete rules hfresh events hsafe events' hinitial
    refine Runs.invariant_of_prefix (I := Fed.Belongs) ?_ (Fed.belongs_new cfg hfresh) hsafe hinitial
    rintro f e hbelongs ⟨hlasts, hkey⟩
    exact hbelongs.dispatch complete hlasts hkey
  · intro complete rules hfresh events
    refine Runs.forall_prefix_iff_always (I := fun f => Agree f ∧ f.Belongs)
      (fun f h => h.2) ?_ ?_ ⟨fun e he => absurd he List.not_mem_nil, Fed.belongs_new cfg hfresh⟩ events
    · rintro f e ⟨hagree, hbelongs⟩ hlasts
      exact ⟨hagree.feed e, LELEngine.belongs_feed hagree hbelongs hlasts⟩
    · rintro f e ⟨hagree, -⟩ hbelongs hkind
      exact LELEngine.lasts_of_belongs_feed hagree hbelongs hkind

/-- A book event of a stream that is named by its key. -/
def keyedBook (symbol : String) (ts : Int) : RuleEvent :=
  { kind := .book, venue := "BINANCE", symbol := symbol, streamID := "BINANCE|" ++ symbol,
    tsServer := ts, seq := 1 }

/-- A snapshot event without a stream id. -/
def lelSnapshot (symbol : String) (ts : Int) : LELEvent :=
  { kind := .snapshot, venue := "BINANCE", symbol := symbol, streamID := "", tsServer := ts,
    seq := 1 }

/-- Streams of both engines that are evicted when they have expired. -/
theorem ruleState_tracked_expired :
    (run (EvidenceEngine.feed fun _ (o : Unit) => some o)
        ⟨[], Engine.new ⟨2, 10⟩ [sweepRule 2 () fun _ st => (st, [])]⟩
        [keyedBook "BTCUSDT" 1, keyedBook "ETHUSDT" 100]).Belongs ∧
      (run (LELEngine.feed fun _ (o : Unit) => some o)
        ⟨[], Engine.new ⟨2, 10⟩ [lelSweepRule 2 () fun _ st => (st, [])]⟩
        [lelSnapshot "BTCUSDT" 1, lelSnapshot "ETHUSDT" 100]).Belongs := by
  have hroom : ∀ s : StateStore, ∀ id ts, (s.entries.size : Int) < s.maxEntries → s.Room id ts :=
    fun s id ts h => .inr (.inl h)
  constructor
  · refine (ruleState_tracked ⟨2, 10⟩).1 _ _ ?_ _ ?_ _ (List.prefix_refl _)
    · intro r hr
      rw [List.mem_singleton.mp hr]
      rfl
    · refine ⟨⟨fun _ _ => hroom _ _ _ (by decide +kernel), fun e' he' => nomatch he'⟩,
        ⟨fun _ _ => hroom _ _ _ (by decide +kernel), ?_⟩, trivial⟩
      intro e' he' _
      rw [List.mem_singleton.mp he']
      decide +kernel
  · refine ((ruleState_tracked ⟨2, 10⟩).2 _ _ ?_ _).mpr ?_ _ (List.prefix_refl _)
    · intro r hr
      rw [List.mem_singleton.mp hr]
      rfl
    · exact ⟨fun _ _ _ => hroom _ _ _ (by decide +kernel),
        fun _ _ _ => hroom _ _ _ (by decide +kernel), trivial⟩

/-- A state without a tracked stream. -/
theorem Fed.not_belongs {E : Type} [RuleInput E] {f : Fed E S O} {k : String}
    (hheld : ∃ r ∈ f.engine.rules, k ∈ r.streams)
    (hnone : ∀ e ∈ f.events, RuleInput.streamKey e = k → ¬ f.Tracks e) : ¬ f.Belongs := by
  intro hbelongs
  obtain ⟨r, hr, hk⟩ := hheld
  obtain ⟨e, he, hkey, htracks⟩ := hbelongs r hr k hk
  exact hnone e he hkey htracks

/-- A book event with the stream id of the evidence subsystem. -/
def subsystemBook (symbol : String) (ts : Int) : RuleEvent :=
  { keyedBook symbol ts with streamID := "BINANCE/" ++ symbol ++ "/book_delta" }

/--
Rule states of streams that are not tracked.  The first stream of `EvidenceEngine` expires
when the second one is observed.  `LELEngine` has room for one stream and gets an older
event of a new stream.
-/
theorem not_belongs_evicted :
    ¬ (run (EvidenceEngine.feed fun _ (o : Unit) => some o)
        ⟨[], Engine.new ⟨2, 10⟩ [sweepRule 2 () fun _ st => (st, [])]⟩
        [subsystemBook "BTCUSDT" 1, subsystemBook "ETHUSDT" 100]).Belongs ∧
      ¬ (run (LELEngine.feed fun _ (o : Unit) => some o)
        ⟨[], Engine.new ⟨1, 600000⟩ [lelSweepRule 2 () fun _ st => (st, [])]⟩
        [lelSnapshot "BTCUSDT" 100, lelSnapshot "ETHUSDT" 50]).Belongs :=
  ⟨Fed.not_belongs (k := "BINANCE|BTCUSDT") (by decide +kernel) (by decide +kernel),
    Fed.not_belongs (k := "BINANCE|ETHUSDT") (by decide +kernel) (by decide +kernel)⟩

end Engines
end Evidence
end StreamAnalytics
