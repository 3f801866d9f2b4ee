import StreamAnalytics.Evidence.RuleState
import StreamAnalytics.Lib.Fnv
import StreamAnalytics.Shared.Envelope

/-!
# Snapshots and tapes in the liquidity evidence engine

Model of the part of `internal/actors/evidence/runtime/subsystem.go` that feeds the
`LELEngine`: snapshot and tape envelopes become events of the stream that their venue and
instrument name, and a replica gives the engine the events of the streams it owns.

The engine has one seq per stream for both kinds.  If the seqs of each kind increase for
each venue and instrument, an event is still rejected as non-monotonic if the last recorded
event of its stream is of the other kind, or of a venue and an instrument with the same
stream, and its seq is not lower (`nonMonotonic_iff`).
-/

namespace StreamAnalytics
namespace Evidence

open Runs GoStrings LELEngine

/-! ## From envelopes to events -/

/-- `AggregationOrderBookLevelV1`. -/
structure AggregationLevel where
  price : Float
  quantity : Float

/-- The fields of `AggregationSnapshotV2` that the events read. -/
structure AggregationSnapshotV2 where
  venue : String := ""
  instrument : String := ""
  seq : Int
  bids : List AggregationLevel := []
  asks : List AggregationLevel := []
  bestBidPrice : Float := 0
  bestAskPrice : Float := 0
  spreadBPS : Float := 0
  tsIngestMs : Int

/-- The fields of `AggregationTapeV1` that the events read. -/
structure AggregationTapeV1 where
  venue : String := ""
  instrument : String := ""
  windowStartTs : Int := 0
  windowEndTs : Int := 0
  tradeCount : Int := 0
  buyVolume : Float := 0
  sellVolume : Float := 0
  totalVolume : Float := 0
  vwapPrice : Float := 0
  maxPrice : Float := 0
  minPrice : Float := 0
  rate : Float := 0
  imbalance : Float := 0
  isBurst : Bool := false
  seq : Int
  tsIngestMs : Int

/-- `pickFirst`. -/
def pickFirst (primary fallback : String) : String :=
  if trimSpace primary ≠ "" then primary else fallback

/-- `sumSnapshotDepth`. -/
def sumSnapshotDepth (levels : List AggregationLevel) : Float :=
  levels.foldl (fun total level => total + level.quantity) 0

/-- The stream of the events of a venue and an instrument. -/
def lelStreamID (env : Envelope) : String := env.venue ++ "|" ++ env.instrument

/-- `buildLELSnapshotEvent`. -/
def buildLELSnapshotEvent (env : Envelope) (snapshot : AggregationSnapshotV2) : LELEvent where
  kind := .snapshot
  venue := pickFirst snapshot.venue env.venue
  symbol := pickFirst snapshot.instrument env.instrument
  streamID := lelStreamID env
  tsServer := if 0 < snapshot.tsIngestMs then snapshot.tsIngestMs else env.tsIngest
  seq := if 0 < snapshot.seq then snapshot.seq else env.seq
  bestBid := snapshot.bestBidPrice
  bestAsk := snapshot.bestAskPrice
  spreadBPS := snapshot.spreadBPS
  bidDepth := sumSnapshotDepth snapshot.bids
  askDepth := sumSnapshotDepth snapshot.asks
  bidLevels := snapshot.bids.length
  askLevels := snapshot.asks.length

/-- `buildLELTapeEvent`. -/
def buildLELTapeEvent (env : Envelope) (tape : AggregationTapeV1) : LELEvent where
  kind := .tape
  venue := pickFirst tape.venue env.venue
  symbol := pickFirst tape.instrument env.instrument
  streamID := lelStreamID env
  tsServer := if 0 < tape.tsIngestMs then tape.tsIngestMs else env.tsIngest
  seq := if 0 < tape.seq then tape.seq else env.seq
  tradeCount := tape.tradeCount
  buyVolume := tape.buyVolume
  sellVolume := tape.sellVolume
  totalVolume := tape.totalVolume
  vwapPrice := tape.vwapPrice
  maxPrice := tape.maxPrice
  minPrice := tape.minPrice
  rate := tape.rate
  imbalance := tape.imbalance
  isBurst := tape.isBurst
  windowStartTs := tape.windowStartTs
  windowEndTs := tape.windowEndTs

/-- The decoding of the payloads, which fails on what is not of the expected type. -/
structure LELCodec where
  snapshot : Envelope → Option AggregationSnapshotV2
  tape : Envelope → Option AggregationTapeV1

/-- The replica that a subsystem runs as. -/
structure Replica where
  id : Nat
  count : Nat

/-- `isLELOwner`. -/
def Replica.isLELOwner (replica : Replica) (venue symbol : String) : Bool :=
  replica.count ≤ 1 ||
    (Fnv.sumFieldsFast64 [toLower (trimSpace venue),
      toLower (trimSpace symbol)]).toNat % replica.count == replica.id

section Model

variable {S O : Type} (codec : LELCodec) (replica : Replica) (complete : LELEvent → O → Option O)
variable {env : Envelope} {e : LELEvent} {eng : Engine LELEvent S O}

/-- The event that `processLELEnvelope` builds. -/
def lelEvent (env : Envelope) : Option LELEvent :=
  if env.type = "aggregation.snapshot" then
    (codec.snapshot env).map (buildLELSnapshotEvent env)
  else if env.type = "aggregation.tape" then
    (codec.tape env).map (buildLELTapeEvent env)
  else none

/-- The event of an envelope that the replica gives to its engine. -/
def ownedEvent (env : Envelope) : Option LELEvent :=
  (lelEvent codec env).filter fun e => replica.isLELOwner e.venue e.symbol

/-- The engine after `processLELEnvelope`. -/
def processLELEnvelope (eng : Engine LELEvent S O) (env : Envelope) : Engine LELEvent S O :=
  match ownedEvent codec replica env with
  | none => eng
  | some e => (onEvent complete eng e).1

/-- The reasons with which `LELEngine.OnEvent` counts an event as dropped. -/
inductive LELDropReason where
  | invalidEvent
  | invalidKind
  | refused (reason : DropReason)
deriving DecidableEq

/-- The reason for which an event is dropped before the rules see it. -/
def LELEngine.dropReason (eng : Engine LELEvent S O) (e : LELEvent) : Option LELDropReason :=
  let normalized := normalizeLELEvent e
  if normalized.seq ≤ 0 ∨ normalized.tsServer ≤ 0 then some .invalidEvent
  else
    match normalized.kind with
    | .unknown => some .invalidKind
    | .snapshot | .tape => (eng.observe normalized).2.reason.map .refused

/-- The engine rejects the event of an envelope as non-monotonic. -/
def Rejects (eng : Engine LELEvent S O) (env : Envelope) : Prop :=
  ∃ e, ownedEvent codec replica env = some e ∧
    dropReason eng e = some (.refused .nonMonotonicSeq)

instance (eng : Engine LELEvent S O) (env : Envelope) :
    Decidable (Rejects codec replica eng env) :=
  decidable_of_iff ((ownedEvent codec replica env).any fun e =>
    dropReason eng e = some (.refused .nonMonotonicSeq)) (by simp [Rejects, Option.any_eq_true])

/-! ## What the store records -/

variable {codec replica}

theorem lelEvent_spec
    (h : lelEvent codec env = some e) : e.streamID = lelStreamID env ∧ e.kind ≠ .unknown := by
  unfold lelEvent at h
  split_ifs at h
  · obtain ⟨snapshot, -, rfl⟩ := Option.map_eq_some_iff.mp h
    exact ⟨rfl, LELEventKind.noConfusion⟩
  · obtain ⟨tape, -, rfl⟩ := Option.map_eq_some_iff.mp h
    exact ⟨rfl, LELEventKind.noConfusion⟩

theorem lelEvent_of_ownedEvent
    (h : ownedEvent codec replica env = some e) : lelEvent codec env = some e :=
  (Option.filter_eq_some_iff.mp h).1

/-- The stream is not blank, so the event keeps it. -/
theorem streamID_normalize_lelEvent
    (h : lelEvent codec env = some e) : (normalizeLELEvent e).streamID = lelStreamID env := by
  have hstream := (lelEvent_spec h).1
  unfold normalizeLELEvent
  dsimp only
  rw [hstream]
  exact if_neg (trimSpace_bar_ne_empty env.venue env.instrument)

/-- The engine sees the seq and the timestamp of the event. -/
theorem observe_normalize_lelEvent (h : lelEvent codec env = some e) :
    eng.observe (normalizeLELEvent e) = eng.store.observe (lelStreamID env) e.seq e.tsServer := by
  have hstream := streamID_normalize_lelEvent h
  unfold Engine.observe
  simp only [RuleInput.streamID, RuleInput.seq, RuleInput.tsServer, seq_normalizeLELEvent,
    tsServer_normalizeLELEvent, hstream]

/-- A rejection is the refusal of a stale event by the store. -/
theorem rejects_iff :
    Rejects codec replica eng env ↔
      ∃ e, ownedEvent codec replica env = some e ∧ 0 < e.seq ∧ 0 < e.tsServer ∧
        eng.store.Stale (lelStreamID env) e.seq e.tsServer := by
  refine exists_congr fun e => and_congr_right fun howned => ?_
  have hevent := lelEvent_of_ownedEvent howned
  have hkind : (normalizeLELEvent e).kind ≠ .unknown := by
    rw [kind_normalizeLELEvent]
    exact (lelEvent_spec hevent).2
  have hreason : dropReason eng e = some (.refused .nonMonotonicSeq) ↔
      ¬ (e.seq ≤ 0 ∨ e.tsServer ≤ 0) ∧
        (eng.observe (normalizeLELEvent e)).2.reason = some .nonMonotonicSeq := by
    unfold dropReason
    simp only [seq_normalizeLELEvent, tsServer_normalizeLELEvent]
    split_ifs with hinvalid
    · simp [hinvalid]
    · cases h : (normalizeLELEvent e).kind with
      | unknown => exact absurd h hkind
      | snapshot => simp [hinvalid]
      | tape => simp [hinvalid]
  rw [hreason, observe_normalize_lelEvent hevent, StateStore.reason_observe_iff, StateStore.Valid]
  constructor
  · rintro ⟨-, ⟨-, hseq, hts⟩, hstale⟩
    exact ⟨hseq, hts, hstale⟩
  · rintro ⟨hseq, hts, hstale⟩
    exact ⟨by omega, ⟨trimSpace_bar_ne_empty _ _, hseq, hts⟩, hstale⟩

/-- The entry of a stream after an envelope was there before or is that of its event. -/
theorem lookup_of_lookup_processLELEnvelope {k : String} {st : StreamState}
    (h : (processLELEnvelope codec replica complete eng env).store.entries.lookup k = some st) :
    eng.store.entries.lookup k = some st ∨
      ∃ e, lelEvent codec env = some e ∧ k = trimSpace (lelStreamID env) ∧
        st = ⟨e.tsServer, e.seq⟩ := by
  unfold processLELEnvelope at h
  cases howned : ownedEvent codec replica env with
  | none =>
    rw [howned] at h
    exact .inl h
  | some e =>
    rw [howned] at h
    have hevent := lelEvent_of_ownedEvent howned
    rcases onEvent_cases complete eng e with ⟨heng, -⟩ | ⟨-, hdispatch⟩
    · dsimp only at h
      rw [heng] at h
      exact .inl h
    · dsimp only at h
      rw [hdispatch, Engine.store_dispatch, observe_normalize_lelEvent hevent] at h
      rcases StateStore.lookup_of_lookup_observe h with h | ⟨rfl, rfl⟩
      · exact .inl h
      · exact .inr ⟨e, hevent, rfl, rfl⟩

/-- Every entry is that of an event that was processed. -/
theorem exists_of_lookup_run
    {cfg : EngineConfig} {rules : List (Rule LELEvent S O)} {envs : List Envelope}
    {k : String} {st : StreamState}
    (h : (run (processLELEnvelope codec replica complete)
      (Engine.new cfg rules) envs).store.entries.lookup k = some st) :
    ∃ y ∈ envs, ∃ e, lelEvent codec y = some e ∧ k = trimSpace (lelStreamID y) ∧
      st = ⟨e.tsServer, e.seq⟩ := by
  induction envs using List.reverseRecOn with
  | nil =>
    exact absurd h (by rw [show (run _ (Engine.new cfg rules) []).store.entries = ∅ from rfl]; simp)
  | append_singleton envs env ih =>
    rw [run_append] at h
    rcases lookup_of_lookup_processLELEnvelope complete h with h | ⟨e, he, hk, hst⟩
    · obtain ⟨y, hy, hwritten⟩ := ih h
      exact ⟨y, List.mem_append_left _ hy, hwritten⟩
    · exact ⟨env, List.mem_append_right _ List.mem_cons_self, e, he, hk, hst⟩

/-! ## One counter for two kinds -/

/-- The envelopes are of one kind, venue and instrument. -/
def SameSource (x y : Envelope) : Prop :=
  x.type = y.type ∧ x.venue = y.venue ∧ x.instrument = y.instrument

instance (x y : Envelope) : Decidable (SameSource x y) := inferInstanceAs (Decidable (_ ∧ _))

variable (codec replica)

/-- The seqs of each kind increase for each venue and instrument. -/
def IncreasingSeqs (envs : List Envelope) : Prop :=
  envs.Pairwise fun x y => SameSource x y →
    ∀ ex, lelEvent codec x = some ex → ∀ ey, lelEvent codec y = some ey → ex.seq < ey.seq

/--
`y` left the entry of the stream of `x` in the store, it has not expired when `x` arrives, and
its seq is not below that of `x`.
-/
def Blocks (eng : Engine LELEvent S O) (y x : Envelope) : Prop :=
  ∃ ex ey, ownedEvent codec replica x = some ex ∧ lelEvent codec y = some ey ∧
    0 < ex.seq ∧ 0 < ex.tsServer ∧
    trimSpace (lelStreamID y) = trimSpace (lelStreamID x) ∧
    eng.store.entries.lookup (trimSpace (lelStreamID x)) = some ⟨ey.tsServer, ey.seq⟩ ∧
    eng.store.expired ex.tsServer ⟨ey.tsServer, ey.seq⟩ = false ∧ ex.seq ≤ ey.seq

variable {codec replica}

theorem Blocks.rejects
    {x y : Envelope} (h : Blocks codec replica eng y x) : Rejects codec replica eng x := by
  obtain ⟨ex, ey, howned, -, hseq, hts, -, hlookup, hexpired, hle⟩ := h
  exact rejects_iff.mpr ⟨ex, howned, hseq, hts, _, hlookup, hexpired, hle⟩

theorem exists_blocks_of_rejects
    {cfg : EngineConfig} {rules : List (Rule LELEvent S O)} {envs : List Envelope} {x : Envelope}
    (h : Rejects codec replica (run (processLELEnvelope codec replica complete)
      (Engine.new cfg rules) envs) x) :
    ∃ y ∈ envs, Blocks codec replica (run (processLELEnvelope codec replica complete)
      (Engine.new cfg rules) envs) y x := by
  obtain ⟨ex, howned, hseq, hts, prev, hlookup, hexpired, hle⟩ := rejects_iff.mp h
  obtain ⟨y, hy, ey, hey, hstream, rfl⟩ := exists_of_lookup_run complete hlookup
  exact ⟨y, hy, ex, ey, howned, hey, hseq, hts, hstream.symm, hlookup, hexpired, hle⟩

/-- Seqs that increase over both kinds of a stream block nothing. -/
theorem not_blocks_of_increasing {envs before : List Envelope} {x y : Envelope}
    (hincreasing : envs.Pairwise fun x y =>
      trimSpace (lelStreamID x) = trimSpace (lelStreamID y) →
        ∀ ex, lelEvent codec x = some ex → ∀ ey, lelEvent codec y = some ey → ex.seq < ey.seq)
    (hinitial : before ++ [x] <+: envs)
    (hy : y ∈ before) : ¬ Blocks codec replica eng y x := by
  rintro ⟨ex, ey, howned, hey, -, -, hstream, -, -, hle⟩
  have hpair := List.pairwise_append.mp (hincreasing.sublist hinitial.sublist)
  have hlt := hpair.2.2 y hy x List.mem_cons_self hstream ey hey ex (lelEvent_of_ownedEvent howned)
  omega

end Model

/-- Payloads with the seq and the timestamp of their envelope. -/
def plainCodec : LELCodec where
  snapshot := fun env => some { seq := env.seq, tsIngestMs := env.tsIngest }
  tape := fun env => some { seq := env.seq, tsIngestMs := env.tsIngest }

/-- An envelope of one instrument. -/
def btcEnvelope (type : String) (seq : Int) : Envelope where
  type := type
  version := 1
  venue := "BINANCE"
  instrument := "BTCUSDT"
  tsExchange := 1000
  tsIngest := 1000
  seq := seq
  idempotencyKey := ""
  contentType := Envelope.contentTypeJSON
  metadata := ∅
  payload := []

end Evidence
end StreamAnalytics
