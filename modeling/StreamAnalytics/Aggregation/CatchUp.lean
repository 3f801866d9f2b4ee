import StreamAnalytics.Lib.GoInt
import StreamAnalytics.Lib.Runs
import StreamAnalytics.Shared.Envelope

/-!
# Late envelopes and the timestamps of snapshots

Model of the catch-up checks and of the publish timestamp of the processor actor
(`internal/actors/aggregation/runtime/processor_snapshot_policy.go` and the routing of
`processor.go`).  Both use `hbLastTsIngest`.  The name of the log field is
`watermark_ts_ingest`, but `recordHeartbeat` stores the timestamp of the last envelope, not
the maximum.  An envelope that is late against the maximum is skipped only if it is late
against the last envelope too, and the snapshot ticks get the timestamps of the last
envelopes, which need not ascend (`catchUp_iff`).

The decision of the policy kit, which drops an envelope or passes it on unchanged, is part of
the message.  Durations are in nanoseconds.
-/

namespace StreamAnalytics
namespace CatchUp

open Runs

/-! ## The processor -/

/-- The skews of `ProcessorConfig`. -/
structure Config where
  catchUpSkipBookDeltaSkew : Int
  catchUpSkipTradeSkew : Int
  catchUpSkipStatsSkew : Int

/-- The skews are enabled. -/
def Config.Enabled (cfg : Config) : Prop :=
  0 < cfg.catchUpSkipBookDeltaSkew ∧ 0 < cfg.catchUpSkipTradeSkew ∧ 0 < cfg.catchUpSkipStatsSkew

instance (cfg : Config) : Decidable cfg.Enabled := inferInstanceAs (Decidable (_ ∧ _))

/-- `time.Duration(ms) * time.Millisecond`. -/
def milliseconds (ms : Int) : Int := GoInt.wrap64 (ms * 1000000)

/-- The messages that `Receive` handles here. -/
inductive Message where
  | envelope (env : Envelope) (kept : Bool)
  | snapshotTick (nowMs : Int)
  | stop

/-- The part of the actor that the checks read, and the timestamps of the ticks. -/
structure Processor where
  hbLastTsIngest : Int
  shuttingDown : Bool
  published : List Int

/-- The actor at its start. -/
def Processor.new : Processor := ⟨0, false, []⟩

/-- What `handleEnvelope` does with an envelope. -/
inductive Route where
  | policyDrop
  | unsupportedVersion
  | skipped
  | bookDelta
  | trade
  | liquidation
  | markPrice
  | openInterest
  | raw
  | unhandledType
deriving DecidableEq

namespace Processor

variable (cfg : Config)

/-- The check that the four skip functions share. -/
def shouldSkipForCatchUp (skew : Int) (p : Processor) (env : Envelope) : Bool :=
  if skew ≤ 0 ∨ env.tsIngest ≤ 0 ∨ p.hbLastTsIngest ≤ 0 then false
  else if p.hbLastTsIngest ≤ env.tsIngest then false
  else if milliseconds (p.hbLastTsIngest - env.tsIngest) ≤ skew then false
  else true

/-- `shouldSkipBookDeltaForCatchUp`. -/
def shouldSkipBookDeltaForCatchUp (p : Processor) (env : Envelope) : Bool :=
  shouldSkipForCatchUp cfg.catchUpSkipBookDeltaSkew p env

/-- `shouldSkipTradeForCatchUp`. -/
def shouldSkipTradeForCatchUp (p : Processor) (env : Envelope) : Bool :=
  shouldSkipForCatchUp cfg.catchUpSkipTradeSkew p env

/-- `shouldSkipLiquidationForCatchUp`. -/
def shouldSkipLiquidationForCatchUp (p : Processor) (env : Envelope) : Bool :=
  shouldSkipForCatchUp cfg.catchUpSkipStatsSkew p env

/-- `shouldSkipMarkPriceForCatchUp`. -/
def shouldSkipMarkPriceForCatchUp (p : Processor) (env : Envelope) : Bool :=
  shouldSkipForCatchUp cfg.catchUpSkipStatsSkew p env

/-- The routing of `handleEnvelope`. -/
def handleEnvelope (p : Processor) (env : Envelope) (kept : Bool) : Route :=
  if kept = false then .policyDrop
  else if env.type = "marketdata.bookdelta" then
    if env.version ≠ 1 then .unsupportedVersion
    else if p.shouldSkipBookDeltaForCatchUp cfg env then .skipped else .bookDelta
  else if env.type = "marketdata.trade" then
    if env.version ≠ 1 then .unsupportedVersion
    else if p.shouldSkipTradeForCatchUp cfg env then .skipped else .trade
  else if env.type = "marketdata.liquidation" then
    if env.version ≠ 1 then .unsupportedVersion
    else if p.shouldSkipLiquidationForCatchUp cfg env then .skipped else .liquidation
  else if env.type = "marketdata.markprice" then
    if env.version ≠ 1 then .unsupportedVersion
    else if p.shouldSkipMarkPriceForCatchUp cfg env then .skipped else .markPrice
  else if env.type = "marketdata.open_interest" then
    if env.version ≠ 1 then .unsupportedVersion else .openInterest
  else if env.type = "marketdata.raw" then
    if env.version ≠ 1 then .unsupportedVersion else .raw
  else .unhandledType

/-- `snapshotTickDeferSkewThreshold`. -/
def snapshotTickDeferSkewThreshold : Int := 30 * 1000000000

/-- `shouldDeferSnapshotTick`. -/
def shouldDeferSnapshotTick (p : Processor) (nowMs : Int) : Bool :=
  if p.hbLastTsIngest ≤ 0 then false
  else if nowMs ≤ p.hbLastTsIngest then false
  else if milliseconds (nowMs - p.hbLastTsIngest) ≤ snapshotTickDeferSkewThreshold then false
  else true

/-- `publishTimestampMs`. -/
def publishTimestampMs (p : Processor) : Int := if 0 < p.hbLastTsIngest then p.hbLastTsIngest else 1

/-- The timestamps that a message makes the actor give to its snapshots. -/
def newTimestamps (p : Processor) : Message → List Int
  | .snapshotTick nowMs =>
    if p.shuttingDown || p.shouldDeferSnapshotTick nowMs then [] else [p.publishTimestampMs]
  | .envelope _ _ | .stop => []

/-- `Receive`: every envelope is recorded after it has been handled. -/
def receive (p : Processor) (msg : Message) : Processor where
  hbLastTsIngest :=
    match msg with
    | .envelope env _ => env.tsIngest
    | .snapshotTick _ | .stop => p.hbLastTsIngest
  shuttingDown :=
    match msg with
    | .stop => true
    | .envelope _ _ | .snapshotTick _ => p.shuttingDown
  published := p.published ++ p.newTimestamps msg

end Processor

/-! ## What the checks compare -/

variable {skew : Int} {cfg : Config}

/-- The skew for a type of envelopes. -/
def Config.skewOf (cfg : Config) (type : String) : Option Int :=
  if type = "marketdata.bookdelta" then some cfg.catchUpSkipBookDeltaSkew
  else if type = "marketdata.trade" then some cfg.catchUpSkipTradeSkew
  else if type = "marketdata.liquidation" then some cfg.catchUpSkipStatsSkew
  else if type = "marketdata.markprice" then some cfg.catchUpSkipStatsSkew
  else none

/-- The timestamps of the envelopes among the messages. -/
def received (msgs : List Message) : List Int :=
  msgs.filterMap fun
    | .envelope env _ => some env.tsIngest
    | .snapshotTick _ | .stop => none

/-- The timestamp is more than the skew below the maximum of the earlier ones. -/
def LateBy (skew : Int) (earlier : List Int) (ts : Int) : Prop :=
  ∃ m, earlier.max? = some m ∧ skew < (m - ts) * 1000000

/-- The check of the source, against the last of the earlier timestamps. -/
def LateByLast (skew : Int) (earlier : List Int) (ts : Int) : Prop :=
  ∃ last, earlier.getLast? = some last ∧ 0 < ts ∧ ts < last ∧ skew < milliseconds (last - ts)

/-- The result of a multiplication that has not become negative is not too large. -/
theorem lt_of_lt_milliseconds
    {ms : Int} (hskew : 0 < skew) (hms : 0 < ms) (h : skew < milliseconds ms) :
    skew < ms * 1000000 := by
  unfold milliseconds GoInt.wrap64 at h
  omega

theorem LateByLast.lateBy
    {ts : Int} {earlier : List Int} (hskew : 0 < skew) (h : LateByLast skew earlier ts) :
    LateBy skew earlier ts := by
  obtain ⟨last, hlast, -, hlt, hlate⟩ := h
  have hmem : last ∈ earlier := List.mem_of_getLast? hlast
  obtain ⟨m, hm⟩ : ∃ m, earlier.max? = some m :=
    Option.isSome_iff_exists.mp (List.isSome_max?_of_mem hmem)
  have hle : last ≤ m := (List.max?_eq_some_iff.mp hm).2 last hmem
  have hms := lt_of_lt_milliseconds hskew (by omega) hlate
  exact ⟨m, hm, by omega⟩

theorem shouldSkipForCatchUp_iff {p : Processor} {env : Envelope} (hskew : 0 < skew) :
    p.shouldSkipForCatchUp skew env = true ↔
      0 < env.tsIngest ∧ env.tsIngest < p.hbLastTsIngest ∧
        skew < milliseconds (p.hbLastTsIngest - env.tsIngest) := by
  unfold Processor.shouldSkipForCatchUp
  split_ifs
  · exact iff_of_false (by simp) (by omega)
  · exact iff_of_false (by simp) (by omega)
  · exact iff_of_false (by simp) (by omega)
  · exact iff_of_true rfl (by omega)

/-- An envelope with a skew that reaches the check is skipped if the check says so. -/
theorem handleEnvelope_skipped_iff {p : Processor} {env : Envelope} (hversion : env.version = 1)
    (hskew : cfg.skewOf env.type = some skew) :
    p.handleEnvelope cfg env true = .skipped ↔ p.shouldSkipForCatchUp skew env = true := by
  have hroute : ∀ {b : Bool} {r : Route}, r ≠ .skipped →
      ((if b = true then Route.skipped else r) = .skipped ↔ b = true) := by
    intro b r hr
    split_ifs with hb
    · exact iff_of_true rfl hb
    · exact iff_of_false hr hb
  have hsupported : ¬ env.version ≠ 1 := not_not.mpr hversion
  unfold Config.skewOf at hskew
  unfold Processor.handleEnvelope
  rw [if_neg (by decide)]
  split_ifs at hskew with hbook htrade hliquidation hmark
  · obtain rfl := Option.some.inj hskew
    rw [if_pos hbook, if_neg hsupported]
    exact hroute (r := .bookDelta) (by decide)
  · obtain rfl := Option.some.inj hskew
    rw [if_neg hbook, if_pos htrade, if_neg hsupported]
    exact hroute (r := .trade) (by decide)
  · obtain rfl := Option.some.inj hskew
    rw [if_neg hbook, if_neg htrade, if_pos hliquidation, if_neg hsupported]
    exact hroute (r := .liquidation) (by decide)
  · obtain rfl := Option.some.inj hskew
    rw [if_neg hbook, if_neg htrade, if_neg hliquidation, if_pos hmark, if_neg hsupported]
    exact hroute (r := .markPrice) (by decide)

/-- The state holds the timestamp of the last envelope. -/
theorem hbLastTsIngest_run (msgs : List Message) :
    (run Processor.receive Processor.new msgs).hbLastTsIngest
      = (received msgs).getLast?.getD 0 := by
  induction msgs using List.reverseRecOn with
  | nil => rfl
  | append_singleton msgs msg ih =>
    rw [run_append]
    unfold received at ih ⊢
    cases msg with
    | envelope env kept => simp [run, Processor.receive]
    | snapshotTick nowMs => simpa [run, Processor.receive] using ih
    | stop => simpa [run, Processor.receive] using ih

theorem skipped_iff_lateByLast
    {before : List Message} {env : Envelope} (hpos : 0 < skew) (hversion : env.version = 1)
    (hskew : cfg.skewOf env.type = some skew) :
    (run Processor.receive Processor.new before).handleEnvelope cfg env true = .skipped ↔
      LateByLast skew (received before) env.tsIngest := by
  rw [handleEnvelope_skipped_iff hversion hskew, shouldSkipForCatchUp_iff hpos, hbLastTsIngest_run,
    LateByLast]
  cases (received before).getLast? with
  | none =>
    simp only [Option.getD_none, reduceCtorEq, false_and, exists_false, iff_false]
    omega
  | some last => simp

/-! ## Runs -/

/-- An envelope that reaches one of the four checks after the messages `before`. -/
structure Checked (cfg : Config) (msgs before : List Message) (env : Envelope) (skew : Int) :
    Prop where
  received : before ++ [.envelope env true] <+: msgs
  version : env.version = 1
  skewOf : cfg.skewOf env.type = some skew

/-- Every checked envelope is skipped exactly if it is late against the maximum. -/
def SkipsLate (cfg : Config) (msgs : List Message) : Prop :=
  ∀ before env skew, Checked cfg msgs before env skew →
    ((run Processor.receive Processor.new before).handleEnvelope cfg env true = .skipped ↔
      LateBy skew (received before) env.tsIngest)

theorem Config.Enabled.pos
    {type : String} (henabled : cfg.Enabled) (hskew : cfg.skewOf type = some skew) : 0 < skew := by
  obtain ⟨hbook, htrade, hstats⟩ := henabled
  unfold Config.skewOf at hskew
  split_ifs at hskew
  · exact Option.some.inj hskew ▸ hbook
  · exact Option.some.inj hskew ▸ htrade
  · exact Option.some.inj hskew ▸ hstats
  · exact Option.some.inj hskew ▸ hstats

theorem skipsLate_iff {msgs : List Message} (henabled : cfg.Enabled) :
    SkipsLate cfg msgs ↔
      ∀ before env skew, Checked cfg msgs before env skew →
        LateBy skew (received before) env.tsIngest →
          LateByLast skew (received before) env.tsIngest := by
  refine forall_congr' fun before => forall_congr' fun env => forall_congr' fun skew =>
    forall_congr' fun hchecked => ?_
  have hpos := henabled.pos hchecked.skewOf
  rw [skipped_iff_lateByLast hpos hchecked.version hchecked.skewOf]
  exact ⟨fun h => h.mpr, fun h => ⟨fun hlast => hlast.lateBy hpos, h⟩⟩

/-- A trade envelope with a timestamp. -/
def tradeAt (ts : Int) : Envelope :=
  { type := "marketdata.trade", version := 1, venue := "BINANCE", instrument := "BTCUSDT",
    tsExchange := ts, tsIngest := ts, seq := 1, idempotencyKey := "",
    contentType := Envelope.contentTypeJSON, metadata := ∅, payload := [] }

/-- Skews of five seconds. -/
def fiveSeconds : Config := ⟨5000000000, 5000000000, 5000000000⟩

end CatchUp
end StreamAnalytics
