import Mathlib.Data.List.Destutter
import Mathlib.Data.String.Basic
import StreamAnalytics.Aggregation.OrderBook
import StreamAnalytics.Lib.Binary64
import StreamAnalytics.Lib.GoInt
import StreamAnalytics.Lib.GroupFold
import StreamAnalytics.Lib.SortedGroups

/-!
# The fusion of order books

`FuseDepth` of `internal/core/aggregation/domain/fusion_engine.go`: the books of several
venues are merged into one.  Stale books are left out, the levels of the others are
converted to fixed-point numbers and collected by price, and both sides are sorted and cut
to fifty levels.  The metadata of `fusion.go` describes the venues that were seen.
-/

namespace StreamAnalytics
namespace Aggregation

open GoInt GoStrings Validation

/-- `FusionMode`. -/
inductive FusionMode where
  | singleVenue
  | weighted
  | merge
  /-- Any other text. -/
  | unknown (name : String)
deriving DecidableEq

/-- `FusionDepthInput`. -/
structure FusionDepthInput where
  venue : String
  tsIngestMs : Int
  seq : Int
  bids : List Level
  asks : List Level

/-- `SourceEntry`. -/
structure SourceEntry where
  venue : String
  weightPct : Float
  lastSeenMs : Int
  isStale : Bool

/-- `StalenessReport`. -/
structure StalenessReport where
  freshCount : Nat
  staleCount : Nat
  oldestMs : Int
  newestMs : Int

/-- `FusionMeta`. -/
structure FusionMeta where
  reason : String
  confidence : Float
  sourceMix : List SourceEntry
  staleness : StalenessReport
  featureTags : List String

/-- `FusedLevel`. -/
structure FusedLevel where
  priceFP : Int
  sizeFP : Int
  venues : List String
deriving DecidableEq

/-- `FusedDepthSnapshotV1`. -/
structure FusedDepthSnapshotV1 where
  instrument : String
  tsServerMs : Int
  mode : FusionMode
  bids : List FusedLevel
  asks : List FusedLevel
  sourceVenues : List String
  globalSpreadBPS : Float
  metadata : FusionMeta

/-! ## Metadata -/

/-- `DeriveFusionConfidence`. -/
def deriveFusionConfidence (sources : List SourceEntry) : Float :=
  if sources.isEmpty then 0
  else
    let fresh := sources.countP fun s => !s.isStale
    let ratio := Float.ofNat fresh / Float.ofNat sources.length
    let ratio := if fresh = 1 then ratio * 0.7 else ratio
    if 1 < ratio then 1 else ratio

/-- `DeriveFeatureTags`. -/
def deriveFeatureTags (confidence : Float) (sources : List SourceEntry) (divergenceBPS : Float)
    (depthCapped : Bool) : List String :=
  let stale := sources.countP fun s => s.isStale
  let tags :=
    (if 0.9 ≤ confidence then ["high_confidence"] else []) ++
    (if confidence < 0.5 then ["degraded"] else []) ++
    (if depthCapped then ["depth_capped"] else []) ++
    (if 0 < stale ∧ stale < sources.length then ["partial_sources"] else []) ++
    (if sources.length - stale = 1 then ["single_source"] else []) ++
    (if 50 < divergenceBPS then ["venue_divergent"] else [])
  (sortBy id tags).destutter (· ≠ ·)

/-- The entry of a venue before the weights are known. -/
def sourceEntry (nowMs staleThresholdMs : Int) (venue : String) (lastSeen : Int) : SourceEntry where
  venue := venue
  weightPct := 0
  lastSeenMs := lastSeen
  isStale := decide (staleThresholdMs < wrap64 (nowMs - lastSeen))

/-- Gives the fresh entries equal weights. -/
def assignWeights (entries : List SourceEntry) : List SourceEntry :=
  let fresh := entries.countP fun s => !s.isStale
  if 0 < fresh then
    entries.map fun s => if s.isStale then s else { s with weightPct := 100 / Float.ofNat fresh }
  else entries

/-- `BuildSourceMix`. -/
def buildSourceMix (venues : GoMap String Int) (nowMs staleThresholdMs : Int) :
    List SourceEntry :=
  assignWeights (sortBy SourceEntry.venue
    (venues.entries.map fun e => sourceEntry nowMs staleThresholdMs e.1 e.2))

/-- `BuildStalenessReport`. -/
def buildStalenessReport (sources : List SourceEntry) (nowMs : Int) : StalenessReport :=
  let ages := sources.map fun s => wrap64 (nowMs - s.lastSeenMs)
  { freshCount := sources.countP fun s => !s.isStale
    staleCount := sources.countP fun s => s.isStale
    oldestMs := ages.tail.foldl max (ages.headD 0)
    newestMs := ages.tail.foldl min (ages.headD 0) }

/-! ## Levels -/

/-- `fusionFixedPointScale`. -/
def fusionFixedPointScale : Int := 100000000

/-- `FusedDepthMaxLevels`. -/
def fusedDepthMaxLevels : Nat := 50

/-- The conversion of a float to 64 bits; one that does not fit gives the least integer. -/
def floatToInt64 (x : Float) : Int :=
  if x.isNaN ∨ x.isInf ∨ ¬ InInt64 (Binary64.truncate x) then -2 ^ 63
  else Binary64.truncate x

/-- `fusionPriceToFP` and `fusionQtyToFP`. -/
def fusionToFP (x : Float) : Int := floatToInt64 (x * Float.ofInt fusionFixedPointScale + 0.5)

/-- A level that is not skipped. -/
def Level.IsValid (l : Level) : Prop := ¬ (l.price ≤ 0 ∨ l.quantity ≤ 0)

instance (l : Level) : Decidable l.IsValid := inferInstanceAs (Decidable (¬ _))

/-- The levels of one side. -/
def FusionDepthInput.side (isBid : Bool) (inp : FusionDepthInput) : List Level :=
  if isBid then inp.bids else inp.asks

/-- The merged level that starts with a level of a venue. -/
def startLevel (item : String × Level) : FusedLevel where
  priceFP := fusionToFP item.2.price
  sizeFP := fusionToFP item.2.quantity
  venues := [item.1]

/-- The merged level with one more level of a venue. -/
def extendLevel (m : FusedLevel) (item : String × Level) : FusedLevel :=
  { m with
    sizeFP := wrap64 (m.sizeFP + fusionToFP item.2.quantity)
    venues := if item.1 ∈ m.venues then m.venues else m.venues ++ [item.1] }

/-- The loops of `fuseLevels`: the valid levels of all inputs by price. -/
def collectLevels (isBid : Bool) (inputs : List FusionDepthInput) : Groups Int FusedLevel :=
  inputs.foldl
    (fun index inp => (inp.side isBid).foldl
      (fun index l =>
        if l.IsValid then
          index.add (fun item => fusionToFP item.2.price) startLevel extendLevel (inp.venue, l)
        else index)
      index)
    Groups.empty

/-- `fuseLevels`.  The levels have different prices, so the order is strict. -/
def fuseLevels (inputs : List FusionDepthInput) (isBid : Bool) (_mode : FusionMode) :
    List FusedLevel :=
  let result := (collectLevels isBid inputs).groups.map fun m =>
    { m with venues := sortBy id m.venues }
  if isBid then sortBy (fun l => OrderDual.toDual l.priceFP) result
  else sortBy FusedLevel.priceFP result

/-! ## The use of the inputs -/

/-- `filterActiveDepthInputs`: the inputs to merge, and when each venue was last seen. -/
def filterActiveDepthInputs (inputs : List FusionDepthInput) (nowMs staleThresholdMs : Int) :
    List FusionDepthInput × GoMap String Int :=
  let named := inputs.filter fun inp => trimSpace inp.venue ≠ ""
  let venueTimestamps := named.foldl
    (fun m inp => m.insert (trimSpace inp.venue) inp.tsIngestMs) ∅
  let active := named.filter fun inp =>
    ¬ (inp.tsIngestMs ≤ 0 ∨ staleThresholdMs < nowMs - inp.tsIngestMs) ∧
      ¬ (inp.bids.isEmpty ∧ inp.asks.isEmpty)
  (sortBy FusionDepthInput.venue active, venueTimestamps)

/-- `ValidFusionMode`. -/
def validFusionMode : FusionMode → Bool
  | .unknown _ => false
  | _ => true

/-- `validateFuseDepthArgs`. -/
def validateFuseDepthArgs (instrument : String) (nowMs : Int) (mode : FusionMode)
    (staleThresholdMs : Int) : Option Problem :=
  match collect
      [nonEmptyString "instrument" instrument,
        positiveInt "now_ms" nowMs] with
  | some p => some p
  | none =>
    if validFusionMode mode then
      Problem.when (staleThresholdMs ≤ 0)
        (.new .validationFailed "stale_threshold_ms must be > 0")
    else some (.new .validationFailed "fusion mode must be a recognized value")

/-- `fusionReason`. -/
def fusionReason : FusionMode → String
  | .merge => "cross_venue_merge"
  | .weighted => "weighted_fusion"
  | _ => "single_venue"

/-- `fusionSpreadBPS`. -/
def fusionSpreadBPS (bid ask : Float) : Float :=
  if bid ≤ 0 ∨ ask ≤ 0 ∨ ask ≤ bid then 0
  else
    let mid := (bid + ask) / 2
    if mid ≤ 0 then 0 else (ask - bid) / mid * 10000

/-- `fusionComputeSpread`. -/
def fusionComputeSpread (bids asks : List FusedLevel) : Float :=
  match bids, asks with
  | bid :: _, ask :: _ =>
    fusionSpreadBPS (Float.ofInt bid.priceFP / Float.ofInt fusionFixedPointScale)
      (Float.ofInt ask.priceFP / Float.ofInt fusionFixedPointScale)
  | _, _ => 0

/-- `FuseDepth` after the checks, from the inputs to merge and the venues seen. -/
def fuseActive (instrument : String) (nowMs : Int) (mode : FusionMode)
    (active : List FusionDepthInput) (sourceMix : List SourceEntry) : FusedDepthSnapshotV1 :=
  let confidence := deriveFusionConfidence sourceMix
  let bids := fuseLevels active true mode
  let asks := fuseLevels active false mode
  -- `capFusedLevels`
  let depthCapped := decide (fusedDepthMaxLevels < bids.length ∨ fusedDepthMaxLevels < asks.length)
  let bids := bids.take fusedDepthMaxLevels
  let asks := asks.take fusedDepthMaxLevels
  { instrument := trimSpace instrument
    tsServerMs := nowMs
    mode := mode
    bids := bids
    asks := asks
    sourceVenues := active.map FusionDepthInput.venue
    globalSpreadBPS := fusionComputeSpread bids asks
    metadata :=
      { reason := fusionReason mode
        confidence := confidence
        sourceMix := sourceMix
        staleness := buildStalenessReport sourceMix nowMs
        featureTags := deriveFeatureTags confidence sourceMix 0 depthCapped } }

/-- `FuseDepth`. -/
def fuseDepth (instrument : String) (nowMs : Int) (inputs : List FusionDepthInput)
    (mode : FusionMode) (staleThresholdMs : Int) : Except Problem FusedDepthSnapshotV1 :=
  match validateFuseDepthArgs instrument nowMs mode staleThresholdMs with
  | some p => .error p
  | none =>
    let (active, venueTimestamps) := filterActiveDepthInputs inputs nowMs staleThresholdMs
    .ok (fuseActive instrument nowMs mode active
      (buildSourceMix venueTimestamps nowMs staleThresholdMs))

end Aggregation
end StreamAnalytics
