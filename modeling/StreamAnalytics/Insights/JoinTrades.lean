import StreamAnalytics.Lib.Prog
import StreamAnalytics.Lib.SortedGroups
import StreamAnalytics.Shared.BoundedMap
import StreamAnalytics.Shared.Naming
import StreamAnalytics.Shared.Problem
import Mathlib.Data.String.Basic

/-!
# The join of trades across venues

Model of `JoinCrossVenueTrades` (`internal/core/insights/app/join_crossvenue_trades.go`).  For
each instrument and market type it keeps the last trade of every venue, in a map of bounded size
whose entries expire.  A trade that is later than the last one of its venue replaces it, and a
snapshot is emitted once two venues are present.

The check of the prices derived for a snapshot is a parameter.  A spread signal is built of a
snapshot that has passed the same checks, so it cannot fail and is left out.
-/

namespace StreamAnalytics
namespace Insights

open GoStrings Validation Prog Naming

/-- `JoinKey`. -/
structure JoinKey where
  instrument : String
  marketType : String
deriving DecidableEq

/-- `NewJoinKey`. -/
def JoinKey.create (instrument marketType : String) : Except Problem JoinKey :=
  let inst := canonicalInstrument instrument
  if inst = "" then .error (.new .validationFailed "instrument must not be empty")
  else .ok ⟨inst, canonicalVenue marketType⟩

theorem JoinKey.eq_of_create {instrument marketType : String} {key : JoinKey}
    (h : JoinKey.create instrument marketType = .ok key) :
    key = ⟨canonicalInstrument instrument, canonicalVenue marketType⟩ := by
  unfold JoinKey.create at h
  by_cases hinst : canonicalInstrument instrument = ""
  · rw [if_pos hinst] at h
    exact nomatch h
  · rw [if_neg hinst] at h
    exact (Except.ok.inj h).symm

/-- `JoinCrossVenueTradesRequest`. -/
structure JoinCrossVenueTradesRequest where
  venue : String
  instrument : String
  marketType : String
  price : Float
  size : Float
  side : String
  tradeID : String
  tsExchange : Int
  tsIngest : Int
  seq : Int
  idempotencyKey : String

/-- `LastTrade`. -/
structure LastTrade where
  venue : String
  price : Float
  size : Float
  side : String
  tradeID : String
  tsExchange : Int
  tsIngest : Int
  seq : Int
  idempotencyKey : String

/-- The last trade that a request makes of its venue. -/
def JoinCrossVenueTradesRequest.trade (req : JoinCrossVenueTradesRequest) : LastTrade where
  venue := canonicalVenue req.venue
  price := req.price
  size := req.size
  -- `NormalizeSide`
  side := toLower (trimSpace req.side)
  tradeID := trimSpace req.tradeID
  tsExchange := req.tsExchange
  tsIngest := req.tsIngest
  seq := req.seq
  idempotencyKey := trimSpace req.idempotencyKey

/-- `cmpInt64`, `cmpFloat64` and `strings.Compare`. -/
def cmp {α : Type} [LT α] [DecidableLT α] (a b : α) : Ordering :=
  if a < b then .lt else if b < a then .gt else .eq

/-- `compareLastTrade`. -/
def compareLastTrade (a b : LastTrade) : Ordering :=
  (cmp a.seq b.seq).then <| (cmp a.tsIngest b.tsIngest).then <|
    (cmp a.tsExchange b.tsExchange).then <| (cmp a.tradeID b.tradeID).then <|
      (cmp a.side b.side).then <| (cmp a.price b.price).then <|
        (cmp a.size b.size).then (cmp a.idempotencyKey b.idempotencyKey)

/-- `CrossVenueTradeSnapshotV1` without the prices derived from its rows. -/
structure CrossVenueTradeSnapshotV1 where
  instrument : String
  marketType : String
  watermarkTsIngest : Int
  venues : List LastTrade

/-- `buildSnapshot`. -/
def buildSnapshot (key : JoinKey) (watermarkTsIngest : Int) (byVenue : GoMap String LastTrade) :
    CrossVenueTradeSnapshotV1 where
  instrument := key.instrument
  marketType := key.marketType
  watermarkTsIngest := watermarkTsIngest
  venues := (sortBy id byVenue.keys).filterMap byVenue.lookup

/-- `validateSnapshotVenueRows`, given the venues seen so far. -/
def validateSnapshotVenueRows (seen : List String) : List LastTrade → Option Problem
  | [] =>
    Problem.when (sortBy id seen ≠ seen)
      (.new .validationFailed "snapshot venues must be sorted lexicographically")
  | row :: rows =>
    let v := canonicalVenue row.venue
    if v = "" then some (.new .validationFailed "snapshot venue must not be empty")
    else if v ∈ seen then
      some (.newf .validationFailed "duplicate snapshot venue %q" [.str v])
    else validateSnapshotVenueRows (seen ++ [v]) rows

/-- `Validate` of a snapshot; `derived` checks the prices derived from the rows. -/
def CrossVenueTradeSnapshotV1.validate (derived : List LastTrade → Option Problem)
    (s : CrossVenueTradeSnapshotV1) : Option Problem :=
  if trimSpace s.instrument = "" then
    some (.new .validationFailed "snapshot instrument must not be empty")
  else if s.watermarkTsIngest ≤ 0 then
    some (.new .validationFailed "snapshot watermark_ts_ingest must be positive")
  else if s.venues.length < 2 then
    some (.new .validationFailed "snapshot requires at least two venues")
  else
    match derived s.venues with
    | some p => some p
    | none => validateSnapshotVenueRows [] s.venues

/-- `JoinCrossVenueTrades`. -/
structure JoinCrossVenueTrades where
  states : BoundedMap JoinKey (GoMap String LastTrade)
  sweepEveryN : Nat
  sweepEvery : Int
  updates : Nat
  lastSweepMs : Nat
  /-- The check of the derived prices. -/
  derived : List LastTrade → Option Problem
  /-- The readings of the clock, in nanoseconds since the zero time. -/
  clock : Nat → Nat
  readings : Nat

namespace JoinCrossVenueTrades

/-- `NewJoinCrossVenueTradesWithConfig`, as far as it concerns the state. -/
def create (maxInstruments ttl sweepEveryN sweepEvery : Int)
    (derived : List LastTrade → Option Problem) (clock : Nat → Nat) : JoinCrossVenueTrades where
  states := (BoundedMap.create (if maxInstruments ≤ 0 then 10000 else maxInstruments)
    (if ttl ≤ 0 then 3600000000000 else ttl) (clock 0)).setOnEvict
  sweepEveryN := sweepEveryN.toNat
  sweepEvery := if sweepEvery < 0 then 0 else sweepEvery
  updates := 0
  lastSweepMs := clock 1 / 1000000
  derived := derived
  clock := clock
  readings := 2

/-- Actions of the use case. -/
abbrev Action (α : Type) : Type := Prog Problem JoinCrossVenueTrades α

/-- A reading of the clock. -/
def now : Action Nat :=
  Prog.act fun uc => ({ uc with readings := uc.readings + 1 }, uc.clock uc.readings)

/-- `states.Get`. -/
def getState (key : JoinKey) : Action (Option (GoMap String LastTrade)) := do
  let t ← now
  Prog.act fun uc => ({ uc with states := (uc.states.get t key).2.1 }, (uc.states.get t key).1)

/-- `states.Put`. -/
def putState (key : JoinKey) (venues : GoMap String LastTrade) : Action PUnit := do
  let t ← now
  Prog.modify fun uc => { uc with states := (uc.states.put t key venues).1 }

/-- `states.Sweep`. -/
def sweepStates : Action PUnit := do
  let t ← now
  Prog.modify fun uc => { uc with states := (uc.states.sweep t).1 }

/-- `getOrCreateState`. -/
def getOrCreateState (key : JoinKey) : Action (GoMap String LastTrade) := do
  match ← getState key with
  | some venues => pure venues
  | none => do
    putState key ∅
    pure ∅

/-- `maybeSweep`. -/
def maybeSweep : Action PUnit := do
  let uc ← Prog.get
  if 0 < uc.sweepEveryN then do
    Prog.modify fun uc => { uc with updates := (uc.updates + 1) % 2 ^ 64 }
    if (uc.updates + 1) % 2 ^ 64 % uc.sweepEveryN = 0 then do
      sweepStates
      let t ← now
      Prog.modify fun uc => { uc with lastSweepMs := t / 1000000 }
    else pure ⟨⟩
  else if uc.sweepEvery ≤ 0 then pure ⟨⟩
  else do
    let t ← now
    if (t / 1000000 : Nat) - (uc.lastSweepMs : Int) < uc.sweepEvery / 1000000 then pure ⟨⟩
    else do
      Prog.modify fun uc => { uc with lastSweepMs := t / 1000000 }
      sweepStates

/-- `validateRequest`. -/
def validateRequest (req : JoinCrossVenueTradesRequest) : Option Problem :=
  match collect
      [nonEmptyString "venue" req.venue,
        nonEmptyString "instrument" req.instrument,
        positiveInt "ts_ingest" req.tsIngest] with
  | some p => some p
  | none =>
    if req.seq < 0 then
      some (.newf .validationFailed "seq must be >= 0, got %d" [.int req.seq])
    else if req.price.isNaN ∨ req.price.isInf then
      some (.new .validationFailed "price must be a finite number")
    else
      Problem.when (req.size.isNaN ∨ req.size.isInf)
        (.new .validationFailed "size must be a finite number")

/-- The end of `Execute`, with the trade of the venue put. -/
def emit (key : JoinKey) (tsIngest : Int) (venues : GoMap String LastTrade) :
    Action (Option CrossVenueTradeSnapshotV1) := do
  putState key venues
  if venues.size < 2 then do
    maybeSweep
    pure none
  else do
    let uc ← Prog.get
    Prog.check ((buildSnapshot key tsIngest venues).validate uc.derived)
    maybeSweep
    pure (some (buildSnapshot key tsIngest venues))

/-- The previous trade of a venue is not earlier. -/
def Superseded (next : LastTrade) (prev : Option LastTrade) : Prop :=
  ∃ t ∈ prev, compareLastTrade next t ≠ .gt

instance (next : LastTrade) (prev : Option LastTrade) : Decidable (Superseded next prev) :=
  inferInstanceAs (Decidable (∃ t ∈ prev, _))

/-- `Execute`; the answer is the snapshot that is emitted, if any. -/
def execute (req : JoinCrossVenueTradesRequest) : Action (Option CrossVenueTradeSnapshotV1) := do
  Prog.check (validateRequest req)
  let key ← Prog.lift (JoinKey.create req.instrument req.marketType)
  let venues ← getOrCreateState key
  if Superseded req.trade (venues.lookup req.trade.venue) then do
    putState key venues
    maybeSweep
    pure none
  else emit key req.tsIngest (venues.insert req.trade.venue req.trade)

/-! ## What is emitted -/

/-- A snapshot has the names of the key of its request. -/
def NamedBy (req : JoinCrossVenueTradesRequest) (snap : CrossVenueTradeSnapshotV1) : Prop :=
  snap.instrument = canonicalInstrument req.instrument ∧
    snap.marketType = canonicalVenue req.marketType

theorem post_true {α : Type} (x : Action α) (uc : JoinCrossVenueTrades) :
    Post (fun _ _ => True) (fun _ _ => True) (x uc) := by
  rcases x uc with ⟨uc', p | a⟩
  · exact .error trivial
  · exact .ok trivial

theorem named_emit {req : JoinCrossVenueTradesRequest} {key : JoinKey}
    (hkey : JoinKey.create req.instrument req.marketType = .ok key)
    (tsIngest : Int) (venues : GoMap String LastTrade) (uc : JoinCrossVenueTrades) :
    Post (fun o _ => ∀ snap ∈ o, NamedBy req snap) (fun _ _ => True)
      (emit key tsIngest venues uc) := by
  have hnamed : NamedBy req (buildSnapshot key tsIngest venues) := by
    rw [JoinKey.eq_of_create hkey]
    exact ⟨rfl, rfl⟩
  unfold emit
  refine Post.bind (post_true _ uc) fun _ uc₁ _ => ?_
  split_ifs
  · exact Post.bind (post_true _ uc₁) fun _ _ _ => .ok fun _ h => nomatch h
  · refine Post.bind (post_true _ uc₁) fun uc₂ uc₃ _ => ?_
    refine Post.check (fun _ _ => trivial) fun _ => ?_
    refine Post.bind (post_true _ uc₃) fun _ _ _ => .ok fun snap h => ?_
    cases h
    exact hnamed

/-- The snapshot that a request emits has the names of its key. -/
theorem named_execute {req : JoinCrossVenueTradesRequest} {uc : JoinCrossVenueTrades}
    {snap : CrossVenueTradeSnapshotV1} (h : (execute req uc).2 = .ok (some snap)) :
    NamedBy req snap := by
  have hpost : Post (fun o _ => ∀ snap ∈ o, NamedBy req snap) (fun _ _ => True)
      (execute req uc) := by
    unfold execute
    refine Post.check (fun _ _ => trivial) fun _ => ?_
    cases hkey : JoinKey.create req.instrument req.marketType with
    | error p => exact .error trivial
    | ok key =>
      refine Post.bind (Q := fun key' _ => key' = key) (.ok rfl) fun key' uc₁ hkey' => ?_
      subst hkey'
      refine Post.bind (post_true _ uc₁) fun venues uc₂ _ => ?_
      split_ifs
      · refine Post.bind (post_true _ uc₂) fun _ uc₃ _ => ?_
        exact Post.bind (post_true _ uc₃) fun _ _ _ => .ok fun _ h => nomatch h
      · exact named_emit hkey _ _ uc₂
  generalize execute req uc = o at h hpost
  cases hpost with
  | ok hnamed => exact hnamed snap (Except.ok.inj h)
  | error _ => exact nomatch h

end JoinCrossVenueTrades
end Insights
end StreamAnalytics
