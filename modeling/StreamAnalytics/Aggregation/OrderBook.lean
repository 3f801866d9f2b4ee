import StreamAnalytics.Lib.Prog
import StreamAnalytics.Lib.OrderedList
import StreamAnalytics.Shared.Problem

/-!
# The order book

Model of `internal/core/aggregation/domain/orderbook.go`, `orderbook_policy.go` and
`btree_orderbook.go`.  Prices and quantities are binary64 floats, as in the source.
The two B-trees are ordered lists: bids with the highest price first, asks with the
lowest price first.  `FurthestFromMidPruneStrategy` is the only prune strategy.
-/

namespace StreamAnalytics
namespace Aggregation

open OrderedList Validation

/-- `BookID`. -/
structure BookID where
  venue : String
  instrument : String
deriving Repr, DecidableEq

/-- `Level` and `levelNode`. -/
structure Level where
  price : Float
  quantity : Float
deriving DecidableEq

/-- `HealthState`. -/
inductive HealthState where
  | healthy
  | needsResync
deriving Repr, DecidableEq

/-- `OrderBookLimitsPolicy`. -/
structure OrderBookLimitsPolicy where
  maxLevelsPerSide : Int
deriving Repr, DecidableEq

namespace OrderBookLimitsPolicy

/-- `NewOrderBookLimitsPolicy`. -/
def create (maxLevelsPerSide : Int) : Except Problem OrderBookLimitsPolicy :=
  if maxLevelsPerSide < 0 then
    .error (.new .validationFailed "max_levels must be >= 0")
  else
    .ok ⟨maxLevelsPerSide⟩

/-- `IsBounded`. -/
def isBounded (p : OrderBookLimitsPolicy) : Bool := 0 < p.maxLevelsPerSide

end OrderBookLimitsPolicy

/-- `OrderBookInconsistentDetected`; the reason is the message of a problem. -/
structure OrderBookInconsistentDetected where
  bookID : BookID
  seq : Int
  reason : String × List ProblemValue
deriving DecidableEq

/-- `OrderBook`. -/
structure OrderBook where
  id : BookID
  lastSeq : Int
  bids : List Level
  asks : List Level
  limits : OrderBookLimitsPolicy
  lastPrunedLevels : Nat
  state : HealthState
  events : List OrderBookInconsistentDetected
deriving DecidableEq

/-! ## Levels -/

/-- The comparison of `newBidTree`. -/
def bidLess (a b : Level) : Bool := b.price < a.price

/-- The comparison of `newAskTree`. -/
def askLess (a b : Level) : Bool := a.price < b.price

/-- The problems of `validateLevel` differ in the message, the value and the reason. -/
def levelProblem (format side : String) (idx : Nat) (value : Float) (reason : String) : Problem :=
  (((Problem.newf .validationFailed format [.str side, .int idx, .float value]).withDetail
    "side" (.str side)).withDetail "index" (.int idx)).withDetail "reason" (.str reason)

/-- The message about a price. -/
def priceFormat : String := "%s level[%d] price must be a finite positive number, got %g"

/-- The message about a quantity. -/
def quantityFormat : String := "%s level[%d] quantity must be a finite non-negative number, got %g"

/-- `validateLevel`. -/
def validateLevel (side : String) (idx : Nat) (l : Level) : Option Problem :=
  if l.price.isNaN then some (levelProblem priceFormat side idx l.price "nan")
  else if l.price.isInf then some (levelProblem priceFormat side idx l.price "inf")
  else if l.price < 0 then some (levelProblem priceFormat side idx l.price "neg_price")
  else if l.price == 0 then some (levelProblem priceFormat side idx l.price "zero_price")
  else if l.quantity.isNaN then some (levelProblem quantityFormat side idx l.quantity "nan")
  else if l.quantity.isInf then some (levelProblem quantityFormat side idx l.quantity "inf")
  else if l.quantity < 0 then some (levelProblem quantityFormat side idx l.quantity "neg_qty")
  else none

/-- The loop of `applyDelta` that validates the levels of one side. -/
def validateLevels (side : String) : Nat → List Level → Option Problem
  | _, [] => none
  | i, l :: rest =>
    match validateLevel side i l with
    | some p => some p
    | none => validateLevels side (i + 1) rest

/-- One iteration of `applySideUpdates`: a zero quantity removes the level. -/
def applyUpdate (less : Level → Level → Bool) (tree : List Level) (u : Level) : List Level :=
  if u.quantity == 0 then delete less ⟨u.price, 0⟩ tree
  else replaceOrInsert less u tree

/-- `applySideUpdates`. -/
def applySideUpdates (less : Level → Level → Bool) (tree updates : List Level) : List Level :=
  updates.foldl (applyUpdate less) tree

/-- `pruneBidTree` and `pruneAskTree`: the kept levels are inserted into a new tree. -/
def pruneTree (less : Level → Level → Bool) (tree : List Level) (maxLevels : Int) :
    List Level × Nat :=
  if tree.length ≤ maxLevels then
    (tree, 0)
  else
    let kept := tree.take maxLevels.toNat
    (kept.foldl (fun tree node => replaceOrInsert less node tree) [], tree.length - kept.length)

namespace OrderBook

/-- `NewBTreeOrderBook`. -/
def create (venue instrument : String) (limits : OrderBookLimitsPolicy) :
    Except Problem OrderBook :=
  match collect
      [nonEmptyString "venue" venue,
        nonEmptyString "instrument" instrument] with
  | some p => .error p
  | none =>
    .ok
      { id := ⟨venue, instrument⟩
        lastSeq := 0
        bids := []
        asks := []
        limits := limits
        lastPrunedLevels := 0
        state := .healthy
        events := [] }

/-- `NewOrderBookWithMaxLevels`. -/
def createWithMaxLevels (venue instrument : String) (maxLevels : Int) : Except Problem OrderBook :=
  match collect
      [nonEmptyString "venue" venue,
        nonEmptyString "instrument" instrument] with
  | some p => .error p
  | none =>
    match OrderBookLimitsPolicy.create maxLevels with
    | .error p => .error p
    | .ok limits => create venue instrument limits

/-! ## Reading -/

/-- `BestBid`. -/
def bestBid (b : OrderBook) : Option Level := b.bids.head?

/-- `BestAsk`. -/
def bestAsk (b : OrderBook) : Option Level := b.asks.head?

/-- `checkSpread`. -/
def checkSpread (b : OrderBook) : Option Problem :=
  match b.bestBid, b.bestAsk with
  | some bid, some ask =>
    if ask.price ≤ bid.price then
      some (((Problem.newf .integrityViolation "crossed book: best bid %.8f >= best ask %.8f"
        [.float bid.price, .float ask.price]).withDetail "best_bid" (.float bid.price)).withDetail
          "best_ask" (.float ask.price))
    else
      none
  | _, _ => none

/-! ## Updates -/

/-- `FurthestFromMidPruneStrategy.Prune`, with the assignment of its result. -/
def prune (b : OrderBook) : OrderBook :=
  if b.limits.isBounded then
    let bids := pruneTree bidLess b.bids b.limits.maxLevelsPerSide
    let asks := pruneTree askLess b.asks b.limits.maxLevelsPerSide
    { b with bids := bids.1, asks := asks.1, lastPrunedLevels := bids.2 + asks.2 }
  else
    { b with lastPrunedLevels := 0 }

/-- The statements of `applyDelta` after its checks and before the check of the spread. -/
def applyLevels (bids asks : List Level) (isSnapshot : Bool) (b : OrderBook) : OrderBook :=
  prune
    { b with
      bids := applySideUpdates bidLess (if isSnapshot then [] else b.bids) bids
      asks := applySideUpdates askLess (if isSnapshot then [] else b.asks) asks }

/-- `applyDelta`. -/
def applyDelta (seq : Int) (bids asks : List Level) (isSnapshot : Bool) :
    Prog Problem OrderBook PUnit := do
  Prog.check (positiveInt "seq" seq)
  let b ← Prog.get
  Prog.check (Problem.when (seq ≤ b.lastSeq ∧ isSnapshot = false)
    (((Problem.newf .outOfOrder "seq %d is not greater than last seq %d"
      [.int seq, .int b.lastSeq]).withDetail "seq" (.int seq)).withDetail
        "last_seq" (.int b.lastSeq)))
  Prog.check (validateLevels "bid" 0 bids)
  Prog.check (validateLevels "ask" 0 asks)
  Prog.modify (applyLevels bids asks isSnapshot)
  let b ← Prog.get
  match b.checkSpread with
  | some p => do
    Prog.modify fun b =>
      { b with
        state := .needsResync
        lastSeq := seq
        events := b.events ++ [⟨b.id, seq, (p.format, p.args)⟩]
        bids := []
        asks := [] }
    Prog.throw p
  | none => Prog.modify fun b => { b with state := .healthy, lastSeq := seq }

/-- `ApplyDelta` and `ApplySnapshot` with their arguments. -/
structure Update where
  seq : Int
  bids : List Level
  asks : List Level
  isSnapshot : Bool

/-- The book after an update, accepted or not. -/
def step (b : OrderBook) (u : Update) : OrderBook :=
  (applyDelta u.seq u.bids u.asks u.isSnapshot b).1

end OrderBook

end Aggregation
end StreamAnalytics
