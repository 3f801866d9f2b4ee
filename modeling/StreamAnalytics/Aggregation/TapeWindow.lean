import Mathlib.Algebra.Order.BigOperators.Group.List
import Mathlib.Data.Prod.Lex
import StreamAnalytics.Aggregation.BuildTape
import StreamAnalytics.Aggregation.CandleFold

/-!
# Tape windows in 64 bits

The tape window of `internal/core/aggregation/domain/tape.go` with its sums reduced to
64 bits, as the code computes them.  A trade enters a window as its three fixed-point
values, its side and its number; `ApplyTrade` obtains the values from floats.

Trades may be recorded in any order (`record_comm`).  The window then holds the sums of
the trades, the extreme prices and sizes, and the price of the trade that is last by its
number and its price.
-/

namespace StreamAnalytics
namespace Aggregation

open GoInt GoStrings Validation Prog

/-- A trade in fixed-point numbers. -/
structure TapeTrade where
  priceFixed : Int
  sizeFixed : Int
  notionalFixed : Int
  isBuy : Bool
  seq : Int
deriving DecidableEq

namespace TapeTrade

/-- The trade as a buy: one or none. -/
def buys (t : TapeTrade) : Int := if t.isBuy then 1 else 0

/-- The trade as a sell: one or none. -/
def sells (t : TapeTrade) : Int := if t.isBuy then 0 else 1

/-- The size of a buy. -/
def buyVolume (t : TapeTrade) : Int := if t.isBuy then t.sizeFixed else 0

/-- The size of a sell. -/
def sellVolume (t : TapeTrade) : Int := if t.isBuy then 0 else t.sizeFixed

/-- The notional of a buy. -/
def buyNotional (t : TapeTrade) : Int := if t.isBuy then t.notionalFixed else 0

/-- The notional of a sell. -/
def sellNotional (t : TapeTrade) : Int := if t.isBuy then 0 else t.notionalFixed

/-- The number and the price of a trade, by which trades are ordered. -/
def rank (t : TapeTrade) : Int ×ₗ Int := toLex (t.seq, t.priceFixed)

/-- The values of a trade as the window uses them. -/
structure Positive (t : TapeTrade) : Prop where
  price : 0 < t.priceFixed
  size : 0 < t.sizeFixed
  size_lt : t.sizeFixed < 2 ^ 63
  notional : 0 < t.notionalFixed
  notional_lt : t.notionalFixed < 2 ^ 63
  seq : 0 < t.seq

end TapeTrade

/-- A call of `ApplyTrade` after the conversion of its price, size and notional. -/
structure TapeCall where
  values : Except Problem (Int × Int × Int)
  isBuy : Bool
  seq : Int
  range : ∀ p s n, values = .ok (p, s, n) →
    0 < p ∧ 0 < s ∧ s < 2 ^ 63 ∧ 0 < n ∧ n < 2 ^ 63

namespace TapeCall

/-- The trade of a valid call. -/
def trade? (c : TapeCall) : Option TapeTrade :=
  match c.values with
  | .error _ => none
  | .ok (p, s, n) => if 0 < c.seq then some ⟨p, s, n, c.isBuy, c.seq⟩ else none

theorem trade?_eq_some_iff {c : TapeCall} {t : TapeTrade} :
    c.trade? = some t ↔
      c.values = .ok (t.priceFixed, t.sizeFixed, t.notionalFixed) ∧ 0 < c.seq ∧
        c.isBuy = t.isBuy ∧ c.seq = t.seq := by
  unfold trade?
  split
  next e he =>
    rw [he]
    simp
  next p s n hok =>
    obtain ⟨p', s', n', isBuy, seq⟩ := t
    rw [hok, Option.ite_none_right_eq_some, Option.some.injEq, TapeTrade.mk.injEq,
      Except.ok.injEq, Prod.mk.injEq, Prod.mk.injEq]
    tauto

theorem positive_of_trade? {c : TapeCall} {t : TapeTrade} (h : c.trade? = some t) : t.Positive := by
  obtain ⟨hvalues, hseq, -, hseq_eq⟩ := trade?_eq_some_iff.mp h
  obtain ⟨hprice, hsize, hsize_lt, hnotional, hnotional_lt⟩ := c.range _ _ _ hvalues
  exact ⟨hprice, hsize, hsize_lt, hnotional, hnotional_lt, hseq_eq ▸ hseq⟩

theorem positive_of_mem_filterMap
    {cs : List TapeCall} {t : TapeTrade} (h : t ∈ cs.filterMap trade?) : t.Positive := by
  obtain ⟨c, -, hc⟩ := List.mem_filterMap.mp h
  exact positive_of_trade? hc

end TapeCall

attribute [ext] TapeWindowV1

namespace TapeWindowV1

variable {ts done : List TapeTrade} {w₀ w : TapeWindowV1}

/-- The counts and sums of both sides, reduced to 64 bits. -/
def wrapSides (w : TapeWindowV1) : TapeWindowV1 :=
  { w with
    buyCount := wrap64 w.buyCount
    sellCount := wrap64 w.sellCount
    buyVolumeFixed := wrap64 w.buyVolumeFixed
    sellVolumeFixed := wrap64 w.sellVolumeFixed
    buyNotionalFixed := wrap64 w.buyNotionalFixed
    sellNotionalFixed := wrap64 w.sellNotionalFixed }

/-- The assignments of `ApplyTrade`. -/
def record (w : TapeWindowV1) (t : TapeTrade) : TapeWindowV1 :=
  let w := { w with tradeCount := wrap64 (w.tradeCount + 1) }
  let w := (applySide t.isBuy t.sizeFixed t.notionalFixed w).wrapSides
  let w := { w with totalVolumeFixed := wrap64 (w.buyVolumeFixed + w.sellVolumeFixed) }
  updateExtrema t.priceFixed t.sizeFixed t.seq w

/-- `VolumeImbalance`, as `Close` computes it. -/
def imbalance (w : TapeWindowV1) : Float :=
  if 0 < w.totalVolumeFixed then
    let x := Float.ofInt (wrap64 (w.buyVolumeFixed - w.sellVolumeFixed)) /
      Float.ofInt w.totalVolumeFixed
    let x := if 1 < x then 1 else x
    if x < -1 then -1 else x
  else 0

/-- `validateNonEmptyWindow`, with the value of `VolumeImbalance`. -/
def checkNonEmptyWindow (volumeImbalance : Float) (w : TapeWindowV1) : Option Problem :=
  collect
    [Problem.when (wrap64 (w.buyCount + w.sellCount) ≠ w.tradeCount)
        (.new .integrityViolation "trade_count must equal buy_count + sell_count"),
      Problem.when (w.totalVolumeFixed ≤ 0 ∨ w.buyVolumeFixed < 0 ∨ w.sellVolumeFixed < 0)
        (.new .integrityViolation "volume totals are invalid"),
      Problem.when (w.totalVolumeFixed ≠ wrap64 (w.buyVolumeFixed + w.sellVolumeFixed))
        (.new .integrityViolation "total_volume must equal buy_volume + sell_volume"),
      Problem.when (w.maxPriceFixed ≤ 0 ∨ w.minPriceFixed ≤ 0 ∨ w.lastPriceFixed ≤ 0)
        (.new .integrityViolation "price extrema must be positive"),
      Problem.when (w.maxPriceFixed < w.minPriceFixed)
        (.new .integrityViolation "max_price must be >= min_price"),
      Problem.when (w.maxTradeSizeFixed ≤ 0)
        (.new .integrityViolation "max_trade_size must be positive"),
      Problem.when (w.lastSeq ≤ 0)
        (.new .integrityViolation "last_seq must be positive when trades exist"),
      Problem.when (volumeImbalance < -1 ∨ 1 < volumeImbalance)
        (.new .integrityViolation "imbalance must be in [-1,+1]")]

/-- `Validate`, with the value of `VolumeImbalance`. -/
def check (volumeImbalance : Float) (w : TapeWindowV1) : Option Problem :=
  match collect
      [nonEmptyString "venue" w.venue,
        nonEmptyString "instrument" w.instrument,
        oneOf "timeframe" w.timeframe allowedTapeTimeframes,
        nonNegativeInt "window_start_ts" w.windowStartTs,
        nonNegativeInt "trade_count" w.tradeCount,
        Problem.when (w.isClosed = true ∧ w.windowEndTs ≤ w.windowStartTs)
          (.new .integrityViolation "closed tape window must have valid window bounds"),
        Problem.when (w.isClosed = false ∧ w.windowEndTs ≠ 0)
          (.new .integrityViolation "open tape window must not have window_end_ts set")] with
  | some p => some p
  | none =>
    if w.tradeCount = 0 then
      Problem.when (w.buyCount ≠ 0 ∨ w.sellCount ≠ 0)
        (.new .integrityViolation "empty tape window cannot have side counts")
    else w.checkNonEmptyWindow volumeImbalance

/-- `ApplyTrade` after the conversion of the price, the size and the notional. -/
def applyFixed (values : Except Problem (Int × Int × Int)) (isBuy : Bool) (seq : Int) :
    Prog Problem TapeWindowV1 PUnit := do
  checkMutable
  Prog.check (positiveInt "seq" seq)
  let (priceFixed, sizeFixed, notionalFixed) ← Prog.lift values
  Prog.modify fun w => w.record ⟨priceFixed, sizeFixed, notionalFixed, isBuy, seq⟩
  let w ← Prog.get
  -- `VolumeImbalance` is zero before `Close`
  Prog.check (w.check 0)

/-- `Close`. -/
def closeAt (windowEndTs : Int) : Prog Problem TapeWindowV1 PUnit := do
  checkMutable
  let w ← Prog.get
  Prog.check (Problem.when (windowEndTs ≤ w.windowStartTs)
    (.newf .validationFailed "window_end_ts must be > window_start_ts: start=%d end=%d"
      [.int w.windowStartTs, .int windowEndTs]))
  Prog.modify fun w => { w with windowEndTs := windowEndTs, isClosed := true }
  let w ← Prog.get
  Prog.check (w.check w.imbalance)

/-! ## The fields of a window after a trade -/

/-- The fields that no trade changes. -/
structure SameIdentity (w w' : TapeWindowV1) : Prop where
  venue : w'.venue = w.venue
  instrument : w'.instrument = w.instrument
  timeframe : w'.timeframe = w.timeframe
  windowStartTs : w'.windowStartTs = w.windowStartTs
  windowEndTs : w'.windowEndTs = w.windowEndTs
  isClosed : w'.isClosed = w.isClosed

/-- The number and the price of the last trade. -/
def lastRank (w : TapeWindowV1) : Int ×ₗ Int := toLex (w.lastSeq, w.lastPriceFixed)

/-- The rank of the last trade after a further trade. -/
def nextRank (w : TapeWindowV1) (rank : Int ×ₗ Int) : Int ×ₗ Int :=
  if w.hasTrades then max w.lastRank rank else rank

theorem updateExtrema_eq (priceFixed sizeFixed seq : Int) (w : TapeWindowV1) :
    updateExtrema priceFixed sizeFixed seq w =
      { w with
        maxPriceFixed := if w.hasTrades then max w.maxPriceFixed priceFixed else priceFixed
        minPriceFixed := if w.hasTrades then min w.minPriceFixed priceFixed else priceFixed
        maxTradeSizeFixed := if w.hasTrades then max w.maxTradeSizeFixed sizeFixed else sizeFixed
        lastSeq := (ofLex (w.nextRank (toLex (seq, priceFixed)))).1
        lastPriceFixed := (ofLex (w.nextRank (toLex (seq, priceFixed)))).2
        hasTrades := true } := by
  unfold updateExtrema nextRank
  cases w.hasTrades with
  | false => rfl
  | true =>
    have hmax : ∀ x y : Int, (if x < y then y else x) = max x y := fun x y => by
      split_ifs <;> omega
    have hmin : ∀ x y : Int, (if y < x then y else x) = min x y := fun x y => by
      split_ifs <;> omega
    have hrank : max w.lastRank (toLex (seq, priceFixed)) =
        if w.lastSeq < seq ∨ seq = w.lastSeq ∧ w.lastPriceFixed < priceFixed then
          toLex (seq, priceFixed)
        else w.lastRank := by
      unfold lastRank
      split_ifs
      · exact max_eq_right (Prod.Lex.toLex_le_toLex.mpr (by omega))
      · exact max_eq_left (Prod.Lex.toLex_le_toLex.mpr (by omega))
    simp only [Bool.true_eq_false, if_false, if_true, hmax, hmin, hrank]
    split_ifs <;> simp [lastRank]

theorem record_eq (w : TapeWindowV1) (t : TapeTrade) :
    w.record t =
      { w with
        tradeCount := wrap64 (w.tradeCount + 1)
        buyCount := wrap64 (w.buyCount + t.buys)
        sellCount := wrap64 (w.sellCount + t.sells)
        buyVolumeFixed := wrap64 (w.buyVolumeFixed + t.buyVolume)
        sellVolumeFixed := wrap64 (w.sellVolumeFixed + t.sellVolume)
        totalVolumeFixed := wrap64 (wrap64 (w.buyVolumeFixed + t.buyVolume) +
          wrap64 (w.sellVolumeFixed + t.sellVolume))
        buyNotionalFixed := wrap64 (w.buyNotionalFixed + t.buyNotional)
        sellNotionalFixed := wrap64 (w.sellNotionalFixed + t.sellNotional)
        maxPriceFixed := if w.hasTrades then max w.maxPriceFixed t.priceFixed else t.priceFixed
        minPriceFixed := if w.hasTrades then min w.minPriceFixed t.priceFixed else t.priceFixed
        maxTradeSizeFixed :=
          if w.hasTrades then max w.maxTradeSizeFixed t.sizeFixed else t.sizeFixed
        lastSeq := (ofLex (w.nextRank t.rank)).1
        lastPriceFixed := (ofLex (w.nextRank t.rank)).2
        hasTrades := true } := by
  unfold record
  rw [updateExtrema_eq]
  obtain ⟨p, s, n, isBuy, q⟩ := t
  cases isBuy <;>
    simp [applySide, wrapSides, nextRank, lastRank, TapeTrade.buys, TapeTrade.sells,
      TapeTrade.buyVolume, TapeTrade.sellVolume, TapeTrade.buyNotional, TapeTrade.sellNotional,
      TapeTrade.rank]

/-! ## The order of trades -/

theorem nextRank_record (w : TapeWindowV1) (t : TapeTrade) (rank : Int ×ₗ Int) :
    (w.record t).nextRank rank = max (w.nextRank t.rank) rank := by
  rw [record_eq]
  rfl

theorem nextRank_comm
    (w : TapeWindowV1) (x y : Int ×ₗ Int) : max (w.nextRank x) y = max (w.nextRank y) x := by
  unfold nextRank
  split_ifs
  · exact max_right_comm _ _ _
  · exact max_comm _ _

/-- Two trades may be recorded in either order. -/
theorem record_comm
    (w : TapeWindowV1) (a b : TapeTrade) : (w.record a).record b = (w.record b).record a := by
  have hsum : ∀ x y z : Int, wrap64 (wrap64 (x + y) + z) = wrap64 (wrap64 (x + z) + y) := by
    intro x y z
    unfold wrap64
    omega
  have hmax : ∀ x y z : Int, max (if w.hasTrades then max x y else y) z =
      max (if w.hasTrades then max x z else z) y := by
    intro x y z
    split_ifs <;> omega
  have hmin : ∀ x y z : Int, min (if w.hasTrades then min x y else y) z =
      min (if w.hasTrades then min x z else z) y := by
    intro x y z
    split_ifs <;> omega
  have hrank : (w.record a).nextRank b.rank = (w.record b).nextRank a.rank := by
    rw [nextRank_record, nextRank_record, nextRank_comm]
  rw [record_eq (w.record a), record_eq (w.record b), hrank, record_eq w a, record_eq w b]
  ext
  case tradeCount => rfl
  case buyCount => exact hsum _ _ _
  case sellCount => exact hsum _ _ _
  case buyVolumeFixed => exact hsum _ _ _
  case sellVolumeFixed => exact hsum _ _ _
  case totalVolumeFixed => exact congrArg wrap64 (congrArg₂ (· + ·) (hsum _ _ _) (hsum _ _ _))
  case buyNotionalFixed => exact hsum _ _ _
  case sellNotionalFixed => exact hsum _ _ _
  case maxPriceFixed => exact hmax _ _ _
  case minPriceFixed => exact hmin _ _ _
  case maxTradeSizeFixed => exact hmax _ _ _
  all_goals rfl

/-- Trades may be recorded in any order. -/
theorem foldl_record_perm {ts' : List TapeTrade} (h : ts.Perm ts') (w : TapeWindowV1) :
    ts.foldl record w = ts'.foldl record w :=
  h.foldl_eq' (fun a _ b _ w => record_comm w a b) w

/-! ## The content of a window -/

/-- `m` is the greatest value of `f` on the list. -/
def Greatest {α β : Type} [LE β] (f : α → β) (l : List α) (m : β) : Prop :=
  (∃ a ∈ l, f a = m) ∧ ∀ a ∈ l, f a ≤ m

theorem greatest_concat {α β : Type} [LinearOrder β] {f : α → β} {l : List α} {m : β} {a : α}
    (h : l ≠ [] → Greatest f l m) :
    Greatest f (l ++ [a]) (if l = [] then f a else max m (f a)) := by
  by_cases hl : l = []
  · subst hl
    rw [if_pos rfl]
    exact ⟨⟨a, by simp, rfl⟩, by simp⟩
  · rw [if_neg hl]
    obtain ⟨⟨b, hb, hfb⟩, hle⟩ := h hl
    refine ⟨?_, fun c hc => ?_⟩
    · rcases max_choice m (f a) with hmax | hmax
      · exact ⟨b, List.mem_append_left _ hb, hfb.trans hmax.symm⟩
      · exact ⟨a, List.mem_append_right _ List.mem_cons_self, hmax.symm⟩
    · rcases List.mem_append.mp hc with hc | hc
      · exact (hle c hc).trans (le_max_left _ _)
      · rw [List.mem_singleton.mp hc]
        exact le_max_right _ _

/-- A sum over the trades. -/
def total (f : TapeTrade → Int) (ts : List TapeTrade) : Int := (ts.map f).sum

@[simp] theorem total_nil (f : TapeTrade → Int) : total f [] = 0 := by
  rfl

theorem total_append (f : TapeTrade → Int) (ts ts' : List TapeTrade) :
    total f (ts ++ ts') = total f ts + total f ts' := by
  simp [total]

@[simp] theorem total_concat (f : TapeTrade → Int) (ts : List TapeTrade) (t : TapeTrade) :
    total f (ts ++ [t]) = total f ts + f t := by
  simp [total]

/-- A window that started as `w₀` holds the trades. -/
structure Holds (w₀ : TapeWindowV1) (ts : List TapeTrade) (w : TapeWindowV1) : Prop where
  identity : w₀.SameIdentity w
  tradeCount : w.tradeCount = wrap64 ts.length
  buyCount : w.buyCount = wrap64 (total TapeTrade.buys ts)
  sellCount : w.sellCount = wrap64 (total TapeTrade.sells ts)
  buyVolume : w.buyVolumeFixed = wrap64 (total TapeTrade.buyVolume ts)
  sellVolume : w.sellVolumeFixed = wrap64 (total TapeTrade.sellVolume ts)
  totalVolume : w.totalVolumeFixed = wrap64 (total TapeTrade.sizeFixed ts)
  buyNotional : w.buyNotionalFixed = wrap64 (total TapeTrade.buyNotional ts)
  sellNotional : w.sellNotionalFixed = wrap64 (total TapeTrade.sellNotional ts)
  hasTrades : w.hasTrades = true ↔ ts ≠ []
  maxPrice : ts ≠ [] → Greatest TapeTrade.priceFixed ts w.maxPriceFixed
  minPrice : ts ≠ [] → Greatest (fun t => OrderDual.toDual t.priceFixed) ts
    (OrderDual.toDual w.minPriceFixed)
  maxTradeSize : ts ≠ [] → Greatest TapeTrade.sizeFixed ts w.maxTradeSizeFixed
  last : ts ≠ [] → Greatest TapeTrade.rank ts w.lastRank

theorem total_add (f g : TapeTrade → Int) (ts : List TapeTrade) :
    total f ts + total g ts = total (fun t => f t + g t) ts :=
  List.sum_map_add.symm

theorem total_congr {f g : TapeTrade → Int} (h : ∀ t ∈ ts, f t = g t) : total f ts = total g ts :=
  congrArg List.sum (List.map_congr_left h)

theorem total_le_total
    {f g : TapeTrade → Int} (h : ∀ t ∈ ts, f t ≤ g t) : total f ts ≤ total g ts :=
  List.sum_le_sum h

theorem total_const (n : Int) (ts : List TapeTrade) : total (fun _ => n) ts = ts.length * n := by
  simp [total]

theorem total_nonneg {f : TapeTrade → Int} (h : ∀ t ∈ ts, 0 ≤ f t) : 0 ≤ total f ts := by
  have hle := total_le_total h
  rwa [total_const, mul_zero] at hle

theorem total_sides (ts : List TapeTrade) :
    total TapeTrade.buyVolume ts + total TapeTrade.sellVolume ts = total TapeTrade.sizeFixed ts ∧
      total TapeTrade.buys ts + total TapeTrade.sells ts = ts.length := by
  rw [total_add, total_add, ← mul_one (ts.length : Int), ← total_const]
  constructor
  · refine total_congr fun t _ => ?_
    unfold TapeTrade.buyVolume TapeTrade.sellVolume
    split_ifs <;> simp
  · refine total_congr fun t _ => ?_
    unfold TapeTrade.buys TapeTrade.sells
    split_ifs <;> simp

theorem wrap64_add_wrap64 (x y : Int) : wrap64 (wrap64 x + y) = wrap64 (x + y) := by
  unfold wrap64
  omega

theorem Holds.record (h : Holds w₀ ts w) (t : TapeTrade) : Holds w₀ (ts ++ [t]) (w.record t) := by
  have hif : ∀ {γ : Type} (x y : γ), (if w.hasTrades then x else y) = if ts = [] then y else x := by
    intro γ x y
    by_cases hts : ts = []
    · rw [if_pos hts, if_neg (mt h.hasTrades.mp (not_not_intro hts))]
    · rw [if_neg hts, if_pos (h.hasTrades.mpr hts)]
  have hsum : ∀ (f : TapeTrade → Int) (x : Int), x = wrap64 (total f ts) →
      wrap64 (x + f t) = wrap64 (total f (ts ++ [t])) := by
    intro f x hx
    rw [hx, wrap64_add_wrap64, total_concat]
  have hlength : w.tradeCount = wrap64 (total (fun _ => 1) ts) := by
    rw [h.tradeCount]
    simp [total]
  rw [record_eq]
  refine
    { identity := ⟨h.identity.venue, h.identity.instrument, h.identity.timeframe,
        h.identity.windowStartTs, h.identity.windowEndTs, h.identity.isClosed⟩
      tradeCount := ?_
      buyCount := ?_
      sellCount := ?_
      buyVolume := ?_
      sellVolume := ?_
      totalVolume := ?_
      buyNotional := ?_
      sellNotional := ?_
      hasTrades := iff_of_true rfl (by simp)
      maxPrice := fun _ => ?_
      minPrice := fun _ => ?_
      maxTradeSize := fun _ => ?_
      last := fun _ => ?_ }
  · rw [hsum (fun _ => 1) _ hlength]
    simp [total]
  · exact hsum _ _ h.buyCount
  · exact hsum _ _ h.sellCount
  · exact hsum _ _ h.buyVolume
  · exact hsum _ _ h.sellVolume
  · show wrap64 (wrap64 (w.buyVolumeFixed + t.buyVolume) +
      wrap64 (w.sellVolumeFixed + t.sellVolume)) = _
    rw [hsum _ _ h.buyVolume, hsum _ _ h.sellVolume, wrap64_add_wrap64, add_comm,
      wrap64_add_wrap64, add_comm, (total_sides (ts ++ [t])).1]
  · exact hsum _ _ h.buyNotional
  · exact hsum _ _ h.sellNotional
  · rw [hif]
    exact greatest_concat h.maxPrice
  · dsimp only
    rw [hif, apply_ite OrderDual.toDual]
    exact greatest_concat h.minPrice
  · dsimp only
    rw [hif]
    exact greatest_concat h.maxTradeSize
  · show Greatest TapeTrade.rank (ts ++ [t]) (w.nextRank t.rank)
    unfold nextRank
    rw [hif]
    exact greatest_concat h.last

theorem Holds.foldl (h : Holds w₀ done w) (ts : List TapeTrade) :
    Holds w₀ (done ++ ts) (ts.foldl TapeWindowV1.record w) := by
  induction ts generalizing done w with
  | nil =>
    rw [List.append_nil]
    exact h
  | cons t ts ih =>
    have hnext := ih (h.record t)
    rwa [List.append_assoc] at hnext

/-! ## The calls -/

/-- An open window of an allowed timeframe without trades. -/
structure New (w : TapeWindowV1) : Prop where
  venue : trimSpace w.venue ≠ ""
  instrument : trimSpace w.instrument ≠ ""
  timeframe : w.timeframe ∈ allowedTapeTimeframes
  windowStartTs : 0 ≤ w.windowStartTs
  windowEndTs : w.windowEndTs = 0
  isClosed : w.isClosed = false
  holds : Holds w [] w

theorem new_of_create {venue instrument timeframe : String} {windowStartTs : Int}
    (h : create venue instrument timeframe windowStartTs = .ok w) : w.New := by
  unfold create at h
  split at h
  next p hcollect => cases h
  next hcollect =>
    cases h
    simp only [collect_eq_none, List.mem_cons, List.not_mem_nil, or_false,
      forall_eq_or_imp, forall_eq, nonEmptyString_eq_none, oneOf_eq_none,
      nonNegativeInt_eq_none] at hcollect
    obtain ⟨hvenue, hinstrument, htimeframe, hstart⟩ := hcollect
    have htrim : ∀ tf ∈ allowedTapeTimeframes, trimSpace tf = tf := by decide +kernel
    have hzero : wrap64 0 = 0 := by decide
    exact
      { venue := by rwa [trimSpace_trimSpace]
        instrument := by rwa [trimSpace_trimSpace]
        timeframe := by
          rwa [htrim timeframe htimeframe]
        windowStartTs := hstart
        windowEndTs := rfl
        isClosed := rfl
        holds :=
          { identity := ⟨rfl, rfl, rfl, rfl, rfl, rfl⟩
            tradeCount := hzero.symm
            buyCount := hzero.symm
            sellCount := hzero.symm
            buyVolume := hzero.symm
            sellVolume := hzero.symm
            totalVolume := hzero.symm
            buyNotional := hzero.symm
            sellNotional := hzero.symm
            hasTrades := by simp
            maxPrice := fun hne => absurd rfl hne
            minPrice := fun hne => absurd rfl hne
            maxTradeSize := fun hne => absurd rfl hne
            last := fun hne => absurd rfl hne } }

/-- The sizes are positive, so there are no more trades than units of volume. -/
theorem length_le_total (hpos : ∀ t ∈ ts, t.Positive) :
    (ts.length : Int) ≤ total TapeTrade.sizeFixed ts ∧
      0 ≤ total TapeTrade.buyVolume ts ∧ 0 ≤ total TapeTrade.sellVolume ts := by
  refine ⟨?_, total_nonneg fun t ht => ?_, total_nonneg fun t ht => ?_⟩
  · rw [← mul_one (ts.length : Int), ← total_const]
    exact total_le_total fun t ht => (hpos t ht).size
  · have hsize := (hpos t ht).size
    unfold TapeTrade.buyVolume
    split_ifs <;> omega
  · have hsize := (hpos t ht).size
    unfold TapeTrade.sellVolume
    split_ifs <;> omega

section Checks

variable {volumeImbalance : Float}

/-- The checks on a window with trades fail exactly if the volume has overflown. -/
theorem checkNonEmptyWindow_eq_none_iff
    (h : Holds w₀ ts w) (hts : ts ≠ []) (hpos : ∀ t ∈ ts, t.Positive)
    (hvolume : total TapeTrade.sizeFixed ts < 2 ^ 64)
    (himbalance : ¬ (volumeImbalance < -1 ∨ 1 < volumeImbalance)) :
    w.checkNonEmptyWindow volumeImbalance = none ↔ total TapeTrade.sizeFixed ts < 2 ^ 63 := by
  obtain ⟨hsides, hcounts⟩ := total_sides ts
  obtain ⟨hlength, hbuy, hsell⟩ := length_le_total hpos
  have hlength_pos : 0 < ts.length := List.length_pos_iff.mpr hts
  obtain ⟨⟨tmax, htmax, hmax⟩, hmax_le⟩ := h.maxPrice hts
  obtain ⟨⟨tmin, htmin, hmin⟩, -⟩ := h.minPrice hts
  obtain ⟨⟨tsize, htsize, hsize⟩, -⟩ := h.maxTradeSize hts
  obtain ⟨⟨tlast, htlast, hlast⟩, -⟩ := h.last hts
  have hmin' : tmin.priceFixed = w.minPriceFixed := OrderDual.toDual.injective hmin
  have hlast' : tlast.seq = w.lastSeq ∧ tlast.priceFixed = w.lastPriceFixed :=
    Prod.mk.inj (toLex.injective hlast)
  have hmax_pos := (hpos tmax htmax).price
  have hmin_pos := (hpos tmin htmin).price
  have hmin_le := hmax_le tmin htmin
  have hsize_pos := (hpos tsize htsize).size
  have hlast_pos := (hpos tlast htlast).price
  have hseq_pos := (hpos tlast htlast).seq
  unfold checkNonEmptyWindow
  simp only [collect_eq_none, List.mem_cons, List.not_mem_nil, or_false,
    forall_eq_or_imp, forall_eq, Problem.when_eq_none, himbalance, not_false_eq_true, and_true]
  rw [h.tradeCount, h.buyCount, h.sellCount, h.buyVolume, h.sellVolume, h.totalVolume]
  unfold wrap64
  omega

theorem check_eq_none_iff :
    w.check volumeImbalance = none ↔
      (trimSpace w.venue ≠ "" ∧ trimSpace w.instrument ≠ "" ∧
        w.timeframe ∈ allowedTapeTimeframes ∧ 0 ≤ w.windowStartTs ∧ 0 ≤ w.tradeCount ∧
        ¬ (w.isClosed = true ∧ w.windowEndTs ≤ w.windowStartTs) ∧
        ¬ (w.isClosed = false ∧ w.windowEndTs ≠ 0)) ∧
      (w.tradeCount = 0 → ¬ (w.buyCount ≠ 0 ∨ w.sellCount ≠ 0)) ∧
      (w.tradeCount ≠ 0 → w.checkNonEmptyWindow volumeImbalance = none) := by
  unfold check
  split
  next p hp =>
    have hstatic := mt Option.eq_none_iff_forall_ne_some.mp (fun hne => hne p hp)
    simp only [collect_eq_none, List.mem_cons, List.not_mem_nil, or_false,
      forall_eq_or_imp, forall_eq, nonEmptyString_eq_none, oneOf_eq_none,
      nonNegativeInt_eq_none, Problem.when_eq_none] at hstatic
    exact iff_of_false (by simp) fun h => hstatic h.1
  next hstatic =>
    simp only [collect_eq_none, List.mem_cons, List.not_mem_nil, or_false,
      forall_eq_or_imp, forall_eq, nonEmptyString_eq_none, oneOf_eq_none,
      nonNegativeInt_eq_none, Problem.when_eq_none] at hstatic
    by_cases hzero : w.tradeCount = 0
    · rw [if_pos hzero, Problem.when_eq_none]
      exact ⟨fun h => ⟨hstatic, fun _ => h, fun hne => absurd hzero hne⟩, fun h => h.2.1 hzero⟩
    · rw [if_neg hzero]
      exact ⟨fun h => ⟨hstatic, fun h0 => absurd h0 hzero, fun _ => h⟩, fun h => h.2.2 hzero⟩

end Checks

/-- What the check after a trade says. -/
theorem Holds.check_record_eq_none_iff
    {t : TapeTrade} (hnew : w₀.New) (h : Holds w₀ done w) (hpos : ∀ x ∈ done ++ [t], x.Positive)
    (hvolume : total TapeTrade.sizeFixed done < 2 ^ 63) :
    (w.record t).check 0 = none ↔ total TapeTrade.sizeFixed (done ++ [t]) < 2 ^ 63 := by
  have hnext := h.record t
  have hne : done ++ [t] ≠ [] := by simp
  have hsize_lt := (hpos t (by simp)).size_lt
  have hbound : total TapeTrade.sizeFixed (done ++ [t]) < 2 ^ 64 := by
    rw [total_concat]
    omega
  have hfloat : ¬ ((0 : Float) < -1 ∨ (1 : Float) < 0) := by decide +kernel
  have hnonEmpty := checkNonEmptyWindow_eq_none_iff hnext hne hpos hbound hfloat
  have hlength := (length_le_total hpos).1
  have hlength_pos : 0 < (done ++ [t]).length := List.length_pos_iff.mpr hne
  have hcount_ne : (w.record t).tradeCount ≠ 0 := by
    rw [hnext.tradeCount]
    unfold wrap64
    omega
  rw [check_eq_none_iff, hnext.identity.venue, hnext.identity.instrument,
    hnext.identity.timeframe, hnext.identity.windowStartTs, hnext.identity.windowEndTs,
    hnext.identity.isClosed, hnew.isClosed, hnew.windowEndTs]
  constructor
  · intro hok
    exact hnonEmpty.mp (hok.2.2 hcount_ne)
  · intro hlt
    have hcount_nonneg : 0 ≤ (w.record t).tradeCount := by
      rw [hnext.tradeCount]
      unfold wrap64
      omega
    exact ⟨⟨hnew.venue, hnew.instrument, hnew.timeframe, hnew.windowStartTs, hcount_nonneg,
      by simp, by simp⟩, fun h0 => absurd h0 hcount_ne, fun _ => hnonEmpty.mpr hlt⟩

theorem positive_concat
    {c : TapeCall} {t : TapeTrade} (hpos : ∀ x ∈ done, x.Positive) (htrade : c.trade? = some t) :
    ∀ x ∈ done ++ [t], x.Positive := by
  intro x hx
  rcases List.mem_append.mp hx with hx | hx
  · exact hpos x hx
  · rw [List.mem_singleton.mp hx]
    exact TapeCall.positive_of_trade? htrade

theorem Holds.applyFixed_eq_ok_iff {w' : TapeWindowV1} {c : TapeCall}
    (hnew : w₀.New) (h : Holds w₀ done w) (hpos : ∀ t ∈ done, t.Positive)
    (hvolume : total TapeTrade.sizeFixed done < 2 ^ 63) :
    applyFixed c.values c.isBuy c.seq w = (w', .ok ⟨⟩) ↔
      ∃ t, c.trade? = some t ∧ total TapeTrade.sizeFixed (done ++ [t]) < 2 ^ 63 ∧
        w.record t = w' := by
  have hopen : w.isClosed = false := h.identity.isClosed.trans hnew.isClosed
  unfold applyFixed checkMutable
  rw [Prog.bind_assoc, get_bind_apply, check_bind_eq_ok_iff, Problem.when_eq_none, hopen,
    check_bind_eq_ok_iff, positiveInt_eq_none, lift_bind_eq_ok_iff]
  constructor
  · rintro ⟨-, hseq, ⟨p, s, n⟩, hvalues, hrest⟩
    have htrade : c.trade? = some ⟨p, s, n, c.isBuy, c.seq⟩ :=
      TapeCall.trade?_eq_some_iff.mpr ⟨hvalues, hseq, rfl, rfl⟩
    dsimp only at hrest
    rw [modify_bind_apply, get_bind_apply, check_eq_ok_iff,
      h.check_record_eq_none_iff hnew (positive_concat hpos htrade) hvolume] at hrest
    exact ⟨_, htrade, hrest⟩
  · rintro ⟨t, htrade, hrest⟩
    obtain ⟨hvalues, hseq, hisBuy, hseq_eq⟩ := TapeCall.trade?_eq_some_iff.mp htrade
    refine ⟨by simp, hseq, _, hvalues, ?_⟩
    dsimp only
    rw [modify_bind_apply, get_bind_apply, check_eq_ok_iff, hisBuy, hseq_eq,
      h.check_record_eq_none_iff hnew (positive_concat hpos htrade) hvolume]
    exact hrest

/-- Applies the calls one after the other, up to the first that fails. -/
def applyCalls : List TapeCall → Prog Problem TapeWindowV1 PUnit
  | [] => pure ⟨⟩
  | c :: cs => do
    applyFixed c.values c.isBuy c.seq
    applyCalls cs

theorem Holds.applyCalls_eq_ok_iff
    {w' : TapeWindowV1} (hnew : w₀.New) (h : Holds w₀ done w) (hpos : ∀ t ∈ done, t.Positive)
    (hvolume : total TapeTrade.sizeFixed done < 2 ^ 63) (cs : List TapeCall) :
    applyCalls cs w = (w', .ok ⟨⟩) ↔
      (∀ c ∈ cs, c.trade?.isSome) ∧
        total TapeTrade.sizeFixed (done ++ cs.filterMap TapeCall.trade?) < 2 ^ 63 ∧
        (cs.filterMap TapeCall.trade?).foldl TapeWindowV1.record w = w' := by
  induction cs generalizing done w with
  | nil =>
    rw [List.filterMap_nil, List.append_nil]
    exact ⟨fun hok => ⟨fun _ hc => absurd hc List.not_mem_nil, hvolume,
      (Prod.mk.inj hok).1⟩, fun hok => Prod.ext hok.2.2 rfl⟩
  | cons c cs ih =>
    rw [applyCalls, bind_eq_ok_iff]
    cases htrade : c.trade? with
    | none => simp [h.applyFixed_eq_ok_iff hnew hpos hvolume, htrade]
    | some t =>
      have hpos' := positive_concat hpos htrade
      have happend : done ++ t :: cs.filterMap TapeCall.trade? =
          done ++ [t] ++ cs.filterMap TapeCall.trade? := by simp
      rw [List.filterMap_cons_some htrade, List.forall_mem_cons, htrade, happend]
      constructor
      · rintro ⟨v, ⟨⟩, hv, hrest⟩
        obtain ⟨t', ht', hlt, hv'⟩ := (h.applyFixed_eq_ok_iff hnew hpos hvolume).mp hv
        cases htrade.symm.trans ht'
        subst hv'
        obtain ⟨hall, htotal, hw'⟩ := (ih (h.record t) hpos' hlt).mp hrest
        exact ⟨⟨rfl, hall⟩, htotal, hw'⟩
      · rintro ⟨⟨-, hall⟩, htotal, hw'⟩
        have hrest : 0 ≤ total TapeTrade.sizeFixed (cs.filterMap TapeCall.trade?) := by
          have hlength : ((cs.filterMap TapeCall.trade?).length : Int) ≤
              total TapeTrade.sizeFixed (cs.filterMap TapeCall.trade?) :=
            (length_le_total fun x hx => TapeCall.positive_of_mem_filterMap hx).1
          omega
        have hlt : total TapeTrade.sizeFixed (done ++ [t]) < 2 ^ 63 := by
          rw [total_append] at htotal
          omega
        exact ⟨w.record t, ⟨⟩,
          (h.applyFixed_eq_ok_iff hnew hpos hvolume).mpr ⟨t, htrade, hlt, rfl⟩,
          (ih (h.record t) hpos' hlt).mpr ⟨hall, htotal, hw'⟩⟩

theorem not_imbalance_out (w : TapeWindowV1) : ¬ (w.imbalance < -1 ∨ 1 < w.imbalance) := by
  have hzero : ¬ ((0 : Float) < -1 ∨ (1 : Float) < 0) := by decide +kernel
  have hone : ¬ ((1 : Float) < -1 ∨ (1 : Float) < 1) := by decide +kernel
  have hneg : ¬ ((-1 : Float) < -1 ∨ (1 : Float) < -1) := by decide +kernel
  unfold imbalance
  split
  next =>
    generalize Float.ofInt _ / Float.ofInt _ = x
    dsimp only
    by_cases hlarge : 1 < x
    · rw [if_pos hlarge, if_neg (not_or.mp hone).1]
      exact hone
    · rw [if_neg hlarge]
      split
      next => exact hneg
      next hsmall => exact not_or.mpr ⟨hsmall, hlarge⟩
  next => exact hzero

/-- The window as `Close` leaves it. -/
def closed (windowEndTs : Int) (w : TapeWindowV1) : TapeWindowV1 :=
  { w with windowEndTs := windowEndTs, isClosed := true }

theorem Holds.closeAt_eq
    {windowEndTs : Int} (hnew : w₀.New) (h : Holds w₀ ts w) (hpos : ∀ t ∈ ts, t.Positive)
    (hvolume : total TapeTrade.sizeFixed ts < 2 ^ 63) (hend : w₀.windowStartTs < windowEndTs) :
    closeAt windowEndTs w = (w.closed windowEndTs, .ok ⟨⟩) := by
  have hopen : w.isClosed = false := h.identity.isClosed.trans hnew.isClosed
  have hlength := (length_le_total hpos).1
  have hcount : w.tradeCount = ts.length := by
    rw [h.tradeCount]
    exact wrap64_eq_self ⟨by omega, by omega⟩
  have hcheck : (w.closed windowEndTs).check (w.closed windowEndTs).imbalance = none := by
    rw [check_eq_none_iff]
    refine ⟨⟨?_, ?_, ?_, ?_, ?_, ?_, by simp [closed]⟩, ?_, ?_⟩
    · exact h.identity.venue ▸ hnew.venue
    · exact h.identity.instrument ▸ hnew.instrument
    · exact h.identity.timeframe ▸ hnew.timeframe
    · exact h.identity.windowStartTs ▸ hnew.windowStartTs
    · show 0 ≤ w.tradeCount
      omega
    · rintro ⟨-, hle⟩
      have hle' : windowEndTs ≤ w.windowStartTs := hle
      rw [h.identity.windowStartTs] at hle'
      omega
    · intro hzero
      have hts : ts = [] := List.length_eq_zero_iff.mp (by
        have hzero' : w.tradeCount = 0 := hzero
        omega)
      subst hts
      show ¬ (w.buyCount ≠ 0 ∨ w.sellCount ≠ 0)
      rw [h.buyCount, h.sellCount]
      decide
    · intro hne
      have hts : ts ≠ [] := by
        rintro rfl
        exact hne hcount
      exact (checkNonEmptyWindow_eq_none_iff h hts hpos (by omega)
        (not_imbalance_out (w.closed windowEndTs))).mpr hvolume
  unfold closeAt checkMutable
  rw [Prog.bind_assoc, get_bind_apply, check_bind_eq_ok_iff, Problem.when_eq_none, hopen,
    get_bind_apply, check_bind_eq_ok_iff, Problem.when_eq_none, modify_bind_apply,
    get_bind_apply, check_eq_ok_iff]
  refine ⟨by simp, ?_, hcheck, rfl⟩
  rw [h.identity.windowStartTs]
  omega

/-! ## Closed windows -/

/-- The counts, sums and extremes of a window are those of the trades. -/
structure Reports (ts : List TapeTrade) (w : TapeWindowV1) : Prop where
  tradeCount : w.tradeCount = ts.length
  buyCount : w.buyCount = total TapeTrade.buys ts
  sellCount : w.sellCount = total TapeTrade.sells ts
  buyVolume : w.buyVolumeFixed = total TapeTrade.buyVolume ts
  sellVolume : w.sellVolumeFixed = total TapeTrade.sellVolume ts
  totalVolume : w.totalVolumeFixed = total TapeTrade.sizeFixed ts
  buyNotional : w.buyNotionalFixed = total TapeTrade.buyNotional ts
  sellNotional : w.sellNotionalFixed = total TapeTrade.sellNotional ts
  maxPrice : ts ≠ [] → Greatest TapeTrade.priceFixed ts w.maxPriceFixed
  minPrice : ts ≠ [] → Greatest (fun t => OrderDual.toDual t.priceFixed) ts
    (OrderDual.toDual w.minPriceFixed)
  maxTradeSize : ts ≠ [] → Greatest TapeTrade.sizeFixed ts w.maxTradeSizeFixed
  last : ts ≠ [] → Greatest TapeTrade.rank ts (toLex (w.lastSeq, w.lastPriceFixed))

theorem total_counts_nonneg
    (ts : List TapeTrade) : 0 ≤ total TapeTrade.buys ts ∧ 0 ≤ total TapeTrade.sells ts := by
  refine ⟨total_nonneg fun t _ => ?_, total_nonneg fun t _ => ?_⟩
  · unfold TapeTrade.buys
    split_ifs <;> decide
  · unfold TapeTrade.sells
    split_ifs <;> decide

theorem total_notionals (hpos : ∀ t ∈ ts, t.Positive) :
    total TapeTrade.buyNotional ts + total TapeTrade.sellNotional ts =
        total TapeTrade.notionalFixed ts ∧
      0 ≤ total TapeTrade.buyNotional ts ∧ 0 ≤ total TapeTrade.sellNotional ts := by
  rw [total_add]
  refine ⟨total_congr fun t _ => ?_, total_nonneg fun t ht => ?_, total_nonneg fun t ht => ?_⟩
  · unfold TapeTrade.buyNotional TapeTrade.sellNotional
    split_ifs <;> simp
  · have hnotional := (hpos t ht).notional
    unfold TapeTrade.buyNotional
    split_ifs <;> omega
  · have hnotional := (hpos t ht).notional
    unfold TapeTrade.sellNotional
    split_ifs <;> omega

theorem Holds.reports (h : Holds w₀ ts w) (hpos : ∀ t ∈ ts, t.Positive)
    (hvolume : total TapeTrade.sizeFixed ts < 2 ^ 63)
    (hnotional : total TapeTrade.notionalFixed ts < 2 ^ 63) : Reports ts w := by
  obtain ⟨hlength, hbuy, hsell⟩ := length_le_total hpos
  obtain ⟨hsides, hcounts⟩ := total_sides ts
  obtain ⟨hbuys, hsells⟩ := total_counts_nonneg ts
  obtain ⟨hnotionals, hbuyNotional, hsellNotional⟩ := total_notionals hpos
  have hexact : ∀ {x y : Int}, x = wrap64 y → 0 ≤ y → y < 2 ^ 63 → x = y :=
    fun hx hnonneg hlt => hx.trans (wrap64_eq_self ⟨by omega, by omega⟩)
  exact
    { tradeCount := hexact h.tradeCount (by omega) (by omega)
      buyCount := hexact h.buyCount hbuys (by omega)
      sellCount := hexact h.sellCount hsells (by omega)
      buyVolume := hexact h.buyVolume hbuy (by omega)
      sellVolume := hexact h.sellVolume hsell (by omega)
      totalVolume := hexact h.totalVolume (by omega) hvolume
      buyNotional := hexact h.buyNotional hbuyNotional (by omega)
      sellNotional := hexact h.sellNotional hsellNotional (by omega)
      maxPrice := h.maxPrice
      minPrice := h.minPrice
      maxTradeSize := h.maxTradeSize
      last := h.last }

theorem Reports.closed (h : Reports ts w) (windowEndTs : Int) : Reports ts (w.closed windowEndTs) :=
  ⟨h.tradeCount, h.buyCount, h.sellCount, h.buyVolume, h.sellVolume, h.totalVolume,
    h.buyNotional, h.sellNotional, h.maxPrice, h.minPrice, h.maxTradeSize, h.last⟩

theorem total_perm
    {ts' : List TapeTrade} (h : ts.Perm ts') (f : TapeTrade → Int) : total f ts = total f ts' :=
  (h.map f).sum_eq

/-! ## Trades in floats -/

theorem toTradeFixedValues_range
    {price size : Float} {p s n : Int} (h : toTradeFixedValues price size = .ok (p, s, n)) :
    0 < p ∧ 0 < s ∧ s < 2 ^ 63 ∧ 0 < n ∧ n < 2 ^ 63 := by
  unfold toTradeFixedValues at h
  cases hp : toPositiveFixed "price" price candleFixedScale with
  | error e =>
    rw [hp] at h
    cases h
  | ok priceFixed =>
    cases hs : toPositiveFixed "size" size candleFixedScale with
    | error e =>
      rw [hp, hs] at h
      cases h
    | ok sizeFixed =>
      rw [hp, hs] at h
      dsimp only [bind, Except.bind] at h
      split at h
      next => cases h
      next =>
        split at h
        next => cases h
        next scaled hscaled =>
          split at h
          next => cases h
          next hrange =>
            cases h
            have hprice := toPositiveFixed_range hp
            have hsize := toPositiveFixed_range hs
            omega

end TapeWindowV1

/-- The call of `ApplyTrade` with the trade. -/
def Trade.tapeCall (t : Trade) : TapeCall where
  values := TapeWindowV1.toTradeFixedValues t.price t.qty
  isBuy := t.isBuy
  seq := t.seq
  range := fun _ _ _ h => TapeWindowV1.toTradeFixedValues_range h

namespace TapeWindowV1

/-- Applies the trades and closes the window. -/
def applyAllAndClose (trades : List Trade) (windowEndTs : Int) :
    Prog Problem TapeWindowV1 PUnit := do
  applyCalls (trades.map Trade.tapeCall)
  closeAt windowEndTs

/-- The trades in fixed-point numbers, without those that are not valid. -/
def fixedTrades (trades : List Trade) : List TapeTrade :=
  (trades.map Trade.tapeCall).filterMap TapeCall.trade?

theorem fixedTrades_append (trades trades' : List Trade) :
    fixedTrades (trades ++ trades') = fixedTrades trades ++ fixedTrades trades' := by
  simp [fixedTrades]

theorem Holds.applyAllAndClose_eq
    {w₀ w : TapeWindowV1} {done : List TapeTrade} {trades : List Trade} {windowEndTs : Int}
    (hnew : w₀.New) (h : Holds w₀ done w) (hpos : ∀ t ∈ done, t.Positive)
    (hvalid : ∀ t ∈ trades, t.tapeCall.trade?.isSome)
    (hvolume : total TapeTrade.sizeFixed (done ++ fixedTrades trades) < 2 ^ 63)
    (hend : w₀.windowStartTs < windowEndTs) :
    applyAllAndClose trades windowEndTs w =
      (((fixedTrades trades).foldl TapeWindowV1.record w).closed windowEndTs, .ok ⟨⟩) := by
  have hpos' : ∀ t ∈ fixedTrades trades, t.Positive := fun _ => TapeCall.positive_of_mem_filterMap
  have hdone : total TapeTrade.sizeFixed done < 2 ^ 63 := by
    have hrest := (length_le_total hpos').1
    rw [total_append] at hvolume
    omega
  have hcalls : applyCalls (trades.map Trade.tapeCall) w =
      ((fixedTrades trades).foldl TapeWindowV1.record w, .ok ⟨⟩) := by
    rw [h.applyCalls_eq_ok_iff hnew hpos hdone]
    exact ⟨by simpa using hvalid, hvolume, rfl⟩
  unfold applyAllAndClose
  rw [bind_apply_ok hcalls]
  refine (h.foldl (fixedTrades trades)).closeAt_eq hnew (fun t ht => ?_) hvolume hend
  exact (List.mem_append.mp ht).elim (hpos t) (hpos' t)

/-- The closed window does not depend on the order of the trades: it reports their counts
and sums, the extreme prices and sizes, and the number and the price of the trade that is
maximal by its number and then by its price.  The open window may hold trades already. -/
theorem applyAllAndClose_perm
    {venue instrument timeframe : String} {windowStartTs windowEndTs : Int}
    {w₀ w : TapeWindowV1} {before trades trades' : List Trade}
    (hcreate : create venue instrument timeframe windowStartTs = .ok w₀)
    (hopen : applyCalls (before.map Trade.tapeCall) w₀ = (w, .ok ⟨⟩))
    (hvalid : ∀ t ∈ trades, t.tapeCall.trade?.isSome)
    (hvolume : total TapeTrade.sizeFixed (fixedTrades (before ++ trades)) < 2 ^ 63)
    (hnotional : total TapeTrade.notionalFixed (fixedTrades (before ++ trades)) < 2 ^ 63)
    (hend : w.windowStartTs < windowEndTs) (hperm : trades.Perm trades') :
    ∃ w', applyAllAndClose trades windowEndTs w = (w', .ok ⟨⟩) ∧
      applyAllAndClose trades' windowEndTs w = (w', .ok ⟨⟩) ∧
      w'.isClosed = true ∧ Reports (fixedTrades (before ++ trades)) w' := by
  have hnew := new_of_create hcreate
  have hpos : ∀ {l : List Trade}, ∀ t ∈ fixedTrades l, t.Positive :=
    fun _ => TapeCall.positive_of_mem_filterMap
  -- the open window holds the trades so far
  have hholds : Holds w₀ (fixedTrades before) w := by
    obtain ⟨-, -, hw⟩ := (hnew.holds.applyCalls_eq_ok_iff hnew (by simp) (by decide) _).mp hopen
    rw [← hw]
    exact hnew.holds.foldl (fixedTrades before)
  rw [hholds.identity.windowStartTs] at hend
  rw [fixedTrades_append] at hvolume hnotional ⊢
  have hfixed : (fixedTrades trades).Perm (fixedTrades trades') :=
    (hperm.map Trade.tapeCall).filterMap TapeCall.trade?
  have hvalid' : ∀ t ∈ trades', t.tapeCall.trade?.isSome :=
    fun t ht => hvalid t (hperm.mem_iff.mpr ht)
  have hvolume' :
      total TapeTrade.sizeFixed (fixedTrades before ++ fixedTrades trades') < 2 ^ 63 := by
    rwa [total_perm (hfixed.append_left (fixedTrades before))] at hvolume
  refine ⟨_, hholds.applyAllAndClose_eq hnew hpos hvalid hvolume hend, ?_, rfl, ?_⟩
  · rw [hholds.applyAllAndClose_eq hnew hpos hvalid' hvolume' hend, foldl_record_perm hfixed]
  · refine ((hholds.foldl (fixedTrades trades)).reports (fun t ht => ?_) hvolume hnotional).closed _
    exact (List.mem_append.mp ht).elim (hpos t) (hpos t)

/-- A window without trades. -/
def sampleWindow : TapeWindowV1 :=
  { venue := "binance", instrument := "BTCUSDT", timeframe := "1s", windowStartTs := 1000 }

/-- Two trades of one number. -/
def sampleTapeTrades : List Trade := [⟨100, 2, true, 7⟩, ⟨101, 1, false, 7⟩]

theorem applyAllAndClose_perm_sampleTapeTrades :
    ∃ w, applyAllAndClose sampleTapeTrades 2000 sampleWindow = (w, .ok ⟨⟩) ∧
      applyAllAndClose sampleTapeTrades.reverse 2000 sampleWindow = (w, .ok ⟨⟩) ∧
      w.isClosed = true ∧ Reports (fixedTrades ([] ++ sampleTapeTrades)) w := by
  have hcreate : create "binance" "BTCUSDT" "1s" 1000 = .ok sampleWindow := by rfl
  exact applyAllAndClose_perm hcreate rfl (by decide +kernel) (by decide +kernel)
    (by decide +kernel) (by decide) (List.reverse_perm _).symm

end TapeWindowV1
end Aggregation
end StreamAnalytics
