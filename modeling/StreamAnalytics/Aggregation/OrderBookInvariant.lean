import StreamAnalytics.Lib.Runs
import StreamAnalytics.Lib.Binary64Order
import StreamAnalytics.Aggregation.OrderBook

/-!
# The invariant of the order book

Every update validates all levels before it touches the trees, so only levels with
a positive finite price are stored, and on those the comparisons of both trees are
linear orders.  The sides therefore stay sorted through inserts, deletes and
pruning, and the spread check clears a crossed book.
-/

namespace StreamAnalytics
namespace Aggregation

open OrderedList Binary64 Runs Prog

/-! ## Levels -/

namespace Level

/-- A level that `validateLevel` accepts. -/
structure Valid (l : Level) : Prop where
  price_notNaN : l.price.isNaN = false
  price_notInf : l.price.isInf = false
  price_pos : 0 < l.price
  quantity_notNaN : l.quantity.isNaN = false
  quantity_notInf : l.quantity.isInf = false
  quantity_nonneg : ¬ l.quantity < 0

/-- A level that may be stored. -/
structure Stored (l : Level) : Prop extends Valid l where
  quantity_pos : 0 < l.quantity

/-- The order of the bids: the highest price first. -/
def bidKey (l : Level) : Rankᵒᵈ := OrderDual.toDual (rank l.price)

/-- The order of the asks: the lowest price first. -/
def askKey (l : Level) : Rank := rank l.price

end Level

theorem zero_notNaN : (0 : Float).isNaN = false := by
  decide

theorem validateLevel_eq_none_iff
    {side : String} {idx : Nat} {l : Level} : validateLevel side idx l = none ↔ l.Valid := by
  unfold validateLevel
  constructor
  · intro h
    split_ifs at h with h₁ h₂ h₃ h₄ h₅ h₆ h₇
    have hnan : l.price.isNaN = false := by simpa using h₁
    exact ⟨hnan, by simpa using h₂,
      lt_of_not_lt_of_not_beq hnan zero_notNaN h₃ (by simpa using h₄), by simpa using h₅,
      by simpa using h₆, h₇⟩
  · intro h
    have hpos := (lt_iff_rank zero_notNaN h.price_notNaN).mp h.price_pos
    have hneg : ¬ l.price < 0 := by
      rw [lt_iff_rank h.price_notNaN zero_notNaN]
      exact hpos.not_gt
    have hzero : (l.price == 0) = false := by
      rw [← Bool.not_eq_true, beq_iff_rank h.price_notNaN zero_notNaN]
      exact hpos.ne'
    rw [if_neg (Bool.eq_false_iff.mp h.price_notNaN), if_neg (Bool.eq_false_iff.mp h.price_notInf),
      if_neg hneg, if_neg (Bool.eq_false_iff.mp hzero),
      if_neg (Bool.eq_false_iff.mp h.quantity_notNaN),
      if_neg (Bool.eq_false_iff.mp h.quantity_notInf), if_neg h.quantity_nonneg]

theorem validateLevels_eq_none_iff {side : String} {idx : Nat} {ls : List Level} :
    validateLevels side idx ls = none ↔ ∀ l ∈ ls, l.Valid := by
  induction ls generalizing idx with
  | nil => simp [validateLevels]
  | cons l ls ih =>
    have hhead : validateLevel side idx l = none ↔ l.Valid := validateLevel_eq_none_iff
    rw [validateLevels, List.forall_mem_cons, ← hhead]
    cases validateLevel side idx l with
    | none => simp [ih]
    | some p => simp

/-- An update that does not delete can be stored. -/
theorem Level.Valid.stored
    {l : Level} (h : l.Valid) (hquantity : ¬ (l.quantity == 0) = true) : l.Stored :=
  ⟨h, lt_of_not_lt_of_not_beq h.quantity_notNaN zero_notNaN h.quantity_nonneg
    (by simpa using hquantity)⟩

/-- The prices that the trees compare. -/
def Priced (l : Level) : Prop := l.price.isNaN = false

theorem compares_bidLess : Compares Priced Level.bidKey bidLess := by
  intro a b ha hb
  rw [bidLess, decide_eq_true_iff, lt_iff_rank hb ha]
  rfl

theorem compares_askLess : Compares Priced Level.askKey askLess := by
  intro a b ha hb
  rw [askLess, decide_eq_true_iff, lt_iff_rank ha hb]
  rfl

/-! ## One side of the book -/

universe u

/-- A side whose levels may be stored, in the order of the key. -/
structure Side {κ : Type u} [LinearOrder κ] (key : Level → κ) (tree : List Level) : Prop where
  ascending : Ascending key tree
  stored : ∀ l ∈ tree, l.Stored

section Side

variable {κ : Type u} [LinearOrder κ] {key : Level → κ} {less : Level → Level → Bool}
  {tree : List Level}

theorem side_nil : Side key [] := ⟨.nil, by simp⟩

theorem Side.priced (h : Side key tree) : ∀ l ∈ tree, Priced l :=
  fun l hl => (h.stored l hl).price_notNaN

theorem Side.sublist
    {tree' : List Level} (h : Side key tree) (hsub : tree'.Sublist tree) : Side key tree' :=
  ⟨h.ascending.sublist hsub, fun l hl => h.stored l (hsub.subset hl)⟩

theorem Side.applyUpdate
    {u : Level} (hless : Compares Priced key less) (h : Side key tree) (hu : u.Valid) :
    Side key (applyUpdate less tree u) := by
  unfold Aggregation.applyUpdate
  split_ifs with hzero
  · exact h.sublist delete_sublist
  · exact ⟨ascending_replaceOrInsert hless hu.price_notNaN h.priced h.ascending,
      forall_mem_replaceOrInsert (hu.stored hzero) h.stored⟩

theorem Side.applySideUpdates
    {updates : List Level} (hless : Compares Priced key less) (h : Side key tree)
    (hupdates : ∀ u ∈ updates, u.Valid) : Side key (applySideUpdates less tree updates) := by
  induction updates generalizing tree with
  | nil => exact h
  | cons u us ih =>
    obtain ⟨hu, hus⟩ := List.forall_mem_cons.mp hupdates
    exact ih (h.applyUpdate hless hu) hus

/-- Pruning keeps the first levels. -/
theorem Side.pruneTree_eq (hless : Compares Priced key less) (h : Side key tree) (maxLevels : Int) :
    pruneTree less tree maxLevels =
      (tree.take maxLevels.toNat, tree.length - (tree.take maxLevels.toNat).length) := by
  have hkept := h.sublist (List.take_sublist maxLevels.toNat tree)
  have hfold : (tree.take maxLevels.toNat).foldl
      (fun tree node => replaceOrInsert less node tree) [] = tree.take maxLevels.toNat :=
    foldl_replaceOrInsert (l := []) hless hkept.priced hkept.ascending
  unfold pruneTree
  split_ifs
  · rw [List.take_of_length_le (by omega), Nat.sub_self]
  · simp only [hfold]

end Side

/-! ## The whole book -/

namespace OrderBook

variable {b : OrderBook}

/-- What an update can do to the book. -/
inductive Outcome (b : OrderBook) (u : Update) : OrderBook → Prop where
  | rejected : Outcome b u b
  | applied
      (hbids : ∀ l ∈ u.bids, l.Valid) (hasks : ∀ l ∈ u.asks, l.Valid)
      (hspread : (applyLevels u.bids u.asks u.isSnapshot b).checkSpread = none) :
      Outcome b u
        { applyLevels u.bids u.asks u.isSnapshot b with state := .healthy, lastSeq := u.seq }
  | crossed
      (p : Problem)
      (hspread : (applyLevels u.bids u.asks u.isSnapshot b).checkSpread = some p) :
      Outcome b u
        { applyLevels u.bids u.asks u.isSnapshot b with
          state := .needsResync
          lastSeq := u.seq
          events := b.events ++ [⟨b.id, u.seq, (p.format, p.args)⟩]
          bids := []
          asks := [] }

@[simp] theorem prune_frame :
    b.prune.id = b.id ∧ b.prune.limits = b.limits ∧ b.prune.events = b.events := by
  unfold prune
  split_ifs
  · exact ⟨rfl, rfl, rfl⟩
  · exact ⟨rfl, rfl, rfl⟩

theorem applyLevels_frame (bids asks : List Level) (isSnapshot : Bool) :
    (applyLevels bids asks isSnapshot b).id = b.id ∧
      (applyLevels bids asks isSnapshot b).limits = b.limits ∧
      (applyLevels bids asks isSnapshot b).events = b.events :=
  prune_frame

theorem step_outcome (b : OrderBook) (u : Update) : Outcome b u (step b u) := by
  have hpost : Post (fun _ b' => Outcome b u b') (fun _ b' => Outcome b u b')
      (applyDelta u.seq u.bids u.asks u.isSnapshot b) := by
    unfold applyDelta
    refine Post.check (fun _ _ => .rejected) fun _ => ?_
    rw [get_bind_apply]
    refine Post.check (fun _ _ => .rejected) fun _ => ?_
    refine Post.check (fun _ _ => .rejected) fun hbids => ?_
    refine Post.check (fun _ _ => .rejected) fun hasks => ?_
    rw [modify_bind_apply, get_bind_apply]
    obtain ⟨hid, -, hevents⟩ := applyLevels_frame (b := b) u.bids u.asks u.isSnapshot
    cases hspread : (applyLevels u.bids u.asks u.isSnapshot b).checkSpread with
    | none =>
      exact .ok (.applied (validateLevels_eq_none_iff.mp hbids)
        (validateLevels_eq_none_iff.mp hasks) hspread)
    | some p =>
      have hcrossed := Outcome.crossed p hspread
      rw [← hid, ← hevents] at hcrossed
      exact .error hcrossed
  exact hpost.state

/-- The invariant of the book. -/
structure WellFormed (b : OrderBook) : Prop where
  bids : Side Level.bidKey b.bids
  asks : Side Level.askKey b.asks
  bounded : b.limits.isBounded = true →
    b.bids.length ≤ b.limits.maxLevelsPerSide ∧ b.asks.length ≤ b.limits.maxLevelsPerSide
  uncrossed : ∀ bid ∈ b.bestBid, ∀ ask ∈ b.bestAsk, bid.price < ask.price
  resync : b.state = .needsResync → b.bids = [] ∧ b.asks = []

theorem prune_sides (hbids : Side Level.bidKey b.bids) (hasks : Side Level.askKey b.asks) :
    Side Level.bidKey b.prune.bids ∧ Side Level.askKey b.prune.asks ∧
      (b.limits.isBounded = true →
        b.prune.bids.length ≤ b.limits.maxLevelsPerSide ∧
        b.prune.asks.length ≤ b.limits.maxLevelsPerSide) := by
  unfold prune
  split_ifs with hbounded
  · have hpos : 0 < b.limits.maxLevelsPerSide := by
      simpa [OrderBookLimitsPolicy.isBounded] using hbounded
    simp only [hbids.pruneTree_eq compares_bidLess, hasks.pruneTree_eq compares_askLess]
    refine ⟨hbids.sublist (List.take_sublist _ _), hasks.sublist (List.take_sublist _ _), ?_⟩
    intro _
    simp only [List.length_take]
    omega
  · exact ⟨hbids, hasks, fun h => absurd h hbounded⟩

/-- The levels of an accepted update. -/
theorem applyLevels_sides {bids asks : List Level} (h : WellFormed b) (hbids : ∀ l ∈ bids, l.Valid)
    (hasks : ∀ l ∈ asks, l.Valid) (isSnapshot : Bool) :
    Side Level.bidKey (applyLevels bids asks isSnapshot b).bids ∧
      Side Level.askKey (applyLevels bids asks isSnapshot b).asks ∧
      (b.limits.isBounded = true →
        (applyLevels bids asks isSnapshot b).bids.length ≤ b.limits.maxLevelsPerSide ∧
        (applyLevels bids asks isSnapshot b).asks.length ≤ b.limits.maxLevelsPerSide) := by
  have hstartBids : Side Level.bidKey (if isSnapshot then [] else b.bids) := by
    split_ifs
    · exact side_nil
    · exact h.bids
  have hstartAsks : Side Level.askKey (if isSnapshot then [] else b.asks) := by
    split_ifs
    · exact side_nil
    · exact h.asks
  exact prune_sides (hstartBids.applySideUpdates compares_bidLess hbids)
    (hstartAsks.applySideUpdates compares_askLess hasks)

/-- The spread check passes only for an uncrossed book. -/
theorem uncrossed_of_checkSpread
    (hbids : Side Level.bidKey b.bids) (hasks : Side Level.askKey b.asks)
    (h : b.checkSpread = none) : ∀ bid ∈ b.bestBid, ∀ ask ∈ b.bestAsk, bid.price < ask.price := by
  intro bid hbid ask hask
  have hb : bid.price.isNaN = false := hbids.priced bid (List.mem_of_mem_head? hbid)
  have ha : ask.price.isNaN = false := hasks.priced ask (List.mem_of_mem_head? hask)
  rw [checkSpread, hbid, hask] at h
  dsimp only at h
  split_ifs at h with hcrossed
  rw [le_iff_rank ha hb, not_le] at hcrossed
  exact (lt_iff_rank hb ha).mpr hcrossed

theorem WellFormed.step (h : WellFormed b) (u : Update) : WellFormed (OrderBook.step b u) := by
  have houtcome := step_outcome b u
  generalize OrderBook.step b u = b' at houtcome ⊢
  cases houtcome with
  | rejected => exact h
  | applied hbids hasks hspread =>
    obtain ⟨hsideBids, hsideAsks, hbounded⟩ := applyLevels_sides h hbids hasks u.isSnapshot
    refine ⟨hsideBids, hsideAsks, ?_, uncrossed_of_checkSpread hsideBids hsideAsks hspread, ?_⟩
    · rw [(applyLevels_frame u.bids u.asks u.isSnapshot).2.1]
      exact hbounded
    · intro hstate
      cases hstate
  | crossed p _ =>
    refine ⟨side_nil, side_nil, fun hbounded => ?_, by simp [bestBid], fun _ => ⟨rfl, rfl⟩⟩
    have hpos : 0 < (applyLevels u.bids u.asks u.isSnapshot b).limits.maxLevelsPerSide := by
      simpa [OrderBookLimitsPolicy.isBounded] using hbounded
    exact ⟨hpos.le, hpos.le⟩

theorem wellFormed_create {venue instrument : String} {limits : OrderBookLimitsPolicy}
    (h : create venue instrument limits = .ok b) : WellFormed b ∧ b.limits = limits := by
  unfold create at h
  split at h
  · cases h
  · cases h
    refine ⟨⟨side_nil, side_nil, fun hbounded => ?_, by simp [bestBid], fun h => nomatch h⟩, rfl⟩
    have hpos : 0 < limits.maxLevelsPerSide := by
      simpa [OrderBookLimitsPolicy.isBounded] using hbounded
    exact ⟨hpos.le, hpos.le⟩

theorem limits_step (u : Update) : (step b u).limits = b.limits := by
  have houtcome := step_outcome b u
  generalize step b u = b' at houtcome ⊢
  cases houtcome with
  | rejected => rfl
  | applied => exact (applyLevels_frame u.bids u.asks u.isSnapshot).2.1
  | crossed => exact (applyLevels_frame u.bids u.asks u.isSnapshot).2.1

/-- The properties of a book that its readers rely on. -/
structure Consistent (limits : OrderBookLimitsPolicy) (b : OrderBook) : Prop where
  bids_descending : b.bids.Pairwise fun x y => y.price < x.price
  asks_ascending : b.asks.Pairwise fun x y => x.price < y.price
  positive : ∀ l ∈ b.bids ++ b.asks, 0 < l.price ∧ 0 < l.quantity
  bounded : limits.isBounded = true →
    b.bids.length ≤ limits.maxLevelsPerSide ∧ b.asks.length ≤ limits.maxLevelsPerSide
  uncrossed : ∀ bid ∈ b.bestBid, ∀ ask ∈ b.bestAsk, bid.price < ask.price
  resync : b.state = .needsResync → b.bids = [] ∧ b.asks = []

theorem WellFormed.consistent (h : WellFormed b) : Consistent b.limits b := by
  refine ⟨?_, ?_, ?_, h.bounded, h.uncrossed, h.resync⟩
  · refine h.bids.ascending.imp_of_mem fun {x y} hx hy hlt => ?_
    exact (lt_iff_rank (h.bids.priced y hy) (h.bids.priced x hx)).mpr hlt
  · refine h.asks.ascending.imp_of_mem fun {x y} hx hy hlt => ?_
    exact (lt_iff_rank (h.asks.priced x hx) (h.asks.priced y hy)).mpr hlt
  · intro l hl
    rcases List.mem_append.mp hl with hl | hl
    · exact ⟨(h.bids.stored l hl).price_pos, (h.bids.stored l hl).quantity_pos⟩
    · exact ⟨(h.asks.stored l hl).price_pos, (h.asks.stored l hl).quantity_pos⟩

/-- Every book reached by deltas and snapshots, accepted or not, is consistent. -/
theorem reachable_consistent
    (venue instrument : String) (limits : OrderBookLimitsPolicy) (book : OrderBook)
    (hcreate : create venue instrument limits = .ok book) (updates : List Update) :
    Consistent limits (run step book updates) := by
  obtain ⟨hbook, hlimits⟩ := wellFormed_create hcreate
  have hinv : WellFormed (run step book updates) ∧
      (run step book updates).limits = limits :=
    invariant (I := fun b => WellFormed b ∧ b.limits = limits)
      (fun b u h => ⟨h.1.step u, (limits_step u).trans h.2⟩) ⟨hbook, hlimits⟩ updates
  rw [← hinv.2]
  exact hinv.1.consistent

/--
A book with one level per side: the second delta leaves the best levels, and the
third one crosses the book.
-/
theorem reachable_consistent_sample : let start : OrderBook :=
      { id := ⟨"binance", "BTC"⟩, lastSeq := 0, bids := [], asks := [], limits := ⟨1⟩,
        lastPrunedLevels := 0, state := .healthy, events := [] }
    let updates : List Update :=
      [⟨1, [⟨10, 1⟩, ⟨11, 2⟩], [⟨13, 1⟩], false⟩, ⟨2, [], [⟨12, 1⟩], false⟩]
    Consistent ⟨1⟩ (run step start updates) ∧
      (run step start updates).bids = [⟨11, 2⟩] ∧
      (run step start updates).asks = [⟨12, 1⟩] ∧
      (run step start (updates ++ [⟨3, [⟨12, 5⟩], [], false⟩])).state = .needsResync := by
  refine ⟨reachable_consistent "binance" "BTC" ⟨1⟩ _ (by decide) _, ?_⟩
  decide +kernel

end OrderBook

end Aggregation
end StreamAnalytics
