import StreamAnalytics.Lib.OrderedMap
import StreamAnalytics.Aggregation.OrderBookInvariant

/-!
# The order book as a pair of price maps

The purpose of a side of the book is a map from prices to levels: an update writes its
level at its price, or clears the price if its quantity is zero.  A call that passes the
checks on its sequence number and its levels writes its updates from left to right and
keeps the best levels of the resulting map; a call that fails them changes nothing.
Updates with distinct prices can be written in any order (`applyDelta_spec`).
-/

namespace StreamAnalytics
namespace Aggregation

open OrderedList Binary64 Validation Runs

universe u

/-! ## Price maps -/

section PriceMaps

variable {κ : Type u} [LinearOrder κ] {key : Level → κ} {less : Level → Level → Bool}
  {tree updates updates' : List Level} {m : κ → Option Level}

/-- Writes an update at its price; a zero quantity clears the price. -/
def writeLevel (key : Level → κ) (m : κ → Option Level) (u : Level) : κ → Option Level :=
  Function.update m (key u) (if u.quantity == 0 then none else some u)

/-- Writes updates from left to right. -/
def writeLevels (key : Level → κ) (m : κ → Option Level) (updates : List Level) :
    κ → Option Level :=
  updates.foldl (writeLevel key) m

/-- The levels of a map in the order of the key. -/
structure Listing (key : Level → κ) (m : κ → Option Level) (levels : List Level) : Prop where
  ascending : Ascending key levels
  contents : contents key levels = m

/-- The prices of updates are pairwise different. -/
def DistinctPrices (updates : List Level) : Prop :=
  updates.Pairwise fun u v => (u.price == v.price) = false

/-- The key of a level is the order of its price. -/
structure ByPrice (key : Level → κ) (less : Level → Level → Bool) : Prop where
  compares : Compares Priced key less
  price : ∀ l l' : Level, rank l.price = rank l'.price ↔ key l = key l'

theorem byPrice_bidKey : ByPrice Level.bidKey bidLess :=
  ⟨compares_bidLess, fun _ _ => OrderDual.toDual_inj.symm⟩

theorem byPrice_askKey : ByPrice Level.askKey askLess := ⟨compares_askLess, fun _ _ => Iff.rfl⟩

/-- One iteration of `applySideUpdates` writes to the map. -/
theorem Side.contents_applyUpdate
    {u : Level} (hkey : ByPrice key less) (h : Side key tree) (hu : u.Valid) :
    contents key (Aggregation.applyUpdate less tree u) = writeLevel key (contents key tree) u := by
  unfold Aggregation.applyUpdate writeLevel
  split_ifs
  · have hprice : key ⟨u.price, 0⟩ = key u := (hkey.price _ _).mp rfl
    rw [← hprice]
    exact contents_delete hkey.compares hu.price_notNaN h.priced h.ascending
  · exact contents_replaceOrInsert hkey.compares hu.price_notNaN h.priced h.ascending

/-- `applySideUpdates` lists the written map. -/
theorem Side.listing_applySideUpdates
    (hkey : ByPrice key less) (h : Side key tree) (hupdates : ∀ u ∈ updates, u.Valid) :
    Listing key (writeLevels key (contents key tree) updates)
      (Aggregation.applySideUpdates less tree updates) := by
  refine ⟨(h.applySideUpdates hkey.compares hupdates).ascending, ?_⟩
  induction updates generalizing tree with
  | nil => rfl
  | cons u us ih =>
    obtain ⟨hu, hus⟩ := List.forall_mem_cons.mp hupdates
    have hrest := ih (h.applyUpdate hkey.compares hu) hus
    rw [h.contents_applyUpdate hkey hu] at hrest
    exact hrest

/-- Valid updates with distinct prices have distinct keys. -/
theorem DistinctPrices.key_ne (hdistinct : DistinctPrices updates) (hkey : ByPrice key less)
    (hupdates : ∀ u ∈ updates, u.Valid) : updates.Pairwise fun u v => key u ≠ key v := by
  refine hdistinct.imp_of_mem fun {u v} hu hv hne => ?_
  rw [ne_eq, ← hkey.price, ← beq_iff_rank (hupdates u hu).price_notNaN
    (hupdates v hv).price_notNaN, hne]
  simp

/-- Updates with distinct prices write the same map in any order. -/
theorem writeLevels_perm
    (hdistinct : updates.Pairwise fun u v => key u ≠ key v) (hperm : updates.Perm updates') :
    writeLevels key m updates = writeLevels key m updates' := by
  refine List.Perm.foldl_eq' hperm (fun u hu v hv m => ?_) m
  by_cases heq : u = v
  · rw [heq]
  · have hsymm : Std.Symm fun u v : Level => key u ≠ key v := ⟨fun _ _ h => h.symm⟩
    exact Function.update_comm (hdistinct.forall hu hv heq) _ _ m

theorem Side.applySideUpdates_perm
    (hkey : ByPrice key less) (h : Side key tree) (hupdates : ∀ u ∈ updates, u.Valid)
    (hdistinct : DistinctPrices updates) (hperm : updates.Perm updates') :
    Aggregation.applySideUpdates less tree updates =
      Aggregation.applySideUpdates less tree updates' := by
  have hlist := h.listing_applySideUpdates hkey hupdates
  have hupdates' : ∀ u ∈ updates', u.Valid := fun u hu => hupdates u (hperm.mem_iff.mpr hu)
  have hlist' := h.listing_applySideUpdates hkey hupdates'
  refine hlist.ascending.ext hlist'.ascending fun k => ?_
  rw [hlist.contents, hlist'.contents, writeLevels_perm (hdistinct.key_ne hkey hupdates) hperm]

end PriceMaps

/-! ## Calls -/

namespace OrderBook

variable {b : OrderBook} {u : Update}

/-- The first levels of a side, or all of them without a limit. -/
def keep (limits : OrderBookLimitsPolicy) (levels : List Level) : List Level :=
  if limits.isBounded then levels.take limits.maxLevelsPerSide.toNat else levels

/-- The checks of `applyDelta` on the sequence number and on the levels. -/
def updateCheck (b : OrderBook) (u : Update) : Option Problem :=
  collect
    [positiveInt "seq" u.seq,
      Problem.when (u.seq ≤ b.lastSeq ∧ u.isSnapshot = false)
        (((Problem.newf .outOfOrder "seq %d is not greater than last seq %d"
          [.int u.seq, .int b.lastSeq]).withDetail "seq" (.int u.seq)).withDetail
            "last_seq" (.int b.lastSeq)),
      validateLevels "bid" 0 u.bids,
      validateLevels "ask" 0 u.asks]

/-- The end of `applyDelta`: a crossed book is cleared. -/
def settle (seq : Int) (b : OrderBook) : OrderBook × Except Problem Unit :=
  match b.checkSpread with
  | some p =>
    ({ b with
        state := .needsResync
        lastSeq := seq
        events := b.events ++ [⟨b.id, seq, (p.format, p.args)⟩]
        bids := []
        asks := [] }, .error p)
  | none => ({ b with state := .healthy, lastSeq := seq }, .ok ⟨⟩)

/-- A call checks, writes and settles. -/
theorem applyDelta_eq (b : OrderBook) (u : Update) :
    applyDelta u.seq u.bids u.asks u.isSnapshot b =
      match updateCheck b u with
      | some p => (b, .error p)
      | none => settle u.seq (applyLevels u.bids u.asks u.isSnapshot b) := by
  unfold applyDelta updateCheck
  simp only [Prog.check_bind_apply, Prog.get_bind_apply, Prog.modify_bind_apply]
  generalize positiveInt "seq" u.seq = seqCheck
  generalize Problem.when (u.seq ≤ b.lastSeq ∧ u.isSnapshot = false) _ = orderCheck
  generalize validateLevels "bid" 0 u.bids = bidCheck
  generalize validateLevels "ask" 0 u.asks = askCheck
  cases seqCheck with
  | some p => rfl
  | none =>
    cases orderCheck with
    | some p => rfl
    | none =>
      cases bidCheck with
      | some p => rfl
      | none =>
        cases askCheck with
        | some p => rfl
        | none =>
          change _ = settle u.seq (applyLevels u.bids u.asks u.isSnapshot b)
          unfold settle
          cases (applyLevels u.bids u.asks u.isSnapshot b).checkSpread with
          | some p => rfl
          | none => rfl

/-- The calls that the checks let through. -/
structure Checked (b : OrderBook) (u : Update) : Prop where
  seq_pos : 0 < u.seq
  seq_gt : u.isSnapshot = false → b.lastSeq < u.seq
  bids : ∀ l ∈ u.bids, l.Valid
  asks : ∀ l ∈ u.asks, l.Valid

theorem updateCheck_eq_none_iff : updateCheck b u = none ↔ Checked b u := by
  simp only [updateCheck, collect_eq_none, List.mem_cons, List.not_mem_nil, or_false,
    forall_eq_or_imp, forall_eq, positiveInt_eq_none, Problem.when_eq_none,
    validateLevels_eq_none_iff, not_and, Bool.not_eq_false]
  constructor
  · rintro ⟨hpos, horder, hbids, hasks⟩
    refine ⟨hpos, fun hdelta => ?_, hbids, hasks⟩
    by_contra hle
    rw [hdelta] at horder
    exact Bool.false_ne_true (horder (by omega))
  · rintro ⟨hpos, horder, hbids, hasks⟩
    refine ⟨hpos, fun hle => ?_, hbids, hasks⟩
    by_contra hdelta
    have hlt := horder (by simpa using hdelta)
    omega

theorem code_of_settle
    {seq : Int} {b' : OrderBook} {p : Problem} (h : settle seq b = (b', .error p)) :
    p.code = .integrityViolation := by
  unfold settle at h
  cases hspread : b.checkSpread with
  | none =>
    rw [hspread] at h
    cases h
  | some q =>
    rw [hspread] at h
    cases h
    unfold checkSpread at hspread
    split at hspread
    · split_ifs at hspread
      cases hspread
      rfl
    · cases hspread

/-- The books that can be reached; reading the pending events clears them. -/
inductive Reached : OrderBook → Prop where
  | create {venue instrument : String} {limits : OrderBookLimitsPolicy} {b : OrderBook} :
      create venue instrument limits = .ok b → Reached b
  | step {b : OrderBook} (u : Update) : Reached b → Reached (step b u)
  | pullDomainEvents {b : OrderBook} : Reached b → Reached { b with events := [] }

theorem Reached.wellFormed (h : Reached b) : WellFormed b := by
  induction h with
  | create hcreate => exact (wellFormed_create hcreate).1
  | step u _ ih => exact ih.step u
  | pullDomainEvents _ ih => exact ⟨ih.bids, ih.asks, ih.bounded, ih.uncrossed, ih.resync⟩

/-- What a call that succeeds does: it keeps the best levels of the written maps, and
counts the others. -/
def Applied (b : OrderBook) (u : Update) (b' : OrderBook) : Prop :=
  ∃ bids asks,
    Listing Level.bidKey
      (writeLevels Level.bidKey (contents Level.bidKey (if u.isSnapshot then [] else b.bids)) u.bids)
      bids ∧
    Listing Level.askKey
      (writeLevels Level.askKey (contents Level.askKey (if u.isSnapshot then [] else b.asks)) u.asks)
      asks ∧
    b' = { b with
      bids := keep b.limits bids
      asks := keep b.limits asks
      lastPrunedLevels := (bids.length - (keep b.limits bids).length) +
        (asks.length - (keep b.limits asks).length)
      state := .healthy
      lastSeq := u.seq }

theorem prune_eq (hbids : Side Level.bidKey b.bids) (hasks : Side Level.askKey b.asks) :
    b.prune =
      { b with
        bids := keep b.limits b.bids
        asks := keep b.limits b.asks
        lastPrunedLevels := (b.bids.length - (keep b.limits b.bids).length) +
          (b.asks.length - (keep b.limits b.asks).length) } := by
  unfold prune keep
  split_ifs
  · simp only [hbids.pruneTree_eq compares_bidLess, hasks.pruneTree_eq compares_askLess]
  · simp only [Nat.sub_self]

theorem WellFormed.start (h : WellFormed b) (isSnapshot : Bool) :
    Side Level.bidKey (if isSnapshot then [] else b.bids) ∧
      Side Level.askKey (if isSnapshot then [] else b.asks) := by
  split_ifs
  · exact ⟨side_nil, side_nil⟩
  · exact ⟨h.bids, h.asks⟩

theorem WellFormed.applied (h : WellFormed b) (hchecked : Checked b u) {b' : OrderBook}
    (hsettle : settle u.seq (applyLevels u.bids u.asks u.isSnapshot b) = (b', .ok ⟨⟩)) :
    Applied b u b' := by
  obtain ⟨hstartBids, hstartAsks⟩ := h.start u.isSnapshot
  have hbids := hstartBids.applySideUpdates compares_bidLess hchecked.bids
  have hasks := hstartAsks.applySideUpdates compares_askLess hchecked.asks
  refine ⟨_, _, hstartBids.listing_applySideUpdates byPrice_bidKey hchecked.bids,
    hstartAsks.listing_applySideUpdates byPrice_askKey hchecked.asks, ?_⟩
  unfold settle at hsettle
  cases hspread : (applyLevels u.bids u.asks u.isSnapshot b).checkSpread with
  | some p =>
    rw [hspread] at hsettle
    cases hsettle
  | none =>
    rw [hspread] at hsettle
    obtain rfl := (congrArg Prod.fst hsettle).symm
    unfold applyLevels
    rw [prune_eq hbids hasks]

/-- The checks do not depend on the order of the levels. -/
theorem Checked.perm (h : Checked b u) {bids asks : List Level} (hbids : u.bids.Perm bids)
    (hasks : u.asks.Perm asks) : Checked b ⟨u.seq, bids, asks, u.isSnapshot⟩ :=
  ⟨h.seq_pos, h.seq_gt, fun l hl => h.bids l (hbids.mem_iff.mpr hl),
    fun l hl => h.asks l (hasks.mem_iff.mpr hl)⟩

theorem step_of_checked
    (h : Checked b u) : step b u = (settle u.seq (applyLevels u.bids u.asks u.isSnapshot b)).1 := by
  unfold step
  rw [applyDelta_eq, updateCheck_eq_none_iff.mpr h]

theorem step_of_not_checked (h : ¬ Checked b u) : step b u = b := by
  obtain ⟨p, hp⟩ := Option.ne_none_iff_exists'.mp (mt updateCheck_eq_none_iff.mp h)
  unfold step
  rw [applyDelta_eq, hp]

/-- Distinct prices can be given in any order. -/
theorem WellFormed.step_perm (h : WellFormed b) {bids asks : List Level} (hbids : u.bids.Perm bids)
    (hasks : u.asks.Perm asks) (hdistinctBids : DistinctPrices u.bids)
    (hdistinctAsks : DistinctPrices u.asks) :
    OrderBook.step b ⟨u.seq, bids, asks, u.isSnapshot⟩ = OrderBook.step b u := by
  by_cases hchecked : Checked b u
  · obtain ⟨hstartBids, hstartAsks⟩ := h.start u.isSnapshot
    rw [step_of_checked hchecked, step_of_checked (hchecked.perm hbids hasks)]
    unfold applyLevels
    rw [hstartBids.applySideUpdates_perm byPrice_bidKey hchecked.bids hdistinctBids hbids,
      hstartAsks.applySideUpdates_perm byPrice_askKey hchecked.asks hdistinctAsks hasks]
  · have hchecked' : ¬ Checked b ⟨u.seq, bids, asks, u.isSnapshot⟩ := fun hchecked' =>
      hchecked (hchecked'.perm hbids.symm hasks.symm)
    rw [step_of_not_checked hchecked, step_of_not_checked hchecked']

/-- A rejected call changes nothing, a successful one writes its updates to the price maps
and keeps their best levels, and updates with distinct prices can be given in any order. -/
theorem applyDelta_spec (b : OrderBook) (hreached : Reached b) (u : Update) :
    (¬ Checked b u →
      ∃ p, applyDelta u.seq u.bids u.asks u.isSnapshot b = (b, .error p)) ∧
    (∀ b' p, applyDelta u.seq u.bids u.asks u.isSnapshot b = (b', .error p) →
      p.code ≠ .integrityViolation → b' = b) ∧
    (∀ b', applyDelta u.seq u.bids u.asks u.isSnapshot b = (b', .ok ⟨⟩) → Applied b u b') ∧
    (∀ bids asks, u.bids.Perm bids → u.asks.Perm asks →
      DistinctPrices u.bids → DistinctPrices u.asks →
      (step b ⟨u.seq, bids, asks, u.isSnapshot⟩).bids = (step b u).bids ∧
        (step b ⟨u.seq, bids, asks, u.isSnapshot⟩).asks = (step b u).asks) := by
  have hwell := hreached.wellFormed
  refine ⟨?_, ?_, ?_, ?_⟩
  · intro hchecked
    obtain ⟨p, hp⟩ := Option.ne_none_iff_exists'.mp (mt updateCheck_eq_none_iff.mp hchecked)
    rw [applyDelta_eq, hp]
    exact ⟨p, rfl⟩
  · intro b' p h hcode
    rw [applyDelta_eq] at h
    cases hcheck : updateCheck b u with
    | some q =>
      rw [hcheck] at h
      exact (congrArg Prod.fst h).symm
    | none =>
      rw [hcheck] at h
      exact absurd (code_of_settle h) hcode
  · intro b' h
    rw [applyDelta_eq] at h
    cases hcheck : updateCheck b u with
    | some q =>
      rw [hcheck] at h
      cases h
    | none =>
      rw [hcheck] at h
      exact hwell.applied (updateCheck_eq_none_iff.mp hcheck) h
  · intro bids asks hbids hasks hdistinctBids hdistinctAsks
    rw [hwell.step_perm hbids hasks hdistinctBids hdistinctAsks]
    exact ⟨rfl, rfl⟩

/-- An empty book with two levels per side. -/
def emptyBook : OrderBook :=
  { id := ⟨"binance", "BTC"⟩, lastSeq := 0, bids := [], asks := [], limits := ⟨2⟩,
    lastPrunedLevels := 0, state := .healthy, events := [] }

/-- The third bid is dropped and the deleted one is not stored. -/
theorem applyDelta_spec_emptyBook :
    ∃ b', Applied emptyBook ⟨1, [⟨9, 1⟩, ⟨10, 1⟩, ⟨12, 4⟩, ⟨11, 2⟩, ⟨12, 0⟩], [⟨13, 1⟩], false⟩ b' ∧
      b'.bids = [⟨11, 2⟩, ⟨10, 1⟩] ∧ b'.lastPrunedLevels = 1 := by
  have hreached : Reached emptyBook := .create (show create "binance" "BTC" ⟨2⟩ = _ by decide)
  have hstep := applyDelta_spec emptyBook hreached
    ⟨1, [⟨9, 1⟩, ⟨10, 1⟩, ⟨12, 4⟩, ⟨11, 2⟩, ⟨12, 0⟩], [⟨13, 1⟩], false⟩
  exact ⟨_, hstep.2.2.1 _ (by rfl), by decide +kernel, by decide +kernel⟩

/-! ## Redelivery and resync -/

/-- A delta is not accepted twice, and the number of the book never decreases. -/
theorem step_delta (b : OrderBook) (hdelta : u.isSnapshot = false) :
    b.lastSeq ≤ (step b u).lastSeq ∧ ¬ Checked (step b u) u := by
  by_cases hu : Checked b u
  · have hseq : (step b u).lastSeq = u.seq := by
      rw [step_of_checked hu]
      unfold settle
      split <;> rfl
    rw [hseq]
    exact ⟨(hu.seq_gt hdelta).le, fun h => (hseq ▸ h.seq_gt hdelta).false⟩
  · rw [step_of_not_checked hu]
    exact ⟨le_rfl, hu⟩

/-- A delta that is delivered again, after any other deltas, changes nothing. -/
theorem redelivered_delta (b : OrderBook) (us : List Update)
    (hdeltas : ∀ u ∈ us, u.isSnapshot = false) (hu : u ∈ us) :
    step (run step b us) u = run step b us := by
  refine step_of_not_checked ?_
  induction us using List.reverseRecOn with
  | nil => cases hu
  | append_singleton us last ih =>
    obtain ⟨hus, hlast⟩ := List.forall_mem_append.mp hdeltas
    obtain ⟨hle, hself⟩ := step_delta (run step b us) (hlast last List.mem_cons_self)
    rw [run_append]
    obtain hu | hu := List.mem_append.mp hu
    · refine fun h => ih hus hu ⟨h.seq_pos, fun hdelta => ?_, h.bids, h.asks⟩
      exact hle.trans_lt (h.seq_gt hdelta)
    · rw [List.mem_singleton.mp hu]
      exact hself

theorem redelivered_first :
    let us : List Update := [⟨1, [⟨9, 1⟩], [], false⟩, ⟨2, [], [], false⟩]
    step (run step emptyBook us) ⟨1, [⟨9, 1⟩], [], false⟩ = run step emptyBook us :=
  redelivered_delta _ _ (by decide) (.head _)

/-- Books that differ at most in their pending events and pruned levels. -/
structure SameBook (b b' : OrderBook) : Prop where
  id : b'.id = b.id
  limits : b'.limits = b.limits
  lastSeq : b'.lastSeq = b.lastSeq
  bids : b'.bids = b.bids
  asks : b'.asks = b.asks
  state : b'.state = b.state

/-- A snapshot does not depend on the levels, the number and the state before it. -/
theorem sameBook_step {b' : OrderBook} (hid : b'.id = b.id) (hlimits : b'.limits = b.limits)
    (hu : Checked b u) (h : u.isSnapshot = true ∨ SameBook b b') :
    SameBook (step b u) (step b' u) := by
  have hu' : Checked b' u := by
    refine ⟨hu.seq_pos, fun hdelta => ?_, hu.bids, hu.asks⟩
    have hsame := h.resolve_left (Bool.eq_false_iff.mp hdelta)
    exact hsame.lastSeq ▸ hu.seq_gt hdelta
  have hstart : (if u.isSnapshot then [] else b'.bids) = (if u.isSnapshot then [] else b.bids) ∧
      (if u.isSnapshot then [] else b'.asks) = if u.isSnapshot then [] else b.asks := by
    obtain h | h := h
    · simp [h]
    · rw [h.bids, h.asks]
      exact ⟨rfl, rfl⟩
  rw [step_of_checked hu, step_of_checked hu']
  unfold applyLevels prune settle checkSpread
  dsimp only
  rw [hstart.1, hstart.2, hlimits]
  split_ifs
  all_goals
    dsimp only [bestBid, bestAsk]
    split <;> exact ⟨hid, rfl, rfl, rfl, rfl, rfl⟩

/-- Any two books of an instrument with the same limits agree after a valid snapshot, and after
all further updates. -/
theorem agree_after_snapshot {b' : OrderBook} (hid : b'.id = b.id) (hlimits : b'.limits = b.limits)
    (hsnapshot : u.isSnapshot = true) (hu : Checked b u) (us : List Update) :
    SameBook (run step b (u :: us)) (run step b' (u :: us)) := by
  have hstart := sameBook_step hid hlimits hu (.inl hsnapshot)
  rw [run_cons, run_cons]
  generalize step b u = b at hstart
  generalize step b' u = b' at hstart
  induction us generalizing b b' with
  | nil => exact hstart
  | cons u us ih =>
    refine ih _ _ ?_
    by_cases hu : Checked b u
    · exact sameBook_step hstart.id hstart.limits hu (.inr hstart)
    · have hu' : ¬ Checked b' u := fun h => hu ⟨h.1, hstart.lastSeq ▸ h.2, h.3, h.4⟩
      rw [step_of_not_checked hu, step_of_not_checked hu']
      exact hstart

theorem agree_after_snapshot_emptyBook : let us : List Update := [⟨1, [⟨10, 1⟩], [], true⟩]
    SameBook (run step emptyBook us) (run step { emptyBook with lastSeq := 7 } us) :=
  agree_after_snapshot rfl rfl rfl (updateCheck_eq_none_iff.mp (by decide +kernel)) []

end OrderBook

end Aggregation
end StreamAnalytics
