import StreamAnalytics.Lib.Buckets
import StreamAnalytics.Aggregation.CandleFold

/-!
# Rolling candles up

`RollupCandle` succeeds exactly on the source lists that are `Rollable`, and then
returns the closed candle of their total (`rollupCandle_eq_ok_iff`).  Rolling up
through an intermediate timeframe whose duration divides that of the target gives
the same candle, because windows nest and totals can be taken group by group.
-/

namespace StreamAnalytics
namespace Aggregation

open GoInt GoStrings Prog CandleV1

/-! ## Buckets -/

variable {intervalMs : Int} {toInterval : String} {first : CandleV1} {g : List CandleV1}

theorem bucketStartDomain_eq_bucket
    {w : Int} (hw : 0 < w) (ts : Int) : bucketStartDomain ts w = bucket ts w := by
  rw [bucketStartDomain, if_neg (by omega), bucket]

/-! ## The closed form of `RollupCandle` -/

/-- A source candle of the series and window of `first`. -/
structure SameWindow (intervalMs : Int) (first src : CandleV1) : Prop where
  complete : src.Complete
  venue : src.venue = first.venue
  instrument : src.instrument = first.instrument
  window : bucketStartDomain src.windowStartTs intervalMs =
    bucketStartDomain first.windowStartTs intervalMs

theorem rollupLoop_eq_ok_iff {venue instrument : String} {windowStart : Int}
    {srcs : List CandleV1} {c c' : CandleV1} {u : PUnit} :
    rollupLoop venue instrument windowStart intervalMs srcs c = (c', .ok u) ↔
      (∀ src ∈ srcs, src.isClosed = true ∧ src.venue = venue ∧ src.instrument = instrument ∧
        bucketStartDomain src.windowStartTs intervalMs = windowStart) ∧
      foldCandles srcs c = (c', .ok u) := by
  induction srcs generalizing c with
  | nil => simp [rollupLoop, foldCandles]
  | cons src rest ih =>
    simp only [rollupLoop, foldCandles, check_bind_eq_ok_iff, Problem.when_eq_none,
      Bool.not_eq_false, ne_eq, Decidable.not_not, List.forall_mem_cons]
    simp only [bind_eq_ok_iff, ih]
    constructor
    · rintro ⟨h₁, h₂, h₃, h₄, c₁, a, happly, hrest, hfold⟩
      exact ⟨⟨⟨h₁, h₂, h₃, h₄⟩, hrest⟩, c₁, a, happly, hfold⟩
    · rintro ⟨⟨⟨h₁, h₂, h₃, h₄⟩, hrest⟩, c₁, a, happly, hfold⟩
      exact ⟨h₁, h₂, h₃, h₄, c₁, a, happly, hrest, hfold⟩

/-- The sorted source lists that `RollupCandle` accepts. -/
structure Rollable (toInterval : String) (intervalMs : Int) (first : CandleV1)
    (sorted : List CandleV1) : Prop where
  timeframe : toInterval ∈ allowedCandleTimeframes
  venue : trimSpace first.venue ≠ ""
  instrument : trimSpace first.instrument ≠ ""
  windowStart : 0 ≤ bucketStartDomain first.windowStartTs intervalMs
  windowEnd : bucketStartDomain first.windowStartTs intervalMs <
    wrap64 (bucketStartDomain first.windowStartTs intervalMs + intervalMs)
  sources : ∀ src ∈ sorted, SameWindow intervalMs first src
  bars : Bar.Acceptable (sorted.map settledBar)

/-- The candle in which `RollupCandle` starts. -/
def rollupSeed (toInterval : String) (intervalMs : Int) (first : CandleV1) : CandleV1 where
  venue := trimSpace first.venue
  instrument := trimSpace first.instrument
  timeframe := trimSpace toInterval
  windowStartTs := bucketStartDomain first.windowStartTs intervalMs

/-- The candle that `RollupCandle` returns. -/
def rollupResult (toInterval : String) (intervalMs : Int) (first : CandleV1)
    (sorted : List CandleV1) : CandleV1 :=
  ((rollupSeed toInterval intervalMs first).withBar
    (Bar.total (sorted.map settledBar))).closedAt
      (wrap64 (bucketStartDomain first.windowStartTs intervalMs + intervalMs))

theorem rollupInto_eq_ok_iff {sorted : List CandleV1} {out : CandleV1} {u : PUnit}
    (hacc : (rollupSeed toInterval intervalMs first).Accumulating) (hne : sorted ≠ [])
    (hrange : ∀ src ∈ sorted, src.InRange) :
    rollupInto first.venue first.instrument
        (bucketStartDomain first.windowStartTs intervalMs) intervalMs sorted
        (rollupSeed toInterval intervalMs first) = (out, .ok u) ↔
      (∀ src ∈ sorted, SameWindow intervalMs first src) ∧
      Bar.Acceptable (sorted.map settledBar) ∧
      bucketStartDomain first.windowStartTs intervalMs <
        wrap64 (bucketStartDomain first.windowStartTs intervalMs + intervalMs) ∧
      out = rollupResult toInterval intervalMs first sorted := by
  have hfresh : (rollupSeed toInterval intervalMs first).Fresh := ⟨rfl, rfl, rfl, rfl, rfl⟩
  have hbars : ∀ bs, (rollupSeed toInterval intervalMs first).bars ++ bs = bs := by
    intro bs
    rw [hfresh.bars_eq, List.nil_append]
  have hmapne : sorted.map settledBar ≠ [] := by simp [hne]
  unfold rollupInto
  rw [bind_eq_ok_iff]
  simp only [rollupLoop_eq_ok_iff, foldCandles_eq_ok_iff hacc hrange, hbars]
  constructor
  · rintro ⟨c₁, _, ⟨hsources, hchildren, hacceptable, rfl⟩, hclose⟩
    have hacc' := absorbAll_accumulating hacc (by rw [hbars]; exact hacceptable)
    rw [close_eq_ok_iff hacc'] at hclose
    have heq := absorbAll_eq hacc hmapne (by rw [hbars]; exact hacceptable)
    rw [heq, hbars] at hclose
    obtain ⟨-, hend, rfl⟩ := hclose
    refine ⟨?_, hacceptable, hend, rfl⟩
    intro src hsrc
    obtain ⟨-, hv, hi, hw⟩ := hsources src hsrc
    exact ⟨(hchildren src hsrc).complete, hv, hi, hw⟩
  · rintro ⟨hsources, hacceptable, hend, rfl⟩
    have hacc' := absorbAll_accumulating hacc (by rw [hbars]; exact hacceptable)
    have heq := absorbAll_eq hacc hmapne (by rw [hbars]; exact hacceptable)
    rw [hbars] at heq
    refine ⟨_, ⟨⟩, ⟨?_, ?_, hacceptable, rfl⟩, ?_⟩
    · intro src hsrc
      obtain ⟨hcomplete, hv, hi, hw⟩ := hsources src hsrc
      exact ⟨hcomplete.isClosed, hv, hi, hw⟩
    · intro src hsrc
      obtain ⟨hcomplete, hv, hi, -⟩ := hsources src hsrc
      exact ⟨hcomplete, by rw [hv]; rfl, by rw [hi]; rfl⟩
    · rw [close_eq_ok_iff hacc', heq]
      exact ⟨⟨synced_withBar _ _,
        Bar.sound_total hmapne hacceptable.sound hacceptable.chain, hacceptable.fits⟩, hend, rfl⟩

theorem Rollable.create_eq
    {sorted : List CandleV1} (h : Rollable toInterval intervalMs first sorted) :
    create first.venue first.instrument toInterval
        (bucketStartDomain first.windowStartTs intervalMs) =
      .ok (rollupSeed toInterval intervalMs first) :=
  create_eq_ok_iff.mpr ⟨⟨h.venue, h.instrument, h.timeframe, h.windowStart⟩, rfl⟩

/-- `RollupCandle` accepts exactly the rollable lists and returns the candle of their total. -/
theorem rollupCandle_eq_ok_iff
    {source : List CandleV1} {out : CandleV1} (hrange : ∀ src ∈ source, src.InRange) :
    rollupCandle source toInterval = .ok out ↔
      ∃ intervalMs first rest, timeframeToMs toInterval = .ok intervalMs ∧
        sortByWindowStart source = first :: rest ∧
        Rollable toInterval intervalMs first (first :: rest) ∧
        out = rollupResult toInterval intervalMs first (first :: rest) := by
  have hsorted : ∀ first rest, sortByWindowStart source = first :: rest →
      ∀ src ∈ first :: rest, src.InRange := by
    intro first rest hsort src hsrc
    rw [← hsort] at hsrc
    exact hrange src (mem_sortBy.mp hsrc)
  constructor
  · intro h
    unfold rollupCandle at h
    split at h
    · cases h
    · cases h
    · cases h
    · rename_i intervalMs first rest hlen hms hsort
      split_ifs at h with hclosed
      dsimp only at h
      split at h
      · cases h
      · rename_i c hcreate
        have hacc := (create_fresh hcreate).1
        obtain ⟨⟨hvenue, hinstrument, htimeframe, hstart⟩, rfl⟩ :=
          create_eq_ok_iff.mp hcreate
        obtain ⟨_, hinto⟩ := exec_eq_ok_iff.mp h
        obtain ⟨hsources, hbars, hend, rfl⟩ :=
          (rollupInto_eq_ok_iff hacc (by simp) (hsorted first rest hsort)).mp hinto
        exact ⟨intervalMs, first, rest, hms, hsort,
          ⟨htimeframe, hvenue, hinstrument, hstart, hend, hsources, hbars⟩, rfl⟩
  · rintro ⟨intervalMs, first, rest, hms, hsort, hrollable, rfl⟩
    have hlen : Validation.nonEmptySliceLen "source" source.length = none := by
      rw [Validation.nonEmptySliceLen_eq_none]
      intro hzero
      rw [List.length_eq_zero_iff.mp hzero] at hsort
      cases hsort
    have hcreate := hrollable.create_eq
    have hclosed := (hrollable.sources first (by simp)).complete.isClosed
    unfold rollupCandle
    rw [hlen, hms, hsort]
    simp only [hclosed, Bool.true_eq_false, if_false, hcreate]
    refine exec_eq_ok_iff.mpr ⟨⟨⟩, ?_⟩
    exact (rollupInto_eq_ok_iff (create_fresh hcreate).1 (by simp)
      (hsorted first rest hsort)).mpr ⟨hrollable.sources, hrollable.bars, hrollable.windowEnd, rfl⟩

/-- Only the candle in which the rollup starts, the sources and their bars count. -/
theorem Rollable.of_seed {first' : CandleV1} {sorted sorted' : List CandleV1}
    (h : Rollable toInterval intervalMs first sorted)
    (hseed : rollupSeed toInterval intervalMs first = rollupSeed toInterval intervalMs first')
    (hsources : ∀ src ∈ sorted', SameWindow intervalMs first' src)
    (hbars : Bar.Acceptable (sorted'.map settledBar)) :
    Rollable toInterval intervalMs first' sorted' := by
  have hstart : bucketStartDomain first.windowStartTs intervalMs =
      bucketStartDomain first'.windowStartTs intervalMs := congrArg windowStartTs hseed
  exact ⟨h.timeframe, (congrArg CandleV1.venue hseed).symm.trans_ne h.venue,
    (congrArg CandleV1.instrument hseed).symm.trans_ne h.instrument, hstart ▸ h.windowStart,
    hstart ▸ h.windowEnd, hsources, hbars⟩

/-! ## Rolling up through an intermediate timeframe -/

/-- The groups are the parts of the source that fall into one window each. -/
structure WindowGroups (intervalMs : Int) (source : List CandleV1)
    (groups : List (List CandleV1)) : Prop where
  perm : groups.flatten.Perm source
  nonempty : ∀ g ∈ groups, g ≠ []
  same : ∀ g ∈ groups, ∀ x ∈ g, ∀ y ∈ g,
    bucketStartDomain x.windowStartTs intervalMs = bucketStartDomain y.windowStartTs intervalMs
  separate : groups.Pairwise fun g g' => ∀ x ∈ g, ∀ y ∈ g',
    bucketStartDomain x.windowStartTs intervalMs ≠ bucketStartDomain y.windowStartTs intervalMs

/-- The first candle of a group; the default is never used. -/
def groupFirst (g : List CandleV1) : CandleV1 :=
  (sortByWindowStart g).headD { venue := "", instrument := "", timeframe := "", windowStartTs := 0 }

/-- The candle of a group. -/
def rolled (toInterval : String) (intervalMs : Int) (g : List CandleV1) : CandleV1 :=
  rollupResult toInterval intervalMs (groupFirst g) (sortByWindowStart g)

theorem sortByWindowStart_eq_cons
    (hg : g ≠ []) : ∃ rest, sortByWindowStart g = groupFirst g :: rest := by
  unfold groupFirst
  cases hsort : sortByWindowStart g with
  | nil => exact absurd (sortBy_eq_nil_iff.mp hsort) hg
  | cons first rest => exact ⟨rest, rfl⟩

theorem groupFirst_mem (hg : g ≠ []) : groupFirst g ∈ g := by
  obtain ⟨rest, hsort⟩ := sortByWindowStart_eq_cons hg
  have hmem : groupFirst g ∈ sortByWindowStart g := by
    rw [hsort]
    simp
  exact mem_sortBy.mp hmem

/-- `RollupCandle` of a non-empty group. -/
theorem rollupCandle_eq_rolled_iff {out : CandleV1} (hg : g ≠ []) (hrange : ∀ src ∈ g, src.InRange)
    (hms : timeframeToMs toInterval = .ok intervalMs) :
    rollupCandle g toInterval = .ok out ↔
      Rollable toInterval intervalMs (groupFirst g) (sortByWindowStart g) ∧
        out = rolled toInterval intervalMs g := by
  obtain ⟨rest, hsort⟩ := sortByWindowStart_eq_cons hg
  rw [rollupCandle_eq_ok_iff hrange]
  constructor
  · rintro ⟨ms, first, rest', hms', hsort', hrollable, rfl⟩
    rw [hms] at hms'
    cases hms'
    rw [hsort] at hsort'
    cases hsort'
    unfold rolled
    rw [hsort]
    exact ⟨hrollable, rfl⟩
  · rintro ⟨hrollable, rfl⟩
    rw [hsort] at hrollable
    refine ⟨intervalMs, groupFirst g, rest, hms, hsort, hrollable, ?_⟩
    unfold rolled
    rw [hsort]

/-- A rolled up candle is complete and has the total of its group as its bar. -/
theorem Rollable.complete_rollupResult
    {sorted : List CandleV1} (h : Rollable toInterval intervalMs first sorted) (hne : sorted ≠ []) :
    (rollupResult toInterval intervalMs first sorted).Complete ∧
      (rollupResult toInterval intervalMs first sorted).InRange ∧
      (rollupResult toInterval intervalMs first sorted).settledBar =
        Bar.total (sorted.map settledBar) := by
  have hopen := (create_fresh h.create_eq).1.isOpen
  have hfilled : ((rollupSeed toInterval intervalMs first).withBar
      (Bar.total (sorted.map settledBar))).Filled :=
    ⟨synced_withBar _ _,
      Bar.sound_total (by simp [hne]) h.bars.sound h.bars.chain, h.bars.fits⟩
  have hopen' : ((rollupSeed toInterval intervalMs first).withBar
      (Bar.total (sorted.map settledBar))).Open :=
    ⟨⟨hopen.venue, hopen.instrument, hopen.timeframe, hopen.windowStartTs⟩, rfl, rfl⟩
  obtain ⟨hcomplete, hbar⟩ := hfilled.complete_closedAt hopen' h.windowEnd
  exact ⟨hcomplete, ⟨hfilled.inRange.volume, hfilled.inRange.buyVolume,
    hfilled.inRange.sellVolume, hfilled.inRange.tradeCount⟩, hbar⟩

section Through

variable {mid target : String} {w t : Int} {source : List CandleV1}
  {groups : List (List CandleV1)}

/-- One series of candles with distinct window starts, given with representable fields. -/
structure Series (source : List CandleV1) : Prop where
  inRange : ∀ src ∈ source, src.InRange
  windowStart : ∀ src ∈ source, InInt64 src.windowStartTs
  venue : ∀ x ∈ source, ∀ y ∈ source, x.venue = y.venue
  instrument : ∀ x ∈ source, ∀ y ∈ source, x.instrument = y.instrument
  distinct : (source.map windowStartTs).Nodup

theorem WindowGroups.mem_source
    (hgroups : WindowGroups w source groups) {x : CandleV1} (hg : g ∈ groups) (hx : x ∈ g) :
    x ∈ source :=
  hgroups.perm.mem_iff.mp (List.mem_flatten.mpr ⟨g, hg, hx⟩)

/-- The window of a group is the window of each of its candles. -/
theorem WindowGroups.rank_eq
    (hgroups : WindowGroups w source groups) {x : CandleV1} (hg : g ∈ groups) (hx : x ∈ g) :
    (rolled mid w g).windowStartTs = bucketStartDomain x.windowStartTs w :=
  hgroups.same g hg _ (groupFirst_mem (hgroups.nonempty g hg)) x hx

theorem WindowGroups.rank_injective (hgroups : WindowGroups w source groups) {g' : List CandleV1}
    (hg : g ∈ groups) (hg' : g' ∈ groups)
    (hrank : (rolled mid w g).windowStartTs = (rolled mid w g').windowStartTs) : g = g' := by
  by_contra hne
  have hsymm : Std.Symm fun g g' : List CandleV1 => ∀ x ∈ g, ∀ y ∈ g',
      bucketStartDomain x.windowStartTs w ≠ bucketStartDomain y.windowStartTs w :=
    ⟨fun _ _ h x hx y hy heq => h y hy x hx heq.symm⟩
  have hsep := hgroups.separate.forall hg hg' hne
  exact hsep _ (groupFirst_mem (hgroups.nonempty g hg)) _
    (groupFirst_mem (hgroups.nonempty g' hg')) hrank

/-- The groups in the order of their windows. -/
def orderedGroups (mid : String) (w : Int) (groups : List (List CandleV1)) :
    List (List CandleV1) :=
  sortBy (fun g => (rolled mid w g).windowStartTs) groups

theorem mem_orderedGroups : g ∈ orderedGroups mid w groups ↔ g ∈ groups := mem_sortBy

/-- Sorting the source is sorting the groups and each group. -/
theorem WindowGroups.sort_source (hgroups : WindowGroups w source groups) (hw : 0 < w)
    (hstart : ∀ src ∈ source, 0 ≤ src.windowStartTs)
    (hdistinct : (source.map windowStartTs).Nodup) :
    sortByWindowStart source =
      ((orderedGroups mid w groups).map sortByWindowStart).flatten := by
  refine sortBy_eq_flatten hgroups.perm
    (fun a ha b hb h => List.inj_on_of_nodup_map hdistinct ha hb h) ?_ ?_
  · intro g hg g' hg' a ha b hb hlt
    rw [hgroups.rank_eq hg ha, hgroups.rank_eq hg' hb, bucketStartDomain_eq_bucket hw,
      bucketStartDomain_eq_bucket hw] at hlt
    by_contra hle
    have hmono := bucket_mono (hstart b (hgroups.mem_source hg' hb))
      (show b.windowStartTs ≤ a.windowStartTs by omega) hw
    omega
  · refine hgroups.separate.imp_of_mem ?_
    intro g g' hg hg' hsep heq
    exact hsep _ (groupFirst_mem (hgroups.nonempty g hg)) _
      (groupFirst_mem (hgroups.nonempty g' hg')) heq

/-- The candles of the groups are sorted as the groups are. -/
theorem WindowGroups.sort_rolled (hgroups : WindowGroups w source groups) :
    sortByWindowStart (groups.map (rolled mid w)) =
      (orderedGroups mid w groups).map (rolled mid w) :=
  sortBy_map_eq (fun _ _ => rfl) fun _ hg _ hg' h => hgroups.rank_injective hg hg' h

/-- The bars of the sorted source, group by group. -/
theorem bars_flatten (gs : List (List CandleV1)) :
    (gs.map sortByWindowStart).flatten.map settledBar =
      (gs.map fun g => (sortByWindowStart g).map settledBar).flatten := by
  rw [List.map_flatten, List.map_map]
  rfl

theorem bars_ne_nil {gs : List (List CandleV1)} (hne : ∀ g ∈ gs, g ≠ []) :
    ∀ bs ∈ gs.map fun g => (sortByWindowStart g).map settledBar, bs ≠ [] := by
  intro bs hbs hnil
  obtain ⟨g, hg, rfl⟩ := List.mem_map.mp hbs
  exact hne g hg (sortBy_eq_nil_iff.mp (List.map_eq_nil_iff.mp hnil))

theorem timeframeToMs_range
    {tf : String} {ms : Int} (h : timeframeToMs tf = .ok ms) : 0 < ms ∧ ms < 2 ^ 63 := by
  unfold timeframeToMs at h
  split at h
  · rename_i ms' hlookup
    cases h
    have htable : ∀ e ∈ timeframeTable, 0 < e.2 ∧ e.2 < 2 ^ 63 := by decide
    obtain ⟨l₁, l₂, hsplit, -⟩ := List.lookup_eq_some_iff.mp hlookup
    have hmem : (toLower (trimSpace tf), ms) ∈ timeframeTable := by
      rw [hsplit]
      simp
    exact htable _ hmem
  · cases h

/-- The check of the window end: the end is representable. -/
theorem lt_wrap64_add_iff
    {a ms : Int} (ha : 0 ≤ a) (ha' : a < 2 ^ 63) (hms : 0 < ms) (hms' : ms < 2 ^ 63) :
    a < wrap64 (a + ms) ↔ a + ms < 2 ^ 63 := by
  unfold wrap64
  omega

/-- The bars of each group of a rollable source are acceptable. -/
theorem acceptable_group (hgroups : WindowGroups w source groups) (hw : 0 < w)
    (hdistinct : (source.map windowStartTs).Nodup)
    (hdirect : Rollable target t first (sortByWindowStart source)) (hg : g ∈ groups) :
    Bar.Acceptable ((sortByWindowStart g).map settledBar) := by
  have hstart : ∀ src ∈ source, 0 ≤ src.windowStartTs := fun src hsrc =>
    (hdirect.sources src (mem_sortBy.mpr hsrc)).complete.identified.windowStartTs
  have hsort : sortByWindowStart source =
      ((orderedGroups target w groups).map sortByWindowStart).flatten :=
    hgroups.sort_source hw hstart hdistinct
  have hbars := hdirect.bars
  rw [hsort, bars_flatten, Bar.acceptable_flatten_iff _
    (bars_ne_nil fun g hg => hgroups.nonempty g (mem_orderedGroups.mp hg))] at hbars
  exact hbars.1 _ (List.mem_map_of_mem (mem_orderedGroups.mpr hg))

/-- If the source can be rolled up, so can every group. -/
theorem rollable_group (hseries : Series source) (hgroups : WindowGroups w source groups)
    (hmid : mid ∈ allowedCandleTimeframes)
    (hw : timeframeToMs mid = .ok w) (ht : timeframeToMs target = .ok t) (hdvd : w ∣ t)
    (hdirect : Rollable target t first (sortByWindowStart source)) (hg : g ∈ groups)
    (hbars : Bar.Acceptable ((sortByWindowStart g).map settledBar)) :
    Rollable mid w (groupFirst g) (sortByWindowStart g) := by
  obtain ⟨hwpos, hwlt⟩ := timeframeToMs_range hw
  obtain ⟨htpos, htlt⟩ := timeframeToMs_range ht
  have hmem : groupFirst g ∈ g := groupFirst_mem (hgroups.nonempty g hg)
  have hsrc : ∀ x ∈ g, SameWindow t first x := fun x hx =>
    hdirect.sources x (mem_sortBy.mpr (hgroups.mem_source hg hx))
  have hfirst := hsrc _ hmem
  have hstart := hfirst.complete.identified.windowStartTs
  have hrange := (hseries.windowStart _ (hgroups.mem_source hg hmem)).2
  have hle := bucket_le hstart hwpos
  have hle' := bucket_le hstart htpos
  have hnonneg := bucket_nonneg hstart hwpos
  have hnonneg' := bucket_nonneg hstart htpos
  have hnest := bucket_add_le hstart hwpos htpos hdvd
  simp only [← bucketStartDomain_eq_bucket hwpos, ← bucketStartDomain_eq_bucket htpos]
    at hle hle' hnonneg hnonneg' hnest
  have hend := hdirect.windowEnd
  rw [← hfirst.window, lt_wrap64_add_iff hnonneg' (by omega) htpos htlt] at hend
  refine
    { timeframe := hmid
      venue := by rw [hfirst.venue]; exact hdirect.venue
      instrument := by rw [hfirst.instrument]; exact hdirect.instrument
      windowStart := hnonneg
      windowEnd := (lt_wrap64_add_iff hnonneg (by omega) hwpos hwlt).mpr (by omega)
      sources := ?_
      bars := hbars }
  intro x hx
  have hxg : x ∈ g := mem_sortBy.mp hx
  have hxs := hgroups.mem_source hg hxg
  have hms := hgroups.mem_source hg hmem
  exact ⟨(hsrc x hxg).complete, hseries.venue x hxs _ hms, hseries.instrument x hxs _ hms,
    hgroups.same g hg x hxg _ hmem⟩

/-- The bars of the candles of the groups are the totals of the groups. -/
theorem settledBar_rolled {gs : List (List CandleV1)} (hne : ∀ g ∈ gs, g ≠ [])
    (hrollable : ∀ g ∈ gs, Rollable mid w (groupFirst g) (sortByWindowStart g)) :
    (gs.map (rolled mid w)).map settledBar =
      (gs.map fun g => (sortByWindowStart g).map settledBar).map Bar.total := by
  rw [List.map_map, List.map_map]
  refine List.map_congr_left fun g hg => ?_
  change (rollupResult mid w (groupFirst g) (sortByWindowStart g)).settledBar = _
  exact ((hrollable g hg).complete_rollupResult (fun h => hne g hg (sortBy_eq_nil_iff.mp h))).2.2

/--
Once every group can be rolled up, the target can be rolled up from the candles of
the groups exactly when it can from the source, and the results agree.
-/
theorem rollable_rolled_iff (hseries : Series source) (hgroups : WindowGroups w source groups)
    (hw : timeframeToMs mid = .ok w) (ht : timeframeToMs target = .ok t) (hdvd : w ∣ t)
    (hsource : source ≠ [])
    (hrollable : ∀ g ∈ groups, Rollable mid w (groupFirst g) (sortByWindowStart g)) :
    (Rollable target t (groupFirst (groups.map (rolled mid w)))
        (sortByWindowStart (groups.map (rolled mid w))) ↔
      Rollable target t (groupFirst source) (sortByWindowStart source)) ∧
    rolled target t (groups.map (rolled mid w)) = rolled target t source := by
  obtain ⟨hwpos, hwlt⟩ := timeframeToMs_range hw
  obtain ⟨htpos, htlt⟩ := timeframeToMs_range ht
  have hcomplete : ∀ g ∈ groups, ∀ x ∈ g, x.Complete := fun g hg x hx =>
    ((hrollable g hg).sources x (mem_sortBy.mpr hx)).complete
  have hstart : ∀ src ∈ source, 0 ≤ src.windowStartTs := by
    intro src hsrc
    obtain ⟨g, hg, hx⟩ := List.mem_flatten.mp (hgroups.perm.mem_iff.mpr hsrc)
    exact (hcomplete g hg src hx).identified.windowStartTs
  have hsort : sortByWindowStart source =
      ((orderedGroups mid w groups).map sortByWindowStart).flatten :=
    hgroups.sort_source hwpos hstart hseries.distinct
  have hsortMids : sortByWindowStart (groups.map (rolled mid w)) =
      (orderedGroups mid w groups).map (rolled mid w) :=
    hgroups.sort_rolled
  have hordered : ∀ g ∈ orderedGroups mid w groups, g ∈ groups := fun g hg =>
    mem_orderedGroups.mp hg
  -- The first candle is the first of the first group.
  have hne : orderedGroups mid w groups ≠ [] := by
    intro hnil
    rw [hnil] at hsort
    exact hsource (sortBy_eq_nil_iff.mp hsort)
  obtain ⟨g₀, gs, hcons⟩ := List.exists_cons_of_ne_nil hne
  have hg₀ : g₀ ∈ groups := hordered g₀ (by rw [hcons]; simp)
  obtain ⟨rest₀, hsort₀⟩ := sortByWindowStart_eq_cons (hgroups.nonempty g₀ hg₀)
  have hfirst : groupFirst source = groupFirst g₀ := by
    rw [groupFirst, hsort, hcons, List.map_cons, hsort₀]
    rfl
  have hfirstMid : groupFirst (groups.map (rolled mid w)) = rolled mid w g₀ := by
    rw [groupFirst, hsortMids, hcons]
    rfl
  have hmem₀ := groupFirst_mem (hgroups.nonempty g₀ hg₀)
  have hsrc₀ := hgroups.mem_source hg₀ hmem₀
  have hstart₀ := hstart _ hsrc₀
  -- The candle of a group has the trimmed names and lies in the window of its candles.
  have hnames : ∀ g ∈ groups,
      (rolled mid w g).venue = trimSpace (groupFirst g₀).venue ∧
        (rolled mid w g).instrument = trimSpace (groupFirst g₀).instrument := by
    intro g hg
    have hmem := hgroups.mem_source hg (groupFirst_mem (hgroups.nonempty g hg))
    rw [← hseries.venue _ hmem _ hsrc₀, ← hseries.instrument _ hmem _ hsrc₀]
    exact ⟨rfl, rfl⟩
  have hwindow : ∀ g ∈ groups, ∀ x ∈ g,
      bucketStartDomain (rolled mid w g).windowStartTs t =
        bucketStartDomain x.windowStartTs t := by
    intro g hg x hx
    rw [hgroups.rank_eq hg hx, bucketStartDomain_eq_bucket hwpos, bucketStartDomain_eq_bucket htpos,
      bucketStartDomain_eq_bucket htpos]
    exact bucket_bucket (hstart x (hgroups.mem_source hg hx)) hwpos htpos hdvd
  have hgroupsne : ∀ g ∈ orderedGroups mid w groups, g ≠ [] := fun g hg =>
    hgroups.nonempty g (hordered g hg)
  have hsettled := settledBar_rolled hgroupsne fun g hg => hrollable g (hordered g hg)
  have hbarsne := bars_ne_nil hgroupsne
  have hparts : ∀ bs ∈ (orderedGroups mid w groups).map
      fun g => (sortByWindowStart g).map settledBar, Bar.Acceptable bs := by
    intro bs hbs
    obtain ⟨g, hg, rfl⟩ := List.mem_map.mp hbs
    exact (hrollable g (hordered g hg)).bars
  have hbars : Bar.Acceptable (((orderedGroups mid w groups).map (rolled mid w)).map
        settledBar) ↔
      Bar.Acceptable ((sortByWindowStart source).map settledBar) := by
    rw [hsettled, hsort, bars_flatten, Bar.acceptable_flatten_iff _ hbarsne]
    exact ⟨fun h => ⟨hparts, h⟩, fun h => h.2⟩
  have htotal : Bar.total (((orderedGroups mid w groups).map (rolled mid w)).map
        settledBar) =
      Bar.total ((sortByWindowStart source).map settledBar) := by
    rw [hsettled, hsort, bars_flatten, Bar.total_flatten hbarsne]
  have hseed : rollupSeed target t (rolled mid w g₀) = rollupSeed target t (groupFirst g₀) := by
    simp only [rollupSeed, hnames g₀ hg₀, hwindow g₀ hg₀ _ hmem₀, trimSpace_trimSpace]
  constructor
  · rw [hsortMids, hfirstMid, hfirst]
    constructor
    · refine fun h => h.of_seed hseed (fun x hx => ?_) (hbars.mp h.bars)
      have hxs : x ∈ source := mem_sortBy.mp hx
      obtain ⟨g, hg, hxg⟩ := List.mem_flatten.mp (hgroups.perm.mem_iff.mpr hxs)
      have hm := h.sources (rolled mid w g) (List.mem_map_of_mem (mem_orderedGroups.mpr hg))
      refine ⟨hcomplete g hg x hxg, hseries.venue x hxs _ hsrc₀, hseries.instrument x hxs _ hsrc₀, ?_⟩
      rw [← hwindow g hg x hxg, ← hwindow g₀ hg₀ _ hmem₀]
      exact hm.window
    · refine fun h => h.of_seed hseed.symm (fun m hm => ?_) (hbars.mpr h.bars)
      obtain ⟨g, hg, rfl⟩ := List.mem_map.mp hm
      have hg' := hordered g hg
      have hmem := groupFirst_mem (hgroups.nonempty g hg')
      have hsame := h.sources (groupFirst g) (mem_sortBy.mpr (hgroups.mem_source hg' hmem))
      refine ⟨((hrollable g hg').complete_rollupResult
        (fun hnil => hgroupsne g hg (sortBy_eq_nil_iff.mp hnil))).1, ?_, ?_, ?_⟩
      · rw [(hnames g hg').1, (hnames g₀ hg₀).1]
      · rw [(hnames g hg').2, (hnames g₀ hg₀).2]
      · rw [hwindow g hg' _ hmem, hwindow g₀ hg₀ _ hmem₀]
        exact hsame.window
  · unfold rolled
    change rollupResult target t (groupFirst (groups.map (rolled mid w)))
      (sortByWindowStart (groups.map (rolled mid w))) = _
    unfold rollupResult
    rw [hsortMids, hfirstMid, hfirst, hseed, htotal, hwindow g₀ hg₀ _ hmem₀]

/-- Rolling up directly and through an intermediate timeframe. -/
theorem rollupCandle_through (hseries : Series source) (hgroups : WindowGroups w source groups)
    (hmid : mid ∈ allowedCandleTimeframes)
    (hw : timeframeToMs mid = .ok w) (ht : timeframeToMs target = .ok t) (hdvd : w ∣ t)
    (out : CandleV1) :
    rollupCandle source target = .ok out ↔
      ∃ mids, List.Forall₂ (fun g m => rollupCandle g mid = .ok m) groups mids ∧
        rollupCandle mids target = .ok out := by
  have hgroup : ∀ g ∈ groups, ∀ m, rollupCandle g mid = .ok m ↔
      Rollable mid w (groupFirst g) (sortByWindowStart g) ∧ m = rolled mid w g :=
    fun g hg m => rollupCandle_eq_rolled_iff (hgroups.nonempty g hg)
      (fun src hsrc => hseries.inRange src (hgroups.mem_source hg hsrc)) hw
  simp only [forall₂_iff_map hgroup, and_assoc, exists_and_left, exists_eq_left]
  by_cases hsource : source = []
  · -- Without source candles there are no groups either.
    subst hsource
    have hnil : groups = [] := by
      cases groups with
      | nil => rfl
      | cons g gs =>
        have hflat := hgroups.perm.eq_nil
        simp only [List.flatten_cons, List.append_eq_nil_iff] at hflat
        exact absurd hflat.1 (hgroups.nonempty g (by simp))
    subst hnil
    simp
  have hmidsne : groups.map (rolled mid w) ≠ [] := by
    intro hnil
    have hperm := hgroups.perm
    rw [List.map_eq_nil_iff.mp hnil] at hperm
    exact hsource hperm.symm.eq_nil
  -- Once all groups can be rolled up, both sides are rollups of the same bars.
  have hstep : (∀ g ∈ groups, Rollable mid w (groupFirst g) (sortByWindowStart g)) →
      (rollupCandle source target = .ok out ↔
        rollupCandle (groups.map (rolled mid w)) target = .ok out) := by
    intro hrollable
    obtain ⟨hiff, hresult⟩ := rollable_rolled_iff hseries hgroups hw ht hdvd hsource hrollable
    rw [rollupCandle_eq_rolled_iff hsource hseries.inRange ht,
      rollupCandle_eq_rolled_iff hmidsne ?_ ht, hiff, hresult]
    intro src hsrc
    obtain ⟨g, hg, rfl⟩ := List.mem_map.mp hsrc
    exact ((hrollable g hg).complete_rollupResult
      (fun hnil => hgroups.nonempty g hg (sortBy_eq_nil_iff.mp hnil))).2.1
  constructor
  · intro h
    obtain ⟨hdirect, -⟩ := (rollupCandle_eq_rolled_iff hsource hseries.inRange ht).mp h
    have hrollable : ∀ g ∈ groups, Rollable mid w (groupFirst g) (sortByWindowStart g) := by
      intro g hg
      refine rollable_group hseries hgroups hmid hw ht hdvd hdirect hg ?_
      exact acceptable_group hgroups (timeframeToMs_range hw).1 hseries.distinct hdirect hg
    exact ⟨hrollable, (hstep hrollable).mp h⟩
  · rintro ⟨hrollable, h⟩
    exact (hstep hrollable).mpr h

end Through

/--
Grouping does not matter.  Trades with non-decreasing sequence numbers, prices and
quantities that are positive at the fixed precision, and sums within `int64`, can
be folded directly, or group by group into closed candles that are folded in order:
the outcome is the same, and is a candle if the sequence numbers are positive.
Candles of a series can be rolled up directly, or through any timeframe whose
duration divides that of the target.
-/
theorem fold_independent_of_grouping :
    (∀ (venue instrument timeframe : String) (windowStart : Int) (c : CandleV1)
      (groups : List TradeGroup),
      let trades := (groups.map TradeGroup.trades).flatten
      create venue instrument timeframe windowStart = .ok c →
      (∀ g ∈ groups, g.WellFormed) →
      (∀ x ∈ trades, x.Positive) →
      (trades.map Trade.seq).IsChain (· ≤ ·) →
      (trades.map fun x => x.bar.volume).sum < 2 ^ 63 →
      (trades.length : Int) < 2 ^ 63 →
      foldGroups venue instrument groups c = Prog.exec (foldTrades trades) c ∧
      ((∀ x ∈ trades, 0 < x.seq) → ∃ c', Prog.exec (foldTrades trades) c = .ok c')) ∧
    (∀ (source : List CandleV1) (groups : List (List CandleV1)) (mid target : String)
      (w t : Int) (out : CandleV1),
      Series source →
      WindowGroups w source groups →
      mid ∈ allowedCandleTimeframes →
      timeframeToMs mid = .ok w →
      timeframeToMs target = .ok t →
      w ∣ t →
      (rollupCandle source target = .ok out ↔
        ∃ mids, List.Forall₂ (fun g m => rollupCandle g mid = .ok m) groups mids ∧
          rollupCandle mids target = .ok out)) := by
  refine ⟨?_, ?_⟩
  · intro venue instrument timeframe windowStart c groups trades hc hgroups hpositive horder
      hvolume hcount
    refine ⟨foldGroups_eq_foldTrades hc hgroups hpositive horder hvolume hcount, ?_⟩
    intro hseq
    obtain ⟨hacc, hfresh⟩ := create_fresh hc
    have hbars := acceptable_trades hpositive hseq horder hvolume hcount
    refine ⟨c.absorbAll (trades.map Trade.bar), exec_eq_ok_iff.mpr ⟨⟨⟩, ?_⟩⟩
    refine (foldTrades_eq_ok_iff hacc).mpr ⟨hpositive, ?_, rfl⟩
    rw [hfresh.bars_eq]
    exact hbars
  · intro source groups mid target w t out hseries hgroups hmid hw ht hdvd
    exact rollupCandle_through hseries hgroups hmid hw ht hdvd out

/-- A closed candle with one trade, for the examples. -/
def sampleCandle (timeframe : String) (windowStart windowEnd seq : Int) : CandleV1 :=
  closedAt
    (withBar
      { venue := "BINANCE", instrument := "BTCUSDT", timeframe := timeframe,
        windowStartTs := windowStart }
      (.ofTrade 100000000 100000000 true seq))
    windowEnd

/-- Two trades in two windows, and two candles rolled up through `5s` windows. -/
theorem fold_independent_of_grouping_sample :
    (∃ c, create "BINANCE" "BTCUSDT" "1m" 0 = .ok c ∧
      foldGroups "BINANCE" "BTCUSDT"
          [⟨"1s", 0, 1000, [⟨1, 2, true, 1⟩]⟩, ⟨"1s", 1000, 2000, [⟨2, 1, false, 2⟩]⟩] c =
        Prog.exec (foldTrades [⟨1, 2, true, 1⟩, ⟨2, 1, false, 2⟩]) c) ∧
    (rollupCandle [sampleCandle "1s" 0 1000 1, sampleCandle "1s" 6000 7000 2] "1m" =
        .ok (rolled "1m" 60000 [sampleCandle "1s" 0 1000 1, sampleCandle "1s" 6000 7000 2]) ↔
      ∃ mids, List.Forall₂ (fun g m => rollupCandle g "5s" = .ok m)
          [[sampleCandle "1s" 0 1000 1], [sampleCandle "1s" 6000 7000 2]] mids ∧
        rollupCandle mids "1m" =
          .ok (rolled "1m" 60000 [sampleCandle "1s" 0 1000 1, sampleCandle "1s" 6000 7000 2])) := by
  refine ⟨⟨_, rfl, ?_⟩, ?_⟩
  · refine (fold_independent_of_grouping.1 "BINANCE" "BTCUSDT" "1m" 0 _
      [⟨"1s", 0, 1000, [⟨1, 2, true, 1⟩]⟩, ⟨"1s", 1000, 2000, [⟨2, 1, false, 2⟩]⟩]
      rfl ?_ ?_ ?_ ?_ ?_).1
    · intro g hg
      simp only [List.mem_cons, List.not_mem_nil, or_false] at hg
      rcases hg with rfl | rfl <;> constructor <;> simp [allowedCandleTimeframes]
    · intro x hx
      simp only [List.map_cons, List.map_nil, List.flatten_cons, List.flatten_nil,
        List.append_nil, List.cons_append, List.nil_append, List.mem_cons, List.not_mem_nil,
        or_false] at hx
      rcases hx with rfl | rfl
      · exact ⟨100000000, 200000000, by decide +kernel, by decide +kernel⟩
      · exact ⟨200000000, 100000000, by decide +kernel, by decide +kernel⟩
    · decide
    · decide +kernel
    · decide
  · refine fold_independent_of_grouping.2
      [sampleCandle "1s" 0 1000 1, sampleCandle "1s" 6000 7000 2]
      [[sampleCandle "1s" 0 1000 1], [sampleCandle "1s" 6000 7000 2]] "5s" "1m" 5000 60000 _
      ?_ ?_ ?_ rfl rfl ⟨12, by decide⟩
    · refine ⟨?_, by decide, by decide, by decide, by decide⟩
      intro src hsrc
      simp only [List.mem_cons, List.not_mem_nil, or_false] at hsrc
      rcases hsrc with rfl | rfl <;> constructor <;> decide
    · exact ⟨List.Perm.refl _, by decide, by decide, by decide⟩
    · decide

end Aggregation
end StreamAnalytics
