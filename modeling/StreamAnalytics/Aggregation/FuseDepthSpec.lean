import Mathlib.Algebra.BigOperators.Group.List.Basic
import StreamAnalytics.Aggregation.FuseDepth

/-!
# What the fusion of order books computes

The levels of a fused side are given price by price: the size is the sum of the sizes of
all valid levels at the price, over the venues that are neither unnamed nor stale, and the
venues are those that have such a level.  The result does not depend on the order of the
inputs.

The sizes are added in 64 bits.  `fusesExactly_iff` says that this is the only way in
which the result can differ from the specification.
-/

namespace StreamAnalytics
namespace Aggregation

open GoInt GoStrings

/-! ## The specification -/

variable {inputs : List FusionDepthInput} {isBid : Bool} {price : Int}

/-- The levels of the input are merged: it is named, and it is not stale. -/
def FusionDepthInput.Contributes (nowMs staleThresholdMs : Int) (inp : FusionDepthInput) : Prop :=
  trimSpace inp.venue ≠ "" ∧ 0 < inp.tsIngestMs ∧
    nowMs - inp.tsIngestMs ≤ staleThresholdMs

instance (nowMs staleThresholdMs : Int) (inp : FusionDepthInput) :
    Decidable (inp.Contributes nowMs staleThresholdMs) :=
  inferInstanceAs (Decidable (_ ∧ _))

/-- The valid levels of an input at a price. -/
def FusionDepthInput.levelsAt (isBid : Bool) (price : Int) (inp : FusionDepthInput) : List Level :=
  (inp.side isBid).filter fun l => l.IsValid ∧ fusionToFP l.price = price

/-- What an input adds to the size at a price. -/
def FusionDepthInput.sizeAt (isBid : Bool) (price : Int) (inp : FusionDepthInput) : Int :=
  ((inp.levelsAt isBid price).map fun l => fusionToFP l.quantity).sum

section Spec

variable (nowMs staleThresholdMs : Int) (inputs : List FusionDepthInput)

/-- The size at a price over all inputs that contribute. -/
def fusedSizeAt (isBid : Bool) (price : Int) : Int :=
  ((inputs.filter fun inp => inp.Contributes nowMs staleThresholdMs).map
    (FusionDepthInput.sizeAt isBid price)).sum

/-- The venue has a valid level at the price. -/
def VenueAt (isBid : Bool) (price : Int) (venue : String) : Prop :=
  ∃ inp ∈ inputs, inp.Contributes nowMs staleThresholdMs ∧
    inp.levelsAt isBid price ≠ [] ∧ inp.venue = venue

/-- A side of the fused book, before it is cut to its first levels. -/
structure FusedSide (isBid : Bool) (levels : List FusedLevel) : Prop where
  ordered : levels.Pairwise fun a b =>
    if isBid then b.priceFP < a.priceFP else a.priceFP < b.priceFP
  size : ∀ l ∈ levels, l.sizeFP = fusedSizeAt nowMs staleThresholdMs inputs isBid l.priceFP
  sorted : ∀ l ∈ levels, l.venues.Pairwise (· < ·)
  venues : ∀ l ∈ levels, ∀ v,
    v ∈ l.venues ↔ VenueAt nowMs staleThresholdMs inputs isBid l.priceFP v
  complete : ∀ price, (∃ v, VenueAt nowMs staleThresholdMs inputs isBid price v) ↔
    ∃ l ∈ levels, l.priceFP = price

/-- The sums of the sizes fit into 64 bits. -/
def SizesFit : Prop :=
  ∀ isBid price, InInt64 (fusedSizeAt nowMs staleThresholdMs inputs isBid price)

end Spec

/-- A side of the fused book before it is cut, as `FuseDepth` computes it. -/
def uncappedSide (nowMs : Int) (inputs : List FusionDepthInput) (mode : FusionMode)
    (staleThresholdMs : Int) (isBid : Bool) : List FusedLevel :=
  fuseLevels (filterActiveDepthInputs inputs nowMs staleThresholdMs).1 isBid mode

/-- The result of `FuseDepth` does not depend on the order of the inputs, and its sides are
the first levels of those specified. -/
structure FusesExactly (instrument : String) (nowMs : Int) (inputs : List FusionDepthInput)
    (mode : FusionMode) (staleThresholdMs : Int) : Prop where
  perm : ∀ inputs', inputs'.Perm inputs →
    fuseDepth instrument nowMs inputs' mode staleThresholdMs =
      fuseDepth instrument nowMs inputs mode staleThresholdMs
  sides : ∀ s, fuseDepth instrument nowMs inputs mode staleThresholdMs = .ok s →
    s.bids = (uncappedSide nowMs inputs mode staleThresholdMs true).take fusedDepthMaxLevels ∧
    s.asks = (uncappedSide nowMs inputs mode staleThresholdMs false).take fusedDepthMaxLevels ∧
    ∀ isBid, FusedSide nowMs staleThresholdMs inputs isBid
      (uncappedSide nowMs inputs mode staleThresholdMs isBid)

theorem fusedSizeAt_eq_zero
    {nowMs staleThresholdMs : Int} (h : ∀ inp ∈ inputs, inp.levelsAt isBid price = []) :
    fusedSizeAt nowMs staleThresholdMs inputs isBid price = 0 := by
  refine List.sum_eq_zero fun size hsize => ?_
  obtain ⟨inp, hinp, rfl⟩ := List.mem_map.mp hsize
  unfold FusionDepthInput.sizeAt
  rw [h inp (List.mem_of_mem_filter hinp)]
  rfl

/-! ## One merged level -/

theorem inInt64_fusionToFP (x : Float) : InInt64 (fusionToFP x) := by
  unfold fusionToFP floatToInt64
  split_ifs with h
  · decide
  · push Not at h
    exact h.2.2

/-- A merged level and the levels of which it consists. -/
structure Merged (items : List (String × Level)) (m : FusedLevel) : Prop where
  price : ∀ price, (∀ i ∈ items, fusionToFP i.2.price = price) → m.priceFP = price
  size : m.sizeFP = wrap64 (items.map fun i => fusionToFP i.2.quantity).sum
  nodup : m.venues.Nodup
  mem_venues : ∀ v, v ∈ m.venues ↔ ∃ i ∈ items, i.1 = v

theorem merged_of_group {items : List (String × Level)} {m : FusedLevel}
    (h : Groups.group startLevel extendLevel items = some m) : Merged items m := by
  refine Groups.group_induction (P := Merged) ?_ ?_ h
  · intro i
    refine ⟨fun price hprice => hprice i List.mem_cons_self, ?_, List.nodup_singleton _, ?_⟩
    · simp only [List.map_cons, List.map_nil, List.sum_cons, List.sum_nil, add_zero]
      exact (wrap64_eq_self (inInt64_fusionToFP _)).symm
    · simp [startLevel, eq_comm]
  · intro items m i hm
    refine ⟨?_, ?_, ?_, ?_⟩
    · intro price hprice
      exact hm.price price fun j hj => hprice j (List.mem_append_left _ hj)
    · simp only [List.map_append, List.map_cons, List.map_nil, List.sum_append, List.sum_cons,
        List.sum_nil, add_zero, extendLevel, hm.size]
      unfold wrap64
      omega
    · unfold extendLevel
      dsimp only
      split_ifs with hmem
      · exact hm.nodup
      · rw [List.nodup_append_comm]
        exact List.nodup_cons.mpr ⟨hmem, hm.nodup⟩
    · intro v
      have hvenues : v ∈ (extendLevel m i).venues ↔ v ∈ m.venues ∨ v = i.1 := by
        unfold extendLevel
        dsimp only
        split_ifs with hmem
        · exact ⟨Or.inl, fun h => h.elim id fun hv => hv ▸ hmem⟩
        · simp
      rw [hvenues, hm.mem_venues]
      simp only [List.mem_append, List.mem_singleton, or_and_right, exists_or, exists_eq_left]
      exact or_congr Iff.rfl eq_comm

/-! ## The levels of a side -/

/-- The valid levels of a side with their venues, in the order of the loops. -/
def sideItems (isBid : Bool) (inputs : List FusionDepthInput) : List (String × Level) :=
  inputs.flatMap fun inp => ((inp.side isBid).filter fun l => l.IsValid).map fun l => (inp.venue, l)

theorem collectLevels_eq (isBid : Bool) (inputs : List FusionDepthInput) :
    collectLevels isBid inputs =
      (sideItems isBid inputs).foldl
        (Groups.add (fun i => fusionToFP i.2.price) startLevel extendLevel) Groups.empty := by
  unfold collectLevels sideItems
  rw [List.foldl_flatMap]
  congr 1
  funext index inp
  rw [List.foldl_map, List.foldl_filter]
  simp

/-- The items at a price. -/
def itemsAt (isBid : Bool) (inputs : List FusionDepthInput) (price : Int) : List (String × Level) :=
  (sideItems isBid inputs).filter fun i => fusionToFP i.2.price = price

theorem itemsAt_eq (isBid : Bool) (inputs : List FusionDepthInput) (price : Int) :
    itemsAt isBid inputs price =
      inputs.flatMap fun inp => (inp.levelsAt isBid price).map fun l => (inp.venue, l) := by
  unfold itemsAt sideItems FusionDepthInput.levelsAt
  rw [List.filter_flatMap]
  congr 1
  funext inp
  rw [List.filter_map, List.filter_filter]
  congr 2
  funext l
  simp [and_comm]

theorem sum_itemsAt (isBid : Bool) (inputs : List FusionDepthInput) (price : Int) :
    ((itemsAt isBid inputs price).map fun i => fusionToFP i.2.quantity).sum =
      (inputs.map (FusionDepthInput.sizeAt isBid price)).sum := by
  rw [itemsAt_eq]
  induction inputs with
  | nil => rfl
  | cons inp inputs ih =>
    rw [List.flatMap_cons, List.map_append, List.sum_append, ih, List.map_cons, List.sum_cons,
      List.map_map]
    rfl

theorem exists_mem_itemsAt_iff {v : String} :
    (∃ i ∈ itemsAt isBid inputs price, i.1 = v) ↔
      ∃ inp ∈ inputs, inp.levelsAt isBid price ≠ [] ∧ inp.venue = v := by
  rw [itemsAt_eq]
  constructor
  · rintro ⟨i, hi, rfl⟩
    obtain ⟨inp, hinp, hi⟩ := List.mem_flatMap.mp hi
    obtain ⟨l, hl, rfl⟩ := List.mem_map.mp hi
    exact ⟨inp, hinp, List.ne_nil_of_mem hl, rfl⟩
  · rintro ⟨inp, hinp, hne, rfl⟩
    obtain ⟨l, hl⟩ := List.exists_mem_of_ne_nil _ hne
    exact ⟨(inp.venue, l), List.mem_flatMap.mpr ⟨inp, hinp, List.mem_map.mpr ⟨l, hl, rfl⟩⟩, rfl⟩

/-- The merged level as it is reported. -/
def FusedLevel.report (m : FusedLevel) : FusedLevel := { m with venues := sortBy id m.venues }

theorem fuseLevels_perm (inputs : List FusionDepthInput) (isBid : Bool) (mode : FusionMode) :
    (fuseLevels inputs isBid mode).Perm
      ((collectLevels isBid inputs).groups.map FusedLevel.report) := by
  unfold fuseLevels
  cases isBid with
  | false => exact perm_sortBy _ _
  | true => exact perm_sortBy _ _

/-- The group of a price consists of the items at this price. -/
theorem lookup_collectLevels (isBid : Bool) (inputs : List FusionDepthInput) (price : Int) :
    (collectLevels isBid inputs).index.lookup price =
      Groups.group startLevel extendLevel (itemsAt isBid inputs price) := by
  rw [collectLevels_eq]
  exact Groups.lookup_foldl_add _ _

theorem price_of_lookup
    {m : FusedLevel} (h : (collectLevels isBid inputs).index.lookup price = some m) :
    m.priceFP = price := by
  rw [lookup_collectLevels] at h
  refine (merged_of_group h).price price fun i hi => ?_
  simpa using (List.mem_filter.mp hi).2

theorem mem_fuseLevels_iff {mode : FusionMode} {l : FusedLevel} :
    l ∈ fuseLevels inputs isBid mode ↔
      ∃ m, Groups.group startLevel extendLevel (itemsAt isBid inputs l.priceFP) = some m ∧
        m.report = l := by
  rw [(fuseLevels_perm inputs isBid mode).mem_iff, List.mem_map]
  refine exists_congr fun m => and_congr_left ?_
  rintro rfl
  rw [Groups.mem_groups_iff price_of_lookup, lookup_collectLevels]
  rfl

theorem exists_level_iff {mode : FusionMode} :
    (∃ l ∈ fuseLevels inputs isBid mode, l.priceFP = price) ↔ itemsAt isBid inputs price ≠ [] := by
  rw [← Groups.exists_group_iff startLevel extendLevel]
  constructor
  · rintro ⟨l, hl, rfl⟩
    obtain ⟨m, hm, -⟩ := mem_fuseLevels_iff.mp hl
    exact ⟨m, hm⟩
  · rintro ⟨m, hm⟩
    have hprice : m.priceFP = price :=
      price_of_lookup ((lookup_collectLevels isBid inputs price).trans hm)
    subst hprice
    exact ⟨m.report, mem_fuseLevels_iff.mpr ⟨m, hm, rfl⟩, rfl⟩

theorem pairwise_fuseLevels (inputs : List FusionDepthInput) (isBid : Bool) (mode : FusionMode) :
    (fuseLevels inputs isBid mode).Pairwise fun a b =>
      if isBid then b.priceFP < a.priceFP else a.priceFP < b.priceFP := by
  have hne : ((collectLevels isBid inputs).groups.map FusedLevel.report).Pairwise
      fun a b => a.priceFP ≠ b.priceFP := by
    have hgroups : (collectLevels isBid inputs).groups.Pairwise
        fun a b => a.priceFP ≠ b.priceFP :=
      Groups.pairwise_groups _ fun _ _ h => price_of_lookup h
    exact List.pairwise_map.mpr hgroups
  unfold fuseLevels
  cases isBid with
  | false => exact pairwise_lt_sortBy hne
  | true =>
    have hne' : ((collectLevels true inputs).groups.map FusedLevel.report).Pairwise
        fun a b => OrderDual.toDual a.priceFP ≠ OrderDual.toDual b.priceFP := hne
    exact pairwise_lt_sortBy hne'

/-! ## The inputs that are merged -/

section Active

variable {nowMs staleThresholdMs : Int} {inputs : List FusionDepthInput}

/-- The inputs that are merged, before they are sorted. -/
theorem active_perm (nowMs staleThresholdMs : Int) (inputs : List FusionDepthInput) :
    (filterActiveDepthInputs inputs nowMs staleThresholdMs).1.Perm
      ((inputs.filter fun inp => inp.Contributes nowMs staleThresholdMs).filter
        fun inp => ¬ (inp.bids.isEmpty ∧ inp.asks.isEmpty)) := by
  unfold filterActiveDepthInputs
  refine (perm_sortBy _ _).trans (List.Perm.of_eq ?_)
  rw [List.filter_filter, List.filter_filter]
  congr 1
  funext inp
  unfold FusionDepthInput.Contributes
  grind

theorem levelsAt_eq_nil {inp : FusionDepthInput} (h : inp.bids.isEmpty ∧ inp.asks.isEmpty) :
    inp.levelsAt isBid price = [] := by
  unfold FusionDepthInput.levelsAt FusionDepthInput.side
  simp only [List.isEmpty_iff] at h
  rw [h.1, h.2]
  cases isBid <;> rfl

theorem sum_filter_of_eq_zero
    {α : Type} {p : α → Bool} {f : α → Int} {l : List α} (h : ∀ a ∈ l, p a = false → f a = 0) :
    ((l.filter p).map f).sum = (l.map f).sum := by
  induction l with
  | nil => rfl
  | cons a l ih =>
    obtain ⟨ha, hl⟩ := List.forall_mem_cons.mp h
    cases hp : p a with
    | false =>
      rw [List.filter_cons_of_neg (by simp [hp]), List.map_cons, List.sum_cons, ha hp,
        zero_add, ih hl]
    | true =>
      rw [List.filter_cons_of_pos hp, List.map_cons, List.map_cons, List.sum_cons,
        List.sum_cons, ih hl]

theorem sum_active (isBid : Bool) (price : Int) :
    (((filterActiveDepthInputs inputs nowMs staleThresholdMs).1).map
        (FusionDepthInput.sizeAt isBid price)).sum =
      fusedSizeAt nowMs staleThresholdMs inputs isBid price := by
  rw [((active_perm nowMs staleThresholdMs inputs).map _).sum_eq]
  refine sum_filter_of_eq_zero fun inp _ hempty => ?_
  have hlevels : inp.levelsAt isBid price = [] := levelsAt_eq_nil (by simpa using hempty)
  unfold FusionDepthInput.sizeAt
  rw [hlevels]
  rfl

theorem venueAt_active_iff {v : String} :
    (∃ inp ∈ (filterActiveDepthInputs inputs nowMs staleThresholdMs).1,
        inp.levelsAt isBid price ≠ [] ∧ inp.venue = v) ↔
      VenueAt nowMs staleThresholdMs inputs isBid price v := by
  unfold VenueAt
  refine exists_congr fun inp => ?_
  rw [(active_perm nowMs staleThresholdMs inputs).mem_iff, List.mem_filter, List.mem_filter]
  constructor
  · rintro ⟨⟨⟨hinp, hcontributes⟩, -⟩, hrest⟩
    exact ⟨hinp, by simpa using hcontributes, hrest⟩
  · rintro ⟨hinp, hcontributes, hlevels, hvenue⟩
    refine ⟨⟨⟨hinp, by simpa using hcontributes⟩, ?_⟩, hlevels, hvenue⟩
    exact decide_eq_true fun hempty => hlevels (levelsAt_eq_nil hempty)

/-- A side of the fused book meets its specification except for the sizes, which are
reduced to 64 bits. -/
theorem fusedSide_iff (mode : FusionMode) (isBid : Bool) :
    FusedSide nowMs staleThresholdMs inputs isBid
        (uncappedSide nowMs inputs mode staleThresholdMs isBid) ↔
      ∀ price, InInt64 (fusedSizeAt nowMs staleThresholdMs inputs isBid price) := by
  have hmerged : ∀ l ∈ uncappedSide nowMs inputs mode staleThresholdMs isBid, ∃ m,
      m.report = l ∧ Merged (itemsAt isBid
        (filterActiveDepthInputs inputs nowMs staleThresholdMs).1 l.priceFP) m := by
    intro l hl
    obtain ⟨m, hgroup, hreport⟩ := mem_fuseLevels_iff.mp hl
    exact ⟨m, hreport, merged_of_group hgroup⟩
  have hsize : ∀ l ∈ uncappedSide nowMs inputs mode staleThresholdMs isBid,
      l.sizeFP = wrap64 (fusedSizeAt nowMs staleThresholdMs inputs isBid l.priceFP) := by
    intro l hl
    obtain ⟨m, rfl, hm⟩ := hmerged l hl
    rw [← sum_active, ← sum_itemsAt]
    exact hm.size
  have hvenue : ∀ price, (∃ v, VenueAt nowMs staleThresholdMs inputs isBid price v) ↔
      ∃ l ∈ uncappedSide nowMs inputs mode staleThresholdMs isBid, l.priceFP = price := by
    intro price
    unfold uncappedSide
    rw [exists_level_iff]
    constructor
    · rintro ⟨v, hv⟩ hnil
      obtain ⟨i, hi, -⟩ := exists_mem_itemsAt_iff.mpr (venueAt_active_iff.mpr hv)
      rw [hnil] at hi
      cases hi
    · intro hne
      obtain ⟨i, hi⟩ := List.exists_mem_of_ne_nil _ hne
      exact ⟨i.1, venueAt_active_iff.mp (exists_mem_itemsAt_iff.mp ⟨i, hi, rfl⟩)⟩
  constructor
  · intro h price
    by_cases hprice : ∃ l ∈ uncappedSide nowMs inputs mode staleThresholdMs isBid,
        l.priceFP = price
    · obtain ⟨l, hl, rfl⟩ := hprice
      rw [← h.size l hl, hsize l hl]
      exact inInt64_wrap64 _
    · -- no level at this price: nothing is added
      have hnil : itemsAt isBid
          (filterActiveDepthInputs inputs nowMs staleThresholdMs).1 price = [] := by
        by_contra hne
        exact hprice (exists_level_iff.mpr hne)
      rw [← sum_active, ← sum_itemsAt, hnil]
      decide
  · intro hfit
    refine ⟨pairwise_fuseLevels _ _ _, ?_, ?_, ?_, hvenue⟩
    · intro l hl
      rw [hsize l hl, wrap64_eq_self (hfit l.priceFP)]
    · intro l hl
      obtain ⟨m, rfl, hm⟩ := hmerged l hl
      exact pairwise_lt_sortBy hm.nodup
    · intro l hl v
      obtain ⟨m, rfl, hm⟩ := hmerged l hl
      rw [← venueAt_active_iff, ← exists_mem_itemsAt_iff, ← hm.mem_venues]
      exact mem_sortBy

end Active

/-! ## The order of the inputs -/

section Order

variable {nowMs staleThresholdMs : Int} {inputs inputs' : List FusionDepthInput}

/-- The venues have different names. -/
def DistinctVenues (inputs : List FusionDepthInput) : Prop :=
  inputs.Pairwise fun a b => trimSpace a.venue ≠ trimSpace b.venue

theorem active_eq_of_perm (hdistinct : DistinctVenues inputs) (hperm : inputs'.Perm inputs) :
    (filterActiveDepthInputs inputs' nowMs staleThresholdMs).1 =
      (filterActiveDepthInputs inputs nowMs staleThresholdMs).1 := by
  unfold filterActiveDepthInputs
  refine sortBy_eq_of_perm ((perm_sortBy _ _).trans ((hperm.filter _).filter _).symm)
    (pairwise_sortBy _ _) ?_
  intro a ha b hb hvenue
  have ha' : a ∈ inputs' := List.mem_of_mem_filter (List.mem_of_mem_filter ha)
  have hb' : b ∈ inputs' := List.mem_of_mem_filter (List.mem_of_mem_filter hb)
  have hsymm : Std.Symm fun a b : FusionDepthInput =>
      trimSpace a.venue ≠ trimSpace b.venue := ⟨fun _ _ => Ne.symm⟩
  by_contra hne
  exact (List.Pairwise.forall hdistinct (hperm.mem_iff.mp ha') (hperm.mem_iff.mp hb') hne)
    (congrArg trimSpace hvenue)

/-- With different names, every named venue has its own entry. -/
theorem entries_foldl_insert {m : GoMap String Int} (hdistinct : DistinctVenues inputs)
    (hnew : ∀ inp ∈ inputs, trimSpace inp.venue ∉ m) :
    (inputs.foldl (fun m inp => m.insert (trimSpace inp.venue) inp.tsIngestMs)
        m).entries.Perm
      (m.entries ++ inputs.map fun inp => ⟨trimSpace inp.venue, inp.tsIngestMs⟩) := by
  induction inputs generalizing m with
  | nil =>
    rw [List.map_nil, List.append_nil]
    exact List.Perm.refl _
  | cons inp inputs ih =>
    obtain ⟨hne, hdistinct⟩ := List.pairwise_cons.mp hdistinct
    obtain ⟨hinp, hnew⟩ := List.forall_mem_cons.mp hnew
    have hnext := ih hdistinct (m := m.insert (trimSpace inp.venue) inp.tsIngestMs)
      fun other hother hmem => (AList.mem_insert _).mp hmem |>.elim
        (fun heq => hne other hother heq.symm) (hnew other hother)
    refine hnext.trans ?_
    rw [AList.entries_insert_of_notMem hinp, List.map_cons]
    exact List.perm_middle.symm

theorem buildSourceMix_eq_of_perm {m m' : GoMap String Int} (h : m'.entries.Perm m.entries) :
    buildSourceMix m' nowMs staleThresholdMs = buildSourceMix m nowMs staleThresholdMs := by
  unfold buildSourceMix
  congr 1
  refine sortBy_eq_of_perm ((perm_sortBy _ _).trans (h.map _).symm) (pairwise_sortBy _ _) ?_
  intro a ha b hb hvenue
  obtain ⟨e, he, rfl⟩ := List.mem_map.mp ha
  obtain ⟨f, hf, rfl⟩ := List.mem_map.mp hb
  -- the keys of the map are different
  have hef : e = f := m'.nodupKeys.eq_of_fst_eq he hf hvenue
  rw [hef]

theorem fuseDepth_perm (instrument : String) (mode : FusionMode)
    (hdistinct : DistinctVenues inputs) (hperm : inputs'.Perm inputs) :
    fuseDepth instrument nowMs inputs' mode staleThresholdMs =
      fuseDepth instrument nowMs inputs mode staleThresholdMs := by
  have hdistinct' : DistinctVenues inputs' := hperm.symm.pairwise hdistinct fun {_ _} => Ne.symm
  have hentries : ∀ {l : List FusionDepthInput}, DistinctVenues l →
      (filterActiveDepthInputs l nowMs staleThresholdMs).2.entries.Perm
        ((l.filter fun inp => trimSpace inp.venue ≠ "").map
          fun inp => ⟨trimSpace inp.venue, inp.tsIngestMs⟩) := by
    intro l hl
    exact entries_foldl_insert (hl.filter _) fun inp _ => AList.notMem_empty _
  have hmix : buildSourceMix (filterActiveDepthInputs inputs' nowMs staleThresholdMs).2
      nowMs staleThresholdMs =
        buildSourceMix (filterActiveDepthInputs inputs nowMs staleThresholdMs).2
          nowMs staleThresholdMs :=
    buildSourceMix_eq_of_perm
      ((hentries hdistinct').trans (((hperm.filter _).map _).trans (hentries hdistinct).symm))
  unfold fuseDepth
  dsimp only
  rw [active_eq_of_perm hdistinct hperm, hmix]

end Order

theorem exists_fuseDepth_ok
    {instrument : String} {nowMs : Int} {mode : FusionMode} {staleThresholdMs : Int}
    (inputs : List FusionDepthInput)
    (hvalid : validateFuseDepthArgs instrument nowMs mode staleThresholdMs = none) :
    ∃ s, fuseDepth instrument nowMs inputs mode staleThresholdMs = .ok s := by
  unfold fuseDepth
  rw [hvalid]
  exact ⟨_, rfl⟩

/-- With different names of the venues, the result of `FuseDepth` is the one specified
exactly if it is an error or the sums of the sizes fit into 64 bits. -/
theorem fusesExactly_iff
    (instrument : String) (nowMs : Int) (mode : FusionMode) (staleThresholdMs : Int)
    {inputs : List FusionDepthInput} (hdistinct : DistinctVenues inputs) :
    FusesExactly instrument nowMs inputs mode staleThresholdMs ↔
      (validateFuseDepthArgs instrument nowMs mode staleThresholdMs = none →
        SizesFit nowMs staleThresholdMs inputs) := by
  constructor
  · intro h hvalid isBid
    obtain ⟨s, hs⟩ := exists_fuseDepth_ok inputs hvalid
    exact (fusedSide_iff mode isBid).mp ((h.sides s hs).2.2 isBid)
  · intro hfit
    refine ⟨fun inputs' hperm => fuseDepth_perm instrument mode hdistinct hperm, ?_⟩
    intro s hs
    unfold fuseDepth at hs
    split at hs
    next p hp => cases hs
    next hvalid =>
      rw [← Except.ok.inj hs]
      exact ⟨rfl, rfl, fun isBid => (fusedSide_iff mode isBid).mpr (hfit hvalid isBid)⟩

/-- Two venues that bid one price, one of them twice. -/
def sampleInputs : List FusionDepthInput :=
  [⟨"kraken", 1000, 1, [⟨100, 1⟩, ⟨100, 2⟩], []⟩,
    ⟨"binance", 1000, 1, [⟨100, 3⟩, ⟨0, 1⟩], []⟩]

theorem fusesExactly_iff_sampleInputs : FusesExactly "BTCUSDT" 1500 sampleInputs .merge 1000 := by
  have hdistinct : DistinctVenues sampleInputs := by
    unfold DistinctVenues
    decide +kernel
  refine (fusesExactly_iff "BTCUSDT" 1500 .merge 1000 hdistinct).mpr fun _ isBid price => ?_
  -- all bids have one price
  by_cases hprice : isBid = true ∧ price = 10000000000
  · obtain ⟨rfl, rfl⟩ := hprice
    decide +kernel
  · have hlevels : ∀ isBid, ∀ inp ∈ sampleInputs, ∀ l ∈ inp.side isBid, l.IsValid →
        isBid = true ∧ fusionToFP l.price = 10000000000 := by decide +kernel
    rw [fusedSizeAt_eq_zero]
    · decide
    · intro inp hinp
      refine List.filter_eq_nil_iff.mpr fun l hl hat => hprice ?_
      obtain ⟨hvalid, rfl⟩ := of_decide_eq_true hat
      exact hlevels isBid inp hinp l hl hvalid

/-- Two venues that bid a quantity of `5e10` at one price. -/
def largeInputs : List FusionDepthInput :=
  [⟨"kraken", 1000, 1, [⟨0.001, 50000000000⟩], []⟩,
    ⟨"binance", 1000, 1, [⟨0.001, 50000000000⟩], []⟩]

/-- The sum of the two quantities has wrapped around to a negative size. -/
theorem not_fusesExactly_largeInputs :
    DistinctVenues largeInputs ∧
      ¬ FusesExactly "BTCUSDT" 1500 largeInputs .merge 1000 := by
  constructor
  · unfold DistinctVenues
    decide +kernel
  · intro h
    have hvalid : validateFuseDepthArgs "BTCUSDT" 1500 .merge 1000 = none := by decide +kernel
    obtain ⟨s, hok⟩ := exists_fuseDepth_ok largeInputs hvalid
    have hside := (h.sides s hok).2.2 true
    have hlevel : ⟨100000, 10000000000000000000 - 2 ^ 64, ["binance", "kraken"]⟩ ∈
        uncappedSide 1500 largeInputs .merge 1000 true := by decide +kernel
    exact absurd (hside.size _ hlevel) (by decide +kernel)

end Aggregation
end StreamAnalytics
