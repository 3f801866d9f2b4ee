import Mathlib.Data.Rat.Floor
import StreamAnalytics.Lib.OrderedList

/-!
# Grouped book levels

Model of `grouped_book.go` in `internal/core/aggregation/domain`, with exact prices and
quantities.  `GroupLevels` puts the levels of one side of a book into buckets of a given size.
It merges a level only into the last bucket; on a sorted side this is enough
(`groupLevels_spec`).
-/

namespace StreamAnalytics
namespace Aggregation
namespace GroupedBook

open OrderedList

/-- A level of a book. -/
structure RawLevel where
  price : ℚ
  quantity : ℚ
deriving Repr, DecidableEq

/-- `GroupedLevel`. -/
structure GroupedLevel where
  price : ℚ
  totalQuantity : ℚ
  levelCount : Nat
  cumulativeQuantity : ℚ := 0
deriving Repr, DecidableEq

/-- The bucket of a price. -/
def bucketOf (groupSize price : ℚ) : ℚ := ⌊price / groupSize⌋ * groupSize

/-- The first level of a bucket. -/
def GroupedLevel.start (groupSize : ℚ) (level : RawLevel) : GroupedLevel where
  price := bucketOf groupSize level.price
  totalQuantity := level.quantity
  levelCount := 1

/-- A further level of a bucket. -/
def GroupedLevel.add (b : GroupedLevel) (level : RawLevel) : GroupedLevel :=
  { b with totalQuantity := b.totalQuantity + level.quantity, levelCount := b.levelCount + 1 }

/--
A valid level in the loop of `GroupLevels`.  The last bucket of `out` comes first; `none` leaves
the loop.
-/
def place (groupSize : ℚ) (maxRows : Int) (level : RawLevel) :
    List GroupedLevel → Option (List GroupedLevel)
  | [] => some [.start groupSize level]
  | last :: done =>
    if last.price = bucketOf groupSize level.price then some (last.add level :: done)
    else if 0 < maxRows ∧ maxRows ≤ (last :: done).length then none
    else some (.start groupSize level :: last :: done)

/-- The loop of `GroupLevels`. -/
def groupLoop (groupSize : ℚ) (maxRows : Int) (out : List GroupedLevel) :
    List RawLevel → List GroupedLevel
  | [] => out
  | level :: levels =>
    if level.price ≤ 0 ∨ level.quantity < 0 then groupLoop groupSize maxRows out levels
    else
      match place groupSize maxRows level out with
      | none => out
      | some out => groupLoop groupSize maxRows out levels

/-- `GroupLevels`. -/
def groupLevels (levels : List RawLevel) (groupSize : ℚ) (maxRows : Int) : List GroupedLevel :=
  let groupSize := if groupSize ≤ 0 then 1 else groupSize
  (groupLoop groupSize maxRows [] levels).reverse

/-- The loop of `FillCumulative`. -/
def fillFrom (running : ℚ) : List GroupedLevel → List GroupedLevel
  | [] => []
  | b :: bs =>
    { b with cumulativeQuantity := running + b.totalQuantity } ::
      fillFrom (running + b.totalQuantity) bs

/-- `FillCumulative`. -/
def fillCumulative (grouped : List GroupedLevel) : List GroupedLevel := fillFrom 0 grouped

/-! ## Buckets in the order of a side -/

section Ahead

variable {desc : Bool} {p q : ℚ}

theorem bucketOf_mono {groupSize : ℚ} (hsize : 0 < groupSize) : Monotone (bucketOf groupSize) := by
  intro p q hpq
  have hfloor : ⌊p / groupSize⌋ ≤ ⌊q / groupSize⌋ :=
    Int.floor_le_floor (div_le_div_of_nonneg_right hpq hsize.le)
  exact mul_le_mul_of_nonneg_right (Int.cast_le.mpr hfloor) hsize.le

theorem not_ahead_bucketOf {groupSize : ℚ} (hsize : 0 < groupSize) (h : ¬ Ahead desc q p) :
    ¬ Ahead desc (bucketOf groupSize q) (bucketOf groupSize p) := by
  cases desc with
  | false => exact not_lt.mpr (bucketOf_mono hsize (not_lt.mp h))
  | true => exact not_lt.mpr (bucketOf_mono hsize (not_lt.mp h))

end Ahead

/-! ## The loop -/

/-- The levels of a bucket. -/
def levelsIn (groupSize : ℚ) (levels : List RawLevel) (bucket : ℚ) : List RawLevel :=
  levels.filter fun level => bucketOf groupSize level.price = bucket

/-- The bucket sums up the levels that belong to it. -/
def SumsUp (groupSize : ℚ) (levels : List RawLevel) (b : GroupedLevel) : Prop :=
  b.totalQuantity = ((levelsIn groupSize levels b.price).map RawLevel.quantity).sum ∧
    b.levelCount = (levelsIn groupSize levels b.price).length

/-- The buckets, the last one first, are those of the levels. -/
structure Groups (groupSize : ℚ) (desc : Bool) (levels : List RawLevel)
    (out : List GroupedLevel) : Prop where
  ordered : out.Pairwise fun b a => Ahead desc a.price b.price
  sums : ∀ b ∈ out, SumsUp groupSize levels b
  used : ∀ b ∈ out, ∃ level ∈ levels, bucketOf groupSize level.price = b.price
  complete : ∀ level ∈ levels, ∃ b ∈ out, b.price = bucketOf groupSize level.price

section Loop

variable {groupSize : ℚ} {desc : Bool} {done : List RawLevel} {level : RawLevel}
  {last : GroupedLevel} {out : List GroupedLevel}

theorem levelsIn_concat (bucket : ℚ) :
    levelsIn groupSize (done ++ [level]) bucket =
      levelsIn groupSize done bucket ++
        if bucketOf groupSize level.price = bucket then [level] else [] := by
  unfold levelsIn
  rw [List.filter_append, List.filter_singleton]
  by_cases h : bucketOf groupSize level.price = bucket <;> simp [h]

theorem SumsUp.concat {b : GroupedLevel}
    (h : SumsUp groupSize done b) (hne : bucketOf groupSize level.price ≠ b.price) :
    SumsUp groupSize (done ++ [level]) b := by
  unfold SumsUp
  rw [levelsIn_concat, if_neg hne, List.append_nil]
  exact h

/-- A bucket with a further level, behind buckets that keep their levels. -/
theorem Groups.concat {b : GroupedLevel} (hprice : b.price = bucketOf groupSize level.price)
    (hsum : SumsUp groupSize (done ++ [level]) b)
    (hordered : (b :: out).Pairwise fun b a => Ahead desc a.price b.price)
    (hrest : ∀ a ∈ out, SumsUp groupSize done a ∧
      ∃ l ∈ done, bucketOf groupSize l.price = a.price)
    (hcomplete : ∀ l ∈ done, ∃ a ∈ b :: out, a.price = bucketOf groupSize l.price) :
    Groups groupSize desc (done ++ [level]) (b :: out) := by
  have hbehind := (List.pairwise_cons.mp hordered).1
  refine ⟨hordered, List.forall_mem_cons.mpr ⟨hsum, fun a ha => ?_⟩,
    List.forall_mem_cons.mpr ⟨⟨level, by simp, hprice.symm⟩, fun a ha => ?_⟩, fun l hl => ?_⟩
  · exact (hrest a ha).1.concat (hprice ▸ (hbehind a ha).ne.symm)
  · obtain ⟨l, hl, heq⟩ := (hrest a ha).2
    exact ⟨l, List.mem_append_left _ hl, heq⟩
  · obtain hl | hl := List.mem_append.mp hl
    · exact hcomplete l hl
    · rw [List.mem_singleton.mp hl]
      exact ⟨b, List.mem_cons_self, hprice⟩

/-- A further level of the last bucket. -/
theorem Groups.add (h : Groups groupSize desc done (last :: out))
    (hlast : last.price = bucketOf groupSize level.price) :
    Groups groupSize desc (done ++ [level]) (last.add level :: out) := by
  obtain ⟨htotal, hcount⟩ := h.sums last List.mem_cons_self
  have hlevels : levelsIn groupSize (done ++ [level]) last.price =
      levelsIn groupSize done last.price ++ [level] := by
    rw [levelsIn_concat, if_pos hlast.symm]
  refine .concat hlast ⟨?_, ?_⟩ (List.pairwise_cons.mpr (List.pairwise_cons.mp h.ordered))
    (fun a ha => ⟨h.sums a (.tail _ ha), h.used a (.tail _ ha)⟩) fun l hl => ?_
  · change last.totalQuantity + level.quantity = _
    rw [show (last.add level).price = last.price from rfl, hlevels, htotal]
    simp
  · change last.levelCount + 1 = _
    rw [show (last.add level).price = last.price from rfl, hlevels, hcount]
    simp
  · obtain ⟨b, hb, heq⟩ := h.complete l hl
    obtain rfl | hb := List.mem_cons.mp hb
    · exact ⟨b.add level, List.mem_cons_self, heq⟩
    · exact ⟨b, .tail _ hb, heq⟩

/-- The first level of a new bucket, behind all others. -/
theorem Groups.start (h : Groups groupSize desc done out)
    (hnew : ∀ b ∈ out, Ahead desc b.price (bucketOf groupSize level.price)) :
    Groups groupSize desc (done ++ [level]) (.start groupSize level :: out) := by
  have hfresh : levelsIn groupSize done (bucketOf groupSize level.price) = [] := by
    refine List.filter_eq_nil_iff.mpr fun l hl => ?_
    obtain ⟨b, hb, heq⟩ := h.complete l hl
    rw [decide_eq_true_eq, ← heq]
    exact (hnew b hb).ne
  have hone : levelsIn groupSize (done ++ [level]) (bucketOf groupSize level.price) = [level] := by
    rw [levelsIn_concat, if_pos rfl, hfresh, List.nil_append]
  refine .concat rfl ⟨?_, (congrArg List.length hone).symm⟩
    (List.pairwise_cons.mpr ⟨hnew, h.ordered⟩) (fun a ha => ⟨h.sums a ha, h.used a ha⟩) fun l hl => ?_
  · change level.quantity = ((levelsIn groupSize (done ++ [level])
      (bucketOf groupSize level.price)).map RawLevel.quantity).sum
    rw [hone]
    simp
  · obtain ⟨b, hb, heq⟩ := h.complete l hl
    exact ⟨b, .tail _ hb, heq⟩

/-- A valid level. -/
def RawLevel.Valid (level : RawLevel) : Prop := 0 < level.price ∧ 0 ≤ level.quantity

/-- The levels are in the order of their side. -/
def Sorted (desc : Bool) (levels : List RawLevel) : Prop :=
  levels.Pairwise fun a b => ¬ Ahead desc b.price a.price

theorem RawLevel.Valid.not_skipped (h : level.Valid) : ¬ (level.price ≤ 0 ∨ level.quantity < 0) :=
  not_or.mpr ⟨not_le.mpr h.1, not_lt.mpr h.2⟩

/-- Without a cap the loop groups all levels. -/
theorem Groups.loop
    (hsize : 0 < groupSize) {levels : List RawLevel} (h : Groups groupSize desc done out)
    (hvalid : ∀ l ∈ levels, l.Valid) (hsorted : Sorted desc (done ++ levels)) :
    Groups groupSize desc (done ++ levels) (groupLoop groupSize 0 out levels) := by
  induction levels generalizing done out with
  | nil =>
    rw [List.append_nil]
    exact h
  | cons level levels ih =>
    have hrest := fun l hl => hvalid l (List.mem_cons_of_mem _ hl)
    have hsplit : done ++ level :: levels = (done ++ [level]) ++ levels := by simp
    -- the bucket of the level is not ahead of the buckets so far
    have hbehind : ∀ b ∈ out, ¬ Ahead desc (bucketOf groupSize level.price) b.price := by
      intro b hb
      obtain ⟨l, hl, heq⟩ := h.used b hb
      rw [← heq]
      refine not_ahead_bucketOf hsize ?_
      exact (List.pairwise_append.mp hsorted).2.2 l hl level List.mem_cons_self
    rw [hsplit] at hsorted ⊢
    rw [groupLoop, if_neg (hvalid level List.mem_cons_self).not_skipped]
    cases out with
    | nil => exact ih (h.start fun b hb => nomatch hb) hrest hsorted
    | cons last rest =>
      rw [place]
      by_cases hlast : last.price = bucketOf groupSize level.price
      · rw [if_pos hlast]
        exact ih (h.add hlast) hrest hsorted
      · rw [if_neg hlast, if_neg fun hcap => absurd hcap.1 (lt_irrefl 0)]
        refine ih (h.start fun b hb => ?_) hrest hsorted
        have hnotAhead := hbehind last List.mem_cons_self
        obtain rfl | hb := List.mem_cons.mp hb
        · exact ahead_of_not_ahead_of_ne hnotAhead hlast
        · exact ((List.pairwise_cons.mp h.ordered).1 b hb).trans_not_ahead hnotAhead

/-- What is behind the last bucket is not changed any more. -/
theorem suffix_groupLoop (levels : List RawLevel) (last : GroupedLevel) (out : List GroupedLevel) :
    ∃ more, groupLoop groupSize 0 (last :: out) levels = more ++ out := by
  induction levels generalizing last out with
  | nil => exact ⟨[last], rfl⟩
  | cons level levels ih =>
    rw [groupLoop, place]
    by_cases hskip : level.price ≤ 0 ∨ level.quantity < 0
    · rw [if_pos hskip]
      exact ih last out
    · rw [if_neg hskip]
      by_cases hlast : last.price = bucketOf groupSize level.price
      · rw [if_pos hlast]
        exact ih (last.add level) out
      · rw [if_neg hlast, if_neg fun hcap => absurd hcap.1 (lt_irrefl 0)]
        obtain ⟨more, hmore⟩ := ih (.start groupSize level) (last :: out)
        refine ⟨more ++ [last], hmore.trans ?_⟩
        rw [List.append_assoc]
        rfl

/-- The cap keeps the first buckets. -/
theorem groupLoop_eq_take {maxRows : Int} (hrows : 0 < maxRows) (levels : List RawLevel)
    (hlength : (out.length : Int) ≤ maxRows) :
    (groupLoop groupSize maxRows out levels).reverse =
      (groupLoop groupSize 0 out levels).reverse.take maxRows.toNat := by
  induction levels generalizing out with
  | nil =>
    rw [groupLoop, groupLoop, List.take_of_length_le]
    rw [List.length_reverse]
    omega
  | cons level levels ih =>
    rw [groupLoop, groupLoop]
    by_cases hskip : level.price ≤ 0 ∨ level.quantity < 0
    · rw [if_pos hskip, if_pos hskip]
      exact ih hlength
    · rw [if_neg hskip, if_neg hskip]
      cases out with
      | nil => exact ih (Int.add_one_le_of_lt hrows)
      | cons last out =>
        rw [place, place, if_neg fun hcap : (0 : Int) < 0 ∧ _ => absurd hcap.1 (lt_irrefl 0)]
        by_cases hlast : last.price = bucketOf groupSize level.price
        · rw [if_pos hlast, if_pos hlast]
          exact ih hlength
        · rw [if_neg hlast, if_neg hlast]
          by_cases hcap : 0 < maxRows ∧ maxRows ≤ (last :: out).length
          · rw [if_pos hcap]
            obtain ⟨more, hmore⟩ :
                ∃ more, groupLoop groupSize 0 (.start groupSize level :: last :: out) levels =
                  more ++ last :: out :=
              suffix_groupLoop levels _ _
            have htake : maxRows.toNat = (last :: out).reverse.length := by
              rw [List.length_reverse]
              omega
            dsimp only
            rw [hmore, List.reverse_append, htake, List.take_left]
          · rw [if_neg hcap]
            refine ih ?_
            rw [List.length_cons]
            omega

end Loop

/-! ## Results -/

theorem fillFrom_spec (running : ℚ) (grouped : List GroupedLevel) :
    (fillFrom running grouped).map (fun b => (b.price, b.totalQuantity, b.levelCount)) =
        grouped.map (fun b => (b.price, b.totalQuantity, b.levelCount)) ∧
      ∀ i b, (fillFrom running grouped)[i]? = some b →
        b.cumulativeQuantity =
          running + ((grouped.take (i + 1)).map GroupedLevel.totalQuantity).sum := by
  induction grouped generalizing running with
  | nil => exact ⟨rfl, fun i b h => nomatch h⟩
  | cons b bs ih =>
    obtain ⟨hsame, hsums⟩ := ih (running + b.totalQuantity)
    constructor
    · rw [fillFrom, List.map_cons, List.map_cons, hsame]
    · intro i b' hb'
      rw [fillFrom] at hb'
      cases i with
      | zero =>
        cases hb'
        simp
      | succ i =>
        rw [List.getElem?_cons_succ] at hb'
        rw [hsums i b' hb', List.take_succ_cons, List.map_cons, List.sum_cons]
        ring

/-- What `GroupLevels` and `FillCumulative` return for the levels of a side. -/
structure GroupedSide (groupSize : ℚ) (desc : Bool) (maxRows : Int) (levels : List RawLevel)
    (out : List GroupedLevel) : Prop where
  ordered : out.Pairwise fun a b => Ahead desc a.price b.price
  sums : ∀ b ∈ out, SumsUp groupSize levels b
  complete : maxRows ≤ 0 → ∀ level ∈ levels, ∃ b ∈ out, b.price = bucketOf groupSize level.price
  capped : out = if maxRows ≤ 0 then groupLevels levels groupSize 0
    else (groupLevels levels groupSize 0).take maxRows.toNat
  kept : (fillCumulative out).map (fun b => (b.price, b.totalQuantity, b.levelCount)) =
    out.map (fun b => (b.price, b.totalQuantity, b.levelCount))
  cumulative : ∀ i b, (fillCumulative out)[i]? = some b →
    b.cumulativeQuantity = ((out.take (i + 1)).map GroupedLevel.totalQuantity).sum

/-- The cap does not matter if it is not positive. -/
theorem groupLoop_of_nonpos {groupSize : ℚ} {maxRows : Int}
    (h : maxRows ≤ 0) (out : List GroupedLevel) (levels : List RawLevel) :
    groupLoop groupSize maxRows out levels = groupLoop groupSize 0 out levels := by
  have hplace : ∀ level out, place groupSize maxRows level out = place groupSize 0 level out := by
    intro level out
    cases out with
    | nil => rfl
    | cons last out =>
      rw [place, place, if_neg fun hcap : 0 < maxRows ∧ _ => absurd hcap.1 (not_lt.mpr h),
        if_neg fun hcap : (0 : Int) < 0 ∧ _ => absurd hcap.1 (lt_irrefl 0)]
  induction levels generalizing out with
  | nil => rfl
  | cons level levels ih =>
    rw [groupLoop, groupLoop, hplace]
    simp only [ih]

/-- On a sorted side with valid levels the buckets are exactly those of the levels. -/
theorem groupLevels_spec
    (levels : List RawLevel) (hvalid : ∀ level ∈ levels, level.Valid) (desc : Bool)
    (hsorted : Sorted desc levels) (groupSize : ℚ) (hsize : 0 < groupSize) (maxRows : Int) :
    GroupedSide groupSize desc maxRows levels (groupLevels levels groupSize maxRows) := by
  have hnone : Groups groupSize desc [] [] := by
    constructor <;> simp
  have hgroups : Groups groupSize desc levels (groupLoop groupSize 0 [] levels) :=
    hnone.loop hsize hvalid hsorted
  have hloop : ∀ maxRows, groupLevels levels groupSize maxRows =
      (groupLoop groupSize maxRows [] levels).reverse := by
    intro maxRows
    unfold groupLevels
    rw [if_neg (not_le.mpr hsize)]
  have hcapped : groupLevels levels groupSize maxRows =
      if maxRows ≤ 0 then groupLevels levels groupSize 0
      else (groupLevels levels groupSize 0).take maxRows.toNat := by
    rw [hloop, hloop]
    split_ifs with hrows
    · rw [groupLoop_of_nonpos hrows]
    · exact groupLoop_eq_take (not_le.mp hrows) levels (not_le.mp hrows).le
  have hsublist : (groupLevels levels groupSize maxRows).Sublist
      (groupLoop groupSize 0 [] levels).reverse := by
    rw [hcapped, hloop 0]
    split_ifs
    · exact List.Sublist.refl _
    · exact List.take_sublist _ _
  obtain ⟨hkept, hcumulative⟩ := fillFrom_spec 0 (groupLevels levels groupSize maxRows)
  refine ⟨(List.pairwise_reverse.mpr hgroups.ordered).sublist hsublist, ?_, ?_, hcapped, hkept, ?_⟩
  · intro b hb
    exact hgroups.sums b (List.mem_reverse.mp (hsublist.subset hb))
  · intro hrows level hlevel
    rw [hcapped, if_pos hrows, hloop]
    obtain ⟨b, hb, hprice⟩ := hgroups.complete level hlevel
    exact ⟨b, List.mem_reverse.mpr hb, hprice⟩
  · intro i b hb
    rw [hcumulative i b hb, zero_add]

/-- Four bids in buckets of ten, with at most two rows. -/
theorem groupLevels_spec_bids :
    GroupedSide 10 true 2 [⟨105, 1⟩, ⟨101, 2⟩, ⟨99, 3⟩, ⟨80, 4⟩]
      (groupLevels [⟨105, 1⟩, ⟨101, 2⟩, ⟨99, 3⟩, ⟨80, 4⟩] 10 2) :=
  groupLevels_spec _ (by simp [RawLevel.Valid]) true
    (by norm_num [Sorted, Ahead]) 10 (by decide) 2

end GroupedBook
end Aggregation
end StreamAnalytics
