import Mathlib.Algebra.Order.Ring.Rat
import Mathlib.Algebra.BigOperators.Group.List.Basic
import Mathlib.Tactic.Linarith

/-!
# The value area of a volume profile

Model of `ComputeValueArea` (`internal/core/insights/domain/session_volume_profile.go`) in exact
arithmetic.  The area starts with the bucket of the highest volume and takes in, as long as it
holds too little volume, the neighbour with the larger volume.
-/

namespace StreamAnalytics
namespace Insights

/-- The fields of `VolumeProfileBucketV1` that the value area depends on. -/
structure VolumeProfileBucketV1 where
  priceLow : ℚ
  priceHigh : ℚ
  totalVolume : ℚ

/-- The variables of the loop of `ComputeValueArea`. -/
structure ValueArea where
  lo : Nat
  hi : Nat
  accum : ℚ

variable (buckets : List VolumeProfileBucketV1)

/-- The total volume. -/
def totalVolume : ℚ := (buckets.map VolumeProfileBucketV1.totalVolume).sum

/-- The volume of a bucket; `none` is an index out of range. -/
def volumeAt (i : Nat) : Option ℚ := buckets[i]?.map VolumeProfileBucketV1.totalVolume

/-- The body of the loop; `none` is also its last branch, which the loop's condition excludes. -/
def ValueArea.widen (a : ValueArea) : Option ValueArea := do
  let volLo ← (if 0 < a.lo then volumeAt buckets (a.lo - 1) else some 0)
  let volHi ← (if a.hi + 1 < buckets.length then volumeAt buckets (a.hi + 1) else some 0)
  if volHi ≤ volLo ∧ 0 < a.lo then some ⟨a.lo - 1, a.hi, a.accum + volLo⟩
  else if a.hi + 1 < buckets.length then some ⟨a.lo, a.hi + 1, a.accum + volHi⟩
  else if 0 < a.lo then some ⟨a.lo - 1, a.hi, a.accum + volLo⟩
  else none

/-- The loop of `ComputeValueArea`, for at most `fuel` iterations. -/
def expand (target : ℚ) : Nat → ValueArea → Option ValueArea
  | 0, _ => none
  | fuel + 1, a =>
    if a.accum < target ∧ (0 < a.lo ∨ a.hi + 1 < buckets.length) then do
      expand target fuel (← a.widen buckets)
    else some a

/-- `ComputeValueArea`: the upper and the lower end. -/
def computeValueArea (pocIdx : Nat) (pct : ℚ) : Option (ℚ × ℚ) :=
  if buckets.length = 0 then some (0, 0)
  else if totalVolume buckets ≤ 0 then do
    return ((← buckets[0]?).priceLow, (← buckets[buckets.length - 1]?).priceHigh)
  else do
    let a ← expand buckets (totalVolume buckets * pct) buckets.length
      ⟨pocIdx, pocIdx, ← volumeAt buckets pocIdx⟩
    return ((← buckets[a.hi]?).priceHigh, (← buckets[a.lo]?).priceLow)

/-! ## The area of the loop -/

/-- The area is a run of buckets around the index, with the volume of the run. -/
structure Covers (pocIdx : Nat) (a : ValueArea) : Prop where
  lo_le : a.lo ≤ pocIdx
  le_hi : pocIdx ≤ a.hi
  hi_lt : a.hi < buckets.length
  accum_eq : a.accum = totalVolume ((buckets.take (a.hi + 1)).drop a.lo)

variable {buckets} {pocIdx : Nat} {a : ValueArea}

/-- The volume of a run is what the buckets up to its end hold more than those before it. -/
theorem totalVolume_run {lo hi : Nat} (h : lo ≤ hi) :
    totalVolume ((buckets.take hi).drop lo) =
      totalVolume (buckets.take hi) - totalVolume (buckets.take lo) := by
  have hsplit := List.take_append_drop lo (buckets.take hi)
  rw [List.take_take, min_eq_left h] at hsplit
  unfold totalVolume
  rw [← hsplit, List.map_append, List.sum_append, hsplit, add_sub_cancel_left]

/-- The volume of a neighbour, if there is one. -/
theorem exists_volumeAt {p : Prop} [Decidable p] {i : Nat} (hi : p → i < buckets.length) :
    ∃ v, (if p then volumeAt buckets i else some 0) = some v ∧
      (p → totalVolume (buckets.take (i + 1)) = totalVolume (buckets.take i) + v) := by
  by_cases hp : p
  · have hi := hi hp
    refine ⟨buckets[i].totalVolume, by simp [hp, volumeAt, hi], fun _ => ?_⟩
    unfold totalVolume
    rw [List.take_succ_eq_append_getElem hi, List.map_append, List.sum_append, List.map_singleton,
      List.sum_singleton]
  · exact ⟨0, if_neg hp, fun h => absurd h hp⟩

/-- While the area is not the whole list, an iteration takes in one more bucket. -/
theorem Covers.widen (h : Covers buckets pocIdx a) (hmore : 0 < a.lo ∨ a.hi + 1 < buckets.length) :
    ∃ a', a.widen buckets = some a' ∧ Covers buckets pocIdx a' ∧
      a'.hi - a'.lo = a.hi - a.lo + 1 := by
  obtain ⟨hlo, hhi, hlt, haccum⟩ := h
  rw [totalVolume_run (by omega)] at haccum
  obtain ⟨volLo, hvolLo, htakeLo⟩ := exists_volumeAt (p := 0 < a.lo)
    (by omega : 0 < a.lo → a.lo - 1 < buckets.length)
  obtain ⟨volHi, hvolHi, htakeHi⟩ := exists_volumeAt (i := a.hi + 1) id
  have hlow : 0 < a.lo → Covers buckets pocIdx ⟨a.lo - 1, a.hi, a.accum + volLo⟩ := by
    refine fun hpos => ⟨(Nat.sub_le _ _).trans hlo, hhi, hlt, ?_⟩
    have htake := htakeLo hpos
    rw [Nat.sub_add_cancel hpos] at htake
    rw [totalVolume_run (by dsimp only; omega), haccum]
    linarith
  have hhigh : a.hi + 1 < buckets.length →
      Covers buckets pocIdx ⟨a.lo, a.hi + 1, a.accum + volHi⟩ := by
    refine fun hmore => ⟨hlo, hhi.trans (Nat.le_succ _), hmore, ?_⟩
    rw [totalVolume_run (by dsimp only; omega), haccum, htakeHi hmore]
    linarith
  unfold ValueArea.widen
  simp only [hvolLo, hvolHi, Option.bind_eq_bind, Option.bind_some]
  split_ifs with hleft hright hleft'
  · exact ⟨_, rfl, hlow hleft.2, by dsimp only; omega⟩
  · exact ⟨_, rfl, hhigh hright, by dsimp only; omega⟩
  · exact ⟨_, rfl, hlow hleft', by dsimp only; omega⟩
  · exact absurd hmore (not_or.mpr ⟨hleft', hright⟩)

/-- The loop ends with an area that holds the target, or held too little one iteration before. -/
theorem Covers.expand {target : ℚ} (htarget : target ≤ totalVolume buckets) {fuel : Nat}
    (h : Covers buckets pocIdx a) (hfuel : buckets.length ≤ fuel + (a.hi - a.lo)) :
    ∃ a', expand buckets target fuel a = some a' ∧ Covers buckets pocIdx a' ∧
      target ≤ a'.accum ∧
      (a' = a ∨ ∃ b, Covers buckets pocIdx b ∧ b.accum < target ∧ b.widen buckets = some a') := by
  induction fuel generalizing a with
  | zero =>
    have := h.hi_lt
    omega
  | succ fuel ih =>
    unfold Insights.expand
    by_cases hcond : a.accum < target ∧ (0 < a.lo ∨ a.hi + 1 < buckets.length)
    · rw [if_pos hcond]
      obtain ⟨a₁, hwiden, hcovers, hsize⟩ := h.widen hcond.2
      obtain ⟨a', hexpand, hcovers', hreached, hlast⟩ := ih hcovers (by omega)
      refine ⟨a', by rw [hwiden]; exact hexpand, hcovers', hreached, .inr ?_⟩
      rcases hlast with rfl | hlast
      · exact ⟨a, h, hcond.1, hwiden⟩
      · exact hlast
    · rw [if_neg hcond]
      refine ⟨a, rfl, h, ?_, .inl rfl⟩
      by_contra hlow
      -- the area is the whole list
      have hall : a.lo = 0 ∧ buckets.length ≤ a.hi + 1 := by
        have := not_and.mp hcond (not_le.mp hlow)
        omega
      have haccum := h.accum_eq
      rw [hall.1, List.drop_zero, List.take_of_length_le hall.2] at haccum
      exact hlow (haccum ▸ htarget)

/--
The value area is a run of buckets around the given index.  It holds the demanded share of the
volume, and unless it is a single bucket, it held less before its last expansion.
-/
theorem computeValueArea_spec {pct : ℚ} (hpoc : pocIdx < buckets.length)
    (htotal : 0 < totalVolume buckets) (hpct : pct ≤ 1) :
    ∃ a top bottom, computeValueArea buckets pocIdx pct = some (top.priceHigh, bottom.priceLow) ∧
      buckets[a.hi]? = some top ∧ buckets[a.lo]? = some bottom ∧ Covers buckets pocIdx a ∧
      totalVolume buckets * pct ≤ a.accum ∧
      ((a.lo = pocIdx ∧ a.hi = pocIdx) ∨ ∃ b, Covers buckets pocIdx b ∧
        b.accum < totalVolume buckets * pct ∧ b.widen buckets = some a) := by
  obtain ⟨v, hv, htake⟩ := exists_volumeAt fun _ : True => hpoc
  rw [if_pos trivial] at hv
  have hstart : Covers buckets pocIdx ⟨pocIdx, pocIdx, v⟩ := by
    refine ⟨le_rfl, le_rfl, hpoc, ?_⟩
    rw [totalVolume_run (Nat.le_succ _), htake trivial, add_sub_cancel_left]
  have htarget := mul_le_of_le_one_right htotal.le hpct
  obtain ⟨a, hexpand, hcovers, hreached, hlast⟩ :=
    hstart.expand htarget (Nat.le_add_right buckets.length _)
  have hhi := hcovers.hi_lt
  have hlo : a.lo < buckets.length := (hcovers.lo_le.trans hcovers.le_hi).trans_lt hhi
  refine ⟨a, buckets[a.hi], buckets[a.lo], ?_, List.getElem?_eq_getElem hhi,
    List.getElem?_eq_getElem hlo, hcovers, hreached, hlast.imp_left fun h => by rw [h]; simp⟩
  rw [computeValueArea, if_neg (Nat.ne_zero_of_lt hpoc), if_neg (not_le.mpr htotal)]
  simp [hv, hexpand, hhi, hlo]

theorem computeValueArea_spec_twoBuckets :
    ∃ a : ValueArea, Covers [⟨1, 2, 1⟩, ⟨2, 3, 3⟩] 1 a ∧ 14 / 5 ≤ a.accum := by
  obtain ⟨a, -, -, -, -, -, hcovers, hreached, -⟩ :=
    @computeValueArea_spec [⟨1, 2, 1⟩, ⟨2, 3, 3⟩] 1 (7 / 10) (by decide) (by decide +kernel)
      (by decide +kernel)
  exact ⟨a, hcovers, le_trans (by decide +kernel) hreached⟩

end Insights
end StreamAnalytics
