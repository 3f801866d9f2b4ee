import Mathlib.Init

/-!
# Buckets of a time line

`bucket ts w` is the start of the window of duration `w` that contains the time
`ts`: the largest multiple of `w` that is not after `ts`.
-/

namespace StreamAnalytics

/-- The start of the window of duration `w` around `ts`; Go's division truncates. -/
def bucket (ts w : Int) : Int := ts.tdiv w * w

theorem bucket_eq {ts : Int} (hts : 0 ≤ ts) (w : Int) : bucket ts w = ts / w * w := by
  rw [bucket, Int.tdiv_eq_ediv_of_nonneg hts]

theorem bucket_nonneg {ts w : Int} (hts : 0 ≤ ts) (hw : 0 < w) : 0 ≤ bucket ts w := by
  rw [bucket_eq hts]
  exact Int.mul_nonneg (Int.ediv_nonneg hts (Int.le_of_lt hw)) (Int.le_of_lt hw)

theorem bucket_le {ts w : Int} (hts : 0 ≤ ts) (hw : 0 < w) : bucket ts w ≤ ts := by
  rw [bucket_eq hts]
  exact Int.ediv_mul_le ts (by omega)

theorem lt_bucket_add {ts w : Int} (hts : 0 ≤ ts) (hw : 0 < w) : ts < bucket ts w + w := by
  rw [bucket_eq hts]
  have := Int.lt_ediv_add_one_mul_self ts hw
  rw [Int.add_mul, Int.one_mul] at this
  exact this

theorem dvd_bucket (ts w : Int) : w ∣ bucket ts w := Int.dvd_mul_left _ w

/-- The bucket is the only multiple of the duration at most one duration below. -/
theorem bucket_eq_iff
    {ts w b : Int} (hts : 0 ≤ ts) (hw : 0 < w) : bucket ts w = b ↔ w ∣ b ∧ b ≤ ts ∧ ts < b + w := by
  constructor
  · rintro rfl
    exact ⟨dvd_bucket ts w, bucket_le hts hw, lt_bucket_add hts hw⟩
  · rintro ⟨⟨k, rfl⟩, hle, hlt⟩
    rw [bucket_eq hts]
    have hdiv : ts / w = k := by
      rw [Int.ediv_eq_iff_of_pos hw]
      constructor
      · rw [Int.mul_comm]
        exact hle
      · rw [Int.mul_comm k w]
        omega
    rw [hdiv, Int.mul_comm]

/-- Different multiples of a duration are at least one duration apart. -/
theorem add_le_of_dvd_of_lt {a b w : Int} (ha : w ∣ a) (hb : w ∣ b) (hlt : a < b) : a + w ≤ b := by
  have hle : w ≤ b - a := Int.le_of_dvd (by omega) (Int.dvd_sub hb ha)
  omega

/-- A window of the shorter duration lies inside one window of the longer one. -/
theorem bucket_add_le {ts w t : Int} (hts : 0 ≤ ts) (hw : 0 < w) (ht : 0 < t) (hdvd : w ∣ t) :
    bucket ts w + w ≤ bucket ts t + t := by
  have hle := bucket_le hts hw
  have hlt := lt_bucket_add hts ht
  exact add_le_of_dvd_of_lt (dvd_bucket ts w)
    (Int.dvd_add (Int.dvd_trans hdvd (dvd_bucket ts t)) hdvd) (by omega)

/-- The start of the shorter window lies in the same longer window. -/
theorem bucket_bucket {ts w t : Int} (hts : 0 ≤ ts) (hw : 0 < w) (ht : 0 < t) (hdvd : w ∣ t) :
    bucket (bucket ts w) t = bucket ts t := by
  rw [bucket_eq_iff (bucket_nonneg hts hw) ht]
  have hle := bucket_le hts ht
  have hlt := lt_bucket_add hts hw
  have hend := bucket_add_le hts hw ht hdvd
  refine ⟨dvd_bucket ts t, ?_, by omega⟩
  refine Int.not_lt.mp fun hlt' => ?_
  have := add_le_of_dvd_of_lt (dvd_bucket ts w) (Int.dvd_trans hdvd (dvd_bucket ts t)) hlt'
  omega

theorem bucket_mono
    {a b w : Int} (ha : 0 ≤ a) (hab : a ≤ b) (hw : 0 < w) : bucket a w ≤ bucket b w := by
  rw [bucket_eq ha, bucket_eq (Int.le_trans ha hab)]
  exact Int.mul_le_mul_of_nonneg_right (Int.ediv_le_ediv hw hab) (Int.le_of_lt hw)

end StreamAnalytics
