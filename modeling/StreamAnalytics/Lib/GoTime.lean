import Mathlib.Algebra.Ring.Int.Defs

/-!
# Clock readings

A clock reading is the number of nanoseconds since the zero time, the first of
January of the year one.
-/

namespace StreamAnalytics
namespace GoTime

/-- The reading at the Unix epoch. -/
def unixEpoch : Int := 62135596800 * 1000000000

/-- `time.Time.UnixMilli`. -/
def unixMilli (t : Nat) : Int := ((t : Int) - unixEpoch) / 1000000

/-- `time.Time.Unix`. -/
def unix (t : Nat) : Int := ((t : Int) - unixEpoch) / 1000000000

theorem unix_le_unix {t t' : Nat} (h : t ≤ t') : unix t ≤ unix t' := by
  unfold unix
  omega

end GoTime
end StreamAnalytics
