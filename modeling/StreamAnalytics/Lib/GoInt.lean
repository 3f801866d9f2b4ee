import Mathlib.Tactic.Ring

/-!
# Signed 64-bit arithmetic

Values of type `int64` are integers; `wrap64` reduces the result of an operation
that may overflow to the two's complement range.
-/

namespace StreamAnalytics
namespace GoInt

/-- `math.MaxInt64`. -/
def maxInt64 : Int := 2 ^ 63 - 1

/-- The representable values. -/
def InInt64 (x : Int) : Prop := -2 ^ 63 ≤ x ∧ x < 2 ^ 63

instance (x : Int) : Decidable (InInt64 x) := inferInstanceAs (Decidable (_ ∧ _))

/-- Two's complement reduction. -/
def wrap64 (x : Int) : Int := (x + 2 ^ 63) % 2 ^ 64 - 2 ^ 63

theorem inInt64_wrap64 (x : Int) : InInt64 (wrap64 x) := by
  unfold InInt64 wrap64
  omega

theorem wrap64_eq_self {x : Int} (h : InInt64 x) : wrap64 x = x := by
  unfold InInt64 at h
  unfold wrap64
  omega

end GoInt
end StreamAnalytics
