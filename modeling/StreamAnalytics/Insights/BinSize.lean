import Mathlib.Data.Rat.Floor

/-!
# Bin sizes

Model of `CalculateBinSize` (`internal/core/insights/domain/binning.go`) in exact arithmetic.
The search for a bin size ends with a canonical step of the power of ten above the target.  If
no step is divisible by the tick size, it falls back to the smallest step, and then the bin size
need not be a multiple of the tick size.
-/

namespace StreamAnalytics
namespace Insights

/-- `binSteps`. -/
def binSteps : List ℚ := [1, 1 / 2, 1 / 4, 1 / 5, 1 / 10, 1 / 20]

/-- `binMinSize`. -/
def binMinSize : ℚ := 1 / 10 ^ 8

/-- `binRound`. -/
def binRound (n : ℚ) : ℚ := round (n * 10 ^ 8) / 10 ^ 8

/-- `binFraction`, of a number that is not negative. -/
def binFraction (num : ℚ) : ℚ := binRound (Int.fract num)

/-- The search for the exponent, which is `k - 8`. -/
def binExponent (n : ℚ) (k : Nat) : Nat :=
  if (10 ^ k : Nat) < n * 10 ^ 8 then binExponent n (k + 1) else k
termination_by ⌈n * 10 ^ 8⌉₊ - 10 ^ k
decreasing_by
  rename_i h
  have hlt : 10 ^ k < ⌈n * 10 ^ 8⌉₊ := Nat.lt_ceil.mpr h
  have hpow : 10 ^ k < 10 ^ (k + 1) := Nat.pow_lt_pow_right (by decide) (Nat.lt_succ_self k)
  omega

/-- The size that the search over the steps ends with. -/
def searchedSize (currentPrice tickSize grouping : ℚ) : ℚ :=
  let n := currentPrice * grouping / 100
  let factor : ℚ := 10 ^ binExponent n 0 / 10 ^ 8
  match binSteps.find? fun step =>
      step * factor ≤ n ∧ ¬ 0 < binFraction (step * factor / tickSize) with
  | some step => step * factor
  | none => 1 / 20 * factor

/-- `CalculateBinSize`. -/
def calculateBinSize (currentPrice tickSize grouping : ℚ) : ℚ :=
  let n := searchedSize currentPrice tickSize grouping
  if n < tickSize then tickSize
  else if n < binMinSize then binMinSize
  else binRound n

/-- What is documented of a bin size. -/
structure TickAligned (tickSize size : ℚ) : Prop where
  tick_le : tickSize ≤ size
  min_le : binMinSize ≤ size
  multiple : ∃ m : ℤ, size = m * tickSize

end Insights
end StreamAnalytics
