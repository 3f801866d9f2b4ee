import Mathlib.Algebra.Ring.Nat

/-!
# Binary64 helpers

Go's `float64` is Lean's `Float`, whose logical model is IEEE binary64.  This
module adds rounding to the nearest integer, with ties to even, and the conversion to
an integer, computed on the exact value of the float.
-/

namespace StreamAnalytics
namespace Binary64

/-- The integer nearest to `m / d`, ties to even. -/
def divRoundEven (m d : Nat) : Nat :=
  let q := m / d
  let r := m % d
  if 2 * r < d then q
  else if d < 2 * r then q + 1
  else if q % 2 = 0 then q
  else q + 1

/-- The integer nearest to `m * 2 ^ e`, ties to even. -/
def scaleRoundEven (m : Nat) (e : Int) : Nat :=
  match e with
  | .ofNat n => m * 2 ^ n
  | .negSucc n => divRoundEven m (2 ^ (n + 1))

/-- `math.RoundToEven` of a finite float as an integer; infinities and NaN have none. -/
def roundToEven (x : Float) : Option Int :=
  match x.toModel.unpack with
  | .infinity _ => none
  | .notANumber => none
  | .zero _ => some 0
  | .finite sign m e _ =>
    match sign with
    | .positive => some (scaleRoundEven m e)
    | .negative => some (-(scaleRoundEven m e))

/-- The conversion of a finite float to an integer, which drops the fraction. -/
def truncate (x : Float) : Int :=
  match x.toModel.unpack with
  | .infinity _ => 0
  | .notANumber => 0
  | .zero _ => 0
  | .finite sign m e _ =>
    let magnitude : Nat :=
      match e with
      | .ofNat n => m * 2 ^ n
      | .negSucc n => m / 2 ^ (n + 1)
    match sign with
    | .positive => magnitude
    | .negative => -magnitude

example : roundToEven 2.5 = some 2 := by decide

example : roundToEven (-3.5) = some (-4) := by decide

example : roundToEven 1e-9 = some 0 := by decide +kernel

end Binary64
end StreamAnalytics
