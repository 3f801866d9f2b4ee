import Mathlib.Data.Prod.Lex

/-!
# The order of binary64

Comparisons of floats other than NaN are comparisons of ranks in a linear order:
the sign class first, then the exponent, then the mantissa.  The two zeros have the
same rank.
-/

namespace StreamAnalytics
namespace Binary64

open Float.Model

/-- The linear order behind the comparisons of floats. -/
abbrev Rank : Type := Int ×ₗ Int ×ₗ Int

/-- The rank of a sign class with an exponent and a mantissa. -/
def Rank.mk (sign exponent mantissa : Int) : Rank := toLex (sign, toLex (exponent, mantissa))

theorem Rank.cmp_mk (s e m s' e' m' : Int) :
    cmp (Rank.mk s e m) (Rank.mk s' e' m') =
      (compare s s').then ((compare e e').then (compare m m')) := by
  have hlt : ∀ s e m s' e' m' : Int, Rank.mk s e m < Rank.mk s' e' m' ↔
      s < s' ∨ s = s' ∧ (e < e' ∨ e = e' ∧ m < m') := by
    intro s e m s' e' m'
    simp only [Rank.mk, Prod.Lex.toLex_lt_toLex]
  unfold cmp cmpUsing
  simp only [hlt]
  rcases lt_trichotomy s s' with hs | rfl | hs
  · simp [compare_lt_iff_lt.mpr hs, hs]
  · rcases lt_trichotomy e e' with he | rfl | he
    · simp [compare_lt_iff_lt.mpr he, he]
    · rcases lt_trichotomy m m' with hm | rfl | hm
      · simp [compare_lt_iff_lt.mpr hm, hm]
      · simp
      · simp [compare_gt_iff_gt.mpr hm, hm, hm.not_gt]
    · simp [compare_gt_iff_gt.mpr he, he, he.not_gt, he.ne']
  · simp [compare_gt_iff_gt.mpr hs, hs, hs.not_gt, hs.ne']

theorem compare_neg_neg (a b : Int) : compare (-a) (-b) = (compare a b).swap := by
  rcases lt_trichotomy a b with h | rfl | h
  · rw [compare_lt_iff_lt.mpr h, Ordering.swap_lt]
    exact compare_gt_iff_gt.mpr (by omega)
  · simp
  · rw [compare_gt_iff_gt.mpr h, Ordering.swap_gt]
    exact compare_lt_iff_lt.mpr (by omega)

theorem compare_cast (m n : Nat) : compare (m : Int) (n : Int) = compare m n := by
  rcases lt_trichotomy m n with h | rfl | h
  · rw [compare_lt_iff_lt.mpr h]
    exact compare_lt_iff_lt.mpr (by omega)
  · simp
  · rw [compare_gt_iff_gt.mpr h]
    exact compare_gt_iff_gt.mpr (by omega)

/-- The rank of an unpacked float; NaN has no place in the order. -/
def unpackedRank : UnpackedFloat → Rank
  | .notANumber => .mk 0 0 0
  | .infinity .negative => .mk (-2) 0 0
  | .finite .negative m e _ => .mk (-1) (-e) (-m)
  | .zero _ => .mk 0 0 0
  | .finite .positive m e _ => .mk 1 e m
  | .infinity .positive => .mk 2 0 0

/-- The rank of a float. -/
def rank (x : Float) : Rank := unpackedRank x.toModel.unpack

/-- Floats other than NaN compare as their ranks. -/
theorem unpacked_compare {x y : UnpackedFloat} (hx : x.isNaN = false) (hy : y.isNaN = false) :
    x.compare y = some (cmp (unpackedRank x) (unpackedRank y)) := by
  cases x with
  | notANumber => cases hx
  | infinity s =>
    cases y with
    | notANumber => cases hy
    | infinity t => cases s <;> cases t <;> decide
    | zero t => cases s <;> cases t <;> decide
    | finite t m e h =>
      cases s <;> cases t <;> dsimp only [UnpackedFloat.compare, unpackedRank] <;>
        rw [Rank.cmp_mk] <;> rfl
  | zero s =>
    cases y with
    | notANumber => cases hy
    | infinity t => cases s <;> cases t <;> decide
    | zero t => cases s <;> cases t <;> decide
    | finite t m e h =>
      cases t <;> dsimp only [UnpackedFloat.compare, unpackedRank] <;>
        rw [Rank.cmp_mk] <;> rfl
  | finite s m e h =>
    cases y with
    | notANumber => cases hy
    | infinity t =>
      cases s <;> cases t <;> dsimp only [UnpackedFloat.compare, unpackedRank] <;>
        rw [Rank.cmp_mk] <;> rfl
    | zero t =>
      cases s <;> dsimp only [UnpackedFloat.compare, unpackedRank] <;>
        rw [Rank.cmp_mk] <;> rfl
    | finite t m' e' h' =>
      cases s <;> cases t <;> dsimp only [UnpackedFloat.compare, unpackedRank] <;>
        rw [Rank.cmp_mk]
      case negative.negative =>
        simp only [compare_neg_neg, compare_cast, Ordering.swap_then]
        rfl
      case positive.positive =>
        rw [compare_cast]
        rfl
      all_goals rfl

/-- NaN compares with nothing. -/
theorem isNaN_of_compare {x y : UnpackedFloat} {o : Ordering} (h : x.compare y = some o) :
    x.isNaN = false ∧ y.isNaN = false := by
  cases x <;> cases y <;> first | exact ⟨rfl, rfl⟩ | cases h

theorem isNaN_of_lt {x y : Float} (h : x < y) : x.isNaN = false ∧ y.isNaN = false := by
  have hlt : (x.toModel.unpack.compare y.toModel.unpack == some .lt) = true :=
    of_decide_eq_true (h : x.lt y = true)
  exact isNaN_of_compare (beq_iff_eq.mp hlt)

theorem isNaN_of_le {x y : Float} (h : x ≤ y) : x.isNaN = false ∧ y.isNaN = false := by
  have hle : (x.toModel.unpack.compare y.toModel.unpack).any Ordering.isLE = true :=
    of_decide_eq_true (h : x.le y = true)
  obtain ⟨o, ho, -⟩ := (Option.any_eq_true _ _).mp hle
  exact isNaN_of_compare ho

section Comparisons

variable {x y : Float} (hx : x.isNaN = false) (hy : y.isNaN = false)
include hx hy

theorem lt_iff_rank : x < y ↔ rank x < rank y := by
  have hlt : x.lt y = (x.toModel.unpack.compare y.toModel.unpack == some .lt) := Bool.decide_eq_true
  change x.lt y = true ↔ _
  rw [hlt, unpacked_compare hx hy, beq_iff_eq, Option.some_inj, cmp_eq_lt_iff]
  rfl

theorem le_iff_rank : x ≤ y ↔ rank x ≤ rank y := by
  have hle : x.le y = (x.toModel.unpack.compare y.toModel.unpack).any Ordering.isLE :=
    Bool.decide_eq_true
  change x.le y = true ↔ _
  rw [hle, unpacked_compare hx hy, Option.any_some, Ordering.isLE_iff_ne_gt, ← not_lt,
    cmp_eq_gt_iff]
  rfl

theorem beq_iff_rank : (x == y) = true ↔ rank x = rank y := by
  change (x.toModel.unpack.compare y.toModel.unpack == some .eq) = true ↔ _
  rw [unpacked_compare hx hy, beq_iff_eq, Option.some_inj, cmp_eq_eq_iff]
  rfl

/-- Exactly one of `x < y`, `x == y` and `y < x` holds. -/
theorem lt_of_not_lt_of_not_beq (hlt : ¬ x < y) (hbeq : (x == y) = false) : y < x := by
  rw [lt_iff_rank hx hy] at hlt
  rw [lt_iff_rank hy hx]
  have hne : rank x ≠ rank y := fun h => by simp [(beq_iff_rank hx hy).mpr h] at hbeq
  exact lt_of_le_of_ne (not_lt.mp hlt) hne.symm

end Comparisons

theorem le_of_le_of_le {x y z : Float} (hxy : x ≤ y) (hyz : y ≤ z) : x ≤ z := by
  obtain ⟨hx, hy⟩ := isNaN_of_le hxy
  obtain ⟨-, hz⟩ := isNaN_of_le hyz
  rw [le_iff_rank hx hy] at hxy
  rw [le_iff_rank hy hz] at hyz
  exact (le_iff_rank hx hz).mpr (hxy.trans hyz)

theorem not_le_of_lt_of_le {x y z : Float} (hxy : x < y) (hyz : y ≤ z) : ¬ z ≤ x := by
  obtain ⟨hx, hy⟩ := isNaN_of_lt hxy
  obtain ⟨-, hz⟩ := isNaN_of_le hyz
  rw [lt_iff_rank hx hy] at hxy
  rw [le_iff_rank hy hz] at hyz
  rw [le_iff_rank hz hx, not_le]
  exact hxy.trans_le hyz

end Binary64
end StreamAnalytics
