import Mathlib.Tactic.Linarith
import StreamAnalytics.Lib.RateWindow

/-!
# Token buckets

A bucket holds at most `capacity` tokens.  A taken token is recorded with its time.
From time to time tokens are added, at most `rate` for each full `unit` of time since
the last addition, which may be later than the tokens would allow: the time that is
left over is lost, but the first addition after an instant also pays for a part of the
unit before it.

`Metered` is the invariant of a bucket.  Its consequence `Metered.bound` says that the
tokens taken from `a` to `b` are at most the capacity, the rate for each full unit
from `a` to `b`, and the rate once more.
-/

namespace StreamAnalytics
namespace TokenBucket

open RateWindow (count)

/-- How many of the times are not before `a`. -/
def since (a : Int) (times : List Int) : Nat := times.countP fun t => decide (a ≤ t)

theorem since_concat (a t : Int) (times : List Int) :
    since a (times ++ [t]) = since a times + if a ≤ t then 1 else 0 := by
  unfold since
  rw [List.countP_append, List.countP_singleton]
  simp only [decide_eq_true_eq]

theorem count_le_since (a b : Int) (times : List Int) : count a b times ≤ since a times := by
  refine List.countP_mono_left fun t _ h => ?_
  simp only [decide_eq_true_eq] at h ⊢
  exact h.1

theorem since_eq_zero
    {a now : Int} {times : List Int} (htimes : ∀ t ∈ times, t ≤ now) (ha : now < a) :
    since a times = 0 := by
  refine List.countP_eq_zero.mpr fun t ht => ?_
  have := htimes t ht
  simp only [decide_eq_true_eq]
  omega

/-- Full units of consecutive periods are full units of the whole period. -/
theorem ediv_add_ediv_le
    {unit x y : Int} (hunit : 0 < unit) : x / unit + y / unit ≤ (x + y) / unit := by
  have hx := Int.mul_ediv_self_le (x := x) hunit.ne'
  have hy := Int.mul_ediv_self_le (x := y) hunit.ne'
  rw [Int.le_ediv_iff_mul_le hunit]
  linarith [mul_comm unit (x / unit), mul_comm unit (y / unit),
    add_mul (x / unit) (y / unit) unit]

/-- A bucket with the times of the tokens taken from it. -/
structure Metered (capacity rate unit last tokens now : Int) (times : List Int) : Prop where
  le_capacity : tokens ≤ capacity
  last_le : last ≤ now
  times_le : ∀ t ∈ times, t ≤ now
  /-- What was taken since `a` and what is left has been there or was added since. -/
  charged : ∀ a, since a times + max tokens 0 ≤
    capacity + if a ≤ last then rate * ((last - a) / unit + 1) else 0
  /-- A token was taken after the last addition only within a unit of it. -/
  recent : ∀ a, last < a → 0 < since a times → a < last + unit
  bound : ∀ a b, a ≤ b → count a b times ≤ capacity + rate * ((b - a) / unit) + rate

section Steps

variable {capacity rate unit last tokens now : Int} {times : List Int}

theorem metered_full (hcapacity : 0 < capacity) (hrate : 0 < rate) (hunit : 0 < unit) :
    Metered capacity rate unit now capacity now [] where
  le_capacity := le_rfl
  last_le := le_rfl
  times_le := by simp
  charged a := by
    have hnonneg : 0 ≤ if a ≤ now then rate * ((now - a) / unit + 1) else 0 := by
      split_ifs
      · have hdiv : 0 ≤ (now - a) / unit := Int.ediv_nonneg (by omega) hunit.le
        exact mul_nonneg hrate.le (by omega)
      · exact le_rfl
    simp only [since, List.countP_nil, Nat.cast_zero, zero_add]
    rw [max_eq_left hcapacity.le]
    omega
  recent a _ h := by simp [since] at h
  bound a b hab := by
    have hdiv : 0 ≤ (b - a) / unit := Int.ediv_nonneg (by omega) hunit.le
    have hmul : 0 ≤ rate * ((b - a) / unit) := mul_nonneg hrate.le hdiv
    simp only [count, List.countP_nil, Nat.cast_zero]
    omega

/-- Time passes. -/
theorem Metered.wait
    {now' : Int} (h : Metered capacity rate unit last tokens now times) (hnow : now ≤ now') :
    Metered capacity rate unit last tokens now' times :=
  { h with
    last_le := h.last_le.trans hnow
    times_le := fun t ht => (h.times_le t ht).trans hnow }

/-- Tokens are added, at most the rate for each full unit since the last addition. -/
theorem Metered.refill {tokens' : Int} (h : Metered capacity rate unit last tokens now times)
    (hrate : 0 < rate) (hunit : 0 < unit) (hcapacity : tokens' ≤ capacity) (hpos : 0 < capacity)
    (hadded : tokens' ≤ max tokens 0 + rate * ((now - last) / unit)) :
    Metered capacity rate unit now tokens' now times where
  le_capacity := hcapacity
  last_le := le_rfl
  times_le := h.times_le
  charged a := by
    have hleft : max tokens' 0 ≤ capacity := max_le hcapacity hpos.le
    have hunits : 0 ≤ (now - last) / unit := Int.ediv_nonneg (by linarith [h.last_le]) hunit.le
    have hadded' : max tokens' 0 ≤ max tokens 0 + rate * ((now - last) / unit) :=
      max_le hadded (add_nonneg (le_max_right _ _) (mul_nonneg hrate.le hunits))
    have hcharged := h.charged a
    by_cases hnow : a ≤ now
    · rw [if_pos hnow]
      by_cases hlast : a ≤ last
      · rw [if_pos hlast] at hcharged
        have hsum : (last - a) / unit + (now - last) / unit ≤ (now - a) / unit :=
          (ediv_add_ediv_le hunit).trans_eq (congrArg (· / unit) (by omega))
        have hrates := mul_le_mul_of_nonneg_left hsum hrate.le
        linarith
      · rw [if_neg hlast] at hcharged
        have hpaid : 0 ≤ (now - a) / unit := Int.ediv_nonneg (by omega) hunit.le
        by_cases htaken : 0 < since a times
        · -- the addition also pays for the part of a unit before `a`
          have hnear := h.recent a (not_le.mp hlast) htaken
          have hsum : (now - last) / unit ≤ (now - a) / unit + 1 := by
            have hnext : (now - a + unit) / unit = (now - a) / unit + 1 := by
              rw [Int.add_ediv_of_dvd_right (dvd_refl unit), Int.ediv_self hunit.ne']
            rw [← hnext]
            exact Int.ediv_le_ediv hunit (by omega)
          have hrates := mul_le_mul_of_nonneg_left hsum hrate.le
          linarith
        · have hzero : since a times = 0 := by omega
          have hrates : 0 ≤ rate * ((now - a) / unit + 1) := mul_nonneg hrate.le (by omega)
          rw [hzero]
          push_cast
          linarith
    · rw [if_neg hnow, since_eq_zero h.times_le (not_le.mp hnow)]
      push_cast
      linarith
  recent a ha htaken := by
    rw [since_eq_zero h.times_le ha] at htaken
    omega
  bound := h.bound

/-- A token is taken within a unit of the last addition. -/
theorem Metered.take (h : Metered capacity rate unit last tokens now times) (hrate : 0 < rate)
    (hunit : 0 < unit) (htokens : 0 < tokens) (hrecent : now < last + unit) :
    Metered capacity rate unit last (tokens - 1) now (times ++ [now]) := by
  have hcharged : ∀ a, since a (times ++ [now]) + max (tokens - 1) 0 ≤
      capacity + if a ≤ last then rate * ((last - a) / unit + 1) else 0 := by
    intro a
    have hbefore := h.charged a
    rw [max_eq_left htokens.le] at hbefore
    rw [max_eq_left (by omega), since_concat]
    push_cast
    split_ifs at hbefore ⊢ <;> omega
  refine ⟨by linarith [h.le_capacity], h.last_le, ?_, hcharged, ?_, ?_⟩
  · intro t ht
    rcases List.mem_append.mp ht with ht | ht
    · exact h.times_le t ht
    · exact (List.mem_singleton.mp ht).le
  · intro a ha htaken
    by_cases hnow : a ≤ now
    · exact hnow.trans_lt hrecent
    · rw [since_concat, if_neg hnow, since_eq_zero h.times_le (not_le.mp hnow)] at htaken
      omega
  · intro a b hab
    by_cases hin : a ≤ now ∧ now ≤ b
    · have hle : (count a b (times ++ [now]) : Int) ≤ since a (times ++ [now]) := by
        exact_mod_cast count_le_since a b (times ++ [now])
      have hsince := hcharged a
      have hzero : 0 ≤ max (tokens - 1) 0 := le_max_right _ _
      have hunits : 0 ≤ (b - a) / unit := Int.ediv_nonneg (by omega) hunit.le
      have hpaid : 0 ≤ rate * ((b - a) / unit) := mul_nonneg hrate.le hunits
      by_cases hlast : a ≤ last
      · rw [if_pos hlast] at hsince
        have hdiv : (last - a) / unit ≤ (b - a) / unit :=
          Int.ediv_le_ediv hunit (by linarith [h.last_le, hin.2])
        have hrates := mul_le_mul_of_nonneg_left hdiv hrate.le
        linarith
      · rw [if_neg hlast] at hsince
        linarith
    · rw [RateWindow.count_concat, if_neg hin]
      exact h.bound a b hab

end Steps

end TokenBucket
end StreamAnalytics
