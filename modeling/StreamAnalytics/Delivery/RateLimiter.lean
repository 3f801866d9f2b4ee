import StreamAnalytics.Lib.Binary64
import StreamAnalytics.Lib.GoInt
import StreamAnalytics.Lib.Runs
import StreamAnalytics.Lib.TokenBucket

/-!
# The rate limiter of a session

Model of `internal/actors/delivery/runtime/rate_limiter.go`.  Times are nanoseconds;
the values of type `int` are reduced to 64 bits where an operation can overflow.  The
whole seconds since the last refill are computed through a float, as in the source.

The limiter is a token bucket as long as this conversion is exact and no refill
overflows.  A refill that overflows leaves a negative number of tokens.
-/

namespace StreamAnalytics
namespace Delivery

/-- `RateLimiter`. -/
structure RateLimiter where
  tokens : Int
  maxTokens : Int
  refillRate : Int
  lastRefill : Int
deriving Repr, DecidableEq

namespace RateLimiter

open GoInt (wrap64 maxInt64)
open Runs
open RateWindow (count)
open TokenBucket (Metered)

/-- Nanoseconds of a second. -/
def second : Int := 1000000000

/-- `NewRateLimiter` at the time `now`. -/
def create (maxTokens refillRate now : Int) : RateLimiter :=
  let maxTokens := if maxTokens ≤ 0 then 1 else maxTokens
  let refillRate := if refillRate ≤ 0 then 1 else refillRate
  ⟨maxTokens, maxTokens, refillRate, now⟩

/-- `Time.Sub`, which saturates, for a time that is not before the other. -/
def elapsed (r : RateLimiter) (now : Int) : Int := min (now - r.lastRefill) maxInt64

/-- `int(elapsed.Seconds())`. -/
def wholeSeconds (d : Int) : Int :=
  Binary64.truncate (Float.ofInt (d / second) + Float.ofInt (d % second) / 1e9)

/-- The tokens to add at the time `now`. -/
def refill (r : RateLimiter) (now : Int) : Int :=
  wrap64 (wholeSeconds (r.elapsed now) * r.refillRate)

/-- The limiter after the statements of `Allow` that add tokens. -/
def refilled (r : RateLimiter) (now : Int) : RateLimiter :=
  if 0 < r.refill now then
    { r with
      tokens := min (wrap64 (r.tokens + r.refill now)) r.maxTokens
      lastRefill := now }
  else r

/-- `Allow` at the time `now`. -/
def allow (r : RateLimiter) (now : Int) : RateLimiter × Bool :=
  let r := r.refilled now
  if r.tokens ≤ 0 then (r, false)
  else ({ r with tokens := r.tokens - 1 }, true)

/-- The conversion to seconds is exact and the refill does not overflow. -/
def Exact (r : RateLimiter) (now : Int) : Prop :=
  wholeSeconds (r.elapsed now) = r.elapsed now / second ∧
    r.tokens + r.elapsed now / second * r.refillRate < 2 ^ 63

instance (r : RateLimiter) (now : Int) : Decidable (r.Exact now) :=
  inferInstanceAs (Decidable (_ ∧ _))

/-! ## Runs -/

/-- A limiter with the time of the last call and the times of the calls that it allowed. -/
structure Calls where
  limiter : RateLimiter
  now : Int
  allowed : List Int
deriving DecidableEq

namespace Calls

/-- A call at a time. -/
def step (c : Calls) (now : Int) : Calls :=
  ⟨(c.limiter.allow now).1, now,
    if (c.limiter.allow now).2 then c.allowed ++ [now] else c.allowed⟩

/-- A new limiter. -/
def start (maxTokens refillRate now : Int) : Calls :=
  ⟨RateLimiter.create maxTokens refillRate now, now, []⟩

/-- The tokens stay in their range. -/
def InRange (c : Calls) : Prop := 0 ≤ c.limiter.tokens ∧ c.limiter.tokens ≤ c.limiter.maxTokens

instance (c : Calls) : Decidable c.InRange := inferInstanceAs (Decidable (_ ∧ _))

/-- The calls allowed between any two instants of a limiter with these parameters. -/
def Bounded (maxTokens refillRate : Int) (c : Calls) : Prop :=
  ∀ a b, a ≤ b →
    count a b c.allowed ≤ maxTokens + refillRate * ((b - a) / second) + refillRate

/-- The limiter is a bucket with these parameters. -/
structure Limits (maxTokens refillRate : Int) (c : Calls) : Prop where
  maxTokens_eq : c.limiter.maxTokens = maxTokens
  refillRate_eq : c.limiter.refillRate = refillRate
  nonneg : 0 ≤ c.limiter.tokens
  metered : Metered maxTokens refillRate second c.limiter.lastRefill c.limiter.tokens
    c.now c.allowed

end Calls

section Steps

variable {maxTokens refillRate : Int}

theorem limits_start (hmax : 0 < maxTokens) (hrate : 0 < refillRate) (now : Int) :
    (Calls.start maxTokens refillRate now).Limits maxTokens refillRate := by
  have hcreate : RateLimiter.create maxTokens refillRate now =
      ⟨maxTokens, maxTokens, refillRate, now⟩ := by
    unfold create
    rw [if_neg (by omega), if_neg (by omega)]
  unfold Calls.start
  rw [hcreate]
  exact ⟨rfl, rfl, hmax.le, TokenBucket.metered_full hmax hrate (by decide)⟩

/-- An exact refill adds the rate for every full second. -/
theorem refill_eq {r : RateLimiter} {now : Int} (hexact : r.Exact now)
    (htokens : 0 ≤ r.tokens) (hrate : 0 < r.refillRate) (hnow : r.lastRefill ≤ now) :
    r.refill now = r.elapsed now / second * r.refillRate ∧
      wrap64 (r.tokens + r.refill now) = r.tokens + r.refill now := by
  have helapsed : 0 ≤ r.elapsed now := le_min (by omega) (by decide)
  have hadded : 0 ≤ r.elapsed now / second * r.refillRate :=
    mul_nonneg (Int.ediv_nonneg helapsed (by decide)) hrate.le
  have hrefill : r.refill now = r.elapsed now / second * r.refillRate := by
    unfold refill
    rw [hexact.1]
    exact GoInt.wrap64_eq_self ⟨by linarith, by linarith [hexact.2]⟩
  refine ⟨hrefill, GoInt.wrap64_eq_self ?_⟩
  rw [hrefill]
  exact ⟨by linarith, hexact.2⟩

/-- The statements that add tokens keep the bucket and reach the current second. -/
theorem refilled_limits {c : Calls} {now : Int} (hmax : 0 < maxTokens) (hrate : 0 < refillRate)
    (hc : c.Limits maxTokens refillRate) (hnow : c.now ≤ now) (hexact : c.limiter.Exact now) :
    Calls.Limits maxTokens refillRate ⟨c.limiter.refilled now, now, c.allowed⟩ ∧
      now < (c.limiter.refilled now).lastRefill + second := by
  have hlast : c.limiter.lastRefill ≤ now := hc.metered.last_le.trans hnow
  obtain ⟨hrefill, hsum⟩ := refill_eq hexact hc.nonneg (hc.refillRate_eq ▸ hrate) hlast
  have hwait := hc.metered.wait hnow
  unfold refilled
  by_cases hpos : 0 < c.limiter.refill now
  · rw [if_pos hpos, hsum]
    have hunits : c.limiter.elapsed now / second ≤ (now - c.limiter.lastRefill) / second :=
      Int.ediv_le_ediv (by decide) (min_le_left _ _)
    have hunits' : c.limiter.refill now ≤
        refillRate * ((now - c.limiter.lastRefill) / second) := by
      rw [hrefill, hc.refillRate_eq, mul_comm]
      exact mul_le_mul_of_nonneg_left hunits hrate.le
    refine ⟨⟨hc.maxTokens_eq, hc.refillRate_eq, ?_, ?_⟩, ?_⟩
    · exact le_min (by linarith [hc.nonneg]) (hc.maxTokens_eq ▸ hmax.le)
    · refine hwait.refill hrate (by decide) ?_ hmax ?_
      · exact (min_le_right _ _).trans_eq hc.maxTokens_eq
      · exact (min_le_left _ _).trans (by linarith [le_max_left c.limiter.tokens 0])
    · exact lt_add_of_pos_right now (by decide)
  · rw [if_neg hpos]
    refine ⟨⟨hc.maxTokens_eq, hc.refillRate_eq, hc.nonneg, hwait⟩, ?_⟩
    -- without a refill less than a second has passed
    have hzero : c.limiter.elapsed now / second ≤ 0 := by
      by_contra hsome
      exact hpos (hrefill ▸ mul_pos (by omega) (hc.refillRate_eq ▸ hrate))
    have hshort : c.limiter.elapsed now < second := by
      unfold second at hzero ⊢
      omega
    unfold elapsed at hshort
    rcases min_lt_iff.mp hshort with h | h
    · show now < c.limiter.lastRefill + second
      omega
    · exact absurd h (by decide)

theorem limits_step {c : Calls} {now : Int} (hmax : 0 < maxTokens) (hrate : 0 < refillRate)
    (hc : c.Limits maxTokens refillRate) (hnow : c.now ≤ now) (hexact : c.limiter.Exact now) :
    (c.step now).Limits maxTokens refillRate := by
  obtain ⟨hrefilled, hrecent⟩ := refilled_limits hmax hrate hc hnow hexact
  unfold Calls.step allow
  by_cases hempty : (c.limiter.refilled now).tokens ≤ 0
  · simp only [if_pos hempty, Bool.false_eq_true, if_false]
    exact hrefilled
  · simp only [if_neg hempty, if_true]
    have htokens : 0 < (c.limiter.refilled now).tokens := not_le.mp hempty
    exact ⟨hrefilled.maxTokens_eq, hrefilled.refillRate_eq, Int.le_sub_one_of_lt htokens,
      hrefilled.metered.take hrate (by decide) htokens hrecent⟩

theorem always_inOrder
    {P : Calls → Int → Prop} {c : Calls} {times : List Int} (hP : Always Calls.step P c times)
    (htimes : (c.now :: times).Pairwise (· ≤ ·)) :
    Always Calls.step (fun c now => c.now ≤ now ∧ P c now) c times := by
  induction times generalizing c with
  | nil => exact trivial
  | cons now times ih =>
    obtain ⟨hfirst, hrest⟩ := List.pairwise_cons.mp htimes
    exact ⟨⟨hfirst now List.mem_cons_self, hP.1⟩, ih hP.2 hrest⟩

end Steps

/--
In every run of calls at non-decreasing times whose refills are exact, the tokens stay
in their range and the allowed calls between any two instants are bounded.
-/
theorem calls_bounded_of_exact
    (maxTokens refillRate created : Int) (hmax : 0 < maxTokens) (hrate : 0 < refillRate)
    (times : List Int) (htimes : (created :: times).Pairwise (· ≤ ·))
    (hexact : Always Calls.step (fun c now => c.limiter.Exact now)
      (Calls.start maxTokens refillRate created) times) :
    ∀ made, made <+: times →
      (run Calls.step (Calls.start maxTokens refillRate created) made).InRange ∧
        (run Calls.step (Calls.start maxTokens refillRate created) made).Bounded
          maxTokens refillRate := by
  intro made hmade
  have hlimits : (run Calls.step (Calls.start maxTokens refillRate created) made).Limits
      maxTokens refillRate :=
    invariant_of_prefix
      (fun c now hc hstep => limits_step hmax hrate hc hstep.1 hstep.2)
      (limits_start hmax hrate created) (always_inOrder hexact htimes) hmade
  exact ⟨⟨hlimits.nonneg, hlimits.metered.le_capacity.trans_eq hlimits.maxTokens_eq.symm⟩,
    hlimits.metered.bound⟩

/-- Two tokens, one token a second: three calls at once, one after 2.5 and one after 194 days. -/
def sampleTimes : List Int := [0, 0, 0, 2500000000, 16777215999999999]

theorem calls_bounded_of_exact_sampleTimes :
    (run Calls.step (Calls.start 2 1 0) sampleTimes).allowed =
        [0, 0, 2500000000, 16777215999999999] ∧
      (run Calls.step (Calls.start 2 1 0) sampleTimes).Bounded 2 1 := by
  refine ⟨by decide +kernel, ?_⟩
  exact (calls_bounded_of_exact 2 1 0 (by decide) (by decide) sampleTimes (by decide)
    (by decide +kernel) sampleTimes List.prefix_rfl).2

/--
A bucket with the largest capacity that is full is refilled after a second: the sum
overflows and the tokens are negative.
-/
theorem not_inRange_overflow :
    ¬ (run Calls.step (Calls.start maxInt64 1 0) [1000000000]).InRange := by
  decide +kernel

end RateLimiter
end Delivery
end StreamAnalytics
