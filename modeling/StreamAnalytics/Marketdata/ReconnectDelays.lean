import Mathlib.Algebra.Order.Ring.Int
import Mathlib.Data.List.Induction
import StreamAnalytics.Marketdata.WsConsumer

/-!
# The delays before a reconnect

`nextReconnectDelay` shifts the base delay by the number of retries inside the budget
window and cuts the result at the maximum.  The shift is one of 64 bits: it stays within
the bounds exactly if the largest one that the budget allows does not overflow
(`delays_bounded_iff`).
-/

namespace StreamAnalytics
namespace Ws
namespace Consumer

open GoInt Runs

/-- A delay that `nextReconnectDelay` has returned, and whether it is a cooldown. -/
structure Answer where
  now : Int
  delay : Int
  isCooldown : Bool
deriving DecidableEq

/-- A consumer with the delays it was given. -/
structure Failing where
  consumer : Consumer := {}
  answers : List Answer := []

/-- The next failure, at a time and with the number drawn for the jitter. -/
def fail (cfg : ConsumerConfig) (s : Failing) (f : Int × Float) : Failing :=
  let next := s.consumer.nextReconnectDelay cfg f.1 f.2
  ⟨next.1, s.answers ++ [⟨f.1, next.2.1, next.2.2⟩]⟩

/-- The times of the retries since the last cooldown, which forgets them. -/
def retries (answers : List Answer) : List Int :=
  answers.foldl (fun ts a => if a.isCooldown then [] else ts ++ [a.now]) []

/-- The times inside the budget window. -/
def inWindow (p : ReconnectPolicy) (now : Int) (ts : List Int) : List Int :=
  ts.filter fun t => now - p.budgetWindow < t

/-- The delay is the cooldown exactly after `RetryBudget` retries, and else within the bounds. -/
structure Bounded (p : ReconnectPolicy) (past : List Answer) (a : Answer) : Prop where
  isCooldown_iff : a.isCooldown = true ↔
    p.retryBudget ≤ (inWindow p a.now (retries past)).length
  cooldown : a.isCooldown = true → a.delay = p.cooldown
  backoff : a.isCooldown = false → p.baseBackoff ≤ a.delay ∧ a.delay ≤ p.maxBackoff

variable {cfg : ConsumerConfig} {s : Failing} {f : Int × Float} {p : ReconnectPolicy}

theorem retries_concat (answers : List Answer) (a : Answer) :
    retries (answers ++ [a]) = if a.isCooldown then [] else retries answers ++ [a.now] :=
  List.foldl_append

theorem inWindow_append (now : Int) (ts ts' : List Int) :
    inWindow p now (ts ++ ts') = inWindow p now ts ++ inWindow p now ts' :=
  List.filter_append ..

theorem inWindow_inWindow {now now' : Int} (h : now ≤ now') (ts : List Int) :
    inWindow p now' (inWindow p now ts) = inWindow p now' ts := by
  unfold inWindow
  rw [List.filter_filter]
  refine List.filter_congr fun t _ => ?_
  rw [Bool.and_eq_left_iff_imp]
  simp only [decide_eq_true_eq]
  omega

/-- The retries that the next failure finds in the window. -/
def recent (cfg : ConsumerConfig) (s : Failing) (now : Int) : List Int :=
  inWindow cfg.reconnect now s.consumer.retryTimestamps

theorem fail_of_le (h : cfg.reconnect.retryBudget ≤ (recent cfg s f.1).length) :
    fail cfg s f = ⟨{ s.consumer with retryTimestamps := [] },
      s.answers ++ [⟨f.1, cfg.reconnect.cooldown, true⟩]⟩ := by
  unfold recent inWindow at h
  unfold fail nextReconnectDelay
  rw [if_pos h]

theorem fail_of_lt (hjitter : cfg.reconnect.jitter = 0)
    (h : (recent cfg s f.1).length < cfg.reconnect.retryBudget) :
    fail cfg s f = ⟨{ s.consumer with retryTimestamps := recent cfg s f.1 ++ [f.1] },
      s.answers ++ [⟨f.1, min cfg.reconnect.maxBackoff
        (wrap64 (cfg.reconnect.baseBackoff * 2 ^ (recent cfg s f.1).length)), false⟩]⟩ := by
  have hzero : ¬ (0 : Float) < 0 := by decide +kernel
  unfold recent inWindow at h ⊢
  unfold fail nextReconnectDelay
  rw [if_neg (Int.not_le.mpr h), hjitter]
  simp only [hzero, false_and, if_false]
  congr 4
  rw [min_def]
  split_ifs <;> omega

/-- The shifted delay stays above the base delay up to the budget exactly if the last one fits. -/
theorem forall_le_wrap64_iff {base : Int} {budget : Nat} (hpos : 0 < base) (hlt : base < 2 ^ 63) :
    (∀ n ≤ budget, base ≤ wrap64 (base * 2 ^ n)) ↔ base * 2 ^ budget < 2 ^ 63 := by
  constructor
  · intro h
    have hfits : ∀ n ≤ budget, base * 2 ^ n < 2 ^ 63 := by
      intro n
      induction n with
      | zero => simpa using hlt
      | succ n ih =>
        -- The first value out of range has the sign bit set.
        intro hn
        have hle := h (n + 1) hn
        have hprev := ih (Nat.le_of_succ_le hn)
        unfold wrap64 at hle
        rw [Int.pow_succ, ← Int.mul_assoc] at hle ⊢
        omega
    exact hfits budget le_rfl
  · intro h n hn
    have hpow : (2 : Int) ^ n ≤ 2 ^ budget := pow_le_pow_right₀ (by decide) hn
    have hone : (1 : Int) ≤ 2 ^ n := one_le_pow₀ (by decide)
    have hle := Int.mul_le_mul_of_nonneg_left hpow hpos.le
    have hge := Int.mul_le_mul_of_nonneg_left hone hpos.le
    rw [wrap64_eq_self ⟨by omega, by omega⟩]
    omega

/-- The consumer remembers every retry that can still lie in the window. -/
def Remembers (p : ReconnectPolicy) (s : Failing) : Prop :=
  ∀ now, (∀ a ∈ s.answers, a.now ≤ now) →
    inWindow p now s.consumer.retryTimestamps = inWindow p now (retries s.answers)

/-- What the next failure finds in the window are the retries since the last cooldown. -/
theorem Remembers.recent_eq (h : Remembers cfg.reconnect s) (hnow : ∀ a ∈ s.answers, a.now ≤ f.1) :
    recent cfg s f.1 = inWindow cfg.reconnect f.1 (retries s.answers) :=
  h f.1 hnow

theorem Remembers.fail (hjitter : cfg.reconnect.jitter = 0) (h : Remembers cfg.reconnect s)
    (hnow : ∀ a ∈ s.answers, a.now ≤ f.1) : Remembers cfg.reconnect (fail cfg s f) := by
  intro now hlater
  rcases le_or_gt cfg.reconnect.retryBudget (recent cfg s f.1).length with hfull | hroom
  · rw [fail_of_le hfull, retries_concat, if_pos rfl]
  · rw [fail_of_lt hjitter hroom] at hlater ⊢
    have hle : f.1 ≤ now := hlater _ (List.mem_append_right _ (List.mem_singleton_self _))
    rw [retries_concat, if_neg (by simp), inWindow_append, inWindow_append, recent,
      inWindow_inWindow hle, h now fun a ha => (hnow a ha).trans hle]

/-- A failure gets a bounded delay if the shifts that the budget allows are bounded. -/
theorem Remembers.bounded (hjitter : cfg.reconnect.jitter = 0)
    (hle : cfg.reconnect.baseBackoff ≤ cfg.reconnect.maxBackoff)
    (hshift : ∀ n : Nat, n < cfg.reconnect.retryBudget →
      cfg.reconnect.baseBackoff ≤ wrap64 (cfg.reconnect.baseBackoff * 2 ^ n))
    (h : Remembers cfg.reconnect s)
    (hnow : ∀ a ∈ s.answers, a.now ≤ f.1)
    (hpast : EachAfter (Bounded cfg.reconnect) s.answers) :
    EachAfter (Bounded cfg.reconnect) (Consumer.fail cfg s f).answers := by
  have hrecent := h.recent_eq hnow
  rcases le_or_gt cfg.reconnect.retryBudget (recent cfg s f.1).length with hfull | hroom
  · rw [fail_of_le hfull]
    exact eachAfter_concat hpast
      ⟨iff_of_true rfl (hrecent ▸ hfull), fun _ => rfl, fun hfalse => (nomatch hfalse)⟩
  · rw [fail_of_lt hjitter hroom]
    refine eachAfter_concat hpast ⟨iff_of_false (by simp) ?_, fun htrue => (nomatch htrue),
      fun _ => ⟨le_min hle (hshift _ hroom), min_le_left _ _⟩⟩
    exact Int.not_le.mpr (hrecent ▸ hroom)

/-- Failures at one time are retried until the budget is used up. -/
theorem recent_replicate
    (hjitter : cfg.reconnect.jitter = 0) (hwindow : 0 < cfg.reconnect.budgetWindow) {n : Nat}
    (hn : n ≤ cfg.reconnect.retryBudget) :
    recent cfg (run (fail cfg) {} (List.replicate n (0, 0))) 0 = List.replicate n 0 := by
  induction n with
  | zero => rfl
  | succ n ih =>
    have hrecent := ih (by omega)
    have hroom : (recent cfg (run (fail cfg) {} (List.replicate n (0, 0))) 0).length <
        cfg.reconnect.retryBudget := by
      rw [hrecent, List.length_replicate]
      omega
    rw [List.replicate_succ', run_append, run_cons, run_nil,
      fail_of_lt (f := (0, 0)) hjitter hroom]
    change inWindow _ 0 (recent cfg _ 0 ++ [0]) = _
    rw [hrecent, ← List.replicate_succ', inWindow, List.filter_replicate,
      if_pos (by simp [hwindow])]

/--
For every policy with its defaults, without jitter and with `BaseBackoff` at most
`MaxBackoff`: in every sequence of failures at non-decreasing times each delay is the
cooldown, exactly when `RetryBudget` retries since the last cooldown lie inside the
window, or lies between `BaseBackoff` and `MaxBackoff`, exactly when the shift of
`BaseBackoff` by `RetryBudget - 1` fits into an `int64`.
-/
theorem delays_bounded_iff
    (cfg : ConsumerConfig) (q : ReconnectPolicy) (hpolicy : cfg.reconnect = withReconnectDefaults q)
    (hjitter : cfg.reconnect.jitter = 0)
    (hle : cfg.reconnect.baseBackoff ≤ cfg.reconnect.maxBackoff)
    (hmax : InInt64 cfg.reconnect.maxBackoff) :
    (∀ fs : List (Int × Float), (fs.map Prod.fst).Pairwise (· ≤ ·) →
      EachAfter (Bounded cfg.reconnect) (run (fail cfg) {} fs).answers) ↔
    cfg.reconnect.baseBackoff * 2 ^ (cfg.reconnect.retryBudget - 1).toNat < 2 ^ 63 := by
  obtain ⟨hbase, hwindow, hbudget⟩ : 0 < cfg.reconnect.baseBackoff ∧
      0 < cfg.reconnect.budgetWindow ∧ 0 < cfg.reconnect.retryBudget := by
    rw [hpolicy]
    unfold withReconnectDefaults
    dsimp only
    split_ifs <;> omega
  rw [← forall_le_wrap64_iff hbase (by have := hmax.2; omega)]
  constructor
  · intro h n hn
    have hfails := h (List.replicate (n + 1) (0, 0)) (by simp [List.pairwise_replicate])
    have hrecent := recent_replicate hjitter hwindow (n := n) (by omega)
    rw [List.replicate_succ', run_append, run_cons, run_nil,
      fail_of_lt hjitter (by rw [hrecent, List.length_replicate]; omega),
      eachAfter_concat_iff, hrecent, List.length_replicate] at hfails
    exact (hfails.2.backoff rfl).1.trans (min_le_right _ _)
  · intro h fs hfs
    have hrun : (run (fail cfg) {} fs).answers.map Answer.now = fs.map Prod.fst ∧
        Remembers cfg.reconnect (run (fail cfg) {} fs) ∧
        EachAfter (Bounded cfg.reconnect) (run (fail cfg) {} fs).answers := by
      induction fs using List.reverseRecOn with
      | nil => exact ⟨rfl, fun _ _ => rfl, eachAfter_nil⟩
      | append_singleton past f ih =>
        rw [List.map_append, List.pairwise_append] at hfs
        obtain ⟨htimes, hremembers, hpast⟩ := ih hfs.1
        have hnow : ∀ a ∈ (run (fail cfg) {} past).answers, a.now ≤ f.1 := by
          intro a ha
          refine hfs.2.2 _ ?_ _ (List.mem_singleton_self _)
          rw [← htimes]
          exact List.mem_map_of_mem ha
        rw [run_append, run_cons, run_nil]
        refine ⟨?_, hremembers.fail hjitter hnow,
          hremembers.bounded hjitter hle (fun n hn => h n (by omega)) hnow hpast⟩
        rw [fail, List.map_append, htimes, List.map_append]
        rfl
    exact hrun.2.2

/-- The default policy stays within its bounds. -/
theorem delays_bounded_default :
    sampleConfig.reconnect.retryBudget = 20 ∧
    ∀ fs : List (Int × Float), (fs.map Prod.fst).Pairwise (· ≤ ·) →
      EachAfter (Bounded sampleConfig.reconnect) (run (fail sampleConfig) {} fs).answers :=
  ⟨rfl, (delays_bounded_iff sampleConfig {} rfl (by decide +kernel) (by decide)
    (by decide)).mpr (by decide)⟩

/-- With a budget of 64 retries the delay of the 36th failure is negative. -/
theorem negative_delay :
    let cfg := { sampleConfig with reconnect := withReconnectDefaults { retryBudget := 64 } }
    cfg.reconnect.jitter = 0 ∧ cfg.reconnect.baseBackoff ≤ cfg.reconnect.maxBackoff ∧
    ((run (fail cfg) {} (List.replicate 36 (0, 0))).answers.map Answer.delay).getLast? =
      some (-1266874889709551616) := by
  decide +kernel

end Consumer
end Ws
end StreamAnalytics
