import StreamAnalytics.Lib.Binary64
import StreamAnalytics.Lib.RateWindow
import StreamAnalytics.Shared.Problem

/-!
# The supervisor policy

Model of `internal/actors/runtime/supervisor.go`.  Times are nanoseconds since the
zero time, durations nanoseconds.  The policy keeps a `RestartState` for each
subsystem; the random number that `applyJitter` draws is an argument.
-/

namespace StreamAnalytics
namespace Runtime

/-- `SupervisorConfig`. -/
structure SupervisorConfig where
  baseBackoff : Int := 0
  maxBackoff : Int := 0
  jitter : Float := 0
  restartWindow : Int := 0
  restartLimit : Int := 0
  cooldown : Int := 0

/-- The configuration of a policy: what `NewSupervisorPolicy` accepts, with its defaults. -/
structure PolicyConfig extends SupervisorConfig where
  base_pos : 0 < baseBackoff
  base_le_max : baseBackoff ≤ maxBackoff
  window_pos : 0 < restartWindow
  limit_pos : 0 < restartLimit
  cooldown_pos : 0 < cooldown

/-- A duration or a limit that is not positive is replaced by its default. -/
def orDefault (value default : Int) : Int := if value ≤ 0 then default else value

theorem orDefault_pos {value default : Int} (h : 0 < default) : 0 < orDefault value default := by
  unfold orDefault
  split_ifs <;> omega

/-- `NewSupervisorPolicy`. -/
def newSupervisorPolicy (cfg : SupervisorConfig) : Except Problem PolicyConfig :=
  let baseBackoff := orDefault cfg.baseBackoff 250000000
  let maxBackoff := orDefault cfg.maxBackoff 5000000000
  if hmax : maxBackoff < baseBackoff then
    .error (Problem.new .invalidArgument "max backoff must be >= base backoff")
  else if cfg.jitter < 0 ∨ 1 < cfg.jitter then
    .error (Problem.new .invalidArgument "jitter must be in [0,1]")
  else
    .ok {
      baseBackoff := baseBackoff
      maxBackoff := maxBackoff
      jitter := cfg.jitter
      restartWindow := orDefault cfg.restartWindow 30000000000
      restartLimit := orDefault cfg.restartLimit 5
      cooldown := orDefault cfg.cooldown 30000000000
      base_pos := orDefault_pos (by decide)
      base_le_max := Int.not_lt.mp hmax
      window_pos := orDefault_pos (by decide)
      limit_pos := orDefault_pos (by decide)
      cooldown_pos := orDefault_pos (by decide) }

/-- The policy of a guardian that is given none. -/
def defaultPolicy : PolicyConfig where
  baseBackoff := 250000000
  maxBackoff := 5000000000
  restartWindow := 30000000000
  restartLimit := 5
  cooldown := 30000000000
  base_pos := by decide
  base_le_max := by decide
  window_pos := by decide
  limit_pos := by decide
  cooldown_pos := by decide

/-- `cappedExponentialBackoff`. -/
def cappedExponentialBackoff (base capDelay : Int) (attempt : Int) : Int :=
  let attempt := if attempt < 0 then 0 else attempt
  -- `math.Pow(2, …)` is exact as long as the power is finite.
  let mult := Float.ofNat (2 ^ attempt.toNat)
  if mult.isInf then capDelay
  else
    let rawFloat := Float.ofInt base * mult
    if rawFloat.isInf ∨ rawFloat ≤ 0 ∨ Float.ofInt capDelay < rawFloat then capDelay
    else Binary64.truncate rawFloat

/-- `applyJitter`, with the number drawn from the generator. -/
def applyJitter (delay : Int) (jitter roll : Float) : Int :=
  if delay ≤ 0 ∨ jitter == 0 then delay
  else
    let scale := 1 + ((roll * 2) - 1) * jitter
    let scale := if scale < 0 then 0 else scale
    Binary64.truncate (Float.ofInt delay * scale)

/-- The delay before the restart that follows `attempt` earlier failures of the window. -/
def backoff (cfg : PolicyConfig) (roll : Float) (attempt : Int) : Int :=
  applyJitter (cappedExponentialBackoff cfg.baseBackoff cfg.maxBackoff attempt) cfg.jitter roll

/-- `SupervisorDecision`. -/
structure SupervisorDecision where
  restart : Bool
  delay : Int
  enterDegraded : Bool
  degradedUntil : Int
  reason : String

/-- `restartState`; the zero time is 0. -/
structure RestartState where
  failures : List Int := []
  degradedUntil : Int := 0
  restartCount : Nat := 0

/-- `pruneFailures`. -/
def pruneFailures (events : List Int) (now window : Int) : List Int :=
  RateWindow.prune now window events

namespace RestartState

/-- `Status(…).Degraded`. -/
def degraded (st : RestartState) (now : Int) : Bool := decide (now < st.degradedUntil)

/-- `OnFailure`: the new state and the decision. -/
def onFailure (cfg : PolicyConfig) (roll : Float) (now : Int) (st : RestartState) :
    RestartState × SupervisorDecision :=
  if st.degraded now then
    (st, {
      restart := false
      delay := 0
      enterDegraded := false
      degradedUntil := st.degradedUntil
      reason := "subsystem in cooldown" })
  else
    let failures := pruneFailures st.failures now cfg.restartWindow ++ [now]
    if cfg.restartLimit < failures.length then
      ({ st with failures := failures, degradedUntil := now + cfg.cooldown }, {
        restart := false
        delay := 0
        enterDegraded := true
        degradedUntil := now + cfg.cooldown
        reason := "restart limit exceeded" })
    else
      ({ st with failures := failures, restartCount := st.restartCount + 1 }, {
        restart := true
        delay := backoff cfg roll (failures.length - 1)
        enterDegraded := false
        degradedUntil := st.degradedUntil
        reason := "" })

/-- `MarkRecovered`. -/
def markRecovered (st : RestartState) : RestartState :=
  { st with failures := [], degradedUntil := 0 }

/-! ## What a failure leads to -/

variable {cfg : PolicyConfig} {roll : Float} {now : Int} {st : RestartState}

/-- During the cooldown a failure changes nothing and leads to nothing. -/
theorem onFailure_degraded (cfg : PolicyConfig) (roll : Float) (h : st.degraded now = true) :
    (onFailure cfg roll now st).1 = st ∧
    (onFailure cfg roll now st).2.enterDegraded = false ∧
    (onFailure cfg roll now st).2.restart = false := by
  unfold onFailure
  rw [if_pos h]
  exact ⟨rfl, rfl, rfl⟩

/-- Outside the cooldown a failure leads to a cooldown or to a restart. -/
theorem onFailure_cases (cfg : PolicyConfig) (roll : Float) (h : st.degraded now = false) :
    ((onFailure cfg roll now st).2.enterDegraded = true ∧
      (onFailure cfg roll now st).2.degradedUntil = now + cfg.cooldown ∧
      (onFailure cfg roll now st).1.degradedUntil = now + cfg.cooldown) ∨
    ((onFailure cfg roll now st).2.enterDegraded = false ∧
      (onFailure cfg roll now st).2.restart = true ∧
      (onFailure cfg roll now st).1.degradedUntil = st.degradedUntil) := by
  unfold onFailure
  rw [if_neg (by simp [h])]
  dsimp only
  split_ifs
  · exact .inl ⟨rfl, rfl, rfl⟩
  · exact .inr ⟨rfl, rfl, rfl⟩

/-- The first failure after a recovery is restarted with the base backoff. -/
theorem onFailure_markRecovered (hnow : 0 ≤ now) :
    (onFailure cfg roll now st.markRecovered).2.restart = true ∧
    (onFailure cfg roll now st.markRecovered).2.delay = backoff cfg roll 0 := by
  have hlimit := cfg.limit_pos
  have hdegraded : st.markRecovered.degraded now = false := decide_eq_false (Int.not_lt.mpr hnow)
  unfold onFailure
  rw [if_neg (by simp [hdegraded])]
  have hone : ((pruneFailures st.markRecovered.failures now cfg.restartWindow ++ [now]).length : Int)
      = 1 := rfl
  dsimp only
  rw [hone, if_neg (by omega)]
  exact ⟨rfl, rfl⟩

end RestartState

end Runtime
end StreamAnalytics
