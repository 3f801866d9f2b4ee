import Mathlib.Data.List.Dedup
import Mathlib.Data.List.Sort
import Mathlib.Data.String.Basic
import StreamAnalytics.Runtime.Supervisor

/-!
# The runtime guardian

Model of `internal/actors/runtime/guardian.go`: an actor that starts the managed
subsystems, answers the failures of its children with scheduled retries, and spawns a
subsystem again when its retry fires.  The maps of the guardian are functions whose
value at a missing key is the zero value.

The clock advances between messages only.  A retry is a timer that is due after its
delay and sends a `retrySubsystem` message; it is known by its subsystem and
generation.  The message of a cancelled timer may already be on its way.

Besides the fields of the guardian the state records what it has done (`log`), the
times of the restarts through retries (`restarts`) and the times at which the global
budget was granted (`grants`).
-/

namespace StreamAnalytics
namespace Runtime

open Function

/-- `Subsystem`. -/
abbrev Subsystem := String

/-- `SubsystemMarketData`. -/
def subsystemMarketData : Subsystem := "marketdata"

/-- `orderedSubsystems`. -/
def orderedSubsystems : List Subsystem :=
  [subsystemMarketData, "aggregation", "delivery", "insights", "evidence", "signals", "strategy",
    "execution", "portfolio", "storage"]

/-- `GuardianConfig` with the policy; of the factories only the keys matter. -/
structure GuardianConfig where
  policy : PolicyConfig
  factories : List Subsystem := []
  expectedSubsystems : List Subsystem := []
  globalRestartWindow : Int := 0
  globalRestartLimit : Int := 0

namespace GuardianConfig

/-- `managedSubsystems`. -/
def managedSubsystems (cfg : GuardianConfig) : List Subsystem :=
  let configured := cfg.factories ++ cfg.expectedSubsystems
  let hasDynamicMarketData :=
    configured.any fun sub => (subsystemMarketData ++ ":").toList.isPrefixOf sub.toList
  let ordered :=
    if hasDynamicMarketData then orderedSubsystems.filter (· ≠ subsystemMarketData)
    else orderedSubsystems
  let extras := (configured.filter (· ∉ ordered)).dedup
  ordered ++ extras.insertionSort (· ≤ ·)

theorem nodup_managedSubsystems (cfg : GuardianConfig) : cfg.managedSubsystems.Nodup := by
  unfold managedSubsystems
  have hordered : orderedSubsystems.Nodup := by decide
  refine List.nodup_append.mpr ⟨?_, ?_, fun a ha b hb => ?_⟩
  · split_ifs
    · exact hordered.filter _
    · exact hordered
  · exact (List.perm_insertionSort _ _).nodup_iff.mpr (List.nodup_dedup _)
  · rintro rfl
    have hb := List.mem_dedup.mp ((List.perm_insertionSort _ _).mem_iff.mp hb)
    exact of_decide_eq_true (List.mem_filter.mp hb).2 ha

/-- The window of the global budget, as `ensureDefaults` sets it. -/
def restartWindow (cfg : GuardianConfig) : Int := orDefault cfg.globalRestartWindow 60000000000

/-- The limit of the global budget, as `ensureDefaults` sets it. -/
def restartLimit (cfg : GuardianConfig) : Int := orDefault cfg.globalRestartLimit 5

theorem restartWindow_pos (cfg : GuardianConfig) : 0 < cfg.restartWindow :=
  orDefault_pos (by decide)

theorem restartLimit_pos (cfg : GuardianConfig) : 0 < cfg.restartLimit := orDefault_pos (by decide)

end GuardianConfig

/-- A scheduled retry. -/
structure Timer where
  subsystem : Subsystem
  generation : Nat
  due : Int
  cancelled : Bool := false
deriving DecidableEq

/-- What the guardian does to its children and sends to its parent. -/
inductive Action where
  | poisoned (subsystem : Subsystem)
  | spawned (subsystem : Subsystem)
  | degraded (subsystem : Subsystem) (reason : String)
  | recovered (subsystem : Subsystem)
deriving DecidableEq

/-- What the guardian reports of a subsystem. -/
structure Health where
  running : Bool := false
  ready : Bool := false
  connected : Bool := false
  lastError : String := ""
  lastFailureAt : Int := 0
  lastTransition : Int := 0
  lastMessageAt : Int := 0
  lastPublishAt : Int := 0

/-- The fields of `Guardian` and of its policy, the clock, the timers and the records. -/
structure Guardian where
  children : Subsystem → Bool := fun _ => false
  health : Subsystem → Health := fun _ => {}
  /-- The generation of the timer that the stored function cancels. -/
  scheduledRetry : Subsystem → Option Nat := fun _ => none
  retryGen : Subsystem → Nat := fun _ => 0
  policy : Subsystem → RestartState := fun _ => {}
  globalRestartHistory : List Int := []
  started : Bool := false
  shuttingDown : Bool := false
  clock : Nat := 0
  timers : List Timer := []
  log : List Action := []
  restarts : List Int := []
  grants : List Int := []

/-- The messages that change the guardian. -/
inductive Msg where
  /-- `Start` or `actor.Started`. -/
  | start
  /-- `actor.Stopped`. -/
  | stopped
  | reloadConfig
  | stop
  | childFailed (subsystem : Subsystem) (kind : String) (err : Option String)
  | heartbeat (subsystem : Subsystem) (connected : Bool) (lastMessageAt lastPublishAt : Int)
  | retry (subsystem : Subsystem) (generation : Nat)

/--
A message, the time since the last one, the number drawn if a delay is jittered, and
the errors with which `spawnFn` fails.
-/
structure Event where
  elapsed : Nat
  msg : Msg
  roll : Float := 0.5
  spawnError : Subsystem → Option String := fun _ => none

namespace Guardian

/-- Changes the health of one subsystem. -/
def setHealth (g : Guardian) (sub : Subsystem) (f : Health → Health) : Guardian :=
  { g with health := update g.health sub (f (g.health sub)) }

/-- `startSubsystem`. -/
def startSubsystem (e : Event) (g : Guardian) (sub : Subsystem) : Guardian :=
  let now : Int := g.clock
  match e.spawnError sub with
  | some text => g.setHealth sub fun h => { h with lastError := text, running := false }
  | none =>
    let g := g.setHealth sub fun h =>
      { h with running := true, lastError := "", lastTransition := now, ready := true }
    let g := { g with
      children := update g.children sub true
      log := g.log ++ [Action.spawned sub] }
    if (g.policy sub).degraded now then
      { g with
        policy := update g.policy sub (g.policy sub).markRecovered
        log := g.log ++ [Action.recovered sub] }
    else g

/-- `startAll`. -/
def startAll (cfg : GuardianConfig) (e : Event) (g : Guardian) : Guardian :=
  if g.started then g
  else cfg.managedSubsystems.foldl (startSubsystem e) { g with started := true }

/-- The part of `stopAll` for one subsystem. -/
def stopSubsystem (g : Guardian) (sub : Subsystem) : Guardian :=
  let g := g.setHealth sub fun h =>
    { h with running := false, connected := false, lastTransition := g.clock }
  if g.children sub then
    { g with
      children := update g.children sub false
      log := g.log ++ [.poisoned sub] }
  else g

/-- The part of `stopAll` for the scheduled retries. -/
def cancelRetries (g : Guardian) : Guardian :=
  { g with
    timers := g.timers.map fun t =>
      if g.scheduledRetry t.subsystem = some t.generation then { t with cancelled := true } else t
    scheduledRetry := fun _ => none
    retryGen := fun sub =>
      if (g.scheduledRetry sub).isSome then g.retryGen sub + 1 else g.retryGen sub }

/-- `stopAll`. -/
def stopAll (cfg : GuardianConfig) (g : Guardian) : Guardian :=
  { cfg.managedSubsystems.reverse.foldl stopSubsystem g.cancelRetries with started := false }

/-- `retrySubsystem`. -/
def retrySubsystem (e : Event) (sub : Subsystem) (generation : Nat) (g : Guardian) : Guardian :=
  let now : Int := g.clock
  if g.shuttingDown then g
  else if g.retryGen sub ≠ generation then g
  else
    let g := { g with scheduledRetry := update g.scheduledRetry sub none }
    if (g.policy sub).degraded now && decide (now < (g.policy sub).degradedUntil) then g
    else
      let restarts := if e.spawnError sub = none then g.restarts ++ [now] else g.restarts
      startSubsystem e { g with restarts := restarts } sub

/-- `scheduleFn` for a retry, followed by `replaceScheduledRetry`. -/
def scheduleRetry (sub : Subsystem) (generation : Nat) (delay : Int) (g : Guardian) : Guardian :=
  let timers := g.timers.map fun t =>
    if t.subsystem = sub ∧ g.scheduledRetry sub = some t.generation then
      { t with cancelled := true }
    else t
  let timer := { subsystem := sub, generation := generation, due := g.clock + max delay 0 }
  { g with
    timers := timers ++ [timer]
    scheduledRetry := update g.scheduledRetry sub (some generation) }

/-- `pruneGlobalRestarts`. -/
def pruneGlobalRestarts (cfg : GuardianConfig) (g : Guardian) : List Int :=
  RateWindow.prune g.clock cfg.restartWindow g.globalRestartHistory

/-- `allowGlobalRestart`. -/
def allowGlobalRestart (cfg : GuardianConfig) (g : Guardian) : Guardian × Bool :=
  let history := g.pruneGlobalRestarts cfg
  if cfg.restartLimit ≤ history.length then
    ({ g with globalRestartHistory := history }, false)
  else
    ({ g with globalRestartHistory := history ++ [(g.clock : Int)],
              grants := g.grants ++ [(g.clock : Int)] }, true)

/-- `nextGlobalRetryDelay`, for the history that `allowGlobalRestart` has left. -/
def nextGlobalRetryDelay (cfg : GuardianConfig) (g : Guardian) : Int :=
  let history := g.pruneGlobalRestarts cfg
  if (history.length : Int) < cfg.restartLimit then 0
  else
    match history with
    | [] => cfg.restartWindow
    | oldest :: _ => max (oldest + cfg.restartWindow - g.clock) 0

/-- The delay of a retry that the global budget did not allow. -/
def rateLimitedDelay (cfg : GuardianConfig) (g : Guardian) : Int :=
  orDefault (g.nextGlobalRetryDelay cfg) 1000000000

/-- The bookkeeping of `handleChildFailed` before the decision. -/
def dropChild (sub : Subsystem) (lastError : String) (g : Guardian) : Guardian :=
  let g := g.setHealth sub fun h =>
    { h with
      lastError := lastError
      lastFailureAt := g.clock
      running := false
      connected := false
      lastTransition := g.clock }
  { g with
    children := update g.children sub false
    log := if g.children sub then g.log ++ [.poisoned sub] else g.log }

/-- The policy decides, and the generation is bumped. -/
def onFailure (cfg : GuardianConfig) (roll : Float) (sub : Subsystem) (g : Guardian) :
    Guardian × SupervisorDecision :=
  let outcome := (g.policy sub).onFailure cfg.policy roll g.clock
  ({ g with
    policy := update g.policy sub outcome.1
    retryGen := update g.retryGen sub (g.retryGen sub + 1) }, outcome.2)

/-- The part of `handleChildFailed` after the decision. -/
def applyDecision (cfg : GuardianConfig) (sub : Subsystem) (decision : SupervisorDecision)
    (g : Guardian) : Guardian :=
  let gen := g.retryGen sub
  if decision.enterDegraded then
    scheduleRetry sub gen (decision.degradedUntil - g.clock)
      { g with log := g.log ++ [.degraded sub decision.reason] }
  else if decision.restart then
    let allowed := g.allowGlobalRestart cfg
    if allowed.2 then
      allowed.1.scheduleRetry sub gen decision.delay
    else
      allowed.1.scheduleRetry sub gen (allowed.1.rateLimitedDelay cfg)
  else g

/-- `handleChildFailed`. -/
def handleChildFailed (cfg : GuardianConfig) (roll : Float) (sub : Subsystem) (kind : String)
    (err : Option String) (g : Guardian) : Guardian :=
  if sub = "" then g
  else if g.shuttingDown then g
  else
    let decided := (g.dropChild sub (err.getD kind)).onFailure cfg roll sub
    decided.1.applyDecision cfg sub decided.2

/-- `handleHeartbeat`. -/
def handleHeartbeat (sub : Subsystem) (connected : Bool) (lastMessageAt lastPublishAt : Int)
    (g : Guardian) : Guardian :=
  if sub = "" then g
  else
    g.setHealth sub fun h =>
      { h with
        connected := connected
        lastMessageAt := if lastMessageAt = 0 then h.lastMessageAt else lastMessageAt
        lastPublishAt := if lastPublishAt = 0 then h.lastPublishAt else lastPublishAt }

/-- The timer of a retry that has become due, if there is one. -/
def dueTimer (sub : Subsystem) (generation : Nat) (g : Guardian) : Option Timer :=
  g.timers.find? fun t => t.subsystem = sub ∧ t.generation = generation ∧ t.due ≤ g.clock

/-- `Receive`; the message of a retry comes from a timer that is due. -/
def receive (cfg : GuardianConfig) (e : Event) (g : Guardian) : Guardian :=
  match e.msg with
  | .start => g.startAll cfg e
  | .stopped => g.stopAll cfg
  | .reloadConfig => (g.stopAll cfg).startAll cfg e
  | .stop => { g with shuttingDown := true }.stopAll cfg
  | .childFailed sub kind err => g.handleChildFailed cfg e.roll sub kind err
  | .heartbeat sub connected lastMessageAt lastPublishAt =>
    g.handleHeartbeat sub connected lastMessageAt lastPublishAt
  | .retry sub generation =>
    match g.dueTimer sub generation with
    | none => g
    | some t => retrySubsystem e sub generation { g with timers := g.timers.erase t }

/-- The clock advances and the next message is received. -/
def step (cfg : GuardianConfig) (g : Guardian) (e : Event) : Guardian :=
  receive cfg e { g with clock := g.clock + e.elapsed }

variable {cfg : GuardianConfig} {e : Event} {g g' g'' : Guardian} {sub : Subsystem}

/-! ## Starting and stopping subsystems -/

/-- What `startSubsystem` does when the spawn succeeds. -/
theorem startSubsystem_of_spawned (h : e.spawnError sub = none) :
    ∃ health, startSubsystem e g sub = { g with
      health := health
      children := update g.children sub true
      policy := if (g.policy sub).degraded g.clock then
        update g.policy sub (g.policy sub).markRecovered else g.policy
      log := g.log ++ .spawned sub ::
        if (g.policy sub).degraded g.clock then [.recovered sub] else [] } := by
  refine ⟨(startSubsystem e g sub).health, ?_⟩
  unfold startSubsystem setHealth
  rw [h]
  dsimp only
  cases (g.policy sub).degraded g.clock with
  | true =>
    rw [if_pos rfl, if_pos rfl, if_pos rfl, List.append_assoc]
    rfl
  | false => rfl

/-- What `startSubsystem` does when the spawn fails. -/
theorem startSubsystem_of_error {text : String} (h : e.spawnError sub = some text) :
    ∃ health, startSubsystem e g sub = { g with health := health } := by
  unfold startSubsystem setHealth
  rw [h]
  exact ⟨_, rfl⟩

/-- What `stopSubsystem` does. -/
theorem stopSubsystem_eq (g : Guardian) (sub : Subsystem) :
    ∃ health, stopSubsystem g sub = { g with
      health := health
      children := update g.children sub false
      log := if g.children sub then g.log ++ [.poisoned sub] else g.log } := by
  refine ⟨(stopSubsystem g sub).health, ?_⟩
  unfold stopSubsystem setHealth
  dsimp only
  cases hchild : g.children sub with
  | true => rfl
  | false => rw [if_neg (by simp), if_neg (by simp), ← hchild, update_eq_self]

/-- The parts of the state that starting and stopping subsystems leaves alone. -/
structure Quiet (g g' : Guardian) : Prop where
  scheduledRetry : g'.scheduledRetry = g.scheduledRetry
  retryGen : g'.retryGen = g.retryGen
  globalRestartHistory : g'.globalRestartHistory = g.globalRestartHistory
  started : g'.started = g.started
  shuttingDown : g'.shuttingDown = g.shuttingDown
  clock : g'.clock = g.clock
  timers : g'.timers = g.timers
  restarts : g'.restarts = g.restarts
  grants : g'.grants = g.grants

theorem Quiet.refl (g : Guardian) : Quiet g g := ⟨rfl, rfl, rfl, rfl, rfl, rfl, rfl, rfl, rfl⟩

theorem Quiet.trans (h : Quiet g g') (h' : Quiet g' g'') : Quiet g g'' :=
  ⟨h'.1.trans h.1, h'.2.trans h.2, h'.3.trans h.3, h'.4.trans h.4, h'.5.trans h.5,
    h'.6.trans h.6, h'.7.trans h.7, h'.8.trans h.8, h'.9.trans h.9⟩

theorem quiet_startSubsystem
    (e : Event) (g : Guardian) (sub : Subsystem) : Quiet g (startSubsystem e g sub) := by
  cases h : e.spawnError sub with
  | none =>
    obtain ⟨health, heq⟩ := startSubsystem_of_spawned (g := g) h
    rw [heq]
    exact ⟨rfl, rfl, rfl, rfl, rfl, rfl, rfl, rfl, rfl⟩
  | some text =>
    obtain ⟨health, heq⟩ := startSubsystem_of_error (g := g) h
    rw [heq]
    exact ⟨rfl, rfl, rfl, rfl, rfl, rfl, rfl, rfl, rfl⟩

theorem quiet_stopSubsystem (g : Guardian) (sub : Subsystem) : Quiet g (stopSubsystem g sub) := by
  obtain ⟨health, heq⟩ := stopSubsystem_eq g sub
  rw [heq]
  exact ⟨rfl, rfl, rfl, rfl, rfl, rfl, rfl, rfl, rfl⟩

theorem quiet_startSubsystems (e : Event) (g : Guardian) (subs : List Subsystem) :
    Quiet g (subs.foldl (startSubsystem e) g) :=
  List.foldlRecOn subs _ (Quiet.refl g) fun g' h sub _ => h.trans (quiet_startSubsystem e g' sub)

theorem quiet_stopSubsystems
    (g : Guardian) (subs : List Subsystem) : Quiet g (subs.foldl stopSubsystem g) :=
  List.foldlRecOn subs _ (Quiet.refl g) fun g' h sub _ => h.trans (quiet_stopSubsystem g' sub)

/-- Stopping subsystems does not concern the policy. -/
theorem policy_stopSubsystems
    (g : Guardian) (subs : List Subsystem) : (subs.foldl stopSubsystem g).policy = g.policy := by
  refine List.foldlRecOn (motive := fun g' : Guardian => g'.policy = g.policy) subs _ rfl
    fun g' h sub _ => ?_
  obtain ⟨health, heq⟩ := stopSubsystem_eq g' sub
  rw [heq]
  exact h

/-- A heartbeat concerns only the health. -/
theorem handleHeartbeat_eq
    (sub : Subsystem) (connected : Bool) (lastMessageAt lastPublishAt : Int) (g : Guardian) :
    ∃ health, g.handleHeartbeat sub connected lastMessageAt lastPublishAt =
      { g with health := health } := by
  by_cases hname : sub = ""
  · exact ⟨g.health, if_pos hname⟩
  · exact ⟨_, if_neg hname⟩

theorem dueTimer_eq_some {gen : Nat} {t : Timer} (h : g.dueTimer sub gen = some t) :
    t ∈ g.timers ∧ t.subsystem = sub ∧ t.generation = gen ∧ t.due ≤ g.clock := by
  unfold dueTimer at h
  exact ⟨List.mem_of_find?_eq_some h, by simpa using List.find?_some h⟩

/-! ## A sample guardian -/

/-- A guardian that is given neither a policy nor factories. -/
def sampleConfig : GuardianConfig := { policy := defaultPolicy }

/-- A second passes and the guardian is started. -/
def sampleStart : Event := { elapsed := 1000000000, msg := .start }

/-- A second passes and the aggregation fails. -/
def sampleFailure : Event :=
  { elapsed := 1000000000, msg := .childFailed "aggregation" "panic" none }

/-- The given seconds pass and a retry of the aggregation fires. -/
def sampleRetry (seconds gen : Nat) : Event :=
  { elapsed := seconds * 1000000000, msg := .retry "aggregation" gen }

/-- The aggregation fails until it enters the cooldown, and is started again after that. -/
def sampleCrashes : List Event :=
  [sampleFailure, sampleRetry 4 1, sampleFailure, sampleRetry 4 2, sampleFailure, sampleRetry 4 3,
    sampleFailure, sampleRetry 4 4, sampleFailure, sampleRetry 4 5, sampleFailure,
    sampleRetry 30 6]

end Guardian

end Runtime
end StreamAnalytics
