import StreamAnalytics.Runtime.RestartBudget

/-!
# Recovery of degraded subsystems

`startSubsystem` recognises a degraded subsystem by its cooldown not being over, while
the retry that ends the cooldown is not due before.  What matters here of a subsystem is
its `View`: how often it was started and reported recovered, whether a `Degraded` is
outstanding, and the state of the policy.  A message starts the subsystem, reports its
failure or leaves the view alone (`view_receive`).  A start reports the recovery of an
outstanding subsystem exactly when it happens during the cooldown, and only a reload
can (`recovers_iff`).
-/

namespace StreamAnalytics
namespace Runtime

/-- Whether a `Degraded` of the subsystem is outstanding after an action. -/
def Action.track (sub : Subsystem) (outstanding : Bool) (a : Action) : Bool :=
  match a with
  | .degraded sub' _ => outstanding || decide (sub' = sub)
  | .recovered sub' => outstanding && decide (sub' ≠ sub)
  | _ => outstanding

/-- The last of the `Degraded` and `Recovered` reports of the subsystem is `Degraded`. -/
def outstanding (sub : Subsystem) (log : List Action) : Bool := log.foldl (Action.track sub) false

/-- What matters of a subsystem. -/
structure View where
  spawned : Nat
  recovered : Nat
  outstanding : Bool
  policy : RestartState

namespace View

/-- The subsystem is started. -/
def start (now : Int) (v : View) : View where
  spawned := v.spawned + 1
  recovered := if v.policy.degraded now then v.recovered + 1 else v.recovered
  outstanding := if v.policy.degraded now then false else v.outstanding
  policy := if v.policy.degraded now then v.policy.markRecovered else v.policy

/-- The subsystem fails. -/
def fail (cfg : PolicyConfig) (roll : Float) (now : Int) (v : View) : View :=
  { v with
    outstanding := v.outstanding || (v.policy.onFailure cfg roll now).2.enterDegraded
    policy := (v.policy.onFailure cfg roll now).1 }

/-- A `Degraded` is outstanding as long as the end of a cooldown is recorded. -/
def Consistent (v : View) : Prop := v.outstanding = true ↔ 0 < v.policy.degradedUntil

variable {v : View} {now : Int} {cfg : PolicyConfig} {roll : Float}

theorem Consistent.start (h : v.Consistent) : (v.start now).Consistent := by
  unfold Consistent View.start
  cases v.policy.degraded now with
  | true => simp [RestartState.markRecovered]
  | false => exact h

theorem Consistent.fail (h : v.Consistent) (hnow : 0 ≤ now) : (v.fail cfg roll now).Consistent := by
  have hcooldown := cfg.cooldown_pos
  unfold Consistent View.fail at *
  cases hdegraded : v.policy.degraded now with
  | true =>
    obtain ⟨hstate, henter, -⟩ := RestartState.onFailure_degraded cfg roll hdegraded
    rw [hstate, henter, Bool.or_false]
    exact h
  | false =>
    rcases RestartState.onFailure_cases cfg roll hdegraded with
      ⟨henter, -, huntil⟩ | ⟨henter, -, huntil⟩
    · rw [henter, huntil, Bool.or_true]
      exact ⟨fun _ => by omega, fun _ => rfl⟩
    · rw [henter, huntil, Bool.or_false]
      exact h

/--
A subsystem that is started while a `Degraded` of it is outstanding is reported
recovered once, and its failure window is cleared, so that its next failure is
restarted with the base backoff.  No other recovery is reported.
-/
structure Recovers (cfg : PolicyConfig) (now : Int) (before after : View) : Prop where
  reported : before.spawned < after.spawned → before.outstanding = true →
    after.recovered = before.recovered + 1
  cleared : before.spawned < after.spawned → before.outstanding = true →
    after.policy.failures = []
  base : before.spawned < after.spawned → before.outstanding = true →
    ∀ roll now', now ≤ now' →
      (after.policy.onFailure cfg roll now').2.restart = true ∧
      (after.policy.onFailure cfg roll now').2.delay = backoff cfg roll 0
  quiet : ¬ (before.spawned < after.spawned ∧ before.outstanding = true) →
    after.recovered = before.recovered

/-- Whatever does not start the subsystem does not report its recovery. -/
theorem recovers_of_eq {after : View} (hspawned : after.spawned = v.spawned)
    (hrecovered : after.recovered = v.recovered) : Recovers cfg now v after := by
  have hnot : ¬ v.spawned < after.spawned := by omega
  exact ⟨fun h => absurd h hnot, fun h => absurd h hnot, fun h => absurd h hnot,
    fun _ => hrecovered⟩

/-- A start reports an outstanding recovery exactly when it happens during the cooldown. -/
theorem recovers_start_iff (h : v.Consistent) (hnow : 0 ≤ now) :
    Recovers cfg now v (v.start now) ↔ (v.outstanding = true → v.policy.degraded now = true) := by
  have hstarted : v.spawned < (v.start now).spawned := Nat.lt_succ_self _
  constructor
  · intro hrecovers houtstanding
    by_contra hdegraded
    have hreported := hrecovers.reported hstarted houtstanding
    rw [show (v.start now).recovered = v.recovered from if_neg hdegraded] at hreported
    omega
  · intro hcooldown
    cases hdegraded : v.policy.degraded now with
    | true =>
      have hbefore : now < v.policy.degradedUntil := of_decide_eq_true hdegraded
      have houtstanding : v.outstanding = true := h.mpr (by omega)
      have hpolicy : (v.start now).policy = v.policy.markRecovered := if_pos hdegraded
      refine ⟨fun _ _ => if_pos hdegraded, fun _ _ => ?_, fun _ _ roll now' hlater => ?_,
        fun hnot => absurd ⟨hstarted, houtstanding⟩ hnot⟩
      · rw [hpolicy]
        rfl
      · rw [hpolicy]
        exact RestartState.onFailure_markRecovered (hnow.trans hlater)
    | false =>
      have hnone : v.outstanding ≠ true := by
        intro houtstanding
        exact absurd (hdegraded.symm.trans (hcooldown houtstanding)) (by simp)
      exact ⟨fun _ h => absurd h hnone, fun _ h => absurd h hnone, fun _ h => absurd h hnone,
        fun _ => if_neg (by simp [hdegraded])⟩

end View

namespace Guardian

variable {cfg : GuardianConfig} {e : Event} {g g' : Guardian} {sub sub' : Subsystem}

/-- The view of a subsystem. -/
def view (g : Guardian) (sub : Subsystem) : View where
  spawned := g.log.count (.spawned sub)
  recovered := g.log.count (.recovered sub)
  outstanding := outstanding sub g.log
  policy := g.policy sub

/-! ## Starting and stopping -/

theorem view_startSubsystem (e : Event) (g : Guardian) (sub sub' : Subsystem) :
    (startSubsystem e g sub').view sub =
      if sub' = sub ∧ e.spawnError sub' = none then (g.view sub).start g.clock else g.view sub := by
  cases hspawn : e.spawnError sub' with
  | some text =>
    obtain ⟨health, heq⟩ := startSubsystem_of_error (g := g) hspawn
    rw [heq]
    simp
    rfl
  | none =>
    obtain ⟨health, heq⟩ := startSubsystem_of_spawned (g := g) hspawn
    rw [heq]
    by_cases hsub : sub' = sub
    · subst hsub
      refine Eq.trans ?_ (if_pos ⟨rfl, rfl⟩).symm
      unfold view View.start outstanding
      cases (g.policy sub').degraded g.clock with
      | true => simp [Action.track]
      | false => simp [Action.track]
    · refine Eq.trans ?_ (if_neg fun h => hsub h.1).symm
      unfold view outstanding
      cases (g.policy sub').degraded g.clock with
      | true => simp [Action.track, hsub, Function.update_of_ne (Ne.symm hsub)]
      | false => simp [Action.track, hsub]

/-- Starting distinct subsystems starts each of them once. -/
theorem view_startSubsystems
    {subs : List Subsystem} (hsubs : subs.Nodup) (e : Event) (g : Guardian) (sub : Subsystem) :
    (subs.foldl (startSubsystem e) g).view sub =
      if sub ∈ subs ∧ e.spawnError sub = none then (g.view sub).start g.clock else g.view sub := by
  induction subs generalizing g with
  | nil => simp
  | cons sub' subs ih =>
    obtain ⟨hnew, hrest⟩ := List.nodup_cons.mp hsubs
    rw [List.foldl_cons, ih hrest, view_startSubsystem, (quiet_startSubsystem e g sub').clock]
    by_cases hsub : sub' = sub
    · subst hsub
      simp [hnew]
    · simp [hsub, Ne.symm hsub]

theorem view_stopSubsystems (g : Guardian) (subs : List Subsystem) (sub : Subsystem) :
    (subs.foldl stopSubsystem g).view sub = g.view sub := by
  refine List.foldlRecOn (motive := fun g' : Guardian => g'.view sub = g.view sub) subs _ rfl
    fun g' h sub' _ => ?_
  obtain ⟨health, heq⟩ := stopSubsystem_eq g' sub'
  rw [heq, ← h]
  unfold view outstanding
  cases g'.children sub' with
  | true => simp [Action.track]
  | false => rfl

theorem view_stopAll (cfg : GuardianConfig) (g : Guardian) (sub : Subsystem) :
    (g.stopAll cfg).view sub = g.view sub :=
  view_stopSubsystems g.cancelRetries _ sub

theorem view_startAll (cfg : GuardianConfig) (e : Event) (g : Guardian) (sub : Subsystem) :
    (g.startAll cfg e).view sub =
      if g.started = false ∧ sub ∈ cfg.managedSubsystems ∧ e.spawnError sub = none then
        (g.view sub).start g.clock
      else g.view sub := by
  unfold startAll
  cases g.started with
  | true => simp
  | false =>
    rw [if_neg (by simp), view_startSubsystems cfg.nodup_managedSubsystems]
    simp
    rfl

/-! ## Failures and retries -/

theorem view_scheduleRetry
    (sub' : Subsystem) (gen : Nat) (delay : Int) (g : Guardian) (sub : Subsystem) :
    (g.scheduleRetry sub' gen delay).view sub = g.view sub := by
  rfl

theorem view_allowGlobalRestart (cfg : GuardianConfig) (g : Guardian) (sub : Subsystem) :
    (g.allowGlobalRestart cfg).1.view sub = g.view sub := by
  obtain ⟨history, grants, heq⟩ := allowGlobalRestart_eq cfg g
  rw [heq]
  rfl

theorem view_onFailure
    (cfg : GuardianConfig) (roll : Float) (sub' : Subsystem) (lastError : String) (g : Guardian)
    (sub : Subsystem) :
    ((g.dropChild sub' lastError).onFailure cfg roll sub').1.view sub =
      { g.view sub with
        policy := if sub' = sub then ((g.policy sub).onFailure cfg.policy roll g.clock).1
          else g.policy sub } := by
  have hlog : ∀ log, log = (if g.children sub' then g.log ++ [.poisoned sub'] else g.log) →
      log.count (.spawned sub) = g.log.count (.spawned sub) ∧
      log.count (.recovered sub) = g.log.count (.recovered sub) ∧
      outstanding sub log = outstanding sub g.log := by
    rintro log rfl
    unfold outstanding
    cases g.children sub' with
    | true => simp [Action.track]
    | false => simp
  obtain ⟨hspawned, hrecovered, houtstanding⟩ := hlog _ rfl
  unfold view onFailure dropChild setHealth
  dsimp only
  rw [hspawned, hrecovered, houtstanding]
  by_cases hsub : sub' = sub
  · subst hsub
    rw [if_pos rfl, Function.update_self]
  · rw [if_neg hsub, Function.update_of_ne (Ne.symm hsub)]

theorem view_applyDecision
    (cfg : GuardianConfig) (sub' : Subsystem) (decision : SupervisorDecision) (g : Guardian)
    (sub : Subsystem) :
    (g.applyDecision cfg sub' decision).view sub =
      { g.view sub with
        outstanding := outstanding sub g.log || decision.enterDegraded && decide (sub' = sub) } := by
  unfold applyDecision
  dsimp only
  split_ifs with henter hrestart hallowed
  · rw [view_scheduleRetry]
    unfold view outstanding
    simp [Action.track, henter]
  · rw [view_scheduleRetry, view_allowGlobalRestart]
    simp [view, henter]
  · rw [view_scheduleRetry, view_allowGlobalRestart]
    simp [view, henter]
  · simp [view, henter]

theorem view_handleChildFailed
    (cfg : GuardianConfig) (roll : Float) (sub' : Subsystem) (kind : String) (err : Option String)
    (g : Guardian) (sub : Subsystem) :
    (g.handleChildFailed cfg roll sub' kind err).view sub =
      if sub' = sub ∧ sub' ≠ "" ∧ g.shuttingDown = false then
        (g.view sub).fail cfg.policy roll g.clock
      else g.view sub := by
  unfold handleChildFailed
  by_cases hname : sub' = ""
  · simp [hname]
  cases g.shuttingDown with
  | true => simp
  | false =>
    have hdecided := view_onFailure cfg roll sub' (err.getD kind) g sub
    have houtstanding := congrArg View.outstanding hdecided
    rw [if_neg hname, if_neg (by simp), view_applyDecision, hdecided]
    rw [show outstanding sub _ = outstanding sub g.log from houtstanding]
    by_cases hsub : sub' = sub
    · subst hsub
      rw [if_pos rfl, if_pos ⟨rfl, hname, rfl⟩]
      simp [View.fail, view]
      rfl
    · rw [if_neg hsub, if_neg fun h => hsub h.1]
      simp [view, hsub]

/-- A retry starts its subsystem or leaves the views alone. -/
theorem view_retrySubsystem
    (e : Event) (sub' : Subsystem) (gen : Nat) (g : Guardian) (sub : Subsystem) :
    (g.retrySubsystem e sub' gen).view sub =
      if sub' = sub ∧ g.shuttingDown = false ∧ g.retryGen sub' = gen ∧
        (g.policy sub').degraded g.clock = false ∧ e.spawnError sub' = none
      then (g.view sub).start g.clock else g.view sub := by
  unfold retrySubsystem
  cases g.shuttingDown with
  | true => simp
  | false =>
    by_cases hgen : g.retryGen sub' = gen
    · rw [if_neg (by simp), if_neg (by simp [hgen])]
      cases hdegraded : (g.policy sub').degraded g.clock with
      | true =>
        have hbefore : (g.clock : Int) < (g.policy sub').degradedUntil :=
          of_decide_eq_true hdegraded
        rw [if_pos (by simp [hdegraded, hbefore]), if_neg (by simp)]
        rfl
      | false =>
        rw [if_neg (by simp [hdegraded]), view_startSubsystem]
        simp only [hgen, true_and]
        rfl
    · rw [if_neg (by simp), if_pos hgen, if_neg fun h => hgen h.2.2.1]

/-! ## Messages -/

/-- The message starts the subsystem; the clock has advanced already. -/
def Starts (cfg : GuardianConfig) (e : Event) (g : Guardian) (sub : Subsystem) : Prop :=
  e.spawnError sub = none ∧
    match e.msg with
    | .start => g.started = false ∧ sub ∈ cfg.managedSubsystems
    | .reloadConfig => sub ∈ cfg.managedSubsystems
    | .retry sub' gen =>
      sub' = sub ∧ (∃ t, g.dueTimer sub gen = some t) ∧ g.shuttingDown = false ∧
        g.retryGen sub = gen ∧ (g.policy sub).degraded g.clock = false
    | _ => False

/-- A message starts the subsystem, reports its failure or leaves the view alone. -/
theorem view_receive (cfg : GuardianConfig) (e : Event) (g : Guardian) (sub : Subsystem) :
    Starts cfg e g sub ∧ (g.receive cfg e).view sub = (g.view sub).start g.clock ∨
    ¬ Starts cfg e g sub ∧
      ((g.receive cfg e).view sub = (g.view sub).fail cfg.policy e.roll g.clock ∨
        (g.receive cfg e).view sub = g.view sub) := by
  unfold Starts receive
  cases e.msg with
  | start =>
    dsimp only
    rw [view_startAll]
    split_ifs with h
    · exact .inl ⟨⟨h.2.2, h.1, h.2.1⟩, rfl⟩
    · exact .inr ⟨fun h' => h ⟨h'.2.1, h'.2.2, h'.1⟩, .inr rfl⟩
  | stopped => exact .inr ⟨And.right, .inr (view_stopAll cfg g sub)⟩
  | reloadConfig =>
    have hclock : (g.stopAll cfg).clock = g.clock :=
      (quiet_stopSubsystems g.cancelRetries _).clock
    dsimp only
    rw [view_startAll, view_stopAll, hclock]
    split_ifs with h
    · exact .inl ⟨⟨h.2.2, h.2.1⟩, rfl⟩
    · exact .inr ⟨fun h' => h ⟨rfl, h'.2, h'.1⟩, .inr rfl⟩
  | stop => exact .inr ⟨And.right, .inr (view_stopAll cfg { g with shuttingDown := true } sub)⟩
  | childFailed sub' kind err =>
    refine .inr ⟨And.right, ?_⟩
    dsimp only
    rw [view_handleChildFailed]
    split_ifs
    · exact .inl rfl
    · exact .inr rfl
  | heartbeat sub' connected lastMessageAt lastPublishAt =>
    obtain ⟨health, heq⟩ := handleHeartbeat_eq sub' connected lastMessageAt lastPublishAt g
    refine .inr ⟨And.right, .inr ?_⟩
    dsimp only
    rw [heq]
    rfl
  | retry sub' gen =>
    dsimp only
    cases hdue : g.dueTimer sub' gen with
    | none =>
      refine .inr ⟨?_, .inr rfl⟩
      rintro ⟨-, rfl, ⟨t, ht⟩, -⟩
      exact absurd (hdue.symm.trans ht) (by simp)
    | some t =>
      dsimp only
      rw [view_retrySubsystem]
      split_ifs with h
      · obtain ⟨rfl, hrunning, hgen, hdegraded, hspawn⟩ := h
        exact .inl ⟨⟨hspawn, rfl, ⟨t, hdue⟩, hrunning, hgen, hdegraded⟩, rfl⟩
      · refine .inr ⟨?_, .inr rfl⟩
        rintro ⟨hspawn, rfl, -, hrunning, hgen, hdegraded⟩
        exact h ⟨rfl, hrunning, hgen, hdegraded, hspawn⟩

/-! ## Runs -/

/-- The message reports the recovery of the subsystems it starts as it should. -/
def RecoversOnStart (cfg : GuardianConfig) (g : Guardian) (e : Event) : Prop :=
  ∀ sub, View.Recovers cfg.policy (g.step cfg e).clock (g.view sub) ((g.step cfg e).view sub)

/-- A subsystem of which a `Degraded` is outstanding is started during its cooldown only. -/
def StartsDuringCooldown (cfg : GuardianConfig) (g : Guardian) (e : Event) : Prop :=
  ∀ sub, Starts cfg e { g with clock := g.clock + e.elapsed } sub →
    outstanding sub g.log = true →
    (g.policy sub).degraded (g.clock + e.elapsed : Nat) = true

theorem recoversOnStart_iff (h : ∀ sub, (g.view sub).Consistent) :
    RecoversOnStart cfg g e ↔ StartsDuringCooldown cfg g e := by
  refine forall_congr' fun sub => ?_
  have hview := view_receive cfg e { g with clock := g.clock + e.elapsed } sub
  have hsame : view { g with clock := g.clock + e.elapsed } sub = g.view sub := rfl
  rw [hsame] at hview
  unfold step
  rw [clock_receive]
  rcases hview with ⟨hstarts, heq⟩ | ⟨hnot, heq⟩
  · rw [heq, View.recovers_start_iff (h sub) (Int.natCast_nonneg _)]
    exact ⟨fun h _ => h, fun h => h hstarts⟩
  · refine ⟨fun _ hstarts => absurd hstarts hnot, fun _ => ?_⟩
    rcases heq with heq | heq
    · rw [heq]
      exact View.recovers_of_eq rfl rfl
    · rw [heq]
      exact View.recovers_of_eq rfl rfl

theorem consistent_step (h : ∀ sub, (g.view sub).Consistent) (cfg : GuardianConfig) (e : Event) :
    ∀ sub, ((g.step cfg e).view sub).Consistent := by
  intro sub
  have hsame : view { g with clock := g.clock + e.elapsed } sub = g.view sub := rfl
  unfold step
  rcases view_receive cfg e { g with clock := g.clock + e.elapsed } sub with
    ⟨-, heq⟩ | ⟨-, heq | heq⟩
  · rw [heq, hsame]
    exact (h sub).start
  · rw [heq, hsame]
    exact (h sub).fail (Int.natCast_nonneg _)
  · rw [heq, hsame]
    exact h sub

/--
In every run, every start of a subsystem of which a `Degraded` is outstanding is
reported as its only recovery and clears its failure window, exactly when no such
subsystem is started at or after the end of its cooldown.
-/
theorem recovers_iff (cfg : GuardianConfig) (es : List Event) :
    Runs.Always (step cfg) (RecoversOnStart cfg) {} es ↔
      Runs.Always (step cfg) (StartsDuringCooldown cfg) {} es := by
  have hinitial : ∀ sub, (view {} sub).Consistent := by
    intro sub
    exact ⟨fun h => absurd h (by simp [view, outstanding]), fun h => absurd h (by simp [view])⟩
  have hstep : ∀ (g : Guardian) (e : Event), (∀ sub, (g.view sub).Consistent) →
      ∀ sub, ((g.step cfg e).view sub).Consistent := fun g e h => consistent_step h cfg e
  exact ⟨Runs.always_of_always (I := fun g => ∀ sub, (view g sub).Consistent)
      (fun g e h _ => hstep g e h) (fun _ _ h => (recoversOnStart_iff h).mp) hinitial,
    Runs.always_of_always (I := fun g => ∀ sub, (view g sub).Consistent)
      (fun g e h _ => hstep g e h) (fun _ _ h => (recoversOnStart_iff h).mpr) hinitial⟩

/-- The retry after the cooldown starts the aggregation, and no recovery is reported. -/
theorem restart_without_recovery :
    let before := Runs.run (step sampleConfig) {} (sampleStart :: sampleCrashes.dropLast)
    let after := step sampleConfig before (sampleRetry 30 6)
    outstanding "aggregation" before.log = true ∧
    before.log.count (.spawned "aggregation") < after.log.count (.spawned "aggregation") ∧
    Action.recovered "aggregation" ∉ after.log := by
  decide +kernel

end Guardian
end Runtime
end StreamAnalytics
