import StreamAnalytics.Runtime.Retries

/-!
# The global restart budget

`allowGlobalRestart` bounds the failures that are granted an immediate retry: no
interval of the length of the window contains more grants than the limit
(`grants_within`).  The restarts themselves are not bounded.  They happen when the
retries fire, and the retries of degraded and of rate limited subsystems restart without
a grant (`sixth_restart_in_window`).  The bound holds throughout a run exactly when
every retry that restarts a subsystem finds room in the window (`restarts_within_iff`).
-/

namespace StreamAnalytics
namespace Runtime
namespace Guardian

variable {cfg : GuardianConfig} {e : Event} {g g' : Guardian} {sub : Subsystem}

/-! ## Restarts -/

/-- The message is a retry that restarts its subsystem; the clock has advanced already. -/
def restartsNow (e : Event) (g : Guardian) : Bool :=
  match e.msg with
  | .retry sub gen =>
    (g.dueTimer sub gen).isSome && !g.shuttingDown && decide (g.retryGen sub = gen) &&
      !(g.policy sub).degraded g.clock && (e.spawnError sub).isNone
  | _ => false

theorem restarts_stopAll
    (cfg : GuardianConfig) (g : Guardian) : (g.stopAll cfg).restarts = g.restarts :=
  (quiet_stopSubsystems g.cancelRetries _).restarts

theorem restarts_startAll (cfg : GuardianConfig) (e : Event) (g : Guardian) :
    (g.startAll cfg e).restarts = g.restarts := by
  unfold startAll
  split_ifs
  · rfl
  · exact (quiet_startSubsystems e _ _).restarts

theorem restarts_handleChildFailed
    (cfg : GuardianConfig) (roll : Float) (sub : Subsystem) (kind : String) (err : Option String)
    (g : Guardian) : (g.handleChildFailed cfg roll sub kind err).restarts = g.restarts :=
  handleChildFailed_induction (motive := fun g' => g'.restarts = g.restarts) rfl rfl
    fun _ _ _ _ _ => rfl

theorem restarts_retrySubsystem (e : Event) (sub : Subsystem) (gen : Nat) (g : Guardian) :
    (g.retrySubsystem e sub gen).restarts = g.restarts ++
      if !g.shuttingDown && decide (g.retryGen sub = gen) &&
        !(g.policy sub).degraded g.clock && (e.spawnError sub).isNone
      then [(g.clock : Int)] else [] := by
  unfold retrySubsystem
  cases g.shuttingDown with
  | true => simp
  | false =>
    by_cases hgen : g.retryGen sub = gen
    · rw [if_neg (by simp), if_neg (by simp [hgen])]
      cases hdegraded : (g.policy sub).degraded g.clock with
      | true =>
        have hbefore : (g.clock : Int) < (g.policy sub).degradedUntil :=
          of_decide_eq_true hdegraded
        simp [hdegraded, hbefore]
      | false =>
        rw [if_neg (by simp [hdegraded]), (quiet_startSubsystem e _ sub).restarts]
        cases e.spawnError sub with
        | none => simp [hgen]
        | some text => simp
    · simp [hgen]

/-- A message adds the present time to the restarts, if it restarts a subsystem. -/
theorem restarts_receive (cfg : GuardianConfig) (e : Event) (g : Guardian) :
    (g.receive cfg e).restarts = g.restarts ++ if g.restartsNow e then [(g.clock : Int)] else [] := by
  unfold receive restartsNow
  cases e.msg with
  | start => simpa using restarts_startAll cfg e g
  | stopped => simpa using restarts_stopAll cfg g
  | reloadConfig => simpa using (restarts_startAll cfg e _).trans (restarts_stopAll cfg g)
  | stop => simpa using restarts_stopAll cfg { g with shuttingDown := true }
  | childFailed sub kind err => simpa using restarts_handleChildFailed cfg e.roll sub kind err g
  | heartbeat sub connected lastMessageAt lastPublishAt =>
    obtain ⟨health, heq⟩ := handleHeartbeat_eq sub connected lastMessageAt lastPublishAt g
    dsimp only
    rw [heq]
    simp
  | retry sub gen =>
    obtain hdue | ⟨t, hdue⟩ := Option.eq_none_or_eq_some (g.dueTimer sub gen)
    · simp [hdue]
    · simpa [hdue] using restarts_retrySubsystem e sub gen { g with timers := g.timers.erase t }

theorem clock_receive
    (cfg : GuardianConfig) (e : Event) (g : Guardian) : (g.receive cfg e).clock = g.clock := by
  have hstart : ∀ g : Guardian, (g.startAll cfg e).clock = g.clock := by
    intro g
    unfold startAll
    split_ifs
    · rfl
    · exact (quiet_startSubsystems e _ _).clock
  have hstop : ∀ g : Guardian, (g.stopAll cfg).clock = g.clock := fun g =>
    (quiet_stopSubsystems g.cancelRetries _).clock
  unfold receive
  cases e.msg with
  | start => exact hstart g
  | stopped => exact hstop g
  | reloadConfig => exact (hstart _).trans (hstop g)
  | stop => exact hstop _
  | childFailed sub kind err =>
    exact handleChildFailed_induction (motive := fun g' => g'.clock = g.clock) rfl rfl
      fun _ _ _ _ _ => rfl
  | heartbeat sub connected lastMessageAt lastPublishAt =>
    obtain ⟨health, heq⟩ := handleHeartbeat_eq sub connected lastMessageAt lastPublishAt g
    dsimp only
    rw [heq]
  | retry sub gen =>
    dsimp only
    cases g.dueTimer sub gen with
    | none => rfl
    | some t =>
      dsimp only
      unfold retrySubsystem
      dsimp only
      split_ifs
      · rfl
      · rfl
      · rfl
      all_goals exact (quiet_startSubsystem e _ sub).clock

/-- A retry that restarts a subsystem finds room in the window of the global budget. -/
def RestartHasRoom (cfg : GuardianConfig) (g : Guardian) (e : Event) : Prop :=
  restartsNow e { g with clock := g.clock + e.elapsed } = true →
    RateWindow.count ((g.clock + e.elapsed : Nat) - cfg.restartWindow) (g.clock + e.elapsed : Nat)
      g.restarts < cfg.restartLimit

instance (cfg : GuardianConfig) (g : Guardian) (e : Event) : Decidable (RestartHasRoom cfg g e) :=
  inferInstanceAs (Decidable (restartsNow e { g with clock := g.clock + e.elapsed } = true →
    RateWindow.count ((g.clock + e.elapsed : Nat) - cfg.restartWindow) (g.clock + e.elapsed : Nat)
      g.restarts < cfg.restartLimit))

/-- A step keeps the bound exactly when the restart, if there is one, has room. -/
theorem within_step_iff (hpast : ∀ t ∈ g.restarts, t ≤ g.clock) :
    RateWindow.Within cfg.restartLimit cfg.restartWindow (g.step cfg e).restarts ↔
      RateWindow.Within cfg.restartLimit cfg.restartWindow g.restarts ∧ RestartHasRoom cfg g e := by
  unfold step RestartHasRoom
  rw [restarts_receive]
  by_cases hnow : restartsNow e { g with clock := g.clock + e.elapsed } = true
  · rw [if_pos hnow, RateWindow.within_concat_iff (Int.le_of_lt cfg.restartWindow_pos)]
    · simp only [hnow, true_implies]
    · intro t ht
      have := hpast t ht
      push_cast
      omega
  · rw [if_neg hnow, List.append_nil]
    exact ⟨fun h => ⟨h, fun hyes => absurd hyes hnow⟩, fun h => h.1⟩

theorem restarts_past_step (hpast : ∀ t ∈ g.restarts, t ≤ g.clock) (e : Event) :
    ∀ t ∈ (g.step cfg e).restarts, t ≤ (g.step cfg e).clock := by
  unfold step
  rw [restarts_receive, clock_receive]
  intro t ht
  rcases List.mem_append.mp ht with ht | ht
  · have := hpast t ht
    push_cast
    omega
  · split_ifs at ht
    · rw [List.mem_singleton.mp ht]
    · cases ht

end Guardian
end Runtime
end StreamAnalytics
