import StreamAnalytics.Lib.Runs
import StreamAnalytics.Runtime.Guardian

/-!
# Subsystems that are down have a retry

`Up sub`: the subsystem has a child, or a timer that carries its current generation.
No timer of the current generation is due before the cooldown ends (`Timely`), so the
retry that is pending will start the subsystem when it fires.  A failure bumps the
generation and, outside the cooldown, schedules a new retry.  During the cooldown it
schedules none, and the pending one has become stale: the subsystem stays down
(`up_throughout_iff`).
-/

namespace StreamAnalytics
namespace Runtime
namespace Guardian

open Runs Function

variable {cfg : GuardianConfig} {e : Event} {g g' : Guardian} {sub sub' : Subsystem}
variable {roll : Float} {kind : String} {err : Option String}

/-- The subsystem has a child or a pending retry of its current generation. -/
def Up (g : Guardian) (sub : Subsystem) : Prop :=
  g.children sub = true ∨
    ∃ t ∈ g.timers, t.cancelled = false ∧ t.subsystem = sub ∧ t.generation = g.retryGen sub

instance (g : Guardian) (sub : Subsystem) : Decidable (g.Up sub) :=
  inferInstanceAs (Decidable (g.children sub = true ∨
    ∃ t ∈ g.timers, t.cancelled = false ∧ t.subsystem = sub ∧ t.generation = g.retryGen sub))

/-- No timer of the current generation of a subsystem is due before its cooldown ends. -/
structure Timely (g : Guardian) : Prop where
  generation : ∀ t ∈ g.timers, t.generation ≤ g.retryGen t.subsystem
  nonneg : ∀ t ∈ g.timers, 0 ≤ t.due
  due : ∀ t ∈ g.timers, t.generation = g.retryGen t.subsystem →
    (g.policy t.subsystem).degradedUntil ≤ t.due
  scheduled : ∀ sub gen, g.scheduledRetry sub = some gen → gen ≤ g.retryGen sub

theorem Timely.mono (h : Timely g)
    (htimers : ∀ t' ∈ g'.timers, ∃ t ∈ g.timers,
      t'.subsystem = t.subsystem ∧ t'.generation = t.generation ∧ t'.due = t.due)
    (hgen : ∀ sub, g.retryGen sub ≤ g'.retryGen sub)
    (hpolicy : ∀ sub, g'.retryGen sub = g.retryGen sub →
      (g'.policy sub).degradedUntil ≤ max 0 (g.policy sub).degradedUntil)
    (hscheduled : ∀ sub gen, g'.scheduledRetry sub = some gen → gen ≤ g'.retryGen sub) :
    Timely g' := by
  refine ⟨fun t' ht' => ?_, fun t' ht' => ?_, fun t' ht' hcurrent => ?_, hscheduled⟩
  · obtain ⟨t, ht, hsub, heq, -⟩ := htimers t' ht'
    rw [heq, hsub]
    exact (h.generation t ht).trans (hgen _)
  · obtain ⟨t, ht, -, -, hdue⟩ := htimers t' ht'
    rw [hdue]
    exact h.nonneg t ht
  · obtain ⟨t, ht, hsub, heq, hdue⟩ := htimers t' ht'
    rw [hsub, heq] at hcurrent
    rw [hsub, hdue]
    have hle := h.generation t ht
    have hge := hgen t.subsystem
    have hsame : g'.retryGen t.subsystem = g.retryGen t.subsystem := by omega
    have hbound := hpolicy t.subsystem hsame
    have hcooldown := h.due t ht (hcurrent.trans hsame)
    have hnonneg := h.nonneg t ht
    omega

theorem timely_initial : Timely {} := by
  refine ⟨fun t ht => ?_, fun t ht => ?_, fun t ht => ?_, fun sub gen h => ?_⟩
  · cases ht
  · cases ht
  · cases ht
  · cases h

/-! ## Starting and stopping -/

theorem degradedUntil_startSubsystem_le (e : Event) (g : Guardian) (sub sub' : Subsystem) :
    ((startSubsystem e g sub).policy sub').degradedUntil ≤
      max 0 (g.policy sub').degradedUntil := by
  cases h : e.spawnError sub with
  | none =>
    obtain ⟨health, heq⟩ := startSubsystem_of_spawned (g := g) h
    rw [heq]
    dsimp only
    split_ifs
    · by_cases hsub : sub' = sub
      · subst hsub
        rw [update_self]
        exact le_max_left _ _
      · rw [update_of_ne hsub]
        exact le_max_right _ _
    · exact le_max_right _ _
  | some text =>
    obtain ⟨health, heq⟩ := startSubsystem_of_error (g := g) h
    rw [heq]
    exact le_max_right _ _

theorem Timely.startSubsystem
    (h : Timely g) (e : Event) (sub : Subsystem) : Timely (startSubsystem e g sub) := by
  have hquiet := quiet_startSubsystem e g sub
  refine h.mono (fun t' ht' => ?_) (fun sub' => ?_) (fun sub' _ => ?_) fun sub' gen hgen => ?_
  · exact ⟨t', hquiet.timers ▸ ht', rfl, rfl, rfl⟩
  · rw [hquiet.retryGen]
  · exact degradedUntil_startSubsystem_le e g sub sub'
  · rw [hquiet.scheduledRetry] at hgen
    rw [hquiet.retryGen]
    exact h.scheduled sub' gen hgen

theorem Timely.startSubsystems (h : Timely g) (e : Event) (subs : List Subsystem) :
    Timely (subs.foldl (Guardian.startSubsystem e) g) :=
  List.foldlRecOn subs _ h fun _ h' sub _ => h'.startSubsystem e sub

theorem Timely.stopAll (h : Timely g) (cfg : GuardianConfig) : Timely (g.stopAll cfg) := by
  have hquiet := quiet_stopSubsystems g.cancelRetries cfg.managedSubsystems.reverse
  refine h.mono (fun t' ht' => ?_) (fun sub => ?_) (fun sub _ => ?_) fun sub gen hgen => ?_
  · unfold Guardian.stopAll at ht'
    rw [hquiet.timers] at ht'
    obtain ⟨t, ht, rfl⟩ := List.mem_map.mp ht'
    refine ⟨t, ht, ?_⟩
    split_ifs <;> exact ⟨rfl, rfl, rfl⟩
  · unfold Guardian.stopAll
    rw [hquiet.retryGen]
    unfold cancelRetries
    dsimp only
    split_ifs <;> omega
  · unfold Guardian.stopAll
    rw [policy_stopSubsystems]
    exact le_max_right _ _
  · unfold Guardian.stopAll at hgen
    rw [hquiet.scheduledRetry] at hgen
    cases hgen

/-- Starting keeps the children and adds those of the list. -/
theorem children_startSubsystems (hspawn : ∀ sub, e.spawnError sub = none) (subs : List Subsystem)
    (h : g.children sub = true ∨ sub ∈ subs) :
    (subs.foldl (startSubsystem e) g).children sub = true := by
  induction subs generalizing g with
  | nil => simpa using h
  | cons sub' subs ih =>
    refine ih ?_
    obtain ⟨health, heq⟩ := startSubsystem_of_spawned (g := g) (hspawn sub')
    rw [heq]
    dsimp only
    rcases h with h | h
    · left
      by_cases hsub : sub = sub'
      · rw [hsub, update_self]
      · rw [update_of_ne hsub, h]
    · rcases List.mem_cons.mp h with rfl | h
      · left
        rw [update_self]
      · exact .inr h

/-! ## Retries -/

theorem Timely.scheduleRetry
    (h : Timely g) {delay : Int} (hdue : (g.policy sub).degradedUntil ≤ g.clock + max delay 0) :
    Timely (g.scheduleRetry sub (g.retryGen sub) delay) := by
  unfold Guardian.scheduleRetry
  have hold : ∀ t' ∈ g.timers.map (fun t =>
      if t.subsystem = sub ∧ g.scheduledRetry sub = some t.generation then
        { t with cancelled := true } else t), ∃ t ∈ g.timers,
      t'.subsystem = t.subsystem ∧ t'.generation = t.generation ∧ t'.due = t.due := by
    intro t' ht'
    obtain ⟨t, ht, rfl⟩ := List.mem_map.mp ht'
    refine ⟨t, ht, ?_⟩
    split_ifs <;> exact ⟨rfl, rfl, rfl⟩
  refine ⟨fun t ht => ?_, fun t ht => ?_, fun t ht hcurrent => ?_, fun sub' gen hgen => ?_⟩
  · rcases List.mem_append.mp ht with ht | ht
    · obtain ⟨t', ht', hsub, heq, -⟩ := hold t ht
      rw [heq, hsub]
      exact h.generation t' ht'
    · cases List.mem_singleton.mp ht
      exact le_refl _
  · rcases List.mem_append.mp ht with ht | ht
    · obtain ⟨t', ht', -, -, hsame⟩ := hold t ht
      rw [hsame]
      exact h.nonneg t' ht'
    · cases List.mem_singleton.mp ht
      dsimp only
      omega
  · rcases List.mem_append.mp ht with ht | ht
    · obtain ⟨t', ht', hsub, heq, hsame⟩ := hold t ht
      rw [hsub, heq] at hcurrent
      rw [hsub, hsame]
      exact h.due t' ht' hcurrent
    · cases List.mem_singleton.mp ht
      exact hdue
  · dsimp only at hgen
    by_cases hsub : sub' = sub
    · subst hsub
      rw [update_self] at hgen
      cases hgen
      exact le_refl _
    · rw [update_of_ne hsub] at hgen
      exact h.scheduled sub' gen hgen

theorem Up.of (h : g.Up sub) (hchild : g'.children sub = g.children sub)
    (hgen : g'.retryGen sub = g.retryGen sub)
    (htimers : ∀ t ∈ g.timers, t.subsystem = sub → t.generation = g.retryGen sub → t ∈ g'.timers) :
    g'.Up sub := by
  rcases h with h | ⟨t, ht, hlive, hsub, heq⟩
  · exact .inl (hchild.trans h)
  · exact .inr ⟨t, htimers t ht hsub heq, hlive, hsub, heq.trans hgen.symm⟩

theorem up_scheduleRetry (delay : Int) : (g.scheduleRetry sub (g.retryGen sub) delay).Up sub :=
  .inr ⟨_, List.mem_append_right _ (List.mem_singleton_self _), rfl, rfl, rfl⟩

theorem Up.scheduleRetry (h : g.Up sub') (hsub : sub' ≠ sub) (gen : Nat) (delay : Int) :
    (g.scheduleRetry sub gen delay).Up sub' := by
  refine h.of rfl rfl fun t ht htsub _ => ?_
  refine List.mem_append_left _ (List.mem_map.mpr ⟨t, ht, ?_⟩)
  rw [if_neg fun hcancel => hsub (htsub.symm.trans hcancel.1)]

/-! ## Failures -/

/-- The parts of the state that the global budget leaves alone. -/
theorem allowGlobalRestart_eq (cfg : GuardianConfig) (g : Guardian) :
    ∃ history grants, (g.allowGlobalRestart cfg).1 =
      { g with globalRestartHistory := history, grants := grants } := by
  unfold allowGlobalRestart
  dsimp only
  split_ifs
  · exact ⟨_, g.grants, rfl⟩
  · exact ⟨_, _, rfl⟩

/--
After a decision that is not made during a cooldown a retry is scheduled that is not
due before the cooldown ends.
-/
theorem applyDecision_eq
    {decision : SupervisorDecision} (h : decision.enterDegraded = true ∨ decision.restart = true)
    (hdegraded : decision.enterDegraded = true →
      (g.policy sub).degradedUntil = decision.degradedUntil)
    (hrestart : decision.enterDegraded = false → (g.policy sub).degradedUntil ≤ g.clock) :
    ∃ delay history grants log, (g.policy sub).degradedUntil ≤ g.clock + max delay 0 ∧
      g.applyDecision cfg sub decision =
        { g with
          globalRestartHistory := history
          grants := grants
          log := log }.scheduleRetry sub (g.retryGen sub) delay := by
  unfold applyDecision
  cases hdecision : decision.enterDegraded with
  | true =>
    refine ⟨decision.degradedUntil - g.clock, g.globalRestartHistory, g.grants, _, ?_, rfl⟩
    have := hdegraded hdecision
    omega
  | false =>
    have hdue : ∀ delay : Int, (g.policy sub).degradedUntil ≤ g.clock + max delay 0 := by
      intro delay
      have := hrestart hdecision
      omega
    obtain ⟨history, grants, heq⟩ := allowGlobalRestart_eq cfg g
    rw [if_neg (by simp), if_pos (h.resolve_left (by simp [hdecision]))]
    dsimp only
    rw [heq]
    split_ifs
    · exact ⟨decision.delay, history, grants, g.log, hdue _, rfl⟩
    · exact ⟨_, history, grants, g.log, hdue _, rfl⟩

/-- The state between the decision of the policy and what follows from it. -/
theorem Timely.onFailure
    (h : Timely g) (cfg : GuardianConfig) (roll : Float) (sub : Subsystem) (lastError : String) :
    Timely ((g.dropChild sub lastError).onFailure cfg roll sub).1 := by
  have hgen : ∀ sub', g.retryGen sub' ≤
      update g.retryGen sub (g.retryGen sub + 1) sub' := by
    intro sub'
    by_cases hsub : sub' = sub
    · rw [hsub, update_self]
      omega
    · rw [update_of_ne hsub]
  refine h.mono (fun t ht => ⟨t, ht, rfl, rfl, rfl⟩) hgen (fun sub' hsame => ?_)
    fun sub' gen hscheduled => (h.scheduled sub' gen hscheduled).trans (hgen sub')
  have hsub : sub' ≠ sub := by
    rintro rfl
    have hbumped : update g.retryGen sub' (g.retryGen sub' + 1) sub' = g.retryGen sub' :=
      hsame
    rw [update_self] at hbumped
    omega
  have hpolicy : (((g.dropChild sub lastError).onFailure cfg roll sub).1.policy sub') =
      g.policy sub' := update_of_ne hsub _ _
  rw [hpolicy]
  exact le_max_right _ _

/-- What `handleChildFailed` does outside the cooldown. -/
theorem handleChildFailed_eq
    (cfg : GuardianConfig) (roll : Float) (kind : String) (err : Option String) (hname : sub ≠ "")
    (hrunning : g.shuttingDown = false) (hcalm : (g.policy sub).degraded g.clock = false) :
    ∃ delay history grants log,
      let g₁ := ((g.dropChild sub (err.getD kind)).onFailure cfg roll sub).1
      (g₁.policy sub).degradedUntil ≤ g₁.clock + max delay 0 ∧
      g.handleChildFailed cfg roll sub kind err =
        { g₁ with
          globalRestartHistory := history
          grants := grants
          log := log }.scheduleRetry sub (g₁.retryGen sub) delay := by
  unfold handleChildFailed
  rw [if_neg hname, if_neg (by simp [hrunning])]
  have hbefore : (g.policy sub).degradedUntil ≤ g.clock := Int.not_lt.mp (of_decide_eq_false hcalm)
  have hpolicy : ((g.dropChild sub (err.getD kind)).onFailure cfg roll sub).1.policy sub =
      ((g.policy sub).onFailure cfg.policy roll g.clock).1 := update_self ..
  have hcases := RestartState.onFailure_cases cfg.policy roll hcalm
  refine applyDecision_eq ?_ (fun henter => ?_) fun henter => ?_
  · rcases hcases with ⟨henter, -⟩ | ⟨-, hrestart, -⟩
    · exact .inl henter
    · exact .inr hrestart
  · rw [hpolicy]
    rcases hcases with ⟨-, hdecision, hstate⟩ | ⟨hnot, -⟩
    · exact hstate.trans hdecision.symm
    · exact absurd (henter.symm.trans hnot) (by simp)
  · rw [hpolicy]
    rcases hcases with ⟨hyes, -⟩ | ⟨-, -, hstate⟩
    · exact absurd (henter.symm.trans hyes) (by simp)
    · rw [hstate]
      exact hbefore

/-- During the cooldown only the child and the generation change. -/
theorem handleChildFailed_of_degraded (hname : sub ≠ "") (hrunning : g.shuttingDown = false)
    (hdegraded : (g.policy sub).degraded g.clock = true) :
    g.handleChildFailed cfg roll sub kind err =
      ((g.dropChild sub (err.getD kind)).onFailure cfg roll sub).1 := by
  obtain ⟨-, henter, hrestart⟩ := RestartState.onFailure_degraded cfg.policy roll hdegraded
  have henter' : ((g.dropChild sub (err.getD kind)).onFailure cfg roll sub).2.enterDegraded ≠ true :=
    Bool.eq_false_iff.mp henter
  have hrestart' : ((g.dropChild sub (err.getD kind)).onFailure cfg roll sub).2.restart ≠ true :=
    Bool.eq_false_iff.mp hrestart
  unfold handleChildFailed applyDecision
  rw [if_neg hname, if_neg (by simp [hrunning])]
  dsimp only
  rw [if_neg henter', if_neg hrestart']

/--
What holds when a failure is ignored, after the decision of the policy and after every
retry that may be scheduled then, holds after `handleChildFailed`.
-/
theorem handleChildFailed_induction {motive : Guardian → Prop} (hignored : motive g)
    (hdecided : motive ((g.dropChild sub (err.getD kind)).onFailure cfg roll sub).1)
    (hscheduled : ∀ delay history grants log,
      let g₁ := ((g.dropChild sub (err.getD kind)).onFailure cfg roll sub).1
      (g₁.policy sub).degradedUntil ≤ g₁.clock + max delay 0 →
      motive ({ g₁ with
        globalRestartHistory := history
        grants := grants
        log := log }.scheduleRetry sub (g₁.retryGen sub) delay)) :
    motive (g.handleChildFailed cfg roll sub kind err) := by
  by_cases hname : sub = ""
  · rw [handleChildFailed, if_pos hname]
    exact hignored
  cases hrunning : g.shuttingDown with
  | true =>
    rw [handleChildFailed, if_neg hname, if_pos hrunning]
    exact hignored
  | false =>
    cases hdegraded : (g.policy sub).degraded g.clock with
    | true =>
      rw [handleChildFailed_of_degraded hname hrunning hdegraded]
      exact hdecided
    | false =>
      obtain ⟨delay, history, grants, log, hdue, heq⟩ :=
        handleChildFailed_eq cfg roll kind err hname hrunning hdegraded
      rw [heq]
      exact hscheduled delay history grants log hdue

theorem Timely.handleChildFailed
    (h : Timely g) (cfg : GuardianConfig) (roll : Float) (sub : Subsystem) (kind : String)
    (err : Option String) : Timely (g.handleChildFailed cfg roll sub kind err) := by
  have hdecided := h.onFailure cfg roll sub (err.getD kind)
  refine handleChildFailed_induction h hdecided fun delay history grants log hdue => ?_
  refine Timely.scheduleRetry ?_ hdue
  exact ⟨hdecided.generation, hdecided.nonneg, hdecided.due, hdecided.scheduled⟩

theorem handleChildFailed_flags
    (cfg : GuardianConfig) (roll : Float) (sub : Subsystem) (kind : String) (err : Option String)
    (g : Guardian) :
    (g.handleChildFailed cfg roll sub kind err).started = g.started ∧
    (g.handleChildFailed cfg roll sub kind err).shuttingDown = g.shuttingDown :=
  handleChildFailed_induction
    (motive := fun g' => g'.started = g.started ∧ g'.shuttingDown = g.shuttingDown)
    ⟨rfl, rfl⟩ ⟨rfl, rfl⟩ fun _ _ _ _ _ => ⟨rfl, rfl⟩

/-- A failure outside the cooldown is followed by a retry. -/
theorem up_handleChildFailed (hname : sub ≠ "") (hrunning : g.shuttingDown = false)
    (hcalm : (g.policy sub).degraded g.clock = false) :
    (g.handleChildFailed cfg roll sub kind err).Up sub := by
  obtain ⟨delay, history, grants, log, -, heq⟩ :=
    handleChildFailed_eq cfg roll kind err hname hrunning hcalm
  rw [heq]
  exact up_scheduleRetry delay

/-- A failure does not concern the other subsystems. -/
theorem Up.handleChildFailed
    (h : g.Up sub') (hsub : sub' ≠ sub) (cfg : GuardianConfig) (roll : Float) (kind : String)
    (err : Option String) : (g.handleChildFailed cfg roll sub kind err).Up sub' := by
  have hdecided : ((g.dropChild sub (err.getD kind)).onFailure cfg roll sub).1.Up sub' :=
    h.of (update_of_ne hsub _ _) (update_of_ne hsub _ _) fun t ht _ _ => ht
  exact handleChildFailed_induction (motive := fun g' => g'.Up sub') h hdecided
    fun delay _ _ _ _ => Up.scheduleRetry hdecided hsub _ delay

/-- A failure during the cooldown leaves the subsystem down and without a retry. -/
theorem not_up_handleChildFailed
    (h : Timely g) (hname : sub ≠ "") (hrunning : g.shuttingDown = false)
    (hdegraded : (g.policy sub).degraded g.clock = true) :
    ¬ (g.handleChildFailed cfg roll sub kind err).Up sub := by
  rw [handleChildFailed_of_degraded hname hrunning hdegraded]
  have hchild : ((g.dropChild sub (err.getD kind)).onFailure cfg roll sub).1.children sub = false :=
    update_self ..
  have hgen : ((g.dropChild sub (err.getD kind)).onFailure cfg roll sub).1.retryGen sub =
      g.retryGen sub + 1 := update_self ..
  rintro (hup | ⟨t, ht, -, hsub, heq⟩)
  · exact absurd (hchild.symm.trans hup) (by simp)
  · have hle := h.generation t ht
    rw [hsub] at hle
    rw [hgen] at heq
    omega

/-! ## Firing retries -/

theorem Timely.erase (h : Timely g) (t : Timer) : Timely { g with timers := g.timers.erase t } :=
  h.mono (fun t' ht' => ⟨t', List.mem_of_mem_erase ht', rfl, rfl, rfl⟩) (fun _ => le_refl _)
    (fun _ _ => le_max_right _ _) h.scheduled

theorem Timely.retrySubsystem (h : Timely g) (e : Event) (sub : Subsystem) (gen : Nat) :
    Timely (g.retrySubsystem e sub gen) := by
  unfold Guardian.retrySubsystem
  have hforget : Timely { g with scheduledRetry := update g.scheduledRetry sub none } := by
    refine ⟨h.generation, h.nonneg, h.due, fun sub' gen' hgen => ?_⟩
    by_cases hsub : sub' = sub
    · rw [hsub] at hgen
      exact absurd (hgen.symm.trans (update_self ..)) (by simp)
    · exact h.scheduled sub' gen' ((update_of_ne hsub _ _).symm.trans hgen)
  dsimp only
  split_ifs
  · exact h
  · exact h
  · exact hforget
  all_goals
    refine Timely.startSubsystem ?_ e sub
    exact ⟨hforget.generation, hforget.nonneg, hforget.due, hforget.scheduled⟩

theorem retrySubsystem_flags (e : Event) (sub : Subsystem) (gen : Nat) (g : Guardian) :
    (g.retrySubsystem e sub gen).started = g.started ∧
    (g.retrySubsystem e sub gen).shuttingDown = g.shuttingDown := by
  unfold retrySubsystem
  dsimp only
  split_ifs
  · exact ⟨rfl, rfl⟩
  · exact ⟨rfl, rfl⟩
  · exact ⟨rfl, rfl⟩
  all_goals
    exact ⟨(quiet_startSubsystem e _ sub).started, (quiet_startSubsystem e _ sub).shuttingDown⟩

/-- The retry of the current generation starts the subsystem; the others stay as they are. -/
theorem up_retrySubsystem {t : Timer} (h : Timely g) (hrunning : g.shuttingDown = false)
    (hspawn : ∀ sub, e.spawnError sub = none) (hdue : g.dueTimer sub t.generation = some t)
    (hup : g.Up sub') :
    (retrySubsystem e sub t.generation { g with timers := g.timers.erase t }).Up sub' := by
  obtain ⟨hmem, hsub, -, hclock⟩ := dueTimer_eq_some hdue
  unfold retrySubsystem
  dsimp only
  rw [if_neg (by simp [hrunning])]
  by_cases hgen : g.retryGen sub = t.generation
  · have hcooldown := h.due t hmem (by rw [hsub, hgen])
    rw [hsub] at hcooldown
    rw [if_neg (by simp [hgen]), if_neg (by simp; omega)]
    obtain ⟨health, heq⟩ := startSubsystem_of_spawned (hspawn sub)
      (g := { g with
        timers := g.timers.erase t
        scheduledRetry := update g.scheduledRetry sub none
        restarts := if e.spawnError sub = none then g.restarts ++ [(g.clock : Int)]
          else g.restarts })
    rw [heq]
    by_cases hself : sub' = sub
    · rw [hself]
      exact .inl (update_self ..)
    · refine hup.of (update_of_ne hself _ _) rfl fun t' ht' hsub' _ => ?_
      refine (List.mem_erase_of_ne ?_).mpr ht'
      rintro rfl
      exact hself (hsub'.symm.trans hsub)
  · rw [if_pos hgen]
    refine hup.of rfl rfl fun t' ht' hsub' hcurrent => ?_
    refine (List.mem_erase_of_ne ?_).mpr ht'
    rintro rfl
    rw [← hsub', hsub] at hcurrent
    exact hgen hcurrent.symm

/-! ## Runs -/

theorem Timely.step (h : Timely g) (cfg : GuardianConfig) (e : Event) : Timely (g.step cfg e) := by
  have hclock : Timely { g with clock := g.clock + e.elapsed } :=
    ⟨h.generation, h.nonneg, h.due, h.scheduled⟩
  have hstart : ∀ g : Guardian, Timely g → Timely (g.startAll cfg e) := by
    intro g h
    unfold Guardian.startAll
    split_ifs
    · exact h
    · refine Timely.startSubsystems ?_ e _
      exact ⟨h.generation, h.nonneg, h.due, h.scheduled⟩
  unfold Guardian.step receive
  cases e.msg with
  | start => exact hstart _ hclock
  | stopped => exact hclock.stopAll cfg
  | reloadConfig => exact hstart _ (hclock.stopAll cfg)
  | stop =>
    refine Timely.stopAll ?_ cfg
    exact ⟨hclock.generation, hclock.nonneg, hclock.due, hclock.scheduled⟩
  | childFailed sub kind err => exact hclock.handleChildFailed cfg e.roll sub kind err
  | heartbeat sub connected lastMessageAt lastPublishAt =>
    obtain ⟨health, heq⟩ := handleHeartbeat_eq sub connected lastMessageAt lastPublishAt
      { g with clock := g.clock + e.elapsed }
    dsimp only
    rw [heq]
    exact ⟨hclock.generation, hclock.nonneg, hclock.due, hclock.scheduled⟩
  | retry sub gen =>
    dsimp only
    cases dueTimer sub gen { g with clock := g.clock + e.elapsed } with
    | none => exact hclock
    | some t => exact (hclock.erase t).retrySubsystem e sub gen

/-- No message stops the guardian, and every spawn succeeds. -/
structure Ordinary (e : Event) : Prop where
  running : e.msg ≠ .stop ∧ e.msg ≠ .stopped
  spawns : ∀ sub, e.spawnError sub = none

/-- The subsystem whose failure a message reports. -/
def failed (e : Event) : Option Subsystem :=
  match e.msg with
  | .childFailed sub _ _ => if sub = "" then none else some sub
  | _ => none

/-- A failure of a managed subsystem arrives outside the cooldown of the subsystem. -/
def FailsOutsideCooldown (cfg : GuardianConfig) (g : Guardian) (e : Event) : Prop :=
  ∀ sub ∈ cfg.managedSubsystems, failed e = some sub →
    (g.policy sub).degraded (g.clock + e.elapsed : Nat) = false

instance (cfg : GuardianConfig) (g : Guardian) (e : Event) :
    Decidable (FailsOutsideCooldown cfg g e) :=
  inferInstanceAs (Decidable (∀ sub ∈ cfg.managedSubsystems, failed e = some sub →
    (g.policy sub).degraded (g.clock + e.elapsed : Nat) = false))

/-- The guardian is started, and every managed subsystem is up. -/
structure Covered (cfg : GuardianConfig) (g : Guardian) : Prop where
  started : g.started = true
  running : g.shuttingDown = false
  timely : Timely g
  up : ∀ sub ∈ cfg.managedSubsystems, g.Up sub

theorem covered_startAll
    (hrunning : g.shuttingDown = false) (hstopped : g.started = false) (h : Timely g)
    (hspawn : ∀ sub, e.spawnError sub = none) : Covered cfg (g.startAll cfg e) := by
  unfold startAll
  rw [if_neg (by simp [hstopped])]
  have hstarted : Timely { g with started := true } := ⟨h.generation, h.nonneg, h.due, h.scheduled⟩
  have hquiet := quiet_startSubsystems e { g with started := true } cfg.managedSubsystems
  refine ⟨hquiet.started, hquiet.shuttingDown.trans hrunning, hstarted.startSubsystems e _, ?_⟩
  intro sub hsub
  exact .inl (children_startSubsystems hspawn _ (.inr hsub))

theorem Covered.step (h : Covered cfg g) (he : Ordinary e) (hcalm : FailsOutsideCooldown cfg g e) :
    Covered cfg (g.step cfg e) := by
  have htimely := h.timely.step cfg e
  have hclock : Timely { g with clock := g.clock + e.elapsed } :=
    ⟨h.timely.generation, h.timely.nonneg, h.timely.due, h.timely.scheduled⟩
  unfold Guardian.step receive at htimely ⊢
  cases hmsg : e.msg with
  | start =>
    rw [hmsg] at htimely
    dsimp only at htimely ⊢
    unfold startAll at htimely ⊢
    rw [if_pos h.started] at htimely ⊢
    exact ⟨h.started, h.running, htimely, h.up⟩
  | stopped => exact absurd hmsg he.running.2
  | stop => exact absurd hmsg he.running.1
  | reloadConfig =>
    have hquiet := quiet_stopSubsystems
      (cancelRetries { g with clock := g.clock + e.elapsed }) cfg.managedSubsystems.reverse
    exact covered_startAll (hquiet.shuttingDown.trans h.running) rfl (hclock.stopAll cfg)
      he.spawns
  | heartbeat sub connected lastMessageAt lastPublishAt =>
    rw [hmsg] at htimely
    obtain ⟨health, heq⟩ := handleHeartbeat_eq sub connected lastMessageAt lastPublishAt
      { g with clock := g.clock + e.elapsed }
    dsimp only at htimely ⊢
    rw [heq] at htimely ⊢
    exact ⟨h.started, h.running, htimely, h.up⟩
  | childFailed sub kind err =>
    rw [hmsg] at htimely
    obtain ⟨hstarted, hrunning⟩ := handleChildFailed_flags cfg e.roll sub kind err
      { g with clock := g.clock + e.elapsed }
    refine ⟨hstarted.trans h.started, hrunning.trans h.running, htimely, fun sub' hsub' => ?_⟩
    by_cases hself : sub' = sub
    · subst hself
      by_cases hname : sub' = ""
      · dsimp only
        rw [handleChildFailed, if_pos hname]
        exact h.up sub' hsub'
      · have hfailed : failed e = some sub' := by
          unfold failed
          rw [hmsg]
          exact if_neg hname
        exact up_handleChildFailed hname h.running (hcalm sub' hsub' hfailed)
    · exact Up.handleChildFailed (g := { g with clock := g.clock + e.elapsed })
        (h.up sub' hsub') hself cfg e.roll kind err
  | retry sub gen =>
    rw [hmsg] at htimely
    dsimp only at htimely ⊢
    cases hdue : dueTimer sub gen { g with clock := g.clock + e.elapsed } with
    | none => exact ⟨h.started, h.running, hclock, h.up⟩
    | some t =>
      rw [hdue] at htimely
      obtain ⟨-, -, rfl, -⟩ := dueTimer_eq_some hdue
      obtain ⟨hstarted, hrunning⟩ := retrySubsystem_flags e sub t.generation
        { g with clock := g.clock + e.elapsed, timers := g.timers.erase t }
      refine ⟨hstarted.trans h.started, hrunning.trans h.running, htimely, fun sub' hsub' => ?_⟩
      exact up_retrySubsystem hclock h.running he.spawns hdue (h.up sub' hsub')

/-- A failure of a managed subsystem during its cooldown leaves it down. -/
theorem Covered.failsOutsideCooldown
    (h : Covered cfg g) (hup : ∀ sub ∈ cfg.managedSubsystems, (g.step cfg e).Up sub) :
    FailsOutsideCooldown cfg g e := by
  have hclock : Timely { g with clock := g.clock + e.elapsed } :=
    ⟨h.timely.generation, h.timely.nonneg, h.timely.due, h.timely.scheduled⟩
  intro sub hsub hfailed
  unfold failed at hfailed
  have hdown := hup sub hsub
  unfold Guardian.step receive at hdown
  cases hmsg : e.msg with
  | childFailed sub' kind err =>
    rw [hmsg] at hfailed hdown
    dsimp only at hfailed
    split_ifs at hfailed with hname
    cases hfailed
    by_contra hdegraded
    exact not_up_handleChildFailed hclock hname h.running (Bool.not_eq_false _ |>.mp hdegraded)
      hdown
  | _ =>
    rw [hmsg] at hfailed
    cases hfailed

/--
After the start, in every run of messages that do not stop the guardian and with
spawns that succeed, every managed subsystem has a child or a pending retry of its
current generation at every moment, exactly when no failure of a managed subsystem
arrives during its cooldown.
-/
theorem up_throughout_iff
    (cfg : GuardianConfig) (e : Event) (hstart : e.msg = .start) (he : Ordinary e) (es : List Event)
    (hes : ∀ e ∈ es, Ordinary e) :
    (∀ es', es' <+: es → ∀ sub ∈ cfg.managedSubsystems,
      (run (step cfg) (step cfg {} e) es').Up sub) ↔
      Always (step cfg) (FailsOutsideCooldown cfg) (step cfg {} e) es := by
  have hcovered : Covered cfg (step cfg {} e) := by
    unfold step receive
    rw [hstart]
    exact covered_startAll rfl rfl
      ⟨timely_initial.generation, timely_initial.nonneg, timely_initial.due,
        timely_initial.scheduled⟩ he.spawns
  exact forall_prefix_iff_always_of (I := Covered cfg) (Q := Ordinary)
    (J := fun g => ∀ sub ∈ cfg.managedSubsystems, g.Up sub)
    (fun _ h => h.up) (fun _ _ ha h hcalm => h.step ha hcalm)
    (fun _ _ _ h hup => h.failsOutsideCooldown hup) hcovered hes

/-! ## Sample runs -/

theorem ordinary_sampleStart : Ordinary sampleStart := ⟨by simp [sampleStart], fun _ => rfl⟩

theorem ordinary_sampleFailure : Ordinary sampleFailure := ⟨by simp [sampleFailure], fun _ => rfl⟩

/-- A single failure is followed by a retry. -/
theorem up_after_failure :
    Always (step sampleConfig) (FailsOutsideCooldown sampleConfig)
        (step sampleConfig {} sampleStart) [sampleFailure] ∧
      ∀ es', es' <+: [sampleFailure] → ∀ sub ∈ sampleConfig.managedSubsystems,
        (run (step sampleConfig) (step sampleConfig {} sampleStart) es').Up sub := by
  have hfails : Always (step sampleConfig) (FailsOutsideCooldown sampleConfig)
      (step sampleConfig {} sampleStart) [sampleFailure] := by
    decide +kernel
  exact ⟨hfails, (up_throughout_iff _ sampleStart rfl ordinary_sampleStart [sampleFailure]
    (List.forall_mem_singleton.mpr ordinary_sampleFailure)).mpr hfails⟩

/-- The seventh failure arrives during the cooldown that the sixth has started. -/
theorem failure_during_cooldown_is_final :
    (∀ e ∈ List.replicate 7 sampleFailure, Ordinary e) ∧
    "aggregation" ∈ sampleConfig.managedSubsystems ∧
    ¬ (run (step sampleConfig) (step sampleConfig {} sampleStart)
      (List.replicate 7 sampleFailure)).Up "aggregation" := by
  refine ⟨fun e he => ?_, by decide +kernel⟩
  rw [List.eq_of_mem_replicate he]
  exact ordinary_sampleFailure

end Guardian
end Runtime
end StreamAnalytics
