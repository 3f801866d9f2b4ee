import StreamAnalytics.Lib.Binary64Order

/-!
# The threshold engine

Model of `threshold_engine.go` in `internal/shared/policykit`.  The engine moves between four
levels of overload.  Pressure above an enter threshold raises the level at once; it goes down
one level at a time, when all signals are below a recover threshold.  With recover thresholds
at most as high as the enter thresholds the engine does not flap (`decide_settles`).
-/

namespace StreamAnalytics
namespace Policykit

/-- `Level`. -/
inductive Level where
  | l0
  | l1
  | l2
  | l3
deriving Repr, DecidableEq

/-- The value of a level. -/
def Level.value : Level → Nat
  | .l0 => 0
  | .l1 => 1
  | .l2 => 2
  | .l3 => 3

variable {level : Level}

theorem Level.value_injective : Function.Injective Level.value := by
  intro level level' h
  cases level <;> cases level' <;> first | rfl | cases h

/-- `Signals`. -/
structure Signals where
  queueDepth : Int
  queueCapacity : Int
  backlog : Int
  backlogCap : Int
  occupancy : Int
  limit : Int
  processingLatencyMs : Float

/-- `ActionType`. -/
inductive ActionType where
  | dropDelta
  | degradeStride
  | compressSnapshot
deriving Repr, DecidableEq

/-- `Action`. -/
structure Action where
  type : ActionType
  stride : Int := 0
deriving Repr, DecidableEq

/-- `Decision`. -/
structure Decision where
  level : Level
  actions : List Action
deriving Repr, DecidableEq

/-- `Threshold`. -/
structure Threshold where
  queueRatio : Float
  backlogRatio : Float
  mapRatio : Float
  latencyMs : Float

/-- `ThresholdConfig`. -/
structure ThresholdConfig where
  enterL1 : Threshold
  enterL2 : Threshold
  enterL3 : Threshold
  recoverL1 : Threshold
  recoverL2 : Threshold
  recoverL3 : Threshold
  l2Stride : Int
  l3Stride : Int

/-- `DefaultThresholdConfig`. -/
def defaultThresholdConfig : ThresholdConfig where
  enterL1 := ⟨0.60, 0.60, 0.70, 20⟩
  enterL2 := ⟨0.80, 0.80, 0.85, 40⟩
  enterL3 := ⟨0.92, 0.92, 0.95, 80⟩
  recoverL1 := ⟨0.50, 0.50, 0.60, 15⟩
  recoverL2 := ⟨0.70, 0.70, 0.80, 30⟩
  recoverL3 := ⟨0.85, 0.85, 0.90, 60⟩
  l2Stride := 2
  l3Stride := 4

/-- `NewThresholdEngine`; the engine is its configuration. -/
def newThresholdEngine (cfg : ThresholdConfig) : ThresholdConfig :=
  { cfg with
    l2Stride := if cfg.l2Stride ≤ 1 then 2 else cfg.l2Stride
    l3Stride := if cfg.l3Stride ≤ 1 then 4 else cfg.l3Stride }

/-- `ratio`. -/
def ratio (current capacity : Int) : Float :=
  if capacity ≤ 0 ∨ current ≤ 0 then 0 else Float.ofInt current / Float.ofInt capacity

/-- `meetsEnter`. -/
def meetsEnter (signals : Signals) (t : Threshold) : Bool :=
  t.queueRatio ≤ ratio signals.queueDepth signals.queueCapacity ||
    t.backlogRatio ≤ ratio signals.backlog signals.backlogCap ||
    t.mapRatio ≤ ratio signals.occupancy signals.limit ||
    t.latencyMs ≤ signals.processingLatencyMs

/-- `meetsRecover`. -/
def meetsRecover (signals : Signals) (t : Threshold) : Bool :=
  ratio signals.queueDepth signals.queueCapacity < t.queueRatio &&
    ratio signals.backlog signals.backlogCap < t.backlogRatio &&
    ratio signals.occupancy signals.limit < t.mapRatio &&
    signals.processingLatencyMs < t.latencyMs

namespace ThresholdConfig

variable (cfg : ThresholdConfig)

/-- `classify`. -/
def classify (signals : Signals) : Level :=
  if meetsEnter signals cfg.enterL3 then .l3
  else if meetsEnter signals cfg.enterL2 then .l2
  else if meetsEnter signals cfg.enterL1 then .l1
  else .l0

/-- `nextLevel`. -/
def nextLevel (prev : Level) (signals : Signals) : Level :=
  let severity := cfg.classify signals
  match prev with
  | .l0 => severity
  | .l1 =>
    if 2 ≤ severity.value then severity
    else if meetsRecover signals cfg.recoverL1 then .l0
    else .l1
  | .l2 =>
    if severity = .l3 then .l3
    else if meetsRecover signals cfg.recoverL2 then .l1
    else .l2
  | .l3 => if meetsRecover signals cfg.recoverL3 then .l2 else .l3

/-- `actionsFor`. -/
def actionsFor : Level → List Action
  | .l0 => []
  | .l1 => [{ type := .compressSnapshot }]
  | .l2 => [{ type := .compressSnapshot }, { type := .degradeStride, stride := cfg.l2Stride }]
  | .l3 =>
    [{ type := .compressSnapshot }, { type := .degradeStride, stride := cfg.l3Stride },
      { type := .dropDelta }]

/-- `Decide`. -/
def decide (prev : Level) (signals : Signals) : Decision where
  level := cfg.nextLevel prev signals
  actions := cfg.actionsFor (cfg.nextLevel prev signals)

end ThresholdConfig

/-! ## Ordered thresholds -/

/-- The threshold is at most the other one in every component. -/
structure Threshold.AtMost (t t' : Threshold) : Prop where
  queue : t.queueRatio ≤ t'.queueRatio
  backlog : t.backlogRatio ≤ t'.backlogRatio
  map : t.mapRatio ≤ t'.mapRatio
  latency : t.latencyMs ≤ t'.latencyMs

/-- Recover thresholds are at most the enter thresholds, which do not decrease. -/
structure ThresholdConfig.Ordered (cfg : ThresholdConfig) : Prop where
  recover₁ : cfg.recoverL1.AtMost cfg.enterL1
  recover₂ : cfg.recoverL2.AtMost cfg.enterL2
  recover₃ : cfg.recoverL3.AtMost cfg.enterL3
  enter₁ : cfg.enterL1.AtMost cfg.enterL2
  enter₂ : cfg.enterL2.AtMost cfg.enterL3

section Ordered

variable {signals : Signals} {t t' : Threshold}

theorem Threshold.AtMost.meetsEnter (h : t.AtMost t') (henter : meetsEnter signals t' = true) :
    Policykit.meetsEnter signals t = true := by
  unfold Policykit.meetsEnter at henter ⊢
  simp only [Bool.or_eq_true, decide_eq_true_eq] at henter ⊢
  rcases henter with ((hqueue | hbacklog) | hmap) | hlatency
  · exact .inl (.inl (.inl (Binary64.le_of_le_of_le h.queue hqueue)))
  · exact .inl (.inl (.inr (Binary64.le_of_le_of_le h.backlog hbacklog)))
  · exact .inl (.inr (Binary64.le_of_le_of_le h.map hmap))
  · exact .inr (Binary64.le_of_le_of_le h.latency hlatency)

/-- Signals below a threshold do not enter at a higher one. -/
theorem Threshold.AtMost.not_meetsEnter
    (h : t.AtMost t') (hrecover : meetsRecover signals t = true) :
    Policykit.meetsEnter signals t' = false := by
  unfold meetsRecover at hrecover
  simp only [Bool.and_eq_true, decide_eq_true_eq] at hrecover
  obtain ⟨⟨⟨hqueue, hbacklog⟩, hmap⟩, hlatency⟩ := hrecover
  unfold Policykit.meetsEnter
  simp only [Bool.or_eq_false_iff, decide_eq_false_iff_not]
  exact ⟨⟨⟨Binary64.not_le_of_lt_of_le hqueue h.queue,
    Binary64.not_le_of_lt_of_le hbacklog h.backlog⟩,
    Binary64.not_le_of_lt_of_le hmap h.map⟩,
    Binary64.not_le_of_lt_of_le hlatency h.latency⟩

end Ordered

namespace ThresholdConfig

variable {cfg : ThresholdConfig} {signals : Signals}

/-- Below a recover threshold the severity is below that level. -/
theorem Ordered.severity_of_recover (h : cfg.Ordered) (signals : Signals) :
    (meetsRecover signals cfg.recoverL1 = true → (cfg.classify signals).value = 0) ∧
      (meetsRecover signals cfg.recoverL2 = true → (cfg.classify signals).value ≤ 1) ∧
      (meetsRecover signals cfg.recoverL3 = true → (cfg.classify signals).value ≤ 2) := by
  have henter₁ : meetsEnter signals cfg.enterL2 = true → meetsEnter signals cfg.enterL1 = true :=
    h.enter₁.meetsEnter
  have henter₂ : meetsEnter signals cfg.enterL3 = true → meetsEnter signals cfg.enterL2 = true :=
    h.enter₂.meetsEnter
  refine ⟨fun hr => ?_, fun hr => ?_, fun hr => ?_⟩
  · have hnot := h.recover₁.not_meetsEnter hr
    unfold classify
    split_ifs with h₃ h₂ h₁
    · exact absurd (henter₁ (henter₂ h₃)) (by simp [hnot])
    · exact absurd (henter₁ h₂) (by simp [hnot])
    · exact absurd h₁ (by simp [hnot])
    · rfl
  · have hnot := h.recover₂.not_meetsEnter hr
    unfold classify
    split_ifs with h₃ h₂ h₁
    · exact absurd (henter₂ h₃) (by simp [hnot])
    · exact absurd h₂ (by simp [hnot])
    · exact le_rfl
    · exact Nat.zero_le 1
  · have hnot := h.recover₃.not_meetsEnter hr
    unfold classify
    split_ifs with h₃ h₂ h₁
    · exact absurd h₃ (by simp [hnot])
    · exact le_rfl
    · exact Nat.le_succ 1
    · exact Nat.zero_le 2

/-- A level that is not above the severity goes to it. -/
theorem Ordered.nextLevel_of_le
    (h : cfg.Ordered) (hle : level.value ≤ (cfg.classify signals).value) :
    cfg.nextLevel level signals = cfg.classify signals := by
  obtain ⟨hsev₁, hsev₂, hsev₃⟩ := h.severity_of_recover signals
  unfold nextLevel
  cases level with
  | l0 => rfl
  | l1 => cases hsev : cfg.classify signals <;> simp_all [Level.value]
  | l2 => cases hsev : cfg.classify signals <;> simp_all [Level.value]
  | l3 => cases hsev : cfg.classify signals <;> simp_all [Level.value]

/-- A level above the severity stays or goes down, and not below the severity. -/
theorem Ordered.nextLevel_between
    (h : cfg.Ordered) (hle : (cfg.classify signals).value ≤ level.value) :
    (cfg.classify signals).value ≤ (cfg.nextLevel level signals).value ∧
      (cfg.nextLevel level signals).value ≤ level.value := by
  obtain ⟨hsev₁, hsev₂, hsev₃⟩ := h.severity_of_recover signals
  unfold nextLevel
  cases level with
  | l0 => exact ⟨le_rfl, hle⟩
  | l1 =>
    dsimp only
    split_ifs with hhigh hrecover
    · exact ⟨le_rfl, hle⟩
    · exact ⟨(hsev₁ hrecover).le, Nat.zero_le 1⟩
    · exact ⟨hle, le_rfl⟩
  | l2 =>
    dsimp only
    split_ifs with hhigh hrecover
    · rw [hhigh] at hle
      exact ⟨by rw [hhigh], hle⟩
    · exact ⟨hsev₂ hrecover, Nat.le_succ 1⟩
    · exact ⟨hle, le_rfl⟩
  | l3 =>
    dsimp only
    split_ifs with hrecover
    · exact ⟨hsev₃ hrecover, Nat.le_succ 2⟩
    · exact ⟨hle, le_rfl⟩

/-! ## Constant signals -/

/-- The level after some decisions on the same signals. -/
def levelAfter (cfg : ThresholdConfig) (signals : Signals) (level : Level) (n : Nat) : Level :=
  (fun level => (cfg.decide level signals).level)^[n] level

theorem levelAfter_succ (level : Level) (n : Nat) :
    cfg.levelAfter signals level (n + 1) =
      cfg.nextLevel (cfg.levelAfter signals level n) signals :=
  Function.iterate_succ_apply' _ n level

/-- From a level that is not above the severity the next level is the last one. -/
theorem Ordered.levelAfter_of_le
    (h : cfg.Ordered) (hle : level.value ≤ (cfg.classify signals).value) (n : Nat) :
    cfg.levelAfter signals level (n + 1) = cfg.classify signals := by
  induction n with
  | zero => exact h.nextLevel_of_le hle
  | succ n ih =>
    rw [levelAfter_succ, ih]
    exact h.nextLevel_of_le le_rfl

theorem Ordered.severity_le_levelAfter
    (h : cfg.Ordered) (hle : (cfg.classify signals).value ≤ level.value) (n : Nat) :
    (cfg.classify signals).value ≤ (cfg.levelAfter signals level n).value := by
  induction n with
  | zero => exact hle
  | succ n ih =>
    rw [levelAfter_succ]
    exact (h.nextLevel_between ih).1

/-- A level that is kept once is kept. -/
theorem levelAfter_eq_of_nextLevel_eq (hkept : cfg.nextLevel level signals = level) (n : Nat) :
    cfg.levelAfter signals level n = level :=
  Function.iterate_fixed hkept n

/-- From a level above the severity as many decisions are enough as there are levels between. -/
theorem Ordered.kept_after
    (h : cfg.Ordered) (hle : (cfg.classify signals).value ≤ level.value) (n : Nat)
    (hn : level.value ≤ (cfg.classify signals).value + n) :
    cfg.nextLevel (cfg.levelAfter signals level n) signals = cfg.levelAfter signals level n := by
  induction n generalizing level with
  | zero =>
    have hsame : level = cfg.classify signals := Level.value_injective (hn.antisymm hle)
    rw [hsame]
    exact h.nextLevel_of_le le_rfl
  | succ n ih =>
    by_cases hkept : cfg.nextLevel level signals = level
    · rw [levelAfter_eq_of_nextLevel_eq hkept, hkept]
    · obtain ⟨hlow, hhigh⟩ := h.nextLevel_between hle
      have hne : (cfg.nextLevel level signals).value ≠ level.value :=
        fun heq => hkept (Level.value_injective heq)
      have hnext : (cfg.nextLevel level signals).value ≤ (cfg.classify signals).value + n := by
        omega
      exact ih hlow hnext

/-- On constant signals the level only rises or only falls, and is kept after three decisions. -/
theorem decide_settles
    (cfg : ThresholdConfig) (hcfg : cfg.Ordered) (signals : Signals) (level : Level) :
    (Monotone (fun n => (cfg.levelAfter signals level n).value) ∨
        Antitone (fun n => (cfg.levelAfter signals level n).value)) ∧
      ∀ n, 3 ≤ n → cfg.levelAfter signals level n = cfg.levelAfter signals level 3 := by
  obtain hle | hle := le_total level.value (cfg.classify signals).value
  · refine ⟨.inl (monotone_nat_of_le_succ fun n => ?_), fun n hn => ?_⟩
    · cases n with
      | zero =>
        rw [hcfg.levelAfter_of_le hle]
        exact hle
      | succ n => rw [hcfg.levelAfter_of_le hle, hcfg.levelAfter_of_le hle]
    · obtain ⟨m, rfl⟩ := Nat.exists_eq_add_of_le' hn
      rw [hcfg.levelAfter_of_le hle 2]
      exact hcfg.levelAfter_of_le hle (m + 2)
  · refine ⟨.inr (antitone_nat_of_succ_le fun n => ?_), fun n hn => ?_⟩
    · rw [levelAfter_succ]
      exact (hcfg.nextLevel_between (hcfg.severity_le_levelAfter hle n)).2
    · obtain ⟨m, rfl⟩ := Nat.exists_eq_add_of_le' hn
      have hthree : level.value ≤ (cfg.classify signals).value + 3 := by
        cases level <;> simp only [Level.value] <;> omega
      have hsplit : cfg.levelAfter signals level (m + 3) =
          cfg.levelAfter signals (cfg.levelAfter signals level 3) m :=
        Function.iterate_add_apply _ m 3 level
      rw [hsplit]
      exact levelAfter_eq_of_nextLevel_eq (hcfg.kept_after hle 3 hthree) m

/-- A light load from the highest level. -/
theorem decide_settles_defaultThresholdConfig :
    defaultThresholdConfig.Ordered ∧
      defaultThresholdConfig.levelAfter ⟨10, 100, 0, 100, 0, 100, 1⟩ .l3 7 =
        defaultThresholdConfig.levelAfter ⟨10, 100, 0, 100, 0, 100, 1⟩ .l3 3 := by
  have hordered : defaultThresholdConfig.Ordered := by
    refine ⟨?_, ?_, ?_, ?_, ?_⟩
    all_goals exact ⟨by decide +kernel, by decide +kernel, by decide +kernel, by decide +kernel⟩
  exact ⟨hordered, (decide_settles _ hordered _ _).2 7 (by decide)⟩

end ThresholdConfig
end Policykit
end StreamAnalytics
