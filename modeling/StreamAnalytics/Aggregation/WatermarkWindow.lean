import StreamAnalytics.Lib.GoMap
import StreamAnalytics.Lib.Buckets
import StreamAnalytics.Aggregation.Candle

/-!
# The watermark window manager

Model of `internal/core/aggregation/domain/watermark_window.go` and
`window_manager.go`.  For each key the manager tracks the start of the one
window that is open; when a further key would exceed the cap, it drops the key
whose window is oldest and asks the caller to close that window.
-/

namespace StreamAnalytics
namespace Aggregation

open GoInt GoStrings Validation GoMap AList

/-- `WindowKey`: the fields of a candle key, and converted from and to it. -/
abbrev WindowKey := CandleKey

/-- `ForcedWindowClose`. -/
structure ForcedWindowClose where
  key : WindowKey
  windowStart : Int
deriving Repr, DecidableEq

/-- `WindowDecision`. -/
structure WindowDecision where
  windowStart : Int
  shouldCloseCurrent : Bool := false
  previousWindowStart : Int := 0
  isLate : Bool := false
  forcedClose : Option ForcedWindowClose := none
deriving Repr, DecidableEq

/-- `WatermarkWindowConfig`. -/
structure WatermarkWindowConfig where
  maxOpenWindows : Int
  lateToleranceMs : Int
deriving Repr, DecidableEq

/-- `WatermarkWindowManager`; a state consists of the window start alone. -/
structure WatermarkWindowManager where
  maxOpenWindows : Int
  lateToleranceMs : Int
  states : GoMap WindowKey Int
  order : List WindowKey

/-- `compareWindowKey a b < 0`. -/
def windowKeyLess (a b : WindowKey) : Bool :=
  if a.venue ≠ b.venue then decide (a.venue < b.venue)
  else if a.instrument ≠ b.instrument then decide (a.instrument < b.instrument)
  else decide (a.timeframe < b.timeframe)

/-- `bucketWindowStart`. -/
def bucketWindowStart (tsMs windowMs : Int) : Int := bucket tsMs windowMs

namespace WatermarkWindowManager

variable {key : WindowKey} {eventTsMs windowDurationMs : Int}

/-- `NewWatermarkWindowManager`. -/
def create (cfg : WatermarkWindowConfig) : Except Problem WatermarkWindowManager :=
  if cfg.maxOpenWindows ≤ 0 then
    .error (.new .validationFailed "max_open_windows must be > 0")
  else if cfg.lateToleranceMs < 0 then
    .error (.new .validationFailed "late_tolerance_ms must be >= 0")
  else
    .ok
      { maxOpenWindows := cfg.maxOpenWindows
        lateToleranceMs := cfg.lateToleranceMs
        states := ∅
        order := [] }

/-- The key under which `Observe` tracks a window. -/
def normalizedKey (key : WindowKey) : WindowKey where
  venue := toLower (trimSpace key.venue)
  instrument := toUpper (trimSpace key.instrument)
  timeframe := toLower (trimSpace key.timeframe)

/-- `observeExisting`. -/
def observeExisting (m : WatermarkWindowManager) (key : WindowKey) (state windowStart : Int) :
    WatermarkWindowManager × WindowDecision :=
  if windowStart < state then
    -- An event inside the tolerance is late as well: only one window per key is open.
    if m.lateToleranceMs < wrap64 (state - windowStart) then
      (m, { windowStart := windowStart, isLate := true })
    else
      (m, { windowStart := windowStart, isLate := true })
  else if windowStart = state then
    (m, { windowStart := windowStart })
  else
    ({ m with states := m.states.insert key windowStart },
      { windowStart := windowStart
        shouldCloseCurrent := true
        previousWindowStart := state })

/-- The loop of `oldestWindow`. -/
def oldestLoop (states : GoMap WindowKey Int) :
    List WindowKey → WindowKey × Int → WindowKey × Int
  | [], oldest => oldest
  | key :: keys, oldest =>
    let state := states.getD key 0
    if state < oldest.2 then
      oldestLoop states keys (key, state)
    else if state = oldest.2 ∧ windowKeyLess key oldest.1 = true then
      oldestLoop states keys (key, state)
    else
      oldestLoop states keys oldest

/-- `oldestWindow`; an empty order has no oldest window. -/
def oldestWindow (m : WatermarkWindowManager) : Option (WindowKey × Int) :=
  match m.order with
  | [] => none
  | key :: keys => some (oldestLoop m.states keys (key, m.states.getD key 0))

/-- The last two assignments of `observeNew`. -/
def track (m : WatermarkWindowManager) (key : WindowKey) (windowStart : Int) :
    WatermarkWindowManager :=
  { m with states := m.states.insert key windowStart, order := m.order ++ [key] }

/-- The removal of a key from both indexes. -/
def forget (m : WatermarkWindowManager) (key : WindowKey) : WatermarkWindowManager :=
  { m with states := m.states.erase key, order := m.order.erase key }

/-- `observeNew`. -/
def observeNew (m : WatermarkWindowManager) (key : WindowKey) (windowStart : Int) :
    WatermarkWindowManager × WindowDecision :=
  if m.maxOpenWindows ≤ m.states.size then
    match m.oldestWindow with
    -- Not reached: the cap is positive and the order lists the tracked keys.
    | none => (m.track key windowStart, { windowStart := windowStart })
    | some (forcedKey, forcedState) =>
      ((m.forget forcedKey).track key windowStart,
        { windowStart := windowStart, forcedClose := some ⟨forcedKey, forcedState⟩ })
  else
    (m.track key windowStart, { windowStart := windowStart })

/-- `Observe` after its checks, for the normalised key and the window of the event. -/
def assign (m : WatermarkWindowManager) (key : WindowKey) (windowStart : Int) :
    WatermarkWindowManager × WindowDecision :=
  match m.states.lookup key with
  | some state => m.observeExisting key state windowStart
  | none => m.observeNew key windowStart

/-- The checks of `Observe`. -/
def observeCheck (key : WindowKey) (eventTsMs windowDurationMs : Int) : Option Problem :=
  collect
    [nonEmptyString "venue" key.venue,
      nonEmptyString "instrument" key.instrument,
      nonEmptyString "timeframe" key.timeframe,
      positiveInt "window_duration_ms" windowDurationMs,
      Problem.when (eventTsMs < 0)
        (.newf .validationFailed "event_ts_ms must be >= 0, got %d" [.int eventTsMs])]

/-- `Observe`. -/
def observe (key : WindowKey) (eventTsMs windowDurationMs : Int) :
    Prog Problem WatermarkWindowManager WindowDecision := do
  Prog.check (observeCheck key eventTsMs windowDurationMs)
  Prog.act fun m =>
    m.assign (normalizedKey key) (bucketWindowStart eventTsMs windowDurationMs)

/-! ## What an observation does -/

@[simp] theorem normalizedKey_normalizedKey
    (key : WindowKey) : normalizedKey (normalizedKey key) = normalizedKey key := by
  simp [normalizedKey]

/-- The events that pass the checks of `Observe`. -/
structure Observable (key : WindowKey) (eventTsMs windowDurationMs : Int) : Prop where
  venue : trimSpace key.venue ≠ ""
  instrument : trimSpace key.instrument ≠ ""
  timeframe : trimSpace key.timeframe ≠ ""
  duration : 0 < windowDurationMs
  eventTs : 0 ≤ eventTsMs

theorem observeCheck_eq_none_iff :
    observeCheck key eventTsMs windowDurationMs = none ↔
      Observable key eventTsMs windowDurationMs := by
  simp only [observeCheck, collect_eq_none, List.mem_cons, List.not_mem_nil, or_false,
    forall_eq_or_imp, forall_eq, nonEmptyString_eq_none,
    positiveInt_eq_none, Problem.when_eq_none, Int.not_lt]
  constructor
  · rintro ⟨h₁, h₂, h₃, h₄, h₅⟩
    exact ⟨h₁, h₂, h₃, h₄, h₅⟩
  · rintro ⟨h₁, h₂, h₃, h₄, h₅⟩
    exact ⟨h₁, h₂, h₃, h₄, h₅⟩

theorem Observable.observe_eq
    (h : Observable key eventTsMs windowDurationMs) (m : WatermarkWindowManager) :
    observe key eventTsMs windowDurationMs m =
      ((m.assign (normalizedKey key) (bucket eventTsMs windowDurationMs)).1,
        .ok (m.assign (normalizedKey key) (bucket eventTsMs windowDurationMs)).2) := by
  unfold observe
  rw [observeCheck_eq_none_iff.mpr h]
  rfl

theorem observe_of_not_observable
    (h : ¬ Observable key eventTsMs windowDurationMs) (m : WatermarkWindowManager) :
    ∃ p, observe key eventTsMs windowDurationMs m = (m, .error p) := by
  obtain ⟨p, hp⟩ := Option.ne_none_iff_exists'.mp (mt observeCheck_eq_none_iff.mp h)
  refine ⟨p, ?_⟩
  unfold observe
  rw [hp]
  rfl

variable {m : WatermarkWindowManager} {key : WindowKey} {windowStart : Int}

/-- The key has a later window already. -/
def Late (m : WatermarkWindowManager) (key : WindowKey) (windowStart : Int) : Prop :=
  ∃ w, m.states.lookup key = some w ∧ windowStart < w

instance : Decidable (m.Late key windowStart) :=
  inferInstanceAs (Decidable (∃ w ∈ m.states.lookup key, windowStart < w))

/--
An accepted event: the key is tracked at the window of the event, and at most the
key of a forced close is dropped.
-/
structure Accepts (m : WatermarkWindowManager) (key : WindowKey) (windowStart : Int)
    (m' : WatermarkWindowManager) (forced : Option ForcedWindowClose) : Prop where
  lookup : ∀ k, m'.states.lookup k =
    if k = key then some windowStart
    else if forced.map ForcedWindowClose.key = some k then none
    else m.states.lookup k
  le : ∀ w, m.states.lookup key = some w → w ≤ windowStart
  forced_new : forced ≠ none → m.states.lookup key = none ∧ m.maxOpenWindows ≤ m.states.size

theorem Late.assign_eq (h : m.Late key windowStart) :
    m.assign key windowStart = (m, { windowStart := windowStart, isLate := true }) := by
  obtain ⟨w, hw, hlt⟩ := h
  simp only [assign, hw, observeExisting, if_pos hlt, ite_self]

/-- The state of a new key is added to both indexes. -/
theorem lookup_track (k : WindowKey) :
    (m.track key windowStart).states.lookup k =
      if k = key then some windowStart else m.states.lookup k :=
  lookup_insert_ite m.states key k windowStart

theorem lookup_forget (k : WindowKey) :
    (m.forget key).states.lookup k = if k = key then none else m.states.lookup k :=
  lookup_erase_ite m.states key k

/-- An event that is not late is accepted. -/
theorem assign_accepts (h : ¬ m.Late key windowStart) :
    (m.assign key windowStart).2.isLate = false ∧
      (m.assign key windowStart).2.windowStart = windowStart ∧
      Accepts m key windowStart (m.assign key windowStart).1
        (m.assign key windowStart).2.forcedClose := by
  unfold assign
  cases hlookup : m.states.lookup key with
  | some w =>
    have hle : w ≤ windowStart := by
      by_contra hlt
      exact h ⟨w, hlookup, by omega⟩
    have hle' : ∀ w', m.states.lookup key = some w' → w' ≤ windowStart := by
      intro w' hw'
      rw [hlookup] at hw'
      cases hw'
      exact hle
    simp only [observeExisting, if_neg (show ¬ windowStart < w by omega)]
    split_ifs with heq
    · refine ⟨rfl, rfl, ⟨?_, hle', by simp⟩⟩
      intro k
      by_cases hk : k = key
      · rw [if_pos hk, hk, hlookup, heq]
      · rw [if_neg hk]
        rfl
    · refine ⟨rfl, rfl, ⟨?_, hle', by simp⟩⟩
      intro k
      rw [lookup_insert_ite]
      rfl
  | none =>
    have hle : ∀ w, m.states.lookup key = some w → w ≤ windowStart := by
      intro w hw
      rw [hlookup] at hw
      cases hw
    simp only [observeNew]
    split_ifs with hcap
    · cases m.oldestWindow with
      | none =>
        refine ⟨rfl, rfl, ⟨?_, hle, by simp⟩⟩
        intro k
        rw [lookup_track]
        rfl
      | some oldest =>
        refine ⟨rfl, rfl, ⟨?_, hle, fun _ => ⟨hlookup, hcap⟩⟩⟩
        intro k
        rw [lookup_track, lookup_forget]
        simp only [Option.map_some, Option.some.injEq, eq_comm]
    · refine ⟨rfl, rfl, ⟨?_, hle, by simp⟩⟩
      intro k
      rw [lookup_track]
      rfl

/-! ## The two indexes of the manager -/

/-- The order lists the tracked keys, each once, and the cap is positive. -/
structure Consistent (m : WatermarkWindowManager) : Prop where
  perm : m.order.Perm m.states.keys
  cap_pos : 0 < m.maxOpenWindows

/-- The loop returns one of the given keys with its state. -/
theorem oldestLoop_mem
    (states : GoMap WindowKey Int) (keys : List WindowKey) (oldest : WindowKey × Int) :
    oldestLoop states keys oldest = oldest ∨
      ∃ k ∈ keys, oldestLoop states keys oldest = (k, states.getD k 0) := by
  induction keys generalizing oldest with
  | nil => exact .inl rfl
  | cons key keys ih =>
    -- After the first key the loop continues with it or with the old candidate.
    have hstep : ∀ next, next = oldest ∨ next = (key, states.getD key 0) →
        oldestLoop states keys next = oldest ∨
          ∃ k ∈ key :: keys, oldestLoop states keys next = (k, states.getD k 0) := by
      intro next hnext
      rcases ih next with hsame | ⟨k, hk, heq⟩
      · rcases hnext with rfl | rfl
        · exact .inl hsame
        · exact .inr ⟨key, by simp, hsame⟩
      · exact .inr ⟨k, by simp [hk], heq⟩
    simp only [oldestLoop]
    split_ifs
    · exact hstep _ (.inr rfl)
    · exact hstep _ (.inr rfl)
    · exact hstep _ (.inl rfl)

theorem Consistent.mem_order_iff (h : m.Consistent) {k : WindowKey} : k ∈ m.order ↔ k ∈ m.states :=
  h.perm.mem_iff.trans mem_keys.symm

/-- At the cap there is an oldest window, and it is tracked. -/
theorem Consistent.oldestWindow (h : m.Consistent) (hcap : m.maxOpenWindows ≤ m.states.size) :
    ∃ k w, m.oldestWindow = some (k, w) ∧ m.states.lookup k = some w := by
  have hpos := h.cap_pos
  have htracked : ∀ k ∈ m.order, m.states.lookup k = some (m.states.getD k 0) := by
    intro k hk
    obtain ⟨w, hw⟩ := mem_iff_lookup.mp (h.mem_order_iff.mp hk)
    rw [GoMap.getD, hw]
    rfl
  unfold WatermarkWindowManager.oldestWindow
  cases horder : m.order with
  | nil =>
    have hlength := h.perm.length_eq
    rw [horder, ← size_eq_length_keys] at hlength
    simp only [List.length_nil] at hlength
    omega
  | cons key keys =>
    rcases oldestLoop_mem m.states keys (key, m.states.getD key 0) with hsame | ⟨k, hk, heq⟩
    · exact ⟨key, _, by rw [← hsame], htracked key (by simp [horder])⟩
    · exact ⟨k, _, by rw [← heq], htracked k (by simp [horder, hk])⟩

theorem Consistent.track
    (h : m.Consistent) (hnew : key ∉ m.states) : (m.track key windowStart).Consistent := by
  refine ⟨?_, h.cap_pos⟩
  change (m.order ++ [key]).Perm (m.states.insert key windowStart).keys
  rw [keys_insert, List.erase_of_not_mem (by rwa [← mem_keys])]
  exact List.perm_append_comm.trans (h.perm.cons key)

theorem Consistent.forget (h : m.Consistent) : (m.forget key).Consistent := by
  refine ⟨?_, h.cap_pos⟩
  change (m.order.erase key).Perm (m.states.erase key).keys
  rw [keys_erase]
  exact h.perm.erase key

/-- An observation keeps the indexes consistent and forces only tracked windows closed. -/
theorem Consistent.assign (h : m.Consistent) :
    (m.assign key windowStart).1.Consistent ∧
      ∀ f, (m.assign key windowStart).2.forcedClose = some f →
        m.states.lookup f.key = some f.windowStart := by
  unfold WatermarkWindowManager.assign
  cases hlookup : m.states.lookup key with
  | some w =>
    have hmem : key ∈ m.states := mem_iff_lookup.mpr ⟨w, hlookup⟩
    simp only [observeExisting, ite_self]
    split_ifs
    · exact ⟨h, by simp⟩
    · exact ⟨h, by simp⟩
    · refine ⟨⟨?_, h.cap_pos⟩, by simp⟩
      change m.order.Perm (m.states.insert key windowStart).keys
      rw [keys_insert]
      exact h.perm.trans (List.perm_cons_erase (mem_keys.mp hmem))
  | none =>
    have hnew : key ∉ m.states := by
      rw [mem_iff_lookup, hlookup]
      simp
    simp only [observeNew]
    split_ifs with hcap
    · obtain ⟨k, w, holdest, hw⟩ := h.oldestWindow hcap
      simp only [holdest]
      refine ⟨h.forget.track ?_, ?_⟩
      · intro hmem
        exact hnew (mem_erase.mp hmem).2
      · intro f hf
        cases hf
        exact hw
    · exact ⟨h.track hnew, by simp⟩

end WatermarkWindowManager

end Aggregation
end StreamAnalytics
