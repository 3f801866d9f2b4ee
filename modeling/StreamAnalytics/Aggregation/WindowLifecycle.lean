import Mathlib.Data.Prod.Lex
import Mathlib.Data.String.Basic
import StreamAnalytics.Lib.Runs
import StreamAnalytics.Aggregation.WatermarkWindow

/-!
# The lifecycle of tracked windows

In every run of `Observe` calls the two indexes of a window manager hold the same keys,
within the cap.  A window is forced closed exactly when a new key arrives at the cap,
and then it is the least one in the order of start, venue, instrument and timeframe.
The window of a tracked key only moves forward, and the caller is asked to close the
window exactly when it moves (`lifecycle`).
-/

namespace StreamAnalytics
namespace Aggregation
namespace WatermarkWindowManager

open Runs GoMap

variable {m : WatermarkWindowManager} {key : WindowKey} {windowStart : Int}

/-! ## The oldest window -/

/-- The order in which windows are forced closed. -/
def rank (window : WindowKey × Int) : Int ×ₗ String ×ₗ String ×ₗ String :=
  toLex (window.2, toLex (window.1.venue, toLex (window.1.instrument, window.1.timeframe)))

theorem windowKeyLess_iff (a b : WindowKey) :
    windowKeyLess a b = true ↔
      toLex (a.venue, toLex (a.instrument, a.timeframe)) <
        toLex (b.venue, toLex (b.instrument, b.timeframe)) := by
  simp only [Prod.Lex.toLex_lt_toLex]
  unfold windowKeyLess
  by_cases hvenue : a.venue = b.venue
  · by_cases hinstrument : a.instrument = b.instrument
    · simp [hvenue, hinstrument]
    · simp [hvenue, hinstrument]
  · simp [hvenue]

theorem rank_lt_iff (a b : WindowKey × Int) :
    rank a < rank b ↔ a.2 < b.2 ∨ a.2 = b.2 ∧ windowKeyLess a.1 b.1 = true := by
  rw [windowKeyLess_iff]
  exact Prod.Lex.toLex_lt_toLex

/-- The loop keeps the least window so far. -/
theorem oldestLoop_cons (states : GoMap WindowKey Int) (key : WindowKey) (keys : List WindowKey)
    (oldest : WindowKey × Int) :
    oldestLoop states (key :: keys) oldest =
      oldestLoop states keys
        (if rank (key, states.getD key 0) < rank oldest then (key, states.getD key 0)
          else oldest) := by
  simp only [oldestLoop, rank_lt_iff]
  by_cases hlt : states.getD key 0 < oldest.2
  · rw [if_pos hlt, if_pos (.inl hlt)]
  · simp only [hlt, if_false, false_or]
    split_ifs
    · rfl
    · rfl

theorem rank_oldestLoop_le
    (states : GoMap WindowKey Int) (keys : List WindowKey) (oldest : WindowKey × Int) :
    rank (oldestLoop states keys oldest) ≤ rank oldest ∧
      ∀ k ∈ keys, rank (oldestLoop states keys oldest) ≤ rank (k, states.getD k 0) := by
  induction keys generalizing oldest with
  | nil => exact ⟨le_refl _, by simp⟩
  | cons key keys ih =>
    rw [oldestLoop_cons]
    split_ifs with hlt
    · obtain ⟨hle, hkeys⟩ := ih (key, states.getD key 0)
      exact ⟨hle.trans hlt.le, List.forall_mem_cons.mpr ⟨hle, hkeys⟩⟩
    · obtain ⟨hle, hkeys⟩ := ih oldest
      exact ⟨hle, List.forall_mem_cons.mpr ⟨hle.trans (not_lt.mp hlt), hkeys⟩⟩

/-- The window forced closed is the least of the tracked ones. -/
theorem Consistent.rank_oldestWindow_le
    (h : m.Consistent) {oldest : WindowKey × Int} (holdest : m.oldestWindow = some oldest)
    {k : WindowKey} {w : Int} (hk : m.states.lookup k = some w) : rank oldest ≤ rank (k, w) := by
  have hmem : k ∈ m.order := h.mem_order_iff.mpr (mem_iff_lookup.mpr ⟨w, hk⟩)
  have hw : m.states.getD k 0 = w := by
    rw [GoMap.getD, hk]
    rfl
  unfold WatermarkWindowManager.oldestWindow at holdest
  cases horder : m.order with
  | nil =>
    rw [horder] at holdest
    cases holdest
  | cons first keys =>
    rw [horder] at holdest hmem
    obtain rfl := Option.some.inj holdest
    obtain ⟨hfirst, hkeys⟩ := rank_oldestLoop_le m.states keys (first, m.states.getD first 0)
    obtain rfl | hmem := List.mem_cons.mp hmem
    · exact hfirst.trans_eq (by rw [hw])
    · have hle := hkeys k hmem
      rwa [hw] at hle

/-! ## One call -/

/-- What the indexes of a manager satisfy. -/
structure Tracked (cfg : WatermarkWindowConfig) (m : WatermarkWindowManager) : Prop where
  perm : m.order.Perm m.states.keys
  nodup : m.order.Nodup
  within : m.states.size ≤ cfg.maxOpenWindows
  cap : m.maxOpenWindows = cfg.maxOpenWindows
  cap_pos : 0 < cfg.maxOpenWindows

/-- What a decision on a key says about the windows before and after it. -/
structure Decides (m m' : WatermarkWindowManager) (key : WindowKey) (d : WindowDecision) :
    Prop where
  forced_iff : d.forcedClose ≠ none ↔ key ∉ m.states ∧ m.states.size = m.maxOpenWindows
  oldest : ∀ f, d.forcedClose = some f →
    m.states.lookup f.key = some f.windowStart ∧
      ∀ k w, m.states.lookup k = some w → rank (f.key, f.windowStart) ≤ rank (k, w)
  le : ∀ k w w', m.states.lookup k = some w → m'.states.lookup k = some w' → w ≤ w'
  others : ∀ k w w', k ≠ key → m.states.lookup k = some w → m'.states.lookup k = some w' → w' = w
  close_iff : d.shouldCloseCurrent = true ↔
    ∃ w w', m.states.lookup key = some w ∧ m'.states.lookup key = some w' ∧ w < w'
  previous : d.shouldCloseCurrent = true → m.states.lookup key = some d.previousWindowStart

variable {cfg : WatermarkWindowConfig}

theorem Tracked.consistent (h : Tracked cfg m) : m.Consistent := ⟨h.perm, h.cap.symm ▸ h.cap_pos⟩

theorem Tracked.of_consistent
    {m' : WatermarkWindowManager} (h : Tracked cfg m) (hconsistent : m'.Consistent)
    (hcap : m'.maxOpenWindows = m.maxOpenWindows)
    (hlength : (m'.order.length : Int) ≤ m.maxOpenWindows) : Tracked cfg m' := by
  refine ⟨hconsistent.perm, ?_, ?_, hcap.trans h.cap, h.cap_pos⟩
  · exact hconsistent.perm.nodup_iff.mpr m'.states.keys_nodup
  · rw [size_eq_length_keys, ← hconsistent.perm.length_eq, ← h.cap]
    exact hlength

theorem Tracked.size_eq (h : Tracked cfg m) : m.order.length = m.states.size := by
  rw [size_eq_length_keys, h.perm.length_eq]

theorem Tracked.order_le (h : Tracked cfg m) : (m.order.length : Int) ≤ m.maxOpenWindows := by
  rw [h.size_eq, h.cap]
  exact h.within

/-- What a call does to a tracked key. -/
theorem Tracked.observeExisting (h : Tracked cfg m) {w : Int} (hw : m.states.lookup key = some w) :
    Tracked cfg (m.observeExisting key w windowStart).1 ∧
      Decides m (m.observeExisting key w windowStart).1 key
        (m.observeExisting key w windowStart).2 := by
  have hmem : key ∈ m.states := mem_iff_lookup.mpr ⟨w, hw⟩
  -- A decision that leaves the manager alone closes nothing.
  have hkeep : ∀ d : WindowDecision, d.forcedClose = none → d.shouldCloseCurrent = false →
      Decides m m key d := by
    intro d hforced hclose
    refine ⟨by simp [hforced, hmem], by simp [hforced], ?_, ?_, ?_, by simp [hclose]⟩
    · intro k w w' hk hk'
      exact (Option.some.inj (hk.symm.trans hk')).le
    · intro k w w' _ hk hk'
      exact Option.some.inj (hk'.symm.trans hk)
    · rw [hclose]
      simp only [Bool.false_eq_true, false_iff]
      rintro ⟨w, w', hk, hk', hlt⟩
      exact hlt.ne (Option.some.inj (hk.symm.trans hk'))
  unfold WatermarkWindowManager.observeExisting
  simp only [ite_self]
  split_ifs
  · exact ⟨h, hkeep _ rfl rfl⟩
  · exact ⟨h, hkeep _ rfl rfl⟩
  · have hlookup := fun k => lookup_insert_ite m.states key k windowStart
    refine ⟨h.of_consistent ⟨?_, h.consistent.cap_pos⟩ rfl h.order_le, ?_⟩
    · change m.order.Perm (m.states.insert key windowStart).keys
      rw [AList.keys_insert]
      exact h.perm.trans (List.perm_cons_erase (AList.mem_keys.mp hmem))
    · refine ⟨by simp [hmem], by simp, ?_, ?_, ?_, fun _ => hw⟩
      · intro k v v' hk hk'
        rw [hlookup] at hk'
        split_ifs at hk' with heq
        · cases hk'
          rw [heq, hw] at hk
          cases hk
          omega
        · exact (Option.some.inj (hk.symm.trans hk')).le
      · intro k v v' hne hk hk'
        rw [hlookup, if_neg hne] at hk'
        exact Option.some.inj (hk'.symm.trans hk)
      · refine iff_of_true rfl ⟨w, windowStart, hw, ?_, by omega⟩
        rw [hlookup, if_pos rfl]

/-- What a call does to a new key. -/
theorem Tracked.observeNew (h : Tracked cfg m) (hnew : m.states.lookup key = none) :
    Tracked cfg (m.observeNew key windowStart).1 ∧
      Decides m (m.observeNew key windowStart).1 key (m.observeNew key windowStart).2 := by
  have hnotMem : key ∉ m.states := by
    rw [mem_iff_lookup, hnew]
    simp
  have hwithin := h.order_le
  have hsize := h.size_eq
  -- Every window that is still tracked is the one it was, and the new key had none.
  have hdecides : ∀ (m' : WatermarkWindowManager) (d : WindowDecision),
      (∀ k w', m'.states.lookup k = some w' → k = key ∨ m.states.lookup k = some w') →
      d.shouldCloseCurrent = false →
      (d.forcedClose ≠ none ↔ m.states.size = m.maxOpenWindows) →
      (∀ f, d.forcedClose = some f → m.oldestWindow = some (f.key, f.windowStart) ∧
        m.states.lookup f.key = some f.windowStart) →
      Decides m m' key d := by
    intro m' d hkept hclose hforced hf
    refine ⟨by simp only [hforced, hnotMem, not_false_eq_true, true_and], ?_, ?_, ?_, ?_,
      by simp [hclose]⟩
    · intro f hff
      obtain ⟨holdest, htracked⟩ := hf f hff
      exact ⟨htracked, fun k w hk => h.consistent.rank_oldestWindow_le holdest hk⟩
    · intro k w w' hk hk'
      obtain rfl | hold := hkept k w' hk'
      · rw [hnew] at hk
        cases hk
      · exact (Option.some.inj (hk.symm.trans hold)).le
    · intro k w w' hne hk hk'
      obtain heq | hold := hkept k w' hk'
      · exact absurd heq hne
      · exact Option.some.inj (hold.symm.trans hk)
    · rw [hclose, hnew]
      simp
  unfold WatermarkWindowManager.observeNew
  split_ifs with hcap
  · obtain ⟨k₀, w₀, holdest, hw₀⟩ := h.consistent.oldestWindow hcap
    simp only [holdest]
    have hnotMem' : key ∉ (m.forget k₀).states := fun hmem =>
      hnotMem (AList.mem_erase.mp hmem).2
    refine ⟨h.of_consistent (h.consistent.forget.track hnotMem') rfl ?_, hdecides _ _ ?_ rfl ?_ ?_⟩
    · have hmem : k₀ ∈ m.order :=
        h.consistent.mem_order_iff.mpr (mem_iff_lookup.mpr ⟨w₀, hw₀⟩)
      have hlength := List.length_erase_add_one hmem
      change ((m.order.erase k₀ ++ [key]).length : Int) ≤ _
      rw [List.length_append, List.length_singleton, hlength]
      exact hwithin
    · intro k w' hk'
      rw [lookup_track, lookup_forget] at hk'
      split_ifs at hk' with hkey
      · exact .inl hkey
      · exact .inr hk'
    · simp only [ne_eq, reduceCtorEq, not_false_eq_true, true_iff]
      omega
    · intro f hf
      cases hf
      exact ⟨holdest, hw₀⟩
  · refine ⟨h.of_consistent (h.consistent.track hnotMem) rfl ?_, hdecides _ _ ?_ rfl ?_ ?_⟩
    · change ((m.order ++ [key]).length : Int) ≤ _
      rw [List.length_append, List.length_singleton]
      omega
    · intro k w' hk'
      rw [lookup_track] at hk'
      split_ifs at hk' with hkey
      · exact .inl hkey
      · exact .inr hk'
    · simp only [ne_eq, not_true_eq_false, false_iff]
      omega
    · intro f hf
      cases hf

/-! ## Runs -/

/-- The arguments of `Observe`. -/
structure ObserveCall where
  key : WindowKey
  eventTsMs : Int
  windowDurationMs : Int
deriving Repr, DecidableEq

/-- The manager after a call. -/
def step (m : WatermarkWindowManager) (call : ObserveCall) : WatermarkWindowManager :=
  (observe call.key call.eventTsMs call.windowDurationMs m).1

/-- What a call answers, and that a call that fails changes nothing. -/
def Answers (m : WatermarkWindowManager) (call : ObserveCall) : Prop :=
  match (observe call.key call.eventTsMs call.windowDurationMs m).2 with
  | .ok d => Decides m (m.step call) (normalizedKey call.key) d
  | .error _ => m.step call = m

theorem Tracked.step
    (h : Tracked cfg m) (call : ObserveCall) : Tracked cfg (m.step call) ∧ Answers m call := by
  by_cases hobservable : Observable call.key call.eventTsMs call.windowDurationMs
  · unfold Answers WatermarkWindowManager.step
    rw [hobservable.observe_eq m]
    dsimp only
    unfold WatermarkWindowManager.assign
    cases hlookup : m.states.lookup (normalizedKey call.key) with
    | none => exact h.observeNew hlookup
    | some w => exact h.observeExisting hlookup
  · obtain ⟨p, hp⟩ := observe_of_not_observable hobservable m
    unfold Answers WatermarkWindowManager.step
    rw [hp]
    exact ⟨h, rfl⟩

theorem tracked_create (h : create cfg = .ok m) : Tracked cfg m := by
  unfold create at h
  split_ifs at h
  cases h
  refine ⟨List.Perm.refl _, List.nodup_nil, ?_, rfl, by omega⟩
  change (0 : Int) ≤ cfg.maxOpenWindows
  omega

theorem Tracked.lookup_le (h : Tracked cfg m) (call : ObserveCall) {k : WindowKey} {w w' : Int}
    (hw : m.states.lookup k = some w) (hw' : (m.step call).states.lookup k = some w') : w ≤ w' := by
  have hanswers := (h.step call).2
  unfold Answers at hanswers
  split at hanswers
  · exact hanswers.le k w w' hw hw'
  · rw [hanswers, hw] at hw'
    exact (Option.some.inj hw').le

/-- The window of a key that stays tracked does not go back. -/
theorem Tracked.lookup_run_le
    (h : Tracked cfg m) (calls : List ObserveCall) {k : WindowKey} {w w' : Int}
    (hstays : ∀ before, before <+: calls → k ∈ (run WatermarkWindowManager.step m before).states)
    (hw : m.states.lookup k = some w)
    (hw' : (run WatermarkWindowManager.step m calls).states.lookup k = some w') : w ≤ w' := by
  induction calls generalizing m w with
  | nil => exact (Option.some.inj (hw.symm.trans hw')).le
  | cons call calls ih =>
    rw [run_cons] at hw'
    have hstays' : ∀ before, before <+: calls →
        k ∈ (run WatermarkWindowManager.step (m.step call) before).states := by
      intro before hbefore
      have hmem := hstays (call :: before) (List.cons_prefix_cons.mpr ⟨rfl, hbefore⟩)
      rwa [run_cons] at hmem
    obtain ⟨v, hv⟩ := mem_iff_lookup.mp (hstays' [] List.nil_prefix)
    rw [run_nil] at hv
    exact (h.lookup_le call hw hv).trans (ih (h.step call).1 hstays' hv hw')

/-- Over every run of calls, the indexes agree within the cap, each call decides as it
should, and the window of a key that stays tracked never goes back. -/
theorem lifecycle
    (cfg : WatermarkWindowConfig) (m : WatermarkWindowManager) (hcreate : create cfg = .ok m)
    (calls : List ObserveCall) :
    Tracked cfg (run WatermarkWindowManager.step m calls) ∧
      Always WatermarkWindowManager.step Answers m calls ∧
      ∀ before after k w w', calls = before ++ after →
        (∀ mid, mid <+: after →
          k ∈ (run WatermarkWindowManager.step m (before ++ mid)).states) →
        (run WatermarkWindowManager.step m before).states.lookup k = some w →
        (run WatermarkWindowManager.step m calls).states.lookup k = some w' →
        w ≤ w' := by
  have hstart := tracked_create hcreate
  have htracked : ∀ calls, Tracked cfg (run WatermarkWindowManager.step m calls) :=
    invariant (I := Tracked cfg) (fun _ call h => (Tracked.step h call).1) hstart
  refine ⟨htracked calls, ?_, ?_⟩
  · exact always_iff_forall_prefix.mpr fun before call _ =>
      (Tracked.step (htracked before) call).2
  · rintro before after k w w' rfl hstays hw hw'
    rw [run_append] at hw'
    refine (htracked before).lookup_run_le after (fun mid hmid => ?_) hw hw'
    rw [← run_append]
    exact hstays mid hmid

/-- A manager for one window. -/
def single : WatermarkWindowManager :=
  { maxOpenWindows := 1, lateToleranceMs := 0, states := ∅, order := [] }

theorem lifecycle_single :
    create ⟨1, 0⟩ = .ok single ∧
      Tracked ⟨1, 0⟩ (run WatermarkWindowManager.step single
        [⟨⟨"binance", "BTCUSDT", "1m"⟩, 60000, 60000⟩, ⟨⟨"kraken", "BTCUSDT", "1m"⟩, 60000, 60000⟩]) :=
  ⟨rfl, (lifecycle ⟨1, 0⟩ single rfl _).1⟩

end WatermarkWindowManager
end Aggregation
end StreamAnalytics
