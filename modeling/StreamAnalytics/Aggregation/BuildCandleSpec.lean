import StreamAnalytics.Aggregation.BuildCandle
import StreamAnalytics.Aggregation.CandleMethods

/-!
# What the parts of `Execute` do

With ports that accept every candle, closing a stored candle either fails inside
`Close`, or saves the closed candle and removes it from the map.  Each part of
`Execute` has one rule that lists the states it can end in.
-/

namespace StreamAnalytics
namespace Aggregation

open GoInt WatermarkWindowManager GoStrings Prog CandleV1

/-! ## Keys of stored candles -/

namespace CandleKey

/-- The names of a candle created under a key: `NewCandleV1` trims them. -/
def trimmed (k : CandleKey) : CandleKey :=
  ⟨trimSpace k.venue, trimSpace k.instrument,
    trimSpace k.timeframe⟩

@[simp] theorem trimmed_trimmed (k : CandleKey) : k.trimmed.trimmed = k.trimmed := by
  simp [trimmed]

@[simp] theorem normalizedKey_trimmed (k : CandleKey) :
    normalizedKey k.trimmed =
      normalizedKey k := by
  simp [trimmed, normalizedKey]

end CandleKey

theorem CandleV1.create_eq_ok {key : CandleKey} {windowStart : Int} {c : CandleV1}
    (h : CandleV1.create key.venue key.instrument key.timeframe windowStart = .ok c) :
    c.key = key.trimmed ∧ c.windowStartTs = windowStart := by
  obtain ⟨-, rfl⟩ := create_eq_ok_iff.mp h
  exact ⟨rfl, rfl⟩

theorem resultOr_induction {α : Type} {P : α → Prop} {result fallback : Except Problem α} {zero : α}
    (hresult : ∀ a, result = .ok a → P a) (hfallback : ∀ a, fallback = .ok a → P a)
    (hzero : P zero) : P (resultOr result fallback zero) := by
  unfold resultOr
  split
  · exact hresult _ rfl
  · exact hfallback _ rfl
  · exact hzero

/-! ## Closing a stored candle -/

namespace BuildCandleFromEvents

variable {uc : BuildCandleFromEvents} {key : CandleKey} {existing c' : CandleV1}
  {windowDurationMs : Int}

/-- The state after a stored candle has been closed, saved and removed. -/
def finalized (uc : BuildCandleFromEvents) (key : CandleKey) (c : CandleV1) :
    BuildCandleFromEvents :=
  { uc with
    candles := (uc.candles.insert key c).erase key
    saved := uc.saved ++ [c]
    published := uc.published ++ [c] }

/-- The state after the candle under a key has changed. -/
def stored (uc : BuildCandleFromEvents) (key : CandleKey) (c : CandleV1) :
    BuildCandleFromEvents :=
  { uc with candles := uc.candles.insert key c }

theorem lookup_finalized (k : CandleKey) :
    (uc.finalized key c').candles.lookup k = if k = key then none else uc.candles.lookup k := by
  unfold finalized
  rw [GoMap.lookup_erase_ite]
  split_ifs with hk
  · rfl
  · rw [GoMap.lookup_insert_ite, if_neg hk]

theorem lookup_stored (k : CandleKey) :
    (uc.stored key c').candles.lookup k = if k = key then some c' else uc.candles.lookup k :=
  GoMap.lookup_insert_ite uc.candles key k c'

/-- A replaced candle, or the other ones. -/
theorem forall_stored {P : CandleKey → CandleV1 → Prop} (hnew : P key c')
    (hold : ∀ k c, uc.candles.lookup k = some c → P k c) :
    ∀ k c, (uc.stored key c').candles.lookup k = some c → P k c := by
  intro k c hc
  rw [lookup_stored] at hc
  split_ifs at hc with hk
  · cases hc
    exact hk ▸ hnew
  · exact hold k c hc

/-- What is left of the candles was there before. -/
theorem lookup_of_finalized
    {k : CandleKey} {c : CandleV1} (h : (uc.finalized key c').candles.lookup k = some c) :
    k ≠ key ∧ uc.candles.lookup k = some c := by
  rw [lookup_finalized] at h
  split_ifs at h with hk
  exact ⟨hk, h⟩

theorem mutateCandle_eq
    {x : Prog Problem CandleV1 PUnit} {r : Except Problem PUnit} (h : x existing = (c', r)) :
    mutateCandle key existing x uc = (uc.stored key c', r.map fun _ => c') := by
  unfold mutateCandle
  rw [h]
  cases r with
  | error p => rfl
  | ok u => rfl

theorem finalizeCandle_eq {r : Except Problem PUnit}
    (h : CandleV1.close (wrap64 (existing.windowStartTs + windowDurationMs)) existing =
      (c', r)) :
    finalizeCandle .succeeding key existing windowDurationMs uc =
      (if r.isOk then uc.finalized key c' else uc.stored key c', r.map fun _ => c') := by
  unfold finalizeCandle
  cases r with
  | error p => exact bind_apply_error (mutateCandle_eq h)
  | ok u =>
    rw [bind_apply_ok (mutateCandle_eq h)]
    rfl

/-- The window start of the open candle of a key. -/
def openStart (uc : BuildCandleFromEvents) (key : CandleKey) : Option Int :=
  (uc.candles.lookup key).map windowStartTs

/-- The window that the manager tracks for a key. -/
def watermark (uc : BuildCandleFromEvents) (key : CandleKey) : Option Int :=
  uc.windows.states.lookup (normalizedKey key)

/-- The saved candles of a key, in the order of their emission. -/
def savedOf (uc : BuildCandleFromEvents) (key : CandleKey) : List CandleV1 :=
  uc.saved.filter fun c => c.key = key

theorem savedOf_finalized (K : CandleKey) :
    (uc.finalized key c').savedOf K = uc.savedOf K ++ if c'.key = K then [c'] else [] := by
  unfold savedOf finalized
  rw [List.filter_append]
  congr 1
  by_cases hK : c'.key = K <;> simp [hK]

/-! ## What every request keeps -/

/--
A later state of the same run: the window durations and the timeframes are fixed,
and the forced closes are only appended.
-/
structure Continues (uc₀ uc : BuildCandleFromEvents) : Prop where
  windowMs : uc.windowMs = uc₀.windowMs
  timeframes : uc.timeframes = uc₀.timeframes
  forceClosed : uc₀.forceClosed <+: uc.forceClosed

theorem Continues.refl (uc : BuildCandleFromEvents) : Continues uc uc :=
  ⟨rfl, rfl, List.prefix_refl _⟩

/--
What a request asks of a property of the state to keep it: the property does not depend
on the tracked windows and the logs, and it survives method calls on stored candles.
Where a call has succeeded, the key is `Free`, and its candle may be replaced or removed.
-/
structure Walk (I : BuildCandleFromEvents → Prop) (Calls : Prog Problem CandleV1 PUnit → Prop)
    (Free : CandleKey → Prop) : Prop where
  frame : ∀ {uc} windows forced saved published, I uc →
    I { uc with windows, forceClosed := uc.forceClosed ++ forced, saved, published }
  create : ∀ {uc key} c, uc.candles.lookup key = none → I uc → I (uc.stored key c)
  call : ∀ {uc key c x}, Calls x → uc.candles.lookup key = some c → I uc →
    I (uc.stored key (x c).1) ∧ ((x c).2.isOk → Free key)
  replace : ∀ {uc key} c, Free key → I uc → I (uc.stored key c)
  remove : ∀ {uc key}, Free key → I uc → I { uc with candles := uc.candles.erase key }
  close : ∀ windowEndTs, Calls (CandleV1.close windowEndTs)
  applyClosedCandle : ∀ child, Calls (applyClosedCandle child)
  applyTrade : ∀ price qty isBuy seq, Calls (applyTrade price qty isBuy seq)

section Walk

variable {I : BuildCandleFromEvents → Prop} {Calls : Prog Problem CandleV1 PUnit → Prop}
  {Free : CandleKey → Prop} (ports : CandlePorts)

theorem Walk.mutateCandle (w : Walk I Calls Free) {x : Prog Problem CandleV1 PUnit} (hx : Calls x)
    (hstored : uc.candles.lookup key = some existing) (h : I uc) :
    Post (fun _ uc' => I uc' ∧ Free key) (fun _ => I) (mutateCandle key existing x uc) := by
  obtain ⟨hcalled, hfree⟩ := w.call hx hstored h
  rcases hrun : x existing with ⟨c', p | u⟩
  · rw [mutateCandle_eq hrun]
    rw [hrun] at hcalled
    exact .error hcalled
  · rw [mutateCandle_eq hrun]
    rw [hrun] at hcalled hfree
    exact .ok ⟨hcalled, hfree rfl⟩

theorem Walk.persistClosedCandle (w : Walk I Calls Free) (candle : CandleV1) :
    Preserves I (persistClosedCandle ports candle) := by
  have hcall (port : Option (CandleV1 → Option Problem)) {record}
      (hrecord : ∀ uc, I uc → I (record uc)) : Preserves I (callPort port candle record) := by
    cases port with
    | none => exact preserves_pure _
    | some call =>
      exact Preserves.bind (preserves_check _) fun _ => preserves_modify hrecord
  have hlogs (uc : BuildCandleFromEvents) (saved published : List CandleV1) (h : I uc) :
      I { uc with saved, published } := by
    have hframe := w.frame uc.windows [] saved published h
    rwa [List.append_nil] at hframe
  exact Preserves.bind (hcall _ fun uc h => hlogs uc _ _ h) fun _ =>
    hcall _ fun uc h => hlogs uc _ _ h

theorem Walk.finalizeCandle (w : Walk I Calls Free) (windowDurationMs : Int)
    (hstored : uc.candles.lookup key = some existing) (h : I uc) :
    Post (fun _ => I) (fun _ => I)
      (finalizeCandle ports key existing windowDurationMs uc) := by
  refine Post.bind (w.mutateCandle (w.close _) hstored h) fun candle uc₁ h₁ => ?_
  refine Post.bind ((w.persistClosedCandle ports candle).post uc₁ h₁.1) fun _ uc₂ h₂ => ?_
  exact .ok (w.remove h₁.2 h₂)

theorem Walk.closeIfWindowChanged
    (w : Walk I Calls Free) (key : CandleKey) (windowStart windowDurationMs : Int) :
    Preserves I (closeIfWindowChanged ports key windowStart windowDurationMs) := by
  refine ⟨fun uc h => ?_⟩
  unfold BuildCandleFromEvents.closeIfWindowChanged
  rw [get_bind_apply]
  cases hstored : uc.candles.lookup key with
  | none => exact .ok h
  | some existing =>
    dsimp only
    split_ifs
    · exact .ok h
    · exact Post.bind (w.finalizeCandle ports _ hstored h) fun _ _ h' => .ok h'

theorem Walk.forceCloseWindow (w : Walk I Calls Free) (forced : ForcedWindowClose) :
    Preserves I (forceCloseWindow ports forced) := by
  refine ⟨fun uc h => ?_⟩
  unfold BuildCandleFromEvents.forceCloseWindow
  rw [get_bind_apply]
  cases hstored : uc.candles.lookup forced.key with
  | none => exact .ok h
  | some existing =>
    dsimp only
    split_ifs
    · exact .ok h
    · refine Post.check (fun _ _ => h) fun _ => ?_
      exact Post.bind (w.finalizeCandle ports _ hstored h) fun _ _ h' => .ok h'

theorem Walk.observeWindow
    (w : Walk I Calls Free) (key : CandleKey) (eventTsMs windowDurationMs : Int) :
    Preserves I (observeWindow ports key eventTsMs windowDurationMs) := by
  refine Preserves.bind (preserves_zoom _ fun uc m h => ?_) fun d => ?_
  · have hframe := w.frame m [] uc.saved uc.published h
    rwa [List.append_nil] at hframe
  · cases d.forcedClose with
    | none => exact preserves_pure _
    | some forced =>
      refine Preserves.bind (preserves_modify fun uc h =>
        w.frame uc.windows [forced.key] uc.saved uc.published h) fun _ => ?_
      exact Preserves.bind (w.forceCloseWindow ports forced) fun _ => preserves_pure _

theorem Walk.getOrCreateCandle
    (w : Walk I Calls Free) (key : CandleKey) (windowStart : Int) (h : I uc) :
    Post (fun candle uc' => I uc' ∧ uc'.candles.lookup key = some candle) (fun _ => I)
      (getOrCreateCandle key windowStart uc) := by
  unfold BuildCandleFromEvents.getOrCreateCandle
  rw [get_bind_apply]
  cases hstored : uc.candles.lookup key with
  | some existing => exact Post.check (fun _ _ => h) fun _ => .ok ⟨h, hstored⟩
  | none =>
    dsimp only
    cases CandleV1.create key.venue key.instrument key.timeframe windowStart with
    | error p => exact .error h
    | ok candle => exact .ok ⟨w.create candle hstored h, AList.lookup_insert _⟩

theorem Walk.updateWindow (w : Walk I Calls Free) (key : CandleKey) (windowDurationMs : Int)
    {update : Prog Problem CandleV1 PUnit} (hupdate : Calls update)
    (decision : WindowDecision) (forced : Option CandleV1) :
    Preserves I (updateWindow ports key windowDurationMs update decision forced) := by
  refine Preserves.ite (preserves_pure _) ?_
  refine Preserves.bind (w.closeIfWindowChanged ports key _ _) fun _ => ⟨fun uc₁ h₁ => ?_⟩
  refine Post.bind (w.getOrCreateCandle key _ h₁) fun candle uc₂ h₂ => ?_
  refine Post.bind (w.mutateCandle hupdate h₂.2 h₂.1) fun candle' uc₃ h₃ => ?_
  exact .ok (w.replace candle' h₃.2 h₃.1)

theorem Walk.rollWindow
    (w : Walk I Calls Free) (key : CandleKey) (eventTsMs : Int) {x : Prog Problem CandleV1 PUnit}
    (hx : Calls x) : Preserves I (rollWindow ports key eventTsMs x) := by
  refine Preserves.bind preserves_get fun uc => ?_
  refine Preserves.bind (w.observeWindow ports _ _ _) fun r => ?_
  exact w.updateWindow ports key _ hx r.1 r.2

theorem Walk.cascadeFromClosedBase
    (w : Walk I Calls Free) (base : CandleV1) (timeframes : List String) :
    Preserves I (cascadeFromClosedBase ports base timeframes) := by
  induction timeframes with
  | nil => exact preserves_pure _
  | cons tf tfs ih =>
    refine Preserves.ite ih ?_
    refine Preserves.bind (w.rollWindow ports _ _ (w.applyClosedCandle base)) fun roll => ?_
    exact Preserves.bind ih fun _ => preserves_pure _

theorem Walk.cascadeIfClosed
    (w : Walk I Calls Free) (timeframes : List String) (closed : Option CandleV1) :
    Preserves I (cascadeIfClosed ports timeframes closed) := by
  cases closed with
  | none => exact preserves_pure _
  | some base => exact w.cascadeFromClosedBase ports base timeframes

theorem Walk.execute
    (w : Walk I Calls Free) (req : BuildCandleRequest) : Preserves I (execute ports req) := by
  refine Preserves.bind (preserves_check _) fun _ => ?_
  refine Preserves.bind (w.rollWindow ports _ _ (w.applyTrade _ _ _ _)) fun roll => ?_
  refine Preserves.bind preserves_get fun uc => ?_
  refine Preserves.bind (w.cascadeIfClosed ports _ _) fun closed => ?_
  exact Preserves.bind preserves_get fun uc => preserves_pure _

end Walk

/-- Every request continues the run. -/
theorem walk_continues (uc₀ : BuildCandleFromEvents) :
    Walk (Continues uc₀) (fun _ => True) fun _ => True where
  frame _ _ _ _ h := ⟨h.windowMs, h.timeframes, h.forceClosed.trans (List.prefix_append _ _)⟩
  create _ _ h := ⟨h.windowMs, h.timeframes, h.forceClosed⟩
  call _ _ h := ⟨⟨h.windowMs, h.timeframes, h.forceClosed⟩, fun _ => trivial⟩
  replace _ _ h := ⟨h.windowMs, h.timeframes, h.forceClosed⟩
  remove _ h := ⟨h.windowMs, h.timeframes, h.forceClosed⟩
  close _ := trivial
  applyClosedCandle _ := trivial
  applyTrade _ _ _ _ := trivial

/-- A guard that later states do not regain. -/
theorem preserves_not_of_continues
    {G : BuildCandleFromEvents → Prop} {α : Type} {x : Prog Problem BuildCandleFromEvents α}
    (hG : ∀ uc uc', Continues uc uc' → G uc' → G uc)
    (hx : ∀ uc₀, Preserves (Continues uc₀) x) : Preserves (fun uc => ¬ G uc) x :=
  ⟨fun uc huc => ((hx uc).post uc (.refl uc)).imp (fun _ uc' h h' => huc (hG uc uc' h h'))
    fun _ uc' h h' => huc (hG uc uc' h h')⟩

theorem continues_step
    (uc : BuildCandleFromEvents) (req : BuildCandleRequest) : Continues uc (step uc req) :=
  ((walk_continues uc).execute .succeeding req).apply (.refl uc)

/-- The windows that the manager drops at its cap while it handles the request. -/
def droppedBy (uc : BuildCandleFromEvents) (req : BuildCandleRequest) : List WindowKey :=
  (step uc req).forceClosed.drop uc.forceClosed.length

theorem forceClosed_step (uc : BuildCandleFromEvents) (req : BuildCandleRequest) :
    (step uc req).forceClosed = uc.forceClosed ++ droppedBy uc req := by
  obtain ⟨dropped, hdropped⟩ := (continues_step uc req).forceClosed
  rw [droppedBy, ← hdropped, List.drop_left]

/-! ## Rules for the parts of `Execute` -/

section Rules

variable {Q : Option CandleV1 → BuildCandleFromEvents → Prop}
  {R : Problem → BuildCandleFromEvents → Prop} {windowStart : Int}

/-- A method call on a stored candle, by what the method does to it. -/
theorem post_mutateCandle
    {Q : CandleV1 → BuildCandleFromEvents → Prop} {x : Prog Problem CandleV1 PUnit}
    (h : Post (fun _ c' => Q c' (uc.stored key c')) (fun p c' => R p (uc.stored key c'))
      (x existing)) : Post Q R (mutateCandle key existing x uc) := by
  generalize hrun : x existing = o at h
  cases h with
  | ok h =>
    rw [mutateCandle_eq hrun]
    exact .ok h
  | error h =>
    rw [mutateCandle_eq hrun]
    exact .error h

theorem post_finalizeCandle {Q : CandleV1 → BuildCandleFromEvents → Prop}
    (h : Post (fun _ c' => Q c' (uc.finalized key c')) (fun p c' => R p (uc.stored key c'))
      (CandleV1.close (wrap64 (existing.windowStartTs + windowDurationMs)) existing)) :
    Post Q R (finalizeCandle .succeeding key existing windowDurationMs uc) := by
  generalize hrun : CandleV1.close _ existing = o at h
  cases h with
  | ok h =>
    rw [finalizeCandle_eq hrun]
    exact .ok h
  | error h =>
    rw [finalizeCandle_eq hrun]
    exact .error h

theorem post_closeIfWindowChanged
    (hkeep : (∀ c, uc.candles.lookup key = some c → c.windowStartTs = windowStart) → Q none uc)
    (hclose : ∀ c, uc.candles.lookup key = some c → c.windowStartTs ≠ windowStart →
      Post (fun _ c' => Q (some c') (uc.finalized key c')) (fun p c' => R p (uc.stored key c'))
        (CandleV1.close (wrap64 (c.windowStartTs + windowDurationMs)) c)) :
    Post Q R (closeIfWindowChanged .succeeding key windowStart windowDurationMs uc) := by
  unfold closeIfWindowChanged
  rw [get_bind_apply]
  cases hlookup : uc.candles.lookup key with
  | none => exact .ok (hkeep (by simp [hlookup]))
  | some c =>
    by_cases hstart : c.windowStartTs = windowStart
    · simp only [if_pos hstart]
      exact .ok (hkeep (by simp [hlookup, hstart]))
    · simp only [if_neg hstart]
      exact Post.bind (post_finalizeCandle (hclose c hlookup hstart)) fun _ _ h => .ok h

theorem post_forceCloseWindow {forced : ForcedWindowClose}
    (hkeep : (∀ c, uc.candles.lookup forced.key = some c →
      c.windowStartTs ≠ forced.windowStart) → Q none uc)
    (hduration : ∀ c p, uc.candles.lookup forced.key = some c →
      c.windowStartTs = forced.windowStart → uc.windowMs.getD forced.key.timeframe 0 ≤ 0 → R p uc)
    (hclose : ∀ c, uc.candles.lookup forced.key = some c →
      c.windowStartTs = forced.windowStart → 0 < uc.windowMs.getD forced.key.timeframe 0 →
      Post (fun _ c' => Q (some c') (uc.finalized forced.key c'))
        (fun p c' => R p (uc.stored forced.key c'))
        (CandleV1.close (wrap64 (c.windowStartTs + uc.windowMs.getD forced.key.timeframe 0)) c)) :
    Post Q R (forceCloseWindow .succeeding forced uc) := by
  unfold forceCloseWindow
  rw [get_bind_apply]
  cases hlookup : uc.candles.lookup forced.key with
  | none => exact .ok (hkeep (by simp [hlookup]))
  | some c =>
    by_cases hstart : c.windowStartTs = forced.windowStart
    · simp only [if_neg (not_not.mpr hstart)]
      refine Post.check (fun p hp => ?_) fun hnone => ?_
      · unfold Problem.when at hp
        split_ifs at hp with hdur
        exact hduration c p hlookup hstart hdur
      · have hpos := Int.not_le.mp (Problem.when_eq_none.mp hnone)
        exact Post.bind (post_finalizeCandle (hclose c hlookup hstart hpos))
          fun _ _ h => .ok h
    · simp only [if_pos hstart]
      exact .ok (hkeep (by simp [hlookup, hstart]))

theorem post_getOrCreateCandle {Q : CandleV1 → BuildCandleFromEvents → Prop}
    (hfound : ∀ c, uc.candles.lookup key = some c → c.windowStartTs = windowStart → Q c uc)
    (hmismatch : ∀ c p, uc.candles.lookup key = some c → c.windowStartTs ≠ windowStart → R p uc)
    (hcreate : ∀ c, uc.candles.lookup key = none →
      CandleV1.create key.venue key.instrument key.timeframe windowStart = .ok c →
      Q c (uc.stored key c))
    (hinvalid : ∀ p, uc.candles.lookup key = none →
      CandleV1.create key.venue key.instrument key.timeframe windowStart = .error p → R p uc) :
    Post Q R (getOrCreateCandle key windowStart uc) := by
  unfold getOrCreateCandle
  rw [get_bind_apply]
  cases hlookup : uc.candles.lookup key with
  | none =>
    cases hnew : CandleV1.create key.venue key.instrument key.timeframe windowStart with
    | error p => exact .error (hinvalid p hlookup hnew)
    | ok c => exact .ok (hcreate c hlookup hnew)
  | some c =>
    dsimp only
    by_cases hstart : c.windowStartTs = windowStart
    · rw [Problem.when, if_neg (not_not.mpr hstart)]
      exact .ok (hfound c hlookup hstart)
    · rw [Problem.when, if_pos hstart]
      exact .error (hmismatch c _ hlookup hstart)

theorem creates_of_observable {eventTsMs : Int} (hobs : Observable key eventTsMs windowDurationMs)
    (htimeframe : key.timeframe ∈ allowedCandleTimeframes) :
    ∃ c, CandleV1.create key.venue key.instrument key.timeframe
      (bucket eventTsMs windowDurationMs) = .ok c :=
  ⟨_, create_eq_ok_iff.mpr ⟨⟨hobs.venue, hobs.instrument, htimeframe,
    bucket_nonneg hobs.eventTs hobs.duration⟩, rfl⟩⟩

theorem stored_stored (c c' : CandleV1) : (uc.stored key c).stored key c' = uc.stored key c' := by
  simp only [stored, AList.insert_insert]

/-- The method call on the current candle and the `Put` that follows it. -/
theorem post_updateCandle {Q : WindowRoll → BuildCandleFromEvents → Prop}
    {c : CandleV1} {update : Prog Problem CandleV1 PUnit} {roll : WindowRoll}
    (h : Post (fun _ c' => Q roll (uc.stored key c')) (fun p c' => R p (uc.stored key c'))
      (update c)) :
    Post Q R ((do
      let candle ← mutateCandle key c update
      Prog.modify fun uc => { uc with candles := uc.candles.insert key candle }
      pure roll) uc) := by
  refine Post.bind (Q := fun c' uc₁ => Q roll (uc₁.stored key c')) (post_mutateCandle ?_)
    fun _ _ h => .ok h
  simp only [stored_stored]
  exact h

/-- The forced close that an accepted event of the key asks for. -/
abbrev forcedBy (uc : BuildCandleFromEvents) (key : CandleKey) (windowStart : Int) :
    Option ForcedWindowClose :=
  (uc.windows.assign (normalizedKey key) windowStart).2.forcedClose

/-- The state after the manager has taken its decision. -/
def observed (uc : BuildCandleFromEvents) (key : CandleKey) (windowStart : Int) :
    BuildCandleFromEvents :=
  { uc with
    windows := (uc.windows.assign (normalizedKey key) windowStart).1
    forceClosed := uc.forceClosed ++
      ((forcedBy uc key windowStart).map ForcedWindowClose.key).toList }

theorem forceClosed_observed_of_none (h : forcedBy uc key windowStart = none) :
    (uc.observed key windowStart).forceClosed = uc.forceClosed := by
  simp [observed, h]

theorem forceClosed_observed_of_some
    {forced : ForcedWindowClose} (h : forcedBy uc key windowStart = some forced) :
    (uc.observed key windowStart).forceClosed = uc.forceClosed ++ [forced.key] := by
  simp [observed, h]

/-- After an accepted event the manager tracks the window of the event. -/
theorem watermark_observed (hlate : ¬ uc.windows.Late (normalizedKey key) windowStart) :
    (uc.observed key windowStart).watermark key = some windowStart := by
  have haccepts := (assign_accepts hlate).2.2.lookup (normalizedKey key)
  rw [if_pos rfl] at haccepts
  exact haccepts

theorem post_observeWindow
    {Q : WindowDecision × Option CandleV1 → BuildCandleFromEvents → Prop} {eventTsMs : Int}
    (hreject : ∀ p, ¬ Observable key eventTsMs windowDurationMs → R p uc)
    (hlate : Observable key eventTsMs windowDurationMs →
      uc.windows.Late (normalizedKey key) (bucket eventTsMs windowDurationMs) →
      ∀ d : WindowDecision, d.isLate = true → Q (d, none) uc)
    (haccept : Observable key eventTsMs windowDurationMs →
      ¬ uc.windows.Late (normalizedKey key) (bucket eventTsMs windowDurationMs) →
      forcedBy uc key (bucket eventTsMs windowDurationMs) = none →
      ∀ d : WindowDecision, d.isLate = false →
        d.windowStart = bucket eventTsMs windowDurationMs →
        Q (d, none) (uc.observed key (bucket eventTsMs windowDurationMs)))
    (hforce : Observable key eventTsMs windowDurationMs →
      ¬ uc.windows.Late (normalizedKey key) (bucket eventTsMs windowDurationMs) →
      ∀ forced, forcedBy uc key (bucket eventTsMs windowDurationMs) = some forced →
      ∀ d : WindowDecision, d.isLate = false →
        d.windowStart = bucket eventTsMs windowDurationMs →
        Post (fun candle uc' => Q (d, candle) uc') R (forceCloseWindow .succeeding forced
          (uc.observed key (bucket eventTsMs windowDurationMs)))) :
    Post Q R (observeWindow .succeeding key eventTsMs windowDurationMs uc) := by
  unfold observeWindow
  by_cases hobs : Observable key eventTsMs windowDurationMs
  · have hrun := hobs.observe_eq uc.windows
    by_cases hl : uc.windows.Late (normalizedKey key) (bucket eventTsMs windowDurationMs)
    · rw [hl.assign_eq] at hrun
      rw [bind_apply_ok (zoom_apply_ok hrun)]
      exact .ok (hlate hobs hl _ rfl)
    · have haccepts := assign_accepts hl
      rw [bind_apply_ok (zoom_apply_ok hrun)]
      cases hforced : forcedBy uc key (bucket eventTsMs windowDurationMs) with
      | none =>
        have hpost := haccept hobs hl hforced _ haccepts.1 haccepts.2.1
        simp only [observed, hforced, Option.map_none, Option.toList_none,
          List.append_nil] at hpost
        unfold forcedBy at hforced
        simp only [hforced]
        exact .ok hpost
      | some forced =>
        have hpost := hforce hobs hl forced hforced _ haccepts.1 haccepts.2.1
        simp only [observed, hforced, Option.map_some, Option.toList_some] at hpost
        unfold forcedBy at hforced
        simp only [hforced, modify_bind_apply]
        exact Post.bind hpost fun _ _ h => .ok h
  · obtain ⟨p, hp⟩ := observe_of_not_observable hobs uc.windows
    rw [bind_apply_error (zoom_apply_error hp)]
    exact .error (hreject p hobs)

/-- A request, up to a guard on the final state that later states do not regain. -/
theorem post_execute_guarded
    {G I : BuildCandleFromEvents → Prop} {Q : WindowRoll → BuildCandleFromEvents → Prop}
    {req : BuildCandleRequest} (hG : ∀ uc uc', Continues uc uc' → G uc' → G uc) (hinvalid : I uc)
    (hroll : validateRequest req = none →
      Post (fun roll uc₁ => G uc₁ → Q roll uc₁) (fun _ uc₁ => G uc₁ → I uc₁)
        (rollWindow .succeeding (baseKey req) req.tsIngest
          (applyTrade req.price req.quantity req.isBuy req.seq) uc))
    (hcascade : ∀ roll uc₁, Continues uc uc₁ → Q roll uc₁ →
      Post (fun _ uc' => G uc' → I uc') (fun _ uc' => G uc' → I uc')
        (cascadeIfClosed .succeeding uc₁.timeframes roll.rolled uc₁)) :
    Post (fun _ uc' => G uc' → I uc') (fun _ uc' => G uc' → I uc')
      (execute .succeeding req uc) := by
  unfold execute
  cases hvalid : validateRequest req with
  | some p => exact .error fun _ => hinvalid
  | none =>
    refine Post.bind (Q := fun _ uc' => uc = uc') (.ok rfl) ?_
    rintro _ _ rfl
    have hcontinues := ((walk_continues uc).rollWindow .succeeding (baseKey req) req.tsIngest
      (x := applyTrade req.price req.quantity req.isBuy req.seq) trivial).post uc
      (Continues.refl uc)
    refine Post.bind_guarded (fun roll => preserves_not_of_continues hG fun uc₀ => ?_)
      (hcontinues.and (hroll hvalid) |>.imp
        (fun _ _ h hg => And.intro h.1 (h.2 hg)) fun _ _ h => h.2) ?_
    · -- What follows the base timeframe only appends to the forced closes.
      refine Preserves.bind preserves_get fun uc₁ => ?_
      refine Preserves.bind
        ((walk_continues uc₀).cascadeIfClosed .succeeding uc₁.timeframes roll.rolled) fun _ => ?_
      exact Preserves.bind preserves_get fun _ => preserves_pure _
    · rintro roll uc₁ - ⟨hcont, h₁⟩
      rw [get_bind_apply]
      refine Post.bind (hcascade roll uc₁ hcont h₁) fun _ uc₂ h₂ => ?_
      rw [get_bind_apply]
      exact .ok h₂

end Rules

/-- A trade of one unit. -/
def unitTrade (venue instrument : String) (seq tsIngest : Int) : BuildCandleRequest where
  venue := venue
  instrument := instrument
  price := 100
  quantity := 1
  isBuy := true
  seq := seq
  tsIngest := tsIngest

end BuildCandleFromEvents

end Aggregation
end StreamAnalytics
