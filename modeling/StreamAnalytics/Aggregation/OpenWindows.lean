import StreamAnalytics.Aggregation.WindowAgreement

/-!
# Open candles and tracked windows

After every request the open candles and the windows tracked by the manager
correspond one to one, as long as every window that is dropped at the cap is
stored under the key of the manager, distinct keys of the map have distinct keys
in the manager, and every open candle can be closed (`open_windows_correspond`).

The canonical venue is in upper case and the key of the manager in lower case, so
a dropped window of a venue with a letter stays open (`dropped_window_stays_open`).
-/

namespace StreamAnalytics
namespace Aggregation

open GoInt WatermarkWindowManager GoStrings Runs Prog GoMap Naming

namespace BuildCandleFromEvents

variable {uc : BuildCandleFromEvents} {KS pending : CandleKey → Prop} {n : Nat}

/-! ## Requests and runs -/

theorem Ready.post_cascadeFromClosedBase
    {base : CandleV1} (hKS : Separated KS) (hbase : base.InRange) (timeframes : List String)
    (hkeys : ∀ tf ∈ timeframes, KS ⟨base.venue, base.instrument, tf⟩ ∧
      tf ∈ allowedCandleTimeframes)
    (h : Ready KS n uc)
    (hend : ∀ tf ∈ timeframes, base.windowStartTs + uc.windowMs.getD tf 0 < 2 ^ 63) :
    Post (fun _ uc' => Kept KS n uc' → Agrees KS (fun _ => False) uc')
      (fun _ uc' => Kept KS n uc' → Agrees KS (fun _ => False) uc')
      (cascadeFromClosedBase .succeeding base timeframes uc) := by
  induction timeframes generalizing uc with
  | nil => exact .ok fun _ => h.agrees
  | cons tf tfs ih =>
    have hkeys' : ∀ tf' ∈ tfs, KS ⟨base.venue, base.instrument, tf'⟩ ∧
        tf' ∈ allowedCandleTimeframes := fun tf' htf' => hkeys tf' (by simp [htf'])
    have hend' : ∀ tf' ∈ tfs, base.windowStartTs + uc.windowMs.getD tf' 0 < 2 ^ 63 :=
      fun tf' htf' => hend tf' (by simp [htf'])
    unfold cascadeFromClosedBase
    by_cases htf : tf = candleTimeframeBase
    · rw [if_pos htf]
      exact ih hkeys' h hend'
    · rw [if_neg htf]
      obtain ⟨hkey, hallowed⟩ := hkeys tf (by simp)
      have hcontinues := ((walk_continues uc).rollWindow .succeeding
        ⟨base.venue, base.instrument, tf⟩ base.windowStartTs
        (x := CandleV1.applyClosedCandle base) trivial).post uc (Continues.refl uc)
      have hroll := h.post_rollWindow hKS hkey hallowed (builds_applyClosedCandle hbase)
        (hend tf (by simp))
      refine Post.bind_guarded (fun roll => ?_) (hcontinues.and hroll |>.imp
        (fun _ _ h hkept => And.intro (h.2 hkept).1 h.1.windowMs) fun _ _ h => h.2) ?_
      · exact preserves_not_kept fun uc₀ => Preserves.bind
          ((walk_continues uc₀).cascadeFromClosedBase .succeeding base tfs) fun _ =>
            preserves_pure _
      · rintro roll uc₁ - ⟨h₁, hms⟩
        refine Post.bind (ih hkeys' h₁ (by rwa [hms])) fun closed uc₂ h₂ => .ok h₂

/-- The keys of a request, one for each timeframe. -/
def requestKeys (uc : BuildCandleFromEvents) (req : BuildCandleRequest) : List CandleKey :=
  uc.timeframes.map fun tf =>
    ⟨canonicalVenue req.venue, canonicalInstrument req.instrument, tf⟩

/-- The keys that occur while a request is handled. -/
def Involved (uc : BuildCandleFromEvents) (req : BuildCandleRequest) (k : CandleKey) : Prop :=
  k ∈ uc.candles.keys ++ requestKeys uc req

/-- The requests that keep the correspondence. -/
structure Agreeable (uc : BuildCandleFromEvents) (req : BuildCandleRequest) : Prop where
  /-- The instrument has no white space next to a deleted separator at its ends. -/
  trimmed : trimSpace (canonicalInstrument req.instrument) =
    canonicalInstrument req.instrument
  /-- The manager tells the keys apart. -/
  separated : Separated (Involved uc req)
  /-- Dropped windows are stored under the key of the manager. -/
  dropped : ∀ fk ∈ droppedBy uc req, Coincides (Involved uc req) fk
  /-- Every open candle can be closed. -/
  closes : ∀ k c, uc.candles.lookup k = some c → Closes uc k c
  /-- The windows around the event end within the range of `int64`. -/
  ends : ∀ tf ∈ uc.timeframes, req.tsIngest + uc.windowMs.getD tf 0 < 2 ^ 63

/-- The open candles and the tracked windows correspond one to one. -/
structure OneToOne (uc : BuildCandleFromEvents) : Prop where
  tracked : ∀ k c, uc.candles.lookup k = some c →
    uc.windows.states.lookup (normalizedKey k) = some c.windowStartTs
  open_unique : ∀ nk w, uc.windows.states.lookup nk = some w →
    ∃! k, ∃ c, uc.candles.lookup k = some c ∧ normalizedKey k = nk ∧ c.windowStartTs = w

/-- The invariant between requests. -/
structure Corresponds (uc : BuildCandleFromEvents) : Prop where
  agrees : Agrees (fun k => k ∈ uc.candles) (fun _ => False) uc
  separated : Separated fun k => k ∈ uc.candles
  timeframes : uc.timeframes = allowedCandleTimeframes

theorem Corresponds.oneToOne (h : Corresponds uc) : OneToOne uc := by
  refine ⟨fun k c hc => h.agrees.tracked k c hc fun hfalse => hfalse, ?_⟩
  intro nk w hw
  obtain ⟨k, hk, hnk, hcover⟩ := h.agrees.covered nk w hw
  obtain ⟨c, hc⟩ := hcover.resolve_left fun hfalse => hfalse
  have htracked := h.agrees.tracked k c hc fun hfalse => hfalse
  rw [watermark, hnk, hw] at htracked
  refine ⟨k, ⟨c, hc, hnk, (Option.some.inj htracked).symm⟩, ?_⟩
  rintro k' ⟨c', hc', hnk', -⟩
  exact h.separated k' k (mem_iff_lookup.mpr ⟨c', hc'⟩) hk (hnk'.trans hnk.symm)

/-- The correspondence may be read for any larger set of keys. -/
theorem Agrees.mono {KS' : CandleKey → Prop} (h : Agrees KS pending uc) (hsub : ∀ k, KS k → KS' k) :
    Agrees KS' pending uc := by
  refine ⟨h.consistent, fun k c hc => hsub k (h.known k c hc), h.keyed, h.inRange, h.tracked, ?_⟩
  intro nk w hw
  obtain ⟨k, hk, hrest⟩ := h.covered nk w hw
  exact ⟨k, hsub k hk, hrest⟩

theorem Agrees.corresponds (h : Agrees KS (fun _ => False) uc) (hKS : Separated KS)
    (htimeframes : uc.timeframes = allowedCandleTimeframes) : Corresponds uc := by
  refine ⟨⟨h.consistent, fun k c hc => mem_iff_lookup.mpr ⟨c, hc⟩, h.keyed, h.inRange,
    h.tracked, ?_⟩, ?_, htimeframes⟩
  · intro nk w hw
    obtain ⟨k, -, hnk, hcover⟩ := h.covered nk w hw
    exact ⟨k, mem_iff_lookup.mpr (hcover.resolve_left fun hfalse => hfalse), hnk, hcover⟩
  · intro k k' hk hk'
    obtain ⟨c, hc⟩ := mem_iff_lookup.mp hk
    obtain ⟨c', hc'⟩ := mem_iff_lookup.mp hk'
    exact hKS k k' (h.known k c hc) (h.known k' c' hc')

theorem consistent_of_create {cfg : WatermarkWindowConfig} {m : WatermarkWindowManager}
    (h : WatermarkWindowManager.create cfg = .ok m) : m.Consistent ∧ m.states = ∅ := by
  unfold WatermarkWindowManager.create at h
  split_ifs at h with hcap
  cases h
  exact ⟨⟨List.Perm.nil, by simpa using hcap⟩, rfl⟩

theorem corresponds_create (cfg : BuildCandleConfig) : Corresponds (create cfg) := by
  have hwindows : (create cfg).windows.Consistent ∧ (create cfg).windows.states = ∅ :=
    resultOr_induction (P := fun m : WatermarkWindowManager => m.Consistent ∧ m.states = ∅)
      (fun _ => consistent_of_create) (fun _ => consistent_of_create)
      ⟨⟨List.Perm.nil, by decide⟩, rfl⟩
  refine ⟨⟨hwindows.1, ?_, ?_, ?_, ?_, ?_⟩, ?_, rfl⟩
  · exact fun k c hc => nomatch hc
  · exact fun k c hc => nomatch hc
  · exact fun k c hc => nomatch hc
  · exact fun k c hc => nomatch hc
  · intro nk w hw
    rw [hwindows.2] at hw
    cases hw
  · intro k k' hk
    obtain ⟨c, hc⟩ := mem_iff_lookup.mp hk
    cases hc

theorem Ready.post_execute {req : BuildCandleRequest} (hKS : Separated KS) (h : Ready KS n uc)
    (htimeframes : uc.timeframes = allowedCandleTimeframes) (hkeys : ∀ k ∈ requestKeys uc req, KS k)
    (htrimmed : trimSpace (canonicalInstrument req.instrument) =
      canonicalInstrument req.instrument)
    (hends : ∀ tf ∈ uc.timeframes, req.tsIngest + uc.windowMs.getD tf 0 < 2 ^ 63) :
    Post (fun _ uc' => Kept KS n uc' → Agrees KS (fun _ => False) uc')
      (fun _ uc' => Kept KS n uc' → Agrees KS (fun _ => False) uc')
      (execute .succeeding req uc) := by
  have hbaseTf : candleTimeframeBase ∈ allowedCandleTimeframes := by decide
  have hkey : KS (baseKey req) := hkeys _ (List.mem_map.mpr ⟨_, htimeframes ▸ hbaseTf, rfl⟩)
  have hbaseTrimmed : (baseKey req).trimmed = baseKey req := by
    have htf : trimSpace candleTimeframeBase = candleTimeframeBase := by decide
    simp [CandleKey.trimmed, baseKey, htrimmed, htf]
  refine post_execute_guarded (fun _ _ => kept_of_continues) h.agrees
    (fun _ => h.post_rollWindow hKS hkey hbaseTf
      (builds_applyTrade req.price req.quantity req.isBuy req.seq)
      (hends _ (htimeframes ▸ hbaseTf))) ?_
  rintro roll uc₁ hcont ⟨h₁, hrolled⟩
  cases hr : roll.rolled with
  | none => exact .ok fun _ => h₁.agrees
  | some base =>
    obtain ⟨hbkey, hbrange, hble⟩ := hrolled base hr
    rw [hbaseTrimmed] at hbkey
    have hvenue : base.venue = canonicalVenue req.venue := congrArg CandleKey.venue hbkey
    have hinstrument : base.instrument = canonicalInstrument req.instrument :=
      congrArg CandleKey.instrument hbkey
    refine h₁.post_cascadeFromClosedBase hKS hbrange uc₁.timeframes ?_ ?_
    · intro tf htf
      rw [hcont.timeframes] at htf
      rw [hvenue, hinstrument]
      exact ⟨hkeys _ (List.mem_map.mpr ⟨tf, htf, rfl⟩), htimeframes ▸ htf⟩
    · intro tf htf
      rw [hcont.timeframes] at htf
      rw [hcont.windowMs]
      have := hends tf htf
      omega

theorem Corresponds.step {req : BuildCandleRequest} (h : Corresponds uc) (hreq : Agreeable uc req) :
    Corresponds (step uc req) := by
  have hready : Ready (Involved uc req) uc.forceClosed.length uc :=
    ⟨h.agrees.mono fun _ hk => List.mem_append_left _ hk, hreq.closes, Nat.le_refl _⟩
  have hkept : Kept (Involved uc req) uc.forceClosed.length
      (BuildCandleFromEvents.step uc req) := by
    intro fk hfk
    exact hreq.dropped fk hfk
  have hagrees : Agrees (Involved uc req) (fun _ => False) (BuildCandleFromEvents.step uc req) :=
    (hready.post_execute hreq.separated h.timeframes
      (fun _ hk => List.mem_append_right _ hk) hreq.trimmed hreq.ends).state hkept
  exact hagrees.corresponds hreq.separated ((continues_step uc req).timeframes.trans h.timeframes)

/--
A forced close closes, saves and removes exactly the candle of the dropped window
if and only if the candle is stored under the key of the manager.  In every run of
agreeable requests, the open candles and the tracked windows correspond one to one.
-/
theorem open_windows_correspond (cfg : BuildCandleConfig) (reqs : List BuildCandleRequest)
    (hreqs : Always step Agreeable (create cfg) reqs) :
    OneToOne (run step (create cfg) reqs) ∧
    ∀ (uc : BuildCandleFromEvents) (key : CandleKey) (c : CandleV1) (forced : ForcedWindowClose),
      uc.candles.lookup key = some c → normalizedKey key = forced.key →
      c.windowStartTs = forced.windowStart → Closes uc forced.key c →
      (ForceCloses uc forced key c ↔ key = forced.key) := by
  constructor
  · exact (invariant_of_always (fun _ _ h hreq => Corresponds.step h hreq)
      (corresponds_create cfg) hreqs).oneToOne
  · intro uc key c forced hlookup _ hstart hcloses
    exact forceCloses_iff hlookup hstart hcloses

instance (c : CandleV1) (windowEndTs : Int) : Decidable (c.Closable windowEndTs) :=
  decidable_of_iff ((CandleV1.close windowEndTs c).2 = .ok ⟨⟩) ⟨fun h => ⟨_, Prod.ext rfl h⟩,
    fun ⟨_, h⟩ => congrArg Prod.snd h⟩

instance (uc : BuildCandleFromEvents) (key : CandleKey) (c : CandleV1) :
    Decidable (Closes uc key c) :=
  inferInstanceAs (Decidable (_ ∧ _))

/-- The parts of `Agreeable`, each as a check of finitely many keys or entries. -/
theorem agreeable_of_checks {req : BuildCandleRequest}
    (htrimmed : trimSpace (canonicalInstrument req.instrument) =
      canonicalInstrument req.instrument)
    (hseparated : ∀ k ∈ uc.candles.keys ++ requestKeys uc req,
      ∀ k' ∈ uc.candles.keys ++ requestKeys uc req, normalizedKey k = normalizedKey k' → k = k')
    (hdropped : ∀ fk ∈ droppedBy uc req, ∀ k ∈ uc.candles.keys ++ requestKeys uc req,
      normalizedKey k = fk → k = fk)
    (hcloses : ∀ e ∈ uc.candles.entries, Closes uc e.1 e.2)
    (hends : ∀ tf ∈ uc.timeframes, req.tsIngest + uc.windowMs.getD tf 0 < 2 ^ 63) :
    Agreeable uc req :=
  ⟨htrimmed, fun k k' hk hk' => hseparated k hk k' hk', hdropped,
    fun k c hc => hcloses ⟨k, c⟩ (mem_entries_iff.mpr hc), hends⟩

/--
The canonical form of the venue `7` is the key of the manager: with a cap of one
window, the second instrument closes the window of the first.
-/
theorem open_windows_correspond_sample :
    OneToOne (run step (create { windowCap := 1 })
      [unitTrade "7" "A" 1 5000, unitTrade "7" "B" 1 5000]) ∧
    (run step (create { windowCap := 1 })
      [unitTrade "7" "A" 1 5000, unitTrade "7" "B" 1 5000]).forceClosed = [⟨"7", "A", "1s"⟩] := by
  refine ⟨(open_windows_correspond { windowCap := 1 }
    [unitTrade "7" "A" 1 5000, unitTrade "7" "B" 1 5000] ⟨agreeable_of_checks ?_ ?_ ?_ ?_ ?_,
    agreeable_of_checks ?_ ?_ ?_ ?_ ?_, trivial⟩).1, ?_⟩ <;> decide +kernel

/--
The canonical venue `BINANCE` is `binance` for the manager: the window that the
second instrument drops is not found, its candle stays open without a tracked
window, and nothing is saved.
-/
theorem dropped_window_stays_open :
    (run step (create { windowCap := 1 })
      [unitTrade "binance" "A" 1 5000, unitTrade "binance" "B" 1 5000]).forceClosed =
        [normalizedKey ⟨"BINANCE", "A", "1s"⟩] ∧
    (run step (create { windowCap := 1 })
      [unitTrade "binance" "A" 1 5000, unitTrade "binance" "B" 1 5000]).saved = [] ∧
    (run step (create { windowCap := 1 })
      [unitTrade "binance" "A" 1 5000, unitTrade "binance" "B" 1 5000]).openStart
        ⟨"BINANCE", "A", "1s"⟩ = some 5000 ∧
    ¬ OneToOne (run step (create { windowCap := 1 })
      [unitTrade "binance" "A" 1 5000, unitTrade "binance" "B" 1 5000]) := by
  have hopen : (run step (create { windowCap := 1 })
      [unitTrade "binance" "A" 1 5000, unitTrade "binance" "B" 1 5000]).openStart
        ⟨"BINANCE", "A", "1s"⟩ = some 5000 := by decide +kernel
  refine ⟨by decide +kernel, by decide +kernel, hopen, fun h => ?_⟩
  obtain ⟨c, hc, -⟩ := Option.map_eq_some_iff.mp hopen
  have htracked := h.tracked _ c hc
  have hnone : (run step (create { windowCap := 1 })
      [unitTrade "binance" "A" 1 5000, unitTrade "binance" "B" 1 5000]).windows.states.lookup
        (normalizedKey ⟨"BINANCE", "A", "1s"⟩) = none := by decide +kernel
  rw [hnone] at htracked
  cases htracked

end BuildCandleFromEvents

end Aggregation
end StreamAnalytics
