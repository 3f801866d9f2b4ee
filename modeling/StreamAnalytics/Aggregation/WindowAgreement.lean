import StreamAnalytics.Lib.Runs
import StreamAnalytics.Aggregation.BuildCandleSpec

/-!
# Agreement of the candle map and the window manager

The candle map and the window manager index the same windows under different
keys: the map under the canonical names, the manager under its own normalisation.
A forced close looks a candle up under the key of the manager, so it finds the
candle exactly when the two keys coincide (`forceCloses_iff`).

`Agrees` says that the two indexes correspond, up to the keys that a request is
just working on.  Each part of one timeframe of a request is shown to restore the
agreement, as long as dropped windows are stored under the key of the manager.
-/

namespace StreamAnalytics
namespace Aggregation

open GoInt WatermarkWindowManager Prog CandleV1

namespace BuildCandleFromEvents

variable {uc : BuildCandleFromEvents} {key : CandleKey} {c c' : CandleV1} {windowStart : Int}
variable {update : Prog Problem CandleV1 PUnit}

/-! ## Forced closes -/

/-- The candle can be closed at the end of the window that the timeframe of the key gives it. -/
def Closes (uc : BuildCandleFromEvents) (key : CandleKey) (c : CandleV1) : Prop :=
  0 < uc.windowMs.getD key.timeframe 0 ∧
    c.Closable (wrap64 (c.windowStartTs + uc.windowMs.getD key.timeframe 0))

/-- The forced close closes, saves and removes exactly the candle of the entry `key`. -/
def ForceCloses (uc : BuildCandleFromEvents) (forced : ForcedWindowClose) (key : CandleKey)
    (c : CandleV1) : Prop :=
  ∃ c', CandleV1.close
      (wrap64 (c.windowStartTs + uc.windowMs.getD forced.key.timeframe 0)) c = (c', .ok ⟨⟩) ∧
    forceCloseWindow .succeeding forced uc = (uc.finalized key c', .ok (some c'))

/--
A window that the manager drops is closed exactly when the candle is stored under
the key of the manager.
-/
theorem forceCloses_iff {forced : ForcedWindowClose} (hlookup : uc.candles.lookup key = some c)
    (hstart : c.windowStartTs = forced.windowStart) (hcloses : Closes uc forced.key c) :
    ForceCloses uc forced key c ↔ key = forced.key := by
  obtain ⟨hpos, d, hd⟩ := hcloses
  constructor
  · rintro ⟨c', -, hforce⟩
    by_contra hne
    -- Closing another entry leaves the candle of `key` in the map.
    have hpost : Post (fun r uc' => r = none ∨ uc'.candles.lookup key = some c)
        (fun _ _ => True) (forceCloseWindow .succeeding forced uc) := by
      refine post_forceCloseWindow (fun _ => .inl rfl) (fun _ _ _ _ _ => trivial) ?_
      intro e _ _ _
      refine Post.imp (.of_state (I := fun _ => True) trivial) ?_ fun _ _ h => h
      intro _ e' _
      rw [lookup_finalized, if_neg hne]
      exact .inr hlookup
    rw [hforce] at hpost
    cases hpost with
    | ok h =>
      rcases h with h | h
      · cases h
      · rw [lookup_finalized, if_pos rfl] at h
        cases h
  · rintro rfl
    refine ⟨d, hd, ?_⟩
    have hpost : Post (fun r uc' => uc' = uc.finalized forced.key d ∧ r = some d)
        (fun _ _ => False) (forceCloseWindow .succeeding forced uc) := by
      refine post_forceCloseWindow ?_ ?_ ?_
      · intro h
        exact absurd hstart (h c hlookup)
      · intro _ _ _ _ h
        omega
      · intro e he _ _
        rw [hlookup] at he
        cases he
        rw [hd]
        exact .ok ⟨rfl, rfl⟩
    generalize hrun : forceCloseWindow .succeeding forced uc = o at hpost
    cases hpost with
    | ok h => rw [h.1, h.2]
    | error h => exact h.elim

/-! ## The correspondence -/

/--
The entries of the candle map and the windows of the manager correspond, up to the
pending keys.  `KS` holds of the keys that may occur.
-/
structure Agrees (KS pending : CandleKey → Prop) (uc : BuildCandleFromEvents) : Prop where
  consistent : uc.windows.Consistent
  known : ∀ k c, uc.candles.lookup k = some c → KS k
  keyed : ∀ k c, uc.candles.lookup k = some c → c.key = k.trimmed
  inRange : ∀ k c, uc.candles.lookup k = some c → c.InRange
  tracked : ∀ k c, uc.candles.lookup k = some c → ¬ pending k →
    uc.watermark k = some c.windowStartTs
  covered : ∀ nk w, uc.windows.states.lookup nk = some w →
    ∃ k, KS k ∧ normalizedKey k = nk ∧ (pending k ∨ ∃ c, uc.candles.lookup k = some c)

variable {KS pending pending' : CandleKey → Prop}

/-- A key is no longer pending when its entry and its watermark agree. -/
theorem Agrees.resolve (h : Agrees KS pending uc)
    (hpending : ∀ k, pending k → pending' k ∨ uc.watermark k = uc.openStart k) :
    Agrees KS pending' uc := by
  refine ⟨h.consistent, h.known, h.keyed, h.inRange, ?_, ?_⟩
  · intro k c hlookup hk
    by_cases hp : pending k
    · rw [(hpending k hp).resolve_left hk, openStart, hlookup]
      rfl
    · exact h.tracked k c hlookup hp
  · intro nk w hw
    obtain ⟨k, hKS, rfl, hk⟩ := h.covered nk w hw
    refine ⟨k, hKS, rfl, ?_⟩
    rcases hk with hk | hk
    · refine (hpending k hk).imp_right fun hagree => ?_
      have hopen : uc.openStart k = some w := by
        rw [← hagree]
        exact hw
      obtain ⟨c, hc, -⟩ := Option.map_eq_some_iff.mp hopen
      exact ⟨c, hc⟩
    · exact .inr hk

theorem Agrees.stored
    (h : Agrees KS pending uc) (hKS : KS key) (hkeyed : c.key = key.trimmed) (hrange : c.InRange)
    (hstart : pending key ∨ uc.openStart key = some c.windowStartTs) :
    Agrees KS pending (uc.stored key c) := by
  refine ⟨h.consistent, ?_, ?_, ?_, ?_, ?_⟩
  · exact forall_stored hKS h.known
  · exact forall_stored hkeyed h.keyed
  · exact forall_stored hrange h.inRange
  · refine forall_stored (fun hp => ?_) h.tracked
    obtain ⟨e, he, hes⟩ := Option.map_eq_some_iff.mp (hstart.resolve_left hp)
    rw [← hes]
    exact h.tracked key e he hp
  · intro nk w hw
    obtain ⟨k, hk, hnk, hcover⟩ := h.covered nk w hw
    refine ⟨k, hk, hnk, hcover.imp_right ?_⟩
    rintro ⟨d, hd⟩
    rw [lookup_stored]
    split_ifs
    · exact ⟨c, rfl⟩
    · exact ⟨d, hd⟩

theorem Agrees.finalized (h : Agrees KS pending uc) (hpending : pending key) :
    Agrees KS pending (uc.finalized key c) := by
  refine ⟨h.consistent, fun k d hd => h.known k d (lookup_of_finalized hd).2,
    fun k d hd => h.keyed k d (lookup_of_finalized hd).2,
    fun k d hd => h.inRange k d (lookup_of_finalized hd).2,
    fun k d hd => h.tracked k d (lookup_of_finalized hd).2, ?_⟩
  intro nk w hw
  obtain ⟨k, hk, hnk, hcover⟩ := h.covered nk w hw
  refine ⟨k, hk, hnk, ?_⟩
  rcases hcover with hp | ⟨d, hd⟩
  · exact .inl hp
  · by_cases hkey : k = key
    · exact .inl (hkey ▸ hpending)
    · refine .inr ⟨d, ?_⟩
      rw [lookup_finalized, if_neg hkey]
      exact hd

/-- Distinct keys that may occur are distinct for the manager. -/
def Separated (KS : CandleKey → Prop) : Prop :=
  ∀ k k', KS k → KS k' → normalizedKey k = normalizedKey k' → k = k'

/-- The only key that the manager may know as `fk` is `fk` itself. -/
def Coincides (KS : CandleKey → Prop) (fk : WindowKey) : Prop :=
  ∀ k, KS k → normalizedKey k = fk → k = fk

/-- After an accepted event its key is pending, and so is the key of a dropped window. -/
theorem Agrees.observed (hKS : Separated KS) (h : Agrees KS (fun _ => False) uc) (hkey : KS key)
    (hlate : ¬ uc.windows.Late (normalizedKey key) windowStart)
    (hforced : ∀ f, forcedBy uc key windowStart = some f → Coincides KS f.key) :
    Agrees KS (fun k => k = key ∨ ∃ f, forcedBy uc key windowStart = some f ∧ f.key = k)
      (uc.observed key windowStart) := by
  have haccepts := (assign_accepts hlate).2.2
  refine ⟨h.consistent.assign.1, h.known, h.keyed, h.inRange, ?_, ?_⟩
  · intro k c hlookup hk
    rw [not_or] at hk
    obtain ⟨hne, hnf⟩ := hk
    have hk := h.known k c hlookup
    have hmap : (forcedBy uc key windowStart).map ForcedWindowClose.key ≠
        some (normalizedKey k) := by
      intro hf
      obtain ⟨f, hf, hfk⟩ := Option.map_eq_some_iff.mp hf
      exact hnf ⟨f, hf, (hforced f hf k hk hfk.symm).symm⟩
    have hlook := haccepts.lookup (normalizedKey k)
    rw [if_neg fun hnk => hne (hKS k key hk hkey hnk), if_neg hmap] at hlook
    exact hlook.trans (h.tracked k c hlookup (fun hfalse => hfalse))
  · intro nk w hw
    have hlook := haccepts.lookup nk
    by_cases hnk : nk = normalizedKey key
    · exact ⟨key, hkey, hnk.symm, .inl (.inl rfl)⟩
    · rw [if_neg hnk] at hlook
      split_ifs at hlook with hf
      · rw [show (uc.observed key windowStart).windows.states.lookup nk = none from hlook] at hw
        cases hw
      · obtain ⟨k, hk, hk', hcover⟩ := h.covered nk w (hlook.symm.trans hw)
        exact ⟨k, hk, hk', hcover.imp_left False.elim⟩

/-- A dropped window has an entry of its own, different from that of the event. -/
theorem Agrees.forced
    (h : Agrees KS (fun _ => False) uc) (hlate : ¬ uc.windows.Late (normalizedKey key) windowStart)
    {f : ForcedWindowClose} (hf : forcedBy uc key windowStart = some f)
    (hcoincides : Coincides KS f.key) :
    f.key ≠ key ∧ uc.openStart f.key = some f.windowStart ∧
      (uc.observed key windowStart).watermark f.key = none := by
  have haccepts := (assign_accepts hlate).2.2
  have htracked := h.consistent.assign.2 f hf
  obtain ⟨k, hk, hnk, hcover⟩ := h.covered _ _ htracked
  obtain ⟨c, hc⟩ := hcover.resolve_left fun hfalse => hfalse
  obtain rfl := hcoincides k hk hnk
  have hwatermark := h.tracked _ c hc (fun hfalse => hfalse)
  rw [watermark, hnk, htracked] at hwatermark
  have hnew : uc.windows.states.lookup (normalizedKey key) = none :=
    (haccepts.forced_new (by rw [← forcedBy, hf]; simp)).1
  have hne : f.key ≠ normalizedKey key := by
    intro heq
    rw [← heq, htracked] at hnew
    cases hnew
  refine ⟨?_, ?_, ?_⟩
  · intro heq
    rw [heq] at hnk hne
    exact hne hnk.symm
  · rw [openStart, hc, Option.map_some, Option.some.inj hwatermark]
  · have hlook := haccepts.lookup f.key
    rw [if_neg hne, if_pos (by rw [← forcedBy, hf]; rfl)] at hlook
    rw [watermark, hnk]
    exact hlook

/-! ## One timeframe -/

/-- Between requests and timeframes: the indexes agree and every open candle can be closed. -/
structure Ready (KS : CandleKey → Prop) (n : Nat) (uc : BuildCandleFromEvents) : Prop where
  agrees : Agrees KS (fun _ => False) uc
  closes : ∀ k c, uc.candles.lookup k = some c → Closes uc k c
  logged : n ≤ uc.forceClosed.length

/-- Every window dropped since the first `n` is stored under the key of the manager. -/
def Kept (KS : CandleKey → Prop) (n : Nat) (uc : BuildCandleFromEvents) : Prop :=
  ∀ fk ∈ uc.forceClosed.drop n, Coincides KS fk

/-- After the observation of an event: only the entry of its key may be out of date. -/
structure Observed (KS : CandleKey → Prop) (n : Nat) (key : CandleKey)
    (windowStart windowDurationMs : Int) (uc : BuildCandleFromEvents) : Prop where
  agrees : Agrees KS (fun k => k = key) uc
  closes : ∀ k c, uc.candles.lookup k = some c → Closes uc k c
  logged : n ≤ uc.forceClosed.length
  watermark : uc.watermark key = some windowStart
  open_le : ∀ c, uc.candles.lookup key = some c → c.windowStartTs ≤ windowStart
  duration : uc.windowMs.getD key.timeframe 0 = windowDurationMs
  creates : ∃ c, CandleV1.create key.venue key.instrument key.timeframe windowStart = .ok c

/-- A method that builds candles up. -/
structure Builds (x : Prog Problem CandleV1 PUnit) : Prop where
  window : KeepsWindow x
  range : Preserves InRange x
  settles : Settles x

theorem builds_applyTrade (price qty : Float) (isBuy : Bool) (seq : Int) :
    Builds (applyTrade price qty isBuy seq) :=
  ⟨keepsWindow_applyTrade _ _ _ _, preserves_inRange_applyTrade _ _ _ _,
    settles_applyTrade _ _ _ _⟩

theorem builds_applyClosedCandle (hc : c.InRange) : Builds (applyClosedCandle c) :=
  ⟨keepsWindow_applyClosedCandle c, preserves_inRange_applyClosedCandle c,
    settles_applyClosedCandle hc⟩

variable {n : Nat} {windowDurationMs eventTsMs : Int}

theorem kept_of_continues
    {uc' : BuildCandleFromEvents} (hcontinues : Continues uc uc') (hkept : Kept KS n uc') :
    Kept KS n uc := by
  intro fk hfk
  obtain ⟨more, hmore⟩ := hcontinues.forceClosed
  refine hkept fk ?_
  rw [← hmore, List.drop_append]
  exact List.mem_append_left _ hfk

theorem preserves_not_kept {α : Type} {x : Prog Problem BuildCandleFromEvents α}
    (hx : ∀ uc₀, Preserves (Continues uc₀) x) : Preserves (fun uc => ¬ Kept KS n uc) x :=
  preserves_not_of_continues (fun _ _ => kept_of_continues) hx

/-- The state after the observation of an accepted event of the key. -/
abbrev afterEvent (uc : BuildCandleFromEvents) (key : CandleKey) (eventTsMs : Int) :
    BuildCandleFromEvents :=
  uc.observed key (bucket eventTsMs (uc.windowMs.getD key.timeframe 0))

section Accepted

variable
  (hKS : Separated KS)
  (h : Ready KS n uc)
  (hkey : KS key)
  (htimeframe : key.timeframe ∈ allowedCandleTimeframes)
  (hobs : Observable key eventTsMs (uc.windowMs.getD key.timeframe 0))
  (hlate : ¬ uc.windows.Late (normalizedKey key)
    (bucket eventTsMs (uc.windowMs.getD key.timeframe 0)))

include h hlate in
theorem Ready.open_le (hlookup : uc.candles.lookup key = some c) :
    c.windowStartTs ≤ bucket eventTsMs (uc.windowMs.getD key.timeframe 0) :=
  (assign_accepts hlate).2.2.le _ (h.agrees.tracked key c hlookup fun hfalse => hfalse)

include hKS h hkey htimeframe hobs hlate in
theorem Ready.observed_of_none
    (hforced : forcedBy uc key (bucket eventTsMs (uc.windowMs.getD key.timeframe 0)) = none) :
    Observed KS n key (bucket eventTsMs (uc.windowMs.getD key.timeframe 0))
      (uc.windowMs.getD key.timeframe 0) (afterEvent uc key eventTsMs) := by
  refine ⟨?_, h.closes, ?_, watermark_observed hlate, fun c hc => h.open_le hlate hc, rfl,
    creates_of_observable hobs htimeframe⟩
  · refine (h.agrees.observed hKS hkey hlate ?_).resolve ?_
    · simp [hforced]
    · simp [hforced]
  · rw [forceClosed_observed_of_none hforced]
    exact h.logged

include hKS h hkey htimeframe hobs hlate in
/-- The dropped window is stored under the key of the manager, so it is closed. -/
theorem Ready.observed_of_some {f : ForcedWindowClose}
    (hforced : forcedBy uc key (bucket eventTsMs (uc.windowMs.getD key.timeframe 0)) = some f)
    (hcoincides : Coincides KS f.key) :
    ∃ d, forceCloseWindow .succeeding f (afterEvent uc key eventTsMs) =
        ((afterEvent uc key eventTsMs).finalized f.key d, .ok (some d)) ∧
      Observed KS n key (bucket eventTsMs (uc.windowMs.getD key.timeframe 0))
        (uc.windowMs.getD key.timeframe 0)
        ((afterEvent uc key eventTsMs).finalized f.key d) := by
  obtain ⟨hne, hopen, hnone⟩ := h.agrees.forced hlate hforced hcoincides
  obtain ⟨e, he, hes⟩ := Option.map_eq_some_iff.mp hopen
  have he' : (afterEvent uc key eventTsMs).candles.lookup f.key = some e := he
  obtain ⟨d, -, hrun⟩ := (forceCloses_iff he' hes (h.closes _ _ he)).mpr rfl
  refine ⟨d, hrun, ?_, fun k c hc => h.closes k c (lookup_of_finalized hc).2, ?_,
    watermark_observed hlate, fun c hc => h.open_le hlate (lookup_of_finalized hc).2, rfl,
    creates_of_observable hobs htimeframe⟩
  · have hagrees := h.agrees.observed hKS hkey hlate (by
      intro f' hf'
      rw [hforced] at hf'
      cases hf'
      exact hcoincides)
    refine Agrees.resolve (hagrees.finalized (.inr ⟨f, hforced, rfl⟩)) ?_
    rintro k (hk | ⟨f', hf', hk⟩)
    · exact .inl hk
    · right
      rw [hforced] at hf'
      cases hf'
      subst hk
      rw [openStart, lookup_finalized, if_pos rfl]
      exact hnone
  · change n ≤ (afterEvent uc key eventTsMs).forceClosed.length
    rw [forceClosed_observed_of_some hforced, List.length_append]
    exact Nat.le_trans h.logged (Nat.le_add_right _ _)

end Accepted

theorem Ready.post_observeWindow (hKS : Separated KS) (h : Ready KS n uc) (hkey : KS key)
    (htimeframe : key.timeframe ∈ allowedCandleTimeframes) :
    Post
      (fun r uc' => Kept KS n uc' →
        (r.1.isLate = true ∧ Ready KS n uc') ∨
        (r.1.isLate = false ∧ Observable key eventTsMs (uc.windowMs.getD key.timeframe 0) ∧
          r.1.windowStart = bucket eventTsMs (uc.windowMs.getD key.timeframe 0) ∧
          Observed KS n key (bucket eventTsMs (uc.windowMs.getD key.timeframe 0))
            (uc.windowMs.getD key.timeframe 0) uc'))
      (fun _ uc' => Kept KS n uc' → Agrees KS (fun _ => False) uc')
      (observeWindow .succeeding key eventTsMs (uc.windowMs.getD key.timeframe 0) uc) := by
  refine BuildCandleFromEvents.post_observeWindow (fun _ _ _ => h.agrees) ?_ ?_ ?_
  · intro _ _ d hd _
    exact .inl ⟨hd, h⟩
  · intro hobs hlate hforced d hd hstart _
    exact .inr ⟨hd, hobs, hstart, h.observed_of_none hKS hkey htimeframe hobs hlate hforced⟩
  · intro hobs hlate f hforced d hd hstart
    by_cases hkept : Kept KS n (afterEvent uc key eventTsMs)
    · have hcoincides : Coincides KS f.key := by
        refine hkept f.key ?_
        rw [forceClosed_observed_of_some hforced, List.drop_append_of_le_length h.logged]
        exact List.mem_append_right _ (List.mem_singleton.mpr rfl)
      obtain ⟨d', hrun, hobserved⟩ :=
        h.observed_of_some hKS hkey htimeframe hobs hlate hforced hcoincides
      rw [hrun]
      exact .ok fun _ => .inr ⟨hd, hobs, hstart, hobserved⟩
    · -- The guard is lost, and the forced close does not bring it back.
      exact ((preserves_not_kept fun uc₀ => (walk_continues uc₀).forceCloseWindow
        .succeeding f).post _ hkept).imp (fun _ _ h h' => absurd h' h) fun _ _ h h' => absurd h' h

/-- The current candle of an observed event, before it is updated. -/
structure Current (KS : CandleKey → Prop) (n : Nat) (key : CandleKey)
    (windowStart windowDurationMs : Int) (c : CandleV1) (uc : BuildCandleFromEvents) : Prop where
  agrees : Agrees KS (fun _ => False) uc
  closes : ∀ k d, uc.candles.lookup k = some d → k ≠ key → Closes uc k d
  logged : n ≤ uc.forceClosed.length
  duration : uc.windowMs.getD key.timeframe 0 = windowDurationMs
  lookup : uc.candles.lookup key = some c
  start : c.windowStartTs = windowStart
  tradeCount : 0 ≤ c.tradeCount

/-- The candles that the roll of a window closes. -/
structure RolledFrom (key : CandleKey) (windowStart : Int) (c : CandleV1) : Prop where
  key : c.key = key.trimmed
  inRange : c.InRange
  le : c.windowStartTs ≤ windowStart

theorem Observed.post_closeIfWindowChanged (h : Observed KS n key windowStart windowDurationMs uc) :
    Post
      (fun rolled uc' => Observed KS n key windowStart windowDurationMs uc' ∧
        (∀ c, uc'.candles.lookup key = some c → c.windowStartTs = windowStart) ∧
        ∀ c, rolled = some c → RolledFrom key windowStart c)
      (fun _ _ => False)
      (closeIfWindowChanged .succeeding key windowStart windowDurationMs uc) := by
  refine BuildCandleFromEvents.post_closeIfWindowChanged (fun hsame => ⟨h, hsame, by simp⟩) ?_
  intro c hlookup _
  obtain ⟨-, c', hclose⟩ := h.closes key c hlookup
  rw [h.duration] at hclose
  obtain ⟨hkey, hstart⟩ := keepsWindow_close _ c
  have hrange := (preserves_inRange_close
    (wrap64 (c.windowStartTs + windowDurationMs))).apply (h.agrees.inRange key c hlookup)
  rw [hclose] at hkey hstart hrange ⊢
  refine .ok ⟨⟨h.agrees.finalized rfl, fun k d hd => h.closes k d (lookup_of_finalized hd).2,
    h.logged, h.watermark, fun d hd => absurd rfl (lookup_of_finalized hd).1, h.duration,
    h.creates⟩, fun d hd => absurd rfl (lookup_of_finalized hd).1, ?_⟩
  rintro _ ⟨⟩
  refine ⟨hkey.trans (h.agrees.keyed key c hlookup), hrange, ?_⟩
  rw [hstart]
  exact h.open_le c hlookup

theorem Observed.post_getOrCreateCandle
    (h : Observed KS n key windowStart windowDurationMs uc) (hkey : KS key)
    (hsame : ∀ c, uc.candles.lookup key = some c → c.windowStartTs = windowStart) :
    Post (Current KS n key windowStart windowDurationMs) (fun _ _ => False)
      (getOrCreateCandle key windowStart uc) := by
  refine BuildCandleFromEvents.post_getOrCreateCandle ?_ ?_ ?_ ?_
  · intro c hlookup hstart
    obtain ⟨-, d, hd⟩ := h.closes key c hlookup
    refine ⟨h.agrees.resolve ?_, fun k d hd _ => h.closes k d hd, h.logged, h.duration, hlookup,
      hstart, Int.le_of_lt (close_eq_ok_iff_validate.mp hd).2.1⟩
    rintro k rfl
    right
    rw [h.watermark, openStart, hlookup, Option.map_some, hstart]
  · intro c _ hlookup hne
    exact hne (hsame c hlookup)
  · intro c hlookup hcreate
    obtain ⟨hckey, hstart⟩ := create_eq_ok hcreate
    obtain ⟨-, hfresh⟩ := create_fresh hcreate
    have hlook : (uc.stored key c).candles.lookup key = some c := by
      rw [lookup_stored, if_pos rfl]
    refine ⟨(h.agrees.stored hkey hckey hfresh.inRange (.inl rfl)).resolve ?_, ?_, h.logged,
      h.duration, hlook, hstart, Int.le_of_eq hfresh.tradeCount.symm⟩
    · rintro k rfl
      right
      rw [openStart, hlook, Option.map_some, hstart]
      exact h.watermark
    · intro k d hd hk
      rw [lookup_stored, if_neg hk] at hd
      exact h.closes k d hd
  · intro p _ hcreate
    obtain ⟨c, hc⟩ := h.creates
    rw [hcreate] at hc
    cases hc

/-- A successful update leaves a candle that can be closed at the end of its window. -/
theorem Current.ready
    {u : PUnit} (h : Current KS n key windowStart windowDurationMs c uc) (hbuilds : Builds update)
    (hpos : 0 < windowDurationMs) (hstart : 0 ≤ windowStart)
    (hend : windowStart + windowDurationMs < 2 ^ 63) (hrun : update c = (c', .ok u)) :
    Ready KS n (uc.stored key c') := by
  have hrange := h.agrees.inRange key c h.lookup
  obtain ⟨hckey, hcstart⟩ := hbuilds.window c
  have hrange' := hbuilds.range.apply hrange
  rw [hrun] at hckey hcstart hrange'
  have hcloses : Closes (uc.stored key c') key c' := by
    have hc' : c'.windowStartTs = windowStart := hcstart.trans h.start
    change 0 < uc.windowMs.getD key.timeframe 0 ∧
      c'.Closable (wrap64 (c'.windowStartTs + uc.windowMs.getD key.timeframe 0))
    rw [h.duration, hc']
    refine ⟨hpos, hbuilds.settles c c' u hrange h.tradeCount hrun _ ?_⟩
    rw [wrap64_eq_self ⟨by omega, hend⟩, hc']
    omega
  refine ⟨h.agrees.stored (h.agrees.known key c h.lookup)
    (hckey.trans (h.agrees.keyed key c h.lookup)) hrange' (.inr ?_), ?_, h.logged⟩
  · rw [openStart, h.lookup, Option.map_some, hcstart]
  · intro k d hd
    rw [lookup_stored] at hd
    split_ifs at hd with hk
    · cases hd
      rw [hk]
      exact hcloses
    · exact h.closes k d hd hk

/-- A failed update leaves the window of the candle as it was. -/
theorem Current.agrees_of_error
    {p : Problem} (h : Current KS n key windowStart windowDurationMs c uc) (hbuilds : Builds update)
    (hrun : update c = (c', .error p)) : Agrees KS (fun _ => False) (uc.stored key c') := by
  obtain ⟨hckey, hcstart⟩ := hbuilds.window c
  have hrange := hbuilds.range.apply (h.agrees.inRange key c h.lookup)
  rw [hrun] at hckey hcstart hrange
  refine h.agrees.stored (h.agrees.known key c h.lookup)
    (hckey.trans (h.agrees.keyed key c h.lookup)) hrange (.inr ?_)
  rw [openStart, h.lookup, Option.map_some, hcstart]

theorem Observed.post_updateWindow {d : WindowDecision} {forced : Option CandleV1}
    (h : Observed KS n key windowStart windowDurationMs uc) (hkey : KS key)
    (hbuilds : Builds update) (hpos : 0 < windowDurationMs) (hstart : 0 ≤ windowStart)
    (hend : windowStart + windowDurationMs < 2 ^ 63) (hd : d.isLate = false)
    (hdstart : d.windowStart = windowStart) :
    Post
      (fun roll uc' => Ready KS n uc' ∧ ∀ c, roll.rolled = some c → RolledFrom key windowStart c)
      (fun _ => Agrees KS (fun _ => False))
      (updateWindow .succeeding key windowDurationMs update d forced uc) := by
  subst hdstart
  unfold updateWindow
  rw [if_neg (by simp [hd])]
  refine Post.bind (h.post_closeIfWindowChanged.imp (fun _ _ h => h)
    fun _ _ hfalse => hfalse.elim) ?_
  rintro rolled uc₁ ⟨h₁, hsame, hrolled⟩
  refine Post.bind ((h₁.post_getOrCreateCandle hkey hsame).imp (fun _ _ h => h)
    fun _ _ hfalse => hfalse.elim) ?_
  intro c uc₂ h₂
  refine post_updateCandle ?_
  rcases hrun : update c with ⟨c', p | u⟩
  · exact .error (h₂.agrees_of_error hbuilds hrun)
  · exact .ok ⟨h₂.ready hbuilds hpos hstart hend hrun, hrolled⟩

theorem Ready.post_rollWindow (hKS : Separated KS) (h : Ready KS n uc) (hkey : KS key)
    (htimeframe : key.timeframe ∈ allowedCandleTimeframes) (hbuilds : Builds update)
    (hend : eventTsMs + uc.windowMs.getD key.timeframe 0 < 2 ^ 63) :
    Post
      (fun roll uc' => Kept KS n uc' →
        Ready KS n uc' ∧ ∀ c, roll.rolled = some c → RolledFrom key eventTsMs c)
      (fun _ uc' => Kept KS n uc' → Agrees KS (fun _ => False) uc')
      (rollWindow .succeeding key eventTsMs update uc) := by
  unfold rollWindow
  rw [get_bind_apply]
  refine Post.bind_guarded (fun r => preserves_not_kept fun uc₀ =>
    (walk_continues uc₀).updateWindow .succeeding key _ trivial r.1 r.2)
    (h.post_observeWindow hKS hkey htimeframe) ?_
  rintro ⟨d, forced⟩ uc₁ - (⟨hd, h₁⟩ | ⟨hd, hobs, hstart, h₁⟩)
  · dsimp only at hd ⊢
    unfold updateWindow
    rw [if_pos hd]
    exact .ok fun _ => ⟨h₁, by simp⟩
  · have hle := bucket_le hobs.eventTs hobs.duration
    have hnonneg := bucket_nonneg hobs.eventTs hobs.duration
    refine (h₁.post_updateWindow hkey hbuilds hobs.duration hnonneg (by omega) hd hstart).imp ?_
      fun _ _ h _ => h
    rintro roll uc₂ ⟨h₂, hrolled⟩ _
    exact ⟨h₂, fun c hc => ⟨(hrolled c hc).key, (hrolled c hc).inRange,
      Int.le_trans (hrolled c hc).le hle⟩⟩

end BuildCandleFromEvents

end Aggregation
end StreamAnalytics
