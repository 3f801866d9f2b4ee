import StreamAnalytics.Lib.Buckets
import StreamAnalytics.Lib.Runs
import StreamAnalytics.Shared.Problem

/-!
# Session profiles

Model of `ResolveSessionBounds` (`internal/core/insights/domain/session.go`) and of one key of
`BuildSessionVolumeProfile` and `BuildTPOProfile` (`internal/core/insights/app`).  The two differ in
what they make of the candles of a session, which is left open here: a profile is the list of
its candles, and `buildSnapshot` says whether a snapshot of them is refused.
-/

namespace StreamAnalytics
namespace Insights

open GoStrings Runs

/-- `SessionAnchorKind`, without exchange anchors. -/
inductive SessionAnchorKind
  | utc
  | custom

structure SessionAnchor where
  kind : SessionAnchorKind
  label : String
  openHour : Int := 0
  openMinute : Int := 0
  durationMs : Int

def SessionAnchor.validate (a : SessionAnchor) : Option Problem :=
  if trimSpace a.label = "" then
    some (.new .validationFailed "session anchor label must not be empty")
  else if a.durationMs ≤ 0 then
    some (.new .validationFailed (match a.kind with
      | .utc => "utc session anchor requires positive duration_ms"
      | .custom => "custom session anchor requires positive duration_ms"))
  else none

/-- The milliseconds of a day. -/
def dayMs : Int := 86400000

/-- `resolveTimezoneSession` in UTC, where `time.Date` carries an hour beyond the day over. -/
def resolveTimezoneSession (a : SessionAnchor) (refTimeMs : Int) : Int × Int :=
  let todayOpenMs := refTimeMs / dayMs * dayMs + (a.openHour * 60 + a.openMinute) * 60000
  let todayEndMs := todayOpenMs + a.durationMs
  if todayOpenMs ≤ refTimeMs ∧ refTimeMs < todayEndMs then (todayOpenMs, todayEndMs)
  else if refTimeMs < todayOpenMs then
    let yMs := todayOpenMs - dayMs
    (yMs, yMs + a.durationMs)
  else (todayOpenMs, todayEndMs)

/-- The bounds of the session of a time, for a valid anchor. -/
def sessionBounds (a : SessionAnchor) (refTimeMs : Int) : Int × Int :=
  match a.kind with
  | .custom =>
    let startMs := bucket refTimeMs a.durationMs
    (startMs, startMs + a.durationMs)
  | .utc => resolveTimezoneSession a refTimeMs

def resolveSessionBounds (a : SessionAnchor) (refTimeMs : Int) : Except Problem (Int × Int) :=
  if refTimeMs ≤ 0 then .error (.new .validationFailed "refTimeMs must be positive")
  else
    match a.validate with
    | some p => .error p
    | none => .ok (sessionBounds a refTimeMs)

/-- A request, of which only the time matters here. -/
structure CandleRequest (κ : Type) where
  tsIngest : Int
  candle : κ

/-- `svpPartitionState` and `tpoPartitionState`, with the candles they have counted. -/
structure SessionProfile (κ : Type) where
  windowStart : Int
  windowEnd : Int
  eventCount : Nat := 0
  candles : List (CandleRequest κ) := []

/-- The state of a key, and the profiles emitted so far. -/
structure SessionBuilder (κ : Type) where
  state : Option (SessionProfile κ) := none
  emitted : List (SessionProfile κ) := []

/-- What the profiles of a key depend on: `EmitCadence`, the anchor, and what a snapshot shows. -/
structure ProfileConfig (κ : Type) where
  emitCadence : Int
  anchor : SessionAnchor
  buildSnapshot : List (CandleRequest κ) → Option Problem

namespace ProfileConfig

variable {κ : Type} (cfg : ProfileConfig κ)

/-- `EmitCadence` after the default. -/
def cadence : Nat := if cfg.emitCadence ≤ 0 then 5 else cfg.emitCadence.toNat

/-- A snapshot of the profile is due, and not refused. -/
def Due (ps : SessionProfile κ) : Prop :=
  ps.eventCount % cfg.cadence = 0 ∧ (cfg.buildSnapshot ps.candles).isNone

instance (ps : SessionProfile κ) : Decidable (cfg.Due ps) := inferInstanceAs (Decidable (_ ∧ _))

/-- `Execute`, after the validation of the request. -/
def execute (uc : SessionBuilder κ) (req : CandleRequest κ) : SessionBuilder κ :=
  match resolveSessionBounds cfg.anchor req.tsIngest with
  | .error _ => uc
  | .ok (sessionStart, sessionEnd) =>
    let ps := (uc.state.filter (·.windowStart = sessionStart)).getD
      { windowStart := sessionStart, windowEnd := sessionEnd }
    let ps := { ps with eventCount := ps.eventCount + 1, candles := ps.candles ++ [req] }
    { state := some ps
      emitted := if cfg.Due ps then uc.emitted ++ [ps] else uc.emitted }

/-- The state after some candles. -/
def after (candles : List (CandleRequest κ)) : SessionBuilder κ := run cfg.execute {} candles

/-- The start of the session of a candle. -/
def sessionStart (c : CandleRequest κ) : Int := (sessionBounds cfg.anchor c.tsIngest).1

/-- What is known of a key after some candles. -/
structure Tracks (past : List (CandleRequest κ)) (uc : SessionBuilder κ) : Prop where
  logged : ∀ e ∈ uc.emitted, ∀ c ∈ e.candles, c ∈ past
  filled : ∀ ps ∈ uc.state, ps.candles ≠ []
  counted : ∀ ps ∈ uc.state, ps.windowEnd = ps.windowStart + cfg.anchor.durationMs ∧
    ∀ c ∈ ps.candles, c ∈ past ∧ cfg.sessionStart c = ps.windowStart

/-- A valid anchor, and candles with positive, increasing times. -/
structure Valid (candles : List (CandleRequest κ)) : Prop where
  anchor : cfg.anchor.validate = none
  positive : ∀ c ∈ candles, 0 < c.tsIngest
  sorted : candles.Pairwise (·.tsIngest < ·.tsIngest)

variable {cfg} {past candles : List (CandleRequest κ)} {uc : SessionBuilder κ}
  {c c' req : CandleRequest κ} {ps : SessionProfile κ}

theorem sessionBounds_snd (a : SessionAnchor) (t : Int) :
    (sessionBounds a t).2 = (sessionBounds a t).1 + a.durationMs := by
  unfold sessionBounds resolveTimezoneSession
  cases a.kind with
  | custom => rfl
  | utc =>
    dsimp only
    split_ifs <;> rfl

/-- Later candles have later sessions. -/
theorem sessionStart_mono (hvalid : cfg.anchor.validate = none) (hc : 0 < c.tsIngest)
    (h : c.tsIngest < c'.tsIngest) : cfg.sessionStart c ≤ cfg.sessionStart c' := by
  unfold SessionAnchor.validate at hvalid
  unfold sessionStart sessionBounds resolveTimezoneSession dayMs
  cases cfg.anchor.kind with
  | custom =>
    refine bucket_mono (Int.le_of_lt hc) (Int.le_of_lt h) ?_
    split_ifs at hvalid
    omega
  | utc =>
    dsimp only
    split_ifs <;> dsimp only <;> omega

/-- A candle is counted in the profile of its session, which is emitted if it is due. -/
theorem Tracks.execute (h : cfg.Tracks past uc) (hvalid : cfg.anchor.validate = none)
    (hreq : 0 < req.tsIngest) :
    cfg.Tracks (past ++ [req]) (cfg.execute uc req) ∧
      ∃ ps, (cfg.execute uc req).state = some ps ∧ req ∈ ps.candles ∧
        (cfg.execute uc req).emitted = if cfg.Due ps then uc.emitted ++ [ps] else uc.emitted := by
  have hbounds : resolveSessionBounds cfg.anchor req.tsIngest =
      .ok (cfg.sessionStart req, cfg.sessionStart req + cfg.anchor.durationMs) := by
    rw [resolveSessionBounds, if_neg (Int.not_le.mpr hreq), hvalid, sessionStart,
      ← sessionBounds_snd]
  unfold ProfileConfig.execute
  rw [hbounds]
  dsimp only
  generalize hps : (uc.state.filter (·.windowStart = cfg.sessionStart req)).getD _ = ps
  have hbase : ps.windowStart = cfg.sessionStart req ∧
      ps.windowEnd = ps.windowStart + cfg.anchor.durationMs ∧
      ∀ c ∈ ps.candles, c ∈ past ∧ cfg.sessionStart c = ps.windowStart := by
    subst hps
    cases hstate : uc.state.filter (·.windowStart = cfg.sessionStart req) with
    | none => exact ⟨rfl, rfl, nofun⟩
    | some ps =>
      obtain ⟨hps, hstart⟩ := Option.filter_eq_some_iff.mp hstate
      exact ⟨of_decide_eq_true hstart, h.counted ps hps⟩
  obtain ⟨hstart, hend, hcandles⟩ := hbase
  have hreq : req ∈ ps.candles ++ [req] := List.mem_append_right _ (List.mem_singleton_self req)
  have hcounted : ∀ c ∈ ps.candles ++ [req],
      c ∈ past ++ [req] ∧ cfg.sessionStart c = ps.windowStart := by
    intro c hc
    obtain hc | hc := List.mem_append.mp hc
    · exact ⟨List.mem_append_left _ (hcandles c hc).1, (hcandles c hc).2⟩
    · exact ⟨List.mem_append_right _ hc, List.mem_singleton.mp hc ▸ hstart.symm⟩
  refine ⟨⟨fun e he c hc => ?_, ?_, ?_⟩, _, rfl, hreq, rfl⟩
  · dsimp only at he
    split_ifs at he
    · obtain he | he := List.mem_append.mp he
      · exact List.mem_append_left _ (h.logged e he c hc)
      · rw [List.mem_singleton.mp he] at hc
        exact (hcounted c hc).1
    · exact List.mem_append_left _ (h.logged e he c hc)
  · rintro _ ⟨⟩
    exact List.ne_nil_of_mem hreq
  · rintro _ ⟨⟩
    exact ⟨hend, hcounted⟩

theorem Valid.mono (h : cfg.Valid candles) (hpast : past <+: candles) : cfg.Valid past :=
  ⟨h.anchor, fun c hc => h.positive c (hpast.subset hc), h.sorted.sublist hpast.sublist⟩

theorem Valid.lt (h : cfg.Valid (past ++ [c])) (hc' : c' ∈ past) : c'.tsIngest < c.tsIngest :=
  (List.pairwise_append.mp h.sorted).2.2 c' hc' c (List.mem_singleton_self c)

theorem Valid.tracks (h : cfg.Valid candles) : cfg.Tracks candles (cfg.after candles) := by
  induction candles using List.reverseRecOn with
  | nil => exact ⟨nofun, nofun, nofun⟩
  | append_singleton past c ih =>
    rw [after, run_append]
    exact ((ih (h.mono (List.prefix_append _ _))).execute h.anchor (h.positive c (by simp))).1

theorem Valid.after_concat (h : cfg.Valid (past ++ [c])) :
    ∃ ps, (cfg.after (past ++ [c])).state = some ps ∧ c ∈ ps.candles ∧
      (cfg.after (past ++ [c])).emitted =
        if cfg.Due ps then (cfg.after past).emitted ++ [ps] else (cfg.after past).emitted := by
  have htracks := (h.mono (List.prefix_append _ _)).tracks
  unfold after at htracks ⊢
  rw [run_append]
  exact (htracks.execute h.anchor (h.positive c (by simp))).2

/-- The candle lies in the window of the profile. -/
def InWindow (ps : SessionProfile κ) (c : CandleRequest κ) : Prop :=
  ps.windowStart ≤ c.tsIngest ∧ c.tsIngest < ps.windowEnd

/-- The preset `LONDON`, open from 8:00 to 16:30. -/
def londonAnchor : SessionAnchor := ⟨.utc, "LONDON", 8, 0, 30600000⟩

/-- Profiles of this preset that are never refused. -/
def london (emitCadence : Int) : ProfileConfig Unit := ⟨emitCadence, londonAnchor, fun _ => none⟩

/-- Candles at 10:00 and 17:00 of a day, and at 10:00 of the next. -/
def londonCandles : List (CandleRequest Unit) :=
  [36000000, 61200000, 122400000].map fun tsIngest => ⟨tsIngest, ()⟩

theorem london_valid (n : Int) : (london n).Valid londonCandles :=
  ⟨show londonAnchor.validate = none by decide +kernel, by simp [londonCandles],
    by simp [londonCandles]⟩

/-- Every candle of the profile is in an emitted profile of its session. -/
def Covered (uc : SessionBuilder κ) (ps : SessionProfile κ) : Prop :=
  ∀ c ∈ ps.candles, ∃ e ∈ uc.emitted, e.windowStart = ps.windowStart ∧ c ∈ e.candles

/-- If the candle is of another session than the profile, `P` holds. -/
def AtRollover (P : SessionBuilder κ → SessionProfile κ → Prop) (uc : SessionBuilder κ)
    (c : CandleRequest κ) : Prop :=
  ∀ ps ∈ uc.state, cfg.sessionStart c ≠ ps.windowStart → P uc ps

end ProfileConfig
end Insights
end StreamAnalytics
