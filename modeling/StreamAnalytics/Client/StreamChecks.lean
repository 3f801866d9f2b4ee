import StreamAnalytics.Delivery.SessionFrames

/-!
# The client's checks of a stream

Model of the checks in `web_apply_parsed_result` of `marketdata_web.odin`, with the
transitions of `md_common.odin`.  The client keeps the last number and the last snapshot
number of every subscribed subject in arrays that it indexes by the position of the
subject's identifier; here they are functions of the identifier.  Only frames whose
payload the client understands are applied; the model takes every frame of a stream to
be understood.

A frame without a positive `seq` is not checked at all, whatever else it carries.
-/

namespace StreamAnalytics
namespace Client

open Delivery Function

/-! ## Checks -/

/-- `subject_id64`; a rune is cut to its lowest byte. -/
def subjectID64 (subject : String) : UInt64 :=
  subject.toList.foldl (fun h c => Fnv.mix h (UInt8.ofNat c.toNat)) Fnv.offset

/-- `seq_gap_transition`: a gap, the next streak, and whether gaps recur. -/
def seqGapTransition (prevSeq nextSeq streak recurringThreshold : Int) : Bool × Int × Bool :=
  if prevSeq ≤ 0 ∨ nextSeq ≤ 0 then (false, 0, false)
  else if nextSeq = prevSeq + 1 then (false, 0, false)
  else if prevSeq + 1 < nextSeq ∨ nextSeq < prevSeq then
    if 0 < recurringThreshold ∧ recurringThreshold ≤ streak + 1 then (true, 0, true)
    else (true, streak + 1, false)
  else (false, 0, false)

/-- `validate_prev_seq`: a mismatch. -/
def validatePrevSeq (prevSeq lastDeliveredSeq : Int) : Bool :=
  if prevSeq ≤ 0 then false
  else if lastDeliveredSeq ≤ 0 then false
  else prevSeq ≠ lastDeliveredSeq

/-- `validate_snapshot_seq_monotonic`: a violation. -/
def validateSnapshotSeqMonotonic (snapshotSeq lastSnapshotSeq : Int) : Bool :=
  if snapshotSeq ≤ 0 ∨ lastSnapshotSeq ≤ 0 then false else snapshotSeq ≤ lastSnapshotSeq

/-- `validate_snapshot_integrity_consistency`: a violation. -/
def validateSnapshotIntegrityConsistency (seq snapshotSeq watermarkSeq : Int) : Bool :=
  if 0 < snapshotSeq ∧ snapshotSeq < watermarkSeq then true
  else decide (0 < seq ∧ 0 < snapshotSeq ∧ seq < snapshotSeq)

/-- `SEQ_GAP_TOLERANCE`. -/
def seqGapTolerance : Int := 10

/-! ## Applying a frame -/

/-- The part of `Parse_Result.meta` that the checks read. -/
structure StreamMeta where
  subjectID : UInt64
  seq : Int
  prevSeq : Int
  isSnapshot : Bool
  snapshotSeq : Int
  watermarkSeq : Int
deriving Repr, DecidableEq

/--
The subjects to which the client is subscribed, and the events whose payload is a whole
order book.
-/
structure ClientConfig where
  subscribed : UInt64 → Bool
  isBook : EventFrame → Bool

/-- The fields of `MD_Web_State` that the checks use; `gapDesyncs` counts the desyncs. -/
structure StreamState where
  lastSeqBySub : UInt64 → Int := fun _ => 0
  lastSnapshotSeqBySub : UInt64 → Int := fun _ => 0
  seqGapCount : Nat := 0
  seqGapStreak : Int := 0
  backendGapSeqGapRecurring : Nat := 0
  desync : Bool := false
  gapDesyncs : Nat := 0
  prevSeqViolations : Nat := 0
  snapshotSeqViolations : Nat := 0

namespace StreamState

/-- The check for gaps in the numbers of a subject. -/
def checkGap (st : StreamState) (m : StreamMeta) : StreamState :=
  let prevSeq := st.lastSeqBySub m.subjectID
  match seqGapTransition prevSeq m.seq st.seqGapStreak 3 with
  | (true, nextStreak, recurring) =>
    let st := { st with
      seqGapCount := st.seqGapCount + 1
      seqGapStreak := nextStreak
      backendGapSeqGapRecurring := st.backendGapSeqGapRecurring + if recurring then 1 else 0 }
    if seqGapTolerance < |m.seq - prevSeq| then
      { st with desync := true, gapDesyncs := st.gapDesyncs + 1 }
    else st
  | (false, nextStreak, _) => { st with seqGapStreak := nextStreak, desync := false }

/-- The check of `prev_seq` against the number seen before. -/
def checkPrevSeq (prevSeq : Int) (st : StreamState) (m : StreamMeta) : StreamState :=
  if 0 < m.prevSeq ∧ validatePrevSeq m.prevSeq prevSeq then
    { st with prevSeqViolations := st.prevSeqViolations + 1 }
  else st

/-- The checks of the numbers of a snapshot. -/
def checkSnapshot (st : StreamState) (m : StreamMeta) : StreamState :=
  if m.isSnapshot then
    let st :=
      if 0 < m.snapshotSeq then
        { st with
          snapshotSeqViolations := st.snapshotSeqViolations +
            if validateSnapshotSeqMonotonic m.snapshotSeq (st.lastSnapshotSeqBySub m.subjectID)
              then 1 else 0
          lastSnapshotSeqBySub :=
            update st.lastSnapshotSeqBySub m.subjectID m.snapshotSeq }
      else st
    if validateSnapshotIntegrityConsistency m.seq m.snapshotSeq m.watermarkSeq then
      { st with snapshotSeqViolations := st.snapshotSeqViolations + 1 }
    else st
  else st

/-- The checks of `web_apply_parsed_result`. -/
def applyParsedResult (cfg : ClientConfig) (st : StreamState) (m : StreamMeta) : StreamState :=
  if m.subjectID ≠ 0 ∧ 0 < m.seq ∧ cfg.subscribed m.subjectID then
    let prevSeq := st.lastSeqBySub m.subjectID
    let st := st.checkGap m
    let st := { st with lastSeqBySub := update st.lastSeqBySub m.subjectID m.seq }
    (st.checkPrevSeq prevSeq m).checkSnapshot m
  else st

/-- The checks have reported nothing. -/
def Quiet (st : StreamState) : Prop :=
  st.gapDesyncs = 0 ∧ st.prevSeqViolations = 0 ∧ st.snapshotSeqViolations = 0

instance (st : StreamState) : Decidable st.Quiet := by
  unfold Quiet
  infer_instance

end StreamState

/-- What the client reads off a frame of a stream. -/
def streamMeta (cfg : ClientConfig) : Frame → Option StreamMeta
  | .event f => some ⟨subjectID64 f.subject, f.seq, f.prevSeq, cfg.isBook f, 0, 0⟩
  | .snapshot f => some ⟨subjectID64 f.subject, f.seq, 0, true, f.snapshotSeq, f.watermarkSeq⟩
  | _ => none

/-- The client after one more frame. -/
def receive (cfg : ClientConfig) (st : StreamState) (f : Frame) : StreamState :=
  match streamMeta cfg f with
  | some m => st.applyParsedResult cfg m
  | none => st

/-- The client after frames that arrive in order. -/
def observe (cfg : ClientConfig) (frames : List Frame) : StreamState :=
  frames.foldl (receive cfg) {}

/-! ## What the checks say about a frame -/

section Frames

variable {cfg : ClientConfig} {st : StreamState} {m : StreamMeta}

theorem observe_concat (cfg : ClientConfig) (frames : List Frame) (f : Frame) :
    observe cfg (frames ++ [f]) = receive cfg (observe cfg frames) f := by
  simp [observe]

/-- The client checks the frames of a subject. -/
def ClientConfig.Tracks (cfg : ClientConfig) (id : UInt64) : Prop :=
  id ≠ 0 ∧ cfg.subscribed id = true

theorem applyParsedResult_of_nonpos (h : m.seq ≤ 0) : st.applyParsedResult cfg m = st := by
  unfold StreamState.applyParsedResult
  rw [if_neg]
  rintro ⟨-, hpos, -⟩
  omega

/-- A number close to the one before is no desync. -/
theorem reports_checkGap
    (h : st.lastSeqBySub m.subjectID ≤ 0 ∨
      |m.seq - st.lastSeqBySub m.subjectID| ≤ seqGapTolerance) :
    (st.checkGap m).gapDesyncs = st.gapDesyncs ∧
      (st.checkGap m).prevSeqViolations = st.prevSeqViolations ∧
      (st.checkGap m).snapshotSeqViolations = st.snapshotSeqViolations := by
  unfold StreamState.checkGap
  dsimp only
  rcases hgap : seqGapTransition (st.lastSeqBySub m.subjectID) m.seq st.seqGapStreak 3 with
    ⟨_ | _, nextStreak, recurring⟩
  · exact ⟨rfl, rfl, rfl⟩
  · dsimp only
    have hfar : ¬ seqGapTolerance < |m.seq - st.lastSeqBySub m.subjectID| := by
      obtain hnone | hnear := h
      · rw [seqGapTransition, if_pos (.inl hnone)] at hgap
        cases hgap
      · omega
    rw [if_neg hfar]
    exact ⟨rfl, rfl, rfl⟩

/-- An event that is close to the last number and names it is not reported. -/
theorem quiet_applyParsedResult (hst : st.Quiet)
    (hnear : cfg.Tracks m.subjectID → st.lastSeqBySub m.subjectID ≤ 0 ∨
      |m.seq - st.lastSeqBySub m.subjectID| ≤ seqGapTolerance)
    (hprev : cfg.Tracks m.subjectID → 0 < m.prevSeq → st.lastSeqBySub m.subjectID = m.prevSeq)
    (hsnapshot : m.snapshotSeq = 0) : (st.applyParsedResult cfg m).Quiet := by
  unfold StreamState.applyParsedResult
  split_ifs with hchecked
  · have htracks : cfg.Tracks m.subjectID := ⟨hchecked.1, hchecked.2.2⟩
    obtain ⟨hgaps, hprevs, hsnapshots⟩ := reports_checkGap (hnear htracks)
    have hmatch : ¬ (0 < m.prevSeq ∧
        validatePrevSeq m.prevSeq (st.lastSeqBySub m.subjectID) = true) := by
      rintro ⟨hpos, hmismatch⟩
      rw [hprev htracks hpos] at hmismatch
      simp [validatePrevSeq] at hmismatch
    dsimp only [StreamState.checkPrevSeq]
    rw [if_neg hmatch]
    unfold StreamState.checkSnapshot
    rw [hsnapshot]
    simp only [lt_irrefl, if_false, validateSnapshotIntegrityConsistency, false_and, and_false,
      decide_false, Bool.false_eq_true, ite_self]
    exact ⟨hgaps.trans hst.1, hprevs.trans hst.2.1, hsnapshots.trans hst.2.2⟩
  · exact hst

theorem lastSeqBySub_checkGap
    (st : StreamState) (m : StreamMeta) : (st.checkGap m).lastSeqBySub = st.lastSeqBySub := by
  unfold StreamState.checkGap
  dsimp only
  rcases seqGapTransition (st.lastSeqBySub m.subjectID) m.seq st.seqGapStreak 3 with
    ⟨_ | _, nextStreak, recurring⟩
  · rfl
  · dsimp only
    split_ifs
    all_goals rfl

/-- The numbers that the client remembers after a frame. -/
theorem lastSeqBySub_applyParsedResult (cfg : ClientConfig) (st : StreamState) (m : StreamMeta) :
    (st.applyParsedResult cfg m).lastSeqBySub =
      if m.subjectID ≠ 0 ∧ 0 < m.seq ∧ cfg.subscribed m.subjectID then
        update st.lastSeqBySub m.subjectID m.seq
      else st.lastSeqBySub := by
  unfold StreamState.applyParsedResult
  split_ifs
  · dsimp only [StreamState.checkPrevSeq, StreamState.checkSnapshot]
    rw [lastSeqBySub_checkGap]
    split_ifs
    all_goals rfl
  · rfl

theorem lastSeqBySub_of_tracks (hpos : 0 < m.seq) (htracks : cfg.Tracks m.subjectID) :
    (st.applyParsedResult cfg m).lastSeqBySub m.subjectID = m.seq := by
  rw [lastSeqBySub_applyParsedResult, if_pos ⟨htracks.1, hpos, htracks.2⟩, update_self]

theorem lastSeqBySub_of_ne {id : UInt64} (h : id ≠ m.subjectID) :
    (st.applyParsedResult cfg m).lastSeqBySub id = st.lastSeqBySub id := by
  rw [lastSeqBySub_applyParsedResult]
  split_ifs
  · exact update_of_ne h _ _
  · rfl

end Frames

end Client
end StreamAnalytics
