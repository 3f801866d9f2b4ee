import StreamAnalytics.Lib.Fnv
import StreamAnalytics.Lib.GoInt
import StreamAnalytics.Lib.GoStrings

/-!
# Stream ownership and the monotonic sequence policy

Model of `internal/shared/ownership`: the shard key of a stream and
`DecideMonotonic`, which accepts, drops or converts to a resync one observation
of a stream.
-/

namespace StreamAnalytics
namespace Ownership

open GoStrings

/-- `StreamKey`. -/
structure StreamKey where
  venue : String
  instrument : String
  channel : String
  timeframe : String

/-- `canonicalLower`. -/
def canonicalLower (v : String) : String := toLower (trimSpace v)

/-- `canonicalUpper`. -/
def canonicalUpper (v : String) : String := toUpper (trimSpace v)

/-- `canonicalSubsystem`. -/
def canonicalSubsystem (v : String) : String :=
  let s := canonicalLower v
  if s = "" then "unknown" else s

/-- `SubsystemDelivery`. -/
def subsystemDelivery : String := "delivery"

/-- `ShardKey`. -/
def shardKey (subsystem : String) (key : StreamKey) : UInt64 :=
  Fnv.sumFieldsFast64
    [canonicalSubsystem subsystem, canonicalLower key.venue, canonicalUpper key.instrument,
      canonicalLower key.channel, canonicalLower key.timeframe]

/-- `MonotonicAction`. -/
inductive MonotonicAction where
  | accept
  | drop
  | convertToResync
deriving Repr, DecidableEq

/-- `MonotonicInput`. -/
structure MonotonicInput where
  streamKey : String
  isSnapshot : Bool
  candidateSeq : Int
  candidateWatermark : Int
  lastSeq : Int
  lastWatermark : Int
  candidateOwner : String
  lastOwner : String
  handoffWatermarkSeq : Int
  pendingResyncWatermark : Int
  staleGapWindow : Int

/-- `MonotonicDecision`. -/
structure MonotonicDecision where
  action : MonotonicAction
  rejectReason : String := ""
  violationType : String := ""
  coherenceReason : String := ""
  resyncWatermark : Int := 0
  duplicate : Bool := false
  outOfOrder : Bool := false
deriving Repr, DecidableEq

/-- `dropDecision`. -/
def dropDecision (reason : String) (duplicate outOfOrder : Bool) : MonotonicDecision where
  action := .drop
  rejectReason := reason
  coherenceReason := reason
  duplicate := duplicate
  outOfOrder := outOfOrder

/-- `invalidDecision`. -/
def invalidDecision : MonotonicDecision where
  action := .drop
  rejectReason := "seq_invalid"
  violationType := "seq_invalid"
  coherenceReason := "unknown"

/-- A decision to ask the stream for a resync up to `watermark`. -/
def resyncDecision (reason : String) (watermark : Int) : MonotonicDecision where
  action := .convertToResync
  rejectReason := reason
  coherenceReason := reason
  resyncWatermark := watermark
  outOfOrder := true

namespace MonotonicInput

/-- `isInvalid`. -/
def isInvalid (i : MonotonicInput) : Bool := trimSpace i.streamKey = "" || i.candidateSeq ≤ 0

/-- `pendingResyncOverlap`. -/
def pendingResyncOverlap (i : MonotonicInput) : Bool :=
  0 < i.pendingResyncWatermark && !i.isSnapshot && i.candidateSeq ≤ i.pendingResyncWatermark

/-- `replayDuplicate`. -/
def replayDuplicate (i : MonotonicInput) : Bool := 0 < i.lastSeq && i.candidateSeq = i.lastSeq

/-- The watermark below which a new owner may not emit. -/
def ownerChangeWatermark (i : MonotonicInput) : Int :=
  if i.handoffWatermarkSeq < i.lastSeq then i.lastSeq else i.handoffWatermarkSeq

/-- `ownerChangeDecision`; `none` when the rule does not apply. -/
def ownerChangeDecision (i : MonotonicInput) : Option MonotonicDecision :=
  if i.candidateOwner = "" ∨ i.lastOwner = "" ∨ i.candidateOwner = i.lastOwner then none
  else if i.ownerChangeWatermark < i.candidateSeq then none
  else some (resyncDecision "owner_change" i.ownerChangeWatermark)

/-- `snapshotOverlapDecision`; `none` when the rule does not apply. -/
def snapshotOverlapDecision (i : MonotonicInput) : Option MonotonicDecision :=
  if !i.isSnapshot ∨ i.handoffWatermarkSeq ≤ 0 ∨ i.handoffWatermarkSeq < i.candidateSeq then none
  else some (resyncDecision "resync_overlap" i.handoffWatermarkSeq)

/-- `watermarkRegressed`. -/
def watermarkRegressed (i : MonotonicInput) : Bool :=
  0 < i.lastWatermark && 0 < i.candidateWatermark && i.candidateWatermark < i.lastWatermark

/-- `staleGap`. -/
def staleGap (i : MonotonicInput) : Bool :=
  let gap := GoInt.wrap64 (i.lastSeq - i.candidateSeq)
  0 < gap && gap ≤ i.staleGapWindow

end MonotonicInput

/-- The part of `DecideMonotonic` after the resync rules. -/
def decideOrder (i : MonotonicInput) : MonotonicDecision :=
  if i.lastSeq ≤ 0 ∨ i.lastSeq < i.candidateSeq then
    { action := .accept }
  else if i.watermarkRegressed then
    dropDecision "stale_event" false true
  else if i.staleGap then
    dropDecision "stale_event" false true
  else
    { action := .drop
      rejectReason := "seq_non_monotonic"
      violationType := "seq_non_monotonic"
      coherenceReason := "out_of_order_input"
      outOfOrder := true }

/-- `DecideMonotonic`. -/
@[irreducible]
def decideMonotonic (i : MonotonicInput) : MonotonicDecision :=
  if i.isInvalid then
    invalidDecision
  else if i.pendingResyncOverlap then
    dropDecision "resync_overlap" false true
  else if i.replayDuplicate then
    dropDecision "replay_duplicate" true false
  else
    ((i.ownerChangeDecision).or i.snapshotOverlapDecision).getD (decideOrder i)

/-! ## What a decision tells about its input -/

variable {i : MonotonicInput}

theorem isInvalid_eq_false_iff :
    i.isInvalid = false ↔ trimSpace i.streamKey ≠ "" ∧ 0 < i.candidateSeq := by
  simp [MonotonicInput.isInvalid]

theorem ownerChangeDecision_eq_some {d : MonotonicDecision} (h : i.ownerChangeDecision = some d) :
    ∃ w, d = resyncDecision "owner_change" w ∧ i.candidateSeq ≤ w := by
  unfold MonotonicInput.ownerChangeDecision at h
  split_ifs at h with howner hseq
  exact ⟨i.ownerChangeWatermark, (Option.some.inj h).symm, Int.not_lt.mp hseq⟩

theorem snapshotOverlapDecision_eq_some
    {d : MonotonicDecision} (h : i.snapshotOverlapDecision = some d) :
    ∃ w, d = resyncDecision "resync_overlap" w ∧ i.candidateSeq ≤ w := by
  unfold MonotonicInput.snapshotOverlapDecision at h
  split_ifs at h with hguard
  rw [not_or, not_or] at hguard
  exact ⟨i.handoffWatermarkSeq, (Option.some.inj h).symm, Int.not_lt.mp hguard.2.2⟩

/-- The three outcomes of the policy, with what each says about the observation. -/
inductive Outcome (i : MonotonicInput) : MonotonicDecision → Prop where
  | accept
      (positive : 0 < i.candidateSeq)
      (fresh : i.lastSeq ≤ 0 ∨ i.lastSeq < i.candidateSeq)
      (beyond : i.pendingResyncWatermark ≤ 0 ∨ i.isSnapshot ∨
        i.pendingResyncWatermark < i.candidateSeq) :
      Outcome i { action := .accept }
  | drop
      {d : MonotonicDecision}
      (dropped : d.action = .drop) :
      Outcome i d
  | convertToResync
      (reason : String)
      {w : Int}
      (positive : 0 < i.candidateSeq)
      (covers : i.candidateSeq ≤ w) :
      Outcome i (resyncDecision reason w)

theorem outcome_decideOrder (hpositive : 0 < i.candidateSeq)
    (hbeyond : i.pendingResyncWatermark ≤ 0 ∨ i.isSnapshot ∨
      i.pendingResyncWatermark < i.candidateSeq) : Outcome i (decideOrder i) := by
  unfold decideOrder
  split_ifs with hfresh
  · exact .accept hpositive hfresh hbeyond
  · exact .drop rfl
  · exact .drop rfl
  · exact .drop rfl

theorem outcome_decideMonotonic (i : MonotonicInput) : Outcome i (decideMonotonic i) := by
  unfold decideMonotonic
  split_ifs with hinvalid hoverlap hreplay
  · exact .drop rfl
  · exact .drop rfl
  · exact .drop rfl
  · have hpositive : 0 < i.candidateSeq :=
      (isInvalid_eq_false_iff.mp (eq_false_of_ne_true hinvalid)).2
    have hbeyond : i.pendingResyncWatermark ≤ 0 ∨ i.isSnapshot ∨
        i.pendingResyncWatermark < i.candidateSeq := by
      simp only [MonotonicInput.pendingResyncOverlap, Bool.and_eq_true, decide_eq_true_eq,
        Bool.not_eq_true', not_and, Int.not_le] at hoverlap
      by_cases hsnapshot : i.isSnapshot = true
      · exact .inr (.inl hsnapshot)
      · rcases Int.lt_or_le 0 i.pendingResyncWatermark with hpending | hpending
        · exact .inr (.inr (hoverlap ⟨hpending, eq_false_of_ne_true hsnapshot⟩))
        · exact .inl hpending
    cases howner : i.ownerChangeDecision with
    | some d =>
      obtain ⟨w, rfl, hw⟩ := ownerChangeDecision_eq_some howner
      exact .convertToResync _ hpositive hw
    | none =>
      cases hsnapshot : i.snapshotOverlapDecision with
      | some d =>
        obtain ⟨w, rfl, hw⟩ := snapshotOverlapDecision_eq_some hsnapshot
        exact .convertToResync _ hpositive hw
      | none => exact outcome_decideOrder hpositive hbeyond

end Ownership
end StreamAnalytics
