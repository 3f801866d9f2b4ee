import StreamAnalytics.Delivery.SessionMoves
import StreamAnalytics.Lib.Runs

/-!
# The metadata of a routed envelope

The events of a fan-out carry copies of one envelope, and the copies share the map of
its metadata.  The protobuf path of a session writes its own values into that map before
it encodes the envelope.  The number of the previous event is written only if there is
one, so that a session without a predecessor sends the number that a session before it
has left in the map.

A nil map is replaced by a new one at every write, and is not shared.
-/

namespace StreamAnalytics
namespace Delivery

open Runs SessionActor Prog

/-! ## Writes of one envelope -/

/-- A session about to write an envelope on the protobuf path. -/
structure ProtoWrite where
  cfg : SessionConfig
  session : SessionActor
  subject : Subject
  seq : Int
  now : Nat

/-- The map of the metadata, unless it is nil. -/
abbrev SharedMeta := Option (GoMap String String)

namespace ProtoWrite

/-- The number of the event that the session delivered before, if there is one. -/
def previous (w : ProtoWrite) : Option Int := w.session.lastDeliveredSeq.lookup w.subject.string

/-- The event that the session writes. -/
def event (w : ProtoWrite) (env : Envelope) (cell : SharedMeta) : DeliveryEvent :=
  ⟨w.subject, { env with seq := w.seq, metadata := cell.getD ∅ }⟩

/-- The shared map after a write. -/
def stamp (cell : SharedMeta) (w : ProtoWrite) : SharedMeta :=
  cell.map (stampMeta w.cfg w.now w.subject (w.previous.getD 0))

/-- The envelopes of protobuf frames. -/
def envelopes (frames : List Frame) : List Envelope :=
  frames.filterMap fun
    | .proto env => some env
    | _ => none

/-- The envelopes that the session sends to its client. -/
def frames (w : ProtoWrite) (env : Envelope) (cell : SharedMeta) : List Envelope :=
  envelopes ((writeProtoEvent w.cfg w.now (w.event env cell) w.session).1.written.drop
    w.session.written.length)

/-- The metadata that a session should send, given the metadata of the envelope. -/
def ownMeta (w : ProtoWrite) (original : GoMap String String) (key : String) : Option String :=
  if key = "prev_seq" then w.previous.map toString
  else (stampMeta w.cfg w.now w.subject 0 original).lookup key

/-- The session sends the metadata of the envelope with its own values. -/
def SendsOwnMeta (env : Envelope) (original cell : SharedMeta) (w : ProtoWrite) : Prop :=
  ∀ sent ∈ w.frames env cell, ∀ key,
    sent.metadata.lookup key = w.ownMeta (original.getD ∅) key

/--
The session has a positive number of its own to write, or the shared map holds as
`prev_seq` what the session should send.
-/
def OwnPrevSeq (cell : SharedMeta) (w : ProtoWrite) : Prop :=
  0 < w.previous.getD 0 ∨ (cell.getD ∅).lookup "prev_seq" = w.previous.map toString

/-! ## What a write sends -/

@[simp] theorem envelopes_append (frames frames' : List Frame) :
    envelopes (frames ++ frames') = envelopes frames ++ envelopes frames' :=
  List.filterMap_append

theorem written_writeProblem
    (cfg : SessionConfig) (s : SessionActor) (op requestID : String) (p : Problem) :
    ∃ new, (s.writeProblem cfg op requestID p).written = s.written ++ new ∧ envelopes new = [] := by
  unfold writeProblem writeJSON
  obtain ⟨-, hwrite⟩ | hwrite := tryWrite_cases cfg s (.error op requestID p)
  · rw [hwrite]
    exact ⟨[.error op requestID p], rfl, rfl⟩
  · rw [hwrite]
    refine ⟨[], ?_, rfl⟩
    rw [List.append_nil]
    exact (written_closeSession _).1

/-- An event that does not fit is reported, and not sent. -/
theorem written_onDrop (cfg : SessionConfig) (s : SessionActor) (reason : DropReason) :
    ∃ new, (s.onDrop cfg reason).1.written = s.written ++ new ∧ envelopes new = [] := by
  have hreport : ∃ new, (s.reportDrop cfg reason).written = s.written ++ new ∧
      envelopes new = [] := by
    unfold reportDrop
    cases dropProblem cfg reason with
    | some p => exact written_writeProblem cfg s _ _ p
    | none => exact ⟨[], (List.append_nil _).symm, rfl⟩
  obtain ⟨new, hnew, hnone⟩ := hreport
  unfold onDrop
  dsimp only
  split_ifs
  · exact ⟨new, hnew, hnone⟩
  · set s₁ : SessionActor := { s.reportDrop cfg reason with
      dropCount := (s.reportDrop cfg reason).dropCount + 1 }
    obtain ⟨more, hmore, hnone'⟩ := written_writeProblem cfg s₁ "delivery" "" slowClientProblem
    refine ⟨new ++ more, ?_, by rw [envelopes_append, hnone, hnone', List.append_nil]⟩
    rw [(written_closeSession _).1, hmore, ← List.append_assoc, ← hnew]

theorem written_transmit
    (cfg : SessionConfig) (s : SessionActor) (raw : Bytes) (frame : Frame) (failure : String)
    (record : SessionActor → SessionActor) (hrecord : ∀ s, (record s).written = s.written) :
    ∃ new, (transmit cfg raw frame failure record s).1.written = s.written ++ new ∧
      (envelopes new = [] ∨ new = [frame]) := by
  unfold transmit
  rw [get_bind_apply]
  split_ifs
  · rw [act_bind_apply]
    obtain ⟨-, hwrite⟩ | hwrite := tryWrite_cases cfg s frame
    · rw [hwrite]
      set s₁ : SessionActor := { s with writes := s.writes + 1, written := s.written ++ [frame] }
      refine ⟨[frame], ?_, .inr rfl⟩
      change (((do assign record; pure none) : SessionProg (Option Problem)) s₁).1.written = _
      obtain ⟨-, hassign⟩ | ⟨-, hassign⟩ := assign_cases record s₁
      · rw [bind_apply_error hassign]
      · rw [bind_apply_ok hassign, pure_apply]
        exact hrecord s₁
    · rw [hwrite]
      exact ⟨[], (List.append_nil _).symm, .inl rfl⟩
  · obtain ⟨new, hnew, hnone⟩ := written_onDrop cfg s .frameTooLarge
    exact ⟨new, hnew, .inl hnone⟩

/-- A write sends at most one envelope, with the metadata that is in the map then. -/
theorem metadata_of_mem_frames
    {w : ProtoWrite} {env sent : Envelope} {cell : SharedMeta} (h : sent ∈ w.frames env cell) :
    sent.metadata = stampMeta w.cfg w.now w.subject (w.previous.getD 0) (cell.getD ∅) := by
  unfold frames writeProtoEvent at h
  rw [get_bind_apply] at h
  cases hmarshal : w.cfg.marshalEnvelope (protoEnvelope w.cfg w.now (w.event env cell)
      (w.session.lastDeliveredSeq.getD (w.event env cell).subject.string 0)) with
  | error p =>
    rw [hmarshal] at h
    change sent ∈ envelopes (w.session.written.drop w.session.written.length) at h
    rw [List.drop_length] at h
    cases h
  | ok raw =>
    rw [hmarshal] at h
    obtain ⟨new, hnew, hframe⟩ := written_transmit w.cfg w.session raw
      (.proto (protoEnvelope w.cfg w.now (w.event env cell)
        (w.session.lastDeliveredSeq.getD (w.event env cell).subject.string 0)))
      "proto write failed" (recordDelivered (w.event env cell).subject.string
        (w.event env cell).env.seq) fun s => rfl
    dsimp only at h
    rw [hnew, List.drop_left] at h
    obtain hnone | rfl := hframe
    · rw [hnone] at h
      cases h
    · obtain rfl := List.mem_singleton.mp h
      rfl

/-! ## What is in the map -/

/-- The keys that a write sets, apart from `prev_seq`. -/
def ownKeys : List String :=
  ["protocol_version", "server_instance_id", "stream_id", "channel", "ts_server"]

section Stamps

variable {cfg : SessionConfig} {now : Nat} {subject : Subject} {prevSeq : Int}
  {m m' : GoMap String String} {key : String}

theorem lookup_stampMeta_prev_seq :
    (stampMeta cfg now subject prevSeq m).lookup "prev_seq" =
      if 0 < prevSeq then some (toString prevSeq) else m.lookup "prev_seq" := by
  unfold stampMeta
  split_ifs
  · exact AList.lookup_insert _
  · simp only [GoMap.lookup_insert_ite]
    rfl

theorem lookup_stampMeta_of_ne (hkey : key ≠ "prev_seq") :
    (stampMeta cfg now subject prevSeq m).lookup key =
      (stampMeta cfg now subject 0 m).lookup key := by
  simp only [stampMeta, lt_irrefl, if_false]
  split_ifs
  · exact AList.lookup_insert_ne hkey
  · rfl

/-- A write hides what the map held under its own keys. -/
theorem lookup_stampMeta_congr (h : key ∉ ownKeys → m.lookup key = m'.lookup key) :
    (stampMeta cfg now subject 0 m).lookup key = (stampMeta cfg now subject 0 m').lookup key := by
  simp only [ownKeys, List.mem_cons, List.not_mem_nil, or_false, not_or] at h
  simp only [stampMeta, lt_irrefl, if_false, GoMap.lookup_insert_ite]
  split_ifs with h₁ h₂ h₃ h₄ h₅
  all_goals first | rfl | exact h ⟨h₅, h₄, h₃, h₂, h₁⟩

theorem lookup_stampMeta_of_notMem (hprev : key ≠ "prev_seq") (hkey : key ∉ ownKeys) :
    (stampMeta cfg now subject prevSeq m).lookup key = m.lookup key := by
  rw [lookup_stampMeta_of_ne hprev]
  simp only [ownKeys, List.mem_cons, List.not_mem_nil, or_false, not_or] at hkey
  obtain ⟨h₁, h₂, h₃, h₄, h₅⟩ := hkey
  simp only [stampMeta, lt_irrefl, if_false, GoMap.lookup_insert_ite, if_neg h₁, if_neg h₂,
    if_neg h₃, if_neg h₄, if_neg h₅]

end Stamps

/-! ## Runs -/

/-- Writes change the map only under the keys that every write sets. -/
def Keeps (original cell : SharedMeta) : Prop :=
  ∀ key, key ≠ "prev_seq" → key ∉ ownKeys →
    (cell.getD ∅).lookup key = (original.getD ∅).lookup key

theorem Keeps.stamp {original cell : SharedMeta} (h : Keeps original cell) (w : ProtoWrite) :
    Keeps original (stamp cell w) := by
  intro key hprev hkey
  cases cell with
  | none => exact h key hprev hkey
  | some m => exact (lookup_stampMeta_of_notMem hprev hkey).trans (h key hprev hkey)

/-- One write sends its own metadata exactly if it sends its own `prev_seq`. -/
theorem Keeps.sendsOwnMeta_iff
    {original cell : SharedMeta} (h : Keeps original cell) (env : Envelope) (w : ProtoWrite) :
    SendsOwnMeta env original cell w ↔ (w.frames env cell ≠ [] → OwnPrevSeq cell w) := by
  have hown (sent : Envelope) (hsent : sent ∈ w.frames env cell) :
      (∀ key, sent.metadata.lookup key = w.ownMeta (original.getD ∅) key) ↔
        OwnPrevSeq cell w := by
    have hother (key : String) (hkey : key ≠ "prev_seq") :
        sent.metadata.lookup key = w.ownMeta (original.getD ∅) key := by
      rw [metadata_of_mem_frames hsent, ownMeta, if_neg hkey, lookup_stampMeta_of_ne hkey]
      exact lookup_stampMeta_congr fun hnot => h key hkey hnot
    have hprev : sent.metadata.lookup "prev_seq" = w.ownMeta (original.getD ∅) "prev_seq" ↔
        OwnPrevSeq cell w := by
      rw [metadata_of_mem_frames hsent, ownMeta, if_pos rfl, lookup_stampMeta_prev_seq]
      unfold OwnPrevSeq
      split_ifs with hpos
      · obtain hnone | ⟨p, hsome⟩ := Option.eq_none_or_eq_some w.previous
        · rw [hnone] at hpos
          exact absurd hpos (lt_irrefl 0)
        · simp [hsome] at hpos ⊢
          exact .inl hpos
      · simp [hpos]
    refine ⟨fun hall => hprev.mp (hall _), fun howned key => ?_⟩
    by_cases hkey : key = "prev_seq"
    · rw [hkey]
      exact hprev.mpr howned
    · exact hother key hkey
  constructor
  · intro hsends hne
    obtain ⟨sent, hsent⟩ := List.exists_mem_of_ne_nil _ hne
    exact (hown sent hsent).mp (hsends sent hsent)
  · intro howned sent hsent
    exact (hown sent hsent).mpr (howned (List.ne_nil_of_mem hsent))

/--
For any sessions that write one routed envelope in any order: every frame carries the
metadata of the envelope with the values of its own session exactly if at every write
that reaches a client the session has a positive number to write, or finds in the shared
map the `prev_seq` that it should send.
-/
theorem sendsOwnMeta_iff_ownPrevSeq
    (env : Envelope) (original : SharedMeta) (writes : List ProtoWrite) :
    Always stamp (SendsOwnMeta env original) original writes ↔
      Always stamp (fun cell w => w.frames env cell ≠ [] → OwnPrevSeq cell w) original writes := by
  have hkeeps : Keeps original original := fun _ _ _ => rfl
  constructor
  · exact always_of_always (I := Keeps original) (fun _ w hcell _ => hcell.stamp w)
      (fun _ w hcell => (hcell.sendsOwnMeta_iff env w).mp) hkeeps
  · exact always_of_always (I := Keeps original) (fun _ w hcell _ => hcell.stamp w)
      (fun _ w hcell => (hcell.sendsOwnMeta_iff env w).mpr) hkeeps

/-- A session that has delivered an event of the trades before, or none. -/
def tradeWrite (delivered : GoMap String Int) : ProtoWrite where
  cfg := { plainConfig with preferProto := true }
  session := { lastDeliveredSeq := delivered }
  subject := trades
  seq := 8
  now := 0

/-- A trade, with the metadata of the map that its copies share. -/
def tradeEnvelope : Envelope :=
  { type := "marketdata.trade"
    version := 1
    venue := "binance"
    instrument := "BTCUSDT"
    tsExchange := 1
    tsIngest := 1
    seq := 1
    idempotencyKey := ""
    contentType := Envelope.contentTypeProto
    metadata := ∅
    payload := [] }

theorem not_sendsOwnMeta_after_other :
    ¬ Always stamp (SendsOwnMeta tradeEnvelope (some ∅)) (some ∅)
      [tradeWrite (AList.insert trades.string (7 : Int) ∅), tradeWrite ∅] := by
  rintro ⟨-, hsends, -⟩
  have hprev := fun sent hsent => hsends sent hsent "prev_seq"
  revert hprev
  decide +kernel

end ProtoWrite

end Delivery
end StreamAnalytics
