import StreamAnalytics.Client.StreamChecks
import StreamAnalytics.Delivery.SessionMoves
import StreamAnalytics.Lib.Runs

/-!
# What the client's checks say about a session

A session numbers its events by their origin and its snapshots by a counter of its own,
and the client checks both with one set of rules: a snapshot frame with a positive `seq`
has to carry the same number as `snapshot_seq`.  The checks stay quiet if no snapshot
carries a positive `seq`, the events of a subject are numbered without gaps beyond the
tolerance, and no two subjects have the same identifier (`Checkable`).
-/

namespace StreamAnalytics
namespace Delivery
namespace SessionActor

open Client Runs

/-! ## The condition -/

/-- The provider always has a snapshot, and no snapshot of it carries a positive number. -/
def SilentProvider (cfg : SessionConfig) : Prop :=
  ∀ provider, cfg.hotSnapshotProvider = some provider → ∀ n subject,
    ∃ raw, usablePayload (provider n subject) = some raw ∧ (hotSnapshotRangeItem cfg raw).seq ≤ 0

/-- The subject that an event frame names. -/
def eventName : Frame → Option String
  | .event f => some f.subject
  | _ => none

/-- The subjects that the event frames name. -/
def eventNames (frames : List Frame) : List String := frames.filterMap eventName

theorem eventNames_concat (frames : List Frame) (f : Frame) :
    eventNames (frames ++ [f]) = eventNames frames ++ (eventName f).toList := by
  unfold eventNames
  rw [List.filterMap_append]
  cases h : eventName f with
  | none => simp [h]
  | some n => simp [h]

/-- The numbers of the queued events of a subject. -/
def queuedSeqs (key : String) (queue : List DeliveryEvent) : List Int :=
  (queue.filter fun evt => evt.subject.string = key).map fun evt => evt.env.seq

/-- A number is not too far from the one before; there is none before if it is not positive. -/
def Close (last seq : Int) : Prop := last ≤ 0 ∨ |seq - last| ≤ seqGapTolerance

instance (last seq : Int) : Decidable (Close last seq) := inferInstanceAs (Decidable (_ ∨ _))

/-- The last number of a subject that is written or queued. -/
def lastNumber (st : Client.StreamState) (queue : List DeliveryEvent) (key : String) : Int :=
  (queuedSeqs key queue).getLastD (st.lastSeqBySub (subjectID64 key))

/--
The cached snapshots carry no positive number.  A snapshot is requested from a session
without a provider only if the last event of the subject has no positive number.  An
event has a positive number close to the last one of its subject, and its subject does
not share its identifier with another one.
-/
def Checkable (client : ClientConfig) (cfg : SessionConfig) (s : SessionActor)
    (input : SessionInput) : Prop :=
  (∀ cache ∈ input.cache, ∀ e ∈ cache.entries, e.value.seq ≤ 0) ∧
  (∀ subject ∈ input.msg.requested, cfg.hotSnapshotProvider.isNone →
    ∀ entry ∈ s.lastSnapshot.lookup subject.string, entry.seq ≤ 0) ∧
  ∀ evt ∈ input.msg.carries,
    0 < evt.env.seq ∧
    (∀ k ∈ eventNames s.written ++ s.outbound.map (fun evt => evt.subject.string),
      subjectID64 k = subjectID64 evt.subject.string → k = evt.subject.string) ∧
    Close (lastNumber (observe client s.written) s.outbound evt.subject.string) evt.env.seq

instance (client : ClientConfig) (cfg : SessionConfig) (s : SessionActor) (input : SessionInput) :
    Decidable (Checkable client cfg s input) := by
  unfold Checkable
  infer_instance

/-! ## Numbers without gaps -/

/-- Each number is close to the one before. -/
def Near : Int → List Int → Prop
  | _, [] => True
  | last, x :: xs => Close last x ∧ Near x xs

theorem near_concat
    {last x : Int} {xs : List Int} (hxs : Near last xs) (hx : Close (xs.getLastD last) x) :
    Near last (xs ++ [x]) := by
  induction xs generalizing last with
  | nil => exact ⟨hx, trivial⟩
  | cons y ys ih =>
    refine ⟨hxs.1, ih hxs.2 ?_⟩
    rwa [List.getLastD_cons] at hx

theorem queuedSeqs_cons_self (evt : DeliveryEvent) (queue : List DeliveryEvent) :
    queuedSeqs evt.subject.string (evt :: queue) =
      evt.env.seq :: queuedSeqs evt.subject.string queue := by
  simp [queuedSeqs]

theorem queuedSeqs_cons_of_ne {evt : DeliveryEvent} {key : String} (queue : List DeliveryEvent)
    (h : evt.subject.string ≠ key) : queuedSeqs key (evt :: queue) = queuedSeqs key queue := by
  simp [queuedSeqs, h]

theorem queuedSeqs_concat (key : String) (queue : List DeliveryEvent) (evt : DeliveryEvent) :
    queuedSeqs key (queue ++ [evt]) =
      queuedSeqs key queue ++ if evt.subject.string = key then [evt.env.seq] else [] := by
  unfold queuedSeqs
  rw [List.filter_append, List.map_append]
  split_ifs with h
  · simp [h]
  · simp [h]

theorem queuedSeqs_eq_nil
    {key : String} {queue : List DeliveryEvent} (h : ∀ evt ∈ queue, evt.subject.string ≠ key) :
    queuedSeqs key queue = [] := by
  unfold queuedSeqs
  rw [List.filter_eq_nil_iff.mpr fun evt hevt => by simpa using h evt hevt, List.map_nil]

/-- What remains after an erasure was there before. -/
theorem getD_erase_of_pos
    {k : String} (m : GoMap String Int) (key : String) (h : 0 < GoMap.getD (m.erase key) k 0) :
    GoMap.getD (m.erase key) k 0 = m.getD k 0 := by
  rw [GoMap.getD_erase] at h ⊢
  split_ifs at h ⊢
  · omega
  · rfl

/-! ## The invariant -/

/-- The client remembers what the session has delivered, and can follow what is queued. -/
structure Following (client : ClientConfig) (cfg : SessionConfig) (v : View) : Prop where
  remembered : ∀ k, client.Tracks (subjectID64 k) → 0 < v.lastDeliveredSeq.getD k 0 →
    (observe client v.written).lastSeqBySub (subjectID64 k) = v.lastDeliveredSeq.getD k 0
  named : ∀ k, 0 < v.lastDeliveredSeq.getD k 0 → k ∈ eventNames v.written
  apart : ∀ evt ∈ v.outbound, ∀ k,
    k ∈ eventNames v.written ++ v.outbound.map (fun evt => evt.subject.string) →
      subjectID64 k = subjectID64 evt.subject.string → k = evt.subject.string
  queued : ∀ evt ∈ v.outbound, 0 < evt.env.seq ∧ evt.subject.isSignal = false
  near : v.dropCount = 0 → ∀ k, client.Tracks (subjectID64 k) →
    Near ((observe client v.written).lastSeqBySub (subjectID64 k)) (queuedSeqs k v.outbound)
  single : v.batching = false
  provided : ∀ p ∈ v.provided, (hotSnapshotRangeItem cfg p.raw).seq ≤ 0
  cached : ∀ cache, v.cache = some cache → ∀ e ∈ cache.entries, e.value.seq ≤ 0

/-- What `Checkable` grants while the message is handled. -/
structure Granted (client : ClientConfig) (cfg : SessionConfig) (msg : SessionMsg) (v : View) :
    Prop where
  requested : ∀ subject, msg.requested = some subject → cfg.hotSnapshotProvider = none →
    ∀ entry, v.lastSnapshot.lookup subject.string = some entry → entry.seq ≤ 0
  positive : ∀ evt, msg.carries = some evt → 0 < evt.env.seq ∧ evt.subject.isSignal = false
  apart : ∀ evt, msg.carries = some evt → ∀ k,
    k ∈ eventNames v.written ++ v.outbound.map (fun evt => evt.subject.string) →
      subjectID64 k = subjectID64 evt.subject.string → k = evt.subject.string
  close : ∀ evt, msg.carries = some evt → v.dropCount = 0 →
    Close (lastNumber (observe client v.written) v.outbound evt.subject.string) evt.env.seq

/-- The checks are quiet and can stay quiet; a closed session writes nothing more. -/
def OnWatch (client : ClientConfig) (cfg : SessionConfig) (msg : SessionMsg) (v : View) : Prop :=
  (v.dropCount = 0 → (observe client v.written).Quiet) ∧
    (v.closed = true ∨ Following client cfg v ∧ Granted client cfg msg v)

section Moves

variable {client : ClientConfig} {cfg : SessionConfig} {now : Nat} {msg : SessionMsg} {v v' : View}

theorem OnWatch.following (h : OnWatch client cfg msg v) (hopen : v.closed = false) :
    Following client cfg v ∧ Granted client cfg msg v :=
  h.2.resolve_left (Bool.eq_false_iff.mp hopen)

/-- A change that the client does not notice. -/
theorem OnWatch.keep
    (h : OnWatch client cfg msg v) (hobserve : observe client v'.written = observe client v.written)
    (hnames : eventNames v'.written = eventNames v.written) (hclosed : v'.closed = v.closed)
    (hbatching : v'.batching = v.batching)
    (hseq : ∀ k, 0 < v'.lastDeliveredSeq.getD k 0 →
      v'.lastDeliveredSeq.getD k 0 = v.lastDeliveredSeq.getD k 0)
    (hqueue : v'.outbound.Sublist v.outbound)
    (hdrops : v'.dropCount = 0 → v.dropCount = 0 ∧ v'.outbound = v.outbound)
    (hlast : ∀ k entry, v'.lastSnapshot.lookup k = some entry →
      v.lastSnapshot.lookup k = some entry)
    (hprovided : v.closed = false → ∀ p ∈ v'.provided, (hotSnapshotRangeItem cfg p.raw).seq ≤ 0)
    (hcached : v.closed = false → ∀ cache, v'.cache = some cache →
      ∀ e ∈ cache.entries, e.value.seq ≤ 0) : OnWatch client cfg msg v' := by
  refine ⟨fun hnone => ?_, ?_⟩
  · rw [hobserve]
    exact h.1 (hdrops hnone).1
  · cases hopen : v.closed with
    | true => exact .inl (hclosed.trans hopen)
    | false =>
      obtain ⟨hfollowing, hgranted⟩ := h.following hopen
      have hkeys : ∀ k, k ∈ eventNames v'.written ++
          v'.outbound.map (fun evt => evt.subject.string) →
          k ∈ eventNames v.written ++ v.outbound.map (fun evt => evt.subject.string) := by
        intro k hk
        rw [hnames] at hk
        exact ((List.Sublist.refl _).append (hqueue.map _)).subset hk
      refine .inr ⟨⟨fun k htracks hpos => ?_, fun k hpos => ?_, fun evt hevt k hk => ?_,
        fun evt hevt => hfollowing.queued evt (hqueue.subset hevt), fun hnone k htracks => ?_,
        hbatching.trans hfollowing.single, hprovided hopen, hcached hopen⟩,
        ⟨fun subject hsubject hnone entry hentry => ?_, hgranted.positive,
          fun evt hevt k hk => hgranted.apart evt hevt k (hkeys k hk), fun evt hevt hnone => ?_⟩⟩
      · rw [hobserve, hseq k hpos]
        exact hfollowing.remembered k htracks (hseq k hpos ▸ hpos)
      · rw [hnames]
        exact hfollowing.named k (hseq k hpos ▸ hpos)
      · exact hfollowing.apart evt (hqueue.subset hevt) k (hkeys k hk)
      · obtain ⟨hnone', hsame⟩ := hdrops hnone
        rw [hobserve, hsame]
        exact hfollowing.near hnone' k htracks
      · exact hgranted.requested subject hsubject hnone entry (hlast _ entry hentry)
      · obtain ⟨hnone', hsame⟩ := hdrops hnone
        rw [hobserve, hsame]
        exact hgranted.close evt hevt hnone'

/-- The client does not check the frame. -/
def Unchecked (client : ClientConfig) (f : Frame) : Prop :=
  eventName f = none ∧ ∀ m, streamMeta client f = some m → m.seq ≤ 0

theorem unchecked_snapshot
    {f : SnapshotFrame} (h : f.seq ≤ 0) : Unchecked client (.snapshot f) := by
  refine ⟨rfl, fun m hm => ?_⟩
  obtain rfl := Option.some.inj hm
  exact h

theorem unchecked_of_none {f : Frame} (h : streamMeta client f = none) : Unchecked client f := by
  constructor
  · cases f with
    | event _ => cases h
    | _ => rfl
  · intro m hm
    rw [h] at hm
    cases hm

/-- A frame that the client does not check. -/
theorem OnWatch.write (h : OnWatch client cfg msg v) {f : Frame} (hf : Unchecked client f)
    (hwritten : v'.written = v.written ++ [f]) (hclosed : v'.closed = v.closed)
    (hbatching : v'.batching = v.batching)
    (hseq : ∀ k, 0 < v'.lastDeliveredSeq.getD k 0 →
      v'.lastDeliveredSeq.getD k 0 = v.lastDeliveredSeq.getD k 0)
    (hqueue : v'.outbound = v.outbound)
    (hdrops : v'.dropCount = v.dropCount)
    (hlast : ∀ k entry, v'.lastSnapshot.lookup k = some entry →
      v.lastSnapshot.lookup k = some entry)
    (hprovided : v'.provided = v.provided)
    (hcached : v.closed = false → ∀ cache, v'.cache = some cache →
      ∀ e ∈ cache.entries, e.value.seq ≤ 0) : OnWatch client cfg msg v' := by
  refine h.keep ?_ ?_ hclosed hbatching hseq (hqueue ▸ List.Sublist.refl _)
    (fun hnone => ⟨hdrops ▸ hnone, hqueue⟩) hlast (fun hopen => ?_) hcached
  · rw [hwritten, observe_concat, Client.receive]
    cases hm : streamMeta client f with
    | none => rfl
    | some m => exact applyParsedResult_of_nonpos (hf.2 m hm)
  · rw [hwritten, eventNames_concat, hf.1]
    exact List.append_nil _
  · rw [hprovided]
    exact (h.following hopen).1.provided

theorem OnWatch.enqueued
    (h : OnWatch client cfg msg v) {evt : DeliveryEvent} (hmsg : msg = .event evt) :
    OnWatch client cfg msg { v with outbound := v.outbound ++ [evt] } := by
  refine ⟨h.1, h.2.imp_right fun ⟨hfollowing, hgranted⟩ => ?_⟩
  have hevt : msg.carries = some evt := by rw [hmsg]; rfl
  have hapart := hgranted.apart evt hevt
  have hkeys (k : String)
      (hk : k ∈ eventNames v.written ++
        (v.outbound ++ [evt]).map (fun evt => evt.subject.string)) :
      k ∈ eventNames v.written ++ v.outbound.map (fun evt => evt.subject.string) ∨
        k = evt.subject.string := by
    simpa [or_assoc] using hk
  refine ⟨⟨hfollowing.remembered, hfollowing.named, fun evt' hevt' k hk hid => ?_,
    fun evt' hevt' => ?_, fun hnone k htracks => ?_, hfollowing.single, hfollowing.provided,
    hfollowing.cached⟩, ⟨hgranted.requested, hgranted.positive, fun evt' hevt' k hk hid => ?_,
    fun evt' hevt' hnone => ?_⟩⟩
  · obtain hevt' | hevt' := List.mem_append.mp hevt'
    · obtain hk | rfl := hkeys k hk
      · exact hfollowing.apart evt' hevt' k hk hid
      · refine (hapart evt'.subject.string ?_ hid.symm).symm
        exact List.mem_append_right _ (List.mem_map_of_mem hevt')
    · obtain rfl := List.mem_singleton.mp hevt'
      obtain hk | rfl := hkeys k hk
      · exact hapart k hk hid
      · rfl
  · obtain hevt' | hevt' := List.mem_append.mp hevt'
    · exact hfollowing.queued evt' hevt'
    · obtain rfl := List.mem_singleton.mp hevt'
      exact hgranted.positive evt' hevt
  · change Near _ (queuedSeqs k (v.outbound ++ [evt]))
    rw [queuedSeqs_concat]
    split_ifs with hkey
    · subst hkey
      exact near_concat (hfollowing.near hnone _ htracks) (hgranted.close evt hevt hnone)
    · rw [List.append_nil]
      exact hfollowing.near hnone k htracks
  · obtain rfl : evt = evt' := Option.some.inj (hevt.symm.trans hevt')
    obtain hk | rfl := hkeys k hk
    · exact hapart k hk hid
    · rfl
  · -- the event is now the last one of its subject
    obtain rfl : evt = evt' := Option.some.inj (hevt.symm.trans hevt')
    change Close (lastNumber _ (v.outbound ++ [evt]) _) _
    rw [lastNumber, queuedSeqs_concat, if_pos rfl, List.getLastD_concat]
    right
    simp [seqGapTolerance]

/-- The client after one more event. -/
theorem observe_event (client : ClientConfig) (frames : List Frame) (f : EventFrame) :
    observe client (frames ++ [.event f]) =
      (observe client frames).applyParsedResult client
        ⟨subjectID64 f.subject, f.seq, f.prevSeq, client.isBook f, 0, 0⟩ :=
  observe_concat client frames (.event f)

/-- The first event of the queue is one that the client expects. -/
theorem OnWatch.delivered
    (h : OnWatch client cfg .flush v) {evt : DeliveryEvent} {rest : List DeliveryEvent}
    (payload : Bytes) (entry : SessionSnapshotEntry) (hopen : v.closed = false)
    (hqueue : v.outbound = evt :: rest) :
    OnWatch client cfg .flush
      ((v.deliver evt.subject.string evt.env.seq entry).write
        (.event (eventFrame cfg now evt payload (v.lastDeliveredSeq.getD evt.subject.string 0)))) := by
  obtain ⟨hfollowing, -⟩ := h.following hopen
  have hmem : evt ∈ v.outbound := hqueue ▸ List.mem_cons_self
  have hrest : (v.deliver evt.subject.string evt.env.seq entry).outbound = rest :=
    congrArg List.tail hqueue
  have hsub (evt' : DeliveryEvent) (hevt' : evt' ∈ rest) : evt' ∈ v.outbound :=
    hqueue ▸ List.mem_cons_of_mem _ hevt'
  have hpos : 0 < evt.env.seq := (hfollowing.queued evt hmem).1
  have hgetD (k : String) : GoMap.getD (v.lastDeliveredSeq.insert evt.subject.string evt.env.seq) k 0 =
      if k = evt.subject.string then evt.env.seq else v.lastDeliveredSeq.getD k 0 :=
    GoMap.getD_insert _ _ _ _ _
  generalize hf : eventFrame cfg now evt payload (v.lastDeliveredSeq.getD evt.subject.string 0) = f
  have hsubject : f.subject = evt.subject.string := hf ▸ rfl
  have hseq : f.seq = evt.env.seq := hf ▸ rfl
  have hprev : f.prevSeq = v.lastDeliveredSeq.getD evt.subject.string 0 := hf ▸ rfl
  have hsame (htracks : client.Tracks (subjectID64 evt.subject.string)) :
      (observe client (v.written ++ [.event f])).lastSeqBySub
        (subjectID64 evt.subject.string) = evt.env.seq := by
    rw [observe_event, hsubject, hseq]
    exact lastSeqBySub_of_tracks hpos htracks
  have hother (k : String) (hk : subjectID64 k ≠ subjectID64 evt.subject.string) :
      (observe client (v.written ++ [.event f])).lastSeqBySub (subjectID64 k) =
        (observe client v.written).lastSeqBySub (subjectID64 k) := by
    rw [observe_event, hsubject]
    exact lastSeqBySub_of_ne hk
  refine ⟨fun hnone => ?_, .inr ⟨⟨fun k htracks hk => ?_, fun k hk => ?_, fun evt' hevt' k hk => ?_,
    fun evt' hevt' => ?_, fun hnone k htracks => ?_, hfollowing.single, hfollowing.provided,
    hfollowing.cached⟩, ⟨nofun, nofun, nofun, nofun⟩⟩⟩
  · change (observe client (v.written ++ [.event f])).Quiet
    rw [observe_event, hsubject, hseq, hprev]
    refine quiet_applyParsedResult (h.1 hnone) (fun htracks => ?_)
      (fun htracks hlast => hfollowing.remembered _ htracks hlast) rfl
    have hnear := hfollowing.near hnone _ htracks
    rw [hqueue, queuedSeqs_cons_self] at hnear
    exact hnear.1
  · change _ = GoMap.getD (v.lastDeliveredSeq.insert _ _) k 0
    change 0 < GoMap.getD (v.lastDeliveredSeq.insert _ _) k 0 at hk
    rw [hgetD] at hk ⊢
    split_ifs at hk ⊢ with hkey
    · subst hkey
      exact hsame htracks
    · -- the subject has been delivered before, so its identifier is its own
      have hid : subjectID64 k ≠ subjectID64 evt.subject.string := fun hid =>
        hkey (hfollowing.apart evt hmem k (List.mem_append_left _ (hfollowing.named k hk)) hid)
      exact (hother k hid).trans (hfollowing.remembered k htracks hk)
  · change 0 < GoMap.getD (v.lastDeliveredSeq.insert _ _) k 0 at hk
    change k ∈ eventNames (v.written ++ [.event f])
    rw [hgetD] at hk
    rw [eventNames_concat]
    split_ifs at hk with hkey
    · rw [hkey, ← hsubject]
      exact List.mem_append_right _ List.mem_cons_self
    · exact List.mem_append_left _ (hfollowing.named k hk)
  · change evt' ∈ (v.deliver evt.subject.string evt.env.seq entry).outbound at hevt'
    change k ∈ eventNames (v.written ++ [.event f]) ++
      (v.deliver evt.subject.string evt.env.seq entry).outbound.map _ at hk
    rw [hrest] at hevt' hk
    refine hfollowing.apart evt' (hsub evt' hevt') k ?_
    -- the subject of the event has moved from the queue to the frames
    rw [hqueue, List.map_cons, ← hsubject]
    rwa [eventNames_concat, List.append_assoc] at hk
  · change evt' ∈ (v.deliver evt.subject.string evt.env.seq entry).outbound at hevt'
    rw [hrest] at hevt'
    exact hfollowing.queued evt' (hsub evt' hevt')
  · change Near _ (queuedSeqs k (v.deliver evt.subject.string evt.env.seq entry).outbound)
    rw [hrest]
    have hnear := hfollowing.near hnone k htracks
    rw [hqueue] at hnear
    by_cases hkey : evt.subject.string = k
    · subst hkey
      rw [queuedSeqs_cons_self] at hnear
      exact (hsame htracks).symm ▸ hnear.2
    · rw [queuedSeqs_cons_of_ne rest hkey] at hnear
      by_cases hid : subjectID64 k = subjectID64 evt.subject.string
      · -- no other queued event has the identifier
        rw [queuedSeqs_eq_nil fun evt' hevt' heq => hkey ?_]
        · trivial
        · refine (hfollowing.apart evt hmem k ?_ hid).symm
          exact List.mem_append_right _ (heq ▸ List.mem_map_of_mem (hsub evt' hevt'))
      · exact (hother k hid).symm ▸ hnear

/-- Every move keeps the contract. -/
theorem OnWatch.move
    (h : OnWatch client cfg msg v) (hjson : cfg.preferProto = false) (hsilent : SilentProvider cfg)
    (hplain : msg.Plain) (hmove : Move cfg now msg v v') : OnWatch client cfg msg v' := by
  have hcached := fun hopen => (h.following hopen).1.cached
  cases hmove with
  | shut hclosed hwritten _ _ hdrops =>
    refine ⟨fun hnone => ?_, .inl hclosed⟩
    rw [hwritten]
    exact h.1 (by omega)
  | control f _ hf =>
    have hmeta : streamMeta client f = none := by
      cases f with
      | event _ | snapshot _ => cases hf
      | _ => rfl
    exact h.write (unchecked_of_none hmeta) rfl rfl rfl (fun _ _ => rfl) rfl rfl (fun _ _ => id)
      rfl hcached
  | negotiated _ hmsg => exact absurd hmsg hplain.1
  | asked answers hanswers =>
    refine h.keep rfl rfl rfl rfl (fun _ _ => rfl) (List.Sublist.refl _) (fun hnone => ⟨hnone, rfl⟩)
      (fun _ _ => id) (fun hopen p hp => ?_) hcached
    obtain hp | hp := List.mem_append.mp hp
    · exact (h.following hopen).1.provided p hp
    · obtain ⟨-, -, provider, n, hprovider, hraw⟩ := hanswers p hp
      obtain ⟨raw, husable, hseq⟩ := hsilent provider hprovider n p.subject
      rw [hraw, usablePayload, Option.filter_some] at husable
      split_ifs at husable
      exact Option.some.inj husable ▸ hseq
  | counted =>
    exact h.keep rfl rfl rfl rfl (fun _ _ => rfl) (List.Sublist.refl _) (fun hnone => ⟨hnone, rfl⟩)
      (fun _ _ => id) (fun hopen => (h.following hopen).1.provided) hcached
  | hot subject raw hopen _ hraw =>
    exact h.write (unchecked_snapshot ((h.following hopen).1.provided _ hraw)) rfl rfl rfl
      (fun _ _ => rfl) rfl rfl (fun _ _ => id) rfl hcached
  | lastEvent subject entry hopen hmsg hhot hentry =>
    have hseq : entry.seq ≤ 0 := by
      obtain ⟨hflush, hnone⟩ | ⟨provider, n, hprovider, hunusable⟩ := hhot
      · exact (h.following hopen).2.requested subject (SessionMsg.requested_eq_some hmsg hflush)
          hnone entry hentry
      · obtain ⟨raw, husable, -⟩ := hsilent provider hprovider n subject
        rw [hunusable] at husable
        cases husable
    exact h.write (unchecked_snapshot hseq) rfl rfl rfl (fun _ _ => rfl) rfl rfl (fun _ _ => id)
      rfl hcached
  | lookedUp cache cache' hcache hmem =>
    refine h.keep rfl rfl rfl rfl (fun _ _ => rfl) (List.Sublist.refl _) (fun hnone => ⟨hnone, rfl⟩)
      (fun _ _ => id) (fun hopen => (h.following hopen).1.provided) (fun hopen c hc e he => ?_)
    obtain rfl := Option.some.inj hc
    exact hcached hopen cache hcache e (hmem e he)
  | replayed subject cache e hopen _ hcache hmem =>
    exact h.write (unchecked_snapshot (hcached hopen cache hcache e hmem)) rfl rfl rfl
      (fun _ _ => rfl) rfl rfl (fun _ _ => id) rfl hcached
  | cached subject raw cache hopen _ hraw hcache =>
    have hseq : (hotSnapshotRangeItem cfg raw).seq ≤ 0 := (h.following hopen).1.provided _ hraw
    refine h.write (unchecked_snapshot hseq) rfl rfl rfl (fun _ _ => rfl) rfl rfl (fun _ _ => id)
      rfl (fun _ c hc e he => ?_)
    obtain rfl := Option.some.inj hc
    obtain rfl | he := LruCache.mem_entries_set he
    · exact hseq
    · exact hcached hopen cache hcache e he
  | subscribed =>
    exact h.write (unchecked_of_none rfl) rfl rfl rfl (fun _ _ => rfl) rfl rfl (fun _ _ => id)
      rfl hcached
  | resynced subject =>
    exact h.write (unchecked_of_none rfl) rfl rfl rfl (fun k => getD_erase_of_pos _ _) rfl rfl
      (fun _ _ => id) rfl hcached
  | unsubscribed subject =>
    refine h.write (unchecked_of_none rfl) rfl rfl rfl (fun k => getD_erase_of_pos _ _) rfl rfl
      (fun k entry hentry => ?_) rfl hcached
    have hlookup : some entry = _ :=
      hentry.symm.trans (GoMap.lookup_erase_ite v.lastSnapshot subject.string k)
    split_ifs at hlookup
    exact hlookup.symm
  | dropped queue hqueue =>
    exact h.keep rfl rfl rfl rfl (fun _ _ => rfl) hqueue nofun (fun _ _ => id)
      (fun hopen => (h.following hopen).1.provided) hcached
  | enqueued evt hmsg => exact h.enqueued hmsg
  | delivered evt rest payload hopen hmsg hqueue _ =>
    subst hmsg
    exact h.delivered payload _ hopen hqueue
  | packaged f hopen _ hform =>
    have hfollowing := (h.following hopen).1
    obtain hproto | hbatching | ⟨evt, hevt, hsignal⟩ := hform
    · rw [hjson] at hproto
      cases hproto
    · rw [hfollowing.single] at hbatching
      cases hbatching
    · rw [(hfollowing.queued evt hevt).2] at hsignal
      cases hsignal

end Moves

/-! ## Runs -/

/-- A session between two messages. -/
def Watched (client : ClientConfig) (cfg : SessionConfig) (s : SessionActor) : Prop :=
  s.Sane ∧ (s.dropCount = 0 → (observe client s.written).Quiet) ∧
    (s.closed = true ∨ Following client cfg (s.view []))

theorem Watched.step
    {client : ClientConfig} {cfg : SessionConfig} {s : SessionActor} {input : SessionInput}
    (h : s.Watched client cfg) (hjson : cfg.preferProto = false) (hsilent : SilentProvider cfg)
    (hplain : input.msg.Plain) (hcheckable : s.Checkable client cfg input) :
    (s.step cfg input).Watched client cfg := by
  obtain ⟨hsane, hquiet, hfollowing⟩ := h
  obtain ⟨hcache, hrequested, hevent⟩ := hcheckable
  have hbefore : OnWatch client cfg input.msg
      (({ s with wireCache := input.cache } : SessionActor).view []) := by
    refine ⟨hquiet, hfollowing.imp_right fun h => ⟨⟨h.remembered, h.named, h.apart, h.queued, h.near,
      h.single, h.provided, hcache⟩, ⟨fun subject hsubject hnone => ?_, fun evt hevt => ?_,
      fun evt hevt => (hevent evt hevt).2.1, fun evt hevt _ => (hevent evt hevt).2.2⟩⟩⟩
    · exact hrequested subject hsubject (Option.isNone_iff_eq_none.mpr hnone)
    · exact ⟨(hevent evt hevt).1, hplain.2 evt hevt⟩
  obtain ⟨hsane', hafter⟩ :=
    step_invariant hsane (fun v v' hmove hv => hv.move hjson hsilent hplain hmove) hbefore
  exact ⟨hsane', hafter.1, hafter.2.imp_right And.left⟩

theorem watched_fresh (client : ClientConfig) (cfg : SessionConfig) : Watched client cfg {} := by
  refine ⟨fun hnil => ?_, fun _ => ⟨rfl, rfl, rfl⟩, .inr ⟨fun k _ hk => ?_, fun k hk => ?_, nofun,
    nofun, fun _ _ _ => trivial, rfl, nofun, nofun⟩⟩
  · cases hnil
  · exact absurd hk (lt_irrefl 0)
  · exact absurd hk (lt_irrefl 0)

/--
A session sends plain messages as JSON and has no provider, or one that always has a
snapshot without a number.  In every run of it whose steps are checkable, the checks of
the client report nothing in any state reached without a drop.
-/
theorem quiet_of_checkable
    (client : ClientConfig) (cfg : SessionConfig) (inputs : List SessionInput)
    (hjson : cfg.preferProto = false) (hsilent : SilentProvider cfg)
    (hplain : ∀ input ∈ inputs, input.msg.Plain)
    (hcheckable : Always (step cfg) (Checkable client cfg) {} inputs) :
    ∀ inputs', inputs' <+: inputs → (run (step cfg) {} inputs').dropCount = 0 →
      (observe client (run (step cfg) {} inputs').written).Quiet := by
  intro inputs' hinitial hnone
  have hwatched : Watched client cfg (run (step cfg) {} inputs') :=
    invariant_of_prefix (fun s input hs hinput => hs.step hjson hsilent hinput.1 hinput.2)
      (watched_fresh client cfg) (always_and hcheckable hplain) hinitial
  exact hwatched.2.1 hnone

/-- A client that is subscribed to every subject and receives no order books. -/
def openClient : ClientConfig where
  subscribed _ := true
  isBook _ := false

/-- Events of a subject whose snapshots carry no number. -/
def numberedRun : List SessionInput :=
  atOnce [request "subscribe" trades, delivery trades 1, delivery trades 2, .flush,
    request "resync" trades, delivery trades 3, .flush]

theorem silentProvider_hotConfig : SilentProvider hotConfig := by
  intro provider hprovider n subject
  obtain rfl := Option.some.inj hprovider
  have hempty : usablePayload (some [123, 125]) = some [123, 125] ∧
      (hotSnapshotRangeItem hotConfig [123, 125]).seq ≤ 0 := by
    decide +kernel
  exact ⟨[123, 125], hempty⟩

theorem quiet_numberedRun :
    Always (step hotConfig) (Checkable openClient hotConfig) {} numberedRun ∧
      (run (step hotConfig) {} numberedRun).written.length = 7 ∧
      (observe openClient (run (step hotConfig) {} numberedRun).written).Quiet := by
  have hchecked : hotConfig.preferProto = false ∧
      (∀ input ∈ numberedRun, input.msg.Plain) ∧
      Always (step hotConfig) (Checkable openClient hotConfig) {} numberedRun ∧
      (run (step hotConfig) {} numberedRun).written.length = 7 ∧
      (run (step hotConfig) {} numberedRun).dropCount = 0 := by
    decide +kernel
  obtain ⟨hjson, hplain, hcheckable, hlength, hnone⟩ := hchecked
  exact ⟨hcheckable, hlength, quiet_of_checkable openClient hotConfig numberedRun hjson
    silentProvider_hotConfig hplain hcheckable _ List.prefix_rfl hnone⟩

/-- A resync after two events; the snapshot is the last event, and the first snapshot. -/
def lateResync : List SessionInput :=
  atOnce [request "subscribe" trades, delivery trades 1, delivery trades 2, .flush,
    request "resync" trades]

/-- The numbers of a subject increase by more than the tolerance. -/
def sparseRun : List SessionInput :=
  atOnce [request "subscribe" trades, delivery trades 1, delivery trades 20, .flush]

theorem not_quiet_lateResync :
    ((run (step plainConfig) {} lateResync).dropCount = 0 ∧
      (observe openClient (run (step plainConfig) {} lateResync).written).snapshotSeqViolations
        = 1) ∧
    ((run (step plainConfig) {} sparseRun).dropCount = 0 ∧
      (observe openClient (run (step plainConfig) {} sparseRun).written).gapDesyncs = 1) := by
  decide +kernel

end SessionActor
end Delivery
end StreamAnalytics
