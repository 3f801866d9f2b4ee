import StreamAnalytics.Shared.BoundedMapLease
import StreamAnalytics.Marketdata.Ingest

/-!
# Idempotency of the ingest use case

A stream commits the sequence number and the key of an event before the event is
published.  The invariant `Remembered` says where the remembered keys come from:
each belongs to an accepted event that was published, or it contains a sequence
number that the stream has passed.  The invariant `Numbered` says that the
published envelopes carry, in order, numbers of the sequencer.
-/

namespace StreamAnalytics
namespace Marketdata
namespace IngestMarketData

open Runs Prog InstrumentStream

variable {P : Type} {uc uc' : IngestMarketData P} {s : InstrumentStream} {req : IngestRequest P}

/-! ## One request -/

/-- The draft of a request and the stream it is given to, with its position. -/
def attempt (uc : IngestMarketData P) (req : IngestRequest P) :
    Option (Nat × InstrumentStream × EventDraft) :=
  match prepare req uc with
  | (_, .error _) => none
  | (uc', .ok (ref, _, d)) => uc'.heap[ref]?.map fun s => (ref, s, d)

/-- The key under which the stream reports a request as a duplicate, if it does. -/
def duplicateKey (uc : IngestMarketData P) (req : IngestRequest P) : Option String :=
  (attempt uc req).bind fun a =>
    match (buildEnvelope a.2.2 a.2.1).2 with
    | .ok _ => none
    | .error p =>
      if p = duplicateProblem (a.2.1.keySource a.2.2).key then
        some (a.2.1.keySource a.2.2).key
      else none

/-- An envelope with the key has been published. -/
def HasPublished (uc : IngestMarketData P) (key : String) : Prop :=
  key ∈ uc.published.map fun p => p.2.idempotencyKey

/-- Every position in the map of streams is that of a stream with the same identity. -/
def Filed (uc : IngestMarketData P) : Prop :=
  uc.streams.Entries fun id ref => ∃ s, uc.heap[ref]? = some s ∧ s.id = id

/-- What the steps before `BuildEnvelope` can change. -/
structure Readied (uc uc' : IngestMarketData P) : Prop where
  filed : uc'.Filed
  published : uc'.published = uc.published
  accepted : uc'.accepted = uc.accepted
  publisher : uc'.publisher = uc.publisher
  publisherCalls : uc'.publisherCalls = uc.publisherCalls
  heap : uc'.heap = uc.heap ∨ ∃ s, s.seen = ∅ ∧ uc'.heap = uc.heap ++ [s]

theorem Readied.refl (h : uc.Filed) : Readied uc uc := ⟨h, rfl, rfl, rfl, rfl, .inl rfl⟩

/-- A new stream remembers nothing. -/
theorem seen_create {rawVenue rawInstrument rawMarketType : String} {dedupWindow : Int}
    (h : InstrumentStream.create rawVenue rawInstrument rawMarketType dedupWindow = .ok s) :
    s.seen = ∅ :=
  (create_eq_ok h).2.2.1

theorem post_getOrCreateStream (h : uc.Filed) (rawVenue rawInstrument rawMarketType : String) :
    Post
      (fun r uc' => Readied uc uc' ∧ uc'.numbers = uc.numbers ∧
        ∃ s, uc'.heap[r.1]? = some s ∧ s.id = r.2)
      (fun _ uc' => Readied uc uc' ∧ uc'.numbers = uc.numbers)
      (getOrCreateStream rawVenue rawInstrument rawMarketType uc) := by
  unfold getOrCreateStream now
  rw [get_bind_apply]
  cases hcreate : InstrumentStream.create rawVenue rawInstrument rawMarketType uc.dedupWindow with
  | error p => exact .error ⟨.refl h, rfl⟩
  | ok tmp =>
    have hgot := BoundedMap.Entries.get h (uc.clock uc.readings) tmp.id
    rw [lift_ok_bind_apply, act_bind_apply, act_bind_apply]
    dsimp only
    cases hexisting : (uc.streams.get (uc.clock uc.readings) tmp.id).1 with
    | some ref => exact .ok ⟨⟨hgot, rfl, rfl, rfl, rfl, .inl rfl⟩, rfl, h.of_get hexisting⟩
    | none =>
      refine .ok ⟨⟨BoundedMap.Entries.put (hgot.mono ?_) _ ?_, rfl, rfl, rfl, rfl,
        .inr ⟨tmp, seen_create hcreate, rfl⟩⟩, rfl, tmp, ?_, rfl⟩
      · rintro id ref ⟨s, hs, hid⟩
        refine ⟨s, ?_, hid⟩
        rw [List.getElem?_append_left (List.getElem?_eq_some_iff.mp hs).1]
        exact hs
      · exact ⟨tmp, List.getElem?_concat_length, rfl⟩
      · exact List.getElem?_concat_length

theorem post_next (uc : IngestMarketData P) (id : StreamID) :
    Post
      (fun n uc' => uc' = { uc with
        sequencerCalls := uc.sequencerCalls + 1
        numbers := uc.numbers ++ [⟨id.venue, id.sequencerInstrumentKey, n⟩] })
      (fun _ uc' => uc' = { uc with sequencerCalls := uc.sequencerCalls + 1 })
      (next id uc) := by
  unfold next
  rw [get_bind_apply, modify_bind_apply]
  cases uc.sequencer uc.sequencerCalls with
  | error p => exact .error rfl
  | ok n => exact .ok rfl

theorem newSequence_eq {n seq : Int} (h : newSequence n = .ok seq) : seq = n := by
  unfold newSequence at h
  split at h
  · cases h
  · cases h
    rfl

theorem post_prepare (h : uc.Filed) (req : IngestRequest P) :
    Post
      (fun r uc' => Readied uc uc' ∧ ∃ s, uc'.heap[r.1]? = some s ∧ s.id = r.2.1 ∧
        uc'.numbers = uc.numbers ++ [⟨s.id.venue, s.id.sequencerInstrumentKey, r.2.2.seq⟩] ∧
        r.2.2.sourceIdempotencyKey = req.idempotencyKey)
      (fun _ uc' => Readied uc uc' ∧ uc.numbers <+: uc'.numbers)
      (prepare req uc) := by
  unfold prepare now
  rw [get_bind_apply]
  cases uc.prepareRequest req with
  | error p => exact .error ⟨.refl h, List.prefix_rfl⟩
  | ok r =>
    rw [lift_ok_bind_apply]
    refine Post.bind ((post_getOrCreateStream h req.venue req.instrument
      req.marketType).imp (fun _ _ => id) ?_) ?_
    · rintro _ _ ⟨hreadied, hnumbers⟩
      exact ⟨hreadied, hnumbers ▸ List.prefix_rfl⟩
    · rintro ⟨ref, id⟩ uc' ⟨hreadied, hnumbers, s, hs, rfl⟩
      have hsame : uc.numbers <+: uc'.numbers := hnumbers ▸ List.prefix_rfl
      dsimp only
      rw [act_bind_apply]
      dsimp only
      -- The three fallible steps: the time stamp, the sequencer, the check of its number.
      cases newTimestamp (GoTime.unixMilli (uc'.clock uc'.readings)) with
      | error p => exact .error ⟨{ hreadied with }, hsame⟩
      | ok tsIngest =>
        rw [lift_ok_bind_apply]
        refine Post.bind ((post_next _ s.id).imp (fun _ _ => id) ?_) ?_
        · rintro _ _ rfl
          exact ⟨{ hreadied with }, hsame⟩
        · rintro n _ rfl
          cases hseq : newSequence n with
          | error p => exact .error ⟨{ hreadied with }, hsame.trans (List.prefix_append _ _)⟩
          | ok seq =>
            obtain rfl := newSequence_eq hseq
            refine .ok ⟨{ hreadied with }, s, hs, rfl, ?_, rfl⟩
            exact congrArg (· ++ _) hnumbers

theorem withMetadata_eq (req : IngestRequest P) (env : Envelope) :
    ∃ metadata, withMetadata req env = { env with metadata := metadata } := by
  unfold withMetadata
  split_ifs
  · exact ⟨env.metadata, rfl⟩
  · exact ⟨req.metadata, rfl⟩

/-! ## The outcomes of a request -/

/-- What `BuildEnvelope` does with a stream and a draft. -/
inductive Built (s : InstrumentStream) (d : EventDraft) :
    InstrumentStream × Except Problem Envelope → Prop where
  | refused
      {s' : InstrumentStream} {p : Problem}
      (hid : s'.id = s.id) (hlast : s'.lastSeq = s.lastSeq) (hseen : s'.seen = s.seen)
      (hduplicate : p = duplicateProblem (s.keySource d).key →
        ¬ (d.seq ≤ s.lastSeq ∧ 0 < s.lastSeq) ∧ (s.keySource d).hash ∈ s.seen) :
      Built s d (s', .error p)
  | accepted
      {s' : InstrumentStream} {env : Envelope}
      (hid : s'.id = s.id) (hlast : s'.lastSeq = d.seq)
      (hseen : ∀ h, h ∈ s'.seen → h ∈ s.seen ∨ h = (s.keySource d).hash)
      (horder : ¬ (d.seq ≤ s.lastSeq ∧ 0 < s.lastSeq))
      (hkey : env.idempotencyKey = (s.keySource d).key)
      (hvenue : env.venue = s.id.venue) (hinstrument : env.instrument = s.id.instrument)
      (htype : env.type = d.eventType) (hseq : env.seq = d.seq) :
      Built s d (s', .ok env)

theorem mem_seen_recordSeen
    {hash h : UInt64} (hmem : h ∈ (s.recordSeen hash).seen) : h ∈ s.seen ∨ h = hash := by
  unfold recordSeen at hmem
  dsimp only at hmem
  rw [AList.mem_insert] at hmem
  obtain rfl | hmem := hmem
  · exact .inr rfl
  · left
    split_ifs at hmem
    · cases hord : s.seenOrd with
      | nil =>
        rw [hord] at hmem
        exact hmem
      | cons oldest rest =>
        rw [hord] at hmem
        exact (AList.mem_erase.mp hmem).2
    · exact hmem

theorem built
    (s : InstrumentStream) (d : EventDraft) : Built s d (buildEnvelope d s) := by
  unfold buildEnvelope
  by_cases horder : d.seq ≤ s.lastSeq ∧ 0 < s.lastSeq
  · rw [if_pos horder]
    refine .refused rfl rfl rfl fun h => ?_
    exact absurd (congrArg Problem.code h) (by simp [duplicateProblem, Problem.newf,
      Problem.withDetail])
  · rw [if_neg horder]
    by_cases hseen : (s.keySource d).hash ∈ s.seen
    · rw [if_pos hseen]
      exact .refused rfl rfl rfl fun _ => ⟨horder, hseen⟩
    · rw [if_neg hseen]
      split
      · rename_i p hvalidate
        refine .refused rfl rfl rfl fun h => ?_
        have hcode := Envelope.code_of_validate hvalidate
        rw [h] at hcode
        cases hcode
      · rename_i env hvalidate
        obtain ⟨contentType, rfl⟩ := Envelope.eq_of_validate hvalidate
        exact .accepted (recordSeen_id _ _) (recordSeen_lastSeq _ _)
          (fun h => mem_seen_recordSeen) horder rfl rfl rfl rfl rfl

/-- What a request does, by the steps it reaches. -/
inductive Executed (uc : IngestMarketData P) (req : IngestRequest P) :
    IngestMarketData P → Prop where
  | unprepared
      {uc' : IngestMarketData P}
      (hattempt : attempt uc req = none)
      (hready : Readied uc uc')
      (hnumbers : uc.numbers <+: uc'.numbers) :
      Executed uc req uc'
  | refused
      {uc' : IngestMarketData P} {ref : Nat} {s s' : InstrumentStream} {d : EventDraft} {p : Problem}
      (hattempt : attempt uc req = some (ref, s, d))
      (hready : Readied uc uc')
      (hnumbers : uc'.numbers =
        uc.numbers ++ [⟨s.id.venue, s.id.sequencerInstrumentKey, d.seq⟩])
      (hs : uc'.heap[ref]? = some s)
      (hbuild : buildEnvelope d s = (s', .error p)) :
      Executed uc req { uc' with heap := uc'.heap.set ref s' }
  | accepted
      {uc' : IngestMarketData P} {ref : Nat} {s s' : InstrumentStream} {d : EventDraft}
      {env : Envelope}
      (hattempt : attempt uc req = some (ref, s, d))
      (hready : Readied uc uc')
      (hnumbers : uc'.numbers =
        uc.numbers ++ [⟨s.id.venue, s.id.sequencerInstrumentKey, d.seq⟩])
      (hsource : d.sourceIdempotencyKey = req.idempotencyKey)
      (hs : uc'.heap[ref]? = some s)
      (hbuild : buildEnvelope d s = (s', .ok env)) :
      Executed uc req
        { uc' with
          heap := uc'.heap.set ref s'
          accepted := uc'.accepted ++ [(ref, s.keySource d)]
          publisherCalls := uc'.publisherCalls + 1
          published := uc'.published ++
            if uc.publisher uc.publisherCalls = none then [(s.id, withMetadata req env)] else [] }

theorem publish_state (uc : IngestMarketData P) (id : StreamID) (env : Envelope) :
    (publish id env uc).1 =
      { uc with
        publisherCalls := uc.publisherCalls + 1
        published := uc.published ++
          if uc.publisher uc.publisherCalls = none then [(id, env)] else [] } := by
  unfold publish
  rw [get_bind_apply, modify_bind_apply]
  cases uc.publisher uc.publisherCalls with
  | none => rfl
  | some p =>
    rw [if_neg (by simp), List.append_nil]
    rfl

theorem executed (h : uc.Filed) (req : IngestRequest P) : Executed uc req (uc.step req) := by
  have hprepare := post_prepare h req
  have hattempt := attempt.eq_1 uc req
  have hstep : uc.step req = (execute req uc).1 := rfl
  unfold execute at hstep
  generalize hrun : prepare req uc = o at hprepare hattempt
  cases hprepare with
  | error hready =>
    rw [hstep, bind_apply_error hrun]
    exact .unprepared hattempt hready.1 hready.2
  | @ok r uc' hready =>
    obtain ⟨ref, id, d⟩ := r
    obtain ⟨hready, s, hs, rfl, hnumbers, hsource⟩ := hready
    dsimp only at hattempt hs
    rw [hs, Option.map_some] at hattempt
    rw [hstep, bind_apply_ok hrun]
    dsimp only
    rcases hbuild : buildEnvelope d s with ⟨s', p | env⟩
    · have : build ref d uc' = ({ uc' with heap := uc'.heap.set ref s' }, .error p) := by
        simp only [build, hs, hbuild]
      rw [bind_apply_error this]
      exact .refused hattempt hready hnumbers hs hbuild
    · have : build ref d uc' = ({ uc' with
          heap := uc'.heap.set ref s'
          accepted := uc'.accepted ++ [(ref, s.keySource d)] }, .ok env) := by
        simp only [build, hs, hbuild]
      rw [bind_apply_ok this, publish_state]
      have haccepted := Executed.accepted hattempt hready hnumbers hsource hs hbuild
      rw [← hready.publisher, ← hready.publisherCalls] at haccepted
      exact haccepted

/-! ## Duplicates -/

/--
The hash of the key is that of no other key the stream has accepted, and if the
stream accepts the request then it is published, or its key is derived from a
positive sequence number.
-/
def Dependable (uc : IngestMarketData P) (req : IngestRequest P) : Prop :=
  ∀ a ∈ attempt uc req,
    (∀ p ∈ uc.accepted, p.1 = a.1 → p.2.hash = (a.2.1.keySource a.2.2).hash →
      p.2 = a.2.1.keySource a.2.2) ∧
    ((buildEnvelope a.2.2 a.2.1).2.isOk = true →
      uc.publisher uc.publisherCalls = none ∨
        (a.2.2.sourceIdempotencyKey = "" ∧ 0 < a.2.2.seq))

instance (uc : IngestMarketData P) (req : IngestRequest P) : Decidable (Dependable uc req) :=
  inferInstanceAs (Decidable (∀ a ∈ attempt uc req, _ ∧ (_ → _)))

/-- A key that the stream at `ref` has accepted and that needs no second attempt. -/
def Settled (uc : IngestMarketData P) (s : InstrumentStream) (src : KeySource) : Prop :=
  uc.HasPublished src.key ∨
    ∃ venue instrument eventType seq,
      src = .derived venue instrument eventType seq ∧ 0 < seq ∧ seq ≤ s.lastSeq

/-- Where the remembered keys come from. -/
structure Remembered (uc : IngestMarketData P) : Prop where
  filed : uc.Filed
  seen : ∀ (ref : Nat) s h, uc.heap[ref]? = some s → h ∈ s.seen →
    ∃ src, (ref, src) ∈ uc.accepted ∧ src.hash = h ∧ uc.Settled s src

theorem HasPublished.mono
    {key : String} (h : uc.HasPublished key) (hsub : uc.published ⊆ uc'.published) :
    uc'.HasPublished key :=
  List.map_subset _ hsub h

theorem Remembered.readied (h : Remembered uc) (hready : Readied uc uc') : Remembered uc' := by
  refine ⟨hready.filed, fun ref s hash hs hmem => ?_⟩
  have hbefore : uc.heap[ref]? = some s := by
    obtain heq | ⟨s', hempty, heq⟩ := hready.heap
    · rw [← heq]
      exact hs
    · rw [heq, List.getElem?_append] at hs
      split_ifs at hs
      · exact hs
      · -- The stream is the new one, which remembers nothing.
        obtain rfl : s' = s := List.mem_singleton.mp (List.mem_of_getElem? hs) |>.symm
        rw [hempty] at hmem
        exact absurd hmem (AList.notMem_empty hash)
  obtain ⟨src, hsrc, hhash, hsettled⟩ := h.seen ref s hash hbefore hmem
  refine ⟨src, hready.accepted ▸ hsrc, hhash, hsettled.imp_left fun hpublished => ?_⟩
  exact hpublished.mono (hready.published ▸ List.Subset.refl _)

/-- A stream may be replaced by one with the same identity. -/
theorem Filed.set {ref : Nat} {s' : InstrumentStream}
    (h : uc.Filed) (hs : uc.heap[ref]? = some s) (hid : s'.id = s.id)
    (hstreams : uc'.streams = uc.streams) (hheap : uc'.heap = uc.heap.set ref s') : uc'.Filed := by
  unfold Filed at h ⊢
  rw [hstreams, hheap]
  refine h.mono ?_
  rintro id r ⟨t, ht, rfl⟩
  by_cases hr : ref = r
  · subst hr
    obtain rfl : s = t := Option.some.inj (hs.symm.trans ht)
    exact ⟨s', by rw [List.getElem?_set_self (List.getElem?_eq_some_iff.mp hs).1], hid⟩
  · exact ⟨t, by rw [List.getElem?_set_ne hr, ht], rfl⟩

/-- The stream at `ref` is replaced, and what it remembers is accounted for. -/
theorem Remembered.set {ref : Nat} {s' : InstrumentStream}
    (h : Remembered uc) (hs : uc.heap[ref]? = some s) (hid : s'.id = s.id)
    (hstreams : uc'.streams = uc.streams) (hheap : uc'.heap = uc.heap.set ref s')
    (haccepted : uc.accepted ⊆ uc'.accepted) (hpublished : uc.published ⊆ uc'.published)
    (hseen : ∀ hash, hash ∈ s'.seen →
      ∃ src, (ref, src) ∈ uc'.accepted ∧ src.hash = hash ∧ uc'.Settled s' src) :
    Remembered uc' := by
  refine ⟨h.filed.set hs hid hstreams hheap, fun r t hash ht hmem => ?_⟩
  rw [hheap] at ht
  by_cases hr : ref = r
  · subst hr
    rw [List.getElem?_set_self (List.getElem?_eq_some_iff.mp hs).1] at ht
    cases ht
    exact hseen hash hmem
  · rw [List.getElem?_set_ne hr] at ht
    obtain ⟨src, hsrc, hhash, hsettled⟩ := h.seen r t hash ht hmem
    exact ⟨src, haccepted hsrc, hhash, hsettled.imp_left fun hkey => hkey.mono hpublished⟩

theorem Remembered.step
    (h : Remembered uc) (hreq : Dependable uc req) : Remembered (uc.step req) := by
  have hexec := executed h.filed req
  generalize uc.step req = uc' at hexec ⊢
  cases hexec with
  | unprepared hattempt hready hnumbers => exact h.readied hready
  | @refused uc' ref s s' d p hattempt hready hnumbers hs hbuild =>
    have hbuilt := built s d
    rw [hbuild] at hbuilt
    cases hbuilt with
    | refused hid hlast hseen hduplicate =>
      refine (h.readied hready).set hs hid rfl rfl (List.Subset.refl _) (List.Subset.refl _) ?_
      intro hash hmem
      obtain ⟨src, hsrc, hhash, hsettled⟩ :=
        (h.readied hready).seen ref s hash hs (hseen ▸ hmem)
      refine ⟨src, hsrc, hhash, ?_⟩
      unfold Settled
      rw [hlast]
      exact hsettled
  | @accepted uc' ref s s' d env hattempt hready hnumbers hsource hs hbuild =>
    have hbuilt := built s d
    have hcommitted : uc.publisher uc.publisherCalls = none ∨
        (d.sourceIdempotencyKey = "" ∧ 0 < d.seq) :=
      (hreq (ref, s, d) hattempt).2 (by rw [hbuild]; rfl)
    rw [hbuild] at hbuilt
    cases hbuilt with
    | accepted hid hlast hseen horder hkey hvenue hinstrument htype hseq =>
      refine (h.readied hready).set hs hid rfl rfl (List.subset_append_left _ _)
        (List.subset_append_left _ _) ?_
      intro hash hmem
      obtain hbefore | rfl := hseen hash hmem
      · obtain ⟨src, hsrc, hhash, hsettled⟩ := (h.readied hready).seen ref s hash hs hbefore
        refine ⟨src, List.mem_append_left _ hsrc, hhash, ?_⟩
        obtain hpublished | ⟨v, i, e, n, rfl, hpos, hle⟩ := hsettled
        · exact .inl (hpublished.mono (List.subset_append_left _ _))
        · -- The stream accepts only numbers above the last one.
          exact .inr ⟨v, i, e, n, rfl, hpos, by omega⟩
      · refine ⟨s.keySource d, List.mem_append_right _ (List.mem_singleton_self _), rfl, ?_⟩
        obtain hnone | ⟨hsource, hpos⟩ := hcommitted
        · left
          rw [HasPublished, if_pos hnone, List.map_append]
          obtain ⟨metadata, hmetadata⟩ := withMetadata_eq req env
          exact List.mem_append_right _ (by simp [hmetadata, hkey])
        · refine .inr ⟨s.id.venue, s.id.instrument, d.eventType, d.seq, ?_, hpos, hlast.ge⟩
          simp [keySource, hsource]

/-- The stream reports a duplicate only of a key that has been published. -/
theorem Remembered.duplicate {key : String} (h : Remembered uc) (hreq : Dependable uc req)
    (hkey : duplicateKey uc req = some key) : uc.HasPublished key := by
  obtain ⟨⟨ref, s, d⟩, hattempt, hkey⟩ := Option.bind_eq_some_iff.mp hkey
  have hexec := executed h.filed req
  generalize uc.step req = uc' at hexec
  cases hexec with
  | unprepared hnone =>
    rw [hattempt] at hnone
    cases hnone
  | @accepted uc' ref' s' _ d' env hattempt' hready hnumbers hsource hs hbuild =>
    obtain ⟨rfl, rfl, rfl⟩ : ref = ref' ∧ s = s' ∧ d = d' := by
      simpa using hattempt.symm.trans hattempt'
    simp [hbuild] at hkey
  | @refused uc' ref' s' t d' p hattempt' hready hnumbers hs hbuild =>
    obtain ⟨rfl, rfl, rfl⟩ : ref = ref' ∧ s = s' ∧ d = d' := by
      simpa using hattempt.symm.trans hattempt'
    have hbuilt := built s d
    rw [hbuild] at hbuilt hkey
    cases hbuilt with
    | refused hid hlast hseen hduplicate =>
      dsimp only at hkey
      split_ifs at hkey with hp
      cases hkey
      obtain ⟨horder, hmem⟩ := hduplicate hp
      obtain ⟨src, hsrc, hhash, hsettled⟩ := (h.readied hready).seen ref s _ hs hmem
      obtain rfl : src = s.keySource d :=
        (hreq (ref, s, d) hattempt).1 (ref, src) (hready.accepted ▸ hsrc) rfl hhash
      obtain hpublished | ⟨v, i, e, n, hderived, hpos, hle⟩ := hsettled
      · exact hpublished.mono (hready.published ▸ List.Subset.refl _)
      · -- A derived key carries the number of the draft, which the stream has not passed.
        unfold keySource at hderived
        split_ifs at hderived
        cases hderived
        omega

theorem filed_create
    (cfg : IngestConfig) (encode : String → Int → String → P → Except Problem (List UInt8))
    (clock : Nat → Nat) (sequencer : Nat → Except Problem Int) (publisher : Nat → Option Problem) :
    (create cfg encode clock sequencer publisher).Filed :=
  ⟨(BoundedMap.configured_tracks _ _ (clock 0) true 1024 1000000000).indexed,
    fun _ _ h => nomatch h⟩

/--
If every accepted request with a key of its own is published at once, and keys do
not collide, then a request is reported as a duplicate only if an envelope with
its key has been published.
-/
theorem duplicate_only_if_published
    (cfg : IngestConfig) (encode : String → Int → String → P → Except Problem (List UInt8))
    (clock : Nat → Nat) (sequencer : Nat → Except Problem Int) (publisher : Nat → Option Problem)
    (reqs : List (IngestRequest P))
    (hreqs : Always step Dependable (create cfg encode clock sequencer publisher) reqs) :
    Always step (fun uc req => ∀ key, duplicateKey uc req = some key → uc.HasPublished key)
      (create cfg encode clock sequencer publisher) reqs := by
  refine always_of_always (I := Remembered) (fun uc req h hreq => h.step hreq)
    (fun uc req h hreq key hkey => h.duplicate hreq hkey) ?_ hreqs
  exact ⟨filed_create cfg encode clock sequencer publisher, fun ref s h hs => nomatch hs⟩

/-! ### Samples -/

/-- A trade with an idempotency key of its own. -/
def keyedTrade : IngestRequest Unit :=
  ⟨"binance", "BTCUSDT", "SPOT", "marketdata.trade", 1, 1700000000000, "trade-1", some (), ∅⟩

/-- The use case with the default limits, a clock that stands and a sequencer that counts. -/
def sampleIngest (publisher : Nat → Option Problem) : IngestMarketData Unit :=
  create ⟨0, 0, 0, "", none⟩ (fun _ _ _ _ => .ok [1]) (fun _ => 63835596800 * 1000000000)
    (fun n => .ok (n + 1)) publisher

theorem second_trade_is_duplicate :
    duplicateKey (step (sampleIngest fun _ => none) keyedTrade) keyedTrade = some "trade-1" ∧
      HasPublished (step (sampleIngest fun _ => none) keyedTrade) "trade-1" := by
  have hkey : duplicateKey (step (sampleIngest fun _ => none) keyedTrade) keyedTrade =
    some "trade-1" := by decide +kernel
  have hreqs : Always step Dependable (sampleIngest fun _ => none) [keyedTrade, keyedTrade] :=
    ⟨by decide +kernel, by decide +kernel, trivial⟩
  exact ⟨hkey, (duplicate_only_if_published _ _ _ _ _ _ hreqs).2.1 _ hkey⟩

/-- An event whose publication failed is refused when it is sent again. -/
theorem failed_publish_loses_event :
    duplicateKey (step (sampleIngest fun n => if n = 0 then some (.new .unavailable "down") else none)
      keyedTrade) keyedTrade = some "trade-1" ∧
    (run step (sampleIngest fun n => if n = 0 then some (.new .unavailable "down") else none)
      [keyedTrade, keyedTrade]).published.length = 0 := by
  decide +kernel

/-! ## Keys of the published envelopes -/

/-- What a request publishes, with the stream it comes from. -/
def publication (uc : IngestMarketData P) (req : IngestRequest P) : List (StreamID × Envelope) :=
  match attempt uc req with
  | none => []
  | some (_, s, d) =>
    match (buildEnvelope d s).2 with
    | .error _ => []
    | .ok env =>
      if uc.publisher uc.publisherCalls = none then [(s.id, withMetadata req env)] else []

/-- The fields of an envelope that its key is derived from. -/
def keyFields (e : Envelope) : String × String × String × Int :=
  (e.venue, e.instrument, e.type, e.seq)

/-- The key derived from the fields of an envelope. -/
def derivedKey (e : Envelope) : String := Fnv.idempotencyKeyFast e.venue e.instrument e.type e.seq

/-- The number of a published envelope, with the counter it is taken from. -/
def sequencerCall (p : StreamID × Envelope) : SequencerCall :=
  ⟨p.1.venue, p.1.sequencerInstrumentKey, p.2.seq⟩

/-- Every counter of the sequencer is strictly increasing. -/
def NumbersIncrease (uc : IngestMarketData P) : Prop :=
  uc.numbers.Pairwise fun a b =>
    a.venue = b.venue → a.instrumentKey = b.instrumentKey → a.seq < b.seq

/-- The hash is injective on the published envelopes. -/
def CollisionFree (uc : IngestMarketData P) : Prop :=
  ∀ p ∈ uc.published, ∀ q ∈ uc.published,
    derivedKey p.2 = derivedKey q.2 → keyFields p.2 = keyFields q.2

/-- The envelopes differ in a field of the key, unless their markets are the same. -/
def Apart (p q : StreamID × Envelope) : Prop :=
  p.1.marketType ≠ q.1.marketType → keyFields p.2 ≠ keyFields q.2

/--
A request publishes no envelope for which one of another market with the same
venue, instrument, event type and sequence number has been published.
-/
def SeparateMarkets (uc : IngestMarketData P) (req : IngestRequest P) : Prop :=
  ∀ p ∈ uc.published, ∀ q ∈ publication uc req, Apart p q

/-- The published envelopes carry, in order, numbers of the sequencer. -/
structure Numbered (uc : IngestMarketData P) : Prop where
  filed : uc.Filed
  sublist : (uc.published.map sequencerCall).Sublist uc.numbers
  stream : ∀ p ∈ uc.published, p.2.venue = p.1.venue ∧ p.2.instrument = p.1.instrument
  key : ∀ p ∈ uc.published, p.2.idempotencyKey = derivedKey p.2

theorem published_step (h : uc.Filed) (req : IngestRequest P) :
    (uc.step req).published = uc.published ++ publication uc req := by
  have hexec := executed h req
  generalize uc.step req = uc' at hexec ⊢
  unfold publication
  cases hexec with
  | unprepared hattempt hready hnumbers => simp [hattempt, hready.published]
  | refused hattempt hready hnumbers hs hbuild => simp [hattempt, hbuild, hready.published]
  | accepted hattempt hready hnumbers hsource hs hbuild => simp [hattempt, hbuild, hready.published]

theorem filed_step (h : uc.Filed) (req : IngestRequest P) : (uc.step req).Filed := by
  have hexec := executed h req
  generalize uc.step req = uc' at hexec ⊢
  cases hexec with
  | unprepared hattempt hready hnumbers => exact hready.filed
  | @refused uc' ref s s' d p hattempt hready hnumbers hs hbuild =>
    have hbuilt := built s d
    rw [hbuild] at hbuilt
    cases hbuilt with
    | refused hid => exact hready.filed.set hs hid rfl rfl
  | @accepted uc' ref s s' d env hattempt hready hnumbers hsource hs hbuild =>
    have hbuilt := built s d
    rw [hbuild] at hbuilt
    cases hbuilt with
    | accepted hid => exact hready.filed.set hs hid rfl rfl

theorem pairwise_publication {R : StreamID × Envelope → StreamID × Envelope → Prop}
    (uc : IngestMarketData P) (req : IngestRequest P) : (publication uc req).Pairwise R := by
  unfold publication
  split
  · exact .nil
  · split
    · exact .nil
    · split_ifs
      · exact List.pairwise_singleton _ _
      · exact .nil

/-- A request takes numbers of the sequencer, and publishes at most the last of them. -/
theorem numbers_step (h : uc.Filed) (req : IngestRequest P) :
    ∃ calls, (uc.step req).numbers = uc.numbers ++ calls ∧
      ((publication uc req).map sequencerCall).Sublist calls := by
  have hexec := executed h req
  generalize uc.step req = uc' at hexec ⊢
  unfold publication
  cases hexec with
  | unprepared hattempt hready hnumbers =>
    obtain ⟨calls, hcalls⟩ := hnumbers
    exact ⟨calls, hcalls.symm, by simp [hattempt]⟩
  | refused hattempt hready hnumbers hs hbuild => exact ⟨_, hnumbers, by simp [hattempt, hbuild]⟩
  | @accepted uc' ref s s' d env hattempt hready hnumbers hsource hs hbuild =>
    have hbuilt := built s d
    rw [hbuild] at hbuilt
    refine ⟨_, hnumbers, ?_⟩
    cases hbuilt with
    | accepted hid hlast hseen horder hkey hvenue hinstrument htype hseq =>
      simp only [hattempt, hbuild]
      split_ifs
      · obtain ⟨metadata, hmetadata⟩ := withMetadata_eq req env
        rw [List.map_singleton, sequencerCall, hmetadata, hseq]
      · exact List.nil_sublist _

/-- What is published names its stream and, without a key of its own, has the derived one. -/
theorem publication_fields {q : StreamID × Envelope}
    (h : uc.Filed) (hq : q ∈ publication uc req) (hkey : req.idempotencyKey = "") :
    (q.2.venue = q.1.venue ∧ q.2.instrument = q.1.instrument) ∧
      q.2.idempotencyKey = derivedKey q.2 := by
  have hexec := executed h req
  generalize uc.step req = uc' at hexec
  unfold publication at hq
  cases hexec with
  | unprepared hattempt hready hnumbers => simp [hattempt] at hq
  | refused hattempt hready hnumbers hs hbuild => simp [hattempt, hbuild] at hq
  | @accepted uc' ref s s' d env hattempt hready hnumbers hsource hs hbuild =>
    have hbuilt := built s d
    rw [hbuild] at hbuilt
    simp only [hattempt, hbuild] at hq
    split_ifs at hq
    · obtain rfl := List.mem_singleton.mp hq
      cases hbuilt with
      | accepted hid hlast hseen horder henvKey hvenue hinstrument htype hseq =>
        obtain ⟨metadata, hmetadata⟩ := withMetadata_eq req env
        have hderived : s.keySource d =
            .derived s.id.venue s.id.instrument d.eventType d.seq := by
          simp [keySource, hsource, hkey]
        rw [hmetadata, derivedKey, htype, hseq, hvenue, hinstrument, henvKey, hderived]
        exact ⟨⟨rfl, rfl⟩, rfl⟩
    · exact nomatch hq

theorem Numbered.step
    (h : Numbered uc) (hkey : req.idempotencyKey = "") : Numbered (uc.step req) := by
  obtain ⟨calls, hcalls, hsublist⟩ := numbers_step h.filed req
  refine ⟨filed_step h.filed req, ?_, ?_, ?_⟩
  · rw [published_step h.filed, hcalls, List.map_append]
    exact h.sublist.append hsublist
  · intro p hp
    rw [published_step h.filed] at hp
    exact (List.mem_append.mp hp).elim (h.stream p) fun hq =>
      (publication_fields h.filed hq hkey).1
  · intro p hp
    rw [published_step h.filed] at hp
    exact (List.mem_append.mp hp).elim (h.key p) fun hq =>
      (publication_fields h.filed hq hkey).2

/--
Envelopes of one market that differ as publications differ in a field of the key,
because they carry different numbers of one counter.
-/
theorem Numbered.pairwise_same_market (h : Numbered uc) (hnumbers : uc.NumbersIncrease) :
    uc.published.Pairwise fun p q =>
      p.1.marketType = q.1.marketType → keyFields p.2 ≠ keyFields q.2 := by
  have hpairs := List.pairwise_map.mp (hnumbers.sublist h.sublist)
  refine hpairs.imp_of_mem fun {p q} hp hq hlt hmarket hfields => ?_
  simp only [keyFields, Prod.mk.injEq] at hfields
  obtain ⟨hvenue, hinstrument, -, hseq⟩ := hfields
  have hstream := h.stream p hp
  have hstream' := h.stream q hq
  refine absurd (hlt ?_ ?_) (by simp [sequencerCall, hseq])
  · simp [sequencerCall, ← hstream.1, ← hstream'.1, hvenue]
  · simp [sequencerCall, StreamID.sequencerInstrumentKey, ← hstream.2, ← hstream'.2, hinstrument,
      hmarket]

/-- Without collisions the keys are distinct exactly when the fields are. -/
theorem Numbered.nodup_keys_iff (h : Numbered uc) (hhash : uc.CollisionFree) :
    (uc.published.map fun p => p.2.idempotencyKey).Nodup ↔
      uc.published.Pairwise fun p q => keyFields p.2 ≠ keyFields q.2 := by
  rw [List.Nodup, List.pairwise_map]
  refine List.Pairwise.iff_of_mem fun {p q} hp hq => not_congr ?_
  rw [h.key p hp, h.key q hq]
  refine ⟨hhash p hp q hq, fun hfields => ?_⟩
  simp only [keyFields, Prod.mk.injEq] at hfields
  obtain ⟨hvenue, hinstrument, htype, hseq⟩ := hfields
  rw [derivedKey, derivedKey, hvenue, hinstrument, htype, hseq]

/--
In a run of requests without keys of their own, the published keys are distinct
exactly when no request repeats the venue, the instrument, the event type and the
sequence number of an envelope of another market.
-/
theorem published_keys_nodup_iff
    (cfg : IngestConfig) (encode : String → Int → String → P → Except Problem (List UInt8))
    (clock : Nat → Nat) (sequencer : Nat → Except Problem Int) (publisher : Nat → Option Problem)
    (reqs : List (IngestRequest P)) (hkeys : ∀ req ∈ reqs, req.idempotencyKey = "")
    (hnumbers : NumbersIncrease (run step (create cfg encode clock sequencer publisher) reqs))
    (hhash : CollisionFree (run step (create cfg encode clock sequencer publisher) reqs)) :
    ((run step (create cfg encode clock sequencer publisher) reqs).published.map
        fun p => p.2.idempotencyKey).Nodup ↔
      Always step SeparateMarkets (create cfg encode clock sequencer publisher) reqs := by
  have hfiled := filed_create cfg encode clock sequencer publisher
  have hnumbered : Numbered (run step (create cfg encode clock sequencer publisher) reqs) := by
    refine invariant_of_always (P := fun _ req => req.idempotencyKey = "")
      (fun uc req h hkey => h.step hkey) ?_ ?_
    · exact ⟨hfiled, List.nil_sublist _, fun _ h => (nomatch h), fun _ h => (nomatch h)⟩
    · exact always_iff_forall_prefix.mpr fun _ req hinitial =>
        hkeys req (hinitial.subset (List.mem_append_right _ (List.mem_singleton_self _)))
  have hlog : (run step (create cfg encode clock sequencer publisher) reqs).published.Pairwise
        Apart ↔
      [].Pairwise Apart ∧
        Always step SeparateMarkets (create cfg encode clock sequencer publisher) reqs :=
    pairwise_log_iff (I := Filed) (fun uc req h => filed_step h req)
      (fun uc req h => published_step h req) pairwise_publication hfiled reqs
  rw [hnumbered.nodup_keys_iff hhash]
  refine Iff.trans ?_ (hlog.trans (and_iff_right List.Pairwise.nil))
  refine ⟨fun h => h.imp (S := Apart) fun hne _ => hne, fun h => ?_⟩
  refine (h.and (hnumbered.pairwise_same_market hnumbers)).imp fun {p q} hapart => ?_
  by_cases hmarket : p.1.marketType = q.1.marketType
  · exact hapart.2 hmarket
  · exact hapart.1 hmarket

/-- A trade of a market, numbered by the sequencer only. -/
def plainTrade (market : String) : IngestRequest Unit :=
  { keyedTrade with marketType := market, idempotencyKey := "" }

/-- The use case with a sequencer that counts the calls for each of two markets in turn. -/
def alternatingIngest : IngestMarketData Unit :=
  create ⟨0, 0, 0, "", none⟩ (fun _ _ _ _ => .ok [1]) (fun _ => 63835596800 * 1000000000)
    (fun n => .ok (n / 2 + 1)) (fun _ => none)

theorem trades_of_one_market_have_distinct_keys :
    ((run step (sampleIngest fun _ => none)
      [plainTrade "SPOT", plainTrade "SPOT"]).published.map fun p => p.2.idempotencyKey).Nodup := by
  refine (published_keys_nodup_iff _ _ _ _ _ _ ?_ ?_ ?_).mpr ⟨?_, ?_, trivial⟩
  · decide +kernel
  · unfold NumbersIncrease
    decide +kernel
  · unfold CollisionFree
    decide +kernel
  · unfold SeparateMarkets Apart
    decide +kernel
  · unfold SeparateMarkets Apart
    decide +kernel

/-- The first trades of the spot and of the futures market have the same key. -/
theorem spot_and_futures_share_key :
    NumbersIncrease (run step alternatingIngest
      [plainTrade "SPOT", plainTrade "USD_M_FUTURES"]) ∧
    CollisionFree (run step alternatingIngest
      [plainTrade "SPOT", plainTrade "USD_M_FUTURES"]) ∧
    ((run step alternatingIngest
      [plainTrade "SPOT", plainTrade "USD_M_FUTURES"]).published.map
        fun p => p.2.idempotencyKey).length = 2 ∧
    ¬ ((run step alternatingIngest
      [plainTrade "SPOT", plainTrade "USD_M_FUTURES"]).published.map
        fun p => p.2.idempotencyKey).Nodup := by
  unfold NumbersIncrease CollisionFree
  decide +kernel


end IngestMarketData
end Marketdata
end StreamAnalytics
