import StreamAnalytics.Delivery.RouterFanOut

/-!
# Stream states

The sequence state of a stream is created by the first envelope that a check or
a delivery number asks for, updated by later ones, and deleted by sweeps, by
size evictions and when the last subscriber of a subject leaves.

* `accepted_seqs_increase`: as long as the state is kept, accepted origin numbers
  increase, and a resync watermark stands.
* `stream_states_bounded_iff`: the number of states stays within its limit exactly
  as long as the delivery numbers find a state or room for one.
* `delivery_seqs_increase`: the delivery numbers of a subject increase as long as
  the state of its stream is not dropped.
-/

namespace StreamAnalytics
namespace Delivery

open GoStrings GoMap AList

/-! ## Decisions on one stream -/

namespace StreamState

variable (state : StreamState) (streamID : String) (env : Envelope)

/-- The three outcomes of the policy, with the state each leaves. -/
inductive Observed : Option String × StreamState → Prop where
  | accept
      (positive : 0 < env.seq)
      (fresh : state.lastOriginSeq ≤ 0 ∨ state.lastOriginSeq < env.seq)
      (beyond : state.pendingResyncWatermark ≤ 0 ∨ isSnapshotEventType env.type ∨
        state.pendingResyncWatermark < env.seq)
      (decided : (state.decide streamID env).action = .accept) :
      Observed (none, state.accepted streamID env)
  | convertToResync
      (reason : String)
      (positive : 0 < env.seq)
      (covers : env.seq ≤ (state.decide streamID env).resyncWatermark)
      (decided : (state.decide streamID env).action = .convertToResync) :
      Observed (some reason, state.resynced (state.decide streamID env).resyncWatermark)
  | drop
      (reason : String)
      (decided : (state.decide streamID env).action = .drop) :
      Observed (some reason, state)

theorem observed : Observed state streamID env (state.observe streamID env) := by
  have houtcome : Ownership.Outcome (state.policyInput streamID env) (state.decide streamID env) :=
    Ownership.outcome_decideMonotonic _
  unfold observe
  generalize hd : state.decide streamID env = d at houtcome ⊢
  cases houtcome with
  | accept hpositive hfresh hbeyond =>
    simp only [policyInput] at hpositive hfresh hbeyond
    exact .accept hpositive hfresh hbeyond (by rw [hd])
  | drop hdropped =>
    dsimp only
    rw [hdropped]
    exact .drop _ (by rw [hd, hdropped])
  | @convertToResync reason w hpositive hcovers =>
    simp only [policyInput] at hpositive hcovers
    have hresync : Observed state streamID env
        (some (observe.rejectReason (Ownership.resyncDecision reason w)),
          state.resynced (state.decide streamID env).resyncWatermark) :=
      .convertToResync _ hpositive (by rw [hd]; exact hcovers) (by rw [hd]; rfl)
    rw [hd] at hresync
    exact hresync

/-- What an observation does to the numbers that later decisions compare with. -/
theorem Observed.accepted_effect {state state' : StreamState} {streamID : String} {env : Envelope}
    (h : Observed state streamID env (none, state')) :
    0 < env.seq ∧ (state.lastOriginSeq ≤ 0 ∨ state.lastOriginSeq < env.seq) ∧
      (state.pendingResyncWatermark ≤ 0 ∨ isSnapshotEventType env.type ∨
        state.pendingResyncWatermark < env.seq) ∧
      state'.lastOriginSeq = env.seq ∧
      (state'.pendingResyncWatermark = state.pendingResyncWatermark ∨
        state.pendingResyncWatermark < env.seq) ∧
      (state.decide streamID env).action = .accept := by
  cases h with
  | accept hpositive hfresh hbeyond hdecided =>
    refine ⟨hpositive, hfresh, hbeyond, rfl, ?_, hdecided⟩
    unfold accepted
    dsimp only
    split_ifs with hcleared
    · exact .inr hcleared.2
    · exact .inl rfl

theorem Observed.rejected_effect
    {state state' : StreamState} {streamID : String} {env : Envelope} {reason : String}
    (h : Observed state streamID env (some reason, state')) :
    state'.lastOriginSeq = state.lastOriginSeq ∧
      state.pendingResyncWatermark ≤ state'.pendingResyncWatermark ∧
      ((state.decide streamID env).action = .convertToResync →
        0 < (state.decide streamID env).resyncWatermark ∧
          (state.decide streamID env).resyncWatermark ≤ state'.pendingResyncWatermark) := by
  cases h with
  | convertToResync reason hpositive hcovers hdecided =>
    exact ⟨rfl, Int.le_max_left _ _, fun _ => ⟨by omega, Int.le_max_right _ _⟩⟩
  | drop reason hdecided =>
    exact ⟨rfl, Int.le_refl _, fun hresync => nomatch hdecided.symm.trans hresync⟩

/-- An envelope without a stream identifier or a positive number is dropped. -/
theorem decide_invalid (hinvalid : trimSpace streamID = "" ∨ env.seq ≤ 0) :
    (state.decide streamID env).action = .drop := by
  have hflag : (state.policyInput streamID env).isInvalid = true := by
    refine eq_true_of_ne_false fun hvalid => ?_
    obtain ⟨hid, hseq⟩ := Ownership.isInvalid_eq_false_iff.mp hvalid
    exact hinvalid.elim hid (Int.not_le.mpr hseq)
  unfold decide Ownership.decideMonotonic
  rw [if_pos hflag]
  rfl

/-- The time of the last envelope plays no role in a decision. -/
theorem observe_lastSeenAt (now : Nat) :
    StreamState.observe { state with lastSeenAt := now } streamID env =
      ((state.observe streamID env).1,
        { (state.observe streamID env).2 with lastSeenAt := now }) := by
  have hdecide : StreamState.decide { state with lastSeenAt := now } streamID env =
      state.decide streamID env := rfl
  unfold observe
  rw [hdecide]
  dsimp only
  cases (state.decide streamID env).action with
  | accept => simp only [accepted]
  | drop => rfl
  | convertToResync => simp only [resynced]

end StreamState

namespace RouterActor

/-- The state of a stream, a new one if there is none. -/
def stateOf (r : RouterActor) (streamID : String) : StreamState := r.streamState.getD streamID {}

/-- How often the state of a stream has been dropped. -/
def drops (r : RouterActor) (streamID : String) : Nat := r.evicted.count streamID

/-! ## Dropping stream states -/

/-- On the way from `r` to `r'` the state of `k` is kept, or dropped for good. -/
inductive Trims (k : String) (r r' : RouterActor) : Prop where
  | kept
      (lookup_eq : r'.streamState.lookup k = r.streamState.lookup k)
      (drops_eq : r'.drops k = r.drops k)
  | dropped
      (present : r.streamState.lookup k ≠ none)
      (lookup_eq : r'.streamState.lookup k = none)
      (drops_lt : r.drops k < r'.drops k)

section Trims

variable {k : String} {r r' r'' : RouterActor}

theorem Trims.refl (k : String) (r : RouterActor) : Trims k r r := .kept rfl rfl

theorem Trims.trans (h : Trims k r r') (h' : Trims k r' r'') : Trims k r r'' := by
  cases h with
  | kept hlookup hdrops =>
    cases h' with
    | kept hlookup' hdrops' => exact .kept (hlookup'.trans hlookup) (hdrops'.trans hdrops)
    | dropped hpresent hlookup' hdrops' =>
      exact .dropped (hlookup ▸ hpresent) hlookup' (hdrops ▸ hdrops')
  | dropped hpresent hlookup hdrops =>
    cases h' with
    | kept hlookup' hdrops' =>
      exact .dropped hpresent (hlookup'.trans hlookup) (hdrops'.symm ▸ hdrops)
    | dropped hpresent' hlookup' hdrops' =>
      exact .dropped hpresent hlookup' (hdrops.trans hdrops')

/-- A missing state stays missing. -/
theorem Trims.of_none (h : Trims k r r') (hnone : r.streamState.lookup k = none) :
    r'.streamState.lookup k = none ∧ r'.drops k = r.drops k := by
  cases h with
  | kept hlookup hdrops => exact ⟨hlookup.trans hnone, hdrops⟩
  | dropped hpresent hlookup hdrops => exact absurd hnone hpresent

/--
`r'` comes from `r` by changes of the indexes and by dropping stream states:
nothing is sent, and the limit stays.
-/
structure Quiet (r r' : RouterActor) : Prop where
  trims : ∀ k, Trims k r r'
  engine : r'.engine = r.engine
  limit : r'.maxStreamStateEntries = r.maxStreamStateEntries

theorem Quiet.refl (r : RouterActor) : Quiet r r := ⟨fun k => .refl k r, rfl, rfl⟩

theorem Quiet.trans (h : Quiet r r') (h' : Quiet r' r'') : Quiet r r'' :=
  ⟨fun k => (h.trims k).trans (h'.trims k), h'.engine.trans h.engine, h'.limit.trans h.limit⟩

/-- Changes elsewhere in the router before the operation do not matter. -/
theorem Quiet.of_eq (h : Quiet r' r'')
    (hstates : r'.streamState = r.streamState) (hevicted : r'.evicted = r.evicted)
    (hengine : r'.engine = r.engine) (hlimit : r'.maxStreamStateEntries = r.maxStreamStateEntries) :
    Quiet r r'' := by
  refine Quiet.trans ⟨fun k => .kept ?_ ?_, hengine, hlimit⟩ h
  · rw [hstates]
  · rw [drops, hevicted, drops]

theorem quiet_deleteStreamState
    (r : RouterActor) (k' : String) : Quiet r (r.deleteStreamState k') := by
  unfold deleteStreamState
  split_ifs with hmem
  · refine ⟨fun k => ?_, rfl, rfl⟩
    by_cases hk : k = k'
    · subst hk
      obtain ⟨state, hstate⟩ := mem_iff_lookup.mp hmem
      refine .dropped (hstate ▸ Option.some_ne_none state) (lookup_erase k r.streamState) ?_
      simp [drops]
    · refine .kept (lookup_erase_ne hk) ?_
      simp [drops, Ne.symm hk]
  · exact .refl r

theorem quiet_sweepStreamState (r : RouterActor) : Quiet r r.sweepStreamState := by
  unfold sweepStreamState
  split_ifs
  · exact .refl r
  · refine ⟨fun k => ?_, rfl, rfl⟩
    -- A state is in one of the two parts that the sweep makes of the map.
    let gone : String → StreamState → Bool := fun _ state => r.inactive (r.clock r.calls) state
    have hlookup := lookup_filter (fun k state => !gone k state) r.streamState k
    have hcount : List.count k (r.evicted ++ (r.streamState.filter gone).keys) =
        r.drops k + if ((r.streamState.lookup k).filter (gone k)).isSome then 1 else 0 := by
      rw [List.count_append, count_keys, lookup_filter]
      rfl
    cases hstate : r.streamState.lookup k with
    | none =>
      rw [hstate] at hlookup hcount
      exact .kept (hlookup.trans hstate.symm) hcount
    | some state =>
      rw [hstate] at hlookup hcount
      cases hgone : gone k state with
      | true =>
        rw [Option.filter_some_neg (by simp [hgone])] at hlookup
        rw [Option.filter_some_pos hgone] at hcount
        exact .dropped (hstate ▸ Option.some_ne_none state) hlookup
          (Nat.lt_of_lt_of_eq (Nat.lt_succ_self _) hcount.symm)
      | false =>
        rw [Option.filter_some_pos (by simp [hgone])] at hlookup
        rw [Option.filter_some_neg (by simp [hgone])] at hcount
        exact .kept (hlookup.trans hstate.symm) hcount

theorem quiet_evictOldestStreamState (r : RouterActor) : Quiet r r.evictOldestStreamState := by
  unfold evictOldestStreamState
  dsimp only
  split_ifs
  · exact (Quiet.refl (r.rangeOver r.streamState).2).of_eq rfl rfl rfl rfl
  · exact (quiet_deleteStreamState _ _).of_eq rfl rfl rfl rfl

theorem quiet_makeRoom (r : RouterActor) : Quiet r r.makeRoom := by
  unfold makeRoom
  dsimp only
  split_ifs
  · exact (quiet_sweepStreamState r).trans (quiet_evictOldestStreamState _)
  · exact quiet_sweepStreamState r
  · exact .refl r

theorem quiet_rebuildSubjectPIDs
    (r : RouterActor) (s : Subject) : Quiet r (r.rebuildSubjectPIDs s) := by
  unfold rebuildSubjectPIDs
  cases r.subjectSessions.lookup s with
  | none => exact ⟨fun _ => .kept rfl rfl, rfl, rfl⟩
  | some inner =>
    dsimp only
    split_ifs <;> exact ⟨fun _ => .kept rfl rfl, rfl, rfl⟩

theorem quiet_removeSessionFromSubject (r : RouterActor) (id : SessionID) (s : Subject) :
    Quiet r (r.removeSessionFromSubject id s) := by
  obtain ⟨subjects, heq⟩ := dropSubject_eq r id s
  unfold removeSessionFromSubject dropSession
  rw [heq]
  dsimp only
  cases r.subjectSessions.lookup s with
  | none => exact ⟨fun _ => .kept rfl rfl, rfl, rfl⟩
  | some inner =>
    dsimp only
    split_ifs
    · exact (quiet_deleteStreamState _ _).of_eq rfl rfl rfl rfl
    · exact (quiet_rebuildSubjectPIDs _ _).of_eq rfl rfl rfl rfl

theorem quiet_unregister (r : RouterActor) (id : SessionID) : Quiet r (r.unregister id) := by
  have hloop : ∀ (ss : List Subject) (r : RouterActor),
      Quiet r (ss.foldl (fun r s => r.removeSessionFromSubject id s) r) := by
    intro ss
    induction ss with
    | nil => exact fun r => .refl r
    | cons s ss ih => exact fun r => (quiet_removeSessionFromSubject r id s).trans (ih _)
  exact (hloop _ r).trans ⟨fun _ => .kept rfl rfl, rfl, rfl⟩

theorem quiet_subscribe
    (r : RouterActor) (id : SessionID) (s : Subject) : Quiet r (r.subscribe id s) := by
  unfold subscribe
  cases r.sessions.lookup id with
  | none => exact .refl r
  | some pid =>
    dsimp only
    split_ifs
    · exact .refl r
    · exact (quiet_rebuildSubjectPIDs _ s).of_eq rfl rfl rfl rfl

theorem quiet_register
    (r : RouterActor) (id : SessionID) (pid : Option PID) : Quiet r (r.register id pid) := by
  cases pid with
  | none => exact .refl r
  | some pid =>
    unfold register
    dsimp only
    split_ifs <;> exact ⟨fun _ => .kept rfl rfl, rfl, rfl⟩

/-- Messages other than envelopes do not send, and do not create or change a stream state. -/
theorem quiet_receive (r : RouterActor) {m : Message} (hm : ∀ env, m ≠ .deliverEnvelope env) :
    Quiet r (r.receive m) := by
  cases m with
  | started => exact quiet_sweepStreamState r
  | stopped => exact ⟨fun _ => .kept rfl rfl, rfl, rfl⟩
  | actorStopped pid => exact onActorStopped_induct r (.refl r) (quiet_unregister r) pid
  | registerSession id pid => exact quiet_register r id pid
  | unregisterSession id => exact quiet_unregister r id
  | subscribeSession id s => exact quiet_subscribe r id s
  | unsubscribeSession id s => exact quiet_removeSessionFromSubject r id s
  | deliverEnvelope env => exact absurd rfl (hm env)
  | sweepStreamState => exact quiet_sweepStreamState r
  | other => exact .refl r

end Trims

/-! ## Checks and delivery numbers -/

section Checks

variable (r : RouterActor) (streamID : String) (env : Envelope)

/-- A check of a usable stream identifier records the decision in the state of the stream. -/
theorem acceptStreamSeq_spec (hid : trimSpace streamID ≠ "") (hseq : 0 < env.seq) :
    (r.acceptStreamSeq streamID env).1 =
        ((r.stateOf (trimSpace streamID)).observe (trimSpace streamID) env).1 ∧
      (∃ now, (r.acceptStreamSeq streamID env).2.streamState.lookup (trimSpace streamID) =
        some { ((r.stateOf (trimSpace streamID)).observe (trimSpace streamID) env).2 with
          lastSeenAt := now }) ∧
      (r.acceptStreamSeq streamID env).2.drops (trimSpace streamID) =
        r.drops (trimSpace streamID) := by
  unfold acceptStreamSeq
  dsimp only
  rw [if_neg hid, if_neg (Int.not_le.mpr hseq)]
  generalize trimSpace streamID = k
  -- The check works on the state it finds, or on a new one after making room.
  have hstate : ∀ r' : RouterActor, Quiet r r' →
      (k ∈ r.streamState → r' = r.readClock.2) →
      r'.stateOf k = r.stateOf k ∧ r'.drops k = r.drops k := by
    intro r' hquiet hkept
    by_cases hk : k ∈ r.streamState
    · rw [hkept hk]
      exact ⟨rfl, rfl⟩
    · have hnone := lookup_eq_none.mpr hk
      obtain ⟨hlookup, hdrops⟩ := (hquiet.trims k).of_none hnone
      exact ⟨by rw [stateOf, stateOf, GoMap.getD, GoMap.getD, hlookup, hnone], hdrops⟩
  have hroom := hstate (if k ∈ r.readClock.2.streamState then r.readClock.2
      else r.readClock.2.makeRoom)
    (by
      split_ifs
      · exact (Quiet.refl r.readClock.2).of_eq rfl rfl rfl rfl
      · exact (quiet_makeRoom _).of_eq rfl rfl rfl rfl)
    (fun hk => if_pos hk)
  generalize (if k ∈ r.readClock.2.streamState then r.readClock.2
      else r.readClock.2.makeRoom) = r' at hroom ⊢
  have hobserve := StreamState.observe_lastSeenAt (r'.stateOf k) k env r.readClock.1
  rw [hroom.1] at hobserve
  change (StreamState.observe { r'.stateOf k with lastSeenAt := r.readClock.1 } k env).1 = _ ∧
    (∃ now, (r'.streamState.insert k
      (StreamState.observe { r'.stateOf k with lastSeenAt := r.readClock.1 } k env).2).lookup k =
        _) ∧ _
  rw [hroom.1, hobserve]
  exact ⟨rfl, ⟨r.readClock.1, lookup_insert _⟩, hroom.2⟩

/-- A check of one stream may drop the states of others, to make room. -/
theorem trims_acceptStreamSeq
    {k : String} (hk : k ≠ trimSpace streamID) : Trims k r (r.acceptStreamSeq streamID env).2 := by
  unfold acceptStreamSeq
  dsimp only
  split_ifs
  · exact .refl k r
  · exact .refl k r
  · exact .kept (lookup_insert_ne hk) rfl
  · have hroom : Quiet r r.readClock.2.makeRoom := (quiet_makeRoom _).of_eq rfl rfl rfl rfl
    exact (hroom.trims k).trans (.kept (lookup_insert_ne hk) rfl)

theorem acceptStreamSeq_invalid (hinvalid : trimSpace streamID = "" ∨ env.seq ≤ 0) :
    r.acceptStreamSeq streamID env = (some "seq_invalid", r) := by
  unfold acceptStreamSeq
  dsimp only
  by_cases hid : trimSpace streamID = ""
  · rw [if_pos hid]
  · rw [if_neg hid, if_pos (hinvalid.resolve_left hid)]

/-- Every check is an observation of the state of its stream. -/
theorem observed_acceptStreamSeq :
    ∃ state' now,
      (r.stateOf (trimSpace streamID)).Observed (trimSpace streamID) env
        ((r.acceptStreamSeq streamID env).1, state') ∧
      (r.acceptStreamSeq streamID env).2.stateOf (trimSpace streamID) =
        { state' with lastSeenAt := now } := by
  by_cases hinvalid : trimSpace streamID = "" ∨ env.seq ≤ 0
  · rw [acceptStreamSeq_invalid r streamID env hinvalid]
    refine ⟨r.stateOf (trimSpace streamID), (r.stateOf (trimSpace streamID)).lastSeenAt,
      .drop _ (StreamState.decide_invalid _ _ env ?_), rfl⟩
    rw [trimSpace_trimSpace]
    exact hinvalid
  · rw [not_or, Int.not_le] at hinvalid
    obtain ⟨hresult, ⟨now, hlookup⟩, -⟩ := acceptStreamSeq_spec r streamID env hinvalid.1 hinvalid.2
    refine ⟨((r.stateOf (trimSpace streamID)).observe (trimSpace streamID) env).2, now, ?_, ?_⟩
    · rw [hresult]
      exact StreamState.observed _ _ _
    · rw [stateOf, GoMap.getD, hlookup]
      rfl

end Checks

/-! ## Accepted origin numbers -/

/-- The check of a step accepts the envelope. -/
def AcceptedOn (streamID : String) (c : RouterActor × Envelope) : Prop :=
  (c.1.acceptStreamSeq streamID c.2).1 = none

/-- The policy's decision in a step. -/
def decisionOn (streamID : String) (c : RouterActor × Envelope) : Ownership.MonotonicDecision :=
  (c.1.stateOf (trimSpace streamID)).decide (trimSpace streamID) c.2

/-- The decision in a step converts the envelope to a resync with watermark `w`. -/
def ResyncsTo (streamID : String) (c : RouterActor × Envelope) (w : Int) : Prop :=
  (decisionOn streamID c).action = .convertToResync ∧ (decisionOn streamID c).resyncWatermark = w

/-- What a check establishes about the state of its stream for all later checks. -/
structure Established (streamID : String) (c : RouterActor × Envelope) (r : RouterActor) : Prop where
  accepted : AcceptedOn streamID c →
    0 < c.2.seq ∧ c.2.seq ≤ (r.stateOf (trimSpace streamID)).lastOriginSeq
  resynced : ∀ w, ResyncsTo streamID c w →
    0 < w ∧ (w ≤ (r.stateOf (trimSpace streamID)).pendingResyncWatermark ∨
      w ≤ (r.stateOf (trimSpace streamID)).lastOriginSeq)

theorem established_init (streamID : String) (r : RouterActor) (env : Envelope) :
    Established streamID (r, env) (r.acceptStreamSeq streamID env).2 := by
  obtain ⟨state', now, hobserved, hstate⟩ := observed_acceptStreamSeq r streamID env
  cases hresult : (r.acceptStreamSeq streamID env).1 with
  | none =>
    rw [hresult] at hobserved
    obtain ⟨hpositive, -, -, hlast, -, hdecided⟩ := hobserved.accepted_effect
    constructor
    · intro _
      rw [hstate]
      exact ⟨hpositive, Int.le_of_eq hlast.symm⟩
    · rintro w ⟨hresync, -⟩
      exact nomatch hdecided.symm.trans hresync
  | some reason =>
    rw [hresult] at hobserved
    obtain ⟨-, -, hresync⟩ := hobserved.rejected_effect
    constructor
    · intro haccepted
      exact nomatch hresult.symm.trans haccepted
    · rintro w ⟨haction, rfl⟩
      obtain ⟨hpositive, hle⟩ := hresync haction
      rw [hstate]
      exact ⟨hpositive, .inl hle⟩

theorem Established.acceptStreamSeq
    {streamID : String} {c : RouterActor × Envelope} {r : RouterActor}
    (h : Established streamID c r) (env : Envelope) :
    Established streamID c (r.acceptStreamSeq streamID env).2 := by
  obtain ⟨state', now, hobserved, hstate⟩ := observed_acceptStreamSeq r streamID env
  obtain ⟨hlast, hpending⟩ :
      (r.stateOf (trimSpace streamID)).lastOriginSeq ≤ state'.lastOriginSeq ∧
        ((r.stateOf (trimSpace streamID)).pendingResyncWatermark ≤ state'.pendingResyncWatermark ∨
          (r.stateOf (trimSpace streamID)).pendingResyncWatermark ≤ state'.lastOriginSeq) := by
    cases hresult : (r.acceptStreamSeq streamID env).1 with
    | none =>
      rw [hresult] at hobserved
      obtain ⟨hpositive, hfresh, -, hlast, hpending, -⟩ := hobserved.accepted_effect
      omega
    | some reason =>
      rw [hresult] at hobserved
      obtain ⟨hlast, hpending, -⟩ := hobserved.rejected_effect
      omega
  constructor
  · intro haccepted
    obtain ⟨hseq, hle⟩ := h.accepted haccepted
    rw [hstate]
    exact ⟨hseq, hle.trans hlast⟩
  · intro w hresync
    obtain ⟨hw, hle⟩ := h.resynced w hresync
    rw [hstate]
    exact ⟨hw, by dsimp only; omega⟩

/--
Checks of one stream in a row: a later accepted origin number exceeds every
earlier accepted one and, unless the envelope is a snapshot, the watermark of
every earlier resync.
-/
theorem accepted_seqs_increase (r : RouterActor) (streamID : String) (envs : List Envelope) :
    (Runs.steps (fun r env => (r.acceptStreamSeq streamID env).2) r envs).Pairwise
      fun earlier later => AcceptedOn streamID later →
        (AcceptedOn streamID earlier → earlier.2.seq < later.2.seq) ∧
        ∀ w, ResyncsTo streamID earlier w → isSnapshotEventType later.2.type = false →
          w < later.2.seq := by
  refine Runs.pairwise_steps (Established streamID) (established_init streamID)
    (fun c r env h => h.acceptStreamSeq env) (fun c r env h hlater => ?_) r envs
  obtain ⟨state', now, hobserved, -⟩ := observed_acceptStreamSeq r streamID env
  rw [show (r.acceptStreamSeq streamID env).1 = none from hlater] at hobserved
  obtain ⟨hpositive, hfresh, hbeyond, -⟩ := hobserved.accepted_effect
  constructor
  · intro hearlier
    obtain ⟨hseq, hle⟩ := h.accepted hearlier
    dsimp only
    omega
  · intro w hresync hsnapshot
    obtain ⟨hw, hle⟩ := h.resynced w hresync
    rw [hsnapshot] at hbeyond
    simp only [Bool.false_eq_true, false_or] at hbeyond
    dsimp only
    omega

end RouterActor
end Delivery
end StreamAnalytics
