import StreamAnalytics.Delivery.RouterNumbering

/-!
# The order of delivery numbers

The delivery numbers that a session receives for a subject increase as long as
the state of the subject's stream is not dropped.  A sweep, a size eviction or
the departure of the last subscriber of a subject of the same stream drops the
state, whether or not the session is still subscribed, and the numbers start
again at one.
-/

namespace StreamAnalytics
namespace Delivery
namespace RouterActor

open GoStrings Runs GoMap

/-! ## Processes belong to sessions -/

variable {bound : Int}

/-- Every recorded process belongs to the session it is recorded for. -/
structure Owned (owner : PID → SessionID) (r : RouterActor) : Prop where
  sessions : ∀ id pid, r.sessions.lookup id = some pid → owner pid = id
  subscribers : ∀ s id pid, (r.subscribers s).lookup id = some pid → owner pid = id

/-- A registration names the session that the process belongs to. -/
def RegistersOwn (owner : PID → SessionID) : Message → Prop
  | .registerSession id (some pid) => owner pid = id
  | _ => True

section Owned

variable {owner : PID → SessionID} {r : RouterActor}

theorem Owned.of_setup_eq
    {r' : RouterActor} (hsetup : r'.setup = r.setup) (h : r.Owned owner) : r'.Owned owner := by
  have hsessions : ∀ id pid, r.setup.sessions.lookup id = some pid → owner pid = id := h.sessions
  have hsubscribers : ∀ s id pid, (r.setup.subscribers s).lookup id = some pid → owner pid = id :=
    h.subscribers
  rw [← hsetup] at hsessions hsubscribers
  exact ⟨hsessions, hsubscribers⟩

theorem Owned.unregister
    (h : r.Owned owner) (hlinked : r.Linked) (id : SessionID) : (r.unregister id).Owned owner := by
  have heffect := unregister_effect r id hlinked
  refine ⟨fun id' pid hpid => ?_, fun s id' pid hpid => ?_⟩
  · rw [heffect.sessions, lookup_erase_ite] at hpid
    split_ifs at hpid
    exact h.sessions id' pid hpid
  · rw [heffect.lookup_subscribers] at hpid
    split_ifs at hpid
    exact h.subscribers s id' pid hpid

theorem Owned.receive
    (h : r.Owned owner) (hlinked : r.Linked) {m : Message} (hm : RegistersOwn owner m) :
    (r.receive m).Owned owner := by
  cases m with
  | started => exact h.of_setup_eq (setup_sweepStreamState r)
  | stopped => exact ⟨h.sessions, h.subscribers⟩
  | actorStopped pid => exact onActorStopped_induct r h (h.unregister hlinked) pid
  | registerSession id pid =>
    refine register_induct r id h (p := pid) fun pid hregistered hregisters => ?_
    subst hregistered
    have heffect := register_effect r id pid hregisters
    refine ⟨fun id' pid' hpid => ?_, fun s id' pid' hpid => ?_⟩
    · rw [heffect.sessions, lookup_insert_ite] at hpid
      split_ifs at hpid with hid
      · rw [hid, ← Option.some.inj hpid]
        exact hm
      · exact h.sessions id' pid' hpid
    · have hsubscribers : (r.register id (some pid)).subscribers s = r.subscribers s :=
        congrArg (GoMap.getD · s ∅) heffect.subjectSessions
      rw [hsubscribers] at hpid
      exact h.subscribers s id' pid' hpid
  | unregisterSession id => exact h.unregister hlinked id
  | subscribeSession id s =>
    change (r.subscribe id s).Owned owner
    obtain heq | ⟨pid, hpid, heffect⟩ := subscribe_effect r id s hlinked.entries
    · rw [heq]
      exact h
    · refine ⟨heffect.sessions ▸ h.sessions, fun s' id' pid' hpid' => ?_⟩
      rw [heffect.lookup_subscribers] at hpid'
      split_ifs at hpid' with hnew
      · rw [hnew.2, ← Option.some.inj hpid']
        exact h.sessions id pid hpid
      · exact h.subscribers s' id' pid' hpid'
  | unsubscribeSession id s =>
    have heffect := removeSessionFromSubject_effect r id s hlinked.entries
    refine ⟨heffect.sessions ▸ h.sessions, fun s' id' pid' hpid' => ?_⟩
    change ((r.removeSessionFromSubject id s).subscribers s').lookup id' = some pid' at hpid'
    rw [heffect.lookup_subscribers] at hpid'
    split_ifs at hpid'
    exact h.subscribers s' id' pid' hpid'
  | deliverEnvelope env => exact h.of_setup_eq (setup_handleEnvelope r env)
  | sweepStreamState => exact h.of_setup_eq (setup_sweepStreamState r)
  | other => exact h

/-- The targets of a subject belong to different sessions. -/
theorem Owned.nodup_targets (h : r.Owned owner) (hlinked : r.Linked) (s : Option Subject) :
    ((r.targets s).map owner).Nodup := by
  cases s with
  | none => exact List.nodup_nil
  | some s =>
    obtain ⟨m, hm, hvalues⟩ := hlinked.valuesIn_targets s
    have howners : (r.targets (some s)).map owner = m.keys := by
      rw [hvalues, List.map_map, AList.keys, List.keys]
      refine List.map_congr_left fun e he => ?_
      exact h.subscribers s e.1 e.2 ((hm e.1).symm.trans (mem_entries_iff.mp he))
    rw [howners]
    exact m.keys_nodup

end Owned

/-! ## Numbers within a stretch of a run -/

/-- The delivery numbers among `sends` that go to a session for a subject. -/
def seqsFor (owner : PID → SessionID) (id : SessionID) (s : Subject)
    (sends : List (PID × DeliveryEvent)) : List Int :=
  (sends.filter fun m => owner m.1 = id ∧ m.2.subject = s).map fun m => m.2.env.seq

/-- The number that the stream of a subject has reached. -/
def counter (r : RouterActor) (s : Subject) : Int := (r.stateOf s.streamID).lastDeliverySeq

/-- The numbers increase and lie above `low`, up to `high`. -/
structure IncreasingWithin (low high : Int) (seqs : List Int) : Prop where
  le : low ≤ high
  sorted : seqs.Pairwise (· < ·)
  within : ∀ n ∈ seqs, low < n ∧ n ≤ high

theorem IncreasingWithin.append {low mid high : Int} {seqs seqs' : List Int}
    (h : IncreasingWithin low mid seqs) (h' : IncreasingWithin mid high seqs') :
    IncreasingWithin low high (seqs ++ seqs') := by
  refine ⟨Int.le_trans h.le h'.le, List.pairwise_append.mpr ⟨h.sorted, h'.sorted, ?_⟩, ?_⟩
  · intro a ha b hb
    exact Int.lt_of_le_of_lt (h.within a ha).2 (h'.within b hb).1
  · intro n hn
    rcases List.mem_append.mp hn with hn | hn
    · exact ⟨(h.within n hn).1, Int.le_trans (h.within n hn).2 h'.le⟩
    · exact ⟨Int.lt_of_le_of_lt h.le (h'.within n hn).1, (h'.within n hn).2⟩

/--
From `r` to `r'` the router sends further messages, and as long as it does not
drop the state of the subject's stream, the numbers for the session increase from
the number the stream had reached.
-/
structure Advances (owner : PID → SessionID) (id : SessionID) (s : Subject)
    (r r' : RouterActor) : Prop where
  drops_le : r.drops s.streamID ≤ r'.drops s.streamID
  sends : ∃ sends, r'.engine = r.engine ++ sends ∧
    (r'.drops s.streamID = r.drops s.streamID →
      IncreasingWithin (r.counter s) (r'.counter s) (seqsFor owner id s sends))

section Advances

variable {owner : PID → SessionID} {id : SessionID} {s : Subject} {r r' r'' : RouterActor}

theorem Advances.trans (h : Advances owner id s r r') (h' : Advances owner id s r' r'') :
    Advances owner id s r r'' := by
  obtain ⟨sends, hengine, hincreasing⟩ := h.sends
  obtain ⟨sends', hengine', hincreasing'⟩ := h'.sends
  have hle := h.drops_le
  have hle' := h'.drops_le
  refine ⟨Nat.le_trans hle hle', sends ++ sends', ?_, fun hkept => ?_⟩
  · rw [hengine', hengine, List.append_assoc]
  · have hseqs : seqsFor owner id s (sends ++ sends') =
        seqsFor owner id s sends ++ seqsFor owner id s sends' := by
      simp [seqsFor]
    rw [hseqs]
    exact (hincreasing (by omega)).append (hincreasing' (by omega))

/-- A step without sends that keeps the counter. -/
theorem Advances.silent
    (hengine : r'.engine = r.engine) (hdrops : r.drops s.streamID ≤ r'.drops s.streamID)
    (hcounter : r'.drops s.streamID = r.drops s.streamID → r'.counter s = r.counter s) :
    Advances owner id s r r' := by
  refine ⟨hdrops, [], by rw [hengine, List.append_nil], fun hkept => ?_⟩
  exact ⟨Int.le_of_eq (hcounter hkept).symm, List.Pairwise.nil, fun n hn => nomatch hn⟩

theorem counter_of_lookup_eq
    (h : r'.streamState.lookup s.streamID = r.streamState.lookup s.streamID) :
    r'.counter s = r.counter s := by
  rw [counter, counter, stateOf, stateOf, GoMap.getD, GoMap.getD, h]

theorem Advances.of_trims (hengine : r'.engine = r.engine) (htrims : Trims s.streamID r r') :
    Advances owner id s r r' := by
  cases htrims with
  | kept hlookup hdrops =>
    exact .silent hengine (Nat.le_of_eq hdrops.symm) fun _ => counter_of_lookup_eq hlookup
  | dropped hpresent hlookup hdrops =>
    exact .silent hengine (Nat.le_of_lt hdrops) fun hkept => absurd hkept (Nat.ne_of_gt hdrops)

theorem Advances.of_quiet (hquiet : Quiet r r') : Advances owner id s r r' :=
  .of_trims hquiet.engine (hquiet.trims s.streamID)

/-- An observation keeps the delivery number. -/
theorem lastDeliverySeq_observe (state : StreamState) (streamID : String) (env : Envelope) :
    (state.observe streamID env).2.lastDeliverySeq = state.lastDeliverySeq := by
  have hobserved := state.observed streamID env
  generalize state.observe streamID env = result at hobserved
  cases hobserved <;> rfl

/-- A check of the stream itself keeps its counter. -/
theorem counter_acceptStreamSeq_self (r : RouterActor) {streamID : String}
    (hstream : s.streamID = trimSpace streamID) (env : Envelope) :
    (r.acceptStreamSeq streamID env).2.counter s = r.counter s := by
  by_cases hseq : env.seq ≤ 0
  · rw [acceptStreamSeq_invalid r streamID env (.inr hseq)]
  · obtain ⟨-, ⟨now, hlookup⟩, -⟩ := acceptStreamSeq_spec r streamID env
      (hstream ▸ s.streamID_ne_empty) (Int.not_le.mp hseq)
    rw [← hstream] at hlookup
    rw [counter, counter, stateOf, GoMap.getD, hlookup]
    exact lastDeliverySeq_observe _ _ _

theorem drops_acceptStreamSeq_self (r : RouterActor) {streamID : String}
    (hstream : s.streamID = trimSpace streamID) (env : Envelope) :
    (r.acceptStreamSeq streamID env).2.drops s.streamID = r.drops s.streamID := by
  by_cases hseq : env.seq ≤ 0
  · rw [acceptStreamSeq_invalid r streamID env (.inr hseq)]
  · obtain ⟨-, -, hdrops⟩ := acceptStreamSeq_spec r streamID env
      (hstream ▸ s.streamID_ne_empty) (Int.not_le.mp hseq)
    rw [hstream, hdrops]

/-- A check does not touch the delivery numbers. -/
theorem advances_acceptStreamSeq (owner : PID → SessionID) (id : SessionID) (s : Subject)
    (r : RouterActor) (streamID : String) (env : Envelope) :
    Advances owner id s r (r.acceptStreamSeq streamID env).2 := by
  have hengine := engine_acceptStreamSeq r streamID env
  by_cases hstream : s.streamID = trimSpace streamID
  · have hdrops := drops_acceptStreamSeq_self r hstream env
    exact .silent hengine (Nat.le_of_eq hdrops.symm)
      fun _ => counter_acceptStreamSeq_self r hstream env
  · exact .of_trims hengine (trims_acceptStreamSeq r streamID env hstream)

theorem advances_acceptAll (owner : PID → SessionID) (id : SessionID) (s : Subject)
    (r : RouterActor) (env : Envelope) (ss : List Subject) :
    Advances owner id s r (acceptAll env ss r).2 :=
  acceptAll_induct (P := Advances owner id s r) (.of_quiet (.refl r))
    (fun r' s' h => h.trans (advances_acceptStreamSeq owner id s r' s'.string env)) ss

/-! ### Announcements -/

/-- The largest counter below which the next number does not overflow. -/
def maxCounter : Int := 2 ^ 63 - 2

theorem nextSeq_eq {n : Int} (hnonneg : 0 ≤ n) (hmax : n ≤ maxCounter) : nextSeq n = n + 1 := by
  unfold maxCounter at hmax
  have hwrap : GoInt.wrap64 (n + 1) = n + 1 := GoInt.wrap64_eq_self (by unfold GoInt.InInt64; omega)
  unfold nextSeq
  rw [hwrap]
  exact if_neg (by omega)

/-- All counters lie between zero and the bound. -/
def CountersWithin (r : RouterActor) (bound : Int) : Prop :=
  ∀ s : Subject, 0 ≤ r.counter s ∧ r.counter s ≤ bound

theorem counter_announce
    (r : RouterActor) (s' : Subject) (env : Envelope) (pids : List PID) (s : Subject) :
    (r.announce s' env pids).counter s =
      if s.streamID = s'.streamID then nextSeq (r.counter s) else r.counter s := by
  obtain ⟨now, -, hstates, -⟩ := nextDeliverySeq_spec r s'
  change (GoMap.getD (r.nextDeliverySeq s'.string).2.streamState s.streamID {}).lastDeliverySeq = _
  rw [hstates, GoMap.getD, lookup_insert_ite]
  split_ifs with hstream
  · rw [counter, hstream]
    rfl
  · rfl

theorem CountersWithin.mono
    {bound' : Int} (h : r.CountersWithin bound) (hle : bound ≤ bound') : r.CountersWithin bound' :=
  fun s => ⟨(h s).1, Int.le_trans (h s).2 hle⟩

/-- A trimmed stream keeps its counter or is without one. -/
theorem counter_of_trims
    (htrims : Trims s.streamID r r') : r'.counter s = r.counter s ∨ r'.counter s = 0 := by
  cases htrims with
  | kept hlookup _ => exact .inl (counter_of_lookup_eq hlookup)
  | dropped _ hlookup _ =>
    refine .inr ?_
    rw [counter, stateOf, GoMap.getD, hlookup]
    rfl

theorem counter_acceptStreamSeq
    (r : RouterActor) (streamID : String) (env : Envelope) (s : Subject) :
    (r.acceptStreamSeq streamID env).2.counter s = r.counter s ∨
      (r.acceptStreamSeq streamID env).2.counter s = 0 := by
  by_cases hstream : s.streamID = trimSpace streamID
  · exact .inl (counter_acceptStreamSeq_self r hstream env)
  · exact counter_of_trims (trims_acceptStreamSeq r streamID env hstream)

theorem CountersWithin.of_step
    (h : r.CountersWithin bound) (hstep : ∀ s, r'.counter s = r.counter s ∨ r'.counter s = 0) :
    r'.CountersWithin bound := by
  intro s
  have hs := h s
  obtain hs' | hs' := hstep s <;> omega

theorem CountersWithin.acceptAll (h : r.CountersWithin bound) (env : Envelope) (ss : List Subject) :
    (acceptAll env ss r).2.CountersWithin bound :=
  acceptAll_induct (P := fun r => r.CountersWithin bound) h
    (fun r s hr => hr.of_step (counter_acceptStreamSeq r s.string env)) ss

theorem CountersWithin.announce (h : r.CountersWithin bound) (hbound : bound ≤ maxCounter)
    (s' : Subject) (env : Envelope) (pids : List PID) :
    (r.announce s' env pids).CountersWithin (bound + 1) := by
  intro s
  obtain ⟨hnonneg, hle⟩ := h s
  rw [counter_announce, nextSeq_eq hnonneg (Int.le_trans hle hbound)]
  split_ifs <;> omega

theorem CountersWithin.announceTo (h : r.CountersWithin bound) (hbound : bound ≤ maxCounter)
    (s' : Option Subject) (env : Envelope) (pids : List PID) :
    (r.announceTo s' env pids).CountersWithin (bound + 1) := by
  unfold RouterActor.announceTo
  cases s' with
  | none => exact h.mono (by omega)
  | some s' =>
    dsimp only
    split_ifs
    · exact h.mono (by omega)
    · exact h.announce hbound s' env pids

/-- An announcement to processes of different sessions. -/
theorem advances_announce {s' : Subject} {pids : List PID}
    (hwithin : r.CountersWithin bound) (hbound : bound ≤ maxCounter)
    (hpids : (pids.map owner).Nodup) (env : Envelope) :
    Advances owner id s r (r.announce s' env pids) := by
  obtain ⟨now, hseq, -, hevicted⟩ := nextDeliverySeq_spec r s'
  have hdrops : (r.announce s' env pids).drops s.streamID = r.drops s.streamID :=
    congrArg (List.count s.streamID) hevicted
  have hcounter := counter_announce r s' env pids s
  obtain ⟨hnonneg, hle⟩ := hwithin s
  have hnext := nextSeq_eq hnonneg (Int.le_trans hle hbound)
  let event : DeliveryEvent := ⟨s', { env with seq := (r.nextDeliverySeq s'.string).1 }⟩
  have hengine : (r.announce s' env pids).engine = r.engine ++ pids.map fun pid => (pid, event) := by
    change (r.nextDeliverySeq s'.string).2.engine ++ _ = _
    rw [engine_nextDeliverySeq]
  refine ⟨Nat.le_of_eq hdrops.symm, pids.map fun pid => (pid, event), hengine, fun _ => ?_⟩
  by_cases hs : s' = s
  · -- Each session gets at most one event, under the next number.
    subst hs
    rw [if_pos rfl] at hcounter
    have hfilter : ((pids.map fun pid => (pid, event)).filter
        fun m => owner m.1 = id ∧ m.2.subject = s') =
        (pids.filter fun pid => owner pid = id).map fun pid => (pid, event) := by
      rw [List.filter_map]
      congr 1
      refine List.filter_congr fun pid _ => ?_
      simp [event]
    have hone : (pids.filter fun pid => owner pid = id).length ≤ 1 := by
      have hcount := List.nodup_iff_count_le_one.mp hpids id
      rw [List.count, List.countP_map, List.countP_eq_length_filter] at hcount
      exact hcount
    have hseqs : seqsFor owner id s' (pids.map fun pid => (pid, event)) =
        (pids.filter fun pid => owner pid = id).map fun _ => nextSeq (r.counter s') := by
      unfold seqsFor
      rw [hfilter, List.map_map]
      exact List.map_congr_left fun _ _ => hseq
    rw [hseqs, hcounter, hnext]
    refine ⟨by omega, ?_, fun n hn => ?_⟩
    · rcases hlist : pids.filter fun pid => owner pid = id with _ | ⟨pid, _ | ⟨pid', rest⟩⟩
      · exact List.Pairwise.nil
      · exact List.pairwise_singleton _ _
      · rw [hlist] at hone
        exact absurd hone (by simp)
    · obtain ⟨-, -, rfl⟩ := List.mem_map.mp hn
      omega
  · have hnone : seqsFor owner id s (pids.map fun pid => (pid, event)) = [] := by
      unfold seqsFor
      rw [List.map_eq_nil_iff, List.filter_eq_nil_iff]
      intro m hm
      obtain ⟨pid, -, rfl⟩ := List.mem_map.mp hm
      simp [event, hs]
    rw [hnone]
    refine ⟨?_, List.Pairwise.nil, fun n hn => nomatch hn⟩
    rw [hcounter, hnext]
    split_ifs <;> omega

theorem advances_announceTo {s' : Option Subject} {pids : List PID}
    (hwithin : r.CountersWithin bound) (hbound : bound ≤ maxCounter)
    (hpids : (pids.map owner).Nodup) (env : Envelope) :
    Advances owner id s r (r.announceTo s' env pids) := by
  unfold announceTo
  cases s' with
  | none => exact .of_quiet (.refl r)
  | some s' =>
    dsimp only
    split_ifs
    · exact .of_quiet (.refl r)
    · exact advances_announce hwithin hbound hpids env

/-- The served processes are among the targets, in their order. -/
theorem unsent_sublist
    (sent : Option (List PID)) (pids : List PID) : (unsent sent pids).Sublist pids := by
  induction pids generalizing sent with
  | nil => exact List.Sublist.slnil
  | cons p pids ih =>
    unfold unsent
    split_ifs
    · exact (ih sent).cons p
    · exact (ih _).cons_cons p

theorem nodup_owners_unsent
    {pids : List PID} (hpids : (pids.map owner).Nodup) (sent : Option (List PID)) :
    ((unsent sent pids).map owner).Nodup :=
  hpids.sublist ((unsent_sublist sent pids).map owner)

section FanOut

variable {bound : Int} {route : Route} {ps qs ws : List PID}

theorem CountersWithin.fanOut
    (h : r.CountersWithin bound) (hbound : bound + 2 ≤ maxCounter) (env : Envelope)
    (hqs : route.aliasSubject = none → qs = []) (hws : route.wildcard = none → ws = []) :
    (r.fanOut env route ps qs ws).CountersWithin (bound + 3) := by
  rw [fanOut_eq r env route ps qs ws hqs hws]
  have hprimary := h.announce (by omega) route.primary env ps
  have halias := hprimary.announceTo (by omega) route.aliasSubject env (aliasServed ps qs ws)
  exact (halias.announceTo (by omega) route.wildcard env (wildcardServed ps qs ws)).mono (by omega)

theorem advances_fanOut
    (h : r.CountersWithin bound) (hbound : bound + 2 ≤ maxCounter) (env : Envelope)
    (hqs : route.aliasSubject = none → qs = []) (hws : route.wildcard = none → ws = [])
    (hps : (ps.map owner).Nodup) (hqs' : (qs.map owner).Nodup) (hws' : (ws.map owner).Nodup) :
    Advances owner id s r (r.fanOut env route ps qs ws) := by
  rw [fanOut_eq r env route ps qs ws hqs hws]
  have hprimary := h.announce (by omega) route.primary env ps
  have halias := hprimary.announceTo (by omega) route.aliasSubject env (aliasServed ps qs ws)
  exact ((advances_announce h (by omega) hps env).trans
    (advances_announceTo hprimary (by omega) (nodup_owners_unsent hqs' _) env)).trans
    (advances_announceTo halias (by omega) (nodup_owners_unsent hws' _) env)

end FanOut

/-! ### Runs -/

/-- What the numbering rests on: the indexes, the owners and room in the counters. -/
structure Numbering (owner : PID → SessionID) (bound : Int) (r : RouterActor) : Prop where
  linked : r.Linked
  owned : r.Owned owner
  within : r.CountersWithin bound

variable {bound : Int}

theorem CountersWithin.receive
    (h : r.CountersWithin bound) (hbound : bound + 2 ≤ maxCounter) (m : Message) :
    (r.receive m).CountersWithin (bound + 3) := by
  by_cases hm : ∃ env, m = .deliverEnvelope env
  · obtain ⟨env, rfl⟩ := hm
    have hhandled := r.handled env
    change (r.handleEnvelope env).CountersWithin (bound + 3)
    generalize r.handleEnvelope env = result at hhandled ⊢
    cases hhandled with
    | ignored _ => exact h.mono (by omega)
    | refused reason _ => exact h.mono (by omega)
    | @rejected route reason r' _ hchecked =>
      have hwithin := h.acceptAll env (r.checkedSubjects route)
      rw [hchecked] at hwithin
      exact hwithin.mono (by omega)
    | @accepted route r' _ hchecked =>
      have hwithin := h.acceptAll env (r.checkedSubjects route)
      rw [hchecked] at hwithin
      exact hwithin.fanOut hbound env (targets_none r) (targets_none r)
  · have hquiet := quiet_receive r fun env henv => hm ⟨env, henv⟩
    exact (h.of_step fun s => counter_of_trims (hquiet.trims s.streamID)).mono (by omega)

theorem Numbering.receive
    (h : r.Numbering owner bound) (hbound : bound + 2 ≤ maxCounter) {m : Message}
    (hm : RegistersOwn owner m) : (r.receive m).Numbering owner (bound + 3) :=
  ⟨h.linked.receive m, h.owned.receive h.linked hm, h.within.receive hbound m⟩

theorem Numbering.advances
    (h : r.Numbering owner bound) (hbound : bound + 2 ≤ maxCounter) (m : Message) :
    Advances owner id s r (r.receive m) := by
  by_cases hm : ∃ env, m = .deliverEnvelope env
  · obtain ⟨env, rfl⟩ := hm
    have hhandled := r.handled env
    change Advances owner id s r (r.handleEnvelope env)
    generalize r.handleEnvelope env = result at hhandled ⊢
    cases hhandled with
    | ignored _ => exact .of_quiet (.refl r)
    | refused reason _ => exact .of_quiet ⟨fun _ => .kept rfl rfl, rfl, rfl⟩
    | @rejected route reason r' _ hchecked =>
      have hadvances := advances_acceptAll owner id s r env (r.checkedSubjects route)
      rw [hchecked] at hadvances
      exact hadvances.trans (.of_quiet ⟨fun _ => .kept rfl rfl, rfl, rfl⟩)
    | @accepted route r' _ hchecked =>
      have hadvances := advances_acceptAll owner id s r env (r.checkedSubjects route)
      have hwithin := h.within.acceptAll env (r.checkedSubjects route)
      rw [hchecked] at hadvances hwithin
      exact hadvances.trans (advances_fanOut hwithin hbound env (targets_none r) (targets_none r)
        (h.owned.nodup_targets h.linked _) (h.owned.nodup_targets h.linked _)
        (h.owned.nodup_targets h.linked _))
  · exact .of_quiet (quiet_receive r fun env henv => hm ⟨env, henv⟩)

/-- A whole stretch of messages. -/
theorem Numbering.run
    (h : r.Numbering owner bound) (id : SessionID) (s : Subject) {ms : List Message}
    (hms : ∀ m ∈ ms, RegistersOwn owner m) (hbound : bound + 3 * ms.length ≤ maxCounter + 1) :
    (run RouterActor.receive r ms).Numbering owner (bound + 3 * ms.length) ∧
      Advances owner id s r (run RouterActor.receive r ms) := by
  induction ms generalizing r bound with
  | nil => exact ⟨by simpa using h, .of_quiet (.refl r)⟩
  | cons m ms ih =>
    obtain ⟨hm, hms'⟩ := List.forall_mem_cons.mp hms
    rw [List.length_cons] at hbound ⊢
    push_cast at hbound ⊢
    have hstep := h.receive (by omega) hm
    obtain ⟨hnumbering, hadvances⟩ := ih hstep hms' (by omega)
    refine ⟨?_, (h.advances (by omega) m).trans hadvances⟩
    have hsum : bound + 3 * ((ms.length : Int) + 1) = bound + 3 + 3 * ms.length := by omega
    rw [hsum]
    exact hnumbering

end Advances

theorem numbering_create
    (cfg : RouterConfig) (selfPID : PID) (clock : Nat → Nat) (order : Nat → List String)
    (owner : PID → SessionID) :
    (create cfg selfPID clock order).Numbering owner 0 where
  linked := linked_create cfg selfPID clock order
  owned := ⟨fun _ _ h => (nomatch h), fun _ _ _ h => (nomatch h)⟩
  within := fun _ => ⟨Int.le_refl 0, Int.le_refl 0⟩

/--
Over any stretch of a run in which the state of the subject's stream is not
dropped, the delivery numbers that a session gets for the subject increase.
-/
theorem delivery_seqs_increase
    (cfg : RouterConfig) (selfPID : PID) (clock : Nat → Nat) (order : Nat → List String)
    (owner : PID → SessionID) (past stretch : List Message)
    (howner : ∀ m ∈ past ++ stretch, RegistersOwn owner m)
    (hlength : 3 * (past ++ stretch).length < 2 ^ 63) (id : SessionID) (s : Subject)
    (hkept : (run receive (create cfg selfPID clock order) (past ++ stretch)).drops s.streamID =
      (run receive (create cfg selfPID clock order) past).drops s.streamID) :
    (seqsFor owner id s
      ((run receive (create cfg selfPID clock order) (past ++ stretch)).engine.drop
        (run receive (create cfg selfPID clock order) past).engine.length)).Pairwise (· < ·) := by
  have hcreate := numbering_create cfg selfPID clock order owner
  rw [List.length_append] at hlength
  have hmax : maxCounter = 2 ^ 63 - 2 := rfl
  obtain ⟨hpast, -⟩ := hcreate.run id s
    (fun m hm => howner m (List.mem_append_left _ hm)) (by omega)
  obtain ⟨-, hadvances⟩ := hpast.run id s
    (fun m hm => howner m (List.mem_append_right _ hm)) (by omega)
  rw [← run_append] at hadvances
  obtain ⟨sends, hengine, hincreasing⟩ := hadvances.sends
  rw [hengine, List.drop_left]
  exact (hincreasing hkept).sorted

/-- A session follows the trades of one instrument. -/
def follow : List Message := [.registerSession "a" (some "pa"), .subscribeSession "a" tradeSubject]

/-- Two trades in a row. -/
def twoTrades : List Message :=
  [.deliverEnvelope (tradeEnvelope "" 9), .deliverEnvelope (tradeEnvelope "" 10)]

theorem two_trades_increase :
    (seqsFor (fun _ => "a") "a" tradeSubject
      ((run receive sampleRouter (follow ++ twoTrades)).engine.drop
        (run receive sampleRouter follow).engine.length)).Pairwise (· < ·) :=
  delivery_seqs_increase _ _ _ _ (fun _ => "a") follow twoTrades
    (by simp [follow, twoTrades, RegistersOwn]) (by decide) "a" tradeSubject (by decide +kernel)

/-- A router that drops a state after half an hour and whose clock is read every 31 minutes. -/
def slowRouter : RouterActor :=
  create ⟨"raw", 1800000000000, 0, 0⟩ "router" (fun n => 1860000000000 * (n + 1)) (fun _ => [])

/--
The session stays subscribed, but a sweep between two of its trades drops the
state of their stream, and both arrive under the number one.
-/
theorem swept_stream_starts_again :
    ¬ (seqsFor (fun _ => "a") "a" tradeSubject
      (run receive slowRouter
        (follow ++ [.deliverEnvelope (tradeEnvelope "" 10), .sweepStreamState,
          .deliverEnvelope (tradeEnvelope "" 9)])).engine).Pairwise (· < ·) := by
  decide +kernel

end RouterActor
end Delivery
end StreamAnalytics
