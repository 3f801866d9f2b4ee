import StreamAnalytics.Delivery.Subject
import StreamAnalytics.Shared.Ownership

/-!
# The delivery router

Model of `internal/actors/delivery/runtime/router.go` and `seq_policy.go`: the
actor that keeps the subscription indexes and the sequence state of every stream
and fans envelopes out to the subscribed sessions.

A process identifier is represented by its printed form, which is what the
router compares.  Stored identifiers are never nil, because `register` refuses a
nil one.  The messages given to `engine.Send` are collected in `engine`, the
reasons passed to the rejection counter in `rejected`, and the identifiers of
deleted stream states in `evicted`.  Clock readings are nanoseconds since the
zero time.  The clock and the iteration order of maps are not under the router's
control: its `calls`-th use of the clock yields `clock calls`, its `calls`-th
loop over a map first visits the keys `order calls`.  The copy of each envelope
that goes to an optional envelope store has no effect on the router.
-/

namespace StreamAnalytics
namespace Delivery

open GoStrings

abbrev SessionID := String
abbrev PID := String

/-! ## The sequence policy -/

/-- `defaultSeqPolicyStaleGapWindow`. -/
def defaultSeqPolicyStaleGapWindow : Int := 2048

/-- `isSnapshotEventType`. -/
def isSnapshotEventType (eventType : String) : Bool :=
  contains (toLower (trimSpace eventType)) "snapshot"

/-- `parseInt64Meta`. -/
def parseInt64Meta (env : Envelope) (key : String) : Int :=
  (parseInt64 (trimSpace (metaValue env key))).getD 0

/-- `handoffWatermarkFromMeta`. -/
def handoffWatermarkFromMeta (env : Envelope) : Int :=
  let w := parseInt64Meta env "handoff_watermark_seq"
  if 0 < w then w else parseInt64Meta env "watermark_seq"

/-- `processorInstanceIDFromMeta`. -/
def processorInstanceIDFromMeta (env : Envelope) : String :=
  trimSpace (metaValue env "processor_instance_id")

/-- `deliveryOwnershipToken`. -/
def deliveryOwnershipToken (streamID : String) : String :=
  match splitN (trimSpace streamID) '/' 4 with
  | [channel, venue, instrument, timeframe] =>
    toString (Ownership.shardKey Ownership.subsystemDelivery
      ⟨venue, instrument, channel, timeframe⟩).toNat
  | _ => ""

/-- The owner that `acceptStreamSeq` attributes an envelope to. -/
def candidateOwner (streamID : String) (env : Envelope) : String :=
  let owner := processorInstanceIDFromMeta env
  if owner = "" then deliveryOwnershipToken streamID else owner

/-- `streamState`; a new state has the zero time as `lastSeenAt`. -/
structure StreamState where
  lastOriginSeq : Int := 0
  lastOriginTsIngest : Int := 0
  lastProcessorInstanceID : String := ""
  pendingResyncWatermark : Int := 0
  lastDeliverySeq : Int := 0
  lastSeenAt : Nat := 0
deriving Repr, DecidableEq

namespace StreamState

/-- The input that `defaultSeqPolicy.Decide` passes to `DecideMonotonic`. -/
def policyInput (state : StreamState) (streamID : String) (env : Envelope) :
    Ownership.MonotonicInput where
  streamKey := streamID
  isSnapshot := isSnapshotEventType env.type
  candidateSeq := env.seq
  candidateWatermark := env.tsIngest
  lastSeq := state.lastOriginSeq
  lastWatermark := state.lastOriginTsIngest
  candidateOwner := candidateOwner streamID env
  lastOwner := state.lastProcessorInstanceID
  handoffWatermarkSeq := handoffWatermarkFromMeta env
  pendingResyncWatermark := state.pendingResyncWatermark
  staleGapWindow := defaultSeqPolicyStaleGapWindow

/-- `defaultSeqPolicy.Decide`. -/
def decide (state : StreamState) (streamID : String) (env : Envelope) :
    Ownership.MonotonicDecision :=
  Ownership.decideMonotonic (state.policyInput streamID env)

/-- The state after an accepted envelope. -/
def accepted (state : StreamState) (streamID : String) (env : Envelope) : StreamState :=
  { state with
    lastOriginSeq := env.seq
    lastOriginTsIngest := if 0 < env.tsIngest then env.tsIngest else state.lastOriginTsIngest
    lastProcessorInstanceID :=
      if candidateOwner streamID env ≠ "" then candidateOwner streamID env
      else state.lastProcessorInstanceID
    pendingResyncWatermark :=
      if 0 < state.pendingResyncWatermark ∧ state.pendingResyncWatermark < env.seq then 0
      else state.pendingResyncWatermark }

/-- The state after a decision that converts the envelope to a resync. -/
def resynced (state : StreamState) (watermark : Int) : StreamState :=
  { state with pendingResyncWatermark := max state.pendingResyncWatermark watermark }

/--
The decision on an envelope, as the reason to reject it if there is one, and the
state it leaves.
-/
def observe (state : StreamState) (streamID : String) (env : Envelope) :
    Option String × StreamState :=
  let decision := state.decide streamID env
  match decision.action with
  | .accept => (none, state.accepted streamID env)
  | .convertToResync => (some (rejectReason decision), state.resynced decision.resyncWatermark)
  | .drop => (some (rejectReason decision), state)
where
  rejectReason (decision : Ownership.MonotonicDecision) : String :=
    let reason := trimSpace decision.rejectReason
    if reason = "" then "seq_non_monotonic" else reason

end StreamState

/-! ## The actor -/

/-- `RouterConfig`, as far as the modelled code reads it. -/
structure RouterConfig where
  timeframe : String
  streamStateTTL : Int
  maxActiveSessions : Int
  maxStreamStateEntries : Int

/-- `DeliveryEvent`. -/
structure DeliveryEvent where
  subject : Subject
  env : Envelope

/-- `RouterActor`. -/
structure RouterActor where
  cfg : RouterConfig
  sessions : GoMap SessionID PID
  sessionByPID : GoMap PID SessionID
  sessionSubjects : GoMap SessionID (GoMap Subject Unit)
  subjectSessions : GoMap Subject (GoMap SessionID PID)
  subjectPIDs : GoMap Subject (List PID)
  streamState : GoMap String StreamState
  streamStateTTL : Int
  maxStreamStateEntries : Int
  clock : Nat → Nat
  order : Nat → List String
  calls : Nat
  selfPID : PID
  stopped : Bool
  engine : List (PID × DeliveryEvent)
  rejected : List String
  evicted : List String

/-- `defaultRouterStreamStateTTL`: 30 minutes. -/
def defaultRouterStreamStateTTL : Int := 30 * 60 * 1000000000

/-- `defaultMaxStreamStateEntries`. -/
def defaultMaxStreamStateEntries : Int := 50000

namespace RouterActor

/-- `NewRouterActor` followed by `ensureDefaults`. -/
def create (cfg : RouterConfig) (selfPID : PID) (clock : Nat → Nat) (order : Nat → List String) :
    RouterActor where
  cfg := cfg
  sessions := ∅
  sessionByPID := ∅
  sessionSubjects := ∅
  subjectSessions := ∅
  subjectPIDs := ∅
  streamState := ∅
  streamStateTTL :=
    if cfg.streamStateTTL ≤ 0 then defaultRouterStreamStateTTL else cfg.streamStateTTL
  maxStreamStateEntries :=
    if cfg.maxStreamStateEntries ≤ 0 then defaultMaxStreamStateEntries
    else cfg.maxStreamStateEntries
  clock := clock
  order := order
  calls := 0
  selfPID := selfPID
  stopped := false
  engine := []
  rejected := []
  evicted := []

/-- The current clock reading, and the router after reading it. -/
def readClock (r : RouterActor) : Nat × RouterActor :=
  (r.clock r.calls, { r with calls := r.calls + 1 })

/-- A map in the order a loop visits it, and the router after the loop. -/
def rangeOver {V : Type} (r : RouterActor) (m : GoMap String V) : GoMap String V × RouterActor :=
  (m.visitFirst (r.order r.calls), { r with calls := r.calls + 1 })

/-- `engine.Send`. -/
def send (r : RouterActor) (pid : PID) (event : DeliveryEvent) : RouterActor :=
  { r with engine := r.engine ++ [(pid, event)] }

/-- `IncDeliveryRouterEventsRejected`. -/
def reject (r : RouterActor) (reason : String) : RouterActor :=
  { r with rejected := r.rejected ++ [reason] }

/-! ### Sessions and subscriptions -/

/-- `register`. -/
def register (r : RouterActor) (id : SessionID) (pid : Option PID) : RouterActor :=
  match pid with
  | none => r
  | some pid =>
    if id = "" then r
    else if id ∉ r.sessions ∧ 0 < r.cfg.maxActiveSessions ∧
        r.cfg.maxActiveSessions ≤ r.sessions.size then r
    else
      { r with
        sessions := r.sessions.insert id pid
        sessionByPID :=
          (match r.sessions.lookup id with
            | some previousPID => r.sessionByPID.erase previousPID
            | none => r.sessionByPID).insert pid id
        sessionSubjects :=
          if id ∈ r.sessionSubjects then r.sessionSubjects else r.sessionSubjects.insert id ∅ }

/-- `rebuildSubjectPIDs`. -/
def rebuildSubjectPIDs (r : RouterActor) (subject : Subject) : RouterActor :=
  match r.subjectSessions.lookup subject with
  | none => { r with subjectPIDs := r.subjectPIDs.erase subject }
  | some inner =>
    if inner.size = 0 then
      { r with subjectPIDs := r.subjectPIDs.erase subject }
    else
      let (inner, r) := r.rangeOver inner
      { r with subjectPIDs := r.subjectPIDs.insert subject (inner.entries.map (·.2)) }

/-- The two new entries of a subscription. -/
def link (r : RouterActor) (sessionID : SessionID) (subject : Subject) (pid : PID) : RouterActor :=
  let subs := r.sessionSubjects.getD sessionID ∅
  let inner := r.subjectSessions.getD subject ∅
  { r with
    sessionSubjects := r.sessionSubjects.insert sessionID (subs.insert subject ())
    subjectSessions := r.subjectSessions.insert subject (inner.insert sessionID pid) }

/-- `subscribe`. -/
def subscribe (r : RouterActor) (sessionID : SessionID) (subject : Subject) : RouterActor :=
  match r.sessions.lookup sessionID with
  | none => r
  | some pid =>
    let subs := r.sessionSubjects.getD sessionID ∅
    if subject ∈ subs then r
    else
      (r.link sessionID subject pid).rebuildSubjectPIDs subject

/-- `delete(r.streamState, streamID)`. -/
def deleteStreamState (r : RouterActor) (streamID : String) : RouterActor :=
  if streamID ∈ r.streamState then
    { r with
      streamState := r.streamState.erase streamID
      evicted := r.evicted ++ [streamID] }
  else r

/-- The first half of `removeSessionFromSubject`: the entry of the session. -/
def dropSubject (r : RouterActor) (sessionID : SessionID) (subject : Subject) : RouterActor :=
  match r.sessionSubjects.lookup sessionID with
  | none => r
  | some subs =>
    let subs := subs.erase subject
    { r with
      sessionSubjects :=
        if GoMap.size subs = 0 then r.sessionSubjects.erase sessionID
        else r.sessionSubjects.insert sessionID subs }

/-- The second half of `removeSessionFromSubject`: the entry of the subject. -/
def dropSession (r : RouterActor) (sessionID : SessionID) (subject : Subject) : RouterActor :=
  match r.subjectSessions.lookup subject with
  | none => r
  | some pids =>
    let pids := pids.erase sessionID
    if GoMap.size pids = 0 then
      ({ r with
        subjectSessions := r.subjectSessions.erase subject
        subjectPIDs := r.subjectPIDs.erase subject }).deleteStreamState subject.string
    else
      ({ r with
        subjectSessions := r.subjectSessions.insert subject pids }).rebuildSubjectPIDs subject

/-- `removeSessionFromSubject`. -/
def removeSessionFromSubject (r : RouterActor) (sessionID : SessionID) (subject : Subject) :
    RouterActor :=
  (r.dropSubject sessionID subject).dropSession sessionID subject

/-- The end of `unregister`: the session's own entries. -/
def forgetSession (r : RouterActor) (sessionID : SessionID) : RouterActor :=
  { r with
    sessionSubjects := r.sessionSubjects.erase sessionID
    sessionByPID :=
      match r.sessions.lookup sessionID with
      | some pid => r.sessionByPID.erase pid
      | none => r.sessionByPID
    sessions := r.sessions.erase sessionID }

/-- `unregister`. -/
def unregister (r : RouterActor) (sessionID : SessionID) : RouterActor :=
  let subs := r.sessionSubjects.getD sessionID ∅
  (subs.keys.foldl (fun r subject => r.removeSessionFromSubject sessionID subject) r).forgetSession
    sessionID

/-- `onActorStopped`. -/
def onActorStopped (r : RouterActor) (pid : Option PID) : RouterActor :=
  match pid with
  | none => r
  | some pid =>
    if pid = r.selfPID then r
    else
      match r.sessionByPID.lookup pid with
      | none => r
      | some sessionID => r.unregister sessionID

/-! ### Stream states -/

/-- The saturating difference `now.Sub(t)`. -/
def timeSub (now t : Nat) : Int := max (-2 ^ 63) (min ((now : Int) - t) (2 ^ 63 - 1))

/-- The sweep's test for an inactive stream. -/
def inactive (r : RouterActor) (now : Nat) (state : StreamState) : Bool :=
  state.lastSeenAt = 0 || r.streamStateTTL < timeSub now state.lastSeenAt

/-- `sweepStreamState`. -/
def sweepStreamState (r : RouterActor) : RouterActor :=
  if r.streamState.size = 0 then r
  else
    let (now, r) := r.readClock
    { r with
      streamState := r.streamState.filter fun _ state => !r.inactive now state
      evicted := r.evicted ++ (r.streamState.filter fun _ state => r.inactive now state).keys }

/-- The loop of `evictOldestStreamState`: the oldest entry met so far. -/
def oldestOf (oldest : String × Nat) (entry : Sigma fun _ : String => StreamState) : String × Nat :=
  if oldest.1 = "" ∨ entry.2.lastSeenAt < oldest.2 then (entry.1, entry.2.lastSeenAt) else oldest

/-- `evictOldestStreamState`. -/
def evictOldestStreamState (r : RouterActor) : RouterActor :=
  let (states, r) := r.rangeOver r.streamState
  let oldestID := (states.entries.foldl oldestOf ("", 0)).1
  if oldestID = "" then r else r.deleteStreamState oldestID

/-- The part of `acceptStreamSeq` that makes room for a new stream state. -/
def makeRoom (r : RouterActor) : RouterActor :=
  if r.maxStreamStateEntries ≤ r.streamState.size then
    let r := r.sweepStreamState
    if r.maxStreamStateEntries ≤ r.streamState.size then r.evictOldestStreamState else r
  else r

/-- `acceptStreamSeq`; the first component is the reason of a rejection. -/
@[irreducible]
def acceptStreamSeq (r : RouterActor) (streamID : String) (env : Envelope) :
    Option String × RouterActor :=
  let streamID := trimSpace streamID
  if streamID = "" then (some "seq_invalid", r)
  else if env.seq ≤ 0 then (some "seq_invalid", r)
  else
    let (now, r) := r.readClock
    let r := if streamID ∈ r.streamState then r else r.makeRoom
    let state := { r.streamState.getD streamID {} with lastSeenAt := now }
    let (reason, state) := state.observe streamID env
    (reason, { r with streamState := r.streamState.insert streamID state })

/-- The next delivery number; a counter that overflows restarts at 1. -/
def nextSeq (last : Int) : Int :=
  let next := GoInt.wrap64 (last + 1)
  if next ≤ 0 then 1 else next

/-- `nextDeliverySeq`. -/
@[irreducible]
def nextDeliverySeq (r : RouterActor) (streamID : String) : Int × RouterActor :=
  let streamID := trimSpace streamID
  if streamID = "" then (0, r)
  else
    let (now, r) := r.readClock
    let state := r.streamState.getD streamID {}
    let next := nextSeq state.lastDeliverySeq
    (next,
      { r with
        streamState := r.streamState.insert streamID
          { state with lastDeliverySeq := next, lastSeenAt := now } })

/-! ### Fan-out -/

/-- `allowEnvelopeTimeframeOverride`. -/
def allowEnvelopeTimeframeOverride (eventType : String) : Bool :=
  let et := toLower (trimSpace eventType)
  startsWith et "insights." || startsWith et "evidence." ||
    ["aggregation.candle", "aggregation.stats", "aggregation.tape", "aggregation.oi",
      "aggregation.delta_volume", "aggregation.cvd", "aggregation.bar_stats",
      "signal.composite", "signal.event"].contains et

/-- `routingTimeframeForEnvelope`. -/
def routingTimeframeForEnvelope (configured : String) (env : Envelope) : String :=
  let timeframe := trimSpace configured
  let timeframe := if timeframe = "" then defaultTimeframe else timeframe
  if !allowEnvelopeTimeframeOverride env.type then timeframe
  else
    let tf := trimSpace (metaValue env "timeframe")
    if tf = "" then timeframe else toLower tf

/-- `routingMarketTypeAliasSubject`. -/
def routingMarketTypeAliasSubject (primary : Subject) (env : Envelope) : Option Subject :=
  let marketType := toUpper (trimSpace (metaValue env "instrument_market_type"))
  if marketType = "" then none
  else
    let symbol := trimSpace env.instrument
    if symbol = "" then none
    else
      let symbol := if contains symbol ":" then symbol else symbol ++ ":" ++ marketType
      match newSubject primary.streamType primary.venue symbol primary.timeframe with
      | .error _ => none
      | .ok aliasSubject => if aliasSubject = primary then none else some aliasSubject

/-- The wildcard subject that `handleEnvelope` derives from a signal subject. -/
def wildcardSubject (primary : Subject) : Option Subject :=
  if primary.isSignal then
    match newSignalSubject "*" primary.venue primary.symbol primary.timeframe with
    | .error _ => none
    | .ok wild => if wild = primary then none else some wild
  else none

/-- The subjects an envelope is routed to. -/
structure Route where
  primary : Subject
  aliasSubject : Option Subject
  wildcard : Option Subject
deriving Repr, DecidableEq

/-- The route of an envelope, or the problem of its primary subject. -/
def routeOf (r : RouterActor) (env : Envelope) : Except Problem Route :=
  match subjectFromEnvelope env (routingTimeframeForEnvelope r.cfg.timeframe env) with
  | .error p => .error p
  | .ok subject => .ok ⟨subject, routingMarketTypeAliasSubject subject env, wildcardSubject subject⟩

/-- `r.subjectPIDs[subject]`, empty for a subject that does not exist. -/
def targets (r : RouterActor) (subject : Option Subject) : List PID :=
  match subject with
  | none => []
  | some s => r.subjectPIDs.getD s []

/-- The subjects of a route that have targets, in the order they are checked. -/
def checkedSubjects (r : RouterActor) (route : Route) : List Subject :=
  [some route.primary, route.aliasSubject, route.wildcard].filterMap fun s =>
    if r.targets s = [] then none else s

/-- The acceptance checks, one subject after the other; the first rejection ends them. -/
def acceptAll (env : Envelope) : List Subject → RouterActor → Option String × RouterActor
  | [], r => (none, r)
  | s :: ss, r =>
    let checked := r.acceptStreamSeq s.string env
    match checked.1 with
    | none => acceptAll env ss checked.2
    | some reason => (some reason, checked.2)

/-- The loop over the primary targets. -/
def sendPrimary (event : DeliveryEvent) : List PID → Option (List PID) → RouterActor →
    Option (List PID) × RouterActor
  | [], sent, r => (sent, r)
  | pid :: pids, sent, r => sendPrimary event pids (sent.map (pid :: ·)) (r.send pid event)

/--
The loop over the alias targets or the wildcard targets.  `sent` is the set of
processes served before, absent when there is only one target in all; `seq` is
the delivery number once one has been assigned.
-/
def sendUnsent (subject : Subject) (env : Envelope) : List PID → Option (List PID) → Option Int →
    RouterActor → Option (List PID) × RouterActor
  | [], sent, _, r => (sent, r)
  | pid :: pids, sent, seq, r =>
    if pid ∈ sent.getD [] then
      sendUnsent subject env pids sent seq r
    else
      let (n, r) :=
        match seq with
        | some n => (n, r)
        | none => r.nextDeliverySeq subject.string
      sendUnsent subject env pids (sent.map (pid :: ·)) (some n)
        (r.send pid ⟨subject, { env with seq := n }⟩)

/-- `sendUnsent` for a subject that may not exist. -/
def sendUnsentTo (subject : Option Subject) (env : Envelope) (pids : List PID)
    (sent : Option (List PID)) (r : RouterActor) : Option (List PID) × RouterActor :=
  match subject with
  | none => (sent, r)
  | some s => sendUnsent s env pids sent none r

/-- The sends of an accepted envelope. -/
def fanOut (r : RouterActor) (env : Envelope) (route : Route)
    (targets aliasTargets wildcardTargets : List PID) : RouterActor :=
  let sent : Option (List PID) :=
    if 1 < targets.length + aliasTargets.length + wildcardTargets.length then some [] else none
  let (seq, r) := r.nextDeliverySeq route.primary.string
  let (sent, r) := sendPrimary ⟨route.primary, { env with seq := seq }⟩ targets sent r
  let (sent, r) := sendUnsentTo route.aliasSubject env aliasTargets sent r
  (sendUnsentTo route.wildcard env wildcardTargets sent r).2

/-- The part of `handleEnvelope` after the route is known. -/
def deliver (r : RouterActor) (env : Envelope) (route : Route) : RouterActor :=
  if r.checkedSubjects route = [] then r
  else
    match acceptAll env (r.checkedSubjects route) r with
    | (some reason, r') => r'.reject reason
    | (none, r') =>
      r'.fanOut env route (r.targets (some route.primary)) (r.targets route.aliasSubject)
        (r.targets route.wildcard)

/-- `handleEnvelope`. -/
def handleEnvelope (r : RouterActor) (env : Envelope) : RouterActor :=
  if r.stopped then r
  else
    match validateEnvelopeForDelivery env with
    | some _ => r.reject "contract_policy"
    | none =>
      match r.routeOf env with
      | .error _ => r.reject "invalid_subject"
      | .ok route => r.deliver env route

/-! ### Messages -/

/-- The messages that `Receive` dispatches. -/
inductive Message where
  | started
  | stopped
  | actorStopped (pid : Option PID)
  | registerSession (id : SessionID) (pid : Option PID)
  | unregisterSession (id : SessionID)
  | subscribeSession (id : SessionID) (subject : Subject)
  | unsubscribeSession (id : SessionID) (subject : Subject)
  | deliverEnvelope (env : Envelope)
  | sweepStreamState
  /-- Any message that `Receive` ignores. -/
  | other

/-- `Receive`. -/
def receive (r : RouterActor) : Message → RouterActor
  | .started => r.sweepStreamState
  | .stopped => { r with stopped := true }
  | .actorStopped pid => r.onActorStopped pid
  | .registerSession id pid => r.register id pid
  | .unregisterSession id => r.unregister id
  | .subscribeSession id subject => r.subscribe id subject
  | .unsubscribeSession id subject => r.removeSessionFromSubject id subject
  | .deliverEnvelope env => r.handleEnvelope env
  | .sweepStreamState => r.sweepStreamState
  | .other => r

/-! ## What the stream operations leave alone -/

/--
The part of the router that handling an envelope and sweeping do not touch: the
configuration and the five indexes.
-/
def setup (r : RouterActor) : RouterActor :=
  { r with
    streamState := ∅
    calls := 0
    engine := []
    rejected := []
    evicted := [] }

variable (r : RouterActor)

/-- The part of the router that its stream states do not touch. -/
def steady : RouterActor :=
  { r with
    streamState := ∅
    calls := 0
    evicted := [] }

theorem steady_deleteStreamState
    (streamID : String) : (r.deleteStreamState streamID).steady = r.steady := by
  unfold deleteStreamState
  split_ifs <;> rfl

theorem steady_sweepStreamState : r.sweepStreamState.steady = r.steady := by
  unfold sweepStreamState
  split_ifs <;> rfl

theorem steady_makeRoom : r.makeRoom.steady = r.steady := by
  have hevict (r : RouterActor) : r.evictOldestStreamState.steady = r.steady := by
    unfold evictOldestStreamState
    dsimp only
    split_ifs
    · rfl
    · exact steady_deleteStreamState _ _
  unfold makeRoom
  dsimp only
  split_ifs <;> simp [steady_sweepStreamState, hevict]

theorem steady_acceptStreamSeq (streamID : String) (env : Envelope) :
    (r.acceptStreamSeq streamID env).2.steady = r.steady := by
  unfold acceptStreamSeq
  dsimp only
  split_ifs
  · rfl
  · rfl
  · rfl
  · exact steady_makeRoom _

theorem steady_nextDeliverySeq
    (streamID : String) : (r.nextDeliverySeq streamID).2.steady = r.steady := by
  unfold nextDeliverySeq
  dsimp only
  split_ifs <;> rfl

/-- What every check keeps holds after the checks. -/
theorem acceptAll_induct {P : RouterActor → Prop} {r : RouterActor} {env : Envelope} (hr : P r)
    (hstep : ∀ r (s : Subject), P r → P (r.acceptStreamSeq s.string env).2) (ss : List Subject) :
    P (acceptAll env ss r).2 := by
  induction ss generalizing r with
  | nil => exact hr
  | cons s ss ih =>
    have hs := hstep r s hr
    simp only [acceptAll]
    cases (r.acceptStreamSeq s.string env).1 with
    | none => exact ih hs
    | some reason => exact hs

theorem steady_acceptAll
    (env : Envelope) (ss : List Subject) : (acceptAll env ss r).2.steady = r.steady :=
  acceptAll_induct (P := fun r' => r'.steady = r.steady) rfl
    (fun r' s h => (steady_acceptStreamSeq r' s.string env).trans h) ss

theorem setup_of_steady {r r' : RouterActor} (h : r'.steady = r.steady) : r'.setup = r.setup := by
  have hsetup := congrArg setup h
  exact hsetup

@[simp] theorem setup_sweepStreamState : r.sweepStreamState.setup = r.setup :=
  setup_of_steady r.steady_sweepStreamState

@[simp] theorem setup_acceptStreamSeq
    (streamID : String) (env : Envelope) : (r.acceptStreamSeq streamID env).2.setup = r.setup :=
  setup_of_steady (r.steady_acceptStreamSeq streamID env)

@[simp] theorem setup_nextDeliverySeq
    (streamID : String) : (r.nextDeliverySeq streamID).2.setup = r.setup :=
  setup_of_steady (r.steady_nextDeliverySeq streamID)

@[simp] theorem setup_acceptAll
    (env : Envelope) (ss : List Subject) : (acceptAll env ss r).2.setup = r.setup :=
  setup_of_steady (r.steady_acceptAll env ss)

@[simp] theorem setup_send
    (pid : PID) (event : DeliveryEvent) : (r.send pid event).setup = r.setup := by
  rfl

@[simp] theorem setup_reject (reason : String) : (r.reject reason).setup = r.setup := by
  rfl

@[simp] theorem setup_sendPrimary
    (event : DeliveryEvent) (pids : List PID) (sent : Option (List PID)) :
    (sendPrimary event pids sent r).2.setup = r.setup := by
  induction pids generalizing sent r with
  | nil => rfl
  | cons pid pids ih => exact (ih _ _).trans (setup_send r pid event)

@[simp] theorem setup_sendUnsent
    (subject : Subject) (env : Envelope) (pids : List PID) (sent : Option (List PID))
    (seq : Option Int) : (sendUnsent subject env pids sent seq r).2.setup = r.setup := by
  induction pids generalizing sent seq r with
  | nil => rfl
  | cons pid pids ih =>
    unfold sendUnsent
    split_ifs
    · exact ih _ _ _
    · cases seq with
      | some n => exact ih _ _ _
      | none =>
        dsimp only
        rw [ih, setup_send, setup_nextDeliverySeq]

@[simp] theorem setup_sendUnsentTo
    (subject : Option Subject) (env : Envelope) (pids : List PID) (sent : Option (List PID)) :
    (sendUnsentTo subject env pids sent r).2.setup = r.setup := by
  cases subject with
  | none => rfl
  | some s => exact setup_sendUnsent r s env pids sent none

@[simp] theorem setup_fanOut (env : Envelope) (route : Route) (ps qs ws : List PID) :
    (r.fanOut env route ps qs ws).setup = r.setup := by
  simp [fanOut]

@[simp] theorem setup_deliver
    (env : Envelope) (route : Route) : (r.deliver env route).setup = r.setup := by
  have haccept := setup_acceptAll r env (r.checkedSubjects route)
  unfold deliver
  split_ifs
  · rfl
  · rcases hr : acceptAll env (r.checkedSubjects route) r with ⟨_ | reason, r'⟩
    · rw [hr] at haccept
      simpa using haccept
    · rw [hr] at haccept
      simpa using haccept

@[simp] theorem setup_handleEnvelope (env : Envelope) : (r.handleEnvelope env).setup = r.setup := by
  unfold handleEnvelope
  split_ifs
  · rfl
  · cases validateEnvelopeForDelivery env with
    | some p => rfl
    | none =>
      dsimp only
      cases r.routeOf env with
      | error p => simp
      | ok route => simp

end RouterActor
end Delivery
end StreamAnalytics
