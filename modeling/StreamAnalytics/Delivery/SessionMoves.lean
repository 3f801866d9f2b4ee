import StreamAnalytics.Delivery.SessionDelivery

/-!
# What a session can do

Every handler of the session is a sequence of a few kinds of moves.  A move changes
the part of the session that decides what the client sees: the queue, the maps, the
shared cache and the frames written.  The result of the module is `reaches_receive`:
a message leads from one view of the session to the next by moves.  Invariants of a
session are then proved for each kind of move.

While an event is being written it is no longer in the queue of the session; `view`
takes the events taken off the queue as an argument and still counts them.
-/

namespace StreamAnalytics
namespace Delivery
namespace SessionActor

open Prog

/-! ## Views -/

/-- The part of a session that decides what its client sees. -/
structure View where
  closed : Bool
  batching : Bool
  cache : Option SnapshotWireCache
  outbound : List DeliveryEvent
  lastSnapshot : GoMap String SessionSnapshotEntry
  snapshotSeq : GoMap String Int
  lastDeliveredSeq : GoMap String Int
  written : List Frame
  provided : List ProvidedSnapshot
  dropCount : Nat

/-- The view of a session that has taken some events off its queue. -/
def view (s : SessionActor) (taken : List DeliveryEvent) : View where
  closed := s.closed
  batching := s.features.batching
  cache := s.wireCache
  outbound := taken ++ s.outbound
  lastSnapshot := s.lastSnapshot
  snapshotSeq := s.snapshotSeq
  lastDeliveredSeq := s.lastDeliveredSeq
  written := s.written
  provided := s.provided
  dropCount := s.dropCount

namespace SessionMsg

/-- The subject of a command with the given operation. -/
def target (op : String) : SessionMsg → Option Subject
  | .command cmd => if cmd.operation = op then (resolveCommandSubject cmd op).toOption else none
  | _ => none

/-- The subject a message subscribes to. -/
def subscribes : SessionMsg → Option Subject := target "subscribe"

/-- The subject a message unsubscribes from. -/
def unsubscribes : SessionMsg → Option Subject := target "unsubscribe"

/-- The subject a message resynchronizes. -/
def resyncs : SessionMsg → Option Subject := target "resync"

/-- A command has one operation. -/
theorem target_eq_none
    {msg : SessionMsg} {subject : Subject} {op op' : String} (h : msg.target op = some subject)
    (hop : op ≠ op') : msg.target op' = none := by
  cases msg with
  | command cmd =>
    unfold target at h ⊢
    dsimp only at h ⊢
    split_ifs at h with heq
    rw [if_neg (heq ▸ hop)]
  | _ => rfl

/-- The message may lead to a snapshot of the subject. -/
def Requests (msg : SessionMsg) (subject : Subject) : Prop :=
  msg.subscribes = some subject ∨ msg.resyncs = some subject ∨ msg = .flush

/-- An unsubscription leads to no snapshot. -/
theorem not_requests
    {msg : SessionMsg} {subject subject' : Subject} (h : msg.unsubscribes = some subject) :
    ¬ msg.Requests subject' := by
  rintro (hsubscribes | hresyncs | rfl)
  · rw [subscribes, target_eq_none h (by decide)] at hsubscribes
    cases hsubscribes
  · rw [resyncs, target_eq_none h (by decide)] at hresyncs
    cases hresyncs
  · cases h

/-- The subject of which a command requests a snapshot. -/
def requested (msg : SessionMsg) : Option Subject := msg.subscribes <|> msg.resyncs

theorem requested_eq_some
    {msg : SessionMsg} {subject : Subject} (h : msg.Requests subject) (hflush : msg ≠ .flush) :
    msg.requested = some subject := by
  unfold requested
  obtain hsubscribes | hresyncs | hmsg := h
  · rw [hsubscribes]
    rfl
  · have hsubscribes : msg.subscribes = none := target_eq_none hresyncs (by decide)
    rw [hsubscribes, hresyncs]
    rfl
  · exact absurd hmsg hflush

theorem requests_iff
    {msg : SessionMsg} {subject subject' : Subject} (h : msg.requested = some subject) :
    msg.Requests subject' ↔ subject' = subject := by
  have hflush : msg ≠ .flush := by
    rintro rfl
    cases h
  constructor
  · intro hrequests
    exact Option.some.inj ((requested_eq_some hrequests hflush).symm.trans h)
  · rintro rfl
    unfold requested at h
    cases hsubscribes : msg.subscribes with
    | some other =>
      rw [hsubscribes] at h
      exact .inl (hsubscribes.trans h)
    | none =>
      rw [hsubscribes] at h
      exact .inr (.inl h)

/-- The message negotiates features. -/
def Negotiates (msg : SessionMsg) : Prop := ∃ cmd, msg = .command cmd ∧ cmd.operation = "hello"

instance : DecidablePred Negotiates
  | .command cmd =>
    decidable_of_iff (cmd.operation = "hello")
      ⟨fun h => ⟨cmd, rfl, h⟩, fun ⟨_, h, hop⟩ => SessionMsg.command.inj h ▸ hop⟩
  | .started | .stopped | .disconnected | .invalidText .. | .event _ | .flush =>
    isFalse fun ⟨_, h, _⟩ => nomatch h

/-- The event that a message puts into the queue. -/
def carries : SessionMsg → Option DeliveryEvent
  | .event evt => some evt
  | _ => none

/-- A command carries no event. -/
theorem carries_eq_none
    {msg : SessionMsg} {subject : Subject} {op : String} (h : msg.target op = some subject) :
    msg.carries = none := by
  cases msg with
  | command cmd => rfl
  | _ => cases h

/-- The message negotiates no features and carries no signal. -/
def Plain (msg : SessionMsg) : Prop :=
  ¬ msg.Negotiates ∧ ∀ evt ∈ msg.carries, evt.subject.isSignal = false

instance (msg : SessionMsg) : Decidable msg.Plain := by
  unfold Plain
  infer_instance

end SessionMsg

/-! ## Moves -/

/-- The number of the next snapshot of a subject. -/
def View.nextSnapshotSeq (v : View) (key : String) : Int := v.snapshotSeq.getD key 0 + 1

/-- A snapshot of a subject is counted. -/
def View.count (v : View) (key : String) : View :=
  { v with snapshotSeq := v.snapshotSeq.insert key (v.nextSnapshotSeq key) }

/-- A frame is written. -/
def View.write (v : View) (f : Frame) : View := { v with written := v.written ++ [f] }

/-- The chain of delivered events of a subject starts again. -/
def View.unchain (v : View) (key : String) : View :=
  { v with lastDeliveredSeq := v.lastDeliveredSeq.erase key }

/-- A subject is forgotten. -/
def View.forget (v : View) (key : String) : View :=
  { v with
    lastSnapshot := v.lastSnapshot.erase key
    snapshotSeq := v.snapshotSeq.erase key
    lastDeliveredSeq := v.lastDeliveredSeq.erase key }

/-- The first event of the queue is recorded as delivered. -/
def View.deliver (v : View) (key : String) (seq : Int) (entry : SessionSnapshotEntry) : View :=
  { v with
    outbound := v.outbound.tail
    lastDeliveredSeq := v.lastDeliveredSeq.insert key seq
    lastSnapshot := if validJSON entry.payload then v.lastSnapshot.insert key entry
      else v.lastSnapshot }

/-- The shared cache is replaced. -/
def View.setCache (v : View) (cache : SnapshotWireCache) : View := { v with cache := some cache }

/-- One thing that a session does while it handles the message `msg`. -/
inductive Move (cfg : SessionConfig) (now : Nat) (msg : SessionMsg) : View → View → Prop
  /-- Nothing is written, and the session is closed afterwards. -/
  | shut
      {v v' : View}
      (hclosed : v'.closed = true)
      (hwritten : v'.written = v.written)
      (hcache : v'.cache = v.cache)
      (hprovided : v'.provided = v.provided)
      (hdrops : v.dropCount ≤ v'.dropCount) :
      Move cfg now msg v v'
  | control
      {v : View} (f : Frame)
      (hopen : v.closed = false)
      (hf : f.isControl = true) :
      Move cfg now msg v (v.write f)
  | negotiated
      {v : View} (batching : Bool)
      (hmsg : msg.Negotiates) :
      Move cfg now msg v { v with batching := batching }
  /-- The provider is asked for a snapshot. -/
  | asked
      {v : View} (answers : List ProvidedSnapshot)
      (hanswers : ∀ a ∈ answers, a.time = now ∧ msg.Requests a.subject ∧
        ∃ provider n, cfg.hotSnapshotProvider = some provider ∧
          provider n a.subject = some a.raw) :
      Move cfg now msg v { v with provided := v.provided ++ answers }
  /-- A snapshot is counted whose frame does not fit. -/
  | counted
      {v : View} (subject : Subject)
      (hmsg : msg.Requests subject) :
      Move cfg now msg v (v.count subject.string)
  | hot
      {v : View} (subject : Subject) (raw : Bytes)
      (hopen : v.closed = false)
      (hmsg : msg.Requests subject)
      (hraw : (⟨now, subject, raw⟩ : ProvidedSnapshot) ∈ v.provided)
      (hcache : v.cache = none) :
      Move cfg now msg v ((v.count subject.string).write
        (.snapshot (hotFrame cfg now subject raw (v.nextSnapshotSeq subject.string))))
  | lastEvent
      {v : View} (subject : Subject) (entry : SessionSnapshotEntry)
      (hopen : v.closed = false)
      (hmsg : msg.Requests subject)
      (hhot : msg ≠ .flush ∧ cfg.hotSnapshotProvider = none ∨ ∃ provider n,
        cfg.hotSnapshotProvider = some provider ∧ usablePayload (provider n subject) = none)
      (hentry : v.lastSnapshot.lookup subject.string = some entry) :
      Move cfg now msg v ((v.count subject.string).write
        (.snapshot (lastEventFrame cfg now subject.string entry
          (v.nextSnapshotSeq subject.string))))
  /-- A lookup in the shared cache, which may remove entries. -/
  | lookedUp
      {v : View} (cache cache' : SnapshotWireCache)
      (hcache : v.cache = some cache)
      (hmem : ∀ e ∈ cache'.entries, e ∈ cache.entries)
      (httl : cache'.ttl = cache.ttl) :
      Move cfg now msg v (v.setCache cache')
  | replayed
      {v : View} (subject : Subject) (cache : SnapshotWireCache)
      (e : LruEntry String SnapshotFrame)
      (hopen : v.closed = false)
      (hmsg : msg.Requests subject)
      (hcache : v.cache = some cache)
      (hmem : e ∈ cache.entries)
      (hkey : e.key = snapshotWireCacheKey subject 0)
      (hlive : now ≤ e.expiresAt) :
      Move cfg now msg v (v.write (.snapshot e.value))
  | cached
      {v : View} (subject : Subject) (raw : Bytes) (cache : SnapshotWireCache)
      (hopen : v.closed = false)
      (hmsg : msg.Requests subject)
      (hraw : (⟨now, subject, raw⟩ : ProvidedSnapshot) ∈ v.provided)
      (hcache : v.cache = some cache) :
      Move cfg now msg v
        ((v.setCache (cache.set (snapshotWireCacheKey subject 0)
          (hotFrame cfg now subject raw 0) now)).write (.snapshot (hotFrame cfg now subject raw 0)))
  | subscribed
      {v : View} (subject : Subject) {op requestID : String}
      (hopen : v.closed = false)
      (hmsg : msg.subscribes = some subject) :
      Move cfg now msg v
        (v.write (.ack .subscribe ⟨op, requestID, subject.string, 0, 0⟩))
  | resynced
      {v : View} (subject : Subject) {op requestID : String} {watermark snapshotSeq : Int}
      (hopen : v.closed = false)
      (hmsg : msg.resyncs = some subject) :
      Move cfg now msg v ((v.unchain subject.string).write
        (.ack .resync ⟨op, requestID, subject.string, watermark, snapshotSeq⟩))
  | unsubscribed
      {v : View} (subject : Subject) {op requestID : String}
      (hopen : v.closed = false)
      (hmsg : msg.unsubscribes = some subject) :
      Move cfg now msg v ((v.forget subject.string).write
        (.ack .unsubscribe ⟨op, requestID, subject.string, 0, 0⟩))
  /-- Queued events are dropped. -/
  | dropped
      {v : View} (queue : List DeliveryEvent)
      (hqueue : queue.Sublist v.outbound) :
      Move cfg now msg v { v with outbound := queue, dropCount := v.dropCount + 1 }
  | enqueued
      {v : View} (evt : DeliveryEvent)
      (hmsg : msg = .event evt) :
      Move cfg now msg v { v with outbound := v.outbound ++ [evt] }
  | delivered
      {v : View} (evt : DeliveryEvent) (rest : List DeliveryEvent) (payload : Bytes)
      (hopen : v.closed = false)
      (hmsg : msg = .flush)
      (hqueue : v.outbound = evt :: rest)
      (hpayload : prepareJSONPayload cfg evt.env = .ok payload) :
      Move cfg now msg v
        ((v.deliver evt.subject.string evt.env.seq
          (snapshotEntry now evt evt.subject.channel payload)).write
            (.event (eventFrame cfg now evt payload
              (v.lastDeliveredSeq.getD evt.subject.string 0))))
  /-- Events are delivered in another form. -/
  | packaged
      {v v' : View} (f : Frame)
      (hopen : v.closed = false)
      (hmsg : msg = .flush)
      (hform : cfg.preferProto = true ∨ v.batching = true ∨
        ∃ evt ∈ v.outbound, evt.subject.isSignal = true)
      (hf : f.isPackaged = true)
      (hclosed : v'.closed = false)
      (hwritten : v'.written = v.written ++ [f])
      (hqueue : v'.outbound.Sublist v.outbound)
      (hbatching : v'.batching = v.batching)
      (hseq : v'.snapshotSeq = v.snapshotSeq)
      (hcache : v'.cache = v.cache)
      (hprovided : v'.provided = v.provided)
      (hdrops : v'.dropCount = v.dropCount) :
      Move cfg now msg v v'

/-- A sequence of moves. -/
abbrev Moves (cfg : SessionConfig) (now : Nat) (msg : SessionMsg) : View → View → Prop :=
  Relation.ReflTransGen (Move cfg now msg)

/-- Only a closed session has nil maps. -/
def Sane (s : SessionActor) : Prop := s.mapsNil = true → s.closed = true

/-- The session gets from one state to the other by moves, whatever is off its queue. -/
structure Reaches (cfg : SessionConfig) (now : Nat) (msg : SessionMsg)
    (s s' : SessionActor) : Prop where
  sane : s.Sane → s'.Sane
  moves : ∀ taken, s.Sane → Moves cfg now msg (s.view taken) (s'.view taken)

/-- The event that a session still has in hand when its write has failed. -/
def unsettled (evt : DeliveryEvent) : Except Panic (Option Problem) → List DeliveryEvent
  | .ok none => []
  | _ => [evt]

/-- The session, which has taken an event off its queue, tries to write it. -/
structure Settles (cfg : SessionConfig) (now : Nat) (msg : SessionMsg) (evt : DeliveryEvent)
    (s : SessionActor) (o : SessionActor × Except Panic (Option Problem)) : Prop where
  sane : s.Sane → o.1.Sane
  moves : s.Sane → Moves cfg now msg (s.view [evt]) (o.1.view (unsettled evt o.2))

section Reaches

variable {cfg : SessionConfig} {now : Nat} {msg : SessionMsg}
variable {s₁ s' : SessionActor} {evt : DeliveryEvent} {subject : Subject} {raw : Bytes}
  {cache : SnapshotWireCache} {cmd : ClientCommand} {op : String}
variable (s : SessionActor)

theorem Reaches.refl : Reaches cfg now msg s s := ⟨id, fun _ _ => .refl⟩

theorem Reaches.trans
    {s₂ s₃ : SessionActor} (h : Reaches cfg now msg s₁ s₂) (h' : Reaches cfg now msg s₂ s₃) :
    Reaches cfg now msg s₁ s₃ where
  sane hs := h'.sane (h.sane hs)
  moves taken hs := (h.moves taken hs).trans (h'.moves taken (h.sane hs))

/-- Changes outside the view. -/
theorem Reaches.frame
    {s : SessionActor} (hview : s'.view = s.view) (hnil : s'.mapsNil = s.mapsNil) :
    Reaches cfg now msg s s' where
  sane hs h := by
    have hclosed : s'.closed = s.closed := congrArg View.closed (congrFun hview [])
    rw [hclosed]
    exact hs (hnil ▸ h)
  moves taken _ := by
    rw [hview]

/-- One move that does not close the session. -/
theorem Reaches.single
    {s : SessionActor} (hclosed : s'.closed = s.closed) (hnil : s'.mapsNil = s.mapsNil)
    (hmove : ∀ taken, Move cfg now msg (s.view taken) (s'.view taken)) :
    Reaches cfg now msg s s' where
  sane hs h := by
    rw [hclosed]
    exact hs (hnil ▸ h)
  moves taken _ := .single (hmove taken)

theorem Reaches.shut
    {s : SessionActor} (hclosed : s'.closed = true) (hwritten : s'.written = s.written)
    (hcache : s'.wireCache = s.wireCache) (hprovided : s'.provided = s.provided)
    (hdrops : s'.dropCount = s.dropCount) :
    Reaches cfg now msg s s' where
  sane _ _ := hclosed
  moves _ _ := .single (.shut hclosed hwritten hcache hprovided hdrops.ge)

/-! ## Writes -/

theorem closed_closeSession : (s.closeSession cfg).closed = true := by
  by_cases h : s.closed = true
  · rw [closeSession, if_pos h]
    exact h
  · rw [closeSession, if_neg h]

theorem written_closeSession :
    (s.closeSession cfg).written = s.written ∧
      (s.closeSession cfg).wireCache = s.wireCache ∧
      (s.closeSession cfg).provided = s.provided ∧
      (s.closeSession cfg).dropCount = s.dropCount := by
  by_cases h : s.closed = true
  · simp only [closeSession, if_pos h, and_self]
  · simp only [closeSession, if_neg h, and_self]

theorem reaches_closeSession : Reaches cfg now msg s (s.closeSession cfg) :=
  .shut (closed_closeSession s) (written_closeSession s).1 (written_closeSession s).2.1
    (written_closeSession s).2.2.1 (written_closeSession s).2.2.2

/-- A write succeeds on an open session only, and appends the frame. -/
theorem tryWrite_cases (cfg : SessionConfig) (s : SessionActor) (f : Frame) :
    s.closed = false ∧ s.tryWrite cfg f =
        ({ s with writes := s.writes + 1, written := s.written ++ [f] }, true) ∨
      s.tryWrite cfg f = ({ s with writes := s.writes + 1 }, false) := by
  unfold tryWrite
  split_ifs with h
  · exact .inl ⟨by simpa using h.1, rfl⟩
  · exact .inr rfl

/--
A change of the session followed by `writeJSON`: if the write succeeds, both together
are one move; if it fails, the session is closed.
-/
theorem reaches_writeJSON
    {s : SessionActor} {f : Frame} (hclosed : s₁.closed = s.closed) (hnil : s₁.mapsNil = s.mapsNil)
    (hwritten : s₁.written = s.written) (hcache : s₁.wireCache = s.wireCache)
    (hprovided : s₁.provided = s.provided) (hdrops : s₁.dropCount = s.dropCount)
    (hmove : s.closed = false →
      ∀ taken, Move cfg now msg (s.view taken) ((s₁.view taken).write f)) :
    Reaches cfg now msg s (s₁.writeJSON cfg f) := by
  unfold writeJSON
  obtain ⟨hopen, hwrite⟩ | hwrite := tryWrite_cases cfg s₁ f
  · rw [hwrite]
    refine .single hclosed hnil fun taken => ?_
    exact hmove (hclosed ▸ hopen) taken
  · rw [hwrite]
    refine .shut (closed_closeSession _) ?_ ?_ ?_ ?_
    · exact (written_closeSession _).1.trans hwritten
    · exact (written_closeSession _).2.1.trans hcache
    · exact (written_closeSession _).2.2.1.trans hprovided
    · exact (written_closeSession _).2.2.2.trans hdrops

theorem reaches_writeJSON_control
    {f : Frame} (hf : f.isControl = true) : Reaches cfg now msg s (s.writeJSON cfg f) :=
  reaches_writeJSON rfl rfl rfl rfl rfl rfl fun hopen _ => .control f hopen hf

theorem reaches_writeProblem (op requestID : String) (p : Problem) :
    Reaches cfg now msg s (s.writeProblem cfg op requestID p) :=
  reaches_writeJSON_control s rfl

theorem reaches_reportDrop
    (reason : DropReason) : Reaches cfg now msg s (s.reportDrop cfg reason) := by
  unfold reportDrop
  cases dropProblem cfg reason with
  | none => exact .refl s
  | some p => exact reaches_writeProblem s _ _ p

theorem closeSession_outbound (queue : List DeliveryEvent) :
    ({ s with outbound := queue } : SessionActor).closeSession cfg =
      { s.closeSession cfg with outbound := queue } := by
  unfold closeSession
  by_cases hclosed : s.closed = true
  · rw [if_pos hclosed, if_pos hclosed]
  · rw [if_neg hclosed, if_neg hclosed]

theorem tryWrite_outbound (queue : List DeliveryEvent) (f : Frame) :
    ({ s with outbound := queue } : SessionActor).tryWrite cfg f =
      ({ (s.tryWrite cfg f).1 with outbound := queue }, (s.tryWrite cfg f).2) := by
  unfold tryWrite
  split_ifs
  · rfl
  · rfl

/-- A report does not depend on the queue. -/
theorem reportDrop_outbound (reason : DropReason) (queue : List DeliveryEvent) :
    ({ s with outbound := queue } : SessionActor).reportDrop cfg reason =
      { s.reportDrop cfg reason with outbound := queue } := by
  unfold reportDrop
  cases dropProblem cfg reason with
  | none => rfl
  | some p =>
    change ({ s with outbound := queue } : SessionActor).writeJSON cfg _ =
      { s.writeJSON cfg _ with outbound := queue }
    unfold writeJSON
    rw [tryWrite_outbound]
    rcases s.tryWrite cfg (.error "delivery" "" p) with ⟨s', _ | _⟩
    · exact closeSession_outbound s' queue
    · rfl

theorem outbound_reportDrop
    (reason : DropReason) : (s.reportDrop cfg reason).outbound = s.outbound := by
  have hsame : s.reportDrop cfg reason = { s.reportDrop cfg reason with outbound := s.outbound } :=
    reportDrop_outbound s reason s.outbound
  rw [hsame]

/-- Events are taken off the queue, or out of the hands of the session, and dropped. -/
theorem moves_onDrop (reason : DropReason) {queue taken taken' : List DeliveryEvent}
    (hqueue : (taken' ++ queue).Sublist (taken ++ s.outbound)) (hs : s.Sane) :
    Moves cfg now msg (s.view taken)
      ((({ s with outbound := queue } : SessionActor).onDrop cfg reason).1.view taken') := by
  have hreport : Reaches cfg now msg s (s.reportDrop cfg reason) := reaches_reportDrop s reason
  set r : SessionActor := s.reportDrop cfg reason with hr
  have hsane : ({ r with outbound := queue, dropCount := r.dropCount + 1 } : SessionActor).Sane :=
    hreport.sane hs
  have hdropped : Move cfg now msg (r.view taken)
      (({ r with outbound := queue, dropCount := r.dropCount + 1 } : SessionActor).view taken') := by
    refine .dropped (taken' ++ queue) ?_
    change (taken' ++ queue).Sublist (taken ++ r.outbound)
    rw [hr, outbound_reportDrop]
    exact hqueue
  have hmoves := (hreport.moves taken hs).tail hdropped
  unfold onDrop
  rw [reportDrop_outbound, ← hr]
  dsimp only
  split_ifs
  · exact hmoves
  · set s₁ : SessionActor := { r with outbound := queue, dropCount := r.dropCount + 1 }
    have hclose : Reaches cfg now msg s₁
        ((s₁.writeProblem cfg "delivery" "" slowClientProblem).closeSession cfg) :=
      (reaches_writeProblem s₁ _ _ _).trans (reaches_closeSession _)
    exact hmoves.trans (hclose.moves taken' hsane)

theorem sane_onDrop
    {s : SessionActor} (reason : DropReason) (hs : s.Sane) : (s.onDrop cfg reason).1.Sane := by
  have hreport : Reaches cfg 0 .flush s (s.reportDrop cfg reason) := reaches_reportDrop s reason
  unfold onDrop
  dsimp only
  split_ifs
  · exact hreport.sane hs
  · exact fun _ => closed_closeSession _

/-- Queued events are dropped. -/
theorem reaches_dropped
    (reason : DropReason) {queue : List DeliveryEvent} (hqueue : queue.Sublist s.outbound) :
    Reaches cfg now msg s (({ s with outbound := queue } : SessionActor).onDrop cfg reason).1 where
  sane hs := sane_onDrop reason hs
  moves taken hs := moves_onDrop s reason ((List.Sublist.refl taken).append hqueue) hs

theorem reaches_onDrop (reason : DropReason) : Reaches cfg now msg s (s.onDrop cfg reason).1 :=
  reaches_dropped s reason (List.Sublist.refl s.outbound)

/-! ## The queue -/

theorem reaches_requestFlush : Reaches cfg now msg s s.requestFlush := by
  unfold requestFlush
  split_ifs
  · exact .refl s
  · exact .frame rfl rfl

theorem reaches_enqueued (hmsg : msg = .event evt) :
    Reaches cfg now msg s { s with outbound := s.outbound ++ [evt] } := by
  refine .single rfl rfl fun taken => ?_
  have hmove : Move cfg now msg (s.view taken)
      { s.view taken with outbound := (s.view taken).outbound ++ [evt] } :=
    .enqueued evt hmsg
  simpa only [view, List.append_assoc] using hmove

theorem reaches_pushBack (hmsg : msg = .event evt) : Reaches cfg now msg s (s.pushBack evt) :=
  (reaches_enqueued s hmsg).trans (reaches_requestFlush _)

theorem reaches_enqueueDelivery
    (hmsg : msg = .event evt) : Reaches cfg now msg s (s.enqueueDelivery cfg evt) := by
  unfold enqueueDelivery
  split_ifs
  · cases cfg.backpressurePolicy with
    | dropNewest => exact reaches_onDrop s .queueFull
    | dropOldest =>
      have hdrop : Reaches cfg now msg s
          (({ s with outbound := s.outbound.tail } : SessionActor).onDrop cfg .dropOldest).1 :=
        reaches_dropped s .dropOldest (List.tail_sublist s.outbound)
      dsimp only
      split
      · next heq => rwa [heq] at hdrop
      · next heq =>
          rw [heq] at hdrop
          exact hdrop.trans (reaches_pushBack _ hmsg)
    | priorityDrop =>
      cases hdrop : s.priorityDrop cfg evt with
      | none => exact reaches_onDrop s .priorityDropSelf
      | some s₁ =>
        have hnext : Reaches cfg now msg s (s₁.onDrop cfg .priorityDrop).1 := by
          obtain ⟨index, -, rfl⟩ := Option.map_eq_some_iff.mp hdrop
          refine (reaches_enqueued s hmsg).trans (reaches_dropped _ .priorityDrop ?_)
          exact (List.eraseIdx_sublist s.outbound index).append_right [evt]
        dsimp only
        split
        · next heq => rwa [heq] at hnext
        · next heq =>
            rw [heq] at hnext
            exact hnext.trans (reaches_requestFlush _)
  · exact reaches_pushBack s hmsg

/-! ## Snapshots -/

theorem reaches_bind {α β : Type} {x : SessionProg α} {f : α → SessionProg β} {s : SessionActor}
    (hx : Reaches cfg now msg s (x s).1)
    (hf : ∀ a s', x s = (s', .ok a) → Reaches cfg now msg s' (f a s').1) :
    Reaches cfg now msg s ((x >>= f) s).1 :=
  rel_bind (R := Reaches cfg now msg) Reaches.trans hx hf

/-- A program panics only with nil maps. -/
abbrev NilAtPanic {α : Type} (o : SessionActor × Except Panic α) : Prop :=
  Post (fun _ _ => True) (fun _ s => s.mapsNil = true) o

/-- The session gets to the end of a program by moves, and panics only with nil maps. -/
structure Ends (cfg : SessionConfig) (now : Nat) (msg : SessionMsg) {α : Type} (s : SessionActor)
    (o : SessionActor × Except Panic α) : Prop where
  reaches : Reaches cfg now msg s o.1
  nil : NilAtPanic o

theorem Ends.ok {α : Type} {a : α} {s : SessionActor} (h : Reaches cfg now msg s s') :
    Ends cfg now msg s (s', .ok a) :=
  ⟨h, .ok trivial⟩

theorem Ends.of_reaches
    {α : Type} {s : SessionActor} {o : SessionActor × Except Panic α} (h : Reaches cfg now msg s s₁)
    (h' : Ends cfg now msg s₁ o) : Ends cfg now msg s o :=
  ⟨h.trans h'.reaches, h'.nil⟩

/-- An assignment to a map either changes the session or stops the actor. -/
theorem assign_cases (g : SessionActor → SessionActor) (s : SessionActor) :
    s.mapsNil = true ∧ assign g s = (s, .error .assignmentToNilMap) ∨
      s.mapsNil = false ∧ assign g s = (g s, .ok ⟨⟩) := by
  unfold assign
  cases s.mapsNil with
  | true => exact .inl ⟨rfl, by simp⟩
  | false => exact .inr ⟨rfl, by simp⟩

theorem reaches_counted
    (hmsg : msg.Requests subject) : Reaches cfg now msg s (s.countSnapshot subject.string) :=
  .single rfl rfl fun _ => .counted subject hmsg

/-- A snapshot that is counted and written is one move. -/
theorem reaches_emitNumbered {frame : Int → SnapshotFrame} (hmsg : msg.Requests subject)
    (hmove : s.closed = false → ∀ taken, Move cfg now msg (s.view taken)
      (((s.view taken).count subject.string).write
        (.snapshot (frame (s.nextSnapshotSeq subject.string))))) :
    Ends cfg now msg s (emitNumbered cfg subject.string frame s) := by
  unfold emitNumbered
  rw [get_bind_apply]
  obtain ⟨hnil, hassign⟩ | ⟨-, hassign⟩ := assign_cases (countSnapshot subject.string) s
  · rw [bind_apply_error hassign]
    exact ⟨.refl s, .error hnil⟩
  · rw [bind_apply_ok hassign]
    refine .ok (?_ : Reaches cfg now msg s (writeSnapshot cfg _ (s.countSnapshot subject.string)).1)
    unfold writeSnapshot
    split_ifs
    · exact reaches_writeJSON rfl rfl rfl rfl rfl rfl hmove
    · exact (reaches_counted s hmsg).trans (reaches_onDrop _ _)

theorem reaches_emitLastEvent (hmsg : msg.Requests subject)
    (hhot : msg ≠ .flush ∧ cfg.hotSnapshotProvider = none ∨ ∃ provider n,
      cfg.hotSnapshotProvider = some provider ∧ usablePayload (provider n subject) = none) :
    Ends cfg now msg s (emitLastEvent cfg now subject s) := by
  unfold emitLastEvent
  rw [get_bind_apply]
  cases hentry : s.lastSnapshot.lookup subject.string with
  | none => exact .ok (.refl s)
  | some entry =>
    dsimp only
    split_ifs
    · exact reaches_emitNumbered s hmsg fun hopen taken =>
        .lastEvent subject entry hopen hmsg hhot hentry
    · exact .ok (.refl s)

/-- Asking the provider. -/
theorem reaches_getLatest {provider : Nat → Subject → Option Bytes} (hmsg : msg.Requests subject)
    (hprovider : cfg.hotSnapshotProvider = some provider) :
    Reaches cfg now msg s (getLatest provider now subject s).1 := by
  refine .single rfl rfl fun taken => .asked _ fun a ha => ?_
  obtain ⟨raw, hraw, rfl⟩ := List.mem_map.mp ha
  exact ⟨rfl, hmsg, provider, s.providerCalls, hprovider, Option.mem_toList.mp hraw⟩

theorem reaches_hotPayload
    (hmsg : msg.Requests subject) : Reaches cfg now msg s (hotPayload cfg now subject s).1 := by
  unfold hotPayload
  cases hprovider : cfg.hotSnapshotProvider with
  | none => exact .refl s
  | some provider => exact reaches_getLatest s hmsg hprovider

/-- A payload of the provider is logged with its time and subject. -/
theorem mem_provided_of_hotPayload
    {s : SessionActor} (h : hotPayload cfg now subject s = (s', some raw)) :
    (⟨now, subject, raw⟩ : ProvidedSnapshot) ∈ s'.provided := by
  unfold hotPayload at h
  cases hprovider : cfg.hotSnapshotProvider with
  | none => simp [hprovider] at h
  | some provider =>
    simp only [hprovider, getLatest, Prod.mk.injEq] at h
    obtain ⟨rfl, hraw⟩ := h
    have hanswer : provider s.providerCalls subject = some raw :=
      (Option.filter_eq_some_iff.mp hraw).1
    simp [hanswer]

theorem of_hotPayload_eq_none {s : SessionActor} (h : hotPayload cfg now subject s = (s', none)) :
    cfg.hotSnapshotProvider = none ∨ ∃ provider n,
      cfg.hotSnapshotProvider = some provider ∧ usablePayload (provider n subject) = none := by
  unfold hotPayload at h
  cases hprovider : cfg.hotSnapshotProvider with
  | none => exact .inl rfl
  | some provider =>
    simp only [hprovider, getLatest, Prod.mk.injEq] at h
    exact .inr ⟨provider, s.providerCalls, rfl, h.2⟩

theorem reaches_replayCached (hmsg : msg.Requests subject) (hcache : s.wireCache = some cache) :
    Reaches cfg now msg s (replayCached cfg now cache subject s).1 := by
  unfold replayCached
  rcases hget : cache.get (snapshotWireCacheKey subject 0) now with ⟨hit, cache'⟩
  have hmem : ∀ e ∈ cache'.entries, e ∈ cache.entries := by
    intro e he
    have hfrom := LruCache.mem_entries_get cache (snapshotWireCacheKey subject 0) now (e := e)
    rw [hget] at hfrom
    exact hfrom he
  have httl : cache'.ttl = cache.ttl := by
    have httl := LruCache.ttl_get cache (snapshotWireCacheKey subject 0) now
    rwa [hget] at httl
  have hlooked : Reaches cfg now msg s { s with wireCache := some cache' } :=
    .single rfl rfl fun taken => .lookedUp cache cache' hcache hmem httl
  cases hit with
  | none => exact hlooked
  | some frame =>
    obtain ⟨e, he, hkey, rfl, hlive⟩ := LruCache.get_eq_some hget
    dsimp only [writeJSONRawWithLimits]
    split_ifs
    · obtain ⟨hopen, hwrite⟩ | hwrite := tryWrite_cases cfg
        ({ s with wireCache := some cache' } : SessionActor) (.snapshot e.value)
      · rw [hwrite]
        -- the entry may leave the cache with the lookup, so the write comes first
        have hreplay : Reaches cfg now msg s
            { s with writes := s.writes + 1, written := s.written ++ [.snapshot e.value] } :=
          .single rfl rfl fun taken =>
            .replayed subject cache e hopen hmsg hcache he hkey hlive
        exact hreplay.trans (.single rfl rfl fun taken => .lookedUp cache cache' hcache hmem httl)
      · rw [hwrite]
        exact hlooked.trans (.frame rfl rfl)
    · exact hlooked

/-- Looking a frame up leaves a cache, and does not ask the provider. -/
theorem replayCached_keeps
    (cfg : SessionConfig) (now : Nat) (s : SessionActor) (cache : SnapshotWireCache) (subject : Subject) :
    (∃ cache', (replayCached cfg now cache subject s).1.wireCache = some cache') ∧
      (replayCached cfg now cache subject s).1.provided = s.provided := by
  unfold replayCached
  rcases cache.get (snapshotWireCacheKey subject 0) now with ⟨_ | frame, cache'⟩
  · exact ⟨⟨cache', rfl⟩, rfl⟩
  · dsimp only [writeJSONRawWithLimits]
    split_ifs
    · obtain ⟨-, hwrite⟩ | hwrite := tryWrite_cases cfg
        ({ s with wireCache := some cache' } : SessionActor) (.snapshot frame)
      · rw [hwrite]
        exact ⟨⟨cache', rfl⟩, rfl⟩
      · rw [hwrite]
        exact ⟨⟨cache', rfl⟩, rfl⟩
    · exact ⟨⟨cache', rfl⟩, rfl⟩

theorem reaches_writeAndCache
    (hmsg : msg.Requests subject) (hraw : (⟨now, subject, raw⟩ : ProvidedSnapshot) ∈ s.provided)
    (hcache : s.wireCache = some cache) :
    Reaches cfg now msg s (writeAndCache cfg now subject raw s).1 := by
  unfold writeAndCache writeJSONRawWithLimits
  by_cases hfits : s.frameFitsMaxBytes cfg (hotFrame cfg now subject raw 0).marshal = true
  · obtain ⟨hopen, hwrite⟩ | hwrite := tryWrite_cases cfg s
      (.snapshot (hotFrame cfg now subject raw 0))
    · simp only [hfits, if_true, hwrite]
      refine .single rfl rfl fun taken => ?_
      have hmove : Move cfg now msg (s.view taken) _ :=
        .cached subject raw cache hopen hmsg hraw hcache
      simpa only [view, View.write, View.setCache, storeCached, hcache, Option.map_some] using hmove
    · simp only [hfits, if_true, hwrite]
      have hfailed : Reaches cfg now msg s { s with writes := s.writes + 1 } := .frame rfl rfl
      exact hfailed.trans (reaches_onDrop _ _)
  · simp only [hfits]
    exact reaches_onDrop s _

theorem reaches_emitCached
    (hmsg : msg.Requests subject) (hraw : (⟨now, subject, raw⟩ : ProvidedSnapshot) ∈ s.provided)
    (hcache : s.wireCache = some cache) :
    Reaches cfg now msg s (emitCached cfg now cache subject raw s).1 := by
  have hreplay : Reaches cfg now msg s (replayCached cfg now cache subject s).1 :=
    reaches_replayCached s hmsg hcache
  obtain ⟨⟨cache', hcache'⟩, hprovided⟩ := replayCached_keeps cfg now s cache subject
  unfold emitCached
  rcases hrun : replayCached cfg now cache subject s with ⟨s₁, _ | _⟩
  · rw [hrun] at hreplay hcache' hprovided
    exact hreplay.trans (reaches_writeAndCache s₁ hmsg (hprovided ▸ hraw) hcache')
  · rw [hrun] at hreplay
    exact hreplay

theorem reaches_emitSnapshot
    (hmsg : msg.Requests subject) (hflush : msg = .flush → cfg.hotSnapshotProvider ≠ none) :
    Ends cfg now msg s (emitSnapshot cfg now subject s) := by
  unfold emitSnapshot
  rw [act_bind_apply]
  have hasked : Reaches cfg now msg s (hotPayload cfg now subject s).1 := reaches_hotPayload s hmsg
  rcases hpayload : hotPayload cfg now subject s with ⟨s₁, _ | raw⟩
  · rw [hpayload] at hasked
    refine .of_reaches hasked (reaches_emitLastEvent s₁ hmsg ?_)
    exact (of_hotPayload_eq_none hpayload).imp_left fun hnone => ⟨fun hmsg => hflush hmsg hnone, hnone⟩
  · rw [hpayload] at hasked
    have hraw := mem_provided_of_hotPayload hpayload
    refine .of_reaches hasked ?_
    dsimp only
    rw [get_bind_apply]
    cases hcache : s₁.wireCache with
    | none =>
      exact reaches_emitNumbered s₁ hmsg fun hopen taken =>
        .hot subject raw hopen hmsg hraw hcache
    | some cache => exact .ok (reaches_emitCached s₁ hmsg hraw hcache)

theorem reaches_emitHotSnapshot
    (hmsg : msg.Requests subject) : Ends cfg now msg s (emitHotSnapshot cfg now subject s) := by
  unfold emitHotSnapshot
  cases hprovider : cfg.hotSnapshotProvider with
  | none => exact .ok (.refl s)
  | some provider =>
    dsimp only
    rw [act_bind_apply]
    refine .of_reaches (reaches_getLatest s hmsg hprovider) ?_
    rcases (getLatest provider now subject s).2 with _ | _ | ⟨b, rest⟩
    · exact .ok (.refl _)
    · exact .ok (.refl _)
    · exact reaches_emitSnapshot _ hmsg fun _ => by simp [hprovider]

/-! ## Commands -/

theorem target_command
    (hop : cmd.operation = op) (hsubject : resolveCommandSubject cmd op = .ok subject) :
    (SessionMsg.command cmd).target op = some subject := by
  simp [SessionMsg.target, hop, hsubject, Except.toOption]

theorem reaches_requireHelloGate
    {s : SessionActor} {requestID : String} (h : s.requireHelloGate cfg op requestID = some s') :
    Reaches cfg now msg s s' := by
  unfold requireHelloGate at h
  split_ifs at h
  obtain rfl := Option.some.inj h
  exact reaches_writeProblem s _ _ _

theorem reaches_allowRateLimitedCommand (op requestID : String) :
    Reaches cfg now msg s (s.allowRateLimitedCommand cfg op requestID).1 := by
  unfold allowRateLimitedCommand
  cases cfg.rateLimiter with
  | none => exact .refl s
  | some allow =>
    dsimp only
    split_ifs
    · exact .frame rfl rfl
    · have hcall : Reaches cfg now msg s { s with limiterCalls := s.limiterCalls + 1 } :=
        .frame rfl rfl
      exact hcall.trans (reaches_writeProblem _ _ _ _)

theorem reaches_admitCommand
    (op : String) (check : SessionActor → Subject → Option Problem) (cmd : ClientCommand) :
    Reaches cfg now msg s (admitCommand cfg op check cmd s).1 := by
  unfold admitCommand
  cases hgate : s.requireHelloGate cfg op cmd.requestID with
  | some s₁ => exact reaches_requireHelloGate hgate
  | none =>
    have hlimit : Reaches cfg now msg s (s.allowRateLimitedCommand cfg op cmd.requestID).1 :=
      reaches_allowRateLimitedCommand s op cmd.requestID
    rcases hallow : s.allowRateLimitedCommand cfg op cmd.requestID with ⟨s₁, _ | _⟩
    · rw [hallow] at hlimit
      exact hlimit
    · rw [hallow] at hlimit
      cases resolveCommandSubject cmd op with
      | error p => exact hlimit.trans (reaches_writeProblem _ _ _ _)
      | ok subject =>
        dsimp only
        cases check s₁ subject with
        | some p => exact hlimit.trans (reaches_writeProblem _ _ _ _)
        | none => exact hlimit

/-- The checks of a command lead on only with the subject of the command. -/
theorem resolve_of_admitCommand {s : SessionActor} {check : SessionActor → Subject → Option Problem}
    (h : (admitCommand cfg op check cmd s).2 = some subject) :
    resolveCommandSubject cmd op = .ok subject := by
  unfold admitCommand at h
  cases hgate : s.requireHelloGate cfg op cmd.requestID with
  | some s₁ => simp [hgate] at h
  | none =>
    rcases hallow : s.allowRateLimitedCommand cfg op cmd.requestID with ⟨s₁, _ | _⟩
    · simp [hgate, hallow] at h
    · cases hsubject : resolveCommandSubject cmd op with
      | error p => simp [hgate, hallow, hsubject] at h
      | ok subject' =>
        cases hcheck : check s₁ subject' with
        | some p => simp [hgate, hallow, hsubject, hcheck] at h
        | none =>
          simp only [hgate, hallow, hsubject, hcheck, Option.some.injEq] at h
          rw [h]

theorem reaches_sendRouter (m : SessionSend) : Reaches cfg now msg s (sendRouter cfg m s) := by
  unfold sendRouter
  split_ifs
  · exact .frame rfl rfl
  · exact .refl s

theorem reaches_rangeItems
    (params : RangeParams) (page : Int) (items : List RangeItem) (hmsg : msg.Requests subject) :
    Reaches cfg now msg s (rangeItems cfg now subject params page items s).1 := by
  unfold rangeItems
  cases hprovider : cfg.hotSnapshotProvider with
  | none => exact .refl s
  | some provider =>
    have hasked : Reaches cfg now msg s (getLatest provider now subject s).1 :=
      reaches_getLatest s hmsg hprovider
    dsimp only
    split_ifs
    · rcases hrun : getLatest provider now subject s with ⟨s₁, _ | _ | ⟨b, rest⟩⟩
      all_goals
        rw [hrun] at hasked
        exact hasked
    · exact .refl s

theorem reaches_writeRangeFrame
    (f : RangeFrame) : Reaches cfg now msg s (writeRangeFrame cfg f s) := by
  unfold writeRangeFrame
  split_ifs
  · exact reaches_writeJSON_control s rfl
  · exact .refl s

theorem reaches_emitRangeFrame
    (op requestID : String) (params : RangeParams) (hmsg : msg.Requests subject) :
    Reaches cfg now msg s (emitRangeFrame cfg now op requestID subject params s) := by
  have hcall : Reaches cfg now msg s { s with storeCalls := s.storeCalls + 1 } := .frame rfl rfl
  unfold emitRangeFrame
  dsimp only
  split
  · exact hcall
  · next stored _ =>
      have hitems := hcall.trans (reaches_rangeItems _ params
        (if params.page ≤ 0 then 1 else params.page) stored hmsg)
      exact hitems.trans (reaches_writeRangeFrame _ _)

theorem reaches_emitSubscribeBackfill (hmsg : msg.Requests subject) :
    Reaches cfg now msg s (emitSubscribeBackfill cfg now subject s) := by
  unfold emitSubscribeBackfill
  split_ifs
  · exact reaches_emitRangeFrame s _ _ _ hmsg
  · exact .refl s

/-- The entry for a deferred snapshot is outside the view. -/
theorem reaches_deferUnlessEmitted (subject : Subject) (emitted : Bool) :
    Reaches cfg now msg s (deferUnlessEmitted cfg subject emitted s).1 := by
  unfold deferUnlessEmitted
  split_ifs
  · obtain ⟨-, hassign⟩ | ⟨-, hassign⟩ := assign_cases (deferSnapshot subject) s
    · rw [hassign]
      exact .refl s
    · rw [hassign]
      exact .frame rfl rfl
  · exact .refl s

theorem reaches_acceptSubscribe (cmd : ClientCommand) (hmsg : msg.subscribes = some subject) :
    Reaches cfg now msg s (acceptSubscribe cfg now cmd subject s).1 := by
  unfold acceptSubscribe
  rw [modify_bind_apply]
  have hinsert : Reaches cfg now msg s
      { s with subscriptions := s.subscriptions.insert subject () } := .frame rfl rfl
  refine hinsert.trans ?_
  have hflush : msg ≠ .flush := by
    rintro rfl
    cases hmsg
  refine reaches_bind (reaches_emitSnapshot _ (.inl hmsg) fun h => absurd h hflush).reaches
    fun emitted s₁ _ => ?_
  refine reaches_bind (reaches_deferUnlessEmitted s₁ subject emitted) fun _ s₂ _ => ?_
  simp only [modify_bind_apply, modify_apply]
  refine (reaches_sendRouter s₂ (.subscribe subject)).trans ?_
  refine Reaches.trans ?_ (reaches_emitSubscribeBackfill _ (.inl hmsg))
  exact reaches_writeJSON rfl rfl rfl rfl rfl rfl fun hopen taken =>
    .subscribed subject hopen hmsg

theorem reaches_handleSubscribe (hmsg : msg = .command cmd) (hop : cmd.operation = "subscribe") :
    Reaches cfg now msg s (handleSubscribe cfg now cmd s).1 := by
  unfold handleSubscribe
  rw [act_bind_apply]
  have hchecked : Reaches cfg now msg s (admitSubscribe cfg cmd s).1 :=
    reaches_admitCommand s _ _ cmd
  refine hchecked.trans ?_
  cases hresult : (admitSubscribe cfg cmd s).2 with
  | none => exact .refl _
  | some subject =>
    subst hmsg
    exact reaches_acceptSubscribe _ cmd (target_command hop (resolve_of_admitCommand hresult))

theorem reaches_handleUnsubscribe
    (hmsg : msg = .command cmd) (hop : cmd.operation = "unsubscribe") :
    Reaches cfg now msg s (handleUnsubscribe cfg cmd s) := by
  unfold handleUnsubscribe
  cases hsubject : resolveCommandSubject cmd "unsubscribe" with
  | error p => exact reaches_writeProblem s _ _ p
  | ok subject =>
    subst hmsg
    have htarget : (SessionMsg.command cmd).unsubscribes = some subject :=
      target_command hop hsubject
    dsimp only
    split_ifs
    · unfold sendRouter writeAck
      split_ifs
      · exact reaches_writeJSON rfl rfl rfl rfl rfl rfl fun hopen taken =>
          .unsubscribed subject hopen htarget
      · exact reaches_writeJSON rfl rfl rfl rfl rfl rfl fun hopen taken =>
          .unsubscribed subject hopen htarget
    · exact reaches_writeProblem s _ _ _

theorem reaches_handleResync (hmsg : msg = .command cmd) (hop : cmd.operation = "resync") :
    Reaches cfg now msg s (handleResync cfg now cmd s).1 := by
  unfold handleResync
  rw [act_bind_apply]
  have hchecked : Reaches cfg now msg s (admitResync cfg cmd s).1 := reaches_admitCommand s _ _ cmd
  refine hchecked.trans ?_
  cases hresult : (admitResync cfg cmd s).2 with
  | none => exact .refl _
  | some subject =>
    subst hmsg
    have htarget : (SessionMsg.command cmd).resyncs = some subject :=
      target_command hop (resolve_of_admitCommand hresult)
    refine reaches_bind (reaches_emitSnapshot _ (.inr (.inl htarget)) fun h => nomatch h).reaches
      fun emitted s₁ _ => ?_
    cases emitted with
    | true =>
      exact reaches_writeJSON rfl rfl rfl rfl rfl rfl fun hopen taken =>
        .resynced subject hopen htarget
    | false => exact reaches_writeProblem s₁ _ _ _

theorem reaches_handleClientHello (hmsg : msg = .command cmd) (hop : cmd.operation = "hello") :
    Reaches cfg now msg s (handleClientHello cfg now cmd s) := by
  have hseen : Reaches cfg now msg s { s with helloSeen := true } := .frame rfl rfl
  refine hseen.trans ?_
  unfold handleClientHello
  rcases NegotiatedFeatures.negotiate cmd.requestedFeatures cfg.compressionEnabled with
    ⟨nf, _ | ⟨name, names⟩⟩
  · dsimp only
    by_cases hrequested : cmd.requestedFeatures = []
    · rw [if_pos hrequested]
      exact reaches_writeJSON_control _ rfl
    · rw [if_neg hrequested]
      have hfeatures : Reaches cfg now msg { s with helloSeen := true }
          { s with helloSeen := true, features := nf } :=
        .single rfl rfl fun taken => .negotiated nf.batching ⟨cmd, hmsg, hop⟩
      exact hfeatures.trans (reaches_writeJSON_control _ rfl)
  · exact reaches_writeProblem _ _ _ _

theorem reaches_handleCommand
    (hmsg : msg = .command cmd) : Reaches cfg now msg s (handleCommand cfg now cmd s).1 := by
  unfold handleCommand
  split_ifs with hello hsubscribe hunsubscribe hping hresync
  · exact reaches_handleClientHello s hmsg hello
  · exact reaches_handleSubscribe s hmsg hsubscribe
  · exact reaches_handleUnsubscribe s hmsg hunsubscribe
  · exact reaches_writeJSON_control s rfl
  · exact reaches_handleResync s hmsg hresync
  · exact reaches_writeProblem s _ _ _

/-! ## Events -/

theorem reaches_emitDeferred (subject : Subject) (hmsg : msg = .flush) :
    Ends cfg now msg s (emitDeferred cfg now subject s) := by
  unfold emitDeferred
  rw [get_bind_apply]
  split_ifs
  · have hemit : Ends cfg now msg s (emitHotSnapshot cfg now subject s) :=
      reaches_emitHotSnapshot s (.inr (.inr hmsg))
    refine ⟨reaches_bind hemit.reaches fun emitted s₁ _ => ?_, hemit.nil.bind fun emitted s₁ _ => ?_⟩
    · cases emitted with
      | true => exact .frame rfl rfl
      | false => exact .refl s₁
    · cases emitted with
      | true => exact .ok trivial
      | false => exact .ok trivial
  · exact .ok (.refl s)

/-- The maps of an open session are not nil. -/
theorem not_sane
    {s : SessionActor} (hnil : s.mapsNil = true) (hopen : s.closed = false) : ¬ s.Sane := by
  intro hs
  have hclosed := hs hnil
  rw [hopen] at hclosed
  cases hclosed

/-- Moves before the event is settled. -/
theorem Settles.of_reaches {s₂ : SessionActor} {o : SessionActor × Except Panic (Option Problem)}
    (h : Reaches cfg now msg s₁ s₂) (h' : Settles cfg now msg evt s₂ o) :
    Settles cfg now msg evt s₁ o where
  sane hs := h'.sane (h.sane hs)
  moves hs := (h.moves [evt] hs).trans (h'.moves (h.sane hs))

/-- The event is not written. -/
theorem Settles.failed
    {s : SessionActor} {result : Except Panic (Option Problem)} (h : Reaches cfg now msg s s')
    (hresult : unsettled evt result = [evt]) :
    Settles cfg now msg evt s (s', result) where
  sane := h.sane
  moves hs := by
    rw [hresult]
    exact h.moves [evt] hs

/-- The event is kept with a problem. -/
theorem settles_problem (evt : DeliveryEvent) (p : Problem) :
    Settles cfg now msg evt s (s, .ok (some p)) ∧
      NilAtPanic (s, (.ok (some p) : Except Panic (Option Problem))) :=
  ⟨.failed (.refl s) rfl, .ok trivial⟩

/-- The event is dropped. -/
theorem settles_onDrop (evt : DeliveryEvent) (reason : DropReason) :
    Settles cfg now msg evt s ((s.onDrop cfg reason).1, .ok none) where
  sane hs := sane_onDrop reason hs
  moves hs := moves_onDrop s reason (List.sublist_cons_self evt s.outbound) hs

/-- An encoded event is dropped, refused by the connection or delivered in one move. -/
theorem settles_transmit
    (evt : DeliveryEvent) {frame : Frame} {failure : String} {record : SessionActor → SessionActor}
    (hrecord : ∀ s, (record s).closed = s.closed ∧ (record s).mapsNil = s.mapsNil)
    (hmove : s.closed = false → Move cfg now msg (s.view [evt]) ((record
      { s with writes := s.writes + 1, written := s.written ++ [frame] }).view [])) :
    Settles cfg now msg evt s (transmit cfg raw frame failure record s) ∧
      NilAtPanic (transmit cfg raw frame failure record s) := by
  unfold transmit
  rw [get_bind_apply]
  split_ifs
  · rw [act_bind_apply]
    obtain ⟨hopen, hwrite⟩ | hwrite := tryWrite_cases cfg s frame
    · rw [hwrite]
      set s₁ : SessionActor := { s with writes := s.writes + 1, written := s.written ++ [frame] }
      change Settles cfg now msg evt s
          (((do assign record; pure none) : SessionProg (Option Problem)) s₁) ∧
        NilAtPanic (((do assign record; pure none) : SessionProg (Option Problem)) s₁)
      obtain ⟨hnil, hassign⟩ | ⟨-, hassign⟩ := assign_cases record s₁
      · -- the maps of an open session are not nil
        rw [bind_apply_error hassign]
        have hnot := not_sane hnil hopen
        exact ⟨⟨fun hs => absurd hs hnot, fun hs => absurd hs hnot⟩, .error hnil⟩
      · rw [bind_apply_ok hassign]
        refine ⟨⟨fun hs hnil => ?_, fun _ => .single (hmove hopen)⟩, .ok trivial⟩
        rw [pure_apply] at hnil ⊢
        rw [(hrecord s₁).2] at hnil
        rw [(hrecord s₁).1]
        exact hs hnil
    · rw [hwrite]
      exact ⟨.failed (.frame rfl rfl) rfl, .ok trivial⟩
  · exact ⟨settles_onDrop s evt .frameTooLarge, .ok trivial⟩

theorem recordSnapshot_eq (key : String) (entry : SessionSnapshotEntry) :
    recordSnapshot key entry s = { s with
      lastSnapshot := if validJSON entry.payload then s.lastSnapshot.insert key entry
        else s.lastSnapshot } := by
  unfold recordSnapshot
  split_ifs
  · rfl
  · rfl

theorem settles_writeProtoEvent
    (evt : DeliveryEvent) (hmsg : msg = .flush) (hproto : cfg.preferProto = true) :
    Settles cfg now msg evt s (writeProtoEvent cfg now evt s) ∧
      NilAtPanic (writeProtoEvent cfg now evt s) := by
  unfold writeProtoEvent
  rw [get_bind_apply]
  cases cfg.marshalEnvelope
      (protoEnvelope cfg now evt (s.lastDeliveredSeq.getD evt.subject.string 0)) with
  | error p => exact settles_problem s evt _
  | ok raw =>
    refine settles_transmit s evt (fun s => ⟨rfl, rfl⟩) fun hopen => ?_
    exact .packaged _ hopen hmsg (.inl hproto) rfl hopen rfl (List.sublist_cons_self evt _) rfl rfl
      rfl rfl rfl

theorem settles_writeSignalEvent
    (payload : Bytes) (hmsg : msg = .flush) (hsignal : evt.subject.isSignal = true) :
    Settles cfg now msg evt s (writeSignalEvent cfg now evt payload s) ∧
      NilAtPanic (writeSignalEvent cfg now evt payload s) := by
  unfold writeSignalEvent
  cases cfg.signalPayload payload with
  | error p => exact settles_problem s evt _
  | ok signal =>
    simp only [recordSnapshot_eq]
    refine settles_transmit s evt (fun s => ⟨rfl, rfl⟩) fun hopen => ?_
    exact .packaged _ hopen hmsg (.inr (.inr ⟨evt, List.mem_cons_self, hsignal⟩)) rfl hopen rfl
      (List.sublist_cons_self evt _) rfl rfl rfl rfl rfl

theorem settles_writeJSONEvent {payload : Bytes} (hmsg : msg = .flush)
    (hpayload : prepareJSONPayload cfg evt.env = .ok payload) :
    Settles cfg now msg evt s (writeJSONEvent cfg now evt payload s) ∧
      NilAtPanic (writeJSONEvent cfg now evt payload s) := by
  unfold writeJSONEvent
  rw [get_bind_apply]
  cases (eventFrame cfg now evt payload (s.lastDeliveredSeq.getD evt.subject.string 0)).marshal with
  | none => exact settles_problem s evt _
  | some raw =>
    simp only [recordSnapshot_eq]
    refine settles_transmit s evt (fun s => ⟨rfl, rfl⟩) fun hopen => ?_
    exact .delivered evt s.outbound payload hopen hmsg rfl hpayload

theorem settles_writeDeliveryEvent (evt : DeliveryEvent) (hmsg : msg = .flush) :
    Settles cfg now msg evt s (writeDeliveryEvent cfg now evt s) ∧
      NilAtPanic (writeDeliveryEvent cfg now evt s) := by
  unfold writeDeliveryEvent
  have hdeferred : Ends cfg now msg s (emitDeferred cfg now evt.subject s) :=
    reaches_emitDeferred s evt.subject hmsg
  rcases hrun : emitDeferred cfg now evt.subject s with ⟨s₁, e | u⟩
  · rw [bind_apply_error hrun]
    rw [hrun] at hdeferred
    cases hdeferred.nil with
    | error hnil => exact ⟨.failed hdeferred.reaches rfl, .error hnil⟩
  · rw [bind_apply_ok hrun]
    rw [hrun] at hdeferred
    refine And.imp_left (Settles.of_reaches hdeferred.reaches) ?_
    cases hproto : cfg.preferProto && cfg.protoRollout evt.env.type with
    | true => exact settles_writeProtoEvent s₁ evt hmsg (Bool.and_eq_true_iff.mp hproto).1
    | false =>
      cases hpayload : prepareJSONPayload cfg evt.env with
      | error p => exact settles_problem s₁ evt _
      | ok payload =>
        cases hsignal : evt.subject.isSignal with
        | true => exact settles_writeSignalEvent s₁ payload hmsg hsignal
        | false => exact settles_writeJSONEvent s₁ hmsg hpayload

/-! ## Batches -/

/-- Without a negotiation a session that stays open keeps its form of delivery. -/
theorem Moves.batching_eq {v v' : View} (h : Moves cfg now msg v v') (hmsg : ¬ msg.Negotiates)
    (hopen : v'.closed = false) : v'.batching = v.batching := by
  have hkept : v'.closed = true ∨ v'.batching = v.batching := by
    clear hopen
    induction h with
    | refl => exact .inr rfl
    | tail _ hmove ih =>
      cases hmove with
      | shut hclosed => exact .inl hclosed
      | negotiated _ hmsg' => exact absurd hmsg' hmsg
      | packaged _ _ _ _ _ hclosed _ _ hbatching =>
        obtain ih | ih := ih
        · simp_all
        · exact .inr (hbatching.trans ih)
      | _ => exact ih
  exact hkept.resolve_left (Bool.eq_false_iff.mp hopen)

/-- Recording a batch takes events off the queue and updates the maps of the subjects. -/
theorem recordBatch_eq (subject : Subject) (preps : List PreparedBatchEvent) (s : SessionActor) :
    ∃ queue snapshots delivered, queue.Sublist s.outbound ∧
      recordBatch subject preps s = { s with
        outbound := queue, lastSnapshot := snapshots, lastDeliveredSeq := delivered } := by
  induction preps generalizing s with
  | nil => exact ⟨_, _, _, List.Sublist.refl _, rfl⟩
  | cons prep preps ih =>
    obtain ⟨queue, snapshots, delivered, hqueue, hrest⟩ := ih (recordBatchEvent subject s prep)
    rw [recordBatchEvent, recordSnapshot_eq] at hqueue hrest
    refine ⟨queue, snapshots, delivered, hqueue.trans (List.tail_sublist s.outbound), ?_⟩
    change recordBatch subject preps (recordBatchEvent subject s prep) = _
    rw [recordBatchEvent, recordSnapshot_eq, hrest]
    rfl

/-- A batch that is written and recorded is one move. -/
theorem reaches_writeBatch
    (subject : Subject) (events : List PreparedBatchEvent) (result : Except Problem Nat)
    (hmsg : msg = .flush) (hbatching : s.closed = false → s.features.batching = true) :
    Reaches cfg now msg s (((do
      if ← Prog.act fun s => s.tryWrite cfg (.batch (batchHeader cfg subject) events) then
        assign (recordBatch subject events)
        pure result
      else
        pure (.error (Problem.new .internal "batch write failed"))) :
      SessionProg (Except Problem Nat)) s).1 := by
  rw [act_bind_apply]
  obtain ⟨hopen, hwrite⟩ | hwrite := tryWrite_cases cfg s
    (.batch (batchHeader cfg subject) events)
  · rw [hwrite]
    set s₁ : SessionActor :=
      { s with
        writes := s.writes + 1
        written := s.written ++ [.batch (batchHeader cfg subject) events] }
    change Reaches cfg now msg s
      (((do assign (recordBatch subject events); pure result) : SessionProg _) s₁).1
    obtain ⟨queue, snapshots, delivered, hqueue, hrecord⟩ := recordBatch_eq subject events s₁
    obtain ⟨hnil, hassign⟩ | ⟨-, hassign⟩ := assign_cases (recordBatch subject events) s₁
    · rw [bind_apply_error hassign]
      have hnot := not_sane hnil hopen
      exact ⟨fun hs => absurd hs hnot, fun _ hs => absurd hs hnot⟩
    · rw [bind_apply_ok hassign, hrecord]
      refine .single rfl rfl fun taken => ?_
      exact .packaged _ hopen hmsg (.inr (.inl (hbatching hopen))) rfl hopen rfl
        ((List.Sublist.refl taken).append hqueue) rfl rfl rfl rfl rfl
  · rw [hwrite]
    exact .frame rfl rfl

theorem reaches_writeLargestBatch
    (subject : Subject) (preps : List PreparedBatchEvent) (count : Nat) (hmsg : msg = .flush)
    (hbatching : s.closed = false → s.features.batching = true) :
    Reaches cfg now msg s (writeLargestBatch cfg subject preps count s).1 := by
  induction count with
  | zero => exact .refl s
  | succ count ih =>
    cases count with
    | zero => exact .refl s
    | succ count =>
      unfold writeLargestBatch
      rw [get_bind_apply]
      cases batchFrame (batchHeader cfg subject) (preps.take (count + 2)) with
      | none => exact .refl s
      | some raw =>
        cases hfits : s.fits cfg raw with
        | true =>
          simp only [hfits, if_true]
          exact reaches_writeBatch s subject (preps.take (count + 2)) _ hmsg hbatching
        | false =>
          simp only [hfits, Bool.false_eq_true, if_false]
          exact ih

theorem reaches_writeDeliveryBatchFromQueue
    (maxItems : Nat) (hmsg : msg = .flush) (hbatching : s.features.batching = true)
    (hsane : s.Sane) :
    Reaches cfg now msg s (writeDeliveryBatchFromQueue cfg now maxItems s).1 := by
  unfold writeDeliveryBatchFromQueue
  rw [get_bind_apply]
  cases s.outbound with
  | nil => exact .refl s
  | cons first rest =>
    have hdeferred : Reaches cfg now msg s (emitDeferred cfg now first.subject s).1 :=
      (reaches_emitDeferred s first.subject hmsg).reaches
    dsimp only
    split_ifs
    · exact .refl s
    · exact reaches_bind hdeferred fun _ s₁ _ => .refl s₁
    · refine reaches_bind hdeferred fun _ s₁ hrun => ?_
      rw [hrun] at hdeferred
      rw [get_bind_apply]
      cases prepareBatch cfg now (s₁.lastDeliveredSeq.getD first.subject.string 0)
          (batchCandidates maxItems (first :: rest)) with
      | error p => exact .refl s₁
      | ok preps =>
        refine reaches_writeLargestBatch s₁ first.subject _ _ hmsg fun hopen => ?_
        have hquiet : ¬ msg.Negotiates := by
          rintro ⟨cmd, rfl, -⟩
          cases hmsg
        exact ((hdeferred.moves [] hsane).batching_eq hquiet hopen).trans hbatching

end Reaches

/-! ## Flushes and messages -/

/-- A message leads from one view of the session to the next by moves. -/
structure Advances (cfg : SessionConfig) (now : Nat) (msg : SessionMsg)
    (s s' : SessionActor) : Prop where
  sane : s.Sane → s'.Sane
  moves : s.Sane → Moves cfg now msg (s.view []) (s'.view [])

section Advances

variable {cfg : SessionConfig} {now : Nat} {msg : SessionMsg}

theorem Reaches.advances
    {s s' : SessionActor} (h : Reaches cfg now msg s s') : Advances cfg now msg s s' :=
  ⟨h.sane, h.moves []⟩

theorem Advances.trans
    {s₁ s₂ s₃ : SessionActor} (h : Advances cfg now msg s₁ s₂) (h' : Advances cfg now msg s₂ s₃) :
    Advances cfg now msg s₁ s₃ where
  sane hs := h'.sane (h.sane hs)
  moves hs := (h.moves hs).trans (h'.moves (h.sane hs))

theorem advances_bind {α β : Type} {x : SessionProg α} {f : α → SessionProg β} {s : SessionActor}
    (hx : Advances cfg now msg s (x s).1)
    (hf : ∀ a s', x s = (s', .ok a) → Advances cfg now msg s' (f a s').1) :
    Advances cfg now msg s ((x >>= f) s).1 :=
  rel_bind (R := Advances cfg now msg) Advances.trans hx hf

/-- The first event of the queue is taken, and what its write leaves in hand is dropped
with the end of the session. -/
theorem Advances.settles {s s' : SessionActor} {evt : DeliveryEvent} {rest : List DeliveryEvent}
    {o : SessionActor × Except Panic (Option Problem)} (hqueue : s.outbound = evt :: rest)
    (h : Settles cfg now msg evt { s with outbound := rest } o)
    (h' : o.1.Sane → s'.Sane ∧ Moves cfg now msg (o.1.view (unsettled evt o.2)) (s'.view [])) :
    Advances cfg now msg s s' := by
  have hview : ({ s with outbound := rest } : SessionActor).view [evt] = s.view [] := by
    simp only [view, hqueue, List.cons_append, List.nil_append]
  refine ⟨fun hs => (h' (h.sane hs)).1, fun hs => ?_⟩
  rw [← hview]
  exact (h.moves hs).trans (h' (h.sane hs)).2

theorem advances_flushOne
    (s : SessionActor) (hmsg : msg = .flush) : Advances cfg now msg s (flushOne cfg now s).1 := by
  unfold flushOne
  rw [get_bind_apply]
  cases hqueue : s.outbound with
  | nil => exact Reaches.advances (.frame rfl rfl)
  | cons evt rest =>
    dsimp only
    rw [modify_bind_apply]
    obtain ⟨hsettles, hpanic⟩ : Settles cfg now msg evt { s with outbound := rest } _ ∧ _ :=
      settles_writeDeliveryEvent _ evt hmsg
    refine .settles hqueue hsettles fun hs => ?_
    rcases hrun : writeDeliveryEvent cfg now evt { s with outbound := rest } with ⟨s₁, e | _ | p⟩
    · -- the maps are nil only when the session is closed
      rw [bind_apply_error hrun]
      rw [hrun] at hs hpanic
      cases hpanic with
      | error hnil => exact ⟨hs, .single (.shut (hs hnil) rfl rfl rfl le_rfl)⟩
    · rw [bind_apply_ok hrun]
      rw [hrun] at hs
      exact ⟨hs, .refl⟩
    · rw [bind_apply_ok hrun]
      exact ⟨fun _ => closed_closeSession s₁, .single (.shut (closed_closeSession s₁)
        (written_closeSession s₁).1 (written_closeSession s₁).2.1 (written_closeSession s₁).2.2.1
        (written_closeSession s₁).2.2.2.ge)⟩

theorem reaches_flushAgain (s : SessionActor) : Reaches cfg now msg s s.flushAgain := by
  unfold flushAgain
  split_ifs
  · exact .frame rfl rfl
  · exact .frame rfl rfl

theorem advances_flushBatch (maxItems : Nat) (s : SessionActor) (hmsg : msg = .flush) :
    Advances cfg now msg s (flushBatch cfg now maxItems s).1 := by
  unfold flushBatch
  rw [get_bind_apply]
  split_ifs with hbatching
  · have hreaches (hs : s.Sane) :
        Reaches cfg now msg s (writeDeliveryBatchFromQueue cfg now maxItems s).1 :=
      reaches_writeDeliveryBatchFromQueue s maxItems hmsg
        (Bool.and_eq_true_iff.mp hbatching).1 hs
    exact ⟨fun hs => (hreaches hs).sane hs, fun hs => (hreaches hs).moves [] hs⟩
  · exact (Reaches.refl s).advances

theorem advances_flushLoop (fuel remaining : Nat) (s : SessionActor) (hmsg : msg = .flush) :
    Advances cfg now msg s (flushLoop cfg now fuel remaining s).1 := by
  induction fuel generalizing remaining s with
  | zero => exact (reaches_flushAgain s).advances
  | succ fuel ih =>
    cases remaining with
    | zero => exact (reaches_flushAgain s).advances
    | succ remaining =>
      unfold flushLoop
      refine advances_bind (advances_flushBatch _ s hmsg) fun batched s₁ _ => ?_
      rcases batched with p | _ | sent
      · exact (reaches_closeSession s₁).advances
      · refine advances_bind (advances_flushOne s₁ hmsg) fun go s₂ _ => ?_
        cases go with
        | true => exact ih remaining s₂
        | false => exact (Reaches.refl s₂).advances
      · exact ih _ s₁

theorem advances_flushOutbound (s : SessionActor) (hmsg : msg = .flush) :
    Advances cfg now msg s (flushOutbound cfg now s).1 := by
  unfold flushOutbound
  rw [get_bind_apply]
  split_ifs
  · exact Reaches.advances (.frame rfl rfl)
  · exact advances_flushLoop _ _ s hmsg

theorem advances_ensureDefaults (s : SessionActor) :
    Advances cfg now msg s s.ensureDefaults where
  sane _ hnil := by cases hnil
  moves _ := .refl

/-- Every message is handled by moves. -/
theorem advances_receive (cfg : SessionConfig) (now : Nat) (msg : SessionMsg) (s : SessionActor) :
    Advances cfg now msg s (receive cfg now msg s).1 := by
  unfold receive
  rw [modify_bind_apply]
  refine (advances_ensureDefaults s).trans ?_
  cases msg with
  | started =>
    simp only [modify_bind_apply, modify_apply]
    have hstarted : Reaches cfg now .started s.ensureDefaults
        { s.ensureDefaults with started := true } := .frame rfl rfl
    exact ((hstarted.trans (reaches_sendRouter _ _)).trans
      (reaches_writeJSON_control _ rfl)).advances
  | stopped => exact (reaches_closeSession _).advances
  | disconnected => exact (reaches_closeSession _).advances
  | command cmd => exact (reaches_handleCommand _ rfl).advances
  | invalidText op requestID => exact (reaches_writeProblem _ _ _ _).advances
  | event evt => exact (reaches_enqueueDelivery _ rfl).advances
  | flush => exact advances_flushOutbound _ rfl

/-! ## Runs -/

/-- A property of the views that every move of a message keeps. -/
theorem Advances.invariant
    {I : View → Prop} {s s' : SessionActor} (h : Advances cfg now msg s s') (hs : s.Sane)
    (hmove : ∀ v v', Move cfg now msg v v' → I v → I v') (hI : I (s.view [])) : I (s'.view []) :=
  Relation.ReflTransGen.head_induction_on (motive := fun v _ => I v → I (s'.view []))
    (h.moves hs) (fun h => h) (fun hstep _ ih h => ih (hmove _ _ hstep h)) hI

/-- A property of the views that every move of a message keeps holds after the message. -/
theorem step_invariant {I : View → Prop} {s : SessionActor} {input : SessionInput} (hs : s.Sane)
    (hmove : ∀ v v', Move cfg input.now input.msg v v' → I v → I v')
    (hI : I (({ s with wireCache := input.cache } : SessionActor).view [])) :
    (step cfg s input).Sane ∧ I ((step cfg s input).view []) := by
  have hadvances := advances_receive cfg input.now input.msg { s with wireCache := input.cache }
  exact ⟨hadvances.sane hs, hadvances.invariant hs hmove hI⟩

end Advances

end SessionActor
end Delivery
end StreamAnalytics
