import Mathlib.Data.Fintype.Basic
import StreamAnalytics.Delivery.SessionMoves
import StreamAnalytics.Lib.Runs

/-!
# Sessions that share a cache of snapshots

The sessions of a process share one cache of encoded snapshots.  Its keys are made of
the venue, the symbol and the stream type of a subject; the timeframe is not part of
them, nor is the kind of a signal.  A client therefore receives the snapshot of the
subject it asked for if the provider has not answered for another subject with the same
key within the lifetime of an entry (`Unmixed`).
-/

namespace StreamAnalytics
namespace Delivery

open Runs SessionActor Function

/-! ## The system -/

/-- Sessions with their shared cache, and the time of the last message. -/
structure SharedSessions (ι : Type) where
  sessions : ι → SessionActor
  cache : SnapshotWireCache
  clock : Nat

/-- A message to one of the sessions. -/
structure SharedInput (ι : Type) where
  session : ι
  now : Nat
  msg : SessionMsg

namespace SharedSessions

variable {ι : Type} (cfg : ι → SessionConfig)

/-- The session that a message reaches, after the message. -/
def answer (w : SharedSessions ι) (input : SharedInput ι) : SessionActor :=
  (w.sessions input.session).step (cfg input.session) ⟨input.now, some w.cache, input.msg⟩

/-- The sessions after a message to one of them. -/
def step [DecidableEq ι] (w : SharedSessions ι) (input : SharedInput ι) : SharedSessions ι where
  sessions := update w.sessions input.session (w.answer cfg input)
  cache := (w.answer cfg input).wireCache.getD w.cache
  clock := input.now

/-- New sessions with an empty cache. -/
def fresh (capacity ttl : Nat) : SharedSessions ι where
  sessions := fun _ => {}
  cache := ⟨capacity, ttl, []⟩
  clock := 0

/-- A snapshot that the provider returned to one of the sessions. -/
def Provided (w : SharedSessions ι) (p : ProvidedSnapshot) : Prop :=
  ∃ i, p ∈ (w.sessions i).provided

/-- The frames that a message leads to. -/
def replies (w : SharedSessions ι) (input : SharedInput ι) : List Frame :=
  (w.answer cfg input).written.drop (w.sessions input.session).written.length

/--
A snapshot frame names the subject and carries a payload that the provider returned for
it at most a lifetime of the cache ago.
-/
def Serves (w : SharedSessions ι) (now : Nat) (subject : Subject) (f : SnapshotFrame) : Prop :=
  f.subject = subject.string ∧
    ∃ p, w.Provided p ∧ p.subject = subject ∧ p.raw = f.payload ∧ p.time ≤ now ∧
      now ≤ p.time + w.cache.ttl

/-- The snapshots that a message leads to are snapshots of the requested subject. -/
def Answered [DecidableEq ι] (w : SharedSessions ι) (input : SharedInput ι) : Prop :=
  ∀ subject, input.msg.requested = some subject →
    ∀ f, .snapshot f ∈ w.replies cfg input → (w.step cfg input).Serves input.now subject f

/-- The message is a request for a snapshot, and not earlier than the message before. -/
def Timely (w : SharedSessions ι) (input : SharedInput ι) : Prop :=
  input.msg.requested.isSome ∧ w.clock ≤ input.now

/--
Within the lifetime of a cache entry the provider has not answered for another subject
with the same key as the requested one.
-/
def Unmixed (w : SharedSessions ι) (input : SharedInput ι) : Prop :=
  ∀ subject ∈ input.msg.requested, ∀ i, ∀ p ∈ (w.sessions i).provided,
    snapshotWireCacheKey p.subject 0 = snapshotWireCacheKey subject 0 →
      input.now ≤ p.time + w.cache.ttl → p.subject = subject

instance (w : SharedSessions ι) (input : SharedInput ι) : Decidable (w.Timely input) := by
  unfold Timely
  infer_instance

instance [Fintype ι] (w : SharedSessions ι) (input : SharedInput ι) :
    Decidable (w.Unmixed input) := by
  unfold Unmixed
  infer_instance

/-! ## The invariant of one session while it handles a request -/

/-- A cache entry holds a snapshot that the provider returned. -/
structure Holds (ttl : Nat) (e : LruEntry String SnapshotFrame) (p : ProvidedSnapshot) : Prop where
  key : e.key = snapshotWireCacheKey p.subject 0
  subject : e.value.subject = p.subject.string
  payload : e.value.payload = p.raw
  expiry : e.expiresAt = p.time + ttl

/--
What is known of a session `s` while it handles a request for `subject`; `known` are the
snapshots that were provided to any session before.
-/
structure Sharing (known : ProvidedSnapshot → Prop) (s : SessionActor) (now ttl : Nat)
    (subject : Subject) (v : View) : Prop where
  kept : ∀ p ∈ s.provided, p ∈ v.provided
  past : ∀ p ∈ v.provided, p.time ≤ now
  unmixed : ∀ p ∈ v.provided, snapshotWireCacheKey p.subject 0 = snapshotWireCacheKey subject 0 →
    now ≤ p.time + ttl → p.subject = subject
  cached : ∃ c, v.cache = some c ∧ c.ttl = ttl ∧
    ∀ e ∈ c.entries, ∃ p, (known p ∨ p ∈ v.provided) ∧ Holds ttl e p
  undelivered : v.closed = true ∨ ∀ k, v.lastSnapshot.lookup k = none
  served : ∃ new, v.written = s.written ++ new ∧ ∀ f, .snapshot f ∈ new →
    f.subject = subject.string ∧
      ∃ p, (known p ∨ p ∈ v.provided) ∧ p.subject = subject ∧ p.raw = f.payload ∧
        p.time ≤ now ∧ now ≤ p.time + ttl

section Moves

variable {config : SessionConfig} {known : ProvidedSnapshot → Prop} {s : SessionActor}
  {now ttl : Nat} {subject : Subject} {msg : SessionMsg} {v v' : View}

/-- No snapshot is written, and the provider is not asked. -/
theorem Sharing.keep (h : Sharing known s now ttl subject v)
    (hwritten : v'.written = v.written ∨
      ∃ f, v'.written = v.written ++ [f] ∧ ∀ g, f ≠ .snapshot g)
    (hprovided : v'.provided = v.provided)
    (hcache : v'.cache = v.cache)
    (hundelivered : v'.closed = true ∨ v'.closed = v.closed ∧ v'.lastSnapshot = v.lastSnapshot) :
    Sharing known s now ttl subject v' := by
  obtain ⟨new, hnew, hserved⟩ := h.served
  refine ⟨?_, ?_, ?_, ?_, ?_, ?_⟩
  · rw [hprovided]
    exact h.kept
  · rw [hprovided]
    exact h.past
  · rw [hprovided]
    exact h.unmixed
  · rw [hcache, hprovided]
    exact h.cached
  · obtain hclosed | ⟨hclosed, hlast⟩ := hundelivered
    · exact .inl hclosed
    · rw [hclosed, hlast]
      exact h.undelivered
  · rw [hprovided]
    obtain hsame | ⟨f, happend, hf⟩ := hwritten
    · exact ⟨new, hsame.trans hnew, hserved⟩
    · refine ⟨new ++ [f], by rw [happend, hnew, List.append_assoc], fun g hg => ?_⟩
      obtain hg | hg := List.mem_append.mp hg
      · exact hserved g hg
      · exact absurd (List.mem_singleton.mp hg).symm (hf g)

/-- A snapshot of the requested subject is written. -/
theorem Sharing.snapshot
    (h : Sharing known s now ttl subject v) {f : SnapshotFrame} {p : ProvidedSnapshot}
    (hp : known p ∨ p ∈ v.provided) (hsubject : p.subject = subject)
    (hnamed : f.subject = subject.string) (hraw : p.raw = f.payload) (hpast : p.time ≤ now)
    (hlive : now ≤ p.time + ttl) : Sharing known s now ttl subject (v.write (.snapshot f)) := by
  obtain ⟨new, hnew, hserved⟩ := h.served
  refine ⟨h.kept, h.past, h.unmixed, h.cached, h.undelivered, new ++ [.snapshot f], ?_,
    fun g hg => ?_⟩
  · change v.written ++ [.snapshot f] = _
    rw [hnew, List.append_assoc]
  · obtain hg | hg := List.mem_append.mp hg
    · exact hserved g hg
    · obtain rfl : g = f := Frame.snapshot.inj (List.mem_singleton.mp hg)
      exact ⟨hnamed, p, hp, hsubject, hraw, hpast, hlive⟩

/-- The provider is asked for the requested subject. -/
theorem Sharing.asked (h : Sharing known s now ttl subject v) {answers : List ProvidedSnapshot}
    (hanswers : ∀ a ∈ answers, a.time = now ∧ a.subject = subject) :
    Sharing known s now ttl subject { v with provided := v.provided ++ answers } := by
  obtain ⟨c, hc, httl, hentries⟩ := h.cached
  obtain ⟨new, hnew, hserved⟩ := h.served
  refine ⟨fun p hp => List.mem_append_left _ (h.kept p hp), fun p hp => ?_, fun p hp => ?_,
    ⟨c, hc, httl, fun e he => ?_⟩, h.undelivered, new, hnew, fun f hf => ?_⟩
  · obtain hp | hp := List.mem_append.mp hp
    · exact h.past p hp
    · exact (hanswers p hp).1.le
  · obtain hp | hp := List.mem_append.mp hp
    · exact h.unmixed p hp
    · exact fun _ _ => (hanswers p hp).2
  · obtain ⟨p, hp, hholds⟩ := hentries e he
    exact ⟨p, hp.imp_right (List.mem_append_left _), hholds⟩
  · obtain ⟨hnamed, p, hp, hrest⟩ := hserved f hf
    exact ⟨hnamed, p, hp.imp_right (List.mem_append_left _), hrest⟩

/-- Entries leave the cache. -/
theorem Sharing.setCache
    (h : Sharing known s now ttl subject v) {cache : SnapshotWireCache} (httl : cache.ttl = ttl)
    (hentries : ∀ e ∈ cache.entries, ∃ p, (known p ∨ p ∈ v.provided) ∧ Holds ttl e p) :
    Sharing known s now ttl subject (v.setCache cache) :=
  ⟨h.kept, h.past, h.unmixed, ⟨cache, rfl, httl, hentries⟩, h.undelivered, h.served⟩

/-- A snapshot of the provider is written and stored. -/
theorem Sharing.stored
    (h : Sharing known s now ttl subject v) {raw : Bytes} {cache : SnapshotWireCache}
    (hraw : (⟨now, subject, raw⟩ : ProvidedSnapshot) ∈ v.provided) (hcache : v.cache = some cache) :
    Sharing known s now ttl subject
      ((v.setCache (cache.set (snapshotWireCacheKey subject 0)
        (hotFrame config now subject raw 0) now)).write
          (.snapshot (hotFrame config now subject raw 0))) := by
  obtain ⟨c, hc, httl, hentries⟩ := h.cached
  obtain rfl : cache = c := Option.some.inj (hcache.symm.trans hc)
  have hstored : Sharing known s now ttl subject
      (v.setCache (cache.set (snapshotWireCacheKey subject 0)
        (hotFrame config now subject raw 0) now)) := by
    refine h.setCache httl fun e he => ?_
    obtain rfl | he := LruCache.mem_entries_set he
    · exact ⟨⟨now, subject, raw⟩, .inr hraw, rfl, rfl, rfl, by rw [httl]⟩
    · exact hentries e he
  exact hstored.snapshot (.inr hraw) rfl rfl rfl le_rfl (Nat.le_add_right _ _)

/-- A request keeps to what was provided for its subject. -/
theorem Sharing.move (h : Sharing known s now ttl subject v)
    (hknown : ∀ p, known p → p.time ≤ now ∧
      (snapshotWireCacheKey p.subject 0 = snapshotWireCacheKey subject 0 →
        now ≤ p.time + ttl → p.subject = subject))
    (hmsg : msg.requested = some subject)
    (hmove : Move config now msg v v') : Sharing known s now ttl subject v' := by
  have hrequests (subject' : Subject) : msg.Requests subject' ↔ subject' = subject :=
    SessionMsg.requests_iff hmsg
  have hflush : msg ≠ .flush := by
    rintro rfl
    cases hmsg
  obtain ⟨c, hc, httl, hentries⟩ := h.cached
  cases hmove with
  | shut hclosed hwritten hcache hprovided =>
    exact h.keep (.inl hwritten) hprovided hcache (.inl hclosed)
  | control f _ hf =>
    refine h.keep (.inr ⟨f, rfl, fun g hg => ?_⟩) rfl rfl (.inr ⟨rfl, rfl⟩)
    subst hg
    cases hf
  | negotiated => exact h.keep (.inl rfl) rfl rfl (.inr ⟨rfl, rfl⟩)
  | asked answers hanswers =>
    exact h.asked fun a ha =>
      ⟨(hanswers a ha).1, (hrequests a.subject).mp (hanswers a ha).2.1⟩
  | counted => exact h.keep (.inl rfl) rfl rfl (.inr ⟨rfl, rfl⟩)
  | hot _ _ _ _ _ hcache =>
    rw [hcache] at hc
    cases hc
  | lastEvent subject' _ hopen _ _ hentry =>
    obtain hclosed | hundelivered := h.undelivered
    · rw [hopen] at hclosed
      cases hclosed
    · rw [hundelivered] at hentry
      cases hentry
  | lookedUp cache cache' hcache hmem httl' =>
    obtain rfl : cache = c := Option.some.inj (hcache.symm.trans hc)
    exact h.setCache (httl'.trans httl) fun e he => hentries e (hmem e he)
  | replayed subject' cache e hopen hreq hcache hmem hkey hlive =>
    obtain rfl : cache = c := Option.some.inj (hcache.symm.trans hc)
    obtain rfl := (hrequests subject').mp hreq
    obtain ⟨p, hp, hholds⟩ := hentries e hmem
    have hsamekey := hholds.key.symm.trans hkey
    rw [hholds.expiry] at hlive
    -- the entry was stored for the requested subject
    obtain ⟨hpast, hsubject⟩ : p.time ≤ now ∧ p.subject = subject' := by
      obtain hp | hp := hp
      · exact ⟨(hknown p hp).1, (hknown p hp).2 hsamekey hlive⟩
      · exact ⟨h.past p hp, h.unmixed p hp hsamekey hlive⟩
    refine h.snapshot hp hsubject ?_ hholds.payload.symm hpast hlive
    rw [hholds.subject, hsubject]
  | cached subject' raw cache hopen hreq hraw hcache =>
    obtain rfl := (hrequests subject').mp hreq
    exact h.stored hraw hcache
  | subscribed => exact h.keep (.inr ⟨_, rfl, fun _ => nofun⟩) rfl rfl (.inr ⟨rfl, rfl⟩)
  | resynced => exact h.keep (.inr ⟨_, rfl, fun _ => nofun⟩) rfl rfl (.inr ⟨rfl, rfl⟩)
  | unsubscribed subject' _ hunsubscribes =>
    exact absurd ((hrequests subject).mpr rfl) (SessionMsg.not_requests hunsubscribes)
  | dropped => exact h.keep (.inl rfl) rfl rfl (.inr ⟨rfl, rfl⟩)
  | enqueued => exact h.keep (.inl rfl) rfl rfl (.inr ⟨rfl, rfl⟩)
  | delivered _ _ _ _ hflush' => exact absurd hflush' hflush
  | packaged _ _ hflush' => exact absurd hflush' hflush

end Moves

/-! ## Runs -/

/-- The sessions between two messages. -/
structure Consistent (w : SharedSessions ι) : Prop where
  sane : ∀ i, (w.sessions i).Sane
  undelivered : ∀ i, (w.sessions i).closed = true ∨
    ∀ k, (w.sessions i).lastSnapshot.lookup k = none
  cached : ∀ e ∈ w.cache.entries, ∃ p, w.Provided p ∧ Holds w.cache.ttl e p
  past : ∀ p, w.Provided p → p.time ≤ w.clock

section Steps

variable {cfg} {w : SharedSessions ι} {input : SharedInput ι}

/-- What the session that a request reaches does. -/
theorem Consistent.sharing
    (h : w.Consistent) {subject : Subject} (hsubject : input.msg.requested = some subject)
    (hclock : w.clock ≤ input.now) (hunmixed : w.Unmixed input) :
    (w.answer cfg input).Sane ∧
      Sharing w.Provided (w.sessions input.session) input.now w.cache.ttl subject
        ((w.answer cfg input).view []) := by
  have hknown (p : ProvidedSnapshot) (hp : w.Provided p) : p.time ≤ input.now ∧
      (snapshotWireCacheKey p.subject 0 = snapshotWireCacheKey subject 0 →
        input.now ≤ p.time + w.cache.ttl → p.subject = subject) := by
    refine ⟨(h.past p hp).trans hclock, ?_⟩
    obtain ⟨i, hi⟩ := hp
    exact hunmixed subject hsubject i p hi
  refine step_invariant (h.sane input.session)
    (fun v v' hmove hv => hv.move hknown hsubject hmove) ?_
  refine ⟨fun p hp => hp, fun p hp => (hknown p ⟨_, hp⟩).1, fun p hp => (hknown p ⟨_, hp⟩).2,
    ⟨w.cache, rfl, rfl, fun e he => ?_⟩, h.undelivered input.session, [], ?_, fun f hf => ?_⟩
  · obtain ⟨p, hp, hholds⟩ := h.cached e he
    exact ⟨p, .inl hp, hholds⟩
  · exact (List.append_nil _).symm
  · cases hf

/-- One request. -/
theorem Consistent.step
    [DecidableEq ι] (h : w.Consistent) (htimely : w.Timely input) (hunmixed : w.Unmixed input) :
    (w.step cfg input).Consistent ∧ w.Answered cfg input := by
  obtain ⟨subject, hsubject⟩ := Option.isSome_iff_exists.mp htimely.1
  have hanswer : (w.answer cfg input).Sane ∧ Sharing w.Provided (w.sessions input.session)
      input.now w.cache.ttl subject ((w.answer cfg input).view []) :=
    h.sharing hsubject htimely.2 hunmixed
  obtain ⟨hsane, hsharing⟩ := hanswer
  obtain ⟨c, hc, httl, hentries⟩ := hsharing.cached
  have hcache : (w.step cfg input).cache = c := by
    change (w.answer cfg input).wireCache = some c at hc
    rw [SharedSessions.step, hc, Option.getD_some]
  have hself : (w.step cfg input).sessions input.session = w.answer cfg input :=
    update_self ..
  have hother (i : ι) (hi : i ≠ input.session) :
      (w.step cfg input).sessions i = w.sessions i :=
    update_of_ne hi ..
  have hprovided (p : ProvidedSnapshot)
      (hp : w.Provided p ∨ p ∈ (w.answer cfg input).provided) :
      (w.step cfg input).Provided p := by
    obtain ⟨i, hi⟩ | hp := hp
    · by_cases hsession : i = input.session
      · subst hsession
        exact ⟨input.session, hself ▸ hsharing.kept p hi⟩
      · exact ⟨i, (hother i hsession) ▸ hi⟩
    · exact ⟨input.session, hself ▸ hp⟩
  refine ⟨⟨fun i => ?_, fun i => ?_, fun e he => ?_, fun p hp => ?_⟩, fun subject' h' f hf => ?_⟩
  · by_cases hi : i = input.session
    · rw [hi, hself]
      exact hsane
    · rw [hother i hi]
      exact h.sane i
  · by_cases hi : i = input.session
    · rw [hi, hself]
      exact hsharing.undelivered
    · rw [hother i hi]
      exact h.undelivered i
  · rw [hcache] at he ⊢
    obtain ⟨p, hp, hholds⟩ := hentries e he
    exact ⟨p, hprovided p hp, httl.symm ▸ hholds⟩
  · obtain ⟨i, hi⟩ := hp
    by_cases hsession : i = input.session
    · rw [hsession, hself] at hi
      exact hsharing.past p hi
    · rw [hother i hsession] at hi
      exact (h.past p ⟨i, hi⟩).trans htimely.2
  · obtain rfl : subject = subject' := Option.some.inj (hsubject.symm.trans h')
    obtain ⟨new, hnew, hserved⟩ := hsharing.served
    change (w.answer cfg input).written = _ at hnew
    unfold replies at hf
    rw [hnew, List.drop_left] at hf
    obtain ⟨hnamed, p, hp, hrest⟩ := hserved f hf
    rw [← httl, ← hcache] at hrest
    exact ⟨hnamed, p, hprovided p hp, hrest⟩

end Steps

theorem consistent_fresh
    (capacity ttl : Nat) : (fresh capacity ttl : SharedSessions ι).Consistent := by
  refine ⟨fun i hnil => ?_, fun i => .inr fun k => rfl, fun e he => ?_, fun p hp => ?_⟩
  · cases hnil
  · cases he
  · obtain ⟨i, hi⟩ := hp
    cases hi

/--
In every interleaving of requests at non-decreasing times, every snapshot is one of the
subject that was asked for and not older than the lifetime of a cache entry, if no
request meets a fresh answer for another subject with the same cache key.
-/
theorem answered_of_unmixed [DecidableEq ι] (capacity ttl : Nat) (inputs : List (SharedInput ι))
    (hinputs : Always (step cfg) (fun w input => w.Timely input ∧ w.Unmixed input)
      (fresh capacity ttl) inputs) : Always (step cfg) (Answered cfg) (fresh capacity ttl) inputs :=
  always_of_always (I := Consistent)
    (fun _ _ hw hinput => (hw.step hinput.1 hinput.2).1)
    (fun _ _ hw hinput => (hw.step hinput.1 hinput.2).2)
    (consistent_fresh capacity ttl) hinputs

/-! ## Two sessions -/

/-- The candles of one instrument. -/
def candles (timeframe : String) : Subject :=
  ⟨"aggregation.candle", "", "binance", "BTCUSDT", timeframe⟩

/-- Two sessions with a provider that has a snapshot for every subject. -/
def twoSessions : Bool → SessionConfig := fun _ => hotConfig

/-- The first client asks for candles, the second for the same candles twice. -/
def sameCandles : List (SharedInput Bool) :=
  [⟨false, 0, request "subscribe" (candles "1m")⟩,
    ⟨true, 1, request "subscribe" (candles "1m")⟩,
    ⟨true, 5, request "resync" (candles "1m")⟩]

theorem answered_sameCandles :
    Always (step twoSessions) (fun w input => w.Timely input ∧ w.Unmixed input)
      (fresh 8 2) sameCandles ∧
    Always (step twoSessions) (Answered twoSessions) (fresh 8 2) sameCandles := by
  have hinputs : Always (step twoSessions) (fun w input => w.Timely input ∧ w.Unmixed input)
      (fresh 8 2) sameCandles := by decide +kernel
  exact ⟨hinputs, answered_of_unmixed twoSessions 8 2 sameCandles hinputs⟩

/-- The second client asks for candles of another timeframe. -/
def otherCandles : List (SharedInput Bool) :=
  [⟨false, 0, request "subscribe" (candles "1m")⟩,
    ⟨true, 1, request "subscribe" (candles "5m")⟩]

/-- The subject that a snapshot frame names. -/
def snapshotName : Frame → Option String
  | .snapshot f => some f.subject
  | _ => none

theorem Answered.names
    [DecidableEq ι] {cfg : ι → SessionConfig} {w : SharedSessions ι} {input : SharedInput ι}
    {subject : Subject} (h : w.Answered cfg input) (hsubject : input.msg.requested = some subject) :
    ∀ name ∈ (w.replies cfg input).filterMap snapshotName, name = subject.string := by
  intro name hname
  obtain ⟨frame, hframe, hsome⟩ := List.mem_filterMap.mp hname
  cases frame with
  | snapshot f =>
    obtain rfl := Option.some.inj hsome
    exact (h subject hsubject f hframe).1
  | _ => cases hsome

theorem not_answered_otherCandles :
    Always (step twoSessions) Timely (fresh 8 2) otherCandles ∧
      ¬ Always (step twoSessions) (Answered twoSessions) (fresh 8 2) otherCandles := by
  refine ⟨by decide +kernel, fun hanswered => ?_⟩
  have hsubject : (request "subscribe" (candles "5m")).requested = some (candles "5m") := by
    decide +kernel
  have hnames := hanswered.2.1.names hsubject
  revert hnames
  decide +kernel

end SharedSessions
end Delivery
end StreamAnalytics
