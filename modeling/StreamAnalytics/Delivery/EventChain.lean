import StreamAnalytics.Delivery.SessionMoves
import StreamAnalytics.Lib.Runs

/-!
# The chain of the events of a subject

An event frame names its predecessor by `prev_seq`.  The chain of a subject starts
with 0 after a subscription and after a resync, and ends with the acknowledgement of
an unsubscription.  Commands are handled at once while events wait in the queue, so a
session keeps to the contract only if commands and events of one subject do not
overtake each other (`InOrder`).
-/

namespace StreamAnalytics
namespace Delivery

open Function

/-! ## The contract -/

/-- Where an acknowledgement leaves the chain of its subject. -/
def AckedCommand.start : AckedCommand → Option Int
  | .subscribe => some 0
  | .resync => some 0
  | .unsubscribe => none

namespace SessionActor

open Runs

/-- What a frame does to the numbers that the next events have to name. -/
def relink (chain : String → Option Int) : Frame → String → Option Int
  | .ack command f => update chain f.subject command.start
  | .event f => update chain f.subject (some f.seq)
  | _ => chain

/--
The `prev_seq` that the next event frame of a subject has to carry after the given
frames; there is none while the subject is unsubscribed.
-/
def chainAfter (frames : List Frame) : String → Option Int := frames.foldl relink fun _ => some 0

/-- An event frame carries the `prev_seq` that the frames before it call for. -/
def FollowsChain (before : List Frame) : Frame → Prop
  | .event f => chainAfter before f.subject = some f.prevSeq
  | _ => True

instance (before : List Frame) (f : Frame) : Decidable (FollowsChain before f) := by
  cases f
  all_goals
    unfold FollowsChain
    infer_instance

/-- Every event frame carries the `prev_seq` that the frames before it call for. -/
abbrev Chained : List Frame → Prop := EachAfter FollowsChain

theorem chainAfter_concat (frames : List Frame) (f : Frame) :
    chainAfter (frames ++ [f]) = relink (chainAfter frames) f := by
  simp [chainAfter]

/-! ## The condition -/

/--
The commands and events of a subject do not overtake each other: an event arrives while
its subject is not unsubscribed, no event of the subject is left in the queue at an
unsubscription, and the chain of the subject is at its start at a subscription.
-/
def InOrder (s : SessionActor) (input : SessionInput) : Prop :=
  (∀ evt ∈ input.msg.carries, chainAfter s.written evt.subject.string ≠ none) ∧
  (∀ subject ∈ input.msg.unsubscribes, ∀ evt ∈ s.outbound,
    evt.subject.string ≠ subject.string) ∧
  ∀ subject ∈ input.msg.subscribes, s.lastDeliveredSeq.getD subject.string 0 = 0

instance (s : SessionActor) (input : SessionInput) : Decidable (InOrder s input) := by
  unfold InOrder
  infer_instance

/-! ## The invariant -/

/-- The session remembers the numbers that its next event frames have to carry. -/
structure Linked (v : View) : Prop where
  remembered : ∀ k p, chainAfter v.written k = some p → v.lastDeliveredSeq.getD k 0 = p
  queued : ∀ evt ∈ v.outbound,
    chainAfter v.written evt.subject.string ≠ none ∧ evt.subject.isSignal = false
  single : v.batching = false

/-- What `InOrder` grants while the message is handled. -/
structure Admissible (msg : SessionMsg) (v : View) : Prop where
  carries : ∀ evt, msg.carries = some evt →
    chainAfter v.written evt.subject.string ≠ none ∧ evt.subject.isSignal = false
  unsubscribes : ∀ subject, msg.unsubscribes = some subject → ∀ evt ∈ v.outbound,
    evt.subject.string ≠ subject.string
  subscribes : ∀ subject, msg.subscribes = some subject →
    v.lastDeliveredSeq.getD subject.string 0 = 0

/--
The contract is kept and can be kept.  A closed session writes nothing more, so that
nothing has to be known of it.
-/
def OnChain (msg : SessionMsg) (v : View) : Prop :=
  Chained v.written ∧ (v.closed = true ∨ Linked v ∧ Admissible msg v)

section Moves

variable {cfg : SessionConfig} {now : Nat} {msg : SessionMsg} {v v' : View}

/-- A change that does not concern the chains. -/
theorem OnChain.keep (h : OnChain msg v) (hchained : Chained v.written → Chained v'.written)
    (hchain : chainAfter v'.written = chainAfter v.written) (hclosed : v'.closed = v.closed)
    (hseq : v'.lastDeliveredSeq = v.lastDeliveredSeq) (hbatching : v'.batching = v.batching)
    (hqueue : v'.outbound.Sublist v.outbound) : OnChain msg v' := by
  refine ⟨hchained h.1, ?_⟩
  obtain hshut | ⟨hlinked, hadmissible⟩ := h.2
  · exact .inl (hclosed.trans hshut)
  · refine .inr ⟨⟨fun k p hk => ?_, fun evt hevt => ?_, hbatching.trans hlinked.single⟩,
      ⟨fun evt hevt => ?_, fun subject hsubject evt hevt => ?_, fun subject hsubject => ?_⟩⟩
    · rw [hseq]
      exact hlinked.remembered k p (hchain ▸ hk)
    · rw [hchain]
      exact hlinked.queued evt (hqueue.subset hevt)
    · rw [hchain]
      exact hadmissible.carries evt hevt
    · exact hadmissible.unsubscribes subject hsubject evt (hqueue.subset hevt)
    · rw [hseq]
      exact hadmissible.subscribes subject hsubject

/-- A frame that is neither an acknowledgement nor an event. -/
theorem OnChain.write
    (h : OnChain msg v) {f : Frame} (hf : f.isControl = true ∨ ∃ g, f = .snapshot g)
    (hwritten : v'.written = v.written ++ [f]) (hclosed : v'.closed = v.closed)
    (hseq : v'.lastDeliveredSeq = v.lastDeliveredSeq) (hbatching : v'.batching = v.batching)
    (hqueue : v'.outbound = v.outbound) : OnChain msg v' := by
  have hneutral : (∀ chain, relink chain f = chain) ∧ ∀ before, FollowsChain before f := by
    obtain hf | ⟨g, rfl⟩ := hf
    · cases f with
      | ack | snapshot | event | signal | batch | proto => cases hf
      | _ => exact ⟨fun _ => rfl, fun _ => trivial⟩
    · exact ⟨fun _ => rfl, fun _ => trivial⟩
  refine h.keep (fun hchained => ?_) ?_ hclosed hseq hbatching (hqueue ▸ List.Sublist.refl _)
  · rw [hwritten]
    exact eachAfter_concat hchained (hneutral.2 _)
  · rw [hwritten, chainAfter_concat, hneutral.1]

theorem OnChain.linked
    (h : OnChain msg v) (hopen : v.closed = false) : Linked v ∧ Admissible msg v := by
  obtain hshut | hlinked := h.2
  · rw [hopen] at hshut
    cases hshut
  · exact hlinked

/-- An acknowledgement starts the chain of its subject again, or ends it. -/
theorem OnChain.acked
    (h : OnChain msg v) (command : AckedCommand) (ack : AckFrame) (hopen : v.closed = false)
    (hcarries : msg.carries = none)
    (hstart : command.start = some 0 ∨
      command.start = none ∧ ∀ evt ∈ v.outbound, evt.subject.string ≠ ack.subject)
    (hwritten : v'.written = v.written ++ [.ack command ack])
    (hseq : ∀ k, v'.lastDeliveredSeq.getD k 0 =
      if k = ack.subject then 0 else v.lastDeliveredSeq.getD k 0)
    (hbatching : v'.batching = v.batching)
    (hqueue : v'.outbound = v.outbound) : OnChain msg v' := by
  obtain ⟨hlinked, hadmissible⟩ := h.linked hopen
  have hchain : chainAfter v'.written =
      update (chainAfter v.written) ack.subject command.start := by
    rw [hwritten, chainAfter_concat, relink]
  refine ⟨?_, .inr ⟨⟨fun k p hk => ?_, fun evt hevt => ?_, hbatching.trans hlinked.single⟩,
    ⟨fun evt hevt => ?_, fun subject hsubject evt hevt => ?_, fun subject hsubject => ?_⟩⟩⟩
  · rw [hwritten]
    exact eachAfter_concat h.1 trivial
  · rw [hchain, update_apply] at hk
    rw [hseq]
    split_ifs at hk ⊢ with hkey
    · obtain hstart | ⟨hstart, -⟩ := hstart
      · exact Option.some.inj (hstart.symm.trans hk)
      · cases hstart.symm.trans hk
    · exact hlinked.remembered k p hk
  · rw [hqueue] at hevt
    rw [hchain, update_apply]
    refine ⟨?_, (hlinked.queued evt hevt).2⟩
    split_ifs with hkey
    · obtain hstart | ⟨-, hnone⟩ := hstart
      · simp [hstart]
      · exact absurd hkey (hnone evt hevt)
    · exact (hlinked.queued evt hevt).1
  · rw [hcarries] at hevt
    cases hevt
  · rw [hqueue] at hevt
    exact hadmissible.unsubscribes subject hsubject evt hevt
  · rw [hseq, hadmissible.subscribes subject hsubject, ite_self]

theorem OnChain.enqueued (h : OnChain msg v) {evt : DeliveryEvent} (hmsg : msg = .event evt) :
    OnChain msg { v with outbound := v.outbound ++ [evt] } := by
  subst hmsg
  refine ⟨h.1, h.2.imp_right fun ⟨hlinked, hadmissible⟩ => ⟨⟨hlinked.remembered,
    fun evt' hevt => ?_, hlinked.single⟩, hadmissible.carries, fun subject hsubject => ?_,
    hadmissible.subscribes⟩⟩
  · obtain hevt | hevt := List.mem_append.mp hevt
    · exact hlinked.queued evt' hevt
    · obtain rfl := List.mem_singleton.mp hevt
      exact hadmissible.carries evt' rfl
  · cases hsubject

/-- An event of the queue names the event that was delivered before it. -/
theorem OnChain.delivered
    (h : OnChain .flush v) {evt : DeliveryEvent} {rest : List DeliveryEvent} {f : EventFrame}
    (entry : SessionSnapshotEntry) (hopen : v.closed = false) (hqueue : v.outbound = evt :: rest)
    (hsubject : f.subject = evt.subject.string) (hseq : f.seq = evt.env.seq)
    (hprev : f.prevSeq = v.lastDeliveredSeq.getD evt.subject.string 0) :
    OnChain .flush ((v.deliver evt.subject.string evt.env.seq entry).write (.event f)) := by
  obtain ⟨hlinked, -⟩ := h.linked hopen
  have hchain : chainAfter
      ((v.deliver evt.subject.string evt.env.seq entry).write (.event f)).written =
        update (chainAfter v.written) evt.subject.string (some evt.env.seq) := by
    rw [← hsubject, ← hseq]
    exact chainAfter_concat _ _
  have hfollows : FollowsChain v.written (.event f) := by
    obtain ⟨p, hp⟩ := Option.ne_none_iff_exists'.mp
      (hlinked.queued evt (hqueue ▸ List.mem_cons_self)).1
    rw [FollowsChain, hsubject, hp, hprev, hlinked.remembered _ p hp]
  refine ⟨eachAfter_concat h.1 hfollows, .inr ⟨⟨fun k p hk => ?_, fun evt' hevt => ?_,
    hlinked.single⟩, ⟨?_, ?_, ?_⟩⟩⟩
  · rw [hchain, update_apply] at hk
    change GoMap.getD (v.lastDeliveredSeq.insert evt.subject.string evt.env.seq) k 0 = p
    rw [GoMap.getD_insert]
    split_ifs at hk ⊢
    · exact Option.some.inj hk
    · exact hlinked.remembered k p hk
  · have hmem : evt' ∈ v.outbound := List.mem_of_mem_tail hevt
    rw [hchain, update_apply]
    refine ⟨?_, (hlinked.queued evt' hmem).2⟩
    split_ifs
    · simp
    · exact (hlinked.queued evt' hmem).1
  all_goals
    intro x hx
    cases hx

/-- Every move keeps the contract. -/
theorem OnChain.move (h : OnChain msg v) (hcfg : cfg.preferProto = false) (hmsg : ¬ msg.Negotiates)
    (hmove : Move cfg now msg v v') : OnChain msg v' := by
  cases hmove with
  | shut hclosed hwritten => exact ⟨hwritten ▸ h.1, .inl hclosed⟩
  | control f _ hf => exact h.write (.inl hf) rfl rfl rfl rfl rfl
  | negotiated _ hnegotiates => exact absurd hnegotiates hmsg
  | asked => exact h.keep id rfl rfl rfl rfl (.refl _)
  | counted => exact h.keep id rfl rfl rfl rfl (.refl _)
  | hot => exact h.write (.inr ⟨_, rfl⟩) rfl rfl rfl rfl rfl
  | lastEvent => exact h.write (.inr ⟨_, rfl⟩) rfl rfl rfl rfl rfl
  | lookedUp => exact h.keep id rfl rfl rfl rfl (.refl _)
  | replayed => exact h.write (.inr ⟨_, rfl⟩) rfl rfl rfl rfl rfl
  | cached => exact h.write (.inr ⟨_, rfl⟩) rfl rfl rfl rfl rfl
  | subscribed subject hopen hsubject =>
    refine h.acked .subscribe _ hopen (SessionMsg.carries_eq_none hsubject) (.inl rfl) rfl
      (fun k => ?_) rfl rfl
    split_ifs with hkey
    · rw [hkey]
      exact (h.linked hopen).2.subscribes subject hsubject
    · rfl
  | resynced subject hopen hsubject =>
    exact h.acked .resync _ hopen (SessionMsg.carries_eq_none hsubject) (.inl rfl) rfl
      (GoMap.getD_erase v.lastDeliveredSeq subject.string · 0) rfl rfl
  | unsubscribed subject hopen hsubject =>
    exact h.acked .unsubscribe _ hopen (SessionMsg.carries_eq_none hsubject)
      (.inr ⟨rfl, (h.linked hopen).2.unsubscribes subject hsubject⟩) rfl
      (GoMap.getD_erase v.lastDeliveredSeq subject.string · 0) rfl rfl
  | dropped queue hqueue => exact h.keep id rfl rfl rfl rfl hqueue
  | enqueued evt hevt => exact h.enqueued hevt
  | delivered evt rest payload hopen hflush hqueue =>
    subst hflush
    exact h.delivered _ hopen hqueue rfl rfl rfl
  | packaged f hopen _ hform =>
    -- the events are neither encoded otherwise, nor batched, nor signals
    obtain ⟨hlinked, -⟩ := h.linked hopen
    obtain hproto | hbatching | ⟨evt, hevt, hsignal⟩ := hform
    · rw [hcfg] at hproto
      cases hproto
    · rw [hlinked.single] at hbatching
      cases hbatching
    · rw [(hlinked.queued evt hevt).2] at hsignal
      cases hsignal

end Moves

/-! ## Runs -/

/-- A session between two messages. -/
def Ready (s : SessionActor) : Prop :=
  s.Sane ∧ Chained s.written ∧ (s.closed = true ∨ Linked (s.view []))

theorem Ready.step {cfg : SessionConfig} {s : SessionActor} {input : SessionInput} (h : s.Ready)
    (hcfg : cfg.preferProto = false) (hplain : input.msg.Plain) (horder : s.InOrder input) :
    (s.step cfg input).Ready := by
  obtain ⟨hsane, hchained, hlinked⟩ := h
  obtain ⟨hcarries, hunsubscribes, hsubscribes⟩ := horder
  have hbefore : OnChain input.msg
      (({ s with wireCache := input.cache } : SessionActor).view []) := by
    refine ⟨hchained, hlinked.imp_right fun hlinked => ⟨⟨hlinked.remembered, hlinked.queued,
      hlinked.single⟩, fun evt hevt => ⟨hcarries evt hevt, hplain.2 evt hevt⟩, hunsubscribes,
      hsubscribes⟩⟩
  obtain ⟨hsane', hchained', hlinked'⟩ :=
    step_invariant hsane (fun v v' hmove hv => hv.move hcfg hplain.1 hmove) hbefore
  exact ⟨hsane', hchained', hlinked'.imp_right And.left⟩

theorem ready_fresh : Ready {} := by
  refine ⟨fun hnil => ?_, eachAfter_nil, .inr ⟨fun k p hk => ?_, fun evt hevt => ?_, rfl⟩⟩
  · cases hnil
  · exact Option.some.inj hk
  · cases hevt

/--
In every run of a session that writes single JSON events, the contract of the chains is
kept in every state reached, if commands and events of a subject do not overtake each
other.
-/
theorem chained_of_inOrder
    (cfg : SessionConfig) (inputs : List SessionInput) (hcfg : cfg.preferProto = false)
    (hplain : ∀ input ∈ inputs, input.msg.Plain) (horder : Always (step cfg) InOrder {} inputs) :
    ∀ inputs', inputs' <+: inputs → Chained (run (step cfg) {} inputs').written := by
  intro inputs' hinitial
  have hready : Ready (run (step cfg) {} inputs') :=
    invariant_of_prefix (fun s input hs hinput => hs.step hcfg hinput.1 hinput.2) ready_fresh
      (always_and horder hplain) hinitial
  exact hready.2.1

/-- A subscription with two events, a resync, another event and an unsubscription. -/
def orderlyRun : List SessionInput :=
  atOnce [request "subscribe" trades, delivery trades 1, delivery trades 2, .flush,
    request "resync" trades, delivery trades 5, .flush, request "unsubscribe" trades]

theorem chained_orderlyRun :
    ((∀ input ∈ orderlyRun, input.msg.Plain) ∧
      Always (step plainConfig) InOrder {} orderlyRun) ∧
    Chained (run (step plainConfig) {} orderlyRun).written := by
  have horder : (∀ input ∈ orderlyRun, input.msg.Plain) ∧
      Always (step plainConfig) InOrder {} orderlyRun := by decide +kernel
  exact ⟨horder, chained_of_inOrder plainConfig orderlyRun rfl horder.1 horder.2 _ List.prefix_rfl⟩

/-- The event is still in the queue when its subject is unsubscribed. -/
def lateFlush : List SessionInput :=
  atOnce [request "subscribe" trades, delivery trades 1, request "unsubscribe" trades, .flush]

theorem not_chained_lateFlush :
    plainConfig.preferProto = false ∧ (∀ input ∈ lateFlush, input.msg.Plain) ∧
      ¬ Chained (run (step plainConfig) {} lateFlush).written := by
  decide +kernel

end SessionActor
end Delivery
end StreamAnalytics
