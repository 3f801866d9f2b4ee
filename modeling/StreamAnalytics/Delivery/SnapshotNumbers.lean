import StreamAnalytics.Delivery.SessionMoves
import StreamAnalytics.Lib.Runs

/-!
# The numbers of the snapshots of a subject

Within a session the snapshot frames of a subject carry positive and strictly
increasing values of `snapshot_seq`.  The counter behind them is cleared at an
unsubscription, and the frames of the shared cache carry no number at all, so the
contract is kept by a session without a cache in which no subject is unsubscribed after
one of its snapshots was counted (`KeepsCounters`).
-/

namespace StreamAnalytics
namespace Delivery
namespace SessionActor

open Runs

/-! ## The contract -/

/-- The number of a snapshot frame of a subject. -/
def snapshotNumber (key : String) : Frame → Option Int
  | .snapshot f => if f.subject = key then some f.snapshotSeq else none
  | _ => none

/-- The numbers of the snapshot frames of a subject. -/
def snapshotNumbers (frames : List Frame) (key : String) : List Int :=
  frames.filterMap (snapshotNumber key)

/-- A snapshot frame has a positive number above those of its subject before it. -/
def IsNextSnapshot (before : List Frame) : Frame → Prop
  | .snapshot f => 0 < f.snapshotSeq ∧ ∀ n ∈ snapshotNumbers before f.subject, n < f.snapshotSeq
  | _ => True

instance (before : List Frame) : (f : Frame) → Decidable (IsNextSnapshot before f)
  | .snapshot f => inferInstanceAs (Decidable (0 < f.snapshotSeq ∧ ∀ n ∈ _, n < f.snapshotSeq))
  | .hello .. | .helloAck _ | .pong _ | .error .. | .ack .. | .range _ => isTrue trivial
  | .event _ | .signal _ | .batch .. | .proto _ => isTrue trivial

/-- The numbers of the snapshots of every subject are positive and strictly increasing. -/
abbrev Numbered : List Frame → Prop := EachAfter IsNextSnapshot

/--
The session has no cache, and the unsubscribed subject has no counted snapshot.
-/
def KeepsCounters (s : SessionActor) (input : SessionInput) : Prop :=
  input.cache.isNone ∧
    ∀ subject ∈ input.msg.unsubscribes, s.snapshotSeq.getD subject.string 0 = 0

instance (s : SessionActor) (input : SessionInput) : Decidable (KeepsCounters s input) := by
  unfold KeepsCounters
  infer_instance

/-! ## The invariant -/

/-- The counters are not behind the frames. -/
structure Counting (v : View) : Prop where
  nonneg : ∀ k, 0 ≤ v.snapshotSeq.getD k 0
  le_counter : ∀ k, ∀ n ∈ snapshotNumbers v.written k, n ≤ v.snapshotSeq.getD k 0

/-- The contract is kept and can be kept; a closed session writes nothing more. -/
structure OnCount (msg : SessionMsg) (v : View) : Prop where
  numbered : Numbered v.written
  uncached : v.cache = none
  counting : v.closed = true ∨ Counting v ∧
    ∀ subject, msg.unsubscribes = some subject → v.snapshotSeq.getD subject.string 0 = 0

section Moves

variable {cfg : SessionConfig} {now : Nat} {msg : SessionMsg} {v v' : View}

theorem snapshotNumbers_concat (frames : List Frame) (f : Frame) (key : String) :
    snapshotNumbers (frames ++ [f]) key =
      snapshotNumbers frames key ++ (snapshotNumber key f).toList := by
  unfold snapshotNumbers
  rw [List.filterMap_append]
  cases h : snapshotNumber key f with
  | none => simp [h]
  | some n => simp [h]

/-- Nothing happens to the counters, and no snapshot is written. -/
theorem OnCount.keep (h : OnCount msg v)
    (hwritten : v'.written = v.written ∨
      ∃ f, v'.written = v.written ++ [f] ∧ ∀ g, f ≠ .snapshot g)
    (hclosed : v'.closed = v.closed)
    (hcache : v'.cache = v.cache)
    (hseq : ∀ k, v'.snapshotSeq.getD k 0 = v.snapshotSeq.getD k 0) : OnCount msg v' := by
  have hframes : (Numbered v.written → Numbered v'.written) ∧
      ∀ k, snapshotNumbers v'.written k = snapshotNumbers v.written k := by
    obtain hsame | ⟨f, happend, hf⟩ := hwritten
    · rw [hsame]
      exact ⟨id, fun _ => rfl⟩
    · rw [happend]
      have hneutral : (∀ k, snapshotNumber k f = none) ∧ IsNextSnapshot v.written f := by
        cases f with
        | snapshot g => exact absurd rfl (hf g)
        | _ => exact ⟨fun _ => rfl, trivial⟩
      refine ⟨fun hnumbered => eachAfter_concat hnumbered hneutral.2, fun k => ?_⟩
      rw [snapshotNumbers_concat, hneutral.1, Option.toList_none, List.append_nil]
  refine ⟨hframes.1 h.numbered, hcache.trans h.uncached, ?_⟩
  refine h.counting.imp hclosed.trans fun ⟨hcounting, hfresh⟩ => ⟨⟨fun k => ?_, fun k => ?_⟩,
    fun subject hsubject => ?_⟩
  · rw [hseq]
    exact hcounting.nonneg k
  · rw [hseq, hframes.2]
    exact hcounting.le_counter k
  · rw [hseq]
    exact hfresh subject hsubject

theorem getD_count (v : View) (key k : String) :
    (v.count key).snapshotSeq.getD k 0 =
      if k = key then v.snapshotSeq.getD key 0 + 1 else v.snapshotSeq.getD k 0 :=
  GoMap.getD_insert v.snapshotSeq key k _ 0

/-- A counted snapshot, written or not. -/
theorem OnCount.counted (h : OnCount msg v) {subject : Subject} (hmsg : msg.Requests subject) :
    OnCount msg (v.count subject.string) := by
  refine ⟨h.numbered, h.uncached, h.counting.imp_right fun ⟨hcounting, hfresh⟩ =>
    ⟨⟨fun k => ?_, fun k n hn => ?_⟩, fun subject' hsubject => ?_⟩⟩
  · have hnonneg := hcounting.nonneg k
    rw [getD_count]
    split_ifs with hkey
    · subst hkey
      omega
    · exact hnonneg
  · have hle := hcounting.le_counter k n hn
    rw [getD_count]
    split_ifs with hkey
    · subst hkey
      omega
    · exact hle
  · exact absurd hmsg (SessionMsg.not_requests hsubject)

/-- A snapshot with the next number of its subject. -/
theorem OnCount.snapshot
    (h : OnCount msg v) {subject : Subject} {f : SnapshotFrame} (hopen : v.closed = false)
    (hmsg : msg.Requests subject) (hsubject : f.subject = subject.string)
    (hseq : f.snapshotSeq = v.nextSnapshotSeq subject.string) :
    OnCount msg ((v.count subject.string).write (.snapshot f)) := by
  obtain ⟨hcounting, -⟩ : Counting v ∧ _ := by
    obtain hshut | hcounting := h.counting
    · rw [hopen] at hshut
      cases hshut
    · exact hcounting
  have hcounted := h.counted hmsg
  have hnext : f.snapshotSeq = v.snapshotSeq.getD subject.string 0 + 1 := hseq
  refine ⟨eachAfter_concat h.numbered ⟨?_, fun n hn => ?_⟩, h.uncached,
    hcounted.counting.imp_right fun ⟨hcounting', hfresh⟩ => ⟨⟨hcounting'.nonneg, fun k n hn => ?_⟩,
      hfresh⟩⟩
  · have hnonneg := hcounting.nonneg subject.string
    omega
  · rw [hsubject] at hn
    have hle := hcounting.le_counter _ n hn
    omega
  · change n ∈ snapshotNumbers (v.written ++ [.snapshot f]) k at hn
    rw [snapshotNumbers_concat] at hn
    obtain hn | hn := List.mem_append.mp hn
    · exact hcounting'.le_counter k n hn
    · change n ≤ (v.count subject.string).snapshotSeq.getD k 0
      simp only [snapshotNumber, Option.mem_toList, Option.ite_none_right_eq_some,
        Option.some.injEq] at hn
      rw [getD_count, if_pos (hn.1.symm.trans hsubject), ← hn.2, hnext]

/-- Every move keeps the contract. -/
theorem OnCount.move (h : OnCount msg v) (hmove : Move cfg now msg v v') : OnCount msg v' := by
  cases hmove with
  | shut hclosed hwritten hcache =>
    exact ⟨hwritten ▸ h.numbered, hcache.trans h.uncached, .inl hclosed⟩
  | control f _ hf =>
    exact h.keep (.inr ⟨f, rfl, fun g hg => by subst hg; cases hf⟩) rfl rfl fun _ => rfl
  | negotiated => exact h.keep (.inl rfl) rfl rfl fun _ => rfl
  | asked => exact h.keep (.inl rfl) rfl rfl fun _ => rfl
  | counted subject hmsg => exact h.counted hmsg
  | hot subject raw hopen hmsg => exact h.snapshot hopen hmsg rfl rfl
  | lastEvent subject entry hopen hmsg => exact h.snapshot hopen hmsg rfl rfl
  | lookedUp cache _ hcache => exact absurd (hcache.symm.trans h.uncached) (by simp)
  | replayed _ cache _ _ _ hcache => exact absurd (hcache.symm.trans h.uncached) (by simp)
  | cached _ _ cache _ _ _ hcache => exact absurd (hcache.symm.trans h.uncached) (by simp)
  | subscribed => exact h.keep (.inr ⟨_, rfl, fun _ hg => by cases hg⟩) rfl rfl fun _ => rfl
  | resynced => exact h.keep (.inr ⟨_, rfl, fun _ hg => by cases hg⟩) rfl rfl fun _ => rfl
  | unsubscribed subject hopen hmsg =>
    obtain hshut | ⟨-, hfresh⟩ := h.counting
    · rw [hopen] at hshut
      cases hshut
    · -- the counter that is cleared is 0 already
      refine h.keep (.inr ⟨_, rfl, fun _ hg => by cases hg⟩) rfl rfl fun k => ?_
      refine (GoMap.getD_erase v.snapshotSeq subject.string k 0).trans ?_
      split_ifs with hkey
      · rw [hkey, hfresh subject hmsg]
      · rfl
  | dropped => exact h.keep (.inl rfl) rfl rfl fun _ => rfl
  | enqueued => exact h.keep (.inl rfl) rfl rfl fun _ => rfl
  | delivered => exact h.keep (.inr ⟨_, rfl, fun _ hg => by cases hg⟩) rfl rfl fun _ => rfl
  | packaged f hopen _ _ hf hclosed hwritten _ _ hseq hcache =>
    refine h.keep (.inr ⟨f, hwritten, fun g hg => ?_⟩) (hclosed.trans hopen.symm) hcache
      fun k => ?_
    · subst hg
      cases hf
    · rw [hseq]

end Moves

/-! ## Runs -/

/-- A session between two messages. -/
def Countable (s : SessionActor) : Prop :=
  s.Sane ∧ Numbered s.written ∧ (s.closed = true ∨ Counting (s.view []))

theorem Countable.step
    {cfg : SessionConfig} {s : SessionActor} {input : SessionInput} (h : s.Countable)
    (hkeeps : s.KeepsCounters input) : (s.step cfg input).Countable := by
  obtain ⟨hsane, hnumbered, hcounting⟩ := h
  have hbefore : OnCount input.msg
      (({ s with wireCache := input.cache } : SessionActor).view []) :=
    ⟨hnumbered, Option.isNone_iff_eq_none.mp hkeeps.1, hcounting.imp_right fun hcounting =>
      ⟨⟨hcounting.nonneg, hcounting.le_counter⟩, hkeeps.2⟩⟩
  obtain ⟨hsane', hafter⟩ := step_invariant hsane (fun v v' hmove hv => hv.move hmove) hbefore
  exact ⟨hsane', hafter.numbered, hafter.counting.imp_right And.left⟩

theorem countable_fresh : Countable {} := by
  refine ⟨fun hnil => ?_, eachAfter_nil, .inr ⟨fun k => ?_, fun k n hn => ?_⟩⟩
  · cases hnil
  · exact le_rfl
  · cases hn

/--
In every run of a session without a cache in which only subjects without a counted
snapshot are unsubscribed, the snapshot numbers of every subject are positive and
strictly increasing in every state reached.
-/
theorem numbered_of_keepsCounters (cfg : SessionConfig) (inputs : List SessionInput)
    (hkeeps : Always (step cfg) KeepsCounters {} inputs) :
    ∀ inputs', inputs' <+: inputs → Numbered (run (step cfg) {} inputs').written := by
  intro inputs' hinitial
  have hcountable : Countable (run (step cfg) {} inputs') :=
    invariant_of_prefix (fun s input hs hinput => hs.step hinput) countable_fresh hkeeps hinitial
  exact hcountable.2.1

/-- Two subscriptions, an event and a resync. -/
def countedRun : List SessionInput :=
  atOnce [request "subscribe" trades, request "subscribe" trades, delivery trades 1, .flush,
    request "resync" trades]

theorem numbered_countedRun :
    Always (step hotConfig) KeepsCounters {} countedRun ∧
      Numbered (run (step hotConfig) {} countedRun).written := by
  have hkeeps : Always (step hotConfig) KeepsCounters {} countedRun := by decide +kernel
  exact ⟨hkeeps, numbered_of_keepsCounters hotConfig countedRun hkeeps _ List.prefix_rfl⟩

/-- A subject is subscribed again after its counter was cleared. -/
def resubscription : List SessionInput :=
  atOnce [request "subscribe" trades, request "unsubscribe" trades, request "subscribe" trades]

/-- The first subscription of a session with a cache. -/
def cachedSubscription : List SessionInput :=
  [{ now := 0, cache := some ⟨8, 1, []⟩, msg := request "subscribe" trades }]

theorem not_numbered_resubscription :
    ¬ Numbered (run (step hotConfig) {} resubscription).written ∧
      ¬ Numbered (run (step hotConfig) {} cachedSubscription).written := by
  decide +kernel

end SessionActor
end Delivery
end StreamAnalytics
