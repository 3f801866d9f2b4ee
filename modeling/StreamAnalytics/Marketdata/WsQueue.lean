import Mathlib.Data.List.Infix
import Mathlib.Data.List.ReduceOption
import Mathlib.Data.Multiset.ZeroCons
import StreamAnalytics.Lib.RingBuffer
import StreamAnalytics.Lib.Runs

/-!
# The queue between the sockets and the ingest worker

Model of `internal/actors/marketdata/runtime/backpressure_queue.go`.  The slots of the
ring hold pointers, so an empty slot is a missing message.  A pop of an empty open
queue waits: it is not a step.

The ring refines a list of messages (`Refines`), and the operations of the queue are
operations of the list: `push` says which message a full queue gives up.
-/

namespace StreamAnalytics
namespace Marketdata

open Runs

/-- `ws.WsMessage`; the time of receipt is in nanoseconds. -/
structure WsMessage where
  exchange : String
  bucketID : Int
  consumerID : String
  endpoint : String
  data : List UInt8
  recvAt : Int
deriving DecidableEq

/-- `BackpressurePolicy`; any other text is handled by the default case. -/
inductive BackpressurePolicy where
  | dropOldest
  | dropDepthKeepOps
  | other (raw : String)
deriving DecidableEq

/-- `bytes.Contains` of the data of a message. -/
def mentions (text : String) (msg : Option WsMessage) : Bool :=
  match msg with
  | none => false
  | some m => if m.data.length = 0 then false else text.toUTF8.toList <:+: m.data

/-- `isDepthWSMessage`. -/
def isDepthWSMessage : Option WsMessage → Bool := mentions "\"depthUpdate\""

/-- `isLiquidationWSMessage`. -/
def isLiquidationWSMessage : Option WsMessage → Bool := mentions "\"forceOrder\""

/-- `isMarkPriceWSMessage`. -/
def isMarkPriceWSMessage : Option WsMessage → Bool := mentions "\"markPriceUpdate\""

/-- `wsQueue`; the capacity is the length of the ring. -/
structure WsQueue where
  policy : BackpressurePolicy
  ring : Ring (Option WsMessage)
  closed : Bool

namespace WsQueue

/-- The capacity that `newWSQueue` uses. -/
def ringSize (capacity : Int) : Nat := if capacity ≤ 0 then 1024 else capacity.toNat

theorem ringSize_pos (capacity : Int) : 0 < ringSize capacity := by
  unfold ringSize
  split_ifs <;> omega

/-- `newWSQueue`. -/
def create (capacity : Int) (policy : BackpressurePolicy) : WsQueue where
  policy := policy
  ring := Ring.create (ringSize capacity) (ringSize_pos capacity)
  closed := false

/-- `findFirstDepth` and `findFirstLiquidation`: the first place with such a message. -/
def findFirst (p : Option WsMessage → Bool) (q : WsQueue) : Option Nat :=
  (List.range q.ring.count).find? fun i => p (q.ring.get i)

/-- `removeAt`, or `dropHead` at place zero, followed by `pushTail`. -/
def replace (q : WsQueue) (i : Nat) (msg : WsMessage) : WsQueue :=
  { q with ring := (q.ring.removeAt i).pushBack (some msg) (Ring.room_removeAt _ _) }

/-- The place that `Enqueue` empties for a message that is not about the depth. -/
def dropIdx (q : WsQueue) (msg : WsMessage) : Nat :=
  match q.findFirst isDepthWSMessage with
  | some i => i
  | none =>
    if isMarkPriceWSMessage (some msg) then (q.findFirst isLiquidationWSMessage).getD 0
    else 0

/-- `Enqueue`: the number of messages dropped, and whether the queue was full. -/
def enqueue (q : WsQueue) (msg : WsMessage) : WsQueue × Nat × Bool :=
  if q.closed then (q, 1, false)
  else if h : q.ring.count < q.ring.cap then
    ({ q with ring := q.ring.pushBack (some msg) h }, 0, false)
  else
    match q.policy with
    | .dropOldest => (q.replace 0 msg, 1, true)
    | .dropDepthKeepOps =>
      if isDepthWSMessage (some msg) then (q, 1, true)
      else (q.replace (q.dropIdx msg) msg, 1, true)
    | .other _ => (q.replace 0 msg, 1, true)

/-- `Pop`; without a message an open queue waits. -/
def pop (q : WsQueue) : Option (WsQueue × Option WsMessage) :=
  if q.ring.count = 0 then
    if q.closed then some (q, none) else none
  else
    some ({ q with ring := q.ring.dropFront }, q.ring.get 0)

/-! ## The list behind the ring -/

/-- The messages in the queue. -/
def messages (q : WsQueue) : List WsMessage := q.ring.toList.reduceOption

/-- Every slot between the first and the last holds a message. -/
def Refines (q : WsQueue) (l : List WsMessage) : Prop := q.ring.toList = l.map some

/-- The place of the message that a full queue gives up for another. -/
def victim (l : List WsMessage) (msg : WsMessage) : Nat :=
  match l.findIdx? fun m => isDepthWSMessage (some m) with
  | some i => i
  | none =>
    if isMarkPriceWSMessage (some msg) then
      (l.findIdx? fun m => isLiquidationWSMessage (some m)).getD 0
    else 0

/-- Adding a message to a list of at most `capacity` messages. -/
def push (policy : BackpressurePolicy) (capacity : Nat) (l : List WsMessage) (msg : WsMessage) :
    List WsMessage :=
  if l.length < capacity then l ++ [msg]
  else
    match policy with
    | .dropDepthKeepOps =>
      if isDepthWSMessage (some msg) then l else l.eraseIdx (victim l msg) ++ [msg]
    | _ => l.tail ++ [msg]

section Refinement

variable {q : WsQueue} {l : List WsMessage} {msg : WsMessage}

theorem Refines.length (h : q.Refines l) : q.ring.count = l.length := by
  rw [← Ring.length_toList, h, List.length_map]

theorem Refines.get (h : q.Refines l) {i : Nat} (hi : i < l.length) : q.ring.get i = l[i]? := by
  have hcount : i < q.ring.count := h.length ▸ hi
  have hget := Ring.getElem?_toList q.ring hcount
  rw [h, List.getElem?_map, List.getElem?_eq_getElem hi, Option.map_some] at hget
  rw [List.getElem?_eq_getElem hi, ← Option.some.inj hget]

theorem Refines.messages (h : q.Refines l) : q.messages = l := by
  unfold WsQueue.messages
  rw [h, List.reduceOption, List.filterMap_map]
  exact List.filterMap_some

/-- The search in the ring is the search in the list. -/
theorem Refines.findFirst (h : q.Refines l) (p : Option WsMessage → Bool) :
    q.findFirst p = l.findIdx? fun m => p (some m) := by
  unfold WsQueue.findFirst
  rw [Ring.find?_get, h, List.findIdx?_map]
  rfl

theorem Refines.dropIdx (h : q.Refines l) : q.dropIdx msg = victim l msg := by
  unfold WsQueue.dropIdx victim
  rw [h.findFirst, h.findFirst]

theorem victim_lt (hl : l ≠ []) : victim l msg < l.length := by
  have hpos : 0 < l.length := List.length_pos_iff.mpr hl
  have hfound : ∀ (p : WsMessage → Bool) i, l.findIdx? p = some i → i < l.length := by
    intro p i hi
    exact (List.findIdx?_eq_some_iff_getElem.mp hi).1
  unfold victim
  split
  · rename_i i hi
    exact hfound _ i hi
  · split_ifs
    · cases hliq : l.findIdx? fun m => isLiquidationWSMessage (some m) with
      | none => exact hpos
      | some i => exact hfound _ i hliq
    · exact hpos

/--
The message given up is about the depth, or there is no such message; then a mark price
displaces a liquidation if there is one, and the first message otherwise.
-/
theorem victim_cases {m : WsMessage} (hm : l[victim l msg]? = some m) :
    isDepthWSMessage (some m) = true ∨
      (∀ m' ∈ l, isDepthWSMessage (some m') = false) ∧
        (isMarkPriceWSMessage (some msg) = true →
          if ∃ m' ∈ l, isLiquidationWSMessage (some m') = true then
            isLiquidationWSMessage (some m) = true
          else l.head? = some m) := by
  unfold victim at hm
  cases hdepth : l.findIdx? fun m => isDepthWSMessage (some m) with
  | some i =>
    rw [hdepth] at hm
    obtain ⟨hi, hp, -⟩ := List.findIdx?_eq_some_iff_getElem.mp hdepth
    rw [List.getElem?_eq_getElem hi] at hm
    cases hm
    exact .inl hp
  | none =>
    rw [hdepth] at hm
    refine .inr ⟨List.findIdx?_eq_none_iff.mp hdepth, fun hmark => ?_⟩
    dsimp only at hm
    rw [if_pos hmark] at hm
    cases hliq : l.findIdx? fun m => isLiquidationWSMessage (some m) with
    | some i =>
      rw [hliq] at hm
      obtain ⟨hi, hp, -⟩ := List.findIdx?_eq_some_iff_getElem.mp hliq
      rw [Option.getD_some, List.getElem?_eq_getElem hi] at hm
      cases hm
      rw [if_pos ⟨l[i], List.getElem_mem hi, hp⟩]
      exact hp
    | none =>
      have hno := List.findIdx?_eq_none_iff.mp hliq
      rw [hliq, Option.getD_none, ← List.head?_eq_getElem?] at hm
      rw [if_neg (by simpa using hno)]
      exact hm

theorem Refines.replace (h : q.Refines l) {i : Nat} (hi : i < l.length) :
    (q.replace i msg).Refines (l.eraseIdx i ++ [msg]) := by
  unfold Refines WsQueue.replace
  rw [Ring.toList_pushBack, Ring.toList_removeAt (h.length ▸ hi), h, List.map_append,
    List.eraseIdx_map]
  rfl

/-- `Enqueue` on the ring is `push` on the list. -/
theorem Refines.enqueue (h : q.Refines l) (hopen : q.closed = false) :
    (q.enqueue msg).1.Refines (push q.policy q.ring.cap l msg) := by
  have hcount := h.length
  unfold WsQueue.enqueue push
  rw [if_neg (by simp [hopen])]
  by_cases hroom : q.ring.count < q.ring.cap
  · rw [dif_pos hroom, if_pos (hcount ▸ hroom)]
    unfold Refines
    rw [Ring.toList_pushBack, h, List.map_append]
    rfl
  · have hne : l ≠ [] := by
      rintro rfl
      have := q.ring.cap_pos
      simp only [List.length_nil] at hcount
      omega
    have hpos : 0 < l.length := List.length_pos_iff.mpr hne
    have hfull : ¬ l.length < q.ring.cap := hcount ▸ hroom
    rw [dif_neg hroom, if_neg hfull]
    have holdest : (q.replace 0 msg).Refines (l.tail ++ [msg]) := by
      rw [← List.eraseIdx_zero]
      exact h.replace hpos
    cases q.policy with
    | dropOldest => exact holdest
    | other raw => exact holdest
    | dropDepthKeepOps =>
      dsimp only
      split_ifs
      · exact h
      · rw [h.dropIdx]
        exact h.replace (victim_lt hne)

theorem Refines.pop {m : WsMessage} (h : q.Refines (m :: l)) :
    ∃ q', q.pop = some (q', some m) ∧ q'.Refines l ∧ q'.ring.cap = q.ring.cap ∧
      q'.policy = q.policy ∧ q'.closed = q.closed := by
  have hcount : q.ring.count ≠ 0 := by simp [h.length]
  have hfirst : q.ring.get 0 = some m := h.get (by simp)
  refine ⟨{ q with ring := q.ring.dropFront }, ?_, ?_, Ring.cap_dropFront, rfl, rfl⟩
  · rw [WsQueue.pop, if_neg hcount, hfirst]
  · unfold Refines
    rw [Ring.toList_dropFront, h]
    rfl

end Refinement

section Push

variable {policy : BackpressurePolicy} {capacity : Nat} {l : List WsMessage} {msg : WsMessage}

theorem push_of_room (h : l.length < capacity) : push policy capacity l msg = l ++ [msg] := by
  unfold push
  rw [if_pos h]

/-- A full queue keeps its messages, or gives up one of them. -/
theorem push_of_full (h : ¬ l.length < capacity) :
    push policy capacity l msg = l ∧ policy = .dropDepthKeepOps ∧
        isDepthWSMessage (some msg) = true ∨
      push policy capacity l msg = l.eraseIdx (victim l msg) ++ [msg] ∧
        policy = .dropDepthKeepOps ∧ isDepthWSMessage (some msg) = false ∨
      push policy capacity l msg = l.eraseIdx 0 ++ [msg] ∧ policy ≠ .dropDepthKeepOps := by
  unfold push
  rw [if_neg h]
  cases policy with
  | dropOldest => exact .inr (.inr ⟨by rw [List.eraseIdx_zero], by simp⟩)
  | other raw => exact .inr (.inr ⟨by rw [List.eraseIdx_zero], by simp⟩)
  | dropDepthKeepOps =>
    cases isDepthWSMessage (some msg) with
    | true => exact .inl ⟨if_pos rfl, rfl, rfl⟩
    | false => exact .inr (.inl ⟨if_neg Bool.false_ne_true, rfl, rfl⟩)

/-- A message is added at the end; at most one message is given up. -/
theorem push_sublist : (push policy capacity l msg).Sublist (l ++ [msg]) := by
  by_cases hroom : l.length < capacity
  · rw [push_of_room hroom]
  · rcases push_of_full hroom with ⟨heq, -⟩ | ⟨heq, -⟩ | ⟨heq, -⟩
    · rw [heq]
      exact List.sublist_append_left l [msg]
    · rw [heq]
      exact (List.eraseIdx_sublist l _).append_right [msg]
    · rw [heq]
      exact (List.eraseIdx_sublist l _).append_right [msg]

theorem length_push (hcap : 0 < capacity) :
    (push policy capacity l msg).length =
      if l.length < capacity then l.length + 1 else l.length := by
  by_cases hroom : l.length < capacity
  · rw [push_of_room hroom, if_pos hroom, List.length_append, List.length_singleton]
  · have hne : l ≠ [] := by
      rintro rfl
      exact hroom hcap
    have hpos : 0 < l.length := List.length_pos_iff.mpr hne
    have herase : ∀ i < l.length, (l.eraseIdx i ++ [msg]).length = l.length := by
      intro i hi
      rw [List.length_append, List.length_eraseIdx_of_lt hi, List.length_singleton]
      omega
    rw [if_neg hroom]
    rcases push_of_full hroom with ⟨heq, -⟩ | ⟨heq, -⟩ | ⟨heq, -⟩
    · rw [heq]
    · rw [heq, herase _ (victim_lt hne)]
    · rw [heq, herase _ hpos]

end Push

/-! ## Runs -/

/-- The operations on an open queue. -/
inductive Op where
  | enqueue (msg : WsMessage)
  | pop

/-- A queue with the messages that came and went and the number reported as dropped. -/
structure Trace where
  queue : WsQueue
  enqueued : List WsMessage
  popped : List WsMessage
  dropped : Nat

namespace Trace

/-- A new queue. -/
def start (capacity : Int) (policy : BackpressurePolicy) : Trace :=
  ⟨WsQueue.create capacity policy, [], [], 0⟩

/-- One operation; a pop that waits changes nothing. -/
def step (t : Trace) : Op → Trace
  | .enqueue msg =>
    { t with
      queue := (t.queue.enqueue msg).1
      enqueued := t.enqueued ++ [msg]
      dropped := t.dropped + (t.queue.enqueue msg).2.1 }
  | .pop =>
    match t.queue.pop with
    | none => t
    | some (q, msg) => { t with queue := q, popped := t.popped ++ msg.toList }

/-- The list of messages that the operations leave, without a ring. -/
def pending (policy : BackpressurePolicy) (capacity : Nat) (l : List WsMessage) :
    Op → List WsMessage
  | .enqueue msg => push policy capacity l msg
  | .pop => l.tail

/-- The ring holds the list `l`, and every message is accounted for. -/
structure Accounted (policy : BackpressurePolicy) (capacity : Nat) (l : List WsMessage)
    (t : Trace) : Prop where
  isOpen : t.queue.closed = false
  policy_eq : t.queue.policy = policy
  cap_eq : t.queue.ring.cap = capacity
  refines : t.queue.Refines l
  bounded : l.length ≤ capacity
  ordered : (t.popped ++ l).Sublist t.enqueued
  balance : t.enqueued.length = t.popped.length + l.length + t.dropped

/-- `Enqueue` reports a drop exactly when the queue is full. -/
theorem dropped_enqueue {q : WsQueue} {msg : WsMessage} (hopen : q.closed = false) :
    (q.enqueue msg).2.1 = if q.ring.count < q.ring.cap then 0 else 1 := by
  unfold WsQueue.enqueue
  rw [if_neg (by simp [hopen])]
  by_cases hroom : q.ring.count < q.ring.cap
  · rw [dif_pos hroom, if_pos hroom]
  · rw [dif_neg hroom, if_neg hroom]
    cases q.policy with
    | dropOldest => rfl
    | other raw => rfl
    | dropDepthKeepOps => cases isDepthWSMessage (some msg) <;> rfl

theorem cap_replace
    (q : WsQueue) (i : Nat) (msg : WsMessage) : (q.replace i msg).ring.cap = q.ring.cap := by
  unfold replace
  rw [Ring.cap_pushBack, Ring.cap_removeAt]

/-- What `Enqueue` leaves alone. -/
theorem frame_enqueue (q : WsQueue) (msg : WsMessage) :
    (q.enqueue msg).1.closed = q.closed ∧ (q.enqueue msg).1.policy = q.policy ∧
      (q.enqueue msg).1.ring.cap = q.ring.cap := by
  unfold WsQueue.enqueue
  by_cases hclosed : q.closed = true
  · rw [if_pos hclosed]
    exact ⟨rfl, rfl, rfl⟩
  rw [if_neg hclosed]
  by_cases hroom : q.ring.count < q.ring.cap
  · rw [dif_pos hroom]
    exact ⟨rfl, rfl, Ring.cap_pushBack (h := hroom)⟩
  rw [dif_neg hroom]
  cases hpolicy : q.policy with
  | dropOldest => exact ⟨rfl, hpolicy, cap_replace q 0 msg⟩
  | other raw => exact ⟨rfl, hpolicy, cap_replace q 0 msg⟩
  | dropDepthKeepOps =>
    cases isDepthWSMessage (some msg) with
    | true => exact ⟨rfl, hpolicy, rfl⟩
    | false => exact ⟨rfl, hpolicy, cap_replace q _ msg⟩

section Steps

variable {policy : BackpressurePolicy} {capacity : Nat} {l : List WsMessage} {t : Trace}

theorem Accounted.enqueue (h : Accounted policy capacity l t) (msg : WsMessage) :
    Accounted policy capacity (push policy capacity l msg) (t.step (.enqueue msg)) := by
  obtain ⟨hclosed, hpolicy, hcap⟩ := frame_enqueue t.queue msg
  have hpos : 0 < capacity := h.cap_eq ▸ t.queue.ring.cap_pos
  have hlength : (push policy capacity l msg).length =
      if l.length < capacity then l.length + 1 else l.length :=
    length_push hpos
  refine ⟨hclosed.trans h.isOpen, hpolicy.trans h.policy_eq, hcap.trans h.cap_eq, ?_, ?_, ?_, ?_⟩
  · have hrefines : (t.queue.enqueue msg).1.Refines
        (push t.queue.policy t.queue.ring.cap l msg) :=
      h.refines.enqueue h.isOpen
    rw [h.policy_eq, h.cap_eq] at hrefines
    exact hrefines
  · rw [hlength]
    have := h.bounded
    split_ifs <;> omega
  · have hsub : (t.popped ++ push policy capacity l msg).Sublist (t.popped ++ (l ++ [msg])) :=
      push_sublist.append_left t.popped
    rw [← List.append_assoc] at hsub
    exact hsub.trans (h.ordered.append_right [msg])
  · change (t.enqueued ++ [msg]).length = t.popped.length + _ + (t.dropped + _)
    rw [dropped_enqueue h.isOpen, h.refines.length, h.cap_eq, hlength, List.length_append,
      List.length_singleton, h.balance]
    split_ifs <;> omega

theorem Accounted.pop
    (h : Accounted policy capacity l t) : Accounted policy capacity l.tail (t.step .pop) := by
  cases l with
  | nil =>
    have hcount : t.queue.ring.count = 0 := h.refines.length
    have hpop : t.queue.pop = none := by
      rw [WsQueue.pop, if_pos hcount, if_neg (by simp [h.isOpen])]
    have hstep : t.step .pop = t := by
      unfold step
      rw [hpop]
    rw [hstep]
    exact h
  | cons m l =>
    obtain ⟨q', hpop, hrefines, hcap, hpolicy, hclosed⟩ := h.refines.pop
    have hstep : t.step .pop = { t with queue := q', popped := t.popped ++ [m] } := by
      unfold step
      rw [hpop]
      rfl
    rw [hstep]
    refine ⟨hclosed.trans h.isOpen, hpolicy.trans h.policy_eq, hcap.trans h.cap_eq, hrefines,
      (Nat.le_succ _).trans h.bounded, ?_, ?_⟩
    · have hordered := h.ordered
      rw [List.append_cons] at hordered
      exact hordered
    · have hbalance := h.balance
      simp only [List.length_cons, List.length_append, List.length_nil, List.tail_cons] at *
      omega

/-- The ring follows the list through a run. -/
theorem accounted_run (h : Accounted policy capacity l t) (ops : List Op) :
    Accounted policy capacity (run (pending policy capacity) l ops)
      (run step t ops) := by
  induction ops generalizing l t with
  | nil => exact h
  | cons op ops ih =>
    rw [run_cons, run_cons]
    cases op with
    | enqueue msg => exact ih (h.enqueue msg)
    | pop => exact ih h.pop

end Steps

/-! ## What is discarded -/

/-- Of the queued messages and the incoming one, the one that is gone afterwards. -/
def Discards (q : WsQueue) (msg d : WsMessage) : Prop :=
  ∃ before after, q.messages ++ [msg] = before ++ d :: after ∧
    (q.enqueue msg).1.messages = before ++ after

/-- The discarded message is determined by what remains. -/
theorem eq_of_perm_cons
    {l : List WsMessage} {d d' : WsMessage} (h : (d :: l).Perm (d' :: l)) : d = d' := by
  have hcoe : d ::ₘ (l : Multiset WsMessage) = d' ::ₘ (l : Multiset WsMessage) := by
    simpa using h
  exact (Multiset.cons_inj_left _).mp hcoe

/-- A message that leaves the list at a place is the discarded one. -/
theorem Discards.eq {q : WsQueue} {msg d d' : WsMessage} {l : List WsMessage} (h : Discards q msg d)
    (hperm : (q.messages ++ [msg]).Perm (d' :: l)) (hl : (q.enqueue msg).1.messages = l) :
    d = d' := by
  obtain ⟨before, after, hsplit, hrest⟩ := h
  rw [hsplit] at hperm
  rw [hl] at hrest
  subst hrest
  exact eq_of_perm_cons (List.perm_middle.symm.trans hperm)

/-- What `drop_depth_keep_trades` promises about a message that is not about the depth. -/
def KeepsTrades (q : WsQueue) : Prop :=
  ∀ msg d, Discards q msg d → isDepthWSMessage (some d) = false →
    isDepthWSMessage (some msg) = false ∧
      (∀ m ∈ q.messages, isDepthWSMessage (some m) = false) ∧
      (isMarkPriceWSMessage (some msg) = true →
        if ∃ m ∈ q.messages, isLiquidationWSMessage (some m) = true then
          isLiquidationWSMessage (some d) = true ∧ d ∈ q.messages
        else q.messages.head? = some d)

theorem keepsTrades_of_accounted {capacity : Nat} {l : List WsMessage} {t : Trace}
    (h : Accounted .dropDepthKeepOps capacity l t) : KeepsTrades t.queue := by
  intro msg d hd hdepth
  have hmessages : t.queue.messages = l := h.refines.messages
  have hnext : (t.queue.enqueue msg).1.messages = push .dropDepthKeepOps capacity l msg := by
    have hrefines := (h.enqueue msg).refines
    exact hrefines.messages
  have hpos : 0 < capacity := h.cap_eq ▸ t.queue.ring.cap_pos
  by_cases hroom : l.length < capacity
  · -- a queue with room discards nothing
    obtain ⟨before, after, hsplit, hrest⟩ := hd
    have hlength := congrArg List.length hsplit
    rw [hnext, push_of_room hroom] at hrest
    have hlength' := congrArg List.length hrest
    rw [hmessages] at hlength
    simp only [List.length_append, List.length_cons, List.length_nil] at hlength hlength'
    omega
  · have hne : l ≠ [] := by
      rintro rfl
      exact hroom hpos
    rcases push_of_full hroom with ⟨heq, -, hmsg⟩ | ⟨heq, -, hmsg⟩ | ⟨-, habsurd⟩
    · have hself : d = msg := hd.eq (hmessages ▸ List.perm_append_singleton msg l) (hnext.trans heq)
      rw [hself, hmsg] at hdepth
      exact absurd hdepth (by simp)
    · have hlt : victim l msg < l.length := victim_lt hne
      have hperm : (t.queue.messages ++ [msg]).Perm
          (l[victim l msg] :: (l.eraseIdx (victim l msg) ++ [msg])) := by
        rw [hmessages, ← List.cons_append]
        exact (List.getElem_cons_eraseIdx_perm hlt).symm.append_right [msg]
      have hvictim : d = l[victim l msg] := hd.eq hperm (hnext.trans heq)
      have hget : l[victim l msg]? = some d := by rw [hvictim, List.getElem?_eq_getElem hlt]
      rcases victim_cases hget with hbad | ⟨hnone, hmark⟩
      · rw [hdepth] at hbad
        exact absurd hbad (by simp)
      · refine ⟨hmsg, hmessages ▸ hnone, fun hprice => ?_⟩
        have hcase := hmark hprice
        rw [hmessages]
        split_ifs at hcase ⊢
        · exact ⟨hcase, List.mem_of_getElem? hget⟩
        · exact hcase
    · exact absurd rfl habsurd

/-- The queue after some operations. -/
def after (capacity : Int) (policy : BackpressurePolicy) (ops : List Op) : Trace :=
  run step (start capacity policy) ops

/-- What holds of a queue and its messages after some operations. -/
structure Complete (t : Trace) (capacity : Int) (policy : BackpressurePolicy) (ops : List Op) :
    Prop where
  full_slots : t.queue.ring.toList = t.queue.messages.map some
  refines : t.queue.messages = run (pending policy (ringSize capacity)) [] ops
  bounded : t.queue.messages.length ≤ ringSize capacity
  ordered : (t.popped ++ t.queue.messages).Sublist t.enqueued
  balance : t.enqueued.length = t.popped.length + t.queue.messages.length + t.dropped
  keeps : policy = .dropDepthKeepOps → KeepsTrades t.queue

/--
Every run of an open queue: the ring refines the list that the operations leave, the
list has at most `capacity` messages in their order of arrival, and every enqueued
message is popped, queued or reported as dropped.  Under `drop_depth_keep_trades` only
a full queue without depth messages discards another message.
-/
theorem queue_refines_list (capacity : Int) (policy : BackpressurePolicy) (ops : List Op) :
    (after capacity policy ops).Complete capacity policy ops := by
  have hstart : Accounted policy (ringSize capacity) [] (start capacity policy) :=
    ⟨rfl, rfl, Ring.cap_create (h := ringSize_pos capacity), rfl, Nat.zero_le _,
      List.Sublist.refl _, rfl⟩
  have hrun := accounted_run hstart ops
  have hmessages := hrun.refines.messages
  refine ⟨hmessages ▸ hrun.refines, hmessages, hmessages ▸ hrun.bounded, hmessages ▸ hrun.ordered,
    hmessages ▸ hrun.balance, ?_⟩
  rintro rfl
  exact keepsTrades_of_accounted hrun

end Trace
end WsQueue
end Marketdata
end StreamAnalytics
