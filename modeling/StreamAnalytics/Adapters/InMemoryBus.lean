import Mathlib.Data.Fintype.Basic
import StreamAnalytics.Lib.Runs

/-!
# The in-memory bus

Model of `InMemoryBus` in `internal/adapters/bus/inmemory.go` under any interleaving of
`Publish`, `Subscribe` and `Close`.  Reading the list of subscribers, each send, closing
each channel and the end of `Close` are single steps; the lock that `Close` holds keeps
`Subscribe` and the reading of the list out until it ends.  A step that its goroutine
cannot take leaves the bus as it is.

`Publish` sends after it has released the lock, so `Close` may close a channel to which
a send is still to come, and a channel that is subscribed after `Close` is served by
later publishers.  Otherwise the bus keeps its contract (`sound_of_orderly`).
-/

namespace StreamAnalytics
namespace Adapters
namespace InMemoryBus

open Runs Function

variable {ι E : Type}

/-! ## The bus -/

/--
A call of `Publish`: its envelope, its number among the calls of its publisher, and
whether it started after a call of `Close` had returned.
-/
structure Publication (ι E : Type) where
  publisher : ι
  number : Nat
  env : E
  late : Bool
deriving Repr, DecidableEq

/-- The channel of a subscriber. -/
structure Channel (ι E : Type) where
  buffer : List (Publication ι E) := []
  received : List (Publication ι E) := []
  dropped : List (Publication ι E) := []
  closed : Bool := false

/-- What was sent to the channel, whether the subscriber has received it yet or not. -/
def Channel.accepted (ch : Channel ι E) : List (Publication ι E) := ch.received ++ ch.buffer

/--
The bus and the calls in progress: the channels that `Close` still has to close while it
holds the lock, and those to which each publisher still has to send.
-/
structure Bus (ι E : Type) where
  channels : Nat → Channel ι E := fun _ => {}
  created : Nat := 0
  subscribers : List Nat := []
  closing : Option (List Nat) := none
  closed : Bool := false
  sending : ι → Option (Publication ι E × List Nat) := fun _ => none
  published : ι → List E := fun _ => []
  reads : List (Publication ι E × List Nat) := []
  panics : List (Publication ι E × Nat) := []

/-- `defaultBusCapacity`. -/
def defaultBusCapacity : Nat := 1024

/-- The capacity that `NewInMemoryBus` gives to a channel. -/
def channelCapacity (capacity : Int) : Nat :=
  if capacity ≤ 0 then defaultBusCapacity else capacity.toNat

/-- The steps of the goroutines. -/
inductive BusStep (ι E : Type) where
  | subscribe
  | publish (p : ι) (env : E)
  | send (p : ι)
  | close
  | closeNext
  | receive (c : Nat)

/-- A non-blocking send to an open channel. -/
def Channel.offer (capacity : Int) (ch : Channel ι E) (pub : Publication ι E) : Channel ι E :=
  if ch.buffer.length < channelCapacity capacity then { ch with buffer := ch.buffer ++ [pub] }
  else { ch with dropped := ch.dropped ++ [pub] }

namespace Bus

/-- The channels to which a publisher still has to send. -/
def remaining (b : Bus ι E) (p : ι) : List Nat := ((b.sending p).map Prod.snd).getD []

/-- `Subscribe`. -/
def subscribe (b : Bus ι E) : Bus ι E :=
  { b with created := b.created + 1, subscribers := b.subscribers ++ [b.created] }

/-- The part of `Publish` that reads the list of subscribers. -/
def publish [DecidableEq ι] (b : Bus ι E) (p : ι) (env : E) : Bus ι E :=
  let pub := ⟨p, (b.published p).length, env, b.closed⟩
  { b with
    published := update b.published p (b.published p ++ [env])
    reads := b.reads ++ [(pub, b.subscribers)]
    sending := update b.sending p (some (pub, b.subscribers)) }

/-- One send of `Publish`; a send to a closed channel panics. -/
def send [DecidableEq ι] (capacity : Int) (b : Bus ι E) (p : ι) : Bus ι E :=
  match b.sending p with
  | some (pub, c :: rest) =>
    if (b.channels c).closed then
      { b with
        panics := b.panics ++ [(pub, c)]
        sending := update b.sending p none }
    else
      { b with
        channels := update b.channels c ((b.channels c).offer capacity pub)
        sending := update b.sending p (some (pub, rest)) }
  | _ => b

/-- The next step of `Close`: a channel is closed, or the list is cleared. -/
def closeNext (b : Bus ι E) : Bus ι E :=
  match b.closing with
  | some (c :: rest) =>
    { b with
      channels := update b.channels c { b.channels c with closed := true }
      closing := some rest }
  | some [] => { b with subscribers := [], closing := none, closed := true }
  | none => b

/-- A subscriber takes an envelope from its channel. -/
def receive (b : Bus ι E) (c : Nat) : Bus ι E :=
  match (b.channels c).buffer with
  | [] => b
  | pub :: rest =>
    { b with
      channels := update b.channels c
        { b.channels c with buffer := rest, received := (b.channels c).received ++ [pub] } }

/-- One step of one of the goroutines. -/
def step [DecidableEq ι] (capacity : Int) (b : Bus ι E) : BusStep ι E → Bus ι E
  | .subscribe => if b.closing.isSome then b else b.subscribe
  | .publish p env => if b.closing.isSome ∨ b.remaining p ≠ [] then b else b.publish p env
  | .send p => b.send capacity p
  | .close => if b.closing.isSome then b else { b with closing := some b.subscribers }
  | .closeNext => b.closeNext
  | .receive c => b.receive c

/-! ## The contract -/

/--
No send goes to a closed channel, and none of a call that started after `Close` is
accepted.  A subscriber receives the envelopes of a publisher in the order of the calls,
as they were published.  Every channel that a call has found in the list has accepted or
dropped its envelope, unless the send is still to come.
-/
structure Sound (b : Bus ι E) : Prop where
  noPanic : b.panics = []
  noneLate : ∀ c, ∀ pub ∈ (b.channels c).accepted, pub.late = false
  ordered : ∀ c, (b.channels c).accepted.Pairwise
    fun pub pub' => pub.publisher = pub'.publisher → pub.number < pub'.number
  faithful : ∀ c, ∀ pub ∈ (b.channels c).accepted,
    (b.published pub.publisher)[pub.number]? = some pub.env
  complete : ∀ pub cs, (pub, cs) ∈ b.reads → ∀ c ∈ cs,
    (∃ rest, b.sending pub.publisher = some (pub, rest) ∧ c ∈ rest) ∨
      pub ∈ (b.channels c).accepted ∨ pub ∈ (b.channels c).dropped

/--
A channel is closed only if no send to it is still to come, and nobody subscribes after
`Close`.
-/
def Orderly (b : Bus ι E) : BusStep ι E → Prop
  | .subscribe => b.closed = false
  | .closeNext =>
    match b.closing with
    | some (c :: _) => ∀ p, c ∉ b.remaining p
    | _ => True
  | _ => True

instance [Fintype ι] (b : Bus ι E) (a : BusStep ι E) :
    Decidable (b.Orderly a) := by
  unfold Orderly
  split
  · infer_instance
  · split
    · infer_instance
    · infer_instance
  · infer_instance

/-! ## The invariant -/

/-- A call of `Publish` in progress. -/
structure InProgress (b : Bus ι E) (p : ι) (pub : Publication ι E) (rest : List Nat) : Prop where
  publisher : pub.publisher = p
  last : pub.number + 1 = (b.published p).length
  env : (b.published p)[pub.number]? = some pub.env
  nodup : rest.Nodup
  target : ∀ c ∈ rest, (b.channels c).closed = false ∧ pub.late = false ∧
    ∀ pub' ∈ (b.channels c).accepted, pub'.publisher = p → pub'.number < pub.number

/-- What holds of the bus as long as its users keep to the conditions. -/
structure Ordered (b : Bus ι E) : Prop extends Sound b where
  subscribed : b.subscribers.Nodup ∧ ∀ c ∈ b.subscribers, c < b.created
  openUnlocked : b.closing = none → ∀ c ∈ b.subscribers, (b.channels c).closed = false
  closingCreated : ∀ cs, b.closing = some cs → ∀ c ∈ cs, c < b.created
  openFresh : ∀ c, b.created ≤ c → (b.channels c).closed = false
  emptied : b.closed = true → b.subscribers = []
  counted : ∀ c, ∀ pub ∈ (b.channels c).accepted, pub.number < (b.published pub.publisher).length
  progress : ∀ p pub rest, b.sending p = some (pub, rest) → b.InProgress p pub rest

section Steps

variable {b : Bus ι E}

/-- A call in progress does not see changes elsewhere. -/
theorem InProgress.congr
    {b' : Bus ι E} {p : ι} {pub : Publication ι E} {rest : List Nat} (h : b.InProgress p pub rest)
    (hpublished : b'.published p = b.published p)
    (hchannels : ∀ c ∈ rest, (b'.channels c).closed = (b.channels c).closed ∧
      ∀ pub' ∈ (b'.channels c).accepted, pub'.publisher = p → pub' ∈ (b.channels c).accepted) :
    b'.InProgress p pub rest := by
  refine ⟨h.publisher, hpublished ▸ h.last, hpublished ▸ h.env, h.nodup, fun c hc => ?_⟩
  obtain ⟨hopen, hlate, hbefore⟩ := h.target c hc
  obtain ⟨hclosed, haccepted⟩ := hchannels c hc
  exact ⟨hclosed.trans hopen, hlate, fun pub' hpub' hp => hbefore pub' (haccepted pub' hpub' hp) hp⟩

theorem Ordered.subscribe
    (h : b.Ordered) (hunlocked : b.closing = none) (hopen : b.closed = false) :
    b.subscribe.Ordered := by
  have hfresh : b.created ∉ b.subscribers := fun hmem =>
    absurd (h.subscribed.2 _ hmem) (lt_irrefl _)
  refine ⟨⟨h.noPanic, h.noneLate, h.ordered, h.faithful, h.complete⟩, ⟨?_, fun c hc => ?_⟩,
    fun _ c hc => ?_, fun cs hcs => ?_, fun c hc => h.openFresh c (Nat.le_of_succ_le hc),
    fun hclosed => ?_, h.counted, fun p pub rest hsending => ?_⟩
  · exact List.nodup_append.mpr ⟨h.subscribed.1, List.nodup_singleton _, fun c hc c' hc' heq =>
      hfresh (List.mem_singleton.mp hc' ▸ heq ▸ hc)⟩
  · obtain hc | hc := List.mem_append.mp hc
    · exact Nat.lt_succ_of_lt (h.subscribed.2 c hc)
    · rw [List.mem_singleton.mp hc]
      exact Nat.lt_succ_self _
  · obtain hc | hc := List.mem_append.mp hc
    · exact h.openUnlocked hunlocked c hc
    · rw [List.mem_singleton.mp hc]
      exact h.openFresh _ le_rfl
  · rw [show b.subscribe.closing = none from hunlocked] at hcs
    cases hcs
  · rw [show b.subscribe.closed = false from hopen] at hclosed
    cases hclosed
  · exact (h.progress p pub rest hsending).congr rfl fun c _ => ⟨rfl, fun _ h _ => h⟩

/-- What the new value has as the old one is as before everywhere. -/
theorem apply_update_eq {β γ : Type*} {g : Nat → β} {c : Nat} {v : β} (f : β → γ)
    (h : f v = f (g c)) (c' : Nat) : f (update g c v c') = f (g c') := by
  by_cases hc : c' = c
  · rw [hc, update_self, h]
  · rw [update_of_ne hc]

/--
A channel may change if it has accepted and dropped the same, and is closed only by
`Close` when no send to it is still to come.
-/
theorem Ordered.setChannel
    (h : b.Ordered) {c : Nat} {ch : Channel ι E} (haccepted : ch.accepted = (b.channels c).accepted)
    (hdropped : ch.dropped = (b.channels c).dropped)
    (hclosed : ch.closed = (b.channels c).closed ∨
      b.closing.isSome ∧ c < b.created ∧ ∀ p, c ∉ b.remaining p) :
    Ordered { b with channels := update b.channels c ch } := by
  have haccepted' := apply_update_eq Channel.accepted haccepted
  have hdropped' := apply_update_eq Channel.dropped hdropped
  have hkept : ∀ c', (b.channels c').closed = false →
      ¬ (b.closing.isSome ∧ c' < b.created ∧ ∀ p, c' ∉ b.remaining p) →
        (update b.channels c ch c').closed = false := by
    intro c' hopen hnot
    by_cases hc : c' = c
    · subst hc
      rw [update_self, hclosed.resolve_right hnot, hopen]
    · rw [update_of_ne hc, hopen]
  refine ⟨⟨h.noPanic, fun c' => ?_, fun c' => ?_, fun c' => ?_, fun pub cs hread c' hc' => ?_⟩,
    h.subscribed, fun hunlocked c' hc' => ?_, h.closingCreated, fun c' hc' => ?_, h.emptied,
    fun c' => ?_, fun p pub rest hsending => ?_⟩
  · simp only [haccepted']
    exact h.noneLate c'
  · simp only [haccepted']
    exact h.ordered c'
  · simp only [haccepted']
    exact h.faithful c'
  · simp only [haccepted', hdropped']
    exact h.complete pub cs hread c' hc'
  · exact hkept c' (h.openUnlocked hunlocked c' hc') fun hclose =>
      Option.isSome_iff_ne_none.mp hclose.1 hunlocked
  · exact hkept c' (h.openFresh c' hc') fun hclose => absurd hc' (Nat.not_le_of_lt hclose.2.1)
  · simp only [haccepted']
    exact h.counted c'
  · obtain ⟨hpublisher, hlast, henv, hnodup, htarget⟩ := h.progress p pub rest hsending
    refine ⟨hpublisher, hlast, henv, hnodup, fun c' hc' => ?_⟩
    obtain ⟨hopen, hlate, hbefore⟩ := htarget c' hc'
    refine ⟨hkept c' hopen fun hclose => hclose.2.2 p ?_, hlate, ?_⟩
    · rw [remaining, hsending]
      exact hc'
    · simp only [haccepted']
      exact hbefore

theorem Ordered.receive (h : b.Ordered) (c : Nat) : (b.receive c).Ordered := by
  unfold Bus.receive
  cases hbuffer : (b.channels c).buffer with
  | nil => exact h
  | cons pub rest =>
    refine h.setChannel ?_ rfl (.inl rfl)
    simp [Channel.accepted, hbuffer]

theorem Ordered.close (h : b.Ordered) : Ordered { b with closing := some b.subscribers } := by
  refine ⟨⟨h.noPanic, h.noneLate, h.ordered, h.faithful, h.complete⟩, h.subscribed, nofun,
    fun cs hcs => ?_, h.openFresh, h.emptied, h.counted, fun p pub rest hsending => ?_⟩
  · rw [← Option.some.inj hcs]
    exact h.subscribed.2
  · exact (h.progress p pub rest hsending).congr rfl fun c _ => ⟨rfl, fun _ h _ => h⟩

theorem Ordered.closeNext
    (h : b.Ordered) (horderly : b.Orderly .closeNext) : b.closeNext.Ordered := by
  unfold Bus.closeNext
  unfold Orderly at horderly
  cases hclosing : b.closing with
  | none => exact h
  | some cs =>
    rw [hclosing] at horderly
    cases cs with
    | nil =>
      refine ⟨⟨h.noPanic, h.noneLate, h.ordered, h.faithful, h.complete⟩,
        ⟨List.nodup_nil, nofun⟩, nofun, nofun, h.openFresh, fun _ => rfl, h.counted,
        fun p pub rest hsending => ?_⟩
      exact (h.progress p pub rest hsending).congr rfl fun c _ => ⟨rfl, fun _ h _ => h⟩
    | cons c rest =>
      have hcreated := h.closingCreated _ hclosing
      have hset : Ordered { b with
          channels := update b.channels c { b.channels c with closed := true } } :=
        h.setChannel rfl rfl
          (.inr ⟨by rw [hclosing]; rfl, hcreated c List.mem_cons_self, horderly⟩)
      refine ⟨⟨hset.noPanic, hset.noneLate, hset.ordered, hset.faithful, hset.complete⟩,
        hset.subscribed, nofun, fun cs hcs => ?_, hset.openFresh, hset.emptied, hset.counted,
        fun p pub rest' hsending => ?_⟩
      · rw [← Option.some.inj hcs]
        exact fun c' hc' => hcreated c' (List.mem_cons_of_mem _ hc')
      · exact (hset.progress p pub rest' hsending).congr rfl fun c _ => ⟨rfl, fun _ h _ => h⟩

/-- A channel accepts or drops what it is offered. -/
theorem offer_cases (capacity : Int) (ch : Channel ι E) (pub : Publication ι E) :
    (ch.offer capacity pub).closed = ch.closed ∧
      ((ch.offer capacity pub).accepted = ch.accepted ++ [pub] ∧
          (ch.offer capacity pub).dropped = ch.dropped ∨
        (ch.offer capacity pub).accepted = ch.accepted ∧
          (ch.offer capacity pub).dropped = ch.dropped ++ [pub]) := by
  unfold Channel.offer
  split_ifs
  · exact ⟨rfl, .inl ⟨by simp [Channel.accepted], rfl⟩⟩
  · exact ⟨rfl, .inr ⟨rfl, rfl⟩⟩

theorem ordered_fresh : Ordered ({} : Bus ι E) := by
  refine ⟨⟨rfl, nofun, fun _ => .nil, nofun, nofun⟩, ⟨List.nodup_nil, nofun⟩, nofun, nofun,
    fun _ _ => rfl, nofun, nofun, nofun⟩

variable [DecidableEq ι]

theorem Ordered.publish
    (h : b.Ordered) {p : ι} (env : E) (hunlocked : b.closing = none) (hidle : b.remaining p = []) :
    (b.publish p env).Ordered := by
  have hpublished (q : ι) : ∃ tail, (b.publish p env).published q = b.published q ++ tail := by
    change ∃ tail, update b.published p _ q = _
    by_cases hq : q = p
    · rw [hq, update_self]
      exact ⟨_, rfl⟩
    · rw [update_of_ne hq]
      exact ⟨[], (List.append_nil _).symm⟩
  refine ⟨⟨h.noPanic, h.noneLate, h.ordered, fun c pub hpub => ?_, fun pub cs hread c hc => ?_⟩,
    h.subscribed, h.openUnlocked, h.closingCreated, h.openFresh, h.emptied, fun c pub hpub => ?_,
    fun q pub rest hsending => ?_⟩
  · obtain ⟨tail, htail⟩ := hpublished pub.publisher
    rw [htail, List.getElem?_append_left (h.counted c pub hpub)]
    exact h.faithful c pub hpub
  · obtain hread | hread := List.mem_append.mp hread
    · obtain ⟨rest, hsending, hrest⟩ | hdone := h.complete pub cs hread c hc
      · -- the publisher has finished its last call
        have hq : pub.publisher ≠ p := by
          rintro rfl
          rw [remaining, hsending] at hidle
          rw [show rest = [] from hidle] at hrest
          cases hrest
        exact .inl ⟨rest, (update_of_ne hq _ _).trans hsending, hrest⟩
      · exact .inr hdone
    · obtain ⟨rfl, rfl⟩ := Prod.mk.inj (List.mem_singleton.mp hread)
      exact .inl ⟨b.subscribers, update_self _ _ _, hc⟩
  · obtain ⟨tail, htail⟩ := hpublished pub.publisher
    rw [htail, List.length_append]
    exact Nat.lt_add_right _ (h.counted c pub hpub)
  · by_cases hq : q = p
    · subst hq
      have hsending' : (b.publish q env).sending q = _ := update_self ..
      obtain ⟨rfl, rfl⟩ := Prod.mk.inj (Option.some.inj (hsending'.symm.trans hsending))
      have hself : (b.publish q env).published q = b.published q ++ [env] := update_self ..
      refine ⟨rfl, by simp [hself], by simp [hself], h.subscribed.1, fun c hc => ?_⟩
      refine ⟨h.openUnlocked hunlocked c hc, ?_, fun pub hpub hq => hq ▸ h.counted c pub hpub⟩
      -- after `Close` the list is empty
      cases hclosed : b.closed with
      | false => rfl
      | true => exact absurd (h.emptied hclosed ▸ hc) List.not_mem_nil
    · have hsending' : b.sending q = some (pub, rest) :=
        (update_of_ne hq _ _).symm.trans hsending
      exact (h.progress q pub rest hsending').congr (update_of_ne hq _ _)
        fun c _ => ⟨rfl, fun _ h _ => h⟩

theorem Ordered.send (h : b.Ordered) (capacity : Int) (p : ι) : (b.send capacity p).Ordered := by
  unfold Bus.send
  rcases hsending : b.sending p with _ | ⟨pub, _ | ⟨c, rest⟩⟩
  · exact h
  · exact h
  have hprogress := h.progress p pub (c :: rest) hsending
  obtain ⟨hopen, hlate, hbefore⟩ := hprogress.target c List.mem_cons_self
  obtain ⟨hc, hnodup⟩ := List.nodup_cons.mp hprogress.nodup
  dsimp only
  rw [if_neg (by simp [hopen])]
  obtain ⟨hclosed, hoffer⟩ := offer_cases capacity (b.channels c) pub
  generalize (b.channels c).offer capacity pub = ch at hclosed hoffer
  have hclosed' := apply_update_eq Channel.closed hclosed
  have haccepted (c' : Nat) (pub' : Publication ι E)
      (hpub' : pub' ∈ (update b.channels c ch c').accepted) :
      pub' ∈ (b.channels c').accepted ∨ c' = c ∧ pub' = pub := by
    by_cases hc' : c' = c
    · subst hc'
      rw [update_self] at hpub'
      obtain ⟨hadded, -⟩ | ⟨hsame, -⟩ := hoffer
      · rw [hadded] at hpub'
        exact (List.mem_append.mp hpub').imp_right fun hnew => ⟨rfl, List.mem_singleton.mp hnew⟩
      · exact .inl (hsame ▸ hpub')
    · rw [update_of_ne hc'] at hpub'
      exact .inl hpub'
  have hkept (c' : Nat) (pub' : Publication ι E)
      (hpub' : pub' ∈ (b.channels c').accepted ∨ pub' ∈ (b.channels c').dropped) :
      pub' ∈ (update b.channels c ch c').accepted ∨
        pub' ∈ (update b.channels c ch c').dropped := by
    by_cases hc' : c' = c
    · subst hc'
      rw [update_self]
      obtain ⟨hadded, hsame⟩ | ⟨hsame, hadded⟩ := hoffer
      · rw [hadded, hsame]
        exact hpub'.imp_left (List.mem_append_left _)
      · rw [hadded, hsame]
        exact hpub'.imp_right (List.mem_append_left _)
    · rw [update_of_ne hc']
      exact hpub'
  refine ⟨⟨h.noPanic, fun c' pub' hpub' => ?_, fun c' => ?_, fun c' pub' hpub' => ?_,
    fun pub' cs hread c' hc' => ?_⟩, h.subscribed, fun hunlocked c' hc' => ?_, h.closingCreated,
    fun c' hc' => ?_, h.emptied, fun c' pub' hpub' => ?_, fun q pub' rest' hsending' => ?_⟩
  · obtain hpub' | ⟨-, rfl⟩ := haccepted c' pub' hpub'
    · exact h.noneLate c' pub' hpub'
    · exact hlate
  · change (update b.channels c ch c').accepted.Pairwise _
    by_cases hc' : c' = c
    · subst hc'
      rw [update_self]
      obtain ⟨hadded, -⟩ | ⟨hsame, -⟩ := hoffer
      · rw [hadded]
        refine List.pairwise_append.mpr ⟨h.ordered c', List.pairwise_singleton _ _, ?_⟩
        intro pub₁ hpub₁ pub₂ hpub₂ hsame
        obtain rfl := List.mem_singleton.mp hpub₂
        exact hbefore pub₁ hpub₁ (hsame.trans hprogress.publisher)
      · rw [hsame]
        exact h.ordered c'
    · rw [update_of_ne hc']
      exact h.ordered c'
  · obtain hpub' | ⟨-, rfl⟩ := haccepted c' pub' hpub'
    · exact h.faithful c' pub' hpub'
    · exact hprogress.publisher ▸ hprogress.env
  · obtain ⟨rest', hsending', hrest'⟩ | hdone := h.complete pub' cs hread c' hc'
    · by_cases hq : pub'.publisher = p
      · rw [hq, hsending] at hsending'
        obtain ⟨rfl, rfl⟩ := Prod.mk.inj (Option.some.inj hsending')
        obtain rfl | hrest' := List.mem_cons.mp hrest'
        · -- the send that was still to come
          right
          change pub ∈ (update b.channels c' ch c').accepted ∨
            pub ∈ (update b.channels c' ch c').dropped
          rw [update_self]
          obtain ⟨hadded, -⟩ | ⟨-, hadded⟩ := hoffer
          · exact .inl (hadded ▸ List.mem_append_right _ List.mem_cons_self)
          · exact .inr (hadded ▸ List.mem_append_right _ List.mem_cons_self)
        · exact .inl ⟨rest, hq ▸ update_self .., hrest'⟩
      · exact .inl ⟨rest', (update_of_ne hq _ _).trans hsending', hrest'⟩
    · exact .inr (hkept c' pub' hdone)
  · exact (hclosed' c').trans (h.openUnlocked hunlocked c' hc')
  · exact (hclosed' c').trans (h.openFresh c' hc')
  · obtain hpub' | ⟨-, rfl⟩ := haccepted c' pub' hpub'
    · exact h.counted c' pub' hpub'
    · have hlast := hprogress.last
      rw [hprogress.publisher]
      change _ < (b.published p).length
      omega
  · by_cases hq : q = p
    · subst hq
      have hself : some (pub, rest) = some (pub', rest') := by
        rw [← hsending']
        exact (update_self q _ b.sending).symm
      obtain ⟨rfl, rfl⟩ := Prod.mk.inj (Option.some.inj hself)
      have hrest : b.InProgress q pub rest :=
        ⟨hprogress.publisher, hprogress.last, hprogress.env, hnodup,
          fun c' hc' => hprogress.target c' (List.mem_cons_of_mem _ hc')⟩
      refine hrest.congr rfl fun c' hc' => ⟨hclosed' c', fun pub' hpub' _ => ?_⟩
      obtain hpub' | ⟨rfl, -⟩ := haccepted c' pub' hpub'
      · exact hpub'
      · exact absurd hc' hc
    · have hother : b.sending q = some (pub', rest') :=
        (update_of_ne hq _ _).symm.trans hsending'
      refine (h.progress q pub' rest' hother).congr rfl fun c' _ =>
        ⟨hclosed' c', fun pub₁ hpub₁ hq₁ => ?_⟩
      obtain hpub₁ | ⟨-, rfl⟩ := haccepted c' pub₁ hpub₁
      · exact hpub₁
      · exact absurd (hq₁.symm.trans hprogress.publisher) hq

theorem Ordered.step (h : b.Ordered) (capacity : Int) {a : BusStep ι E} (horderly : b.Orderly a) :
    (b.step capacity a).Ordered := by
  cases a with
  | subscribe =>
    unfold Bus.step
    split_ifs with hlocked
    · exact h
    · exact h.subscribe (by simpa using hlocked) horderly
  | publish p env =>
    unfold Bus.step
    dsimp only
    split_ifs with hbusy
    · exact h
    · obtain ⟨hlocked, hidle⟩ := not_or.mp hbusy
      exact h.publish env (by simpa using hlocked) (not_not.mp hidle)
  | send p => exact h.send capacity p
  | close =>
    unfold Bus.step
    split_ifs with hlocked
    · exact h
    · exact h.close
  | closeNext => exact h.closeNext horderly
  | receive c => exact h.receive c

/--
In every interleaving in which channels are closed only when no send to them is still to
come and nobody subscribes after `Close`, the bus keeps its contract in every state.
-/
theorem sound_of_orderly (capacity : Int) (steps : List (BusStep ι E))
    (horderly : Always (step capacity) Orderly ({} : Bus ι E) steps) :
    ∀ steps', steps' <+: steps → (run (step capacity) ({} : Bus ι E) steps').Sound := by
  intro steps' hinitial
  have hordered : (run (step capacity) ({} : Bus ι E) steps').Ordered :=
    invariant_of_prefix (fun b a hb ha => hb.step capacity ha) ordered_fresh horderly hinitial
  exact hordered.toSound

end Steps

/-- A publisher serves two subscribers, and the bus is closed afterwards. -/
def orderlySteps : List (BusStep Unit Nat) :=
  [.subscribe, .subscribe, .publish () 7, .send (), .send (), .publish () 8, .send (), .send (),
    .receive 0, .close, .closeNext, .closeNext, .closeNext, .publish () 9]

theorem sound_orderlySteps :
    Always (step 1) Orderly ({} : Bus Unit Nat) orderlySteps ∧
      (run (step 1) ({} : Bus Unit Nat) orderlySteps).Sound := by
  have horderly : Always (step 1) Orderly ({} : Bus Unit Nat) orderlySteps := by decide
  exact ⟨horderly, sound_of_orderly 1 orderlySteps horderly _ List.prefix_rfl⟩

/-- `Close` comes between the reading of the list and the send. -/
def closedUnderSend : List (BusStep Unit Nat) :=
  [.subscribe, .publish () 7, .close, .closeNext, .closeNext, .send ()]

/-- A channel is subscribed after `Close`. -/
def lateSubscription : List (BusStep Unit Nat) :=
  [.close, .closeNext, .subscribe, .publish () 7, .send ()]

theorem not_sound_closedUnderSend :
    ¬ (run (step 1) ({} : Bus Unit Nat) closedUnderSend).Sound ∧
      ¬ (run (step 1) ({} : Bus Unit Nat) lateSubscription).Sound := by
  constructor
  · intro h
    have hpanics : (run (step 1) ({} : Bus Unit Nat) closedUnderSend).panics ≠ [] := by decide
    exact hpanics h.noPanic
  · intro h
    have hlate : (⟨(), 0, 7, true⟩ : Publication Unit Nat) ∈
        ((run (step 1) ({} : Bus Unit Nat) lateSubscription).channels 0).accepted := by
      decide
    exact absurd (h.noneLate 0 _ hlate) (by decide)

end Bus

end InMemoryBus
end Adapters
end StreamAnalytics
