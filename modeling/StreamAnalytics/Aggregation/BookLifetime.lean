import StreamAnalytics.Shared.BoundedMapLease
import StreamAnalytics.Aggregation.OrderBookInvariant
import StreamAnalytics.Aggregation.UpdateOrderBook

/-!
# The lifetime of an order book

A book is filed once, when it is created, and read by every further request.
Reading it does not extend its time to live, so the book is given up and created
anew when the time to live has elapsed since its creation, however often it is
updated.  Within that time, and with no more books than the map may hold, every
request continues the book that the previous one left behind.
-/

namespace StreamAnalytics
namespace Aggregation

open Validation Runs Prog

/-! ## The books of the heap -/

variable {ref : Nat} {uc' : UpdateOrderBook} {reqs : List UpdateRequest}

variable {a : Allocation} {b : OrderBook}

/-- The last book on the heap with the given identity, and its position. -/
def latest (id : BookID) : List Allocation → Option (Nat × Allocation)
  | [] => none
  | a :: heap =>
    match latest id heap with
    | some (ref, b) => some (ref + 1, b)
    | none => if a.book.id = id then some (0, a) else none

section Latest

variable {id : BookID} {heap : List Allocation}

theorem latest_append_singleton (id : BookID) (heap : List Allocation) (a : Allocation) :
    latest id (heap ++ [a]) =
      if a.book.id = id then some (heap.length, a) else latest id heap := by
  induction heap with
  | nil => rfl
  | cons b heap ih =>
    rw [List.cons_append, latest, ih]
    by_cases h : a.book.id = id
    · rw [if_pos h, if_pos h]
      rfl
    · rw [if_neg h, if_neg h, latest]

theorem getElem_of_latest
    (h : latest id heap = some (ref, a)) : heap[ref]? = some a ∧ a.book.id = id := by
  induction heap generalizing ref with
  | nil => exact nomatch h
  | cons b heap ih =>
    rw [latest] at h
    cases hrest : latest id heap with
    | some p =>
      rw [hrest] at h
      cases h
      exact ih hrest
    | none =>
      rw [hrest] at h
      dsimp only at h
      split_ifs at h with hid
      cases h
      exact ⟨rfl, hid⟩

/-- An update in place that keeps the identity does not change which book is the last. -/
theorem latest_setBook
    (id : BookID) {heap : List Allocation} (ha : heap[ref]? = some a) (hid : b.id = a.book.id) :
    latest id (UpdateOrderBook.setBook heap ref b) =
      (latest id heap).map fun p => (p.1, if p.1 = ref then { p.2 with book := b } else p.2) := by
  unfold UpdateOrderBook.setBook
  induction heap generalizing ref with
  | nil => exact nomatch ha
  | cons a' heap ih =>
    cases ref with
    | zero =>
      cases ha
      rw [List.modify_zero_cons, latest, latest]
      cases latest id heap with
      | some p => simp
      | none =>
        dsimp only
        rw [hid]
        split_ifs <;> simp
    | succ ref =>
      rw [List.modify_succ_cons, latest, latest, ih ha]
      cases latest id heap with
      | some p => simp
      | none =>
        dsimp only [Option.map_none]
        split_ifs <;> simp

/-- It changes no book with another identity. -/
theorem latest_setBook_of_ne {id : BookID} {heap : List Allocation}
    (ha : heap[ref]? = some a) (hid : b.id = a.book.id) (hne : a.book.id ≠ id) :
    latest id (UpdateOrderBook.setBook heap ref b) = latest id heap := by
  rw [latest_setBook id ha hid]
  cases hlatest : latest id heap with
  | none => rfl
  | some p =>
    obtain ⟨hget, hid'⟩ := getElem_of_latest hlatest
    have hother : p.1 ≠ ref := by
      rintro rfl
      rw [ha] at hget
      exact hne (Option.some.inj hget ▸ hid')
    rw [Option.map_some, if_neg hother]

theorem setBook_concat (heap : List Allocation) (a : Allocation) (b : OrderBook) :
    UpdateOrderBook.setBook (heap ++ [a]) heap.length b = heap ++ [{ a with book := b }] := by
  unfold UpdateOrderBook.setBook
  induction heap with
  | nil => rfl
  | cons a' heap ih =>
    rw [List.cons_append, List.length_cons, List.modify_succ_cons, ih, List.cons_append]

end Latest

/-! ## What a request does to the books -/

/-- The identity of the book that a request is for. -/
def UpdateRequest.id (req : UpdateRequest) : BookID := ⟨req.venue, req.instrument⟩

namespace OrderBook

theorem id_step (b : OrderBook) (u : Update) : (step b u).id = b.id := by
  have houtcome := step_outcome b u
  generalize step b u = b' at houtcome ⊢
  cases houtcome with
  | rejected => rfl
  | applied => exact (applyLevels_frame u.bids u.asks u.isSnapshot).1
  | crossed => exact (applyLevels_frame u.bids u.asks u.isSnapshot).1

end OrderBook

namespace UpdateOrderBook

variable {ref : Nat} {id : BookID}

/-- The books, the heap and the settings stay; the clock may be read. -/
structure Frame (uc uc' : UpdateOrderBook) : Prop where
  books : uc'.books = uc.books
  heap : uc'.heap = uc.heap
  maxLevels : uc'.maxLevels = uc.maxLevels
  clock : uc'.clock = uc.clock
  readings : uc.readings ≤ uc'.readings

section Frame

variable {uc uc' : UpdateOrderBook}

theorem Frame.refl (uc : UpdateOrderBook) : Frame uc uc := ⟨rfl, rfl, rfl, rfl, Nat.le_refl _⟩

theorem stable_frame (uc : UpdateOrderBook) :
    Stable (Frame uc) where
  readings := fun _ h => ⟨h.books, h.heap, h.maxLevels, h.clock, Nat.le_succ_of_le h.readings⟩
  publishedAt := fun _ _ h => ⟨h.books, h.heap, h.maxLevels, h.clock, h.readings⟩
  calls := fun _ _ _ h => ⟨h.books, h.heap, h.maxLevels, h.clock, h.readings⟩

theorem preserves_publish (book : OrderBook) : Preserves (Frame uc) (publish book) := by
  unfold publish callPort
  refine Preserves.bind ?_ fun _ => ?_
  · refine Preserves.bind preserves_get fun _ => ?_
    refine Preserves.bind (preserves_modify fun _ h => ?_) fun _ => preserves_check _
    exact ⟨h.books, h.heap, h.maxLevels, h.clock, h.readings⟩
  · exact Preserves.bind ((stable_frame uc).publishSnapshot _ _) fun _ => preserves_pure _

end Frame

/-- The state with another book at a position of the heap. -/
def withBook (uc : UpdateOrderBook) (ref : Nat) (b : OrderBook) : UpdateOrderBook :=
  { uc with heap := setBook uc.heap ref b }

/-- A refused update leaves the book or, if it is crossed, the book without its events. -/
theorem refuse_effect (uc : UpdateOrderBook) (ref : Nat) (b : OrderBook) (p : Problem) :
    ∃ b', (b' = b ∨ b' = b.pulled) ∧ ∀ {I : UpdateOrderBook → Prop},
      (∀ events, Preserves I (publishEvents events)) → I (uc.withBook ref b') →
        I (refuse ref p (uc.withBook ref b)).1 := by
  unfold refuse reportCrossed
  split_ifs
  · refine ⟨b.pulled, .inr rfl, fun hevents h => ?_⟩
    have hpulled : (setBook uc.heap ref b).modify ref (fun a => { a with book := a.book.pulled }) =
        setBook uc.heap ref b.pulled := by
      rw [setBook, List.modify_modify_eq]
      rfl
    rw [withBook, ← hpulled] at h
    exact (Preserves.bind (hevents _) fun _ => preserves_throw p).apply h
  · exact ⟨b, .inl rfl, fun _ h => h⟩

/-- An update changes one book in place and keeps its identity. -/
theorem update_effect (uc : UpdateOrderBook) (req : UpdateRequest) (ha : uc.heap[ref]? = some a) :
    ∃ b, b.id = a.book.id ∧ Frame (uc.withBook ref b) (update req ref uc).1 := by
  have hid := a.book.id_step ⟨req.seq, req.bids, req.asks, req.isSnapshot⟩
  unfold OrderBook.step at hid
  unfold update
  rw [ha]
  dsimp only at hid ⊢
  generalize OrderBook.applyDelta req.seq req.bids req.asks req.isSnapshot a.book = o at hid ⊢
  obtain ⟨b, p | r⟩ := o
  · obtain ⟨b', hb', hrefuse⟩ := refuse_effect uc ref b p
    have hid' : b'.id = b.id := by rcases hb' with rfl | rfl <;> rfl
    exact ⟨b', hid'.trans hid, hrefuse (stable_frame _).publishEvents (Frame.refl _)⟩
  · exact ⟨b, hid, (preserves_publish b).apply (Frame.refl _)⟩

/-- The book that a request would be applied to. -/
def bookFor (uc : UpdateOrderBook) (req : UpdateRequest) : Option Nat :=
  match (do
    let _startedAt ← now
    Prog.check (validate req)
    getOrCreateBook req.venue req.instrument : Action Nat) uc with
  | (_, .ok ref) => some ref
  | (_, .error _) => none

/-- One request of a run. -/
def step (uc : UpdateOrderBook) (req : UpdateRequest) : UpdateOrderBook := (execute req uc).1

/-- The last book created under each identity, with the time of its creation. -/
def stored (uc : UpdateOrderBook) (id : BookID) : Option (Nat × Nat) :=
  (latest id uc.heap).map fun p => (p.1, p.2.createdAt)

/-- The clock reading with which the next request looks up its book. -/
def lookupTime (uc : UpdateOrderBook) : Nat := uc.clock (uc.readings + 1)

/--
The map leases the books of the heap.  Its books are those of `ids`, and it has
room for all of them.
-/
structure Filed (ids : Finset BookID) (uc : UpdateOrderBook) : Prop where
  clock_mono : Monotone uc.clock
  levels : 0 ≤ uc.maxLevels
  leases : uc.books.Leases uc.stored (uc.clock uc.readings)
  used : uc.books.Entries fun id _ => id ∈ ids
  room : ids.card ≤ uc.books.maxSize

/-- What a valid request does, in terms of the map, the heap and the clock. -/
inductive Executed (uc : UpdateOrderBook) (req : UpdateRequest) : UpdateOrderBook → Prop where
  | refused {uc' : UpdateOrderBook}
      (invalid : validate req ≠ none)
      (frame : Frame uc uc') :
      Executed uc req uc'
  | found {uc' : UpdateOrderBook} {ref : Nat} {a : Allocation} {b : OrderBook}
      (valid : validate req = none)
      (hlatest : latest req.id uc.heap = some (ref, a))
      (live : (uc.lookupTime : Int) < a.createdAt + uc.books.ttl)
      (hbook : uc.bookFor req = some ref)
      (hid : b.id = a.book.id)
      (frame : Frame
        { uc with
          books := (uc.books.get uc.lookupTime req.id).2.1
          heap := setBook uc.heap ref b
          readings := uc.readings + 2 } uc') :
      Executed uc req uc'
  | created {uc' : UpdateOrderBook} {b : OrderBook}
      (valid : validate req = none)
      (gone : ∀ ref a, latest req.id uc.heap = some (ref, a) →
        (a.createdAt : Int) + uc.books.ttl ≤ uc.lookupTime)
      (hbook : uc.bookFor req = some uc.heap.length)
      (hid : b.id = req.id)
      (frame : Frame
        { uc with
          books := ((uc.books.get uc.lookupTime req.id).2.1.put (uc.clock (uc.readings + 2)) req.id
            uc.heap.length).1
          heap := uc.heap ++ [⟨b, uc.clock (uc.readings + 2)⟩]
          readings := uc.readings + 3 } uc') :
      Executed uc req uc'

section Executed

variable {ids : Finset BookID} {uc : UpdateOrderBook} {req : UpdateRequest}

theorem createWithMaxLevels_eq_ok
    {maxLevels : Int} (hvalid : validate req = none) (hlevels : 0 ≤ maxLevels) :
    ∃ b, OrderBook.createWithMaxLevels req.venue req.instrument maxLevels = .ok b ∧ b.id = req.id := by
  have hnames : collect [nonEmptyString "venue" req.venue,
      nonEmptyString "instrument" req.instrument] = none := by
    simp only [validate, collect_eq_none] at hvalid ⊢
    intro p hp
    exact hvalid p (by simp only [List.mem_cons] at hp ⊢; tauto)
  unfold OrderBook.createWithMaxLevels OrderBookLimitsPolicy.create OrderBook.create
  rw [hnames, if_neg (Int.not_lt.mpr hlevels)]
  exact ⟨_, rfl, rfl⟩

/-- The value of `Get` tells whether the last book is still leased. -/
theorem Filed.get_value (h : uc.Filed ids) (id : BookID) :
    (uc.books.get uc.lookupTime id).1 =
      ((uc.stored id).filter fun p => decide ((uc.lookupTime : Int) < p.2 + uc.books.ttl)).map
        Prod.fst :=
  h.leases.get_value (h.clock_mono (Nat.le_succ _)) id

theorem getOrCreateBook_found (uc : UpdateOrderBook) {venue instrument : String}
    (hget : (uc.books.get (uc.clock uc.readings) ⟨venue, instrument⟩).1 = some ref) :
    getOrCreateBook venue instrument uc =
      ({ uc with
        books := (uc.books.get (uc.clock uc.readings) ⟨venue, instrument⟩).2.1
        readings := uc.readings + 1 }, .ok ref) := by
  simp only [getOrCreateBook, getBook, now, Prog.act, bind, hget]
  rfl

theorem getOrCreateBook_created (uc : UpdateOrderBook) {venue instrument : String}
    (hget : (uc.books.get (uc.clock uc.readings) ⟨venue, instrument⟩).1 = none)
    (hb : OrderBook.createWithMaxLevels venue instrument uc.maxLevels = .ok b) :
    getOrCreateBook venue instrument uc =
      ({ uc with
        books := ((uc.books.get (uc.clock uc.readings) ⟨venue, instrument⟩).2.1.put
          (uc.clock (uc.readings + 1)) ⟨venue, instrument⟩ uc.heap.length).1
        heap := uc.heap ++ [⟨b, uc.clock (uc.readings + 1)⟩]
        readings := uc.readings + 2 }, .ok uc.heap.length) := by
  simp only [getOrCreateBook, getBook, putBook, now, Prog.act, Prog.get, Prog.lift, bind, hget, hb]

/-- The state in which a request looks up its book. -/
def started (uc : UpdateOrderBook) : UpdateOrderBook := { uc with readings := uc.readings + 1 }

theorem body_of_valid (hvalid : validate req = none)
    (hget : getOrCreateBook req.venue req.instrument uc.started = (uc', .ok ref)) :
    body req uc = update req ref uc' ∧ uc.bookFor req = some ref := by
  constructor
  · unfold body
    rw [hvalid]
    exact bind_apply_ok hget
  · have hrun : (do
        let _startedAt ← now
        Prog.check (validate req)
        getOrCreateBook req.venue req.instrument : Action Nat) uc = (uc', .ok ref) := by
      rw [hvalid]
      exact hget
    rw [bookFor, hrun]

theorem step_frame (h : Frame uc' (body req uc).1) : Frame uc' (uc.step req) := by
  unfold step execute
  generalize body req uc = o at h ⊢
  exact ⟨h.books, h.heap, h.maxLevels, h.clock, Nat.le_succ_of_le h.readings⟩

theorem executed (h : uc.Filed ids) (req : UpdateRequest) : Executed uc req (uc.step req) := by
  by_cases hvalid : validate req = none
  · have hvalue := h.get_value req.id
    cases hget : (uc.books.get uc.lookupTime req.id).1 with
    | some ref =>
      rw [hget] at hvalue
      obtain ⟨⟨ref', t⟩, hfilter, rfl⟩ := Option.map_eq_some_iff.mp hvalue.symm
      obtain ⟨hstored, hlive⟩ := Option.filter_eq_some_iff.mp hfilter
      obtain ⟨⟨ref'', a⟩, hlatest, heq⟩ := Option.map_eq_some_iff.mp hstored
      cases heq
      obtain ⟨hbody, hbook⟩ := body_of_valid hvalid (getOrCreateBook_found uc.started hget)
      have ha := (getElem_of_latest hlatest).1
      obtain ⟨b, hid, hframe⟩ := update_effect
        { uc.started with
          books := (uc.books.get uc.lookupTime req.id).2.1
          readings := uc.readings + 2 } req ha
      refine .found hvalid hlatest (of_decide_eq_true hlive) hbook hid (step_frame ?_)
      rw [hbody]
      exact hframe
    | none =>
      rw [hget] at hvalue
      obtain ⟨b, hb, hid⟩ := createWithMaxLevels_eq_ok hvalid h.levels
      obtain ⟨hbody, hbook⟩ := body_of_valid hvalid (getOrCreateBook_created uc.started hget hb)
      have ha : (uc.heap ++ [⟨b, uc.clock (uc.readings + 2)⟩])[uc.heap.length]? =
          some ⟨b, uc.clock (uc.readings + 2)⟩ := List.getElem?_concat_length
      obtain ⟨b', hid', hframe⟩ := update_effect
        { uc with
          books := ((uc.books.get uc.lookupTime req.id).2.1.put (uc.clock (uc.readings + 2)) req.id
            uc.heap.length).1
          heap := uc.heap ++ [⟨b, uc.clock (uc.readings + 2)⟩]
          readings := uc.readings + 3 } req ha
      have hset : setBook (uc.heap ++ [⟨b, uc.clock (uc.readings + 2)⟩]) uc.heap.length b' =
          uc.heap ++ [⟨b', uc.clock (uc.readings + 2)⟩] :=
        setBook_concat uc.heap _ b'
      refine .created (b := b') hvalid ?_ hbook (hid'.trans hid) (step_frame ?_)
      · intro ref a hlatest
        have hstored : uc.stored req.id = some (ref, a.createdAt) :=
          Option.map_eq_some_iff.mpr ⟨(ref, a), hlatest, rfl⟩
        rw [hstored] at hvalue
        by_contra hlive
        rw [Option.filter_some_pos (by simpa using hlive)] at hvalue
        cases hvalue
      · rw [hbody, ← hset]
        exact hframe
  · refine .refused hvalid (step_frame ?_)
    unfold body
    refine (Preserves.bind (stable_frame uc).now fun _ => ?_).apply (Frame.refl uc)
    obtain ⟨p, hp⟩ := Option.ne_none_iff_exists'.mp hvalid
    rw [hp]
    exact ⟨fun _ hs => .error hs⟩

/-! ### The books stay filed -/

theorem Frame.filed (hframe : Frame uc uc') (h : uc.Filed ids) : uc'.Filed ids := by
  have hstored : uc'.stored = uc.stored := by
    funext id
    rw [stored, stored, hframe.heap]
  refine ⟨hframe.clock ▸ h.clock_mono, hframe.maxLevels ▸ h.levels, ?_, hframe.books ▸ h.used,
    hframe.books ▸ h.room⟩
  rw [hframe.books, hstored, hframe.clock]
  exact h.leases.mono (h.clock_mono hframe.readings)

theorem stored_setBook
    (uc : UpdateOrderBook) (ref : Nat) (ha : uc.heap[ref]? = some a) (hid : b.id = a.book.id) :
    (uc.withBook ref b).stored = uc.stored := by
  funext id
  unfold stored
  rw [withBook, latest_setBook id ha hid, Option.map_map]
  congr 1
  funext p
  dsimp only [Function.comp]
  split_ifs <;> rfl

theorem stored_concat (uc : UpdateOrderBook) {t : Nat} (hid : b.id = id) :
    (fun id' => (latest id' (uc.heap ++ [⟨b, t⟩])).map fun p => (p.1, p.2.createdAt)) =
      Function.update uc.stored id (some (uc.heap.length, t)) := by
  subst hid
  funext id'
  rw [latest_append_singleton]
  by_cases hid' : b.id = id'
  · subst hid'
    rw [if_pos rfl, Function.update_self]
    rfl
  · rw [if_neg hid', Function.update_of_ne (Ne.symm hid')]
    rfl

theorem Filed.step
    (h : uc.Filed ids) (hreq : validate req = none → req.id ∈ ids) : (uc.step req).Filed ids := by
  have hexecuted := executed h req
  generalize uc.step req = uc' at hexecuted ⊢
  have hnow : uc.clock uc.readings ≤ uc.lookupTime := h.clock_mono (Nat.le_succ _)
  have hget := BoundedMap.get_effect h.leases.indexed uc.lookupTime req.id
  have hleases := h.leases.get hnow req.id
  cases hexecuted with
  | refused _ hframe => exact hframe.filed h
  | @found ref a b _ hlatest _ _ hid hframe =>
    refine hframe.filed ⟨h.clock_mono, h.levels, ?_, h.used.get _ _, ?_⟩
    · have hstored := stored_setBook uc ref (getElem_of_latest hlatest).1 hid
      have hlater : uc.lookupTime ≤ uc.clock (uc.readings + 2) := h.clock_mono (Nat.le_succ _)
      exact hstored ▸ hleases.mono hlater
    · exact hget.config.maxSize ▸ h.room
  | @created b hvalid hgone _ hid hframe =>
    have hlater : uc.lookupTime ≤ uc.clock (uc.readings + 2) := h.clock_mono (Nat.le_succ _)
    have hroom : req.id ∉ (uc.books.get uc.lookupTime req.id).2.1.items →
        (uc.books.get uc.lookupTime req.id).2.1.len <
          (uc.books.get uc.lookupTime req.id).2.1.maxSize := by
      intro hnew
      rw [hget.config.maxSize]
      exact Nat.lt_of_lt_of_le ((h.used.get _ _).len_lt_card hnew (hreq hvalid)) h.room
    have hput := hleases.put hlater hroom uc.heap.length
    have hputEffect := BoundedMap.put_effect hleases.indexed (uc.clock (uc.readings + 2)) req.id
      uc.heap.length
    refine hframe.filed ⟨h.clock_mono, h.levels, ?_, (h.used.get _ _).put _ (hreq hvalid), ?_⟩
    · have hstored := stored_concat uc hid (t := uc.clock (uc.readings + 2))
      have hleased := hput.mono (h.clock_mono (Nat.le_succ (uc.readings + 2)))
      rw [← hstored] at hleased
      exact hleased
    · exact hputEffect.config.maxSize ▸ hget.config.maxSize ▸ h.room

theorem latest_step_self (h : uc.Filed ids) (hvalid : validate req = none) :
    ∃ ref a, uc.bookFor req = some ref ∧ latest req.id (uc.step req).heap = some (ref, a) := by
  have hexecuted := executed h req
  generalize uc.step req = uc' at hexecuted ⊢
  cases hexecuted with
  | refused hinvalid _ => exact absurd hvalid hinvalid
  | @found ref a b _ hlatest _ hbook hid hframe =>
    refine ⟨ref, { a with book := b }, hbook, ?_⟩
    rw [hframe.heap, latest_setBook _ (getElem_of_latest hlatest).1 hid, hlatest, Option.map_some,
      if_pos rfl]
  | @created b _ _ hbook hid hframe =>
    refine ⟨uc.heap.length, ⟨b, uc.clock (uc.readings + 2)⟩, hbook, ?_⟩
    rw [hframe.heap, latest_append_singleton, if_pos hid]

/-- A request does not touch the books of other identities. -/
theorem latest_step_other (h : uc.Filed ids) (hother : validate req = none → req.id ≠ id) :
    latest id (uc.step req).heap = latest id uc.heap := by
  have hexecuted := executed h req
  generalize uc.step req = uc' at hexecuted ⊢
  cases hexecuted with
  | refused _ hframe => rw [hframe.heap]
  | @found ref a b hvalid hlatest _ _ hid hframe =>
    obtain ⟨hget, hid'⟩ := getElem_of_latest hlatest
    rw [hframe.heap, latest_setBook_of_ne hget hid (hid' ▸ hother hvalid)]
  | @created b hvalid _ _ hid hframe =>
    rw [hframe.heap, latest_append_singleton, if_neg (hid ▸ hother hvalid)]

/-- The last book of a request's identity, if there is one, has not outlived its lease. -/
def Fresh (uc : UpdateOrderBook) (req : UpdateRequest) : Prop :=
  validate req = none → ∀ p ∈ latest req.id uc.heap,
    (uc.lookupTime : Int) < p.2.createdAt + uc.books.ttl

instance : DecidableRel Fresh := fun _ _ => inferInstanceAs (Decidable (_ → _))

/-- A request is applied to the last book of its identity exactly while that is fresh. -/
theorem bookFor_eq_latest_iff (h : uc.Filed ids) (hvalid : validate req = none)
    (hlatest : latest req.id uc.heap = some (ref, a)) :
    uc.bookFor req = some ref ↔ (uc.lookupTime : Int) < a.createdAt + uc.books.ttl := by
  have hexecuted := executed h req
  generalize uc.step req = uc' at hexecuted
  cases hexecuted with
  | refused hinvalid _ => exact absurd hvalid hinvalid
  | found _ hlatest' hlive hbook _ _ =>
    rw [hlatest] at hlatest'
    cases hlatest'
    exact iff_of_true hbook hlive
  | created _ hgone hbook _ _ =>
    refine iff_of_false ?_ (Int.not_lt.mpr (hgone ref a hlatest))
    rw [hbook, Option.some.injEq]
    have hlt : ref < uc.heap.length :=
      (List.getElem?_eq_some_iff.mp (getElem_of_latest hlatest).1).1
    omega

end Executed

/-! ## Runs -/

/--
Every request of a run is applied to the book of the previous request with its
identity, in the state in which that request left it.
-/
def Continues (uc : UpdateOrderBook) (reqs : List UpdateRequest) : Prop :=
  ∀ past first between next,
    past ++ first :: between ++ [next] <+: reqs →
    validate first = none → validate next = none → next.id = first.id →
    (∀ req ∈ between, validate req = none → req.id ≠ first.id) →
    let before := run step uc past
    let after := run step uc (past ++ first :: between)
    after.bookFor next = before.bookFor first ∧
      ∀ ref, before.bookFor first = some ref →
        after.heap[ref]? = (before.step first).heap[ref]?

/-- The identities of the books that a run uses. -/
def usedBooks (reqs : List UpdateRequest) : Finset BookID :=
  ((reqs.filter fun req => validate req = none).map UpdateRequest.id).toFinset

section Runs

variable {ids : Finset BookID} {uc : UpdateOrderBook}

theorem Filed.run (h : uc.Filed ids) (hreqs : ∀ req ∈ reqs, validate req = none → req.id ∈ ids) :
    (run UpdateOrderBook.step uc reqs).Filed ids := by
  induction reqs generalizing uc with
  | nil => exact h
  | cons req reqs ih =>
    obtain ⟨hreq, hreqs'⟩ := List.forall_mem_cons.mp hreqs
    exact ih (h.step hreq) hreqs'

theorem latest_run_other
    (h : uc.Filed ids) (hreqs : ∀ req ∈ reqs, validate req = none → req.id ∈ ids)
    (hother : ∀ req ∈ reqs, validate req = none → req.id ≠ id) :
    latest id (run step uc reqs).heap = latest id uc.heap := by
  induction reqs generalizing uc with
  | nil => rfl
  | cons req reqs ih =>
    obtain ⟨hreq, hreqs'⟩ := List.forall_mem_cons.mp hreqs
    obtain ⟨hne, hother'⟩ := List.forall_mem_cons.mp hother
    rw [run_cons, ih (h.step hreq) hreqs' hother', latest_step_other h hne]

/-- A book on the heap was used by a last request. -/
theorem exists_last_request (h : uc.Filed ids) (hempty : uc.heap = [])
    (hreqs : ∀ req ∈ reqs, validate req = none → req.id ∈ ids)
    (hlatest : latest id (run step uc reqs).heap ≠ none) :
    ∃ past first between, reqs = past ++ first :: between ∧ validate first = none ∧
      first.id = id ∧ ∀ req ∈ between, validate req = none → req.id ≠ id := by
  induction reqs using List.reverseRecOn with
  | nil => exact absurd (by rw [run_nil, hempty]; rfl) hlatest
  | append_singleton reqs req ih =>
    have hreqs' : ∀ req ∈ reqs, validate req = none → req.id ∈ ids :=
      fun r hr => hreqs r (List.mem_append_left _ hr)
    by_cases hreq : validate req = none ∧ req.id = id
    · exact ⟨reqs, req, [], rfl, hreq.1, hreq.2, fun _ hr => nomatch hr⟩
    · have hother : validate req = none → req.id ≠ id := fun hvalid hid => hreq ⟨hvalid, hid⟩
      rw [run_append, run_cons, run_nil,
        latest_step_other (h.run hreqs') hother] at hlatest
      obtain ⟨past, first, between, rfl, hvalid, hid, hbetween⟩ := ih hreqs' hlatest
      refine ⟨past, first, between ++ [req], by simp, hvalid, hid, fun r hr => ?_⟩
      rcases List.mem_append.mp hr with hr | hr
      · exact hbetween r hr
      · rw [List.mem_singleton.mp hr]
        exact hother

/-- A continued request is one whose book is still fresh. -/
theorem continued_iff (h : uc.Filed ids) {first next : UpdateRequest} {between : List UpdateRequest}
    (hreqs : ∀ req ∈ first :: between, validate req = none → req.id ∈ ids)
    (hfirst : validate first = none) (hnext : validate next = none) (hid : next.id = first.id)
    (hbetween : ∀ req ∈ between, validate req = none → req.id ≠ first.id) :
    ((run step uc (first :: between)).bookFor next = uc.bookFor first ∧
      ∀ ref, uc.bookFor first = some ref →
        (run step uc (first :: between)).heap[ref]? = (uc.step first).heap[ref]?) ↔
      (run step uc (first :: between)).Fresh next := by
  obtain ⟨hreq, hreqs'⟩ := List.forall_mem_cons.mp hreqs
  obtain ⟨ref, a, hbook, hlatest⟩ := latest_step_self h hfirst
  have hstep := h.step hreq
  have hafter : latest next.id (run step uc (first :: between)).heap = some (ref, a) := by
    rw [hid, run_cons, latest_run_other hstep hreqs' hbetween, hlatest]
  have hiff := bookFor_eq_latest_iff (h.run hreqs) hnext hafter
  rw [hbook, hiff]
  constructor
  · rintro ⟨hlive, -⟩ _ p hlatest'
    rw [hafter] at hlatest'
    cases hlatest'
    exact hlive
  · intro hfresh
    refine ⟨hfresh hnext (ref, a) hafter, ?_⟩
    rintro _ ⟨⟩
    rw [(getElem_of_latest hafter).1, (getElem_of_latest hlatest).1]

end Runs

theorem filed_create (cfg : UpdateConfig) {clock : Nat → Nat} (hclock : Monotone clock)
    (answers : Nat → Option Problem) {ids : Finset BookID}
    (hids : (ids.card : Int) ≤ orDefault cfg.maxBooks 10000) :
    (create cfg clock answers).Filed ids where
  clock_mono := hclock
  levels := by
    change 0 ≤ orDefault cfg.maxLevels 1000
    unfold orDefault
    split_ifs <;> omega
  leases :=
    { indexed := (BoundedMap.configured_tracks (orDefault cfg.maxBooks 10000)
        (orDefault cfg.bookTTL 3600000000000) (clock 0) true 1024 1000000000).indexed
      ttl_pos := by
        change 0 < orDefault cfg.bookTTL 3600000000000
        unfold orDefault
        split_ifs <;> omega
      entry := fun _ _ h => nomatch h
      kept := fun _ _ _ h => nomatch h }
  used := ⟨(BoundedMap.configured_tracks (orDefault cfg.maxBooks 10000)
    (orDefault cfg.bookTTL 3600000000000) (clock 0) true 1024 1000000000).indexed,
    fun _ _ h => nomatch h⟩
  room := by
    change ids.card ≤ if orDefault cfg.maxBooks 10000 ≤ 0 then 1 else (orDefault cfg.maxBooks 10000).toNat
    split_ifs <;> omega

/--
With no more books than the map may hold, every request continues the book of its
predecessor exactly when every request looks up its book before the time to live
has elapsed since the creation of that book.
-/
theorem book_continues_iff (cfg : UpdateConfig) {clock : Nat → Nat} (hclock : Monotone clock)
    (answers : Nat → Option Problem) (reqs : List UpdateRequest)
    (hbooks : ((usedBooks reqs).card : Int) ≤ orDefault cfg.maxBooks 10000) :
    Continues (create cfg clock answers) reqs ↔
      Always step Fresh (create cfg clock answers) reqs := by
  have hfiled := filed_create cfg hclock answers hbooks
  have hused : ∀ req ∈ reqs, validate req = none → req.id ∈ usedBooks reqs := by
    intro req hreq hvalid
    simp only [usedBooks, List.mem_toFinset, List.mem_map, List.mem_filter, decide_eq_true_eq]
    exact ⟨req, ⟨hreq, hvalid⟩, rfl⟩
  rw [ always_iff_forall_prefix]
  constructor
  · intro hcontinues past next hinitial
    by_cases hlatest : latest next.id (run step (create cfg clock answers) past).heap = none
    · intro _ p hsome
      rw [hlatest] at hsome
      cases hsome
    · by_cases hnext : validate next = none
      · have hpast : ∀ req ∈ past, validate req = none → req.id ∈ usedBooks reqs := fun req hreq =>
          hused req (hinitial.subset (List.mem_append_left _ hreq))
        obtain ⟨past', first, between, rfl, hfirst, hid, hbetween⟩ :=
          exists_last_request hfiled rfl hpast hlatest
        obtain ⟨hpast', hrest⟩ := List.forall_mem_append.mp hpast
        have hiff := continued_iff (hfiled.run hpast') hrest hfirst hnext hid.symm
          (fun req hreq hvalid => hid ▸ hbetween req hreq hvalid)
        rw [← run_append] at hiff
        exact hiff.mp (hcontinues past' first between next hinitial hfirst hnext hid.symm
          (fun req hreq hvalid => hid ▸ hbetween req hreq hvalid))
      · exact fun hvalid => absurd hvalid hnext
  · intro hfresh past first between next hinitial hfirst hnext hid hbetween
    have hall : ∀ req ∈ past ++ first :: between, validate req = none → req.id ∈ usedBooks reqs :=
      fun req hreq => hused req (hinitial.subset (List.mem_append_left _ hreq))
    obtain ⟨hpast, hrest⟩ := List.forall_mem_append.mp hall
    have hiff := continued_iff (hfiled.run hpast) hrest hfirst hnext hid hbetween
    rw [← run_append] at hiff
    exact hiff.mpr (hfresh (past ++ first :: between) next hinitial)

/-- A delta without levels for one book. -/
def sampleDelta (seq : Int) : UpdateRequest := ⟨"binance", "BTCUSDT", seq, [], [], false⟩

/-- The default settings. -/
def defaultConfig : UpdateConfig := ⟨0, 0, 0, 0, 0⟩

/-- A clock that advances by ten minutes per reading. -/
def tenMinutes (n : Nat) : Nat := 600000000000 * n

theorem two_deltas_continue :
    Continues (create defaultConfig tenMinutes fun _ => none) [sampleDelta 1, sampleDelta 2] :=
  (book_continues_iff defaultConfig (fun _ _ h => Nat.mul_le_mul_left _ h) _ _
    (by decide +kernel)).mpr ⟨by decide +kernel, by decide +kernel, trivial⟩

/-- The times at which the requests of a run start. -/
def startTimes (uc : UpdateOrderBook) (reqs : List UpdateRequest) : List Nat :=
  (steps step uc reqs).map fun p => p.1.clock p.1.readings

/--
Three deltas for one book start fifty and forty minutes apart, within the time to
live of an hour, but the third one looks up the book eighty minutes after its
creation and is applied to a new one.
-/
theorem updated_book_expires :
    (startTimes (create defaultConfig tenMinutes fun _ => none)
        [sampleDelta 1, sampleDelta 2, sampleDelta 3]).IsChain
      (fun t t' => (t' : Int) < t + (create defaultConfig tenMinutes fun _ => none).books.ttl) ∧
    ¬ Continues (create defaultConfig tenMinutes fun _ => none)
        [sampleDelta 1, sampleDelta 2, sampleDelta 3] := by
  refine ⟨by decide +kernel, fun h => ?_⟩
  have hsame := (h [sampleDelta 1] (sampleDelta 2) [] (sampleDelta 3) (List.prefix_rfl)
    (by decide +kernel) (by decide +kernel) rfl (fun _ hreq => nomatch hreq)).1
  revert hsame
  decide +kernel

end UpdateOrderBook

end Aggregation
end StreamAnalytics
