import StreamAnalytics.Lib.Runs
import StreamAnalytics.Marketdata.InstrumentStream

/-!
# The history of an instrument stream

A run of `BuildEnvelope` calls on one stream, with the keys and sequence numbers of the
accepted events.  The dedup cache holds the hashes of the keys of the last accepted
events, as many as the window has room for.

The stream takes a last sequence number of zero for "no event yet", but zero is also the
number of a valid event.  `calls_faithful_iff` says that this is the only way in which the
stream can fail to number and deduplicate its events.
-/

namespace StreamAnalytics
namespace Marketdata
namespace InstrumentStream

open Runs

/-! ## The dedup cache -/

variable {s s' : InstrumentStream}

/-- The cache holds the last of the hashes, each once. -/
structure Cached (s : InstrumentStream) (hashes : List UInt64) : Prop where
  order : s.seenOrd = hashes.rtake s.dedupWindow.toNat
  nodup : s.seenOrd.Nodup
  mem : ∀ h, h ∈ s.seen ↔ h ∈ s.seenOrd

/-- The last `n` elements are the last `n + 1` elements without the first of these, if any. -/
theorem rtake_eq {α : Type} (l : List α) (n : Nat) :
    l.rtake n =
      if n + 1 ≤ (l.rtake (n + 1)).length then (l.rtake (n + 1)).tail else l.rtake (n + 1) := by
  unfold List.rtake
  rw [List.length_drop, List.tail_drop]
  split_ifs
  · congr 1
    omega
  · congr 1
    omega

theorem seenOrd_recordSeen (s : InstrumentStream) (hash : UInt64) :
    (s.recordSeen hash).seenOrd =
      (if s.dedupWindow ≤ s.seenOrd.length then s.seenOrd.tail else s.seenOrd) ++ [hash] := by
  unfold recordSeen
  split_ifs
  · cases hord : s.seenOrd with
    | nil =>
      show s.seenOrd ++ [hash] = [] ++ [hash]
      rw [hord]
    | cons oldest rest => rfl
  · rfl

theorem mem_recordSeen
    {hash h : UInt64} (hnodup : s.seenOrd.Nodup) (hmem : ∀ h, h ∈ s.seen ↔ h ∈ s.seenOrd) :
    h ∈ (s.recordSeen hash).seen ↔ h ∈ (s.recordSeen hash).seenOrd := by
  rw [seenOrd_recordSeen, List.mem_append, List.mem_singleton]
  unfold recordSeen
  dsimp only
  rw [AList.mem_insert, or_comm]
  refine or_congr_left ?_
  split_ifs
  · cases hord : s.seenOrd with
    | nil =>
      rw [hmem, hord]
      rfl
    | cons oldest rest =>
      rw [hord, List.nodup_cons] at hnodup
      rw [List.tail_cons]
      show h ∈ s.seen.erase oldest ↔ h ∈ rest
      rw [AList.mem_erase, hmem, hord, List.mem_cons]
      constructor
      · rintro ⟨hne, heq | hrest⟩
        · exact absurd heq hne
        · exact hrest
      · intro hrest
        exact ⟨fun heq => hnodup.1 (heq ▸ hrest), .inr hrest⟩
  · exact hmem h

/-- A new hash displaces the oldest one of a full window. -/
theorem cached_recordSeen {hashes : List UInt64} {hash : UInt64}
    (h : s.Cached hashes) (hwindow : 0 < s.dedupWindow) (hnew : hash ∉ s.seen) :
    (s.recordSeen hash).Cached (hashes ++ [hash]) where
  order := by
    obtain ⟨n, hn⟩ : ∃ n, s.dedupWindow.toNat = n + 1 := ⟨s.dedupWindow.toNat - 1, by omega⟩
    have hfull : s.dedupWindow ≤ s.seenOrd.length ↔ n + 1 ≤ s.seenOrd.length := by omega
    rw [seenOrd_recordSeen, recordSeen_dedupWindow, hn, List.rtake_concat_succ, rtake_eq, ← hn,
      ← h.order, hn]
    simp only [hfull]
  nodup := by
    rw [seenOrd_recordSeen]
    have hout : hash ∉ s.seenOrd := fun hin => hnew ((h.mem hash).mpr hin)
    have hsub : List.Sublist
        (if s.dedupWindow ≤ s.seenOrd.length then s.seenOrd.tail else s.seenOrd) s.seenOrd := by
      split_ifs
      · exact List.tail_sublist _
      · exact List.Sublist.refl _
    refine List.nodup_append.mpr ⟨h.nodup.sublist hsub, List.nodup_singleton hash, ?_⟩
    rintro x hx y hy rfl
    exact hout (List.mem_singleton.mp hy ▸ hsub.subset hx)
  mem _ := mem_recordSeen h.nodup h.mem

/-! ## The exits of a call -/

/-- The envelope of a draft. -/
def draftEnvelope (s : InstrumentStream) (d : EventDraft) : Envelope :=
  { type := d.eventType
    version := d.version
    venue := s.id.venue
    instrument := s.id.instrument
    tsExchange := d.tsExchange
    tsIngest := d.tsIngest
    seq := d.seq
    idempotencyKey := (s.keySource d).key
    contentType := d.contentType
    metadata := ∅
    payload := d.payload }

/-- The stream with the counter increased that belongs to a problem. -/
def countProblem (s : InstrumentStream) (p : Problem) : InstrumentStream :=
  match p.code with
  | .outOfOrder => { s with outOfOrderCount := s.outOfOrderCount + 1 }
  | .duplicate => { s with duplicateCount := s.duplicateCount + 1 }
  | _ => s

/-- What `BuildEnvelope` does with a stream and a draft. -/
inductive Exit (s : InstrumentStream) (d : EventDraft) :
    InstrumentStream × Except Problem Envelope → Prop where
  | outOfOrder
      {s' : InstrumentStream} {p : Problem}
      (horder : d.seq ≤ s.lastSeq ∧ 0 < s.lastSeq) (hcode : p.code = .outOfOrder)
      (hstate : s' = s.countProblem p) :
      Exit s d (s', .error p)
  | duplicate
      {s' : InstrumentStream} {p : Problem}
      (horder : ¬ (d.seq ≤ s.lastSeq ∧ 0 < s.lastSeq)) (hseen : (s.keySource d).hash ∈ s.seen)
      (hcode : p.code = .duplicate) (hstate : s' = s.countProblem p) :
      Exit s d (s', .error p)
  | invalid
      {s' : InstrumentStream} {p : Problem}
      (horder : ¬ (d.seq ≤ s.lastSeq ∧ 0 < s.lastSeq)) (hseen : (s.keySource d).hash ∉ s.seen)
      (hvalid : (s.draftEnvelope d).validate = .error p) (hcode : p.code = .validationFailed)
      (hstate : s' = s.countProblem p) :
      Exit s d (s', .error p)
  | accepted
      {env : Envelope}
      (horder : ¬ (d.seq ≤ s.lastSeq ∧ 0 < s.lastSeq)) (hseen : (s.keySource d).hash ∉ s.seen)
      (hvalid : (s.draftEnvelope d).validate = .ok env) :
      Exit s d ({ s with lastSeq := d.seq }.recordSeen (s.keySource d).hash, .ok env)

theorem exit (s : InstrumentStream) (d : EventDraft) : Exit s d (buildEnvelope d s) := by
  unfold buildEnvelope
  by_cases horder : d.seq ≤ s.lastSeq ∧ 0 < s.lastSeq
  · rw [if_pos horder]
    exact .outOfOrder horder rfl rfl
  · rw [if_neg horder]
    by_cases hseen : (s.keySource d).hash ∈ s.seen
    · rw [if_pos hseen]
      exact .duplicate horder hseen rfl rfl
    · rw [if_neg hseen]
      cases hvalid : (s.draftEnvelope d).validate with
      | error p =>
        have hcode := Envelope.code_of_validate hvalid
        have hsame : s.countProblem p = s := by
          unfold countProblem
          rw [hcode]
        have hdraft := hvalid
        unfold draftEnvelope at hdraft
        rw [hdraft]
        exact .invalid horder hseen hvalid hcode hsame.symm
      | ok env =>
        have hdraft := hvalid
        unfold draftEnvelope at hdraft
        rw [hdraft]
        exact .accepted horder hseen hvalid

/-! ## Runs -/

/-- A stream with the keys and the sequence numbers of the accepted events. -/
structure History where
  stream : InstrumentStream
  accepted : List (KeySource × Int)

namespace History

/-- A call of `BuildEnvelope`. -/
def step (h : History) (d : EventDraft) : History :=
  match buildEnvelope d h.stream with
  | (s, .ok _) => ⟨s, h.accepted ++ [(h.stream.keySource d, d.seq)]⟩
  | (s, .error _) => ⟨s, h.accepted⟩

/-- The keys of the accepted events. -/
def keys (h : History) : List KeySource := h.accepted.map Prod.fst

/-- The keys of the last accepted events, as many as the window has room for. -/
def recent (h : History) : List KeySource := h.keys.rtake h.stream.dedupWindow.toNat

/-- The number is greater than those of the accepted events. -/
def Fresh (h : History) (d : EventDraft) : Prop := ∀ e ∈ h.accepted, e.2 < d.seq

instance (h : History) (d : EventDraft) : Decidable (h.Fresh d) :=
  inferInstanceAs (Decidable (∀ e ∈ h.accepted, e.2 < d.seq))

/-- The numbers of the accepted events increase. -/
def Increasing (h : History) : Prop := (h.accepted.map Prod.snd).Pairwise (· < ·)

instance (h : History) : Decidable h.Increasing := inferInstanceAs (Decidable (List.Pairwise _ _))

/-- A call numbers and deduplicates its event as it should. -/
structure Faithful (h : History) (d : EventDraft) : Prop where
  increasing : (h.step d).Increasing
  cached : (h.step d).stream.Cached ((h.step d).keys.map KeySource.hash)
  duplicate : (∃ p, (buildEnvelope d h.stream).2 = .error p ∧ p.code = .duplicate) ↔
    h.Fresh d ∧ h.stream.keySource d ∈ h.recent
  rejected : ∀ p, (buildEnvelope d h.stream).2 = .error p →
    (buildEnvelope d h.stream).1 = h.stream.countProblem p

/--
A number that is not fresh is compared with a positive number, or the call fails
otherwise: its key is new and its envelope is not valid.
-/
def Checked (h : History) (d : EventDraft) : Prop :=
  h.Fresh d ∨ 0 < h.stream.lastSeq ∨
    h.stream.keySource d ∉ h.recent ∧ ¬ (h.stream.draftEnvelope d).validate.isOk

instance (h : History) (d : EventDraft) : Decidable (h.Checked d) :=
  inferInstanceAs (Decidable (_ ∨ _ ∨ _ ∧ _))

/-- A history whose keys are among `known`. -/
structure Live (s : InstrumentStream) (known : List KeySource) (h : History) : Prop where
  id_eq : h.stream.id = s.id
  window_pos : 0 < h.stream.dedupWindow
  cached : h.stream.Cached (h.keys.map KeySource.hash)
  increasing : h.Increasing
  le_last : ∀ e ∈ h.accepted, e.2 ≤ h.stream.lastSeq
  last_mem : 0 < h.stream.lastSeq → ∃ e ∈ h.accepted, e.2 = h.stream.lastSeq
  keys_known : ∀ k ∈ h.keys, k ∈ known

section Steps

variable {s : InstrumentStream} {known : List KeySource} {h : History} {d : EventDraft}

theorem keySource_eq (hid : s.id = s'.id) (d : EventDraft) : s.keySource d = s'.keySource d := by
  unfold keySource
  rw [hid]

theorem seenOrd_eq (hlive : h.Live s known) : h.stream.seenOrd = h.recent.map KeySource.hash := by
  rw [hlive.cached.order]
  unfold recent List.rtake
  rw [List.length_map, List.map_drop]

theorem hash_mem_seen_iff (hlive : h.Live s known) (hknown : s.keySource d ∈ known)
    (hinj : ∀ k ∈ known, ∀ k' ∈ known, k.hash = k'.hash → k = k') :
    (h.stream.keySource d).hash ∈ h.stream.seen ↔ h.stream.keySource d ∈ h.recent := by
  rw [hlive.cached.mem, seenOrd_eq hlive, List.mem_map]
  constructor
  · rintro ⟨k, hk, hhash⟩
    have hkeys : k ∈ h.keys := List.mem_of_mem_drop hk
    have hsame : k = h.stream.keySource d :=
      hinj k (hlive.keys_known k hkeys) _ (keySource_eq hlive.id_eq d ▸ hknown) hhash
    exact hsame ▸ hk
  · intro hk
    exact ⟨_, hk, rfl⟩

theorem fresh_of_inOrder (hlive : h.Live s known)
    (horder : ¬ (d.seq ≤ h.stream.lastSeq ∧ 0 < h.stream.lastSeq)) (hpos : 0 < h.stream.lastSeq) :
    h.Fresh d := by
  intro e he
  have := hlive.le_last e he
  omega

theorem not_fresh_of_outOfOrder
    (hlive : h.Live s known) (horder : d.seq ≤ h.stream.lastSeq ∧ 0 < h.stream.lastSeq) :
    ¬ h.Fresh d := by
  intro hfresh
  obtain ⟨e, he, hlast⟩ := hlive.last_mem horder.2
  have := hfresh e he
  omega

theorem increasing_concat_iff
    {k : KeySource} {stream : InstrumentStream} (hincreasing : h.Increasing) :
    Increasing ⟨stream, h.accepted ++ [(k, d.seq)]⟩ ↔ h.Fresh d := by
  unfold Increasing Fresh at *
  simp only [List.map_append, List.map_cons, List.map_nil, List.pairwise_append, hincreasing,
    List.pairwise_singleton, true_and, List.mem_map, List.mem_singleton, forall_eq]
  constructor
  · intro hlt e he
    exact hlt e.2 ⟨e, he, rfl⟩
  · rintro hlt _ ⟨e, he, rfl⟩
    exact hlt e he

/-- The history after an accepted event. -/
theorem cached_accept
    (hlive : h.Live s known) (hseen : (h.stream.keySource d).hash ∉ h.stream.seen) :
    ({ h.stream with lastSeq := d.seq }.recordSeen (h.stream.keySource d).hash).Cached
      ((h.keys ++ [h.stream.keySource d]).map KeySource.hash) := by
  rw [List.map_append]
  exact cached_recordSeen (s := { h.stream with lastSeq := d.seq })
    ⟨hlive.cached.order, hlive.cached.nodup, hlive.cached.mem⟩ hlive.window_pos hseen

/-- A rejected call changes a counter only. -/
theorem Live.rejected (hlive : h.Live s known) (p : Problem) :
    Live s known ⟨h.stream.countProblem p, h.accepted⟩ := by
  unfold countProblem
  split <;> exact
    { hlive with cached := ⟨hlive.cached.order, hlive.cached.nodup, hlive.cached.mem⟩ }

theorem Live.accepted (hlive : h.Live s known) (hknown : s.keySource d ∈ known) (hfresh : h.Fresh d)
    (hseen : (h.stream.keySource d).hash ∉ h.stream.seen) :
    Live s known
      ⟨{ h.stream with lastSeq := d.seq }.recordSeen (h.stream.keySource d).hash,
        h.accepted ++ [(h.stream.keySource d, d.seq)]⟩ where
  id_eq := (recordSeen_id _ _).trans hlive.id_eq
  window_pos := by
    rw [recordSeen_dedupWindow]
    exact hlive.window_pos
  cached := by
    unfold keys
    rw [List.map_append]
    exact cached_accept hlive hseen
  increasing := (increasing_concat_iff hlive.increasing).mpr hfresh
  le_last e he := by
    rw [recordSeen_lastSeq]
    rcases List.mem_append.mp he with he | he
    · exact (hfresh e he).le
    · rw [List.mem_singleton.mp he]
  last_mem _ := by
    rw [recordSeen_lastSeq]
    exact ⟨_, List.mem_append_right _ List.mem_cons_self, rfl⟩
  keys_known k hk := by
    unfold keys at hk
    rw [List.map_append] at hk
    rcases List.mem_append.mp hk with hk | hk
    · exact hlive.keys_known k hk
    · rw [List.mem_singleton.mp hk]
      exact keySource_eq hlive.id_eq d ▸ hknown

theorem step_of_error {p : Problem} (hbuild : buildEnvelope d h.stream = (s', .error p)) :
    h.step d = ⟨s', h.accepted⟩ := by
  unfold step
  rw [hbuild]

theorem step_of_ok {env : Envelope} (hbuild : buildEnvelope d h.stream = (s', .ok env)) :
    h.step d = ⟨s', h.accepted ++ [(h.stream.keySource d, d.seq)]⟩ := by
  unfold step
  rw [hbuild]

/-- A rejected call is faithful if it is reported as a duplicate exactly when it is one. -/
theorem faithful_of_error_iff {p : Problem} (hlive : h.Live s known)
    (hbuild : buildEnvelope d h.stream = (h.stream.countProblem p, .error p)) :
    h.Faithful d ↔ (p.code = .duplicate ↔ h.Fresh d ∧ h.stream.keySource d ∈ h.recent) := by
  have hafter := hlive.rejected p
  have hduplicate : (∃ q, (buildEnvelope d h.stream).2 = .error q ∧ q.code = .duplicate) ↔
      p.code = .duplicate := by
    rw [hbuild]
    constructor
    · rintro ⟨q, hq, hcode⟩
      cases hq
      exact hcode
    · intro hcode
      exact ⟨p, rfl, hcode⟩
  rw [← hduplicate]
  refine ⟨fun hfaithful => hfaithful.duplicate, fun hdup => ?_⟩
  have hstep := step_of_error hbuild
  refine ⟨hstep ▸ hafter.increasing, hstep ▸ hafter.cached, hdup, fun q hq => ?_⟩
  rw [hbuild] at hq ⊢
  cases hq
  rfl

theorem faithful_of_ok_iff
    {env : Envelope} (hlive : h.Live s known) (hseen : h.stream.keySource d ∉ h.recent)
    (hcached : s'.Cached ((h.keys ++ [h.stream.keySource d]).map KeySource.hash))
    (hbuild : buildEnvelope d h.stream = (s', .ok env)) : h.Faithful d ↔ h.Fresh d := by
  have hstep := step_of_ok hbuild
  have hiff : (h.step d).Increasing ↔ h.Fresh d := by
    rw [hstep]
    exact increasing_concat_iff hlive.increasing
  rw [← hiff]
  refine ⟨fun hfaithful => hfaithful.increasing, fun hincreasing => ⟨hincreasing, ?_, ?_, ?_⟩⟩
  · rw [hstep]
    unfold keys
    rw [List.map_append]
    exact hcached
  · rw [hbuild]
    refine iff_of_false ?_ fun hdup => hseen hdup.2
    rintro ⟨p, hp, -⟩
    cases hp
  · intro p hp
    rw [hbuild] at hp
    cases hp

/-- A call is faithful exactly when it is checked, and keeps the history live then. -/
theorem faithful_iff (hlive : h.Live s known) (hknown : s.keySource d ∈ known)
    (hinj : ∀ k ∈ known, ∀ k' ∈ known, k.hash = k'.hash → k = k') :
    (h.Faithful d ↔ h.Checked d) ∧ (h.Checked d → (h.step d).Live s known) := by
  have hseen_iff := hash_mem_seen_iff hlive hknown hinj
  have hexit := exit h.stream d
  generalize hbuild : buildEnvelope d h.stream = out at hexit
  cases hexit with
  | outOfOrder horder hcode hstate =>
    subst hstate
    refine ⟨?_, fun _ => step_of_error hbuild ▸ hlive.rejected _⟩
    rw [faithful_of_error_iff hlive hbuild, hcode]
    refine iff_of_true (iff_of_false nofun fun hdup => ?_) (.inr (.inl horder.2))
    exact not_fresh_of_outOfOrder hlive horder hdup.1
  | duplicate horder hseen hcode hstate =>
    subst hstate
    refine ⟨?_, fun _ => step_of_error hbuild ▸ hlive.rejected _⟩
    rw [faithful_of_error_iff hlive hbuild, hcode]
    have hrecent := hseen_iff.mp hseen
    constructor
    · intro hdup
      exact .inl (hdup.mp rfl).1
    · rintro (hfresh | hpos | ⟨hnew, -⟩)
      · exact iff_of_true rfl ⟨hfresh, hrecent⟩
      · exact iff_of_true rfl ⟨fresh_of_inOrder hlive horder hpos, hrecent⟩
      · exact absurd hrecent hnew
  | invalid horder hseen hvalid hcode hstate =>
    subst hstate
    refine ⟨?_, fun _ => step_of_error hbuild ▸ hlive.rejected _⟩
    have hnew := mt hseen_iff.mpr hseen
    rw [faithful_of_error_iff hlive hbuild, hcode]
    refine iff_of_true (iff_of_false nofun fun hdup => hnew hdup.2) (.inr (.inr ⟨hnew, ?_⟩))
    rw [hvalid]
    exact Bool.false_ne_true
  | accepted horder hseen hvalid =>
    have hnew := mt hseen_iff.mpr hseen
    have hfresh : h.Checked d → h.Fresh d := by
      rintro (hfresh | hpos | ⟨-, hinvalid⟩)
      · exact hfresh
      · exact fresh_of_inOrder hlive horder hpos
      · rw [hvalid] at hinvalid
        exact absurd rfl hinvalid
    refine ⟨?_, fun hchecked => step_of_ok hbuild ▸ hlive.accepted hknown (hfresh hchecked) hseen⟩
    rw [faithful_of_ok_iff hlive hnew (cached_accept hlive hseen) hbuild]
    exact ⟨.inl, hfresh⟩

end Steps

/-- A new stream. -/
def start (s : InstrumentStream) : History := ⟨s, []⟩

theorem live_start {rawVenue rawInstrument rawMarketType : String} {dedupWindow : Int}
    (hcreate : create rawVenue rawInstrument rawMarketType dedupWindow = .ok s)
    (known : List KeySource) : (start s).Live s known := by
  obtain ⟨hwindow, hlast, hseen, hord⟩ := create_eq_ok hcreate
  refine ⟨rfl, hwindow, ⟨?_, ?_, fun h => ?_⟩, List.Pairwise.nil, ?_, ?_, ?_⟩
  · exact hord.trans (List.rtake_nil _).symm
  · exact hord ▸ List.nodup_nil
  · show h ∈ s.seen ↔ h ∈ s.seenOrd
    rw [hseen, hord]
    exact iff_of_false (AList.notMem_empty h) List.not_mem_nil
  · exact fun e he => absurd he List.not_mem_nil
  · intro hpos
    exact absurd (hlast ▸ hpos) (lt_irrefl (0 : Int))
  · exact fun k hk => absurd hk List.not_mem_nil

/--
In every run of calls on a new stream whose keys have different hashes, all calls are
faithful exactly when all calls are checked.
-/
theorem calls_faithful_iff
    (rawVenue rawInstrument rawMarketType : String) (dedupWindow : Int) (s : InstrumentStream)
    (hcreate : create rawVenue rawInstrument rawMarketType dedupWindow = .ok s)
    (calls : List EventDraft)
    (hinj : ∀ d ∈ calls, ∀ d' ∈ calls, (s.keySource d).hash = (s.keySource d').hash →
      s.keySource d = s.keySource d') :
    (∀ before d, before ++ [d] <+: calls → (run step (start s) before).Faithful d) ↔
      Always step Checked (start s) calls := by
  have hknown : ∀ d ∈ calls, s.keySource d ∈ calls.map s.keySource := fun d hd =>
    List.mem_map_of_mem hd
  have hinj' : ∀ k ∈ calls.map s.keySource, ∀ k' ∈ calls.map s.keySource,
      k.hash = k'.hash → k = k' := by
    intro k hk k' hk'
    obtain ⟨d, hd, rfl⟩ := List.mem_map.mp hk
    obtain ⟨d', hd', rfl⟩ := List.mem_map.mp hk'
    exact hinj d hd d' hd'
  have hstart := live_start hcreate (calls.map s.keySource)
  rw [← always_iff_forall_prefix]
  constructor
  · intro hfaithful
    refine always_of_always (I := Live s (calls.map s.keySource)) ?_ ?_ hstart
      (always_and hfaithful hknown)
    · intro h d hlive hd
      obtain ⟨hiff, hnext⟩ := faithful_iff hlive hd.1 hinj'
      exact hnext (hiff.mp hd.2)
    · intro h d hlive hd
      exact (faithful_iff hlive hd.1 hinj').1.mp hd.2
  · intro hchecked
    refine always_of_always (I := Live s (calls.map s.keySource)) ?_ ?_ hstart
      (always_and hchecked hknown)
    · intro h d hlive hd
      exact (faithful_iff hlive hd.1 hinj').2 hd.2
    · intro h d hlive hd
      exact (faithful_iff hlive hd.1 hinj').1.mpr hd.2

/-- A stream with room for two keys. -/
def sampleStream : InstrumentStream :=
  { id := ⟨"BINANCE", "BTCUSDT", .spot⟩
    dedupWindow := 2
    lastSeq := 0
    seen := ∅
    seenOrd := []
    outOfOrderCount := 0
    duplicateCount := 0 }

/-- A trade with a number and the key of its source. -/
def trade (seq : Int) (key : String) : EventDraft :=
  ⟨"marketdata.trade", 1, 1000, 1001, seq, "application/json", [123, 125], key⟩

/-- Two keys, a repeated key, an old number, and a key that has left the window. -/
def sampleCalls : List EventDraft :=
  [trade 0 "a", trade 1 "b", trade 2 "b", trade 1 "c", trade 3 "c", trade 4 "a"]

theorem calls_faithful_sampleCalls :
    create "BINANCE" "BTCUSDT" "SPOT" 2 = .ok sampleStream ∧
      ∀ before d, before ++ [d] <+: sampleCalls →
        (run step (start sampleStream) before).Faithful d :=
  ⟨rfl, (calls_faithful_iff "BINANCE" "BTCUSDT" "SPOT" 2 sampleStream rfl sampleCalls
    (by decide +kernel)).mpr (by decide +kernel)⟩

/-- Two events with the number zero are both accepted. -/
theorem not_increasing_zeroTwice :
    create "BINANCE" "BTCUSDT" "SPOT" 2 = .ok sampleStream ∧
      ¬ (run step (start sampleStream) [trade 0 "a", trade 0 "b"]).Increasing :=
  ⟨rfl, by decide +kernel⟩

end History

end InstrumentStream
end Marketdata
end StreamAnalytics
