import Mathlib.Data.Prod.Lex
import Mathlib.Data.String.Basic
import StreamAnalytics.Adapters.ReplaySource

/-!
# Successful replays are deterministic

`envelopeLess` compares the keys of the envelopes in a lexicographic order
(`envelopeLess_iff`).  Nothing is emitted behind the last envelope, so the emitted
envelopes are sorted at every time, and together with the heap they are the accepted
messages (`Inv`).  The loop finishes only with an empty heap; what it has emitted is
then the sorted arrangement of the accepted messages, the same in every replay up to
envelopes with equal keys (`finished_replays_agree`).
-/

namespace StreamAnalytics
namespace Replay

open GoStrings Prog

/-! ## The order -/

/-- What `envelopeLess` compares, in this order. -/
abbrev Key := Int ×ₗ String ×ₗ String ×ₗ String ×ₗ Int ×ₗ String

/-- The key of an envelope. -/
def key (e : Envelope) : Key :=
  toLex (e.tsIngest, toLex (toLower (trimSpace e.venue),
    toLex (toUpper (trimSpace e.instrument),
      toLex (toLower (trimSpace e.type),
        toLex (e.seq, trimSpace e.idempotencyKey)))))

theorem ite_lt_iff {κ β : Type} [LinearOrder κ] [LinearOrder β] {a b : κ} {x y : β}
    [Decidable (a ≠ b)] [Decidable (a < b)] {p : Bool} (h : p = true ↔ x < y) :
    (if a ≠ b then decide (a < b) else p) = true ↔ toLex (a, x) < toLex (b, y) := by
  rw [Prod.Lex.toLex_lt_toLex]
  by_cases hab : a = b
  · simp [hab, h]
  · simp [hab]

theorem envelopeLess_iff {a b : Envelope} : envelopeLess a b = true ↔ key a < key b := by
  unfold envelopeLess key
  exact ite_lt_iff (ite_lt_iff (ite_lt_iff (ite_lt_iff (ite_lt_iff decide_eq_true_iff))))

theorem envelopeLess_eq_false_iff {a b : Envelope} : envelopeLess a b = false ↔ key b ≤ key a := by
  rw [← Bool.not_eq_true, envelopeLess_iff, not_lt]

namespace ReadLoop

variable {cfg : ReplaySourceConfig} {startNow : Nat} {turn : Turn} {s s' : ReadLoop}

/-! ## The invariant -/

/-- The envelopes of the decodable messages in the window. -/
def accepted (cfg : ReplaySourceConfig) (startNow : Nat) (fetched : List ReplayMsg) :
    List Envelope :=
  fetched.filterMap fun msg =>
    match msg with
    | .ok env => if inWindow cfg startNow env then some env else none
    | .error _ => none

/-- The invariant of the loop. -/
structure Inv (cfg : ReplaySourceConfig) (startNow : Nat) (s : ReadLoop) : Prop where
  perm : (s.emitted ++ s.heap.toList).Perm (accepted cfg startNow s.fetched)
  sorted : s.emitted.Pairwise fun a b => key a ≤ key b
  last : ∀ e ∈ s.emitted, ∃ last, s.lastEmitted = some last ∧ key e ≤ key last
  limit : 0 < cfg.maxMessages → s.emitted.length + s.heap.size ≤ cfg.maxMessages

theorem behind_eq_false_iff {env : Envelope} :
    s.behind env = false ↔ ∀ last, s.lastEmitted = some last → key last ≤ key env := by
  unfold behind
  cases s.lastEmitted with
  | none => simp
  | some last => simp [envelopeLess_eq_false_iff]

/-- The smallest envelope moves from the heap to the output. -/
theorem Inv.emit {item : Envelope} {heap : Array Envelope} (h : Inv cfg startNow s)
    (hpop : BinaryHeap.pop envelopeLess s.heap = some (item, heap))
    (hbehind : s.behind item = false) :
    Inv cfg startNow
      { s with heap := heap, emitted := s.emitted ++ [item], lastEmitted := some item } := by
  have hperm := BinaryHeap.perm_of_pop hpop
  have hle : ∀ e ∈ s.emitted, key e ≤ key item := by
    intro e he
    obtain ⟨last, hlast, hkey⟩ := h.last e he
    exact hkey.trans (behind_eq_false_iff.mp hbehind last hlast)
  refine ⟨?_, ?_, ?_, fun hmax => ?_⟩
  · refine List.Perm.trans ?_ h.perm
    rw [List.append_assoc]
    exact hperm.append_left s.emitted
  · refine List.pairwise_append.mpr ⟨h.sorted, List.pairwise_singleton _ _, fun a ha b hb => ?_⟩
    rw [List.mem_singleton.mp hb]
    exact hle a ha
  · intro e he
    refine ⟨item, rfl, ?_⟩
    rcases List.mem_append.mp he with he | he
    · exact hle e he
    · rw [List.mem_singleton.mp he]
  · have hlength := hperm.length_eq
    have hlimit := h.limit hmax
    simp only [List.length_cons, Array.length_toList] at hlength
    simp only [List.length_append, List.length_singleton]
    omega

theorem Inv.post_emitOne (h : Inv cfg startNow s) :
    Post (fun _ s' => Inv cfg startNow s') (fun stop _ => stop ≠ .finished)
      (emitOne turn s) := by
  unfold emitOne
  rw [get_bind_apply]
  cases hpop : BinaryHeap.pop envelopeLess s.heap with
  | none => exact .ok h
  | some popped =>
    obtain ⟨item, heap⟩ := popped
    dsimp only
    rw [modify_bind_apply]
    cases hbehind : s.behind item with
    | true => exact .error (by simp)
    | false =>
      refine Post.check (fun stop hstop => ?_) fun _ => ?_
      · simp at hstop
      refine Post.check (fun stop hstop => ?_) fun _ => ?_
      · split_ifs at hstop
        cases hstop
        simp
      rw [modify_bind_apply]
      refine Post.check (fun stop hstop => ?_) fun _ => ?_
      · split_ifs at hstop
        cases hstop
        simp
      exact .ok (h.emit hpop hbehind)

/-- A message that is not accepted leaves everything but the record of the fetch. -/
theorem Inv.skip (h : Inv cfg startNow s) {msg : ReplayMsg}
    (hmsg : accepted cfg startNow [msg] = []) (idleTimeouts : Nat) :
    Inv cfg startNow { s with idleTimeouts := idleTimeouts, fetched := s.fetched ++ [msg] } := by
  refine ⟨?_, h.sorted, h.last, h.limit⟩
  change (s.emitted ++ s.heap.toList).Perm (accepted cfg startNow (s.fetched ++ [msg]))
  unfold accepted at hmsg ⊢
  rw [List.filterMap_append, hmsg, List.append_nil]
  exact h.perm

/-- An accepted message is pushed. -/
theorem Inv.push
    {env : Envelope} (h : Inv cfg startNow s) (hwindow : inWindow cfg startNow env = true)
    (hroom : 0 < cfg.maxMessages → s.emitted.length + s.heap.size < cfg.maxMessages)
    (idleTimeouts : Nat) :
    Inv cfg startNow
      { s with
        idleTimeouts := idleTimeouts
        fetched := s.fetched ++ [.ok env]
        heap := BinaryHeap.push envelopeLess s.heap env } := by
  have hperm := BinaryHeap.perm_push envelopeLess s.heap env
  refine ⟨?_, h.sorted, h.last, fun hmax => ?_⟩
  · have haccepted : accepted cfg startNow (s.fetched ++ [.ok env]) =
        accepted cfg startNow s.fetched ++ [env] := by
      simp [accepted, hwindow]
    change (s.emitted ++ (BinaryHeap.push envelopeLess s.heap env).toList).Perm
      (accepted cfg startNow (s.fetched ++ [.ok env]))
    rw [haccepted]
    calc s.emitted ++ (BinaryHeap.push envelopeLess s.heap env).toList
      _ |>.Perm (s.emitted ++ (env :: s.heap.toList)) := hperm.append_left s.emitted
      _ |>.Perm (env :: (s.emitted ++ s.heap.toList)) := List.perm_middle
      _ |>.Perm (env :: accepted cfg startNow s.fetched) := h.perm.cons env
      _ |>.Perm (accepted cfg startNow s.fetched ++ [env]) :=
          (List.perm_append_singleton env _).symm
  · have hlength := hperm.length_eq
    have hlt := hroom hmax
    simp only [List.length_cons, Array.length_toList] at hlength
    dsimp only
    omega

theorem Inv.post_skipMessage (h : Inv cfg startNow s) :
    Post (fun _ s' => Inv cfg startNow s') (fun stop _ => stop ≠ .finished)
      (skipMessage turn s) := by
  unfold skipMessage
  by_cases hacked : turn.acked = true
  · rw [if_pos hacked]
    exact .ok h
  · rw [if_neg hacked]
    exact .error (by simp)

theorem Inv.post_takeMessage {msg : ReplayMsg} {idleTimeouts : Nat} (h : Inv cfg startNow s)
    (hroom : 0 < cfg.maxMessages → s.emitted.length + s.heap.size < cfg.maxMessages) :
    Post (fun _ s' => Inv cfg startNow s') (fun stop _ => stop ≠ .finished)
      (takeMessage cfg startNow turn msg
        { s with idleTimeouts := idleTimeouts, fetched := s.fetched ++ [msg] }) := by
  unfold takeMessage
  cases msg with
  | error p =>
    have hskip : Inv cfg startNow
        { s with idleTimeouts := idleTimeouts, fetched := s.fetched ++ [.error p] } :=
      h.skip rfl idleTimeouts
    cases cfg.decodeErrorMode with
    | skip => exact hskip.post_skipMessage
    | fail => exact .error (by simp)
  | ok env =>
    dsimp only
    cases hwindow : inWindow cfg startNow env with
    | false =>
      rw [if_pos rfl]
      have hskip : Inv cfg startNow
          { s with idleTimeouts := idleTimeouts, fetched := s.fetched ++ [.ok env] } :=
        h.skip (by simp [accepted, hwindow]) idleTimeouts
      exact hskip.post_skipMessage
    | true =>
      rw [if_neg (by simp), get_bind_apply]
      refine Post.check (fun stop hstop => ?_) fun _ => ?_
      · split_ifs at hstop
        cases hstop
        simp
      have hpush := h.push hwindow hroom idleTimeouts
      rw [modify_bind_apply, get_bind_apply]
      split_ifs
      · exact hpush.post_emitOne
      · exact .ok hpush

theorem Inv.post_onTimeout (h : Inv cfg startNow s) :
    Post (fun _ s' => Inv cfg startNow s')
      (fun stop s' => stop = .finished → Inv cfg startNow s' ∧ s'.heap.size = 0)
      (onTimeout cfg turn s) := by
  have hidle : Inv cfg startNow { s with idleTimeouts := s.idleTimeouts + 1 } :=
    ⟨h.perm, h.sorted, h.last, h.limit⟩
  unfold onTimeout
  rw [modify_bind_apply, get_bind_apply]
  split_ifs
  · exact hidle.post_emitOne.imp (fun _ _ hinv => hinv) fun _ _ hne hstop => absurd hstop hne
  · cases turn.pending with
    | error p => exact .error (by simp)
    | ok pending =>
      dsimp only
      split_ifs
      · exact .error fun _ => ⟨hidle, by omega⟩
      · exact .ok hidle
  · exact .ok hidle

theorem Inv.post_onFetch (h : Inv cfg startNow s)
    (hroom : 0 < cfg.maxMessages → s.emitted.length + s.heap.size < cfg.maxMessages) :
    Post (fun _ s' => Inv cfg startNow s')
      (fun stop s' => stop = .finished → Inv cfg startNow s' ∧ s'.heap.size = 0)
      (onFetch cfg startNow turn s) := by
  unfold onFetch
  cases turn.fetched with
  | timeout => exact h.post_onTimeout
  | cancelled => exact .error (by simp)
  | failed => exact .error (by simp)
  | message msg =>
    cases msg with
    | none => exact .ok ⟨h.perm, h.sorted, h.last, h.limit⟩
    | some msg =>
      dsimp only
      rw [modify_bind_apply]
      exact (h.post_takeMessage hroom).imp (fun _ _ hinv => hinv)
        fun _ _ hne hstop => absurd hstop hne

/-- A round keeps the invariant, and the loop finishes only with an empty heap. -/
theorem Inv.post_round (h : Inv cfg startNow s) (turn : Turn) :
    Post (fun _ s' => Inv cfg startNow s')
      (fun stop s' => stop = .finished → Inv cfg startNow s' ∧ s'.heap.size = 0)
      (round cfg startNow turn s) := by
  unfold round
  refine Post.check (fun stop hstop hfinished => ?_) fun _ => ?_
  · split_ifs at hstop
    cases hstop
    cases hfinished
  rw [get_bind_apply]
  refine Post.check (fun stop hstop hfinished => ?_) fun hcontinue => ?_
  · split_ifs at hstop with hmax
    have hlimit := h.limit hmax.1
    exact ⟨h, by omega⟩
  · split_ifs with hnear
    · exact h.post_emitOne.imp (fun _ _ hinv => hinv) fun _ _ hne hstop => absurd hstop hne
    · refine h.post_onFetch fun hmax => ?_
      by_contra hnot
      exact hnear ⟨hmax, by omega⟩

/-! ## Whole replays -/

theorem Inv.readLoop (h : Inv cfg startNow s) (turns : List Turn)
    (hrun : readLoop cfg startNow turns s = (s', some .finished)) :
    Inv cfg startNow s' ∧ s'.heap.size = 0 := by
  induction turns generalizing s with
  | nil => cases (Prod.mk.inj hrun).2
  | cons turn turns ih =>
    have hpost := h.post_round turn
    unfold ReadLoop.readLoop at hrun
    generalize round cfg startNow turn s = o at hrun hpost
    cases hpost with
    | ok hinv => exact ih hinv hrun
    | error hstop =>
      cases hrun
      exact hstop rfl

theorem inv_initial : Inv cfg startNow {} := by
  refine ⟨.refl _, .nil, fun e he => ?_, fun hmax => ?_⟩
  · cases he
  · exact Int.le_of_lt hmax

/-- Two arrangements of the same envelopes in the order of their keys have the same keys. -/
theorem map_key_eq_of_perm
    {es es' : List Envelope} (hperm : es.Perm es') (hsorted : es.Pairwise fun a b => key a ≤ key b)
    (hsorted' : es'.Pairwise fun a b => key a ≤ key b) : es.map key = es'.map key :=
  (hperm.map key).eq_of_pairwise (fun _ _ _ _ => le_antisymm)
    (List.pairwise_map.mpr hsorted) (List.pairwise_map.mpr hsorted')

/--
Whenever the loop finishes, the emitted envelopes are sorted by `envelopeLess` and are
the decodable messages in the window, each as often as it was fetched.  Two replays
that finish with the same such messages, whatever their buffers, limits and timeouts,
emit sequences of envelopes that compare equal one by one.
-/
theorem finished_replays_agree
    (cfg : ReplaySourceConfig) (startNow : Nat) (turns : List Turn) (s : ReadLoop)
    (hrun : readLoop cfg startNow turns {} = (s, some .finished)) :
    s.emitted.Pairwise (fun a b => envelopeLess b a = false) ∧
    s.emitted.Perm (accepted cfg startNow s.fetched) ∧
    ∀ cfg' startNow' turns' s', readLoop cfg' startNow' turns' {} = (s', some .finished) →
      (accepted cfg' startNow' s'.fetched).Perm (accepted cfg startNow s.fetched) →
      List.Forall₂ (fun a b => envelopeLess a b = false ∧ envelopeLess b a = false)
        s.emitted s'.emitted := by
  have hfinished : ∀ cfg startNow turns s, readLoop cfg startNow turns {} = (s, some .finished) →
      s.emitted.Perm (accepted cfg startNow s.fetched) ∧
        s.emitted.Pairwise fun a b => key a ≤ key b := by
    intro cfg startNow turns s hrun
    obtain ⟨hinv, hempty⟩ := inv_initial.readLoop turns hrun
    have hperm := hinv.perm
    rw [Array.eq_empty_of_size_eq_zero hempty, List.append_nil] at hperm
    exact ⟨hperm, hinv.sorted⟩
  obtain ⟨hperm, hsorted⟩ := hfinished cfg startNow turns s hrun
  refine ⟨hsorted.imp envelopeLess_eq_false_iff.mpr, hperm, ?_⟩
  intro cfg' startNow' turns' s' hrun' hsame
  obtain ⟨hperm', hsorted'⟩ := hfinished cfg' startNow' turns' s' hrun'
  have hkeys := map_key_eq_of_perm ((hperm.trans hsame.symm).trans hperm'.symm) hsorted hsorted'
  rw [← List.forall₂_eq_eq_eq, List.forall₂_map_left_iff, List.forall₂_map_right_iff] at hkeys
  refine hkeys.imp fun a b hab => ?_
  rw [envelopeLess_eq_false_iff, envelopeLess_eq_false_iff, hab]
  exact ⟨le_refl _, le_refl _⟩

/-- A trade of the sample replays. -/
def sampleTrade (tsIngest seq : Int) : Envelope :=
  { type := "marketdata.trade", version := 1, venue := "BINANCE", instrument := "BTC-USDT",
    tsExchange := 0, tsIngest := tsIngest, seq := seq, idempotencyKey := "", contentType := "",
    metadata := ∅, payload := [] }

/-- A round of the sample replays that fetches the given trade. -/
def sampleFetch (env : Envelope) : Turn := { fetched := .message (some (.ok env)) }

/-- Two trades arrive in the wrong order; the timeouts flush them. -/
def sampleTurns : List Turn :=
  [sampleFetch (sampleTrade 2000 2), sampleFetch (sampleTrade 1000 1), {}, {}, {}]

/-- The trades arrive in the right order, the buffer holds one and the limit ends the loop. -/
def sampleTurns' : List Turn :=
  [sampleFetch (sampleTrade 1000 1), {}, sampleFetch (sampleTrade 2000 2), {}, {}]

theorem reordered_replays_agree :
    (readLoop {} 0 sampleTurns {}).2 = some .finished ∧
    (readLoop { maxMessages := 2, mergeBufferSize := 1 } 0 sampleTurns' {}).2 = some .finished ∧
    List.Forall₂ (fun a b => envelopeLess a b = false ∧ envelopeLess b a = false)
      (readLoop {} 0 sampleTurns {}).1.emitted
      (readLoop { maxMessages := 2, mergeBufferSize := 1 } 0 sampleTurns' {}).1.emitted := by
  have hrun : (readLoop {} 0 sampleTurns {}).2 = some .finished := rfl
  have hrun' : (readLoop { maxMessages := 2, mergeBufferSize := 1 } 0 sampleTurns' {}).2 =
      some .finished := rfl
  refine ⟨hrun, hrun', ?_⟩
  refine (finished_replays_agree {} 0 sampleTurns _ (Prod.ext rfl hrun)).2.2 _ 0 sampleTurns' _
    (Prod.ext rfl hrun') ?_
  exact List.Perm.swap (sampleTrade 2000 2) (sampleTrade 1000 1) []

end ReadLoop

end Replay
end StreamAnalytics
