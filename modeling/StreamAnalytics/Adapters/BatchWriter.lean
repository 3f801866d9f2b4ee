import StreamAnalytics.Lib.Runs
import StreamAnalytics.Shared.Problem

/-!
# The batch writer of the store

Model of `BatchWriter` in `internal/adapters/storage/clickhouse/batch_writer.go` under
any interleaving of `Write` and `Close`.  The critical section of `Write`, each call of
`SaveIdempotent`, and the two parts of `Close` (the flag, and the critical section that
takes the pending items) are single steps.  A step carries what the code cannot know:
the readings of the clock and the answer of the underlying writer.  A step that its
caller cannot take leaves the writer as it is.

`Write` returns nil without a flush as long as no threshold is met, so the promise of
its comment is kept exactly by the runs in which every `Write` flushes
(`acknowledged_iff_writesThrough`).
-/

namespace StreamAnalytics
namespace Adapters
namespace BatchWriter

open Runs Function

variable {ι : Type}

/-! ## The writer -/

/-- `config.StoreBatchConfig`; the interval is 0 if its text cannot be parsed. -/
structure StoreBatchConfig where
  maxRows : Int
  maxBytes : Int
  flushInterval : Int
deriving Repr, DecidableEq

/-- `batchItem`: the call that handed in the snapshot, and the size of the snapshot. -/
structure BatchItem (ι : Type) where
  call : ι
  bids : Nat
  asks : Nat
deriving Repr, DecidableEq

/-- `estimatePayloadSize`. -/
def estimatePayloadSize (item : BatchItem ι) : Nat := 80 + (item.bids + item.asks) * 40

/-- How far a call has got. -/
inductive Call (ι : Type) where
  | notCalled
  | closing
  | flushing (items : List (BatchItem ι))
  | returned (result : Option Problem)

/-- `BatchWriter` and the calls in progress; `saved` collects what has been saved. -/
structure Writer (ι : Type) where
  closed : Bool := false
  pending : List (BatchItem ι) := []
  pendingBytes : Nat := 0
  lastFlush : Int
  calls : ι → Call ι := fun _ => .notCalled
  handed : List ι := []
  saved : List ι := []

/-- The steps of the callers. -/
inductive WriterStep (ι : Type) where
  /-- The critical section of `Write`, with the clock at the check and at the flush. -/
  | write (item : BatchItem ι) (now flushed : Int)
  /-- The next call of `SaveIdempotent` of a flush, with its answer. -/
  | save (call : ι) (answer : Option Problem)
  /-- `Close` sets the flag. -/
  | close (call : ι)
  /-- `Close` takes the pending items. -/
  | drain (call : ι)

namespace Writer

/-- The problem of a `Write` after `Close`. -/
def closedProblem : Problem := Problem.new .validationFailed "batch writer is closed"

/-- The writer with one more pending item. -/
def enqueue (b : Writer ι) (item : BatchItem ι) : Writer ι :=
  { b with
    pending := b.pending ++ [item]
    pendingBytes := b.pendingBytes + estimatePayloadSize item
    handed := b.handed ++ [item.call] }

/-- `shouldFlush`. -/
def shouldFlush (cfg : StoreBatchConfig) (now : Int) (b : Writer ι) : Bool :=
  decide (cfg.maxRows ≤ b.pending.length) ||
    decide (0 < cfg.maxBytes ∧ cfg.maxBytes ≤ b.pendingBytes) ||
    decide (cfg.flushInterval ≤ now - b.lastFlush)

section Calls

variable [DecidableEq ι]

/-- A call gets on. -/
def setCall (b : Writer ι) (call : ι) (state : Call ι) : Writer ι :=
  { b with calls := update b.calls call state }

/-- The critical section of `Write`. -/
def write (cfg : StoreBatchConfig) (b : Writer ι) (item : BatchItem ι) (now flushed : Int) :
    Writer ι :=
  if b.closed then
    ({ b with handed := b.handed ++ [item.call] } : Writer ι).setCall item.call
      (.returned (some closedProblem))
  else if (b.enqueue item).shouldFlush cfg now then
    ({ b.enqueue item with pending := [], pendingBytes := 0, lastFlush := flushed } :
      Writer ι).setCall item.call (.flushing (b.enqueue item).pending)
  else
    (b.enqueue item).setCall item.call (.returned none)

/-- One round of the loop of `flush`, which returns at the first problem. -/
def save (b : Writer ι) (call : ι) (answer : Option Problem) : Writer ι :=
  match b.calls call with
  | .flushing (item :: rest) =>
    match answer with
    | some p => b.setCall call (.returned (some p))
    | none =>
      ({ b with saved := b.saved ++ [item.call] } : Writer ι).setCall call
        (if rest = [] then .returned none else .flushing rest)
  | _ => b

/-- The critical section of `Close`. -/
def drain (b : Writer ι) (call : ι) : Writer ι :=
  ({ b with pending := [], pendingBytes := 0 } : Writer ι).setCall call
    (if b.pending = [] then .returned none else .flushing b.pending)

/-- One step of one of the callers. -/
def step (cfg : StoreBatchConfig) (b : Writer ι) : WriterStep ι → Writer ι
  | .write item now flushed =>
    match b.calls item.call with
    | .notCalled => b.write cfg item now flushed
    | _ => b
  | .save call answer => b.save call answer
  | .close call =>
    match b.calls call with
    | .notCalled => ({ b with closed := true } : Writer ι).setCall call .closing
    | _ => b
  | .drain call =>
    match b.calls call with
    | .closing => b.drain call
    | _ => b

end Calls

/-! ## The contract -/

/-- A `Write` that has returned nil has had its snapshot saved. -/
def Acknowledged (b : Writer ι) : Prop :=
  ∀ call ∈ b.handed, b.calls call = .returned none → call ∈ b.saved

/-- A `Write` on an open writer meets a threshold. -/
def WritesThrough (cfg : StoreBatchConfig) (b : Writer ι) : WriterStep ι → Prop
  | .write item now _ =>
    match b.calls item.call with
    | .notCalled => b.closed = false → (b.enqueue item).shouldFlush cfg now = true
    | _ => True
  | _ => True

/-! ## The invariant -/

/--
What holds as long as every `Write` flushes: nothing is pending, a `Write` flushes its
own snapshot only, and what it has acknowledged is saved.
-/
structure Through (b : Writer ι) : Prop where
  acknowledged : b.Acknowledged
  empty : b.pending = []
  own : ∀ call items, b.calls call = .flushing items →
    ∃ item, items = [item] ∧ item.call = call
  called : ∀ call ∈ b.handed ++ b.saved, b.calls call ≠ .notCalled
  closer : ∀ call, b.calls call = .closing → call ∉ b.handed

section Steps

variable [DecidableEq ι] {cfg : StoreBatchConfig} {b : Writer ι}

/-- One call gets on, and the others stay as they are. -/
theorem Through.advance (h : b.Through) {b' : Writer ι} {call : ι} {state : Call ι}
    (hcalls : b'.calls = update b.calls call state) (hempty : b'.pending = [])
    (hhanded : ∀ c ∈ b'.handed, c ∈ b.handed ∨ c = call)
    (hsaved : ∀ c ∈ b'.saved, c ∈ b.saved ∨ c = call) (hkept : b.saved ⊆ b'.saved)
    (hstate : state ≠ .notCalled)
    (hown : ∀ items, state = .flushing items → ∃ item, items = [item] ∧ item.call = call)
    (hreturned : call ∈ b'.handed → state = .returned none → call ∈ b'.saved)
    (hcloser : state = .closing → call ∉ b'.handed) : b'.Through := by
  have hself : b'.calls call = state := by
    rw [hcalls, update_self]
  have hother (c : ι) (hc : c ≠ call) : b'.calls c = b.calls c := by
    rw [hcalls, update_of_ne hc]
  refine ⟨fun c hc hreturned' => ?_, hempty, fun c items hflushing => ?_, fun c hc => ?_,
    fun c hclosing hc => ?_⟩
  · by_cases heq : c = call
    · rw [heq, hself] at hreturned'
      exact heq ▸ hreturned (heq ▸ hc) hreturned'
    · rw [hother c heq] at hreturned'
      exact hkept (h.acknowledged c ((hhanded c hc).resolve_right heq) hreturned')
  · by_cases heq : c = call
    · rw [heq, hself] at hflushing
      exact heq ▸ hown items hflushing
    · exact h.own c items (hother c heq ▸ hflushing)
  · by_cases heq : c = call
    · rw [heq, hself]
      exact hstate
    · rw [hother c heq]
      refine h.called c (List.mem_append.mpr ?_)
      exact (List.mem_append.mp hc).imp (fun hc => (hhanded c hc).resolve_right heq)
        fun hc => (hsaved c hc).resolve_right heq
  · by_cases heq : c = call
    · rw [heq, hself] at hclosing
      exact hcloser hclosing (heq ▸ hc)
    · exact h.closer c (hother c heq ▸ hclosing) ((hhanded c hc).resolve_right heq)

theorem Through.write (h : b.Through) {item : BatchItem ι} {now : Int} (flushed : Int)
    (hthrough : b.closed = false → (b.enqueue item).shouldFlush cfg now = true) :
    (b.write cfg item now flushed).Through := by
  have hhanded (c : ι) (hc : c ∈ b.handed ++ [item.call]) : c ∈ b.handed ∨ c = item.call :=
    (List.mem_append.mp hc).imp_right List.mem_singleton.mp
  unfold Writer.write
  cases hclosed : b.closed with
  | true =>
    rw [if_pos rfl]
    exact h.advance rfl h.empty hhanded (fun c hc => .inl hc) (List.Subset.refl _) nofun nofun
      nofun nofun
  | false =>
    rw [if_neg (by decide), if_pos (hthrough hclosed)]
    refine h.advance rfl rfl hhanded (fun c hc => .inl hc) (List.Subset.refl _) nofun
      (fun items hitems => ?_) nofun nofun
    refine ⟨item, ?_, rfl⟩
    rw [← Call.flushing.inj hitems, enqueue, h.empty]
    rfl

theorem Through.save
    (h : b.Through) (call : ι) (answer : Option Problem) : (b.save call answer).Through := by
  unfold Writer.save
  cases hcall : b.calls call with
  | notCalled | closing | returned _ => exact h
  | flushing items =>
    obtain ⟨item, rfl, hitem⟩ := h.own call items hcall
    cases answer with
    | some p =>
      exact h.advance rfl h.empty (fun c hc => .inl hc) (fun c hc => .inl hc)
        (List.Subset.refl _) nofun nofun nofun nofun
    | none =>
      refine h.advance rfl h.empty (fun c hc => .inl hc) (fun c hc => ?_)
        (List.subset_append_left _ _) ?_ ?_ (fun _ _ => ?_) ?_
      · exact (List.mem_append.mp hc).imp_right fun hc =>
          (List.mem_singleton.mp hc).trans hitem
      · rw [if_pos rfl]
        nofun
      · rw [if_pos rfl]
        nofun
      · rw [← hitem]
        exact List.mem_append_right _ List.mem_cons_self
      · rw [if_pos rfl]
        nofun

theorem Through.close (h : b.Through) {call : ι} (hfirst : b.calls call = .notCalled) :
    (({ b with closed := true } : Writer ι).setCall call .closing).Through := by
  refine h.advance rfl h.empty (fun c hc => .inl hc) (fun c hc => .inl hc) (List.Subset.refl _)
    nofun nofun nofun fun _ hhanded => ?_
  exact h.called call (List.mem_append_left _ hhanded) hfirst

theorem Through.drain
    (h : b.Through) {call : ι} (hclosing : b.calls call = .closing) : (b.drain call).Through := by
  unfold Writer.drain
  rw [if_pos h.empty]
  refine h.advance rfl rfl (fun c hc => .inl hc) (fun c hc => .inl hc) (List.Subset.refl _) nofun
    nofun (fun hhanded _ => ?_) nofun
  exact absurd hhanded (h.closer call hclosing)

theorem Through.step (h : b.Through) {a : WriterStep ι} (hthrough : b.WritesThrough cfg a) :
    (b.step cfg a).Through := by
  cases a with
  | write item now flushed =>
    unfold WritesThrough at hthrough
    unfold Writer.step
    cases hcall : b.calls item.call with
    | notCalled =>
      simp only [hcall] at hthrough ⊢
      exact h.write flushed hthrough
    | closing | flushing _ | returned _ => simpa only [hcall] using h
  | save call answer => exact h.save call answer
  | close call =>
    unfold Writer.step
    cases hcall : b.calls call with
    | notCalled => simpa only [hcall] using h.close hcall
    | closing | flushing _ | returned _ => simpa only [hcall] using h
  | drain call =>
    unfold Writer.step
    cases hcall : b.calls call with
    | closing => simpa only [hcall] using h.drain hcall
    | notCalled | flushing _ | returned _ => simpa only [hcall] using h

/-- A `Write` that meets no threshold acknowledges a snapshot that is not saved. -/
theorem writesThrough_of_acknowledged
    (h : b.Through) {a : WriterStep ι} (hafter : (b.step cfg a).Acknowledged) :
    b.WritesThrough cfg a := by
  cases a with
  | save | close | drain => trivial
  | write item now flushed =>
    unfold WritesThrough
    unfold Writer.step at hafter
    cases hcall : b.calls item.call with
    | closing | flushing _ | returned _ => simp only [hcall]
    | notCalled =>
      simp only [hcall] at hafter ⊢
      intro hopen
      by_contra hkept
      rw [Writer.write, if_neg (by simp [hopen]), if_neg hkept] at hafter
      have hsaved : item.call ∈ b.saved :=
        hafter item.call (List.mem_append_right _ List.mem_cons_self)
          (update_self _ _ _)
      exact h.called item.call (List.mem_append_right _ hsaved) hcall

/--
In every interleaving of `Write` and `Close`, and whatever the underlying writer
answers, a `Write` returns nil only after its snapshot has been saved, exactly if every
`Write` on the open writer meets a threshold.
-/
theorem acknowledged_iff_writesThrough
    (cfg : StoreBatchConfig) (start : Int) (steps : List (WriterStep ι)) :
    (∀ steps', steps' <+: steps →
      (run (step cfg) ({ lastFlush := start } : Writer ι) steps').Acknowledged) ↔
      Always (step cfg) (WritesThrough cfg) ({ lastFlush := start } : Writer ι) steps :=
  forall_prefix_iff_always (I := Through) (fun _ h => h.acknowledged) (fun _ _ h ha => h.step ha)
    (fun _ _ h ha => writesThrough_of_acknowledged h ha)
    ⟨nofun, rfl, nofun, nofun, nofun⟩ steps

end Steps

/-- Two rows a batch, no limit on the bytes, and a flush after a second. -/
def twoRows : StoreBatchConfig where
  maxRows := 2
  maxBytes := 0
  flushInterval := 1000000000

/-- Two calls of `Write`; the underlying writer fails at the first snapshot. -/
def failedFlush : List (WriterStep Bool) :=
  [.write ⟨false, 1, 1⟩ 0 0, .write ⟨true, 1, 1⟩ 1 1,
    .save true (some (Problem.new .unavailable "insert failed"))]

/-- The first call has returned nil, and its snapshot is neither saved nor pending. -/
theorem not_acknowledged_failedFlush :
    ¬ (run (step twoRows) ({ lastFlush := 0 } : Writer Bool) failedFlush).Acknowledged ∧
      (run (step twoRows) ({ lastFlush := 0 } : Writer Bool) failedFlush).saved = [] ∧
      (run (step twoRows) ({ lastFlush := 0 } : Writer Bool) failedFlush).pending = [] := by
  refine ⟨fun h => ?_, by decide, by decide⟩
  have hsaved := h false (by decide) rfl
  exact absurd hsaved (by decide)

end Writer

end BatchWriter
end Adapters
end StreamAnalytics
