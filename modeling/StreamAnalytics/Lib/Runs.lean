import Mathlib.Init

/-!
# Runs of a deterministic system

A system is a step function `S → A → S`; a run folds it over a list of inputs.
`Always step P s as` says that `P` holds of every state and input met along the
run.  The two invariant rules carry a property from the first state to the last
state of a run, and so, as every prefix of a run is a run, to every state reached.
-/

namespace StreamAnalytics
namespace Runs

universe u v

variable {S : Type u} {A : Type v}
variable {P : S → A → Prop} {s : S} {as : List A} {I : S → Prop} {B : Type v}

/-- The state after a list of inputs. -/
def run (step : S → A → S) (s : S) (as : List A) : S := as.foldl step s

/-- The state before each input satisfies `P` together with that input. -/
def Always (step : S → A → S) (P : S → A → Prop) : S → List A → Prop
  | _, [] => True
  | s, a :: as => P s a ∧ Always step P (step s a) as

instance Always.decidable
    (step : S → A → S) (P : S → A → Prop) [∀ s a, Decidable (P s a)] :
    (s : S) → (as : List A) → Decidable (Always step P s as)
  | _, [] => isTrue trivial
  | s, a :: as =>
    have := Always.decidable step P (step s a) as
    inferInstanceAs (Decidable (P s a ∧ Always step P (step s a) as))

variable {step : S → A → S}

@[simp] theorem run_nil (s : S) : run step s [] = s := by
  rfl

@[simp] theorem run_cons
    (s : S) (a : A) (as : List A) : run step s (a :: as) = run step (step s a) as := by
  rfl

theorem run_append (s : S) (as bs : List A) : run step s (as ++ bs) = run step (run step s as) bs :=
  List.foldl_append

theorem always_append {bs : List A} :
    Always step P s (as ++ bs) ↔
      Always step P s as ∧ Always step P (run step s as) bs := by
  induction as generalizing s with
  | nil => simp [Always]
  | cons a as ih => simp [Always, ih, and_assoc]

/-- A property preserved by every step holds at the end of every run. -/
theorem invariant
    (hstep : ∀ s a, I s → I (step s a)) (hs : I s) (as : List A) : I (run step s as) := by
  induction as generalizing s with
  | nil => exact hs
  | cons a as ih => exact ih (hstep s a hs)

/-- A property preserved by the steps that meet `P` holds at the end of every such run. -/
theorem invariant_of_always
    (hstep : ∀ s a, I s → P s a → I (step s a)) (hs : I s) (has : Always step P s as) :
    I (run step s as) := by
  induction as generalizing s with
  | nil => exact hs
  | cons a as ih => exact ih (hstep s a hs has.1) has.2

/-- A property of all inputs can be added to what holds along a run. -/
theorem always_and {Q : A → Prop} (has : Always step P s as) (hQ : ∀ a ∈ as, Q a) :
    Always step (fun s a => Q a ∧ P s a) s as := by
  induction as generalizing s with
  | nil => exact trivial
  | cons a as ih =>
    obtain ⟨ha, hrest⟩ := List.forall_mem_cons.mp hQ
    exact ⟨⟨ha, has.1⟩, ih has.2 hrest⟩

/-- `invariant_of_always` for every state reached on the way. -/
theorem invariant_of_prefix
    (hstep : ∀ s a, I s → P s a → I (step s a)) (hs : I s) {as' : List A} (has : Always step P s as)
    (hinitial : as' <+: as) : I (run step s as') := by
  obtain ⟨rest, rfl⟩ := hinitial
  exact invariant_of_always hstep hs (always_append.mp has).1

/--
A property that an invariant and `P` imply holds along every run that meets `P`.
-/
theorem always_of_always
    {Q : S → A → Prop} (hstep : ∀ s a, I s → P s a → I (step s a)) (hQ : ∀ s a, I s → P s a → Q s a)
    (hs : I s) (has : Always step P s as) : Always step Q s as := by
  induction as generalizing s with
  | nil => exact trivial
  | cons a as ih => exact ⟨hQ s a hs has.1, ih (hstep s a hs has.1) has.2⟩

/--
If, for the inputs in `Q`, `P` is exactly what a step from a state in `I` has to meet
to reach a state in `J`, and keeps `I`, then `J` holds throughout a run on such inputs
exactly when every step of it meets `P`.
-/
theorem forall_prefix_iff_always_of {J : S → Prop} {Q : A → Prop} (hIJ : ∀ s, I s → J s)
    (hstep : ∀ s a, Q a → I s → P s a → I (step s a))
    (hexact : ∀ s a, Q a → I s → J (step s a) → P s a) (hs : I s) (hQ : ∀ a ∈ as, Q a) :
    (∀ as', as' <+: as → J (run step s as')) ↔ Always step P s as := by
  induction as generalizing s with
  | nil => simp [Always, hIJ s hs]
  | cons a as ih =>
    obtain ⟨ha, has⟩ := List.forall_mem_cons.mp hQ
    constructor
    · intro h
      have hP : P s a := hexact s a ha hs (h [a] ⟨as, rfl⟩)
      refine ⟨hP, (ih (hstep s a ha hs hP) has).mp fun as' has' => ?_⟩
      exact h (a :: as') (List.cons_prefix_cons.mpr ⟨rfl, has'⟩)
    · rintro ⟨hP, hrest⟩ as' has'
      cases as' with
      | nil => exact hIJ s hs
      | cons b bs =>
        obtain ⟨rfl, hbs⟩ := List.cons_prefix_cons.mp has'
        exact (ih (hstep s b ha hs hP) has).mpr hrest bs hbs

/-- `forall_prefix_iff_always_of` for all inputs. -/
theorem forall_prefix_iff_always
    {J : S → Prop} (hIJ : ∀ s, I s → J s) (hstep : ∀ s a, I s → P s a → I (step s a))
    (hexact : ∀ s a, I s → J (step s a) → P s a) (hs : I s) (as : List A) :
    (∀ as', as' <+: as → J (run step s as')) ↔ Always step P s as :=
  forall_prefix_iff_always_of (Q := fun _ => True) hIJ (fun s a _ => hstep s a)
    (fun s a _ => hexact s a) hs fun _ _ => trivial

/-- `P` holds along a run exactly when it holds at the end of every proper prefix. -/
theorem always_iff_forall_prefix :
    Always step P s as ↔ ∀ bs b, bs ++ [b] <+: as → P (run step s bs) b := by
  induction as generalizing s with
  | nil =>
    refine ⟨fun _ bs b h => ?_, fun _ => trivial⟩
    exact absurd (List.prefix_nil.mp h) (by simp)
  | cons a as ih =>
    rw [Always, ih]
    constructor
    · rintro ⟨ha, has⟩ bs b h
      cases bs with
      | nil =>
        obtain ⟨rfl, -⟩ := List.cons_prefix_cons.mp h
        exact ha
      | cons c cs =>
        obtain ⟨rfl, hcs⟩ := List.cons_prefix_cons.mp h
        exact has cs b hcs
    · intro h
      refine ⟨h [] a (List.cons_prefix_cons.mpr ⟨rfl, List.nil_prefix⟩), fun bs b hbs => ?_⟩
      exact h (a :: bs) b (List.cons_prefix_cons.mpr ⟨rfl, hbs⟩)

/-! ## Logs -/

/-- Every entry of a log is in the relation `P` to the entries before it. -/
def EachAfter {B : Type v} (P : List B → B → Prop) (log : List B) : Prop :=
  ∀ before b after, log = before ++ b :: after → P before b

/-- The entries of `log` are in the relation `P` to the entries before them and to `before`. -/
def EachAfterFrom {B : Type v} (P : List B → B → Prop) : List B → List B → Prop
  | _, [] => True
  | before, b :: log => P before b ∧ EachAfterFrom P (before ++ [b]) log

theorem eachAfterFrom_iff {P : List B → B → Prop} {before log : List B} :
    EachAfterFrom P before log ↔
      ∀ mid b after, log = mid ++ b :: after → P (before ++ mid) b := by
  induction log generalizing before with
  | nil => simp [EachAfterFrom]
  | cons c log ih =>
    rw [EachAfterFrom, ih]
    constructor
    · rintro ⟨hc, hlog⟩ mid b after h
      cases mid with
      | nil =>
        obtain ⟨rfl, -⟩ := List.cons.inj h
        simpa using hc
      | cons d mid =>
        obtain ⟨rfl, hrest⟩ := List.cons.inj h
        simpa using hlog mid b after hrest
    · intro h
      refine ⟨by simpa using h [] c log rfl, fun mid b after hrest => ?_⟩
      have hb := h (c :: mid) b after (by rw [hrest, List.cons_append])
      simpa using hb

instance EachAfterFrom.decidable
    {B : Type v} (P : List B → B → Prop) [∀ l b, Decidable (P l b)] :
    (before log : List B) → Decidable (EachAfterFrom P before log)
  | _, [] => isTrue trivial
  | before, b :: log =>
    have := EachAfterFrom.decidable P (before ++ [b]) log
    inferInstanceAs (Decidable (P before b ∧ EachAfterFrom P (before ++ [b]) log))

instance EachAfter.decidable
    {B : Type v} (P : List B → B → Prop) [∀ l b, Decidable (P l b)] (log : List B) :
    Decidable (EachAfter P log) :=
  decidable_of_iff (EachAfterFrom P [] log) eachAfterFrom_iff

theorem eachAfter_nil {P : List B → B → Prop} : EachAfter P [] := by
  intro before b after h
  simp at h

theorem eachAfter_concat
    {P : List B → B → Prop} {log : List B} {b : B} (hlog : EachAfter P log) (hb : P log b) :
    EachAfter P (log ++ [b]) := by
  intro before c after h
  obtain rfl | ⟨after, d, rfl⟩ := after.eq_nil_or_concat
  · obtain ⟨rfl, hlast⟩ := List.append_inj' h rfl
    cases hlast
    exact hb
  · rw [List.concat_eq_append, ← List.cons_append, ← List.append_assoc] at h
    exact hlog before c after (List.append_inj' h rfl).1

theorem eachAfter_concat_iff {P : List B → B → Prop} {log : List B} {b : B} :
    EachAfter P (log ++ [b]) ↔ EachAfter P log ∧ P log b := by
  refine ⟨fun h => ⟨fun before c after hc => ?_, h log b [] rfl⟩, fun h => eachAfter_concat h.1 h.2⟩
  exact h before c (after ++ [b]) (by rw [hc, List.append_assoc, List.cons_append])

/--
If every step appends to a log, then the entries of the log are pairwise related
exactly when every step appends only what is related to the entries before.
-/
theorem pairwise_log_iff {B : Type u} {log : S → List B} {new : S → A → List B} {R : B → B → Prop}
    (hI : ∀ s a, I s → I (step s a)) (hlog : ∀ s a, I s → log (step s a) = log s ++ new s a)
    (hnew : ∀ s a, (new s a).Pairwise R) (hs : I s) (as : List A) :
    (log (run step s as)).Pairwise R ↔
      (log s).Pairwise R ∧
        Always step (fun s a => ∀ p ∈ log s, ∀ q ∈ new s a, R p q) s as := by
  induction as generalizing s with
  | nil => simp [Always]
  | cons a as ih =>
    rw [run_cons, ih (hI s a hs), hlog s a hs, List.pairwise_append, Always]
    simp only [hnew s a, true_and, and_assoc]

/-! ## Pairs of steps -/

/-- The steps of a run: the state before each input, and the input. -/
def steps (step : S → A → S) : S → List A → List (S × A)
  | _, [] => []
  | s, a :: as => (s, a) :: steps step (step s a) as

/--
A relation between an earlier and a later step holds throughout a run if what the
earlier step establishes is kept and implies the relation at every later step.
-/
theorem pairwise_steps
    {R : S × A → S × A → Prop} (I : S × A → S → Prop) (hinit : ∀ s a, I (s, a) (step s a))
    (hstep : ∀ p s a, I p s → I p (step s a)) (hR : ∀ p s a, I p s → R p (s, a))
    (s : S) (as : List A) : (steps step s as).Pairwise R := by
  have hlater : ∀ p s as, I p s → ∀ q ∈ steps step s as, R p q := by
    intro p s as hI
    induction as generalizing s with
    | nil =>
      intro q hq
      exact nomatch hq
    | cons a as ih =>
      intro q hq
      obtain rfl | hq := List.mem_cons.mp hq
      · exact hR p s a hI
      · exact ih (step s a) (hstep p s a hI) q hq
  induction as generalizing s with
  | nil => exact List.Pairwise.nil
  | cons a as ih =>
    exact List.Pairwise.cons (hlater (s, a) (step s a) as (hinit s a)) (ih (step s a))

end Runs
end StreamAnalytics
