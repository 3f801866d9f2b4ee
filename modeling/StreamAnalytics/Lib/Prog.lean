import Mathlib.Data.List.Forall2

/-!
# Programs on a state with early return

A Go method that mutates its receiver and may return early with an error is a
function from the state to the state it leaves and either a result or the error.
The state reached before the error is kept: nothing is rolled back.

`Post Q R (x s)` says that `x`, started in `s`, ends with a result and a state
satisfying `Q`, or with an error and a state satisfying `R`.
-/

namespace StreamAnalytics

universe u

/-- A program on the state `S` that returns an `α` or stops with an error `E`. -/
def Prog (E S α : Type u) : Type u := S → S × Except E α

namespace Prog

variable {E S T α β : Type u}
variable {x : Prog E S α} {f : α → Prog E S β} {s s' : S} {b : β} {o : S × Except E α}

instance : Monad (Prog E S) where
  pure a := fun s => (s, .ok a)
  bind x f := fun s =>
    match x s with
    | (s', .ok a) => f a s'
    | (s', .error e) => (s', .error e)

/-- Reads the state. -/
def get : Prog E S S := fun s => (s, .ok s)

/-- Changes the state. -/
def modify (f : S → S) : Prog E S PUnit := fun s => (f s, .ok ⟨⟩)

/-- Changes the state and returns a value. -/
def act (f : S → S × α) : Prog E S α := fun s => ((f s).1, .ok (f s).2)

/-- Stops with an error. -/
def throw (e : E) : Prog E S α := fun s => (s, .error e)

/-- Stops with the given error, if there is one. -/
def check (p : Option E) : Prog E S PUnit :=
  fun s =>
    match p with
    | none => (s, .ok ⟨⟩)
    | some e => (s, .error e)

/-- Returns the result, or stops with the error, of a computation without state. -/
def lift (r : Except E α) : Prog E S α := fun s => (s, r)

/-- Runs a program on a part of the state. -/
def zoom (read : S → T) (write : S → T → S) (x : Prog E T α) : Prog E S α :=
  fun s => (write s (x (read s)).1, (x (read s)).2)

/-- Runs a program on a local copy and returns the copy it leaves. -/
def onCopy (t : T) (x : Prog E T α) : Prog E S T :=
  fun s =>
    match x t with
    | (t', .ok _) => (s, .ok t')
    | (_, .error e) => (s, .error e)

/-- The state a program leaves, if it does not stop with an error. -/
def exec (x : Prog E S α) (s : S) : Except E S :=
  match x s with
  | (s', .ok _) => .ok s'
  | (_, .error e) => .error e

/-- Runs a program for each element of a list and joins the results. -/
def flatMap (f : α → Prog E S (List β)) : List α → Prog E S (List β)
  | [] => pure []
  | a :: as => do
    let bs ← f a
    let rest ← flatMap f as
    pure (bs ++ rest)

section Equations

@[simp] theorem pure_apply (a : α) (s : S) : (pure a : Prog E S α) s = (s, .ok a) := by
  rfl

@[simp] theorem get_apply (s : S) : (get : Prog E S S) s = (s, .ok s) := by
  rfl

@[simp] theorem modify_apply
    (f : S → S) (s : S) : (modify f : Prog E S PUnit) s = (f s, .ok ⟨⟩) := by
  rfl

@[simp] theorem get_bind_apply (f : S → Prog E S β) (s : S) : (get >>= f) s = f s s := by
  rfl

@[simp] theorem modify_bind_apply
    (g : S → S) (f : PUnit → Prog E S β) (s : S) : (modify g >>= f) s = f ⟨⟩ (g s) := by
  rfl

@[simp] theorem act_bind_apply
    (g : S → S × α) (f : α → Prog E S β) (s : S) : (act g >>= f) s = f (g s).2 (g s).1 := by
  rfl

@[simp] theorem lift_ok_bind_apply
    (a : α) (f : α → Prog E S β) (s : S) : (lift (.ok a) >>= f) s = f a s := by
  rfl

theorem flatMap_cons (f : α → Prog E S (List β)) (a : α) (as : List α) :
    flatMap f (a :: as) = (do
      let bs ← f a
      let rest ← flatMap f as
      pure (bs ++ rest)) := by
  rfl

theorem bind_apply_ok {a : α} (h : x s = (s', .ok a)) : (x >>= f) s = f a s' := by
  simp only [bind, h]

theorem bind_apply_error {e : E} (h : x s = (s', .error e)) : (x >>= f) s = (s', .error e) := by
  simp only [bind, h]

theorem bind_assoc {γ : Type u} (x : Prog E S α) (f : α → Prog E S β) (g : β → Prog E S γ) :
    x >>= f >>= g = x >>= fun a => f a >>= g := by
  funext s
  rcases hx : x s with ⟨s', e | a⟩
  · rw [bind_apply_error hx, bind_apply_error (bind_apply_error hx)]
  · rw [bind_apply_ok hx]
    simp only [bind, hx]

/-- A check stops with its error, or the rest runs. -/
theorem check_bind_apply (p : Option E) (f : PUnit → Prog E S β) (s : S) :
    (check p >>= f) s =
      match p with
      | some e => (s, .error e)
      | none => f ⟨⟩ s := by
  cases p with
  | none => rfl
  | some e => rfl

theorem zoom_apply_ok {read : S → T} {write : S → T → S} {x : Prog E T α} {t : T} {a : α}
    (h : x (read s) = (t, .ok a)) : zoom read write x s = (write s t, .ok a) := by
  simp only [zoom, h]

theorem zoom_apply_error {read : S → T} {write : S → T → S} {x : Prog E T α} {t : T} {e : E}
    (h : x (read s) = (t, .error e)) : zoom read write x s = (write s t, .error e) := by
  simp only [zoom, h]

end Equations

/-! ## Successful runs -/

section Success

/-- A sequence returns a result exactly when both parts do. -/
theorem bind_eq_ok_iff
    {s'' : S} : (x >>= f) s = (s'', .ok b) ↔ ∃ s' a, x s = (s', .ok a) ∧ f a s' = (s'', .ok b) := by
  rcases hx : x s with ⟨s', e | a⟩
  · simp [bind_apply_error hx]
  · rw [bind_apply_ok hx]
    constructor
    · intro h
      exact ⟨s', a, rfl, h⟩
    · rintro ⟨_, _, heq, h⟩
      cases heq
      exact h

/-- A check lets the rest run exactly when it finds no error. -/
@[simp] theorem check_bind_eq_ok_iff {p : Option E} {f : PUnit → Prog E S β} :
    (check p >>= f) s = (s', .ok b) ↔ p = none ∧ f ⟨⟩ s = (s', .ok b) := by
  cases p <;> simp [bind, check]

@[simp] theorem check_eq_ok_iff {p : Option E} {b : PUnit} :
    (check p : Prog E S PUnit) s = (s', .ok b) ↔ p = none ∧ s = s' := by
  cases p <;> simp [check]

@[simp] theorem lift_bind_eq_ok_iff
    {r : Except E α} : (lift r >>= f) s = (s', .ok b) ↔ ∃ a, r = .ok a ∧ f a s = (s', .ok b) := by
  cases r <;> simp [bind, lift]

@[simp] theorem onCopy_bind_eq_ok_iff {t : T} {x : Prog E T α} {f : T → Prog E S β} :
    (onCopy t x >>= f) s = (s', .ok b) ↔
      ∃ t' a, x t = (t', .ok a) ∧ f t' s = (s', .ok b) := by
  rcases hx : x t with ⟨t', e | a⟩
  · simp [bind, onCopy, hx]
  · simp only [bind, onCopy, hx, Prod.mk.injEq, Except.ok.injEq]
    constructor
    · intro h
      exact ⟨t', a, ⟨rfl, rfl⟩, h⟩
    · rintro ⟨_, _, ⟨rfl, rfl⟩, h⟩
      exact h

theorem exec_eq_ok_iff : exec x s = .ok s' ↔ ∃ a, x s = (s', .ok a) := by
  unfold exec
  rcases x s with ⟨s'', e | a⟩
  · simp
  · simp

/-- A relation that is a partial function relates a list to its image. -/
theorem forall₂_iff_map {R : α → β → Prop} {P : α → Prop} {f : α → β} {xs : List α} {ys : List β}
    (h : ∀ x ∈ xs, ∀ y, R x y ↔ P x ∧ y = f x) :
    List.Forall₂ R xs ys ↔ (∀ x ∈ xs, P x) ∧ ys = xs.map f := by
  induction xs generalizing ys with
  | nil => simp
  | cons x xs ih =>
    have hx := h x (by simp)
    have hxs : ∀ x' ∈ xs, ∀ y, R x' y ↔ P x' ∧ y = f x' := fun x' hx' => h x' (by simp [hx'])
    constructor
    · intro hall
      cases hall with
      | cons hhead htail =>
        obtain ⟨hP, rfl⟩ := (hx _).mp hhead
        obtain ⟨hrest, rfl⟩ := (ih hxs).mp htail
        exact ⟨List.forall_mem_cons.mpr ⟨hP, hrest⟩, rfl⟩
    · rintro ⟨hP, rfl⟩
      obtain ⟨hhead, htail⟩ := List.forall_mem_cons.mp hP
      exact .cons ((hx _).mpr ⟨hhead, rfl⟩) ((ih hxs).mpr ⟨htail, rfl⟩)

/-- Mapping a list succeeds exactly when every element succeeds. -/
theorem mapM_eq_ok_iff {f : α → Except E β} {xs : List α} {ys : List β} :
    xs.mapM f = .ok ys ↔ List.Forall₂ (fun x y => f x = .ok y) xs ys := by
  induction xs generalizing ys with
  | nil => simp [pure, Except.pure, eq_comm]
  | cons x xs ih =>
    rw [List.mapM_cons]
    cases hx : f x with
    | error p =>
      constructor
      · intro h
        cases h
      · intro h
        cases h with
        | cons hhead _ =>
          rw [hx] at hhead
          cases hhead
    | ok y =>
      cases hrest : xs.mapM f with
      | error p =>
        constructor
        · intro h
          cases h
        · intro h
          cases h with
          | cons _ htail =>
            rw [← ih, hrest] at htail
            cases htail
      | ok ys' =>
        have htail := ih.mp hrest
        constructor
        · intro h
          cases h
          exact .cons hx htail
        · intro h
          cases h with
          | cons hhead htail' =>
            rw [hx] at hhead
            cases hhead
            rw [← ih, hrest] at htail'
            cases htail'
            rfl

end Success

/-! ## Pre- and postconditions -/

/-- The postcondition `Q` for a result or `R` for an error. -/
inductive Post (Q : α → S → Prop) (R : E → S → Prop) : S × Except E α → Prop where
  | ok {a : α} {s : S} (h : Q a s) : Post Q R (s, .ok a)
  | error {e : E} {s : S} (h : R e s) : Post Q R (s, .error e)

section Rules

variable {Q Q' : α → S → Prop} {R R' : E → S → Prop}

theorem Post.imp
    (h : Post Q R o) (hQ : ∀ a s, Q a s → Q' a s) (hR : ∀ e s, R e s → R' e s) : Post Q' R' o := by
  cases h with
  | ok h => exact .ok (hQ _ _ h)
  | error h => exact .error (hR _ _ h)

theorem Post.and (h : Post Q R o) (h' : Post Q' R' o) :
    Post (fun a s => Q a s ∧ Q' a s) (fun e s => R e s ∧ R' e s) o := by
  cases h with
  | ok h =>
    cases h' with
    | ok h' => exact .ok ⟨h, h'⟩
  | error h =>
    cases h' with
    | error h' => exact .error ⟨h, h'⟩

theorem Post.bind
    {Q' : β → S → Prop} (hx : Post Q R (x s)) (hf : ∀ a s', Q a s' → Post Q' R (f a s')) :
    Post Q' R ((x >>= f) s) := by
  generalize hrun : x s = o at hx
  cases hx with
  | ok h =>
    rw [bind_apply_ok hrun]
    exact hf _ _ h
  | error h =>
    rw [bind_apply_error hrun]
    exact .error h

theorem Post.check
    {p : Option E} {f : PUnit → Prog E S β} {Q' : β → S → Prop} (herror : ∀ e, p = some e → R e s)
    (hf : p = none → Post Q' R (f ⟨⟩ s)) : Post Q' R ((check p >>= f) s) := by
  cases p with
  | none => exact hf rfl
  | some e => exact .error (herror e rfl)

/--
A sequence ends in a state related to the first one, by a transitive relation, if both
parts do.
-/
theorem rel_bind
    {R : S → S → Prop} (htrans : ∀ {s₁ s₂ s₃}, R s₁ s₂ → R s₂ s₃ → R s₁ s₃) (hx : R s (x s).1)
    (hf : ∀ a s', x s = (s', .ok a) → R s' (f a s').1) : R s ((x >>= f) s).1 := by
  rcases hrun : x s with ⟨s', e | a⟩
  · rw [bind_apply_error hrun]
    rw [hrun] at hx
    exact hx
  · rw [bind_apply_ok hrun]
    rw [hrun] at hx
    exact htrans hx (hf a s' hrun)

/-- A postcondition that does not depend on the outcome holds of the final state. -/
theorem Post.state {I : S → Prop} (h : Post (fun _ => I) (fun _ => I) o) : I o.1 := by
  cases h with
  | ok h => exact h
  | error h => exact h

theorem Post.of_state {I : S → Prop} (h : I o.1) : Post (fun _ => I) (fun _ => I) o := by
  obtain ⟨s, e | a⟩ := o
  · exact .error h
  · exact .ok h

/-! ### Invariants of programs -/

/-- The program keeps `I`, whether it returns a result or an error. -/
structure Preserves (I : S → Prop) (x : Prog E S α) : Prop where
  post : ∀ s, I s → Post (fun _ => I) (fun _ => I) (x s)

variable {I : S → Prop}

theorem Preserves.apply (h : Preserves I x) (hs : I s) : I (x s).1 := (h.post s hs).state

theorem preserves_pure (a : α) : Preserves I (pure a : Prog E S α) := ⟨fun _ hs => .ok hs⟩

theorem preserves_get : Preserves I (get : Prog E S S) := ⟨fun _ hs => .ok hs⟩

theorem preserves_lift (r : Except E α) : Preserves I (lift r : Prog E S α) := by
  refine ⟨fun s hs => ?_⟩
  cases r with
  | error e => exact .error hs
  | ok a => exact .ok hs

theorem preserves_check (p : Option E) : Preserves I (check p : Prog E S PUnit) := by
  refine ⟨fun s hs => ?_⟩
  cases p with
  | none => exact .ok hs
  | some e => exact .error hs

theorem preserves_onCopy (t : T) (x : Prog E T α) : Preserves I (onCopy t x : Prog E S T) := by
  refine ⟨fun s hs => ?_⟩
  unfold onCopy
  rcases x t with ⟨t', e | a⟩
  · exact .error hs
  · exact .ok hs

theorem preserves_modify
    {f : S → S} (hf : ∀ s, I s → I (f s)) : Preserves I (modify f : Prog E S PUnit) :=
  ⟨fun s hs => .ok (hf s hs)⟩

theorem preserves_act
    {f : S → S × α} (hf : ∀ s, I s → I (f s).1) : Preserves I (act f : Prog E S α) :=
  ⟨fun s hs => .ok (hf s hs)⟩

theorem preserves_zoom
    {read : S → T} {write : S → T → S} (x : Prog E T α) (hwrite : ∀ s t, I s → I (write s t)) :
    Preserves I (zoom read write x) := by
  refine ⟨fun s hs => ?_⟩
  rcases hrun : x (read s) with ⟨t, e | a⟩
  · rw [zoom_apply_error hrun]
    exact .error (hwrite s t hs)
  · rw [zoom_apply_ok hrun]
    exact .ok (hwrite s t hs)

theorem Preserves.bind (hx : Preserves I x) (hf : ∀ a, Preserves I (f a)) : Preserves I (x >>= f) :=
  ⟨fun s hs => (hx.post s hs).bind fun a => (hf a).post⟩

theorem Preserves.ite
    {c : Prop} [Decidable c] {y : Prog E S α} (hx : Preserves I x) (hy : Preserves I y) :
    Preserves I (if c then x else y) := by
  by_cases hc : c
  · rw [if_pos hc]
    exact hx
  · rw [if_neg hc]
    exact hy

/--
Sequencing under a guard on the final state: once the guard is lost, the rest of
the program does not regain it.
-/
theorem Post.bind_guarded
    {G : S → Prop} {Q' : β → S → Prop} (hG : ∀ a, Preserves (fun s => ¬ G s) (f a))
    (hx : Post (fun a s => G s → Q a s) (fun e s => G s → R e s) (x s))
    (hf : ∀ a s', G s' → Q a s' →
      Post (fun b s => G s → Q' b s) (fun e s => G s → R e s) (f a s')) :
    Post (fun b s => G s → Q' b s) (fun e s => G s → R e s) ((x >>= f) s) := by
  refine Post.bind hx fun a s' h => ?_
  by_cases hs : G s'
  · exact hf a s' hs (h hs)
  · exact ((hG a).post s' hs).imp (fun _ _ h h' => absurd h' h) fun _ _ h h' => absurd h' h

/-! ### Invariants of programs with a fact about the result -/

/-- The program keeps `I`, and a result satisfies `Q`. -/
structure Yields (I : S → Prop) (Q : α → Prop) (x : Prog E S α) : Prop where
  post : ∀ s, I s → Post (fun a s' => I s' ∧ Q a) (fun _ => I) (x s)

section Yields

variable {P : α → Prop} {P' : β → Prop}

theorem Preserves.yields (h : Preserves I x) : Yields I (fun _ => True) x :=
  ⟨fun s hs => (h.post s hs).imp (fun _ _ h => ⟨h, trivial⟩) fun _ _ h => h⟩

theorem yields_pure {a : α} (ha : P a) : Yields I P (pure a : Prog E S α) :=
  ⟨fun _ hs => .ok ⟨hs, ha⟩⟩

theorem Yields.bind
    (hx : Yields I P x) (hf : ∀ a, P a → Yields I P' (f a)) : Yields I P' (x >>= f) :=
  ⟨fun s hs => (hx.post s hs).bind fun a s' h => (hf a h.2).post s' h.1⟩

/-- A program whose result is not restricted, before one that is. -/
theorem Preserves.bind_yields
    (hx : Preserves I x) (hf : ∀ a, Yields I P' (f a)) : Yields I P' (x >>= f) :=
  hx.yields.bind fun a _ => hf a

theorem yields_lift
    {r : Except E α} (hr : ∀ a, r = .ok a → P a) : Yields I P (lift r : Prog E S α) := by
  refine ⟨fun s hs => ?_⟩
  cases r with
  | error e => exact .error hs
  | ok a => exact .ok ⟨hs, hr a rfl⟩

theorem yields_flatMap
    {f : α → Prog E S (List β)} {as : List α} (hf : ∀ a ∈ as, Yields I (fun _ => True) (f a)) :
    Yields I (fun _ => True) (flatMap f as) := by
  induction as with
  | nil => exact yields_pure trivial
  | cons a as ih =>
    rw [flatMap_cons]
    refine (hf a List.mem_cons_self).bind fun _ _ => ?_
    refine (ih fun b hb => hf b (List.mem_cons_of_mem _ hb)).bind fun _ _ => ?_
    exact yields_pure trivial

end Yields

end Rules

end Prog
end StreamAnalytics
