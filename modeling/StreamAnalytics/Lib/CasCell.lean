import Mathlib.Init

/-!
# A versioned cell with compare-and-set

One key of a store in which every write gets a new revision.  `create` writes only
to an empty cell, and `update` only over the revision it names; `delete` empties the
cell whatever it holds.

What a reader has seen under a revision stays true of the value found under that
revision later: revisions are never used twice (`Known`).
-/

namespace StreamAnalytics

universe u

/-- Why a write is refused. -/
inductive CasError where
  | keyNotFound
  | keyExists
  | wrongVersion
deriving Repr, DecidableEq

/-- The value of the cell with its revision, and the next revision. -/
structure CasCell (α : Type u) where
  entry : Option (α × Nat) := none
  nextRev : Nat := 1

namespace CasCell

variable {α : Type u} {c : CasCell α} {P Q : α → Prop} {v : α} {rev : Nat}

/-- A write that has been granted. -/
def put (v : α) (c : CasCell α) : CasCell α where
  entry := some (v, c.nextRev)
  nextRev := c.nextRev + 1

/-- Writes to an empty cell. -/
def create (v : α) (c : CasCell α) : Except CasError (CasCell α × Nat) :=
  match c.entry with
  | some _ => .error .keyExists
  | none => .ok (c.put v, c.nextRev)

/-- Writes over the named revision. -/
def update (v : α) (rev : Nat) (c : CasCell α) : Except CasError (CasCell α × Nat) :=
  match c.entry with
  | none => .error .keyNotFound
  | some (_, rev') => if rev' ≠ rev then .error .wrongVersion else .ok (c.put v, c.nextRev)

/-- Empties the cell. -/
def delete (c : CasCell α) : CasCell α := { c with entry := none }

theorem create_eq_ok
    {r : CasCell α × Nat} (h : c.create v = .ok r) : c.entry = none ∧ r = (c.put v, c.nextRev) := by
  unfold create at h
  split at h
  · cases h
  · cases h
    exact ⟨‹_›, rfl⟩

theorem update_eq_ok {r : CasCell α × Nat} (h : c.update v rev = .ok r) :
    (∃ old, c.entry = some (old, rev)) ∧ r = (c.put v, c.nextRev) := by
  unfold update at h
  split at h
  · cases h
  · rename_i old rev' hentry
    split at h
    · cases h
    · rename_i heq
      cases h
      exact ⟨⟨old, by rw [hentry, Decidable.not_not.mp heq]⟩, rfl⟩

/-- The revision of the value has been given out. -/
def Versioned (c : CasCell α) : Prop := ∀ v rev, c.entry = some (v, rev) → rev < c.nextRev

theorem versioned_put (v : α) (c : CasCell α) : (c.put v).Versioned := by
  intro v' rev h
  cases h
  exact Nat.lt_succ_self _

theorem versioned_delete (c : CasCell α) : c.delete.Versioned := by
  intro v rev h
  cases h

/-- `P` holds of the value that is or was stored under the revision. -/
def Known (P : α → Prop) (rev : Nat) (c : CasCell α) : Prop :=
  rev < c.nextRev ∧ ∀ v, c.entry = some (v, rev) → P v

theorem Versioned.known
    (h : c.Versioned) (hentry : c.entry = some (v, rev)) (hP : P v) : c.Known P rev := by
  refine ⟨h v rev hentry, fun v' hv' => ?_⟩
  rw [hentry] at hv'
  cases hv'
  exact hP

theorem Known.imp (h : c.Known P rev) (hPQ : ∀ v, P v → Q v) : c.Known Q rev :=
  ⟨h.1, fun v hv => hPQ v (h.2 v hv)⟩

/-- A later write does not reuse the revision. -/
theorem Known.put (h : c.Known P rev) (v : α) : (c.put v).Known P rev := by
  refine ⟨Nat.lt_succ_of_lt h.1, fun v' hv' => ?_⟩
  cases hv'
  exact absurd h.1 (Nat.lt_irrefl _)

theorem Known.delete (h : c.Known P rev) : c.delete.Known P rev := by
  refine ⟨h.1, fun v' hv' => ?_⟩
  cases hv'

end CasCell
end StreamAnalytics
