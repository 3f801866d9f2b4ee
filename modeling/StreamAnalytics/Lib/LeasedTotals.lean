import StreamAnalytics.Lib.Runs
import Mathlib.Algebra.BigOperators.Group.List.Basic
import Mathlib.Data.List.Induction

/-!
# Running totals in cells that expire

A log of postings to accounts.  Each posting adds its amount to the total that the account had
after the posting before, as long as the cell with this total is read before it expires, and
starts from zero otherwise.  The totals are the sums of the amounts exactly if every cell that
holds a sum other than zero is read in time.
-/

namespace StreamAnalytics

open Runs

universe u v

/-- An amount, the total after it, and the times at which the cell was read and written. -/
structure Posting (K : Type u) (M : Type v) where
  key : K
  amount : M
  total : M
  readAt : Nat
  storedAt : Nat
deriving DecidableEq

namespace Posting

variable {K : Type u} {M : Type v} [DecidableEq K]

/-- The last posting to an account. -/
def last (k : K) (log : List (Posting K M)) : Option (Posting K M) :=
  log.reverse.find? fun e => e.key = k

section Last

variable {k : K} {log : List (Posting K M)} {e : Posting K M}

theorem last_concat : last k (log ++ [e]) = if e.key = k then some e else last k log := by
  unfold last
  rw [List.reverse_append, List.reverse_singleton, List.singleton_append, List.find?_cons]
  by_cases h : e.key = k
  · simp [h]
  · simp [h]

end Last

variable [AddCommGroup M]

/-- The sum of the amounts posted to an account. -/
def sum (k : K) (log : List (Posting K M)) : M :=
  ((log.filter fun e => e.key = k).map Posting.amount).sum

theorem sum_concat (k : K) (log : List (Posting K M)) (e : Posting K M) :
    sum k (log ++ [e]) = sum k log + if e.key = k then e.amount else 0 := by
  unfold sum
  rw [List.filter_append, List.map_append, List.sum_append]
  by_cases h : e.key = k
  · simp [h]
  · simp [h]

/-- The cell that a posting is read after is read before it expires. -/
def InTime (ttl : Int) (e' e : Posting K M) : Prop := (e.readAt : Int) < e'.storedAt + ttl

instance (ttl : Int) (e' e : Posting K M) : Decidable (InTime ttl e' e) :=
  inferInstanceAs (Decidable (_ < _))

/-- What a posting finds in the cell of its account. -/
def carried (ttl : Int) (before : List (Posting K M)) (e : Posting K M) : M :=
  match last e.key before with
  | some e' => if InTime ttl e' e then e'.total else 0
  | none => 0

/-- Every total is the amount added to what was found. -/
def Chained (ttl : Int) (log : List (Posting K M)) : Prop :=
  EachAfter (fun before e => e.total = carried ttl before e + e.amount) log

/-- Every total is the sum of the amounts so far. -/
def Cumulative (log : List (Posting K M)) : Prop :=
  EachAfter (fun before e => e.total = sum e.key before + e.amount) log

/-- Every posting reads its cell in time, or the sum in it is zero. -/
def Timely (ttl : Int) (log : List (Posting K M)) : Prop :=
  EachAfter (fun before e => ∀ e' ∈ last e.key before,
    InTime ttl e' e ∨ sum e.key before = 0) log

instance [DecidableEq M] (log : List (Posting K M)) : Decidable (Cumulative log) :=
  inferInstanceAs (Decidable (EachAfter _ log))

instance [DecidableEq M] (ttl : Int) (log : List (Posting K M)) : Decidable (Timely ttl log) :=
  inferInstanceAs (Decidable (EachAfter _ log))

section Totals

variable {ttl : Int} {log : List (Posting K M)}

/-- In a cumulative log the last posting to an account has the sum of the account. -/
theorem Cumulative.total_last
    (h : Cumulative log) {k : K} : ((last k log).map Posting.total).getD 0 = sum k log := by
  induction log using List.reverseRecOn with
  | nil => rfl
  | append_singleton log e ih =>
    obtain ⟨hlog, he⟩ := eachAfter_concat_iff.mp h
    rw [last_concat, sum_concat]
    by_cases hk : e.key = k
    · subst hk
      rw [if_pos rfl, if_pos rfl]
      exact he
    · rw [if_neg hk, if_neg hk, add_zero]
      exact ih hlog

/-- What a posting after a cumulative log finds is the sum, unless a nonzero sum has expired. -/
theorem Cumulative.carried_eq_sum_iff (h : Cumulative log) (e : Posting K M) :
    carried ttl log e = sum e.key log ↔
      ∀ e' ∈ last e.key log, InTime ttl e' e ∨ sum e.key log = 0 := by
  have hlast := h.total_last (k := e.key)
  unfold carried
  cases hfound : last e.key log with
  | none =>
    rw [hfound] at hlast
    exact iff_of_true hlast fun _ h => nomatch h
  | some e' =>
    rw [hfound] at hlast
    change e'.total = sum e.key log at hlast
    dsimp only
    by_cases hin : InTime ttl e' e
    · rw [if_pos hin]
      refine iff_of_true hlast ?_
      rintro _ ⟨⟩
      exact .inl hin
    · rw [if_neg hin]
      constructor
      · rintro hzero _ ⟨⟩
        exact .inr hzero.symm
      · intro htimely
        exact ((htimely e' rfl).resolve_left hin).symm

/-- The totals of a chained log are the sums exactly if every cell is read in time. -/
theorem Chained.cumulative_iff_steps_timely
    (h : Chained ttl log) : Cumulative log ↔ Timely ttl log := by
  induction log using List.reverseRecOn with
  | nil => exact iff_of_true eachAfter_nil eachAfter_nil
  | append_singleton log e ih =>
    obtain ⟨hlog, he⟩ := eachAfter_concat_iff.mp h
    have hiff := ih hlog
    unfold Cumulative Timely at hiff ⊢
    rw [eachAfter_concat_iff, eachAfter_concat_iff, ← hiff]
    refine and_congr_right fun hcumulative => ?_
    rw [← Cumulative.carried_eq_sum_iff hcumulative e, he, add_left_inj]

end Totals

end Posting
end StreamAnalytics
