import Mathlib.Data.List.Basic

/-!
# Caches with a capacity and an expiry time

A cache keeps its entries in the order of their last use, the latest first.  An
entry that is looked up after its expiry time is removed; storing an entry beyond
the capacity removes those that have not been used for the longest time.

The lemmas say where the entries of an updated cache come from.
-/

namespace StreamAnalytics

universe u v

/-- A cached value with its key and its expiry time. -/
structure LruEntry (K : Type u) (V : Type v) where
  key : K
  value : V
  expiresAt : Nat
deriving Repr, DecidableEq

/-- A cache; `entries` is ordered by last use, the latest first. -/
structure LruCache (K : Type u) (V : Type v) where
  capacity : Nat
  ttl : Nat
  entries : List (LruEntry K V)
deriving Repr, DecidableEq

namespace LruCache

variable {K : Type u} {V : Type v} [DecidableEq K] {c : LruCache K V} {k : K} {e : LruEntry K V}

/-- The entry of a key. -/
def find (c : LruCache K V) (k : K) : Option (LruEntry K V) := c.entries.find? fun e => e.key = k

/-- The cache without the entry of a key. -/
def remove (c : LruCache K V) (k : K) : LruCache K V :=
  { c with entries := c.entries.filter fun e => e.key ≠ k }

/-- Looks a key up at the time `now`. -/
def get (c : LruCache K V) (k : K) (now : Nat) : Option V × LruCache K V :=
  match c.find k with
  | none => (none, c)
  | some e =>
    if e.expiresAt < now then (none, c.remove k)
    else (some e.value, { c.remove k with entries := e :: (c.remove k).entries })

/-- Stores a value at the time `now`. -/
def set (c : LruCache K V) (k : K) (v : V) (now : Nat) : LruCache K V :=
  { c with entries := (⟨k, v, now + c.ttl⟩ :: (c.remove k).entries).take c.capacity }

theorem find_eq_some (h : c.find k = some e) : e ∈ c.entries ∧ e.key = k := by
  refine ⟨List.mem_of_find?_eq_some h, ?_⟩
  simpa using List.find?_some h

theorem mem_entries_remove : e ∈ (c.remove k).entries ↔ e ∈ c.entries ∧ e.key ≠ k := by
  simp [remove]

/-- A value found comes from an entry of its key that has not expired. -/
theorem get_eq_some {c' : LruCache K V} {now : Nat} {v : V} (h : c.get k now = (some v, c')) :
    ∃ e ∈ c.entries, e.key = k ∧ e.value = v ∧ now ≤ e.expiresAt := by
  unfold get at h
  cases hfind : c.find k with
  | none => simp [hfind] at h
  | some e =>
    obtain ⟨hmem, hkey⟩ := find_eq_some hfind
    by_cases hexp : e.expiresAt < now
    · simp [hfind, hexp] at h
    · simp only [hfind, hexp, if_false, Prod.mk.injEq, Option.some.injEq] at h
      exact ⟨e, hmem, hkey, h.1, Nat.le_of_not_lt hexp⟩

/-- Looking up adds no entry. -/
theorem mem_entries_get
    (c : LruCache K V) (k : K) (now : Nat) (h : e ∈ (c.get k now).2.entries) : e ∈ c.entries := by
  unfold get at h
  cases hfind : c.find k with
  | none => simpa [hfind] using h
  | some e' =>
    by_cases hexp : e'.expiresAt < now
    · simp only [hfind, hexp, if_true] at h
      exact (mem_entries_remove.mp h).1
    · simp only [hfind, hexp, if_false] at h
      obtain rfl | h := List.mem_cons.mp h
      · exact (find_eq_some hfind).1
      · exact (mem_entries_remove.mp h).1

@[simp] theorem ttl_get (c : LruCache K V) (k : K) (now : Nat) : (c.get k now).2.ttl = c.ttl := by
  unfold get
  cases c.find k with
  | none => rfl
  | some e => by_cases hexp : e.expiresAt < now <;> simp [hexp, remove]

/-- Storing adds no entry but the new one. -/
theorem mem_entries_set {v : V} {now : Nat} (h : e ∈ (c.set k v now).entries) :
    e = ⟨k, v, now + c.ttl⟩ ∨ e ∈ c.entries := by
  obtain h | h := List.mem_cons.mp (List.mem_of_mem_take h)
  · exact .inl h
  · exact .inr (mem_entries_remove.mp h).1

end LruCache
end StreamAnalytics
