import Mathlib.Algebra.Ring.Nat
import StreamAnalytics.Lib.GoMap

/-!
# The bounded LRU map

Model of `internal/shared/ds/boundedmap.go`: a map with a size bound, least
recently used eviction, and an optional time to live.

Clock readings are nanoseconds since the zero time; durations are nanoseconds.
Every operation takes the reading that the source obtains from `clock.Now()`.
`items` is the hash map, `lru` the list of its keys with the most recently used
key first.  The list elements of the source carry their key, so removing or
moving the element of an entry is removing or moving the key.  The callback is
represented by the list of eviction events that an operation passes to it.
-/

namespace StreamAnalytics

universe u v

/-- The reasons passed to the eviction callback. -/
inductive EvictReason where
  | size
  | ttl
  | unknown
deriving Repr, DecidableEq

/-- `boundedEntry` without its key and list element. -/
structure BoundedEntry (V : Type v) where
  value : V
  expiresAt : Nat
deriving Repr, DecidableEq

/-- `evictionEvent`. -/
structure EvictionEvent (K : Type u) (V : Type v) where
  key : K
  value : V
  reason : EvictReason
deriving Repr, DecidableEq

/-- `BoundedMap`. -/
structure BoundedMap (K : Type u) (V : Type v) where
  maxSize : Nat
  ttl : Int
  items : GoMap K (BoundedEntry V)
  lru : List K
  /-- Whether an eviction callback is set. -/
  onEvict : Bool
  opCount : Nat
  sweepEveryOps : Nat
  sweepMinInterval : Int
  lastSweep : Nat

namespace BoundedMap

variable {K : Type u} {V : Type v}

/-- `NewBoundedMap`. -/
def create (maxSize : Int) (ttl : Int) (now : Nat) : BoundedMap K V where
  maxSize := if maxSize ≤ 0 then 1 else maxSize.toNat
  ttl := ttl
  items := ∅
  lru := []
  onEvict := false
  opCount := 0
  sweepEveryOps := 0
  sweepMinInterval := 0
  lastSweep := now

/-- `SetOnEvict` with a non-nil callback. -/
def setOnEvict (m : BoundedMap K V) : BoundedMap K V := { m with onEvict := true }

/-- `SetSweepEveryOps`. -/
def setSweepEveryOps (m : BoundedMap K V) (n : Nat) : BoundedMap K V :=
  { m with sweepEveryOps := n }

/-- `SetSweepMinInterval`. -/
def setSweepMinInterval (m : BoundedMap K V) (d : Int) : BoundedMap K V :=
  { m with sweepMinInterval := d }

/-- `Len`. -/
def len (m : BoundedMap K V) : Nat := m.items.size

/-- `nextExpiryAt`: the zero time stands for "never". -/
def nextExpiryAt (m : BoundedMap K V) (now : Nat) : Nat :=
  if m.ttl ≤ 0 then 0 else now + m.ttl.toNat

/-- `isExpiredAt`. -/
def isExpiredAt (m : BoundedMap K V) (entry : BoundedEntry V) (now : Nat) : Bool :=
  if m.ttl ≤ 0 then false
  else !(entry.expiresAt == 0) && decide (entry.expiresAt ≤ now)

variable [DecidableEq K]

/-- `evictLocked`. -/
def evictLocked (m : BoundedMap K V) (key : K) (entry : BoundedEntry V) (reason : EvictReason) :
    BoundedMap K V × Option (EvictionEvent K V) :=
  ({ m with items := m.items.erase key, lru := m.lru.erase key },
    if m.onEvict then some ⟨key, entry.value, reason⟩ else none)

/-- The loop of `sweepLocked` over the entries of the map. -/
def sweepLoop (now : Nat) :
    List (Sigma fun _ : K => BoundedEntry V) → BoundedMap K V →
      BoundedMap K V × List (EvictionEvent K V)
  | [], m => (m, [])
  | e :: es, m =>
    if m.isExpiredAt e.2 now then
      let (m₁, ev) := m.evictLocked e.1 e.2 .ttl
      let (m₂, evs) := sweepLoop now es m₁
      (m₂, ev.toList ++ evs)
    else
      sweepLoop now es m

/-- `sweepLocked`. -/
def sweepLocked (m : BoundedMap K V) (now : Nat) :
    BoundedMap K V × List (EvictionEvent K V) :=
  if m.ttl ≤ 0 ∨ m.items.size = 0 then (m, [])
  else sweepLoop now m.items.entries m

/-- Whether `maybeSweepLocked` sweeps. -/
def sweepDue (m : BoundedMap K V) (now : Nat) : Bool :=
  decide (0 < m.ttl) &&
    ((decide (0 < m.sweepEveryOps) && m.opCount % m.sweepEveryOps == 0) ||
      (decide (0 < m.sweepMinInterval) &&
        decide (m.sweepMinInterval ≤ (now : Int) - m.lastSweep)))

/-- `maybeSweepLocked`. -/
def maybeSweepLocked (m : BoundedMap K V) (now : Nat) :
    BoundedMap K V × List (EvictionEvent K V) :=
  if m.sweepDue now then
    let (m₁, evs) := m.sweepLocked now
    ({ m₁ with lastSweep := now }, evs)
  else
    (m, [])

/-- Every `Get`, `Put` and `Delete` counts one operation (a `uint64`). -/
def countOp (m : BoundedMap K V) : BoundedMap K V := { m with opCount := (m.opCount + 1) % 2 ^ 64 }

/-- `lru.MoveToFront` for the element of a present key. -/
def moveToFront (m : BoundedMap K V) (key : K) : BoundedMap K V :=
  { m with lru := key :: m.lru.erase key }

/-- `Get`. -/
def get (m : BoundedMap K V) (now : Nat) (key : K) :
    Option V × BoundedMap K V × List (EvictionEvent K V) :=
  let m := m.countOp
  match m.items.lookup key with
  | none =>
    let (m₁, evs) := m.maybeSweepLocked now
    (none, m₁, evs)
  | some entry =>
    if m.isExpiredAt entry now then
      let (m₁, ev) := m.evictLocked key entry .ttl
      let (m₂, evs) := m₁.maybeSweepLocked now
      (none, m₂, ev.toList ++ evs)
    else
      let (m₁, evs) := (m.moveToFront key).maybeSweepLocked now
      (some entry.value, m₁, evs)

/-- The eviction that `Put` performs before inserting a new key. -/
def makeRoom (m : BoundedMap K V) : BoundedMap K V × List (EvictionEvent K V) :=
  if m.maxSize ≤ m.items.size then
    match m.lru.getLast? with
    | none => (m, [])
    | some tailKey =>
      match m.items.lookup tailKey with
      | none => (m, [])
      | some old =>
        let (m₁, ev) := m.evictLocked tailKey old .size
        (m₁, ev.toList)
  else
    (m, [])

/-- `Put`. -/
def put (m : BoundedMap K V) (now : Nat) (key : K) (value : V) :
    BoundedMap K V × List (EvictionEvent K V) :=
  let m := m.countOp
  if key ∈ m.items then
    let m₁ := { m with items := m.items.insert key ⟨value, m.nextExpiryAt now⟩ }
    (m₁.moveToFront key).maybeSweepLocked now
  else
    let (m₁, evicted) := m.makeRoom
    let m₂ := { m₁ with
      lru := key :: m₁.lru
      items := m₁.items.insert key ⟨value, m₁.nextExpiryAt now⟩ }
    let (m₃, evs) := m₂.maybeSweepLocked now
    (m₃, evicted ++ evs)

/-- `Delete`. -/
def delete (m : BoundedMap K V) (now : Nat) (key : K) :
    BoundedMap K V × List (EvictionEvent K V) :=
  let m := m.countOp
  match m.items.lookup key with
  | none => m.maybeSweepLocked now
  | some entry =>
    let (m₁, ev) := m.evictLocked key entry .unknown
    let (m₂, evs) := m₁.maybeSweepLocked now
    (m₂, ev.toList ++ evs)

/-- `Sweep`, without the removal count it reports. -/
def sweep (m : BoundedMap K V) (now : Nat) :
    BoundedMap K V × List (EvictionEvent K V) :=
  let (m₁, evs) := m.sweepLocked now
  ({ m₁ with lastSweep := now }, evs)

end BoundedMap
end StreamAnalytics
