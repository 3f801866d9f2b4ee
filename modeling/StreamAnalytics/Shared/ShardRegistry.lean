import StreamAnalytics.Lib.CasCell
import StreamAnalytics.Lib.GoStrings
import StreamAnalytics.Lib.GoTime
import StreamAnalytics.Lib.Runs

/-!
# The shard registry

Model of `internal/shared/shardregistry/registry.go` for one shard key.

Any number of goroutines run `Acquire`, `Heartbeat` and `Release` against one key of
the store.  Each call of the store and each reading of the clock is one step of the
goroutine that makes it (`Phase` says which step is next), and the steps interleave in
any order with each other and with the clock.

An owner record is the instance id and the heartbeat of the source; the registry
writes only records that decode again, since `Acquire` trims the id and refuses an
empty one.  A lease keeps, besides the fields of the source, when its last `Acquire`
or `Heartbeat` succeeded and whether it has been released.

`int64(leaseTTL.Seconds())` is the duration in whole seconds; for durations of many
weeks that are no whole number of seconds, the float may round up.
-/

namespace StreamAnalytics
namespace ShardRegistry

open GoTime

/-- `DefaultLeaseTTL`, in nanoseconds. -/
def defaultLeaseTTL : Int := 30000000000

/-- `Config`, the shard index of the key among it. -/
structure Config where
  leaseTTL : Int := 0
  shardIndex : Int := 0

/-- The lease duration that `NewWithKV` sets. -/
def Config.ttl (cfg : Config) : Int := if cfg.leaseTTL ≤ 0 then defaultLeaseTTL else cfg.leaseTTL

/-- `int64(r.leaseTTL.Seconds())`. -/
def Config.ttlSeconds (cfg : Config) : Int := cfg.ttl / 1000000000

/-- `ownerRecord`. -/
structure OwnerRecord where
  instanceID : String
  lastHeartbeatUnix : Int
deriving Repr, DecidableEq

/-- The record has expired at the given second. -/
def expired (cfg : Config) (current : OwnerRecord) (nowUnix : Int) : Prop :=
  cfg.ttlSeconds < nowUnix - current.lastHeartbeatUnix

instance (cfg : Config) (current : OwnerRecord) (nowUnix : Int) :
    Decidable (expired cfg current nowUnix) :=
  inferInstanceAs (Decidable (_ < _))

/-- `lease`. -/
structure Lease where
  instanceID : String
  rev : Nat
  lastHeartbeatUnix : Int
  lastSuccess : Nat
  released : Bool
deriving Repr, DecidableEq

/-- A pointer to a lease, with the id that never changes. -/
structure LeaseRef where
  index : Nat
  instanceID : String
deriving Repr, DecidableEq

/-- The next step of a goroutine; `attempts` counts what is left of the 32 rounds of `Acquire`. -/
inductive Phase where
  | idle
  | acquireGet (instanceID : String) (attempts : Nat)
  | acquireMissing (instanceID : String) (attempts : Nat)
  | acquireCreate (instanceID : String) (attempts : Nat) (nowUnix : Int)
  | acquireFound (instanceID : String) (attempts : Nat) (current : OwnerRecord) (rev : Nat)
  | acquireUpdate (instanceID : String) (attempts : Nat) (nowUnix : Int) (rev : Nat)
  | heartbeatGet (lease : LeaseRef)
  | heartbeatFound (lease : LeaseRef) (rev : Nat)
  | heartbeatUpdate (lease : LeaseRef) (nowUnix : Int) (rev : Nat)
  | releaseGet (lease : LeaseRef)
  | releaseDelete (lease : LeaseRef)
deriving DecidableEq

/-- The key of the store, the clock, the leases handed out and the running goroutines. -/
structure System where
  kv : CasCell OwnerRecord
  now : Nat
  leases : List Lease
  goroutines : Nat → Phase

/-- The registry before the first call. -/
def System.initial (now : Nat) : System where
  kv := {}
  now := now
  leases := []
  goroutines := fun _ => .idle

/--
What can happen next: time passes, a goroutine starts a call, makes its next step, or
stops because its context is cancelled or the store fails.
-/
inductive Event where
  | tick (nanos : Nat)
  | acquire (goroutine : Nat) (shardCount : Int) (instanceID : String)
  | heartbeat (goroutine : Nat) (lease : Nat)
  | release (goroutine : Nat) (lease : Nat)
  | advance (goroutine : Nat)
  | abort (goroutine : Nat)
deriving DecidableEq

namespace System

/-- The goroutine continues with the given step. -/
def goto (s : System) (g : Nat) (phase : Phase) : System :=
  { s with goroutines := Function.update s.goroutines g phase }

/-- The next round of `Acquire`, if there is one. -/
def retry (s : System) (g : Nat) (instanceID : String) (attempts : Nat) : System :=
  s.goto g (if attempts ≤ 1 then .idle else .acquireGet instanceID (attempts - 1))

/-- A successful `Acquire`: the lease is returned. -/
def grant (s : System) (g : Nat) (instanceID : String) (nowUnix : Int)
    (kv : CasCell OwnerRecord) (rev : Nat) : System :=
  goto
    { s with
      kv := kv
      leases := s.leases ++ [⟨instanceID, rev, nowUnix, s.now, false⟩] }
    g .idle

/-- A successful `Heartbeat`: the lease is refreshed. -/
def refresh (s : System) (g : Nat) (lease : LeaseRef) (nowUnix : Int)
    (kv : CasCell OwnerRecord) (rev : Nat) : System :=
  goto
    { s with
      kv := kv
      leases := s.leases.modify lease.index fun l =>
        { l with rev := rev, lastHeartbeatUnix := nowUnix, lastSuccess := s.now } }
    g .idle

/-- `Release` returns: the lease is held no longer. -/
def markReleased (s : System) (g : Nat) (lease : LeaseRef) : System :=
  goto
    { s with
      leases := s.leases.modify lease.index fun l => { l with released := true } }
    g .idle

/-- One step of a goroutine. -/
def advance (cfg : Config) (s : System) (g : Nat) : System :=
  match s.goroutines g with
  | .idle => s
  | .acquireGet instanceID attempts =>
    match s.kv.entry with
    | none => s.goto g (.acquireMissing instanceID attempts)
    | some (current, rev) => s.goto g (.acquireFound instanceID attempts current rev)
  | .acquireMissing instanceID attempts =>
    s.goto g (.acquireCreate instanceID attempts (unix s.now))
  | .acquireCreate instanceID attempts nowUnix =>
    match s.kv.create ⟨instanceID, nowUnix⟩ with
    | .error _ => s.retry g instanceID attempts
    | .ok (kv, rev) => s.grant g instanceID nowUnix kv rev
  | .acquireFound instanceID attempts current rev =>
    if current.instanceID ≠ instanceID ∧ ¬ expired cfg current (unix s.now) then
      s.goto g .idle
    else
      s.goto g (.acquireUpdate instanceID attempts (unix s.now) rev)
  | .acquireUpdate instanceID attempts nowUnix rev =>
    match s.kv.update ⟨instanceID, nowUnix⟩ rev with
    | .error _ => s.retry g instanceID attempts
    | .ok (kv, rev) => s.grant g instanceID nowUnix kv rev
  | .heartbeatGet lease =>
    match s.kv.entry with
    | none => s.goto g .idle
    | some (current, rev) =>
      if current.instanceID ≠ lease.instanceID then s.goto g .idle
      else s.goto g (.heartbeatFound lease rev)
  | .heartbeatFound lease rev => s.goto g (.heartbeatUpdate lease (unix s.now) rev)
  | .heartbeatUpdate lease nowUnix rev =>
    match s.kv.update ⟨lease.instanceID, nowUnix⟩ rev with
    | .error _ => s.goto g .idle
    | .ok (kv, rev) => s.refresh g lease nowUnix kv rev
  | .releaseGet lease =>
    match s.kv.entry with
    | none => s.markReleased g lease
    | some (current, _) =>
      if current.instanceID ≠ lease.instanceID then s.markReleased g lease
      else s.goto g (.releaseDelete lease)
  | .releaseDelete lease => markReleased { s with kv := s.kv.delete } g lease

/-- A goroutine that is not running starts a call on a lease. -/
def startOn (s : System) (g lease : Nat) (phase : LeaseRef → Phase) : System :=
  match s.goroutines g, s.leases[lease]? with
  | .idle, some l => s.goto g (phase ⟨lease, l.instanceID⟩)
  | _, _ => s

/-- One event. -/
def step (cfg : Config) (s : System) : Event → System
  | .tick nanos => { s with now := s.now + nanos }
  | .acquire g shardCount instanceID =>
    -- The checks of `Acquire`; a call that fails one of them does not reach the store.
    if s.goroutines g = .idle ∧ 1 ≤ shardCount ∧ 0 ≤ cfg.shardIndex ∧
        cfg.shardIndex < shardCount ∧ GoStrings.trimSpace instanceID ≠ "" then
      s.goto g (.acquireGet (GoStrings.trimSpace instanceID) 32)
    else s
  | .heartbeat g lease => s.startOn g lease .heartbeatGet
  | .release g lease => s.startOn g lease .releaseGet
  | .advance g => s.advance cfg g
  | .abort g => s.goto g .idle

/-! ## Leases that are held -/

/-- The lease is not released, and its last success lies within the lease duration. -/
def Held (cfg : Config) (s : System) (l : Lease) : Prop :=
  l.released = false ∧ (s.now : Int) - l.lastSuccess ≤ cfg.ttl

instance (cfg : Config) (s : System) (l : Lease) : Decidable (s.Held cfg l) :=
  inferInstanceAs (Decidable (_ ∧ _))

/--
The condition on a step.  No time passes, in seconds, between the reading of the clock
and the write that records it, and `Delete` finds no record of another instance and no
further held lease of its own one.
-/
def OrderlyStep (cfg : Config) (s : System) : Phase → Prop
  | .acquireCreate _ _ nowUnix => nowUnix = unix s.now
  | .acquireUpdate _ _ nowUnix _ => nowUnix = unix s.now
  | .heartbeatUpdate _ nowUnix _ => nowUnix = unix s.now
  | .releaseDelete lease =>
    (∀ owner ∈ s.kv.entry, owner.1.instanceID = lease.instanceID) ∧
      ∀ l ∈ s.leases.eraseIdx lease.index, l.instanceID = lease.instanceID → ¬ s.Held cfg l
  | _ => True

instance (cfg : Config) (s : System) (p : Phase) : Decidable (OrderlyStep cfg s p) :=
  match p with
  | .acquireCreate _ _ nowUnix => inferInstanceAs (Decidable (nowUnix = unix s.now))
  | .acquireUpdate _ _ nowUnix _ => inferInstanceAs (Decidable (nowUnix = unix s.now))
  | .heartbeatUpdate _ nowUnix _ => inferInstanceAs (Decidable (nowUnix = unix s.now))
  | .releaseDelete lease => inferInstanceAs (Decidable
      ((∀ owner ∈ s.kv.entry, owner.1.instanceID = lease.instanceID) ∧
        ∀ l ∈ s.leases.eraseIdx lease.index, l.instanceID = lease.instanceID → ¬ s.Held cfg l))
  | .idle => isTrue trivial
  | .acquireGet _ _ => isTrue trivial
  | .acquireMissing _ _ => isTrue trivial
  | .acquireFound _ _ _ _ => isTrue trivial
  | .heartbeatGet _ => isTrue trivial
  | .heartbeatFound _ _ => isTrue trivial
  | .releaseGet _ => isTrue trivial

/-- The condition on an event: the next step of the goroutine is orderly. -/
def Orderly (cfg : Config) (s : System) : Event → Prop
  | .advance g => OrderlyStep cfg s (s.goroutines g)
  | _ => True

instance (cfg : Config) (s : System) (e : Event) : Decidable (Orderly cfg s e) :=
  match e with
  | .advance g => inferInstanceAs (Decidable (OrderlyStep cfg s (s.goroutines g)))
  | .tick _ => isTrue trivial
  | .acquire _ _ _ => isTrue trivial
  | .heartbeat _ _ => isTrue trivial
  | .release _ _ => isTrue trivial
  | .abort _ => isTrue trivial

end System

end ShardRegistry
end StreamAnalytics
