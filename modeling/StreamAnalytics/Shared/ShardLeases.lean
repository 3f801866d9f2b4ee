import StreamAnalytics.Shared.ShardRegistry

/-!
# At most one owner of a shard

`Release` reads the record and then deletes whatever the key holds.  If its lease
expires in between and another instance takes the key over, the record of that
instance is deleted, and a third one can acquire the key at once
(`release_deletes_foreign_record`).

As long as `Delete` finds its own record, and no second passes between a reading of the
clock and the write that records it, every held lease is backed by a record of its
instance that is at least as young (`Backed`).  A further instance can then write only
over an expired record, so two held leases always belong to one instance
(`held_leases_of_one_instance`).
-/

namespace StreamAnalytics
namespace ShardRegistry

open Runs Function GoTime

theorem mem_modify {α : Type} {x : α} {xs : List α} {i : Nat} {f : α → α} (h : x ∈ xs.modify i f) :
    x ∈ xs.eraseIdx i ∨ ∃ y, xs[i]? = some y ∧ x = f y := by
  induction xs generalizing i with
  | nil => simp at h
  | cons y ys ih =>
    cases i with
    | zero =>
      rw [List.modify_zero_cons, List.mem_cons] at h
      rcases h with rfl | h
      · exact .inr ⟨y, rfl, rfl⟩
      · exact .inl h
    | succ i =>
      rw [List.modify_succ_cons, List.mem_cons] at h
      rcases h with rfl | h
      · exact .inl (by simp)
      · rcases ih h with hmem | ⟨z, hz, rfl⟩
        · exact .inl (by simp [hmem])
        · exact .inr ⟨z, by simpa using hz, rfl⟩

namespace System

variable {cfg : Config} {s s' : System} {g : Nat} {p : Phase}

/-! ## The invariant -/

/-- The pointer refers to a lease of its instance. -/
def Refers (leases : List Lease) (lease : LeaseRef) : Prop :=
  ∃ l, leases[lease.index]? = some l ∧ l.instanceID = lease.instanceID

/-- What a goroutine knows between its steps. -/
def PhaseOk (cfg : Config) (s : System) : Phase → Prop
  | .acquireFound _ _ current rev => s.kv.Known (fun r => r = current) rev
  | .acquireUpdate instanceID _ nowUnix rev =>
    s.kv.Known (fun r => r.instanceID = instanceID ∨ expired cfg r nowUnix) rev
  | .heartbeatGet lease => Refers s.leases lease
  | .heartbeatFound lease rev =>
    Refers s.leases lease ∧ s.kv.Known (fun r => r.instanceID = lease.instanceID) rev
  | .heartbeatUpdate lease _ rev =>
    Refers s.leases lease ∧ s.kv.Known (fun r => r.instanceID = lease.instanceID) rev
  | .releaseGet lease => Refers s.leases lease
  | .releaseDelete lease => Refers s.leases lease
  | _ => True

/-- The record belongs to the instance of the lease and is not older. -/
def Backed (s : System) (l : Lease) : Prop :=
  ∃ owner rev, s.kv.entry = some (owner, rev) ∧ owner.instanceID = l.instanceID ∧
    unix l.lastSuccess ≤ owner.lastHeartbeatUnix

/-- The invariant of the registry. -/
structure Inv (cfg : Config) (s : System) : Prop where
  versioned : s.kv.Versioned
  past : ∀ l ∈ s.leases, l.lastSuccess ≤ s.now
  backed : ∀ l ∈ s.leases, s.Held cfg l → s.Backed l
  phases : ∀ g, PhaseOk cfg s (s.goroutines g)

/-- Later states: what is known of a revision and of a lease stays true. -/
structure Later (s s' : System) : Prop where
  known : ∀ P rev, s.kv.Known P rev → s'.kv.Known P rev
  refers : ∀ lease, Refers s.leases lease → Refers s'.leases lease

theorem PhaseOk.later (h : PhaseOk cfg s p) (hlater : Later s s') : PhaseOk cfg s' p := by
  cases p with
  | acquireFound instanceID attempts current rev => exact hlater.known _ rev h
  | acquireUpdate instanceID attempts nowUnix rev => exact hlater.known _ rev h
  | heartbeatGet lease => exact hlater.refers lease h
  | heartbeatFound lease rev => exact ⟨hlater.refers lease h.1, hlater.known _ rev h.2⟩
  | heartbeatUpdate lease nowUnix rev => exact ⟨hlater.refers lease h.1, hlater.known _ rev h.2⟩
  | releaseGet lease => exact hlater.refers lease h
  | releaseDelete lease => exact hlater.refers lease h
  | idle => trivial
  | acquireGet instanceID attempts => trivial
  | acquireMissing instanceID attempts => trivial
  | acquireCreate instanceID attempts nowUnix => trivial

/-- The goroutine that has made a step knows what its next step needs. -/
theorem phases_update
    (h : ∀ g, PhaseOk cfg s (s.goroutines g)) (hlater : Later s s') (hp : PhaseOk cfg s' p)
    (g' : Nat) : PhaseOk cfg s' (update s.goroutines g p g') := by
  by_cases hg : g' = g
  · subst hg
    rw [update_self]
    exact hp
  · rw [update_of_ne hg]
    exact (h g').later hlater

theorem Inv.goto (h : Inv cfg s) (hp : PhaseOk cfg s p) : Inv cfg (s.goto g p) :=
  ⟨h.versioned, h.past, h.backed,
    phases_update (s := s) h.phases ⟨fun _ _ hk => hk, fun _ hr => hr⟩ hp⟩

theorem Inv.retry (h : Inv cfg s) (instanceID : String) (attempts : Nat) :
    Inv cfg (s.retry g instanceID attempts) := by
  refine h.goto ?_
  split_ifs
  · trivial
  · trivial

/-! ## Changes of the leases -/

theorem Refers.append
    {leases : List Lease} {lease : LeaseRef} (h : Refers leases lease) (l : Lease) :
    Refers (leases ++ [l]) lease := by
  obtain ⟨l₀, hl₀, hid⟩ := h
  refine ⟨l₀, ?_, hid⟩
  have hlt := (List.getElem?_eq_some_iff.mp hl₀).1
  rw [List.getElem?_append_left hlt]
  exact hl₀

theorem Refers.modify
    {leases : List Lease} {lease : LeaseRef} {f : Lease → Lease} (h : Refers leases lease) (i : Nat)
    (hf : ∀ l, (f l).instanceID = l.instanceID) : Refers (leases.modify i f) lease := by
  obtain ⟨l₀, hl₀, hid⟩ := h
  by_cases hi : i = lease.index
  · refine ⟨f l₀, ?_, (hf l₀).trans hid⟩
    rw [List.getElem?_modify, hl₀]
    simp [hi]
  · refine ⟨l₀, ?_, hid⟩
    rw [List.getElem?_modify, hl₀]
    simp [hi]

/-! ## Writes -/

/--
A prompt write by an instance that owns the record, finds it expired or finds none:
every lease that was held and is so still belongs to that instance.
-/
theorem Inv.backed_put
    {instanceID : String} {l : Lease} (h : Inv cfg s) (hwhole : cfg.ttl % 1000000000 = 0)
    (hentry : ∀ owner rev, s.kv.entry = some (owner, rev) →
      owner.instanceID = instanceID ∨ expired cfg owner (unix s.now))
    (hl : l ∈ s.leases)
    (hheld : s.Held cfg l) :
    l.instanceID = instanceID ∧ unix l.lastSuccess ≤ unix s.now := by
  obtain ⟨owner, rev, howner, hid, hyoung⟩ := h.backed l hl hheld
  rcases hentry owner rev howner with hsame | hexpired
  · exact ⟨hid.symm.trans hsame, unix_le_unix (h.past l hl)⟩
  · -- The record is not older than the lease, so the lease has expired as well.
    have hheld' := hheld.2
    unfold expired Config.ttlSeconds at hexpired
    unfold unix at hexpired hyoung
    omega

/-- A successful `Acquire`. -/
theorem Inv.grant
    {instanceID : String} {nowUnix : Int} (h : Inv cfg s) (hwhole : cfg.ttl % 1000000000 = 0)
    (hprompt : nowUnix = unix s.now)
    (hentry : ∀ owner rev, s.kv.entry = some (owner, rev) →
      owner.instanceID = instanceID ∨ expired cfg owner nowUnix) :
    Inv cfg (s.grant g instanceID nowUnix (s.kv.put ⟨instanceID, nowUnix⟩) s.kv.nextRev) := by
  subst hprompt
  refine ⟨CasCell.versioned_put _ _, fun l hl => ?_, fun l hl hheld => ?_,
    phases_update (s := s) h.phases ⟨fun P rev hk => hk.put _, fun lease hr => hr.append _⟩ trivial⟩
  · rcases List.mem_append.mp hl with hl | hl
    · exact h.past l hl
    · cases List.mem_singleton.mp hl
      exact Nat.le_refl _
  · refine ⟨⟨instanceID, unix s.now⟩, s.kv.nextRev, rfl, ?_⟩
    rcases List.mem_append.mp hl with hl | hl
    · obtain ⟨hid, hle⟩ := h.backed_put hwhole hentry hl hheld
      exact ⟨hid.symm, hle⟩
    · cases List.mem_singleton.mp hl
      exact ⟨rfl, Int.le_refl _⟩

/-- A successful `Heartbeat`. -/
theorem Inv.refresh
    {lease : LeaseRef} {nowUnix : Int} (h : Inv cfg s) (hwhole : cfg.ttl % 1000000000 = 0)
    (hprompt : nowUnix = unix s.now) (hrefers : Refers s.leases lease)
    (hentry : ∀ owner rev, s.kv.entry = some (owner, rev) →
      owner.instanceID = lease.instanceID ∨ expired cfg owner nowUnix) :
    Inv cfg (s.refresh g lease nowUnix (s.kv.put ⟨lease.instanceID, nowUnix⟩) s.kv.nextRev) := by
  subst hprompt
  refine ⟨CasCell.versioned_put _ _, fun l hl => ?_, fun l hl hheld => ?_,
    phases_update (s := s) h.phases ⟨fun P rev hk => hk.put _,
      fun lease' hr => hr.modify _ fun _ => rfl⟩ trivial⟩
  · rcases mem_modify hl with hl | ⟨l₀, -, rfl⟩
    · exact h.past l (List.mem_of_mem_eraseIdx hl)
    · exact Nat.le_refl _
  · refine ⟨⟨lease.instanceID, unix s.now⟩, s.kv.nextRev, rfl, ?_⟩
    rcases mem_modify hl with hl | ⟨l₀, hl₀, rfl⟩
    · obtain ⟨hid, hle⟩ := h.backed_put hwhole hentry (List.mem_of_mem_eraseIdx hl) hheld
      exact ⟨hid.symm, hle⟩
    · obtain ⟨l₁, hl₁, hid⟩ := hrefers
      rw [hl₀] at hl₁
      cases hl₁
      exact ⟨hid.symm, Int.le_refl _⟩

/-- `Release` without a `Delete`. -/
theorem Inv.markReleased (h : Inv cfg s) (lease : LeaseRef) : Inv cfg (s.markReleased g lease) := by
  refine ⟨h.versioned, fun l hl => ?_, fun l hl hheld => ?_,
    phases_update (s := s) h.phases ⟨fun _ _ hk => hk,
      fun lease' hr => hr.modify _ fun _ => rfl⟩ trivial⟩
  · rcases mem_modify hl with hl | ⟨l₀, hl₀, rfl⟩
    · exact h.past l (List.mem_of_mem_eraseIdx hl)
    · exact h.past l₀ (List.mem_of_getElem? hl₀)
  · rcases mem_modify hl with hl | ⟨l₀, hl₀, rfl⟩
    · exact h.backed l (List.mem_of_mem_eraseIdx hl) hheld
    · cases hheld.1

/-- A `Delete` that leaves no held lease behind. -/
theorem Inv.delete {lease : LeaseRef} (h : Inv cfg s)
    (hown : ∀ owner ∈ s.kv.entry, owner.1.instanceID = lease.instanceID)
    (hsole : ∀ l ∈ s.leases.eraseIdx lease.index, l.instanceID = lease.instanceID →
      ¬ s.Held cfg l) : Inv cfg (System.markReleased { s with kv := s.kv.delete } g lease) := by
  refine ⟨CasCell.versioned_delete _, fun l hl => ?_, fun l hl hheld => ?_,
    phases_update (s := s) h.phases ⟨fun P rev hk => hk.delete,
      fun lease' hr => hr.modify _ fun _ => rfl⟩ trivial⟩
  · rcases mem_modify hl with hl | ⟨l₀, hl₀, rfl⟩
    · exact h.past l (List.mem_of_mem_eraseIdx hl)
    · exact h.past l₀ (List.mem_of_getElem? hl₀)
  · rcases mem_modify hl with hl | ⟨l₀, hl₀, rfl⟩
    · obtain ⟨owner, rev, howner, hid, -⟩ := h.backed l (List.mem_of_mem_eraseIdx hl) hheld
      exact absurd hheld (hsole l hl (hid.symm.trans (hown (owner, rev) howner)))
    · cases hheld.1

/-! ## Steps and runs -/

theorem Inv.startOn (h : Inv cfg s) (lease : Nat) (phase : LeaseRef → Phase)
    (hphase : ∀ ref, Refers s.leases ref → PhaseOk cfg s (phase ref)) :
    Inv cfg (s.startOn g lease phase) := by
  unfold System.startOn
  split
  · rename_i l _ hl
    exact h.goto (hphase _ ⟨l, hl, rfl⟩)
  · exact h

/-- Each step of a goroutine keeps the invariant. -/
theorem Inv.advance
    (h : Inv cfg s) (hwhole : cfg.ttl % 1000000000 = 0) (horderly : Orderly cfg s (.advance g)) :
    Inv cfg (s.advance cfg g) := by
  have hphase := h.phases g
  change OrderlyStep cfg s (s.goroutines g) at horderly
  unfold System.advance
  cases hg : s.goroutines g with
  | idle => exact h
  | acquireGet instanceID attempts =>
    dsimp only
    cases hentry : s.kv.entry with
    | none => exact h.goto trivial
    | some owner => exact h.goto (h.versioned.known hentry rfl)
  | acquireMissing instanceID attempts => exact h.goto trivial
  | acquireCreate instanceID attempts nowUnix =>
    rw [hg] at horderly
    dsimp only
    cases hwrite : s.kv.create ⟨instanceID, nowUnix⟩ with
    | error e => exact h.retry instanceID attempts
    | ok r =>
      obtain ⟨hnone, rfl⟩ := CasCell.create_eq_ok hwrite
      refine h.grant hwhole horderly fun owner rev hentry => ?_
      rw [hnone] at hentry
      cases hentry
  | acquireFound instanceID attempts current rev =>
    rw [hg] at hphase
    dsimp only
    split_ifs with hconflict
    · exact h.goto trivial
    · refine h.goto (CasCell.Known.imp hphase fun r hr => ?_)
      subst hr
      by_cases hid : r.instanceID = instanceID
      · exact .inl hid
      · exact .inr (by_contra fun hnot => hconflict ⟨hid, hnot⟩)
  | acquireUpdate instanceID attempts nowUnix rev =>
    rw [hg] at hphase horderly
    dsimp only
    cases hwrite : s.kv.update ⟨instanceID, nowUnix⟩ rev with
    | error e => exact h.retry instanceID attempts
    | ok r =>
      obtain ⟨⟨old, hold⟩, rfl⟩ := CasCell.update_eq_ok hwrite
      refine h.grant hwhole horderly fun owner rev' hentry => ?_
      rw [hold] at hentry
      cases hentry
      exact hphase.2 old hold
  | heartbeatGet lease =>
    rw [hg] at hphase
    dsimp only
    cases hentry : s.kv.entry with
    | none => exact h.goto trivial
    | some owner =>
      dsimp only
      split_ifs with hother
      · exact h.goto trivial
      · exact h.goto ⟨hphase, h.versioned.known hentry (not_not.mp hother)⟩
  | heartbeatFound lease rev =>
    rw [hg] at hphase
    exact h.goto hphase
  | heartbeatUpdate lease nowUnix rev =>
    rw [hg] at hphase horderly
    dsimp only
    cases hwrite : s.kv.update ⟨lease.instanceID, nowUnix⟩ rev with
    | error e => exact h.goto trivial
    | ok r =>
      obtain ⟨⟨old, hold⟩, rfl⟩ := CasCell.update_eq_ok hwrite
      refine h.refresh hwhole horderly hphase.1 fun owner rev' hentry => ?_
      rw [hold] at hentry
      cases hentry
      exact .inl (hphase.2.2 old hold)
  | releaseGet lease =>
    rw [hg] at hphase
    dsimp only
    cases hentry : s.kv.entry with
    | none => exact h.markReleased lease
    | some owner =>
      dsimp only
      split_ifs
      · exact h.markReleased lease
      · exact h.goto hphase
  | releaseDelete lease =>
    rw [hg] at horderly
    exact h.delete horderly.1 horderly.2

/-- Each orderly event keeps the invariant. -/
theorem Inv.step
    {e : Event} (h : Inv cfg s) (hwhole : cfg.ttl % 1000000000 = 0) (horderly : Orderly cfg s e) :
    Inv cfg (s.step cfg e) := by
  cases e with
  | tick nanos =>
    refine ⟨h.versioned, fun l hl => Nat.le_trans (h.past l hl) (Nat.le_add_right _ _),
      fun l hl hheld => h.backed l hl ⟨hheld.1, ?_⟩, h.phases⟩
    have hle := hheld.2
    simp only [System.step] at hle
    omega
  | acquire g shardCount instanceID =>
    simp only [System.step]
    split_ifs
    · exact h.goto trivial
    · exact h
  | heartbeat g lease => exact h.startOn lease .heartbeatGet fun _ hr => hr
  | release g lease => exact h.startOn lease .releaseGet fun _ hr => hr
  | advance g => exact h.advance hwhole horderly
  | abort g => exact h.goto trivial

theorem inv_initial (now : Nat) : Inv cfg (initial now) :=
  ⟨fun _ _ h => (nomatch h), fun _ h => (nomatch h), fun _ h => (nomatch h), fun _ => trivial⟩

/--
For a lease duration of whole seconds: in every run of orderly events, all leases that
are held at the same time belong to one instance.
-/
theorem held_leases_of_one_instance
    (cfg : Config) (now : Nat) (events : List Event) (hwhole : cfg.ttl % 1000000000 = 0)
    (hevents : Always (step cfg) (Orderly cfg) (initial now) events) :
    let s := run (step cfg) (initial now) events
    ∀ l ∈ s.leases, ∀ l' ∈ s.leases, s.Held cfg l → s.Held cfg l' →
      l.instanceID = l'.instanceID := by
  have hinv : Inv cfg (run (step cfg) (initial now) events) :=
    invariant_of_always (fun _ _ h he => h.step hwhole he) (inv_initial now) hevents
  intro s l hl l' hl' hheld hheld'
  obtain ⟨owner, rev, howner, hid, -⟩ := hinv.backed l hl hheld
  obtain ⟨owner', rev', howner', hid', -⟩ := hinv.backed l' hl' hheld'
  rw [howner] at howner'
  cases howner'
  exact hid.symm.trans hid'

/-! ## Runs of three instances -/

/-- Some reading of the clock. -/
def startTime : Nat := 63835596800000000000

/-- A goroutine acquires the key without a retry. -/
def acquiring (g : Nat) (instanceID : String) : List Event :=
  [.acquire g 1 instanceID, .advance g, .advance g, .advance g]

/-- The instances of the leases that are held. -/
def holders (cfg : Config) (s : System) : List String :=
  (s.leases.filter fun l => s.Held cfg l).map Lease.instanceID

/-- A lease is renewed, expires and is taken over. -/
theorem held_after_takeover :
    let events := acquiring 1 "a" ++ [.tick 10000000000, .heartbeat 1 0] ++
      [.advance 1, .advance 1, .advance 1, .tick 31000000000] ++ acquiring 2 "b"
    let s := run (step {}) (initial startTime) events
    holders {} s = ["b"] ∧
    ∀ l ∈ s.leases, ∀ l' ∈ s.leases, s.Held {} l → s.Held {} l' → l.instanceID = l'.instanceID :=
  ⟨by decide, held_leases_of_one_instance {} startTime _ (by decide) (by decide)⟩

/--
The lease of `a` expires between the two steps of its `Release`, `b` takes the key over,
and the `Delete` of `a` removes the record of `b`, so that `c` acquires the key as well.
The other two runs violate the further conditions: the clock advances before the write
that records its reading, and the lease duration is no whole number of seconds.
-/
theorem release_deletes_foreign_record :
    let before := run (step {}) (initial startTime)
      (acquiring 1 "a" ++ [.release 1 0, .advance 1, .tick 31000000000] ++ acquiring 2 "b")
    let after := run (step {}) before ([.advance 1] ++ acquiring 3 "c")
    let stale := run (step {}) (initial startTime)
      ([.acquire 1 1 "a", .advance 1, .advance 1, .tick 31000000000, .advance 1] ++
        acquiring 2 "b")
    let short : Config := { leaseTTL := 1500000000 }
    let rounded := run (step short) (initial (startTime + 900000000))
      (acquiring 1 "a" ++ [.tick 1100000000] ++ acquiring 2 "b")
    before.goroutines 1 = .releaseDelete ⟨0, "a"⟩ ∧
    before.kv.entry.map (fun owner => owner.1.instanceID) = some "b" ∧
    (before.step {} (.advance 1)).kv.entry = none ∧
    holders {} after = ["b", "c"] ∧
    holders {} stale = ["a", "b"] ∧
    holders short rounded = ["a", "b"] := by
  decide

end System

end ShardRegistry
end StreamAnalytics
