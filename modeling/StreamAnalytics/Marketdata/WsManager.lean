import Mathlib.Data.List.Nodup
import Mathlib.Data.List.Perm.Basic
import StreamAnalytics.Lib.Runs
import StreamAnalytics.Shared.Problem

/-!
# The websocket manager

Model of `internal/actors/marketdata/ws/manager.go`: `Plan` distributes the tickers over
buckets, the manager spawns one consumer for each bucket and replaces the consumers
whose lifetime has passed, keeping the old one for an overlap.  Consumers are numbered
in the order in which they are spawned; `live` records those that were spawned and not
poisoned yet.  The clock advances between messages only.

Every bucket keeps its one stream.  The number of consumers stays within `MaxWebsockets`
exactly when no tick replaces more streams than there is room for: the plan reserves one
connection, however many streams expire together (`consumers_within_iff`).
-/

namespace StreamAnalytics
namespace Ws

/-! ## Planning -/

/-- The fill strategies that `Plan` resolves to. -/
inductive FillStrategy where
  | first
  | evenly
deriving DecidableEq

/-- The fields of `ManagerConfig` that planning and replacing streams read. -/
structure ManagerConfig where
  sendTo : Option String
  exchange : String
  tickers : List String
  streamsPerTicker : Int
  maxStreamsPerWebsocket : Int := 0
  fillStrategy : String := ""
  maxWebsockets : Int := 0
  maxWebsocketLifetime : Int := 0
  respawnOverlap : Int := 0
  endpointBuilder : Option (List String → String)

/-- `ManagerPlan`. -/
structure ManagerPlan where
  config : ManagerConfig
  endpoint : List String → String
  resolvedFillStrategy : FillStrategy
  websocketCapacity : Int
  tickerCapacityPerWebsocket : Int
  buckets : List (List String)

/-- Cuts the tickers into at most the given number of buckets; what is left over remains. -/
def fillFirst (size : Nat) : Nat → List String → List (List String) × List String
  | 0, rest => ([], rest)
  | n + 1, rest =>
    if rest = [] then ([], [])
    else ((rest.take size) :: (fillFirst size n (rest.drop size)).1,
      (fillFirst size n (rest.drop size)).2)

/-- Deals the tickers out to the given number of buckets. -/
def fillEvenly (n : Nat) (tickers : List String) : List (List String) :=
  (List.range n).map fun j => (tickers.zipIdx.filter fun p => p.2 % n = j).map Prod.fst

/-- `bucketTickers`. -/
def bucketTickers (tickers : List String) (strategy : FillStrategy)
    (maxWebsockets tickerCapacity : Int) : Except Problem (List (List String)) :=
  if tickers = [] then .error (.new .validationFailed "tickers are required")
  else if maxWebsockets < 1 then .error (.new .validationFailed "max websockets must be >= 1")
  else if tickerCapacity < 1 then
    .error (.new .validationFailed "ticker capacity per websocket must be >= 1")
  else
    match strategy with
    | .first =>
      let filled := fillFirst tickerCapacity.toNat maxWebsockets.toNat tickers
      if filled.2 ≠ [] then
        .error (.new .validationFailed "not enough websocket capacity for first fill strategy")
      else .ok filled.1
    | .evenly =>
      let buckets := (fillEvenly maxWebsockets.toNat tickers).filter (· ≠ [])
      match buckets.find? fun bucket => tickerCapacity < bucket.length with
      | some bucket =>
        .error (.newf .validationFailed "bucket exceeds ticker capacity: %d > %d"
          [.int bucket.length, .int tickerCapacity])
      | none => .ok buckets

namespace ManagerConfig

/-- The defaults of `Plan`. -/
def withDefaults (cfg : ManagerConfig) : ManagerConfig :=
  { cfg with
    maxStreamsPerWebsocket :=
      if cfg.maxStreamsPerWebsocket = 0 then 1000 else cfg.maxStreamsPerWebsocket
    maxWebsockets := if cfg.maxWebsockets = 0 then 5 else cfg.maxWebsockets
    maxWebsocketLifetime :=
      if cfg.maxWebsocketLifetime = 0 then 3600000000000 else cfg.maxWebsocketLifetime }

/-- The strategy that `Plan` resolves to; every other text counts as automatic. -/
def resolvedFillStrategy (cfg : ManagerConfig) : FillStrategy :=
  if cfg.fillStrategy = "first" then .first
  else if cfg.fillStrategy = "evenly" then .evenly
  else if 50 < cfg.tickers.length then .evenly
  else .first

/-- The number of buckets that may be filled: one connection is kept for the overlap. -/
def websocketCapacity (cfg : ManagerConfig) : Int :=
  if 0 < cfg.respawnOverlap then cfg.maxWebsockets - 1 else cfg.maxWebsockets

/-- The rest of `Plan`, after the defaults. -/
def planBuckets (cfg : ManagerConfig) (endpoint : List String → String) :
    Except Problem ManagerPlan :=
  let capacity := cfg.websocketCapacity
  let perWebsocket := cfg.maxStreamsPerWebsocket.tdiv cfg.streamsPerTicker
  if capacity < 1 then
    .error (.new .validationFailed
      "MaxWebsockets must be >= 1 without overlap and >= 2 with overlap")
  else if perWebsocket < 1 then
    .error (.newf .validationFailed
      "MaxStreamsPerWebsocket must support at least one ticker: maxStreams=%d streamsPerTicker=%d"
      [.int cfg.maxStreamsPerWebsocket, .int cfg.streamsPerTicker])
  else if capacity * perWebsocket < cfg.tickers.length then
    .error (.newf .validationFailed "total streams (%d) exceed maximum capacity (%d)"
      [.int (cfg.tickers.length * cfg.streamsPerTicker),
        .int (capacity * perWebsocket * cfg.streamsPerTicker)])
  else
    match bucketTickers cfg.tickers cfg.resolvedFillStrategy capacity perWebsocket with
    | .error p => .error p
    | .ok buckets =>
      .ok {
        config := cfg
        endpoint := endpoint
        resolvedFillStrategy := cfg.resolvedFillStrategy
        websocketCapacity := capacity
        tickerCapacityPerWebsocket := perWebsocket
        buckets := buckets }

/-- `Plan`. -/
def plan (cfg : ManagerConfig) : Except Problem ManagerPlan :=
  if cfg.sendTo = none then .error (.new .validationFailed "sendTo is required")
  else if cfg.exchange = "" then .error (.new .validationFailed "exchange is required")
  else if cfg.tickers = [] then .error (.new .validationFailed "tickers are required")
  else if cfg.streamsPerTicker < 1 then
    .error (.new .validationFailed "streams per ticker must be >= 1")
  else
    match cfg.endpointBuilder with
    | none => .error (.new .validationFailed "endpoint builder is required")
    | some endpoint => cfg.withDefaults.planBuckets endpoint

end ManagerConfig

theorem length_fillFirst_le
    (size n : Nat) (rest : List String) : (fillFirst size n rest).1.length ≤ n := by
  induction n generalizing rest with
  | zero => exact le_refl _
  | succ n ih =>
    unfold fillFirst
    split_ifs
    · exact Nat.zero_le _
    · exact Nat.succ_le_succ (ih _)

/-- There are at most as many buckets as websockets. -/
theorem length_bucketTickers_le
    {tickers : List String} {strategy : FillStrategy} {maxWebsockets tickerCapacity : Int}
    {buckets : List (List String)}
    (h : bucketTickers tickers strategy maxWebsockets tickerCapacity = .ok buckets) :
    (buckets.length : Int) ≤ maxWebsockets := by
  unfold bucketTickers at h
  split_ifs at h
  have hnat : (maxWebsockets.toNat : Int) = maxWebsockets := Int.toNat_of_nonneg (by omega)
  cases strategy with
  | first =>
    have hlength := length_fillFirst_le tickerCapacity.toNat maxWebsockets.toNat tickers
    dsimp only at h
    split_ifs at h
    cases h
    omega
  | evenly =>
    have hlength : ((fillEvenly maxWebsockets.toNat tickers).filter (· ≠ [])).length ≤
        maxWebsockets.toNat := by
      refine (List.length_filter_le _ _).trans ?_
      simp [fillEvenly]
    dsimp only at h
    split at h
    · cases h
    · cases h
      omega

/-- A plan fits into its capacity, and the capacity into the limit. -/
theorem length_buckets_le {cfg : ManagerConfig} {plan : ManagerPlan} (h : cfg.plan = .ok plan) :
    (plan.buckets.length : Int) ≤ plan.config.maxWebsockets := by
  unfold ManagerConfig.plan at h
  split_ifs at h
  split at h
  · cases h
  · unfold ManagerConfig.planBuckets at h
    dsimp only at h
    split_ifs at h
    split at h
    · cases h
    · rename_i buckets hbuckets
      cases h
      have hlength := length_bucketTickers_le hbuckets
      unfold ManagerConfig.websocketCapacity at hlength
      dsimp only
      split_ifs at hlength <;> omega

/-! ## The manager -/

/-- `stream`; the number stands for the uid and the process. -/
structure Stream where
  uid : Nat
  bid : Nat
  endpoint : String
  started : Int
  tickers : List String

/-- `Manager`; `draining` are the old streams with a scheduled poison. -/
structure Manager where
  streams : List Stream := []
  draining : List Stream := []
  stopped : Bool := false
  clock : Nat := 0
  spawned : Nat := 0
  live : List Nat := []

/-- The messages of the manager. -/
inductive ManagerMsg where
  /-- `loop`, with the replacements that can be created. -/
  | loop (creates : Nat → Bool)
  | poisonExpired (uid : Nat)
  | stopped

/-- A message and the time since the last one. -/
structure ManagerEvent where
  elapsed : Nat
  msg : ManagerMsg

namespace Manager

/-- A consumer is spawned for a stream. -/
def spawn (m : Manager) : Manager :=
  { m with spawned := m.spawned + 1, live := m.live ++ [m.spawned] }

/-- `poisonFn`. -/
def poison (m : Manager) (uid : Nat) : Manager := { m with live := m.live.erase uid }

/-- `spawnInitialStream`. -/
def initialStream (plan : ManagerPlan) (index : Nat) (bucket : List String) (m : Manager) :
    Stream where
  uid := m.spawned
  bid := index
  endpoint := plan.endpoint bucket
  started := m.clock
  tickers := bucket

/-- The loop of `init` over the buckets; a bucket whose consumer is not spawned is skipped. -/
def spawnBuckets (plan : ManagerPlan) (spawns : Nat → Bool) :
    Nat → List (List String) → Manager → Manager
  | _, [], m => m
  | i, bucket :: buckets, m =>
    if spawns i then
      spawnBuckets plan spawns (i + 1) buckets
        { m.spawn with streams := m.streams ++ [initialStream plan i bucket m] }
    else spawnBuckets plan spawns (i + 1) buckets m

/-- `init` at the given time. -/
def init (plan : ManagerPlan) (spawns : Nat → Bool) (now : Nat) : Manager :=
  spawnBuckets plan spawns 0 plan.buckets { clock := now }

/-- The lifetime of the stream has passed. -/
def expired (cfg : ManagerConfig) (m : Manager) (s : Stream) : Bool :=
  decide (cfg.maxWebsocketLifetime ≤ m.clock - s.started)

/-- The body of the loop of `updateStreams`: the stream that takes the place. -/
def replaceStream (cfg : ManagerConfig) (creates : Nat → Bool) (index : Nat) (old : Stream)
    (m : Manager) : Stream × Manager :=
  if expired cfg m old = false then (old, m)
  else if old.uid ∈ m.draining.map Stream.uid then (old, m)
  else if creates index = false then (old, m)
  else
    let new := { old with uid := m.spawned, bid := index, started := m.clock }
    if 0 < cfg.respawnOverlap then (new, { m.spawn with draining := m.draining ++ [old] })
    else (new, m.spawn.poison old.uid)

/-- The loop of `updateStreams`. -/
def replaceStreams (cfg : ManagerConfig) (creates : Nat → Bool) :
    Nat → List Stream → Manager → List Stream × Manager
  | _, [], m => ([], m)
  | i, old :: streams, m =>
    let replaced := replaceStream cfg creates i old m
    let rest := replaceStreams cfg creates (i + 1) streams replaced.2
    (replaced.1 :: rest.1, rest.2)

/-- `updateStreams`. -/
def updateStreams (cfg : ManagerConfig) (creates : Nat → Bool) (m : Manager) : Manager :=
  let replaced := replaceStreams cfg creates 0 m.streams m
  { replaced.2 with streams := replaced.1 }

/-- `handlePoisonExpired`. -/
def handlePoisonExpired (uid : Nat) (m : Manager) : Manager :=
  if uid ∈ m.draining.map Stream.uid then
    poison { m with draining := m.draining.eraseP fun s => s.uid = uid } uid
  else m

/-- `handleStopped`. -/
def handleStopped (m : Manager) : Manager :=
  if m.stopped then m
  else
    { m.streams.foldl (fun m s => m.poison s.uid) m with
      stopped := true
      draining := []
      streams := [] }

/-- The clock advances and the next message is received. -/
def step (cfg : ManagerConfig) (m : Manager) (e : ManagerEvent) : Manager :=
  let m := { m with clock := m.clock + e.elapsed }
  match e.msg with
  | .loop creates => m.updateStreams cfg creates
  | .poisonExpired uid => m.handlePoisonExpired uid
  | .stopped => m.handleStopped

variable {cfg : ManagerConfig} {plan : ManagerPlan} {creates : Nat → Bool} {m : Manager}
  {e : ManagerEvent} {uids : List Nat}

/-! ## Consumers -/

/-- The live consumers are those with the given numbers. -/
structure Tracked (m : Manager) (uids : List Nat) : Prop where
  live : m.live.Perm uids
  nodup : uids.Nodup
  spawned : ∀ uid ∈ uids, uid < m.spawned

theorem Tracked.of_perm
    {uids' : List Nat} (h : Tracked m uids) (hperm : uids.Perm uids') : Tracked m uids' :=
  ⟨h.live.trans hperm, hperm.nodup_iff.mp h.nodup,
    fun uid huid => h.spawned uid (hperm.mem_iff.mpr huid)⟩

theorem Tracked.spawn (h : Tracked m uids) : Tracked m.spawn (uids ++ [m.spawned]) := by
  refine ⟨h.live.append_right _, ?_, fun uid huid => ?_⟩
  · refine List.nodup_append.mpr ⟨h.nodup, List.nodup_singleton _, fun a ha b hb => ?_⟩
    have hlt := h.spawned a ha
    rw [List.mem_singleton.mp hb]
    omega
  · change uid < m.spawned + 1
    rcases List.mem_append.mp huid with huid | huid
    · exact Nat.lt_succ_of_lt (h.spawned uid huid)
    · rw [List.mem_singleton.mp huid]
      exact Nat.lt_succ_self _

theorem Tracked.poison {uid : Nat} (h : Tracked m (uid :: uids)) : Tracked (m.poison uid) uids := by
  refine ⟨?_, (List.nodup_cons.mp h.nodup).2, fun uid' huid' => ?_⟩
  · have herase := h.live.erase uid
    rwa [List.erase_cons_head] at herase
  · exact h.spawned uid' (List.mem_cons_of_mem _ huid')

/-! ## Replacing streams -/

theorem Tracked.length_eq (h : Tracked m uids) : m.live.length = uids.length := h.live.length_eq

/-- The stream at the given place is replaced and kept for the overlap. -/
def overlaps (cfg : ManagerConfig) (creates : Nat → Bool) (m : Manager) (p : Stream × Nat) : Bool :=
  decide (0 < cfg.respawnOverlap) && expired cfg m p.1 && creates p.2

/-- What one turn of the loop of `updateStreams` does to a stream that is not draining. -/
theorem replaceStream_spec
    (cfg : ManagerConfig) (creates : Nat → Bool) (index : Nat) {old : Stream} {before after : List Nat}
    (h : Tracked m (before ++ old.uid :: (after ++ m.draining.map Stream.uid))) :
    let replaced := replaceStream cfg creates index old m
    Tracked replaced.2
      (before ++ replaced.1.uid :: (after ++ replaced.2.draining.map Stream.uid)) ∧
    replaced.1.tickers = old.tickers ∧
    replaced.2.clock = m.clock ∧
    replaced.2.draining.length =
      m.draining.length + if overlaps cfg creates m (old, index) then 1 else 0 := by
  have hnew : old.uid ∉ m.draining.map Stream.uid := by
    have hnodup := (List.nodup_append.mp h.nodup).2.1
    exact fun hmem => (List.nodup_cons.mp hnodup).1 (List.mem_append_right _ hmem)
  unfold replaceStream overlaps
  cases expired cfg m old with
  | false => exact ⟨h, rfl, rfl, by simp⟩
  | true =>
    rw [if_neg (by simp), if_neg hnew]
    cases creates index with
    | false => exact ⟨h, rfl, rfl, by simp⟩
    | true =>
      rw [if_neg (by simp)]
      dsimp only
      by_cases hoverlap : 0 < cfg.respawnOverlap
      · rw [if_pos hoverlap]
        refine ⟨?_, rfl, rfl, by simp [hoverlap]⟩
        have hspawned : Tracked { m.spawn with draining := m.draining ++ [old] }
            ((before ++ old.uid :: (after ++ m.draining.map Stream.uid)) ++ [m.spawned]) :=
          ⟨h.spawn.live, h.spawn.nodup, h.spawn.spawned⟩
        refine hspawned.of_perm (List.perm_iff_count.mpr fun uid => ?_)
        simp only [List.map_append, List.map_cons, List.map_nil, List.count_append,
          List.count_cons, List.count_nil]
        omega
      · rw [if_neg hoverlap]
        refine ⟨?_, rfl, rfl, by simp [hoverlap, poison, Manager.spawn]⟩
        have hspawned : Tracked m.spawn
            (old.uid :: (before ++ m.spawned :: (after ++ m.draining.map Stream.uid))) := by
          refine h.spawn.of_perm (List.perm_iff_count.mpr fun uid => ?_)
          simp only [List.count_append, List.count_cons, List.count_nil]
          omega
        exact hspawned.poison

/-- What the loop of `updateStreams` does to streams that are not draining. -/
theorem replaceStreams_spec
    (cfg : ManagerConfig) (creates : Nat → Bool) (streams : List Stream) (index : Nat)
    (before : List Nat)
    (h : Tracked m (before ++ (streams.map Stream.uid ++ m.draining.map Stream.uid))) :
    let replaced := replaceStreams cfg creates index streams m
    Tracked replaced.2
      (before ++ (replaced.1.map Stream.uid ++ replaced.2.draining.map Stream.uid)) ∧
    replaced.1.map Stream.tickers = streams.map Stream.tickers ∧
    replaced.2.draining.length =
      m.draining.length + (streams.zipIdx index).countP (overlaps cfg creates m) := by
  induction streams generalizing index m before with
  | nil => exact ⟨h, rfl, rfl⟩
  | cons old streams ih =>
    obtain ⟨htracked, htickers, hclock, hlength⟩ := replaceStream_spec cfg creates index h
    unfold replaceStreams
    generalize hreplaced : replaceStream cfg creates index old m = replaced at *
    obtain ⟨hrest, hresttickers, hrestlength⟩ :=
      ih (m := replaced.2) (index + 1) (before ++ [replaced.1.uid])
        (by simpa using htracked)
    have hsame : overlaps cfg creates replaced.2 = overlaps cfg creates m := by
      funext p
      unfold overlaps expired
      rw [hclock]
    refine ⟨by simpa using hrest, ?_, ?_⟩
    · simp only [List.map_cons, htickers, hresttickers]
    · dsimp only
      rw [hrestlength, hlength, hsame, List.zipIdx_cons, List.countP_cons]
      omega

/-! ## Runs -/

/-- The buckets for which a consumer was spawned. -/
def spawnedBuckets (spawns : Nat → Bool) : Nat → List (List String) → List (List String)
  | _, [] => []
  | i, bucket :: buckets =>
    if spawns i then bucket :: spawnedBuckets spawns (i + 1) buckets
    else spawnedBuckets spawns (i + 1) buckets

/-- The consumers keep to the limit, and every spawned bucket has its one stream. -/
structure Within (plan : ManagerPlan) (spawns : Nat → Bool) (m : Manager) : Prop where
  consumers : (m.live.length : Int) ≤ plan.config.maxWebsockets
  buckets : m.streams.map Stream.tickers = spawnedBuckets spawns 0 plan.buckets

/-- The streams and the draining streams are the live consumers. -/
structure Inv (plan : ManagerPlan) (spawns : Nat → Bool) (m : Manager) : Prop
    extends Within plan spawns m where
  tracked : Tracked m (m.streams.map Stream.uid ++ m.draining.map Stream.uid)

/-- A tick replaces no more streams with an overlap than there is room for. -/
def HasRoom (plan : ManagerPlan) (m : Manager) (e : ManagerEvent) : Prop :=
  match e.msg with
  | .loop creates =>
    (m.live.length : Int) + m.streams.zipIdx.countP
      (overlaps plan.config creates { m with clock := m.clock + e.elapsed }) ≤
        plan.config.maxWebsockets
  | _ => True

theorem spawnBuckets_spec
    (plan : ManagerPlan) (spawns : Nat → Bool) (buckets : List (List String)) (index : Nat)
    (hdraining : m.draining = []) (h : Tracked m (m.streams.map Stream.uid)) :
    let m' := spawnBuckets plan spawns index buckets m
    m'.draining = [] ∧
    Tracked m' (m'.streams.map Stream.uid) ∧
    m'.streams.map Stream.tickers =
      m.streams.map Stream.tickers ++ spawnedBuckets spawns index buckets := by
  induction buckets generalizing index m with
  | nil => exact ⟨hdraining, h, (List.append_nil _).symm⟩
  | cons bucket buckets ih =>
    unfold spawnBuckets spawnedBuckets
    split_ifs
    · have htracked : Tracked { m.spawn with
          streams := m.streams ++ [initialStream plan index bucket m] }
          ((m.streams ++ [initialStream plan index bucket m]).map Stream.uid) := by
        rw [List.map_append]
        exact ⟨h.spawn.live, h.spawn.nodup, h.spawn.spawned⟩
      obtain ⟨hnone, hrest, htickers⟩ := ih (index + 1)
        (m := { m.spawn with streams := m.streams ++ [initialStream plan index bucket m] })
        hdraining htracked
      refine ⟨hnone, hrest, htickers.trans ?_⟩
      simp [initialStream]
    · exact ih (index + 1) hdraining h

theorem length_spawnedBuckets_le
    (spawns : Nat → Bool) (index : Nat) (buckets : List (List String)) :
    (spawnedBuckets spawns index buckets).length ≤ buckets.length := by
  induction buckets generalizing index with
  | nil => exact le_refl _
  | cons bucket buckets ih =>
    have hrest := ih (index + 1)
    unfold spawnedBuckets
    split_ifs
    · exact Nat.succ_le_succ hrest
    · exact Nat.le_succ_of_le hrest

theorem inv_init (hplan : cfg.plan = .ok plan) (spawns : Nat → Bool) (now : Nat) :
    Inv plan spawns (init plan spawns now) := by
  have hempty : Tracked ({ clock := now } : Manager) [] :=
    ⟨.refl _, .nil, fun uid huid => by cases huid⟩
  obtain ⟨hnone, htracked, htickers⟩ :=
    spawnBuckets_spec plan spawns plan.buckets 0 (m := { clock := now }) rfl hempty
  have hlength := congrArg List.length htickers
  rw [List.length_map] at hlength
  have hbuckets := length_spawnedBuckets_le spawns 0 plan.buckets
  have hlimit := length_buckets_le hplan
  have hlive := htracked.length_eq
  rw [List.length_map] at hlive
  refine ⟨⟨?_, htickers⟩, ?_⟩
  · unfold init
    rw [hlive, hlength]
    simp only [List.map_nil, List.nil_append]
    omega
  · unfold init
    rw [hnone, List.map_nil, List.append_nil]
    exact htracked

/-- What a tick does. -/
theorem updateStreams_spec (cfg : ManagerConfig) (creates : Nat → Bool)
    (h : Tracked m (m.streams.map Stream.uid ++ m.draining.map Stream.uid)) :
    let m' := m.updateStreams cfg creates
    Tracked m' (m'.streams.map Stream.uid ++ m'.draining.map Stream.uid) ∧
    m'.streams.map Stream.tickers = m.streams.map Stream.tickers ∧
    m'.live.length = m.live.length + m.streams.zipIdx.countP (overlaps cfg creates m) := by
  obtain ⟨htracked, htickers, hdraining⟩ := replaceStreams_spec cfg creates m.streams 0 [] h
  have hbefore := h.length_eq
  have hafter := htracked.length_eq
  have hcount := congrArg List.length htickers
  simp only [List.length_append, List.length_map, List.nil_append] at *
  refine ⟨⟨htracked.live, htracked.nodup, htracked.spawned⟩, htickers, ?_⟩
  unfold updateStreams
  dsimp only
  rw [hafter, hbefore, hdraining, hcount]
  omega

theorem handlePoisonExpired_spec
    (uid : Nat) (h : Tracked m (m.streams.map Stream.uid ++ m.draining.map Stream.uid)) :
    let m' := m.handlePoisonExpired uid
    Tracked m' (m'.streams.map Stream.uid ++ m'.draining.map Stream.uid) ∧
    m'.streams = m.streams ∧
    m'.live.length ≤ m.live.length := by
  unfold handlePoisonExpired
  split_ifs with hmem
  · obtain ⟨s, hs, hsuid⟩ := List.mem_map.mp hmem
    obtain ⟨old, front, back, -, hold, hsplit, herased⟩ :=
      List.exists_of_eraseP (p := fun s => decide (s.uid = uid)) hs (decide_eq_true hsuid)
    have hpoisoned : Tracked { m with draining := m.draining.eraseP fun s => s.uid = uid }
        (uid :: (m.streams.map Stream.uid ++ (front ++ back).map Stream.uid)) := by
      have hperm : (m.streams.map Stream.uid ++ m.draining.map Stream.uid).Perm
          (uid :: (m.streams.map Stream.uid ++ (front ++ back).map Stream.uid)) := by
        refine List.perm_iff_count.mpr fun u => ?_
        rw [hsplit, ← of_decide_eq_true hold]
        simp only [List.map_append, List.map_cons, List.count_append, List.count_cons]
        omega
      have htracked := h.of_perm hperm
      exact ⟨htracked.live, htracked.nodup, htracked.spawned⟩
    refine ⟨?_, rfl, List.length_erase_le⟩
    have hrest := hpoisoned.poison
    rw [← herased] at hrest
    exact hrest
  · exact ⟨h, rfl, le_refl _⟩

/-- A step keeps the invariant exactly when a tick has room. -/
theorem Inv.step_iff {spawns : Nat → Bool} (h : Inv plan spawns m) (he : e.msg ≠ .stopped) :
    (Inv plan spawns (m.step plan.config e) ↔ HasRoom plan m e) ∧
    (Within plan spawns (m.step plan.config e) → HasRoom plan m e) := by
  have hclock : Tracked { m with clock := m.clock + e.elapsed }
      (m.streams.map Stream.uid ++ m.draining.map Stream.uid) :=
    ⟨h.tracked.live, h.tracked.nodup, h.tracked.spawned⟩
  unfold step HasRoom
  cases hmsg : e.msg with
  | stopped => exact absurd hmsg he
  | poisonExpired uid =>
    obtain ⟨htracked, hstreams, hlength⟩ := handlePoisonExpired_spec uid hclock
    have hlimit := h.consumers
    refine ⟨⟨fun _ => trivial, fun _ => ⟨⟨?_, ?_⟩, htracked⟩⟩, fun _ => trivial⟩
    · dsimp only at hlength ⊢
      omega
    · dsimp only at hstreams ⊢
      rw [hstreams]
      exact h.buckets
  | loop creates =>
    obtain ⟨htracked, htickers, hlength⟩ := updateStreams_spec plan.config creates hclock
    have hroom : ∀ m' : Manager, m'.live.length = m.live.length + m.streams.zipIdx.countP
        (overlaps plan.config creates { m with clock := m.clock + e.elapsed }) →
        ((m'.live.length : Int) ≤ plan.config.maxWebsockets ↔
          (m.live.length : Int) + m.streams.zipIdx.countP
            (overlaps plan.config creates { m with clock := m.clock + e.elapsed }) ≤
              plan.config.maxWebsockets) := by
      intro m' hm'
      rw [hm']
      push_cast
      rfl
    refine ⟨⟨fun hinv => (hroom _ hlength).mp hinv.consumers,
      fun hok => ⟨⟨(hroom _ hlength).mpr hok, htickers.trans h.buckets⟩, htracked⟩⟩,
      fun hwithin => (hroom _ hlength).mp hwithin.consumers⟩

/-- A manager for the given tickers, one for each websocket, with an overlap of five seconds. -/
def sampleManager (tickers : List String) : ManagerConfig where
  sendTo := some "owner"
  exchange := "binance"
  tickers := tickers
  streamsPerTicker := 1
  maxStreamsPerWebsocket := 1
  maxWebsockets := tickers.length + 1
  respawnOverlap := 5000000000
  endpointBuilder := some fun _ => "wss://stream"

/-- The plan of a sample manager. -/
def samplePlan (tickers : List String) : ManagerPlan where
  config := (sampleManager tickers).withDefaults
  endpoint := fun _ => "wss://stream"
  resolvedFillStrategy := .first
  websocketCapacity := tickers.length
  tickerCapacityPerWebsocket := 1
  buckets := tickers.map fun ticker => [ticker]

/-- An hour has passed when the next tick comes. -/
def sampleTick : ManagerEvent := { elapsed := 3600000000000, msg := .loop fun _ => true }

end Manager

end Ws
end StreamAnalytics
