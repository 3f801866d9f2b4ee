import StreamAnalytics.Evidence.StateStore
import StreamAnalytics.Lib.Runs
import StreamAnalytics.Shared.Naming

/-!
# The evidence engines and the state of their rules

Model of `EvidenceEngine` and `LELEngine` (`internal/core/evidence/app/engine.go` and
`lel_engine.go`) and of the bookkeeping of their rules.  What a rule computes from the state
of a stream and an event is a parameter of the rule, and so are the completion and the
validation of the evidence that an engine returns.

A rule has a state for each `StreamKey`; the store of the engine tracks each `StreamID`.
A stream that leaves the store should leave no state behind (`Fed.Belongs`).
* In `LELEngine` the two names of a stream agree.  The states belong to tracked streams
  exactly if no event of a new stream is accepted and at once evicted again: the rules see
  the event after its eviction.
* In `EvidenceEngine` a `StreamID` is evicted from the rules as if it were a `StreamKey`.
-/

namespace StreamAnalytics
namespace Evidence

open GoStrings AList

/-! ## Rules -/

/-- What an engine and the bookkeeping of its rules read of an event. -/
class RuleInput (E : Type) where
  streamID : E → String
  seq : E → Int
  tsServer : E → Int
  streamKey : E → String

/--
A rule: the events it does not return from at once, the zero state and the evaluation of an
event, and the states of its streams.
-/
structure Rule (E S O : Type) where
  name : String
  maxStreams : Int
  admits : E → Bool
  zero : S
  evaluate : E → S → S × List O
  streams : GoMap String S

/-- The first of the keys in the order of strings. -/
def smallestKey (keys : List String) : Option String :=
  keys.foldl (fun victim k => if victim.all fun v => k < v then some k else victim) none

/-- `evictOldest`. -/
def evictOldest {S : Type} (m : GoMap String S) : GoMap String S :=
  match smallestKey m.keys with
  | none => m
  | some victim => m.erase victim

namespace Rule

variable {E S O : Type} [RuleInput E] {k : String} {r : Rule E S O}

/-- The map after `getOrCreate`, and the state of the stream. -/
def getOrCreate (r : Rule E S O) (key : String) : GoMap String S × S :=
  match r.streams.lookup key with
  | some st => (r.streams, st)
  | none =>
    let kept := if r.maxStreams ≤ r.streams.size then evictOldest r.streams else r.streams
    (kept.insert key r.zero, r.zero)

/-- `OnEvent` of a rule. -/
def onEvent (r : Rule E S O) (e : E) : Rule E S O × List O :=
  if r.admits e then
    let found := r.getOrCreate (RuleInput.streamKey e)
    let evaluated := r.evaluate e found.2
    ({ r with streams := found.1.insert (RuleInput.streamKey e) evaluated.1 }, evaluated.2)
  else (r, [])

/-- `EvictStream`. -/
def evictStream (r : Rule E S O) (key : String) : Rule E S O :=
  { r with streams := r.streams.erase key }

omit [RuleInput E] in
theorem mem_of_mem_evictOldest {m : GoMap String S} (hk : k ∈ evictOldest m) : k ∈ m := by
  unfold evictOldest at hk
  split at hk
  · exact hk
  · exact (mem_erase.mp hk).2

omit [RuleInput E] in
theorem mem_of_mem_getOrCreate
    {key : String} (hk : k ∈ (r.getOrCreate key).1) : k ∈ r.streams ∨ k = key := by
  unfold getOrCreate at hk
  split at hk
  · exact .inl hk
  · rcases (mem_insert _).mp hk with rfl | hk
    · exact .inr rfl
    · split_ifs at hk
      · exact .inl (mem_of_mem_evictOldest hk)
      · exact .inl hk

/-- A rule adds no state but for the key of an event it admits. -/
theorem mem_of_mem_onEvent {e : E} (hk : k ∈ (r.onEvent e).1.streams) :
    k ∈ r.streams ∨ r.admits e = true ∧ k = RuleInput.streamKey e := by
  unfold onEvent at hk
  split_ifs at hk with hadmits
  · rcases (mem_insert _).mp hk with rfl | hk
    · exact .inr ⟨hadmits, rfl⟩
    · rcases mem_of_mem_getOrCreate hk with hk | rfl
      · exact .inl hk
      · exact .inr ⟨hadmits, rfl⟩
  · exact .inl hk

theorem mem_onEvent_self
    {e : E} (hadmits : r.admits e = true) : RuleInput.streamKey e ∈ (r.onEvent e).1.streams := by
  unfold onEvent
  rw [if_pos hadmits]
  exact (mem_insert _).mpr (.inl rfl)

omit [RuleInput E] in
theorem admits_foldl_evictStream
    (r : Rule E S O) (ids : List String) : (ids.foldl evictStream r).admits = r.admits := by
  induction ids generalizing r with
  | nil => rfl
  | cons id ids ih => exact ih (r.evictStream id)

omit [RuleInput E] in
theorem mem_foldl_evictStream
    {ids : List String} (hk : k ∈ (ids.foldl evictStream r).streams) : k ∈ r.streams ∧ k ∉ ids := by
  induction ids generalizing r with
  | nil => exact ⟨hk, List.not_mem_nil⟩
  | cons id ids ih =>
    obtain ⟨hstreams, hids⟩ := ih hk
    obtain ⟨hne, hmem⟩ := mem_erase.mp hstreams
    exact ⟨hmem, List.not_mem_cons_of_ne_of_not_mem hne hids⟩

end Rule

/-! ## Engines -/

/-- `EngineConfig` and `LELEngineConfig`. -/
structure EngineConfig where
  maxStreamsGlobal : Int
  streamTTLMillis : Int

/-- `EvidenceEngine` and `LELEngine`. -/
structure Engine (E S O : Type) where
  rules : List (Rule E S O)
  store : StateStore
  totalEmitted : Int
  totalEvicted : Int

namespace Engine

variable {E S O : Type} [RuleInput E] (complete : E → O → Option O)

/-- `NewEvidenceEngineWithEmitter` and `NewLELEngine`. -/
def new (cfg : EngineConfig) (rules : List (Rule E S O)) : Engine E S O where
  rules := rules
  store := StateStore.new
    { maxEntries := if cfg.maxStreamsGlobal ≤ 0 then 1024 else cfg.maxStreamsGlobal
      ttlMillis := if cfg.streamTTLMillis ≤ 0 then 10 * 60 * 1000 else cfg.streamTTLMillis }
  totalEmitted := 0
  totalEvicted := 0

/-- The observation of an event. -/
def observe (eng : Engine E S O) (e : E) : StateStore × StateObserveResult :=
  eng.store.observe (RuleInput.streamID e) (RuleInput.seq e) (RuleInput.tsServer e)

/-- The engine after the observation: the rules forget the evicted streams. -/
def evict (eng : Engine E S O) (e : E) : Engine E S O where
  rules := eng.rules.map fun r => (eng.observe e).2.evicted.foldl Rule.evictStream r
  store := (eng.observe e).1
  totalEmitted := eng.totalEmitted
  totalEvicted := eng.totalEvicted + (eng.observe e).2.evictions.length

/--
The part of `OnEvent` that the two engines share.  The evidence of the rules is completed
from the event and left out if it is invalid.
-/
def dispatch (eng : Engine E S O) (e : E) : Engine E S O × List O :=
  if (eng.observe e).2.Accepted then
    let results := (eng.evict e).rules.map (·.onEvent e)
    let out := (results.flatMap (·.2)).filterMap (complete e)
    ({ eng.evict e with
       rules := results.map (·.1)
       totalEmitted := eng.totalEmitted + out.length }, out)
  else (eng.evict e, [])

@[simp] theorem store_dispatch
    (eng : Engine E S O) (e : E) : (eng.dispatch complete e).1.store = (eng.observe e).1 := by
  unfold dispatch
  split_ifs
  · rfl
  · rfl

/-- What a rule holds after an event it held before and was not told to evict, or it has
just admitted the event. -/
theorem mem_of_mem_dispatch {eng : Engine E S O} {e : E} {r' : Rule E S O} {k : String}
    (hr' : r' ∈ (eng.dispatch complete e).1.rules) (hk : k ∈ r'.streams) :
    ∃ r ∈ eng.rules, (k ∈ r.streams ∧ k ∉ (eng.observe e).2.evicted) ∨
      ((eng.observe e).2.Accepted ∧ r.admits e = true ∧ k = RuleInput.streamKey e) := by
  unfold dispatch evict at hr'
  split_ifs at hr' with haccepted
  · simp only [List.map_map, List.mem_map, Function.comp_apply] at hr'
    obtain ⟨r, hr, rfl⟩ := hr'
    refine ⟨r, hr, ?_⟩
    rcases Rule.mem_of_mem_onEvent hk with hk | ⟨hadmits, rfl⟩
    · exact .inl (Rule.mem_foldl_evictStream hk)
    · rw [Rule.admits_foldl_evictStream] at hadmits
      exact .inr ⟨haccepted, hadmits, rfl⟩
  · obtain ⟨r, hr, rfl⟩ := List.mem_map.mp hr'
    exact ⟨r, hr, .inl (Rule.mem_foldl_evictStream hk)⟩

/-- A rule that admits an accepted event holds a state for it afterwards. -/
theorem exists_mem_dispatch
    {eng : Engine E S O} {e : E} {r : Rule E S O} (haccepted : (eng.observe e).2.Accepted)
    (hr : r ∈ eng.rules) (hadmits : r.admits e = true) :
    ∃ r' ∈ (eng.dispatch complete e).1.rules, RuleInput.streamKey e ∈ r'.streams := by
  unfold dispatch evict
  rw [if_pos haccepted]
  refine ⟨_, List.mem_map_of_mem (List.mem_map_of_mem (List.mem_map_of_mem hr)), ?_⟩
  exact Rule.mem_onEvent_self (by rw [Rule.admits_foldl_evictStream]; exact hadmits)

end Engine

/-! ## The streams that rule states belong to -/

/-- An engine and the events it has been given. -/
structure Fed (E S O : Type) where
  events : List E
  engine : Engine E S O

namespace Fed

variable {E S O : Type} [RuleInput E] (complete : E → O → Option O)

/-- The stream of an event is tracked by the store of the engine. -/
def Tracks (f : Fed E S O) (e : E) : Prop :=
  trimSpace (RuleInput.streamID e) ∈ f.engine.store.entries

instance (f : Fed E S O) (e : E) : Decidable (f.Tracks e) := inferInstanceAs (Decidable (_ ∈ _))

/-- Every state that a rule holds belongs to an event whose stream is tracked. -/
def Belongs (f : Fed E S O) : Prop :=
  ∀ r ∈ f.engine.rules, ∀ k ∈ r.streams, ∃ e ∈ f.events, RuleInput.streamKey e = k ∧ f.Tracks e

/-- An event that a rule is going to evaluate is not evicted by its own observation. -/
def Lasts (f : Fed E S O) (e : E) : Prop :=
  (f.engine.observe e).2.Accepted → (∃ r ∈ f.engine.rules, r.admits e = true) →
    (f.engine.store.evictTTL (RuleInput.tsServer e)).Room
      (trimSpace (RuleInput.streamID e)) (RuleInput.tsServer e)

/-- The streams that an observation evicts are named by the key of their events. -/
def EvictsByKey (f : Fed E S O) (e : E) : Prop :=
  ∀ e' ∈ f.events, trimSpace (RuleInput.streamID e') ∈ (f.engine.observe e).2.evicted →
    RuleInput.streamKey e' = trimSpace (RuleInput.streamID e')

/-- An engine is given an event. -/
def dispatch (f : Fed E S O) (e : E) : Fed E S O :=
  ⟨f.events ++ [e], (f.engine.dispatch complete e).1⟩

theorem belongs_new
    (cfg : EngineConfig) {rules : List (Rule E S O)} (hfresh : ∀ r ∈ rules, r.streams = ∅) :
    Belongs ⟨[], Engine.new cfg rules⟩ := by
  intro r hr k hk
  rw [hfresh r hr] at hk
  exact absurd hk (notMem_empty k)

theorem Belongs.dispatch
    {f : Fed E S O} {e : E} (hbelongs : f.Belongs) (hlasts : f.Lasts e) (hkey : f.EvictsByKey e) :
    (f.dispatch complete e).Belongs := by
  intro r' hr' k hk
  obtain ⟨r, hr, ⟨hheld, hkept⟩ | ⟨haccepted, hadmits, rfl⟩⟩ :=
    Engine.mem_of_mem_dispatch complete hr' hk
  · -- The state was there before: the stream of its event has not been evicted.
    obtain ⟨e', he', rfl, htracks⟩ := hbelongs r hr k hheld
    refine ⟨e', List.mem_append_left _ he', rfl, ?_⟩
    have hnot : trimSpace (RuleInput.streamID e') ∉ (f.engine.observe e).2.evicted := by
      intro hevicted
      rw [hkey e' he' hevicted] at hkept
      exact hkept hevicted
    unfold Tracks Fed.dispatch
    rw [Engine.store_dispatch]
    exact StateStore.mem_observe htracks hnot
  · refine ⟨e, List.mem_append_right _ List.mem_cons_self, rfl, ?_⟩
    unfold Tracks Fed.dispatch
    rw [Engine.store_dispatch]
    exact (StateStore.mem_observe_self_iff haccepted).mpr (hlasts haccepted ⟨r, hr, hadmits⟩)

/-- If keys and streams agree, the condition on the new event cannot be left out. -/
theorem Belongs.lasts {f : Fed E S O} {e : E}
    (hagree : ∀ e' ∈ f.events ++ [e],
      RuleInput.streamKey e' = trimSpace (RuleInput.streamID e'))
    (hbelongs : (f.dispatch complete e).Belongs) : f.Lasts e := by
  rintro haccepted ⟨r, hr, hadmits⟩
  obtain ⟨r', hr', hk⟩ := Engine.exists_mem_dispatch complete haccepted hr hadmits
  obtain ⟨e', he', hkey, htracks⟩ := hbelongs r' hr' _ hk
  rw [hagree e' he', hagree e (List.mem_append_right _ List.mem_cons_self)] at hkey
  unfold Tracks at htracks
  rw [hkey] at htracks
  unfold Fed.dispatch at htracks
  rw [Engine.store_dispatch] at htracks
  exact (StateStore.mem_observe_self_iff haccepted).mp htracks

end Fed
end Evidence
end StreamAnalytics
