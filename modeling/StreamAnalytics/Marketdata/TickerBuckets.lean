import Mathlib.Algebra.Order.Ring.Int
import StreamAnalytics.Marketdata.WsManager

/-!
# The buckets of a plan

Both fill strategies of `bucketTickers` cut the tickers into buckets without losing or
repeating one.  If the tickers fit, neither meets its own capacity error, so `Plan`
succeeds (`plan_partitions`).
-/

namespace StreamAnalytics
namespace Ws

/-- The buckets hold the tickers, each within its capacity, and no bucket is empty. -/
structure Partitions (tickers : List String) (size : Nat) (buckets : List (List String)) :
    Prop where
  perm : buckets.flatten.Perm tickers
  nonempty : ∀ bucket ∈ buckets, bucket ≠ []
  within : ∀ bucket ∈ buckets, bucket.length ≤ size

/-! ## Filling one bucket after the other -/

theorem fillFirst_partitions
    {size n : Nat} {rest : List String} (hsize : 0 < size) (hfits : rest.length ≤ n * size) :
    (fillFirst size n rest).2 = [] ∧ Partitions rest size (fillFirst size n rest).1 := by
  induction n generalizing rest with
  | zero =>
    obtain rfl : rest = [] := List.length_eq_zero_iff.mp (by omega)
    exact ⟨rfl, .refl _, by simp [fillFirst], by simp [fillFirst]⟩
  | succ n ih =>
    unfold fillFirst
    split_ifs with hrest
    · rw [hrest]
      exact ⟨rfl, .refl _, by simp, by simp⟩
    · have hdrop : (rest.drop size).length ≤ n * size := by
        rw [List.length_drop]
        rw [Nat.succ_mul] at hfits
        omega
      obtain ⟨hnone, hperm, hnonempty, hwithin⟩ := ih hdrop
      refine ⟨hnone, ?_, List.forall_mem_cons.mpr ⟨?_, hnonempty⟩,
        List.forall_mem_cons.mpr ⟨List.length_take_le _ _, hwithin⟩⟩
      · have hsplit := hperm.append_left (rest.take size)
        rwa [List.take_append_drop] at hsplit
      · rw [ne_eq, List.take_eq_nil_iff]
        exact not_or.mpr ⟨by omega, hrest⟩

/-! ## Dealing the tickers out -/

/-- The loop of `bucketTickers` that appends each ticker to the bucket of its turn. -/
def dealTickers (n : Nat) (tickers : List String) : List (List String) :=
  tickers.zipIdx.foldl (fun buckets p => buckets.modify (p.2 % n) (· ++ [p.1]))
    (List.replicate n [])

theorem dealTickers_eq
    (n : Nat) (tickers : List String) : dealTickers n tickers = fillEvenly n tickers := by
  unfold dealTickers fillEvenly
  induction tickers.zipIdx using List.reverseRecOn with
  | nil => simp [List.map_const']
  | append_singleton ps p ih =>
    rw [List.foldl_append, ih]
    refine List.ext_getElem (by simp) fun j hj _ => ?_
    simp only [List.foldl_cons, List.foldl_nil, List.getElem_modify, List.getElem_map,
      List.getElem_range, List.filter_append, List.map_append]
    by_cases hp : p.2 % n = j <;> simp [hp]

theorem flatten_modify_perm
    {buckets : List (List String)} {k : Nat} (hk : k < buckets.length) (ticker : String) :
    (buckets.modify k (· ++ [ticker])).flatten.Perm (buckets.flatten ++ [ticker]) := by
  induction buckets generalizing k with
  | nil => exact absurd hk (Nat.not_lt_zero k)
  | cons bucket buckets ih =>
    cases k with
    | zero =>
      simpa using (List.perm_append_singleton ticker buckets.flatten).symm.append_left bucket
    | succ k => simpa using (ih (Nat.lt_of_succ_lt_succ hk)).append_left bucket

theorem dealTickers_perm {n : Nat} (hn : 0 < n) (tickers : List String) :
    (dealTickers n tickers).flatten.Perm tickers := by
  have hloop (ps : List (String × Nat)) (buckets : List (List String))
      (hbuckets : buckets.length = n) :
      (ps.foldl (fun buckets p => buckets.modify (p.2 % n) (· ++ [p.1])) buckets).flatten.Perm
        (buckets.flatten ++ ps.map Prod.fst) := by
    induction ps generalizing buckets with
    | nil => simp
    | cons p ps ih =>
      have hturn : p.2 % n < buckets.length := hbuckets.symm ▸ Nat.mod_lt p.2 hn
      have hmodify := flatten_modify_perm hturn p.1
      have hrest := (ih _ (by simpa using hbuckets)).trans (hmodify.append_right _)
      simpa using hrest
  simpa [dealTickers] using hloop tickers.zipIdx (List.replicate n []) (by simp)

/-- How many of the first `b` turns go to the bucket `j` of `n`. -/
theorem mul_countP_mod_lt
    {n j : Nat} (hj : j < n) (b : Nat) : n * (List.range b).countP (· % n = j) + j < b + n := by
  induction b with
  | zero => simpa using hj
  | succ b ih =>
    rw [List.range_succ, List.countP_append, List.countP_singleton]
    by_cases hturn : b % n = j
    · have hdiv := Nat.div_add_mod b n
      have hle : (List.range b).countP (· % n = j) ≤ b / n := by
        refine Nat.lt_succ_iff.mp (Nat.lt_of_mul_lt_mul_left (a := n) ?_)
        rw [Nat.mul_succ]
        omega
      have hmul := Nat.mul_le_mul_left n hle
      rw [if_pos (decide_eq_true hturn), Nat.mul_succ]
      omega
    · rw [if_neg (by simpa using hturn), Nat.add_zero]
      omega

theorem fillEvenly_partitions
    {size n : Nat} {tickers : List String} (hn : 0 < n) (hfits : tickers.length ≤ n * size) :
    Partitions tickers size ((fillEvenly n tickers).filter (· ≠ [])) := by
  refine ⟨?_, fun bucket hbucket => by simpa using (List.mem_filter.mp hbucket).2,
    fun bucket hbucket => ?_⟩
  · rw [List.flatten_filter_ne_nil, ← dealTickers_eq]
    exact dealTickers_perm hn tickers
  · obtain ⟨j, hj, rfl⟩ := List.mem_map.mp (List.mem_filter.mp hbucket).1
    have hcount := mul_countP_mod_lt (List.mem_range.mp hj) tickers.length
    rw [List.range_eq_range', ← List.zipIdx_map_snd, List.countP_map] at hcount
    rw [List.length_map, ← List.countP_eq_length_filter]
    refine Nat.lt_succ_iff.mp (Nat.lt_of_mul_lt_mul_left (a := n) ?_)
    rw [Nat.mul_succ]
    exact (Nat.le_add_right _ _).trans_lt (hcount.trans_le (Nat.add_le_add_right hfits n))

/-! ## Plans -/

theorem bucketTickers_partitions
    {tickers : List String} {maxWebsockets tickerCapacity : Int} (strategy : FillStrategy)
    (htickers : tickers ≠ []) (hmax : 0 < maxWebsockets) (hcapacity : 0 < tickerCapacity)
    (hfits : (tickers.length : Int) ≤ maxWebsockets * tickerCapacity) :
    ∃ buckets, bucketTickers tickers strategy maxWebsockets tickerCapacity = .ok buckets ∧
      Partitions tickers tickerCapacity.toNat buckets := by
  lift maxWebsockets to Nat using hmax.le
  lift tickerCapacity to Nat using hcapacity.le
  have hfits' : tickers.length ≤ maxWebsockets * tickerCapacity := by exact_mod_cast hfits
  unfold bucketTickers
  rw [if_neg htickers, if_neg (by omega), if_neg (by omega)]
  simp only [Int.toNat_natCast]
  cases strategy with
  | first =>
    obtain ⟨hnone, hpartitions⟩ := fillFirst_partitions (by omega) hfits'
    exact ⟨_, if_neg (not_not_intro hnone), hpartitions⟩
  | evenly =>
    have hpartitions := fillEvenly_partitions (by omega) hfits'
    refine ⟨_, ?_, hpartitions⟩
    have hfind : ((fillEvenly maxWebsockets tickers).filter (· ≠ [])).find?
        (fun bucket => (tickerCapacity : Int) < bucket.length) = none := by
      refine List.find?_eq_none.mpr fun bucket hbucket => ?_
      have hwithin := hpartitions.within bucket hbucket
      simp
      omega
    dsimp only
    rw [hfind]

namespace ManagerConfig

/-- The tickers that one websocket carries. -/
def tickersPerWebsocket (cfg : ManagerConfig) : Int :=
  cfg.maxStreamsPerWebsocket.tdiv cfg.streamsPerTicker

theorem planBuckets_partitions
    {cfg : ManagerConfig} (endpoint : List String → String) (htickers : cfg.tickers ≠ [])
    (hcapacity : 0 ≤ cfg.websocketCapacity)
    (hfits : cfg.tickers.length ≤ cfg.websocketCapacity * cfg.tickersPerWebsocket) :
    ∃ plan, cfg.planBuckets endpoint = .ok plan ∧
      plan.buckets.length ≤ cfg.websocketCapacity ∧
      Partitions cfg.tickers cfg.tickersPerWebsocket.toNat plan.buckets := by
  have hlength : 0 < cfg.tickers.length := List.length_pos_iff.mpr htickers
  obtain ⟨hcapacity, hper⟩ : 0 < cfg.websocketCapacity ∧ 0 < cfg.tickersPerWebsocket := by
    rcases pos_and_pos_or_neg_and_neg_of_mul_pos (lt_of_lt_of_le (by omega) hfits) with h | h
    · exact h
    · omega
  obtain ⟨buckets, hbuckets, hpartitions⟩ :=
    bucketTickers_partitions cfg.resolvedFillStrategy htickers hcapacity hper hfits
  unfold tickersPerWebsocket at *
  unfold planBuckets
  dsimp only
  rw [if_neg (by omega), if_neg (by omega), if_neg (Int.not_lt.mpr hfits), hbuckets]
  exact ⟨_, rfl, length_bucketTickers_le hbuckets, hpartitions⟩

/--
A plan whose tickers fit succeeds, with every strategy: its buckets hold every ticker as
often as the configuration names it, no bucket is empty or exceeds the tickers of one
websocket, and there are no more buckets than usable websockets.
-/
theorem plan_partitions
    (cfg : ManagerConfig) (hsendTo : cfg.sendTo ≠ none) (hexchange : cfg.exchange ≠ "")
    (htickers : cfg.tickers ≠ []) (hstreams : 0 < cfg.streamsPerTicker)
    (hendpoint : cfg.endpointBuilder ≠ none) (hmaxWebsockets : 0 ≤ cfg.maxWebsockets)
    (hfits : cfg.tickers.length ≤
      cfg.withDefaults.websocketCapacity * cfg.withDefaults.tickersPerWebsocket) :
    ∃ plan, cfg.plan = .ok plan ∧
      plan.buckets.length ≤ cfg.withDefaults.websocketCapacity ∧
      Partitions cfg.tickers cfg.withDefaults.tickersPerWebsocket.toNat plan.buckets := by
  obtain ⟨endpoint, hendpoint⟩ := Option.ne_none_iff_exists'.mp hendpoint
  have hcapacity : 0 ≤ cfg.withDefaults.websocketCapacity := by
    unfold websocketCapacity withDefaults
    dsimp only
    split_ifs <;> omega
  unfold plan
  rw [if_neg hsendTo, if_neg hexchange, if_neg htickers, if_neg (by omega), hendpoint]
  exact planBuckets_partitions endpoint htickers hcapacity hfits

/-- Two websockets for two tickers each. -/
def sampleTickers (tickers : List String) : ManagerConfig where
  sendTo := some "router"
  exchange := "binance"
  tickers := tickers
  streamsPerTicker := 3
  maxStreamsPerWebsocket := 8
  maxWebsockets := 2
  endpointBuilder := some fun _ => "wss://stream"

theorem plan_partitions_sampleTickers :
    0 < (sampleTickers []).maxWebsockets ∧
    ∃ plan, (sampleTickers ["a", "b", "b"]).plan = .ok plan ∧ (plan.buckets.length : Int) ≤ 2 ∧
      Partitions ["a", "b", "b"] 2 plan.buckets :=
  ⟨by decide, plan_partitions _ (by decide) (by decide) (by decide) (by decide) nofun (by decide)
    (by decide)⟩

/-- A plan needs a ticker. -/
theorem plan_no_tickers :
    ((sampleTickers []).tickers.length : Int) ≤
      (sampleTickers []).websocketCapacity * (sampleTickers []).tickersPerWebsocket ∧
    ¬ ∃ plan, (sampleTickers []).plan = .ok plan :=
  ⟨by decide, nofun⟩

end ManagerConfig
end Ws
end StreamAnalytics
