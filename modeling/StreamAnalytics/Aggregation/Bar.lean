import Mathlib.Algebra.BigOperators.Group.List.Basic
import Mathlib.Data.List.Chain
import StreamAnalytics.Aggregation.Candle

/-!
# Bars

A bar is what a candle says about a stretch of trades: its four prices, its
volumes, its trade count and its sequence bounds, over the integers.  Bars of
adjacent stretches are combined by `*`, which is associative, and `total` is the
bar of a whole list.

`Acceptable` collects the conditions under which the candle operations accept a
list of bars one after the other: the bars are sound, their sequence numbers are
ordered, and the sums are representable.  Its main property is that it can be
checked group by group (`acceptable_flatten_iff`).
-/

namespace StreamAnalytics
namespace Aggregation

/-- The content of a candle with trades. -/
@[ext] structure Bar where
  opening : Int
  high : Int
  low : Int
  closing : Int
  volume : Int
  buyVolume : Int
  sellVolume : Int
  tradeCount : Int
  seqFirst : Int
  seqLast : Int
deriving Repr, DecidableEq

namespace Bar

variable {bs : List Bar}

/-- The bar of one trade. -/
def ofTrade (price qty : Int) (isBuy : Bool) (seq : Int) : Bar where
  opening := price
  high := price
  low := price
  closing := price
  volume := qty
  buyVolume := if isBuy then qty else 0
  sellVolume := if isBuy then 0 else qty
  tradeCount := 1
  seqFirst := seq
  seqLast := seq

/-- Adjacent stretches combine. -/
instance : Mul Bar where
  mul a b :=
    { opening := a.opening
      high := max a.high b.high
      low := min a.low b.low
      closing := b.closing
      volume := a.volume + b.volume
      buyVolume := a.buyVolume + b.buyVolume
      sellVolume := a.sellVolume + b.sellVolume
      tradeCount := a.tradeCount + b.tradeCount
      seqFirst := a.seqFirst
      seqLast := b.seqLast }

section Mul

variable (a b : Bar)

@[simp] theorem opening_mul : (a * b).opening = a.opening := rfl

@[simp] theorem high_mul : (a * b).high = max a.high b.high := rfl

@[simp] theorem low_mul : (a * b).low = min a.low b.low := rfl

@[simp] theorem closing_mul : (a * b).closing = b.closing := rfl

@[simp] theorem volume_mul : (a * b).volume = a.volume + b.volume := rfl

@[simp] theorem buyVolume_mul : (a * b).buyVolume = a.buyVolume + b.buyVolume := rfl

@[simp] theorem sellVolume_mul : (a * b).sellVolume = a.sellVolume + b.sellVolume := rfl

@[simp] theorem tradeCount_mul : (a * b).tradeCount = a.tradeCount + b.tradeCount := rfl

@[simp] theorem seqFirst_mul : (a * b).seqFirst = a.seqFirst := rfl

@[simp] theorem seqLast_mul : (a * b).seqLast = b.seqLast := rfl

end Mul

instance : Semigroup Bar where
  mul_assoc a b c := by
    ext <;> simp [max_assoc, min_assoc, Int.add_assoc]

/-- The conditions that `Validate` checks on the fixed-point fields. -/
structure Sound (b : Bar) : Prop where
  seqFirst_pos : 0 < b.seqFirst
  seq_le : b.seqFirst ≤ b.seqLast
  low_pos : 0 < b.low
  low_le_opening : b.low ≤ b.opening
  low_le_closing : b.low ≤ b.closing
  opening_le_high : b.opening ≤ b.high
  closing_le_high : b.closing ≤ b.high
  buyVolume_nonneg : 0 ≤ b.buyVolume
  sellVolume_nonneg : 0 ≤ b.sellVolume
  volume_eq : b.volume = b.buyVolume + b.sellVolume
  tradeCount_pos : 0 < b.tradeCount

/-- The sums are representable as `int64`. -/
structure Fits (b : Bar) : Prop where
  volume_lt : b.volume < 2 ^ 63
  tradeCount_lt : b.tradeCount < 2 ^ 63

/-- The next stretch does not start before the end of this one. -/
def Precedes (a b : Bar) : Prop := a.seqLast ≤ b.seqFirst

instance (a b : Bar) : Decidable (a.Precedes b) := inferInstanceAs (Decidable (_ ≤ _))

theorem Sound.volume_nonneg {b : Bar} (h : b.Sound) : 0 ≤ b.volume := by
  have := h.buyVolume_nonneg
  have := h.sellVolume_nonneg
  have := h.volume_eq
  omega

theorem sound_ofTrade
    {price qty seq : Int} (hprice : 0 < price) (hqty : 0 < qty) (hseq : 0 < seq) (isBuy : Bool) :
    (ofTrade price qty isBuy seq).Sound := by
  cases isBuy <;> constructor <;> simp [ofTrade] <;> omega

theorem Sound.mul
    {a b : Bar} (ha : a.Sound) (hb : b.Sound) (hab : a.Precedes b) : (a * b).Sound := by
  obtain ⟨ha₁, ha₂, ha₃, ha₄, ha₅, ha₆, ha₇, ha₈, ha₉, ha₁₀, ha₁₁⟩ := ha
  obtain ⟨hb₁, hb₂, hb₃, hb₄, hb₅, hb₆, hb₇, hb₈, hb₉, hb₁₀, hb₁₁⟩ := hb
  unfold Precedes at hab
  constructor <;> simp only [opening_mul, high_mul, low_mul, closing_mul, volume_mul,
    buyVolume_mul, sellVolume_mul, tradeCount_mul, seqFirst_mul, seqLast_mul] <;> omega

/-! ## Lists of bars -/

/-- The bar of a list of adjacent stretches. -/
def total : List Bar → Bar
  | [] => ⟨0, 0, 0, 0, 0, 0, 0, 0, 0, 0⟩
  | b :: bs => bs.foldl (· * ·) b

@[simp] theorem total_singleton (b : Bar) : total [b] = b := by
  rfl

theorem total_cons (b : Bar) (h : bs ≠ []) : total (b :: bs) = b * total bs := by
  cases bs with
  | nil => exact absurd rfl h
  | cons b' bs => simp only [total, List.foldl_cons, List.foldl_assoc]

theorem total_append
    {as : List Bar} (has : as ≠ []) (hbs : bs ≠ []) : total (as ++ bs) = total as * total bs := by
  induction as with
  | nil => exact absurd rfl has
  | cons a as ih =>
    by_cases hnil : as = []
    · subst hnil
      exact total_cons a hbs
    · rw [List.cons_append, total_cons a (by simp [hnil]), ih hnil, total_cons a hnil, mul_assoc]

/-- Combining group by group combines the whole list. -/
theorem total_flatten
    {gs : List (List Bar)} (h : ∀ g ∈ gs, g ≠ []) : total gs.flatten = total (gs.map total) := by
  induction gs with
  | nil => rfl
  | cons g gs ih =>
    have hg : g ≠ [] := h g (by simp)
    have hgs : ∀ g' ∈ gs, g' ≠ [] := fun g' hg' => h g' (by simp [hg'])
    cases gs with
    | nil => simp
    | cons g' gs =>
      have hflat : (g' :: gs).flatten ≠ [] := by
        simp [hgs g' (by simp)]
      have hmap : (g :: g' :: gs).map total = total g :: (g' :: gs).map total := rfl
      rw [List.flatten_cons, total_append hg hflat, ih hgs, hmap, total_cons _ (by simp)]

theorem volume_total (bs : List Bar) : (total bs).volume = (bs.map volume).sum := by
  induction bs with
  | nil => rfl
  | cons b bs ih =>
    by_cases hnil : bs = []
    · simp [hnil]
    · rw [total_cons b hnil, volume_mul, ih, List.map_cons, List.sum_cons]

theorem tradeCount_total (bs : List Bar) : (total bs).tradeCount = (bs.map tradeCount).sum := by
  induction bs with
  | nil => rfl
  | cons b bs ih =>
    by_cases hnil : bs = []
    · simp [hnil]
    · rw [total_cons b hnil, tradeCount_mul, ih, List.map_cons, List.sum_cons]

theorem seqFirst_total (b : Bar) (bs : List Bar) : (total (b :: bs)).seqFirst = b.seqFirst := by
  by_cases hnil : bs = []
  · rw [hnil, total_singleton]
  · rw [total_cons b hnil, seqFirst_mul]

theorem seqLast_total (bs : List Bar) (b : Bar) : (total (bs ++ [b])).seqLast = b.seqLast := by
  by_cases hnil : bs = []
  · rw [hnil, List.nil_append, total_singleton]
  · rw [total_append hnil (by simp), seqLast_mul, total_singleton]

/-- Ordered sound bars combine to a sound bar. -/
theorem sound_total (hne : bs ≠ []) (hsound : ∀ b ∈ bs, b.Sound) (hchain : bs.IsChain Precedes) :
    (total bs).Sound := by
  induction bs with
  | nil => exact absurd rfl hne
  | cons b bs ih =>
    cases bs with
    | nil => exact hsound b (by simp)
    | cons b' bs =>
      rw [List.isChain_cons_cons] at hchain
      have htail := ih (by simp) (fun x hx => hsound x (by simp [hx])) hchain.2
      rw [total_cons b (by simp)]
      refine (hsound b (by simp)).mul htail ?_
      unfold Precedes
      rw [seqFirst_total]
      exact hchain.1

/-- The lists of bars that the candle operations accept one after the other. -/
structure Acceptable (bs : List Bar) : Prop where
  sound : ∀ b ∈ bs, b.Sound
  chain : bs.IsChain Precedes
  fits : (total bs).Fits

theorem acceptable_nil : Acceptable [] := ⟨by simp, .nil, ⟨by decide, by decide⟩⟩

theorem Sound.acceptable_singleton {b : Bar} (hsound : b.Sound) (hfits : b.Fits) : Acceptable [b] :=
  ⟨by simpa using hsound, .singleton b, hfits⟩

/-- A total is representable exactly when its volume and trade count are. -/
theorem fits_total_iff :
    (total bs).Fits ↔ (bs.map volume).sum < 2 ^ 63 ∧ (bs.map tradeCount).sum < 2 ^ 63 := by
  rw [← volume_total, ← tradeCount_total]
  exact ⟨fun h => ⟨h.1, h.2⟩, fun h => ⟨h.1, h.2⟩⟩

theorem sum_nonneg
    (hsound : ∀ b ∈ bs, b.Sound) : 0 ≤ (bs.map volume).sum ∧ 0 ≤ (bs.map tradeCount).sum := by
  induction bs with
  | nil => simp
  | cons b bs ih =>
    have hb := hsound b (by simp)
    have hv := hb.volume_nonneg
    have hn := hb.tradeCount_pos
    obtain ⟨hv', hn'⟩ := ih fun x hx => hsound x (by simp [hx])
    simp only [List.map_cons, List.sum_cons]
    omega

/-- Every part of an acceptable list is acceptable. -/
theorem Acceptable.infix
    (as : List Bar) (cs : List Bar) (h : Acceptable (as ++ bs ++ cs)) : Acceptable bs := by
  have hpart : ∀ b ∈ bs, b ∈ as ++ bs ++ cs := by
    intro b hb
    simp [hb]
  refine ⟨fun b hb => h.sound b (hpart b hb), h.chain.infix ⟨as, cs, rfl⟩, ?_⟩
  have hfits := fits_total_iff.mp h.fits
  have has := sum_nonneg fun b (hb : b ∈ as) => h.sound b (by simp [hb])
  have hcs := sum_nonneg fun b (hb : b ∈ cs) => h.sound b (by simp [hb])
  simp only [List.map_append, List.sum_append] at hfits
  exact fits_total_iff.mpr ⟨by omega, by omega⟩

/-- Acceptability can be checked group by group and on the totals of the groups. -/
theorem acceptable_flatten_iff (gs : List (List Bar)) (hne : ∀ g ∈ gs, g ≠ []) :
    Acceptable gs.flatten ↔ (∀ g ∈ gs, Acceptable g) ∧ Acceptable (gs.map total) := by
  have hnil : [] ∉ gs := fun h => hne [] h rfl
  -- The totals carry the sequence bounds of the first and last bar of their group.
  have hlink : ∀ g₁ g₂ : List Bar, g₁ ≠ [] → g₂ ≠ [] →
      ((∀ x ∈ g₁.getLast?, ∀ y ∈ g₂.head?, Precedes x y) ↔ Precedes (total g₁) (total g₂)) := by
    intro g₁ g₂ h₁ h₂
    obtain ⟨bs, b, rfl⟩ := List.eq_nil_or_concat g₁ |>.resolve_left h₁
    obtain ⟨b', bs', rfl⟩ := List.exists_cons_of_ne_nil h₂
    simp [Precedes, seqFirst_total, seqLast_total]
  have hchain : (gs.map total).IsChain Precedes ↔
      gs.IsChain fun g₁ g₂ => ∀ x ∈ g₁.getLast?, ∀ y ∈ g₂.head?, Precedes x y := by
    rw [List.isChain_map]
    constructor <;> intro h
    · exact List.IsChain.imp_of_mem_imp (fun g₁ g₂ m₁ m₂ => (hlink g₁ g₂ (hne _ m₁) (hne _ m₂)).mpr) h
    · exact List.IsChain.imp_of_mem_imp (fun g₁ g₂ m₁ m₂ => (hlink g₁ g₂ (hne _ m₁) (hne _ m₂)).mp) h
  constructor
  · intro h
    have hgroups : ∀ g ∈ gs, Acceptable g := by
      intro g hg
      obtain ⟨pre, post, rfl⟩ := List.append_of_mem hg
      refine Acceptable.infix pre.flatten post.flatten ?_
      simpa using h
    refine ⟨hgroups, ?_, ?_, ?_⟩
    · intro b hb
      obtain ⟨g, hg, rfl⟩ := List.mem_map.mp hb
      exact sound_total (hne g hg) (hgroups g hg).sound (hgroups g hg).chain
    · exact hchain.mpr ((List.isChain_flatten hnil).mp h.chain).2
    · rw [← total_flatten hne]
      exact h.fits
  · rintro ⟨hgroups, htotals⟩
    refine ⟨?_, ?_, ?_⟩
    · intro b hb
      obtain ⟨g, hg, hbg⟩ := List.mem_flatten.mp hb
      exact (hgroups g hg).sound b hbg
    · exact (List.isChain_flatten hnil).mpr ⟨fun g hg => (hgroups g hg).chain, hchain.mp htotals.chain⟩
    · rw [total_flatten hne]
      exact htotals.fits

/-- The first bars of an acceptable list may be replaced by their total. -/
theorem acceptable_append_iff {as : List Bar} (has : as ≠ []) :
    Acceptable (as ++ bs) ↔ Acceptable as ∧ Acceptable (total as :: bs) := by
  have hflat : (as :: bs.map fun b => [b]).flatten = as ++ bs := by
    rw [List.flatten_cons]
    congr 1
    induction bs with
    | nil => rfl
    | cons b bs ih => simp [ih]
  have htotals : (as :: bs.map fun b => [b]).map total = total as :: bs := by
    simp [Function.comp_def]
  have hiff := acceptable_flatten_iff (as :: bs.map fun b => [b]) (by
    intro g hg
    rcases List.mem_cons.mp hg with rfl | hg
    · exact has
    · obtain ⟨b, -, rfl⟩ := List.mem_map.mp hg
      simp)
  rw [hflat, htotals] at hiff
  rw [hiff]
  constructor
  · rintro ⟨hgroups, h⟩
    exact ⟨hgroups as (by simp), h⟩
  · rintro ⟨h₁, h₂⟩
    refine ⟨?_, h₂⟩
    intro g hg
    rcases List.mem_cons.mp hg with rfl | hg
    · exact h₁
    · obtain ⟨b, hb, rfl⟩ := List.mem_map.mp hg
      obtain ⟨pre, post, rfl⟩ := List.append_of_mem hb
      refine Acceptable.infix (total as :: pre) post ?_
      simpa using h₂

end Bar

/-! ## The bar of a candle -/

namespace CandleV1

/-- The fixed-point fields, the trade count and the sequence bounds. -/
def bar (c : CandleV1) : Bar where
  opening := c.openFixed
  high := c.highFixed
  low := c.lowFixed
  closing := c.closeFixed
  volume := c.volumeFixed
  buyVolume := c.buyVolumeFixed
  sellVolume := c.sellVolumeFixed
  tradeCount := c.tradeCount
  seqFirst := c.seqFirst
  seqLast := c.seqLast

/-- The candle of the same window with the given content. -/
def withBar (c : CandleV1) (b : Bar) : CandleV1 :=
  syncFromFixed
    { c with
      openFixed := b.opening
      highFixed := b.high
      lowFixed := b.low
      closeFixed := b.closing
      volumeFixed := b.volume
      buyVolumeFixed := b.buyVolume
      sellVolumeFixed := b.sellVolume
      tradeCount := b.tradeCount
      seqFirst := b.seqFirst
      seqLast := b.seqLast }

@[simp] theorem bar_withBar (c : CandleV1) (b : Bar) : (c.withBar b).bar = b := by
  rfl

/-- The content of a candle as a list of bars: none, or one. -/
def bars (c : CandleV1) : List Bar := if c.tradeCount = 0 then [] else [c.bar]

/-- The bar of a candle after a further stretch. -/
def nextBar (c : CandleV1) (b : Bar) : Bar := if c.tradeCount = 0 then b else c.bar * b

/-- A candle after a further stretch. -/
def absorb (c : CandleV1) (b : Bar) : CandleV1 := c.withBar (c.nextBar b)

theorem nextBar_eq_total (c : CandleV1) (b : Bar) : c.nextBar b = Bar.total (c.bars ++ [b]) := by
  unfold nextBar bars
  split_ifs
  · rfl
  · rfl

/-- A candle after a list of further stretches. -/
def absorbAll (c : CandleV1) (bs : List Bar) : CandleV1 := bs.foldl absorb c

end CandleV1

end Aggregation
end StreamAnalytics
