import StreamAnalytics.Aggregation.CandleFold
import StreamAnalytics.Aggregation.BuildCandleSpec

/-!
# Base candles folded exactly once

`FoldedOnce` says that the base candles of an instrument split into consecutive
groups, that each closed candle of a higher timeframe is what `ApplyClosedCandle`
and `Close` make of one group, and that the open candle is what `ApplyClosedCandle`
makes of the last one.  Every base candle is then folded exactly once, and the
trade counts and volumes of both timeframes agree (`FoldedOnce.sum_eq`).
-/

namespace StreamAnalytics
namespace Aggregation

open GoInt

/-! ## Saved candles -/

namespace CandleV1

/-- A closed candle as it is saved: `Validate` accepts it without a change. -/
structure Settled (c : CandleV1) : Prop where
  complete : c.Complete
  inRange : c.InRange
  settledBar_eq : c.settledBar = c.bar

theorem settled_of_close
    {c c' : CandleV1} {e : Int} {u : PUnit} (hrange : c.InRange) (h : close e c = (c', .ok u)) :
    c'.Settled := by
  obtain ⟨-, hcount, -, hvalid⟩ := close_eq_ok_iff_validate.mp h
  obtain ⟨hhydrated, hidentity, hfixed, ⟨o, hi, lo, cl, v, b, s, heq⟩, hrange'⟩ :=
    validate_eq_ok (c := c.closedAt e) hcount hvalid
  have hcount' : 0 < c'.tradeCount := by
    rw [heq]
    exact hcount
  have hidentity' : c'.validateIdentity = none := by
    rw [heq]
    exact hidentity
  -- The hydrated fields pass a second `Validate` unchanged.
  have hagain : validate c' = (c', .ok ⟨⟩) :=
    (hhydrated.validate_eq_ok_iff (by omega)).mpr ⟨rfl, hidentity', hfixed⟩
  refine ⟨⟨by rw [heq]; rfl, hcount', by rw [hagain]⟩, ?_, by rw [settledBar, hagain]⟩
  exact hrange' ⟨hrange.volume, hrange.buyVolume, hrange.sellVolume, hrange.tradeCount⟩

end CandleV1

theorem foldCandles_snoc {group : List CandleV1} {c d d' child : CandleV1} {u : PUnit}
    (hfold : foldCandles group c = (d, .ok ⟨⟩))
    (happly : CandleV1.applyClosedCandle child d = (d', .ok u)) :
    foldCandles (group ++ [child]) c = (d', .ok ⟨⟩) := by
  induction group generalizing c with
  | nil =>
    cases hfold
    exact Prog.bind_eq_ok_iff.mpr ⟨d', u, happly, rfl⟩
  | cons first rest ih =>
    obtain ⟨c₁, u₁, hfirst, hrest⟩ := Prog.bind_eq_ok_iff.mp hfold
    exact Prog.bind_eq_ok_iff.mpr ⟨c₁, u₁, hfirst, ih hrest⟩

/-! ## Candles built from groups -/

section Built

variable {key : CandleKey} {w : Int} {group : List CandleV1} {c d d' fresh : CandleV1} {u : PUnit}

/-- A candle that `ApplyClosedCandle` has built from closed candles of its window. -/
structure BuiltFrom (key : CandleKey) (w : Int) (group : List CandleV1) (d : CandleV1) : Prop where
  ne_nil : group ≠ []
  window : ∀ c ∈ group, bucket c.windowStartTs w = d.windowStartTs
  folded : ∃ fresh,
    CandleV1.create key.venue key.instrument key.timeframe d.windowStartTs = .ok fresh ∧
    foldCandles group fresh = (d, .ok ⟨⟩)

/-- A built candle that has been closed. -/
def ClosedFrom (key : CandleKey) (w : Int) (group : List CandleV1) (d : CandleV1) : Prop :=
  ∃ d₀ e, BuiltFrom key w group d₀ ∧ CandleV1.close e d₀ = (d, .ok ⟨⟩)

/-- The open candle of a timeframe, if there is one, is built from the group. -/
def OpenFrom (key : CandleKey) (w : Int) (group : List CandleV1) : Option CandleV1 → Prop
  | none => group = []
  | some d => BuiltFrom key w group d

/-- What a built candle holds. -/
structure Holds (key : CandleKey) (group : List CandleV1) (d : CandleV1) : Prop where
  accumulating : d.Accumulating
  filled : d.Filled
  bar_eq : d.bar = Bar.total (group.map CandleV1.bar)
  key_eq : d.key = key.trimmed

theorem BuiltFrom.holds
    (h : BuiltFrom key w group d) (hgroup : ∀ c ∈ group, c.Settled) : Holds key group d := by
  obtain ⟨fresh, hcreate, hfold⟩ := h.folded
  obtain ⟨hacc, hfresh⟩ := CandleV1.create_fresh hcreate
  obtain ⟨-, hbars, hd⟩ := (foldCandles_eq_ok_iff hacc fun c hc => (hgroup c hc).inRange).mp hfold
  have hmap : group.map CandleV1.settledBar = group.map CandleV1.bar :=
    List.map_congr_left fun c hc => (hgroup c hc).settledBar_eq
  have hne : group.map CandleV1.bar ≠ [] := by simp [h.ne_nil]
  rw [hmap] at hbars hd
  have hbuilt : d = fresh.withBar (Bar.total (group.map CandleV1.bar)) := by
    rw [hd, CandleV1.absorbAll_eq hacc hne hbars, hfresh.bars_eq, List.nil_append]
  have hacc' := CandleV1.absorbAll_accumulating hacc hbars
  rw [← hd] at hacc'
  rw [hfresh.bars_eq, List.nil_append] at hbars
  have hbar : d.bar = Bar.total (group.map CandleV1.bar) := by
    rw [hbuilt, CandleV1.bar_withBar]
  refine ⟨hacc', ⟨?_, ?_, ?_⟩, hbar, ?_⟩
  · rw [hbuilt]
    exact CandleV1.synced_withBar fresh _
  · rw [hbar]
    exact Bar.sound_total hne hbars.sound hbars.chain
  · rw [hbar]
    exact hbars.fits
  · rw [hbuilt]
    exact (CandleV1.create_eq_ok hcreate).1

theorem BuiltFrom.dvd_start (h : BuiltFrom key w group d) : w ∣ d.windowStartTs := by
  obtain ⟨c, hc⟩ := List.exists_mem_of_ne_nil group h.ne_nil
  rw [← h.window c hc]
  exact dvd_bucket c.windowStartTs w

theorem BuiltFrom.snoc
    (h : BuiltFrom key w group d) (hwindow : bucket c.windowStartTs w = d.windowStartTs)
    (happly : CandleV1.applyClosedCandle c d = (d', .ok u)) :
    BuiltFrom key w (group ++ [c]) d' := by
  have hstart : d'.windowStartTs = d.windowStartTs := by
    have hkeep := (CandleV1.keepsWindow_applyClosedCandle c d).2
    rwa [happly] at hkeep
  obtain ⟨fresh, hcreate, hfold⟩ := h.folded
  refine ⟨by simp, fun x hx => ?_, fresh, by rwa [hstart], foldCandles_snoc hfold happly⟩
  rw [hstart]
  rcases List.mem_append.mp hx with hx | hx
  · exact h.window x hx
  · rw [List.mem_singleton.mp hx]
    exact hwindow

theorem builtFrom_singleton
    (hcreate : CandleV1.create key.venue key.instrument key.timeframe
      (bucket c.windowStartTs w) = .ok fresh)
    (happly : CandleV1.applyClosedCandle c fresh = (d', .ok u)) : BuiltFrom key w [c] d' := by
  have hstart : d'.windowStartTs = bucket c.windowStartTs w := by
    have hkeep := (CandleV1.keepsWindow_applyClosedCandle c fresh).2
    rw [happly] at hkeep
    exact hkeep.trans (CandleV1.create_eq_ok hcreate).2
  refine ⟨by simp, fun x hx => ?_, fresh, by rwa [hstart],
    Prog.bind_eq_ok_iff.mpr ⟨d', u, happly, rfl⟩⟩
  rw [List.mem_singleton.mp hx, hstart]

theorem ClosedFrom.bar_eq (h : ClosedFrom key w group d) (hgroup : ∀ c ∈ group, c.Settled) :
    d.bar = Bar.total (group.map CandleV1.bar) := by
  obtain ⟨d₀, e, hbuilt, hclose⟩ := h
  have hholds := hbuilt.holds hgroup
  obtain ⟨-, -, rfl⟩ := (CandleV1.close_eq_ok_iff hholds.accumulating).mp hclose
  exact hholds.bar_eq

end Built

/-! ## Every base candle once -/

/--
The closed candles of a timeframe and its open candle are built from consecutive
groups that cover the base candles.
-/
def FoldedOnce (key : CandleKey) (w : Int) (bases closed : List CandleV1)
    (current : Option CandleV1) : Prop :=
  ∃ groups last, groups.flatten ++ last = bases ∧
    List.Forall₂ (ClosedFrom key w) groups closed ∧ OpenFrom key w last current

section FoldedOnce

variable {key : CandleKey} {w : Int} {bases closed : List CandleV1} {current : Option CandleV1}
  {base d d' fresh : CandleV1} {u : PUnit}

theorem foldedOnce_nil : FoldedOnce key w [] [] none := ⟨[], [], rfl, .nil, rfl⟩

theorem FoldedOnce.holds
    (h : FoldedOnce key w bases closed (some d)) (hbases : ∀ c ∈ bases, c.Settled) :
    w ∣ d.windowStartTs ∧ ∃ group, Holds key group d := by
  obtain ⟨groups, last, rfl, -, hlast⟩ := h
  exact ⟨BuiltFrom.dvd_start hlast, last,
    BuiltFrom.holds hlast fun c hc => hbases c (List.mem_append_right _ hc)⟩

/-- Closing the open candle moves its group to the closed ones. -/
theorem FoldedOnce.close {e : Int} (h : FoldedOnce key w bases closed (some d))
    (hclose : CandleV1.close e d = (d', .ok ⟨⟩)) :
    FoldedOnce key w bases (closed ++ [d']) none := by
  obtain ⟨groups, last, rfl, hclosed, hlast⟩ := h
  refine ⟨groups ++ [last], [], by simp, ?_, rfl⟩
  exact List.rel_append hclosed (.cons ⟨d, e, hlast, hclose⟩ .nil)

/-- The open candle takes one more base candle of its window. -/
theorem FoldedOnce.append (h : FoldedOnce key w bases closed (some d))
    (hwindow : bucket base.windowStartTs w = d.windowStartTs)
    (happly : CandleV1.applyClosedCandle base d = (d', .ok u)) :
    FoldedOnce key w (bases ++ [base]) closed (some d') := by
  obtain ⟨groups, last, rfl, hclosed, hlast⟩ := h
  exact ⟨groups, last ++ [base], by simp, hclosed, BuiltFrom.snoc hlast hwindow happly⟩

/-- A new candle takes the first base candle of its window. -/
theorem FoldedOnce.first (h : FoldedOnce key w bases closed none)
    (hcreate : CandleV1.create key.venue key.instrument key.timeframe
      (bucket base.windowStartTs w) = .ok fresh)
    (happly : CandleV1.applyClosedCandle base fresh = (d', .ok u)) :
    FoldedOnce key w (bases ++ [base]) closed (some d') := by
  obtain ⟨groups, last, rfl, hclosed, rfl⟩ := h
  exact ⟨groups, [base], by simp, hclosed, builtFrom_singleton hcreate happly⟩

/-- A measure that adds up over bars adds up over both timeframes. -/
theorem FoldedOnce.sum_eq {f : Bar → Int} (hf : ∀ bs, f (Bar.total bs) = (bs.map f).sum)
    (h : FoldedOnce key w bases closed current) (hbases : ∀ c ∈ bases, c.Settled) :
    ((closed ++ current.toList).map fun c => f c.bar).sum = (bases.map fun c => f c.bar).sum := by
  obtain ⟨groups, last, rfl, hclosed, hlast⟩ := h
  have hgroup : ∀ group : List CandleV1,
      f (Bar.total (group.map CandleV1.bar)) = (group.map fun c => f c.bar).sum := by
    intro group
    rw [hf, List.map_map]
    rfl
  have hopen : (current.toList.map fun c => f c.bar).sum = (last.map fun c => f c.bar).sum := by
    cases current with
    | none =>
      rw [show last = [] from hlast]
      rfl
    | some d =>
      have hd := BuiltFrom.holds hlast fun c hc => hbases c (List.mem_append_right _ hc)
      simp [hd.bar_eq, hgroup]
  rw [List.map_append, List.sum_append, hopen, List.map_append, List.sum_append]
  congr 1
  have hsettled : ∀ c ∈ groups.flatten, c.Settled :=
    fun c hc => hbases c (List.mem_append_left _ hc)
  clear hbases hlast
  induction hclosed with
  | nil => rfl
  | @cons group d groups closed hd _ ih =>
    have hgs : ∀ c ∈ groups.flatten, c.Settled := fun c hc => hsettled c (by simp_all)
    have hg : ∀ c ∈ group, c.Settled := fun c hc => hsettled c (by simp [hc])
    rw [List.map_cons, List.sum_cons, ih hgs, hd.bar_eq hg, hgroup, List.flatten_cons,
      List.map_append, List.sum_append]

end FoldedOnce

end Aggregation
end StreamAnalytics
