import ArbitrageEngine.Domain.Types
import Mathlib.Data.List.Sort

/-!
# Slippage curve

`costmodel.SlippageCurve` is a list of points `(size, slippage in bps)`. `EstimateSlippage`
returns the first point's slippage at or below its size and the last point's at or above the
last size; in between it finds the first point at or above the order size and interpolates from
the point before it, with the ratio computed by `Decimal.Div`. `UpdateFromFills` replaces the
points by a non-empty fill list, sorted by an insertion sort of adjacent swaps.

The sort returns a permutation sorted by size (`sortPoints_perm`, `sortPoints_sorted`). The
interpolation's divisor is positive on every list, sorted or not: the loop only reaches a point
above a predecessor below the order size, so `EstimateSlippage` never panics
(`estimateSlippage_isSome`). Its value lies between two point slippages
(`estimateSlippage_mem`), and it is monotone in the size when the slippages do not decrease
along the list (`estimateSlippage_mono`), rounding of the ratio included.
-/

set_option autoImplicit false

namespace ArbitrageEngine.CostModel

/-- `SlippagePoint`. -/
structure SlippagePoint where
  size : Decimal
  slippageBps : Decimal

/-- `SlippageCurve`; the lock is left out. -/
structure SlippageCurve where
  points : List SlippagePoint

/-- `defaultSlippageCurve`. -/
def defaultSlippageCurve : List SlippagePoint :=
  [⟨1 / 100, 1⟩, ⟨1 / 10, 2⟩, ⟨1, 5⟩, ⟨10, 10⟩, ⟨100, 20⟩, ⟨1000, 50⟩]

/-- `NewSlippageCurve`. -/
def newSlippageCurve : SlippageCurve := ⟨defaultSlippageCurve⟩

/-- The loop of `EstimateSlippage` from index 1, with the point `prev` before the rest: the first
point at or above `orderSize` interpolates from `prev`, and after the last point the result is
`fallback`. `none` is the panic of a division by zero. -/
def interpolate (orderSize fallback : Decimal) (prev : SlippagePoint) :
    List SlippagePoint → Option Decimal
  | [] => some fallback
  | curr :: rest =>
    if orderSize ≤ curr.size then
      (decDivChecked (orderSize - prev.size) (curr.size - prev.size)).map fun ratio =>
        prev.slippageBps + ratio * (curr.slippageBps - prev.slippageBps)
    else interpolate orderSize fallback curr rest

/-- `EstimateSlippage`: 5 bps without points; `none` is the panic of a division by zero. -/
def SlippageCurve.estimateSlippage (sc : SlippageCurve) (orderSize : Decimal) : Option Decimal :=
  match sc.points with
  | [] => some 5
  | p0 :: rest =>
    if orderSize ≤ p0.size then some p0.slippageBps
    else
      let last := (p0 :: rest).getLast (List.cons_ne_nil _ _)
      if orderSize ≥ last.size then some last.slippageBps
      else interpolate orderSize last.slippageBps p0 rest

/-- One pass of the inner loop of `UpdateFromFills`: `x` is swapped leftwards past every point of
larger size. The sorted prefix is given in reverse, nearest point first. -/
def sinkPoint (x : SlippagePoint) : List SlippagePoint → List SlippagePoint
  | [] => [x]
  | y :: ys => if x.size < y.size then y :: sinkPoint x ys else x :: y :: ys

/-- The sort of `UpdateFromFills`: each point sinks into the sorted prefix before it. -/
def sortPoints (points : List SlippagePoint) : List SlippagePoint :=
  (points.foldl (fun rev x => sinkPoint x rev) []).reverse

/-- `UpdateFromFills`: an empty list leaves the curve; another replaces its points, sorted. -/
def SlippageCurve.updateFromFills (sc : SlippageCurve) (fills : List SlippagePoint) :
    SlippageCurve :=
  if fills.length = 0 then sc else ⟨sortPoints fills⟩

/-- The curve after a sequence of `UpdateFromFills` calls on a new curve. -/
def curveAfter (fillLists : List (List SlippagePoint)) : SlippageCurve :=
  fillLists.foldl SlippageCurve.updateFromFills newSlippageCurve

/-! ## The sort -/

/-- `sinkPoint` is `List.orderedInsert` for "at least as large". -/
theorem sinkPoint_eq_orderedInsert (x : SlippagePoint) (l : List SlippagePoint) :
    sinkPoint x l = l.orderedInsert (fun a b => b.size ≤ a.size) x := by
  induction l with
  | nil => rfl
  | cons y ys ih =>
    by_cases h : x.size < y.size
    · simp [sinkPoint, h, ih, not_le.mpr h]
    · simp [sinkPoint, h, ih, not_lt.mp h]

/-- The sort is an insertion sort of the reversed list, read back reversed. -/
theorem sortPoints_eq (points : List SlippagePoint) :
    sortPoints points =
      (points.reverse.insertionSort fun a b : SlippagePoint => b.size ≤ a.size).reverse := by
  rw [sortPoints, ← List.foldr_reverse]
  congr 1
  induction points.reverse with
  | nil => rfl
  | cons x xs ih => simp [sinkPoint_eq_orderedInsert, ih]

instance : IsTotal SlippagePoint fun a b => b.size ≤ a.size := ⟨fun a b => le_total b.size a.size⟩

instance : IsTrans SlippagePoint fun a b => b.size ≤ a.size := ⟨fun _ _ _ h1 h2 => h2.trans h1⟩

/-- The sort returns a permutation of its input. -/
theorem sortPoints_perm (points : List SlippagePoint) : (sortPoints points).Perm points := by
  rw [sortPoints_eq]
  exact (List.reverse_perm _).trans ((List.perm_insertionSort _ _).trans (List.reverse_perm _))

/-- The sorted points have non-decreasing sizes. -/
theorem sortPoints_sorted (points : List SlippagePoint) :
    (sortPoints points).Pairwise fun a b => a.size ≤ b.size := by
  rw [sortPoints_eq, List.pairwise_reverse]
  exact List.sorted_insertionSort _ _

/-- **Curves stay sorted.** After any sequence of `UpdateFromFills` calls with non-empty fill
lists, the points are the last list's, or the default curve's, sorted by size. -/
theorem curveAfter_points (fillLists : List (List SlippagePoint))
    (hne : ∀ fills ∈ fillLists, fills ≠ []) :
    (curveAfter fillLists).points.Perm (fillLists.getLast?.getD defaultSlippageCurve) ∧
      (curveAfter fillLists).points.Pairwise fun a b => a.size ≤ b.size := by
  induction fillLists using List.reverseRecOn with
  | nil =>
    refine ⟨List.Perm.refl _, ?_⟩
    simp only [curveAfter, newSlippageCurve, defaultSlippageCurve, List.foldl_nil, List.pairwise_cons,
      List.mem_cons, List.mem_singleton, forall_eq_or_imp, forall_eq, List.not_mem_nil,
      List.Pairwise.nil]
    norm_num
  | append_singleton fillLists fills _ =>
    have hfills : fills.length ≠ 0 := by simpa using hne fills (by simp)
    rw [curveAfter, List.foldl_append, List.foldl_cons, List.foldl_nil,
      SlippageCurve.updateFromFills, if_neg hfills, List.getLast?_append, List.getLast?_singleton]
    exact ⟨sortPoints_perm fills, sortPoints_sorted fills⟩

/-! ## The interpolation -/

/-- Between a point below the order size and one at or above it, the divisor is positive, and
the rounded ratio lies in `[0, 1]`. -/
theorem decDivChecked_ratio {orderSize : Decimal} {prev curr : SlippagePoint}
    (hprev : prev.size < orderSize) (hcurr : orderSize ≤ curr.size) :
    decDivChecked (orderSize - prev.size) (curr.size - prev.size) =
        some (decDiv (orderSize - prev.size) (curr.size - prev.size)) ∧
      0 ≤ decDiv (orderSize - prev.size) (curr.size - prev.size) ∧
      decDiv (orderSize - prev.size) (curr.size - prev.size) ≤ 1 := by
  have hpos : 0 < curr.size - prev.size := by linarith
  exact ⟨if_neg hpos.ne', decDiv_mem_unit (by linarith) (by linarith) hpos⟩

/-- A step of a ratio in `[0, 1]` from `x` up towards `y` stays between them. -/
theorem step_mem_of_le {x y r : Decimal} (hxy : x ≤ y) (h0 : 0 ≤ r) (h1 : r ≤ 1) :
    x ≤ x + r * (y - x) ∧ x + r * (y - x) ≤ y := by
  have hd : 0 ≤ y - x := sub_nonneg.mpr hxy
  exact ⟨le_add_of_nonneg_right (mul_nonneg h0 hd), by linarith [mul_le_of_le_one_left hd h1]⟩

/-- A step of a ratio in `[0, 1]` from `x` towards `y` stays between them. -/
theorem step_mem {x y r : Decimal} (h0 : 0 ≤ r) (h1 : r ≤ 1) :
    min x y ≤ x + r * (y - x) ∧ x + r * (y - x) ≤ max x y := by
  rcases le_total x y with h | h
  · rw [min_eq_left h, max_eq_right h]
    exact step_mem_of_le h h0 h1
  · have hd : 0 ≤ x - y := sub_nonneg.mpr h
    rw [min_eq_right h, max_eq_left h]
    constructor <;> linarith [mul_le_of_le_one_left hd h1, mul_nonneg h0 hd]

variable (orderSize fallback : Decimal)

/-- **What the loop returns.** From a point below the order size, the loop never panics: it
returns `fallback` when every later point is below the order size, and otherwise the
interpolation between two neighbouring points `a` and `b` of the list with
`a.size < orderSize ≤ b.size`. -/
theorem interpolate_spec (prev : SlippagePoint) (ps : List SlippagePoint)
    (hprev : prev.size < orderSize) :
    ∃ v, interpolate orderSize fallback prev ps = some v ∧
      ((v = fallback ∧ ∀ c ∈ ps, c.size < orderSize) ∨
        ∃ pre a b post, prev :: ps = pre ++ a :: b :: post ∧ a.size < orderSize ∧
          orderSize ≤ b.size ∧
          v = a.slippageBps + decDiv (orderSize - a.size) (b.size - a.size) *
            (b.slippageBps - a.slippageBps)) := by
  induction ps generalizing prev with
  | nil => exact ⟨fallback, rfl, .inl ⟨rfl, by simp⟩⟩
  | cons curr rest ih =>
    by_cases hc : orderSize ≤ curr.size
    · refine ⟨_, by simp only [interpolate, if_pos hc, (decDivChecked_ratio hprev hc).1,
        Option.map_some'], .inr ⟨[], prev, curr, rest, rfl, hprev, hc, rfl⟩⟩
    · obtain ⟨v, hv, hcase⟩ := ih curr (lt_of_not_le hc)
      refine ⟨v, by rw [interpolate, if_neg hc, hv], ?_⟩
      rcases hcase with ⟨rfl, hall⟩ | ⟨pre, a, b, post, heq, ha, hb, hv'⟩
      · exact .inl ⟨rfl, by simpa [lt_of_not_le hc] using hall⟩
      · exact .inr ⟨prev :: pre, a, b, post, by rw [heq]; rfl, ha, hb, hv'⟩

/-- The loop's value is `fallback` or lies between the slippages of two points of the list. -/
theorem interpolate_mem (prev : SlippagePoint) (ps : List SlippagePoint)
    (hprev : prev.size < orderSize) {v : Decimal}
    (hv : interpolate orderSize fallback prev ps = some v) :
    v = fallback ∨ ∃ a ∈ prev :: ps, ∃ b ∈ prev :: ps, a.slippageBps ≤ v ∧ v ≤ b.slippageBps := by
  obtain ⟨w, hw, hcase⟩ := interpolate_spec orderSize fallback prev ps hprev
  obtain rfl : w = v := Option.some.inj (hw.symm.trans hv)
  rcases hcase with ⟨rfl, -⟩ | ⟨pre, a, b, post, heq, ha, hb, rfl⟩
  · exact .inl rfl
  · obtain ⟨-, h0, h1⟩ := decDivChecked_ratio ha hb
    have hmem : a ∈ prev :: ps ∧ b ∈ prev :: ps := by rw [heq]; simp
    obtain ⟨hlo, hhi⟩ := @step_mem a.slippageBps b.slippageBps _ h0 h1
    rcases le_total a.slippageBps b.slippageBps with h | h
    · exact .inr ⟨a, hmem.1, b, hmem.2, by rwa [min_eq_left h] at hlo, by rwa [max_eq_right h] at hhi⟩
    · exact .inr ⟨b, hmem.2, a, hmem.1, by rwa [min_eq_right h] at hlo, by rwa [max_eq_left h] at hhi⟩

/-- With slippages non-decreasing along the list and `fallback` above them all, the loop's value
lies between the slippage of the point it starts from and `fallback`. -/
theorem interpolate_bounds (prev : SlippagePoint) (ps : List SlippagePoint)
    (hsorted : (prev :: ps).Pairwise fun a b => a.slippageBps ≤ b.slippageBps)
    (hfb : ∀ p ∈ prev :: ps, p.slippageBps ≤ fallback) (hprev : prev.size < orderSize)
    {v : Decimal} (hv : interpolate orderSize fallback prev ps = some v) :
    prev.slippageBps ≤ v ∧ v ≤ fallback := by
  induction ps generalizing prev with
  | nil => cases hv; exact ⟨hfb prev (List.mem_singleton_self _), le_rfl⟩
  | cons curr rest ih =>
    have hpc : prev.slippageBps ≤ curr.slippageBps :=
      List.rel_of_pairwise_cons hsorted (List.mem_cons_self _ _)
    by_cases hc : orderSize ≤ curr.size
    · obtain ⟨hsome, h0, h1⟩ := decDivChecked_ratio hprev hc
      simp only [interpolate, if_pos hc, hsome, Option.map_some', Option.some.injEq] at hv
      subst hv
      have hstep := step_mem_of_le hpc h0 h1
      exact ⟨hstep.1, hstep.2.trans (hfb curr (by simp))⟩
    · rw [interpolate, if_neg hc] at hv
      have := ih curr hsorted.of_cons (fun p hp => hfb p (List.mem_cons_of_mem _ hp))
        (lt_of_not_le hc) hv
      exact ⟨hpc.trans this.1, this.2⟩

/-- **The loop is monotone** in the order size, when the slippages do not decrease along the list
and `fallback` is above them all. -/
theorem interpolate_mono (prev : SlippagePoint) (ps : List SlippagePoint)
    (hsorted : (prev :: ps).Pairwise fun a b => a.slippageBps ≤ b.slippageBps)
    (hfb : ∀ p ∈ prev :: ps, p.slippageBps ≤ fallback) {s1 s2 v1 v2 : Decimal}
    (hprev : prev.size < s1) (h12 : s1 ≤ s2) (hv1 : interpolate s1 fallback prev ps = some v1)
    (hv2 : interpolate s2 fallback prev ps = some v2) : v1 ≤ v2 := by
  induction ps generalizing prev with
  | nil => cases hv1; cases hv2; exact le_rfl
  | cons curr rest ih =>
    have hpc : prev.slippageBps ≤ curr.slippageBps :=
      List.rel_of_pairwise_cons hsorted (List.mem_cons_self _ _)
    by_cases hc1 : s1 ≤ curr.size
    · obtain ⟨hsome1, h0, h1⟩ := decDivChecked_ratio hprev hc1
      simp only [interpolate, if_pos hc1, hsome1, Option.map_some', Option.some.injEq] at hv1
      subst hv1
      by_cases hc2 : s2 ≤ curr.size
      · -- Both sizes interpolate the same segment; the rounded ratio is monotone.
        obtain ⟨hsome2, -, -⟩ := decDivChecked_ratio (hprev.trans_le h12) hc2
        simp only [interpolate, if_pos hc2, hsome2, Option.map_some', Option.some.injEq] at hv2
        subst hv2
        have hratio := decDiv_le_decDiv (sub_pos.mpr (hprev.trans_le hc1))
          (sub_le_sub_right h12 prev.size)
        exact add_le_add_left (mul_le_mul_of_nonneg_right hratio (sub_nonneg.mpr hpc)) _
      · -- The first size stays below `curr`'s slippage, the second starts from it.
        rw [interpolate, if_neg hc2] at hv2
        exact (step_mem_of_le hpc h0 h1).2.trans (interpolate_bounds s2 fallback curr rest
          hsorted.of_cons (fun p hp => hfb p (List.mem_cons_of_mem _ hp)) (lt_of_not_le hc2) hv2).1
    · have hc2 : ¬ s2 ≤ curr.size := fun h => hc1 (h12.trans h)
      rw [interpolate, if_neg hc1] at hv1
      rw [interpolate, if_neg hc2] at hv2
      exact ih curr hsorted.of_cons (fun p hp => hfb p (List.mem_cons_of_mem _ hp))
        (lt_of_not_le hc1) hv1 hv2

/-! ## `EstimateSlippage` -/

/-- In a list whose slippages do not decrease, no slippage is above the last one. -/
theorem le_getLast_of_pairwise {l : List SlippagePoint}
    (h : l.Pairwise fun a b => a.slippageBps ≤ b.slippageBps) (hne : l ≠ []) :
    ∀ p ∈ l, p.slippageBps ≤ (l.getLast hne).slippageBps := by
  intro p hp
  rw [← List.dropLast_append_getLast hne] at h hp
  rcases List.mem_append.mp hp with hp | hp
  · exact (List.pairwise_append.mp h).2.2 p hp _ (List.mem_singleton_self _)
  · rw [List.mem_singleton.mp hp]

theorem SlippageCurve.estimateSlippage_cons (p0 : SlippagePoint) (rest : List SlippagePoint)
    (orderSize : Decimal) :
    (SlippageCurve.mk (p0 :: rest)).estimateSlippage orderSize =
      if orderSize ≤ p0.size then some p0.slippageBps
      else if orderSize ≥ ((p0 :: rest).getLast (List.cons_ne_nil _ _)).size then
        some ((p0 :: rest).getLast (List.cons_ne_nil _ _)).slippageBps
      else interpolate orderSize ((p0 :: rest).getLast (List.cons_ne_nil _ _)).slippageBps p0 rest :=
  rfl

/-- **`EstimateSlippage` never divides by zero**, on any list of points and at any size. -/
theorem SlippageCurve.estimateSlippage_isSome (sc : SlippageCurve) (orderSize : Decimal) :
    (sc.estimateSlippage orderSize).isSome := by
  obtain ⟨_ | ⟨p0, rest⟩⟩ := sc
  · rfl
  · rw [estimateSlippage_cons]
    split_ifs with h0
    · rfl
    · rfl
    · obtain ⟨v, hv, -⟩ := interpolate_spec orderSize _ p0 rest (lt_of_not_le h0)
      rw [hv]; rfl

/-- **`EstimateSlippage` stays within the curve.** On a curve with points, its value is at least
one point's slippage and at most another's. -/
theorem SlippageCurve.estimateSlippage_mem (sc : SlippageCurve) (hne : sc.points ≠ [])
    (orderSize : Decimal) {v : Decimal} (hv : sc.estimateSlippage orderSize = some v) :
    (∃ a ∈ sc.points, a.slippageBps ≤ v) ∧ ∃ b ∈ sc.points, v ≤ b.slippageBps := by
  obtain ⟨_ | ⟨p0, rest⟩⟩ := sc
  · exact absurd rfl hne
  · have hlast := List.getLast_mem (List.cons_ne_nil p0 rest)
    rw [estimateSlippage_cons] at hv
    split_ifs at hv with h0 h1
    · cases hv; exact ⟨⟨p0, by simp, le_rfl⟩, ⟨p0, by simp, le_rfl⟩⟩
    · cases hv; exact ⟨⟨_, hlast, le_rfl⟩, ⟨_, hlast, le_rfl⟩⟩
    · rcases interpolate_mem orderSize _ p0 rest (lt_of_not_le h0) hv with rfl | ⟨a, ha, b, hb, hab⟩
      · exact ⟨⟨_, hlast, le_rfl⟩, ⟨_, hlast, le_rfl⟩⟩
      · exact ⟨⟨a, ha, hab.1⟩, ⟨b, hb, hab.2⟩⟩

/-- With slippages non-decreasing along the points, `EstimateSlippage` lies between the first
point's slippage and the last point's. -/
theorem SlippageCurve.estimateSlippage_bounds (p0 : SlippagePoint) (rest : List SlippagePoint)
    (hsorted : (p0 :: rest).Pairwise fun a b => a.slippageBps ≤ b.slippageBps)
    (orderSize : Decimal) {v : Decimal}
    (hv : (SlippageCurve.mk (p0 :: rest)).estimateSlippage orderSize = some v) :
    p0.slippageBps ≤ v ∧ v ≤ ((p0 :: rest).getLast (List.cons_ne_nil _ _)).slippageBps := by
  have hle := le_getLast_of_pairwise hsorted (List.cons_ne_nil _ _)
  have hfirst := hle p0 (List.mem_cons_self _ _)
  rw [estimateSlippage_cons] at hv
  split_ifs at hv with h0 h1
  · cases hv; exact ⟨le_rfl, hfirst⟩
  · cases hv; exact ⟨hfirst, le_rfl⟩
  · exact interpolate_bounds orderSize _ p0 rest hsorted hle (lt_of_not_le h0) hv

/-- **`EstimateSlippage` is monotone** in the size when the slippages do not decrease along the
points, across breakpoints and with the ratio rounded. -/
theorem SlippageCurve.estimateSlippage_mono (sc : SlippageCurve)
    (hsorted : sc.points.Pairwise fun a b => a.slippageBps ≤ b.slippageBps) {s1 s2 v1 v2 : Decimal}
    (h12 : s1 ≤ s2) (hv1 : sc.estimateSlippage s1 = some v1)
    (hv2 : sc.estimateSlippage s2 = some v2) : v1 ≤ v2 := by
  obtain ⟨_ | ⟨p0, rest⟩⟩ := sc
  · cases hv1; cases hv2; exact le_rfl
  · have hb1 := estimateSlippage_bounds p0 rest hsorted s1 hv1
    have hb2 := estimateSlippage_bounds p0 rest hsorted s2 hv2
    rw [estimateSlippage_cons] at hv1 hv2
    by_cases h0 : s1 ≤ p0.size
    · rw [if_pos h0] at hv1; cases hv1; exact hb2.1
    · have h0' : ¬ s2 ≤ p0.size := fun h => h0 (h12.trans h)
      rw [if_neg h0] at hv1
      rw [if_neg h0'] at hv2
      by_cases h2 : s2 ≥ ((p0 :: rest).getLast (List.cons_ne_nil _ _)).size
      · rw [if_pos h2] at hv2; cases hv2; exact hb1.2
      · have h1 : ¬ s1 ≥ ((p0 :: rest).getLast (List.cons_ne_nil _ _)).size :=
          fun h => h2 (h.trans h12)
        rw [if_neg h1] at hv1
        rw [if_neg h2] at hv2
        exact interpolate_mono _ p0 rest hsorted (le_getLast_of_pairwise hsorted _)
          (lt_of_not_le h0) h12 hv1 hv2

/-- **What `EstimateSlippage` returns**, on any points: the first point's slippage at or below its
size; above it, the last point's slippage at or above the last size; strictly between, the
interpolation between two neighbouring points `prev`, `curr` with
`prev.size < orderSize ≤ curr.size`, with the ratio rounded to 16 digits. -/
theorem SlippageCurve.estimateSlippage_spec (sc : SlippageCurve) (orderSize : Decimal) :
    ∃ v, sc.estimateSlippage orderSize = some v ∧
      ∀ first last, sc.points.head? = some first → sc.points.getLast? = some last →
        (orderSize ≤ first.size → v = first.slippageBps) ∧
        (first.size < orderSize → last.size ≤ orderSize → v = last.slippageBps) ∧
        (first.size < orderSize → orderSize < last.size →
          ∃ pre prev curr post, sc.points = pre ++ prev :: curr :: post ∧
            prev.size < orderSize ∧ orderSize ≤ curr.size ∧
            v = prev.slippageBps + decDiv (orderSize - prev.size) (curr.size - prev.size) *
              (curr.slippageBps - prev.slippageBps)) := by
  obtain ⟨_ | ⟨p0, rest⟩⟩ := sc
  · exact ⟨5, rfl, fun first last h => by cases h⟩
  · have hget : ∀ last, (p0 :: rest).getLast? = some last →
        (p0 :: rest).getLast (List.cons_ne_nil _ _) = last := fun last h => by
      rw [List.getLast?_eq_getLast _ (List.cons_ne_nil _ _)] at h; exact Option.some.inj h
    rw [estimateSlippage_cons]
    by_cases h0 : orderSize ≤ p0.size
    · refine ⟨_, if_pos h0, fun first last hf _ => ?_⟩
      cases hf
      exact ⟨fun _ => rfl, fun h => absurd h0 (not_le.mpr h), fun h => absurd h0 (not_le.mpr h)⟩
    · rw [if_neg h0]
      by_cases h1 : orderSize ≥ ((p0 :: rest).getLast (List.cons_ne_nil _ _)).size
      · refine ⟨_, if_pos h1, fun first last hf hl => ?_⟩
        cases hf
        exact ⟨fun h => absurd h h0, fun _ _ => by rw [hget last hl],
          fun _ h => absurd h1 (not_le.mpr (by rwa [hget last hl]))⟩
      · rw [if_neg h1]
        obtain ⟨v, hv, hcase⟩ := interpolate_spec orderSize _ p0 rest (lt_of_not_le h0)
        refine ⟨v, hv, fun first last hf hl => ?_⟩
        cases hf
        refine ⟨fun h => absurd h h0, fun _ h => absurd (by rwa [hget last hl]) h1, fun _ _ => ?_⟩
        rcases hcase with ⟨-, hall⟩ | hbracket
        · -- Every later point is below the order size, so the last point is the first one,
          -- which the order size is above: impossible in the interior.
          exfalso
          have hmem := List.getLast_mem (List.cons_ne_nil p0 rest)
          rcases List.mem_cons.mp hmem with h | h
          · exact h1 (by rw [h]; exact (lt_of_not_le h0).le)
          · exact h1 (hall _ h).le
        · exact hbracket

/-- The rounded ratio moves the interpolation by at most half a unit of the sixteenth digit,
times the slippage difference. -/
theorem abs_interpolation_sub_le (orderSize : Decimal) (prev curr : SlippagePoint)
    (hne : curr.size - prev.size ≠ 0) :
    |prev.slippageBps + decDiv (orderSize - prev.size) (curr.size - prev.size) *
        (curr.slippageBps - prev.slippageBps) -
      (prev.slippageBps + (orderSize - prev.size) / (curr.size - prev.size) *
        (curr.slippageBps - prev.slippageBps))| ≤
      |curr.slippageBps - prev.slippageBps| / (2 * 10 ^ 16) := by
  have h := abs_decDiv_sub_div_le (orderSize - prev.size) (curr.size - prev.size) hne
  calc _ = |decDiv (orderSize - prev.size) (curr.size - prev.size) -
          (orderSize - prev.size) / (curr.size - prev.size)| *
        |curr.slippageBps - prev.slippageBps| := by rw [← abs_mul]; congr 1; ring
    _ ≤ 1 / (2 * 10 ^ 16) * |curr.slippageBps - prev.slippageBps| :=
        mul_le_mul_of_nonneg_right h (abs_nonneg _)
    _ = _ := by ring

/-! ## Reachable curves -/

/-- A reachable curve always has points. -/
theorem curveAfter_ne_nil (fillLists : List (List SlippagePoint)) :
    (curveAfter fillLists).points ≠ [] := by
  induction fillLists using List.reverseRecOn with
  | nil => simp [curveAfter, newSlippageCurve, defaultSlippageCurve]
  | append_singleton fillLists fills ih =>
    rw [curveAfter, List.foldl_append, List.foldl_cons, List.foldl_nil,
      SlippageCurve.updateFromFills]
    split_ifs with h
    · exact ih
    · intro hnil
      have hlen := (sortPoints_perm fills).length_eq
      rw [show sortPoints fills = [] from hnil, List.length_nil] at hlen
      exact h hlen.symm

/-- After any sequence of non-empty refits the points are the last fill list sorted by size;
`EstimateSlippage` never panics, returns the first point's slippage at or below the first size,
the last point's above the first size and at or above the last, and in between interpolates
between the two neighbouring points that bracket the size, with the ratio rounded to 16 digits,
which keeps it within `|Δbps| / (2 * 10^16)` of the exact interpolation. -/
theorem slippage_curve_interpolates (fillLists : List (List SlippagePoint))
    (hne : ∀ fills ∈ fillLists, fills ≠ []) :
    ((curveAfter fillLists).points.Perm (fillLists.getLast?.getD defaultSlippageCurve) ∧
      (curveAfter fillLists).points.Pairwise fun a b => a.size ≤ b.size) ∧
    ∀ orderSize : Decimal, ∃ v, (curveAfter fillLists).estimateSlippage orderSize = some v ∧
      ∀ first last, (curveAfter fillLists).points.head? = some first →
        (curveAfter fillLists).points.getLast? = some last →
        (orderSize ≤ first.size → v = first.slippageBps) ∧
        (first.size < orderSize → last.size ≤ orderSize → v = last.slippageBps) ∧
        (first.size < orderSize → orderSize < last.size →
          ∃ pre prev curr post, (curveAfter fillLists).points = pre ++ prev :: curr :: post ∧
            prev.size < orderSize ∧ orderSize ≤ curr.size ∧
            v = prev.slippageBps + decDiv (orderSize - prev.size) (curr.size - prev.size) *
              (curr.slippageBps - prev.slippageBps) ∧
            |v - (prev.slippageBps + (orderSize - prev.size) / (curr.size - prev.size) *
              (curr.slippageBps - prev.slippageBps))| ≤
              |curr.slippageBps - prev.slippageBps| / (2 * 10 ^ 16)) := by
  refine ⟨curveAfter_points fillLists hne, fun orderSize => ?_⟩
  obtain ⟨v, hv, hspec⟩ := (curveAfter fillLists).estimateSlippage_spec orderSize
  refine ⟨v, hv, fun first last hf hl => ?_⟩
  obtain ⟨h1, h2, h3⟩ := hspec first last hf hl
  refine ⟨h1, h2, fun hlo hhi => ?_⟩
  obtain ⟨pre, prev, curr, post, heq, hprev, hcurr, rfl⟩ := h3 hlo hhi
  exact ⟨pre, prev, curr, post, heq, hprev, hcurr, rfl,
    abs_interpolation_sub_le orderSize prev curr (by linarith)⟩

/-- Refitting with `(3, 1)` and `(0, 0)`: the points come back sorted. -/
theorem slippage_curve_interpolates_refit :
    (curveAfter [[⟨3, 1⟩, ⟨0, 0⟩]]).points.Perm [⟨3, 1⟩, ⟨0, 0⟩] ∧
      (curveAfter [[⟨3, 1⟩, ⟨0, 0⟩]]).points.Pairwise fun a b => a.size ≤ b.size :=
  (slippage_curve_interpolates [[⟨3, 1⟩, ⟨0, 0⟩]] (by simp)).1

/-- Two refits where `EstimateSlippage` at size 1 is not what the plain reading gives: with two
points of size 1 it returns the first slippage 5, though 1 is at the last size, whose slippage is
7; between `(0, 0)` and `(3, 1)` it returns `0.3333333333333333`, not the exact interpolation
`1/3`. -/
theorem slippage_duplicate_size_and_rounding :
    (curveAfter [[⟨1, 5⟩, ⟨1, 7⟩]]).estimateSlippage 1 = some 5 ∧
      (curveAfter [[⟨0, 0⟩, ⟨3, 1⟩]]).estimateSlippage 1 = some (3333333333333333 / 10 ^ 16) := by
  have hthird : decDiv 1 3 = 3333333333333333 / 10000000000000000 := by
    simp only [decDiv]
    rw [if_neg (by norm_num), if_pos (by norm_num)]
    rw [show ⌊1 / 3 * (10 : ℚ) ^ 16 + 1 / 2⌋ = 3333333333333333 by
      rw [Int.floor_eq_iff]; norm_num]
    norm_num
  constructor
  · simp [curveAfter, SlippageCurve.updateFromFills, sortPoints, sinkPoint,
      SlippageCurve.estimateSlippage_cons]
  · simp only [curveAfter, SlippageCurve.updateFromFills, sortPoints, sinkPoint,
      List.foldl_cons, List.foldl_nil, List.length_cons, List.reverse_cons, List.reverse_nil,
      List.nil_append, List.cons_append]
    norm_num [SlippageCurve.estimateSlippage_cons, interpolate, decDivChecked, hthird]

/-- On every curve reachable from `NewSlippageCurve` through `UpdateFromFills`, `EstimateSlippage`
lies between the smallest and the largest point slippage, and when the slippages do not decrease
along the size-sorted points, it is monotone in the size. -/
theorem slippage_estimate_bounded_monotone (fillLists : List (List SlippagePoint)) :
    (∀ orderSize, ∃ v, (curveAfter fillLists).estimateSlippage orderSize = some v ∧
      (∃ a ∈ (curveAfter fillLists).points, a.slippageBps ≤ v) ∧
      ∃ b ∈ (curveAfter fillLists).points, v ≤ b.slippageBps) ∧
    ((curveAfter fillLists).points.Pairwise (fun a b => a.slippageBps ≤ b.slippageBps) →
      ∀ s1 s2 v1 v2, s1 ≤ s2 → (curveAfter fillLists).estimateSlippage s1 = some v1 →
        (curveAfter fillLists).estimateSlippage s2 = some v2 → v1 ≤ v2) := by
  refine ⟨fun orderSize => ?_, fun hsorted s1 s2 v1 v2 h12 hv1 hv2 =>
    (curveAfter fillLists).estimateSlippage_mono hsorted h12 hv1 hv2⟩
  obtain ⟨v, hv⟩ := Option.isSome_iff_exists.mp
    ((curveAfter fillLists).estimateSlippage_isSome orderSize)
  exact ⟨v, hv, (curveAfter fillLists).estimateSlippage_mem (curveAfter_ne_nil _) orderSize hv⟩

/-- The default curve's slippages increase along its points, and its estimates at the
breakpoints 0.1 and 1 come in order. -/
theorem default_curve_breakpoints_ordered :
    (curveAfter []).estimateSlippage (1 / 10) = some 2 ∧
      (curveAfter []).estimateSlippage 1 = some 5 ∧ (2 : Decimal) ≤ 5 := by
  have hone : ∀ x : Decimal, x ≠ 0 → decDiv x x = 1 := fun x hx => by
    rw [decDiv_of_int _ _ hx (10 ^ 16) (by rw [div_self hx]; norm_num), div_self hx]
  have hsorted : (curveAfter []).points.Pairwise fun a b => a.slippageBps ≤ b.slippageBps := by
    simp only [curveAfter, newSlippageCurve, defaultSlippageCurve, List.foldl_nil,
      List.pairwise_cons, List.mem_cons, List.mem_singleton, forall_eq_or_imp, forall_eq,
      List.not_mem_nil, List.Pairwise.nil]
    norm_num
  have h1 : (curveAfter []).estimateSlippage (1 / 10) = some 2 := by
    norm_num [curveAfter, newSlippageCurve, defaultSlippageCurve,
      SlippageCurve.estimateSlippage_cons, interpolate, decDivChecked, hone]
  have h2 : (curveAfter []).estimateSlippage 1 = some 5 := by
    norm_num [curveAfter, newSlippageCurve, defaultSlippageCurve,
      SlippageCurve.estimateSlippage_cons, interpolate, decDivChecked, hone]
  exact ⟨h1, h2, (slippage_estimate_bounded_monotone []).2 hsorted _ _ _ _ (by norm_num) h1 h2⟩

end ArbitrageEngine.CostModel
