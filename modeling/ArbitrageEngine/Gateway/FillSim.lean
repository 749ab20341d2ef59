import ArbitrageEngine.Domain.Types
import Mathlib.Algebra.Order.BigOperators.Group.List

/-!
# Fill simulator of the dry-run gateway

`simulated.DefaultFillSimulator` answers an order against the live book of its symbol. A market
order walks the opposite side from the best level (`simulateMarketFill`) at the taker fee. A limit
order that does not reach the best opposite level is acknowledged unfilled; one that does is
walked like a market order of the same size at the maker fee. The walk takes from each level the
smaller of what is left and the level's size, and prices the fill at the size-weighted average of
the levels it took from.

The random reject of the source is `rng.Float64() * 100 < rejectRatePct`; the model receives the
draw of `rng.Float64()`, a number in `[0, 1)`, with each call.

`walkLevels_filled` says what a walk fills: the order's size, capped by the whole depth of the
side. A limit order that reaches the best opposite price is filled as a market order against the
walked depth (`limit_order_fills_as_market`); nothing in the walk reads the limit price, so a
crossing limit order of a size above the depth within its limit fills at levels beyond the limit
(`limit_buy_fills_beyond_limit`).

Level by level, the walk takes `consumed`: each level gives what is left of the order after the
levels before it, up to its size, so the levels are consumed strictly in order
(`walkLevels_eq_consumed`, `consumed_in_order`). The average price is the cost over the size
rounded to sixteen digits, so it lies within half a unit of that digit of any bounds on the
consumed prices, and exactly within bounds that are on the grid of sixteen digits
(`simulateMarketFill_price_mem`).
-/

set_option autoImplicit false

namespace ArbitrageEngine.Simulated

/-- `SimulatedFill`. -/
structure SimulatedFill where
  fillPrice : Decimal
  fillSize : Decimal
  fee : Decimal
  latencyMs : Nat
  status : OrderStatus

/-- `DefaultFillSimulator`, without its random source. -/
structure DefaultFillSimulator where
  latencyMs : Nat
  rejectRatePct : ℚ
  makerFeeBps : Decimal
  takerFeeBps : Decimal

/-- The simulator `main` builds for a dry run: the sample configuration's 50 ms latency and no
random reject, maker fee 2 bps, taker fee 5 bps. -/
def dryRunSimulator : DefaultFillSimulator := ⟨50, 0, 2, 5⟩

/-- The loop of `simulateMarketFill` over the levels, with what is left to fill, the cost so far
and the size filled so far; it returns the cost and the size filled. -/
def walkLevels : List PriceLevel → Decimal → Decimal → Decimal → Decimal × Decimal
  | [], _, cost, filled => (cost, filled)
  | l :: ls, remaining, cost, filled =>
    if remaining = 0 then (cost, filled)
    else
      let fillAtLevel := min remaining l.size
      walkLevels ls (remaining - fillAtLevel) (cost + fillAtLevel * l.price) (filled + fillAtLevel)

/-- `simulateMarketFill`: the average price and the size of the walk, both `0` when nothing is
filled. -/
def simulateMarketFill (levels : List PriceLevel) (size : Decimal) : Decimal × Decimal :=
  let r := walkLevels levels size 0 0
  if r.2 = 0 then (0, 0) else (decDiv r.1 r.2, r.2)

/-- The answer to an order the simulator cannot fill. -/
def DefaultFillSimulator.rejected (s : DefaultFillSimulator) : SimulatedFill :=
  ⟨0, 0, 0, s.latencyMs, .rejected⟩

/-- The answer to a walked order: the fee on the fill's notional, and `PARTIAL_FILL` when the
walk filled less than the order's size. -/
def DefaultFillSimulator.filledAt (s : DefaultFillSimulator) (order : OrderRequest)
    (feeBps : Decimal) (fill : Decimal × Decimal) : SimulatedFill :=
  ⟨fill.1, fill.2, decDiv (fill.1 * fill.2 * feeBps) 10000, s.latencyMs,
    if fill.2 < order.size then .partialFill else .filled⟩

/-- `SimulateFill` with the random draw `draw`; `none` is a nil book. -/
def DefaultFillSimulator.simulateFill (s : DefaultFillSimulator) (draw : ℚ) (order : OrderRequest)
    (book : Option OrderBookSnapshot) : SimulatedFill :=
  if 0 < s.rejectRatePct ∧ draw * 100 < s.rejectRatePct then s.rejected
  else
    match book with
    | none => s.rejected
    | some book =>
      match order.orderType, order.side with
      | .market, .buy =>
        if book.asks = [] then s.rejected
        else s.filledAt order s.takerFeeBps (simulateMarketFill book.asks order.size)
      | .market, .sell =>
        if book.bids = [] then s.rejected
        else s.filledAt order s.takerFeeBps (simulateMarketFill book.bids order.size)
      | .limit, .buy =>
        match book.asks with
        | [] => s.rejected
        | best :: _ =>
          if order.price < best.price then ⟨order.price, 0, 0, s.latencyMs, .acknowledged⟩
          else s.filledAt order s.makerFeeBps (simulateMarketFill book.asks order.size)
      | .limit, .sell =>
        match book.bids with
        | [] => s.rejected
        | best :: _ =>
          if best.price < order.price then ⟨order.price, 0, 0, s.latencyMs, .acknowledged⟩
          else s.filledAt order s.makerFeeBps (simulateMarketFill book.bids order.size)

/-! ## What a walk fills -/

/-- The depth of a side: the sizes of its levels, summed. -/
def depth (levels : List PriceLevel) : Decimal := (levels.map (·.size)).sum

/-- **A walk fills the size asked, capped by the depth.** On levels of non-negative size, the walk
adds to what was filled the smaller of what is left and the whole depth of the levels, whatever
their prices. -/
theorem walkLevels_filled (levels : List PriceLevel) (hsize : ∀ l ∈ levels, 0 ≤ l.size)
    (remaining cost filled : Decimal) (hrem : 0 ≤ remaining) :
    (walkLevels levels remaining cost filled).2 = filled + min remaining (depth levels) := by
  induction levels generalizing remaining cost filled with
  | nil => simp [walkLevels, depth, hrem]
  | cons l ls ih =>
    have hl : 0 ≤ l.size := hsize l (List.mem_cons_self _ _)
    have hls : 0 ≤ depth ls :=
      List.sum_nonneg fun x hx => by
        obtain ⟨y, hy, rfl⟩ := List.mem_map.mp hx
        exact hsize y (List.mem_cons_of_mem _ hy)
    have hd : depth (l :: ls) = l.size + depth ls := by simp [depth]
    simp only [walkLevels]
    split_ifs with h0
    · simp [h0, hd, add_nonneg hl hls]
    · rw [ih (fun x hx => hsize x (List.mem_cons_of_mem _ hx)) _ _ _
        (sub_nonneg.mpr (min_le_left _ _)), hd]
      rcases le_total remaining l.size with h | h
      · rw [min_eq_left h, sub_self, min_eq_left hls, min_eq_left (by linarith)]; ring
      · rw [min_eq_right h, add_assoc, ← min_add_add_left, add_sub_cancel]

/-- `simulateMarketFill` fills the order's size, capped by the depth of the side. -/
theorem simulateMarketFill_size (levels : List PriceLevel) (hsize : ∀ l ∈ levels, 0 ≤ l.size)
    (size : Decimal) (h : 0 ≤ size) :
    (simulateMarketFill levels size).2 = min size (depth levels) := by
  have hw := walkLevels_filled levels hsize size 0 0 h
  rw [zero_add] at hw
  unfold simulateMarketFill
  dsimp only
  split_ifs with h0 <;> simp only [hw] at h0 ⊢
  exact h0.symm

/-! ## A limit order beyond its limit -/

/-- A limit buy of 3 at 101. -/
def limitBuy : OrderRequest :=
  ⟨1, 7, "nobitex", "BTC/USDT", .buy, .spot, .limit, 101, 3, "7-leg-0"⟩

/-- A book whose asks hold 1 at 100, within the limit, and 5 at 105, beyond it. -/
def crossedBook : OrderBookSnapshot :=
  ⟨"nobitex", "BTC/USDT", [⟨99, 2⟩], [⟨100, 1⟩, ⟨105, 5⟩], 1, 0, 0⟩

/-- The dry-run simulator fills the whole limit buy: 1 at 100 and 2 at 105, an average of
`310 / 3` above the limit, three times the size the book offers within the limit. -/
theorem limit_buy_fills_beyond_limit :
    (dryRunSimulator.simulateFill 0 limitBuy (some crossedBook)).status = .filled ∧
      (dryRunSimulator.simulateFill 0 limitBuy (some crossedBook)).fillSize = 3 ∧
      limitBuy.price < (dryRunSimulator.simulateFill 0 limitBuy (some crossedBook)).fillPrice ∧
      depth (crossedBook.asks.filter (·.price ≤ limitBuy.price)) = 1 := by
  have hwalk : walkLevels [⟨100, 1⟩, ⟨105, 5⟩] 3 0 0 = (310, 3) := by
    norm_num [walkLevels]
  have hfill : dryRunSimulator.simulateFill 0 limitBuy (some crossedBook) =
      dryRunSimulator.filledAt limitBuy 2 (decDiv 310 3, 3) := by
    norm_num [DefaultFillSimulator.simulateFill, dryRunSimulator, limitBuy, crossedBook,
      simulateMarketFill, hwalk]
  have hprice : (101 : ℚ) < decDiv 310 3 := by
    have := abs_decDiv_sub_div_le 310 3 (by norm_num)
    rw [abs_le] at this
    linarith
  rw [hfill]
  refine ⟨by simp [DefaultFillSimulator.filledAt, limitBuy], rfl, hprice, ?_⟩
  norm_num [depth, crossedBook, limitBuy]

/-! ## The walk, level by level -/

/-- What each level gives to an order of size `q` taken in list order: level `i` gives what is
left of `q` after the sizes of the levels before it, up to its own size. -/
def consumed : List PriceLevel → Decimal → List Decimal
  | [], _ => []
  | l :: ls, q => min l.size (max 0 q) :: consumed ls (q - l.size)

/-- The cost of the consumed amounts: each amount times its level's price, summed. -/
def fillCost (levels : List PriceLevel) (q : Decimal) : Decimal :=
  ((levels.zip (consumed levels q)).map fun x => x.2 * x.1.price).sum

/-- Levels that give nothing cost nothing. -/
theorem sum_zip_zero (levels : List PriceLevel) :
    ((levels.zip (levels.map fun _ => (0 : Decimal))).map fun x => x.2 * x.1.price).sum = 0 := by
  induction levels with
  | nil => rfl
  | cons l ls ih => simp only [List.map_cons, List.zip_cons_cons, List.sum_cons, ih, zero_mul, add_zero]

/-- A sum of prices with non-negative weights lies between the lowest and the highest price of
positive weight, times the total weight. -/
theorem weighted_sum_mem (xs : List (PriceLevel × Decimal)) (lo hi : Decimal)
    (hw : ∀ x ∈ xs, 0 ≤ x.2) (hb : ∀ x ∈ xs, 0 < x.2 → lo ≤ x.1.price ∧ x.1.price ≤ hi) :
    lo * (xs.map Prod.snd).sum ≤ (xs.map fun x => x.2 * x.1.price).sum ∧
      (xs.map fun x => x.2 * x.1.price).sum ≤ hi * (xs.map Prod.snd).sum := by
  induction xs with
  | nil => simp
  | cons x xs ih =>
    obtain ⟨hlo, hhi⟩ := ih (fun y hy => hw y (List.mem_cons_of_mem _ hy))
      (fun y hy hpos => hb y (List.mem_cons_of_mem _ hy) hpos)
    have hx : x.2 * lo ≤ x.2 * x.1.price ∧ x.2 * x.1.price ≤ x.2 * hi := by
      rcases (hw x (List.mem_cons_self _ _)).eq_or_lt with h0 | hpos
      · simp [← h0]
      · obtain ⟨h1, h2⟩ := hb x (List.mem_cons_self _ _) hpos
        exact ⟨mul_le_mul_of_nonneg_left h1 hpos.le, mul_le_mul_of_nonneg_left h2 hpos.le⟩
    simp only [List.map_cons, List.sum_cons]
    constructor <;> linarith [hx.1, hx.2]

section Walk

variable (levels : List PriceLevel) (hsize : ∀ l ∈ levels, 0 ≤ l.size)
include hsize

/-- Nothing is left to take once the order is used up. -/
theorem consumed_of_nonpos (q : Decimal) (hq : q ≤ 0) : consumed levels q = levels.map fun _ => 0 := by
  induction levels generalizing q with
  | nil => rfl
  | cons l ls ih =>
    have hl := hsize l (List.mem_cons_self _ _)
    rw [consumed, max_eq_left hq, min_eq_right hl,
      ih (fun x hx => hsize x (List.mem_cons_of_mem _ hx)) _ (by linarith), List.map_cons]

/-- **The walk takes the consumed amounts.** Its cost and size add the consumed amounts' cost and
sum to what it started from. -/
theorem walkLevels_eq_consumed (q cost filled : Decimal) (hq : 0 ≤ q) :
    walkLevels levels q cost filled =
      (cost + fillCost levels q, filled + (consumed levels q).sum) := by
  induction levels generalizing q cost filled with
  | nil => simp [walkLevels, fillCost, consumed]
  | cons l ls ih =>
    have hl := hsize l (List.mem_cons_self _ _)
    have hls : ∀ x ∈ ls, 0 ≤ x.size := fun x hx => hsize x (List.mem_cons_of_mem _ hx)
    rcases hq.eq_or_lt with rfl | hpos
    · rw [walkLevels, if_pos rfl, fillCost, consumed_of_nonpos _ hsize 0 le_rfl, sum_zip_zero]
      simp
    · have hrest : consumed ls (q - min q l.size) = consumed ls (q - l.size) := by
        rcases le_total q l.size with h | h
        · rw [min_eq_left h, sub_self, consumed_of_nonpos ls hls 0 le_rfl,
            consumed_of_nonpos ls hls _ (by linarith)]
        · rw [min_eq_right h]
      rw [walkLevels, if_neg hpos.ne', ih hls _ _ _ (sub_nonneg.mpr (min_le_left _ _))]
      simp only [fillCost, consumed, max_eq_right hpos.le, min_comm l.size q, List.zip_cons_cons,
        List.map_cons, List.sum_cons, hrest]
      exact Prod.ext (by ring) (by ring)

/-- **Levels are consumed strictly in order.** Each level gives between nothing and its size, and
a level that gives less than its size is followed only by levels that give nothing. -/
theorem consumed_in_order (q : Decimal) :
    (∀ x ∈ levels.zip (consumed levels q), 0 ≤ x.2 ∧ x.2 ≤ x.1.size) ∧
      (levels.zip (consumed levels q)).Pairwise fun a b => a.2 < a.1.size → b.2 = 0 := by
  induction levels generalizing q with
  | nil => simp [consumed]
  | cons l ls ih =>
    have hl := hsize l (List.mem_cons_self _ _)
    have hls : ∀ x ∈ ls, 0 ≤ x.size := fun x hx => hsize x (List.mem_cons_of_mem _ hx)
    obtain ⟨hbounds, hpair⟩ := ih hls (q - l.size)
    simp only [consumed, List.zip_cons_cons, List.mem_cons, List.pairwise_cons]
    refine ⟨?_, fun b hb hpart => ?_, hpair⟩
    · rintro x (rfl | hx)
      · exact ⟨le_min hl (le_max_left _ _), min_le_left _ _⟩
      · exact hbounds x hx
    · -- A partly consumed level used up the order, so nothing is left for the later ones.
      have hq : q - l.size ≤ 0 := by
        rcases min_lt_iff.mp hpart with h | h
        · exact absurd h (lt_irrefl _)
        · linarith [le_max_right 0 q]
      rw [consumed_of_nonpos ls hls _ hq, List.zip_map_right] at hb
      obtain ⟨y, -, rfl⟩ := List.mem_map.mp hb
      rfl

theorem consumed_length (q : Decimal) : (consumed levels q).length = levels.length := by
  induction levels generalizing q with
  | nil => rfl
  | cons l ls ih => simp [consumed, ih (fun x hx => hsize x (List.mem_cons_of_mem _ hx))]

/-- The walk's result, through the consumed amounts. -/
theorem simulateMarketFill_eq (q : Decimal) (hq : 0 ≤ q) :
    simulateMarketFill levels q =
      if (consumed levels q).sum = 0 then (0, 0)
      else (decDiv (fillCost levels q) (consumed levels q).sum, (consumed levels q).sum) := by
  simp only [simulateMarketFill, walkLevels_eq_consumed levels hsize q 0 0 hq, zero_add]

/-- **The cost lies between the extreme consumed prices**, times the size taken. -/
theorem fillCost_mem (q lo hi : Decimal)
    (hbound : ∀ x ∈ levels.zip (consumed levels q), 0 < x.2 → lo ≤ x.1.price ∧ x.1.price ≤ hi) :
    lo * (consumed levels q).sum ≤ fillCost levels q ∧
      fillCost levels q ≤ hi * (consumed levels q).sum := by
  have hsum : (consumed levels q).sum = ((levels.zip (consumed levels q)).map Prod.snd).sum := by
    rw [List.map_snd_zip _ _ (by rw [consumed_length levels hsize])]
  rw [hsum, fillCost]
  exact weighted_sum_mem _ lo hi (fun x hx => ((consumed_in_order levels hsize q).1 x hx).1) hbound

end Walk

/-- **The average price of a fill.** Of a walk that fills something, the average price is within
half a unit of the sixteenth digit of the cost over the size, so within that much of any bounds
on the consumed prices; bounds with at most sixteen fractional digits hold exactly. -/
theorem simulateMarketFill_price_mem (levels : List PriceLevel) (hsize : ∀ l ∈ levels, 0 ≤ l.size)
    (q : Decimal) (hq : 0 ≤ q) (hfilled : 0 < (simulateMarketFill levels q).2) :
    |(simulateMarketFill levels q).1 - fillCost levels q / (simulateMarketFill levels q).2| ≤
        1 / (2 * 10 ^ 16) ∧
      ∀ lo hi, (∀ x ∈ levels.zip (consumed levels q), 0 < x.2 → lo ≤ x.1.price ∧ x.1.price ≤ hi) →
        (lo - 1 / (2 * 10 ^ 16) ≤ (simulateMarketFill levels q).1 ∧
          (simulateMarketFill levels q).1 ≤ hi + 1 / (2 * 10 ^ 16)) ∧
        ((∃ n : ℤ, lo * 10 ^ 16 = n) → (∃ n : ℤ, hi * 10 ^ 16 = n) →
          lo ≤ (simulateMarketFill levels q).1 ∧ (simulateMarketFill levels q).1 ≤ hi) := by
  rw [simulateMarketFill_eq levels hsize q hq] at hfilled ⊢
  set S := (consumed levels q).sum
  set C := fillCost levels q
  have hS : S ≠ 0 := fun h => by simp [h] at hfilled
  simp only [if_neg hS] at hfilled ⊢
  have herr := abs_decDiv_sub_div_le C S hS
  refine ⟨herr, fun lo hi hbound => ?_⟩
  obtain ⟨hlo, hhi⟩ := fillCost_mem levels hsize q lo hi hbound
  have hlo' : lo ≤ C / S := (le_div_iff₀ hfilled).mpr hlo
  have hhi' : C / S ≤ hi := (div_le_iff₀ hfilled).mpr hhi
  obtain ⟨herr₁, herr₂⟩ := abs_le.mp herr
  refine ⟨⟨by linarith only [herr₁, hlo'], by linarith only [herr₂, hhi']⟩,
    fun hn hm => ⟨?_, ?_⟩⟩
  -- A bound on the grid of sixteen digits is its own rounding, and the rounding is monotone.
  · exact decDiv_mul_cancel_of_grid hS hn ▸ decDiv_le_decDiv hfilled hlo
  · exact decDiv_mul_cancel_of_grid hS hm ▸ decDiv_le_decDiv hfilled hhi

/-- A market order the simulator does not reject, on a book whose opposite side has levels, is
walked on that side at the taker fee. -/
theorem DefaultFillSimulator.simulateFill_market (s : DefaultFillSimulator) (draw : ℚ)
    (order : OrderRequest) (book : OrderBookSnapshot) (hmarket : order.orderType = .market)
    (hdraw : ¬(0 < s.rejectRatePct ∧ draw * 100 < s.rejectRatePct))
    (hside : (if order.side = .buy then book.asks else book.bids) ≠ []) :
    s.simulateFill draw order (some book) = s.filledAt order s.takerFeeBps
      (simulateMarketFill (if order.side = .buy then book.asks else book.bids) order.size) := by
  obtain ⟨_, _, _, _, side, _, orderType, _, _, _⟩ := order
  obtain rfl : orderType = .market := hmarket
  cases side <;> simp_all [DefaultFillSimulator.simulateFill]

/-- The status of a walked order: `FILLED` when the walk filled its size, `PARTIAL_FILL` when it
filled less. -/
theorem DefaultFillSimulator.filledAt_status (s : DefaultFillSimulator) (order : OrderRequest)
    (feeBps : Decimal) (fill : Decimal × Decimal) (hle : fill.2 ≤ order.size) :
    ((s.filledAt order feeBps fill).status = .filled ↔ fill.2 = order.size) ∧
      ((s.filledAt order feeBps fill).status = .partialFill ↔ fill.2 ≠ order.size) := by
  simp only [DefaultFillSimulator.filledAt]
  by_cases h : fill.2 < order.size
  · simp [h, h.ne]
  · simp [h, le_antisymm hle (not_lt.mp h)]

/-- A market order of size `q > 0` on levels of positive size fills `min(q, depth)`, the sum of
what each level gives when the levels are consumed strictly in list order. The average price is
the cost over the size up to the rounding of the division, within `1 / (2 * 10^16)` of every pair
of bounds on the consumed prices and exactly within the bounds when they have at most sixteen
fractional digits. `SimulateFill` reports `FILLED` exactly when the fill is the order's size and
`PARTIAL_FILL` otherwise. -/
theorem market_fill_in_level_order (levels : List PriceLevel) (hsize : ∀ l ∈ levels, 0 < l.size)
    (q : Decimal) (hq : 0 < q) :
    (simulateMarketFill levels q).2 = min q (depth levels) ∧
    (simulateMarketFill levels q).2 = (consumed levels q).sum ∧
    ((∀ x ∈ levels.zip (consumed levels q), 0 ≤ x.2 ∧ x.2 ≤ x.1.size) ∧
      (levels.zip (consumed levels q)).Pairwise fun a b => a.2 < a.1.size → b.2 = 0) ∧
    (0 < (simulateMarketFill levels q).2 →
      |(simulateMarketFill levels q).1 - fillCost levels q / (simulateMarketFill levels q).2| ≤
          1 / (2 * 10 ^ 16) ∧
        ∀ lo hi, (∀ x ∈ levels.zip (consumed levels q), 0 < x.2 → lo ≤ x.1.price ∧ x.1.price ≤ hi) →
          (lo - 1 / (2 * 10 ^ 16) ≤ (simulateMarketFill levels q).1 ∧
            (simulateMarketFill levels q).1 ≤ hi + 1 / (2 * 10 ^ 16)) ∧
          ((∃ n : ℤ, lo * 10 ^ 16 = n) → (∃ n : ℤ, hi * 10 ^ 16 = n) →
            lo ≤ (simulateMarketFill levels q).1 ∧ (simulateMarketFill levels q).1 ≤ hi)) ∧
    ∀ (s : DefaultFillSimulator) (draw : ℚ) (order : OrderRequest) (book : OrderBookSnapshot),
      order.orderType = .market → order.size = q →
      ¬(0 < s.rejectRatePct ∧ draw * 100 < s.rejectRatePct) →
      (if order.side = .buy then book.asks else book.bids) = levels → levels ≠ [] →
      ((s.simulateFill draw order (some book)).status = .filled ↔
          (simulateMarketFill levels q).2 = q) ∧
        ((s.simulateFill draw order (some book)).status = .partialFill ↔
          (simulateMarketFill levels q).2 ≠ q) := by
  have hsize' : ∀ l ∈ levels, 0 ≤ l.size := fun l hl => (hsize l hl).le
  have hfilled := simulateMarketFill_size levels hsize' q hq.le
  have hsum : (simulateMarketFill levels q).2 = (consumed levels q).sum := by
    have := walkLevels_filled levels hsize' q 0 0 hq.le
    simp only [walkLevels_eq_consumed levels hsize' q 0 0 hq.le, zero_add] at this
    rw [hfilled, this]
  refine ⟨hfilled, hsum, consumed_in_order levels hsize' q,
    simulateMarketFill_price_mem levels hsize' q hq.le,
    fun s draw order book hmarket hsz hdraw hside hne => ?_⟩
  rw [s.simulateFill_market draw order book hmarket hdraw (hside ▸ hne), hside]
  subst hsz
  exact s.filledAt_status order s.takerFeeBps _ (by rw [hfilled]; exact min_le_left _ _)

/-- The walk of 3 over 1 at 100 and 5 at 105 fills all 3. -/
theorem market_fill_in_level_order_three :
    (simulateMarketFill [⟨100, 1⟩, ⟨105, 5⟩] 3).2 = min 3 (depth [⟨100, 1⟩, ⟨105, 5⟩]) :=
  (market_fill_in_level_order [⟨100, 1⟩, ⟨105, 5⟩] (by norm_num) 3 (by norm_num)).1

/-! ## Limit orders -/

/-- `SimulateFill` on a limit order it does not reject by its draw: an empty opposite side
rejects it; a limit that does not reach the best opposite price rests, acknowledged with no fill;
any other is walked over the whole opposite side at the maker fee. -/
theorem DefaultFillSimulator.simulateFill_limit (s : DefaultFillSimulator) (draw : ℚ)
    (order : OrderRequest) (book : OrderBookSnapshot) (hlimit : order.orderType = .limit)
    (hdraw : ¬(0 < s.rejectRatePct ∧ draw * 100 < s.rejectRatePct)) :
    s.simulateFill draw order (some book) =
      match if order.side = .buy then book.asks else book.bids with
      | [] => s.rejected
      | best :: _ =>
        if (if order.side = .buy then order.price < best.price else best.price < order.price) then
          ⟨order.price, 0, 0, s.latencyMs, .acknowledged⟩
        else s.filledAt order s.makerFeeBps
          (simulateMarketFill (if order.side = .buy then book.asks else book.bids) order.size) := by
  obtain ⟨_, _, _, _, side, _, orderType, _, _, _⟩ := order
  obtain rfl : orderType = .limit := hlimit
  cases side <;> simp only [DefaultFillSimulator.simulateFill, if_neg hdraw] <;> rfl

/-- **A crossing limit order fills as a market order.** For a limit order the simulator does not
reject by its draw: an empty opposite side rejects it; a limit that does not reach the best
opposite level (a buy below the best ask, a sell above the best bid) rests, acknowledged with no
fill at its limit price; any other limit order is walked over the whole opposite side at the
maker fee, whatever the levels' prices, so that on levels of non-negative size it fills the
smaller of its size and the depth of the side, `FILLED` exactly when that is its size. -/
theorem limit_order_fills_as_market (s : DefaultFillSimulator) (draw : ℚ) (order : OrderRequest)
    (book : OrderBookSnapshot) (hlimit : order.orderType = .limit)
    (hdraw : ¬(0 < s.rejectRatePct ∧ draw * 100 < s.rejectRatePct)) :
    ((if order.side = .buy then book.asks else book.bids) = [] →
      s.simulateFill draw order (some book) = s.rejected) ∧
    ∀ best rest, (if order.side = .buy then book.asks else book.bids) = best :: rest →
      ((if order.side = .buy then order.price < best.price else best.price < order.price) →
        s.simulateFill draw order (some book) = ⟨order.price, 0, 0, s.latencyMs, .acknowledged⟩) ∧
      (¬(if order.side = .buy then order.price < best.price else best.price < order.price) →
        s.simulateFill draw order (some book) =
          s.filledAt order s.makerFeeBps (simulateMarketFill (best :: rest) order.size) ∧
        ((∀ l ∈ best :: rest, 0 ≤ l.size) → 0 ≤ order.size →
          (s.simulateFill draw order (some book)).fillSize =
            min order.size (depth (best :: rest)) ∧
          ((s.simulateFill draw order (some book)).status = .filled ↔
            min order.size (depth (best :: rest)) = order.size))) := by
  have heq := s.simulateFill_limit draw order book hlimit hdraw
  refine ⟨fun hnil => by rw [heq, hnil], fun best rest hside => ⟨fun hrest => ?_, fun hcross => ?_⟩⟩
  · rw [heq, hside]; exact if_pos hrest
  · have hwalk : s.simulateFill draw order (some book) =
        s.filledAt order s.makerFeeBps (simulateMarketFill (best :: rest) order.size) := by
      rw [heq, hside]; exact if_neg hcross
    refine ⟨hwalk, fun hsize hq => ?_⟩
    have hfill := simulateMarketFill_size _ hsize _ hq
    rw [hwalk]
    exact ⟨hfill, hfill ▸ (s.filledAt_status order _ _ (hfill ▸ min_le_left _ _)).1⟩

/-- The limit buy at 101 reaches the best ask of 100 and fills as a market order of 3 against
both ask levels, the one at 105 beyond its limit included. -/
theorem limit_order_fills_as_market_limitBuy :
    limitBuy.orderType = .limit ∧
      ¬(0 < dryRunSimulator.rejectRatePct ∧ (0 : ℚ) * 100 < dryRunSimulator.rejectRatePct) ∧
      (dryRunSimulator.simulateFill 0 limitBuy (some crossedBook)).fillSize =
        min limitBuy.size (depth crossedBook.asks) :=
  ⟨rfl, by norm_num [dryRunSimulator],
    ((((limit_order_fills_as_market dryRunSimulator 0 limitBuy crossedBook rfl
      (by norm_num [dryRunSimulator])).2 ⟨100, 1⟩ [⟨105, 5⟩] rfl).2
        (by norm_num [limitBuy])).2 (by norm_num [crossedBook]) (by norm_num [limitBuy])).1⟩

/-- A market order of 1 on one level of 1 at `10^-20` fills at an average price of 0, below the
only price it consumed. -/
theorem tiny_price_fills_below_level :
    consumed [⟨1 / 10 ^ 20, 1⟩] 1 = [1] ∧ simulateMarketFill [⟨1 / 10 ^ 20, 1⟩] 1 = (0, 1) := by
  have hzero : decDiv (0 + 1 * (1 / 10 ^ 20)) (0 + 1) = 0 :=
    decDiv_eq_zero_of_small _ _ (by norm_num) (by norm_num) (by norm_num)
  constructor
  · norm_num [consumed]
  · norm_num [simulateMarketFill, walkLevels] at hzero ⊢
    exact hzero

end ArbitrageEngine.Simulated
