import ArbitrageEngine.Domain.FixedPoint

/-!
# Triangular arbitrage module

`strategy.TriArbModule` keeps the latest book of each symbol of its venue. On a book update it
evaluates every path through the updated symbol whose three books are all present: the implied
compound rate starts at `1` as a `FixedPrice` and is divided by the best ask on a buy leg and
multiplied by the best bid on a sell leg (`computeEdge`); a rate above `1` less `1` is the edge.
An edge above `FixedFromBps(minEdgeBps)` goes to `buildSignal`, which sizes every leg from the
smallest top-of-book notional, asks the cost model about the first leg, and emits a signal whose
expected edge, the edge in basis points less the estimated cost, is positive.

The cost model is any `CostModelService`; an error of `EstimateCost` is `none`. The UUIDs of
`uuid.NewV7` are a counter of the module's signals.

The implied rate is bounded by the exact compound rate of the same decimal prices at every leg,
overflow included (`impliedRate_le`), so the edge is never above the exact edge
(`computeEdge_le_exactEdge`).
-/

set_option autoImplicit false

namespace ArbitrageEngine.Strategy

/-- `domain.CostEstimate`, with the one field the strategies read. -/
structure CostEstimate where
  totalBps : Decimal

/-- `costmodel.CostModelService`: `EstimateCost(venue, symbol, side, size, orderType)`, `none`
when it returns an error. -/
structure CostModelService where
  estimateCost : String → String → Side → Decimal → OrderType → Option CostEstimate

/-- `strategy.TriangularLeg`. -/
structure TriangularLeg where
  symbol : String
  side : Side

/-- `strategy.TriangularPath`: a venue and an array of three legs. -/
structure TriangularPath where
  venue : String
  legs : List TriangularLeg
  three_legs : legs.length = 3

/-- `strategy.TriArbModule`. -/
structure TriArbModule where
  paths : List TriangularPath
  books : String → Option OrderBookSnapshot
  costModel : CostModelService
  minEdgeBps : ℤ
  venue : String
  nextSignalID : Uuid

/-- `NewTriArbModule`: no book yet. -/
def newTriArbModule (venue : String) (paths : List TriangularPath) (costModel : CostModelService)
    (minEdgeBps : ℤ) : TriArbModule :=
  ⟨paths, fun _ => none, costModel, minEdgeBps, venue, 0⟩

/-- `DefaultTriangularPaths`: the six cycles through USDT, BTC, ETH and SOL. -/
def defaultTriangularPaths (venue : String) : List TriangularPath :=
  [⟨venue, [⟨"BTC/USDT", .buy⟩, ⟨"ETH/BTC", .buy⟩, ⟨"ETH/USDT", .sell⟩], rfl⟩,
   ⟨venue, [⟨"ETH/USDT", .buy⟩, ⟨"ETH/BTC", .sell⟩, ⟨"BTC/USDT", .sell⟩], rfl⟩,
   ⟨venue, [⟨"BTC/USDT", .buy⟩, ⟨"SOL/BTC", .buy⟩, ⟨"SOL/USDT", .sell⟩], rfl⟩,
   ⟨venue, [⟨"SOL/USDT", .buy⟩, ⟨"SOL/BTC", .sell⟩, ⟨"BTC/USDT", .sell⟩], rfl⟩,
   ⟨venue, [⟨"ETH/USDT", .buy⟩, ⟨"SOL/ETH", .buy⟩, ⟨"SOL/USDT", .sell⟩], rfl⟩,
   ⟨venue, [⟨"SOL/USDT", .buy⟩, ⟨"SOL/ETH", .sell⟩, ⟨"ETH/USDT", .sell⟩], rfl⟩]

/-- The best level a leg trades against: the best ask for a buy, the best bid for a sell. -/
def legLevel (leg : TriangularLeg) (book : OrderBookSnapshot) : Option PriceLevel :=
  match leg.side with
  | .buy => book.bestAsk
  | .sell => book.bestBid

/-- `pathInvolves`. -/
def pathInvolves (path : TriangularPath) (symbol : String) : Bool :=
  path.legs.any fun leg => leg.symbol == symbol

/-- `allBooksAvailable`, with the books it checks: each leg with its symbol's book. -/
def TriArbModule.pathBooks (m : TriArbModule) (path : TriangularPath) :
    Option (List (TriangularLeg × OrderBookSnapshot)) :=
  path.legs.mapM fun leg => (m.books leg.symbol).map (leg, ·)

/-! ## The edge -/

/-- The loop of `computeEdge` from the rate `rate`: `none` where the source returns `0` early, a
missing best level or a buy price of zero. -/
def impliedRate (rate : ℤ) : List (TriangularLeg × OrderBookSnapshot) → Option ℤ
  | [] => some rate
  | (leg, book) :: rest =>
    match leg.side with
    | .buy =>
      match book.bestAsk with
      | none => none
      | some ask =>
        if toFixed ask.price = 0 then none
        else impliedRate (FixedPrice.div rate (toFixed ask.price)) rest
    | .sell =>
      match book.bestBid with
      | none => none
      | some bid => impliedRate (FixedPrice.mul rate (toFixed bid.price)) rest

/-- `computeEdge` on the legs of a path with their books: the implied rate less one when it is
above one, else `0`. -/
def computeEdge (legs : List (TriangularLeg × OrderBookSnapshot)) : ℤ :=
  match impliedRate (toFixed 1) legs with
  | none => 0
  | some rate => if rate > toFixed 1 then FixedPrice.sub rate (toFixed 1) else 0

/-! ## The exact edge

The implied rate in exact arithmetic on the same decimal prices: one over the best ask on a buy
leg, the best bid on a sell leg. Every `Mul` and `Div` of the fixed-point rate truncates towards
zero and every int64 product that overflows wraps to a value no larger in magnitude, so the
fixed-point rate never exceeds the exact one. -/

/-- The factor of a leg in the exact rate; `0` when the leg's best level is missing. -/
def exactFactor (leg : TriangularLeg) (book : OrderBookSnapshot) : ℚ :=
  match leg.side, legLevel leg book with
  | .buy, some l => 1 / l.price
  | .sell, some l => l.price
  | _, none => 0

/-- The exact compound rate of the legs, from `1`. -/
def exactRate : List (TriangularLeg × OrderBookSnapshot) → ℚ
  | [] => 1
  | (leg, book) :: rest => exactFactor leg book * exactRate rest

/-- The best prices the legs trade against are positive and exactly representable as
`FixedPrice`. -/
def PricesRepresentable (legs : List (TriangularLeg × OrderBookSnapshot)) : Prop :=
  ∀ lb ∈ legs, ∀ l, legLevel lb.1 lb.2 = some l → 0 < l.price ∧ FixedRepresentable l.price

@[simp]
theorem pricesRepresentable_nil : PricesRepresentable [] := by
  simp [PricesRepresentable]

@[simp]
theorem pricesRepresentable_cons (lb : TriangularLeg × OrderBookSnapshot)
    (rest : List (TriangularLeg × OrderBookSnapshot)) :
    PricesRepresentable (lb :: rest) ↔
      (∀ l, legLevel lb.1 lb.2 = some l → 0 < l.price ∧ FixedRepresentable l.price) ∧
        PricesRepresentable rest :=
  List.forall_mem_cons

theorem PricesRepresentable.tail {lb : TriangularLeg × OrderBookSnapshot}
    {rest : List (TriangularLeg × OrderBookSnapshot)} (h : PricesRepresentable (lb :: rest)) :
    PricesRepresentable rest :=
  ((pricesRepresentable_cons lb rest).mp h).2

/-- A representable positive price is a positive `FixedPrice` worth `1e9` times the price. -/
theorem toFixed_pos_cast {p : Decimal} (hp : 0 < p) (h : FixedRepresentable p) :
    0 < toFixed p ∧ ((toFixed p : ℤ) : ℚ) / 1000000000 = p := by
  have hc := h.toFixed_cast
  refine ⟨Int.cast_pos.mp (by rw [hc]; positivity), by rw [hc]; ring⟩

/-- **The implied rate is at most the exact rate.** A start `r` bounded by `1e9 · R` ends, after
the legs, bounded by `1e9 · R` times the exact rate of the legs. -/
theorem impliedRate_le (legs : List (TriangularLeg × OrderBookSnapshot))
    (h : PricesRepresentable legs) (r r' : ℤ) (R : ℚ) (hr : ((|r| : ℤ) : ℚ) ≤ 1000000000 * R)
    (hrate : impliedRate r legs = some r') :
    ((|r'| : ℤ) : ℚ) ≤ 1000000000 * (R * exactRate legs) := by
  induction legs generalizing r R with
  | nil =>
    cases hrate
    simpa [exactRate] using hr
  | cons lb rest ih =>
    obtain ⟨leg, book⟩ := lb
    cases hs : leg.side with
    | buy =>
      cases hask : book.bestAsk with
      | none => simp [impliedRate, hs, hask] at hrate
      | some ask =>
        obtain ⟨hpos, hrep⟩ := h _ (List.mem_cons_self _ _) ask (by simp [legLevel, hs, hask])
        obtain ⟨hP, hcast⟩ := toFixed_pos_cast hpos hrep
        simp only [impliedRate, hs, hask, if_neg hP.ne'] at hrate
        have := ih h.tail _ _ (abs_div_le r _ hP R hr) hrate
        rw [hcast] at this
        calc ((|r'| : ℤ) : ℚ) ≤ 1000000000 * (R / ask.price * exactRate rest) := this
          _ = 1000000000 * (R * exactRate ((leg, book) :: rest)) := by
            simp only [exactRate, exactFactor, legLevel, hs, hask]; ring
    | sell =>
      cases hbid : book.bestBid with
      | none => simp [impliedRate, hs, hbid] at hrate
      | some bid =>
        obtain ⟨hpos, hrep⟩ := h _ (List.mem_cons_self _ _) bid (by simp [legLevel, hs, hbid])
        obtain ⟨hP, hcast⟩ := toFixed_pos_cast hpos hrep
        simp only [impliedRate, hs, hbid] at hrate
        have := ih h.tail _ _ (abs_mul_le r _ hP R hr) hrate
        rw [hcast] at this
        calc ((|r'| : ℤ) : ℚ) ≤ 1000000000 * (R * bid.price * exactRate rest) := this
          _ = 1000000000 * (R * exactRate ((leg, book) :: rest)) := by
            simp only [exactRate, exactFactor, legLevel, hs, hbid]; ring

/-- Every step of the implied rate stays below `2^63`. -/
theorem impliedRate_lt (legs : List (TriangularLeg × OrderBookSnapshot)) (r r' : ℤ)
    (hr : r < 9223372036854775808) (hrate : impliedRate r legs = some r') :
    r' < 9223372036854775808 := by
  induction legs generalizing r with
  | nil => cases hrate; exact hr
  | cons lb rest ih =>
    obtain ⟨leg, book⟩ := lb
    unfold impliedRate at hrate
    split at hrate
    · split at hrate
      · cases hrate
      · split_ifs at hrate
        exact ih _ (FixedPrice.div_lt _ _) hrate
    · split at hrate
      · cases hrate
      · exact ih _ (FixedPrice.mul_lt _ _) hrate

theorem toFixed_one : toFixed 1 = 1000000000 := by
  rw [toFixed_of_representable (by norm_num [FixedRepresentable])]
  norm_num

/-- **The edge is at most the exact edge.** On legs whose best prices are positive and
representable, `computeEdge` read as a rational is at most `max 0 (R - 1)` for the exact rate
`R` of the same prices, whatever the prices' sizes and however the int64 products wrap. -/
theorem computeEdge_le_exactEdge (legs : List (TriangularLeg × OrderBookSnapshot))
    (h : PricesRepresentable legs) :
    FixedPrice.toDecimal (computeEdge legs) ≤ max 0 (exactRate legs - 1) := by
  unfold computeEdge
  rw [toFixed_one]
  cases hrate : impliedRate 1000000000 legs with
  | none => simp [FixedPrice.toDecimal]
  | some r =>
    dsimp only
    split_ifs with hgt
    · have hlt := impliedRate_lt legs _ r (by norm_num) hrate
      have hb := impliedRate_le legs h _ r 1 (by norm_num) hrate
      have hr : (r : ℚ) ≤ ((|r| : ℤ) : ℚ) := Int.cast_le.mpr (le_abs_self r)
      rw [FixedPrice.sub, wrap64_of_mem (by omega) (by omega), FixedPrice.toDecimal]
      apply le_max_of_le_right
      push_cast
      rw [div_le_iff₀ (by norm_num)]
      linarith
    · simp [FixedPrice.toDecimal]

/-! ## The signal -/

/-- The smallest notional of the legs' best levels, from the source's start of `999999999`. -/
def minNotional (levels : List (TriangularLeg × PriceLevel)) : Decimal :=
  levels.foldl (fun minSize lv =>
    if lv.2.price * lv.2.size < minSize then lv.2.price * lv.2.size else minSize) 999999999

/-- The leg of a signal: a spot limit order at the best level's price, sized by the minimum
notional over the price when the price is positive. -/
def legSpec (minSize : Decimal) (lv : TriangularLeg × PriceLevel) : LegSpec :=
  ⟨lv.1.symbol, lv.1.side, .spot, lv.2.price,
    if 0 < lv.2.price then decDiv minSize lv.2.price else lv.2.size, .limit⟩

/-- `buildSignal` with the UUID `signalID`. The cost estimate is for the first leg; a path has
three legs, so the empty case, `none` here, does not arise. -/
def TriArbModule.buildSignal (m : TriArbModule) (legs : List (TriangularLeg × OrderBookSnapshot))
    (edgeBps : ℤ) (signalID : Uuid) : Option TradeSignal :=
  match legs.mapM (fun lb => (legLevel lb.1 lb.2).map (lb.1, ·)) with
  | none => none
  | some levels =>
    let specs := levels.map (legSpec (minNotional levels))
    match specs with
    | [] => none
    | first :: _ =>
      match m.costModel.estimateCost m.venue first.symbol first.side first.size .limit with
      | none => none
      | some costEst =>
        let netEdge := FixedPrice.toDecimal edgeBps * 10000 - costEst.totalBps
        if netEdge ≤ 0 then none
        else some ⟨signalID, .triArb, m.venue, specs, netEdge⟩

/-- One path of `evaluate`, with the signals emitted so far. -/
def TriArbModule.evaluatePath (m : TriArbModule) (updatedSymbol : String)
    (signals : List TradeSignal) (path : TriangularPath) : List TradeSignal :=
  if pathInvolves path updatedSymbol then
    match m.pathBooks path with
    | none => signals
    | some legs =>
      if computeEdge legs > fixedFromBps m.minEdgeBps then
        match m.buildSignal legs (computeEdge legs) (m.nextSignalID + signals.length) with
        | some signal => signals ++ [signal]
        | none => signals
      else signals
  else signals

/-- `evaluate`: the signals published for an update of `updatedSymbol`, in path order. -/
def TriArbModule.evaluate (m : TriArbModule) (updatedSymbol : String) : List TradeSignal :=
  m.paths.foldl (m.evaluatePath updatedSymbol) []

/-- `OnOrderBookUpdate`: a snapshot of the module's venue replaces its symbol's book, then
`evaluate` runs; the published signals are returned. -/
def TriArbModule.onOrderBookUpdate (m : TriArbModule) (snap : OrderBookSnapshot) :
    TriArbModule × List TradeSignal :=
  if snap.venue ≠ m.venue then (m, [])
  else
    let m := { m with books := Function.update m.books snap.symbol (some snap) }
    let signals := m.evaluate snap.symbol
    ({ m with nextSignalID := m.nextSignalID + signals.length }, signals)

/-- The module after a run of book updates. -/
def TriArbModule.afterUpdates (m : TriArbModule) (snaps : List OrderBookSnapshot) : TriArbModule :=
  snaps.foldl (fun m snap => (m.onOrderBookUpdate snap).1) m

/-! ## A run of book updates -/

@[simp]
theorem TriArbModule.onOrderBookUpdate_venue (m : TriArbModule) (snap : OrderBookSnapshot) :
    (m.onOrderBookUpdate snap).1.venue = m.venue := by
  unfold TriArbModule.onOrderBookUpdate; split_ifs <;> rfl

@[simp]
theorem TriArbModule.onOrderBookUpdate_minEdgeBps (m : TriArbModule) (snap : OrderBookSnapshot) :
    (m.onOrderBookUpdate snap).1.minEdgeBps = m.minEdgeBps := by
  unfold TriArbModule.onOrderBookUpdate; split_ifs <;> rfl

@[simp]
theorem TriArbModule.afterUpdates_minEdgeBps (m : TriArbModule) (snaps : List OrderBookSnapshot) :
    (m.afterUpdates snaps).minEdgeBps = m.minEdgeBps := by
  induction snaps generalizing m with
  | nil => rfl
  | cons snap rest ih => exact (ih _).trans (m.onOrderBookUpdate_minEdgeBps snap)

/-! ## Runs on `kcex` books -/

/-- A cost model that quotes 10 bps for every order. -/
def flatCostModel : CostModelService := ⟨fun _ _ _ _ _ => some ⟨10⟩⟩

/-- The tri-arb module `main` registers for `kcex`, at the threshold `minEdgeBps`, with the flat
cost model. -/
def kcexModule (minEdgeBps : ℤ) : TriArbModule :=
  newTriArbModule "kcex" (defaultTriangularPaths "kcex") flatCostModel minEdgeBps

/-- A `kcex` book of `symbol`. -/
def kcexBook (symbol : String) (bids asks : List PriceLevel) : OrderBookSnapshot :=
  ⟨"kcex", symbol, bids, asks, 1, 0, 0⟩

/-- Books of one cycle of the first default path: ETH/BTC offered at 1 and ETH/USDT bid at 2,
each of size 1. -/
def ethBooks : List OrderBookSnapshot :=
  [kcexBook "ETH/BTC" [] [⟨1, 1⟩], kcexBook "ETH/USDT" [⟨2, 1⟩] []]

/-- A BTC/USDT book offering `size` at 1. -/
def btcAsk (size : Decimal) : OrderBookSnapshot := kcexBook "BTC/USDT" [] [⟨1, size⟩]

/-- The `kcex` module at `minEdgeBps` after the books of the cycle: buying BTC with USDT and ETH
with BTC at 1 and selling ETH at 2 doubles the stake. -/
def cycleModule (minEdgeBps : ℤ) : TriArbModule :=
  (kcexModule minEdgeBps).afterUpdates (ethBooks ++ [btcAsk 1])

theorem toFixed_two : toFixed 2 = 2000000000 := by
  rw [toFixed_of_representable (by norm_num [FixedRepresentable])]
  norm_num

/-- The fixed-point rate of the cycle's books, `1e9 / 1e9 / 1e9 · 2e9`, and its edge. -/
theorem cycle_fixed_rate :
    FixedPrice.mul (FixedPrice.div (FixedPrice.div 1000000000 1000000000) 1000000000)
      2000000000 = 2000000000 ∧ FixedPrice.sub 2000000000 1000000000 = 1000000000 := by
  decide

/-- On the cycle's books every path with all its books has representable prices and an exact
edge of at most `1`. -/
theorem cycleModule_paths (minEdgeBps : ℤ) :
    ∀ path ∈ (cycleModule minEdgeBps).paths, ∀ legs,
      (cycleModule minEdgeBps).pathBooks path = some legs →
        PricesRepresentable legs ∧ max 0 (exactRate legs - 1) ≤ 1 := by
  simp [cycleModule, TriArbModule.onOrderBookUpdate, TriArbModule.afterUpdates, ethBooks, btcAsk,
    kcexModule, kcexBook, newTriArbModule, defaultTriangularPaths, TriArbModule.pathBooks,
    Function.update_apply, List.mapM_cons, List.mapM.loop, legLevel, OrderBookSnapshot.bestAsk,
    OrderBookSnapshot.bestBid, exactRate, exactFactor, FixedRepresentable]
  norm_num

/-- Legs whose fixed-point rate overflows: selling BTC at 100 multiplies the rate `1e9` by
`1e11`, and the int64 product `1e20` wraps. -/
def overflowLegs : List (TriangularLeg × OrderBookSnapshot) :=
  [(⟨"BTC/USDT", .sell⟩, kcexBook "BTC/USDT" [⟨100, 1⟩] []),
   (⟨"ETH/BTC", .buy⟩, kcexBook "ETH/BTC" [] [⟨1, 1⟩])]

/- The wrapped rate is `7.766279631` where the exact rate is `100`. -/
example : computeEdge overflowLegs = 6766279631 := by
  have h100 : toFixed 100 = 100000000000 := by
    rw [toFixed_of_representable (by norm_num [FixedRepresentable])]; norm_num
  have hrate : FixedPrice.div (FixedPrice.mul 1000000000 100000000000) 1000000000 =
      7766279631 := by decide
  simp [computeEdge, overflowLegs, impliedRate, kcexBook, OrderBookSnapshot.bestAsk,
    OrderBookSnapshot.bestBid, toFixed_one, h100, hrate]
  decide

/-! ## What `evaluate` publishes -/

/-- `path` gives the signal `s` on an update of `updatedSymbol`: the path involves the symbol, its
books are all present, its edge is above the threshold and `buildSignal` returns `s`. -/
def TriArbModule.Emits (m : TriArbModule) (updatedSymbol : String) (path : TriangularPath)
    (s : TradeSignal) : Prop :=
  pathInvolves path updatedSymbol = true ∧ ∃ legs, m.pathBooks path = some legs ∧
    computeEdge legs > fixedFromBps m.minEdgeBps ∧
    ∃ signalID, m.buildSignal legs (computeEdge legs) signalID = some s

theorem TriArbModule.mem_evaluatePath {m : TriArbModule} {sym : String} {acc : List TradeSignal}
    {path : TriangularPath} {s : TradeSignal} (h : s ∈ m.evaluatePath sym acc path) :
    s ∈ acc ∨ m.Emits sym path s := by
  unfold TriArbModule.evaluatePath at h
  split_ifs at h with hinv
  · split at h
    · exact .inl h
    · rename_i legs hbooks
      split_ifs at h with hedge
      · split at h
        · rename_i sig hsig
          rcases List.mem_append.mp h with h | h
          · exact .inl h
          · rw [List.mem_singleton.mp h]
            exact .inr ⟨hinv, legs, hbooks, hedge, _, hsig⟩
        · exact .inl h
      · exact .inl h
  · exact .inl h

/-- **Every published tri-arb signal comes from one of the module's paths.** -/
theorem TriArbModule.mem_evaluate {m : TriArbModule} {sym : String} {s : TradeSignal}
    (h : s ∈ m.evaluate sym) : ∃ path ∈ m.paths, m.Emits sym path s := by
  suffices ∀ (paths : List TriangularPath) acc, s ∈ paths.foldl (m.evaluatePath sym) acc →
      s ∈ acc ∨ ∃ path ∈ paths, m.Emits sym path s by
    simpa using this m.paths [] h
  intro paths
  induction paths with
  | nil => exact fun _ h => .inl h
  | cons path rest ih =>
    intro acc h
    rcases ih _ h with h | ⟨p, hp, he⟩
    · exact (m.mem_evaluatePath h).imp id fun he => ⟨path, List.mem_cons_self _ _, he⟩
    · exact .inr ⟨p, List.mem_cons_of_mem _ hp, he⟩

/-- A signal of `evaluate` is built from one of the module's paths, and that path's exact edge is
above `minEdgeBps / 10^4`, when the prices its legs trade against are representable and
`FixedFromBps` does not overflow. -/
theorem TriArbModule.exactEdge_of_mem_evaluate (m : TriArbModule) (sym : String)
    (hbps : |m.minEdgeBps| ≤ 9223372036)
    (hrep : ∀ path ∈ m.paths, ∀ legs, m.pathBooks path = some legs → PricesRepresentable legs)
    (s : TradeSignal) (hs : s ∈ m.evaluate sym) :
    ∃ path ∈ m.paths, m.Emits sym path s ∧ ∃ legs, m.pathBooks path = some legs ∧
      (m.minEdgeBps : ℚ) / 10000 < max 0 (exactRate legs - 1) := by
  obtain ⟨path, hpath, hinv, legs, hbooks, hedge, hbuild⟩ := mem_evaluate hs
  refine ⟨path, hpath, ⟨hinv, legs, hbooks, hedge, hbuild⟩, legs, hbooks,
    lt_of_lt_of_le ?_ (computeEdge_le_exactEdge legs (hrep path hpath legs hbooks))⟩
  rw [abs_le] at hbps
  rw [fixedFromBps_of_mem hbps.1 hbps.2] at hedge
  have hq : ((m.minEdgeBps * 100000 : ℤ) : ℚ) < computeEdge legs := Int.cast_lt.mpr hedge
  push_cast at hq
  rw [FixedPrice.toDecimal, lt_div_iff₀ (by norm_num)]
  linarith

/-- **A published signal's edge is within the exact edge.** `computeEdge` never exceeds the exact
edge of the same prices; hence, when `FixedFromBps(minEdgeBps)` does not overflow, every signal
`evaluate` publishes is built by `buildSignal` from a path of the module whose exact edge is above
`minEdgeBps / 10^4`. -/
theorem computeEdge_bounded_by_exact_edge :
    (∀ legs, PricesRepresentable legs →
      FixedPrice.toDecimal (computeEdge legs) ≤ max 0 (exactRate legs - 1)) ∧
    ∀ (m : TriArbModule) (updatedSymbol : String), |m.minEdgeBps| ≤ 9223372036 →
      (∀ path ∈ m.paths, ∀ legs, m.pathBooks path = some legs → PricesRepresentable legs) →
      ∀ s ∈ m.evaluate updatedSymbol, ∃ path ∈ m.paths, m.Emits updatedSymbol path s ∧
        ∃ legs, m.pathBooks path = some legs ∧
          (m.minEdgeBps : ℚ) / 10000 < max 0 (exactRate legs - 1) :=
  ⟨computeEdge_le_exactEdge, TriArbModule.exactEdge_of_mem_evaluate⟩

/-- The bound on the overflowing legs, and the threshold's consequence on the cycle at 18 bps,
where a signal is published. -/
theorem exact_edge_bound_on_cycle :
    (PricesRepresentable overflowLegs ∧
      FixedPrice.toDecimal (computeEdge overflowLegs) ≤ max 0 (exactRate overflowLegs - 1)) ∧
    (|(cycleModule 18).minEdgeBps| ≤ 9223372036 ∧
      (∀ path ∈ (cycleModule 18).paths, ∀ legs, (cycleModule 18).pathBooks path = some legs →
        PricesRepresentable legs) ∧
      (cycleModule 18).evaluate "BTC/USDT" ≠ [] ∧
      ∀ s ∈ (cycleModule 18).evaluate "BTC/USDT", ∃ path ∈ (cycleModule 18).paths,
        (cycleModule 18).Emits "BTC/USDT" path s ∧ ∃ legs,
          (cycleModule 18).pathBooks path = some legs ∧
            ((cycleModule 18).minEdgeBps : ℚ) / 10000 < max 0 (exactRate legs - 1)) := by
  have hrep : PricesRepresentable overflowLegs := by
    simp [overflowLegs, legLevel, kcexBook, OrderBookSnapshot.bestAsk, OrderBookSnapshot.bestBid,
      FixedRepresentable]
    norm_num
  have hbps : |(cycleModule 18).minEdgeBps| ≤ 9223372036 := by
    simp [cycleModule, kcexModule, newTriArbModule]
  have hpaths : ∀ path ∈ (cycleModule 18).paths, ∀ legs,
      (cycleModule 18).pathBooks path = some legs → PricesRepresentable legs :=
    fun path hp legs hl => (cycleModule_paths 18 path hp legs hl).1
  have hne : (cycleModule 18).evaluate "BTC/USDT" ≠ [] := by
    have h18 : fixedFromBps 18 = 1800000 := by decide
    simp [cycleModule, TriArbModule.onOrderBookUpdate, TriArbModule.afterUpdates, ethBooks, btcAsk,
      kcexModule, kcexBook, newTriArbModule, TriArbModule.evaluate, defaultTriangularPaths,
      TriArbModule.evaluatePath, pathInvolves, TriArbModule.pathBooks, Function.update_apply,
      List.mapM_cons, List.mapM.loop, computeEdge, impliedRate, legLevel,
      OrderBookSnapshot.bestAsk, OrderBookSnapshot.bestBid, TriArbModule.buildSignal, toFixed_one,
      toFixed_two, cycle_fixed_rate, h18, flatCostModel, FixedPrice.toDecimal]
    norm_num
  exact ⟨⟨hrep, computeEdge_bounded_by_exact_edge.1 _ hrep⟩, hbps, hpaths, hne,
    computeEdge_bounded_by_exact_edge.2 _ _ hbps hpaths⟩

/-- At `minEdgeBps = 10^10` the product `minEdgeBps · 10^9` wraps and the threshold is negative:
the cycle is published although no path's exact edge is above `minEdgeBps / 10^4 = 10^6`. -/
theorem wrapped_threshold_emits_small_edge :
    fixedFromBps 10000000000 < 0 ∧ (cycleModule 10000000000).evaluate "BTC/USDT" ≠ [] ∧
    ∀ path ∈ (cycleModule 10000000000).paths, ∀ legs,
      (cycleModule 10000000000).pathBooks path = some legs →
        PricesRepresentable legs ∧ max 0 (exactRate legs - 1) ≤ (10000000000 : ℚ) / 10000 := by
  have hbps : fixedFromBps 10000000000 = -844674407370955 := by decide
  refine ⟨by rw [hbps]; decide, ?_, fun path hp legs hl => ?_⟩
  · simp [cycleModule, TriArbModule.onOrderBookUpdate, TriArbModule.afterUpdates, ethBooks, btcAsk,
      kcexModule, kcexBook, newTriArbModule, TriArbModule.evaluate, defaultTriangularPaths,
      TriArbModule.evaluatePath, pathInvolves, TriArbModule.pathBooks, Function.update_apply,
      List.mapM_cons, List.mapM.loop, computeEdge, impliedRate, legLevel,
      OrderBookSnapshot.bestAsk, OrderBookSnapshot.bestBid, TriArbModule.buildSignal, toFixed_one,
      toFixed_two, cycle_fixed_rate, hbps, flatCostModel, FixedPrice.toDecimal]
    norm_num
  · obtain ⟨hrep, hle⟩ := cycleModule_paths _ path hp legs hl
    exact ⟨hrep, hle.trans (by norm_num)⟩

/-! ## What a signal's legs are -/

/-- A signal of `buildSignal` has a positive expected edge and one leg per leg of its path: a
limit order at the leg's best price, sized from the smallest top-of-book notional. It is a
triangular signal for the module's venue. -/
theorem TriArbModule.buildSignal_eq_some {m : TriArbModule}
    {legs : List (TriangularLeg × OrderBookSnapshot)} {edgeBps : ℤ} {signalID : Uuid}
    {s : TradeSignal} (h : m.buildSignal legs edgeBps signalID = some s) :
    ∃ levels, legs.mapM (fun lb => (legLevel lb.1 lb.2).map (lb.1, ·)) = some levels ∧
      s.legs = levels.map (legSpec (minNotional levels)) ∧ s.legs ≠ [] ∧
      0 < s.expectedEdgeBps ∧ s.strategy = .triArb ∧ s.venue = m.venue := by
  unfold TriArbModule.buildSignal at h
  split at h
  · cases h
  · rename_i levels hlevels
    dsimp only at h
    split at h
    · cases h
    · rename_i first rest hspecs
      split at h
      · cases h
      · split_ifs at h with hnet
        cases h
        exact ⟨levels, hlevels, rfl, by simp [hspecs], lt_of_not_le hnet, rfl, rfl⟩

/-- At 18 bps on `kcex`, a BTC/USDT ask of `10^-20` BTC completes the cycle: the signal has an
expected edge of 9990 bps and every leg's size, the minimum notional `10^-20` over the leg's
price, rounds to zero at 16 digits. -/
theorem tiny_top_size_gives_zero_size_legs :
    (((kcexModule 18).afterUpdates ethBooks).onOrderBookUpdate
      (btcAsk (1 / 100000000000000000000))).2.map
        (fun s => (s.expectedEdgeBps, s.legs.map (·.size))) = [(9990, [0, 0, 0])] := by
  have hbps : fixedFromBps 18 = 1800000 := by decide
  have hmin : minNotional [(⟨"BTC/USDT", .buy⟩, ⟨1, 1 / 100000000000000000000⟩),
      (⟨"ETH/BTC", .buy⟩, ⟨1, 1⟩), (⟨"ETH/USDT", .sell⟩, ⟨2, 1⟩)] =
        1 / 100000000000000000000 := by
    norm_num [minNotional]
  have hz1 : decDiv (1 / 100000000000000000000) 1 = 0 :=
    decDiv_eq_zero_of_small _ _ (by norm_num) (by norm_num) (by norm_num)
  have hz2 : decDiv (1 / 100000000000000000000) 2 = 0 :=
    decDiv_eq_zero_of_small _ _ (by norm_num) (by norm_num) (by norm_num)
  simp [TriArbModule.onOrderBookUpdate, TriArbModule.afterUpdates, ethBooks, btcAsk, kcexModule,
    kcexBook, newTriArbModule, TriArbModule.evaluate, defaultTriangularPaths,
    TriArbModule.evaluatePath, pathInvolves, TriArbModule.pathBooks, Function.update_apply,
    List.mapM_cons, List.mapM.loop, computeEdge, impliedRate, legLevel, OrderBookSnapshot.bestAsk,
    OrderBookSnapshot.bestBid, TriArbModule.buildSignal, toFixed_one, toFixed_two, cycle_fixed_rate,
    hbps, legSpec, flatCostModel, FixedPrice.toDecimal]
  norm_num
  rw [hmin]
  exact ⟨hz1, hz2⟩

/-- Books of the first default path with a cross pair in the middle: ETH/BTC offered at 0.06 and
ETH/USDT bid at 3050, 10 ETH each. -/
def crossBooks : List OrderBookSnapshot :=
  [kcexBook "ETH/BTC" [] [⟨3 / 50, 10⟩], kcexBook "ETH/USDT" [⟨3050, 10⟩] []]

/-- A BTC/USDT book offering 1 BTC at 50000. -/
def crossBtcAsk : OrderBookSnapshot := kcexBook "BTC/USDT" [] [⟨50000, 1⟩]

/-- The published cycle does not close: every leg is sized to the minimum notional 0.6, read in
USDT for BTC/USDT but in BTC for ETH/BTC. The first leg buys 0.000012 BTC, the second spends
0.6 BTC to buy 10 ETH, and the third sells less than 0.001 ETH. -/
theorem cross_pair_legs_do_not_balance :
    ∃ s ∈ (((kcexModule 18).afterUpdates crossBooks).onOrderBookUpdate crossBtcAsk).2,
      ∃ btcUsdt ethBtc ethUsdt, s.legs = [btcUsdt, ethBtc, ethUsdt] ∧
        btcUsdt.symbol = "BTC/USDT" ∧ btcUsdt.side = .buy ∧ ethBtc.symbol = "ETH/BTC" ∧
        ethBtc.side = .buy ∧ ethUsdt.symbol = "ETH/USDT" ∧ ethUsdt.side = .sell ∧
        btcUsdt.size = 3 / 250000 ∧ ethBtc.price * ethBtc.size = 3 / 5 ∧
        ethBtc.size = 10 ∧ ethUsdt.size < 1 / 1000 := by
  have h50000 : toFixed 50000 = 50000000000000 := by
    rw [toFixed_of_representable (by norm_num [FixedRepresentable])]; norm_num
  have h006 : toFixed (3 / 50) = 60000000 := by
    rw [toFixed_of_representable (by norm_num [FixedRepresentable])]; norm_num
  have h3050 : toFixed 3050 = 3050000000000 := by
    rw [toFixed_of_representable (by norm_num [FixedRepresentable])]; norm_num
  have hrate : FixedPrice.mul (FixedPrice.div (FixedPrice.div 1000000000 50000000000000) 60000000)
      3050000000000 = 1016665650 := by decide
  have hbps : fixedFromBps 18 = 1800000 := by decide
  have hsub : FixedPrice.sub 1016665650 1000000000 = 16665650 := by decide
  have hmin : minNotional [(⟨"BTC/USDT", .buy⟩, ⟨50000, 1⟩), (⟨"ETH/BTC", .buy⟩, ⟨3 / 50, 10⟩),
      (⟨"ETH/USDT", .sell⟩, ⟨3050, 10⟩)] = 3 / 5 := by
    norm_num [minNotional]
  have h1 : decDiv (3 / 5) 50000 = 3 / 250000 := by
    rw [decDiv_of_int _ _ (by norm_num) 120000000000 (by norm_num)]; norm_num
  have h2 : decDiv (3 / 5) (3 / 50) = 10 := by
    rw [decDiv_of_int _ _ (by norm_num) 100000000000000000 (by norm_num)]; norm_num
  have h3 : decDiv (3 / 5) 3050 < 1 / 1000 := by
    have := abs_decDiv_sub_div_le (3 / 5) 3050 (by norm_num)
    rw [abs_le] at this
    linarith
  simp [TriArbModule.onOrderBookUpdate, TriArbModule.afterUpdates, crossBooks, crossBtcAsk,
    kcexModule, kcexBook, newTriArbModule, TriArbModule.evaluate, defaultTriangularPaths,
    TriArbModule.evaluatePath, pathInvolves, TriArbModule.pathBooks, Function.update_apply,
    List.mapM_cons, List.mapM.loop, computeEdge, impliedRate, legLevel, OrderBookSnapshot.bestAsk,
    OrderBookSnapshot.bestBid, TriArbModule.buildSignal, toFixed_one, h50000, h006, h3050, hrate,
    hbps, hsub, legSpec, flatCostModel, FixedPrice.toDecimal]
  norm_num
  rw [hmin]
  exact ⟨_, _, _, ⟨rfl, rfl, rfl⟩, rfl, rfl, rfl, rfl, rfl, rfl, h1, by rw [h2]; norm_num, h2, h3⟩

end ArbitrageEngine.Strategy
