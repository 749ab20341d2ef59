import ArbitrageEngine.Strategy.TriArb

/-!
# Basis arbitrage module

`BasisArbModule` (the source keeps it in `internal/order/manager.go`) keeps the latest spot and
perpetual book of every venue and symbol under the key `venue:symbol`, and the last 100 funding
rates of each. A book is a spot book when its symbol is the spot symbol `asset/USDT` of one of the
module's assets, a perpetual book otherwise. After a book update the module evaluates every asset
on the update's venue: with both mids present and a non-zero spot mid, the edge is the absolute
basis `(perpMid - spotMid) / spotMid` plus the absolute funding capture over the holding horizon,
in basis points, less the cost model's estimate for a spot buy of 1. An edge of at least
`minNetEdgeBps` is published as a spot leg at the best ask and a perpetual leg at the best bid,
both of the smaller of the two sizes.

The funding regime of the source is only logged, and the annualized basis is never read; both
are left out.

On books whose levels have positive prices and sizes, every published signal has an edge of at
least `minNetEdgeBps` and two legs of positive price and size (`mem_evaluate_pos`); the books
keep that invariant along every run of book and funding updates (`run_signals_pos`), so with the
positive threshold the configuration requires, every signal of every run from `NewBasisArbModule`
has a positive edge (`newBasisArbModule_run_signals`).

The edge counts the funding capture by its magnitude whichever side the perpetual leg takes, as
the spec's gross edge does, so a published edge exceeds the direction-signed one by twice the
funding the chosen side pays (`assetSignal_signedNetEdge`, and over every signal of `evaluate`,
`mem_evaluate_edge`).
-/

set_option autoImplicit false

namespace ArbitrageEngine.Strategy

/-- `BasisArbModule`; `nextSignalID` counts the module's signals, for `uuid.NewV7`. -/
structure BasisArbModule where
  spotBooks : String → Option OrderBookSnapshot
  perpBooks : String → Option OrderBookSnapshot
  fundingRates : String → List FundingRate
  costModel : CostModelService
  minNetEdgeBps : ℤ
  holdingHorizonH : ℤ
  venues : List String
  assets : List String
  nextSignalID : Uuid

/-- The spot symbol of an asset, as `NewBasisArbModule` fills `spotSymbolMap`. -/
def spotSymbol (asset : String) : String := asset ++ "/USDT"

/-- The perpetual symbol of an asset, as `NewBasisArbModule` fills `perpSymbolMap`. -/
def perpSymbol (asset : String) : String := asset ++ "USDT"

/-- The key of a book or of a funding history: `venue:symbol`. -/
def bookKey (venue symbol : String) : String := venue ++ ":" ++ symbol

/-- `NewBasisArbModule`: no book and no funding rate yet. -/
def newBasisArbModule (venues assets : List String) (costModel : CostModelService)
    (minNetEdgeBps holdingHorizonH : ℤ) : BasisArbModule :=
  ⟨fun _ => none, fun _ => none, fun _ => [], costModel, minNetEdgeBps, holdingHorizonH, venues,
    assets, 0⟩

/-! ## Funding capture -/

/-- The loop of `estimateFundingCapture` over the recent rates: the rates weighted `1, 2, ...` in
order, summed, and the sum of the weights. -/
def fundingSums (recent : List FundingRate) : Decimal × Decimal :=
  recent.enum.foldl (fun acc ir => (acc.1 + ir.2.rate * (ir.1 + 1), acc.2 + (ir.1 + 1))) (0, 0)

/-- `estimateFundingCapture`: the weighted average of the last (at most) 12 rates times the
number of 8-hour funding intervals in the holding horizon; `0` without a rate. -/
def BasisArbModule.estimateFundingCapture (m : BasisArbModule) (venue symbol : String) : Decimal :=
  let rates := m.fundingRates (bookKey venue symbol)
  if rates.length = 0 then 0
  else
    let sums := fundingSums (rates.drop (rates.length - 12))
    if sums.2 = 0 then 0
    else decDiv sums.1 sums.2 * decDiv m.holdingHorizonH 8

/-! ## Evaluation -/

/-- The body of `evaluate`'s loop for one asset on `venue`, with the signal's UUID. A missing best
level reads as the zero level, as Go's ignored `ok` gives. -/
def BasisArbModule.assetSignal (m : BasisArbModule) (venue asset : String) (signalID : Uuid) :
    Option TradeSignal :=
  match m.spotBooks (bookKey venue (spotSymbol asset)),
      m.perpBooks (bookKey venue (perpSymbol asset)) with
  | some spotBook, some perpBook =>
    match spotBook.midPrice, perpBook.midPrice with
    | some spotMid, some perpMid =>
      if spotMid = 0 then none
      else
        let basis := decDiv (perpMid - spotMid) spotMid
        if decDiv m.holdingHorizonH 24 = 0 then none
        else
          let fundingCapture := m.estimateFundingCapture venue (perpSymbol asset)
          let totalEdgeBps := (|basis| + |fundingCapture|) * 10000
          match m.costModel.estimateCost venue (spotSymbol asset) .buy 1 .limit with
          | none => none
          | some costEst =>
            let netEdgeBps := totalEdgeBps - costEst.totalBps
            if (m.minNetEdgeBps : Decimal) ≤ netEdgeBps then
              let sides : Side × Side := if perpMid > spotMid then (.buy, .sell) else (.sell, .buy)
              let spotAsk := spotBook.bestAsk.getD ⟨0, 0⟩
              let perpBid := perpBook.bestBid.getD ⟨0, 0⟩
              let size := min spotAsk.size perpBid.size
              if size = 0 then none
              else
                some ⟨signalID, .basisArb, venue,
                  [⟨spotSymbol asset, sides.1, .spot, spotAsk.price, size, .limit⟩,
                   ⟨perpSymbol asset, sides.2, .perp, perpBid.price, size, .limit⟩], netEdgeBps⟩
            else none
    | _, _ => none
  | _, _ => none

/-- One asset of `evaluate`, with the signals published so far. -/
def BasisArbModule.evaluateAsset (m : BasisArbModule) (venue : String)
    (signals : List TradeSignal) (asset : String) : List TradeSignal :=
  match m.assetSignal venue asset (m.nextSignalID + signals.length) with
  | some signal => signals ++ [signal]
  | none => signals

/-- `evaluate`: the signals published on `venue`, in asset order. -/
def BasisArbModule.evaluate (m : BasisArbModule) (venue : String) : List TradeSignal :=
  m.assets.foldl (m.evaluateAsset venue) []

/-- The locked part of `OnOrderBookUpdate`: the snapshot replaces the spot book of its key when
its symbol is an asset's spot symbol, the perpetual book otherwise. -/
def BasisArbModule.storeBook (m : BasisArbModule) (snap : OrderBookSnapshot) : BasisArbModule :=
  let key := bookKey snap.venue snap.symbol
  if m.assets.any (fun asset => spotSymbol asset == snap.symbol) then
    { m with spotBooks := Function.update m.spotBooks key (some snap) }
  else { m with perpBooks := Function.update m.perpBooks key (some snap) }

/-- `OnOrderBookUpdate`: the snapshot is stored, then `evaluate` runs on its venue. -/
def BasisArbModule.onOrderBookUpdate (m : BasisArbModule) (snap : OrderBookSnapshot) :
    BasisArbModule × List TradeSignal :=
  let m := m.storeBook snap
  let signals := m.evaluate snap.venue
  ({ m with nextSignalID := m.nextSignalID + signals.length }, signals)

/-- `OnFundingRateUpdate`: the rate is appended to its key's history, which keeps its last 100. -/
def BasisArbModule.onFundingRateUpdate (m : BasisArbModule) (rate : FundingRate) :
    BasisArbModule :=
  let key := bookKey rate.venue rate.symbol
  let rates := m.fundingRates key ++ [rate]
  let kept := if rates.length > 100 then rates.drop (rates.length - 100) else rates
  { m with fundingRates := Function.update m.fundingRates key kept }

/-- What the module receives from the strategy engine. -/
inductive BasisEvent where
  | book (snap : OrderBookSnapshot)
  | funding (rate : FundingRate)

/-- One event, with the signals it publishes. -/
def BasisArbModule.step (m : BasisArbModule) : BasisEvent → BasisArbModule × List TradeSignal
  | .book snap => m.onOrderBookUpdate snap
  | .funding rate => (m.onFundingRateUpdate rate, [])

/-- A run of events, with every signal published along it. -/
def BasisArbModule.run (m : BasisArbModule) : List BasisEvent → BasisArbModule × List TradeSignal
  | [] => (m, [])
  | e :: es =>
    let r := (m.step e).1.run es
    (r.1, (m.step e).2 ++ r.2)

/-! ## Published signals on positive books -/

/-- Every level of the book has a positive price and a positive size. -/
def LevelsPositive (b : OrderBookSnapshot) : Prop :=
  ∀ l ∈ b.bids ++ b.asks, 0 < l.price ∧ 0 < l.size

/-- Every book the module holds has positive levels. -/
def BasisArbModule.BooksPositive (m : BasisArbModule) : Prop :=
  ∀ key b, (m.spotBooks key = some b ∨ m.perpBooks key = some b) → LevelsPositive b

/-- The event brings positive levels, if it brings a book. -/
def BasisEvent.LevelsPositive : BasisEvent → Prop
  | .book snap => Strategy.LevelsPositive snap
  | .funding _ => True

/-- What every published basis signal satisfies on positive books: an edge of at least
`minNetEdgeBps`, and two legs of positive price and size. -/
def BasisSignalOk (minNetEdgeBps : ℤ) (s : TradeSignal) : Prop :=
  (minNetEdgeBps : Decimal) ≤ s.expectedEdgeBps ∧ s.legs.length = 2 ∧
    ∀ leg ∈ s.legs, 0 < leg.price ∧ 0 < leg.size

theorem midPrice_eq_some {b : OrderBookSnapshot} {mid : Decimal} (h : b.midPrice = some mid) :
    ∃ bid ask, b.bestBid = some bid ∧ b.bestAsk = some ask := by
  unfold OrderBookSnapshot.midPrice at h
  split at h
  · exact ⟨_, _, ‹_›, ‹_›⟩
  · cases h

theorem LevelsPositive.bestBid {b : OrderBookSnapshot} (h : LevelsPositive b) {l : PriceLevel}
    (hl : b.bestBid = some l) : 0 < l.price ∧ 0 < l.size :=
  h l (List.mem_append_left _ (List.mem_of_mem_head? hl))

theorem LevelsPositive.bestAsk {b : OrderBookSnapshot} (h : LevelsPositive b) {l : PriceLevel}
    (hl : b.bestAsk = some l) : 0 < l.price ∧ 0 < l.size :=
  h l (List.mem_append_right _ (List.mem_of_mem_head? hl))

/-- **What a published basis signal is.** `assetSignal` publishes only from two books with mids, a
cost estimate and a net edge at the threshold; the signal is then a spot leg at the best ask and a
perpetual leg at the best bid, both of the smaller top size, which is not zero, with the edge
counting the funding capture's magnitude and the perpetual leg selling exactly when its mid is
above the spot mid. -/
theorem BasisArbModule.assetSignal_eq_some {m : BasisArbModule} {venue asset : String}
    {signalID : Uuid} {s : TradeSignal} (h : m.assetSignal venue asset signalID = some s) :
    ∃ spotBook perpBook spotMid perpMid costEst,
      m.spotBooks (bookKey venue (spotSymbol asset)) = some spotBook ∧
      m.perpBooks (bookKey venue (perpSymbol asset)) = some perpBook ∧
      spotBook.midPrice = some spotMid ∧ perpBook.midPrice = some perpMid ∧
      m.costModel.estimateCost venue (spotSymbol asset) .buy 1 .limit = some costEst ∧
      (m.minNetEdgeBps : Decimal) ≤ s.expectedEdgeBps ∧
      s.expectedEdgeBps = (|decDiv (perpMid - spotMid) spotMid| +
        |m.estimateFundingCapture venue (perpSymbol asset)|) * 10000 - costEst.totalBps ∧
      min (spotBook.bestAsk.getD ⟨0, 0⟩).size (perpBook.bestBid.getD ⟨0, 0⟩).size ≠ 0 ∧
      s.legs = [⟨spotSymbol asset, if perpMid > spotMid then .buy else .sell, .spot,
          (spotBook.bestAsk.getD ⟨0, 0⟩).price,
          min (spotBook.bestAsk.getD ⟨0, 0⟩).size (perpBook.bestBid.getD ⟨0, 0⟩).size, .limit⟩,
        ⟨perpSymbol asset, if perpMid > spotMid then .sell else .buy, .perp,
          (perpBook.bestBid.getD ⟨0, 0⟩).price,
          min (spotBook.bestAsk.getD ⟨0, 0⟩).size (perpBook.bestBid.getD ⟨0, 0⟩).size, .limit⟩] ∧
      s.strategy = .basisArb ∧ s.venue = venue := by
  unfold BasisArbModule.assetSignal at h
  split at h
  · rename_i spotBook perpBook hspot hperp
    split at h
    · rename_i spotMid perpMid hsm hpm
      cases hc : m.costModel.estimateCost venue (spotSymbol asset) .buy 1 .limit with
      | none => simp [hc] at h
      | some costEst =>
        simp only [hc, Option.ite_none_left_eq_some, Option.ite_none_right_eq_some,
          Option.some.injEq] at h
        obtain ⟨-, -, hmin, hsize, rfl⟩ := h
        refine ⟨_, _, _, _, _, hspot, hperp, hsm, hpm, rfl, hmin, rfl, hsize, ?_, rfl, rfl⟩
        by_cases hp : perpMid > spotMid <;> simp [hp]
    · cases h
  · cases h

/-- An asset's signal on positive books is a good basis signal. -/
theorem BasisArbModule.assetSignal_ok {m : BasisArbModule} (hpos : m.BooksPositive)
    {venue asset : String} {signalID : Uuid} {s : TradeSignal}
    (h : m.assetSignal venue asset signalID = some s) : BasisSignalOk m.minNetEdgeBps s := by
  obtain ⟨spotBook, perpBook, _, _, _, hspot, hperp, hsm, hpm, -, hmin, -, -, hlegs, -⟩ :=
    assetSignal_eq_some h
  obtain ⟨-, ask, -, hask⟩ := midPrice_eq_some hsm
  obtain ⟨bid, -, hbid, -⟩ := midPrice_eq_some hpm
  have ha := (hpos _ _ (.inl hspot)).bestAsk hask
  have hb := (hpos _ _ (.inr hperp)).bestBid hbid
  refine ⟨hmin, by rw [hlegs]; rfl, ?_⟩
  simp only [hlegs, hask, hbid, Option.getD_some, List.mem_cons, List.mem_singleton,
    List.not_mem_nil, or_false]
  rintro leg (rfl | rfl)
  · exact ⟨ha.1, lt_min ha.2 hb.2⟩
  · exact ⟨hb.1, lt_min ha.2 hb.2⟩

/-- Every signal of `evaluate` is the signal of one of the module's assets. -/
theorem BasisArbModule.mem_evaluate {m : BasisArbModule} {venue : String} {s : TradeSignal}
    (hs : s ∈ m.evaluate venue) :
    ∃ asset ∈ m.assets, ∃ signalID, m.assetSignal venue asset signalID = some s := by
  suffices ∀ (assets : List String) acc, s ∈ assets.foldl (m.evaluateAsset venue) acc →
      s ∈ acc ∨ ∃ asset ∈ assets, ∃ signalID, m.assetSignal venue asset signalID = some s by
    simpa using this m.assets [] hs
  intro assets
  induction assets with
  | nil => exact fun _ h => .inl h
  | cons asset rest ih =>
    intro acc h
    refine (ih _ h).elim (fun h => ?_) fun ⟨a, ha, hsig⟩ => .inr ⟨a, List.mem_cons_of_mem _ ha, hsig⟩
    unfold BasisArbModule.evaluateAsset at h
    split at h
    · rename_i signal hsig
      rcases List.mem_append.mp h with h | h
      · exact .inl h
      · exact .inr ⟨asset, List.mem_cons_self _ _, _, (List.mem_singleton.mp h) ▸ hsig⟩
    · exact .inl h

/-- **Every basis signal published on positive books is good.** -/
theorem BasisArbModule.mem_evaluate_pos {m : BasisArbModule} (hpos : m.BooksPositive)
    {venue : String} {s : TradeSignal} (hs : s ∈ m.evaluate venue) :
    BasisSignalOk m.minNetEdgeBps s :=
  let ⟨_, _, _, h⟩ := mem_evaluate hs
  m.assetSignal_ok hpos h

/-! ## Runs -/

@[simp]
theorem BasisArbModule.storeBook_minNetEdgeBps (m : BasisArbModule) (snap : OrderBookSnapshot) :
    (m.storeBook snap).minNetEdgeBps = m.minNetEdgeBps := by
  unfold BasisArbModule.storeBook; split_ifs <;> rfl

@[simp]
theorem BasisArbModule.step_minNetEdgeBps (m : BasisArbModule) (e : BasisEvent) :
    (m.step e).1.minNetEdgeBps = m.minNetEdgeBps := by
  cases e <;> simp [BasisArbModule.step, BasisArbModule.onOrderBookUpdate,
    BasisArbModule.onFundingRateUpdate]

theorem update_eq_some {f : String → Option OrderBookSnapshot} {k key : String}
    {snap b : OrderBookSnapshot} (h : Function.update f k (some snap) key = some b) :
    snap = b ∨ f key = some b := by
  by_cases hk : key = k
  · subst hk
    exact .inl (by simpa using h)
  · exact .inr (by rwa [Function.update_noteq hk] at h)

/-- Storing a book with positive levels keeps the books positive. -/
theorem BasisArbModule.BooksPositive.storeBook {m : BasisArbModule} (hpos : m.BooksPositive)
    {snap : OrderBookSnapshot} (hsnap : LevelsPositive snap) : (m.storeBook snap).BooksPositive := by
  intro key b hb
  have hb' : snap = b ∨ m.spotBooks key = some b ∨ m.perpBooks key = some b := by
    unfold BasisArbModule.storeBook at hb
    split_ifs at hb
    · rcases hb with hb | hb
      · exact (update_eq_some hb).imp_right .inl
      · exact .inr (.inr hb)
    · rcases hb with hb | hb
      · exact .inr (.inl hb)
      · exact (update_eq_some hb).imp_right .inr
  rcases hb' with rfl | hb'
  · exact hsnap
  · exact hpos key b hb'

/-- **A step keeps the books positive** and publishes only good signals. -/
theorem BasisArbModule.step_ok {m : BasisArbModule} (hpos : m.BooksPositive) {e : BasisEvent}
    (he : e.LevelsPositive) :
    (m.step e).1.BooksPositive ∧ ∀ s ∈ (m.step e).2, BasisSignalOk m.minNetEdgeBps s := by
  cases e with
  | book snap =>
    have hstore := hpos.storeBook he
    refine ⟨fun key b hb => hstore key b hb, fun s hs => ?_⟩
    simpa using mem_evaluate_pos hstore hs
  | funding rate => exact ⟨hpos, by simp [BasisArbModule.step]⟩

/-- **Every signal of a run on positive books is good.** From positive books, along any run of
book updates with positive levels and any funding history, every published basis signal has an
edge of at least `minNetEdgeBps` and two legs of positive price and size. -/
theorem BasisArbModule.run_signals_pos (m : BasisArbModule) (es : List BasisEvent)
    (hpos : m.BooksPositive) (hes : ∀ e ∈ es, e.LevelsPositive) :
    ∀ s ∈ (m.run es).2, BasisSignalOk m.minNetEdgeBps s := by
  induction es generalizing m with
  | nil => simp [BasisArbModule.run]
  | cons e es ih =>
    obtain ⟨hpos', hstep⟩ := m.step_ok hpos (hes e (List.mem_cons_self _ _))
    have hrest := ih _ hpos' fun e' he' => hes e' (List.mem_cons_of_mem _ he')
    simp only [BasisArbModule.run, List.mem_append]
    rintro s (hs | hs)
    · exact hstep s hs
    · simpa using hrest s hs

/-- Every signal of a run is a basis signal. -/
theorem BasisArbModule.run_strategy (m : BasisArbModule) (es : List BasisEvent) :
    ∀ s ∈ (m.run es).2, s.strategy = .basisArb := by
  induction es generalizing m with
  | nil => simp [BasisArbModule.run]
  | cons e es ih =>
    simp only [BasisArbModule.run, List.mem_append]
    rintro s (hs | hs)
    · cases e with
      | book snap =>
        obtain ⟨_, -, _, h⟩ := mem_evaluate
          (by simpa only [BasisArbModule.step, BasisArbModule.onOrderBookUpdate] using hs)
        obtain ⟨_, _, _, _, _, -, -, -, -, -, -, -, -, -, hstrategy, -⟩ := assetSignal_eq_some h
        exact hstrategy
      | funding rate => simp [BasisArbModule.step] at hs
    · exact ih _ s hs

theorem newBasisArbModule_booksPositive (venues assets : List String) (costModel : CostModelService)
    (minNetEdgeBps holdingHorizonH : ℤ) :
    (newBasisArbModule venues assets costModel minNetEdgeBps holdingHorizonH).BooksPositive := by
  intro key b hb
  simp [newBasisArbModule] at hb

/-- With the positive `minNetEdgeBps` the configuration requires, every basis signal of every run
from a new module, over books of positive levels and any funding history, has a positive edge and
two legs of positive price and size. -/
theorem newBasisArbModule_run_signals (venues assets : List String) (costModel : CostModelService)
    (minNetEdgeBps holdingHorizonH : ℤ) (hmin : 0 < minNetEdgeBps) (es : List BasisEvent)
    (hes : ∀ e ∈ es, e.LevelsPositive) :
    ∀ s ∈ ((newBasisArbModule venues assets costModel minNetEdgeBps holdingHorizonH).run es).2,
      0 < s.expectedEdgeBps ∧ s.legs.length = 2 ∧ ∀ leg ∈ s.legs, 0 < leg.price ∧ 0 < leg.size := by
  intro s hs
  obtain ⟨hedge, hlegs⟩ := BasisArbModule.run_signals_pos _ es
    (newBasisArbModule_booksPositive _ _ _ _ _) hes s hs
  exact ⟨lt_of_lt_of_le (by exact_mod_cast hmin) hedge, hlegs⟩

/-- The basis module `main` would register for `kcex` and BTC, at 22 bps and a one-week horizon,
with the flat cost model. -/
def kcexBasisModule : BasisArbModule := newBasisArbModule ["kcex"] ["BTC"] flatCostModel 22 168

/-- A funding rate of `-0.1%` on the BTC perpetual, then a spot book with mid 100 and a perpetual
book with mid 101: the perpetual trades above spot while shorts pay longs. -/
def fundingAgainstEvents : List BasisEvent :=
  [.funding ⟨"kcex", "BTCUSDT", -1 / 1000, 0, 0⟩,
   .book (kcexBook "BTC/USDT" [⟨99, 1⟩] [⟨101, 1⟩]),
   .book (kcexBook "BTCUSDT" [⟨100, 1⟩] [⟨102, 1⟩])]

/-- The divisions of the run of `fundingAgainstEvents`, all exact: the two mids, the basis, the
funding average, and the horizon in funding intervals and in days. -/
theorem fundingAgainst_divisions :
    decDiv (99 + 101) 2 = 100 ∧ decDiv (100 + 102) 2 = 101 ∧ decDiv (101 - 100) 100 = 1 / 100 ∧
      decDiv (-1 / 1000) 1 = -1 / 1000 ∧ decDiv 168 8 = 21 ∧ decDiv 168 24 = 7 := by
  refine ⟨?_, ?_, ?_, ?_, ?_, ?_⟩
  · rw [decDiv_of_int _ _ (by norm_num) (100 * 10 ^ 16) (by norm_num)]; norm_num
  · rw [decDiv_of_int _ _ (by norm_num) (101 * 10 ^ 16) (by norm_num)]; norm_num
  · rw [decDiv_of_int _ _ (by norm_num) (10 ^ 14) (by norm_num)]; norm_num
  · rw [decDiv_of_int _ _ (by norm_num) (-10 ^ 13) (by norm_num)]; norm_num
  · rw [decDiv_of_int _ _ (by norm_num) (21 * 10 ^ 16) (by norm_num)]; norm_num
  · rw [decDiv_of_int _ _ (by norm_num) (7 * 10 ^ 16) (by norm_num)]; norm_num

/-- The run publishes one signal, on the third event: buy spot at 101, sell the perpetual at 100,
one BTC each, at an edge of 300 bps. -/
theorem kcexBasisModule_run_fundingAgainst :
    (kcexBasisModule.run fundingAgainstEvents).2 =
      [⟨0, .basisArb, "kcex", [⟨"BTC/USDT", .buy, .spot, 101, 1, .limit⟩,
        ⟨"BTCUSDT", .sell, .perp, 100, 1, .limit⟩], 300⟩] := by
  obtain ⟨h1, h2, h3, h4, h5, h6⟩ := fundingAgainst_divisions
  simp [kcexBasisModule, fundingAgainstEvents, newBasisArbModule, BasisArbModule.run,
    BasisArbModule.step, BasisArbModule.onOrderBookUpdate, BasisArbModule.onFundingRateUpdate,
    BasisArbModule.storeBook, BasisArbModule.evaluate, BasisArbModule.evaluateAsset,
    BasisArbModule.assetSignal, BasisArbModule.estimateFundingCapture, fundingSums, kcexBook,
    spotSymbol, perpSymbol, bookKey, OrderBookSnapshot.midPrice, OrderBookSnapshot.bestBid,
    OrderBookSnapshot.bestAsk, flatCostModel, Function.update_apply, h1, h2, h3, h5, h6]
  rw [h4]
  norm_num [abs_of_pos]

/-- On the books of `fundingAgainstEvents`, whose levels are all positive, the new module's one
signal has a positive edge and two legs of positive price and size. -/
theorem newBasisArbModule_run_signals_fundingAgainst :
    (∀ e ∈ fundingAgainstEvents, e.LevelsPositive) ∧
      (kcexBasisModule.run fundingAgainstEvents).2.length = 1 ∧
      ∀ s ∈ (kcexBasisModule.run fundingAgainstEvents).2,
        0 < s.expectedEdgeBps ∧ s.legs.length = 2 ∧ ∀ leg ∈ s.legs, 0 < leg.price ∧ 0 < leg.size := by
  have hes : ∀ e ∈ fundingAgainstEvents, e.LevelsPositive := by
    simp [fundingAgainstEvents, BasisEvent.LevelsPositive, LevelsPositive, kcexBook]
  refine ⟨hes, by rw [kcexBasisModule_run_fundingAgainst]; rfl, ?_⟩
  exact newBasisArbModule_run_signals ["kcex"] ["BTC"] flatCostModel 22 168 (by norm_num)
    fundingAgainstEvents hes

/-! ## The published edge and the direction of funding -/

/-- The direction-signed net edge of `asset` on `venue` over the module's books: the absolute
basis, plus the funding capture when the perpetual leg sells and minus it when that leg buys, less
the cost estimate, in basis points; `none` where `evaluate` finds no mid or no cost. -/
def BasisArbModule.signedNetEdgeBps (m : BasisArbModule) (venue asset : String) :
    Option Decimal := do
  let spotBook ← m.spotBooks (bookKey venue (spotSymbol asset))
  let perpBook ← m.perpBooks (bookKey venue (perpSymbol asset))
  let spotMid ← spotBook.midPrice
  let perpMid ← perpBook.midPrice
  let costEst ← m.costModel.estimateCost venue (spotSymbol asset) .buy 1 .limit
  let fundingCapture := m.estimateFundingCapture venue (perpSymbol asset)
  let collected := if perpMid > spotMid then fundingCapture else -fundingCapture
  some ((|decDiv (perpMid - spotMid) spotMid| + collected) * 10000 - costEst.totalBps)

/-- Adding a signed amount in place of its magnitude lowers an edge, and keeps it exactly when the
amount is not negative. -/
theorem signed_edge_le (b k c : Decimal) :
    (b + c) * 10000 - k ≤ (b + |c|) * 10000 - k ∧
      ((b + c) * 10000 - k = (b + |c|) * 10000 - k ↔ 0 ≤ c) := by
  refine ⟨by linarith [le_abs_self c], fun heq => abs_eq_self.mp (by linarith), fun hc => ?_⟩
  rw [abs_of_nonneg hc]

/-- **The published edge against the signed one.** A published basis signal's edge is at least
the direction-signed net edge, and equals it exactly when the funding the chosen perpetual side
collects is not negative. -/
theorem BasisArbModule.assetSignal_signedNetEdge {m : BasisArbModule} {venue asset : String}
    {signalID : Uuid} {s : TradeSignal} (h : m.assetSignal venue asset signalID = some s) :
    ∃ e, m.signedNetEdgeBps venue asset = some e ∧ e ≤ s.expectedEdgeBps ∧
      (e = s.expectedEdgeBps ↔ 0 ≤ (if s.legs.map LegSpec.side = [.buy, .sell]
        then m.estimateFundingCapture venue (perpSymbol asset)
        else -m.estimateFundingCapture venue (perpSymbol asset))) := by
  obtain ⟨spotBook, perpBook, spotMid, perpMid, costEst, hspot, hperp, hsm, hpm, hc, -, hedge, -,
    hlegs, -⟩ := assetSignal_eq_some h
  set fc := m.estimateFundingCapture venue (perpSymbol asset)
  set collected := if perpMid > spotMid then fc else -fc
  have hval : m.signedNetEdgeBps venue asset = some ((|decDiv (perpMid - spotMid) spotMid| +
      collected) * 10000 - costEst.totalBps) := by
    simp only [BasisArbModule.signedNetEdgeBps, hspot, hperp, hsm, hpm, hc, Option.bind_eq_bind,
      Option.some_bind]
  refine ⟨_, hval, ?_⟩
  rw [hedge, hlegs]
  by_cases hp : perpMid > spotMid <;>
    simpa [collected, hp] using signed_edge_le |decDiv (perpMid - spotMid) spotMid| costEst.totalBps collected

/-- **What a published basis edge is.** Every signal `evaluate` publishes on a venue is that of
one of the module's assets whose spot and perpetual books both have a mid: its edge is the
absolute basis plus the absolute funding capture, in basis points, less the cost estimate of a
spot buy of 1, and it is at least `minNetEdgeBps`. That edge is at least the direction-signed net
edge, and equal to it exactly when the funding the chosen perpetual side collects is not
negative. -/
theorem BasisArbModule.mem_evaluate_edge (m : BasisArbModule) (venue : String) :
    ∀ s ∈ m.evaluate venue, ∃ asset ∈ m.assets, ∃ spotBook perpBook spotMid perpMid costEst,
      m.spotBooks (bookKey venue (spotSymbol asset)) = some spotBook ∧
      m.perpBooks (bookKey venue (perpSymbol asset)) = some perpBook ∧
      spotBook.midPrice = some spotMid ∧ perpBook.midPrice = some perpMid ∧
      m.costModel.estimateCost venue (spotSymbol asset) .buy 1 .limit = some costEst ∧
      s.expectedEdgeBps = (|decDiv (perpMid - spotMid) spotMid| +
        |m.estimateFundingCapture venue (perpSymbol asset)|) * 10000 - costEst.totalBps ∧
      (m.minNetEdgeBps : Decimal) ≤ s.expectedEdgeBps ∧
      ∃ e, m.signedNetEdgeBps venue asset = some e ∧ e ≤ s.expectedEdgeBps ∧
        (e = s.expectedEdgeBps ↔ 0 ≤ (if s.legs.map LegSpec.side = [.buy, .sell]
          then m.estimateFundingCapture venue (perpSymbol asset)
          else -m.estimateFundingCapture venue (perpSymbol asset))) := by
  intro s hs
  obtain ⟨asset, hasset, _, h⟩ := mem_evaluate hs
  obtain ⟨spotBook, perpBook, spotMid, perpMid, costEst, hspot, hperp, hsm, hpm, hc, hmin, hedge,
    -⟩ := assetSignal_eq_some h
  exact ⟨asset, hasset, spotBook, perpBook, spotMid, perpMid, costEst, hspot, hperp, hsm, hpm, hc,
    hedge, hmin, assetSignal_signedNetEdge h⟩

/-- After those events the module publishes a signal whose perpetual leg sells, with an edge of
300 bps, though the funding the short pays makes the direction-signed edge `-120` bps, below the
22 bps threshold. -/
theorem basis_signal_against_funding :
    (kcexBasisModule.run fundingAgainstEvents).1.signedNetEdgeBps "kcex" "BTC" = some (-120) ∧
      ((-120 : Decimal) < (kcexBasisModule.run fundingAgainstEvents).1.minNetEdgeBps) ∧
      ∃ s ∈ (kcexBasisModule.run fundingAgainstEvents).2,
        s.expectedEdgeBps = 300 ∧ s.legs.map LegSpec.side = [.buy, .sell] := by
  obtain ⟨h1, h2, h3, h4, h5, h6⟩ := fundingAgainst_divisions
  simp [kcexBasisModule, fundingAgainstEvents, newBasisArbModule, BasisArbModule.run,
    BasisArbModule.step, BasisArbModule.onOrderBookUpdate, BasisArbModule.onFundingRateUpdate,
    BasisArbModule.storeBook, BasisArbModule.evaluate, BasisArbModule.evaluateAsset,
    BasisArbModule.assetSignal, BasisArbModule.signedNetEdgeBps,
    BasisArbModule.estimateFundingCapture, fundingSums, kcexBook, spotSymbol, perpSymbol, bookKey,
    OrderBookSnapshot.midPrice, OrderBookSnapshot.bestBid, OrderBookSnapshot.bestAsk,
    flatCostModel, Function.update_apply, h1, h2, h3, h5, h6]
  rw [h4]
  norm_num [abs_of_pos]

/-- The module after those events. -/
def fundingAgainstModule : BasisArbModule := (kcexBasisModule.run fundingAgainstEvents).1

/-- Evaluated on `kcex`, the module after those events publishes one signal, and that signal's
edge is as `mem_evaluate_edge` describes. -/
theorem mem_evaluate_edge_fundingAgainst :
    (fundingAgainstModule.evaluate "kcex").length = 1 ∧
      ∀ s ∈ fundingAgainstModule.evaluate "kcex", ∃ asset ∈ fundingAgainstModule.assets,
        ∃ spotBook perpBook spotMid perpMid costEst,
        fundingAgainstModule.spotBooks (bookKey "kcex" (spotSymbol asset)) = some spotBook ∧
        fundingAgainstModule.perpBooks (bookKey "kcex" (perpSymbol asset)) = some perpBook ∧
        spotBook.midPrice = some spotMid ∧ perpBook.midPrice = some perpMid ∧
        fundingAgainstModule.costModel.estimateCost "kcex" (spotSymbol asset) .buy 1 .limit =
          some costEst ∧
        s.expectedEdgeBps = (|decDiv (perpMid - spotMid) spotMid| +
          |fundingAgainstModule.estimateFundingCapture "kcex" (perpSymbol asset)|) * 10000 -
            costEst.totalBps ∧
        (fundingAgainstModule.minNetEdgeBps : Decimal) ≤ s.expectedEdgeBps ∧
        ∃ e, fundingAgainstModule.signedNetEdgeBps "kcex" asset = some e ∧
          e ≤ s.expectedEdgeBps ∧
          (e = s.expectedEdgeBps ↔ 0 ≤ (if s.legs.map LegSpec.side = [.buy, .sell]
            then fundingAgainstModule.estimateFundingCapture "kcex" (perpSymbol asset)
            else -fundingAgainstModule.estimateFundingCapture "kcex" (perpSymbol asset))) := by
  refine ⟨?_, fundingAgainstModule.mem_evaluate_edge "kcex"⟩
  obtain ⟨h1, h2, h3, h4, h5, h6⟩ := fundingAgainst_divisions
  simp [fundingAgainstModule, kcexBasisModule, fundingAgainstEvents, newBasisArbModule,
    BasisArbModule.run, BasisArbModule.step, BasisArbModule.onOrderBookUpdate,
    BasisArbModule.onFundingRateUpdate, BasisArbModule.storeBook, BasisArbModule.evaluate,
    BasisArbModule.evaluateAsset, BasisArbModule.assetSignal,
    BasisArbModule.estimateFundingCapture, fundingSums, kcexBook, spotSymbol, perpSymbol, bookKey,
    OrderBookSnapshot.midPrice, OrderBookSnapshot.bestBid, OrderBookSnapshot.bestAsk,
    flatCostModel, Function.update_apply, h1, h2, h3, h5, h6]
  rw [h4]
  norm_num [abs_of_pos]

end ArbitrageEngine.Strategy
