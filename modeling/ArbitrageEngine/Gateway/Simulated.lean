import ArbitrageEngine.Gateway.FillSim

/-!
# The simulated venue

In a dry run, `main` gives every enabled venue a `simulated.Gateway`. `New` makes its balances one
USDT balance of the initial capital, with no position and no open order. `PlaceOrder` waits the
configured latency, reads the venue's book from the market data service, and asks the fill
simulator for a fill. It stores the order under a fresh venue ID with the fill's size, price and
status, and acknowledges it with that status. Without a book it answers with a rejected ack and
an error. `CancelOrder` removes the order and acknowledges any ID as cancelled. The queries copy
the gateway's maps.

A placed order is listed as open, whether the simulator filled it, rejected it or left it
resting, until a cancel of its venue ID (`Gateway.run_openOrder`).
-/

set_option autoImplicit false

namespace ArbitrageEngine.Simulated

/-- `simulated.Gateway`: the venue, its fill simulator, the balances by asset in the map's
iteration order, the positions, the open orders by venue ID, and the latency. The fee tier is
`GetFeeTier`'s constant answer; the market data service and the logger are arguments or left
out. -/
structure Gateway where
  venueName : String
  fillSim : DefaultFillSimulator
  balances : List (String × Balance)
  positions : List Position
  openOrders : List (String × Order)
  latencyMs : ℤ

/-- `New`: one USDT balance, free, of the initial capital. -/
def Gateway.new (venueName : String) (fillSim : DefaultFillSimulator) (initialCapital : Decimal)
    (latencyMs : ℤ) : Gateway :=
  ⟨venueName, fillSim, [("USDT", ⟨venueName, "USDT", initialCapital, 0, initialCapital⟩)], [], [],
    latencyMs⟩

/-- `Name`. -/
def Gateway.name (g : Gateway) : String := g.venueName ++ "_simulated"

/-- The fee tier `GetFeeTier` returns: maker 2 bps, taker 5 bps. -/
def Gateway.feeTierBps (_g : Gateway) : Decimal × Decimal := (2, 5)

/-- What `PlaceOrder` returns: the ack and the error, either of which may be nil. -/
structure PlaceResult where
  ack : Option OrderAck
  error : Option String

/-- `PlaceOrder` at clock reading `now`. `ctxErr` is the context's error when it ends during the
latency wait, `book` the market data service's answer, `draw` the simulator's random draw, and
`venueID` the fresh `uuid.New()`. -/
def Gateway.placeOrder (g : Gateway) (ctxErr : Option String) (book : Option OrderBookSnapshot)
    (draw : ℚ) (venueID : String) (now : ℕ) (req : OrderRequest) : PlaceResult × Gateway :=
  match (if g.latencyMs > 0 then ctxErr else none), book with
  | some err, _ => (⟨none, some err⟩, g)
  | none, none =>
    (⟨some ⟨"", .rejected⟩, some ("no order book available for " ++ g.venueName ++ ":" ++ req.symbol)⟩,
      g)
  | none, some book =>
    let fill := g.fillSim.simulateFill draw req (some book)
    let order : Order := ⟨req.internalID, venueID, req.signalID, g.venueName, req.symbol, req.side,
      req.orderType, req.price, req.size, fill.fillSize, fill.fillPrice, fill.status, now, now⟩
    (⟨some ⟨venueID, fill.status⟩, none⟩,
      { g with openOrders := g.openOrders.filter (·.1 ≠ venueID) ++ [(venueID, order)] })

/-- `CancelOrder`: the order leaves the open orders; the answer is always a cancelled ack. -/
def Gateway.cancelOrder (g : Gateway) (orderID : String) : Gateway :=
  { g with openOrders := g.openOrders.filter (·.1 ≠ orderID) }

/-- `GetOpenOrders`: the open orders of the symbol, or all of them for `""`. -/
def Gateway.getOpenOrders (g : Gateway) (symbol : String) : List Order :=
  g.openOrders.filterMap fun e => if symbol = "" ∨ e.2.symbol = symbol then some e.2 else none

/-- `GetBalances`. -/
def Gateway.getBalances (g : Gateway) : List (String × Balance) := g.balances

/-- `GetPositions`. -/
def Gateway.getPositions (g : Gateway) : List Position := g.positions

/-- The calls that change a simulated venue. -/
inductive GatewayCall where
  | placeOrder (ctxErr : Option String) (book : Option OrderBookSnapshot) (draw : ℚ)
      (venueID : String) (now : ℕ) (req : OrderRequest)
  | cancelOrder (orderID : String)

/-- One call. -/
def Gateway.step (g : Gateway) : GatewayCall → Gateway
  | .placeOrder ctxErr book draw venueID now req => (g.placeOrder ctxErr book draw venueID now req).2
  | .cancelOrder orderID => g.cancelOrder orderID

/-- A run of calls. -/
def Gateway.run (g : Gateway) (calls : List GatewayCall) : Gateway := calls.foldl Gateway.step g

/-! ## What a run leaves -/

/-- What the calls leave untouched: the venue, the simulator, the balances and the positions. -/
structure Gateway.Frame (g g' : Gateway) : Prop where
  venueName_eq : g'.venueName = g.venueName
  fillSim_eq : g'.fillSim = g.fillSim
  balances_eq : g'.balances = g.balances
  positions_eq : g'.positions = g.positions
  latencyMs_eq : g'.latencyMs = g.latencyMs

/-- No call moves the simulated venue's money. -/
theorem Gateway.step_frame (g : Gateway) (c : GatewayCall) : g.Frame (g.step c) := by
  cases c with
  | placeOrder ctxErr book draw venueID now req =>
    simp only [Gateway.step, Gateway.placeOrder]
    split <;> exact ⟨rfl, rfl, rfl, rfl, rfl⟩
  | cancelOrder orderID => exact ⟨rfl, rfl, rfl, rfl, rfl⟩

/-- The order `PlaceOrder` stores for a request with a book, and the ack's status. -/
theorem Gateway.placeOrder_some_book (g : Gateway) (ctxErr : Option String)
    (book : OrderBookSnapshot) (draw : ℚ) (venueID : String) (now : ℕ) (req : OrderRequest)
    (h : g.latencyMs ≤ 0 ∨ ctxErr = none) :
    let fill := g.fillSim.simulateFill draw req (some book)
    g.placeOrder ctxErr (some book) draw venueID now req =
      (⟨some ⟨venueID, fill.status⟩, none⟩,
        { g with openOrders := g.openOrders.filter (·.1 ≠ venueID) ++
          [(venueID, ⟨req.internalID, venueID, req.signalID, g.venueName, req.symbol, req.side,
            req.orderType, req.price, req.size, fill.fillSize, fill.fillPrice, fill.status, now,
            now⟩)] }) := by
  have hw : (if g.latencyMs > 0 then ctxErr else none) = none := by
    rcases h with h | h
    · rw [if_neg (by omega)]
    · simp [h]
  simp only [Gateway.placeOrder, hw]

/-- A call other than a placement under `venueID` or a cancel of it. -/
def GatewayCall.touches (venueID : String) : GatewayCall → Bool
  | .placeOrder _ _ _ id _ _ => id = venueID
  | .cancelOrder id => id = venueID

/-- **A placed order stays open until it is cancelled.** Once stored under its venue ID, whatever
its fill status (filled and rejected included), an order is listed by `GetOpenOrders ""` after
any run that neither cancels that ID nor places under it again. -/
theorem Gateway.run_openOrder (g : Gateway) {venueID : String} {o : Order}
    (h : (venueID, o) ∈ g.openOrders) (calls : List GatewayCall)
    (hc : ∀ c ∈ calls, c.touches venueID = false) :
    o ∈ (g.run calls).getOpenOrders "" := by
  induction calls generalizing g with
  | nil => exact List.mem_filterMap.mpr ⟨(venueID, o), h, by simp⟩
  | cons c cs ih =>
    refine ih _ ?_ fun c' hc' => hc c' (List.mem_cons_of_mem _ hc')
    have hne := hc c (List.mem_cons_self _ _)
    cases c with
    | placeOrder ctxErr book draw id now req =>
      simp only [GatewayCall.touches, decide_eq_false_iff_not] at hne
      simp only [Gateway.step, Gateway.placeOrder]
      split
      · exact h
      · exact h
      · exact List.mem_append_left _ (List.mem_filter.mpr ⟨h, by simpa using Ne.symm hne⟩)
    | cancelOrder id =>
      simp only [GatewayCall.touches, decide_eq_false_iff_not] at hne
      exact List.mem_filter.mpr ⟨h, by simpa using Ne.symm hne⟩

/-- **A placed order is listed as open until it is cancelled.** When the context outlives the
latency wait and the venue has a book, `PlaceOrder` acknowledges the order with the simulator's
status, and the order, stored with that status, filled or rejected alike, is listed by
`GetOpenOrders ""` after any later calls that neither cancel its venue ID nor place under it. -/
theorem Gateway.placeOrder_listed_open (g : Gateway) (ctxErr : Option String)
    (book : OrderBookSnapshot) (draw : ℚ) (venueID : String) (now : ℕ) (req : OrderRequest)
    (h : g.latencyMs ≤ 0 ∨ ctxErr = none) (calls : List GatewayCall)
    (hc : ∀ c ∈ calls, c.touches venueID = false) :
    let fill := g.fillSim.simulateFill draw req (some book)
    let result := g.placeOrder ctxErr (some book) draw venueID now req
    result.1.ack = some ⟨venueID, fill.status⟩ ∧
      (⟨req.internalID, venueID, req.signalID, g.venueName, req.symbol, req.side, req.orderType,
        req.price, req.size, fill.fillSize, fill.fillPrice, fill.status, now, now⟩ : Order) ∈
        (result.2.run calls).getOpenOrders "" := by
  have hp := g.placeOrder_some_book ctxErr book draw venueID now req h
  refine ⟨by simp only [hp], ?_⟩
  simp only [hp]
  exact Gateway.run_openOrder _ (List.mem_append_right _ (List.mem_singleton_self _)) calls hc

/-- Later calls under other venue IDs: a cancel of `v2`, then a market sell placed as `v3`. -/
def otherIDCalls : List GatewayCall :=
  [.cancelOrder "v2",
   .placeOrder none (some ⟨"kcex", "BTC/USDT", [⟨99, 2⟩], [], 1, 0, 0⟩) 0 "v3" 1
     ⟨2, 8, "kcex", "BTC/USDT", .sell, .spot, .market, 0, 1, "8-leg-0"⟩]

/-- A market buy against a book with no ask: the dry-run simulator rejects it, and the rejected
order is still listed as open after a cancel and a placement under other venue IDs. -/
theorem Gateway.placeOrder_listed_open_rejected :
    (dryRunSimulator.simulateFill 0 ⟨1, 7, "kcex", "BTC/USDT", .buy, .spot, .market, 0, 1, "7-leg-0"⟩
      (some ⟨"kcex", "BTC/USDT", [⟨99, 2⟩], [], 1, 0, 0⟩)).status = .rejected ∧
    ((Gateway.new "kcex" dryRunSimulator 10000 50).latencyMs ≤ 0 ∨ (none : Option String) = none) ∧
    (∀ c ∈ otherIDCalls, c.touches "v1" = false) ∧
    let g := Gateway.new "kcex" dryRunSimulator 10000 50
    let req : OrderRequest := ⟨1, 7, "kcex", "BTC/USDT", .buy, .spot, .market, 0, 1, "7-leg-0"⟩
    let book : OrderBookSnapshot := ⟨"kcex", "BTC/USDT", [⟨99, 2⟩], [], 1, 0, 0⟩
    let fill := g.fillSim.simulateFill 0 req (some book)
    let result := g.placeOrder none (some book) 0 "v1" 0 req
    result.1.ack = some ⟨"v1", fill.status⟩ ∧
      (⟨req.internalID, "v1", req.signalID, g.venueName, req.symbol, req.side, req.orderType,
        req.price, req.size, fill.fillSize, fill.fillPrice, fill.status, 0, 0⟩ : Order) ∈
        (result.2.run otherIDCalls).getOpenOrders "" := by
  have hc : ∀ c ∈ otherIDCalls, c.touches "v1" = false := by decide
  exact ⟨rfl, Or.inr rfl, hc,
    Gateway.placeOrder_listed_open _ none _ 0 "v1" 0 _ (Or.inr rfl) otherIDCalls hc⟩

end ArbitrageEngine.Simulated
