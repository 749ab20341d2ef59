import ArbitrageEngine.Pipeline.Startup
import ArbitrageEngine.Pipeline.Wiring
import ArbitrageEngine.Strategy.Engine

/-!
# The market data `main` feeds

`main` builds one market-data service with the freshness durations of the configuration and hands
it to the risk manager, to the portfolio and, in a dry run, to every simulated gateway. Only
`UpdateOrderBook`, `ApplyDelta`, `RecordTrade` and `UpdateFundingRate` feed the service, and no
code of the program calls them: `main` subscribes to no venue feed. The service stays as
`NewService` made it (`mainMarketData`), and no book reaches the bus.

On that service every feed is blocked. The risk gate rejects every signal with a leg, as
`DATA_STALE` once the kill switch and the halted mode are passed (`Manager.validateSignal_unfed`).
So along any run of signals the execution path as `main` wires it places no order, publishes no
report and leaves the risk manager as it was (`Trader.executeSignals_unfed`). A simulated gateway
finds no book for any symbol: a placement past the latency wait is answered with a rejected ack
and the error `no order book available for venue:symbol` (`Gateway.placeOrder_unfed`), and along
any run of the dry run no gateway holds an order (`DryRun.run_unfed_no_open_orders`).

Were the feeds wired, the strategy engine `main` starts would run each of its modules as if alone
and publish exactly their signals: along any run of books with positive levels, only triangular
signals for one of the venues, with a leg and a positive expected edge, and basis signals with an
edge of at least `min_net_edge_bps` and two legs of positive price and size
(`mainStrategyEngine_run_signals`). Every signal it can publish has a leg, and so is rejected on
`main`'s own service.
-/

set_option autoImplicit false

namespace ArbitrageEngine.Risk

open ArbitrageEngine.MarketData

/-- On a service never fed, the gate rejects every signal with a leg: after the kill switch and
the halted mode, as `DATA_STALE`. -/
theorem Manager.validateSignal_unfed (m : Manager) (stale block now : Nat)
    (signal : TradeSignal) (hlegs : signal.legs ≠ []) :
    m.validateSignal (Service.new stale block) now signal =
      if m.killSwitch.active then .rejected .killSwitchActive
      else if m.state.mode = .halted then .rejected .systemHalted else .rejected .dataStale := by
  obtain ⟨leg, hleg⟩ := List.exists_mem_of_ne_nil _ hlegs
  have hblocked : signal.legs.any
      (fun leg => (Service.new stale block).isDataBlocked signal.venue leg.symbol now) = true :=
    List.any_eq_true.mpr ⟨leg, hleg, rfl⟩
  simp only [Manager.validateSignal, hblocked, if_true]

end ArbitrageEngine.Risk

namespace ArbitrageEngine.Simulated

open ArbitrageEngine.MarketData

/-- A placement on a service never fed, whatever venue's book it reads: past the latency wait, a
rejected ack with an empty venue ID and the error naming the gateway's venue and the symbol; the
gateway is unchanged either way. -/
theorem Gateway.placeOrder_unfed (g : Gateway) (stale block : Nat) (venue : String)
    (ctxErr : Option String) (draw : ℚ) (venueID : String) (now : ℕ) (req : OrderRequest) :
    g.placeOrder ctxErr ((Service.new stale block).getOrderBook venue req.symbol) draw venueID
        now req =
      (match (if g.latencyMs > 0 then ctxErr else none) with
        | some err => ⟨none, some err⟩
        | none => ⟨some ⟨"", .rejected⟩,
            some ("no order book available for " ++ g.venueName ++ ":" ++ req.symbol)⟩, g) := by
  simp only [Service.getOrderBook_new, Gateway.placeOrder]
  split <;> simp_all

/-- A call of the order manager on a venue's simulated gateway as the program makes it: a placement
reads its book from the market-data service the gateway was built with. -/
def GatewayCall.ReadsFrom (md : Service) (venue : String) : GatewayCall → Prop
  | .placeOrder _ book _ _ _ req => book = md.getOrderBook venue req.symbol
  | .cancelOrder _ => True

/-- A call reading from a service never fed keeps a gateway without open orders. -/
theorem Gateway.step_unfed (g : Gateway) (stale block : Nat) (venue : String) (c : GatewayCall)
    (hc : c.ReadsFrom (Service.new stale block) venue) (hg : g.openOrders = []) :
    (g.step c).openOrders = [] := by
  cases c with
  | placeOrder ctxErr book draw venueID now req =>
    simp only [GatewayCall.ReadsFrom, Service.getOrderBook_new] at hc
    subst hc
    simp only [Gateway.step, Gateway.placeOrder]
    split <;> first | exact hg | contradiction
  | cancelOrder orderID => simp [Gateway.step, Gateway.cancelOrder, hg]

end ArbitrageEngine.Simulated

namespace ArbitrageEngine.Pipeline

open ArbitrageEngine.Configuration ArbitrageEngine.MarketData ArbitrageEngine.Risk
open ArbitrageEngine.Execution ArbitrageEngine.Simulated ArbitrageEngine.Portfolio
open ArbitrageEngine.Strategy (TriArbModule BasisArbModule BasisEvent BasisSignalOk LevelsPositive
  newTriArbModule newBasisArbModule defaultTriangularPaths kcexBook flatCostModel
  newBasisArbModule_booksPositive)

/-- The market-data service of `main`: `NewService` with the warning and block durations of
`risk.data_freshness`, read in nanoseconds as the risk gate's clock is. -/
def mainMarketData (cfg : Config) : Service :=
  Service.new (cfg.risk.dataFreshness.warningMs * 1000000).toNat
    (cfg.risk.dataFreshness.blockMs * 1000000).toNat

/-- Signals through the execution path one after another; `none` is a panic. -/
def Trader.executeSignals (t : Trader) (e : Engine) (md : Service) (v : Venue)
    (signals : List TradeSignal) : Option Trader :=
  signals.foldlM (fun t signal => t.executeSignal e md v signal) t

/-- A rejected signal leaves the path as it was when the risk manager reads no order-state
channel: no order, no report, nothing published. -/
theorem Trader.executeSignal_rejected (t : Trader) (e : Engine) (md : Service) (v : Venue)
    (signal : TradeSignal) (reason : RejectionReason) (hfeeds : t.riskFeeds = [])
    (h : t.risk.validateSignal md t.cycle.clock signal = .rejected reason) :
    t.executeSignal e md v signal = some t := by
  obtain ⟨bus, risk, cycle, riskFeeds⟩ := t
  subst hfeeds
  simp [Trader.executeSignal, Engine.executeSignal, h, Trader.drainRisk]

/-- **The execution path never trades.** On the market-data service of `main`, along any run of
signals with a leg each, the execution path wired as `main` wires it stays as it was: no order is
placed, no report published, and the risk manager is unchanged. -/
theorem Trader.executeSignals_unfed (t : Trader) (e : Engine) (cfg : Config) (v : Venue)
    (signals : List TradeSignal) (hfeeds : t.riskFeeds = [])
    (hlegs : ∀ signal ∈ signals, signal.legs ≠ []) :
    t.executeSignals e (mainMarketData cfg) v signals = some t := by
  induction signals with
  | nil => rfl
  | cons signal signals ih =>
    have hrej : ∃ reason, t.risk.validateSignal (mainMarketData cfg) t.cycle.clock signal =
        .rejected reason := by
      rw [mainMarketData, Manager.validateSignal_unfed _ _ _ _ _ (hlegs _ (List.mem_cons_self _ _))]
      split_ifs <;> exact ⟨_, rfl⟩
    obtain ⟨reason, hr⟩ := hrej
    simp only [Trader.executeSignals, List.foldlM_cons,
      t.executeSignal_rejected e _ v signal reason hfeeds hr, Option.some_bind] at ih ⊢
    exact ih fun s hs => hlegs s (List.mem_cons_of_mem _ hs)

/-- The triangular signal that `main_risk_misses_order_flow` runs on a fed service is rejected on
`main`'s own service, with the sample configuration, and the trader stays as `main` started it. -/
theorem Trader.executeSignals_unfed_mainTrader :
    mainTrader.riskFeeds = [] ∧ (∀ signal ∈ [triArbSignal], signal.legs ≠ []) ∧
      mainTrader.executeSignals configuredEngine
          (mainMarketData ((sampleFile "live").unmarshal loadDefaults)) restingVenue
          [triArbSignal] = some mainTrader :=
  have hlegs : ∀ signal ∈ [triArbSignal], signal.legs ≠ [] := by simp [triArbSignal]
  ⟨rfl, hlegs, Trader.executeSignals_unfed mainTrader configuredEngine _ restingVenue _ rfl hlegs⟩

/-- An event of the dry run whose placement, if any, reads its book from `md`. -/
def DryRunEvent.ReadsFrom (md : Service) : DryRunEvent → Prop
  | .gateway venue call => call.ReadsFrom md venue
  | .reconcileAll _ => True

/-- No gateway of the dry run holds an order. -/
def DryRun.NoOpenOrders (s : DryRun) : Prop := ∀ e ∈ s.gateways, e.2.openOrders = []

/-- An event reading from a service never fed keeps every gateway without open orders. -/
theorem DryRun.NoOpenOrders.step {s : DryRun} (hs : s.NoOpenOrders) (r : Reconciler)
    (thresholdText : String) (stale block : Nat) (ev : DryRunEvent)
    (hev : ev.ReadsFrom (Service.new stale block)) : (s.step r thresholdText ev).NoOpenOrders := by
  cases ev with
  | gateway venue call =>
    intro e he
    obtain ⟨e₀, he₀, rfl⟩ := List.mem_map.mp he
    split_ifs with hv
    · exact Gateway.step_unfed _ stale block venue call hev (hs e₀ he₀)
    · exact hs e₀ he₀
  | reconcileAll now => exact hs

/-- Along a run of events reading from a service never fed, no gateway gets an order. -/
theorem DryRun.NoOpenOrders.run {s : DryRun} (hs : s.NoOpenOrders) (r : Reconciler)
    (thresholdText : String) (stale block : Nat) (events : List DryRunEvent)
    (hreads : ∀ ev ∈ events, ev.ReadsFrom (Service.new stale block)) :
    (s.run r thresholdText events).NoOpenOrders := by
  induction events generalizing s with
  | nil => exact hs
  | cons ev events ih =>
    exact ih (hs.step r thresholdText stale block ev (hreads ev (List.mem_cons_self _ _)))
      fun ev' h' => hreads ev' (List.mem_cons_of_mem _ h')

/-- A dry run as `main` starts it holds no order. -/
theorem DryRun.start_noOpenOrders (venues : List String) (fillSim : DefaultFillSimulator)
    (initialCapital : Decimal) (latencyMs : ℤ) (channels : List String) :
    (DryRun.start venues fillSim initialCapital latencyMs channels).NoOpenOrders := by
  intro e he
  obtain ⟨v, -, rfl⟩ := List.mem_map.mp he
  rfl

/-- **A dry run never holds an order.** Along any run of the dry run `main` starts, in which every
placement reads its book from `main`'s market-data service, no simulated gateway holds an order
and `GetOpenOrders` lists none for any symbol; each gateway answers every placement that reads its
venue's book from that service, past the latency wait, with a rejected ack and the error
`no order book available for venue:symbol`, and stays as it is. -/
theorem DryRun.run_unfed_no_open_orders (cfg : Config) (r : Reconciler) (thresholdText : String)
    (events : List DryRunEvent) (hreads : ∀ ev ∈ events, ev.ReadsFrom (mainMarketData cfg)) :
    ∀ e ∈ ((dryRunOf cfg).run r thresholdText events).gateways,
      e.2.openOrders = [] ∧ (∀ symbol, e.2.getOpenOrders symbol = []) ∧
      ∀ (ctxErr : Option String) (draw : ℚ) (venueID : String) (now : ℕ) (req : OrderRequest),
        e.2.placeOrder ctxErr ((mainMarketData cfg).getOrderBook e.1 req.symbol) draw venueID now
            req =
          (match (if e.2.latencyMs > 0 then ctxErr else none) with
            | some err => ⟨none, some err⟩
            | none => ⟨some ⟨"", .rejected⟩,
                some ("no order book available for " ++ e.2.venueName ++ ":" ++ req.symbol)⟩,
            e.2) := by
  intro e he
  have ho := (DryRun.start_noOpenOrders _ _ _ _ _).run r thresholdText _ _ events hreads e he
  exact ⟨ho, fun symbol => by simp [Gateway.getOpenOrders, ho],
    fun ctxErr draw venueID now req => Gateway.placeOrder_unfed e.2 _ _ e.1 ctxErr draw venueID now req⟩

/-- The dry-run sample: a placement on kcex, which finds no book, then a reconciliation. -/
theorem DryRun.run_unfed_no_open_orders_sample :
    let cfg := (sampleFile "dry_run").unmarshal loadDefaults
    let req : OrderRequest := ⟨1, 7, "kcex", "BTC/USDT", .buy, .spot, .market, 0, 1/10, "7-leg-0"⟩
    let events : List DryRunEvent :=
      [.gateway "kcex" (.placeOrder none none 0 "v1" 0 req), .reconcileAll 1]
    (∀ ev ∈ events, ev.ReadsFrom (mainMarketData cfg)) ∧
      ∀ e ∈ ((dryRunOf cfg).run (mainReconcilerOf cfg) "0.5" events).gateways,
        e.2.openOrders = [] ∧ (∀ symbol, e.2.getOpenOrders symbol = []) ∧
        ∀ (ctxErr : Option String) (draw : ℚ) (venueID : String) (now : ℕ) (req : OrderRequest),
          e.2.placeOrder ctxErr ((mainMarketData cfg).getOrderBook e.1 req.symbol) draw venueID now
              req =
            (match (if e.2.latencyMs > 0 then ctxErr else none) with
              | some err => ⟨none, some err⟩
              | none => ⟨some ⟨"", .rejected⟩,
                  some ("no order book available for " ++ e.2.venueName ++ ":" ++ req.symbol)⟩,
              e.2) := by
  intro cfg req events
  have hreads : ∀ ev ∈ events, ev.ReadsFrom (mainMarketData cfg) := by
    simp [events, DryRunEvent.ReadsFrom, GatewayCall.ReadsFrom, mainMarketData]
  exact ⟨hreads, DryRun.run_unfed_no_open_orders cfg _ _ events hreads⟩

/-- The strategy engine `main` starts: when the triangular strategy is enabled, a triangular module
with the default paths for each venue, then, when the basis strategy is enabled, one basis module
for all the venues and BTC, ETH and SOL. -/
def mainStrategyEngine (strategies : StrategiesConfig) (costModel : Strategy.CostModelService)
    (venues : List String) : Strategy.Engine :=
  let e := if strategies.triangularArb.enabled then
      venues.foldl (fun e v => e.registerModule (.triArb (newTriArbModule v
        (defaultTriangularPaths v) costModel strategies.triangularArb.minEdgeBps)))
        Strategy.Engine.new
    else Strategy.Engine.new
  if strategies.basisArb.enabled then
    e.registerModule (.basisArb (newBasisArbModule venues ["BTC", "ETH", "SOL"] costModel
      strategies.basisArb.minNetEdgeBps strategies.basisArb.holdingHorizonHours))
  else e

/-- The modules of `main`'s strategy engine: a triangular module of one of the venues, or the basis
module. -/
theorem mem_mainStrategyEngine_modules {strategies : StrategiesConfig}
    {costModel : Strategy.CostModelService} {venues : List String} {m : Strategy.Module}
    (hm : m ∈ (mainStrategyEngine strategies costModel venues).modules) :
    (∃ v ∈ venues, m = .triArb (newTriArbModule v (defaultTriangularPaths v) costModel
        strategies.triangularArb.minEdgeBps)) ∨
      m = .basisArb (newBasisArbModule venues ["BTC", "ETH", "SOL"] costModel
        strategies.basisArb.minNetEdgeBps strategies.basisArb.holdingHorizonHours) := by
  have htri : ∀ m ∈ (venues.foldl (fun e v => e.registerModule (.triArb (newTriArbModule v
      (defaultTriangularPaths v) costModel strategies.triangularArb.minEdgeBps)))
        Strategy.Engine.new).modules, ∃ v ∈ venues, m = .triArb (newTriArbModule v
          (defaultTriangularPaths v) costModel strategies.triangularArb.minEdgeBps) := by
    simp [Strategy.Engine.foldl_registerModule, Strategy.Engine.new, eq_comm]
  dsimp only [mainStrategyEngine] at hm
  split_ifs at hm
  · simp only [Strategy.Engine.registerModule, List.mem_append, List.mem_singleton] at hm
    exact hm.imp (htri m) id
  · exact .inr (by simpa [Strategy.Engine.registerModule, Strategy.Engine.new] using hm)
  · exact .inl (htri m hm)
  · simp [Strategy.Engine.new] at hm

/-- **What `main`'s strategy engine publishes.** The engine hands every book and funding rate to
each registered module in turn, so each module ends any run as it would alone and the engine
publishes exactly the signals its modules would publish alone. Along any run of books with
positive levels and any funding rates, every signal of the strategy engine `main` starts is a
triangular signal for one of the venues, with a leg and a positive expected edge, or a basis
signal with an edge of at least `min_net_edge_bps` and two legs of positive price and size. -/
theorem mainStrategyEngine_run_signals (strategies : StrategiesConfig)
    (costModel : Strategy.CostModelService) (venues : List String) (events : List BasisEvent)
    (hpos : ∀ e ∈ events, e.LevelsPositive) :
    ((mainStrategyEngine strategies costModel venues).run events).1.modules =
        (mainStrategyEngine strategies costModel venues).modules.map (fun m => (m.run events).1) ∧
      (∀ s, s ∈ ((mainStrategyEngine strategies costModel venues).run events).2 ↔
        ∃ m ∈ (mainStrategyEngine strategies costModel venues).modules, s ∈ (m.run events).2) ∧
      ∀ s ∈ ((mainStrategyEngine strategies costModel venues).run events).2,
        (s.strategy = .triArb ∧ s.venue ∈ venues ∧ s.legs ≠ [] ∧ 0 < s.expectedEdgeBps) ∨
          (s.strategy = .basisArb ∧ BasisSignalOk strategies.basisArb.minNetEdgeBps s) := by
  refine ⟨Strategy.Engine.run_modules _ events, Strategy.Engine.mem_run_signals _ events,
    fun s hs => ?_⟩
  obtain ⟨m, hm, hs⟩ := (Strategy.Engine.mem_run_signals _ _ _).mp hs
  rcases mem_mainStrategyEngine_modules hm with ⟨v, hv, rfl⟩ | rfl
  · obtain ⟨hstrategy, hvenue, hlegs, hedge⟩ := Strategy.Module.run_triArb_signals _ events s hs
    exact .inl ⟨hstrategy, hvenue ▸ hv, hlegs, hedge⟩
  · rw [Strategy.Module.run_basisArb] at hs
    exact .inr ⟨BasisArbModule.run_strategy _ events s hs, BasisArbModule.run_signals_pos _ events
      (newBasisArbModule_booksPositive _ _ _ _ _) hpos s hs⟩

/-- Books on kcex that complete the first default cycle and price the BTC perpetual 1% above spot:
ETH/BTC offered at 1, ETH/USDT bid at 2, BTC/USDT bid at 0.99 and offered at 1.01, and the BTC
perpetual bid at 1 and offered at 1.02, one unit each. -/
def kcexSignalEvents : List BasisEvent :=
  [.book (kcexBook "ETH/BTC" [] [⟨1, 1⟩]), .book (kcexBook "ETH/USDT" [⟨2, 1⟩] []),
   .book (kcexBook "BTC/USDT" [⟨99 / 100, 1⟩] [⟨101 / 100, 1⟩]),
   .book (kcexBook "BTCUSDT" [⟨1, 1⟩] [⟨102 / 100, 1⟩])]

/-- The sample's strategies on kcex with the flat cost model, on those books, publish a triangular
signal on the BTC/USDT book, then a basis signal on the perpetual's. -/
theorem mainStrategyEngine_run_signals_kcex :
    let strategies := ((sampleFile "live").unmarshal loadDefaults).strategies
    let e := mainStrategyEngine strategies flatCostModel ["kcex"]
    (∀ ev ∈ kcexSignalEvents, ev.LevelsPositive) ∧
      (e.run kcexSignalEvents).2.map TradeSignal.strategy = [.triArb, .basisArb] ∧
      (e.run kcexSignalEvents).1.modules = e.modules.map (fun m => (m.run kcexSignalEvents).1) ∧
      (∀ s, s ∈ (e.run kcexSignalEvents).2 ↔ ∃ m ∈ e.modules, s ∈ (m.run kcexSignalEvents).2) ∧
      ∀ s ∈ (e.run kcexSignalEvents).2,
        (s.strategy = .triArb ∧ s.venue ∈ ["kcex"] ∧ s.legs ≠ [] ∧ 0 < s.expectedEdgeBps) ∨
          (s.strategy = .basisArb ∧ BasisSignalOk strategies.basisArb.minNetEdgeBps s) := by
  intro strategies e
  have hpos : ∀ ev ∈ kcexSignalEvents, ev.LevelsPositive := by
    simp [kcexSignalEvents, BasisEvent.LevelsPositive, LevelsPositive, kcexBook]
  have hsignals : (e.run kcexSignalEvents).2.map TradeSignal.strategy = [.triArb, .basisArb] := by
    have hs : strategies = ⟨⟨true, 18, 10, 3, 2, 5000, 2⟩, ⟨true, 25, 10, 3, 5, 2, 30000, 8⟩⟩ := rfl
    have h101 : toFixed (101 / 100) = 1010000000 := by
      rw [toFixed_of_representable (by norm_num [FixedRepresentable])]; norm_num
    have hrate : FixedPrice.mul (FixedPrice.div (FixedPrice.div 1000000000 1010000000) 1000000000)
        2000000000 = 1980198018 := by decide
    have hsub : FixedPrice.sub 1980198018 1000000000 = 980198018 := by decide
    have hbps : fixedFromBps 18 = 1800000 := by decide
    have h1 : decDiv (99 / 100 + 101 / 100) 2 = 1 := by
      rw [decDiv_of_int _ _ (by norm_num) (10 ^ 16) (by norm_num)]; norm_num
    have h2 : decDiv (1 + 102 / 100) 2 = 101 / 100 := by
      rw [decDiv_of_int _ _ (by norm_num) (101 * 10 ^ 14) (by norm_num)]; norm_num
    have h3 : decDiv (101 / 100 - 1) 1 = 1 / 100 := by
      rw [decDiv_of_int _ _ (by norm_num) (10 ^ 14) (by norm_num)]; norm_num
    have h4 : decDiv 8 24 ≠ 0 := by
      have := abs_decDiv_sub_div_le 8 24 (by norm_num)
      rw [abs_le] at this
      intro h; rw [h] at this; linarith
    simp only [e, hs]
    simp [mainStrategyEngine, kcexSignalEvents, Strategy.Engine.run, Strategy.Engine.step,
      Strategy.Engine.registerModule, Strategy.Engine.new, Strategy.Module.step,
      TriArbModule.onOrderBookUpdate, newTriArbModule, TriArbModule.evaluate,
      defaultTriangularPaths, TriArbModule.evaluatePath, Strategy.pathInvolves,
      TriArbModule.pathBooks, Function.update_apply, List.mapM_cons, List.mapM.loop,
      Strategy.computeEdge, Strategy.impliedRate, Strategy.legLevel, OrderBookSnapshot.bestAsk,
      OrderBookSnapshot.bestBid, TriArbModule.buildSignal, Strategy.toFixed_one,
      Strategy.toFixed_two, h101, hrate, hsub, hbps, flatCostModel, FixedPrice.toDecimal, kcexBook,
      newBasisArbModule, BasisArbModule.step, BasisArbModule.onOrderBookUpdate,
      BasisArbModule.storeBook, BasisArbModule.evaluate, BasisArbModule.evaluateAsset,
      BasisArbModule.assetSignal, BasisArbModule.estimateFundingCapture, Strategy.spotSymbol,
      Strategy.perpSymbol, Strategy.bookKey, OrderBookSnapshot.midPrice, h1, h2, h3, h4]
    norm_num [abs_of_pos]
  exact ⟨hpos, hsignals,
    mainStrategyEngine_run_signals strategies flatCostModel ["kcex"] kcexSignalEvents hpos⟩

end ArbitrageEngine.Pipeline
