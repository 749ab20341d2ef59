import ArbitrageEngine.Execution.Engine

/-!
# Order flow into the risk manager

The risk manager's open-order counters are meant to follow the order manager: `onOrderStateChanges`
feeds it the changes the order manager published, in publication order, and `openCount` is what
the counters should then read, the orders held whose status is neither `PENDING_NEW` nor terminal.

The counters count up only on a change out of `PENDING_NEW` to a non-terminal status, and count
down on every change to a terminal status. A submission to a venue without a gateway goes from
`PENDING_NEW` straight to `SUBMIT_FAILED`: it was never counted up, and it counts down another
order (`unknown_venue_failure_uncounts_open_order`).

The gate compares the counters as they are with the caps and reserves nothing for the signal it
approves, so a signal approved under a cap of one open order puts three orders on the book
(`approved_signal_exceeds_order_cap`).
-/

set_option autoImplicit false

namespace ArbitrageEngine

/-- A status the risk counters should count: submitted and not yet terminal. -/
def OrderStatus.isCounted (s : OrderStatus) : Bool := s != .pendingNew && !s.isTerminal

end ArbitrageEngine

namespace ArbitrageEngine.Orders

/-- The number of orders held whose status is counted. -/
def Manager.openCount (m : Manager) : Nat :=
  (m.orders.entries.filter fun e => (m.heap e.2).status.isCounted).length

end ArbitrageEngine.Orders

namespace ArbitrageEngine.Risk

/-- The risk manager fed a sequence of published changes, in order. -/
def Manager.onOrderStateChanges (m : Manager) (changes : List OrderStateChange) : Manager :=
  changes.foldl Manager.onOrderStateChange m

end ArbitrageEngine.Risk

namespace ArbitrageEngine.Pipeline

open ArbitrageEngine.Orders ArbitrageEngine.Risk ArbitrageEngine.MarketData
open ArbitrageEngine.Execution

/-- A limit buy on nobitex, which has a gateway. -/
def knownVenueRequest : OrderRequest :=
  ⟨1, 7, "nobitex", "BTC/USDT", .buy, .spot, .limit, 50000, 1/10, "7-leg-0"⟩

/-- A limit sell on binance, which has none. -/
def unknownVenueRequest : OrderRequest :=
  ⟨2, 8, "binance", "ETH/USDT", .sell, .spot, .limit, 3050, 1, "8-leg-0"⟩

/-- The order manager after the first request is acknowledged and the second fails for want of a
gateway. -/
def mixedVenueOrders : Orders.Manager :=
  (((Orders.Manager.new ["nobitex"]).submitOrder knownVenueRequest 0
    (.ack ⟨"v-1", .acknowledged⟩)).1.submitOrder unknownVenueRequest 1 .failed).1

/-- Fed the five published changes, the risk manager's global counter reads `0` while one
acknowledged order is open. -/
theorem unknown_venue_failure_uncounts_open_order :
    ((newManager sampleRiskConfig "data/killswitch.json" none 0).onOrderStateChanges
        mixedVenueOrders.published).state.openOrderCounts.global = 0 ∧
      mixedVenueOrders.openCount = 1 := by decide

/-- The feed after one snapshot of each of the triangle's books at clock `0`. -/
def triArbFeeds : Service :=
  (Service.new 500000000 2000000000).run
    (triArbSignal.legs.map fun leg => .updateOrderBook ⟨"nobitex", leg.symbol, [], [], 1, 0, 0⟩ 0)

/-- A fresh risk manager with the sample position, notional and loss caps and room in each
open-order counter approves the triangular signal on the fresh feed. -/
theorem newManager_approves_triArbSignal (cfg : RiskConfig) (path : String)
    (hpos : cfg.maxPosition = sampleRiskConfig.maxPosition)
    (hnot : cfg.maxNotionalPerVenue = sampleRiskConfig.maxNotionalPerVenue)
    (hcap : cfg.dailyLossCapUSDT = 12500) (hg : 0 < cfg.maxOpenOrders.global)
    (hv : 0 < cfg.maxOpenOrders.perVenue) (hs : 0 < cfg.maxOpenOrders.perSymbol) :
    (newManager cfg path none 0).validateSignal triArbFeeds 0 triArbSignal = .approved := by
  have hfeed : triArbFeeds.isDataBlocked "nobitex" "BTC/USDT" 0 = false ∧
      triArbFeeds.isDataBlocked "nobitex" "ETH/BTC" 0 = false ∧
      triArbFeeds.isDataBlocked "nobitex" "ETH/USDT" 0 = false := by decide
  have hasset : extractAsset "BTC/USDT" = "BTC" ∧ extractAsset "ETH/BTC" = "ETH" ∧
      extractAsset "ETH/USDT" = "ETH" := by decide
  simp [Risk.Manager.validateSignal, newManager, newKillSwitch, KillSwitch.loadState,
    Risk.Manager.positionExceeded, Risk.Manager.notionalExceeded, sampleRiskConfig,
    Risk.Manager.currentPos, PnLTracker.totalDailyPnL, PnLTracker.new, additionalNotional,
    triArbSignal, hfeed, hasset, hpos, hnot, hcap, not_le.mpr hg, not_le.mpr hv, not_le.mpr hs]
  norm_num

/-- The sample configuration with room for one open order. -/
def oneOrderConfig : RiskConfig := { sampleRiskConfig with maxOpenOrders := ⟨1, 70, 20⟩ }

/-- A risk manager built from `oneOrderConfig` with no kill-switch file. -/
def oneOrderRisk : Risk.Manager := newManager oneOrderConfig "data/killswitch.json" none 0

/-- The triangular signal is approved with no order open under a cap of one, and its cycle leaves
three orders open, which the risk manager, fed the cycle's changes, counts as three. -/
theorem approved_signal_exceeds_order_cap :
    oneOrderRisk.validateSignal triArbFeeds 0 triArbSignal = .approved ∧
      oneOrderConfig.maxOpenOrders.global = 1 ∧
      (configuredEngine.executeSignal oneOrderRisk triArbFeeds restingVenue triArbSignal
          (Cycle.start ["nobitex"])).map
        (fun c => ((oneOrderRisk.onOrderStateChanges c.orders.published).state.openOrderCounts.global,
          c.orders.openCount)) = some (3, 3) := by
  have happ : oneOrderRisk.validateSignal triArbFeeds 0 triArbSignal = .approved :=
    newManager_approves_triArbSignal _ _ rfl rfl rfl (by decide) (by decide) (by decide)
  refine ⟨happ, rfl, ?_⟩
  rw [Engine.executeSignal, show (Cycle.start ["nobitex"]).clock = 0 from rfl, happ]
  decide

end ArbitrageEngine.Pipeline
