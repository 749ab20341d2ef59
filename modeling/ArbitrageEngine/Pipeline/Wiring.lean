import ArbitrageEngine.EventBus.Bus
import ArbitrageEngine.Pipeline.OrderFlow

/-!
# The execution path as `main` wires it

`main` builds one bus, one risk manager, one order manager and the engines, and starts the
subscribers: the strategy engine reads order books and funding rates, the execution engine reads
signals. The order manager publishes every `OrderStateChange` on the bus, and the execution
engine publishes its reports. The risk manager reads the bus only through the order-state channels
listed in `riskFeeds`, draining each into `OnOrderStateChange`; `main` subscribes none for it, and
no other code calls `OnOrderStateChange` or `OnOrderFill`.

`main_risk_misses_order_flow` runs one approved signal through `main`'s wiring: its orders stay
open while the risk manager's counters read zero.
-/

set_option autoImplicit false

namespace ArbitrageEngine.Pipeline

open ArbitrageEngine.Bus ArbitrageEngine.Orders ArbitrageEngine.Risk ArbitrageEngine.MarketData
open ArbitrageEngine.Execution

/-- The parts of the execution path: the bus, the risk manager, the execution engine's state with
the order manager, and the indices of the order-state channels the risk manager drains. -/
structure Trader where
  bus : EventBus
  risk : Risk.Manager
  cycle : Cycle
  riskFeeds : List Nat

/-- `main`'s bus: buffers of 1024; the strategy engine subscribes to order books and funding rates,
the execution engine to signals. -/
def mainBus : EventBus :=
  (((EventBus.new 1024).subscribeOrderBook).1.subscribeFundingRate.1.subscribeSignal).1

/-- The execution path as `main` starts it, with no order-state channel for the risk manager. -/
def Trader.main (risk : Risk.Manager) (gateways : List String) : Trader :=
  ⟨mainBus, risk, Cycle.start gateways, []⟩

/-- The risk manager takes the changes queued on the channels it reads, in order. -/
def Trader.drainRisk (t : Trader) : Trader :=
  t.riskFeeds.foldl (fun t i =>
    match t.bus.orderStateSubs.get? i with
    | some ch =>
      { t with risk := t.risk.onOrderStateChanges ch.buffer,
               bus := { t.bus with
                 orderStateSubs := t.bus.orderStateSubs.set i { ch with buffer := [] } } }
    | none => t) t

/-- One signal through the path: the engine's cycle, the new order-state changes and reports
published on the bus, then the risk manager's share of them. `none` is a panic. -/
def Trader.executeSignal (t : Trader) (e : Engine) (md : Service) (v : Venue)
    (signal : TradeSignal) : Option Trader := do
  let c ← e.executeSignal t.risk md v signal t.cycle
  let bus ← (c.orders.published.drop t.cycle.orders.published.length).foldlM
    EventBus.publishOrderState t.bus
  let bus ← (c.reports.drop t.cycle.reports.length).foldlM EventBus.publishExecutionReport bus
  pure ({ t with bus := bus, cycle := c }).drainRisk

/-- The trader as `main` starts it on nobitex with the sample risk configuration. -/
def mainTrader : Trader :=
  Trader.main (newManager sampleRiskConfig "data/killswitch.json" none 0) ["nobitex"]

/-- In `main`'s wiring nothing subscribes to order states. The approved triangular signal leaves
three open orders after nine published changes, and the risk manager's global counter reads `0`. -/
theorem main_risk_misses_order_flow :
    mainBus.orderStateSubs = [] ∧
      (mainTrader.executeSignal configuredEngine triArbFeeds restingVenue triArbSignal).map
        (fun t => (t.risk.state.openOrderCounts.global, t.cycle.orders.openCount,
          t.cycle.orders.published.length)) = some (0, 3, 9) := by
  have happ := newManager_approves_triArbSignal sampleRiskConfig "data/killswitch.json" rfl rfl
    rfl (by decide) (by decide) (by decide)
  refine ⟨rfl, ?_⟩
  rw [Trader.executeSignal, Engine.executeSignal, show mainTrader.cycle.clock = 0 from rfl,
    show mainTrader.risk = newManager sampleRiskConfig "data/killswitch.json" none 0 from rfl, happ]
  decide

end ArbitrageEngine.Pipeline
