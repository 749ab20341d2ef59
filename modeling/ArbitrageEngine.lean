import ArbitrageEngine.Domain.Types
import ArbitrageEngine.Domain.FixedPoint
import ArbitrageEngine.Encoding.Json
import ArbitrageEngine.Encoding.Calendar
import ArbitrageEngine.Encoding.Timestamp
import ArbitrageEngine.Encoding.RoundTrip
import ArbitrageEngine.MarketData.Service
import ArbitrageEngine.MarketData.TradeRing
import ArbitrageEngine.EventBus.Bus
import ArbitrageEngine.Risk.KillSwitch
import ArbitrageEngine.Risk.Persistence
import ArbitrageEngine.Risk.PnLTracker
import ArbitrageEngine.Risk.Manager
import ArbitrageEngine.Risk.Modes
import ArbitrageEngine.Portfolio.Manager
import ArbitrageEngine.CostModel.Slippage
import ArbitrageEngine.Gateway.FillSim
import ArbitrageEngine.Gateway.Kcex
import ArbitrageEngine.Gateway.RateLimit
import ArbitrageEngine.Gateway.Simulated
import ArbitrageEngine.Strategy.TriArb
import ArbitrageEngine.Strategy.BasisArb
import ArbitrageEngine.Strategy.Engine
import ArbitrageEngine.CostModel.Service
import ArbitrageEngine.Persistence.Writer
import ArbitrageEngine.Order.Manager
import ArbitrageEngine.Order.Lifecycle
import ArbitrageEngine.Order.Concurrent
import ArbitrageEngine.Execution.Engine
import ArbitrageEngine.Pipeline.OrderFlow
import ArbitrageEngine.Pipeline.Wiring
import ArbitrageEngine.Execution.Quality
import ArbitrageEngine.Monitor.Alerts
import ArbitrageEngine.Pipeline.DryRun
import ArbitrageEngine.Config.Load
import ArbitrageEngine.Pipeline.Startup
import ArbitrageEngine.Pipeline.MarketFeed
