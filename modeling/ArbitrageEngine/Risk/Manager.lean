import ArbitrageEngine.MarketData.Service
import ArbitrageEngine.Risk.KillSwitch
import ArbitrageEngine.Risk.PnLTracker

/-!
# Risk manager

`risk.Manager`: the risk state (mode, positions, open-order counters, venue notionals), the PnL
tracker, the kill switch and the configuration. `validateSignal` is the gate of the execution
path; `onOrderFill`, `onOrderStateChange`, `updatePosition` and the periodic `checkPnLLimits`
write the state; `activateKillSwitch` and `deactivateKillSwitch` are the operator's controls.

The gate reads the market-data service it was built with, passed here with the clock reading.
Every check reads the state as it is when the signal arrives: the position check adds each leg's
size on its own and the notional check the whole signal's notional, but the order counters are
compared with their caps as they are, before the signal's own orders.

The callback registered by `SetKillSwitchCallback` runs in its own goroutine; the model records
whether one is registered and counts the goroutines `checkPnLLimits` starts for it.
-/

set_option autoImplicit false

namespace ArbitrageEngine.Risk

open ArbitrageEngine.MarketData

/-! ## Configuration and state -/

/-- `config.MaxOpenOrdersConfig`. -/
structure MaxOpenOrdersConfig where
  global : ℤ
  perVenue : ℤ
  perSymbol : ℤ

/-- `config.RiskConfig`, with the fields the risk manager reads. -/
structure RiskConfig where
  maxPosition : String → Option Decimal
  maxNotionalPerVenue : String → Option Decimal
  dailyLossCapUSDT : Decimal
  warningThresholdPct : ℤ
  maxOpenOrders : MaxOpenOrdersConfig

/-- The risk section of the sample configuration. -/
def sampleRiskConfig : RiskConfig where
  maxPosition a := if a = "BTC" then some (3/2) else if a = "ETH" then some 25
    else if a = "SOL" then some 800 else none
  maxNotionalPerVenue v := if v = "nobitex" then some 250000
    else if v = "kcex" then some 200000 else none
  dailyLossCapUSDT := 12500
  warningThresholdPct := 80
  maxOpenOrders := ⟨120, 70, 20⟩

/-- `domain.OrderCountState`; a missing map entry reads as `0`. -/
structure OrderCountState where
  global : ℤ
  perVenue : String → ℤ
  perSymbol : String → ℤ

/-- `domain.RiskState`, with the fields the risk manager reads and writes. -/
structure RiskState where
  mode : RiskMode
  positions : VenueAssetKey → Option Position
  openOrderCounts : OrderCountState
  venueNotionals : String → Decimal

/-- `risk.Manager`. `onKillSwitchCalls` counts the goroutines started for the callback. -/
structure Manager where
  state : RiskState
  pnlTracker : PnLTracker
  killSwitch : KillSwitch
  cfg : RiskConfig
  onKillSwitch : Bool
  onKillSwitchCalls : Nat

/-- `NewManager`: mode `NORMAL`, empty maps, a fresh tracker, and the kill switch restored from
its file. -/
def newManager (cfg : RiskConfig) (killSwitchPath : String) (file : Option (List Char))
    (now : Nat) : Manager where
  state := ⟨.normal, fun _ => none, ⟨0, fun _ => 0, fun _ => 0⟩, fun _ => 0⟩
  pnlTracker := PnLTracker.new now
  killSwitch := newKillSwitch killSwitchPath file
  cfg := cfg
  onKillSwitch := false
  onKillSwitchCalls := 0

/-- `SetKillSwitchCallback`. -/
def Manager.setKillSwitchCallback (m : Manager) : Manager := { m with onKillSwitch := true }

/-! ## The gate -/

/-- `risk.RejectionReason`. -/
inductive RejectionReason where
  | positionLimitExceeded
  | notionalLimitExceeded
  | dailyLossCap
  | globalOrderLimit
  | venueOrderLimit
  | symbolOrderLimit
  | dataStale
  | killSwitchActive
  | systemHalted
  deriving DecidableEq, Repr

/-- `risk.ValidationResult`, without its free-text details. -/
inductive ValidationResult where
  | approved
  | rejected (reason : RejectionReason)
  deriving DecidableEq, Repr

/-- The absolute size of the position a leg's asset holds at the venue, `0` when none. -/
def Manager.currentPos (m : Manager) (venue : String) (leg : LegSpec) : Decimal :=
  match m.state.positions ⟨venue, extractAsset leg.symbol⟩ with
  | some pos => |pos.size|
  | none => 0

/-- The position check of one leg: the asset has a cap and the current size plus the leg's
exceeds it. -/
def Manager.positionExceeded (m : Manager) (venue : String) (leg : LegSpec) : Bool :=
  match m.cfg.maxPosition (extractAsset leg.symbol) with
  | some maxPos => decide (m.currentPos venue leg + leg.size > maxPos)
  | none => false

/-- The signal's notional, summed leg by leg. -/
def additionalNotional (legs : List LegSpec) : Decimal :=
  legs.foldl (fun acc leg => acc + leg.price * leg.size) 0

/-- The notional check: the venue has a cap and its notional plus the signal's exceeds it. -/
def Manager.notionalExceeded (m : Manager) (signal : TradeSignal) : Bool :=
  match m.cfg.maxNotionalPerVenue signal.venue with
  | some maxNotional =>
    decide (m.state.venueNotionals signal.venue + additionalNotional signal.legs > maxNotional)
  | none => false

/-- `ValidateSignal`: the checks in the source's order, the first failure giving the reason. -/
def Manager.validateSignal (m : Manager) (md : Service) (now : Nat) (signal : TradeSignal) :
    ValidationResult :=
  if m.killSwitch.active then .rejected .killSwitchActive
  else if m.state.mode = .halted then .rejected .systemHalted
  else if signal.legs.any (fun leg => md.isDataBlocked signal.venue leg.symbol now) then
    .rejected .dataStale
  else if signal.legs.any (m.positionExceeded signal.venue) then .rejected .positionLimitExceeded
  else if m.notionalExceeded signal then .rejected .notionalLimitExceeded
  else if m.pnlTracker.totalDailyPnL ≤ -m.cfg.dailyLossCapUSDT then .rejected .dailyLossCap
  else if m.state.openOrderCounts.global ≥ m.cfg.maxOpenOrders.global then
    .rejected .globalOrderLimit
  else if m.state.openOrderCounts.perVenue signal.venue ≥ m.cfg.maxOpenOrders.perVenue then
    .rejected .venueOrderLimit
  else if signal.legs.any (fun leg =>
      decide (m.state.openOrderCounts.perSymbol leg.symbol ≥ m.cfg.maxOpenOrders.perSymbol)) then
    .rejected .symbolOrderLimit
  else .approved

/-! ## Writers -/

/-- The message `checkPnLLimits` gives the kill switch. -/
def breachReason (totalPnL : Decimal) : String := "daily PnL breach: " ++ decimalString totalPnL

/-- `checkPnLLimits`: at or below `-cap`, halt, activate the kill switch and start the callback;
at or below the warning level, move `NORMAL` to `WARNING`. -/
def Manager.checkPnLLimits (m : Manager) (now : Nat) : Manager :=
  let totalPnL := m.pnlTracker.totalDailyPnL
  let lossCap := -m.cfg.dailyLossCapUSDT
  let warningLevel := decDiv (lossCap * m.cfg.warningThresholdPct) 100
  if totalPnL ≤ lossCap then
    { m with state := { m.state with mode := .halted },
             killSwitch := m.killSwitch.activate (breachReason totalPnL) now,
             onKillSwitchCalls := if m.onKillSwitch then m.onKillSwitchCalls + 1
                                  else m.onKillSwitchCalls }
  else if totalPnL ≤ warningLevel then
    if m.state.mode = .normal then { m with state := { m.state with mode := .warning } } else m
  else m

/-- `RunPeriodicCheck`: one `checkPnLLimits` per tick of its ticker, at the tick's clock reading. -/
def Manager.runPeriodicCheck (m : Manager) (ticks : List Nat) : Manager :=
  ticks.foldl Manager.checkPnLLimits m

@[simp] theorem Manager.checkPnLLimits_pnlTracker (m : Manager) (now : Nat) :
    (m.checkPnLLimits now).pnlTracker = m.pnlTracker := by
  unfold Manager.checkPnLLimits; dsimp only; split_ifs <;> rfl

@[simp] theorem Manager.checkPnLLimits_cfg (m : Manager) (now : Nat) :
    (m.checkPnLLimits now).cfg = m.cfg := by
  unfold Manager.checkPnLLimits; dsimp only; split_ifs <;> rfl

@[simp] theorem Manager.checkPnLLimits_onKillSwitch (m : Manager) (now : Nat) :
    (m.checkPnLLimits now).onKillSwitch = m.onKillSwitch := by
  unfold Manager.checkPnLLimits; dsimp only; split_ifs <;> rfl

/-- At or beyond the cap, `checkPnLLimits` halts, activates the kill switch with the breach reason
at `now` and starts the callback, whatever the mode and the switch were before. -/
theorem Manager.checkPnLLimits_of_breach (m : Manager) (now : Nat)
    (h : m.pnlTracker.totalDailyPnL ≤ -m.cfg.dailyLossCapUSDT) :
    m.checkPnLLimits now = { m with
      state := { m.state with mode := RiskMode.halted },
      killSwitch := m.killSwitch.activate (breachReason m.pnlTracker.totalDailyPnL) now,
      onKillSwitchCalls := m.onKillSwitchCalls + (if m.onKillSwitch then 1 else 0) } := by
  simp only [Manager.checkPnLLimits, if_pos h]
  split <;> simp_all

/-- **Every tick re-activates.** While the loss stays at or beyond the cap, each periodic check
overwrites the kill switch's reason and activation time with its own and starts the callback once
more: after the ticks `ticks ++ [t]` the reason is the breach reason, the activation time is `t`,
and the callback has been started once per tick. -/
theorem Manager.runPeriodicCheck_of_breach (m : Manager) (ticks : List Nat) (t : Nat)
    (h : m.pnlTracker.totalDailyPnL ≤ -m.cfg.dailyLossCapUSDT) :
    (m.runPeriodicCheck (ticks ++ [t])).state.mode = .halted ∧
      (m.runPeriodicCheck (ticks ++ [t])).killSwitch.active = true ∧
      (m.runPeriodicCheck (ticks ++ [t])).killSwitch.reason =
        breachReason m.pnlTracker.totalDailyPnL ∧
      (m.runPeriodicCheck (ticks ++ [t])).killSwitch.activatedAt = t ∧
      (m.runPeriodicCheck (ticks ++ [t])).onKillSwitchCalls =
        m.onKillSwitchCalls + (if m.onKillSwitch then ticks.length + 1 else 0) := by
  induction ticks generalizing m with
  | nil => simp [Manager.runPeriodicCheck, m.checkPnLLimits_of_breach t h]
  | cons t0 rest ih =>
    have h1 : (m.checkPnLLimits t0).pnlTracker.totalDailyPnL ≤
        -(m.checkPnLLimits t0).cfg.dailyLossCapUSDT := by simpa using h
    obtain ⟨hmode, hact, hreason, hat, hcalls⟩ := ih (m.checkPnLLimits t0) h1
    simp only [Manager.runPeriodicCheck, List.cons_append, List.foldl_cons] at *
    refine ⟨hmode, hact, by simpa using hreason, hat, ?_⟩
    rw [hcalls, m.checkPnLLimits_of_breach t0 h]
    cases m.onKillSwitch <;> simp +arith

/-- The position after a fill: the filled size added for a buy and subtracted for a sell; a new
spot position at the fill price when the key has none. -/
def fillPosition (order : Order) (asset : String) (now : Nat) : Option Position → Position
  | some pos =>
    { pos with size := if order.side = .buy then pos.size + order.filledSize
                       else pos.size - order.filledSize,
               updatedAt := now }
  | none =>
    ⟨order.venue, asset, .spot, if order.side = .sell then -order.filledSize else order.filledSize,
      order.avgFillPrice, 0, 0, now⟩

/-- `OnOrderFill`: realized PnL, the position of the order's asset, the venue notional, then
`checkPnLLimits`. -/
def Manager.onOrderFill (m : Manager) (order : Order) (pnl : Decimal) (now : Nat) : Manager :=
  let key : VenueAssetKey := ⟨order.venue, extractAsset order.symbol⟩
  let m := { m with
    pnlTracker := m.pnlTracker.addRealizedPnL pnl now,
    state := { m.state with
      positions := Function.update m.state.positions key
        (some (fillPosition order key.asset now (m.state.positions key))),
      venueNotionals := Function.update m.state.venueNotionals order.venue
        (m.state.venueNotionals order.venue + order.avgFillPrice * order.filledSize) } }
  m.checkPnLLimits now

@[simp] theorem Manager.onOrderFill_pnlTracker (m : Manager) (order : Order) (pnl : Decimal)
    (now : Nat) : (m.onOrderFill order pnl now).pnlTracker = m.pnlTracker.addRealizedPnL pnl now := by
  simp [Manager.onOrderFill]

@[simp] theorem Manager.onOrderFill_cfg (m : Manager) (order : Order) (pnl : Decimal) (now : Nat) :
    (m.onOrderFill order pnl now).cfg = m.cfg := by
  simp [Manager.onOrderFill]

@[simp] theorem Manager.onOrderFill_onKillSwitch (m : Manager) (order : Order) (pnl : Decimal)
    (now : Nat) : (m.onOrderFill order pnl now).onKillSwitch = m.onKillSwitch := by
  simp [Manager.onOrderFill]

/-- The counters with `d` added for one venue and one symbol, each clamped at `0` from below
when `clamp` is set. -/
def OrderCountState.bump (c : OrderCountState) (venue symbol : String) (d : ℤ) (clamp : Bool) :
    OrderCountState :=
  let fix (n : ℤ) : ℤ := if clamp ∧ n < 0 then 0 else n
  ⟨fix (c.global + d),
    Function.update c.perVenue venue (fix (c.perVenue venue + d)),
    Function.update c.perSymbol symbol (fix (c.perSymbol symbol + d))⟩

/-- `OnOrderStateChange`: count up on a change from `PENDING_NEW` to a non-terminal status, count
down, clamped at `0`, on a change to a terminal status. -/
def Manager.onOrderStateChange (m : Manager) (change : OrderStateChange) : Manager :=
  let order := change.order
  let isNew := !change.prevStatus.isTerminal && !change.newStatus.isTerminal
  let c := m.state.openOrderCounts
  let c := if isNew ∧ change.prevStatus = .pendingNew then c.bump order.venue order.symbol 1 false
    else c
  let c := if change.newStatus.isTerminal then c.bump order.venue order.symbol (-1) true else c
  { m with state := { m.state with openOrderCounts := c } }

/-- `ActivateKillSwitch`. -/
def Manager.activateKillSwitch (m : Manager) (reason : String) (now : Nat) : Manager :=
  { m with state := { m.state with mode := .halted },
           killSwitch := m.killSwitch.activate reason now }

/-- `DeactivateKillSwitch`. -/
def Manager.deactivateKillSwitch (m : Manager) : Manager :=
  { m with state := { m.state with mode := .normal }, killSwitch := m.killSwitch.deactivate }

/-- `UpdatePosition`. -/
def Manager.updatePosition (m : Manager) (key : VenueAssetKey) (pos : Position) : Manager :=
  { m with state := { m.state with positions := Function.update m.state.positions key (some pos) } }

/-! ## Days and halts at fixed inputs -/

/-- A breach reason starts with `d`, so it is never the operator's reason `manual halt`. -/
theorem breachReason_ne_manualHalt (totalPnL : Decimal) : breachReason totalPnL ≠ "manual halt" := by
  intro h
  have hd : (breachReason totalPnL).data.head? = some 'd' := rfl
  rw [h] at hd
  exact absurd hd (by decide)

/-- The fill of a BTC/USDT sell on nobitex. -/
def lossFill : Order :=
  ⟨1, "v-1", 7, "nobitex", "BTC/USDT", .sell, .limit, 50000, 1, 1, 50000, .filled, 0, 0⟩

/-- Day 0: a fill realizing `-13000` at 0.5 s halts the manager; the operator resumes it the same
day. -/
def resumedManager : Manager :=
  ((newManager sampleRiskConfig "data/killswitch.json" none 0).onOrderFill lossFill (-13000)
    500000000).deactivateKillSwitch

/-- The first check of day 1, before any write of that day, reads day 0's loss and halts again. -/
theorem previous_day_loss_halts_next_day :
    resumedManager.state.mode = .normal ∧ resumedManager.killSwitch.active = false ∧
      utcDay nanosPerDay = utcDay 500000000 + 1 ∧
      resumedManager.pnlTracker.totalDailyPnL = -13000 ∧
      (resumedManager.checkPnLLimits nanosPerDay).state.mode = .halted ∧
      (resumedManager.checkPnLLimits nanosPerDay).killSwitch.active = true ∧
      (resumedManager.checkPnLLimits nanosPerDay).killSwitch.reason = breachReason (-13000) := by
  have hpnl : resumedManager.pnlTracker.totalDailyPnL = -13000 := by
    simp [resumedManager, Manager.deactivateKillSwitch, newManager, PnLTracker.new,
      PnLTracker.addRealizedPnL, PnLTracker.checkDailyReset, PnLTracker.totalDailyPnL, utcDay,
      nanosPerDay]
  have hcap : resumedManager.cfg.dailyLossCapUSDT = 12500 := by
    simp [resumedManager, Manager.deactivateKillSwitch, newManager, sampleRiskConfig]
  have hbreach := resumedManager.checkPnLLimits_of_breach nanosPerDay
    (by rw [hpnl, hcap]; norm_num)
  refine ⟨rfl, rfl, rfl, hpnl, ?_⟩
  simp only [hbreach, KillSwitch.activate_active, KillSwitch.activate_reason, hpnl, true_and]

/-- The sample configuration with the callback registered: a fill realizing `-12600` at 0.5 s
halts it, and the operator then activates the switch with the reason "manual halt" at 0.6 s. -/
def manuallyHaltedManager : Manager :=
  ((newManager sampleRiskConfig "data/killswitch.json" none 0).setKillSwitchCallback.onOrderFill
    lossFill (-12600) 500000000).activateKillSwitch "manual halt" 600000000

/-- Three periodic ticks on the halted manager overwrite the operator's reason and activation time
and start the callback three more times. -/
theorem periodic_checks_overwrite_manual_halt :
    manuallyHaltedManager.state.mode = .halted ∧ manuallyHaltedManager.killSwitch.active = true ∧
      manuallyHaltedManager.killSwitch.reason = "manual halt" ∧
      manuallyHaltedManager.onKillSwitchCalls = 1 ∧
      (manuallyHaltedManager.runPeriodicCheck [1000000000, 2000000000, 3000000000]).killSwitch.reason =
        breachReason (-12600) ∧ breachReason (-12600) ≠ "manual halt" ∧
      (manuallyHaltedManager.runPeriodicCheck
        [1000000000, 2000000000, 3000000000]).killSwitch.activatedAt = 3000000000 ∧
      (manuallyHaltedManager.runPeriodicCheck
        [1000000000, 2000000000, 3000000000]).onKillSwitchCalls = 4 := by
  have hpnl : manuallyHaltedManager.pnlTracker.totalDailyPnL = -12600 := by
    simp [manuallyHaltedManager, Manager.activateKillSwitch, Manager.setKillSwitchCallback,
      newManager, PnLTracker.new, PnLTracker.addRealizedPnL, PnLTracker.checkDailyReset,
      PnLTracker.totalDailyPnL, utcDay, nanosPerDay]
  have hcap : manuallyHaltedManager.cfg.dailyLossCapUSDT = 12500 := by
    simp [manuallyHaltedManager, Manager.activateKillSwitch, Manager.setKillSwitchCallback,
      newManager, sampleRiskConfig]
  obtain ⟨-, -, hreason, hat, hcalls⟩ :=
    manuallyHaltedManager.runPeriodicCheck_of_breach [1000000000, 2000000000] 3000000000
      (by rw [hpnl, hcap]; norm_num)
  have hcb : manuallyHaltedManager.onKillSwitch = true := by
    simp [manuallyHaltedManager, Manager.activateKillSwitch, Manager.setKillSwitchCallback]
  have hone : manuallyHaltedManager.onKillSwitchCalls = 1 := by
    rw [manuallyHaltedManager, Manager.activateKillSwitch, Manager.onOrderFill,
      Manager.checkPnLLimits_of_breach]
    · rfl
    · simpa [newManager, PnLTracker.new, PnLTracker.addRealizedPnL, PnLTracker.checkDailyReset,
        PnLTracker.totalDailyPnL, utcDay, nanosPerDay, Manager.setKillSwitchCallback,
        sampleRiskConfig] using (by norm_num : (-12600 : ℚ) ≤ -12500)
  rw [hpnl] at hreason
  exact ⟨rfl, rfl, rfl, hone, hreason, breachReason_ne_manualHalt _, hat,
    hcalls.trans (by simp [hcb, hone])⟩

end ArbitrageEngine.Risk
