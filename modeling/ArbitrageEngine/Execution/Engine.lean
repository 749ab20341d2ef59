import ArbitrageEngine.Order.Lifecycle
import ArbitrageEngine.Risk.Manager

/-!
# Execution engine

`execution.Engine` runs one cycle per approved signal: each leg becomes an `OrderRequest` with
the idempotency key `signalID-leg-i`, submitted through `submitWithRetry`; a failed leg cancels
the orders placed so far (`abortCycle`) and publishes an `aborted` report, and a cycle whose legs
all return an order publishes a `completed` report.

A cycle is a function of the venues' behaviour, given as a `Venue`: the answer and the duration
of the `n`-th `PlaceOrder` call and the answer to the `n`-th cancel. The cycle's context is its
deadline, start plus the strategy's fill timeout; a retry waits `retryBackoff * attempt` unless
the deadline comes first, and then the leg fails with the context's error. `executeTriArb` and
`executeBasisArb` are `executeCycle` with their own timeouts. A nil order returned by
`submitWithRetry` is dereferenced by the source and panics; the cycle is then `none`.

A cycle that does not panic publishes exactly one report, and when the report is `completed` the
engine has made no cancel request on the way (`Engine.executeCycle_report`), whatever state the
venue left the orders in.
-/

set_option autoImplicit false

namespace ArbitrageEngine.Execution

open ArbitrageEngine.Orders

/-! ## Fill quality -/

/-- `FillQualityRecord`. -/
structure FillQualityRecord where
  symbol : String
  side : Side
  expectedPrice : Decimal
  actualPrice : Decimal
  slippageBps : Decimal

/-- `QualityTracker`: the last `maxSize` records. -/
structure QualityTracker where
  records : List FillQualityRecord
  maxSize : Nat

/-- `RecordFill`: the fill's slippage in basis points, negated for a sell; nothing is recorded
for a zero expected price. -/
def QualityTracker.recordFill (qt : QualityTracker) (symbol : String) (side : Side)
    (expected actual : Decimal) : QualityTracker :=
  if expected = 0 then qt
  else
    let slippage := decDiv (actual - expected) expected * 10000
    let slippage := if side = .sell then -slippage else slippage
    let records := qt.records ++ [⟨symbol, side, expected, actual, slippage⟩]
    { qt with records := records.drop (records.length - qt.maxSize) }

/-! ## Engine, venues and cycle state -/

/-- `execution.Engine`'s settings. -/
structure Engine where
  triArbFillTimeout : Nat
  basisArbFillTimeout : Nat
  maxRetries : Nat
  retryBackoff : Nat

/-- `NewEngine`: a backoff of 50 ms. -/
def Engine.new (triArbTimeout basisArbTimeout : Nat) (maxRetries : Nat) : Engine :=
  ⟨triArbTimeout, basisArbTimeout, maxRetries, 50000000⟩

/-- The venues and the clock during a cycle: the answer to the `n`-th `PlaceOrder` call with the
time it takes, and the answer to the `n`-th cancel request. -/
structure Venue where
  place : Nat → PlaceOutcome × Nat
  cancel : Nat → CancelOutcome

/-- What a cycle reads and writes: the order manager, the ID generator (`order.NewOrderID`), the
clock, the venue calls made so far, the IDs the engine asked to cancel, the quality tracker and the
published reports. -/
structure Cycle where
  orders : Orders.Manager
  nextID : Uuid
  clock : Nat
  placeCalls : Nat
  cancelCalls : Nat
  cancelRequests : List Uuid
  quality : QualityTracker
  reports : List ExecutionReport

/-- Whether `SubmitOrder` reaches the venue: the key is unused and the venue has a gateway. -/
def contactsVenue (m : Orders.Manager) (req : OrderRequest) : Bool :=
  m.keyed req = none ∧ req.venue ∈ m.gateways

/-- One `SubmitOrder` call; the venue's next answer is used only when the venue is reached. -/
def Cycle.submit (c : Cycle) (v : Venue) (req : OrderRequest) :
    Cycle × Except SubmitError (Option Nat) :=
  let calls := contactsVenue c.orders req
  let answer := if calls then v.place c.placeCalls else (.failed, 0)
  let r := c.orders.submitOrder req c.clock answer.1
  ({ c with orders := r.1, placeCalls := if calls then c.placeCalls + 1 else c.placeCalls,
            clock := c.clock + answer.2 }, r.2)

/-- The wait before a retry: the backoff timer, or the deadline when it comes first (or at the
same time). The flag is set when the deadline ended the wait. -/
def Cycle.wait (c : Cycle) (backoff deadline : Nat) : Cycle × Bool :=
  if deadline ≤ c.clock + backoff then ({ c with clock := max c.clock deadline }, true)
  else ({ c with clock := c.clock + backoff }, false)

/-- Why `submitWithRetry` gave up. -/
inductive RetryError where
  | context
  | exhausted
  deriving DecidableEq, Repr

/-- The wait at the top of attempt `attempt`; the first attempt does not wait. -/
def Engine.pause (e : Engine) (attempt deadline : Nat) (c : Cycle) : Cycle × Bool :=
  if attempt > 0 then c.wait (e.retryBackoff * attempt) deadline else (c, false)

/-- Attempts `attempt` onwards of `submitWithRetry`, `n` of them left. -/
def Engine.retryLoop (e : Engine) (v : Venue) (deadline : Nat) (req : OrderRequest) :
    Nat → Nat → Cycle → Cycle × Except RetryError (Option Nat)
  | 0, _, c => (c, .error .exhausted)
  | n + 1, attempt, c =>
    match e.pause attempt deadline c with
    | (c', true) => (c', .error .context)
    | (c', false) =>
      match c'.submit v req with
      | (c'', .ok addr) => (c'', .ok addr)
      | (c'', .error _) => e.retryLoop v deadline req n (attempt + 1) c''

/-- `submitWithRetry`: attempts `0` to `maxRetries`. -/
def Engine.submitWithRetry (e : Engine) (v : Venue) (deadline : Nat) (req : OrderRequest)
    (c : Cycle) : Cycle × Except RetryError (Option Nat) :=
  e.retryLoop v deadline req (e.maxRetries + 1) 0 c

/-- `abortCycle`: cancel each order placed so far that is not terminal, reading its live status. -/
def abortCycle (v : Venue) : List Nat → Cycle → Cycle
  | [], c => c
  | addr :: rest, c =>
    let o := c.orders.heap addr
    if o.status.isTerminal then abortCycle v rest c
    else
      abortCycle v rest
        { c with orders := (c.orders.cancelOrder o.internalID c.clock (v.cancel c.cancelCalls)).1,
                 cancelCalls := c.cancelCalls + 1,
                 cancelRequests := c.cancelRequests ++ [o.internalID] }

/-! ## Reports and cycles -/

/-- `publishReport`'s report: total slippage, and the expected edge less the mean leg slippage. -/
def buildReport (signal : TradeSignal) (legs : List LegExecution) (status : CycleStatus)
    (startedAt completedAt : Nat) (totalFees : Decimal) : ExecutionReport :=
  let totalSlippage := legs.foldl (fun acc l => acc + l.slippageBps) 0
  let realizedEdge := if legs.length > 0 then
      signal.expectedEdgeBps - decDiv totalSlippage legs.length
    else 0
  ⟨signal.signalID, signal.strategy, signal.venue, legs, signal.expectedEdgeBps, realizedEdge,
    totalFees, totalSlippage, status, startedAt, completedAt⟩

/-- Publish a report. -/
def Cycle.publish (c : Cycle) (r : ExecutionReport) : Cycle := { c with reports := c.reports ++ [r] }

/-- The request of leg `i`, with internal ID `id`. -/
def legRequest (signal : TradeSignal) (id : Uuid) (i : Nat) (leg : LegSpec) : OrderRequest :=
  ⟨id, signal.signalID, signal.venue, leg.symbol, leg.side, leg.instrumentType, leg.orderType,
    leg.price, leg.size, toString signal.signalID ++ "-leg-" ++ toString i⟩

/-- A leg's slippage in basis points, as the cycle computes it (not negated for a sell). -/
def legSlippage (leg : LegSpec) (o : Order) : Decimal :=
  if leg.price = 0 then 0 else decDiv (o.avgFillPrice - leg.price) leg.price * 10000

/-- The loop over the legs from index `i`, with the orders placed and the leg executions so far.
`none` is the panic on a nil order. -/
def Engine.executeLegs (e : Engine) (v : Venue) (deadline : Nat) (signal : TradeSignal)
    (startedAt : Nat) : Nat → List LegSpec → List Nat → List LegExecution → Cycle → Option Cycle
  | _, [], _, execs, c =>
    some (c.publish (buildReport signal execs .completed startedAt c.clock 0))
  | i, leg :: rest, placed, execs, c =>
    let req := legRequest signal c.nextID i leg
    match e.submitWithRetry v deadline req { c with nextID := c.nextID + 1 } with
    | (c', .error _) =>
      let c'' := abortCycle v placed c'
      some (c''.publish (buildReport signal execs .aborted startedAt c''.clock 0))
    | (_, .ok none) => none
    | (c', .ok (some addr)) =>
      let o := c'.orders.heap addr
      e.executeLegs v deadline signal startedAt (i + 1) rest (placed ++ [addr])
        (execs ++ [⟨leg.symbol, leg.side, leg.price, o.avgFillPrice, leg.size, o.filledSize,
          legSlippage leg o, 0⟩])
        { c' with quality := c'.quality.recordFill leg.symbol leg.side leg.price o.avgFillPrice }

/-- One cycle with fill timeout `timeout`, started at the cycle's clock. -/
def Engine.executeCycle (e : Engine) (timeout : Nat) (v : Venue) (signal : TradeSignal)
    (c : Cycle) : Option Cycle :=
  e.executeLegs v (c.clock + timeout) signal c.clock 0 signal.legs [] [] c

/-- `executeTriArb`. -/
def Engine.executeTriArb (e : Engine) (v : Venue) (signal : TradeSignal) (c : Cycle) :
    Option Cycle :=
  e.executeCycle e.triArbFillTimeout v signal c

/-- `executeBasisArb`. -/
def Engine.executeBasisArb (e : Engine) (v : Venue) (signal : TradeSignal) (c : Cycle) :
    Option Cycle :=
  e.executeCycle e.basisArbFillTimeout v signal c

/-- `executeSignal`: the risk gate, then the strategy's cycle; a rejected signal leaves
everything as it was. -/
def Engine.executeSignal (e : Engine) (risk : Risk.Manager) (md : MarketData.Service) (v : Venue)
    (signal : TradeSignal) (c : Cycle) : Option Cycle :=
  match risk.validateSignal md c.clock signal with
  | .rejected _ => some c
  | .approved =>
    match signal.strategy with
    | .triArb => e.executeTriArb v signal c
    | .basisArb => e.executeBasisArb v signal c

/-! ## A retried leg -/

/-- The engine of the sample configuration: fill timeouts of 3 s (triangular) and 15 s (basis),
two retries. -/
def configuredEngine : Engine := Engine.new 3000000000 15000000000 2

/-- A cycle's state at clock `0` over a fresh order manager with gateways for `gateways`, the ID
generator at `1` and an empty quality tracker of capacity 1000. -/
def Cycle.start (gateways : List String) : Cycle :=
  ⟨Manager.new gateways, 1, 0, 0, 0, [], ⟨[], 1000⟩, []⟩

/-- A venue whose first placement fails and which acknowledges every later one after 1 ms. -/
def flakyVenue : Venue :=
  ⟨fun n => if n = 0 then (.failed, 1000000)
    else (.ack ⟨"v-" ++ toString n, .acknowledged⟩, 1000000), fun _ => .ok⟩

/-- A two-leg basis signal on nobitex: buy spot, sell the perpetual. -/
def basisArbSignal : TradeSignal :=
  ⟨8, .basisArb, "nobitex", [⟨"BTC/USDT", .buy, .spot, 50000, 1/10, .limit⟩,
    ⟨"BTC/USDT", .sell, .perp, 50100, 1/10, .limit⟩], 20⟩

/-- The basis cycle of `basisArbSignal` against `flakyVenue`. -/
def retriedCycle : Option Cycle :=
  configuredEngine.executeBasisArb flakyVenue basisArbSignal (Cycle.start ["nobitex"])

/-- The first leg's placement fails, its retry returns the `SUBMIT_FAILED` order, and the cycle
reports `completed` after two placements in all. -/
theorem retried_failed_leg_completes :
    retriedCycle.map (fun c => (c.reports.map (·.status), (c.orders.heap 0).status,
      (c.orders.heap 1).status, c.placeCalls)) =
      some ([.completed], .submitFailed, .acknowledged, 2) := by decide

/-! ## What a cycle writes -/

@[simp] theorem Cycle.submit_cancelRequests (c : Cycle) (v : Venue) (req : OrderRequest) :
    (c.submit v req).1.cancelRequests = c.cancelRequests := rfl

@[simp] theorem Cycle.submit_reports (c : Cycle) (v : Venue) (req : OrderRequest) :
    (c.submit v req).1.reports = c.reports := rfl

@[simp] theorem Cycle.wait_cancelRequests (c : Cycle) (backoff deadline : Nat) :
    (c.wait backoff deadline).1.cancelRequests = c.cancelRequests := by
  unfold Cycle.wait; split <;> rfl

@[simp] theorem Cycle.wait_reports (c : Cycle) (backoff deadline : Nat) :
    (c.wait backoff deadline).1.reports = c.reports := by
  unfold Cycle.wait; split <;> rfl

@[simp] theorem Engine.pause_cancelRequests (e : Engine) (attempt deadline : Nat) (c : Cycle) :
    (e.pause attempt deadline c).1.cancelRequests = c.cancelRequests := by
  unfold Engine.pause; split <;> simp

@[simp] theorem Engine.pause_reports (e : Engine) (attempt deadline : Nat) (c : Cycle) :
    (e.pause attempt deadline c).1.reports = c.reports := by
  unfold Engine.pause; split <;> simp

/-- The retry loop only submits and waits: it requests no cancel and publishes no report. -/
theorem Engine.retryLoop_frame (e : Engine) (v : Venue) (deadline : Nat) (req : OrderRequest)
    (n attempt : Nat) (c : Cycle) :
    (e.retryLoop v deadline req n attempt c).1.cancelRequests = c.cancelRequests ∧
      (e.retryLoop v deadline req n attempt c).1.reports = c.reports := by
  induction n generalizing attempt c with
  | zero => exact ⟨rfl, rfl⟩
  | succ n ih =>
    have hp := e.pause_cancelRequests attempt deadline c
    have hr := e.pause_reports attempt deadline c
    simp only [Engine.retryLoop]
    rcases hpc : e.pause attempt deadline c with ⟨c1, _ | _⟩ <;> rw [hpc] at hp hr <;>
      dsimp only at hp hr ⊢
    · rcases hs : c1.submit v req with ⟨c2, _ | _⟩ <;>
        have e2 : c2 = (c1.submit v req).1 := by rw [hs]
      · rw [(ih (attempt + 1) c2).1, (ih (attempt + 1) c2).2, e2]
        simp [hp, hr]
      · simp [e2, hp, hr]
    · exact ⟨hp, hr⟩

/-- `abortCycle` publishes no report. -/
@[simp] theorem abortCycle_reports (v : Venue) (placed : List Nat) (c : Cycle) :
    (abortCycle v placed c).reports = c.reports := by
  induction placed generalizing c with
  | nil => rfl
  | cons addr rest ih => simp only [abortCycle]; split <;> simp [ih]

@[simp] theorem buildReport_status (signal : TradeSignal) (legs : List LegExecution)
    (status : CycleStatus) (startedAt completedAt : Nat) (fees : Decimal) :
    (buildReport signal legs status startedAt completedAt fees).status = status := rfl

@[simp] theorem Cycle.publish_reports (c : Cycle) (r : ExecutionReport) :
    (c.publish r).reports = c.reports ++ [r] := rfl

@[simp] theorem Cycle.publish_cancelRequests (c : Cycle) (r : ExecutionReport) :
    (c.publish r).cancelRequests = c.cancelRequests := rfl

/-- `submitWithRetry` requests no cancel and publishes no report. -/
theorem Engine.submitWithRetry_frame (e : Engine) (v : Venue) (deadline : Nat)
    (req : OrderRequest) (c c' : Cycle) (r : Except RetryError (Option Nat))
    (h : e.submitWithRetry v deadline req c = (c', r)) :
    c'.cancelRequests = c.cancelRequests ∧ c'.reports = c.reports := by
  have hf := e.retryLoop_frame v deadline req (e.maxRetries + 1) 0 c
  rwa [← Engine.submitWithRetry, h] at hf

/-- **Every cycle reports once, and a completed one cancels nothing.** A run of the legs that does
not panic publishes exactly one report, and when that report is `completed` the engine has made
no cancel request on the way, whatever state the orders were left in. -/
theorem Engine.executeLegs_report (e : Engine) (v : Venue) (deadline : Nat) (signal : TradeSignal)
    (startedAt : Nat) (legs : List LegSpec) :
    ∀ (i : Nat) (placed : List Nat) (execs : List LegExecution) (c c' : Cycle),
      e.executeLegs v deadline signal startedAt i legs placed execs c = some c' →
      ∃ r, c'.reports = c.reports ++ [r] ∧
        (r.status = .completed → c'.cancelRequests = c.cancelRequests) := by
  induction legs with
  | nil =>
    rintro i placed execs c c' h
    cases h
    exact ⟨_, rfl, fun _ => rfl⟩
  | cons leg rest ih =>
    intro i placed execs c c' h
    simp only [Engine.executeLegs] at h
    split at h <;> rename_i c1 r heq
    · cases h
      have hf := e.submitWithRetry_frame v deadline _ _ _ _ heq
      exact ⟨buildReport signal execs .aborted startedAt (abortCycle v placed c1).clock 0,
        by simp [hf.2], by simp⟩
    · cases h
    · have hf := e.submitWithRetry_frame v deadline _ _ _ _ heq
      obtain ⟨r', hr, hc⟩ := ih _ _ _ _ _ h
      exact ⟨r', by simp [hr, hf.2], fun hs => by simp [hc hs, hf.1]⟩

/-- **Every cycle reports once, and a completed one cancels nothing.** A triangular or basis cycle
that does not panic publishes exactly one report, and when that report is `completed` the engine
has made no cancel request, whatever the venue answered and whatever state the orders were left
in. -/
theorem Engine.executeCycle_report (e : Engine) (timeout : Nat) (v : Venue) (signal : TradeSignal)
    (c c' : Cycle) (h : e.executeCycle timeout v signal c = some c') :
    ∃ r, c'.reports = c.reports ++ [r] ∧
      (r.status = .completed → c'.cancelRequests = c.cancelRequests) :=
  e.executeLegs_report v _ signal c.clock signal.legs 0 [] [] c c' h

/-- A venue that acknowledges every order as `ACKNOWLEDGED`, resting on the book, after 1 ms. -/
def restingVenue : Venue :=
  ⟨fun n => (.ack ⟨"v-" ++ toString n, .acknowledged⟩, 1000000), fun _ => .ok⟩

/-- A triangular signal on nobitex: buy BTC/USDT, buy ETH/BTC, sell ETH/USDT. -/
def triArbSignal : TradeSignal :=
  ⟨7, .triArb, "nobitex", [⟨"BTC/USDT", .buy, .spot, 50000, 1/10, .limit⟩,
    ⟨"ETH/BTC", .buy, .spot, 6/100, 1, .limit⟩,
    ⟨"ETH/USDT", .sell, .spot, 3050, 1, .limit⟩], 100⟩

/-- The triangular cycle of `triArbSignal` against `restingVenue`. -/
def restingCycle : Option Cycle :=
  configuredEngine.executeTriArb restingVenue triArbSignal (Cycle.start ["nobitex"])

/-- The cycle reports `completed` well before its 3 s deadline with its three orders resting as
`ACKNOWLEDGED`, and the engine has requested no cancel. -/
theorem completed_cycle_leaves_legs_resting :
    restingCycle.map (fun c => (c.reports.map (·.status), c.cancelRequests,
      [0, 1, 2].map (fun a => (c.orders.heap a).status),
      decide (c.clock < configuredEngine.triArbFillTimeout))) =
      some ([.completed], [], [.acknowledged, .acknowledged, .acknowledged], true) := by decide

/-- The resting cycle publishes one report and, reporting it `completed`, requests no cancel. -/
theorem executeCycle_report_resting :
    ∃ c', restingCycle = some c' ∧ ∃ r, c'.reports = [r] ∧ r.status = .completed ∧
      c'.cancelRequests = [] := by
  obtain ⟨c', hc⟩ := Option.isSome_iff_exists.mp (show restingCycle.isSome = true by decide)
  obtain ⟨r, hr, hcancel⟩ := configuredEngine.executeCycle_report _ _ _ _ c' hc
  have hs : r.status = .completed := by
    have h : restingCycle.map (fun c => c.reports.map (·.status)) = some [.completed] := by decide
    simpa [hc, hr, Cycle.start] using h
  exact ⟨c', hc, r, hr, hs, hcancel hs⟩

/-! ## Slippage in the report and in the quality tracker -/

/-- The sell leg of `triArbSignal`: ETH/USDT at 3050. -/
def sellLeg : LegSpec := ⟨"ETH/USDT", .sell, .spot, 3050, 1, .limit⟩

/-- The order of `sellLeg` filled in full at the average price `avg`. -/
def sellFill (avg : Decimal) : Order :=
  ⟨3, "v-3", 7, "nobitex", "ETH/USDT", .sell, .limit, 3050, 1, 1, avg, .filled, 0, 0⟩

/-- The leg executions of `triArbSignal` with both buys filled at their prices and the sell filled
at `avg`, as the cycle builds them. -/
def triArbExecutions (avg : Decimal) : List LegExecution :=
  [⟨"BTC/USDT", .buy, 50000, 50000, 1 / 10, 1 / 10, 0, 0⟩,
    ⟨"ETH/BTC", .buy, 6 / 100, 6 / 100, 1, 1, 0, 0⟩,
    ⟨"ETH/USDT", .sell, 3050, avg, 1, 1, legSlippage sellLeg (sellFill avg), 0⟩]

/-- The sell filled one percent below its price, at 3019.5: the cycle reports a slippage of
`-100` bps, a gain, where `RecordFill` records `+100` bps, a loss; and the report's realized
edge is higher than with the sell filled at its price. -/
theorem sell_slippage_reported_as_gain :
    legSlippage sellLeg (sellFill (6039 / 2)) = -100 ∧
      ((QualityTracker.mk [] 1000).recordFill "ETH/USDT" .sell 3050 (6039 / 2)).records.map
        (·.slippageBps) = [100] ∧
      (buildReport triArbSignal (triArbExecutions 3050) .completed 0 3000000 0).realizedEdgeBps <
        (buildReport triArbSignal (triArbExecutions (6039 / 2)) .completed 0 3000000 0).realizedEdgeBps := by
  have hslip : legSlippage sellLeg (sellFill (6039 / 2)) = -100 := by
    rw [legSlippage, if_neg (by norm_num [sellLeg]),
      decDiv_of_int _ _ (by norm_num [sellLeg]) (-100000000000000) (by norm_num [sellLeg, sellFill])]
    norm_num [sellLeg, sellFill]
  have hzero : legSlippage sellLeg (sellFill 3050) = 0 := by
    simp [legSlippage, sellLeg, sellFill]
  have hthird : decDiv (-100) 3 < 0 := by
    have := abs_decDiv_sub_div_le (-100) 3 (by norm_num)
    rw [abs_le] at this
    linarith
  refine ⟨hslip, ?_, ?_⟩
  · have h : decDiv (6039 / 2 - 3050) 3050 * 10000 = -100 := by
      simpa [legSlippage, sellLeg, sellFill] using hslip
    simp [QualityTracker.recordFill, h]
  · simp only [buildReport, triArbExecutions, hslip, hzero, triArbSignal]
    norm_num
    linarith

end ArbitrageEngine.Execution
