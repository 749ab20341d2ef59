import ArbitrageEngine.Gateway.Simulated
import ArbitrageEngine.Monitor.Alerts

/-!
# The dry run

In dry-run mode `buildGateways` gives every enabled venue a simulated gateway, and `main` hands
the map to the order manager and to the portfolio's reconciler, whose mismatch callback fires the
`reconciliation_mismatch` alert. The portfolio is changed only by the reconciler: nothing in the
program calls `OnFillEvent`. While the order manager places and cancels orders on the gateways,
each tick of the reconciler runs `reconcileVenue` on every gateway with what it reports.

A simulated gateway reports, whatever orders it took, the one USDT balance `New` gave it and no
position. So along every run of the dry run at a threshold of at least zero, no alert is ever
fired, every balance the portfolio holds is a venue's USDT balance of the initial capital with
nothing locked, and the portfolio holds no position (`DryRun.run_no_alerts`): the reconciliation
check cannot see anything the dry run trades.
-/

set_option autoImplicit false

namespace ArbitrageEngine.Pipeline

open ArbitrageEngine.Simulated ArbitrageEngine.Portfolio ArbitrageEngine.Monitor

/-- The dry-run trader: the simulated gateway of each enabled venue, in the iteration order of
`main`'s gateway map, and the portfolio with the alert manager its reconciler fires into. -/
structure DryRun where
  gateways : List (String × Gateway)
  monitored : Monitored

/-- The dry run as `main` starts it: a simulated gateway for each enabled venue, with the
dry-run fill simulator, capital and latency, a new portfolio and a new alert manager. -/
def DryRun.start (venues : List String) (fillSim : DefaultFillSimulator) (initialCapital : Decimal)
    (latencyMs : ℤ) (channels : List String) : DryRun :=
  ⟨venues.map fun v => (v, Gateway.new v fillSim initialCapital latencyMs),
    ⟨newManager, newAlertManager channels⟩⟩

/-- What happens in a dry run: a call of the order manager on a venue's gateway, or a tick of the
reconciler. -/
inductive DryRunEvent where
  | gateway (venue : String) (call : GatewayCall)
  | reconcileAll (now : ℕ)

/-- `reconcileAll`: `reconcileVenue` on every gateway in turn, with the answers of its
`GetBalances` and `GetPositions`, each mismatch firing the callback. -/
def DryRun.reconcileAll (r : Reconciler) (thresholdText : String) (s : DryRun) (now : ℕ) :
    Monitored :=
  s.gateways.foldl (fun m e => m.step r thresholdText
    (.portfolio (.reconcile e.1 (.ok e.2.getBalances) (.ok e.2.getPositions) now))) s.monitored

/-- One event of the dry run. -/
def DryRun.step (r : Reconciler) (thresholdText : String) (s : DryRun) : DryRunEvent → DryRun
  | .gateway venue call =>
    { s with gateways := s.gateways.map fun e => if e.1 = venue then (e.1, e.2.step call) else e }
  | .reconcileAll now => { s with monitored := s.reconcileAll r thresholdText now }

/-- A run of events. -/
def DryRun.run (r : Reconciler) (thresholdText : String) (s : DryRun) (events : List DryRunEvent) :
    DryRun :=
  events.foldl (DryRun.step r thresholdText) s

/-! ## What the dry run keeps -/

/-- A gateway that reports what `New` gave it: one USDT balance of the initial capital, free, and
no position. -/
def QuietGateway (initialCapital : Decimal) (e : String × Gateway) : Prop :=
  e.2.getBalances = [("USDT", ⟨e.1, "USDT", initialCapital, 0, initialCapital⟩)] ∧
    e.2.getPositions = []

/-- A portfolio whose every balance is a venue's USDT balance of the initial capital with nothing
locked, and that holds no position. -/
structure QuietPortfolio (initialCapital : Decimal) (m : Portfolio.Manager) : Prop where
  balances : ∀ venue asset bal, m.getBalance venue asset = some bal →
    asset = "USDT" ∧ bal = ⟨venue, "USDT", initialCapital, 0, initialCapital⟩
  positions : ∀ venue asset, m.getPosition venue asset = none

/-- The invariant of the dry run: quiet gateways, a quiet portfolio, and no alert fired. -/
structure DryRun.Quiet (initialCapital : Decimal) (channels : List String) (s : DryRun) : Prop where
  gateways : ∀ e ∈ s.gateways, QuietGateway initialCapital e
  portfolio : QuietPortfolio initialCapital s.monitored.portfolio
  alertManager_eq : s.monitored.alertManager = newAlertManager channels

/-- At a threshold of at least zero, a value never mismatches itself. -/
theorem mismatch_self {threshold : Decimal} (hr : 0 ≤ threshold) (value denominator : Decimal) :
    mismatch threshold value value denominator = false := by
  simp [mismatch, not_lt.mpr hr]

theorem QuietPortfolio.updateBalance {cap : Decimal} {m : Portfolio.Manager}
    (hm : QuietPortfolio cap m) (venue : String) :
    QuietPortfolio cap (m.updateBalance venue "USDT" cap 0) := by
  refine ⟨fun venue' asset bal h => ?_, hm.positions⟩
  simp only [Manager.getBalance, Manager.updateBalance, Function.update_apply,
    VenueAssetKey.mk.injEq] at h
  split_ifs at h with hk
  · obtain ⟨rfl, rfl⟩ := hk
    cases h
    exact ⟨rfl, by rw [add_zero]⟩
  · exact hm.balances venue' asset bal h

/-- **A quiet venue reconciles without a mismatch.** Reconciling what a quiet gateway reports
against a quiet portfolio calls the callback no time, and leaves the venue's USDT balance of the
initial capital. -/
theorem reconcileVenue_quiet (r : Reconciler) (hr : 0 ≤ r.threshold) {cap : Decimal}
    {m : Portfolio.Manager} (hm : QuietPortfolio cap m) (venue : String) (now : ℕ) :
    r.reconcileVenue m venue (.ok [("USDT", ⟨venue, "USDT", cap, 0, cap⟩)]) (.ok []) now =
      (m.updateBalance venue "USDT" cap 0, 0) := by
  have hb : r.balanceMismatch m venue ("USDT", ⟨venue, "USDT", cap, 0, cap⟩) = false := by
    unfold Reconciler.balanceMismatch
    split
    · rfl
    · next bal h =>
      obtain ⟨-, rfl⟩ := hm.balances venue "USDT" bal h
      exact mismatch_self hr _ _
  simp [Reconciler.reconcileVenue, Reconciler.reconcileBalance, hb]

theorem DryRun.foldl_reconcile_quiet (r : Reconciler) (hr : 0 ≤ r.threshold) (thresholdText : String)
    {cap : Decimal} (now : ℕ) (gateways : List (String × Gateway))
    (hg : ∀ e ∈ gateways, QuietGateway cap e) (m : Monitored) (hm : QuietPortfolio cap m.portfolio) :
    let m' := gateways.foldl (fun m e => m.step r thresholdText
      (.portfolio (.reconcile e.1 (.ok e.2.getBalances) (.ok e.2.getPositions) now))) m
    QuietPortfolio cap m'.portfolio ∧ m'.alertManager = m.alertManager := by
  induction gateways generalizing m with
  | nil => exact ⟨hm, rfl⟩
  | cons e es ih =>
    obtain ⟨hbal, hpos⟩ := hg e (List.mem_cons_self _ _)
    have hstep : m.step r thresholdText
        (.portfolio (.reconcile e.1 (.ok e.2.getBalances) (.ok e.2.getPositions) now)) =
        ⟨m.portfolio.updateBalance e.1 "USDT" cap 0, m.alertManager⟩ := by
      simp only [Monitored.step, hbal, hpos, reconcileVenue_quiet r hr hm, List.replicate_zero]
      rfl
    simp only [List.foldl_cons, hstep]
    exact ih (fun e' he' => hg e' (List.mem_cons_of_mem _ he')) _ (hm.updateBalance e.1)

theorem DryRun.Quiet.step {r : Reconciler} (hr : 0 ≤ r.threshold) (thresholdText : String)
    {cap : Decimal} {channels : List String} {s : DryRun} (hs : s.Quiet cap channels)
    (ev : DryRunEvent) : (s.step r thresholdText ev).Quiet cap channels := by
  cases ev with
  | gateway venue call =>
    refine ⟨fun e he => ?_, hs.portfolio, hs.alertManager_eq⟩
    obtain ⟨e₀, he₀, rfl⟩ := List.mem_map.mp he
    have hq := hs.gateways e₀ he₀
    split
    · exact ⟨((e₀.2.step_frame call).balances_eq).trans hq.1,
        ((e₀.2.step_frame call).positions_eq).trans hq.2⟩
    · exact hq
  | reconcileAll now =>
    obtain ⟨hp, ha⟩ := DryRun.foldl_reconcile_quiet r hr thresholdText now s.gateways hs.gateways
      s.monitored hs.portfolio
    exact ⟨hs.gateways, hp, ha.trans hs.alertManager_eq⟩

theorem DryRun.start_quiet (venues : List String) (fillSim : DefaultFillSimulator)
    (initialCapital : Decimal) (latencyMs : ℤ) (channels : List String) :
    (DryRun.start venues fillSim initialCapital latencyMs channels).Quiet initialCapital channels := by
  refine ⟨fun e he => ?_, ⟨fun _ _ _ h => (by cases h), fun _ _ => rfl⟩, rfl⟩
  obtain ⟨v, -, rfl⟩ := List.mem_map.mp he
  exact ⟨rfl, rfl⟩

theorem DryRun.run_quiet {r : Reconciler} (hr : 0 ≤ r.threshold) (thresholdText : String)
    {cap : Decimal} {channels : List String} (events : List DryRunEvent) {s : DryRun}
    (hs : s.Quiet cap channels) : (s.run r thresholdText events).Quiet cap channels := by
  induction events generalizing s with
  | nil => exact hs
  | cons ev evs ih => exact ih (hs.step hr thresholdText ev)

/-- **The dry run never raises a reconciliation alert.** Along any run of order placements,
fills, cancels and reconciliations of a dry run started by `main`, at a threshold of at least
zero, no alert is active, every balance of the portfolio is a venue's USDT balance of the initial
capital with nothing locked, and the portfolio holds no position. -/
theorem DryRun.run_no_alerts (venues : List String) (fillSim : DefaultFillSimulator)
    (initialCapital : Decimal) (latencyMs : ℤ) (channels : List String) (r : Reconciler)
    (thresholdText : String) (hr : 0 ≤ r.threshold) (events : List DryRunEvent) :
    let s := (DryRun.start venues fillSim initialCapital latencyMs channels).run r thresholdText events
    s.monitored.alertManager.activeAlerts = [] ∧
      (∀ venue asset bal, s.monitored.portfolio.getBalance venue asset = some bal →
        asset = "USDT" ∧ bal = ⟨venue, "USDT", initialCapital, 0, initialCapital⟩) ∧
      ∀ venue asset, s.monitored.portfolio.getPosition venue asset = none := by
  have hq := DryRun.run_quiet hr thresholdText events
    (DryRun.start_quiet venues fillSim initialCapital latencyMs channels)
  refine ⟨?_, hq.portfolio.balances, hq.portfolio.positions⟩
  rw [hq.alertManager_eq]
  rfl

/-- Two venues started as `main` does in a dry run with the program's reconciler, a cancel, and
two reconciliations. -/
theorem DryRun.run_no_alerts_two_venues :
    0 ≤ mainReconciler.threshold ∧
      let s := (DryRun.start ["kcex", "nobitex"] dryRunSimulator 10000 50 ["slack"]).run
        mainReconciler "0.5" [.gateway "kcex" (.cancelOrder "v1"), .reconcileAll 1, .reconcileAll 2]
      s.monitored.alertManager.activeAlerts = [] ∧
        (∀ venue asset bal, s.monitored.portfolio.getBalance venue asset = some bal →
          asset = "USDT" ∧ bal = ⟨venue, "USDT", 10000, 0, 10000⟩) ∧
        ∀ venue asset, s.monitored.portfolio.getPosition venue asset = none :=
  ⟨by norm_num [mainReconciler],
    DryRun.run_no_alerts ["kcex", "nobitex"] dryRunSimulator 10000 50 ["slack"] mainReconciler "0.5"
      (by norm_num [mainReconciler]) _⟩

end ArbitrageEngine.Pipeline
