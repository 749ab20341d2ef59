import ArbitrageEngine.Config.Load
import ArbitrageEngine.Pipeline.DryRun

/-!
# Startup

`main` loads the configuration, exits when that fails, and in live mode exits unless the
`--confirm-live` flag is given or the configuration turns `require_live_confirmation` off. It then
builds the gateways: in dry-run mode a simulated gateway for every enabled venue, in any other
mode the adapter of every enabled venue the switch knows, `nobitex` and `kcex`, which trade on the
venue.

Between the live guard and `buildGateways`, `main` also exits when `NewSQLiteStore` cannot open
the checkpoint database; the model leaves that exit and the other steps of that stretch out, so
that a start here is a start whose SQLite store opened.

In dry-run mode every gateway is simulated and, the validated threshold being above zero, no
reconciliation alert is ever raised (`startup_dryRun_no_alerts`).
-/

set_option autoImplicit false

namespace ArbitrageEngine.Pipeline

open ArbitrageEngine.Configuration ArbitrageEngine.Simulated ArbitrageEngine.Portfolio
open ArbitrageEngine.Monitor

/-- The gateway `buildGateways` makes for a venue. -/
inductive GatewayKind where
  | simulated
  | nobitex
  | kcex
  deriving DecidableEq

/-- `buildGateways` in the given mode: a simulated gateway for each enabled venue in dry-run
mode, and otherwise the adapter of each enabled venue the switch knows; it skips the others with a
warning. -/
def buildGateways (cfg : Config) (mode : String) : List (String × GatewayKind) :=
  let enabled := (cfg.venues.getD []).filter (·.2.enabled)
  if mode = "dry_run" then enabled.map fun e => (e.1, .simulated)
  else
    enabled.filterMap fun e =>
      if e.1 = "nobitex" then some (e.1, .nobitex)
      else if e.1 = "kcex" then some (e.1, .kcex) else none

/-- How `main` leaves its startup: an exit with the line it logs, or the configuration and the
gateways it goes on with. -/
inductive Startup where
  | exit (message : String)
  | start (cfg : Config) (gateways : List (String × GatewayKind))

/-- `main` up to `buildGateways`, on the file and the `--confirm-live` flag: the load, and the
live guard. Its exit when `NewSQLiteStore` fails, between the guard and `buildGateways`, is left
out. -/
def startup (isURL : String → Bool) (file : Except ReadError RawConfig) (confirmLive : Bool) :
    Startup :=
  match load isURL file with
  | .error _ => .exit "failed to load configuration"
  | .ok cfg =>
    if cfg.system.tradingMode = "live" ∧ cfg.system.requireLiveConfirmation = true ∧
        confirmLive = false then
      .exit "LIVE TRADING requires --confirm-live flag"
    else .start cfg (buildGateways cfg cfg.system.tradingMode)

/-- The fill simulator `buildGateways` gives the dry run. Only fills report its latency, and a
negative one reads as zero. -/
def mainFillSimulator (cfg : Config) : DefaultFillSimulator :=
  ⟨cfg.dryRun.simulatedLatencyMs.toNat, cfg.dryRun.rejectRatePct, 2, 5⟩

/-- The reconciler `main` builds: the configured threshold, and the callback that fires the
alert. -/
def mainReconcilerOf (cfg : Config) : Reconciler :=
  ⟨cfg.risk.reconciliation.mismatchThresholdPct, true⟩

/-- The dry run `main` starts from a configuration: its simulated gateways, each with the
dry-run simulator, capital and latency, and the alert manager on the configured channels. -/
def dryRunOf (cfg : Config) : DryRun :=
  DryRun.start ((buildGateways cfg "dry_run").map Prod.fst) (mainFillSimulator cfg)
    cfg.dryRun.initialCapitalUSDT cfg.dryRun.simulatedLatencyMs cfg.monitoring.alerting.channels

/-! ## What startup guarantees -/

section Startup

variable (isURL : String → Bool)

/-- What a start means: the file loaded, the live guard let it through, and the gateways are
those of the configured mode. -/
theorem startup_eq_start {file : Except ReadError RawConfig} {confirmLive : Bool} {cfg : Config}
    {gateways : List (String × GatewayKind)}
    (h : startup isURL file confirmLive = .start cfg gateways) :
    load isURL file = .ok cfg ∧
      ¬(cfg.system.tradingMode = "live" ∧ cfg.system.requireLiveConfirmation = true ∧
        confirmLive = false) ∧
      gateways = buildGateways cfg cfg.system.tradingMode := by
  unfold startup at h
  split at h
  · cases h
  · next cfg' hload =>
    split_ifs at h with hlive
    cases h
    exact ⟨hload, hlive, rfl⟩

/-- **The dry run never raises a reconciliation alert.** In a start in dry-run mode every gateway
is simulated, and along any run of orders and reconciliations of the dry run `main` starts, no
alert is active, every balance of the portfolio is a venue's USDT balance of the configured
capital with nothing locked, and the portfolio holds no position: validation keeps the threshold
above zero. -/
theorem startup_dryRun_no_alerts {file : Except ReadError RawConfig} {confirmLive : Bool}
    {cfg : Config} {gateways : List (String × GatewayKind)}
    (h : startup isURL file confirmLive = .start cfg gateways)
    (hmode : cfg.system.tradingMode = "dry_run") (thresholdText : String)
    (events : List DryRunEvent) :
    (∀ g ∈ gateways, g.2 = .simulated) ∧
      let s := (dryRunOf cfg).run (mainReconcilerOf cfg) thresholdText events
      s.monitored.alertManager.activeAlerts = [] ∧
        (∀ venue asset bal, s.monitored.portfolio.getBalance venue asset = some bal →
          asset = "USDT" ∧
            bal = ⟨venue, "USDT", cfg.dryRun.initialCapitalUSDT, 0, cfg.dryRun.initialCapitalUSDT⟩) ∧
        ∀ venue asset, s.monitored.portfolio.getPosition venue asset = none := by
  obtain ⟨hload, -, rfl⟩ := startup_eq_start isURL h
  obtain ⟨-, -, -, hv⟩ := load_eq_ok isURL hload
  have hr : 0 ≤ (mainReconcilerOf cfg).threshold := le_of_lt hv.risk.mismatchThresholdPct_pos
  have hq := DryRun.run_quiet hr thresholdText events
    (DryRun.start_quiet ((buildGateways cfg "dry_run").map Prod.fst) (mainFillSimulator cfg)
      cfg.dryRun.initialCapitalUSDT cfg.dryRun.simulatedLatencyMs cfg.monitoring.alerting.channels)
  refine ⟨?_, ?_, hq.portfolio.balances, hq.portfolio.positions⟩
  · intro g hg
    simp only [hmode, buildGateways, if_true, List.mem_map] at hg
    obtain ⟨_, -, rfl⟩ := hg
    rfl
  · unfold dryRunOf
    rw [hq.alertManager_eq]
    rfl

/-- The dry-run sample, a cancel and two reconciliations. -/
theorem startup_dryRun_no_alerts_sample :
    startup (fun _ => true) (.ok (sampleFile "dry_run")) false =
        .start ((sampleFile "dry_run").unmarshal loadDefaults)
          (buildGateways ((sampleFile "dry_run").unmarshal loadDefaults) "dry_run") ∧
      ((sampleFile "dry_run").unmarshal loadDefaults).system.tradingMode = "dry_run" ∧
      (∀ g ∈ buildGateways ((sampleFile "dry_run").unmarshal loadDefaults) "dry_run",
        g.2 = .simulated) ∧
      let cfg := (sampleFile "dry_run").unmarshal loadDefaults
      let s := (dryRunOf cfg).run (mainReconcilerOf cfg) "0.5"
        [.gateway "kcex" (.cancelOrder "v1"), .reconcileAll 1, .reconcileAll 2]
      s.monitored.alertManager.activeAlerts = [] ∧
        (∀ venue asset bal, s.monitored.portfolio.getBalance venue asset = some bal →
          asset = "USDT" ∧
            bal = ⟨venue, "USDT", cfg.dryRun.initialCapitalUSDT, 0, cfg.dryRun.initialCapitalUSDT⟩) ∧
        ∀ venue asset, s.monitored.portfolio.getPosition venue asset = none := by
  have h : startup (fun _ => true) (.ok (sampleFile "dry_run")) false =
      .start ((sampleFile "dry_run").unmarshal loadDefaults)
        (buildGateways ((sampleFile "dry_run").unmarshal loadDefaults) "dry_run") := by
    simp only [startup, load_sampleFile "dry_run" (by decide)]
    simp [sampleFile, RawConfig.unmarshal]
  exact ⟨h, rfl, startup_dryRun_no_alerts _ h rfl "0.5" _⟩

end Startup

end ArbitrageEngine.Pipeline
