import ArbitrageEngine.Portfolio.Manager

/-!
# Alerts

`monitor.AlertManager` keeps every alert it fires. `Fire` appends an alert, stamped with the clock,
logs "ALERT FIRED" and dispatches it: one log line per configured channel, and nothing is sent.
`ActiveAlerts` lists the alerts not yet acknowledged. `AcknowledgeAlert` stamps every
unacknowledged alert of the given name. The program fires one alert from the reconciler's
mismatch callback: a P1 alert named "reconciliation_mismatch", whose message reads "Trading
blocked for venue ... until resolved".

After any run of calls on a new manager, the alerts are the fired ones in order. Each is
acknowledged at the first acknowledgement of its name after it, and none is ever removed or
acknowledged twice (`newAlertManager_run_alerts`). A reconciliation adds one active P1 alert for
every mismatching balance and position of the venue (`Monitored.step_reconcile_activeAlerts`).
-/

set_option autoImplicit false

namespace ArbitrageEngine.Monitor

open ArbitrageEngine.Portfolio

/-- `monitor.AlertLevel`. -/
inductive AlertLevel where
  | p1
  | p2
  deriving DecidableEq, Repr

/-- The string of an alert level. -/
def AlertLevel.toString : AlertLevel → String
  | .p1 => "P1"
  | .p2 => "P2"

/-- `monitor.Alert`, with clock readings for the times; `ackedAt` is `none` for a nil pointer. -/
structure Alert where
  level : AlertLevel
  name : String
  condition : String
  message : String
  firedAt : ℕ
  ackedAt : Option ℕ
  deriving DecidableEq, Repr

/-- A line of the logger: its level, message, and fields in order. -/
inductive LogLine where
  | error (msg : String) (fields : List (String × String))
  | info (msg : String) (fields : List (String × String))
  deriving DecidableEq, Repr

/-- `monitor.AlertManager`: the alerts fired so far and the configured channels; the lock and the
logger are left out. -/
structure AlertManager where
  alerts : List Alert
  channels : List String

/-- `NewAlertManager`. -/
def newAlertManager (channels : List String) : AlertManager := ⟨[], channels⟩

/-- `dispatch`: a log line for each channel, the only thing it does. -/
def AlertManager.dispatch (am : AlertManager) (alert : Alert) : List LogLine :=
  am.channels.map fun ch =>
    .info "alert dispatched" [("channel", ch), ("level", alert.level.toString), ("name", alert.name)]

/-- `Fire` at clock reading `now`, with the lines it logs. -/
def AlertManager.fire (am : AlertManager) (level : AlertLevel) (name condition message : String)
    (now : ℕ) : AlertManager × List LogLine :=
  let alert : Alert := ⟨level, name, condition, message, now, none⟩
  ({ am with alerts := am.alerts ++ [alert] },
    .error "ALERT FIRED" [("level", level.toString), ("name", name), ("condition", condition),
      ("message", message)] :: am.dispatch alert)

/-- `ActiveAlerts`. -/
def AlertManager.activeAlerts (am : AlertManager) : List Alert :=
  am.alerts.filter fun a => a.ackedAt = none

/-- The loop body of `AcknowledgeAlert` on one alert. -/
def Alert.acknowledge (name : String) (now : ℕ) (a : Alert) : Alert :=
  if a.name = name ∧ a.ackedAt = none then { a with ackedAt := some now } else a

/-- `AcknowledgeAlert` at clock reading `now`. -/
def AlertManager.acknowledgeAlert (am : AlertManager) (name : String) (now : ℕ) : AlertManager :=
  { am with alerts := am.alerts.map (Alert.acknowledge name now) }

/-- The calls that change an alert manager. -/
inductive AlertCall where
  | fire (level : AlertLevel) (name condition message : String) (now : ℕ)
  | acknowledgeAlert (name : String) (now : ℕ)

/-- Whether a call is a `Fire`. -/
def AlertCall.isFire : AlertCall → Bool
  | .fire .. => true
  | .acknowledgeAlert .. => false

/-- One call, with the lines it logs. -/
def AlertManager.step (am : AlertManager) : AlertCall → AlertManager × List LogLine
  | .fire level name condition message now => am.fire level name condition message now
  | .acknowledgeAlert name now => (am.acknowledgeAlert name now, [])

/-- A run of calls, with the lines logged in order. -/
def AlertManager.run (am : AlertManager) : List AlertCall → AlertManager × List LogLine
  | [] => (am, [])
  | c :: cs => (((am.step c).1.run cs).1, (am.step c).2 ++ ((am.step c).1.run cs).2)

/-! ## The alerts a run leaves -/

/-- The clock reading of the first acknowledgement of `name` among `calls`. -/
def firstAck (name : String) : List AlertCall → Option ℕ
  | [] => none
  | .acknowledgeAlert name' now :: cs => if name' = name then some now else firstAck name cs
  | .fire .. :: cs => firstAck name cs

/-- The alerts `calls` fire, in order, each acknowledged at the first acknowledgement of its name
after it. -/
def firedAlerts : List AlertCall → List Alert
  | [] => []
  | .fire level name condition message now :: cs =>
    ⟨level, name, condition, message, now, firstAck name cs⟩ :: firedAlerts cs
  | .acknowledgeAlert .. :: cs => firedAlerts cs

/-- An alert as the calls after it leave it: an unacknowledged one takes the first acknowledgement
of its name. -/
def Alert.settle (calls : List AlertCall) (a : Alert) : Alert :=
  match a.ackedAt with
  | none => { a with ackedAt := firstAck a.name calls }
  | some _ => a

@[simp] theorem Alert.settle_nil (a : Alert) : a.settle [] = a := by
  obtain ⟨level, name, condition, message, firedAt, ackedAt⟩ := a
  cases ackedAt <;> rfl

@[simp] theorem Alert.settle_unacked (level : AlertLevel) (name condition message : String)
    (firedAt : ℕ) (calls : List AlertCall) :
    (⟨level, name, condition, message, firedAt, none⟩ : Alert).settle calls =
      ⟨level, name, condition, message, firedAt, firstAck name calls⟩ := rfl

/-- Settling after an acknowledgement is acknowledging, then settling after the rest. -/
theorem Alert.settle_acknowledge (name : String) (now : ℕ) (calls : List AlertCall) (a : Alert) :
    (a.acknowledge name now).settle calls = a.settle (.acknowledgeAlert name now :: calls) := by
  obtain ⟨level, name', condition, message, firedAt, ackedAt⟩ := a
  cases ackedAt with
  | some t => simp [Alert.acknowledge, Alert.settle]
  | none =>
    by_cases h : name' = name
    · simp [Alert.acknowledge, Alert.settle, firstAck, h]
    · simp [Alert.acknowledge, Alert.settle, firstAck, h, Ne.symm h]

theorem Alert.settle_fire (level : AlertLevel) (name condition message : String) (now : ℕ)
    (calls : List AlertCall) (a : Alert) :
    a.settle (.fire level name condition message now :: calls) = a.settle calls := by
  simp only [Alert.settle, firstAck]

/-- Along any run, the old alerts are settled by the calls and the fired ones follow. -/
theorem AlertManager.run_alerts (am : AlertManager) (calls : List AlertCall) :
    (am.run calls).1.alerts = am.alerts.map (Alert.settle calls) ++ firedAlerts calls := by
  induction calls generalizing am with
  | nil =>
    simp [AlertManager.run, firedAlerts, show Alert.settle [] = id from funext Alert.settle_nil]
  | cons c cs ih =>
    rw [AlertManager.run, ih]
    cases c with
    | fire level name condition message now =>
      simp [AlertManager.step, AlertManager.fire, firedAlerts, Alert.settle_fire]
    | acknowledgeAlert name now =>
      simp [AlertManager.step, AlertManager.acknowledgeAlert, firedAlerts,
        Alert.settle_acknowledge]

theorem firedAlerts_length (calls : List AlertCall) :
    (firedAlerts calls).length = (calls.filter AlertCall.isFire).length := by
  induction calls with
  | nil => rfl
  | cons c cs ih => cases c <;> simp [firedAlerts, ih, AlertCall.isFire]

/-- **The alerts of a run.** From a new manager, the alerts after any run are the fired ones in
order, one per `Fire` and none removed, each acknowledged at the first acknowledgement of its name
after it and never overwritten: an alert stays active exactly while no acknowledgement of its name
follows it. -/
theorem newAlertManager_run_alerts (channels : List String) (calls : List AlertCall) :
    ((newAlertManager channels).run calls).1.alerts = firedAlerts calls ∧
      (firedAlerts calls).length = (calls.filter AlertCall.isFire).length := by
  have h := (newAlertManager channels).run_alerts calls
  simp only [newAlertManager, List.map_nil, List.nil_append] at h
  exact ⟨h, firedAlerts_length calls⟩

theorem AlertManager.run_replicate_fire (am : AlertManager) (k : ℕ) (level : AlertLevel)
    (name condition message : String) (now : ℕ) :
    (am.run (List.replicate k (.fire level name condition message now))).1.alerts =
      am.alerts ++ List.replicate k ⟨level, name, condition, message, now, none⟩ := by
  induction k generalizing am with
  | zero => simp [AlertManager.run]
  | succ k ih =>
    simp [List.replicate_succ, AlertManager.run, AlertManager.step, AlertManager.fire, ih]

/-! ## The program's reconciliation alerts -/

/-- The mismatch callback `main` sets on the reconciler, fired at clock reading `now`:
`thresholdText` is the threshold as `%.1f` prints it. -/
def mismatchCallback (thresholdText venue : String) (now : ℕ) : AlertCall :=
  .fire .p1 "reconciliation_mismatch" ("position diff > " ++ thresholdText ++ "% on " ++ venue)
    ("Trading blocked for venue " ++ venue ++ " until resolved") now

/-- The portfolio with the alert manager that its reconciler's callback fires into. -/
structure Monitored where
  portfolio : Manager
  alertManager : AlertManager

/-- What changes the monitored portfolio: a portfolio event, or an operator's acknowledgement. -/
inductive MonitorEvent where
  | portfolio (e : PortfolioEvent)
  | acknowledgeAlert (name : String) (now : ℕ)

/-- One event: a reconciliation fires the callback once for each mismatch it finds. -/
def Monitored.step (r : Reconciler) (thresholdText : String) (s : Monitored) :
    MonitorEvent → Monitored
  | .portfolio (.reconcile venue balances positions now) =>
    let result := r.reconcileVenue s.portfolio venue balances positions now
    ⟨result.1,
      (s.alertManager.run (List.replicate result.2 (mismatchCallback thresholdText venue now))).1⟩
  | .portfolio e => ⟨r.step s.portfolio e, s.alertManager⟩
  | .acknowledgeAlert name now => ⟨s.portfolio, s.alertManager.acknowledgeAlert name now⟩

/-- **A reconciliation raises one alert per mismatch.** Over balances and positions of distinct
assets, a reconciliation adds to the active alerts one P1 `reconciliation_mismatch` alert naming
the venue for every reported balance and every reported position that fails the reconciler's
test against the portfolio before it. -/
theorem Monitored.step_reconcile_activeAlerts (r : Reconciler) (thresholdText : String)
    (s : Monitored) (venue : String) (balances : List (String × Balance))
    (positions : List Position) (now : ℕ) (hb : (balances.map Prod.fst).Nodup)
    (hp : (positions.map Position.asset).Nodup) :
    (s.step r thresholdText (.portfolio (.reconcile venue (.ok balances) (.ok positions) now))
      ).alertManager.activeAlerts =
      s.alertManager.activeAlerts ++ List.replicate
        ((balances.filter fun e => r.balanceMismatch s.portfolio venue e && r.hasMismatchCallback
          ).length +
          (positions.filter fun p => r.positionMismatch s.portfolio venue p && r.hasMismatchCallback
            ).length)
        ⟨.p1, "reconciliation_mismatch", "position diff > " ++ thresholdText ++ "% on " ++ venue,
          "Trading blocked for venue " ++ venue ++ " until resolved", now, none⟩ := by
  simp only [Monitored.step, mismatchCallback,
    r.reconcileVenue_calls venue s.portfolio balances positions now hb hp,
    AlertManager.activeAlerts, AlertManager.run_replicate_fire, List.filter_append,
    List.filter_replicate, decide_True, if_true]

/-- A reconciliation of `kcexPortfolio` with the program's reconciler, the venue reporting 20 BTC
against 10 and a perpetual of size 3 against 2: two alerts become active. -/
theorem Monitored.step_reconcile_activeAlerts_kcex :
    (([("BTC", ⟨"kcex", "BTC", 20, 0, 20⟩)] : List (String × Balance)).map Prod.fst).Nodup ∧
      (([⟨"kcex", "BTC", .perp, 3, 50000, 0, 0, 0⟩] : List Position).map Position.asset).Nodup ∧
      ((⟨kcexPortfolio, newAlertManager ["slack"]⟩ : Monitored).step mainReconciler "0.5"
          (.portfolio (.reconcile "kcex" (.ok [("BTC", ⟨"kcex", "BTC", 20, 0, 20⟩)])
            (.ok [⟨"kcex", "BTC", .perp, 3, 50000, 0, 0, 0⟩]) 0))
        ).alertManager.activeAlerts =
        List.replicate 2 ⟨.p1, "reconciliation_mismatch", "position diff > 0.5% on kcex",
          "Trading blocked for venue kcex until resolved", 0, none⟩ := by
  have hb : (([("BTC", ⟨"kcex", "BTC", 20, 0, 20⟩)] : List (String × Balance)).map Prod.fst).Nodup :=
    by simp
  have hp : (([⟨"kcex", "BTC", .perp, 3, 50000, 0, 0, 0⟩] : List Position).map
      Position.asset).Nodup := by simp
  refine ⟨hb, hp, ?_⟩
  rw [Monitored.step_reconcile_activeAlerts mainReconciler "0.5" _ "kcex" _ _ 0 hb hp]
  simp only [List.filter_cons, List.filter_nil, mainReconciler_kcexPortfolio_mismatch,
    show mainReconciler.hasMismatchCallback = true from rfl]
  rfl

end ArbitrageEngine.Monitor
