import ArbitrageEngine.Risk.Manager

/-!
# Risk modes over a run

The risk manager's calls as one step function, `Manager.apply`, and a run as a fold of it. Only
three calls write the mode or the kill switch: `checkPnLLimits` (also at the end of
`onOrderFill`), `activateKillSwitch` and `deactivateKillSwitch`. `apply_modeSwitch` says once
what a call can do to the pair (mode, kill switch active): keep it, halt with the switch on, go
back to `NORMAL` with the switch off (only `deactivateKillSwitch`), or move `NORMAL` to `WARNING`.
Every mode fact below is derived from it.

`HALTED` holds exactly when the switch is active in every state a run reaches from a state where
it holds (`run_modeAgrees`), so along every run from a `NewManager` whose file restores no active
switch (`newManager_run_modeAgrees`). `NewManager` starts in `NORMAL` whatever the switch it
restores, so after a restart with an active switch the mode is `NORMAL` while the switch is on
(`restart_with_active_switch_mode_normal`).
-/

set_option autoImplicit false

namespace ArbitrageEngine.Risk

open ArbitrageEngine.MarketData

/-- The calls the risk manager receives. -/
inductive Op where
  | validateSignal (md : Service) (now : Nat) (signal : TradeSignal)
  | onOrderFill (order : Order) (pnl : Decimal) (now : Nat)
  | onOrderStateChange (change : OrderStateChange)
  | updatePosition (key : VenueAssetKey) (pos : Position)
  | checkPnLLimits (now : Nat)
  | activateKillSwitch (reason : String) (now : Nat)
  | deactivateKillSwitch
  | setKillSwitchCallback

/-- The state after one call; `ValidateSignal` writes nothing. -/
def Manager.apply (m : Manager) : Op → Manager
  | .validateSignal _ _ _ => m
  | .onOrderFill order pnl now => m.onOrderFill order pnl now
  | .onOrderStateChange change => m.onOrderStateChange change
  | .updatePosition key pos => m.updatePosition key pos
  | .checkPnLLimits now => m.checkPnLLimits now
  | .activateKillSwitch reason now => m.activateKillSwitch reason now
  | .deactivateKillSwitch => m.deactivateKillSwitch
  | .setKillSwitchCallback => m.setKillSwitchCallback

/-- A sequence of calls. -/
def Manager.run (m : Manager) (ops : List Op) : Manager := ops.foldl Manager.apply m

/-- The mode and whether the kill switch is active. -/
def Manager.modeSwitch (m : Manager) : RiskMode × Bool := (m.state.mode, m.killSwitch.active)

/-- The mode is `HALTED` exactly when the kill switch is active. -/
def Manager.ModeAgrees (m : Manager) : Prop := m.state.mode = .halted ↔ m.killSwitch.active = true

/-! ## What one call does to the mode -/

/-- `checkPnLLimits` halts with the switch on, moves `NORMAL` to `WARNING`, or changes neither. -/
theorem Manager.checkPnLLimits_modeSwitch (m : Manager) (now : Nat) :
    (m.checkPnLLimits now).modeSwitch = (.halted, true) ∨
      (m.checkPnLLimits now).modeSwitch = m.modeSwitch ∨
      (m.state.mode = .normal ∧
        (m.checkPnLLimits now).modeSwitch = (.warning, m.killSwitch.active)) := by
  simp only [Manager.checkPnLLimits]
  split_ifs <;>
    first | exact .inl rfl | exact .inr (.inl rfl) | exact .inr (.inr ⟨‹_›, rfl⟩)

/-- `onOrderFill` writes the mode only through its final `checkPnLLimits`. -/
theorem Manager.onOrderFill_modeSwitch (m : Manager) (order : Order) (pnl : Decimal) (now : Nat) :
    (m.onOrderFill order pnl now).modeSwitch = (.halted, true) ∨
      (m.onOrderFill order pnl now).modeSwitch = m.modeSwitch ∨
      (m.state.mode = .normal ∧
        (m.onOrderFill order pnl now).modeSwitch = (.warning, m.killSwitch.active)) :=
  Manager.checkPnLLimits_modeSwitch _ now

/-- **What a call can do to the mode.** Keep mode and switch, halt with the switch on, return to
`NORMAL` with the switch off by `deactivateKillSwitch`, or move `NORMAL` to `WARNING`. -/
theorem Manager.apply_modeSwitch (m : Manager) (op : Op) :
    (m.apply op).modeSwitch = m.modeSwitch ∨ (m.apply op).modeSwitch = (.halted, true) ∨
      (op = .deactivateKillSwitch ∧ (m.apply op).modeSwitch = (.normal, false)) ∨
      (m.state.mode = .normal ∧ (m.apply op).modeSwitch = (.warning, m.killSwitch.active)) := by
  cases op with
  | onOrderFill order pnl now =>
    rcases m.onOrderFill_modeSwitch order pnl now with h | h | h <;> simp [Manager.apply, h]
  | checkPnLLimits now =>
    rcases m.checkPnLLimits_modeSwitch now with h | h | h <;> simp [Manager.apply, h]
  | activateKillSwitch => exact .inr (.inl rfl)
  | deactivateKillSwitch => exact .inr (.inr (.inl ⟨rfl, rfl⟩))
  | _ => exact .inl rfl

/-! ## Invariants of a run -/

/-- Every call keeps the mode agreeing with the switch. -/
theorem Manager.apply_modeAgrees (m : Manager) (op : Op) (h : m.ModeAgrees) :
    (m.apply op).ModeAgrees := by
  have hm : (m.apply op).ModeAgrees ↔
      ((m.apply op).modeSwitch.1 = .halted ↔ (m.apply op).modeSwitch.2 = true) := Iff.rfl
  rcases m.apply_modeSwitch op with e | e | ⟨-, e⟩ | ⟨hn, e⟩ <;> rw [hm, e]
  · exact h
  · simp
  · simp
  · simp [Manager.ModeAgrees, hn] at h
    simp [h]

/-- **Mode and switch agree along a run** that starts where they agree. -/
theorem Manager.run_modeAgrees (m : Manager) (ops : List Op) (h : m.ModeAgrees) :
    (m.run ops).ModeAgrees := by
  induction ops generalizing m with
  | nil => exact h
  | cons op ops ih => exact ih _ (m.apply_modeAgrees op h)

/-! ## Restart -/

/-- **A run from `NewManager` keeps mode and switch in agreement** when the file does not restore
an active switch. -/
theorem newManager_run_modeAgrees (cfg : RiskConfig) (path : String) (file : Option (List Char))
    (now : Nat) (ops : List Op) (h : (newKillSwitch path file).active = false) :
    ((newManager cfg path file now).run ops).ModeAgrees :=
  Manager.run_modeAgrees _ ops (by simp [Manager.ModeAgrees, newManager, h])

/-- A first start with no file, then a manual halt: the mode is `HALTED` with the switch on. -/
theorem newManager_run_modeAgrees_manualHalt :
    (newKillSwitch "data/killswitch.json" none).active = false ∧
      ((newManager sampleRiskConfig "data/killswitch.json" none 0).run
        [.checkPnLLimits 1, .activateKillSwitch "manual halt" 5]).ModeAgrees ∧
      ((newManager sampleRiskConfig "data/killswitch.json" none 0).run
        [.checkPnLLimits 1, .activateKillSwitch "manual halt" 5]).state.mode = .halted :=
  ⟨rfl, newManager_run_modeAgrees _ _ _ _ _ rfl, rfl⟩

/-- A manager restarted on the file an activation left starts in `NORMAL` with the switch on. -/
def restartedAfterActivation : Manager :=
  newManager sampleRiskConfig "data/killswitch.json"
    ((newKillSwitch "data/killswitch.json" none).activate "manual halt"
      1700000000000000000).persistState 1700000060000000000

/-- After the restart the switch is active and the mode is `NORMAL`. -/
theorem restart_with_active_switch_mode_normal :
    restartedAfterActivation.killSwitch.active = true ∧
      restartedAfterActivation.state.mode = .normal := by decide

end ArbitrageEngine.Risk
