import ArbitrageEngine.Strategy.BasisArb

/-!
# Strategy engine

`strategy.Engine` (the source keeps it in `internal/order/manager.go`) holds its modules in
registration order. `Run` subscribes to the bus's order books and funding rates, and hands each
book it receives to every module's `OnOrderBookUpdate` and each funding rate to every module's
`OnFundingRateUpdate`, in registration order, until the context is done or a channel is closed.
A run is the list of books and rates it receives before then, in the order it receives them;
`select` picks either channel when both are ready, so any interleaving of the two is a run. The
modules of the program are the triangular module, which ignores funding rates, and the basis
module.

The engine passes every event to every module and nothing from one module to another: each
module ends a run as it would alone on the same events (`Engine.run_modules`), and the engine
publishes exactly the signals its modules would publish alone (`Engine.mem_run_signals`). A
triangular module publishes only triangular signals for its own venue, with a leg and a positive
expected edge, along any run (`Module.run_triArb_signals`).
-/

set_option autoImplicit false

namespace ArbitrageEngine.Strategy

/-- A `strategy.Module` of the program. -/
inductive Module where
  | triArb (m : TriArbModule)
  | basisArb (m : BasisArbModule)

/-- `OnOrderBookUpdate` or `OnFundingRateUpdate` of a module, with the signals it publishes;
`TriArbModule.OnFundingRateUpdate` does nothing. -/
def Module.step : Module → BasisEvent → Module × List TradeSignal
  | .triArb m, .book snap => (.triArb (m.onOrderBookUpdate snap).1, (m.onOrderBookUpdate snap).2)
  | .triArb m, .funding _ => (.triArb m, [])
  | .basisArb m, e => (.basisArb (m.step e).1, (m.step e).2)

/-- A module alone on a run of events, with every signal it publishes. -/
def Module.run (m : Module) : List BasisEvent → Module × List TradeSignal
  | [] => (m, [])
  | e :: es =>
    let r := (m.step e).1.run es
    (r.1, (m.step e).2 ++ r.2)

/-- `strategy.Engine`: the registered modules. -/
structure Engine where
  modules : List Module

/-- `NewEngine`: no module. -/
def Engine.new : Engine := ⟨[]⟩

/-- `RegisterModule`: appended after the modules registered before. -/
def Engine.registerModule (e : Engine) (m : Module) : Engine := ⟨e.modules ++ [m]⟩

/-- One event of `Run`: every module in registration order, and the signals they publish in that
order. -/
def Engine.step (e : Engine) (ev : BasisEvent) : Engine × List TradeSignal :=
  (⟨e.modules.map fun m => (m.step ev).1⟩, e.modules.flatMap fun m => (m.step ev).2)

/-- `Run` on the events it receives, with every signal published along it. -/
def Engine.run (e : Engine) : List BasisEvent → Engine × List TradeSignal
  | [] => (e, [])
  | ev :: evs =>
    let r := (e.step ev).1.run evs
    (r.1, (e.step ev).2 ++ r.2)

/-- Registering a module for each item of a list, in order, appends them in that order. -/
theorem Engine.foldl_registerModule {α : Type} (e : Engine) (l : List α) (g : α → Module) :
    (l.foldl (fun e x => e.registerModule (g x)) e).modules = e.modules ++ l.map g := by
  induction l generalizing e with
  | nil => simp
  | cons x l ih =>
    rw [List.foldl_cons, ih]
    simp [Engine.registerModule]

/-! ## The modules do not interfere -/

/-- **Each module runs as alone.** After any run, each module is as it would be after the same
events on its own. -/
theorem Engine.run_modules (e : Engine) (evs : List BasisEvent) :
    (e.run evs).1.modules = e.modules.map fun m => (m.run evs).1 := by
  induction evs generalizing e with
  | nil => simp [Engine.run, Module.run]
  | cons ev evs ih => simp [Engine.run, Module.run, Engine.step, ih]

/-- **The engine publishes its modules' signals.** A signal is published along a run exactly when
one of the modules would publish it alone on the same events. -/
theorem Engine.mem_run_signals (e : Engine) (evs : List BasisEvent) (s : TradeSignal) :
    s ∈ (e.run evs).2 ↔ ∃ m ∈ e.modules, s ∈ (m.run evs).2 := by
  induction evs generalizing e with
  | nil => simp [Engine.run, Module.run]
  | cons ev evs ih =>
    simp only [Engine.run, Module.run, List.mem_append, ih, Engine.step, List.mem_flatMap,
      List.mem_map]
    constructor
    · rintro (⟨m, hm, hs⟩ | ⟨_, ⟨m, hm, rfl⟩, hs⟩)
      · exact ⟨m, hm, .inl hs⟩
      · exact ⟨m, hm, .inr hs⟩
    · rintro ⟨m, hm, hs | hs⟩
      · exact .inl ⟨m, hm, hs⟩
      · exact .inr ⟨_, ⟨m, hm, rfl⟩, hs⟩

/-! ## What each module publishes -/

/-- The basis module on a run is `BasisArbModule.run`. -/
theorem Module.run_basisArb (m : BasisArbModule) (evs : List BasisEvent) :
    (Module.basisArb m).run evs = (.basisArb (m.run evs).1, (m.run evs).2) := by
  induction evs generalizing m with
  | nil => rfl
  | cons ev evs ih => simp [Module.run, Module.step, BasisArbModule.run, ih]

/-- What a triangular module's signals satisfy: a triangular signal for the module's venue, with a
leg and a positive expected edge. -/
def TriSignalOk (venue : String) (s : TradeSignal) : Prop :=
  s.strategy = .triArb ∧ s.venue = venue ∧ s.legs ≠ [] ∧ 0 < s.expectedEdgeBps

/-- A book update publishes only triangular signals for the module's venue. -/
theorem TriArbModule.onOrderBookUpdate_signals (m : TriArbModule) (snap : OrderBookSnapshot) :
    ∀ s ∈ (m.onOrderBookUpdate snap).2, TriSignalOk m.venue s := by
  intro s hs
  unfold TriArbModule.onOrderBookUpdate at hs
  split_ifs at hs
  · cases hs
  · obtain ⟨_, -, -, _, -, -, _, hb⟩ := TriArbModule.mem_evaluate hs
    obtain ⟨_, -, -, hlegs, hedge, hstrategy, hvenue⟩ := TriArbModule.buildSignal_eq_some hb
    exact ⟨hstrategy, hvenue, hlegs, hedge⟩

/-- **A triangular module publishes triangular signals for its venue**, each with a leg and a
positive expected edge, along any run. -/
theorem Module.run_triArb_signals (m : TriArbModule) (evs : List BasisEvent) :
    ∀ s ∈ ((Module.triArb m).run evs).2, TriSignalOk m.venue s := by
  induction evs generalizing m with
  | nil => simp [Module.run]
  | cons ev evs ih =>
    cases ev with
    | book snap =>
      simp only [Module.run, Module.step, List.mem_append]
      rintro s (hs | hs)
      · exact m.onOrderBookUpdate_signals snap s hs
      · simpa using ih _ s hs
    | funding rate =>
      simpa [Module.run, Module.step] using ih m

end ArbitrageEngine.Strategy
