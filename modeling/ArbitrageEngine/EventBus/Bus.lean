import ArbitrageEngine.Domain.Types

/-!
# Event bus

`eventbus.EventBus` keeps, per topic, the list of subscriber channels, each buffered to
`bufferSize`. A publish sends the event to every subscriber with a `select` whose `default` case
drops it when the buffer is full; `Close` closes every channel. A send on a closed channel and a
second close of a channel panic in Go, so both are `none` here.

The six topics are one family: `subscribe`, `publish` and `closeAll` act on a topic's channel list,
and each `Subscribe*` and `Publish*` of the source is that function on its topic's field.
-/

set_option autoImplicit false

namespace ArbitrageEngine.Bus

variable {α : Type}

/-- A buffered channel: the queued values, the capacity, and whether it is closed. -/
structure Channel (α : Type) where
  buffer : List α
  capacity : Nat
  closed : Bool

/-- A send with a `default` case: queued when the buffer has room, dropped when it is full; a
send on a closed channel panics. -/
def Channel.trySend (ch : Channel α) (x : α) : Option (Channel α) :=
  if ch.closed then none
  else if ch.buffer.length < ch.capacity then some { ch with buffer := ch.buffer ++ [x] }
  else some ch

/-- A receive of the oldest queued value; `none` when nothing is queued. -/
def Channel.receive (ch : Channel α) : Option (α × Channel α) :=
  match ch.buffer with
  | [] => none
  | x :: xs => some (x, { ch with buffer := xs })

/-- `close`; closing a closed channel panics. -/
def Channel.close (ch : Channel α) : Option (Channel α) :=
  if ch.closed then none else some { ch with closed := true }

/-! ## One topic -/

/-- A new subscriber channel of the bus's buffer size, and its index. -/
def subscribe (subs : List (Channel α)) (bufferSize : Nat) : List (Channel α) × Nat :=
  (subs ++ [⟨[], bufferSize, false⟩], subs.length)

/-- A publish: a non-blocking send to every subscriber, in subscription order. -/
def publish (subs : List (Channel α)) (x : α) : Option (List (Channel α)) :=
  subs.mapM (·.trySend x)

/-- The part of `Close` for one topic. -/
def closeAll (subs : List (Channel α)) : Option (List (Channel α)) :=
  subs.mapM Channel.close

/-- A topic with no subscriber: a publish delivers nothing and changes nothing. -/
@[simp] theorem publish_nil (x : α) : publish ([] : List (Channel α)) x = some [] := rfl

/-- A publish on a topic with a closed channel panics. -/
theorem publish_of_closed (subs : List (Channel α)) (x : α) (h : ∃ ch ∈ subs, ch.closed = true) :
    publish subs x = none := by
  induction subs with
  | nil => simp at h
  | cons ch subs ih =>
    simp only [publish, List.mapM_cons] at ih ⊢
    by_cases hc : ch.closed = true
    · simp [Channel.trySend, hc]
    · rw [ih (by simpa [hc] using h)]
      cases ch.trySend x <;> rfl

/-- The close of a topic with a closed channel panics. -/
theorem closeAll_of_closed (subs : List (Channel α)) (h : ∃ ch ∈ subs, ch.closed = true) :
    closeAll subs = none := by
  induction subs with
  | nil => simp at h
  | cons ch subs ih =>
    simp only [closeAll, List.mapM_cons] at ih ⊢
    by_cases hc : ch.closed = true
    · simp [Channel.close, hc]
    · rw [ih (by simpa [hc] using h)]
      cases ch.close <;> rfl

/-- After a close every channel of the topic is closed, and there are as many as before. -/
theorem closeAll_closed {subs subs' : List (Channel α)} (h : closeAll subs = some subs') :
    subs'.length = subs.length ∧ ∀ ch ∈ subs', ch.closed = true := by
  induction subs generalizing subs' with
  | nil => cases h; simp
  | cons ch subs ih =>
    simp only [closeAll, List.mapM_cons, Option.bind_eq_bind, Option.bind_eq_some,
      Option.pure_def, Option.some.injEq] at h ih
    obtain ⟨c, hc, cs, hcs, rfl⟩ := h
    obtain ⟨hl, hall⟩ := ih hcs
    have : c.closed = true := by
      unfold Channel.close at hc; split at hc <;> cases hc; rfl
    simpa [hl, this] using hall

/-! ## The bus -/

/-- `eventbus.EventBus`. -/
structure EventBus where
  orderBookSubs : List (Channel OrderBookSnapshot)
  tradeSubs : List (Channel Trade)
  fundingRateSubs : List (Channel FundingRate)
  signalSubs : List (Channel TradeSignal)
  orderStateSubs : List (Channel OrderStateChange)
  execReportSubs : List (Channel ExecutionReport)
  bufferSize : Nat

/-- `New`: no subscriber yet. -/
def EventBus.new (bufferSize : Nat) : EventBus := ⟨[], [], [], [], [], [], bufferSize⟩

/-- `SubscribeOrderBook`. -/
def EventBus.subscribeOrderBook (b : EventBus) : EventBus × Nat :=
  let r := subscribe b.orderBookSubs b.bufferSize
  ({ b with orderBookSubs := r.1 }, r.2)

/-- `PublishOrderBook`. -/
def EventBus.publishOrderBook (b : EventBus) (snap : OrderBookSnapshot) : Option EventBus :=
  (publish b.orderBookSubs snap).map fun subs => { b with orderBookSubs := subs }

/-- `SubscribeTrade`. -/
def EventBus.subscribeTrade (b : EventBus) : EventBus × Nat :=
  let r := subscribe b.tradeSubs b.bufferSize
  ({ b with tradeSubs := r.1 }, r.2)

/-- `PublishTrade`. -/
def EventBus.publishTrade (b : EventBus) (trade : Trade) : Option EventBus :=
  (publish b.tradeSubs trade).map fun subs => { b with tradeSubs := subs }

/-- `SubscribeFundingRate`. -/
def EventBus.subscribeFundingRate (b : EventBus) : EventBus × Nat :=
  let r := subscribe b.fundingRateSubs b.bufferSize
  ({ b with fundingRateSubs := r.1 }, r.2)

/-- `PublishFundingRate`. -/
def EventBus.publishFundingRate (b : EventBus) (rate : FundingRate) : Option EventBus :=
  (publish b.fundingRateSubs rate).map fun subs => { b with fundingRateSubs := subs }

/-- `SubscribeSignal`. -/
def EventBus.subscribeSignal (b : EventBus) : EventBus × Nat :=
  let r := subscribe b.signalSubs b.bufferSize
  ({ b with signalSubs := r.1 }, r.2)

/-- `PublishSignal`. -/
def EventBus.publishSignal (b : EventBus) (signal : TradeSignal) : Option EventBus :=
  (publish b.signalSubs signal).map fun subs => { b with signalSubs := subs }

/-- `SubscribeOrderState`. -/
def EventBus.subscribeOrderState (b : EventBus) : EventBus × Nat :=
  let r := subscribe b.orderStateSubs b.bufferSize
  ({ b with orderStateSubs := r.1 }, r.2)

/-- `PublishOrderState`. -/
def EventBus.publishOrderState (b : EventBus) (change : OrderStateChange) : Option EventBus :=
  (publish b.orderStateSubs change).map fun subs => { b with orderStateSubs := subs }

/-- `SubscribeExecutionReport`. -/
def EventBus.subscribeExecutionReport (b : EventBus) : EventBus × Nat :=
  let r := subscribe b.execReportSubs b.bufferSize
  ({ b with execReportSubs := r.1 }, r.2)

/-- `PublishExecutionReport`. -/
def EventBus.publishExecutionReport (b : EventBus) (report : ExecutionReport) :
    Option EventBus :=
  (publish b.execReportSubs report).map fun subs => { b with execReportSubs := subs }

/-- `Close`: every channel of every topic, in the source's order. -/
def EventBus.close (b : EventBus) : Option EventBus := do
  let ob ← closeAll b.orderBookSubs
  let tr ← closeAll b.tradeSubs
  let fr ← closeAll b.fundingRateSubs
  let sg ← closeAll b.signalSubs
  let os ← closeAll b.orderStateSubs
  let er ← closeAll b.execReportSubs
  pure ⟨ob, tr, fr, sg, os, er, b.bufferSize⟩

/-- A successful `Close` leaves the bus's order-state subscribers in place, each channel closed. -/
theorem EventBus.close_orderStateSubs {b b' : EventBus} (h : b.close = some b') :
    b'.orderStateSubs.length = b.orderStateSubs.length ∧
      ∀ ch ∈ b'.orderStateSubs, ch.closed = true := by
  simp only [EventBus.close, Option.bind_eq_bind, Option.bind_eq_some, Option.pure_def,
    Option.some.injEq] at h
  obtain ⟨_, -, _, -, _, -, _, -, os, hos, _, -, rfl⟩ := h
  exact closeAll_closed hos

/-- **Publishing after `Close` panics.** Once the bus is closed, a `PublishOrderState` on a bus
with an order-state subscriber sends on a closed channel, and a second `Close` closes a closed
channel: both panic, whatever else the bus holds. -/
theorem EventBus.publishOrderState_after_close (b b' : EventBus) (change : OrderStateChange)
    (hsub : b.orderStateSubs ≠ []) (hclose : b.close = some b') :
    b'.publishOrderState change = none ∧ b'.close = none := by
  obtain ⟨hlen, hall⟩ := EventBus.close_orderStateSubs hclose
  have hne : ∃ ch ∈ b'.orderStateSubs, ch.closed = true := by
    obtain ⟨ch, hch⟩ := List.exists_mem_of_length_pos
      (hlen ▸ List.length_pos.mpr hsub : 0 < b'.orderStateSubs.length)
    exact ⟨ch, hch, hall ch hch⟩
  refine ⟨by simp [EventBus.publishOrderState, publish_of_closed _ _ hne], ?_⟩
  simp [EventBus.close, closeAll_of_closed _ hne]

/-- An order-state change of an acknowledged order. -/
def acknowledgedChange : OrderStateChange :=
  ⟨⟨1, "v-1", 7, "kcex", "BTC/USDT", .buy, .limit, 50000, 1, 0, 0, .acknowledged, 0, 0⟩,
    .submitted, .acknowledged, 0⟩

/-- The shutdown of `main` with an execution task still running: one order-state subscriber,
`Close`, then the task's `PublishOrderState`, and a second `Close`. -/
theorem shutdown_publish_panics :
    (EventBus.new 1000).subscribeOrderState.1.orderStateSubs ≠ [] ∧
      (EventBus.new 1000).subscribeOrderState.1.close =
        some ⟨[], [], [], [], [⟨[], 1000, true⟩], [], 1000⟩ ∧
      (EventBus.publishOrderState ⟨[], [], [], [], [⟨[], 1000, true⟩], [], 1000⟩
        acknowledgedChange = none ∧
        EventBus.close ⟨[], [], [], [], [⟨[], 1000, true⟩], [], 1000⟩ = none) :=
  ⟨List.cons_ne_nil _ _, rfl,
    EventBus.publishOrderState_after_close (EventBus.new 1000).subscribeOrderState.1 _ _
      (List.cons_ne_nil _ _) rfl⟩

end ArbitrageEngine.Bus
