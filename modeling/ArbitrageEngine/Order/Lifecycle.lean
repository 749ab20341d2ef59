import ArbitrageEngine.Order.Manager

/-!
# Order status lifecycle

What the order manager's writers do to one order's status. `updateStatus` sets the status it is
given and publishes the change with the previous status, whatever that was
(`Manager.updateStatus_held`); `cancelOrder` calls it with `CANCELLED` whenever the venue accepts
the cancel (`Manager.cancelOrder_ok`), so a `FILLED`, `REJECTED` or `SUBMIT_FAILED` order becomes
`CANCELLED` and a change with a terminal previous status is published. `submitOrder` adopts the
acknowledged status without any fill data, so an order acknowledged as `FILLED` keeps a filled
size of zero. `filled_ack_then_cancelled` replays both on one order.
-/

set_option autoImplicit false

namespace ArbitrageEngine.Orders

/-- `updateStatus` on a held order overwrites its status and publishes the change from the
status it had, terminal or not. -/
theorem Manager.updateStatus_held (m : Manager) (id : Uuid) (addr : Nat) (s : OrderStatus)
    (now : Nat) (h : m.orders.lookup id = some addr) :
    (m.updateStatus id s now).heap addr = { m.heap addr with status := s, updatedAt := now } ∧
      (m.updateStatus id s now).published = m.published ++
        [⟨{ m.heap addr with status := s, updatedAt := now }, (m.heap addr).status, s, now⟩] := by
  simp [Manager.updateStatus, h]

/-- **A cancel the venue accepts cancels any held order.** The order of `id` becomes `CANCELLED`
and the published change carries its previous status, terminal or not. -/
theorem Manager.cancelOrder_ok (m : Manager) (id : Uuid) (addr : Nat) (now : Nat)
    (h : m.orders.lookup id = some addr) (hv : (m.heap addr).venue ∈ m.gateways) :
    ((m.cancelOrder id now .ok).1.heap addr).status = .cancelled ∧
      (m.cancelOrder id now .ok).1.published.getLast? =
        some ⟨{ m.heap addr with status := .cancelled, updatedAt := now }, (m.heap addr).status,
          .cancelled, now⟩ := by
  have hu := m.updateStatus_held id addr .cancelled now h
  simp only [Manager.cancelOrder, h, hv, not_true_eq_false, if_false]
  exact ⟨by rw [hu.1], by rw [hu.2, List.getLast?_append, List.getLast?_singleton]; rfl⟩

/-- A limit buy of one BTC on a venue with a gateway, keyed as the execution engine keys it. -/
def filledAckRequest : OrderRequest :=
  ⟨1, 7, "nobitex", "BTC/USDT", .buy, .spot, .limit, 50000, 1, "7-leg-0"⟩

/-- The manager after the venue acknowledges `filledAckRequest` as `FILLED`. -/
def filledAckManager : Manager :=
  ((Manager.new ["nobitex"]).submitOrder filledAckRequest 0 (.ack ⟨"v-1", .filled⟩)).1

/-- The venue acknowledges the order as `FILLED`, the manager keeps a filled size of `0` of a size
of `1`, and a cancel the venue accepts then turns the `FILLED` order into `CANCELLED`, publishing
a change whose previous status is `FILLED`. -/
theorem filled_ack_then_cancelled :
    (filledAckManager.heap 0).status = .filled ∧ (filledAckManager.heap 0).filledSize = 0 ∧
      (filledAckManager.heap 0).size = 1 ∧
      ((filledAckManager.cancelOrder 1 1 .ok).1.heap 0).status = .cancelled ∧
      (filledAckManager.cancelOrder 1 1 .ok).1.published.map (·.prevStatus) =
        [.unset, .pendingNew, .submitted, .filled] :=
  ⟨by decide, rfl, rfl, (filledAckManager.cancelOrder_ok 1 0 1 (by decide) (by decide)).1, by decide⟩

end ArbitrageEngine.Orders
