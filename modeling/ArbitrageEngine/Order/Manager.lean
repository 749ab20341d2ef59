import ArbitrageEngine.Domain.Types
import Mathlib.Logic.Function.Basic

/-!
# Order manager

`order.Manager` keeps its orders as pointers: the map `orders` takes an internal ID to an order
object, and `SubmitOrder` keeps writing through the pointer it created after the map may have
changed. The model keeps the objects on a heap (`heap`, addresses below `next`) and maps IDs to
addresses, so a write through a pointer and a write through the map are the same write exactly
when the map still holds that pointer. `venueIDMap` and `idempotencyMap` map strings to internal
IDs; `published` is the sequence of `OrderStateChange`s handed to the bus.

Each locked section of the source is one function here: `register` (the idempotency lookup or the
creation of a `PENDING_NEW` order), `updateStatus`, `recordAck`, `updateOrderFill`,
`cleanupStaleOrders`; `publish` is the unlocked publication of a pointer's order. `submitOrder`,
`cancelOrder` and `cancelAllOrders` compose them as the source does when nothing interleaves;
`Order/Concurrent` interleaves the same sections. A venue's answer to `PlaceOrder` or
`CancelOrder` is an argument: any outcome the gateway can give.
-/

set_option autoImplicit false

namespace ArbitrageEngine.Orders

/-- `order.Manager`. `gateways` lists the venues that have a gateway. -/
structure Manager where
  heap : Nat → Order
  next : Nat
  orders : AList (fun _ : Uuid => Nat)
  venueIDMap : String → Option Uuid
  idempotencyMap : String → Option Uuid
  gateways : List String
  published : List OrderStateChange

/-- The object at an unallocated address; the model never reads one. -/
def blankOrder : Order :=
  ⟨0, "", 0, "", "", .buy, .limit, 0, 0, 0, 0, .unset, 0, 0⟩

/-- `NewManager`: empty maps, nothing published. -/
def Manager.new (gateways : List String) : Manager :=
  ⟨fun _ => blankOrder, 0, ∅, fun _ => none, fun _ => none, gateways, []⟩

/-- A venue's answer to `PlaceOrder`: an error, or an acknowledgement. -/
inductive PlaceOutcome where
  | failed
  | ack (a : OrderAck)

/-- A venue's answer to `CancelOrder`. -/
inductive CancelOutcome where
  | failed
  | ok

/-- The errors `SubmitOrder` returns. -/
inductive SubmitError where
  | unknownVenue
  | placeOrder
  deriving DecidableEq, Repr

/-- The errors `CancelOrder` returns. -/
inductive CancelError where
  | notFound
  | unknownVenue
  | cancelOrder
  deriving DecidableEq, Repr

/-! ## Locked sections -/

/-- What the first locked section of `SubmitOrder` found: the order an already-used key maps to
(`none` is a nil pointer), or the address of the new `PENDING_NEW` order. -/
inductive Admission where
  | existing (addr : Option Nat)
  | fresh (addr : Nat)

/-- The internal ID a request's idempotency key already maps to; an empty key maps to none. -/
def Manager.keyed (m : Manager) (req : OrderRequest) : Option Uuid :=
  if req.idempotencyKey = "" then none else m.idempotencyMap req.idempotencyKey

/-- The `PENDING_NEW` order `SubmitOrder` builds from a request. -/
def newOrder (req : OrderRequest) (now : Nat) : Order :=
  ⟨req.internalID, "", req.signalID, req.venue, req.symbol, req.side, req.orderType, req.price,
    req.size, 0, 0, .pendingNew, now, now⟩

/-- The first locked section of `SubmitOrder`. -/
def Manager.register (m : Manager) (req : OrderRequest) (now : Nat) : Manager × Admission :=
  match m.keyed req with
  | some id => (m, .existing (m.orders.lookup id))
  | none =>
    ({ m with heap := Function.update m.heap m.next (newOrder req now),
              next := m.next + 1,
              orders := m.orders.insert req.internalID m.next,
              idempotencyMap := if req.idempotencyKey = "" then m.idempotencyMap
                else Function.update m.idempotencyMap req.idempotencyKey (some req.internalID) },
      .fresh m.next)

/-- `publishStateChange`: publish a copy of the order a pointer points to. -/
def Manager.publish (m : Manager) (addr : Nat) (prev new : OrderStatus) (now : Nat) : Manager :=
  { m with published := m.published ++ [⟨m.heap addr, prev, new, now⟩] }

/-- Write an order object. -/
def Manager.write (m : Manager) (addr : Nat) (o : Order) : Manager :=
  { m with heap := Function.update m.heap addr o }

/-- `updateStatus`: look the ID up, set the status, publish the change, whatever the previous
status was. -/
def Manager.updateStatus (m : Manager) (id : Uuid) (status : OrderStatus) (now : Nat) :
    Manager :=
  match m.orders.lookup id with
  | none => m
  | some addr =>
    let o := m.heap addr
    (m.write addr { o with status := status, updatedAt := now }).publish addr o.status status now

/-- The locked section of `SubmitOrder` after an acknowledgement: through the pointer, adopt the
venue ID and the acknowledged status, and map the venue ID to the order. -/
def Manager.recordAck (m : Manager) (addr : Nat) (ack : OrderAck) (now : Nat) : Manager :=
  let o := m.heap addr
  { m.write addr { o with venueID := ack.venueID, status := ack.status, updatedAt := now } with
    venueIDMap := Function.update m.venueIDMap ack.venueID (some o.internalID) }

/-- The status `UpdateOrderFill` gives an order of size `size` and previous status `prev`. -/
def fillStatus (size filledSize : Decimal) (prev : OrderStatus) : OrderStatus :=
  if filledSize ≥ size then .filled else if filledSize > 0 then .partialFill else prev

/-- `UpdateOrderFill`: record the fill, move to `FILLED` or `PARTIAL_FILL`, publish a change of
status. -/
def Manager.updateOrderFill (m : Manager) (id : Uuid) (filledSize avgPrice : Decimal)
    (now : Nat) : Manager :=
  match m.orders.lookup id with
  | none => m
  | some addr =>
    let o := m.heap addr
    let status := fillStatus o.size filledSize o.status
    let m := m.write addr { o with filledSize := filledSize, avgFillPrice := avgPrice,
                                   updatedAt := now, status := status }
    if o.status = status then m else m.publish addr o.status status now

/-- The orders `CleanupStaleOrders` removes: terminal and last updated more than `maxAge` ago. -/
def Manager.staleIds (m : Manager) (maxAge now : Nat) : List Uuid :=
  m.orders.entries.filterMap fun e =>
    if (m.heap e.2).status.isTerminal ∧ (m.heap e.2).updatedAt + maxAge < now then some e.1
    else none

/-- Remove one order and, when its venue ID is not empty, that venue ID's entry. -/
def Manager.removeOrder (m : Manager) (id : Uuid) : Manager :=
  let vid := ((m.orders.lookup id).map fun a => (m.heap a).venueID).getD ""
  { m with orders := m.orders.erase id,
           venueIDMap := if vid = "" then m.venueIDMap else Function.update m.venueIDMap vid none }

/-- `CleanupStaleOrders`. The idempotency map is left as it is. -/
def Manager.cleanupStaleOrders (m : Manager) (maxAge now : Nat) : Manager :=
  (m.staleIds maxAge now).foldl Manager.removeOrder m

/-! ## Operations without interleaving -/

/-- `SubmitOrder` run to completion: the returned pointer (possibly nil) or an error. -/
def Manager.submitOrder (m : Manager) (req : OrderRequest) (now : Nat) (place : PlaceOutcome) :
    Manager × Except SubmitError (Option Nat) :=
  match m.register req now with
  | (m, .existing addr) => (m, .ok addr)
  | (m, .fresh addr) =>
    let m := m.publish addr .unset .pendingNew now
    if req.venue ∉ m.gateways then
      (m.updateStatus req.internalID .submitFailed now, .error .unknownVenue)
    else
      let m := m.updateStatus req.internalID .submitted now
      match place with
      | .failed => (m.updateStatus req.internalID .submitFailed now, .error .placeOrder)
      | .ack a => ((m.recordAck addr a now).publish addr .submitted a.status now, .ok (some addr))

/-- `CancelOrder` run to completion: on the venue's success the order becomes `CANCELLED`,
whatever its status was. -/
def Manager.cancelOrder (m : Manager) (id : Uuid) (now : Nat) (cancel : CancelOutcome) :
    Manager × Except CancelError Unit :=
  match m.orders.lookup id with
  | none => (m, .error .notFound)
  | some addr =>
    if (m.heap addr).venue ∉ m.gateways then (m, .error .unknownVenue)
    else
      match cancel with
      | .failed => (m, .error .cancelOrder)
      | .ok => (m.updateStatus id .cancelled now, .ok ())

/-- The IDs `CancelAllOrders` collects: the non-terminal orders, in the table's order (the
source's map iteration order is unspecified). -/
def Manager.activeIds (m : Manager) : List Uuid :=
  m.orders.entries.filterMap fun e => if (m.heap e.2).status.isTerminal then none else some e.1

/-- `CancelAllOrders` run to completion; the `i`-th cancel gets the venue's answer `cancel i`. -/
def Manager.cancelAllOrders (m : Manager) (now : Nat) (cancel : Nat → CancelOutcome) :
    Manager :=
  m.activeIds.enum.foldl (fun m p => (m.cancelOrder p.2 now (cancel p.1)).1) m

/-! ## Frame lemmas -/

@[simp] theorem Manager.write_orders (m : Manager) (addr : Nat) (o : Order) :
    (m.write addr o).orders = m.orders := rfl

@[simp] theorem Manager.write_heap (m : Manager) (addr : Nat) (o : Order) :
    (m.write addr o).heap = Function.update m.heap addr o := rfl

@[simp] theorem Manager.write_published (m : Manager) (addr : Nat) (o : Order) :
    (m.write addr o).published = m.published := rfl

@[simp] theorem Manager.write_gateways (m : Manager) (addr : Nat) (o : Order) :
    (m.write addr o).gateways = m.gateways := rfl

@[simp] theorem Manager.write_idempotencyMap (m : Manager) (addr : Nat) (o : Order) :
    (m.write addr o).idempotencyMap = m.idempotencyMap := rfl

@[simp] theorem Manager.write_venueIDMap (m : Manager) (addr : Nat) (o : Order) :
    (m.write addr o).venueIDMap = m.venueIDMap := rfl

@[simp] theorem Manager.write_next (m : Manager) (addr : Nat) (o : Order) :
    (m.write addr o).next = m.next := rfl

@[simp] theorem Manager.publish_heap (m : Manager) (addr : Nat) (p q : OrderStatus) (t : Nat) :
    (m.publish addr p q t).heap = m.heap := rfl

@[simp] theorem Manager.publish_orders (m : Manager) (addr : Nat) (p q : OrderStatus) (t : Nat) :
    (m.publish addr p q t).orders = m.orders := rfl

@[simp] theorem Manager.publish_published (m : Manager) (addr : Nat) (p q : OrderStatus)
    (t : Nat) : (m.publish addr p q t).published = m.published ++ [⟨m.heap addr, p, q, t⟩] := rfl

@[simp] theorem Manager.publish_gateways (m : Manager) (addr : Nat) (p q : OrderStatus) (t : Nat) :
    (m.publish addr p q t).gateways = m.gateways := rfl

@[simp] theorem Manager.publish_idempotencyMap (m : Manager) (addr : Nat) (p q : OrderStatus)
    (t : Nat) : (m.publish addr p q t).idempotencyMap = m.idempotencyMap := rfl

@[simp] theorem Manager.publish_venueIDMap (m : Manager) (addr : Nat) (p q : OrderStatus)
    (t : Nat) : (m.publish addr p q t).venueIDMap = m.venueIDMap := rfl

@[simp] theorem Manager.publish_next (m : Manager) (addr : Nat) (p q : OrderStatus) (t : Nat) :
    (m.publish addr p q t).next = m.next := rfl

@[simp] theorem Manager.updateStatus_orders (m : Manager) (id : Uuid) (s : OrderStatus) (t : Nat) :
    (m.updateStatus id s t).orders = m.orders := by
  unfold Manager.updateStatus; split <;> rfl

@[simp] theorem Manager.updateStatus_gateways (m : Manager) (id : Uuid) (s : OrderStatus) (t : Nat) :
    (m.updateStatus id s t).gateways = m.gateways := by
  unfold Manager.updateStatus; split <;> rfl

@[simp] theorem Manager.updateStatus_idempotencyMap (m : Manager) (id : Uuid) (s : OrderStatus)
    (t : Nat) : (m.updateStatus id s t).idempotencyMap = m.idempotencyMap := by
  unfold Manager.updateStatus; split <;> rfl

@[simp] theorem Manager.updateStatus_venueIDMap (m : Manager) (id : Uuid) (s : OrderStatus)
    (t : Nat) : (m.updateStatus id s t).venueIDMap = m.venueIDMap := by
  unfold Manager.updateStatus; split <;> rfl

@[simp] theorem Manager.updateStatus_next (m : Manager) (id : Uuid) (s : OrderStatus) (t : Nat) :
    (m.updateStatus id s t).next = m.next := by
  unfold Manager.updateStatus; split <;> rfl

@[simp] theorem Manager.recordAck_orders (m : Manager) (addr : Nat) (a : OrderAck) (t : Nat) :
    (m.recordAck addr a t).orders = m.orders := rfl

@[simp] theorem Manager.recordAck_idempotencyMap (m : Manager) (addr : Nat) (a : OrderAck)
    (t : Nat) : (m.recordAck addr a t).idempotencyMap = m.idempotencyMap := rfl

@[simp] theorem Manager.recordAck_venueIDMap (m : Manager) (addr : Nat) (a : OrderAck) (t : Nat) :
    (m.recordAck addr a t).venueIDMap =
      Function.update m.venueIDMap a.venueID (some (m.heap addr).internalID) := rfl

@[simp] theorem Manager.recordAck_next (m : Manager) (addr : Nat) (a : OrderAck) (t : Nat) :
    (m.recordAck addr a t).next = m.next := rfl

@[simp] theorem Manager.updateOrderFill_orders (m : Manager) (id : Uuid) (f p : Decimal) (t : Nat) :
    (m.updateOrderFill id f p t).orders = m.orders := by
  unfold Manager.updateOrderFill; split
  · rfl
  · dsimp only; split <;> rfl

@[simp] theorem Manager.updateOrderFill_idempotencyMap (m : Manager) (id : Uuid) (f p : Decimal)
    (t : Nat) : (m.updateOrderFill id f p t).idempotencyMap = m.idempotencyMap := by
  unfold Manager.updateOrderFill; split
  · rfl
  · dsimp only; split <;> rfl

@[simp] theorem Manager.updateOrderFill_venueIDMap (m : Manager) (id : Uuid) (f p : Decimal)
    (t : Nat) : (m.updateOrderFill id f p t).venueIDMap = m.venueIDMap := by
  unfold Manager.updateOrderFill; split
  · rfl
  · dsimp only; split <;> rfl

@[simp] theorem Manager.updateOrderFill_next (m : Manager) (id : Uuid) (f p : Decimal) (t : Nat) :
    (m.updateOrderFill id f p t).next = m.next := by
  unfold Manager.updateOrderFill; split
  · rfl
  · dsimp only; split <;> rfl

/-- Removing orders never touches the idempotency map. -/
theorem Manager.foldl_removeOrder_idempotencyMap (m : Manager) (ids : List Uuid) :
    (ids.foldl Manager.removeOrder m).idempotencyMap = m.idempotencyMap := by
  induction ids generalizing m with
  | nil => rfl
  | cons id ids ih => exact ih _

@[simp] theorem Manager.cleanupStaleOrders_idempotencyMap (m : Manager) (maxAge now : Nat) :
    (m.cleanupStaleOrders maxAge now).idempotencyMap = m.idempotencyMap :=
  m.foldl_removeOrder_idempotencyMap _

end ArbitrageEngine.Orders
