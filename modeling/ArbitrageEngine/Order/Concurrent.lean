import ArbitrageEngine.Order.Lifecycle

/-!
# The order manager under concurrent callers

Each in-flight `SubmitOrder` or `CancelOrder` call is a process with a program counter that
stops between the source's locked sections and unlocked steps; `UpdateOrderFill` and
`CleanupStaleOrders` are one locked section each. A run is any sequence of `Action`s: a new call,
one step of any call in flight (with the venue's answer when that step calls the venue), a fill,
or a cleanup. `placed` logs every `PlaceOrder` call. A call whose steps follow one another with
nothing in between computes what the sequential `submitOrder` and `cancelOrder` compute
(`Sys.run_alone_sequential`).

`SubmitOrder` checks and registers an idempotency key in one locked section, and no operation
removes a key, so `PlaceOrder` runs at most once per non-empty key on every run
(`run_placed_key_le_one`). Without `CleanupStaleOrders`, every internal ID in the idempotency map
and the venue-ID map is a key of the order table (`run_maps_held`). `CleanupStaleOrders` removes
terminal orders and keeps their keys, so a later submission with such a key returns a nil order
(`resubmit_after_cleanup_returns_nil`).
-/

set_option autoImplicit false

namespace ArbitrageEngine.Orders

/-- Where a `SubmitOrder` call is: before its first locked section; after it, with the new
order's address, at the `PENDING_NEW` publication, the gateway lookup, the `PlaceOrder` call, the
`SUBMIT_FAILED` update after a failed call, the locked section after an acknowledgement, and the
publication of the acknowledged status; or returned. -/
inductive SubmitPc where
  | start
  | publishNew (addr : Nat)
  | route (addr : Nat)
  | place (addr : Nat)
  | placeFailed
  | record (addr : Nat) (ack : OrderAck)
  | publishAck (addr : Nat) (ack : OrderAck)
  | done (result : Except SubmitError (Option Nat))

/-- Where a `CancelOrder` call is: before its read-locked lookup, at the venue call with the
venue ID and venue it read, at the `CANCELLED` update, or returned. -/
inductive CancelPc where
  | start
  | call (venueID venue : String)
  | mark
  | done (result : Except CancelError Unit)

/-- A call in flight. -/
inductive Call where
  | submit (req : OrderRequest) (pc : SubmitPc)
  | cancel (id : Uuid) (pc : CancelPc)

/-- One step of a `SubmitOrder` call at `now`; `place` is the venue's answer when the step calls
`PlaceOrder`. The flag says whether it did. -/
def submitNext (m : Manager) (req : OrderRequest) (now : Nat) (place : PlaceOutcome) :
    SubmitPc → Manager × SubmitPc × Bool
  | .start =>
    match m.register req now with
    | (m', .existing addr) => (m', .done (.ok addr), false)
    | (m', .fresh addr) => (m', .publishNew addr, false)
  | .publishNew addr => (m.publish addr .unset .pendingNew now, .route addr, false)
  | .route addr =>
    if req.venue ∉ m.gateways then
      (m.updateStatus req.internalID .submitFailed now, .done (.error .unknownVenue), false)
    else (m.updateStatus req.internalID .submitted now, .place addr, false)
  | .place addr =>
    match place with
    | .failed => (m, .placeFailed, true)
    | .ack a => (m, .record addr a, true)
  | .placeFailed =>
    (m.updateStatus req.internalID .submitFailed now, .done (.error .placeOrder), false)
  | .record addr a => (m.recordAck addr a now, .publishAck addr a, false)
  | .publishAck addr a => (m.publish addr .submitted a.status now, .done (.ok (some addr)), false)
  | .done r => (m, .done r, false)

/-- One step of a `CancelOrder` call at `now`; `cancel` is the venue's answer. -/
def cancelNext (m : Manager) (id : Uuid) (now : Nat) (cancel : CancelOutcome) :
    CancelPc → Manager × CancelPc
  | .start =>
    match m.orders.lookup id with
    | none => (m, .done (.error .notFound))
    | some addr => (m, .call (m.heap addr).venueID (m.heap addr).venue)
  | .call _ venue =>
    if venue ∉ m.gateways then (m, .done (.error .unknownVenue))
    else
      match cancel with
      | .failed => (m, .done (.error .cancelOrder))
      | .ok => (m, .mark)
  | .mark => (m.updateStatus id .cancelled now, .done (.ok ()))
  | .done r => (m, .done r)

/-- The manager, the calls in flight, and the requests `PlaceOrder` received, in order. -/
structure Sys where
  mgr : Manager
  calls : List Call
  placed : List OrderRequest

/-- What can happen next: a new call, a step of call `i` (with the clock and the venue's
answers), a fill report, or a cleanup. -/
inductive Action where
  | submit (req : OrderRequest)
  | cancel (id : Uuid)
  | advance (i now : Nat) (place : PlaceOutcome) (cancel : CancelOutcome)
  | fill (id : Uuid) (filledSize avgPrice : Decimal) (now : Nat)
  | cleanup (maxAge now : Nat)

/-- The system after one action; a step of a call that does not exist changes nothing. -/
def Sys.step (s : Sys) : Action → Sys
  | .submit req => { s with calls := s.calls ++ [.submit req .start] }
  | .cancel id => { s with calls := s.calls ++ [.cancel id .start] }
  | .advance i now place cancel =>
    match s.calls.get? i with
    | some (.submit req pc) =>
      let r := submitNext s.mgr req now place pc
      ⟨r.1, s.calls.set i (.submit req r.2.1), if r.2.2 then s.placed ++ [req] else s.placed⟩
    | some (.cancel id pc) =>
      let r := cancelNext s.mgr id now cancel pc
      { s with mgr := r.1, calls := s.calls.set i (.cancel id r.2) }
    | none => s
  | .fill id filledSize avgPrice now =>
    { s with mgr := s.mgr.updateOrderFill id filledSize avgPrice now }
  | .cleanup maxAge now => { s with mgr := s.mgr.cleanupStaleOrders maxAge now }

/-- A run. -/
def Sys.run (s : Sys) (actions : List Action) : Sys := actions.foldl Sys.step s

/-- No call in flight, nothing placed. -/
def Sys.init (gateways : List String) : Sys := ⟨Manager.new gateways, [], []⟩

/-! ## Calls in flight -/

/-- Replacing an element changes a count by the two elements' contributions. -/
theorem countP_set_of_get? {α : Type} (p : α → Bool) (l : List α) (i : Nat) (a b : α)
    (h : l.get? i = some a) :
    (l.set i b).countP p + (if p a then 1 else 0) = l.countP p + (if p b then 1 else 0) := by
  obtain ⟨hi, rfl⟩ := List.get?_eq_some.mp h
  have hl : l = l.take i ++ l.get ⟨i, hi⟩ :: l.drop (i + 1) := by
    conv_lhs => rw [← List.take_append_drop i l, List.drop_eq_getElem_cons hi]
    rfl
  rw [List.set_eq_take_append_cons_drop, if_pos hi]
  conv => rhs; rw [hl]
  simp only [List.countP_append, List.countP_cons]
  omega

/-- A submission that registered a fresh order and has not yet called `PlaceOrder`, with key
`key`. -/
def Call.claims (key : String) : Call → Bool
  | .submit req (.publishNew _) | .submit req (.route _) | .submit req (.place _) =>
    req.idempotencyKey == key
  | _ => false

/-- The `PlaceOrder` calls made or still to come for `key`: the placed requests with that key,
and the registered submissions with that key that have not yet called it. -/
def Sys.claimed (s : Sys) (key : String) : Nat :=
  s.placed.countP (·.idempotencyKey == key) + s.calls.countP (Call.claims key)

/-- Whether the idempotency map holds `key`, as a count. -/
def Manager.held (m : Manager) (key : String) : Nat :=
  if m.idempotencyMap key = none then 0 else 1

/-- At most one placement per non-empty key, and none for a key the map does not hold. -/
def Sys.PlaceOnce (s : Sys) : Prop := ∀ key, key ≠ "" → s.claimed key ≤ s.mgr.held key

/-! ## At most one placement per key -/

/-- What one step of a submission does to the count for a non-empty `key`: a placement of that
key uses up the call's claim, and a call only gains a claim when its registration adds the key
to the map. -/
theorem submitNext_claimed (m : Manager) (req : OrderRequest) (now : Nat) (place : PlaceOutcome)
    (pc : SubmitPc) (key : String) (hk : key ≠ "") :
    (if (submitNext m req now place pc).2.2 ∧ req.idempotencyKey = key then 1 else 0) +
        (if Call.claims key (.submit req (submitNext m req now place pc).2.1) then 1 else 0) +
        m.held key ≤
      (if Call.claims key (.submit req pc) then 1 else 0) +
        (submitNext m req now place pc).1.held key := by
  cases pc with
  | start =>
    by_cases hkey : m.keyed req = none
    · simp only [submitNext, Manager.register, hkey]
      by_cases he : req.idempotencyKey = key
      · subst he
        have hnone : m.idempotencyMap req.idempotencyKey = none := by
          simpa [Manager.keyed, hk] using hkey
        simp [Call.claims, Manager.held, hk, hnone]
      · by_cases he' : req.idempotencyKey = "" <;>
          simp [Call.claims, Manager.held, he, he', Function.update_noteq (Ne.symm he), Ne.symm hk]
    · obtain ⟨id, hid⟩ := Option.ne_none_iff_exists'.mp hkey
      simp [submitNext, Manager.register, hid, Call.claims]
  | place addr => cases place <;> simp [submitNext, Call.claims]
  | route addr =>
    simp only [submitNext]
    split <;> simp [Call.claims, Manager.held]
  | _ => simp [submitNext, Call.claims, Manager.held]

/-- `CancelOrder`'s steps leave the idempotency map alone. -/
@[simp] theorem cancelNext_idempotencyMap (m : Manager) (id : Uuid) (now : Nat)
    (cancel : CancelOutcome) (pc : CancelPc) :
    (cancelNext m id now cancel pc).1.idempotencyMap = m.idempotencyMap := by
  cases pc <;> simp only [cancelNext] <;> (repeat' split) <;> simp

/-- `CancelOrder`'s steps leave the venue-ID map alone. -/
@[simp] theorem cancelNext_venueIDMap (m : Manager) (id : Uuid) (now : Nat)
    (cancel : CancelOutcome) (pc : CancelPc) :
    (cancelNext m id now cancel pc).1.venueIDMap = m.venueIDMap := by
  cases pc <;> simp only [cancelNext] <;> (repeat' split) <;> simp

/-- Appending a placement or not. -/
theorem countP_placed {α : Type} (p : α → Bool) (l : List α) (x : α) (b : Bool) :
    (if b then l ++ [x] else l).countP p = l.countP p + if b ∧ p x then 1 else 0 := by
  cases b <;> by_cases hx : p x <;> simp [hx]

/-- **Every action keeps at most one placement per key.** -/
theorem Sys.step_placeOnce (s : Sys) (a : Action) (h : s.PlaceOnce) : (s.step a).PlaceOnce := by
  intro key hk
  have hs := h key hk
  cases a with
  | advance i now place cancel =>
    simp only [Sys.step]
    split
    · rename_i req pc hget
      have hacc := submitNext_claimed s.mgr req now place pc key hk
      have hset := countP_set_of_get? (Call.claims key) s.calls i _
        (.submit req (submitNext s.mgr req now place pc).2.1) hget
      simp only [Sys.claimed, countP_placed] at hs hset ⊢
      simp only [beq_iff_eq] at hacc ⊢
      omega
    · rename_i id pc hget
      have hset := countP_set_of_get? (Call.claims key) s.calls i _
        (.cancel id (cancelNext s.mgr id now cancel pc).2) hget
      simp only [Call.claims, Bool.false_eq_true, if_false, Nat.add_zero] at hset
      simpa [Sys.claimed, Manager.held, hset] using hs
    · exact hs
  | _ => simpa [Sys.step, Sys.claimed, List.countP_append, Call.claims, Manager.held] using hs

/-- The count holds along every run that starts where it holds. -/
theorem Sys.run_placeOnce (s : Sys) (actions : List Action) (h : s.PlaceOnce) :
    (s.run actions).PlaceOnce := by
  induction actions generalizing s with
  | nil => exact h
  | cons a as ih => exact ih _ (s.step_placeOnce a h)

/-- **`PlaceOrder` at most once per key.** On every run from the start, whatever the
interleaving of submissions, cancels, fills and cleanups and whatever the venues answer, the venue
receives at most one request with each non-empty idempotency key. -/
theorem run_placed_key_le_one (gateways : List String) (actions : List Action) (key : String)
    (hk : key ≠ "") :
    ((Sys.init gateways).run actions).placed.countP (·.idempotencyKey == key) ≤ 1 := by
  have h := (Sys.init gateways).run_placeOnce actions
    (fun k _ => by simp [Sys.init, Sys.claimed, Manager.new, Manager.held]) key hk
  simp only [Sys.claimed, Manager.held] at h
  split_ifs at h <;> omega

/-! ## The maps point into the table -/

/-- `m'` keeps every order ID of `m`'s table, its allocated addresses, and the order ID at each
of them. -/
structure Manager.Extends (m m' : Manager) : Prop where
  keys : ∀ id, id ∈ m.orders → id ∈ m'.orders
  next : m.next ≤ m'.next
  ids : ∀ a, a < m.next → (m'.heap a).internalID = (m.heap a).internalID

theorem Manager.Extends.refl (m : Manager) : m.Extends m :=
  ⟨fun _ h => h, le_refl _, fun _ _ => rfl⟩

theorem Manager.Extends.trans {m m' m'' : Manager} (h : m.Extends m') (h' : m'.Extends m'') :
    m.Extends m'' :=
  ⟨fun id hi => h'.keys id (h.keys id hi), h.next.trans h'.next,
    fun a ha => (h'.ids a (lt_of_lt_of_le ha h.next)).trans (h.ids a ha)⟩

/-- A write that keeps the order ID at its address. -/
theorem Manager.write_extends (m : Manager) (addr : Nat) (o : Order)
    (h : o.internalID = (m.heap addr).internalID) : m.Extends (m.write addr o) :=
  ⟨fun _ hi => hi, le_refl _, fun a _ => by
    by_cases ha : a = addr
    · subst ha; simp [h]
    · simp [Function.update_noteq ha]⟩

theorem Manager.publish_extends (m : Manager) (addr : Nat) (p q : OrderStatus) (t : Nat) :
    m.Extends (m.publish addr p q t) := ⟨fun _ h => h, le_refl _, fun _ _ => rfl⟩

theorem Manager.updateStatus_extends (m : Manager) (id : Uuid) (st : OrderStatus) (t : Nat) :
    m.Extends (m.updateStatus id st t) := by
  unfold Manager.updateStatus
  split
  · exact .refl m
  · dsimp only
    exact (m.write_extends _ _ (by rfl)).trans (Manager.publish_extends _ _ _ _ _)

theorem Manager.recordAck_extends (m : Manager) (addr : Nat) (a : OrderAck) (t : Nat) :
    m.Extends (m.recordAck addr a t) := by
  have h := m.write_extends addr
    { (m.heap addr) with venueID := a.venueID, status := a.status, updatedAt := t } rfl
  exact ⟨h.keys, h.next, h.ids⟩

theorem Manager.updateOrderFill_extends (m : Manager) (id : Uuid) (f p : Decimal) (t : Nat) :
    m.Extends (m.updateOrderFill id f p t) := by
  unfold Manager.updateOrderFill
  split
  · exact .refl m
  · dsimp only
    split
    · exact m.write_extends _ _ rfl
    · exact (m.write_extends _ _ (by rfl)).trans (Manager.publish_extends _ _ _ _ _)

theorem Manager.register_extends (m : Manager) (req : OrderRequest) (now : Nat) :
    m.Extends (m.register req now).1 := by
  unfold Manager.register
  split
  · exact .refl m
  · exact ⟨fun id hi => (AList.mem_insert _).mpr (.inr hi), Nat.le_succ _,
      fun a ha => by simp [Function.update_noteq (Nat.ne_of_lt ha)]⟩

theorem submitNext_extends (m : Manager) (req : OrderRequest) (now : Nat) (place : PlaceOutcome)
    (pc : SubmitPc) : m.Extends (submitNext m req now place pc).1 := by
  cases pc with
  | start =>
    have h := m.register_extends req now
    simp only [submitNext]
    split <;> rename_i heq <;> rw [heq] at h <;> exact h
  | route addr => simp only [submitNext]; split <;> exact m.updateStatus_extends _ _ _
  | place addr => cases place <;> exact .refl m
  | publishNew addr => exact m.publish_extends _ _ _ _
  | placeFailed => exact m.updateStatus_extends _ _ _
  | record addr a => exact m.recordAck_extends _ _ _
  | publishAck addr a => exact m.publish_extends _ _ _ _
  | done r => exact .refl m

theorem cancelNext_extends (m : Manager) (id : Uuid) (now : Nat) (cancel : CancelOutcome)
    (pc : CancelPc) : m.Extends (cancelNext m id now cancel pc).1 := by
  cases pc with
  | mark => exact m.updateStatus_extends _ _ _
  | _ => simp only [cancelNext]; (repeat' split) <;> exact .refl m

/-- Every ID in the idempotency map and in the venue-ID map is a key of the table. -/
def Manager.MapsInto (m : Manager) : Prop :=
  (∀ key id, m.idempotencyMap key = some id → id ∈ m.orders) ∧
    ∀ vid id, m.venueIDMap vid = some id → id ∈ m.orders

/-- An extension that keeps both maps keeps them pointing into the table. -/
theorem Manager.MapsInto.of_extends {m m' : Manager} (h : m.MapsInto) (he : m.Extends m')
    (hi : m'.idempotencyMap = m.idempotencyMap) (hv : m'.venueIDMap = m.venueIDMap) :
    m'.MapsInto :=
  ⟨fun k id hk => he.keys id (h.1 k id (hi ▸ hk)),
    fun v id hk => he.keys id (h.2 v id (hv ▸ hk))⟩

/-- The address a submission's pointer holds once it has registered a fresh order. -/
def SubmitPc.addr : SubmitPc → Option Nat
  | .publishNew a | .route a | .place a | .record a _ | .publishAck a _ => some a
  | _ => none

/-- A submission's pointer is an allocated address that holds its request's ID, and that ID is in
the table. -/
def Call.PointsInto (m : Manager) : Call → Prop
  | .submit req pc => ∀ a, pc.addr = some a →
      a < m.next ∧ (m.heap a).internalID = req.internalID ∧ req.internalID ∈ m.orders
  | .cancel _ _ => True

theorem Call.PointsInto.mono {m m' : Manager} {c : Call} (h : c.PointsInto m)
    (he : m.Extends m') : c.PointsInto m' := by
  cases c with
  | submit req pc =>
    intro a ha
    obtain ⟨h1, h2, h3⟩ := h a ha
    exact ⟨lt_of_lt_of_le h1 he.next, (he.ids a h1).trans h2, he.keys _ h3⟩
  | cancel => trivial

/-- A step that extends the manager, keeps both maps, and keeps or drops the call's pointer. -/
theorem mapsInto_of_frame {m m' : Manager} {req : OrderRequest} {pc pc' : SubmitPc}
    (h : m.MapsInto) (hp : (Call.submit req pc).PointsInto m) (he : m.Extends m')
    (hi : m'.idempotencyMap = m.idempotencyMap) (hv : m'.venueIDMap = m.venueIDMap)
    (ha : pc'.addr = none ∨ pc'.addr = pc.addr) :
    m'.MapsInto ∧ (Call.submit req pc').PointsInto m' := by
  refine ⟨h.of_extends he hi hv, fun a hpa => ?_⟩
  rcases ha with ha | ha
  · simp [ha] at hpa
  · exact (hp.mono he) a (ha ▸ hpa)

/-- Registering a fresh request maps its key, if it has one, to the new entry of the table. -/
theorem Manager.register_mapsInto (m : Manager) (req : OrderRequest) (now : Nat)
    (hk : m.keyed req = none) (h : m.MapsInto) : (m.register req now).1.MapsInto := by
  simp only [Manager.register, hk]
  refine ⟨fun k id hid => (AList.mem_insert _).mpr ?_,
    fun v id hv => (AList.mem_insert _).mpr (.inr (h.2 v id hv))⟩
  split_ifs at hid
  · exact .inr (h.1 k id hid)
  · by_cases hkk : k = req.idempotencyKey
    · subst hkk
      simp only [Function.update_same, Option.some.injEq] at hid
      exact .inl hid.symm
    · exact .inr (h.1 k id (by simpa [Function.update_noteq hkk] using hid))

/-- Recording an acknowledgement maps its venue ID to the ID of the order it updates. -/
theorem Manager.recordAck_mapsInto (m : Manager) (addr : Nat) (a : OrderAck) (now : Nat)
    (h : m.MapsInto) (hid : (m.heap addr).internalID ∈ m.orders) :
    (m.recordAck addr a now).MapsInto := by
  refine ⟨fun k id hk => (m.recordAck_extends addr a now).keys id (h.1 k id hk), fun v id hv => ?_⟩
  simp only [Manager.recordAck_venueIDMap, Manager.recordAck_orders] at hv ⊢
  by_cases hva : v = a.venueID
  · subst hva
    simp only [Function.update_same, Option.some.injEq] at hv
    exact hv ▸ hid
  · exact h.2 v id (by simpa [Function.update_noteq hva] using hv)

/-- One step of a submission keeps the maps pointing into the table and its own pointer valid. -/
theorem submitNext_mapsInto (m : Manager) (req : OrderRequest) (now : Nat) (place : PlaceOutcome)
    (pc : SubmitPc) (h : m.MapsInto) (hp : (Call.submit req pc).PointsInto m) :
    (submitNext m req now place pc).1.MapsInto ∧
      (Call.submit req (submitNext m req now place pc).2.1).PointsInto
        (submitNext m req now place pc).1 := by
  have he := submitNext_extends m req now place pc
  cases pc with
  | start =>
    by_cases hk : m.keyed req = none
    · have e : submitNext m req now place .start =
          ((m.register req now).1, .publishNew m.next, false) := by
        simp [submitNext, Manager.register, hk]
      rw [e]
      refine ⟨m.register_mapsInto req now hk h, fun a ha => ?_⟩
      simp only [SubmitPc.addr, Option.some.injEq] at ha
      subst ha
      simp [Manager.register, hk, newOrder]
    · obtain ⟨id, hid⟩ := Option.ne_none_iff_exists'.mp hk
      have e : submitNext m req now place .start = (m, .done (.ok (m.orders.lookup id)), false) := by
        simp [submitNext, Manager.register, hid]
      rw [e]
      exact ⟨h, fun a ha => by simp [SubmitPc.addr] at ha⟩
  | record addr a =>
    obtain ⟨-, h2, h3⟩ := hp addr rfl
    exact ⟨m.recordAck_mapsInto addr a now h (h2 ▸ h3), fun a' ha => (hp.mono he) a' ha⟩
  | route addr =>
    by_cases hv : req.venue ∈ m.gateways <;>
      exact mapsInto_of_frame h hp he (by simp [submitNext, hv]) (by simp [submitNext, hv])
        (by simp [submitNext, hv, SubmitPc.addr])
  | place addr =>
    cases place <;> exact mapsInto_of_frame h hp he rfl rfl (by simp [submitNext, SubmitPc.addr])
  | _ =>
    exact mapsInto_of_frame h hp he (by simp [submitNext]) (by simp [submitNext])
      (by simp [submitNext, SubmitPc.addr])

/-- The maps point into the table and every submission's pointer is valid. -/
def Sys.MapsHeld (s : Sys) : Prop := s.mgr.MapsInto ∧ ∀ c ∈ s.calls, c.PointsInto s.mgr

/-- Whether an action is a `CleanupStaleOrders`. -/
def Action.isCleanup : Action → Bool
  | .cleanup _ _ => true
  | _ => false

/-- **Every action but a cleanup keeps the maps pointing into the table.** -/
theorem Sys.step_mapsHeld (s : Sys) (a : Action) (ha : a.isCleanup = false) (h : s.MapsHeld) :
    (s.step a).MapsHeld := by
  obtain ⟨hm, hc⟩ := h
  cases a with
  | submit req =>
    refine ⟨hm, fun c hmem => ?_⟩
    rcases List.mem_append.mp hmem with hmem | hmem
    · exact hc c hmem
    · rw [List.mem_singleton.mp hmem]
      intro a ha
      simp [SubmitPc.addr] at ha
  | cancel id =>
    refine ⟨hm, fun c hmem => ?_⟩
    rcases List.mem_append.mp hmem with hmem | hmem
    · exact hc c hmem
    · rw [List.mem_singleton.mp hmem]; trivial
  | advance i now place cancel =>
    simp only [Sys.step]
    split
    · rename_i req pc hget
      obtain ⟨hm', hp'⟩ := submitNext_mapsInto s.mgr req now place pc hm (hc _ (List.get?_mem hget))
      have he := submitNext_extends s.mgr req now place pc
      exact ⟨hm', fun c hmem => (List.mem_or_eq_of_mem_set hmem).elim
        (fun h' => (hc c h').mono he) (fun e => e ▸ hp')⟩
    · rename_i id pc hget
      have he := cancelNext_extends s.mgr id now cancel pc
      exact ⟨hm.of_extends he (by simp) (by simp), fun c hmem => (List.mem_or_eq_of_mem_set hmem).elim
        (fun h' => (hc c h').mono he) (fun e => by rw [e]; trivial)⟩
    · exact ⟨hm, hc⟩
  | fill id f p now =>
    have he := s.mgr.updateOrderFill_extends id f p now
    exact ⟨hm.of_extends he (s.mgr.updateOrderFill_idempotencyMap id f p now)
      (s.mgr.updateOrderFill_venueIDMap id f p now), fun c hmem => (hc c hmem).mono he⟩
  | cleanup => simp [Action.isCleanup] at ha

/-- **The maps point into the table on every run without a cleanup.** Whatever the interleaving
of submissions, cancels and fills and whatever the venues answer, every internal ID in the
idempotency map and in the venue-ID map is a key of the order table. -/
theorem run_maps_held (gateways : List String) (actions : List Action)
    (hno : ∀ a ∈ actions, a.isCleanup = false) :
    ((Sys.init gateways).run actions).mgr.MapsInto := by
  suffices ∀ s : Sys, s.MapsHeld → (s.run actions).MapsHeld from
    (this _ ⟨⟨fun _ _ h => by simp [Sys.init, Manager.new] at h,
      fun _ _ h => by simp [Sys.init, Manager.new] at h⟩, fun _ h => by simp [Sys.init] at h⟩).1
  induction actions with
  | nil => exact fun s h => h
  | cons a as ih =>
    intro s h
    exact ih (fun b hb => hno b (List.mem_cons_of_mem _ hb)) _
      (s.step_mapsHeld a (hno a (List.mem_cons_self _ _)) h)

/-! ## A call on its own -/

/-- A keyed limit buy on nobitex. -/
def keyedRequest : OrderRequest :=
  ⟨1, 7, "nobitex", "BTC/USDT", .buy, .spot, .limit, 50000, 1/10, "7-leg-0"⟩

/-- A submission whose key is already mapped returns, in its first locked section, the table's
order for the mapped ID, with no error and without calling `PlaceOrder`. -/
theorem submitNext_keyed (m : Manager) (req : OrderRequest) (now : Nat) (place : PlaceOutcome)
    (id : Uuid) (h : m.keyed req = some id) :
    submitNext m req now place .start = (m, .done (.ok (m.orders.lookup id)), false) := by
  simp [submitNext, Manager.register, h]

/-- The guarantees `SubmitOrder` gives: at most one placement per non-empty key on every run;
both maps pointing into the table on every run without a cleanup; and a used key answered from
the table without calling the venue. -/
theorem submit_idempotency_guarantees :
    (∀ (gateways : List String) (actions : List Action) (key : String), key ≠ "" →
      ((Sys.init gateways).run actions).placed.countP (·.idempotencyKey == key) ≤ 1) ∧
    (∀ (gateways : List String) (actions : List Action), (∀ a ∈ actions, a.isCleanup = false) →
      ((Sys.init gateways).run actions).mgr.MapsInto) ∧
    (∀ (m : Manager) (req : OrderRequest) (now : Nat) (place : PlaceOutcome) (id : Uuid),
      m.keyed req = some id →
        submitNext m req now place .start = (m, .done (.ok (m.orders.lookup id)), false)) :=
  ⟨run_placed_key_le_one, run_maps_held, submitNext_keyed⟩

/-- Two submissions of `keyedRequest` racing: both start before either registers, then they
take their steps in turn, with a venue that acknowledges every placement. -/
def racingActions : List Action :=
  [.submit keyedRequest, .submit keyedRequest] ++
    (List.replicate 6 [.advance 0 0 (.ack ⟨"v-1", .acknowledged⟩) .ok,
      .advance 1 0 (.ack ⟨"v-2", .acknowledged⟩) .ok]).flatten

/-- The system after the race. -/
def racingSubmits : Sys := (Sys.init ["nobitex"]).run racingActions

/-- In the race the key is placed once, both maps point into the table, and the key now maps to
the first submission's ID, so a third submission of it is answered from the table. -/
theorem submit_idempotency_guarantees_racing :
    racingSubmits.placed.countP (·.idempotencyKey == "7-leg-0") ≤ 1 ∧ racingSubmits.mgr.MapsInto ∧
      racingSubmits.mgr.keyed keyedRequest = some 1 ∧
      submitNext racingSubmits.mgr keyedRequest 0 .failed .start =
        (racingSubmits.mgr, .done (.ok (racingSubmits.mgr.orders.lookup 1)), false) ∧
      racingSubmits.placed.length = 1 := by
  have h := submit_idempotency_guarantees
  have hk : racingSubmits.mgr.keyed keyedRequest = some 1 := by decide
  exact ⟨h.1 ["nobitex"] racingActions "7-leg-0" (by decide),
    h.2.1 ["nobitex"] racingActions (by decide), hk, h.2.2 _ _ 0 .failed 1 hk, by decide⟩

/-- What a returned submission returned: its pointer; `none` for an error or a call in flight. -/
def Call.returned : Call → Option (Option Nat)
  | .submit _ (.done (.ok addr)) => some addr
  | _ => none

/-- One submission whose placement fails, a cleanup with a zero age limit a nanosecond later,
and a second submission of the same request. -/
def cleanupRun : Sys :=
  (Sys.init ["nobitex"]).run
    ([.submit keyedRequest] ++ List.replicate 5 (.advance 0 0 .failed .ok) ++
      [.cleanup 0 1, .submit keyedRequest, .advance 1 2 .failed .ok])

/-- After the cleanup the key still maps to ID `1`, which the table no longer holds, and the
second submission returns a nil order with no error; the venue was called once. -/
theorem resubmit_after_cleanup_returns_nil :
    cleanupRun.mgr.idempotencyMap "7-leg-0" = some 1 ∧ cleanupRun.mgr.orders.lookup 1 = none ∧
      (cleanupRun.calls.get? 1).bind Call.returned = some none ∧ cleanupRun.placed.length = 1 := by
  decide

end ArbitrageEngine.Orders
