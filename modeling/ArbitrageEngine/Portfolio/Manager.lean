import ArbitrageEngine.Domain.Types

/-!
# Portfolio manager and reconciler

`portfolio.Manager` keeps the spot balances and the perpetual positions by venue and asset.
`UpdateBalance` stores a balance whose total is its free plus its locked amount; `OnFillEvent`
moves the free amount of the balance of the order's venue and of `extractAsset` of its symbol,
the base asset of a pair, by the fill's notional. `Reconciler.reconcileVenue` compares the
balances and positions a venue reports with the manager's, calls the mismatch callback for every
difference above its threshold, then stores what the venue reports.

A fill moves the base asset's free amount and no other balance (`onFillEvent_spotBalances`,
`onFillEvent_pair`). The reconciler compares a
balance's difference with its signed internal total and a position's with the magnitude of its
internal size, skips zero internal values, and calls the callback once for every reported asset
that fails the test against the manager's state before the call; afterwards the manager holds
the free and locked amounts and the positions the venue reported
(`reconcileVenue_mismatch_callbacks`).
-/

set_option autoImplicit false

namespace ArbitrageEngine.Portfolio

/-- `portfolio.Manager`: the spot balances and perpetual positions. The PnL fields, the
market-data service, the logger and the mode are read only by functions left out. -/
structure Manager where
  spotBalances : VenueAssetKey → Option Balance
  perpPositions : VenueAssetKey → Option Position

/-- `NewManager`: no balance and no position. -/
def newManager : Manager := ⟨fun _ => none, fun _ => none⟩

/-- `UpdateBalance`: the balance of the venue and asset, with total `free + locked`. -/
def Manager.updateBalance (m : Manager) (venue asset : String) (free locked : Decimal) : Manager :=
  { m with
    spotBalances := Function.update m.spotBalances ⟨venue, asset⟩
      (some ⟨venue, asset, free, locked, free + locked⟩) }

/-- `UpdatePosition`: the position, under its own venue and asset. -/
def Manager.updatePosition (m : Manager) (pos : Position) : Manager :=
  { m with perpPositions := Function.update m.perpPositions ⟨pos.venue, pos.asset⟩ (some pos) }

/-- `OnFillEvent`: a buy debits the fill's notional from the free amount of the balance of
`extractAsset` of the symbol, a sell credits it; nothing happens without that balance. -/
def Manager.onFillEvent (m : Manager) (order : Order) : Manager :=
  let key : VenueAssetKey := ⟨order.venue, extractAsset order.symbol⟩
  match m.spotBalances key with
  | none => m
  | some bal =>
    let free := if order.side = .buy then bal.free - order.avgFillPrice * order.filledSize
      else bal.free + order.avgFillPrice * order.filledSize
    { m with
      spotBalances := Function.update m.spotBalances key
        (some { bal with free := free, total := free + bal.locked }) }

/-- `GetBalance`. -/
def Manager.getBalance (m : Manager) (venue asset : String) : Option Balance :=
  m.spotBalances ⟨venue, asset⟩

/-- `GetPosition`. -/
def Manager.getPosition (m : Manager) (venue asset : String) : Option Position :=
  m.perpPositions ⟨venue, asset⟩

section Frame

variable (m : Manager) (venue asset : String) (free locked : Decimal) (pos : Position)

@[simp] theorem Manager.updateBalance_spotBalances :
    (m.updateBalance venue asset free locked).spotBalances =
      Function.update m.spotBalances ⟨venue, asset⟩
        (some ⟨venue, asset, free, locked, free + locked⟩) := rfl

@[simp] theorem Manager.updateBalance_perpPositions :
    (m.updateBalance venue asset free locked).perpPositions = m.perpPositions := rfl

@[simp] theorem Manager.updatePosition_spotBalances :
    (m.updatePosition pos).spotBalances = m.spotBalances := rfl

@[simp] theorem Manager.updatePosition_perpPositions :
    (m.updatePosition pos).perpPositions =
      Function.update m.perpPositions ⟨pos.venue, pos.asset⟩ (some pos) := rfl

end Frame

/-! ## Fills -/

/-- **A fill moves one balance.** `OnFillEvent` changes only the balance of the order's venue and
of `extractAsset` of its symbol, when there is one: its free amount moves by the fill's notional,
down for a buy and up for a sell, and its total follows. -/
theorem Manager.onFillEvent_spotBalances (m : Manager) (order : Order) (key : VenueAssetKey) :
    (m.onFillEvent order).spotBalances key =
      if key = ⟨order.venue, extractAsset order.symbol⟩ then
        (m.spotBalances key).map fun bal =>
          let free := if order.side = .buy then bal.free - order.avgFillPrice * order.filledSize
            else bal.free + order.avgFillPrice * order.filledSize
          { bal with free := free, total := free + bal.locked }
      else m.spotBalances key := by
  unfold Manager.onFillEvent
  by_cases hk : key = ⟨order.venue, extractAsset order.symbol⟩
  · subst hk
    cases hb : m.spotBalances ⟨order.venue, extractAsset order.symbol⟩ <;> simp [hb]
  · rw [if_neg hk]
    cases hb : m.spotBalances ⟨order.venue, extractAsset order.symbol⟩
    · simp only [hb]
    · simp only [hb]; exact Function.update_noteq hk _ _

/-- A fill on a pair `BASE/QUOTE` debits or credits the base asset's balance, and leaves the
balance of every other asset of the venue, the quote asset's among them, as it was. -/
theorem Manager.onFillEvent_pair (m : Manager) (order : Order) {base quote : String}
    (hbase : '/' ∉ base.toList) (hsym : order.symbol = base ++ "/" ++ quote) (asset : String)
    (hne : asset ≠ base) :
    (m.onFillEvent order).getBalance order.venue asset = m.getBalance order.venue asset := by
  rw [Manager.getBalance, Manager.onFillEvent_spotBalances, hsym, extractAsset_pair hbase,
    if_neg (by simp [hne])]
  rfl

/-- Balances of 1 BTC and 100000 USDT on `nobitex`, nothing locked. -/
def nobitexBalances : Manager :=
  (newManager.updateBalance "nobitex" "BTC" 1 0).updateBalance "nobitex" "USDT" 100000 0

/-- A limit buy of 0.1 BTC/USDT on `nobitex`, filled at 50000. -/
def btcBuyFill : Order :=
  ⟨1, "v-1", 7, "nobitex", "BTC/USDT", .buy, .limit, 50000, 1 / 10, 1 / 10, 50000, .filled, 0, 0⟩

/-- The buy's notional of 5000 is debited from the BTC balance, which goes to `-4999`, and the
USDT balance is left at 100000. -/
theorem fill_debits_base_asset :
    (nobitexBalances.onFillEvent btcBuyFill).getBalance "nobitex" "BTC" =
        some ⟨"nobitex", "BTC", -4999, 0, -4999⟩ ∧
      (nobitexBalances.onFillEvent btcBuyFill).getBalance "nobitex" "USDT" =
        some ⟨"nobitex", "USDT", 100000, 0, 100000⟩ := by
  have hasset : extractAsset "BTC/USDT" = "BTC" := by decide
  refine ⟨?_, ?_⟩
  · simp [Manager.onFillEvent, Manager.getBalance, nobitexBalances, btcBuyFill, newManager, hasset,
      Function.update_apply]
    norm_num
  · exact (nobitexBalances.onFillEvent_pair btcBuyFill (by decide)
      (show btcBuyFill.symbol = "BTC" ++ "/" ++ "USDT" by decide) "USDT" (by decide)).trans
      (by simp [Manager.getBalance, nobitexBalances, newManager, Function.update_apply]; rfl)

/-! ## Reconciliation -/

/-- `portfolio.Reconciler`: the mismatch threshold in percent, and whether a mismatch callback is
set. `reconcileVenue` takes the venue gateway's answers as arguments; the logger is left out. -/
structure Reconciler where
  threshold : Decimal
  hasMismatchCallback : Bool

/-- The mismatch test of `reconcileVenue`, the same for balances and positions: the internal value
is not zero, and the venue's difference from it, as a percentage of `denominator`, is above the
threshold. -/
def mismatch (threshold venueValue internalValue denominator : Decimal) : Bool :=
  decide (internalValue ≠ 0) && decide (decDiv |venueValue - internalValue| denominator * 100 > threshold)

/-- A reported balance against the manager's: the percentage is of the internal total. -/
def Reconciler.balanceMismatch (r : Reconciler) (m : Manager) (venue : String)
    (entry : String × Balance) : Bool :=
  match m.getBalance venue entry.1 with
  | none => false
  | some internalBal => mismatch r.threshold entry.2.total internalBal.total internalBal.total

/-- A reported position against the manager's: the percentage is of the internal size's
magnitude. -/
def Reconciler.positionMismatch (r : Reconciler) (m : Manager) (venue : String)
    (venuePos : Position) : Bool :=
  match m.getPosition venue venuePos.asset with
  | none => false
  | some internalPos => mismatch r.threshold venuePos.size internalPos.size |internalPos.size|

/-- One balance of the venue's map, with the number of callback calls so far: the callback on a
mismatch, then `UpdateBalance` with the venue's free and locked amounts. -/
def Reconciler.reconcileBalance (r : Reconciler) (venue : String) (acc : Manager × Nat)
    (entry : String × Balance) : Manager × Nat :=
  (acc.1.updateBalance venue entry.1 entry.2.free entry.2.locked,
    if r.balanceMismatch acc.1 venue entry && r.hasMismatchCallback then acc.2 + 1 else acc.2)

/-- One position of the venue's list: a new one is stored as reported; a known one is compared,
then stored with the reconciled venue and the clock reading `now`. -/
def Reconciler.reconcilePosition (r : Reconciler) (venue : String) (now : Nat)
    (acc : Manager × Nat) (venuePos : Position) : Manager × Nat :=
  match acc.1.getPosition venue venuePos.asset with
  | none => (acc.1.updatePosition venuePos, acc.2)
  | some _ =>
    (acc.1.updatePosition { venuePos with venue := venue, updatedAt := now },
      if r.positionMismatch acc.1 venue venuePos && r.hasMismatchCallback then acc.2 + 1
      else acc.2)

/-- `reconcileVenue`, given the answers of `GetBalances` (the map in its iteration order) and
`GetPositions`: the manager afterwards, and the number of calls of the mismatch callback. A failed
request ends the reconciliation. -/
def Reconciler.reconcileVenue (r : Reconciler) (m : Manager) (venue : String)
    (balances : Except String (List (String × Balance)))
    (positions : Except String (List Position)) (now : Nat) : Manager × Nat :=
  match balances with
  | .error _ => (m, 0)
  | .ok balances =>
    let acc := balances.foldl (r.reconcileBalance venue) (m, 0)
    match positions with
    | .error _ => acc
    | .ok positions => positions.foldl (r.reconcilePosition venue now) acc

/-! ## What a reconciliation does -/

section Loops

variable (r : Reconciler) (venue : String)

theorem Manager.getBalance_updateBalance (m : Manager) (asset' asset : String)
    (free locked : Decimal) :
    (m.updateBalance venue asset' free locked).getBalance venue asset =
      if asset = asset' then some ⟨venue, asset', free, locked, free + locked⟩
      else m.getBalance venue asset := by
  by_cases h : asset = asset' <;> simp [Manager.getBalance, h]

theorem Reconciler.balanceMismatch_updateBalance (m : Manager) {asset : String}
    {entry : String × Balance} (h : entry.1 ≠ asset) (free locked : Decimal) :
    r.balanceMismatch (m.updateBalance venue asset free locked) venue entry =
      r.balanceMismatch m venue entry := by
  simp only [Reconciler.balanceMismatch, Manager.getBalance_updateBalance, if_neg h]

@[simp] theorem Reconciler.reconcileBalance_perpPositions (acc : Manager × Nat)
    (entry : String × Balance) :
    (r.reconcileBalance venue acc entry).1.perpPositions = acc.1.perpPositions := rfl

theorem Reconciler.foldl_reconcileBalance_perpPositions (balances : List (String × Balance))
    (acc : Manager × Nat) :
    (balances.foldl (r.reconcileBalance venue) acc).1.perpPositions = acc.1.perpPositions := by
  induction balances generalizing acc with
  | nil => rfl
  | cons e es ih => rw [List.foldl_cons, ih]; rfl

/-- **The balance loop's callbacks.** Over a map's distinct assets, the loop calls the callback
once for every reported balance that fails the test against the manager's state before the loop. -/
theorem Reconciler.foldl_reconcileBalance_calls (balances : List (String × Balance))
    (hnodup : (balances.map Prod.fst).Nodup) (m : Manager) (n : Nat) :
    (balances.foldl (r.reconcileBalance venue) (m, n)).2 =
      n + (balances.filter fun e => r.balanceMismatch m venue e && r.hasMismatchCallback).length := by
  induction balances generalizing m n with
  | nil => rfl
  | cons e es ih =>
    rw [List.map_cons, List.nodup_cons] at hnodup
    rw [List.foldl_cons, Reconciler.reconcileBalance, ih hnodup.2]
    have hrest : (es.filter fun x => r.balanceMismatch (m.updateBalance venue e.1 e.2.free
        e.2.locked) venue x && r.hasMismatchCallback) =
        es.filter fun x => r.balanceMismatch m venue x && r.hasMismatchCallback := by
      refine List.filter_congr fun x hx => ?_
      have hne : x.1 ≠ e.1 := fun h => hnodup.1 (h ▸ List.mem_map_of_mem _ hx)
      rw [r.balanceMismatch_updateBalance venue m hne]
    rw [hrest, List.filter_cons]
    split_ifs <;> simp_arith

/-- Assets the venue does not report keep their balances through the loop. -/
theorem Reconciler.foldl_reconcileBalance_getBalance_of_not_mem (balances : List (String × Balance))
    (acc : Manager × Nat) (asset : String) (h : asset ∉ balances.map Prod.fst) :
    (balances.foldl (r.reconcileBalance venue) acc).1.getBalance venue asset =
      acc.1.getBalance venue asset := by
  induction balances generalizing acc with
  | nil => rfl
  | cons e es ih =>
    rw [List.map_cons, List.mem_cons, not_or] at h
    rw [List.foldl_cons, ih _ h.2, Reconciler.reconcileBalance, Manager.getBalance_updateBalance,
      if_neg h.1]

/-- **The balance loop's result.** Over a map's distinct assets, every reported asset ends with the
venue's free and locked amounts, and a total of their sum. -/
theorem Reconciler.foldl_reconcileBalance_getBalance (balances : List (String × Balance))
    (hnodup : (balances.map Prod.fst).Nodup) (acc : Manager × Nat) {asset : String}
    {venueBal : Balance} (hmem : (asset, venueBal) ∈ balances) :
    (balances.foldl (r.reconcileBalance venue) acc).1.getBalance venue asset =
      some ⟨venue, asset, venueBal.free, venueBal.locked, venueBal.free + venueBal.locked⟩ := by
  induction balances generalizing acc with
  | nil => cases hmem
  | cons e es ih =>
    rw [List.map_cons, List.nodup_cons] at hnodup
    rw [List.foldl_cons]
    rcases List.mem_cons.mp hmem with rfl | hmem
    · rw [r.foldl_reconcileBalance_getBalance_of_not_mem venue es _ _ hnodup.1,
        Reconciler.reconcileBalance, Manager.getBalance_updateBalance, if_pos rfl]
    · exact ih hnodup.2 _ hmem

theorem Manager.getPosition_updatePosition (m : Manager) (pos : Position) (asset : String) :
    (m.updatePosition pos).getPosition venue asset =
      if pos.venue = venue ∧ pos.asset = asset then some pos else m.getPosition venue asset := by
  by_cases h : pos.venue = venue ∧ pos.asset = asset
  · obtain ⟨rfl, rfl⟩ := h; simp [Manager.getPosition]
  · rw [if_neg h, Manager.getPosition, Manager.updatePosition_perpPositions,
      Function.update_noteq (fun e => h (by cases e; exact ⟨rfl, rfl⟩))]
    rfl

/-- The position test reads only the manager's positions. -/
theorem Reconciler.positionMismatch_congr {m m' : Manager} (h : m.perpPositions = m'.perpPositions)
    (venuePos : Position) :
    r.positionMismatch m venue venuePos = r.positionMismatch m' venue venuePos := by
  simp only [Reconciler.positionMismatch, Manager.getPosition, h]

@[simp] theorem Reconciler.reconcilePosition_spotBalances (now : Nat) (acc : Manager × Nat)
    (venuePos : Position) :
    (r.reconcilePosition venue now acc venuePos).1.spotBalances = acc.1.spotBalances := by
  unfold Reconciler.reconcilePosition; split <;> rfl

/-- A position's step calls the callback exactly when its test fails: an unknown position never
fails it. -/
theorem Reconciler.reconcilePosition_calls (now : Nat) (acc : Manager × Nat) (venuePos : Position) :
    (r.reconcilePosition venue now acc venuePos).2 =
      if r.positionMismatch acc.1 venue venuePos && r.hasMismatchCallback then acc.2 + 1
      else acc.2 := by
  unfold Reconciler.reconcilePosition
  split
  · rename_i h; simp [Reconciler.positionMismatch, h]
  · rfl

/-- A position's step stores the position under its own asset only. -/
theorem Reconciler.getPosition_reconcilePosition_of_ne (now : Nat) (acc : Manager × Nat)
    (venuePos : Position) {asset : String} (h : venuePos.asset ≠ asset) :
    (r.reconcilePosition venue now acc venuePos).1.getPosition venue asset =
      acc.1.getPosition venue asset := by
  unfold Reconciler.reconcilePosition
  split <;> simp [Manager.getPosition_updatePosition, h]

/-- **The position loop's callbacks.** Over positions of distinct assets, the loop calls the
callback once for every reported position that fails the test against the manager's state before
the loop. -/
theorem Reconciler.foldl_reconcilePosition_calls (now : Nat) (positions : List Position)
    (hnodup : (positions.map Position.asset).Nodup) (m : Manager) (n : Nat) :
    (positions.foldl (r.reconcilePosition venue now) (m, n)).2 =
      n + (positions.filter fun p => r.positionMismatch m venue p && r.hasMismatchCallback).length := by
  induction positions generalizing m n with
  | nil => rfl
  | cons p ps ih =>
    rw [List.map_cons, List.nodup_cons] at hnodup
    have hstep : r.reconcilePosition venue now (m, n) p =
        ((r.reconcilePosition venue now (m, n) p).1, (r.reconcilePosition venue now (m, n) p).2) :=
      rfl
    rw [List.foldl_cons, hstep, ih hnodup.2, r.reconcilePosition_calls]
    have hrest : (ps.filter fun x => r.positionMismatch (r.reconcilePosition venue now (m, n) p).1
        venue x && r.hasMismatchCallback) =
        ps.filter fun x => r.positionMismatch m venue x && r.hasMismatchCallback := by
      refine List.filter_congr fun x hx => ?_
      have hne : p.asset ≠ x.asset := fun h => hnodup.1 (h ▸ List.mem_map_of_mem _ hx)
      simp only [Reconciler.positionMismatch, r.getPosition_reconcilePosition_of_ne venue now _ p hne]
    rw [hrest, List.filter_cons]
    split_ifs <;> simp_arith

/-- **Callbacks of a reconciliation.** When both requests succeed, over a balance map and positions
of distinct assets, `reconcileVenue` calls the callback once for every reported balance whose
difference, as a percentage of the internal total, is above the threshold, and once for every
reported position whose difference, as a percentage of the internal size's magnitude, is; an
internal value of zero is never compared. -/
theorem Reconciler.reconcileVenue_calls (m : Manager) (balances : List (String × Balance))
    (positions : List Position) (now : Nat) (hb : (balances.map Prod.fst).Nodup)
    (hp : (positions.map Position.asset).Nodup) :
    (r.reconcileVenue m venue (.ok balances) (.ok positions) now).2 =
      (balances.filter fun e => r.balanceMismatch m venue e && r.hasMismatchCallback).length +
        (positions.filter fun p => r.positionMismatch m venue p && r.hasMismatchCallback).length := by
  have hsplit : balances.foldl (r.reconcileBalance venue) (m, 0) =
      ((balances.foldl (r.reconcileBalance venue) (m, 0)).1,
        (balances.foldl (r.reconcileBalance venue) (m, 0)).2) := rfl
  simp only [Reconciler.reconcileVenue]
  rw [hsplit, r.foldl_reconcilePosition_calls venue now positions hp,
    r.foldl_reconcileBalance_calls venue balances hb, zero_add]
  congr 2
  exact List.filter_congr fun p _ => by
    rw [r.positionMismatch_congr venue (r.foldl_reconcileBalance_perpPositions venue balances _)]

theorem Reconciler.foldl_reconcilePosition_spotBalances (now : Nat) (positions : List Position)
    (acc : Manager × Nat) :
    (positions.foldl (r.reconcilePosition venue now) acc).1.spotBalances = acc.1.spotBalances := by
  induction positions generalizing acc with
  | nil => rfl
  | cons p ps ih => rw [List.foldl_cons, ih, reconcilePosition_spotBalances]

/-- **Balances after a reconciliation.** When the balance request succeeds, every asset of a map of
distinct assets ends with the venue's free and locked amounts, whatever the position request
returns. -/
theorem Reconciler.reconcileVenue_getBalance (m : Manager) (balances : List (String × Balance))
    (positions : Except String (List Position)) (now : Nat)
    (hb : (balances.map Prod.fst).Nodup) {asset : String} {venueBal : Balance}
    (hmem : (asset, venueBal) ∈ balances) :
    (r.reconcileVenue m venue (.ok balances) positions now).1.getBalance venue asset =
      some ⟨venue, asset, venueBal.free, venueBal.locked, venueBal.free + venueBal.locked⟩ := by
  have h := r.foldl_reconcileBalance_getBalance venue balances hb (m, 0) hmem
  simp only [Reconciler.reconcileVenue]
  split
  · exact h
  · rw [Manager.getBalance, r.foldl_reconcilePosition_spotBalances]; exact h

/-- The balance test spelled out: the asset has an internal balance of non-zero total, and the
venue's difference from that total, divided by the signed total and times 100, is above the
threshold. -/
theorem Reconciler.balanceMismatch_iff (m : Manager) (entry : String × Balance) :
    r.balanceMismatch m venue entry = true ↔ ∃ bal, m.getBalance venue entry.1 = some bal ∧
      bal.total ≠ 0 ∧ r.threshold < decDiv |entry.2.total - bal.total| bal.total * 100 := by
  unfold Reconciler.balanceMismatch
  cases m.getBalance venue entry.1 <;> simp [mismatch]

/-- The position test spelled out: the asset has an internal position of non-zero size, and the
venue's difference from that size, divided by its magnitude and times 100, is above the
threshold. -/
theorem Reconciler.positionMismatch_iff (m : Manager) (venuePos : Position) :
    r.positionMismatch m venue venuePos = true ↔ ∃ pos, m.getPosition venue venuePos.asset = some pos ∧
      pos.size ≠ 0 ∧ r.threshold < decDiv |venuePos.size - pos.size| |pos.size| * 100 := by
  unfold Reconciler.positionMismatch
  cases m.getPosition venue venuePos.asset <;> simp [mismatch]

/-- A position's step stores it under the reconciled venue with the venue's values, up to the
update time. -/
theorem Reconciler.getPosition_reconcilePosition_self (now : Nat) (acc : Manager × Nat)
    (venuePos : Position) (hv : venuePos.venue = venue) :
    ∃ t, (r.reconcilePosition venue now acc venuePos).1.getPosition venue venuePos.asset =
      some { venuePos with updatedAt := t } := by
  subst hv
  unfold Reconciler.reconcilePosition
  split
  · exact ⟨venuePos.updatedAt, by simp [Manager.getPosition_updatePosition]⟩
  · exact ⟨now, by simp [Manager.getPosition_updatePosition]⟩

/-- Assets the venue does not report keep their positions through the loop. -/
theorem Reconciler.foldl_reconcilePosition_getPosition_of_not_mem (now : Nat)
    (positions : List Position) (acc : Manager × Nat) (asset : String)
    (h : asset ∉ positions.map Position.asset) :
    (positions.foldl (r.reconcilePosition venue now) acc).1.getPosition venue asset =
      acc.1.getPosition venue asset := by
  induction positions generalizing acc with
  | nil => rfl
  | cons p ps ih =>
    rw [List.map_cons, List.mem_cons, not_or] at h
    rw [List.foldl_cons, ih _ h.2,
      r.getPosition_reconcilePosition_of_ne venue now _ _ fun e => h.1 e.symm]

/-- **The position loop's result.** Over positions of distinct assets, every reported position of
the venue ends stored with the venue's values, up to the update time. -/
theorem Reconciler.foldl_reconcilePosition_getPosition (now : Nat) (positions : List Position)
    (hnodup : (positions.map Position.asset).Nodup) (acc : Manager × Nat) {venuePos : Position}
    (hmem : venuePos ∈ positions) (hv : venuePos.venue = venue) :
    ∃ t, (positions.foldl (r.reconcilePosition venue now) acc).1.getPosition venue venuePos.asset =
      some { venuePos with updatedAt := t } := by
  induction positions generalizing acc with
  | nil => cases hmem
  | cons p ps ih =>
    rw [List.map_cons, List.nodup_cons] at hnodup
    rw [List.foldl_cons]
    rcases List.mem_cons.mp hmem with rfl | hmem
    · rw [r.foldl_reconcilePosition_getPosition_of_not_mem venue now ps _ _ hnodup.1]
      exact r.getPosition_reconcilePosition_self venue now acc venuePos hv
    · exact ih hnodup.2 _ hmem

/-- **What a reconciliation does.** When both requests succeed, over a balance map and positions
of distinct assets, `reconcileVenue` calls the mismatch callback, when one is set, once for every
reported balance whose asset has an internal total `T ≠ 0` with `|venue - T| / T · 100` above
the threshold (the signed total, so a negative total never counts), and once for every reported
position whose asset has an internal size `S ≠ 0` with `|venue - S| / |S| · 100` above it; an
asset with no internal value, or a zero one, is never counted. Afterwards every reported asset
has the venue's free and locked amounts, and every reported position of the venue is stored with
the venue's values. -/
theorem Reconciler.reconcileVenue_mismatch_callbacks (m : Manager)
    (balances : List (String × Balance)) (positions : List Position) (now : Nat)
    (hb : (balances.map Prod.fst).Nodup) (hp : (positions.map Position.asset).Nodup) :
    (r.reconcileVenue m venue (.ok balances) (.ok positions) now).2 =
      (balances.filter fun e => r.balanceMismatch m venue e && r.hasMismatchCallback).length +
        (positions.filter fun p => r.positionMismatch m venue p && r.hasMismatchCallback).length ∧
    (∀ e, r.balanceMismatch m venue e = true ↔ ∃ bal, m.getBalance venue e.1 = some bal ∧
      bal.total ≠ 0 ∧ r.threshold < decDiv |e.2.total - bal.total| bal.total * 100) ∧
    (∀ p, r.positionMismatch m venue p = true ↔ ∃ pos, m.getPosition venue p.asset = some pos ∧
      pos.size ≠ 0 ∧ r.threshold < decDiv |p.size - pos.size| |pos.size| * 100) ∧
    (∀ asset venueBal, (asset, venueBal) ∈ balances →
      (r.reconcileVenue m venue (.ok balances) (.ok positions) now).1.getBalance venue asset =
        some ⟨venue, asset, venueBal.free, venueBal.locked, venueBal.free + venueBal.locked⟩) ∧
    ∀ p ∈ positions, p.venue = venue → ∃ t,
      (r.reconcileVenue m venue (.ok balances) (.ok positions) now).1.getPosition venue p.asset =
        some { p with updatedAt := t } :=
  ⟨r.reconcileVenue_calls venue m balances positions now hb hp, r.balanceMismatch_iff venue m,
    r.positionMismatch_iff venue m,
    fun _ _ hmem => r.reconcileVenue_getBalance venue m balances _ now hb hmem,
    fun _ hmem hv => r.foldl_reconcilePosition_getPosition venue now positions hp _ hmem hv⟩

end Loops

/-- The reconciler `main` sets up: a threshold of 0.5%, and a callback that raises the alert. -/
def mainReconciler : Reconciler := ⟨1 / 2, true⟩

/-- An internal BTC balance of 10 and a BTC perpetual of size 2 on kcex. -/
def kcexPortfolio : Manager :=
  (newManager.updateBalance "kcex" "BTC" 10 0).updatePosition ⟨"kcex", "BTC", .perp, 2, 50000, 0, 0, 0⟩

/-- Against `kcexPortfolio`, `main`'s reconciler finds a reported 20 BTC (100% off) and a
perpetual of size 3 (50% off) both mismatching. -/
theorem mainReconciler_kcexPortfolio_mismatch :
    mainReconciler.balanceMismatch kcexPortfolio "kcex" ("BTC", ⟨"kcex", "BTC", 20, 0, 20⟩) = true ∧
      mainReconciler.positionMismatch kcexPortfolio "kcex"
        ⟨"kcex", "BTC", .perp, 3, 50000, 0, 0, 0⟩ = true := by
  have hbal : kcexPortfolio.getBalance "kcex" "BTC" = some ⟨"kcex", "BTC", 10, 0, 10 + 0⟩ := by
    simp [kcexPortfolio, Manager.getBalance]
  have hpos : kcexPortfolio.getPosition "kcex" "BTC" =
      some ⟨"kcex", "BTC", .perp, 2, 50000, 0, 0, 0⟩ := by
    simp [kcexPortfolio, Manager.getPosition]
  have h1 : decDiv 10 10 = 1 := by
    rw [decDiv_of_int _ _ (by norm_num) (10 ^ 16) (by norm_num)]; norm_num
  have h2 : decDiv 1 2 = 1 / 2 := decDiv_of_int _ _ (by norm_num) (5 * 10 ^ 15) (by norm_num)
  simp only [Reconciler.balanceMismatch, Reconciler.positionMismatch, hbal, hpos, mismatch]
  norm_num [mainReconciler, h1, h2]

/-- The reconciliation of those two reports calls the callback twice. -/
theorem reconcileVenue_mismatch_callbacks_kcex :
    ([("BTC", (⟨"kcex", "BTC", 20, 0, 20⟩ : Balance))].map Prod.fst).Nodup ∧
      ([(⟨"kcex", "BTC", .perp, 3, 50000, 0, 0, 0⟩ : Position)].map Position.asset).Nodup ∧
      (mainReconciler.reconcileVenue kcexPortfolio "kcex" (.ok [("BTC", ⟨"kcex", "BTC", 20, 0, 20⟩)])
        (.ok [⟨"kcex", "BTC", .perp, 3, 50000, 0, 0, 0⟩]) 0).2 = 2 := by
  have hb : ([("BTC", (⟨"kcex", "BTC", 20, 0, 20⟩ : Balance))].map Prod.fst).Nodup := by simp
  have hp : ([(⟨"kcex", "BTC", .perp, 3, 50000, 0, 0, 0⟩ : Position)].map Position.asset).Nodup := by
    simp
  refine ⟨hb, hp, ?_⟩
  rw [(mainReconciler.reconcileVenue_mismatch_callbacks "kcex" kcexPortfolio _ _ 0 hb hp).1]
  simp only [List.filter_cons, List.filter_nil, mainReconciler_kcexPortfolio_mismatch,
    show mainReconciler.hasMismatchCallback = true from rfl]
  rfl

/-- A venue reporting 5 BTC against an internal total of 0, or 10 BTC against an internal total
of `-10`: both differ from the internal total by more than 0.5% of its magnitude, and neither
calls the callback. -/
theorem reconcile_skips_zero_and_negative_totals :
    ((|(5 : Decimal) - 0| > mainReconciler.threshold / 100 * |(0 : Decimal)|) ∧
      (mainReconciler.reconcileVenue (newManager.updateBalance "kcex" "BTC" 0 0) "kcex"
        (.ok [("BTC", ⟨"kcex", "BTC", 5, 0, 5⟩)]) (.ok []) 0).2 = 0) ∧
    ((|(10 : Decimal) - (-10)| > mainReconciler.threshold / 100 * |(-10 : Decimal)|) ∧
      (mainReconciler.reconcileVenue (newManager.updateBalance "kcex" "BTC" (-10) 0) "kcex"
        (.ok [("BTC", ⟨"kcex", "BTC", 10, 0, 10⟩)]) (.ok []) 0).2 = 0) := by
  have hdiv : decDiv |10 - (-10 + 0)| (-10 + 0) = -2 := by
    rw [decDiv_of_int _ _ (by norm_num) (-2 * 10 ^ 16) (by norm_num [abs_of_pos])]; norm_num [abs_of_pos]
  refine ⟨⟨by norm_num [mainReconciler], ?_⟩, ⟨by norm_num [mainReconciler, abs_of_pos], ?_⟩⟩
  · simp [Reconciler.reconcileVenue, Reconciler.reconcileBalance, Reconciler.balanceMismatch,
      Manager.getBalance, mismatch, mainReconciler]
  · simp only [Reconciler.reconcileVenue, Reconciler.reconcileBalance, Reconciler.balanceMismatch,
      Manager.getBalance_updateBalance, if_true, mismatch, mainReconciler, hdiv, List.foldl_cons,
      List.foldl_nil]
    norm_num

/-! ## Runs -/

/-- What changes the portfolio: the manager's updates, fills, and reconciliations of a venue
with the gateway's answers. -/
inductive PortfolioEvent where
  | updateBalance (venue asset : String) (free locked : Decimal)
  | updatePosition (pos : Position)
  | fill (order : Order)
  | reconcile (venue : String) (balances : Except String (List (String × Balance)))
      (positions : Except String (List Position)) (now : Nat)

/-- One event on the manager. -/
def Reconciler.step (r : Reconciler) (m : Manager) : PortfolioEvent → Manager
  | .updateBalance venue asset free locked => m.updateBalance venue asset free locked
  | .updatePosition pos => m.updatePosition pos
  | .fill order => m.onFillEvent order
  | .reconcile venue balances positions now =>
    (r.reconcileVenue m venue balances positions now).1

end ArbitrageEngine.Portfolio
