import ArbitrageEngine.Domain.Types
import Mathlib.Logic.Function.Basic
import Mathlib.Data.List.Sort

/-!
# Market-data service

`marketdata.Service` keeps one book and one last-update time per key `venue:symbol`.
`updateOrderBook` replaces the book by a snapshot; `applyDelta` merges level deltas into the book
(`applyLevelDeltas`, an insertion sort `sortLevels` after the merge) and records the delta's
sequence number. Both stamp the key with the clock reading they receive and return the snapshot
they publish on the bus.

`isDataBlocked` reads only the last-update time: a missing key is blocked, and a present one is
blocked once its age exceeds `blockDuration`. Nothing in the service reads a sequence number, so
a gap, a duplicate or a reordering of deltas refreshes the feed like any other update
(`isDataBlocked_run`, `isDataBlocked_feed`).

`sortLevels` is an insertion sort (`sortLevels_eq`, through `List.orderedInsert`), so it returns
a permutation in which no level beats an earlier one. On a side with distinct prices a delta keeps
the prices distinct and sets or removes its price (`applyLevelDelta_spec`); with the sort after
the deltas, `applyLevelDeltas` keeps a well-formed side well formed and applies the deltas to the
side's price-to-size map in order (`applyLevelDeltas_spec`). Every book the service holds is then
well formed along any run whose snapshots are (`Service.run_booksWellFormed`).

The heartbeat monitor's `checkStaleness` walks the feeds that were updated: it logs a feed as
blocked exactly when `IsDataBlocked` blocks it, and never names a feed that was never updated,
which `IsDataBlocked` blocks too (`Service.checkStaleness_feed`).
-/

set_option autoImplicit false

namespace ArbitrageEngine.MarketData

/-- `bookKey`: the map key of a venue and a symbol. -/
def bookKey (venue symbol : String) : String := venue ++ ":" ++ symbol

/-- `marketdata.Service`: books and last-update times by key, and the two age thresholds. -/
structure Service where
  books : String → Option OrderBookSnapshot
  lastUpdate : String → Option Nat
  staleDuration : Nat
  blockDuration : Nat

/-- `NewService`: no book and no update yet. -/
def Service.new (staleDuration blockDuration : Nat) : Service :=
  ⟨fun _ => none, fun _ => none, staleDuration, blockDuration⟩

/-! ## Level deltas -/

/-- One pass of the inner loop of `sortLevels`: `x` moves left past every element it beats.
The sorted prefix is given in reverse, nearest element first. -/
def sinkLevel (beats : PriceLevel → PriceLevel → Bool) (x : PriceLevel) :
    List PriceLevel → List PriceLevel
  | [] => [x]
  | y :: ys => if beats x y then y :: sinkLevel beats x ys else x :: y :: ys

/-- The swap test of `sortLevels`: a strictly higher price for bids, a strictly lower one for
asks. -/
def levelBeats (descending : Bool) (x y : PriceLevel) : Bool :=
  if descending then decide (x.price > y.price) else decide (x.price < y.price)

/-- `sortLevels`: insertion sort, each element swapped leftwards while it beats its neighbour. -/
def sortLevels (levels : List PriceLevel) (descending : Bool) : List PriceLevel :=
  (levels.foldl (fun rev x => sinkLevel (levelBeats descending) x rev) []).reverse

/-- The inner loop of `applyLevelDeltas` on a level of the delta's price: a zero size removes
the level, another size replaces its size. `none` when no level has that price. -/
def updateLevel (d : PriceLevel) : List PriceLevel → Option (List PriceLevel)
  | [] => none
  | l :: ls =>
    if l.price = d.price then some (if d.size = 0 then ls else { l with size := d.size } :: ls)
    else (updateLevel d ls).map (l :: ·)

/-- One delta of `applyLevelDeltas`: update the level of its price, or append it when it is new
and its size is not zero. -/
def applyLevelDelta (levels : List PriceLevel) (d : PriceLevel) : List PriceLevel :=
  match updateLevel d levels with
  | some ls => ls
  | none => if d.size = 0 then levels else levels ++ [d]

/-- `applyLevelDeltas`: the deltas in order, then `sortLevels`. -/
def applyLevelDeltas (levels deltas : List PriceLevel) (descending : Bool) : List PriceLevel :=
  sortLevels (deltas.foldl applyLevelDelta levels) descending

/-! ## Operations -/

/-- `UpdateOrderBook`: the snapshot, stamped with `now`, replaces the book; it is also the
published snapshot. -/
def Service.updateOrderBook (s : Service) (snap : OrderBookSnapshot) (now : Nat) :
    Service × OrderBookSnapshot :=
  let key := bookKey snap.venue snap.symbol
  let snap := { snap with localTimestamp := now }
  ({ s with books := Function.update s.books key (some snap),
            lastUpdate := Function.update s.lastUpdate key (some now) }, snap)

/-- The book a delta starts from: the stored one, or an empty book created for the key. -/
def Service.bookFor (s : Service) (delta : OrderBookDelta) : OrderBookSnapshot :=
  (s.books (bookKey delta.venue delta.symbol)).getD
    ⟨delta.venue, delta.symbol, [], [], 0, 0, 0⟩

/-- `ApplyDelta`: merge the bid and ask deltas, take the delta's sequence and venue timestamp,
stamp `now`; the merged book is also the published snapshot. -/
def Service.applyDelta (s : Service) (delta : OrderBookDelta) (now : Nat) :
    Service × OrderBookSnapshot :=
  let key := bookKey delta.venue delta.symbol
  let book := s.bookFor delta
  let book := { book with bids := applyLevelDeltas book.bids delta.bids true,
                          asks := applyLevelDeltas book.asks delta.asks false,
                          sequence := delta.sequence,
                          venueTimestamp := delta.venueTimestamp,
                          localTimestamp := now }
  ({ s with books := Function.update s.books key (some book),
            lastUpdate := Function.update s.lastUpdate key (some now) }, book)

/-- `GetOrderBook`. -/
def Service.getOrderBook (s : Service) (venue symbol : String) : Option OrderBookSnapshot :=
  s.books (bookKey venue symbol)

/-- `IsDataFresh`: updated, and younger than `staleDuration`. -/
def Service.isDataFresh (s : Service) (venue symbol : String) (now : Nat) : Bool :=
  match s.lastUpdate (bookKey venue symbol) with
  | none => false
  | some t => decide (((now : ℤ) - t) < s.staleDuration)

/-- `IsDataBlocked`: never updated, or older than `blockDuration`. -/
def Service.isDataBlocked (s : Service) (venue symbol : String) (now : Nat) : Bool :=
  match s.lastUpdate (bookKey venue symbol) with
  | none => true
  | some t => decide (((now : ℤ) - t) > s.blockDuration)

/-- A service as `NewService` made it holds no book. -/
@[simp] theorem Service.getOrderBook_new (stale block : Nat) (venue symbol : String) :
    (Service.new stale block).getOrderBook venue symbol = none := rfl

/-- Every feed of a service as `NewService` made it is blocked. -/
@[simp] theorem Service.isDataBlocked_new (stale block : Nat) (venue symbol : String) (now : Nat) :
    (Service.new stale block).isDataBlocked venue symbol now = true := rfl

/-! ## Runs of feed updates -/

/-- A call that feeds the service: a full snapshot or a delta, with the clock reading. -/
inductive FeedCall where
  | updateOrderBook (snap : OrderBookSnapshot) (now : Nat)
  | applyDelta (delta : OrderBookDelta) (now : Nat)

/-- The venue a feed call is for. -/
def FeedCall.venue : FeedCall → String
  | .updateOrderBook snap _ => snap.venue
  | .applyDelta delta _ => delta.venue

/-- The symbol a feed call is for. -/
def FeedCall.symbol : FeedCall → String
  | .updateOrderBook snap _ => snap.symbol
  | .applyDelta delta _ => delta.symbol

/-- The clock reading of a feed call. -/
def FeedCall.now : FeedCall → Nat
  | .updateOrderBook _ now => now
  | .applyDelta _ now => now

/-- The service after one feed call. -/
def Service.call (s : Service) : FeedCall → Service
  | .updateOrderBook snap now => (s.updateOrderBook snap now).1
  | .applyDelta delta now => (s.applyDelta delta now).1

/-- The service after a sequence of feed calls. -/
def Service.run (s : Service) (calls : List FeedCall) : Service := calls.foldl Service.call s

/-- The clock reading of the last call for `key`, if any. -/
def lastStamp (key : String) : List FeedCall → Option Nat
  | [] => none
  | c :: cs => (lastStamp key cs).or (if bookKey c.venue c.symbol = key then some c.now else none)

@[simp] theorem Service.call_thresholds (s : Service) (c : FeedCall) :
    (s.call c).blockDuration = s.blockDuration ∧ (s.call c).staleDuration = s.staleDuration := by
  cases c <;> exact ⟨rfl, rfl⟩

/-- A feed call stamps its own key and no other. -/
theorem Service.call_lastUpdate (s : Service) (c : FeedCall) (key : String) :
    (s.call c).lastUpdate key =
      if key = bookKey c.venue c.symbol then some c.now else s.lastUpdate key := by
  cases c <;> simp [Service.call, Service.updateOrderBook, Service.applyDelta, FeedCall.venue,
    FeedCall.symbol, FeedCall.now, Function.update_apply]

theorem Service.run_blockDuration (s : Service) (calls : List FeedCall) :
    (s.run calls).blockDuration = s.blockDuration := by
  induction calls generalizing s with
  | nil => rfl
  | cons c cs ih =>
    simp only [Service.run, List.foldl_cons] at ih ⊢
    rw [ih, (s.call_thresholds c).1]

/-- After a run, a key's last-update time is the stamp of the run's last call for it, or the
starting one when the run has none. -/
theorem Service.run_lastUpdate (s : Service) (calls : List FeedCall) (key : String) :
    (s.run calls).lastUpdate key = (lastStamp key calls).or (s.lastUpdate key) := by
  induction calls generalizing s with
  | nil => simp [Service.run, lastStamp]
  | cons c cs ih =>
    have h := ih (s.call c)
    simp only [Service.run, List.foldl_cons] at h ⊢
    rw [h, Service.call_lastUpdate, lastStamp, Option.or_assoc]
    by_cases hk : key = bookKey c.venue c.symbol
    · simp [hk]
    · simp [hk, Ne.symm hk]

/-- **Blocking reads only timestamps.** After any run, a feed is blocked exactly when it has
never been stamped or its last stamp is more than `blockDuration` old; sequence numbers play no
part. -/
theorem Service.isDataBlocked_run (s : Service) (calls : List FeedCall) (venue symbol : String)
    (t : Nat) :
    (s.run calls).isDataBlocked venue symbol t =
      match (lastStamp (bookKey venue symbol) calls).or (s.lastUpdate (bookKey venue symbol)) with
      | none => true
      | some u => decide (((t : ℤ) - u) > s.blockDuration) := by
  simp only [Service.isDataBlocked, Service.run_lastUpdate, Service.run_blockDuration]

/-- For calls all on one key, the last stamp is the last call's clock reading. -/
theorem lastStamp_of_forall (key : String) (calls : List FeedCall)
    (h : ∀ c ∈ calls, bookKey c.venue c.symbol = key) :
    lastStamp key calls = calls.getLast?.map FeedCall.now := by
  induction calls with
  | nil => rfl
  | cons c cs ih =>
    rw [lastStamp, ih fun x hx => h x (List.mem_cons_of_mem c hx),
      if_pos (h c (List.mem_cons_self c cs)), List.getLast?_cons]
    cases cs.getLast? <;> rfl

/-- **Feed freshness from a new service.** For calls on one venue and symbol, the feed is
blocked at `t` exactly when there was no call, or when the last call's stamp is more than
`blockDuration` before `t`. The sequence numbers of snapshots and deltas do not enter. -/
theorem isDataBlocked_feed (stale block : Nat) (venue symbol : String) (calls : List FeedCall)
    (hcalls : ∀ c ∈ calls, c.venue = venue ∧ c.symbol = symbol) (t : Nat) :
    ((Service.new stale block).run calls).isDataBlocked venue symbol t =
      match calls.getLast? with
      | none => true
      | some c => decide (((t : ℤ) - c.now) > block) := by
  have hkey : ∀ c ∈ calls, bookKey c.venue c.symbol = bookKey venue symbol := fun c hc => by
    rw [(hcalls c hc).1, (hcalls c hc).2]
  rw [Service.isDataBlocked_run, lastStamp_of_forall _ _ hkey]
  cases calls.getLast? <;> rfl

/-- A snapshot of ETH/USDT on kcex with sequence 7 at 0 s, then a delta with sequence 9 at 1 s,
skipping 8. -/
def gapCalls : List FeedCall :=
  [.updateOrderBook ⟨"kcex", "ETH/USDT", [], [], 7, 0, 0⟩ 0,
   .applyDelta ⟨"kcex", "ETH/USDT", [], [], 9, 0, 0⟩ 1000000000]

/-- At 2.5 s the feed's blocking reads the delta's time only, 1.5 s old, and not its skipped
sequence number: the feed is not blocked. -/
theorem isDataBlocked_feed_after_snapshot :
    (∀ c ∈ gapCalls, c.venue = "kcex" ∧ c.symbol = "ETH/USDT") ∧
      ((Service.new 500000000 2000000000).run gapCalls).isDataBlocked "kcex" "ETH/USDT"
          2500000000 =
        (match gapCalls.getLast? with
        | none => true
        | some c => decide (((2500000000 : ℤ) - c.now) > (2000000000 : Nat))) ∧
      ((Service.new 500000000 2000000000).run gapCalls).isDataBlocked "kcex" "ETH/USDT"
          2500000000 = false := by
  have hcalls : ∀ c ∈ gapCalls, c.venue = "kcex" ∧ c.symbol = "ETH/USDT" := by decide
  have h := isDataBlocked_feed 500000000 2000000000 _ _ _ hcalls 2500000000
  exact ⟨hcalls, h, h.trans (by decide)⟩

/-- A snapshot with sequence 1 and a delta with sequence 3, both at time 0, leave the feed
unblocked at time 0; a lone snapshot is not blocked when it is exactly `blockDuration` old. -/
theorem isDataBlocked_gap_and_boundary :
    ((Service.new 500000000 2000000000).run
        [.updateOrderBook ⟨"nobitex", "BTC/USDT", [], [], 1, 0, 0⟩ 0,
         .applyDelta ⟨"nobitex", "BTC/USDT", [], [], 3, 0, 0⟩ 0]).isDataBlocked
        "nobitex" "BTC/USDT" 0 = false ∧
      ((Service.new 500000000 2000000000).run
        [.updateOrderBook ⟨"nobitex", "BTC/USDT", [], [], 1, 0, 0⟩ 0]).isDataBlocked
        "nobitex" "BTC/USDT" 2000000000 = false := by
  decide

/-! ## The heartbeat monitor -/

/-- A warning of `checkStaleness`: its message, the feed's key and the feed's age in
milliseconds. -/
structure StalenessWarning where
  msg : String
  feed : String
  ageMs : ℤ
  deriving DecidableEq, Repr

/-- `checkStaleness`, run by `RunHeartbeatMonitor` on every tick, over the keys of `lastUpdate` in
the order `keys` lists them (Go leaves the order of a map's iteration open): a feed older than
`blockDuration` is logged as blocked, else one older than `staleDuration` as stale, with its age
truncated to milliseconds. -/
def Service.checkStaleness (s : Service) (keys : List String) (now : Nat) :
    List StalenessWarning :=
  keys.filterMap fun key =>
    match s.lastUpdate key with
    | none => none
    | some t =>
      let age : ℤ := (now : ℤ) - t
      if age > s.blockDuration then
        some ⟨"market data blocked: exceeds block threshold", key, age.tdiv 1000000⟩
      else if age > s.staleDuration then
        some ⟨"market data stale: exceeds warning threshold", key, age.tdiv 1000000⟩
      else none

/-- The warnings of `checkStaleness`: one per listed feed past a threshold, blocked before stale. -/
theorem Service.mem_checkStaleness (s : Service) (keys : List String) (now : Nat)
    (w : StalenessWarning) :
    w ∈ s.checkStaleness keys now ↔ w.feed ∈ keys ∧ ∃ t, s.lastUpdate w.feed = some t ∧
      w.ageMs = ((now : ℤ) - t).tdiv 1000000 ∧
      (w.msg = "market data blocked: exceeds block threshold" ∧ (now : ℤ) - t > s.blockDuration ∨
        w.msg = "market data stale: exceeds warning threshold" ∧
          ¬ (now : ℤ) - t > s.blockDuration ∧ (now : ℤ) - t > s.staleDuration) := by
  obtain ⟨msg, feed, ageMs⟩ := w
  simp only [Service.checkStaleness, List.mem_filterMap]
  constructor
  · rintro ⟨key, hkey, h⟩
    cases ht : s.lastUpdate key with
    | none => simp [ht] at h
    | some t =>
      simp only [ht] at h
      split_ifs at h with hb hs <;> cases h
      · exact ⟨hkey, t, ht, rfl, .inl ⟨rfl, hb⟩⟩
      · exact ⟨hkey, t, ht, rfl, .inr ⟨rfl, hb, hs⟩⟩
  · rintro ⟨hkey, t, ht, rfl, ⟨rfl, hb⟩ | ⟨rfl, hb, hs⟩⟩
    · exact ⟨feed, hkey, by simp only [ht, if_pos hb]⟩
    · exact ⟨feed, hkey, by simp only [ht, if_neg hb, if_pos hs]⟩

/-- **The heartbeat names a blocked feed only once it was fed.** Over the keys of `lastUpdate`,
`checkStaleness` logs a feed as blocked exactly when it was updated and `IsDataBlocked` holds,
and as stale exactly when it was updated, is not blocked and is older than `staleDuration`. A feed
never updated, which `IsDataBlocked` blocks, is named by no warning. -/
theorem Service.checkStaleness_feed (s : Service) (keys : List String)
    (hkeys : ∀ key, key ∈ keys ↔ s.lastUpdate key ≠ none) (now : Nat) (venue symbol : String) :
    ((∃ w ∈ s.checkStaleness keys now, w.feed = bookKey venue symbol ∧
        w.msg = "market data blocked: exceeds block threshold") ↔
      s.lastUpdate (bookKey venue symbol) ≠ none ∧ s.isDataBlocked venue symbol now = true) ∧
    ((∃ w ∈ s.checkStaleness keys now, w.feed = bookKey venue symbol ∧
        w.msg = "market data stale: exceeds warning threshold") ↔
      ∃ t, s.lastUpdate (bookKey venue symbol) = some t ∧
        s.isDataBlocked venue symbol now = false ∧ (now : ℤ) - t > s.staleDuration) ∧
    (s.lastUpdate (bookKey venue symbol) = none →
      s.isDataBlocked venue symbol now = true ∧
        ∀ w ∈ s.checkStaleness keys now, w.feed ≠ bookKey venue symbol) := by
  have hmsg : "market data blocked: exceeds block threshold" ≠
      "market data stale: exceeds warning threshold" := by decide
  simp only [Service.mem_checkStaleness, Service.isDataBlocked]
  refine ⟨⟨?_, ?_⟩, ⟨?_, ?_⟩, fun hnone => ⟨by simp [hnone], ?_⟩⟩
  · rintro ⟨w, ⟨-, t, ht, -, ⟨-, hb⟩ | ⟨hs, -⟩⟩, hf, hm⟩
    · rw [hf] at ht
      simpa [ht] using hb
    · exact absurd (hm.symm.trans hs) hmsg
  · intro ⟨hsome, hb⟩
    obtain ⟨t, ht⟩ := Option.ne_none_iff_exists'.mp hsome
    rw [ht] at hb
    exact ⟨⟨_, bookKey venue symbol, ((now : ℤ) - t).tdiv 1000000⟩,
      ⟨(hkeys _).mpr hsome, t, ht, rfl, .inl ⟨rfl, by simpa using hb⟩⟩, rfl, rfl⟩
  · rintro ⟨w, ⟨-, t, ht, -, ⟨hb, -⟩ | ⟨-, hb, hs⟩⟩, hf, hm⟩
    · exact absurd (hm.symm.trans hb).symm hmsg
    · rw [hf] at ht
      exact ⟨t, ht, by simpa [ht] using hb, hs⟩
  · rintro ⟨t, ht, hb, hs⟩
    rw [ht] at hb
    exact ⟨⟨_, bookKey venue symbol, ((now : ℤ) - t).tdiv 1000000⟩,
      ⟨(hkeys _).mpr (by simp [ht]), t, ht, rfl, .inr ⟨rfl, by simpa using hb, hs⟩⟩, rfl, rfl⟩
  · rintro w ⟨-, t, ht, -⟩ hf
    rw [hf, hnone] at ht
    cases ht

/-- A kcex ETH/USDT feed updated at time `0` and checked at `2.5 s`, past the block threshold. -/
theorem Service.checkStaleness_feed_kcex :
    let s := (Service.new 500000000 2000000000).run
      [.updateOrderBook ⟨"kcex", "ETH/USDT", [], [], 7, 0, 0⟩ 0]
    let key := bookKey "kcex" "ETH/USDT"
    let warnings := s.checkStaleness [key] 2500000000
    (∀ k, k ∈ [key] ↔ s.lastUpdate k ≠ none) ∧
    ((∃ w ∈ warnings, w.feed = key ∧ w.msg = "market data blocked: exceeds block threshold") ↔
      s.lastUpdate key ≠ none ∧ s.isDataBlocked "kcex" "ETH/USDT" 2500000000 = true) ∧
    ((∃ w ∈ warnings, w.feed = key ∧ w.msg = "market data stale: exceeds warning threshold") ↔
      ∃ t, s.lastUpdate key = some t ∧ s.isDataBlocked "kcex" "ETH/USDT" 2500000000 = false ∧
        ((2500000000 : ℕ) : ℤ) - t > s.staleDuration) ∧
    (s.lastUpdate key = none → s.isDataBlocked "kcex" "ETH/USDT" 2500000000 = true ∧
      ∀ w ∈ warnings, w.feed ≠ key) := by
  intro s key warnings
  have hkeys : ∀ k, k ∈ [key] ↔ s.lastUpdate k ≠ none := by
    intro k
    by_cases hk : k = "kcex:ETH/USDT" <;>
      simp [s, key, hk, Service.run, Service.call, Service.updateOrderBook, Service.new, bookKey,
        Function.update]
  exact ⟨hkeys, Service.checkStaleness_feed s [key] hkeys 2500000000 "kcex" "ETH/USDT"⟩

/-! ## Sorting a side -/

/-- `sinkLevel` is `List.orderedInsert` for the relation "does not beat". -/
theorem sinkLevel_eq_orderedInsert (beats : PriceLevel → PriceLevel → Bool) (x : PriceLevel)
    (l : List PriceLevel) : sinkLevel beats x l = l.orderedInsert (fun a b => beats a b = false) x := by
  induction l with
  | nil => rfl
  | cons y ys ih => cases h : beats x y <;> simp [sinkLevel, h, ih]

/-- `sortLevels` is an insertion sort of the reversed side, read back reversed. -/
theorem sortLevels_eq (levels : List PriceLevel) (descending : Bool) :
    sortLevels levels descending =
      (levels.reverse.insertionSort fun a b => levelBeats descending a b = false).reverse := by
  rw [sortLevels, ← List.foldr_reverse]
  congr 1
  induction levels.reverse with
  | nil => rfl
  | cons x xs ih => simp [sinkLevel_eq_orderedInsert, ih]

/-- Of two levels, one does not beat the other. -/
theorem levelBeats_false_total (descending : Bool) (a b : PriceLevel) :
    levelBeats descending a b = false ∨ levelBeats descending b a = false := by
  cases descending <;> simp [levelBeats] <;> exact le_total _ _

instance (descending : Bool) : IsTotal PriceLevel (fun a b => levelBeats descending a b = false) :=
  ⟨levelBeats_false_total descending⟩

theorem levelBeats_false_trans (descending : Bool) (a b c : PriceLevel) :
    levelBeats descending a b = false → levelBeats descending b c = false →
      levelBeats descending a c = false := by
  cases descending <;> simp only [levelBeats] <;> simp <;> intro h1 h2 <;> linarith

instance (descending : Bool) : IsTrans PriceLevel (fun a b => levelBeats descending a b = false) :=
  ⟨levelBeats_false_trans descending⟩

/-- The sort returns a permutation of its input. -/
theorem sortLevels_perm (levels : List PriceLevel) (descending : Bool) :
    (sortLevels levels descending).Perm levels := by
  rw [sortLevels_eq]
  exact (List.reverse_perm _).trans ((List.perm_insertionSort _ _).trans (List.reverse_perm _))

/-- No level of the sorted side beats one before it. -/
theorem sortLevels_sorted (levels : List PriceLevel) (descending : Bool) :
    (sortLevels levels descending).Pairwise fun a b => levelBeats descending b a = false := by
  rw [sortLevels_eq, List.pairwise_reverse]
  exact List.sorted_insertionSort _ _

/-! ## Deltas on a side -/

/-- The size a side holds at a price, `none` when no level has that price. -/
def levelLookup (levels : List PriceLevel) (p : Decimal) : Option Decimal :=
  (levels.find? fun l => l.price = p).map (·.size)

/-- A delta on the price-to-size map: a zero size removes the price, another size sets it. -/
def levelMapUpdate (m : Decimal → Option Decimal) (d : PriceLevel) : Decimal → Option Decimal :=
  Function.update m d.price (if d.size = 0 then none else some d.size)

/-- No two levels of a side share a price. -/
def DistinctPrices (levels : List PriceLevel) : Prop :=
  levels.Pairwise fun a b => a.price ≠ b.price

theorem levelLookup_eq_some_iff {levels : List PriceLevel} (hd : DistinctPrices levels)
    (p s : Decimal) : levelLookup levels p = some s ↔ (⟨p, s⟩ : PriceLevel) ∈ levels := by
  induction levels with
  | nil => simp [levelLookup]
  | cons x xs ih =>
    rw [DistinctPrices, List.pairwise_cons] at hd
    obtain ⟨xp, xsz⟩ := x
    by_cases hx : xp = p
    · subst hx
      have : (⟨xp, s⟩ : PriceLevel) ∉ xs := fun hm => hd.1 _ hm rfl
      simp [levelLookup, this, eq_comm]
    · simp [levelLookup, hx, ← ih hd.2, Ne.symm hx]

/-- Two sides with distinct prices and the same levels hold the same map. -/
theorem levelLookup_congr {l₁ l₂ : List PriceLevel} (h₁ : DistinctPrices l₁)
    (h₂ : DistinctPrices l₂) (h : ∀ x, x ∈ l₁ ↔ x ∈ l₂) : levelLookup l₁ = levelLookup l₂ := by
  funext p
  apply Option.ext
  intro s
  rw [Option.mem_def, Option.mem_def, levelLookup_eq_some_iff h₁, levelLookup_eq_some_iff h₂, h]

theorem updateLevel_none {d : PriceLevel} {levels : List PriceLevel}
    (h : updateLevel d levels = none) : ∀ y ∈ levels, y.price ≠ d.price := by
  induction levels with
  | nil => simp
  | cons l ls ih =>
    simp only [updateLevel] at h
    split at h
    · cases h
    · simp only [Option.map_eq_none'] at h
      simpa [*] using ih h

theorem updateLevel_some {d : PriceLevel} {levels ls' : List PriceLevel}
    (hd : DistinctPrices levels) (h : updateLevel d levels = some ls') :
    DistinctPrices ls' ∧
      ∀ y, y ∈ ls' ↔ (y ∈ levels ∧ y.price ≠ d.price) ∨ (d.size ≠ 0 ∧ y = d) := by
  induction levels generalizing ls' with
  | nil => cases h
  | cons l ls ih =>
    rw [DistinctPrices, List.pairwise_cons] at hd
    simp only [updateLevel] at h
    split at h
    · rename_i hl
      cases h
      split_ifs with hz
      · refine ⟨hd.2, fun y => ?_⟩
        rw [List.mem_cons]
        constructor
        · exact fun hy => .inl ⟨.inr hy, hl ▸ (hd.1 y hy).symm⟩
        · rintro (⟨rfl | hy, hp⟩ | ⟨hz', -⟩)
          exacts [absurd hl hp, hy, absurd hz hz']
      · obtain ⟨lp, lsz⟩ := l
        obtain ⟨dp, dsz⟩ := d
        simp only at hl hz ⊢
        subst hl
        refine ⟨List.pairwise_cons.mpr ⟨hd.1, hd.2⟩, fun y => ?_⟩
        rw [List.mem_cons, List.mem_cons]
        constructor
        · rintro (rfl | hy)
          exacts [.inr ⟨hz, rfl⟩, .inl ⟨.inr hy, (hd.1 y hy).symm⟩]
        · rintro (⟨rfl | hy, hp⟩ | ⟨-, rfl⟩)
          exacts [absurd rfl hp, .inr hy, .inl rfl]
    · rename_i hl
      obtain ⟨ls'', h', rfl⟩ := Option.map_eq_some'.mp h
      obtain ⟨hd', hm⟩ := ih hd.2 h'
      refine ⟨List.pairwise_cons.mpr ⟨fun y hy => ?_, hd'⟩, fun y => ?_⟩
      · rcases (hm y).mp hy with ⟨hy, -⟩ | ⟨-, rfl⟩
        exacts [hd.1 y hy, hl]
      · rw [List.mem_cons, hm, List.mem_cons]
        constructor
        · rintro (rfl | h | h)
          exacts [.inl ⟨.inl rfl, hl⟩, .inl ⟨.inr h.1, h.2⟩, .inr h]
        · rintro (⟨rfl | h, hp⟩ | h)
          exacts [.inl rfl, .inr (.inl ⟨h, hp⟩), .inr (.inr h)]

/-- **One delta.** On a side with distinct prices, a delta keeps the prices distinct, and the side
then holds the levels of other prices as they were, plus the delta's level unless its size is
zero. -/
theorem applyLevelDelta_spec {levels : List PriceLevel} (hd : DistinctPrices levels)
    (d : PriceLevel) :
    DistinctPrices (applyLevelDelta levels d) ∧
      ∀ y, y ∈ applyLevelDelta levels d ↔ (y ∈ levels ∧ y.price ≠ d.price) ∨ (d.size ≠ 0 ∧ y = d) := by
  unfold applyLevelDelta
  split
  · exact updateLevel_some hd ‹_›
  · rename_i hnone
    have hout := updateLevel_none hnone
    split_ifs with hz
    · exact ⟨hd, fun y => ⟨fun hy => .inl ⟨hy, hout y hy⟩, by
        rintro (h | h); exacts [h.1, absurd hz h.1]⟩⟩
    · refine ⟨List.pairwise_append.mpr ⟨hd, List.pairwise_singleton _ _, ?_⟩, fun y => ?_⟩
      · intro a ha b hb
        rw [List.mem_singleton] at hb
        subst hb
        exact hout a ha
      · simp only [List.mem_append, List.mem_singleton]
        constructor
        · rintro (h | rfl)
          exacts [.inl ⟨h, hout y h⟩, .inr ⟨hz, rfl⟩]
        · rintro (h | h)
          exacts [.inl h.1, .inr h.2]

/-- A delta sets or removes its price in the map a side holds. -/
theorem levelLookup_applyLevelDelta {levels : List PriceLevel} (hd : DistinctPrices levels)
    (d : PriceLevel) :
    levelLookup (applyLevelDelta levels d) = levelMapUpdate (levelLookup levels) d := by
  obtain ⟨hd', hm⟩ := applyLevelDelta_spec hd d
  funext p
  apply Option.ext
  intro s
  rw [Option.mem_def, Option.mem_def, levelLookup_eq_some_iff hd', hm, levelMapUpdate,
    Function.update_apply]
  obtain ⟨dp, dsz⟩ := d
  by_cases hp : p = dp
  · subst hp
    by_cases hz : dsz = 0 <;> simp [hz, eq_comm]
  · simp [hp, levelLookup_eq_some_iff hd]

/-- The deltas in order, on a side with distinct prices and no zero size: both stay so, and the
map the side holds is updated delta by delta. -/
theorem foldl_applyLevelDelta (deltas : List PriceLevel) :
    ∀ levels : List PriceLevel, DistinctPrices levels → (∀ l ∈ levels, l.size ≠ 0) →
      DistinctPrices (deltas.foldl applyLevelDelta levels) ∧
        (∀ l ∈ deltas.foldl applyLevelDelta levels, l.size ≠ 0) ∧
        levelLookup (deltas.foldl applyLevelDelta levels) =
          deltas.foldl levelMapUpdate (levelLookup levels) := by
  induction deltas with
  | nil => exact fun levels hd hz => ⟨hd, hz, rfl⟩
  | cons d ds ih =>
    intro levels hd hz
    obtain ⟨hd', hm⟩ := applyLevelDelta_spec hd d
    have hz' : ∀ l ∈ applyLevelDelta levels d, l.size ≠ 0 := fun l hl =>
      ((hm l).mp hl).elim (fun h => hz l h.1) fun h => h.2 ▸ h.1
    simpa only [List.foldl_cons, levelLookup_applyLevelDelta hd] using ih _ hd' hz'

/-- The book invariant of one side: each level beats every later one (a strictly lower price
after it for bids, a strictly higher one for asks), and no level has size zero. -/
def SideWellFormed (levels : List PriceLevel) (descending : Bool) : Prop :=
  levels.Pairwise (fun a b => levelBeats descending a b = true) ∧ ∀ l ∈ levels, l.size ≠ 0

theorem levelBeats_price_ne {descending : Bool} {a b : PriceLevel}
    (h : levelBeats descending a b = true) : a.price ≠ b.price := by
  cases descending <;> simp only [levelBeats, decide_eq_true_eq, Bool.false_eq_true,
    if_true, if_false] at h
  exacts [ne_of_lt h, ne_of_gt h]

/-- **Delta application keeps the book invariant.** On a well-formed side, `applyLevelDeltas`
returns a well-formed side in the same direction, holding the map of the input updated by the
deltas in order. -/
theorem applyLevelDeltas_spec (levels deltas : List PriceLevel) (descending : Bool)
    (h : SideWellFormed levels descending) :
    SideWellFormed (applyLevelDeltas levels deltas descending) descending ∧
      levelLookup (applyLevelDeltas levels deltas descending) =
        deltas.foldl levelMapUpdate (levelLookup levels) := by
  obtain ⟨hd, hz, hl⟩ :=
    foldl_applyLevelDelta deltas levels (h.1.imp levelBeats_price_ne) h.2
  have hp := sortLevels_perm (deltas.foldl applyLevelDelta levels) descending
  have hd' := (hp.pairwise_iff fun h => Ne.symm h).mpr hd
  refine ⟨⟨((sortLevels_sorted _ descending).and hd').imp ?_, fun l hl => hz l (hp.mem_iff.mp hl)⟩,
    by rw [applyLevelDeltas, levelLookup_congr hd' hd fun x => hp.mem_iff, hl]⟩
  rintro a b ⟨hba, hne⟩
  cases descending <;> simp only [levelBeats, decide_eq_false_iff_not, decide_eq_true_eq,
    Bool.false_eq_true, if_true, if_false, not_lt] at hba ⊢
  exacts [lt_of_le_of_ne hba hne, lt_of_le_of_ne hba (Ne.symm hne)]

/-! ## The book invariant along a run -/

/-- The book invariant: bids strictly descending, asks strictly ascending, no level of size
zero. -/
def BookWellFormed (book : OrderBookSnapshot) : Prop :=
  SideWellFormed book.bids true ∧ SideWellFormed book.asks false

/-- Every book the service holds satisfies the book invariant. -/
def Service.BooksWellFormed (s : Service) : Prop :=
  ∀ key book, s.books key = some book → BookWellFormed book

/-- A feed call that installs a snapshot installs a well-formed one; a delta may be anything. -/
def FeedCall.WellFormed : FeedCall → Prop
  | .updateOrderBook snap _ => BookWellFormed snap
  | .applyDelta _ _ => True

/-- The book a delta starts from is well formed: a stored one, or an empty one. -/
theorem Service.bookFor_wellFormed {s : Service} (hs : s.BooksWellFormed) (delta : OrderBookDelta) :
    BookWellFormed (s.bookFor delta) := by
  unfold Service.bookFor
  cases h : s.books (bookKey delta.venue delta.symbol) with
  | none => simp [BookWellFormed, SideWellFormed]
  | some b => exact hs _ _ h

/-- A feed call keeps every book well formed. -/
theorem Service.call_booksWellFormed {s : Service} (hs : s.BooksWellFormed) (c : FeedCall)
    (hc : c.WellFormed) : (s.call c).BooksWellFormed := by
  intro key book hb
  cases c with
  | updateOrderBook snap now =>
    simp only [Service.call, Service.updateOrderBook, Function.update_apply] at hb
    split_ifs at hb
    · cases hb; exact hc
    · exact hs _ _ hb
  | applyDelta delta now =>
    simp only [Service.call, Service.applyDelta, Function.update_apply] at hb
    split_ifs at hb
    · cases hb
      have hb := s.bookFor_wellFormed hs delta
      exact ⟨(applyLevelDeltas_spec _ _ _ hb.1).1, (applyLevelDeltas_spec _ _ _ hb.2).1⟩
    · exact hs _ _ hb

/-- A run whose snapshots are well formed keeps every book well formed. -/
theorem Service.run_booksWellFormed {s : Service} (hs : s.BooksWellFormed) (calls : List FeedCall)
    (hcalls : ∀ c ∈ calls, c.WellFormed) : (s.run calls).BooksWellFormed := by
  induction calls generalizing s with
  | nil => exact hs
  | cons c cs ih =>
    exact ih (s.call_booksWellFormed hs c (hcalls c (List.mem_cons_self _ _)))
      fun x hx => hcalls x (List.mem_cons_of_mem _ hx)

/-- **The book invariant under deltas.** `applyLevelDeltas` keeps a well-formed side well formed,
in the same direction, and applies the deltas to its price-to-size map in order; so from an empty
service, along any run of snapshots that are well formed and deltas of any kind, every book the
service holds is well formed. -/
theorem applyDelta_keeps_book_invariant (levels deltas : List PriceLevel) (descending : Bool)
    (h : SideWellFormed levels descending) (stale block : Nat) (calls : List FeedCall)
    (hcalls : ∀ c ∈ calls, c.WellFormed) :
    SideWellFormed (applyLevelDeltas levels deltas descending) descending ∧
      levelLookup (applyLevelDeltas levels deltas descending) =
        deltas.foldl levelMapUpdate (levelLookup levels) ∧
      ((Service.new stale block).run calls).BooksWellFormed :=
  ⟨(applyLevelDeltas_spec levels deltas descending h).1,
    (applyLevelDeltas_spec levels deltas descending h).2,
    Service.run_booksWellFormed (fun _ _ h => by cases h) calls hcalls⟩

/-- A BTC/USDT snapshot with two bids and one ask. -/
def btcSnapshot : OrderBookSnapshot :=
  ⟨"nobitex", "BTC/USDT", [⟨50000, 1⟩, ⟨49990, 2⟩], [⟨50010, 1⟩], 1, 0, 0⟩

/-- A delta that removes the bid at 49990, adds one at 50005 and an ask at 50020. -/
def btcDelta : OrderBookDelta :=
  ⟨"nobitex", "BTC/USDT", [⟨49990, 0⟩, ⟨50005, 3⟩], [⟨50020, 4⟩], 2, 0, 0⟩

theorem btc_book_invariant :
    SideWellFormed btcSnapshot.bids true ∧
      (∀ c ∈ [FeedCall.updateOrderBook btcSnapshot 0, .applyDelta btcDelta 1], c.WellFormed) ∧
      (SideWellFormed (applyLevelDeltas btcSnapshot.bids btcDelta.bids true) true ∧
        levelLookup (applyLevelDeltas btcSnapshot.bids btcDelta.bids true) =
          btcDelta.bids.foldl levelMapUpdate (levelLookup btcSnapshot.bids) ∧
        ((Service.new 500000000 2000000000).run
          [.updateOrderBook btcSnapshot 0, .applyDelta btcDelta 1]).BooksWellFormed) := by
  have hbids : SideWellFormed btcSnapshot.bids true := by
    norm_num [SideWellFormed, btcSnapshot, levelBeats]
  have hcalls : ∀ c ∈ [FeedCall.updateOrderBook btcSnapshot 0, .applyDelta btcDelta 1],
      c.WellFormed := by
    norm_num [FeedCall.WellFormed, BookWellFormed, SideWellFormed, btcSnapshot, levelBeats]
  exact ⟨hbids, hcalls, applyDelta_keeps_book_invariant _ _ _ hbids _ _ _ hcalls⟩

end ArbitrageEngine.MarketData
