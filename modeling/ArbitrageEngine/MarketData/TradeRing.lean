import ArbitrageEngine.MarketData.Service

/-!
# Trade ring buffer

`marketdata.TradeRingBuffer` holds `cap` slots of trade pointers and an atomic `uint64` count
`head` of the pushes so far. `Push` writes push number `head` to slot `head % cap`; `Recent(n)`
converts `n` to `uint64`, caps it at `cap` and at `head`, and reads the slots of the last `count`
pushes in push order, skipping nil slots. `RecordTrade` keeps one buffer of capacity 1000 per
key `venue:symbol`.

The last `cap` pushes sit in their slots (`pushAll_trades`), so for a count `n` in `[0, 2^63)`,
`Recent(n)` returns the last `min(n, cap, k)` of `k` pushed trades in push order, nil when nothing
was pushed (`recent_pushAll_of_nonneg`), and `Len` is `min(k, cap)` (`len_pushAll`). A negative
`n` converts to a count of at least `2^63`, which the cap cuts back: `Recent(n)` then returns the
last `min(cap, k)` trades (`recent_pushAll_of_neg`). Every key's buffer in the service holds
exactly the trades recorded under that key (`recordTrades_apply`), so `GetRecentTrades` and `Len`
answer from the key's own trades (`recordTrades_getRecentTrades`).
-/

set_option autoImplicit false

namespace ArbitrageEngine.MarketData

/-- `TradeRingBuffer`: the slots (only `0 .. cap - 1` are written; `none` is a nil pointer), the
push count `head`, and the capacity. -/
structure TradeRingBuffer where
  trades : Nat → Option Trade
  head : Nat
  cap : Nat

/-- `NewTradeRingBuffer`: every slot nil, no push yet. -/
def newTradeRingBuffer (capacity : Nat) : TradeRingBuffer := ⟨fun _ => none, 0, capacity⟩

/-- `Push`: `head.Add(1) - 1` is the old head; the trade goes to its slot, and the count wraps
at `2^64`. -/
def TradeRingBuffer.push (rb : TradeRingBuffer) (trade : Option Trade) : TradeRingBuffer :=
  { rb with
    trades := Function.update rb.trades (rb.head % rb.cap) trade
    head := (rb.head + 1) % 18446744073709551616 }

/-- `Recent`: `none` is the nil slice of an empty buffer. The requested count is converted to
`uint64`, then capped at the capacity and at the number of pushes. -/
def TradeRingBuffer.recent (rb : TradeRingBuffer) (n : ℤ) : Option (List Trade) :=
  if rb.head = 0 then none
  else
    let count := (n % 18446744073709551616).toNat
    let count := if count > rb.cap then rb.cap else count
    let count := if count > rb.head then rb.head else count
    some ((List.range count).filterMap fun j => rb.trades ((rb.head - count + j) % rb.cap))

/-- `Len`: the number of pushes, capped at the capacity. -/
def TradeRingBuffer.len (rb : TradeRingBuffer) : Nat :=
  if rb.head > rb.cap then rb.cap else rb.head

/-- Pushes in order. -/
def TradeRingBuffer.pushAll (rb : TradeRingBuffer) (trades : List (Option Trade)) :
    TradeRingBuffer :=
  trades.foldl TradeRingBuffer.push rb

@[simp] theorem newTradeRingBuffer_cap (capacity : Nat) :
    (newTradeRingBuffer capacity).cap = capacity := rfl

@[simp] theorem TradeRingBuffer.push_cap (rb : TradeRingBuffer) (trade : Option Trade) :
    (rb.push trade).cap = rb.cap := rfl

@[simp] theorem TradeRingBuffer.pushAll_nil (rb : TradeRingBuffer) : rb.pushAll [] = rb := rfl

theorem TradeRingBuffer.pushAll_append_singleton (rb : TradeRingBuffer)
    (trades : List (Option Trade)) (trade : Option Trade) :
    rb.pushAll (trades ++ [trade]) = (rb.pushAll trades).push trade := by
  simp [TradeRingBuffer.pushAll, List.foldl_append]

@[simp] theorem TradeRingBuffer.pushAll_cap (rb : TradeRingBuffer) (trades : List (Option Trade)) :
    (rb.pushAll trades).cap = rb.cap := by
  induction trades using List.reverseRecOn with
  | nil => rfl
  | append_singleton trades trade ih => simp [TradeRingBuffer.pushAll_append_singleton, ih]

/-! ## Slots after a run of pushes -/

/-- The count after `k` pushes is `k`, modulo `2^64`. -/
theorem TradeRingBuffer.pushAll_head (capacity : Nat) (trades : List (Option Trade)) :
    ((newTradeRingBuffer capacity).pushAll trades).head = trades.length % 18446744073709551616 := by
  induction trades using List.reverseRecOn with
  | nil => rfl
  | append_singleton trades trade ih =>
    simp only [TradeRingBuffer.pushAll_append_singleton, TradeRingBuffer.push, ih,
      List.length_append, List.length_singleton]
    omega

/-- Two push numbers less than one revolution apart use different slots. -/
theorem mod_ne_of_lt_add {i j c : Nat} (hij : i < j) (hjc : j < i + c) : i % c ≠ j % c := by
  intro h
  have hdvd : c ∣ j - i := Nat.dvd_of_mod_eq_zero (Nat.sub_mod_eq_zero_of_mod_eq h.symm)
  have := Nat.le_of_dvd (by omega) hdvd
  omega

/-- **The last `cap` pushes sit in their slots.** After at most `2^64` pushes, push number `i` is in slot `i % cap` as long as fewer than `cap` pushes came
after it. -/
theorem TradeRingBuffer.pushAll_trades {capacity : Nat} (trades : List (Option Trade)) (hk : trades.length ≤ 18446744073709551616) (i : Nat)
    (hi : i < trades.length) (hlast : trades.length ≤ i + capacity) :
    ((newTradeRingBuffer capacity).pushAll trades).trades (i % capacity) = trades[i] := by
  induction trades using List.reverseRecOn with
  | nil => cases hi
  | append_singleton trades trade ih =>
    simp only [List.length_append, List.length_singleton] at hk hi hlast
    have hhead := TradeRingBuffer.pushAll_head capacity trades
    rw [Nat.mod_eq_of_lt (by omega)] at hhead
    simp only [TradeRingBuffer.pushAll_append_singleton, TradeRingBuffer.push, hhead,
      TradeRingBuffer.pushAll_cap, newTradeRingBuffer_cap]
    rcases Nat.lt_or_ge i trades.length with hlt | hge
    · rw [Function.update_noteq (mod_ne_of_lt_add hlt (by omega)), List.getElem_append_left hlt]
      exact ih (by omega) hlt (by omega)
    · obtain rfl : i = trades.length := by omega
      simp

/-- Reading `m` consecutive entries from position `s` is the slice `drop s`, `take m`. -/
theorem filterMap_range_getElem? {α : Type} (l : List α) (s m : Nat) :
    (List.range m).filterMap (fun j => l[s + j]?) = (l.drop s).take m := by
  induction m with
  | zero => simp
  | succ m ih =>
    rw [List.range_succ, List.filterMap_append, ih, List.take_succ, List.getElem?_drop]
    simp only [List.filterMap_cons, List.filterMap_nil]
    cases l[s + m]? <;> rfl

/-- **`Recent` reads the last `count` pushes.** After `k < 2^64` pushes of trades, `Recent` returns
the last `min(count, cap, k)` trades in push order, where `count` is the request converted to
`uint64`. -/
theorem TradeRingBuffer.recent_pushAll (capacity : Nat) (trades : List Trade)
    (hk : trades.length < 18446744073709551616) (hne : trades ≠ []) (n : ℤ) :
    ((newTradeRingBuffer capacity).pushAll (trades.map some)).recent n =
      some (trades.drop (trades.length -
        min (min (n % 18446744073709551616).toNat capacity) trades.length)) := by
  have hhead := TradeRingBuffer.pushAll_head capacity (trades.map some)
  rw [List.length_map, Nat.mod_eq_of_lt hk] at hhead
  have hpos : trades.length ≠ 0 := by simpa using hne
  set count := min (min (n % 18446744073709551616).toNat capacity) trades.length
  have hcount : count ≤ capacity ∧ count ≤ trades.length :=
    ⟨(min_le_left _ _).trans (min_le_right _ _), min_le_right _ _⟩
  have hif : (if (if (n % 18446744073709551616).toNat > capacity then capacity
      else (n % 18446744073709551616).toNat) > trades.length then trades.length
      else if (n % 18446744073709551616).toNat > capacity then capacity
      else (n % 18446744073709551616).toNat) = count := by
    simp only [count]; split_ifs <;> omega
  simp only [TradeRingBuffer.recent, hhead, TradeRingBuffer.pushAll_cap, newTradeRingBuffer_cap,
    if_neg hpos, hif]
  congr 1
  have hslot : ∀ j ∈ List.range count,
      ((newTradeRingBuffer capacity).pushAll (trades.map some)).trades
        ((trades.length - count + j) % capacity) = trades[trades.length - count + j]? := by
    intro j hj
    rw [List.mem_range] at hj
    have hlt : trades.length - count + j < trades.length := by omega
    rw [pushAll_trades _ (by simp; omega) _ (by simpa using hlt) (by simp; omega)]
    simp [hlt]
  rw [List.filterMap_congr hslot, filterMap_range_getElem?, List.take_of_length_le]
  simp; omega

/-- With a count in `[0, 2^63)`, `Recent` returns the last `min(n, cap, k)` of `k` pushed trades,
and the nil slice when nothing was pushed. -/
theorem TradeRingBuffer.recent_pushAll_of_nonneg (capacity : Nat) (trades : List Trade)
    (hk : trades.length < 18446744073709551616) (n : ℤ) (hn0 : 0 ≤ n)
    (hn1 : n < 9223372036854775808) :
    ((newTradeRingBuffer capacity).pushAll (trades.map some)).recent n =
      if trades.length = 0 then none
      else some (trades.drop (trades.length - min (min n.toNat capacity) trades.length)) := by
  split_ifs with hne
  · rw [List.length_eq_zero.mp hne]; rfl
  · rw [recent_pushAll capacity trades hk (by simpa using hne),
      Int.emod_eq_of_lt hn0 (by omega)]

/-- A negative count converts to at least `2^63`, above any `int` capacity, so `Recent` returns
the last `min(cap, k)` of `k` pushed trades. -/
theorem TradeRingBuffer.recent_pushAll_of_neg (capacity : Nat)
    (hcap : capacity < 9223372036854775808) (trades : List Trade)
    (hk : trades.length < 18446744073709551616) (hne : trades ≠ []) (n : ℤ)
    (hn0 : -9223372036854775808 ≤ n) (hn1 : n < 0) :
    ((newTradeRingBuffer capacity).pushAll (trades.map some)).recent n =
      some (trades.drop (trades.length - min capacity trades.length)) := by
  have hcount : min (n % 18446744073709551616).toNat capacity = capacity := min_eq_right (by omega)
  rw [recent_pushAll capacity trades hk hne, hcount]

/-- `Len` after `k < 2^64` pushes is `min(k, cap)`. -/
theorem TradeRingBuffer.len_pushAll (capacity : Nat) (trades : List (Option Trade))
    (hk : trades.length < 18446744073709551616) :
    ((newTradeRingBuffer capacity).pushAll trades).len = min trades.length capacity := by
  rw [TradeRingBuffer.len, pushAll_head, Nat.mod_eq_of_lt hk, pushAll_cap, newTradeRingBuffer_cap]
  split_ifs <;> omega

/-- Asked for `-1` trades after three pushes into a buffer of the capacity `RecordTrade` uses,
`Recent` returns all three. -/
theorem recent_negative_count_returns_trades (a b c : Trade) :
    ((newTradeRingBuffer 1000).pushAll [some a, some b, some c]).recent (-1) = some [a, b, c] := by
  have h := TradeRingBuffer.recent_pushAll_of_neg 1000 (by norm_num) [a, b, c] (by simp)
    (by simp) (-1) (by norm_num) (by norm_num)
  simpa using h

/-! ## The service's buffers -/

/-- `Service.RecordTrade` on the service's trade buffers: the buffer of the trade's key, created
with capacity 1000 on the key's first trade, gets the trade pushed. The publication on the bus is
left out. -/
def recordTrade (buffers : String → Option TradeRingBuffer) (trade : Trade) :
    String → Option TradeRingBuffer :=
  let key := bookKey trade.venue trade.symbol
  Function.update buffers key
    (some (((buffers key).getD (newTradeRingBuffer 1000)).push (some trade)))

/-- `Service.GetRecentTrades`: `Recent(n)` of the key's buffer, nil when the key has none. -/
def getRecentTrades (buffers : String → Option TradeRingBuffer) (venue symbol : String) (n : ℤ) :
    Option (List Trade) :=
  match buffers (bookKey venue symbol) with
  | none => none
  | some buf => buf.recent n

/-- The trades recorded under `key`, in order. -/
def tradesOf (key : String) (trades : List Trade) : List Trade :=
  trades.filter fun t => bookKey t.venue t.symbol == key

/-- **Every key's buffer holds exactly its own trades.** After any run of `RecordTrade`, a key
with no trade has no buffer, and a key with trades has a buffer of capacity 1000 into which
exactly its trades were pushed, in order. -/
theorem recordTrades_apply (trades : List Trade) (key : String) :
    trades.foldl recordTrade (fun _ => none) key =
      if (tradesOf key trades).length = 0 then none
      else some ((newTradeRingBuffer 1000).pushAll ((tradesOf key trades).map some)) := by
  induction trades using List.reverseRecOn with
  | nil => rfl
  | append_singleton trades trade ih =>
    rw [List.foldl_append, List.foldl_cons, List.foldl_nil, recordTrade]
    by_cases hk : bookKey trade.venue trade.symbol = key
    · subst hk
      have hof : tradesOf (bookKey trade.venue trade.symbol) (trades ++ [trade]) =
          tradesOf (bookKey trade.venue trade.symbol) trades ++ [trade] := by
        simp [tradesOf, List.filter_append]
      rw [Function.update_same, ih, hof]
      by_cases h0 : tradesOf (bookKey trade.venue trade.symbol) trades = []
      · simp [h0, TradeRingBuffer.pushAll]
      · simp [h0, TradeRingBuffer.pushAll_append_singleton]
    · have hof : tradesOf key (trades ++ [trade]) = tradesOf key trades := by
        simp [tradesOf, List.filter_append, hk]
      rw [Function.update_noteq (Ne.symm hk), ih, hof]

/-- **What the service's buffers answer.** After any run of fewer than `2^64` `RecordTrade` calls,
the buffer of a venue and symbol has `Len` the smaller of its `k` trades and 1000, and
`GetRecentTrades` with a count `n` in `[0, 2^63)` returns the last `min(n, 1000, k)` of them in
order, nil when the key has none. -/
theorem recordTrades_getRecentTrades (trades : List Trade) (venue symbol : String)
    (hk : trades.length < 18446744073709551616) :
    let own := tradesOf (bookKey venue symbol) trades
    (trades.foldl recordTrade (fun _ => none) (bookKey venue symbol)).map TradeRingBuffer.len =
        (if own.length = 0 then none else some (min own.length 1000)) ∧
      ∀ n : ℤ, 0 ≤ n → n < 9223372036854775808 →
        getRecentTrades (trades.foldl recordTrade (fun _ => none)) venue symbol n =
          if own.length = 0 then none
          else some (own.drop (own.length - min (min n.toNat 1000) own.length)) := by
  intro own
  have hown : own.length < 18446744073709551616 :=
    lt_of_le_of_lt (List.length_filter_le _ _) hk
  refine ⟨?_, fun n hn0 hn1 => ?_⟩
  · rw [recordTrades_apply]
    split_ifs
    · rfl
    · rw [Option.map_some', TradeRingBuffer.len_pushAll 1000 _ (by simpa using hown),
        List.length_map]
  · rw [getRecentTrades, recordTrades_apply]
    split_ifs with h0
    · rfl
    · exact (TradeRingBuffer.recent_pushAll_of_nonneg 1000 own hown n hn0 hn1).trans (if_neg h0)

/-- Three trades, the first and the last on kcex BTC/USDT. -/
def threeTrades : List Trade :=
  [⟨"kcex", "BTC/USDT", 50000, 1 / 10, some .buy, 1, "t1"⟩,
    ⟨"nobitex", "BTC/USDT", 50010, 1 / 5, some .sell, 2, "t2"⟩,
    ⟨"kcex", "BTC/USDT", 50020, 1 / 2, some .sell, 3, "t3"⟩]

/-- The kcex buffer holds two trades, and the most recent one is `t3`. -/
theorem recordTrades_getRecentTrades_kcex :
    (threeTrades.foldl recordTrade (fun _ => none) (bookKey "kcex" "BTC/USDT")).map
        TradeRingBuffer.len = some 2 ∧
      (getRecentTrades (threeTrades.foldl recordTrade (fun _ => none)) "kcex" "BTC/USDT" 1).map
        (·.map (·.tradeID)) = some ["t3"] := by
  have h := recordTrades_getRecentTrades threeTrades "kcex" "BTC/USDT" (by simp [threeTrades])
  have hown : tradesOf (bookKey "kcex" "BTC/USDT") threeTrades =
      [⟨"kcex", "BTC/USDT", 50000, 1 / 10, some .buy, 1, "t1"⟩,
        ⟨"kcex", "BTC/USDT", 50020, 1 / 2, some .sell, 3, "t3"⟩] := by
    simp [tradesOf, threeTrades, bookKey]
  simp only [hown] at h
  refine ⟨h.1, ?_⟩
  rw [h.2 1 (by norm_num) (by norm_num)]
  rfl

end ArbitrageEngine.MarketData
