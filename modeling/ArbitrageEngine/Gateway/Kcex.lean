import ArbitrageEngine.Encoding.Json
import ArbitrageEngine.EventBus.Bus

/-!
# KCEX gateway

`kcex.Gateway` joins a WebSocket client and a REST client. `SubscribeOrderBook`,
`SubscribeTrades` and `SubscribeFunding` translate the canonical symbol by `MapSymbol` over
`KCEXSymbolMap`, register a fresh channel of 256 under the venue symbol, and write a subscribe
request; the registration stays when the request fails. An incoming message is parsed as a JSON
object; its `channel` member picks the handler, which sends a record carrying the message's
`symbol` member on the channel registered under that symbol, and drops it when the buffer is
full. `PlaceOrder` and `GetOpenOrders` send their symbol to the REST API as given.

The WebSocket connection is a flag, and the read loop of `readPump` is the sequence of messages the
gateway receives; reconnection, request signing, rate limiting and the REST responses are left out.

Along every run, each channel only carries records whose symbol is the key it is registered
under (`run_keyedBySymbol`): the channel of a subscription for `s` carries `MapSymbol(s)`, never
`s` itself when the table renames `s`. Translation is injective on the table's canonical symbols
and undone by the inverse table (`mapSymbol_injOn`, `unmapSymbol_mapSymbol`), but nothing in the
gateway applies the inverse.
-/

set_option autoImplicit false

namespace ArbitrageEngine.Kcex

open Encoding Bus

/-! ## Symbols -/

/-- `domain.KCEXSymbolMap`: canonical symbol to venue symbol. -/
def kcexSymbolMap : List (String × String) :=
  [("BTC/USDT", "BTC_USDT"), ("ETH/USDT", "ETH_USDT"), ("SOL/USDT", "SOL_USDT"),
   ("BTCUSDT", "BTCUSDT"), ("ETHUSDT", "ETHUSDT"), ("SOLUSDT", "SOLUSDT")]

/-- `domain.MapSymbol`: the table's venue symbol, the symbol itself when the table has none. -/
def mapSymbol (internal : String) (mapping : List (String × String)) : String :=
  (mapping.lookup internal).getD internal

/-- The inverse translation the design calls for, venue symbol back to canonical symbol; the source
has no such function. -/
def unmapSymbol (venueSymbol : String) (mapping : List (String × String)) : String :=
  ((mapping.map Prod.swap).lookup venueSymbol).getD venueSymbol

/-- The canonical symbols of the table. -/
def kcexCanonical : List String := kcexSymbolMap.map Prod.fst

/-- **Translation is injective on the table's canonical symbols.** -/
theorem mapSymbol_injOn :
    ∀ s ∈ kcexCanonical, ∀ t ∈ kcexCanonical,
      mapSymbol s kcexSymbolMap = mapSymbol t kcexSymbolMap → s = t := by
  decide

/-- **The inverse table undoes the translation** of every canonical symbol. -/
theorem unmapSymbol_mapSymbol :
    ∀ s ∈ kcexCanonical, unmapSymbol (mapSymbol s kcexSymbolMap) kcexSymbolMap = s := by
  decide

/-! ## WebSocket client -/

/-- `wsClient`: whether it holds a connection, the requests it has written, and its three channel
maps, keyed by venue symbol. -/
structure WsClient where
  connected : Bool
  written : List Json
  orderBookChans : String → Option (Channel OrderBookDelta)
  tradeChans : String → Option (Channel Trade)
  fundingChans : String → Option (Channel FundingRate)

variable {α : Type}

/-- The registration of `subscribeOrderBook`, `subscribeTrades` and `subscribeFunding`: a fresh
channel of 256 under the symbol, replacing the one registered before. -/
def registerChan (chans : String → Option (Channel α)) (symbol : String) :
    String → Option (Channel α) :=
  Function.update chans symbol (some ⟨[], 256, false⟩)

/-- The send of the `handle*Message` handlers: a `select` with a `default` case on the channel
registered under the message's symbol, nothing when none is. The client never closes a channel. -/
def deliverTo (chans : String → Option (Channel α)) (symbolStr : String) (x : α) :
    String → Option (Channel α) :=
  match chans symbolStr with
  | none => chans
  | some ch => Function.update chans symbolStr (some ((ch.trySend x).getD ch))

/-- `subscribeOrderBook`. -/
def WsClient.subscribeOrderBook (ws : WsClient) (symbol : String) : WsClient :=
  { ws with orderBookChans := registerChan ws.orderBookChans symbol }

/-- `subscribeTrades`. -/
def WsClient.subscribeTrades (ws : WsClient) (symbol : String) : WsClient :=
  { ws with tradeChans := registerChan ws.tradeChans symbol }

/-- `subscribeFunding`. -/
def WsClient.subscribeFunding (ws : WsClient) (symbol : String) : WsClient :=
  { ws with fundingChans := registerChan ws.fundingChans symbol }

/-- The request `subscribe` writes, with the members in the order `json.Marshal` sorts them. -/
def subscribeRequest (symbol channel : String) : Json :=
  .object [("args", .array [.string symbol]), ("channel", .string channel),
    ("op", .string "subscribe")]

/-- `subscribe`: the request is written when connected. -/
def WsClient.subscribe (ws : WsClient) (symbol channel : String) : Except String WsClient :=
  if ws.connected then .ok { ws with written := ws.written ++ [subscribeRequest symbol channel] }
  else .error "websocket not connected"

/-- The member `key` of a decoded object; a later duplicate wins, as in a Go map. -/
def member (members : List (String × Json)) (key : String) : Option Json :=
  members.reverse.lookup key

/-- The message's `symbol` member decoded into a string: `""` when it is missing or no string. -/
def messageSymbol (members : List (String × Json)) : String :=
  match member members "symbol" with
  | some (.string s) => s
  | _ => ""

/-- `handleOrderBookMessage` at the local time `now`. -/
def WsClient.handleOrderBookMessage (ws : WsClient) (symbolStr : String) (now : Nat) : WsClient :=
  { ws with orderBookChans :=
      deliverTo ws.orderBookChans symbolStr ⟨"kcex", symbolStr, [], [], 0, 0, now⟩ }

/-- `handleTradeMessage` at the local time `now`. -/
def WsClient.handleTradeMessage (ws : WsClient) (symbolStr : String) (now : Nat) : WsClient :=
  { ws with tradeChans := deliverTo ws.tradeChans symbolStr ⟨"kcex", symbolStr, 0, 0, none, now, ""⟩ }

/-- `handleFundingMessage` at the local time `now`. -/
def WsClient.handleFundingMessage (ws : WsClient) (symbolStr : String) (now : Nat) : WsClient :=
  { ws with fundingChans := deliverTo ws.fundingChans symbolStr ⟨"kcex", symbolStr, 0, now, 0⟩ }

/-- `handleMessage`: a message that is no JSON object, or whose `channel` member is no string, is
ignored; so is an unknown channel. -/
def WsClient.handleMessage (ws : WsClient) (msg : List Char) (now : Nat) : WsClient :=
  match parseDocument msg with
  | some (.object members) =>
    match member members "channel" with
    | some (.string channel) =>
      let symbolStr := messageSymbol members
      if channel = "orderbook" then ws.handleOrderBookMessage symbolStr now
      else if channel = "trades" then ws.handleTradeMessage symbolStr now
      else if channel = "funding" then ws.handleFundingMessage symbolStr now
      else ws
    | _ => ws
  | _ => ws

/-! ## REST client -/

/-- A request the REST client sends: method, path and JSON body. -/
structure RestRequest where
  method : String
  path : String
  body : Option Json

/-- The wire name of a side. -/
def sideName : Side → String
  | .buy => "BUY"
  | .sell => "SELL"

/-- The wire name of an order type. -/
def orderTypeName : OrderType → String
  | .limit => "LIMIT"
  | .market => "MARKET"

/-- The body of `placeOrder`, with the members in the order `json.Marshal` sorts them. -/
def placeOrderBody (req : OrderRequest) : Json :=
  .object [("clientOid", .string req.idempotencyKey), ("price", .string (decimalString req.price)),
    ("side", .string (sideName req.side)), ("size", .string (decimalString req.size)),
    ("symbol", .string req.symbol), ("type", .string (orderTypeName req.orderType))]

/-- The request of `placeOrder`. -/
def placeOrderRequest (req : OrderRequest) : RestRequest :=
  ⟨"POST", "/api/v1/orders", some (placeOrderBody req)⟩

/-- The request of `getOpenOrders`. -/
def getOpenOrdersRequest (symbol : String) : RestRequest :=
  ⟨"GET", "/api/v1/orders?status=active&symbol=" ++ symbol, none⟩

/-! ## The gateway -/

/-- `kcex.Gateway`: its WebSocket client and the REST requests it has sent. -/
structure Gateway where
  ws : WsClient
  requests : List RestRequest

/-- The shape of the three `Subscribe*` methods: the channel registered under the venue symbol by
`register`, then the subscribe request for `channel`. The result is the key of the returned
channel, or the error of `subscribe`, after which the registration stays. -/
def Gateway.subscribeWith (register : WsClient → String → WsClient) (channel : String)
    (g : Gateway) (symbol : String) : Gateway × Except String String :=
  let venueSymbol := mapSymbol symbol kcexSymbolMap
  let ws := register g.ws venueSymbol
  match ws.subscribe venueSymbol channel with
  | .ok ws => ({ g with ws := ws }, .ok venueSymbol)
  | .error e => ({ g with ws := ws }, .error e)

/-- `SubscribeOrderBook`. -/
def Gateway.subscribeOrderBook : Gateway → String → Gateway × Except String String :=
  Gateway.subscribeWith WsClient.subscribeOrderBook "orderbook"

/-- `SubscribeTrades`. -/
def Gateway.subscribeTrades : Gateway → String → Gateway × Except String String :=
  Gateway.subscribeWith WsClient.subscribeTrades "trades"

/-- `SubscribeFunding`. -/
def Gateway.subscribeFunding : Gateway → String → Gateway × Except String String :=
  Gateway.subscribeWith WsClient.subscribeFunding "funding"

/-- `PlaceOrder`. -/
def Gateway.placeOrder (g : Gateway) (req : OrderRequest) : Gateway :=
  { g with requests := g.requests ++ [placeOrderRequest req] }

/-- `GetOpenOrders`. -/
def Gateway.getOpenOrders (g : Gateway) (symbol : String) : Gateway :=
  { g with requests := g.requests ++ [getOpenOrdersRequest symbol] }

/-- What happens to the gateway: a call of its API, or a message read from the connection. -/
inductive GatewayOp where
  | subscribeOrderBook (symbol : String)
  | subscribeTrades (symbol : String)
  | subscribeFunding (symbol : String)
  | placeOrder (req : OrderRequest)
  | getOpenOrders (symbol : String)
  | message (msg : List Char) (now : Nat)

/-- One operation. -/
def Gateway.apply (g : Gateway) : GatewayOp → Gateway
  | .subscribeOrderBook s => (g.subscribeOrderBook s).1
  | .subscribeTrades s => (g.subscribeTrades s).1
  | .subscribeFunding s => (g.subscribeFunding s).1
  | .placeOrder req => g.placeOrder req
  | .getOpenOrders s => g.getOpenOrders s
  | .message msg now => { g with ws := g.ws.handleMessage msg now }

/-- A run of operations. -/
def Gateway.runOps (g : Gateway) (ops : List GatewayOp) : Gateway := ops.foldl Gateway.apply g

/-! ## Every channel carries its key -/

/-- Every record queued on a channel of the map carries, as `sym` reads it, the key the channel
is registered under. -/
def KeyedBy (sym : α → String) (chans : String → Option (Channel α)) : Prop :=
  ∀ k ch, chans k = some ch → ∀ x ∈ ch.buffer, sym x = k

/-- The three channel maps of the client are keyed by symbol. -/
def WsClient.KeyedBySymbol (ws : WsClient) : Prop :=
  KeyedBy OrderBookDelta.symbol ws.orderBookChans ∧ KeyedBy Trade.symbol ws.tradeChans ∧
    KeyedBy FundingRate.symbol ws.fundingChans

theorem KeyedBy.registerChan {sym : α → String} {chans : String → Option (Channel α)}
    (h : KeyedBy sym chans) (symbol : String) : KeyedBy sym (registerChan chans symbol) := by
  intro k ch hk x hx
  by_cases hks : k = symbol
  · subst hks
    simp only [Kcex.registerChan, Function.update_same, Option.some.injEq] at hk
    subst hk
    simp at hx
  · rw [Kcex.registerChan, Function.update_noteq hks] at hk
    exact h k ch hk x hx

theorem Channel.mem_trySend_getD {ch : Channel α} {x y : α} (hy : y ∈ ((ch.trySend x).getD ch).buffer) :
    y ∈ ch.buffer ∨ y = x := by
  unfold Channel.trySend at hy
  split_ifs at hy
  · exact .inl hy
  · simpa using hy
  · exact .inl hy

theorem KeyedBy.deliverTo {sym : α → String} {chans : String → Option (Channel α)}
    (h : KeyedBy sym chans) {symbolStr : String} {x : α} (hx : sym x = symbolStr) :
    KeyedBy sym (deliverTo chans symbolStr x) := by
  unfold Kcex.deliverTo
  split
  · exact h
  · rename_i ch hch
    intro k ch' hk y hy
    by_cases hks : k = symbolStr
    · subst hks
      simp only [Function.update_same, Option.some.injEq] at hk
      subst hk
      rcases Channel.mem_trySend_getD hy with hy | rfl
      · exact h _ ch hch y hy
      · exact hx
    · rw [Function.update_noteq hks] at hk
      exact h k ch' hk y hy

theorem WsClient.KeyedBySymbol.handleMessage {ws : WsClient} (h : ws.KeyedBySymbol)
    (msg : List Char) (now : Nat) : (ws.handleMessage msg now).KeyedBySymbol := by
  obtain ⟨hb, ht, hf⟩ := h
  unfold WsClient.handleMessage
  split
  · split
    · dsimp only
      split_ifs
      · exact ⟨hb.deliverTo rfl, ht, hf⟩
      · exact ⟨hb, ht.deliverTo rfl, hf⟩
      · exact ⟨hb, ht, hf.deliverTo rfl⟩
      · exact ⟨hb, ht, hf⟩
    · exact ⟨hb, ht, hf⟩
  · exact ⟨hb, ht, hf⟩

theorem WsClient.KeyedBySymbol.subscribe {ws ws' : WsClient} (h : ws.KeyedBySymbol)
    {symbol channel : String} (hs : ws.subscribe symbol channel = .ok ws') : ws'.KeyedBySymbol := by
  unfold WsClient.subscribe at hs
  split_ifs at hs
  cases hs
  exact h

theorem WsClient.KeyedBySymbol.subscribeOrderBook {ws : WsClient} (h : ws.KeyedBySymbol)
    (symbol : String) : (ws.subscribeOrderBook symbol).KeyedBySymbol :=
  ⟨h.1.registerChan symbol, h.2⟩

theorem WsClient.KeyedBySymbol.subscribeTrades {ws : WsClient} (h : ws.KeyedBySymbol)
    (symbol : String) : (ws.subscribeTrades symbol).KeyedBySymbol :=
  ⟨h.1, h.2.1.registerChan symbol, h.2.2⟩

theorem WsClient.KeyedBySymbol.subscribeFunding {ws : WsClient} (h : ws.KeyedBySymbol)
    (symbol : String) : (ws.subscribeFunding symbol).KeyedBySymbol :=
  ⟨h.1, h.2.1, h.2.2.registerChan symbol⟩

/-- The gateway's channels are keyed by symbol. -/
def Gateway.KeyedBySymbol (g : Gateway) : Prop := g.ws.KeyedBySymbol

theorem Gateway.KeyedBySymbol.subscribeWith {g : Gateway} (h : g.KeyedBySymbol)
    {register : WsClient → String → WsClient}
    (hreg : ∀ ws s, ws.KeyedBySymbol → (register ws s).KeyedBySymbol) (channel symbol : String) :
    (g.subscribeWith register channel symbol).1.KeyedBySymbol := by
  have hr := hreg g.ws (mapSymbol symbol kcexSymbolMap) h
  unfold Gateway.subscribeWith
  dsimp only
  split
  · exact hr.subscribe ‹_›
  · exact hr

/-- **One operation keeps every channel keyed by symbol.** -/
theorem Gateway.KeyedBySymbol.apply {g : Gateway} (h : g.KeyedBySymbol) (op : GatewayOp) :
    (g.apply op).KeyedBySymbol := by
  cases op with
  | subscribeOrderBook s =>
    exact @Gateway.KeyedBySymbol.subscribeWith g h WsClient.subscribeOrderBook
      (fun _ _ hw => hw.subscribeOrderBook _) "orderbook" s
  | subscribeTrades s =>
    exact @Gateway.KeyedBySymbol.subscribeWith g h WsClient.subscribeTrades
      (fun _ _ hw => hw.subscribeTrades _) "trades" s
  | subscribeFunding s =>
    exact @Gateway.KeyedBySymbol.subscribeWith g h WsClient.subscribeFunding
      (fun _ _ hw => hw.subscribeFunding _) "funding" s
  | placeOrder req => exact h
  | getOpenOrders s => exact h
  | message msg now => exact WsClient.KeyedBySymbol.handleMessage h msg now

/-- **Every channel carries its key along every run.** From a gateway whose channels are keyed
by symbol, after any run of subscriptions, REST calls and incoming messages, every record queued
on the channel registered under a venue symbol carries that venue symbol. -/
theorem Gateway.run_keyedBySymbol (g : Gateway) (ops : List GatewayOp) (h : g.KeyedBySymbol) :
    (g.runOps ops).KeyedBySymbol := by
  induction ops generalizing g with
  | nil => exact h
  | cons op ops ih => exact ih _ (h.apply op)

/-- The channel a subscription for `s` returns carries the venue symbol `MapSymbol(s)`: none of
its records carries `s` when the table renames `s`. -/
theorem Gateway.run_orderBook_symbol (g : Gateway) (ops : List GatewayOp) (h : g.KeyedBySymbol)
    (s : String) (ch : Channel OrderBookDelta)
    (hch : (g.runOps ops).ws.orderBookChans (mapSymbol s kcexSymbolMap) = some ch) :
    ∀ d ∈ ch.buffer, d.symbol = mapSymbol s kcexSymbolMap :=
  (g.run_keyedBySymbol ops h).1 _ ch hch

/-- **Subscriptions deliver venue symbols.** Translation is injective on the table's canonical
symbols and the inverse table undoes it, but the gateway never applies the inverse: along every
run of subscriptions, REST calls and messages from a gateway whose channels are keyed by symbol,
every delta on the channel of a subscription for `s` carries `MapSymbol(s)`. -/
theorem kcex_subscription_symbols :
    (∀ s ∈ kcexCanonical, ∀ t ∈ kcexCanonical,
      mapSymbol s kcexSymbolMap = mapSymbol t kcexSymbolMap → s = t) ∧
    (∀ s ∈ kcexCanonical, unmapSymbol (mapSymbol s kcexSymbolMap) kcexSymbolMap = s) ∧
    ∀ (g : Gateway) (ops : List GatewayOp), g.KeyedBySymbol →
      ∀ (s : String) (ch : Channel OrderBookDelta),
        (g.runOps ops).ws.orderBookChans (mapSymbol s kcexSymbolMap) = some ch →
          ∀ d ∈ ch.buffer, d.symbol = mapSymbol s kcexSymbolMap :=
  ⟨mapSymbol_injOn, unmapSymbol_mapSymbol, Gateway.run_orderBook_symbol⟩

/-- A connected gateway with no channel registered. -/
def connectedGateway : Gateway := ⟨⟨true, [], fun _ => none, fun _ => none, fun _ => none⟩, []⟩

/-- An order book message of the venue for its symbol `BTC_USDT`. -/
def btcBookMessage : List Char :=
  "\x7b\"channel\":\"orderbook\",\"symbol\":\"BTC_USDT\"\x7d".toList

/-- A subscription for BTC/USDT and the venue's message for it: the channel holds one delta, and
it carries `BTC_USDT`. -/
theorem kcex_subscription_symbols_btc :
    connectedGateway.KeyedBySymbol ∧
      ∃ ch, (connectedGateway.runOps [.subscribeOrderBook "BTC/USDT", .message btcBookMessage 5]).ws.orderBookChans
          (mapSymbol "BTC/USDT" kcexSymbolMap) = some ch ∧ ch.buffer.length = 1 ∧
        ∀ d ∈ ch.buffer, d.symbol = "BTC_USDT" := by
  have hkeyed : connectedGateway.KeyedBySymbol := by
    refine ⟨?_, ?_, ?_⟩ <;> exact fun _ _ h => nomatch h
  obtain ⟨ch, hch⟩ : ∃ ch, (connectedGateway.runOps [.subscribeOrderBook "BTC/USDT",
      .message btcBookMessage 5]).ws.orderBookChans (mapSymbol "BTC/USDT" kcexSymbolMap) = some ch :=
    ⟨_, rfl⟩
  refine ⟨hkeyed, ch, hch, ?_, kcex_subscription_symbols.2.2 connectedGateway _ hkeyed "BTC/USDT" ch hch⟩
  cases hch
  rfl

/-- A limit buy of 1 BTC/USDT at 50000 on `kcex`. -/
def kcexBuy : OrderRequest := ⟨1, 7, "kcex", "BTC/USDT", .buy, .spot, .limit, 50000, 1, "7-leg-0"⟩

/-- A subscription for BTC/USDT returns the channel of `BTC_USDT`, whose delta from the venue's
message carries `BTC_USDT`, not BTC/USDT; `PlaceOrder` and `GetOpenOrders` for BTC/USDT send
BTC/USDT, not `BTC_USDT`. -/
theorem kcex_symbols_not_translated :
    (connectedGateway.subscribeOrderBook "BTC/USDT").2 = .ok "BTC_USDT" ∧
    ((connectedGateway.runOps [.subscribeOrderBook "BTC/USDT", .message btcBookMessage 5]).ws.orderBookChans
      "BTC_USDT").map (fun ch => ch.buffer.map (·.symbol)) = some ["BTC_USDT"] ∧
    (connectedGateway.runOps [.placeOrder kcexBuy, .getOpenOrders "BTC/USDT"]).requests.map
      (fun r => (r.path, r.body.bind fun b => match b with
        | .object ms => member ms "symbol"
        | _ => none)) =
      [("/api/v1/orders", some (.string "BTC/USDT")),
       ("/api/v1/orders?status=active&symbol=BTC/USDT", none)] :=
  ⟨rfl, rfl, rfl⟩

end ArbitrageEngine.Kcex
