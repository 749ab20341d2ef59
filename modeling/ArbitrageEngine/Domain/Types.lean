import Mathlib.Data.Rat.Floor
import Mathlib.Data.List.AList
import Mathlib.Tactic.Linarith

/-!
# Domain types of the arbitrage engine

The records of `internal/domain` that the modelled components read and write: order books and
their deltas, signals and their legs, orders and their status, positions, acknowledgements,
order state changes and execution reports.

Decimal amounts (`decimal.Decimal`) are exact, so they are rationals here. Addition, subtraction,
multiplication, negation, absolute value and comparison are the rational ones. Division is the
one operation that rounds: `Decimal.Div` rounds half away from zero to `DivisionPrecision = 16`
fractional digits, and `decDiv` computes exactly that. Clock readings and durations are
nanosecond counts (`Nat`), read off an explicit clock that each operation receives.

`OrderStatus.isTerminal` is the terminal-status test the order manager, the risk manager and the
execution engine share; `extractAsset` is the symbol-to-asset rule that the risk manager and the
portfolio manager each define with the same body.
-/

set_option autoImplicit false

namespace ArbitrageEngine

/-- Decimal amounts: prices, sizes, PnL, notionals, basis points. -/
abbrev Decimal := ℚ

/-- Internal order and signal identifiers (`uuid.UUID`). -/
abbrev Uuid := Nat

/-! ## Decimal division and formatting -/

/-- `Decimal.Div`: the quotient rounded half away from zero to 16 fractional digits. The source
panics on a zero divisor; the call sites modelled with `decDiv` divide by a non-zero amount, and
the model returns `0` there. Where the divisor is in question, `decDivChecked` keeps the panic. -/
def decDiv (a b : Decimal) : Decimal :=
  if b = 0 then 0
  else
    let q := a / b * 10 ^ 16
    ((if 0 ≤ q then ⌊q + 1 / 2⌋ else -⌊-q + 1 / 2⌋ : ℤ) : ℚ) / 10 ^ 16

@[simp] theorem decDiv_zero_left (b : Decimal) : decDiv 0 b = 0 := by
  simp only [decDiv, zero_div, zero_mul, le_refl, if_true, ← round_eq, round_zero,
    Int.cast_zero, ite_self]

/-- The rounded scaled quotient is within a half of the exact one. -/
theorem abs_round_sub_le (q : ℚ) :
    |((if 0 ≤ q then ⌊q + 1 / 2⌋ else -⌊-q + 1 / 2⌋ : ℤ) : ℚ) - q| ≤ 1 / 2 := by
  split_ifs
  · rw [← round_eq, abs_sub_comm]
    exact abs_sub_round q
  · rw [← round_eq, Int.cast_neg, neg_sub_comm]
    exact abs_sub_round (-q)

/-- `decDiv` is within half a unit of the sixteenth fractional digit of the exact quotient. -/
theorem abs_decDiv_sub_div_le (a b : Decimal) (hb : b ≠ 0) :
    |decDiv a b - a / b| ≤ 1 / (2 * 10 ^ 16) := by
  have h := abs_round_sub_le (a / b * 10 ^ 16)
  have heq : decDiv a b - a / b = ((if 0 ≤ a / b * 10 ^ 16 then ⌊a / b * 10 ^ 16 + 1 / 2⌋
      else -⌊-(a / b * 10 ^ 16) + 1 / 2⌋ : ℤ) - a / b * 10 ^ 16) / 10 ^ 16 := by
    simp only [decDiv, if_neg hb]; ring
  rw [heq, abs_div, abs_of_pos (by norm_num : (0 : ℚ) < 10 ^ 16), div_le_iff₀ (by norm_num)]
  exact h.trans_eq (by norm_num)

/-- A quotient with at most sixteen fractional digits is exact. -/
theorem decDiv_of_int (a b : Decimal) (hb : b ≠ 0) (n : ℤ) (h : a / b * 10 ^ 16 = n) :
    decDiv a b = a / b := by
  have key : ((if 0 ≤ (n : ℚ) then ⌊(n : ℚ) + 1 / 2⌋ else -⌊-(n : ℚ) + 1 / 2⌋ : ℤ) : ℚ) = n := by
    split_ifs
    · rw [Int.floor_int_add]; norm_num
    · rw [← Int.cast_neg, Int.floor_int_add]; norm_num
  simp only [decDiv, if_neg hb, h, key]
  rw [← h]; ring

/-- A value on the grid of sixteen fractional digits is its own rounded quotient. -/
theorem decDiv_mul_cancel_of_grid {x b : Decimal} (hb : b ≠ 0) (hx : ∃ n : ℤ, x * 10 ^ 16 = n) :
    decDiv (x * b) b = x := by
  obtain ⟨n, hn⟩ := hx
  rw [decDiv_of_int _ _ hb n (by rw [mul_div_cancel_right₀ _ hb, hn]), mul_div_cancel_right₀ _ hb]

/-- A non-negative quotient below half a unit of the sixteenth digit rounds to `0`. -/
theorem decDiv_eq_zero_of_small (a b : Decimal) (hb : b ≠ 0) (h0 : 0 ≤ a / b)
    (h : a / b * 10 ^ 16 < 1 / 2) : decDiv a b = 0 := by
  have hq : 0 ≤ a / b * 10 ^ 16 := mul_nonneg h0 (by norm_num)
  have hf : ⌊a / b * 10 ^ 16 + 1 / 2⌋ = 0 := by
    rw [← round_eq, round_eq_zero_iff]
    exact ⟨by linarith, h⟩
  simp only [decDiv, if_neg hb, if_pos hq, hf, Int.cast_zero, zero_div]

/-- `Decimal.Div` with its panic on a zero divisor as `none`. -/
def decDivChecked (a b : Decimal) : Option Decimal := if b = 0 then none else some (decDiv a b)

/-- Rounding half away from zero is monotone. -/
theorem round_mono {q q' : ℚ} (h : q ≤ q') :
    (if 0 ≤ q then ⌊q + 1 / 2⌋ else -⌊-q + 1 / 2⌋ : ℤ) ≤
      if 0 ≤ q' then ⌊q' + 1 / 2⌋ else -⌊-q' + 1 / 2⌋ := by
  split_ifs with h1 h2 h2
  · exact Int.floor_mono (by linarith)
  · exact absurd (h1.trans h) h2
  · have := Int.floor_nonneg.mpr (by linarith : (0 : ℚ) ≤ -q + 1 / 2)
    have := Int.floor_nonneg.mpr (by linarith : (0 : ℚ) ≤ q' + 1 / 2)
    omega
  · have := Int.floor_mono (by linarith : -q' + 1 / 2 ≤ -q + 1 / 2)
    omega

/-- `decDiv` by a positive divisor is monotone in the dividend. -/
theorem decDiv_le_decDiv {a a' b : Decimal} (hb : 0 < b) (h : a ≤ a') : decDiv a b ≤ decDiv a' b := by
  simp only [decDiv, if_neg hb.ne']
  exact div_le_div_of_nonneg_right (Int.cast_le.mpr (round_mono
    (mul_le_mul_of_nonneg_right (div_le_div_of_nonneg_right h hb.le) (by norm_num)))) (by norm_num)

/-- A ratio in `[0, 1]` rounds into `[0, 1]`. -/
theorem decDiv_mem_unit {a b : Decimal} (h0 : 0 ≤ a) (hab : a ≤ b) (hb : 0 < b) :
    0 ≤ decDiv a b ∧ decDiv a b ≤ 1 := by
  have hone : decDiv b b = 1 := by
    rw [decDiv_of_int _ _ hb.ne' (10 ^ 16) (by rw [div_self hb.ne']; norm_num), div_self hb.ne']
  exact ⟨decDiv_zero_left b ▸ decDiv_le_decDiv hb h0, hone ▸ decDiv_le_decDiv hb hab⟩

/-- The number of fractional digits of a terminating decimal: the least `k` with
`den ∣ 10 ^ k`. -/
def fracDigits (q : Decimal) : Nat :=
  ((List.range (q.den + 1)).find? fun k => 10 ^ k % q.den = 0).getD 0

/-- `Decimal.String`: the exact digits, with a point only when there is a fractional part. -/
def decimalString (q : Decimal) : String :=
  let k := fracDigits q
  let n := (q * 10 ^ k).num
  let digits := (toString n.natAbs).toList
  let padded := List.replicate (k + 1 - digits.length) '0' ++ digits
  let intPart := padded.take (padded.length - k)
  let frac := padded.drop (padded.length - k)
  let body := if k = 0 then String.mk intPart else String.mk (intPart ++ '.' :: frac)
  if n < 0 then "-" ++ body else body

/-! ## Enumerations -/

/-- `domain.Side`. -/
inductive Side where
  | buy
  | sell
  deriving DecidableEq, Repr

/-- `domain.InstrumentType`. -/
inductive InstrumentType where
  | spot
  | perp
  deriving DecidableEq, Repr

/-- `domain.OrderType`. -/
inductive OrderType where
  | limit
  | market
  deriving DecidableEq, Repr

/-- `domain.OrderStatus`. `unset` is the empty status `""`, the previous status of the first
state change an order publishes. -/
inductive OrderStatus where
  | unset
  | pendingNew
  | submitted
  | acknowledged
  | partialFill
  | filled
  | cancelled
  | rejected
  | submitFailed
  deriving DecidableEq, Repr

/-- `OrderStatus.IsTerminal`. -/
def OrderStatus.isTerminal : OrderStatus → Bool
  | .filled | .cancelled | .rejected | .submitFailed => true
  | _ => false

/-- `domain.StrategyType`. -/
inductive StrategyType where
  | triArb
  | basisArb
  deriving DecidableEq, Repr

/-- `domain.RiskMode`. -/
inductive RiskMode where
  | normal
  | warning
  | degraded
  | dataStale
  | halted
  deriving DecidableEq, Repr

/-! ## Market data -/

/-- `domain.PriceLevel`. -/
structure PriceLevel where
  price : Decimal
  size : Decimal
  deriving DecidableEq

/-- `domain.OrderBookSnapshot`. -/
structure OrderBookSnapshot where
  venue : String
  symbol : String
  bids : List PriceLevel
  asks : List PriceLevel
  sequence : Nat
  venueTimestamp : Nat
  localTimestamp : Nat

/-- `domain.OrderBookDelta`. -/
structure OrderBookDelta where
  venue : String
  symbol : String
  bids : List PriceLevel
  asks : List PriceLevel
  sequence : Nat
  venueTimestamp : Nat
  localTimestamp : Nat

/-- `domain.Trade`: a public trade print; a side of `none` is the empty side `""` of a print that
carries none. -/
structure Trade where
  venue : String
  symbol : String
  price : Decimal
  size : Decimal
  side : Option Side
  timestamp : Nat
  tradeID : String

/-- `domain.FundingRate`. -/
structure FundingRate where
  venue : String
  symbol : String
  rate : Decimal
  timestamp : Nat
  nextTime : Nat

/-- `OrderBookSnapshot.BestBid`. -/
def OrderBookSnapshot.bestBid (ob : OrderBookSnapshot) : Option PriceLevel := ob.bids.head?

/-- `OrderBookSnapshot.BestAsk`. -/
def OrderBookSnapshot.bestAsk (ob : OrderBookSnapshot) : Option PriceLevel := ob.asks.head?

/-- `OrderBookSnapshot.MidPrice`: `none` unless both sides are non-empty. -/
def OrderBookSnapshot.midPrice (ob : OrderBookSnapshot) : Option Decimal :=
  match ob.bestBid, ob.bestAsk with
  | some bid, some ask => some (decDiv (bid.price + ask.price) 2)
  | _, _ => none

/-! ## Signals and orders -/

/-- `domain.LegSpec`. -/
structure LegSpec where
  symbol : String
  side : Side
  instrumentType : InstrumentType
  price : Decimal
  size : Decimal
  orderType : OrderType

/-- `domain.TradeSignal`, with the fields the risk manager and the execution engine read. -/
structure TradeSignal where
  signalID : Uuid
  strategy : StrategyType
  venue : String
  legs : List LegSpec
  expectedEdgeBps : Decimal

/-- `domain.Order`. -/
structure Order where
  internalID : Uuid
  venueID : String
  signalID : Uuid
  venue : String
  symbol : String
  side : Side
  orderType : OrderType
  price : Decimal
  size : Decimal
  filledSize : Decimal
  avgFillPrice : Decimal
  status : OrderStatus
  createdAt : Nat
  updatedAt : Nat

/-- `domain.OrderRequest`. -/
structure OrderRequest where
  internalID : Uuid
  signalID : Uuid
  venue : String
  symbol : String
  side : Side
  instrumentType : InstrumentType
  orderType : OrderType
  price : Decimal
  size : Decimal
  idempotencyKey : String

/-- `domain.OrderAck`, with the two fields the order manager adopts. -/
structure OrderAck where
  venueID : String
  status : OrderStatus

/-- `domain.OrderStateChange`. -/
structure OrderStateChange where
  order : Order
  prevStatus : OrderStatus
  newStatus : OrderStatus
  timestamp : Nat

/-- `domain.Position`. -/
structure Position where
  venue : String
  asset : String
  instrumentType : InstrumentType
  size : Decimal
  entryPrice : Decimal
  unrealizedPnL : Decimal
  marginUsed : Decimal
  updatedAt : Nat

/-- `domain.Balance`. -/
structure Balance where
  venue : String
  asset : String
  free : Decimal
  locked : Decimal
  total : Decimal

/-- `domain.VenueAssetKey`. -/
structure VenueAssetKey where
  venue : String
  asset : String
  deriving DecidableEq

/-- `domain.LegExecution`. -/
structure LegExecution where
  symbol : String
  side : Side
  expectedPrice : Decimal
  actualPrice : Decimal
  expectedSize : Decimal
  actualSize : Decimal
  slippageBps : Decimal
  fee : Decimal

/-- The two values of `ExecutionReport.Status`: `"completed"` and `"aborted"`. -/
inductive CycleStatus where
  | completed
  | aborted
  deriving DecidableEq, Repr

/-- `domain.ExecutionReport`. -/
structure ExecutionReport where
  signalID : Uuid
  strategy : StrategyType
  venue : String
  legs : List LegExecution
  expectedEdgeBps : Decimal
  realizedEdgeBps : Decimal
  totalFees : Decimal
  slippageBps : Decimal
  status : CycleStatus
  startedAt : Nat
  completedAt : Nat

/-! ## Assets of a symbol -/

/-- The characters before the first `/`, if there is one. -/
def takeToSlash : List Char → Option (List Char)
  | [] => none
  | '/' :: _ => some []
  | c :: cs => (takeToSlash cs).map (c :: ·)

/-- `extractAsset` (the same function in `risk` and in `portfolio`): the part before `/`, else
the first of `BTC`, `ETH`, `SOL` that starts the symbol, else the symbol itself. -/
def extractAsset (symbol : String) : String :=
  match takeToSlash symbol.toList with
  | some pre => String.mk pre
  | none =>
    match ["BTC", "ETH", "SOL"].find? (fun a => a.toList.isPrefixOf symbol.toList) with
    | some a => a
    | none => symbol

/-- The characters before the first `/` of a list that has one after a slash-free prefix. -/
theorem takeToSlash_append {base : List Char} (h : '/' ∉ base) (rest : List Char) :
    takeToSlash (base ++ '/' :: rest) = some base := by
  induction base with
  | nil => rfl
  | cons c cs ih =>
    rw [List.mem_cons, not_or] at h
    rw [List.cons_append, takeToSlash, ih h.2]
    · rfl
    · exact fun e => h.1 e.symm

/-- The asset of a pair `base/quote` whose base has no `/` is its base. -/
theorem extractAsset_pair {base : String} (h : '/' ∉ base.toList) (quote : String) :
    extractAsset (base ++ "/" ++ quote) = base := by
  have : (base ++ "/" ++ quote).toList = base.toList ++ '/' :: quote.toList := by simp
  rw [extractAsset, this, takeToSlash_append h]
  rfl

end ArbitrageEngine
