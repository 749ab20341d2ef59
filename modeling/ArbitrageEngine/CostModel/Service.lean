import ArbitrageEngine.CostModel.Slippage
import ArbitrageEngine.Strategy.BasisArb

/-!
# Cost model service

`costmodel.Service` prices an order as a fee, a slippage and a funding term, in basis points.
The fee is the venue's fee tier, the taker fee for a market order and the maker fee otherwise,
and 10 bps while the venue has no tier. The slippage comes from the curve of the key
`venue:symbol`, created as the default curve on the key's first estimate. The funding term is
the weighted average of the last `fundingLookback` rates recorded for the key, weights `1, 2, ...`
from the oldest, divided with `Decimal.Div` and scaled by `10^4`. `AddFundingRate` keeps the last
`2 · fundingLookback` rates of a key and panics on a negative lookback, a slice bound below zero.
The confidence is `0.8`, or `0.5` when the fee is zero. `RefreshFeeTiers` stores each venue's
answered tier and keeps the old one when `GetFeeTier` fails.

What the service is for is `CostLedger`: every fee tier and every funding rate ever recorded, and
an estimate from the latest tier, the default curve and the last `lookback` rates. From a new
service with a lookback of at least zero, every run of calls returns the ledger's estimates and
never panics (`newService_run_estimates`): no call ever refits a slippage curve, the curves created
on a miss change no later estimate, and the history cut to `2 · lookback` rates gives the funding
term of the whole history (`Service.getFundingBps_of_refines`). A funding term lies between the
smallest and the largest rate of its window, times `10^4`, up to the rounding of the division
(`recentFundingBps_mem`).
-/

set_option autoImplicit false

namespace ArbitrageEngine.CostModel

open Strategy (fundingSums)

/-- `domain.FeeTier`, with the two rates `getFeeBps` reads. -/
structure FeeTier where
  makerFeeBps : Decimal
  takerFeeBps : Decimal

/-- `domain.CostEstimate`; `fundingBps` is `none` for a nil pointer. -/
structure CostEstimate where
  feeBps : Decimal
  slippageBps : Decimal
  fundingBps : Option Decimal
  totalBps : Decimal
  confidence : Decimal

/-- `costmodel.Service`: fee tiers by venue, slippage curves and funding rate histories by
`venue:symbol`, and the lookback. The gateways, the refresh interval and the lock are left out:
`refreshFeeTiers` receives the gateways' answers. -/
structure Service where
  feeTiers : String → Option FeeTier
  slippageCurves : String → Option SlippageCurve
  fundingRates : String → List FundingRate
  fundingLookback : ℤ

/-- `NewService`. -/
def newService (fundingLookback : ℤ) : Service :=
  ⟨fun _ => none, fun _ => none, fun _ => [], fundingLookback⟩

/-- `getFeeBps`. -/
def Service.getFeeBps (s : Service) (venue : String) (orderType : OrderType) : Decimal :=
  match s.feeTiers venue with
  | none => 10
  | some tier => if orderType = .market then tier.takerFeeBps else tier.makerFeeBps

/-- `getSlippageBps`: the key's curve, stored as `NewSlippageCurve` on a miss. `none` is a panic
of `EstimateSlippage`. -/
def Service.getSlippageBps (s : Service) (venue symbol : String) (size : Decimal) :
    Option Decimal × Service :=
  let key := venue ++ ":" ++ symbol
  match s.slippageCurves key with
  | some curve => (curve.estimateSlippage size, s)
  | none =>
    (newSlippageCurve.estimateSlippage size,
      { s with slippageCurves := Function.update s.slippageCurves key (some newSlippageCurve) })

/-- `getFundingBps`: the weighted average of the last `min(fundingLookback, len)` rates, times
`10^4`; `none` is the nil pointer. -/
def Service.getFundingBps (s : Service) (venue symbol : String) : Option Decimal :=
  let rates := s.fundingRates (venue ++ ":" ++ symbol)
  if rates.length = 0 then none
  else
    let n : ℤ := if s.fundingLookback > rates.length then rates.length else s.fundingLookback
    let sums := fundingSums (rates.drop (rates.length - n.toNat))
    if sums.2 = 0 then none else some (decDiv sums.1 sums.2 * 10000)

/-- `EstimateCost`, with the service after it; `none` is a panic of the slippage estimate. The
side is not read. -/
def Service.estimateCost (s : Service) (venue symbol : String) (_side : Side) (size : Decimal)
    (orderType : OrderType) : Option (CostEstimate × Service) :=
  let feeBps := s.getFeeBps venue orderType
  let (slippage, s') := s.getSlippageBps venue symbol size
  slippage.map fun slippageBps =>
    let fundingBps := s.getFundingBps venue symbol
    let total := match fundingBps with
      | none => feeBps + slippageBps
      | some f => feeBps + slippageBps + f
    (⟨feeBps, slippageBps, fundingBps, total, if feeBps = 0 then 1 / 2 else 4 / 5⟩, s')

/-- `UpdateFeeTier`. -/
def Service.updateFeeTier (s : Service) (venue : String) (tier : FeeTier) : Service :=
  { s with feeTiers := Function.update s.feeTiers venue (some tier) }

/-- `AddFundingRate`: the rate is appended to its key's history, which then keeps its last
`2 · fundingLookback` rates; `none` is the panic of the slice bound when that is negative. -/
def Service.addFundingRate (s : Service) (venue symbol : String) (rate : FundingRate) :
    Option Service :=
  let key := venue ++ ":" ++ symbol
  let rates := s.fundingRates key ++ [rate]
  let maxLen := s.fundingLookback * 2
  if (rates.length : ℤ) > maxLen then
    if maxLen < 0 then none
    else
      let kept := rates.drop (rates.length - maxLen.toNat)
      some { s with fundingRates := Function.update s.fundingRates key kept }
  else some { s with fundingRates := Function.update s.fundingRates key rates }

/-- `RefreshFeeTiers`, given each gateway's answer to `GetFeeTier` in the loop's order: a failed
answer keeps the venue's tier. -/
def Service.refreshFeeTiers (s : Service) (answers : List (String × Option FeeTier)) : Service :=
  answers.foldl (fun s answer => match answer.2 with
    | none => s
    | some tier => s.updateFeeTier answer.1 tier) s

/-- The calls the service receives: the strategies' estimates, the refresher's fee tiers, and
funding rates. -/
inductive ServiceCall where
  | estimateCost (venue symbol : String) (side : Side) (size : Decimal) (orderType : OrderType)
  | updateFeeTier (venue : String) (tier : FeeTier)
  | refreshFeeTiers (answers : List (String × Option FeeTier))
  | addFundingRate (venue symbol : String) (rate : FundingRate)

/-- One call, with the estimate it returns; `none` is a panic. -/
def Service.step (s : Service) : ServiceCall → Option (Service × Option CostEstimate)
  | .estimateCost venue symbol side size orderType =>
    (s.estimateCost venue symbol side size orderType).map fun r => (r.2, some r.1)
  | .updateFeeTier venue tier => some (s.updateFeeTier venue tier, none)
  | .refreshFeeTiers answers => some (s.refreshFeeTiers answers, none)
  | .addFundingRate venue symbol rate => (s.addFundingRate venue symbol rate).map fun s' => (s', none)

/-- A run of calls, with the estimates in the order they were returned. -/
def Service.run (s : Service) : List ServiceCall → Option (Service × List CostEstimate)
  | [] => some (s, [])
  | c :: cs =>
    match s.step c with
    | none => none
    | some (s', e) =>
      match s'.run cs with
      | none => none
      | some (s'', es) => some (s'', e.toList ++ es)

/-! ## The weighted funding sums -/

theorem fundingSums_append_singleton (l : List FundingRate) (x : FundingRate) :
    fundingSums (l ++ [x]) =
      ((fundingSums l).1 + x.rate * (l.length + 1), (fundingSums l).2 + (l.length + 1)) := by
  rw [fundingSums, List.enum_append, List.foldl_append, List.enumFrom_singleton]
  rfl

/-- The weights of `n` rates are `1, ..., n`: they sum to `n (n + 1) / 2`. -/
theorem fundingSums_snd (l : List FundingRate) :
    (fundingSums l).2 = (l.length : Decimal) * (l.length + 1) / 2 := by
  induction l using List.reverseRecOn with
  | nil => simp [fundingSums]
  | append_singleton l x ih =>
    rw [fundingSums_append_singleton, ih, List.length_append, List.length_singleton]
    push_cast
    ring

theorem fundingSums_snd_eq_zero_iff (l : List FundingRate) :
    (fundingSums l).2 = 0 ↔ l.length = 0 := by
  rw [fundingSums_snd]
  constructor
  · intro h
    by_contra hne
    have : (0 : Decimal) < l.length := by exact_mod_cast Nat.pos_of_ne_zero hne
    have : (0 : Decimal) < l.length * (l.length + 1) / 2 := by positivity
    linarith
  · intro h
    simp [h]

/-- The weighted sum of rates in `[lo, hi]` lies between `lo` and `hi` times the total weight. -/
theorem fundingSums_mem (l : List FundingRate) (lo hi : Decimal)
    (hb : ∀ r ∈ l, lo ≤ r.rate ∧ r.rate ≤ hi) :
    lo * (fundingSums l).2 ≤ (fundingSums l).1 ∧ (fundingSums l).1 ≤ hi * (fundingSums l).2 := by
  induction l using List.reverseRecOn with
  | nil => simp [fundingSums]
  | append_singleton l x ih =>
    obtain ⟨hlo, hhi⟩ := ih fun r hr => hb r (List.mem_append_left _ hr)
    obtain ⟨hx1, hx2⟩ := hb x (List.mem_append_right _ (List.mem_singleton_self x))
    have hw : (0 : Decimal) ≤ l.length + 1 := by positivity
    have h1 := mul_le_mul_of_nonneg_right hx1 hw
    have h2 := mul_le_mul_of_nonneg_right hx2 hw
    rw [fundingSums_append_singleton]
    dsimp only
    constructor <;> linarith

/-! ## What the service is for -/

/-- The funding term of a history: the last `lookback` rates weighted `1, 2, ...` from the oldest,
their weighted average times `10^4` with the division rounded as `Decimal.Div` rounds, and `none`
without a rate. -/
def recentFundingBps (lookback : ℕ) (history : List FundingRate) : Option Decimal :=
  let recent := history.drop (history.length - lookback)
  if recent.length = 0 then none
  else some (decDiv (fundingSums recent).1 (fundingSums recent).2 * 10000)

/-- **The funding term lies within its window.** Over rates between `lo` and `hi`, the funding
term lies between `lo · 10^4` and `hi · 10^4`, up to `10^4` times the rounding of the division. -/
theorem recentFundingBps_mem (lookback : ℕ) (history : List FundingRate) {f : Decimal}
    (hf : recentFundingBps lookback history = some f) (lo hi : Decimal)
    (hb : ∀ r ∈ history.drop (history.length - lookback), lo ≤ r.rate ∧ r.rate ≤ hi) :
    lo * 10000 - 10000 / (2 * 10 ^ 16) ≤ f ∧ f ≤ hi * 10000 + 10000 / (2 * 10 ^ 16) := by
  simp only [recentFundingBps] at hf
  split_ifs at hf with h0
  cases hf
  set recent := history.drop (history.length - lookback)
  have hlen : (0 : Decimal) < recent.length := by exact_mod_cast Nat.pos_of_ne_zero h0
  have hpos : 0 < (fundingSums recent).2 := by rw [fundingSums_snd]; positivity
  obtain ⟨hlo, hhi⟩ := fundingSums_mem recent lo hi hb
  obtain ⟨herr₁, herr₂⟩ := abs_le.mp (abs_decDiv_sub_div_le (fundingSums recent).1 _ hpos.ne')
  have hlo' : lo ≤ (fundingSums recent).1 / (fundingSums recent).2 := (le_div_iff₀ hpos).mpr hlo
  have hhi' : (fundingSums recent).1 / (fundingSums recent).2 ≤ hi := (div_le_iff₀ hpos).mpr hhi
  constructor <;> linarith

/-- The last `lookback` rates of the last `m ≥ lookback` rates are the last `lookback` rates. -/
theorem drop_length_sub_drop_length_sub {α : Type} (history : List α) {lookback m : ℕ}
    (hm : lookback ≤ m) :
    (history.drop (history.length - m)).drop
        ((history.drop (history.length - m)).length - lookback) =
      history.drop (history.length - lookback) := by
  rw [List.length_drop, List.drop_drop]
  congr 1
  omega

/-- A history cut to its last `m ≥ lookback` rates has the whole history's funding term. -/
theorem recentFundingBps_drop {lookback m : ℕ} (hm : lookback ≤ m) (history : List FundingRate) :
    recentFundingBps lookback (history.drop (history.length - m)) =
      recentFundingBps lookback history := by
  simp only [recentFundingBps, drop_length_sub_drop_length_sub history hm]

/-- With a lookback of at least zero, `getFundingBps` is the funding term of the stored rates. -/
theorem Service.getFundingBps_eq {s : Service} {lookback : ℕ}
    (hL : s.fundingLookback = lookback) (venue symbol : String) :
    s.getFundingBps venue symbol =
      recentFundingBps lookback (s.fundingRates (venue ++ ":" ++ symbol)) := by
  simp only [Service.getFundingBps, recentFundingBps, hL]
  generalize s.fundingRates (venue ++ ":" ++ symbol) = rates
  have hn : (if (lookback : ℤ) > (rates.length : ℤ) then (rates.length : ℤ)
      else (lookback : ℤ)).toNat = rates.length - (rates.length - lookback) := by
    split_ifs <;> omega
  have hw : rates.length - (rates.length - (rates.length - lookback)) = rates.length - lookback := by
    omega
  simp only [hn, hw, fundingSums_snd_eq_zero_iff]
  by_cases h0 : rates.length = 0
  · simp [h0]
  · rw [if_neg h0]

/-- The ledger: every fee tier and every funding rate the service was given, and the lookback. -/
structure CostLedger where
  feeTiers : String → Option FeeTier
  fundingHistory : String → List FundingRate
  lookback : ℕ

/-- A ledger with no tier and no rate. -/
def newCostLedger (lookback : ℕ) : CostLedger := ⟨fun _ => none, fun _ => [], lookback⟩

/-- The ledger's estimate: the latest tier's fee (10 bps without one), the default curve's
slippage at the size, the funding term of the key's whole history, their sum, and the
confidence. -/
def CostLedger.estimate (l : CostLedger) (venue symbol : String) (size : Decimal)
    (orderType : OrderType) : CostEstimate :=
  let fee : Decimal := match l.feeTiers venue with
    | none => 10
    | some tier => if orderType = .market then tier.takerFeeBps else tier.makerFeeBps
  let slippage := (newSlippageCurve.estimateSlippage size).getD 0
  let funding := recentFundingBps l.lookback (l.fundingHistory (venue ++ ":" ++ symbol))
  ⟨fee, slippage, funding, fee + slippage + funding.getD 0, if fee = 0 then 1 / 2 else 4 / 5⟩

/-- The last tier answered for `venue` in a refresh, if any. -/
def lastAnswer (answers : List (String × Option FeeTier)) (venue : String) : Option FeeTier :=
  (answers.filterMap fun a => if a.1 = venue then a.2 else none).getLast?

/-- The ledger after a call, with the estimate the call returns. A refresh records, for each
venue, its last answered tier. -/
def CostLedger.step (l : CostLedger) : ServiceCall → CostLedger × Option CostEstimate
  | .estimateCost venue symbol _ size orderType =>
    (l, some (l.estimate venue symbol size orderType))
  | .updateFeeTier venue tier =>
    ({ l with feeTiers := Function.update l.feeTiers venue (some tier) }, none)
  | .refreshFeeTiers answers =>
    ({ l with feeTiers := fun venue => (lastAnswer answers venue).or (l.feeTiers venue) }, none)
  | .addFundingRate venue symbol rate =>
    let key := venue ++ ":" ++ symbol
    ({ l with fundingHistory := Function.update l.fundingHistory key (l.fundingHistory key ++ [rate]) },
      none)

/-- A run of calls on the ledger, with the estimates in order. -/
def CostLedger.run (l : CostLedger) : List ServiceCall → CostLedger × List CostEstimate
  | [] => (l, [])
  | c :: cs => (((l.step c).1.run cs).1, (l.step c).2.toList ++ ((l.step c).1.run cs).2)

/-! ## The service refines the ledger -/

/-- The service holds the ledger's tiers, only default curves, the ledger's lookback, and the
last `2 · lookback` rates of every history. -/
structure Service.Refines (s : Service) (l : CostLedger) : Prop where
  feeTiers_eq : s.feeTiers = l.feeTiers
  curves_default : ∀ key curve, s.slippageCurves key = some curve → curve = newSlippageCurve
  lookback_eq : s.fundingLookback = l.lookback
  fundingRates_eq : ∀ key, s.fundingRates key =
    (l.fundingHistory key).drop ((l.fundingHistory key).length - 2 * l.lookback)

theorem newService_refines (lookback : ℕ) :
    (newService lookback).Refines (newCostLedger lookback) :=
  ⟨rfl, (fun _ _ h => nomatch h), rfl, fun _ => by simp [newService, newCostLedger]⟩

/-- **The cut history gives the whole history's funding term.** -/
theorem Service.getFundingBps_of_refines {s : Service} {l : CostLedger} (hr : s.Refines l)
    (venue symbol : String) :
    s.getFundingBps venue symbol =
      recentFundingBps l.lookback (l.fundingHistory (venue ++ ":" ++ symbol)) := by
  rw [s.getFundingBps_eq hr.lookback_eq, hr.fundingRates_eq,
    recentFundingBps_drop (by omega : l.lookback ≤ 2 * l.lookback)]

/-- **An estimate is the ledger's**, whether the key's curve is stored or created on the miss,
and the created curve keeps the service related to the ledger. -/
theorem Service.estimateCost_of_refines {s : Service} {l : CostLedger} (hr : s.Refines l)
    (venue symbol : String) (side : Side) (size : Decimal) (orderType : OrderType) :
    ∃ s', s.estimateCost venue symbol side size orderType =
        some (l.estimate venue symbol size orderType, s') ∧ s'.Refines l := by
  obtain ⟨v, hv⟩ := Option.isSome_iff_exists.mp (newSlippageCurve.estimateSlippage_isSome size)
  have hest : ∀ s', s.getSlippageBps venue symbol size = (some v, s') →
      s.estimateCost venue symbol side size orderType =
        some (l.estimate venue symbol size orderType, s') := by
    intro s' hs
    simp only [Service.estimateCost, hs, Option.map_some', Service.getFeeBps, hr.feeTiers_eq,
      s.getFundingBps_of_refines hr, CostLedger.estimate, hv, Option.getD_some]
    cases recentFundingBps l.lookback (l.fundingHistory (venue ++ ":" ++ symbol)) <;> simp
  cases hc : s.slippageCurves (venue ++ ":" ++ symbol) with
  | none =>
    refine ⟨{ s with slippageCurves :=
        Function.update s.slippageCurves (venue ++ ":" ++ symbol) (some newSlippageCurve) },
      hest _ (by simp only [Service.getSlippageBps, hc, hv]),
      hr.feeTiers_eq, fun key curve h => ?_, hr.lookback_eq, hr.fundingRates_eq⟩
    by_cases hk : key = venue ++ ":" ++ symbol
    · subst hk
      simpa using h.symm
    · simp only [Function.update_noteq hk] at h
      exact hr.curves_default _ _ h
  | some curve =>
    obtain rfl := hr.curves_default _ _ hc
    exact ⟨s, hest s (by simp only [Service.getSlippageBps, hc, hv]), hr⟩

/-- A refresh sets each venue's tier to its last answered one and keeps the rest. -/
theorem Service.refreshFeeTiers_eq (s : Service) (answers : List (String × Option FeeTier)) :
    s.refreshFeeTiers answers =
      { s with feeTiers := fun venue => (lastAnswer answers venue).or (s.feeTiers venue) } := by
  induction answers using List.reverseRecOn with
  | nil => rfl
  | append_singleton answers a ih =>
    simp only [Service.refreshFeeTiers, List.foldl_append, List.foldl_cons, List.foldl_nil] at ih ⊢
    rw [ih]
    cases ha : a.2 with
    | none =>
      simp only [lastAnswer, List.filterMap_append, List.filterMap_cons, List.filterMap_nil, ha,
        ite_self, List.append_nil]
    | some tier =>
      simp only [Service.updateFeeTier, Service.mk.injEq, and_true]
      funext venue
      by_cases hv : venue = a.1
      · subst hv
        simp [lastAnswer, ha]
      · simp [lastAnswer, ha, Function.update_noteq hv, Ne.symm hv]

/-- With a lookback of at least zero, a funding rate is recorded without a panic, and the cut
history is the last `2 · lookback` rates of the ledger's. -/
theorem Service.addFundingRate_of_refines {s : Service} {l : CostLedger} (hr : s.Refines l)
    (venue symbol : String) (rate : FundingRate) :
    ∃ s', s.addFundingRate venue symbol rate = some s' ∧
      s'.Refines (l.step (.addFundingRate venue symbol rate)).1 := by
  have hstored : s.fundingRates (venue ++ ":" ++ symbol) ++ [rate] =
      (l.fundingHistory (venue ++ ":" ++ symbol) ++ [rate]).drop
        ((l.fundingHistory (venue ++ ":" ++ symbol)).length - 2 * l.lookback) := by
    rw [hr.fundingRates_eq, List.drop_append_of_le_length (by omega)]
  have hnew : ∀ kept, kept = (l.fundingHistory (venue ++ ":" ++ symbol) ++ [rate]).drop
      ((l.fundingHistory (venue ++ ":" ++ symbol) ++ [rate]).length - 2 * l.lookback) →
      (⟨s.feeTiers, s.slippageCurves, Function.update s.fundingRates (venue ++ ":" ++ symbol) kept,
          l.lookback⟩ : Service).Refines (l.step (.addFundingRate venue symbol rate)).1 := by
    intro kept hkept
    refine ⟨hr.feeTiers_eq, hr.curves_default, rfl, fun key => ?_⟩
    by_cases hk : key = venue ++ ":" ++ symbol
    · subst hk
      simpa [CostLedger.step] using hkept
    · simpa [CostLedger.step, Function.update_noteq hk] using hr.fundingRates_eq key
  simp only [Service.addFundingRate, hr.lookback_eq]
  have hmax : ¬ ((l.lookback : ℤ) * 2 < 0) := by omega
  have htoNat : ((l.lookback : ℤ) * 2).toNat = 2 * l.lookback := by omega
  rw [if_neg hmax, htoNat]
  split_ifs with hgt
  · refine ⟨_, rfl, hnew _ ?_⟩
    rw [hstored, List.length_drop, List.drop_drop]
    congr 1
    simp only [List.length_append, List.length_singleton]
    omega
  · refine ⟨_, rfl, hnew _ ?_⟩
    rw [hstored]
    simp only [hr.fundingRates_eq, List.length_append, List.length_singleton,
      List.length_drop] at hgt ⊢
    congr 1
    omega

/-- **One call keeps the service related to the ledger** and returns the ledger's estimate. -/
theorem Service.Refines.step {s : Service} {l : CostLedger} (hr : s.Refines l) (c : ServiceCall) :
    ∃ s', s.step c = some (s', (l.step c).2) ∧ s'.Refines (l.step c).1 := by
  cases c with
  | estimateCost venue symbol side size orderType =>
    obtain ⟨s', h, hr'⟩ := s.estimateCost_of_refines hr venue symbol side size orderType
    exact ⟨s', by simp only [Service.step, CostLedger.step, h, Option.map_some'], hr'⟩
  | updateFeeTier venue tier =>
    exact ⟨_, rfl, by simp [Service.updateFeeTier, CostLedger.step, hr.feeTiers_eq],
      hr.curves_default, hr.lookback_eq, hr.fundingRates_eq⟩
  | refreshFeeTiers answers =>
    refine ⟨_, rfl, ?_⟩
    rw [Service.refreshFeeTiers_eq]
    exact ⟨by simp [CostLedger.step, hr.feeTiers_eq], hr.curves_default, hr.lookback_eq,
      hr.fundingRates_eq⟩
  | addFundingRate venue symbol rate =>
    obtain ⟨s', h, hr'⟩ := s.addFundingRate_of_refines hr venue symbol rate
    exact ⟨s', by simp only [Service.step, CostLedger.step, h, Option.map_some'], hr'⟩

/-- Along every run the service stays related to the ledger and returns its estimates. -/
theorem Service.Refines.run {s : Service} {l : CostLedger} (hr : s.Refines l)
    (calls : List ServiceCall) :
    ∃ s', s.run calls = some (s', (l.run calls).2) ∧ s'.Refines (l.run calls).1 := by
  induction calls generalizing s l with
  | nil => exact ⟨s, rfl, hr⟩
  | cons c cs ih =>
    obtain ⟨s₁, h₁, hr₁⟩ := hr.step c
    obtain ⟨s₂, h₂, hr₂⟩ := ih hr₁
    exact ⟨s₂, by simp only [Service.run, h₁, h₂, CostLedger.run], hr₂⟩

/-- **The service computes the ledger's estimates.** From `NewService` with a lookback of at least
zero, every run of estimates, fee tier updates and refreshes, and funding rates, in any order,
returns without a panic the estimates of the ledger: the latest tier's fee, the default curve's
slippage, and the funding term of the last `lookback` rates ever recorded for the key. -/
theorem newService_run_estimates (lookback : ℕ) (calls : List ServiceCall) :
    ((newService lookback).run calls).map Prod.snd = some ((newCostLedger lookback).run calls).2 := by
  obtain ⟨s, h, -⟩ := (newService_refines lookback).run calls
  rw [h]
  rfl

/-! ## What every estimate charges -/

/-- **A funding term lies within its window.** In any state with a lookback of at least zero, a
funding term lies between the smallest and the largest of the last `lookback` stored rates of
its key, times `10^4`, up to `10^4` times the rounding of the division. -/
theorem Service.getFundingBps_mem {s : Service} {lookback : ℕ}
    (hL : s.fundingLookback = lookback) (venue symbol : String) {f : Decimal}
    (hf : s.getFundingBps venue symbol = some f) (lo hi : Decimal)
    (hb : ∀ r ∈ (s.fundingRates (venue ++ ":" ++ symbol)).drop
      ((s.fundingRates (venue ++ ":" ++ symbol)).length - lookback), lo ≤ r.rate ∧ r.rate ≤ hi) :
    lo * 10000 - 10000 / (2 * 10 ^ 16) ≤ f ∧ f ≤ hi * 10000 + 10000 / (2 * 10 ^ 16) :=
  recentFundingBps_mem lookback _ (s.getFundingBps_eq hL venue symbol ▸ hf) lo hi hb

/-- Four funding rates of BTC-PERP on kcex: 1, -2, 3 and 5 bps a period. -/
def fourRates : List FundingRate :=
  [⟨"kcex", "BTC-PERP", 1 / 10000, 0, 0⟩, ⟨"kcex", "BTC-PERP", -2 / 10000, 1, 1⟩,
   ⟨"kcex", "BTC-PERP", 3 / 10000, 2, 2⟩, ⟨"kcex", "BTC-PERP", 5 / 10000, 3, 3⟩]

/-- At a lookback of 3 the funding term weighs the last three rates, -2, 3 and 5 bps, by 1, 2
and 3, and lies between -2 and 5 bps, up to the rounding. -/
theorem Service.getFundingBps_mem_three_rates :
    ∃ f, ({ newService 3 with fundingRates := fun _ => fourRates } : Service).getFundingBps
        "kcex" "BTC-PERP" = some f ∧
      -2 / 10000 * 10000 - 10000 / (2 * 10 ^ 16) ≤ f ∧ f ≤ 5 / 10000 * 10000 + 10000 / (2 * 10 ^ 16) := by
  have hb : ∀ r ∈ fourRates.drop (fourRates.length - 3), -2 / 10000 ≤ r.rate ∧ r.rate ≤ 5 / 10000 := by
    norm_num [fourRates]
  cases hf : ({ newService 3 with fundingRates := fun _ => fourRates } : Service).getFundingBps
      "kcex" "BTC-PERP" with
  | none =>
    norm_num [Service.getFundingBps, newService, fundingSums, fourRates, List.enum,
      List.enumFrom] at hf
    cases hf
  | some f => exact ⟨f, rfl, Service.getFundingBps_mem (rfl : _ = ((3 : ℕ) : ℤ)) _ _ hf _ _ hb⟩

theorem defaultSlippageCurve_sorted :
    defaultSlippageCurve.Pairwise fun a b => a.slippageBps ≤ b.slippageBps := by
  norm_num [defaultSlippageCurve]

/-- The default curve charges between 1 and 50 bps at every size. -/
theorem defaultSlippage_mem (size : Decimal) :
    1 ≤ (newSlippageCurve.estimateSlippage size).getD 0 ∧
      (newSlippageCurve.estimateSlippage size).getD 0 ≤ 50 := by
  obtain ⟨v, hv⟩ := Option.isSome_iff_exists.mp (newSlippageCurve.estimateSlippage_isSome size)
  rw [hv, Option.getD_some]
  exact SlippageCurve.estimateSlippage_bounds _ _ defaultSlippageCurve_sorted size hv

/-- Every estimate of a ledger's run is the ledger's estimate at some point of the run. -/
theorem CostLedger.mem_run_estimates (l : CostLedger) (calls : List ServiceCall)
    {e : CostEstimate} (he : e ∈ (l.run calls).2) :
    ∃ (l' : CostLedger) (venue symbol : String) (size : Decimal) (orderType : OrderType),
      e = l'.estimate venue symbol size orderType := by
  induction calls generalizing l with
  | nil => cases he
  | cons c cs ih =>
    simp only [CostLedger.run, List.mem_append] at he
    rcases he with he | he
    · cases c <;> simp only [CostLedger.step, Option.toList_some, Option.toList_none,
        List.mem_singleton, List.not_mem_nil] at he
      exact ⟨_, _, _, _, _, he⟩
    · exact ih _ he

/-- **Every estimate of every run charges the default slippage.** From a new service with a
lookback of at least zero, every run returns, and each of its estimates charges between 1 and
50 bps of slippage, whatever the sizes and the calls before it, and totals its fee, slippage and
funding term. -/
theorem newService_run_slippage (lookback : ℕ) (calls : List ServiceCall) :
    ∃ s ests, (newService lookback).run calls = some (s, ests) ∧ ∀ e ∈ ests,
      1 ≤ e.slippageBps ∧ e.slippageBps ≤ 50 ∧
        e.totalBps = e.feeBps + e.slippageBps + e.fundingBps.getD 0 := by
  obtain ⟨s, h, -⟩ := (newService_refines lookback).run calls
  refine ⟨s, _, h, fun e he => ?_⟩
  obtain ⟨l', venue, symbol, size, orderType, rfl⟩ := CostLedger.mem_run_estimates _ calls he
  exact ⟨(defaultSlippage_mem size).1, (defaultSlippage_mem size).2, rfl⟩

/-! ## The service as the strategies call it -/

/-- The cost model a strategy calls: `EstimateCost`'s total; `none` would be a panic, as the
service never returns an error. -/
def Service.costModelService (s : Service) : Strategy.CostModelService :=
  ⟨fun venue symbol side size orderType =>
    (s.estimateCost venue symbol side size orderType).map fun r => ⟨r.1.totalBps⟩⟩

/-- The service answers every cost query, on any state. -/
theorem Service.costModelService_isSome (s : Service) (venue symbol : String) (side : Side)
    (size : Decimal) (orderType : OrderType) :
    (s.costModelService.estimateCost venue symbol side size orderType).isSome := by
  simp only [Service.costModelService, Service.estimateCost, Service.getSlippageBps,
    Option.isSome_map']
  split <;> simp only [SlippageCurve.estimateSlippage_isSome]

/-- The default curve a miss stores gives the slippage the miss gave, at every key. -/
theorem Service.getSlippageBps_store_fst {s : Service} {key : String}
    (hc : s.slippageCurves key = none) (venue symbol : String) (size : Decimal) :
    (({ s with slippageCurves := Function.update s.slippageCurves key (some newSlippageCurve) }
      : Service).getSlippageBps venue symbol size).1 = (s.getSlippageBps venue symbol size).1 := by
  simp only [Service.getSlippageBps]
  by_cases hk : venue ++ ":" ++ symbol = key
  · rw [hk, hc]
    simp
  · rw [Function.update_noteq hk]
    split <;> rfl

/-- Two states with the same fee tiers and funding histories, whose curves estimate alike, give
strategies the same cost view. -/
theorem Service.costModelService_congr {s t : Service} (hf : t.feeTiers = s.feeTiers)
    (hr : t.fundingRates = s.fundingRates) (hl : t.fundingLookback = s.fundingLookback)
    (hslip : ∀ venue symbol size,
      (t.getSlippageBps venue symbol size).1 = (s.getSlippageBps venue symbol size).1) :
    t.costModelService = s.costModelService := by
  have hfee : t.getFeeBps = s.getFeeBps := by
    funext venue orderType
    simp only [Service.getFeeBps, hf]
  have hfund : t.getFundingBps = s.getFundingBps := by
    funext venue symbol
    simp only [Service.getFundingBps, hr, hl]
  simp only [Service.costModelService, Strategy.CostModelService.mk.injEq]
  funext venue symbol side size orderType
  have h1 := hslip venue symbol size
  simp only [Service.estimateCost, hfee, hfund]
  revert h1
  rcases t.getSlippageBps venue symbol size with ⟨a, t'⟩
  rcases s.getSlippageBps venue symbol size with ⟨b, s'⟩
  rintro (rfl : a = b)
  simp only [Option.map_map]
  rfl

/-- **An estimate changes nothing a strategy sees.** On any state, the service after an estimate
answers every cost query as before: the curve a miss stores estimates as the absent one did. -/
theorem Service.estimateCost_costModelService {s s' : Service} {venue symbol : String}
    {side : Side} {size : Decimal} {orderType : OrderType} {e : CostEstimate}
    (h : s.estimateCost venue symbol side size orderType = some (e, s')) :
    s'.costModelService = s.costModelService := by
  cases hc : s.slippageCurves (venue ++ ":" ++ symbol) with
  | some curve =>
    simp only [Service.estimateCost, Service.getSlippageBps, hc, Option.map_eq_some',
      Prod.mk.injEq] at h
    obtain ⟨-, -, -, rfl⟩ := h
    rfl
  | none =>
    simp only [Service.estimateCost, Service.getSlippageBps, hc, Option.map_eq_some',
      Prod.mk.injEq] at h
    obtain ⟨-, -, -, rfl⟩ := h
    exact Service.costModelService_congr rfl rfl rfl (Service.getSlippageBps_store_fst hc)

/-- The first estimate of a new service, a miss that stores the default curve. -/
theorem Service.estimateCost_newService_costModelService :
    ∃ e s', (newService 1).estimateCost "kcex" "BTC/USDT" .buy 1 .market = some (e, s') ∧
      s'.costModelService = (newService 1).costModelService := by
  obtain ⟨v, hv⟩ := Option.isSome_iff_exists.mp (newSlippageCurve.estimateSlippage_isSome 1)
  obtain ⟨e, s', h⟩ : ∃ e s', (newService 1).estimateCost "kcex" "BTC/USDT" .buy 1 .market =
      some (e, s') := by
    simp only [Service.estimateCost, Service.getSlippageBps, newService, hv, Option.map_some']
    exact ⟨_, _, rfl⟩
  exact ⟨e, s', h, Service.estimateCost_costModelService h⟩

end ArbitrageEngine.CostModel
