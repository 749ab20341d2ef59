import ArbitrageEngine.Execution.Engine

/-!
# Fill quality

`execution.QualityTracker` keeps the last `maxSize` fill records: `RecordFill` appends the fill's
slippage in basis points, negated for a sell, and drops the oldest records beyond `maxSize`; a
fill with a zero expected price is not recorded. `AverageSlippageBps` divides the sum of the
kept slippages by their number with `Decimal.Div`, and is zero without a record. `RecentRecords`
copies the last `n` records, all of them when `n` exceeds their number; `make` panics on a
negative `n`.

After any fills on a new tracker, the records are the last `maxSize` recorded fills
(`newQualityTracker_recordFills`), and the average lies between the smallest and the largest of
their slippages, up to the rounding of the division (`QualityTracker.averageSlippageBps_mem`).
-/

set_option autoImplicit false

namespace ArbitrageEngine.Execution

/-- `NewQualityTracker`; `none` is the panic of `make` on a negative capacity. -/
def newQualityTracker (maxSize : ℤ) : Option QualityTracker :=
  if maxSize < 0 then none else some ⟨[], maxSize.toNat⟩

/-- `AverageSlippageBps`. -/
def QualityTracker.averageSlippageBps (qt : QualityTracker) : Decimal :=
  if qt.records.length = 0 then 0
  else decDiv (qt.records.map (·.slippageBps)).sum qt.records.length

/-- `RecentRecords`; `none` is the panic of `make` on a negative length. -/
def QualityTracker.recentRecords (qt : QualityTracker) (n : ℤ) : Option (List FillQualityRecord) :=
  let n : ℤ := if n > qt.records.length then qt.records.length else n
  if n < 0 then none else some (qt.records.drop (qt.records.length - n.toNat))

/-- A fill as `RecordFill` receives it. -/
structure Fill where
  symbol : String
  side : Side
  expected : Decimal
  actual : Decimal

/-- `RecordFill` on each fill in order. -/
def QualityTracker.recordFills (qt : QualityTracker) (fills : List Fill) : QualityTracker :=
  fills.foldl (fun qt f => qt.recordFill f.symbol f.side f.expected f.actual) qt

/-- The record `RecordFill` makes of a fill: none for a zero expected price. -/
def Fill.record? (f : Fill) : Option FillQualityRecord :=
  if f.expected = 0 then none
  else
    let slippage := decDiv (f.actual - f.expected) f.expected * 10000
    some ⟨f.symbol, f.side, f.expected, f.actual, if f.side = .sell then -slippage else slippage⟩

/-- Cutting a list to its last `m` items, appending, and cutting again is appending, then cutting. -/
theorem drop_window_append {α : Type} (l r : List α) (m : ℕ) :
    (l.drop (l.length - m) ++ r).drop ((l.drop (l.length - m) ++ r).length - m) =
      (l ++ r).drop ((l ++ r).length - m) := by
  have hj : (l ++ r).length - m = (l.length - m) + ((l.drop (l.length - m) ++ r).length - m) := by
    simp only [List.length_append, List.length_drop]
    omega
  rw [hj, ← List.drop_drop, List.drop_append_of_le_length (show l.length - m ≤ l.length by omega)]

theorem QualityTracker.recordFill_eq (qt : QualityTracker) (f : Fill) :
    qt.recordFill f.symbol f.side f.expected f.actual =
      let records := qt.records ++ f.record?.toList
      { qt with records := if f.expected = 0 then qt.records
          else records.drop (records.length - qt.maxSize) } := by
  simp only [QualityTracker.recordFill, Fill.record?]
  split_ifs <;> simp

/-- Over any fills from a tracker holding at most `maxSize` records, the records are the last
`maxSize` of the old records followed by the recorded fills. -/
theorem QualityTracker.recordFills_records (qt : QualityTracker) (fills : List Fill)
    (h : qt.records.length ≤ qt.maxSize) :
    (qt.recordFills fills).records =
      (qt.records ++ fills.filterMap Fill.record?).drop
        ((qt.records ++ fills.filterMap Fill.record?).length - qt.maxSize) ∧
      (qt.recordFills fills).maxSize = qt.maxSize := by
  induction fills using List.reverseRecOn with
  | nil => simp [QualityTracker.recordFills, h]
  | append_singleton fills f ih =>
    simp only [QualityTracker.recordFills, List.foldl_append, List.foldl_cons, List.foldl_nil] at ih ⊢
    rw [QualityTracker.recordFill_eq]
    obtain ⟨ih₁, ih₂⟩ := ih
    refine ⟨?_, ih₂⟩
    have hs : [f].filterMap Fill.record? = f.record?.toList := by cases h : f.record? <;> simp [h]
    simp only [ih₁, ih₂, List.filterMap_append, hs]
    split_ifs with h0
    · simp [Fill.record?, h0]
    · rw [drop_window_append, List.append_assoc]

/-- **The tracker keeps the last `maxSize` fills.** After any fills on a tracker made by
`NewQualityTracker` with a capacity of at least zero, the records are the last `maxSize`
fills with a non-zero expected price, each with its slippage in basis points. -/
theorem newQualityTracker_recordFills {maxSize : ℤ} {qt : QualityTracker}
    (h₀ : newQualityTracker maxSize = some qt) (fills : List Fill) :
    (qt.recordFills fills).records =
      (fills.filterMap Fill.record?).drop ((fills.filterMap Fill.record?).length - maxSize.toNat) := by
  simp only [newQualityTracker] at h₀
  split_ifs at h₀
  cases h₀
  simpa using (QualityTracker.recordFills_records ⟨[], maxSize.toNat⟩ fills (Nat.zero_le _)).1

/-- A sell expected at 3050 and filled at 3049, on the engine's tracker of capacity 1000. -/
theorem newQualityTracker_recordFills_sell :
    newQualityTracker 1000 = some ⟨[], 1000⟩ ∧
      ((⟨[], 1000⟩ : QualityTracker).recordFills [⟨"ETH/USDT", .sell, 3050, 3049⟩]).records =
        ([(⟨"ETH/USDT", .sell, 3050, 3049⟩ : Fill)].filterMap Fill.record?).drop
          (([(⟨"ETH/USDT", .sell, 3050, 3049⟩ : Fill)].filterMap Fill.record?).length -
            (1000 : ℤ).toNat) :=
  ⟨rfl, newQualityTracker_recordFills (rfl : newQualityTracker 1000 = some ⟨[], 1000⟩) _⟩

/-- **The average lies within the kept slippages.** When every kept slippage lies between `lo`
and `hi`, the average lies between them up to the rounding of `Decimal.Div`. -/
theorem QualityTracker.averageSlippageBps_mem (qt : QualityTracker) (h : qt.records ≠ [])
    (lo hi : Decimal) (hb : ∀ r ∈ qt.records, lo ≤ r.slippageBps ∧ r.slippageBps ≤ hi) :
    lo - 1 / (2 * 10 ^ 16) ≤ qt.averageSlippageBps ∧
      qt.averageSlippageBps ≤ hi + 1 / (2 * 10 ^ 16) := by
  have hlen : qt.records.length ≠ 0 := by simpa using h
  have hpos : (0 : Decimal) < qt.records.length := by exact_mod_cast Nat.pos_of_ne_zero hlen
  have hlo : lo * qt.records.length ≤ (qt.records.map (·.slippageBps)).sum := by
    simpa [mul_comm] using List.card_nsmul_le_sum (qt.records.map (·.slippageBps)) lo
      (by simpa using fun r hr => (hb r hr).1)
  have hhi : (qt.records.map (·.slippageBps)).sum ≤ hi * qt.records.length := by
    simpa [mul_comm] using List.sum_le_card_nsmul (qt.records.map (·.slippageBps)) hi
      (by simpa using fun r hr => (hb r hr).2)
  obtain ⟨herr₁, herr₂⟩ := abs_le.mp (abs_decDiv_sub_div_le
    (qt.records.map (·.slippageBps)).sum _ hpos.ne')
  have hlo' := (le_div_iff₀ hpos).mpr hlo
  have hhi' := (div_le_iff₀ hpos).mpr hhi
  simp only [QualityTracker.averageSlippageBps, if_neg hlen]
  constructor <;> linarith

/-- Three records: a buy 10 bps worse than expected, a sell 20 bps better, and a buy 40 bps
worse. -/
def threeRecords : QualityTracker :=
  ⟨[⟨"ETH/USDT", .buy, 100, 1001 / 10, 10⟩, ⟨"ETH/USDT", .sell, 100, 501 / 5, -20⟩,
    ⟨"BTC/USDT", .buy, 50, 251 / 5, 40⟩], 1000⟩

/-- The three records lie between -20 and 40 bps, and so does their average, 10. -/
theorem averageSlippageBps_mem_three_records :
    threeRecords.records ≠ [] ∧
      (∀ r ∈ threeRecords.records, -20 ≤ r.slippageBps ∧ r.slippageBps ≤ 40) ∧
      -20 - 1 / (2 * 10 ^ 16) ≤ threeRecords.averageSlippageBps ∧
        threeRecords.averageSlippageBps ≤ 40 + 1 / (2 * 10 ^ 16) := by
  have hb : ∀ r ∈ threeRecords.records, -20 ≤ r.slippageBps ∧ r.slippageBps ≤ 40 := by
    norm_num [threeRecords]
  exact ⟨List.cons_ne_nil _ _, hb,
    QualityTracker.averageSlippageBps_mem _ (List.cons_ne_nil _ _) (-20) 40 hb⟩

end ArbitrageEngine.Execution
