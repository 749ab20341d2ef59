import ArbitrageEngine.Domain.Types

/-!
# Fixed-point prices

`domain.FixedPrice` is an `int64` count of nano-units, `PricePrecision = 10^9` to the unit. Go's
`int64` arithmetic wraps modulo `2^64` and its integer division truncates toward zero, so a
`FixedPrice` is an integer here, `wrap64` is the two's-complement wrap onto `[-2^63, 2^63)`, and
`Int.tdiv` is Go's `/`. `Mul` wraps the product before dividing by `10^9`; `Div` wraps
`f * 10^9` before dividing by the divisor; `ToFixed` keeps the low 64 bits of the truncated
decimal, as `IntPart` does.

Neither wrap makes a result larger in magnitude than the exact one (`abs_wrap64_le`), and a
truncated quotient is never larger in magnitude than the exact quotient (`abs_tdiv_mul_le`). So a
`Mul` or `Div` step keeps a bound of the accumulated value by the exact product scaled by `10^9`
(`abs_mul_le`, `abs_div_le`), overflow included.

In range, `ToFixed` is truncation toward zero to nine fractional digits (`toFixed_eq_truncToNano`),
and `ToDecimal` then `ToFixed` is the identity on `int64` (`fixed_round_trip`).
-/

set_option autoImplicit false

namespace ArbitrageEngine

/-- The two's-complement wrap of an integer onto `int64`. -/
def wrap64 (x : ℤ) : ℤ :=
  (x + 9223372036854775808) % 18446744073709551616 - 9223372036854775808

/-- `PricePrecision`: nine decimal places. -/
def pricePrecision : ℤ := 1000000000

/-- `ToFixed`: the integer part of `d * 10^9`, truncated toward zero, in the low 64 bits. -/
def toFixed (d : Decimal) : ℤ := wrap64 ((d * 1000000000).num.tdiv (d * 1000000000).den)

/-- `FixedPrice.ToDecimal`: the nano-units as a decimal. -/
def FixedPrice.toDecimal (f : ℤ) : Decimal := f / 1000000000

/-- `FixedPrice.Sub`. -/
def FixedPrice.sub (f other : ℤ) : ℤ := wrap64 (f - other)

/-- `FixedPrice.Mul`: the wrapped product, divided by `PricePrecision`. -/
def FixedPrice.mul (f other : ℤ) : ℤ := (wrap64 (f * other)).tdiv pricePrecision

/-- `FixedPrice.Div`: `0` for a zero divisor, else the wrapped `f * PricePrecision` divided by the
divisor, wrapped once more for `MinInt64 / -1`. -/
def FixedPrice.div (f other : ℤ) : ℤ :=
  if other = 0 then 0 else wrap64 ((wrap64 (f * pricePrecision)).tdiv other)

/-- `FixedFromBps`: basis points as a fraction, `bps * PricePrecision / 10000`. -/
def fixedFromBps (bps : ℤ) : ℤ := (wrap64 (bps * pricePrecision)).tdiv 10000

/-- A decimal a `FixedPrice` holds exactly: at most nine fractional digits, and a count of
nano-units in the `int64` range. -/
def FixedRepresentable (d : Decimal) : Prop :=
  (d * 1000000000).den = 1 ∧ -9223372036854775808 ≤ (d * 1000000000).num ∧
    (d * 1000000000).num < 9223372036854775808

instance : DecidablePred FixedRepresentable := fun _ => inferInstanceAs (Decidable (_ ∧ _))

/-! ## Wrapping and truncation -/

theorem wrap64_lt (x : ℤ) : wrap64 x < 9223372036854775808 := by
  unfold wrap64; omega

theorem wrap64_of_mem {x : ℤ} (h0 : -9223372036854775808 ≤ x) (h1 : x < 9223372036854775808) :
    wrap64 x = x := by
  unfold wrap64; omega

/-- The wrap never makes an integer larger in magnitude. -/
theorem abs_wrap64_le (x : ℤ) : |wrap64 x| ≤ |x| := by
  rw [abs_le]
  unfold wrap64
  rcases abs_cases x with ⟨h, hx⟩ | ⟨h, hx⟩ <;> rw [h] <;> constructor <;> omega

/-- A truncated quotient by a positive divisor, times the divisor, is at most the dividend in
magnitude. -/
theorem abs_tdiv_mul_le (a b : ℤ) (hb : 0 < b) : |a.tdiv b| * b ≤ |a| := by
  rw [Int.abs_eq_natAbs, Int.abs_eq_natAbs, Int.natAbs_tdiv]
  have h := Nat.div_mul_le_self a.natAbs b.natAbs
  have hb' : (b.natAbs : ℤ) = b := Int.natAbs_of_nonneg hb.le
  rw [← hb']
  exact_mod_cast h

/-- `ToFixed` of a decimal a `FixedPrice` holds exactly is its count of nano-units. -/
theorem toFixed_of_representable {d : Decimal} (h : FixedRepresentable d) :
    toFixed d = (d * 1000000000).num := by
  rw [toFixed, h.1, Nat.cast_one, Int.tdiv_one, wrap64_of_mem h.2.1 h.2.2]

theorem FixedRepresentable.toFixed_cast {d : Decimal} (h : FixedRepresentable d) :
    ((toFixed d : ℤ) : ℚ) = d * 1000000000 := by
  rw [toFixed_of_representable h]
  exact_mod_cast Rat.coe_int_num_of_den_eq_one h.1

/-- Basis points whose nano-units fit `int64` give exactly `bps * 10^5` nano-units. -/
theorem fixedFromBps_of_mem {bps : ℤ} (h0 : -9223372036 ≤ bps) (h1 : bps ≤ 9223372036) :
    fixedFromBps bps = bps * 100000 := by
  rw [fixedFromBps, pricePrecision, wrap64_of_mem (by omega) (by omega),
    show bps * 1000000000 = bps * 100000 * 10000 by ring]
  exact Int.mul_tdiv_cancel _ (by decide)

/-- A `Mul` result is below `2^63`. -/
theorem FixedPrice.mul_lt (f other : ℤ) : FixedPrice.mul f other < 9223372036854775808 := by
  have h1 := abs_tdiv_mul_le (wrap64 (f * other)) pricePrecision (by decide)
  have h2 : |wrap64 (f * other)| ≤ 9223372036854775808 := by
    rw [abs_le]; unfold wrap64; constructor <;> omega
  have h3 := le_abs_self ((wrap64 (f * other)).tdiv pricePrecision)
  unfold FixedPrice.mul
  unfold pricePrecision at *
  omega

/-- A `Div` result is below `2^63`. -/
theorem FixedPrice.div_lt (f other : ℤ) : FixedPrice.div f other < 9223372036854775808 := by
  unfold FixedPrice.div; split_ifs
  · decide
  · exact wrap64_lt _

/-! ## One step of a compound rate -/

/-- **A `Mul` step keeps the bound.** If `f` is at most `10^9 * R` in magnitude, then `f` times the
nano-units `P` of a positive price is at most `10^9 * (R * P / 10^9)`, whether or not the product
wraps. -/
theorem abs_mul_le (f P : ℤ) (hP : 0 < P) (R : ℚ) (hf : ((|f| : ℤ) : ℚ) ≤ 1000000000 * R) :
    ((|FixedPrice.mul f P| : ℤ) : ℚ) ≤ 1000000000 * (R * (P / 1000000000)) := by
  have h1 := abs_tdiv_mul_le (wrap64 (f * P)) pricePrecision (by decide)
  have h2 : |wrap64 (f * P)| ≤ |f| * P := by
    simpa [abs_mul, abs_of_pos hP] using abs_wrap64_le (f * P)
  have h3 : ((|FixedPrice.mul f P| : ℤ) : ℚ) * 1000000000 ≤ ((|f| : ℤ) : ℚ) * P := by
    exact_mod_cast h1.trans h2
  have hP' : (0 : ℚ) < P := by exact_mod_cast hP
  have h4 := mul_le_mul_of_nonneg_right hf hP'.le
  have : (1000000000 : ℚ) * (R * (P / 1000000000)) = R * P := by ring
  rw [this]
  linarith

/-- **A `Div` step keeps the bound.** If `f` is at most `10^9 * R` in magnitude, then `f` divided
by the nano-units `P` of a positive price is at most `10^9 * (R / (P / 10^9))`, whether or not
`f * 10^9` wraps. -/
theorem abs_div_le (f P : ℤ) (hP : 0 < P) (R : ℚ) (hf : ((|f| : ℤ) : ℚ) ≤ 1000000000 * R) :
    ((|FixedPrice.div f P| : ℤ) : ℚ) ≤ 1000000000 * (R / (P / 1000000000)) := by
  have h1 := abs_tdiv_mul_le (wrap64 (f * pricePrecision)) P hP
  have h2 : |wrap64 (f * pricePrecision)| ≤ |f| * 1000000000 := by
    have := abs_wrap64_le (f * pricePrecision)
    rwa [abs_mul, show |pricePrecision| = 1000000000 from rfl] at this
  have h3 : |FixedPrice.div f P| ≤ |(wrap64 (f * pricePrecision)).tdiv P| := by
    rw [FixedPrice.div, if_neg hP.ne']; exact abs_wrap64_le _
  have h4 : ((|FixedPrice.div f P| : ℤ) : ℚ) * P ≤ ((|f| : ℤ) : ℚ) * 1000000000 := by
    exact_mod_cast (Int.mul_le_mul_of_nonneg_right h3 hP.le).trans (h1.trans h2)
  have hP' : (0 : ℚ) < P := by exact_mod_cast hP
  have h5 : (1000000000 : ℚ) * (R / (P / 1000000000)) = 1000000000 * 1000000000 * R / P := by
    rw [div_div_eq_mul_div]; ring
  rw [h5, le_div_iff₀ hP']
  linarith

/-! ## Truncation and the round trip -/

/-- Go's truncating division of a rational's numerator by its denominator rounds toward zero. -/
theorem num_tdiv_den_eq_trunc (q : ℚ) :
    q.num.tdiv q.den = if 0 ≤ q then ⌊q⌋ else ⌈q⌉ := by
  have hfloor : ∀ r : ℚ, 0 ≤ r → r.num.tdiv r.den = ⌊r⌋ := fun r hr => by
    rw [Int.tdiv_eq_ediv (Rat.num_nonneg.mpr hr) (Int.natCast_nonneg _),
      ← Rat.floor_intCast_div_natCast, Rat.num_div_den]
  split_ifs with hq
  · exact hfloor q hq
  · have h := hfloor (-q) (by linarith)
    rw [Rat.num_neg_eq_neg_num, Rat.den_neg_eq_den, Int.neg_tdiv, Int.floor_neg] at h
    exact neg_injective h

/-- A decimal truncated toward zero to nine fractional digits, as a count of nano-units. -/
def truncToNano (d : Decimal) : ℤ :=
  if 0 ≤ d then ⌊d * 1000000000⌋ else ⌈d * 1000000000⌉

/-- Truncation moves a decimal by less than one nano-unit. -/
theorem abs_sub_truncToNano_lt (d : Decimal) :
    |d - FixedPrice.toDecimal (truncToNano d)| < 1 / 1000000000 := by
  have key : |d * 1000000000 - truncToNano d| < 1 := by
    unfold truncToNano
    split_ifs
    · rw [abs_of_nonneg (sub_nonneg.mpr (Int.floor_le _))]
      linarith [Int.lt_floor_add_one (d * 1000000000)]
    · rw [abs_of_nonpos (sub_nonpos.mpr (Int.le_ceil _))]
      linarith [Int.ceil_lt_add_one (d * 1000000000)]
  have : d - FixedPrice.toDecimal (truncToNano d) =
      (d * 1000000000 - truncToNano d) / 1000000000 := by
    unfold FixedPrice.toDecimal; ring
  rw [this, abs_div, abs_of_pos (by norm_num : (0 : ℚ) < 1000000000)]
  exact div_lt_div_of_pos_right key (by norm_num)

/-- Truncation toward zero never changes the sign. -/
theorem truncToNano_sign (d : Decimal) :
    truncToNano d = 0 ∨ (0 < truncToNano d ∧ 0 < d) ∨ (truncToNano d < 0 ∧ d < 0) := by
  unfold truncToNano
  split_ifs with hd
  · rcases (Int.floor_nonneg.mpr (by positivity : (0 : ℚ) ≤ d * 1000000000)).eq_or_lt with h | h
    · exact .inl h.symm
    · have := Int.floor_le (d * 1000000000)
      have : (0 : ℚ) < ⌊d * 1000000000⌋ := by exact_mod_cast h
      exact .inr (.inl ⟨h, by linarith⟩)
  · have hc : ⌈d * 1000000000⌉ ≤ 0 := Int.ceil_le.mpr (by push_cast; linarith)
    rcases hc.eq_or_lt with h | h
    · exact .inl h
    · exact .inr (.inr ⟨h, by linarith⟩)

/-- Every `int64` count of nano-units comes back from its decimal unchanged. -/
theorem toFixed_toDecimal {f : ℤ} (h0 : -9223372036854775808 ≤ f)
    (h1 : f < 9223372036854775808) :
    toFixed (FixedPrice.toDecimal f) = f := by
  have : FixedPrice.toDecimal f * 1000000000 = f := by unfold FixedPrice.toDecimal; field_simp
  rw [toFixed, this, Rat.num_intCast, Rat.den_intCast, Nat.cast_one, Int.tdiv_one,
    wrap64_of_mem h0 h1]

/-- In range, `ToFixed` is truncation toward zero: the wrap to `int64` never bites. -/
theorem toFixed_eq_truncToNano {d : Decimal} (h : |d| * 1000000000 < 9223372036854775808) :
    toFixed d = truncToNano d := by
  have hx := abs_lt.mp (show |d * 1000000000| < 9223372036854775808 by
    rwa [abs_mul, abs_of_pos (by norm_num : (0 : ℚ) < 1000000000)])
  have hiff : (0 ≤ d * 1000000000 ↔ 0 ≤ d) := by constructor <;> intro <;> linarith
  rw [toFixed, num_tdiv_den_eq_trunc, truncToNano, if_congr hiff rfl rfl]
  apply wrap64_of_mem
  · split_ifs with hd
    · have := Int.floor_nonneg.mpr (hiff.mpr hd); omega
    · exact (Int.lt_ceil.mpr (by push_cast; linarith)).le
  · split_ifs with hd
    · exact Int.floor_lt.mpr (by push_cast; linarith)
    · have := Int.ceil_le.mpr (show d * 1000000000 ≤ ((0 : ℤ) : ℚ) by push_cast; linarith); omega

/-- **The round trip.** An `int64` count of nano-units survives `ToDecimal` then `ToFixed`; a
decimal whose nano-units fit `int64` is truncated toward zero, keeps its sign or becomes `0`, and
moves by less than `10^-9`. -/
theorem fixed_round_trip :
    (∀ f : ℤ, -9223372036854775808 ≤ f → f < 9223372036854775808 →
      toFixed (FixedPrice.toDecimal f) = f) ∧
    ∀ d : Decimal, |d| * 1000000000 < 9223372036854775808 →
      toFixed d = truncToNano d ∧
      (FixedPrice.toDecimal (toFixed d) = 0 ∨ (0 < FixedPrice.toDecimal (toFixed d) ∧ 0 < d) ∨
        (FixedPrice.toDecimal (toFixed d) < 0 ∧ d < 0)) ∧
      |d - FixedPrice.toDecimal (toFixed d)| < 1 / 1000000000 := by
  refine ⟨fun f h0 h1 => toFixed_toDecimal h0 h1, fun d h => ?_⟩
  rw [toFixed_eq_truncToNano h]
  refine ⟨rfl, ?_, abs_sub_truncToNano_lt d⟩
  unfold FixedPrice.toDecimal
  rcases truncToNano_sign d with h0 | ⟨h0, hd⟩ | ⟨h0, hd⟩
  · left; simp [h0]
  · right; left; exact ⟨by positivity, hd⟩
  · right; right; refine ⟨div_neg_of_neg_of_pos (by exact_mod_cast h0) (by norm_num), hd⟩

theorem fixed_round_trip_samples :
    toFixed (FixedPrice.toDecimal (-9223372036854775808)) = -9223372036854775808 ∧
      toFixed (-(1 / 3)) = -333333333 :=
  ⟨fixed_round_trip.1 _ (by norm_num) (by norm_num),
    by
      rw [(fixed_round_trip.2 _ (by rw [abs_neg, abs_of_pos (by norm_num)]; norm_num)).1,
        truncToNano, if_neg (by norm_num), Int.ceil_eq_iff]
      norm_num⟩

end ArbitrageEngine
