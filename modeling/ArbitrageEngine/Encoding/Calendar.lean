import ArbitrageEngine.Encoding.Json
import Mathlib.Tactic.IntervalCases
import Mathlib.Tactic.Ring

/-!
# The civil calendar behind the timestamp text

`civilFromDays` turns a day count into a date, `daysFromCivil` turns it back, and `parseRFC3339`
accepts a date only when the day lies within `daysIn` of its month. Counted from 1 March, an era
of 400 years has 146097 days: four centuries of 36524 days, the last one day longer, each made of
four-year blocks of 1461 days. Day `doe` of an era is day `t` of year `r` of block `q` of century
`c` (`era_decomp`), and the year of the era that `civilFromDays` computes from `doe` is
`100 c + 4 q + r` (`era_yoe`); `civilFromDays_eq` states the whole date in those terms.

`civilFromDays_spec` collects what the timestamp round trip needs: the month is one of the twelve,
the day lies within the month's length for the year (29 February only in a leap year), and
`daysFromCivil` gives the day count back. `civilFromDays_year_mem` bounds the year of the days
from 1970 to the end of year 9999, the range `time.Time.MarshalJSON` accepts.
-/

set_option autoImplicit false

namespace ArbitrageEngine.Encoding

/-! ## Days of an era -/

/-- Every day of an era sits in a century, a four-year block, a year of the block and a day of that
year; only the last year of a block reaches day 365, and only in the last century does the last
block reach its day 1460. -/
theorem era_decomp (doe : Nat) (h : doe < 146097) :
    ∃ c q r t, doe = 36524 * c + 1461 * q + 365 * r + t ∧ c ≤ 3 ∧ q ≤ 24 ∧ r ≤ 3 ∧ t ≤ 365 ∧
      (t = 365 → r = 3) ∧ (1461 * q + 365 * r + t ≤ 36523 ∨ c = 3) := by
  obtain ⟨c, rem, hd, hc, hrem⟩ : ∃ c rem, doe = 36524 * c + rem ∧ c ≤ 3 ∧
      (rem ≤ 36523 ∨ c = 3 ∧ rem ≤ 36524) :=
    ⟨min (doe / 36524) 3, doe - 36524 * min (doe / 36524) 3, by omega⟩
  obtain ⟨q, s, hs, hq, hsb⟩ : ∃ q s, rem = 1461 * q + s ∧ q ≤ 24 ∧ s ≤ 1460 :=
    ⟨min (rem / 1461) 24, rem - 1461 * min (rem / 1461) 24, by omega⟩
  obtain ⟨r, t, ht, hr, htb⟩ : ∃ r t, s = 365 * r + t ∧ r ≤ 3 ∧ t ≤ 365 ∧ (t = 365 → r = 3) :=
    ⟨min (s / 365) 3, s - 365 * min (s / 365) 3, by omega⟩
  exact ⟨c, q, r, t, by omega, hc, hq, hr, htb.1, htb.2, by omega⟩

/-- The year of the era that `civilFromDays` computes for day `doe`. Day 365 of a year is 29
February of the next calendar year, which is then a leap year. -/
theorem era_yoe (doe : Nat) (h : doe < 146097) :
    ∃ c q r t, doe = 36524 * c + 1461 * q + 365 * r + t ∧
      (doe - doe / 1460 + doe / 36524 - doe / 146096) / 365 = 100 * c + 4 * q + r ∧
      c ≤ 3 ∧ q ≤ 24 ∧ r ≤ 3 ∧ t ≤ 365 ∧ (t = 365 → r = 3 ∧ (q = 24 → c = 3)) := by
  obtain ⟨c, q, r, t, hd, hc, hq, hr, ht, ht3, hcen⟩ := era_decomp doe h
  refine ⟨c, q, r, t, hd, ?_, hc, hq, hr, ht, fun h365 => ⟨ht3 h365, by omega⟩⟩
  subst hd
  by_cases hend : 1461 * q + 365 * r + t = 36524
  · obtain ⟨rfl, rfl, rfl, rfl⟩ : c = 3 ∧ q = 24 ∧ r = 3 ∧ t = 365 := by omega
    norm_num
  · have hX : 1461 * q + 365 * r + t < 36524 := by omega
    clear hcen hend h
    obtain ⟨x, hx⟩ : ∃ x, (24 * c + q + 365 * r + t) / 1460 = x := ⟨_, rfl⟩
    obtain ⟨t', rfl, ht'⟩ : ∃ t', t = t' + x ∧ t' < 365 := ⟨t - x, by omega, by omega⟩
    have h1 : (36524 * c + 1461 * q + 365 * r + (t' + x)) / 36524 = c := by
      rw [Nat.add_assoc, Nat.add_assoc, Nat.mul_add_div (by norm_num), Nat.div_eq_of_lt (by omega),
        Nat.add_zero]
    have h2 : (36524 * c + 1461 * q + 365 * r + (t' + x)) / 146096 = 0 :=
      Nat.div_eq_of_lt (by omega)
    have h3 : (36524 * c + 1461 * q + 365 * r + (t' + x)) / 1460 = 25 * c + q + x := by
      rw [show 36524 * c + 1461 * q + 365 * r + (t' + x) =
        1460 * (25 * c + q) + (24 * c + q + 365 * r + (t' + x)) by ring,
        Nat.mul_add_div (by norm_num), hx]
    rw [h1, h2, h3, Nat.sub_zero, show 36524 * c + 1461 * q + 365 * r + (t' + x) =
        36499 * c + 1460 * q + 365 * r + t' + (25 * c + q + x) by ring, Nat.add_sub_cancel,
      show 36499 * c + 1460 * q + 365 * r + t' + c = 365 * (100 * c + 4 * q + r) + t' by ring,
      Nat.mul_add_div (by norm_num), Nat.div_eq_of_lt ht', Nat.add_zero]

/-- The first day of year `100 c + 4 q + r` of an era. -/
theorem yearStart_eq (c q r : Nat) (hq : q ≤ 24) (hr : r ≤ 3) :
    365 * (100 * c + 4 * q + r) + (100 * c + 4 * q + r) / 4 - (100 * c + 4 * q + r) / 100 =
      36524 * c + 1461 * q + 365 * r := by
  have h4 : (100 * c + 4 * q + r) / 4 = 25 * c + q := by omega
  have h100 : (100 * c + 4 * q + r) / 100 = c := by omega
  omega

/-! ## Months -/

theorem daysIn_ne_two (y m : Nat) (h : m ≠ 2) :
    daysIn y m = if m = 4 ∨ m = 6 ∨ m = 9 ∨ m = 11 then 30 else 31 := by
  simp [daysIn, h]

theorem daysIn_two (y : Nat) (h : y % 4 = 0 ∧ (y % 100 ≠ 0 ∨ y % 400 = 0)) :
    daysIn y 2 = 29 := by
  simp [daysIn, h]

theorem daysIn_ge (y m : Nat) : 28 ≤ daysIn y m := by
  unfold daysIn
  split_ifs <;> omega

/-- The day `civilFromDays` computes from day `t` of a March-based year lies within its month;
it is 29 February only when `t` is 365, in a leap year. -/
theorem day_le_daysIn (y t : Nat) (ht : t ≤ 365)
    (hleap : t = 365 → y % 4 = 0 ∧ (y % 100 ≠ 0 ∨ y % 400 = 0)) :
    t - (153 * ((5 * t + 2) / 153) + 2) / 5 + 1 ≤
      daysIn y (if (5 * t + 2) / 153 < 10 then (5 * t + 2) / 153 + 3
        else (5 * t + 2) / 153 - 9) := by
  obtain ⟨mp, hm⟩ : ∃ mp, (5 * t + 2) / 153 = mp := ⟨_, rfl⟩
  have hmp : mp ≤ 11 := by omega
  rw [hm]
  by_cases h11 : mp = 11
  · subst h11
    simp only [show ¬11 < 10 by decide, if_false, show 11 - 9 = 2 from rfl]
    by_cases h365 : t = 365
    · rw [daysIn_two y (hleap h365)]
      omega
    · have := daysIn_ge y 2
      omega
  · rw [daysIn_ne_two _ _ (by split_ifs <;> omega)]
    interval_cases mp <;> simp <;> omega

/-! ## Back to the day count -/

/-- `daysFromCivil` of the date built from year `yoe` of an era and day `t` of that year. -/
theorem daysFromCivil_civil (era : ℤ) (yoe t : Nat) (hyoe : yoe < 400) (ht : t ≤ 365) :
    daysFromCivil ((yoe : ℤ) + era * 400 +
        (if (if (5 * t + 2) / 153 < 10 then (5 * t + 2) / 153 + 3 else (5 * t + 2) / 153 - 9) ≤ 2
          then 1 else 0))
      (if (5 * t + 2) / 153 < 10 then (5 * t + 2) / 153 + 3 else (5 * t + 2) / 153 - 9)
      (t - (153 * ((5 * t + 2) / 153) + 2) / 5 + 1) =
    era * 146097 + ((365 * yoe + yoe / 4 - yoe / 100 + t : Nat) : ℤ) - 719468 := by
  obtain ⟨mp, hm⟩ : ∃ mp, (5 * t + 2) / 153 = mp := ⟨_, rfl⟩
  have hmp : mp ≤ 11 := by omega
  have hlo : (153 * mp + 2) / 5 ≤ t := by omega
  have hsub : yoe / 100 ≤ 365 * yoe + yoe / 4 := by omega
  have key : era * 146097 + ((yoe : ℤ) * 365 + (yoe : ℤ) / 4 - (yoe : ℤ) / 100 +
      ((153 * (mp : ℤ) + 2) / 5 + ((t - (153 * mp + 2) / 5 + 1 : ℕ) : ℤ) - 1)) - 719468 =
      era * 146097 + ((365 * yoe + yoe / 4 - yoe / 100 + t : ℕ) : ℤ) - 719468 := by
    push_cast [Nat.cast_sub hlo, Nat.cast_sub hsub]
    ring
  simp only [hm, daysFromCivil]
  by_cases h10 : mp < 10
  · simp only [h10, if_true, show ¬mp + 3 ≤ 2 by omega, if_false, show mp + 3 > 2 by omega,
      show ((yoe : ℤ) + era * 400 + 0) / 400 = era by omega]
    rw [show (↑yoe + era * 400 + 0 - era * 400 : ℤ) = ↑yoe by ring,
      show ((↑(mp + 3) : ℤ) - 3) = ↑mp by push_cast; ring]
    exact key
  · simp only [h10, if_false, show mp - 9 ≤ 2 by omega, if_true, show ¬mp - 9 > 2 by omega,
      show ((yoe : ℤ) + era * 400 + 1 - 1) / 400 = era by omega]
    rw [show (↑yoe + era * 400 + 1 - 1 - era * 400 : ℤ) = ↑yoe by ring,
      show ((↑(mp - 9) : ℤ) + 9) = ↑mp by omega]
    exact key

/-- `civilFromDays` in terms of the era and the century, block, year and day of the era that the
day count falls in. -/
theorem civilFromDays_eq (days : ℤ) : ∃ (era : ℤ) (c q r t : Nat),
    days + 719468 = 146097 * era + ((36524 * c + 1461 * q + 365 * r + t : Nat) : ℤ) ∧
    c ≤ 3 ∧ q ≤ 24 ∧ r ≤ 3 ∧ t ≤ 365 ∧ (t = 365 → r = 3 ∧ (q = 24 → c = 3)) ∧
    civilFromDays days =
      (((100 * c + 4 * q + r : Nat) : ℤ) + era * 400 +
          (if (if (5 * t + 2) / 153 < 10 then (5 * t + 2) / 153 + 3
            else (5 * t + 2) / 153 - 9) ≤ 2 then 1 else 0),
        if (5 * t + 2) / 153 < 10 then (5 * t + 2) / 153 + 3 else (5 * t + 2) / 153 - 9,
        t - (153 * ((5 * t + 2) / 153) + 2) / 5 + 1) := by
  obtain ⟨era, doe, hz, hdoe, he, hlt⟩ : ∃ (era : ℤ) (doe : Nat),
      days + 719468 = 146097 * era + doe ∧ ((days + 719468) % 146097).toNat = doe ∧
        (days + 719468) / 146097 = era ∧ doe < 146097 :=
    ⟨_, _, by omega, rfl, rfl, by omega⟩
  obtain ⟨c, q, r, t, rfl, hy, hc, hq, hr, ht, hleap⟩ := era_yoe doe hlt
  refine ⟨era, c, q, r, t, hz, hc, hq, hr, ht, hleap, ?_⟩
  have hdoy : 36524 * c + 1461 * q + 365 * r + t - (36524 * c + 1461 * q + 365 * r) = t := by
    omega
  simp only [civilFromDays, hdoe, hy, yearStart_eq c q r hq hr, hdoy, he]

/-- **The calendar conversion is sound and invertible.** The date `civilFromDays` computes has a
month from 1 to 12 and, in a year from 0 on, a day within that month's length, and
`daysFromCivil` takes it back to the day count. -/
theorem civilFromDays_spec (days : ℤ) :
    1 ≤ (civilFromDays days).2.1 ∧ (civilFromDays days).2.1 ≤ 12 ∧ 1 ≤ (civilFromDays days).2.2 ∧
    (0 ≤ (civilFromDays days).1 →
      (civilFromDays days).2.2 ≤ daysIn (civilFromDays days).1.toNat (civilFromDays days).2.1) ∧
    daysFromCivil (civilFromDays days).1 (civilFromDays days).2.1 (civilFromDays days).2.2 =
      days := by
  obtain ⟨era, c, q, r, t, hz, hc, hq, hr, ht, hleap, heq⟩ := civilFromDays_eq days
  have hfin : era * 146097 + ((36524 * c + 1461 * q + 365 * r + t : Nat) : ℤ) - 719468 = days := by
    omega
  have hmp : (5 * t + 2) / 153 ≤ 11 := by omega
  simp only [heq]
  clear heq hz
  refine ⟨by split_ifs <;> omega, by split_ifs <;> omega, by omega, fun hy0 => ?_, ?_⟩
  · refine day_le_daysIn _ t ht fun h365 => ?_
    have h11 : (5 * t + 2) / 153 = 11 := by omega
    simp only [h11]
    norm_num
    omega
  · rw [daysFromCivil_civil era (100 * c + 4 * q + r) t (by omega) ht, yearStart_eq c q r hq hr]
    exact hfin

/-- A day from 1970-01-01 to 9999-12-31 falls in a year from 0 to 9999. -/
theorem civilFromDays_year_mem (days : ℤ) (h0 : 0 ≤ days) (h1 : days < 2932897) :
    0 ≤ (civilFromDays days).1 ∧ (civilFromDays days).1 ≤ 9999 := by
  obtain ⟨era, c, q, r, t, hz, hc, hq, hr, ht, -, heq⟩ := civilFromDays_eq days
  obtain ⟨mp, hm⟩ : ∃ mp, (5 * t + 2) / 153 = mp := ⟨_, rfl⟩
  have hmp : 10 ≤ mp → 306 ≤ t := by omega
  rw [heq, hm]
  clear heq hm
  split_ifs <;> omega

end ArbitrageEngine.Encoding
