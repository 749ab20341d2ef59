import ArbitrageEngine.Domain.Types
import Mathlib.Data.List.Chain

/-!
# Token-bucket rate limiter

`gateway.TokenBucket` holds `float64` tokens, a capacity and a refill rate per second, and the
time of its last refill; the model reads the three numbers as exact rationals and time as a
monotonic clock in nanoseconds. `refill` adds the elapsed seconds times the rate and caps the
tokens at the capacity; `TryAcquire(weight)` refills, then takes `weight` tokens when there are
that many. `RateLimiter` keeps one bucket per endpoint category, and a category without a bucket
is never limited.

Along any run of calls with non-negative weights on a non-decreasing clock, the tokens stay in
`[0, capacity]` (`run_take_valid`), and the weight granted to the calls of any interval
`[t0, t1]` is at most the capacity plus the rate times the interval's length (`grantedIn_le`):
the calls of the interval draw at most one full bucket, refilled at the rate from the first of
them on. Each category's calls run on its own bucket (`RateLimiter.run_category`), so the KCEX
gateway's limiter grants the order placements of any interval at most 15 plus 7 per second,
whatever the other categories do (`kcexRateLimiter_orderPlace_le`).
-/

set_option autoImplicit false

namespace ArbitrageEngine.Gateway

/-- `TokenBucket`; `lastRefill` is a clock reading in nanoseconds. -/
structure TokenBucket where
  tokens : ℚ
  capacity : ℚ
  refillRate : ℚ
  lastRefill : ℤ

/-- `NewTokenBucket(capacity, refillPerSecond)` at clock reading `now`: a full bucket. -/
def newTokenBucket (capacity refillPerSecond now : ℤ) : TokenBucket :=
  ⟨capacity, capacity, refillPerSecond, now⟩

/-- `refill` at clock reading `now`. -/
def TokenBucket.refill (tb : TokenBucket) (now : ℤ) : TokenBucket :=
  let tokens := tb.tokens + ((now - tb.lastRefill : ℤ) : ℚ) / 1000000000 * tb.refillRate
  { tb with tokens := if tokens > tb.capacity then tb.capacity else tokens, lastRefill := now }

/-- `TryAcquire(weight)` at clock reading `now`: whether the tokens were taken, and the bucket. -/
def TokenBucket.tryAcquire (tb : TokenBucket) (now weight : ℤ) : Bool × TokenBucket :=
  let tb := tb.refill now
  if tb.tokens ≥ weight then (true, { tb with tokens := tb.tokens - weight }) else (false, tb)

/-- A call of `TryAcquire`: its clock reading and its weight. -/
structure AcquireCall where
  now : ℤ
  weight : ℤ

/-- A run of calls on one bucket: the last bucket, and each call with its result. -/
def TokenBucket.run (tb : TokenBucket) : List AcquireCall → TokenBucket × List (AcquireCall × Bool)
  | [] => (tb, [])
  | c :: cs =>
    let r := tb.tryAcquire c.now c.weight
    let rest := r.2.run cs
    (rest.1, (c, r.1) :: rest.2)

/-- The weight granted to the calls of `[t0, t1]`, from a run's results. -/
def grantedIn (t0 t1 : ℤ) : List (AcquireCall × Bool) → ℤ
  | [] => 0
  | (c, ok) :: rs => (if ok ∧ t0 ≤ c.now ∧ c.now ≤ t1 then c.weight else 0) + grantedIn t0 t1 rs

/-! ## One call -/

section New

variable (capacity refillPerSecond now : ℤ)

@[simp] theorem newTokenBucket_tokens :
    (newTokenBucket capacity refillPerSecond now).tokens = capacity := rfl

@[simp] theorem newTokenBucket_capacity :
    (newTokenBucket capacity refillPerSecond now).capacity = capacity := rfl

@[simp] theorem newTokenBucket_refillRate :
    (newTokenBucket capacity refillPerSecond now).refillRate = refillPerSecond := rfl

@[simp] theorem newTokenBucket_lastRefill :
    (newTokenBucket capacity refillPerSecond now).lastRefill = now := rfl

end New

section Bucket

variable (tb : TokenBucket) (now weight : ℤ)

@[simp] theorem TokenBucket.refill_capacity : (tb.refill now).capacity = tb.capacity := rfl

@[simp] theorem TokenBucket.refill_refillRate : (tb.refill now).refillRate = tb.refillRate := rfl

@[simp] theorem TokenBucket.refill_lastRefill : (tb.refill now).lastRefill = now := rfl

theorem TokenBucket.refill_tokens_le_capacity : (tb.refill now).tokens ≤ tb.capacity := by
  simp only [TokenBucket.refill]; split_ifs <;> linarith

theorem TokenBucket.refill_tokens_le :
    (tb.refill now).tokens ≤ tb.tokens + ((now - tb.lastRefill : ℤ) : ℚ) / 1000000000 * tb.refillRate := by
  simp only [TokenBucket.refill]; split_ifs <;> linarith

/-- A refill on a non-decreasing clock keeps the tokens non-negative. -/
theorem TokenBucket.refill_tokens_nonneg (h0 : 0 ≤ tb.tokens) (hC : 0 ≤ tb.capacity)
    (hR : 0 ≤ tb.refillRate) (hnow : tb.lastRefill ≤ now) : 0 ≤ (tb.refill now).tokens := by
  have : (0 : ℚ) ≤ ((now - tb.lastRefill : ℤ) : ℚ) / 1000000000 * tb.refillRate :=
    mul_nonneg (div_nonneg (by exact_mod_cast sub_nonneg.mpr hnow) (by norm_num)) hR
  simp only [TokenBucket.refill]; split_ifs <;> linarith

/-- `TryAcquire` succeeds exactly when the refilled bucket holds the weight. -/
theorem TokenBucket.tryAcquire_fst :
    (tb.tryAcquire now weight).1 = true ↔ (weight : ℚ) ≤ (tb.refill now).tokens := by
  simp only [TokenBucket.tryAcquire]; split_ifs with h <;> simpa using h

/-- `TryAcquire` leaves the refilled tokens less the weight it grants. -/
theorem TokenBucket.tryAcquire_tokens :
    (tb.tryAcquire now weight).2.tokens =
      (tb.refill now).tokens - if (tb.tryAcquire now weight).1 then (weight : ℚ) else 0 := by
  by_cases h : (weight : ℚ) ≤ (tb.refill now).tokens <;> simp [TokenBucket.tryAcquire, h]

@[simp] theorem TokenBucket.tryAcquire_capacity :
    (tb.tryAcquire now weight).2.capacity = tb.capacity := by
  simp only [TokenBucket.tryAcquire]; split_ifs <;> rfl

@[simp] theorem TokenBucket.tryAcquire_refillRate :
    (tb.tryAcquire now weight).2.refillRate = tb.refillRate := by
  simp only [TokenBucket.tryAcquire]; split_ifs <;> rfl

@[simp] theorem TokenBucket.tryAcquire_lastRefill :
    (tb.tryAcquire now weight).2.lastRefill = now := by
  simp only [TokenBucket.tryAcquire]; split_ifs <;> rfl

end Bucket

/-- The bucket's invariant: tokens in `[0, capacity]`, and a rate that is not negative. -/
def TokenBucket.Valid (tb : TokenBucket) : Prop :=
  0 ≤ tb.tokens ∧ tb.tokens ≤ tb.capacity ∧ 0 ≤ tb.refillRate

/-- **A call keeps the invariant**, on a non-decreasing clock and for a weight that is not
negative. -/
theorem TokenBucket.Valid.tryAcquire {tb : TokenBucket} (hv : tb.Valid) {now weight : ℤ}
    (hnow : tb.lastRefill ≤ now) (hw : 0 ≤ weight) : (tb.tryAcquire now weight).2.Valid := by
  obtain ⟨h0, hC, hR⟩ := hv
  have hle := tb.refill_tokens_le_capacity now
  have hge := tb.refill_tokens_nonneg now h0 (h0.trans hC) hR hnow
  have htok := tb.tryAcquire_tokens now weight
  have hw' : (0 : ℚ) ≤ weight := by exact_mod_cast hw
  rw [TokenBucket.Valid, tryAcquire_capacity, tryAcquire_refillRate, htok]
  cases h : (tb.tryAcquire now weight).1
  · simp only [Bool.false_eq_true, if_false, sub_zero]; exact ⟨hge, hle, hR⟩
  · have := (tb.tryAcquire_fst now weight).mp h
    simp only [if_true]; exact ⟨by linarith, by linarith, hR⟩

/-! ## Runs -/

@[simp] theorem TokenBucket.run_nil (tb : TokenBucket) : tb.run [] = (tb, []) := rfl

@[simp] theorem TokenBucket.run_cons (tb : TokenBucket) (c : AcquireCall) (cs : List AcquireCall) :
    tb.run (c :: cs) =
      (((tb.tryAcquire c.now c.weight).2.run cs).1,
        (c, (tb.tryAcquire c.now c.weight).1) :: ((tb.tryAcquire c.now c.weight).2.run cs).2) :=
  rfl

@[simp] theorem TokenBucket.run_capacity (tb : TokenBucket) (calls : List AcquireCall) :
    (tb.run calls).1.capacity = tb.capacity := by
  induction calls generalizing tb with
  | nil => rfl
  | cons c cs ih => simp [ih]

/-- A call's grant, counted or not, plus the tokens it leaves is at most the refilled tokens. -/
theorem TokenBucket.grant_add_tokens_le (tb : TokenBucket) (now weight : ℤ) (hw : 0 ≤ weight)
    (counted : Prop) [Decidable counted] :
    ((if (tb.tryAcquire now weight).1 = true ∧ counted then weight else 0 : ℤ) : ℚ) +
      (tb.tryAcquire now weight).2.tokens ≤ (tb.refill now).tokens := by
  have hw' : (0 : ℚ) ≤ weight := by exact_mod_cast hw
  rw [tb.tryAcquire_tokens now weight]
  cases (tb.tryAcquire now weight).1 <;> by_cases counted <;> simp [*]

/-- **Tokens stay in `[0, capacity]`.** After every prefix of a run of calls with non-negative
weights on a non-decreasing clock, the bucket keeps its invariant. -/
theorem TokenBucket.run_take_valid {tb : TokenBucket} (hv : tb.Valid) {calls : List AcquireCall}
    (hclock : (calls.map AcquireCall.now).Chain (· ≤ ·) tb.lastRefill)
    (hw : ∀ c ∈ calls, 0 ≤ c.weight) (n : Nat) : (tb.run (calls.take n)).1.Valid := by
  induction calls generalizing tb n with
  | nil => simpa using hv
  | cons c cs ih =>
    rw [List.map_cons, List.chain_cons] at hclock
    cases n with
    | zero => simpa using hv
    | succ n =>
      rw [List.take_succ_cons, run_cons]
      exact ih (hv.tryAcquire hclock.1 (hw c (List.mem_cons_self _ _)))
        (by simpa using hclock.2) (fun c' h => hw c' (List.mem_cons_of_mem _ h)) n

/-- Calls after `t1` are granted nothing within `[t0, t1]`. -/
theorem TokenBucket.grantedIn_run_of_lt (tb : TokenBucket) {calls : List AcquireCall}
    (hclock : (calls.map AcquireCall.now).Chain (· ≤ ·) tb.lastRefill) (t0 t1 : ℤ)
    (hlate : t1 < tb.lastRefill) : grantedIn t0 t1 (tb.run calls).2 = 0 := by
  induction calls generalizing tb with
  | nil => rfl
  | cons c cs ih =>
    rw [List.map_cons, List.chain_cons] at hclock
    have hc : ¬ c.now ≤ t1 := by omega
    simp only [run_cons, grantedIn, hc, and_false, if_false, zero_add]
    exact ih _ (by simpa using hclock.2) (by simp; omega)

/-- **What a run can grant from a bucket.** Within `[t0, t1]`, a run grants at most the tokens
the bucket holds now plus the refill from now until `t1`. -/
theorem TokenBucket.grantedIn_run_le_tokens {tb : TokenBucket} (hv : tb.Valid)
    {calls : List AcquireCall} (hclock : (calls.map AcquireCall.now).Chain (· ≤ ·) tb.lastRefill)
    (hw : ∀ c ∈ calls, 0 ≤ c.weight) (t0 t1 : ℤ) :
    (grantedIn t0 t1 (tb.run calls).2 : ℚ) ≤
      tb.tokens + max 0 (((t1 - tb.lastRefill : ℤ) : ℚ) / 1000000000) * tb.refillRate := by
  have hbase : ∀ tb : TokenBucket, tb.Valid →
      0 ≤ tb.tokens + max 0 (((t1 - tb.lastRefill : ℤ) : ℚ) / 1000000000) * tb.refillRate :=
    fun tb hv => add_nonneg hv.1 (mul_nonneg (le_max_left _ _) hv.2.2)
  induction calls generalizing tb with
  | nil => simpa using hbase tb hv
  | cons c cs ih =>
    rw [List.map_cons, List.chain_cons] at hclock
    have hwc := hw c (List.mem_cons_self _ _)
    have hv' := hv.tryAcquire hclock.1 hwc
    by_cases hlate : c.now ≤ t1
    · have hih := ih hv' (by simpa using hclock.2) (fun c' h => hw c' (List.mem_cons_of_mem _ h))
      have hgrant := tb.grant_add_tokens_le c.now c.weight hwc (t0 ≤ c.now ∧ c.now ≤ t1)
      have hrefill := tb.refill_tokens_le c.now
      have hmax : max 0 (((t1 - c.now : ℤ) : ℚ) / 1000000000) = ((t1 - c.now : ℤ) : ℚ) / 1000000000 :=
        max_eq_right (div_nonneg (by exact_mod_cast sub_nonneg.mpr hlate) (by norm_num))
      have hmax' : max 0 (((t1 - tb.lastRefill : ℤ) : ℚ) / 1000000000) =
          ((t1 - tb.lastRefill : ℤ) : ℚ) / 1000000000 :=
        max_eq_right (div_nonneg (by exact_mod_cast sub_nonneg.mpr (hclock.1.trans hlate)) (by norm_num))
      simp only [tryAcquire_lastRefill, tryAcquire_refillRate, hmax] at hih
      simp only [run_cons, grantedIn, Int.cast_add, hmax']
      push_cast at hih hgrant hrefill ⊢
      linarith
    · have hnone := TokenBucket.grantedIn_run_of_lt (tb.tryAcquire c.now c.weight).2
        (by simpa using hclock.2) t0 t1 (by simp; omega)
      simp only [run_cons, grantedIn, hlate, and_false, if_false, hnone, Int.cast_zero, add_zero]
      exact hbase tb hv

/-- **The rate bound.** Along a run of calls with non-negative weights on a non-decreasing clock,
from a bucket that keeps its invariant, the weight granted to the calls of any interval
`[t0, t1]` is at most the capacity plus the rate times the interval's length in seconds. -/
theorem TokenBucket.grantedIn_le {tb : TokenBucket} (hv : tb.Valid) {calls : List AcquireCall}
    (hclock : (calls.map AcquireCall.now).Chain (· ≤ ·) tb.lastRefill)
    (hw : ∀ c ∈ calls, 0 ≤ c.weight) {t0 t1 : ℤ} (ht : t0 ≤ t1) :
    (grantedIn t0 t1 (tb.run calls).2 : ℚ) ≤
      tb.capacity + ((t1 - t0 : ℤ) : ℚ) / 1000000000 * tb.refillRate := by
  have hspan : (0 : ℚ) ≤ ((t1 - t0 : ℤ) : ℚ) / 1000000000 :=
    div_nonneg (by exact_mod_cast sub_nonneg.mpr ht) (by norm_num)
  induction calls generalizing tb with
  | nil => simpa using add_nonneg (hv.1.trans hv.2.1) (mul_nonneg hspan hv.2.2)
  | cons c cs ih =>
    rw [List.map_cons, List.chain_cons] at hclock
    have hwc := hw c (List.mem_cons_self _ _)
    have hv' := hv.tryAcquire hclock.1 hwc
    have hws : ∀ c' ∈ cs, 0 ≤ c'.weight := fun c' h => hw c' (List.mem_cons_of_mem _ h)
    by_cases hearly : c.now < t0
    · have hih := ih hv' (by simpa using hclock.2) hws
      simp only [tryAcquire_capacity, tryAcquire_refillRate] at hih
      simpa [grantedIn, not_le.mpr hearly] using hih
    · -- The first call of the interval refills to at most the capacity; from there on the run
      -- draws at most what that call leaves plus the refill until `t1`.
      have hrest := grantedIn_run_le_tokens hv' (by simpa using hclock.2) hws t0 t1
      have hgrant := tb.grant_add_tokens_le c.now c.weight hwc (t0 ≤ c.now ∧ c.now ≤ t1)
      have hcap := tb.refill_tokens_le_capacity c.now
      have hmax : max 0 (((t1 - c.now : ℤ) : ℚ) / 1000000000) ≤ ((t1 - t0 : ℤ) : ℚ) / 1000000000 :=
        max_le hspan (div_le_div_of_nonneg_right (by exact_mod_cast (by omega : t1 - c.now ≤ t1 - t0))
          (by norm_num))
      simp only [tryAcquire_lastRefill, tryAcquire_refillRate] at hrest
      simp only [run_cons, grantedIn, Int.cast_add]
      linarith [mul_le_mul_of_nonneg_right hmax hv.2.2]

/-- The invariant of a new bucket of non-negative capacity and rate. -/
theorem newTokenBucket_valid {capacity refillPerSecond : ℤ} (hC : 0 ≤ capacity)
    (hR : 0 ≤ refillPerSecond) (now : ℤ) : (newTokenBucket capacity refillPerSecond now).Valid :=
  ⟨by simpa using hC, by simp, by simpa using hR⟩

/-- The three properties of the bucket: along any run of calls with non-negative weights on a
non-decreasing clock from its creation, its tokens stay in `[0, C]`; a call succeeds exactly when
the refilled tokens cover its weight, and then takes exactly that weight; and the calls of any
interval `[t0, t1]` are granted at most `C + R * (t1 - t0)`, times in seconds. -/
theorem token_bucket_bounds (capacity refillPerSecond start : ℤ) (hC : 1 ≤ capacity)
    (hR : 0 < refillPerSecond) (calls : List AcquireCall)
    (hclock : (calls.map AcquireCall.now).Chain (· ≤ ·) start)
    (hw : ∀ c ∈ calls, 0 ≤ c.weight) :
    (∀ n, 0 ≤ ((newTokenBucket capacity refillPerSecond start).run (calls.take n)).1.tokens ∧
      ((newTokenBucket capacity refillPerSecond start).run (calls.take n)).1.tokens ≤ capacity) ∧
    (∀ (tb : TokenBucket) (now weight : ℤ),
      ((tb.tryAcquire now weight).1 = true ↔ (weight : ℚ) ≤ (tb.refill now).tokens) ∧
      ((tb.tryAcquire now weight).1 = true →
        (tb.tryAcquire now weight).2.tokens = (tb.refill now).tokens - weight)) ∧
    ∀ t0 t1 : ℤ, t0 ≤ t1 →
      (grantedIn t0 t1 ((newTokenBucket capacity refillPerSecond start).run calls).2 : ℚ) ≤
        capacity + refillPerSecond * (((t1 - t0 : ℤ) : ℚ) / 1000000000) := by
  have hv : (newTokenBucket capacity refillPerSecond start).Valid :=
    newTokenBucket_valid (by omega) hR.le start
  refine ⟨fun n => ?_, fun tb now weight => ⟨tb.tryAcquire_fst now weight, fun h => ?_⟩,
    fun t0 t1 ht => ?_⟩
  · have hn := TokenBucket.run_take_valid hv hclock hw n
    exact ⟨hn.1, by simpa using hn.2.1⟩
  · simp [tb.tryAcquire_tokens now weight, h]
  · have := TokenBucket.grantedIn_le hv hclock hw ht
    simp only [newTokenBucket_capacity, newTokenBucket_refillRate] at this
    linarith

/-- A KCEX order-placement bucket, 15 tokens refilled at 7 a second, asked for one token at
creation and once more a second later. -/
theorem token_bucket_bounds_kcex_orders :
    (grantedIn 0 1000000000 ((newTokenBucket 15 7 0).run [⟨0, 1⟩, ⟨1000000000, 1⟩]).2 : ℚ) ≤
      15 + 7 * (((1000000000 - 0 : ℤ) : ℚ) / 1000000000) :=
  (token_bucket_bounds 15 7 0 (by norm_num) (by norm_num) [⟨0, 1⟩, ⟨1000000000, 1⟩]
    (by simp) (by simp)).2.2 0 1000000000 (by norm_num)

/-! ## The limiter -/

/-- `RateLimiter`: the bucket of each endpoint category. -/
structure RateLimiter where
  buckets : String → Option TokenBucket

/-- `NewRateLimiter`: no bucket. -/
def newRateLimiter : RateLimiter := ⟨fun _ => none⟩

/-- `AddBucket` at clock reading `now`: a new full bucket for the category. -/
def RateLimiter.addBucket (rl : RateLimiter) (category : String) (capacity refillPerSecond now : ℤ) :
    RateLimiter :=
  ⟨Function.update rl.buckets category (some (newTokenBucket capacity refillPerSecond now))⟩

/-- `RateLimiter.TryAcquire`: a category without a bucket is never limited. -/
def RateLimiter.tryAcquire (rl : RateLimiter) (category : String) (now weight : ℤ) :
    Bool × RateLimiter :=
  match rl.buckets category with
  | none => (true, rl)
  | some tb =>
    let r := tb.tryAcquire now weight
    (r.1, ⟨Function.update rl.buckets category (some r.2)⟩)

/-- The buckets `kcex.NewGateway` adds, at clock reading `now`. -/
def kcexRateLimiter (now : ℤ) : RateLimiter :=
  ((((newRateLimiter.addBucket "public_data" 40 20 now).addBucket "private_data" 20 10 now).addBucket
    "order_place" 15 7 now).addBucket "order_cancel" 25 12 now).addBucket "account" 10 5 now

/-- A call of the limiter: its endpoint category and the call. -/
structure LimiterCall where
  category : String
  call : AcquireCall

/-- A run of limiter calls: the last limiter, and each call with its result. -/
def RateLimiter.run (rl : RateLimiter) : List LimiterCall → RateLimiter × List (LimiterCall × Bool)
  | [] => (rl, [])
  | c :: cs =>
    let r := rl.tryAcquire c.category c.call.now c.call.weight
    let rest := r.2.run cs
    (rest.1, (c, r.1) :: rest.2)

/-- The calls of one category, with their results. -/
def callsOf (category : String) (results : List (LimiterCall × Bool)) : List (AcquireCall × Bool) :=
  (results.filter fun r => r.1.category == category).map fun r => (r.1.call, r.2)

/-- **Each category's calls run on its own bucket.** Along any run of the limiter, a category
with a bucket sees exactly the run of its own calls on that bucket: the other categories' calls
neither change it nor count. -/
theorem RateLimiter.run_category (rl : RateLimiter) (calls : List LimiterCall) (category : String)
    (tb : TokenBucket) (htb : rl.buckets category = some tb) :
    (rl.run calls).1.buckets category =
        some (tb.run ((calls.filter fun c => c.category == category).map LimiterCall.call)).1 ∧
      callsOf category (rl.run calls).2 =
        (tb.run ((calls.filter fun c => c.category == category).map LimiterCall.call)).2 := by
  induction calls generalizing rl tb with
  | nil => simp [RateLimiter.run, callsOf, htb]
  | cons c cs ih =>
    by_cases hc : c.category = category
    · subst hc
      have hstep : (rl.tryAcquire c.category c.call.now c.call.weight).2.buckets c.category =
          some (tb.tryAcquire c.call.now c.call.weight).2 := by
        simp [RateLimiter.tryAcquire, htb]
      have hres : (rl.tryAcquire c.category c.call.now c.call.weight).1 =
          (tb.tryAcquire c.call.now c.call.weight).1 := by
        simp [RateLimiter.tryAcquire, htb]
      obtain ⟨h1, h2⟩ := ih _ _ hstep
      simp only [RateLimiter.run, List.filter_cons, beq_self_eq_true, if_true, List.map_cons,
        TokenBucket.run_cons]
      exact ⟨h1, by simp [callsOf, List.filter_cons, hres, ← h2]⟩
    · have hstep : (rl.tryAcquire c.category c.call.now c.call.weight).2.buckets category =
          some tb := by
        unfold RateLimiter.tryAcquire
        split
        · exact htb
        · simp [Function.update_noteq (Ne.symm hc), htb]
      obtain ⟨h1, h2⟩ := ih _ _ hstep
      simp only [RateLimiter.run, List.filter_cons, beq_iff_eq, hc, if_false]
      exact ⟨h1, by simp [callsOf, List.filter_cons, hc, ← h2]⟩

/-- **KCEX order placement is rate limited.** Along any run of the KCEX gateway's limiter from its
creation, with non-negative weights on a non-decreasing clock, the order-placement calls of any
interval `[t0, t1]` are granted at most `15 + 7 * (t1 - t0)`, times in seconds, whatever the
calls of the other categories. -/
theorem kcexRateLimiter_orderPlace_le (start : ℤ) (calls : List LimiterCall)
    (hclock : (calls.map fun c => c.call.now).Chain (· ≤ ·) start)
    (hw : ∀ c ∈ calls, 0 ≤ c.call.weight) {t0 t1 : ℤ} (ht : t0 ≤ t1) :
    (grantedIn t0 t1 (callsOf "order_place" ((kcexRateLimiter start).run calls).2) : ℚ) ≤
      15 + ((t1 - t0 : ℤ) : ℚ) / 1000000000 * 7 := by
  have hbucket : (kcexRateLimiter start).buckets "order_place" = some (newTokenBucket 15 7 start) := by
    simp [kcexRateLimiter, RateLimiter.addBucket, Function.update_apply]
  rw [((kcexRateLimiter start).run_category calls "order_place" _ hbucket).2]
  have hsub : List.Sublist (((calls.filter fun c => c.category == "order_place").map
      LimiterCall.call).map AcquireCall.now) (calls.map fun c => c.call.now) := by
    rw [List.map_map]; exact (List.filter_sublist calls).map _
  have hchain : List.Chain' (· ≤ ·) (start :: calls.map fun c => c.call.now) := hclock
  have := TokenBucket.grantedIn_le
    (newTokenBucket_valid (by norm_num : (0 : ℤ) ≤ 15) (by norm_num : (0 : ℤ) ≤ 7) start)
    (hchain.sublist (hsub.cons₂ start))
    (fun c hc => by
      obtain ⟨c', hc', rfl⟩ := List.mem_map.mp hc
      exact hw c' (List.mem_filter.mp hc').1) ht
  simpa using this

/-- Five public-data calls and twenty order placements in the nanosecond the limiter is created. -/
def burstCalls : List LimiterCall :=
  List.replicate 5 ⟨"public_data", ⟨0, 1⟩⟩ ++ List.replicate 20 ⟨"order_place", ⟨0, 1⟩⟩

/-- Of the burst's twenty placements, at most fifteen are granted. -/
theorem kcexRateLimiter_orderPlace_le_burst :
    (burstCalls.map fun c => c.call.now).Chain (· ≤ ·) 0 ∧ (∀ c ∈ burstCalls, 0 ≤ c.call.weight) ∧
      (grantedIn 0 0 (callsOf "order_place" ((kcexRateLimiter 0).run burstCalls).2) : ℚ) ≤ 15 := by
  have hclock : (burstCalls.map fun c => c.call.now).Chain (· ≤ ·) 0 := by
    simp [burstCalls, List.replicate_succ]
  have hw : ∀ c ∈ burstCalls, 0 ≤ c.call.weight := by decide
  have h := kcexRateLimiter_orderPlace_le 0 burstCalls hclock hw (le_refl 0)
  exact ⟨hclock, hw, by simpa using h⟩

end ArbitrageEngine.Gateway
