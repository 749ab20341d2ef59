import ArbitrageEngine.Domain.Types

/-!
# Daily PnL tracker

`risk.PnLTracker` accumulates realized PnL and holds the last unrealized mark for the current UTC
day. The two writers first run `checkDailyReset`, which zeroes both amounts when the clock has
moved to a later UTC day than `lastReset`; `totalDailyPnL` reads the two amounts as they are,
without the reset check. The clock is explicit: each writer receives the reading `now`, and a UTC
day is a count of whole days from the Unix epoch.

Along writes on a non-decreasing clock the tracker holds the totals of the day of the last write
(`PnLTracker.run_holdsDay`), so a read on that day returns the day's realized sum plus its last
mark (`PnLTracker.run_totalDailyPnL`); a read on a later day, before any write of that day,
still returns the earlier day's totals.
-/

set_option autoImplicit false

namespace ArbitrageEngine.Risk

/-- Nanoseconds in a day. -/
def nanosPerDay : Nat := 86400 * 1000000000

/-- `todayUTC`, as the number of the UTC day of a clock reading. -/
def utcDay (t : Nat) : Nat := t / nanosPerDay

/-- `risk.PnLTracker`. -/
structure PnLTracker where
  dailyRealizedPnL : Decimal
  dailyUnrealizedPnL : Decimal
  lastReset : Nat

/-- `NewPnLTracker`: zero amounts, reset day today. -/
def PnLTracker.new (now : Nat) : PnLTracker := ⟨0, 0, utcDay now⟩

/-- `checkDailyReset`: on a later UTC day, zero both amounts and move the reset day. -/
def PnLTracker.checkDailyReset (p : PnLTracker) (now : Nat) : PnLTracker :=
  if utcDay now > p.lastReset then ⟨0, 0, utcDay now⟩ else p

/-- `AddRealizedPnL`. -/
def PnLTracker.addRealizedPnL (p : PnLTracker) (amount : Decimal) (now : Nat) : PnLTracker :=
  let p := p.checkDailyReset now
  { p with dailyRealizedPnL := p.dailyRealizedPnL + amount }

/-- `UpdateUnrealizedPnL`: the mark replaces the previous one. -/
def PnLTracker.updateUnrealizedPnL (p : PnLTracker) (amount : Decimal) (now : Nat) :
    PnLTracker :=
  let p := p.checkDailyReset now
  { p with dailyUnrealizedPnL := amount }

/-- `TotalDailyPnL`: realized plus unrealized, with no reset check. -/
def PnLTracker.totalDailyPnL (p : PnLTracker) : Decimal :=
  p.dailyRealizedPnL + p.dailyUnrealizedPnL

/-- A write to the tracker with its clock reading: `AddRealizedPnL` or `UpdateUnrealizedPnL`. -/
inductive PnLWrite where
  | addRealized (amount : Decimal) (now : Nat)
  | updateUnrealized (amount : Decimal) (now : Nat)

/-- The clock reading of a write. -/
def PnLWrite.now : PnLWrite → Nat
  | .addRealized _ t => t
  | .updateUnrealized _ t => t

/-- One write. -/
def PnLTracker.write (p : PnLTracker) : PnLWrite → PnLTracker
  | .addRealized a t => p.addRealizedPnL a t
  | .updateUnrealized a t => p.updateUnrealizedPnL a t

/-! ## The day's totals

What a UTC day's totals are, read off the writes themselves: the realized amounts written during
the day, summed, and the last unrealized amount written during the day, `0` if none. -/

/-- One write's contribution to day `d`'s realized sum. -/
def realizedStep (d : Nat) (acc : Decimal) : PnLWrite → Decimal
  | .addRealized a t => if utcDay t = d then acc + a else acc
  | .updateUnrealized _ _ => acc

/-- One write's effect on day `d`'s last unrealized mark. -/
def unrealizedStep (d : Nat) (acc : Decimal) : PnLWrite → Decimal
  | .addRealized _ _ => acc
  | .updateUnrealized a t => if utcDay t = d then a else acc

/-- The realized amounts written during UTC day `d`, summed. -/
def realizedOn (d : Nat) (ws : List PnLWrite) : Decimal := ws.foldl (realizedStep d) 0

/-- The last unrealized amount written during UTC day `d`, `0` when there is none. -/
def unrealizedOn (d : Nat) (ws : List PnLWrite) : Decimal := ws.foldl (unrealizedStep d) 0

/-- Writes from other days leave an accumulator of day `d` as it is. -/
theorem foldl_steps_off_day (d : Nat) (ws : List PnLWrite) (h : ∀ w ∈ ws, utcDay w.now ≠ d)
    (acc acc' : Decimal) :
    ws.foldl (realizedStep d) acc = acc ∧ ws.foldl (unrealizedStep d) acc' = acc' := by
  induction ws generalizing acc acc' with
  | nil => exact ⟨rfl, rfl⟩
  | cons w ws ih =>
    have hw := h w (List.mem_cons_self _ _)
    have hs := ih (fun x hx => h x (List.mem_cons_of_mem _ hx))
    cases w <;> simp only [PnLWrite.now] at hw <;>
      simpa [realizedStep, unrealizedStep, hw] using hs _ _

/-- On a later day than the reset day, a write starts the day's totals afresh. -/
theorem PnLTracker.write_of_lt (p : PnLTracker) (w : PnLWrite) (h : p.lastReset < utcDay w.now) :
    p.write w = ⟨realizedStep (utcDay w.now) 0 w, unrealizedStep (utcDay w.now) 0 w, utcDay w.now⟩ := by
  cases w <;> simp only [PnLWrite.now] at h <;>
    simp [PnLTracker.write, PnLTracker.addRealizedPnL, PnLTracker.updateUnrealizedPnL,
      PnLTracker.checkDailyReset, realizedStep, unrealizedStep, PnLWrite.now, h]

/-- On the reset day, a write adds to, or replaces, the totals the tracker holds. -/
theorem PnLTracker.write_of_eq (p : PnLTracker) (w : PnLWrite) (h : p.lastReset = utcDay w.now) :
    p.write w = ⟨realizedStep p.lastReset p.dailyRealizedPnL w,
      unrealizedStep p.lastReset p.dailyUnrealizedPnL w, p.lastReset⟩ := by
  cases w <;> simp only [PnLWrite.now] at h <;>
    simp [PnLTracker.write, PnLTracker.addRealizedPnL, PnLTracker.updateUnrealizedPnL,
      PnLTracker.checkDailyReset, realizedStep, unrealizedStep, ← h]

/-- The tracker holds its reset day's totals, and no write it has seen came from a later day. -/
structure PnLTracker.HoldsDay (p : PnLTracker) (ws : List PnLWrite) : Prop where
  past : ∀ w ∈ ws, utcDay w.now ≤ p.lastReset
  realized : p.dailyRealizedPnL = realizedOn p.lastReset ws
  unrealized : p.dailyUnrealizedPnL = unrealizedOn p.lastReset ws

/-- A write from the reset day or a later one keeps the tracker holding its day's totals, and
moves the reset day to the write's day. -/
theorem PnLTracker.HoldsDay.write {p : PnLTracker} {ws : List PnLWrite} (h : p.HoldsDay ws)
    (w : PnLWrite) (hw : p.lastReset ≤ utcDay w.now) :
    (p.write w).lastReset = utcDay w.now ∧ (p.write w).HoldsDay (ws ++ [w]) := by
  have hpast : ∀ x ∈ ws ++ [w], utcDay x.now ≤ utcDay w.now := by
    simp only [List.mem_append, List.mem_singleton]
    rintro x (hx | rfl)
    exacts [(h.past x hx).trans hw, le_rfl]
  rcases Nat.lt_or_eq_of_le hw with hlt | heq
  · -- a new day: the earlier writes all fall before it
    have hoff := foldl_steps_off_day (utcDay w.now) ws
      (fun x hx => by have := h.past x hx; omega) 0 0
    rw [p.write_of_lt w hlt]
    exact ⟨rfl, hpast, by simp [realizedOn, hoff.1], by simp [unrealizedOn, hoff.2]⟩
  · -- the reset day: the write adds to, or replaces, what the tracker holds
    rw [p.write_of_eq w heq]
    exact ⟨heq, heq ▸ hpast, by simp [realizedOn, h.realized], by simp [unrealizedOn, h.unrealized]⟩

/-- **The day's totals along a run.** From `NewPnLTracker` at `t0`, along writes whose clock
readings never go back, the reset day is the day of the last reading, and the tracker holds that
day's realized sum and last unrealized mark. -/
theorem PnLTracker.run_holdsDay (t0 : Nat) (ws : List PnLWrite)
    (hclock : (t0 :: ws.map PnLWrite.now).Pairwise (· ≤ ·)) :
    (ws.foldl PnLTracker.write (PnLTracker.new t0)).lastReset =
        utcDay ((t0 :: ws.map PnLWrite.now).getLast (List.cons_ne_nil _ _)) ∧
      (ws.foldl PnLTracker.write (PnLTracker.new t0)).HoldsDay ws := by
  induction ws using List.reverseRecOn with
  | nil => exact ⟨rfl, ⟨by simp, rfl, rfl⟩⟩
  | append_singleton ws w ih =>
    rw [List.map_append, ← List.cons_append, List.pairwise_append] at hclock
    obtain ⟨hlast, hholds⟩ := ih hclock.1
    have hle : (t0 :: ws.map PnLWrite.now).getLast (List.cons_ne_nil _ _) ≤ w.now :=
      hclock.2.2 _ (List.getLast_mem _) _ (List.mem_singleton_self _)
    obtain ⟨hday, hw⟩ := hholds.write w (hlast ▸ Nat.div_le_div_right hle)
    simp only [List.foldl_append, List.foldl_cons, List.foldl_nil, List.map_append,
      ← List.cons_append, List.getLast_append]
    exact ⟨hday, hw⟩

/-- A read on the day of the last write returns that day's realized sum and last unrealized
mark. -/
theorem PnLTracker.run_totalDailyPnL (t0 : Nat) (ws : List PnLWrite)
    (hclock : (t0 :: ws.map PnLWrite.now).Pairwise (· ≤ ·)) (t : Nat)
    (ht : utcDay t = utcDay ((t0 :: ws.map PnLWrite.now).getLast (List.cons_ne_nil _ _))) :
    (ws.foldl PnLTracker.write (PnLTracker.new t0)).totalDailyPnL =
      realizedOn (utcDay t) ws + unrealizedOn (utcDay t) ws := by
  obtain ⟨hday, h⟩ := PnLTracker.run_holdsDay t0 ws hclock
  rw [PnLTracker.totalDailyPnL, h.realized, h.unrealized, hday, ht]

/-- A gain of 10 and a mark of `-3` on the first day, then a gain of 5 and a mark of 4 on the
next. -/
def twoDayWrites : List PnLWrite :=
  [.addRealized 10 1, .updateUnrealized (-3) 2, .addRealized 5 86400000000001,
    .updateUnrealized 4 86400000000002]

/-- Read on the second day, the total is that day's `5 + 4`. -/
theorem run_totalDailyPnL_twoDays :
    (0 :: twoDayWrites.map PnLWrite.now).Pairwise (· ≤ ·) ∧
      (twoDayWrites.foldl PnLTracker.write (PnLTracker.new 0)).totalDailyPnL = 9 := by
  have hclock : (0 :: twoDayWrites.map PnLWrite.now).Pairwise (· ≤ ·) := by decide
  refine ⟨hclock, ?_⟩
  rw [PnLTracker.run_totalDailyPnL 0 twoDayWrites hclock 86400000000005 (by decide)]
  norm_num [twoDayWrites, realizedOn, unrealizedOn, realizedStep, unrealizedStep, utcDay,
    nanosPerDay]

end ArbitrageEngine.Risk
