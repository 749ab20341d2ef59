import ArbitrageEngine.Encoding.Calendar

/-!
# Reading a timestamp back

`formatRFC3339` writes an instant as fixed-width decimal fields with a fraction whose trailing
zeros are dropped; `parseRFC3339` reads the fields back, restores the dropped zeros and checks the
date against the calendar. `parseRFC3339_formatRFC3339` shows that every text `formatRFC3339`
produces reads back as the instant it was written from, and `formatRFC3339_escape` that the text
needs no escaping inside a JSON string. Every instant from the Unix epoch to the end of year 9999
has a text (`formatRFC3339_isSome`).
-/

set_option autoImplicit false

namespace ArbitrageEngine.Encoding

/-! ## Decimal fields -/

theorem digitChar_spec (k : Nat) (hk : k < 10) :
    (Char.ofNat ('0'.toNat + k)).isDigit = true ∧
      (Char.ofNat ('0'.toNat + k)).toNat - '0'.toNat = k := by
  interval_cases k <;> decide

theorem digitsValue_append (l : List Char) (c : Char) :
    digitsValue (l ++ [c]) = (digitsValue l).bind fun acc =>
      if c.isDigit then some (acc * 10 + (c.toNat - '0'.toNat)) else none := by
  simp [digitsValue, List.foldlM_append]

theorem digitsValue_padDigits (w n : Nat) : digitsValue (padDigits w n) = some (n % 10 ^ w) := by
  induction w generalizing n with
  | zero => simp [padDigits, digitsValue, Nat.mod_one]
  | succ w ih =>
    have hd := digitChar_spec (n % 10) (Nat.mod_lt _ (by norm_num))
    rw [padDigits, digitsValue_append, ih, Option.some_bind, hd.1, if_pos rfl, hd.2,
      pow_succ', Nat.mod_mul]
    ring_nf

theorem length_padDigits (w n : Nat) : (padDigits w n).length = w := by
  induction w generalizing n with
  | zero => rfl
  | succ w ih => simp [padDigits, ih]

theorem mem_padDigits (w n : Nat) (c : Char) (h : c ∈ padDigits w n) :
    ∃ k < 10, c = Char.ofNat ('0'.toNat + k) := by
  induction w generalizing n with
  | zero => simp [padDigits] at h
  | succ w ih =>
    rw [padDigits, List.mem_append, List.mem_singleton] at h
    rcases h with h | rfl
    · exact ih _ h
    · exact ⟨n % 10, Nat.mod_lt _ (by norm_num), rfl⟩

theorem padDigits_isDigit (w n : Nat) (c : Char) (h : c ∈ padDigits w n) : c.isDigit = true := by
  obtain ⟨k, hk, rfl⟩ := mem_padDigits w n c h
  exact (digitChar_spec k hk).1

/-- Dropping trailing zeros leaves a prefix followed only by zeros. -/
theorem trimZeros_append (cs : List Char) :
    cs = trimZeros cs ++ List.replicate (cs.length - (trimZeros cs).length) '0' := by
  have hsplit := List.takeWhile_append_dropWhile (fun c => decide (c = '0')) cs.reverse
  have hrep : cs.reverse.takeWhile (fun c => decide (c = '0')) =
      List.replicate (cs.reverse.takeWhile (fun c => decide (c = '0'))).length '0' :=
    List.eq_replicate_iff.mpr ⟨rfl, fun b hb => by simpa using List.mem_takeWhile_imp hb⟩
  have hlen := congrArg List.length hsplit
  have e : cs = trimZeros cs ++ (cs.reverse.takeWhile (fun c => decide (c = '0'))).reverse := by
    rw [trimZeros, ← List.reverse_append, hsplit, List.reverse_reverse]
  rw [List.length_append, List.length_reverse] at hlen
  conv_lhs => rw [e]
  rw [hrep, List.reverse_replicate, trimZeros, List.length_reverse]
  congr 2
  omega

theorem digitsValue_replicate_zero (k : Nat) : digitsValue (List.replicate k '0') = some 0 := by
  induction k with
  | zero => rfl
  | succ k ih => rw [List.replicate_succ', digitsValue_append, ih]; rfl

theorem parseFraction_frac (ns : Nat) (h : ns < 10 ^ 9) :
    parseFraction ((if ns = 0 then [] else '.' :: trimZeros (padDigits 9 ns)) ++ ['Z']) =
      some (ns, ['Z']) := by
  by_cases h0 : ns = 0
  · simp [h0, parseFraction]
  · have hsplit := trimZeros_append (padDigits 9 ns)
    have hval := digitsValue_padDigits 9 ns
    rw [Nat.mod_eq_of_lt h] at hval
    have hdig : ∀ c ∈ trimZeros (padDigits 9 ns), c.isDigit = true := fun c hc =>
      padDigits_isDigit 9 ns c (by rw [hsplit]; exact List.mem_append_left _ hc)
    have hne : trimZeros (padDigits 9 ns) ≠ [] := by
      intro he
      rw [he, List.nil_append] at hsplit
      rw [hsplit, digitsValue_replicate_zero] at hval
      exact h0 (Option.some.inj hval).symm
    have htake : List.takeWhile Char.isDigit (trimZeros (padDigits 9 ns) ++ ['Z']) =
        trimZeros (padDigits 9 ns) := by
      rw [List.takeWhile_append_of_pos hdig, show List.takeWhile Char.isDigit ['Z'] = [] by decide,
        List.append_nil]
    have hpad : (trimZeros (padDigits 9 ns) ++ List.replicate 9 '0').take 9 = padDigits 9 ns := by
      obtain ⟨k, hk⟩ : ∃ k, padDigits 9 ns = trimZeros (padDigits 9 ns) ++ List.replicate k '0' :=
        ⟨_, hsplit⟩
      have hlen := congrArg List.length hk
      rw [length_padDigits, List.length_append, List.length_replicate] at hlen
      rw [List.take_append_eq_append_take, List.take_of_length_le (by omega), List.take_replicate,
        show min (9 - (trimZeros (padDigits 9 ns)).length) 9 = k by omega, ← hk]
    simp only [h0, if_false, List.cons_append, parseFraction, htake, hne, hpad, hval,
      List.drop_left, Option.map_some']

theorem daysIn_le (y m : Nat) : daysIn y m ≤ 31 := by
  unfold daysIn
  split_ifs <;> omega

theorem padDigits_two (n : Nat) :
    padDigits 2 n = [Char.ofNat ('0'.toNat + n / 10 % 10), Char.ofNat ('0'.toNat + n % 10)] := rfl

theorem padDigits_four (n : Nat) :
    padDigits 4 n = [Char.ofNat ('0'.toNat + n / 10 / 10 / 10 % 10),
      Char.ofNat ('0'.toNat + n / 10 / 10 % 10), Char.ofNat ('0'.toNat + n / 10 % 10),
      Char.ofNat ('0'.toNat + n % 10)] := rfl

theorem digitsValue_two (n : Nat) :
    digitsValue [Char.ofNat ('0'.toNat + n / 10 % 10), Char.ofNat ('0'.toNat + n % 10)] =
      some (n % 100) :=
  digitsValue_padDigits 2 n

theorem digitsValue_four (n : Nat) :
    digitsValue [Char.ofNat ('0'.toNat + n / 10 / 10 / 10 % 10),
      Char.ofNat ('0'.toNat + n / 10 / 10 % 10), Char.ofNat ('0'.toNat + n / 10 % 10),
      Char.ofNat ('0'.toNat + n % 10)] = some (n % 10000) :=
  digitsValue_padDigits 4 n

/-- `parseRFC3339` reads the fields of a text by their positions. -/
theorem parseRFC3339_fields (y1 y2 y3 y4 m1 m2 d1 d2 h1 h2 n1 n2 s1 s2 : Char) (rest : List Char) :
    parseRFC3339 (y1 :: y2 :: y3 :: y4 :: '-' :: m1 :: m2 :: '-' :: d1 :: d2 :: 'T' ::
      h1 :: h2 :: ':' :: n1 :: n2 :: ':' :: s1 :: s2 :: rest) = (do
      let y ← digitsValue [y1, y2, y3, y4]
      let mo ← digitsValue [m1, m2]
      let d ← digitsValue [d1, d2]
      let h ← digitsValue [h1, h2]
      let mi ← digitsValue [n1, n2]
      let s ← digitsValue [s1, s2]
      if 1 ≤ mo ∧ mo ≤ 12 ∧ 1 ≤ d ∧ d ≤ daysIn y mo ∧ h < 24 ∧ mi < 60 ∧ s < 60 then
        let (ns, rest) ← parseFraction rest
        let off ← parseZone rest
        some ((daysFromCivil y mo d * 86400 + ((h * 3600 + mi * 60 + s : Nat) : ℤ) - off) *
          1000000000 + ns)
      else none) := rfl

theorem parseRFC3339_formatRFC3339 (t : ℤ) (text : List Char) (h : formatRFC3339 t = some text) :
    parseRFC3339 text = some t := by
  obtain ⟨⟨y, m, d⟩, hc⟩ : ∃ p, civilFromDays (t / 1000000000 / 86400) = p := ⟨_, rfl⟩
  have hspec := civilFromDays_spec (t / 1000000000 / 86400)
  rw [hc] at hspec
  simp only [formatRFC3339, hc] at h
  have hy : ¬(y < 0 ∨ y > 9999) := fun hy => by simp [hy] at h
  rw [if_neg hy, Option.some.injEq] at h
  subst h
  have hns : (t % 1000000000).toNat < 10 ^ 9 := by omega
  obtain ⟨hm1, hm12, hd1, hdays, hinv⟩ := hspec
  simp only at hm1 hm12 hd1 hdays hinv
  have hd31 : d ≤ 31 := (hdays (by omega)).trans (daysIn_le _ _)
  have hsod : (t / 1000000000 % 86400).toNat < 86400 := by omega
  simp only [padDigits_four, padDigits_two, List.cons_append, List.nil_append, List.append_assoc]
  rw [parseRFC3339_fields]
  simp only [digitsValue_four, digitsValue_two, parseFraction_frac _ hns, Option.bind_eq_bind,
    Option.some_bind, Nat.mod_eq_of_lt (show y.toNat < 10000 by omega),
    Nat.mod_eq_of_lt (show m < 100 by omega), Nat.mod_eq_of_lt (show d < 100 by omega),
    Nat.mod_eq_of_lt (show (t / 1000000000 % 86400).toNat / 3600 < 100 by omega),
    Nat.mod_eq_of_lt (show (t / 1000000000 % 86400).toNat / 60 % 60 < 100 by omega),
    Nat.mod_eq_of_lt (show (t / 1000000000 % 86400).toNat % 60 < 100 by omega),
    Int.toNat_of_nonneg (show 0 ≤ y by omega)]
  rw [if_pos ⟨hm1, hm12, hd1, hdays (by omega), by omega, by omega, by omega⟩,
    show parseZone ['Z'] = some 0 from rfl, Option.some_bind, hinv, Option.some.injEq]
  omega

/-! ## The instants that marshal -/

/-- 10000-01-01T00:00:00Z in nanoseconds from the Unix epoch, the first instant past the years
`time.Time.MarshalJSON` writes. -/
def marshalLimit : ℤ := 253402300800 * 1000000000

/-- Every instant from the Unix epoch up to the end of year 9999 marshals. -/
theorem formatRFC3339_isSome (t : ℤ) (h0 : 0 ≤ t) (h : t < marshalLimit) :
    (formatRFC3339 t).isSome := by
  obtain ⟨⟨y, m, d⟩, hc⟩ : ∃ p, civilFromDays (t / 1000000000 / 86400) = p := ⟨_, rfl⟩
  have hy := civilFromDays_year_mem (t / 1000000000 / 86400) (by omega)
    (by unfold marshalLimit at h; omega)
  simp only [hc] at hy
  simp only [formatRFC3339, hc]
  rw [if_neg (by omega)]
  rfl

/-! ## The text inside a JSON string -/

theorem escapeChar_digit (k : Nat) (hk : k < 10) :
    escapeChar (Char.ofNat ('0'.toNat + k)) = [Char.ofNat ('0'.toNat + k)] := by
  interval_cases k <;> rfl

theorem flatMap_escapeChar_eq (l : List Char) (h : ∀ c ∈ l, escapeChar c = [c]) :
    l.flatMap escapeChar = l := by
  induction l with
  | nil => rfl
  | cons c l ih =>
    rw [List.flatMap_cons, h c (List.mem_cons_self _ _),
      ih fun d hd => h d (List.mem_cons_of_mem _ hd)]
    rfl

theorem padDigits_escape (w n : Nat) : ∀ c ∈ padDigits w n, escapeChar c = [c] := fun c hc => by
  obtain ⟨k, hk, rfl⟩ := mem_padDigits w n c hc
  exact escapeChar_digit k hk

/-- The timestamp text is digits, `-`, `T`, `:`, `.` and `Z`, which `json.Marshal` writes as
they are. -/
theorem formatRFC3339_escape (t : ℤ) (text : List Char) (h : formatRFC3339 t = some text) :
    text.flatMap escapeChar = text := by
  obtain ⟨⟨y, m, d⟩, hc⟩ : ∃ p, civilFromDays (t / 1000000000 / 86400) = p := ⟨_, rfl⟩
  simp only [formatRFC3339, hc] at h
  have hy : ¬(y < 0 ∨ y > 9999) := fun hy => by simp [hy] at h
  rw [if_neg hy, Option.some.injEq] at h
  subst h
  apply flatMap_escapeChar_eq
  simp only [List.forall_mem_append, List.forall_mem_cons, and_assoc]
  refine ⟨padDigits_escape _ _, rfl, padDigits_escape _ _, rfl, padDigits_escape _ _, rfl,
    padDigits_escape _ _, rfl, padDigits_escape _ _, rfl, padDigits_escape _ _, ?_, rfl,
    fun _ h => absurd h (List.not_mem_nil _)⟩
  split_ifs
  · simp
  · refine List.forall_mem_cons.mpr
      ⟨rfl, fun c hc => padDigits_escape 9 (t % 1000000000).toNat c ?_⟩
    rw [trimZeros_append (padDigits 9 (t % 1000000000).toNat)]
    exact List.mem_append_left _ hc

end ArbitrageEngine.Encoding
