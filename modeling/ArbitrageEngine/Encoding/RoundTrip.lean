import ArbitrageEngine.Encoding.Json
import Mathlib.Tactic.IntervalCases
import Mathlib.Tactic.Positivity

/-!
# Reading JSON text back

`quoteString` is the string encoding of `json.Marshal`; `parseStringBody` is the decoding of
`json.Unmarshal`. Each escape `escapeChar` writes reads back as the character it was written from
(`parseStringBody_escapeChar`), so a quoted string reads back whole (`parseValue_quoteString`).
The member lemmas read one `"key":value` pair of an object followed by a comma or by the closing
brace, which is how the kill switch's record is laid out.
-/

set_option autoImplicit false

namespace ArbitrageEngine.Encoding

/-! ## Strings -/

theorem hexVal_hexDigit (n : Nat) (h : n < 16) : hexVal (hexDigit n) = some n := by
  interval_cases n <;> decide

theorem parseHex4_uEscape (n : Nat) (h : n < 65536) (rest : List Char) :
    parseHex4 (hexDigit (n / 4096 % 16) :: hexDigit (n / 256 % 16) :: hexDigit (n / 16 % 16) ::
      hexDigit (n % 16) :: rest) = some (n, rest) := by
  simp only [parseHex4, hexVal_hexDigit _ (Nat.mod_lt _ (by norm_num)),
    Option.bind_eq_bind, Option.some_bind, Option.some.injEq, Prod.mk.injEq, and_true]
  omega

theorem unicodeEscape_of_lt (c : Char) (h : c.toNat < 0xD800) (rest : List Char) :
    unicodeEscape c.toNat rest = (c, rest) := by
  unfold unicodeEscape
  rw [if_neg (by omega), if_neg (by simp [isSurrogate]; omega), Char.ofNat_toNat]

theorem parseStringBody_escapeChar (c : Char) (fuel : Nat) (rest acc : List Char) :
    parseStringBody (fuel + 1) (escapeChar c ++ rest) acc = parseStringBody fuel rest (c :: acc) := by
  by_cases h1 : c = '"'
  · subst h1; rfl
  by_cases h2 : c = '\\'
  · subst h2; rfl
  by_cases h3 : c = '\n'
  · subst h3; rfl
  by_cases h4 : c = '\r'
  · subst h4; rfl
  by_cases h5 : c = '\t'
  · subst h5; rfl
  by_cases h6 : c.toNat = 8
  · rw [← Char.ofNat_toNat c, h6]; rfl
  by_cases h7 : c.toNat = 12
  · rw [← Char.ofNat_toNat c, h7]; rfl
  rw [escapeChar, if_neg h1, if_neg h2, if_neg h3, if_neg h4, if_neg h5, if_neg h6, if_neg h7]
  split_ifs with h8
  · have hlt : c.toNat < 0x202a := by
      rcases h8 with h | h | h | h | h | h <;> first | omega | (subst h; decide)
    simp only [uEscape, List.cons_append, List.nil_append, parseStringBody, List.append_eq,
      parseHex4_uEscape c.toNat (by omega), unicodeEscape_of_lt c (by omega)]
  · have h32 : ¬c.toNat < 32 := fun h => h8 (.inl h)
    simp only [List.singleton_append, parseStringBody, h1, h2, h32, if_false, false_implies,
      implies_true]

theorem parseStringBody_escaped (cs : List Char) (fuel : Nat) (rest acc : List Char)
    (h : cs.length < fuel) :
    parseStringBody fuel (cs.flatMap escapeChar ++ '"' :: rest) acc =
      some (String.mk (acc.reverse ++ cs), rest) := by
  induction cs generalizing fuel acc with
  | nil =>
    obtain ⟨f, rfl⟩ : ∃ f, fuel = f + 1 := ⟨fuel - 1, by simp at h; omega⟩
    simp [parseStringBody]
  | cons c cs ih =>
    obtain ⟨f, rfl⟩ : ∃ f, fuel = f + 1 := ⟨fuel - 1, by simp at h; omega⟩
    rw [List.flatMap_cons, List.append_assoc, parseStringBody_escapeChar,
      ih f (c :: acc) (by simp at h; omega)]
    simp

theorem skipWs_cons (c : Char) (cs : List Char) (h : isWs c = false) : skipWs (c :: cs) = c :: cs := by
  simp [skipWs, h]

theorem quoteString_append (s : String) (rest : List Char) :
    quoteString s ++ rest = '"' :: (s.toList.flatMap escapeChar ++ '"' :: rest) := by
  simp [quoteString]

/-! ## Values and members -/

theorem parseValue_quote (fuel : Nat) (cs : List Char) :
    parseValue (fuel + 1) ('"' :: cs) = (parseStringBody fuel cs []).map fun (s, r) => (.string s, r) := by
  unfold parseValue
  rw [skipWs_cons '"' _ rfl]
  rfl

/-- A quoted string reads back as itself when the fuel covers its characters. -/
theorem parseValue_quoteString (s : String) (fuel : Nat) (rest : List Char) (h : s.length < fuel) :
    parseValue (fuel + 1) (quoteString s ++ rest) = some (.string s, rest) := by
  rw [quoteString_append, parseValue_quote,
    parseStringBody_escaped s.toList fuel rest [] h]
  rfl

theorem parseValue_bool (b : Bool) (fuel : Nat) (rest : List Char) :
    parseValue (fuel + 1) ((if b then "true" else "false").toList ++ rest) = some (.bool b, rest) := by
  cases b <;> rfl

theorem parseValue_object (fuel : Nat) (k : String) (rest : List Char) :
    parseValue (fuel + 1) ('\x7b' :: (quoteString k ++ rest)) =
      (parseMembers fuel (quoteString k ++ rest) []).map fun (ms, r) => (.object ms, r) := by
  rw [quoteString_append]
  unfold parseValue
  rw [skipWs_cons '\x7b' _ rfl]
  rfl

/-- A member followed by a comma: the key, the colon and the value are read, and the next member
follows. -/
theorem parseMembers_comma (fuel : Nat) (k : String) (vt rest : List Char) (v : Json)
    (acc : List (String × Json)) (hk : k.length < fuel)
    (hv : parseValue fuel (vt ++ ',' :: rest) = some (v, ',' :: rest)) :
    parseMembers (fuel + 1) (quoteString k ++ ':' :: (vt ++ ',' :: rest)) acc =
      parseMembers fuel rest ((k, v) :: acc) := by
  rw [quoteString_append]
  simp only [parseMembers, skipWs_cons '"' _ rfl,
    parseStringBody_escaped k.toList fuel _ [] hk, skipWs_cons ':' _ rfl, hv,
    skipWs_cons ',' _ rfl]
  rfl

/-- The last member, followed by the closing brace. -/
theorem parseMembers_close (fuel : Nat) (k : String) (vt rest : List Char) (v : Json)
    (acc : List (String × Json)) (hk : k.length < fuel)
    (hv : parseValue fuel (vt ++ '\x7d' :: rest) = some (v, '\x7d' :: rest)) :
    parseMembers (fuel + 1) (quoteString k ++ ':' :: (vt ++ '\x7d' :: rest)) acc =
      some (((k, v) :: acc).reverse, rest) := by
  rw [quoteString_append]
  simp only [parseMembers, skipWs_cons '"' _ rfl,
    parseStringBody_escaped k.toList fuel _ [] hk, skipWs_cons ':' _ rfl, hv,
    skipWs_cons '\x7d' _ rfl]
  rfl

/-! ## Lengths

An escape is never empty, so a quoted string is longer than its text; the fuel a decoder needs
is bounded by the length of what it reads. -/

theorem length_escapeChar_pos (c : Char) : 0 < (escapeChar c).length := by
  simp only [escapeChar, apply_ite List.length, List.length_cons, uEscape]
  positivity

theorem length_flatMap_escapeChar (l : List Char) : l.length ≤ (l.flatMap escapeChar).length := by
  induction l with
  | nil => exact Nat.le_refl 0
  | cons c l ih =>
    have := length_escapeChar_pos c
    rw [List.flatMap_cons, List.length_append, List.length_cons]
    omega

theorem length_quoteString (s : String) : s.length + 2 ≤ (quoteString s).length := by
  rw [quoteString, List.length_cons, List.length_append, List.length_singleton]
  exact Nat.succ_le_succ (Nat.succ_le_succ (length_flatMap_escapeChar s.toList))

end ArbitrageEngine.Encoding
