import ArbitrageEngine.Domain.Types

/-!
# JSON text and RFC 3339 timestamps

The part of `encoding/json` and of `time.Time`'s JSON form that the kill switch's file goes
through. `parseDocument` is the syntax check `json.Unmarshal` runs before decoding: one JSON
value (RFC 8259: literals, numbers, strings with their escapes, arrays, objects) surrounded by
whitespace and nothing else. `quoteString` is `json.Marshal`'s string encoding, which escapes the
quote, the backslash, control characters, the HTML characters `<`, `>`, `&` and the two line
separators. `formatRFC3339` and `parseRFC3339` are the text of `time.Time.MarshalJSON` and the
strict parse of `UnmarshalJSON`; an instant is a nanosecond count from the Unix epoch,
negative before 1970, and is written in UTC.

Files are read as character lists: a byte cut inside a multi-byte character can only fall inside a
string, whose closing quote is then missing, so it fails to parse exactly as a cut at the
character boundary before it does.
-/

set_option autoImplicit false

namespace ArbitrageEngine.Encoding

/-- A JSON value; a number is kept as its text. -/
inductive Json where
  | null
  | bool (b : Bool)
  | number (text : List Char)
  | string (s : String)
  | array (items : List Json)
  | object (members : List (String × Json))

/-! ## Lexical pieces -/

/-- JSON whitespace. -/
def isWs (c : Char) : Bool := c = ' ' || c = '\t' || c = '\n' || c = '\r'

/-- Drop leading whitespace. -/
def skipWs : List Char → List Char
  | [] => []
  | c :: cs => if isWs c then skipWs cs else c :: cs

/-- The value of a hexadecimal digit. -/
def hexVal (c : Char) : Option Nat :=
  if '0' ≤ c ∧ c ≤ '9' then some (c.toNat - '0'.toNat)
  else if 'a' ≤ c ∧ c ≤ 'f' then some (c.toNat - 'a'.toNat + 10)
  else if 'A' ≤ c ∧ c ≤ 'F' then some (c.toNat - 'A'.toNat + 10)
  else none

/-- Four hexadecimal digits. -/
def parseHex4 : List Char → Option (Nat × List Char)
  | a :: b :: c :: d :: rest => do
    let a ← hexVal a
    let b ← hexVal b
    let c ← hexVal c
    let d ← hexVal d
    some (((a * 16 + b) * 16 + c) * 16 + d, rest)
  | _ => none

/-- A UTF-16 surrogate half. -/
def isSurrogate (n : Nat) : Bool := 0xD800 ≤ n && n < 0xE000

/-- The code point of a `\u` escape, reading the low half of a surrogate pair when it follows;
a lone surrogate becomes U+FFFD, as in `encoding/json`. -/
def unicodeEscape (hi : Nat) (rest : List Char) : Char × List Char :=
  if 0xD800 ≤ hi ∧ hi < 0xDC00 then
    match rest with
    | '\\' :: 'u' :: more =>
      match parseHex4 more with
      | some (lo, rest') =>
        if 0xDC00 ≤ lo ∧ lo < 0xE000 then
          (Char.ofNat (0x10000 + (hi - 0xD800) * 0x400 + (lo - 0xDC00)), rest')
        else (Char.ofNat 0xFFFD, rest)
      | none => (Char.ofNat 0xFFFD, rest)
    | _ => (Char.ofNat 0xFFFD, rest)
  else if isSurrogate hi then (Char.ofNat 0xFFFD, rest)
  else (Char.ofNat hi, rest)

/-- The body of a string after its opening quote, up to and including the closing quote. The
characters read so far are kept in reverse; `fuel` bounds the characters read. -/
def parseStringBody : Nat → List Char → List Char → Option (String × List Char)
  | 0, _, _ => none
  | _ + 1, [], _ => none
  | _ + 1, '"' :: rest, acc => some (String.mk acc.reverse, rest)
  | fuel + 1, '\\' :: e :: rest, acc =>
    match e with
    | '"' => parseStringBody fuel rest ('"' :: acc)
    | '\\' => parseStringBody fuel rest ('\\' :: acc)
    | '/' => parseStringBody fuel rest ('/' :: acc)
    | 'b' => parseStringBody fuel rest (Char.ofNat 8 :: acc)
    | 'f' => parseStringBody fuel rest (Char.ofNat 12 :: acc)
    | 'n' => parseStringBody fuel rest ('\n' :: acc)
    | 'r' => parseStringBody fuel rest ('\r' :: acc)
    | 't' => parseStringBody fuel rest ('\t' :: acc)
    | 'u' =>
      match parseHex4 rest with
      | some (hi, rest') =>
        let (c, rest'') := unicodeEscape hi rest'
        parseStringBody fuel rest'' (c :: acc)
      | none => none
    | _ => none
  | fuel + 1, c :: rest, acc =>
    if c.toNat < 0x20 then none else parseStringBody fuel rest (c :: acc)

/-- Decimal digits, at least one. -/
def digits1 : List Char → Option (List Char × List Char)
  | c :: cs =>
    if c.isDigit then
      let ds := cs.takeWhile Char.isDigit
      some (c :: ds, cs.drop ds.length)
    else none
  | [] => none

/-- The integer part of a number: `0`, or a non-zero digit and more digits. -/
def intPart : List Char → Option (List Char × List Char)
  | '0' :: rest => some (['0'], rest)
  | cs => digits1 cs

/-- An optional fraction `.digits`. -/
def fracPart : List Char → Option (List Char × List Char)
  | '.' :: rest => (digits1 rest).map fun (ds, r) => ('.' :: ds, r)
  | cs => some ([], cs)

/-- An optional exponent `e`, a sign, and digits. -/
def expPart : List Char → Option (List Char × List Char)
  | e :: rest =>
    if e = 'e' ∨ e = 'E' then
      match rest with
      | s :: more =>
        if s = '+' ∨ s = '-' then (digits1 more).map fun (ds, r) => (e :: s :: ds, r)
        else (digits1 rest).map fun (ds, r) => (e :: ds, r)
      | [] => none
    else some ([], e :: rest)
  | [] => some ([], [])

/-- A number: optional minus, integer part, fraction, exponent. -/
def parseNumber (cs : List Char) : Option (List Char × List Char) := do
  let (sign, cs) := match cs with
    | '-' :: rest => (['-'], rest)
    | _ => ([], cs)
  let (i, cs) ← intPart cs
  let (f, cs) ← fracPart cs
  let (e, cs) ← expPart cs
  some (sign ++ i ++ f ++ e, cs)

/-! ## Values -/

mutual

/-- A value after optional whitespace; `fuel` bounds the nesting and the characters read. -/
def parseValue : Nat → List Char → Option (Json × List Char)
  | 0, _ => none
  | fuel + 1, cs =>
    match skipWs cs with
    | 'n' :: 'u' :: 'l' :: 'l' :: rest => some (.null, rest)
    | 't' :: 'r' :: 'u' :: 'e' :: rest => some (.bool true, rest)
    | 'f' :: 'a' :: 'l' :: 's' :: 'e' :: rest => some (.bool false, rest)
    | '"' :: rest => (parseStringBody fuel rest []).map fun (s, r) => (.string s, r)
    | '[' :: rest =>
      match skipWs rest with
      | ']' :: rest' => some (.array [], rest')
      | _ => (parseItems fuel rest []).map fun (xs, r) => (.array xs, r)
    | '\x7b' :: rest =>
      match skipWs rest with
      | '\x7d' :: rest' => some (.object [], rest')
      | _ => (parseMembers fuel rest []).map fun (ms, r) => (.object ms, r)
    | cs' => (parseNumber cs').map fun (n, r) => (.number n, r)

/-- The items of a non-empty array, after `[`, up to and including `]`. -/
def parseItems : Nat → List Char → List Json → Option (List Json × List Char)
  | 0, _, _ => none
  | fuel + 1, cs, acc =>
    match parseValue fuel cs with
    | none => none
    | some (v, rest) =>
      match skipWs rest with
      | ',' :: rest' => parseItems fuel rest' (v :: acc)
      | ']' :: rest' => some ((v :: acc).reverse, rest')
      | _ => none

/-- The members of a non-empty object, after the opening brace, up to and including the closing
one. -/
def parseMembers :
    Nat → List Char → List (String × Json) → Option (List (String × Json) × List Char)
  | 0, _, _ => none
  | fuel + 1, cs, acc =>
    match skipWs cs with
    | '"' :: rest =>
      match parseStringBody fuel rest [] with
      | none => none
      | some (k, rest') =>
        match skipWs rest' with
        | ':' :: rest'' =>
          match parseValue fuel rest'' with
          | none => none
          | some (v, rest3) =>
            match skipWs rest3 with
            | ',' :: rest4 => parseMembers fuel rest4 ((k, v) :: acc)
            | '\x7d' :: rest4 => some (((k, v) :: acc).reverse, rest4)
            | _ => none
        | _ => none
    | _ => none

end

/-- The syntax check of `json.Unmarshal`: one value and only whitespace around it. -/
def parseDocument (cs : List Char) : Option Json :=
  match parseValue (cs.length + 1) cs with
  | some (v, rest) => if skipWs rest = [] then some v else none
  | none => none

/-! ## Encoding strings -/

/-- Lower-case hexadecimal digit. -/
def hexDigit (n : Nat) : Char :=
  if n < 10 then Char.ofNat ('0'.toNat + n) else Char.ofNat ('a'.toNat + n - 10)

/-- A `\u` escape of a code point below `0x10000`. -/
def uEscape (n : Nat) : List Char :=
  ['\\', 'u', hexDigit (n / 4096 % 16), hexDigit (n / 256 % 16), hexDigit (n / 16 % 16),
    hexDigit (n % 16)]

/-- The encoding of one character inside a string by `json.Marshal` (Go 1.22 or later). -/
def escapeChar (c : Char) : List Char :=
  if c = '"' then ['\\', '"']
  else if c = '\\' then ['\\', '\\']
  else if c = '\n' then ['\\', 'n']
  else if c = '\r' then ['\\', 'r']
  else if c = '\t' then ['\\', 't']
  else if c.toNat = 8 then ['\\', 'b']
  else if c.toNat = 12 then ['\\', 'f']
  else if c.toNat < 0x20 ∨ c = '<' ∨ c = '>' ∨ c = '&' ∨ c.toNat = 0x2028 ∨ c.toNat = 0x2029 then
    uEscape c.toNat
  else [c]

/-- `json.Marshal` of a string: quoted, each character escaped as above. -/
def quoteString (s : String) : List Char := '"' :: (s.toList.flatMap escapeChar ++ ['"'])

/-! ## RFC 3339 timestamps -/

/-- Calendar date (year, month, day) of a day count from 1970-01-01, negative before. -/
def civilFromDays (days : ℤ) : ℤ × Nat × Nat :=
  let z := days + 719468
  let era := z / 146097
  let doe := (z % 146097).toNat
  let yoe := (doe - doe / 1460 + doe / 36524 - doe / 146096) / 365
  let doy := doe - (365 * yoe + yoe / 4 - yoe / 100)
  let mp := (5 * doy + 2) / 153
  let d := doy - (153 * mp + 2) / 5 + 1
  let m := if mp < 10 then mp + 3 else mp - 9
  ((yoe : ℤ) + era * 400 + (if m ≤ 2 then 1 else 0), m, d)

/-- Day count from 1970-01-01 of a calendar date, negative before. -/
def daysFromCivil (y : ℤ) (m d : Nat) : ℤ :=
  let y := if m ≤ 2 then y - 1 else y
  let era := y / 400
  let yoe := y - era * 400
  let mp : ℤ := if m > 2 then (m : ℤ) - 3 else (m : ℤ) + 9
  let doy := (153 * mp + 2) / 5 + d - 1
  era * 146097 + (yoe * 365 + yoe / 4 - yoe / 100 + doy) - 719468

/-- Days in a month of the proleptic Gregorian calendar. -/
def daysIn (y m : Nat) : Nat :=
  if m = 2 then (if y % 4 = 0 ∧ (y % 100 ≠ 0 ∨ y % 400 = 0) then 29 else 28)
  else if m = 4 ∨ m = 6 ∨ m = 9 ∨ m = 11 then 30 else 31

/-- `n` as exactly `w` decimal digits (the low ones). -/
def padDigits : Nat → Nat → List Char
  | 0, _ => []
  | w + 1, n => padDigits w (n / 10) ++ [Char.ofNat ('0'.toNat + n % 10)]

/-- Drop trailing `'0'`s. -/
def trimZeros (cs : List Char) : List Char := (cs.reverse.dropWhile (· = '0')).reverse

/-- `time.Time.MarshalJSON` of an instant, in nanoseconds from the Unix epoch: the UTC RFC 3339
text with nanoseconds, trailing zeros of the fraction removed; `none` outside years 0 to 9999,
where the source fails to marshal. -/
def formatRFC3339 (t : ℤ) : Option (List Char) :=
  let secs := t / 1000000000
  let ns := (t % 1000000000).toNat
  let sod := (secs % 86400).toNat
  let (y, m, d) := civilFromDays (secs / 86400)
  if y < 0 ∨ y > 9999 then none
  else
    some (padDigits 4 y.toNat ++ '-' :: padDigits 2 m ++ '-' :: padDigits 2 d ++ 'T' ::
      padDigits 2 (sod / 3600) ++ ':' :: padDigits 2 (sod / 60 % 60) ++ ':' ::
      padDigits 2 (sod % 60) ++ (if ns = 0 then [] else '.' :: trimZeros (padDigits 9 ns)) ++
      ['Z'])

/-- The value of a list of decimal digits. -/
def digitsValue (cs : List Char) : Option Nat :=
  cs.foldlM (fun acc c => if c.isDigit then some (acc * 10 + (c.toNat - '0'.toNat)) else none) 0

/-- An optional fraction of a second, as nanoseconds; digits past the ninth are dropped. -/
def parseFraction : List Char → Option (Nat × List Char)
  | '.' :: rest =>
    let ds := rest.takeWhile Char.isDigit
    if ds = [] then none
    else (digitsValue ((ds ++ List.replicate 9 '0').take 9)).map (·, rest.drop ds.length)
  | cs => some (0, cs)

/-- The zone of an RFC 3339 text as an offset east of UTC in seconds: `Z`, or a sign, hours
below 24 and minutes below 60. -/
def parseZone : List Char → Option ℤ
  | ['Z'] => some 0
  | [sgn, h1, h2, ':', m1, m2] => do
    let h ← digitsValue [h1, h2]
    let m ← digitsValue [m1, m2]
    if h < 24 ∧ m < 60 then
      if sgn = '+' then some ((h * 3600 + m * 60 : Nat) : ℤ)
      else if sgn = '-' then some (-((h * 3600 + m * 60 : Nat) : ℤ))
      else none
    else none
  | _ => none

/-- `time.Time.UnmarshalJSON`'s strict RFC 3339 parse of a string's contents, in nanoseconds
from the Unix epoch. -/
def parseRFC3339 : List Char → Option ℤ
  | y1 :: y2 :: y3 :: y4 :: '-' :: m1 :: m2 :: '-' :: d1 :: d2 :: 'T' ::
      h1 :: h2 :: ':' :: n1 :: n2 :: ':' :: s1 :: s2 :: rest => do
    let y ← digitsValue [y1, y2, y3, y4]
    let mo ← digitsValue [m1, m2]
    let d ← digitsValue [d1, d2]
    let h ← digitsValue [h1, h2]
    let mi ← digitsValue [n1, n2]
    let s ← digitsValue [s1, s2]
    if 1 ≤ mo ∧ mo ≤ 12 ∧ 1 ≤ d ∧ d ≤ daysIn y mo ∧ h < 24 ∧ mi < 60 ∧ s < 60 then
      let (ns, rest) ← parseFraction rest
      let off ← parseZone rest
      some ((daysFromCivil y mo d * 86400 + ((h * 3600 + mi * 60 + s : Nat) : ℤ) - off) *
        1000000000 + ns)
    else none
  | _ => none

end ArbitrageEngine.Encoding
