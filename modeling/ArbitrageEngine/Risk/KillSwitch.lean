import ArbitrageEngine.Encoding.RoundTrip
import ArbitrageEngine.Encoding.Timestamp

/-!
# Kill switch and its file

`risk.KillSwitch` holds a flag, a reason and an activation time, and writes all three to its
file as JSON on every `Activate` and `Deactivate` (`persistState`). `NewKillSwitch` adopts the
file's content when the file can be read and decoded (`loadState`); a missing file, a syntax
error or a field of the wrong type leaves the zero value, an inactive switch.

The file is the content the process last wrote, or `none` when it does not exist. Decoding
follows `json.Unmarshal` into `killSwitchState`: the document must be one JSON value, `null` or
an object; keys match the field tags `active`, `reason`, `activated_at` regardless of case, other
keys are ignored, `null` leaves a field as it is, and a value of the wrong type fails the whole
decode.

What `persistState` writes decodes to the record it wrote (`unmarshalState_marshalState`), so a
switch loaded from a complete write carries the record that was written
(`KillSwitch.loadState_marshalState`).
-/

set_option autoImplicit false

namespace ArbitrageEngine.Risk

open ArbitrageEngine.Encoding

/-- The zero `time.Time`, 0001-01-01T00:00:00Z, in nanoseconds from the Unix epoch. -/
def zeroTime : ℤ := -62135596800 * 1000000000

/-- `killSwitchState`: the record written to the file. -/
structure KillSwitchState where
  active : Bool
  reason : String
  activatedAt : ℤ
  deriving DecidableEq

/-- The zero `killSwitchState` that `json.Unmarshal` decodes into. -/
def KillSwitchState.zero : KillSwitchState := ⟨false, "", zeroTime⟩

/-- `risk.KillSwitch`. The activation time is a nanosecond count from the Unix epoch. -/
structure KillSwitch where
  active : Bool
  reason : String
  activatedAt : ℤ
  filePath : String

/-- The record `persistState` writes. -/
def KillSwitch.toState (ks : KillSwitch) : KillSwitchState := ⟨ks.active, ks.reason, ks.activatedAt⟩

/-! ## The file format -/

/-- `json.Marshal` of the record: `none` when the timestamp is out of range, in which case
`persistState` logs the error and writes nothing. -/
def marshalState (st : KillSwitchState) : Option (List Char) :=
  (formatRFC3339 st.activatedAt).map fun t =>
    "\x7b\"active\":".toList ++ (if st.active then "true" else "false").toList ++
      ",\"reason\":".toList ++ quoteString st.reason ++ ",\"activated_at\":\"".toList ++ t ++
      "\"\x7d".toList

/-- The field-name match of `json.Unmarshal`: equal up to the case of ASCII letters. -/
def fieldMatches (key tag : String) : Bool := key.toList.map Char.toLower == tag.toList

/-- One object member decoded into the record. -/
def decodeMember (st : KillSwitchState) : String × Json → Option KillSwitchState
  | (key, v) =>
    if fieldMatches key "active" then
      match v with
      | .null => some st
      | .bool b => some { st with active := b }
      | _ => none
    else if fieldMatches key "reason" then
      match v with
      | .null => some st
      | .string s => some { st with reason := s }
      | _ => none
    else if fieldMatches key "activated_at" then
      match v with
      | .null => some st
      | .string s => (parseRFC3339 s.toList).map fun t => { st with activatedAt := t }
      | _ => none
    else some st

/-- `json.Unmarshal` into a zero `killSwitchState`. -/
def unmarshalState (data : List Char) : Option KillSwitchState :=
  match parseDocument data with
  | some .null => some KillSwitchState.zero
  | some (.object members) => members.foldlM decodeMember KillSwitchState.zero
  | _ => none

/-! ## Operations -/

/-- `loadState`: adopt the file's record when it reads and decodes, else keep the switch. -/
def KillSwitch.loadState (ks : KillSwitch) (file : Option (List Char)) : KillSwitch :=
  match file.bind unmarshalState with
  | some st => { ks with active := st.active, reason := st.reason, activatedAt := st.activatedAt }
  | none => ks

/-- `NewKillSwitch`: a zero switch for the path, then `loadState`. -/
def newKillSwitch (filePath : String) (file : Option (List Char)) : KillSwitch :=
  KillSwitch.loadState ⟨false, "", zeroTime, filePath⟩ file

/-- `persistState`: the content written to the file, `none` when nothing is written. -/
def KillSwitch.persistState (ks : KillSwitch) : Option (List Char) := marshalState ks.toState

/-- `Activate` at clock reading `now`. -/
def KillSwitch.activate (ks : KillSwitch) (reason : String) (now : Nat) : KillSwitch :=
  { ks with active := true, reason := reason, activatedAt := now }

/-- `Deactivate`: the activation time is kept. -/
def KillSwitch.deactivate (ks : KillSwitch) : KillSwitch :=
  { ks with active := false, reason := "" }

@[simp] theorem KillSwitch.activate_active (ks : KillSwitch) (r : String) (t : Nat) :
    (ks.activate r t).active = true := rfl

@[simp] theorem KillSwitch.activate_reason (ks : KillSwitch) (r : String) (t : Nat) :
    (ks.activate r t).reason = r := rfl

@[simp] theorem KillSwitch.activate_activatedAt (ks : KillSwitch) (r : String) (t : Nat) :
    (ks.activate r t).activatedAt = t := rfl

@[simp] theorem KillSwitch.deactivate_active (ks : KillSwitch) : ks.deactivate.active = false := rfl

/-! ## Reading the file back

The encoder and the decoder of the file agree: the written text is one JSON object whose three
members the decoder finds in order, the strings come back through their escapes
(`parseValue_quoteString`) and the timestamp through its RFC 3339 text
(`parseRFC3339_formatRFC3339`). -/

/-- The text `marshalState` writes, member by member; the timestamp needs no escaping. -/
theorem marshalState_eq (st : KillSwitchState) (text : List Char)
    (h : formatRFC3339 st.activatedAt = some text) :
    marshalState st = some ('\x7b' :: (quoteString "active" ++ ':' ::
      ((if st.active then "true" else "false").toList ++ ',' :: (quoteString "reason" ++ ':' ::
        (quoteString st.reason ++ ',' :: (quoteString "activated_at" ++ ':' ::
          (quoteString (String.mk text) ++ ['\x7d']))))))) := by
  have hq : quoteString (String.mk text) = '"' :: (text ++ ['"']) := by
    show '"' :: (text.flatMap escapeChar ++ ['"']) = _
    rw [formatRFC3339_escape _ _ h]
  rw [marshalState, h, Option.map_some', hq]
  simp only [List.append_assoc, List.cons_append, List.singleton_append]
  rfl

/-- The text `marshalState` writes reads back as an object of its three members, whenever the
fuel covers the reason and the timestamp. -/
theorem parseValue_marshal (st : KillSwitchState) (text : List Char) (f : Nat)
    (hr : st.reason.length < f + 1) (ht : text.length < f) (h12 : 12 < f) :
    parseValue (f + 5) ('\x7b' :: (quoteString "active" ++ ':' ::
      ((if st.active then "true" else "false").toList ++ ',' :: (quoteString "reason" ++ ':' ::
        (quoteString st.reason ++ ',' :: (quoteString "activated_at" ++ ':' ::
          (quoteString (String.mk text) ++ ['\x7d']))))))) =
      some (.object [("active", .bool st.active), ("reason", .string st.reason),
        ("activated_at", .string (String.mk text))], []) := by
  rw [parseValue_object (f + 4),
    parseMembers_comma (f + 3) "active" _ _ _ [] (by show 6 < f + 3; omega) (parseValue_bool _ (f + 2) _),
    parseMembers_comma (f + 2) "reason" _ _ _ _ (by show 6 < f + 2; omega)
      (parseValue_quoteString st.reason (f + 1) _ hr),
    parseMembers_close (f + 1) "activated_at" _ _ _ _ (by show 12 < f + 1; omega)
      (parseValue_quoteString (String.mk text) f _ ht)]
  rfl

/-- **The file format round-trips.** Whatever `marshalState` writes, `unmarshalState` reads back
as the same record. -/
theorem unmarshalState_marshalState (st : KillSwitchState) (content : List Char)
    (h : marshalState st = some content) : unmarshalState content = some st := by
  obtain ⟨text, ht⟩ : ∃ text, formatRFC3339 st.activatedAt = some text := by
    cases hf : formatRFC3339 st.activatedAt with
    | none => simp [marshalState, hf] at h
    | some text => exact ⟨text, rfl⟩
  rw [marshalState_eq st text ht, Option.some.injEq] at h
  have hlen : st.reason.length + text.length + 16 < content.length := by
    have hr := length_quoteString st.reason
    have htx := length_quoteString (String.mk text)
    rw [← h]
    simp only [List.length_cons, List.length_append, show (quoteString "activated_at").length = 14 from rfl] at hr htx ⊢
    simp only [String.length] at hr htx ⊢
    omega
  obtain ⟨f, hf⟩ : ∃ f, content.length + 1 = f + 5 := ⟨content.length - 4, by omega⟩
  rw [unmarshalState, parseDocument, hf, ← h, parseValue_marshal st text f (by omega) (by omega) (by omega)]
  show ((parseRFC3339 text).map fun t => (⟨st.active, st.reason, t⟩ : KillSwitchState)).bind some = some st
  rw [parseRFC3339_formatRFC3339 _ _ ht]
  rfl

/-- A switch loaded from the text a record marshals to carries that record. -/
theorem KillSwitch.loadState_marshalState (ks : KillSwitch) (st : KillSwitchState)
    (content : List Char) (h : marshalState st = some content) :
    (ks.loadState (some content)).toState = st := by
  simp [KillSwitch.loadState, unmarshalState_marshalState _ _ h, KillSwitch.toState]

/-- `persistState` writes exactly when the activation time has a text. -/
theorem KillSwitch.persistState_isSome (ks : KillSwitch) :
    ks.persistState.isSome = (formatRFC3339 ks.activatedAt).isSome := by
  simp [KillSwitch.persistState, marshalState, KillSwitch.toState]

end ArbitrageEngine.Risk
