import SentinelFlow.GoLib.JsonStruct
import SentinelFlow.GoLib.Time
import SentinelFlow.Capability.Types
import SentinelFlow.Digest

/-!
# Strict canonical encodings

The identifier patterns of package `capability`, its strict JSON decoder and its
canonical instants.  Strict decoding accepts every object that the canonical
writer produces from fields that fit.
-/

namespace SentinelFlow.Capability

open GoLib

/-- `^[0-9a-f]{8}-[0-9a-f]{4}-[0-9a-f]{4}-[0-9a-f]{4}-[0-9a-f]{12}$` -/
def uuidPattern : Regexp :=
  .seq (.bracket lowerHexClass 8 8) (.seq (.literal (ascii "-"))
    (.seq (.bracket lowerHexClass 4 4) (.seq (.literal (ascii "-"))
      (.seq (.bracket lowerHexClass 4 4) (.seq (.literal (ascii "-"))
        (.seq (.bracket lowerHexClass 4 4) (.seq (.literal (ascii "-"))
          (.bracket lowerHexClass 12 12))))))))

/-- `[a-z0-9._-]` -/
def identifierClass (byte : UInt8) : Bool :=
  lowerAlnumClass byte || byte == charByte '.' || byte == charByte '_' ||
    byte == charByte '-'

/-- `^[a-z0-9][a-z0-9._-]{0,127}$` -/
def actorPattern : Regexp :=
  .seq (.bracket lowerAlnumClass 1 1) (.bracket identifierClass 0 127)

/-- `^[A-Za-z0-9_-]{22}$` -/
def noncePattern : Regexp :=
  .bracket base64urlClass 22 22

/-- Decodes one JSON object without unknown fields, repeated names at any depth
or trailing text.  Every failure has the same code, so the order of the tests
is not observable. -/
def strictDecode {S : Type} (fields : List (Json.Field S)) (zero : S)
    (maximum : Nat) (data : Bytes) : Except ErrorCode S :=
  if data = [] ∨ data.length > maximum ∨ ¬ Utf8.valid data then
    .error .encoding
  else match Json.parse data with
  | none => .error .encoding
  | some value =>
      if ¬ value.uniqueNames then .error .encoding
      else match Json.decode fields true zero value with
      | none => .error .encoding
      | some decoded => .ok decoded

/-- `parseCanonicalTime`: the layout has three fraction digits and ends in `Z`,
and only the text that formatting would produce is accepted. -/
def parseCanonicalTime (text : Bytes) : Option Int :=
  if text.getLast? ≠ some (charByte 'Z') ∨ text.length ≠ 24 then none
  else match Time.parse text with
  | none => none
  | some instant =>
      if ¬ Time.MillisecondAligned instant ∨ Time.format instant ≠ text then
        none
      else some instant

theorem plain_of_matchString
    {pattern : Regexp} {text : Bytes}
    (letters : ∀ byte : UInt8, pattern.letter byte = true →
      Json.plainByte byte = true)
    (matched : pattern.matchString text = true) : Json.Plain text :=
  fun byte member =>
    letters byte (Regexp.letter_of_matchString matched byte member)

/-- No letter of these texts needs an escape in JSON. -/
private theorem plain_letters :
    (∀ byte, uuidPattern.letter byte = true → Json.plainByte byte = true) ∧
    (∀ byte, digestPattern.letter byte = true → Json.plainByte byte = true) ∧
    (∀ byte, actorPattern.letter byte = true → Json.plainByte byte = true) ∧
    (∀ byte, noncePattern.letter byte = true → Json.plainByte byte = true) ∧
    (∀ byte : UInt8, (isDigit byte || byte == 46) = true →
      Json.plainByte byte = true) ∧
    ∀ byte : UInt8, isDigit byte = true ∨ byte ∈ Time.layout.map Prod.snd →
      Json.plainByte byte = true := by
  decide +kernel

theorem uuid_text
    {text : Bytes} (matched : uuidPattern.matchString text = true) :
    Json.Plain text ∧ text.length ≤ 36 :=
  ⟨plain_of_matchString plain_letters.1 matched,
    (Regexp.length_le_of_matchString matched).2⟩

theorem digest_text
    {text : Bytes} (matched : digestPattern.matchString text = true) :
    Json.Plain text ∧ text.length ≤ 71 :=
  ⟨plain_of_matchString plain_letters.2.1 matched,
    (Regexp.length_le_of_matchString matched).2⟩

theorem actor_text
    {text : Bytes} (matched : actorPattern.matchString text = true) :
    Json.Plain text ∧ text.length ≤ 128 :=
  ⟨plain_of_matchString plain_letters.2.2.1 matched,
    (Regexp.length_le_of_matchString matched).2⟩

theorem nonce_text
    {text : Bytes} (matched : noncePattern.matchString text = true) :
    Json.Plain text ∧ text.length ≤ 22 :=
  ⟨plain_of_matchString plain_letters.2.2.2.1 matched,
    (Regexp.length_le_of_matchString matched).2⟩

theorem address_text
    {text : Bytes} (canonical : IPv4.canonicalText text = true) :
    Json.Plain text ∧ text.length ≤ 15 := by
  obtain ⟨address, rfl⟩ := IPv4.canonicalText_iff.mp canonical
  have letters := plain_letters.2.2.2.2.1
  exact ⟨fun byte member => letters byte (IPv4.toText_letter member),
    (IPv4.length_toText address).2⟩

/-- An instant that the canonical layout can express. -/
structure Expressible (instant : Int) : Prop where
  lower : 1 ≤ Time.year instant
  upper : Time.year instant ≤ 9999
  aligned : Time.MillisecondAligned instant

theorem plain_format (instant : Int) : Json.Plain (Time.format instant) := by
  have letters := plain_letters.2.2.2.2.2
  exact fun byte member => letters byte (Time.mem_format member)

variable {instant : Int} {maximum : Nat}

theorem Expressible.text (expressible : Expressible instant) :
    Json.Plain (Time.format instant) ∧ (Time.format instant).length ≤ 24 := by
  refine ⟨plain_format instant, ?_⟩
  rw [Time.length_format expressible.lower expressible.upper]

theorem parseCanonicalTime_format
    (expressible : Expressible instant) :
    parseCanonicalTime (Time.format instant) = some instant := by
  have length := Time.length_format expressible.lower expressible.upper
  have parsed := Time.parse_format expressible.lower expressible.upper
    expressible.aligned
  have last := Time.getLast?_format instant
  rw [parseCanonicalTime, if_neg (by simp [last, length]; rfl), parsed]
  simp [expressible.aligned]

theorem format_of_parseCanonicalTime
    {text : Bytes}
    (parsed : parseCanonicalTime text = some instant) :
    Time.format instant = text ∧ Time.MillisecondAligned instant := by
  unfold parseCanonicalTime at parsed
  split at parsed
  · cases parsed
  split at parsed
  · cases parsed
  split at parsed
  · cases parsed
  next accepted =>
    simp only [not_or, not_not] at accepted
    cases parsed
    exact ⟨accepted.2, accepted.1⟩

theorem length_of_parseCanonicalTime
    {text : Bytes}
    (parsed : parseCanonicalTime text = some instant) : text.length = 24 := by
  unfold parseCanonicalTime at parsed
  split at parsed
  · cases parsed
  next shape =>
    rw [not_or, not_not, not_not] at shape
    exact shape.2

theorem length_of_strictDecode
    {S : Type} {fields : List (Json.Field S)} {zero decoded : S} {data : Bytes}
    (accepted : strictDecode fields zero maximum data = .ok decoded) :
    data.length ≤ maximum := by
  unfold strictDecode at accepted
  split at accepted
  · cases accepted
  next shape =>
    rw [not_or, not_or, Nat.not_lt] at shape
    exact shape.2.1

/-- Whatever is decoded from a written struct is that struct. -/
theorem eq_of_strictDecode_marshalStruct
    {S : Type} {fields : List (Json.Field S)} {zero value decoded : S}
    (complete : Json.Complete fields zero)
    (fits : ∀ field ∈ fields, field.Fits value)
    (accepted : strictDecode fields zero maximum
      (Json.marshalStruct fields value) = .ok decoded) : decoded = value := by
  have read := Json.unmarshal_marshalStruct complete true fits
  rw [Json.unmarshal, Json.parse_marshalStruct fits, Option.bind_some] at read
  unfold strictDecode at accepted
  split at accepted
  · cases accepted
  rw [Json.parse_marshalStruct fits] at accepted
  dsimp only at accepted
  split at accepted
  · cases accepted
  rw [read] at accepted
  cases accepted
  rfl

/-- What the canonical writer produces is decoded to the same struct. -/
theorem strictDecode_marshalStruct
    {S : Type} {fields : List (Json.Field S)} {zero value : S}
    {nameLimit itemLimit : Nat}
    (complete : Json.Complete fields zero)
    (names : ∀ field ∈ fields, field.name.length ≤ nameLimit)
    (within : ∀ field ∈ fields, field.Within itemLimit value)
    (room : 2 + fields.length * (nameLimit + itemLimit + 4) ≤ maximum) :
    strictDecode fields zero maximum (Json.marshalStruct fields value) =
      .ok value := by
  have fits : ∀ field ∈ fields, field.Fits value :=
    fun field member => (within field member).1
  have length := Json.length_marshalStruct_le names
    (fun field member => (within field member).2)
  have nonempty : Json.marshalStruct fields value ≠ [] := by
    simp [Json.marshalStruct, Json.toObject, Json.marshal]
  have valid : Utf8.valid (Json.marshalStruct fields value) = true :=
    Utf8.valid_ascii (Json.canonical_toObject fits 0).ascii
  have decoded := Json.unmarshal_marshalStruct complete true fits
  rw [Json.unmarshal, Json.parse_marshalStruct fits, Option.bind_some] at decoded
  rw [strictDecode, if_neg (by simp only [nonempty, valid]; simp; omega),
    Json.parse_marshalStruct fits]
  simp only [Json.uniqueNames_toObject complete.distinct, decoded,
    not_true_eq_false, if_false]

end SentinelFlow.Capability
