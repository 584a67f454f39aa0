import SentinelFlow.GoLib.JsonStruct
import SentinelFlow.Ipc.Frame

/-!
# Request and response envelopes

The payloads of the executor's socket: JSON objects that carry byte strings as
base64url texts.  A decoded envelope is compared with what marshalling its wire
form would produce; the base64url texts inside are not compared with what
encoding their bytes would produce, and the decoder skips line breaks.
-/

namespace SentinelFlow.Ipc

open GoLib

def requestEnvelopeSchemaVersion : Bytes := ascii "executor-request-envelope-v1"

def recoveryRequestSchemaVersion : Bytes :=
  ascii "executor-recovery-request-envelope-v1"

def responseEnvelopeSchemaVersion : Bytes :=
  ascii "executor-response-envelope-v1"

def maxEncodedFieldLength : Nat := 21846

structure RequestEnvelope where
  capabilityJCS : Bytes
  capabilitySignature : Bytes
  artifact : Bytes
  recoveryOnly : Bool
deriving DecidableEq, Repr

structure ResponseEnvelope where
  resultJCS : Bytes
  resultSignature : Bytes
deriving DecidableEq, Repr

structure RequestEnvelopeWire where
  artifactB64URL : Bytes := []
  capabilityJCSB64URL : Bytes := []
  capabilitySignatureB64URL : Bytes := []
  schemaVersion : Bytes := []
deriving DecidableEq, Repr

structure ResponseEnvelopeWire where
  resultJCSB64URL : Bytes := []
  resultSignatureB64URL : Bytes := []
  schemaVersion : Bytes := []
deriving DecidableEq, Repr

def requestFields : List (Json.Field RequestEnvelopeWire) :=
  [.text (ascii "artifact_b64url") (·.artifactB64URL)
      (fun wire text => { wire with artifactB64URL := text }),
    .text (ascii "capability_jcs_b64url") (·.capabilityJCSB64URL)
      (fun wire text => { wire with capabilityJCSB64URL := text }),
    .text (ascii "capability_signature_b64url") (·.capabilitySignatureB64URL)
      (fun wire text => { wire with capabilitySignatureB64URL := text }),
    .text (ascii "schema_version") (·.schemaVersion)
      (fun wire text => { wire with schemaVersion := text })]

def responseFields : List (Json.Field ResponseEnvelopeWire) :=
  [.text (ascii "result_jcs_b64url") (·.resultJCSB64URL)
      (fun wire text => { wire with resultJCSB64URL := text }),
    .text (ascii "result_signature_b64url") (·.resultSignatureB64URL)
      (fun wire text => { wire with resultSignatureB64URL := text }),
    .text (ascii "schema_version") (·.schemaVersion)
      (fun wire text => { wire with schemaVersion := text })]

/-- A JSON object without surrounding space.  A text that is one also decodes
into a map of raw members. -/
def validJSONObject (value : Bytes) : Bool :=
  decide (2 ≤ value.length) && value.head? == some (charByte '\x7b') &&
    value.getLast? == some (charByte '\x7d') &&
    match Json.parse value with
    | some (.object _) => true
    | _ => false

/-- The condition of both constructors and both encoders of requests. -/
def validRequest (value : RequestEnvelope) : Bool :=
  validJSONObject value.capabilityJCS &&
    value.capabilitySignature.length == 64 && value.artifact != []

def validResponse (value : ResponseEnvelope) : Bool :=
  validJSONObject value.resultJCS && value.resultSignature.length == 64

def newRequestEnvelope (capabilityJCS signature artifact : Bytes)
    (recoveryOnly : Bool) : Except ErrorCode RequestEnvelope :=
  let value : RequestEnvelope :=
    ⟨capabilityJCS, signature, artifact, recoveryOnly⟩
  if ¬ validRequest value then .error .envelopeInvalid else .ok value

def newResponseEnvelope (resultJCS signature : Bytes) :
    Except ErrorCode ResponseEnvelope :=
  let value : ResponseEnvelope := ⟨resultJCS, signature⟩
  if ¬ validResponse value then .error .envelopeInvalid else .ok value

/-- `marshalBoundedEnvelope` after `json.Marshal`, which cannot fail here. -/
def marshalBoundedEnvelope (payload : Bytes) : Except ErrorCode Bytes :=
  match validateFramePayload payload with
  | .error code => .error code
  | .ok _ => .ok payload

def requestWire (value : RequestEnvelope) : RequestEnvelopeWire :=
  { artifactB64URL := Base64.encode value.artifact
    capabilityJCSB64URL := Base64.encode value.capabilityJCS
    capabilitySignatureB64URL := Base64.encode value.capabilitySignature
    schemaVersion :=
      if value.recoveryOnly then recoveryRequestSchemaVersion
      else requestEnvelopeSchemaVersion }

def encodeRequestEnvelope (value : RequestEnvelope) :
    Except ErrorCode Bytes :=
  if ¬ validRequest value then .error .envelopeInvalid
  else marshalBoundedEnvelope
    (Json.marshalStruct requestFields (requestWire value))

def responseWire (value : ResponseEnvelope) : ResponseEnvelopeWire :=
  { resultJCSB64URL := Base64.encode value.resultJCS
    resultSignatureB64URL := Base64.encode value.resultSignature
    schemaVersion := responseEnvelopeSchemaVersion }

def encodeResponseEnvelope (value : ResponseEnvelope) :
    Except ErrorCode Bytes :=
  if ¬ validResponse value then .error .envelopeInvalid
  else marshalBoundedEnvelope
    (Json.marshalStruct responseFields (responseWire value))

def decodeRawURLField (text : Bytes) : Except ErrorCode Bytes :=
  if text = [] ∨ text.length > maxEncodedFieldLength then
    .error .envelopeInvalid
  else match Base64.decode true text with
  | none => .error .envelopeInvalid
  | some decoded => .ok decoded

/-- The signature field: 86 symbols for 64 bytes. -/
def decodeSignatureField (text : Bytes) : Except ErrorCode Bytes :=
  match decodeRawURLField text with
  | .error _ => .error .envelopeInvalid
  | .ok signature =>
      if text.length ≠ 86 ∨ signature.length ≠ 64 then .error .envelopeInvalid
      else .ok signature

/-- The head of both decoders: the wire form of a payload in its canonical
spelling, with a schema version that is expected. -/
def decodeWire {Wire : Type} (fields : List (Json.Field Wire)) (zero : Wire)
    (schemaVersion : Wire → Bytes) (expected : List Bytes)
    (payload : Bytes) : Except ErrorCode Wire :=
  if payload = [] ∨ payload.length > maxFramePayloadBytes ∨
      ¬ Json.valid payload then
    .error .envelopeInvalid
  else match Json.unmarshal fields false zero payload with
  | none => .error .envelopeInvalid
  | some wire =>
      if schemaVersion wire ∉ expected then .error .envelopeInvalid
      else if Json.marshalStruct fields wire ≠ payload then
        .error .envelopeNonCanonical
      else .ok wire

def decodeRequestEnvelope (payload : Bytes) :
    Except ErrorCode RequestEnvelope :=
  match decodeWire requestFields {} (·.schemaVersion)
      [requestEnvelopeSchemaVersion, recoveryRequestSchemaVersion] payload with
  | .error code => .error code
  | .ok wire =>
      match decodeRawURLField wire.capabilityJCSB64URL with
      | .error code => .error code
      | .ok capability =>
          if ¬ validJSONObject capability then .error .envelopeInvalid
          else match decodeSignatureField wire.capabilitySignatureB64URL with
          | .error code => .error code
          | .ok signature =>
              match decodeRawURLField wire.artifactB64URL with
              | .error code => .error code
              | .ok artifact =>
                  if artifact = [] then .error .envelopeInvalid
                  else newRequestEnvelope capability signature artifact
                    (wire.schemaVersion == recoveryRequestSchemaVersion)

def decodeResponseEnvelope (payload : Bytes) :
    Except ErrorCode ResponseEnvelope :=
  match decodeWire responseFields {} (·.schemaVersion)
      [responseEnvelopeSchemaVersion] payload with
  | .error code => .error code
  | .ok wire =>
      match decodeRawURLField wire.resultJCSB64URL with
      | .error code => .error code
      | .ok result =>
          if ¬ validJSONObject result then .error .envelopeInvalid
          else match decodeSignatureField wire.resultSignatureB64URL with
          | .error code => .error code
          | .ok signature => newResponseEnvelope result signature

/-! ## Fields -/

/-- A text without the line breaks that the base64url decoder skips. -/
def Unbroken (text : Bytes) : Prop :=
  ∀ byte ∈ text, Base64.isSkipped byte = false

variable {bytes payload : Bytes} {expected : List Bytes}
  {value : RequestEnvelope}

theorem decodeRawURLField_eq_ok_iff {text : Bytes} :
    decodeRawURLField text = .ok bytes ↔
      text ≠ [] ∧ text.length ≤ maxEncodedFieldLength ∧
        Base64.decode true text = some bytes := by
  unfold decodeRawURLField
  constructor
  · intro accepted
    split at accepted
    · cases accepted
    next shape =>
    rw [not_or, Nat.not_lt] at shape
    split at accepted
    · cases accepted
    next decoded =>
      cases accepted
      exact ⟨shape.1, shape.2, decoded⟩
  · rintro ⟨nonempty, short, decoded⟩
    rw [if_neg (by simp [nonempty, short]), decoded]

theorem decodeRawURLField_encode
    (nonempty : bytes ≠ [])
    (short : (Base64.encode bytes).length ≤ maxEncodedFieldLength) :
    decodeRawURLField (Base64.encode bytes) = .ok bytes :=
  decodeRawURLField_eq_ok_iff.mpr
    ⟨fun empty => nonempty (Base64.encode_eq_nil_iff.mp empty), short,
      Base64.decode_encode true bytes⟩

theorem decodeSignatureField_encode
    {signature : Bytes} (length : signature.length = 64) :
    decodeSignatureField (Base64.encode signature) = .ok signature := by
  have symbols : (Base64.encode signature).length = 86 := by
    rw [Base64.length_encode, length]
  have nonempty : signature ≠ [] := by
    rintro rfl
    cases length
  rw [decodeSignatureField, decodeRawURLField_encode nonempty
    (by rw [symbols]; decide)]
  simp [symbols, length]

/-- The length of a signature field leaves no room for a line break. -/
theorem encode_of_decodeSignatureField
    {text signature : Bytes}
    (accepted : decodeSignatureField text = .ok signature) :
    Base64.encode signature = text ∧ signature.length = 64 := by
  unfold decodeSignatureField at accepted
  split at accepted
  · cases accepted
  next decoded =>
  split at accepted
  · cases accepted
  next sizes =>
    cases accepted
    simp only [not_or, not_not] at sizes
    obtain ⟨-, -, decoded⟩ := decodeRawURLField_eq_ok_iff.mp decoded
    refine ⟨?_, sizes.2⟩
    have kept := Base64.encode_of_decode decoded
    have length : (text.filter fun byte =>
        !Base64.isSkipped byte).length = text.length := by
      rw [← kept, Base64.length_encode, sizes.2, sizes.1]
    rw [kept]
    exact List.filter_sublist.eq_of_length length

/-! ## The wire form -/

theorem decodeWire_eq_ok_iff
    {Wire : Type} {fields : List (Json.Field Wire)} {zero : Wire}
    {schemaVersion : Wire → Bytes} {wire : Wire} :
    decodeWire fields zero schemaVersion expected payload = .ok wire ↔
      payload ≠ [] ∧ payload.length ≤ maxFramePayloadBytes ∧
        Json.unmarshal fields false zero payload = some wire ∧
        schemaVersion wire ∈ expected ∧
        Json.marshalStruct fields wire = payload := by
  unfold decodeWire
  constructor
  · intro accepted
    split at accepted
    · cases accepted
    next shape =>
    split at accepted
    · cases accepted
    next found =>
    split at accepted
    · cases accepted
    next version =>
    split at accepted
    · cases accepted
    next canonical =>
      cases accepted
      simp only [not_or, not_not, Nat.not_lt] at shape version canonical
      exact ⟨shape.1, shape.2.1, found, version, canonical⟩
  · rintro ⟨nonempty, short, found, version, canonical⟩
    have parsed : Json.valid payload = true := by
      obtain ⟨value, parsed, -⟩ := Option.bind_eq_some_iff.mp found
      simp [Json.valid, parsed]
    rw [if_neg (by simp [nonempty, short, parsed]), found]
    simp [version, canonical]

theorem marshalBoundedEnvelope_eq_ok_iff {bounded : Bytes} :
    marshalBoundedEnvelope payload = .ok bounded ↔
      (payload ≠ [] ∧ payload.length ≤ maxFramePayloadBytes) ∧
        bounded = payload := by
  rw [← validateFramePayload_eq_ok_iff]
  unfold marshalBoundedEnvelope
  constructor
  · intro accepted
    split at accepted
    · cases accepted
    next valid =>
      cases accepted
      exact ⟨valid, rfl⟩
  · rintro ⟨valid, rfl⟩
    rw [valid]

/-- A written wire form of bounded size is read back. -/
theorem decodeWire_marshalStruct
    {Wire : Type} {fields : List (Json.Field Wire)} {zero wire : Wire}
    {schemaVersion : Wire → Bytes}
    (complete : Json.Complete fields zero)
    (fits : ∀ field ∈ fields, field.Fits wire)
    (version : schemaVersion wire ∈ expected)
    (bounded : marshalBoundedEnvelope (Json.marshalStruct fields wire) =
      .ok payload) :
    decodeWire fields zero schemaVersion expected payload = .ok wire := by
  obtain ⟨⟨nonempty, short⟩, rfl⟩ :=
    marshalBoundedEnvelope_eq_ok_iff.mp bounded
  exact decodeWire_eq_ok_iff.mpr ⟨nonempty, short,
    Json.unmarshal_marshalStruct complete false fits, version, rfl⟩

/-- An accepted payload is the encoding of a wire form that fits exactly if it
was decoded to that wire form. -/
theorem bounded_eq_iff
    {Wire : Type} {fields : List (Json.Field Wire)} {zero wire other : Wire}
    {schemaVersion : Wire → Bytes}
    (complete : Json.Complete fields zero)
    (fits : ∀ field ∈ fields, field.Fits other)
    (accepted : decodeWire fields zero schemaVersion expected payload =
      .ok wire) :
    marshalBoundedEnvelope (Json.marshalStruct fields other) = .ok payload ↔
      other = wire := by
  obtain ⟨nonempty, short, found, -, canonical⟩ :=
    decodeWire_eq_ok_iff.mp accepted
  rw [marshalBoundedEnvelope_eq_ok_iff]
  constructor
  · rintro ⟨-, rfl⟩
    rw [Json.unmarshal_marshalStruct complete false fits] at found
    exact Option.some.inj found
  · rintro rfl
    rw [canonical]
    exact ⟨⟨nonempty, short⟩, rfl⟩

/-- A field of a bounded payload is short enough for its decoder. -/
theorem length_encode_le
    {Wire : Type} {fields : List (Json.Field Wire)} {wire : Wire}
    (bounded : marshalBoundedEnvelope (Json.marshalStruct fields wire) =
      .ok payload)
    {field : Json.Field Wire} (member : field ∈ fields)
    (text : field.toJson wire = .string (Base64.encode bytes)) :
    (Base64.encode bytes).length ≤ maxEncodedFieldLength := by
  obtain ⟨⟨-, short⟩, rfl⟩ := marshalBoundedEnvelope_eq_ok_iff.mp bounded
  have within : (Json.marshal (field.toJson wire)).length ≤ _ :=
    Json.length_le_marshalStruct member
  rw [text, Json.marshal, Json.quote_plain (Json.plain_base64 bytes)] at within
  simp only [List.length_cons, List.length_append, List.length_nil] at within
  rw [maxFramePayloadBytes] at short
  rw [maxEncodedFieldLength]
  omega

/-! ## Requests -/

private theorem requestFields_complete : Json.Complete requestFields {} where
  distinct := Json.distinctNames_iff.mp (by decide +kernel)
  covers value := by
    simp only [requestFields, List.foldl_cons, List.foldl_nil, Json.Field.text]

private theorem fits_requestWire (value : RequestEnvelope) :
    ∀ field ∈ requestFields, field.Fits (requestWire value) := by
  have plain : Json.Plain recoveryRequestSchemaVersion ∧
      Json.Plain requestEnvelopeSchemaVersion := by
    decide +kernel
  simp only [requestFields, List.forall_mem_cons, List.not_mem_nil,
    false_implies, implies_true, and_true]
  refine ⟨Json.plain_base64 _, Json.plain_base64 _, Json.plain_base64 _, ?_⟩
  unfold requestWire Json.Field.text
  dsimp only
  split
  · exact plain.1
  · exact plain.2

theorem validRequest_iff :
    validRequest value = true ↔
      validJSONObject value.capabilityJCS = true ∧
        value.capabilitySignature.length = 64 ∧ value.artifact ≠ [] := by
  simp [validRequest, and_assoc]

theorem ne_nil_of_validJSONObject
    {value : Bytes} (valid : validJSONObject value = true) : value ≠ [] := by
  rintro rfl
  cases valid

private theorem requestVersions_distinct :
    requestEnvelopeSchemaVersion ≠ recoveryRequestSchemaVersion := by
  decide +kernel

theorem encodeRequestEnvelope_eq_ok_iff :
    encodeRequestEnvelope value = .ok payload ↔
      validRequest value = true ∧ marshalBoundedEnvelope
        (Json.marshalStruct requestFields (requestWire value)) =
          .ok payload := by
  unfold encodeRequestEnvelope
  split
  next invalid => simp [invalid]
  next valid => simp [not_not.mp valid]

/-- What the encoder writes is decoded to the same envelope. -/
theorem decodeRequestEnvelope_encode
    (encoded : encodeRequestEnvelope value = .ok payload) :
    decodeRequestEnvelope payload = .ok value := by
  obtain ⟨valid, bounded⟩ := encodeRequestEnvelope_eq_ok_iff.mp encoded
  obtain ⟨object, signature, artifact⟩ := validRequest_iff.mp valid
  have wire : decodeWire requestFields {} (·.schemaVersion)
      [requestEnvelopeSchemaVersion, recoveryRequestSchemaVersion] payload =
        .ok (requestWire value) := by
    apply decodeWire_marshalStruct requestFields_complete
      (fits_requestWire value) _ bounded
    cases recovery : value.recoveryOnly <;> simp [requestWire, recovery]
  have capabilityField := decodeRawURLField_encode
    (ne_nil_of_validJSONObject object)
    (length_encode_le bounded (List.mem_cons_of_mem _ List.mem_cons_self) rfl)
  have artifactField := decodeRawURLField_encode artifact
    (length_encode_le bounded List.mem_cons_self rfl)
  have recovery : ((requestWire value).schemaVersion ==
      recoveryRequestSchemaVersion) = value.recoveryOnly := by
    cases recovery : value.recoveryOnly <;>
      simp [requestWire, recovery, requestVersions_distinct]
  unfold decodeRequestEnvelope
  rw [wire]
  dsimp only
  rw [recovery]
  dsimp only [requestWire]
  rw [capabilityField, decodeSignatureField_encode signature, artifactField]
  simp [object, artifact, newRequestEnvelope, valid]

/-- What an accepted request says about its wire form. -/
structure DecodedRequest (payload : Bytes) (value : RequestEnvelope)
    (wire : RequestEnvelopeWire) : Prop where
  wire_eq : decodeWire requestFields {} (·.schemaVersion)
    [requestEnvelopeSchemaVersion, recoveryRequestSchemaVersion] payload =
      .ok wire
  capability : Base64.decode true wire.capabilityJCSB64URL =
    some value.capabilityJCS
  signature : Base64.encode value.capabilitySignature =
    wire.capabilitySignatureB64URL
  artifact : Base64.decode true wire.artifactB64URL = some value.artifact
  version : (requestWire value).schemaVersion = wire.schemaVersion
  valid : validRequest value = true

theorem decodeRequestEnvelope_eq_ok
    (accepted : decodeRequestEnvelope payload = .ok value) :
    ∃ wire, DecodedRequest payload value wire := by
  unfold decodeRequestEnvelope at accepted
  split at accepted
  · cases accepted
  next wire found =>
  split at accepted
  · cases accepted
  next capability capabilityField =>
  split at accepted
  · cases accepted
  split at accepted
  · cases accepted
  next signature signatureField =>
  split at accepted
  · cases accepted
  next artifact artifactField =>
  split at accepted
  · cases accepted
  unfold newRequestEnvelope at accepted
  dsimp only at accepted
  split at accepted
  · cases accepted
  next valid =>
    cases accepted
    obtain ⟨-, -, -, version, -⟩ := decodeWire_eq_ok_iff.mp found
    refine ⟨wire, found, (decodeRawURLField_eq_ok_iff.mp capabilityField).2.2,
      (encode_of_decodeSignatureField signatureField).1,
      (decodeRawURLField_eq_ok_iff.mp artifactField).2.2, ?_, not_not.mp valid⟩
    by_cases recovery : wire.schemaVersion = recoveryRequestSchemaVersion
    · simp [requestWire, recovery]
    · have ordinary : wire.schemaVersion = requestEnvelopeSchemaVersion := by
        simpa [recovery] using version
      simp [requestWire, ordinary, requestVersions_distinct]

/-- An accepted request is the encoding of its value exactly if its base64url
texts are unbroken. -/
theorem encodeRequestEnvelope_decode_iff
    {wire : RequestEnvelopeWire}
    (decoded : DecodedRequest payload value wire) :
    encodeRequestEnvelope value = .ok payload ↔
      Unbroken wire.artifactB64URL ∧ Unbroken wire.capabilityJCSB64URL := by
  rw [encodeRequestEnvelope_eq_ok_iff,
    bounded_eq_iff requestFields_complete (fits_requestWire value)
      decoded.wire_eq, Unbroken, Unbroken,
    ← Base64.encode_eq_iff_of_decode decoded.artifact,
    ← Base64.encode_eq_iff_of_decode decoded.capability]
  have version := decoded.version
  have signature := decoded.signature
  constructor
  · rintro ⟨-, same⟩
    rw [← same]
    exact ⟨rfl, rfl⟩
  · rintro ⟨artifact, capability⟩
    refine ⟨decoded.valid, ?_⟩
    cases wire
    simp_all [requestWire]

/-! ## Responses -/

private theorem responseFields_complete :
    Json.Complete responseFields {} where
  distinct := Json.distinctNames_iff.mp (by decide +kernel)
  covers value := by
    simp only [responseFields, List.foldl_cons, List.foldl_nil,
      Json.Field.text]

private theorem fits_responseWire (value : ResponseEnvelope) :
    ∀ field ∈ responseFields, field.Fits (responseWire value) := by
  have plain : Json.Plain responseEnvelopeSchemaVersion := by
    decide +kernel
  simp only [responseFields, List.forall_mem_cons, List.not_mem_nil,
    false_implies, implies_true, and_true]
  exact ⟨Json.plain_base64 _, Json.plain_base64 _, plain⟩

theorem encodeResponseEnvelope_eq_ok_iff
    {value : ResponseEnvelope} :
    encodeResponseEnvelope value = .ok payload ↔
      validResponse value = true ∧ marshalBoundedEnvelope
        (Json.marshalStruct responseFields (responseWire value)) =
          .ok payload := by
  unfold encodeResponseEnvelope
  split
  next invalid => simp [invalid]
  next valid => simp [not_not.mp valid]

theorem decodeResponseEnvelope_encode
    {value : ResponseEnvelope}
    (encoded : encodeResponseEnvelope value = .ok payload) :
    decodeResponseEnvelope payload = .ok value := by
  obtain ⟨valid, bounded⟩ := encodeResponseEnvelope_eq_ok_iff.mp encoded
  have parts := valid
  rw [validResponse, Bool.and_eq_true, beq_iff_eq] at parts
  obtain ⟨object, signature⟩ := parts
  have wire : decodeWire responseFields {} (·.schemaVersion)
      [responseEnvelopeSchemaVersion] payload =
        .ok (responseWire value) := by
    apply decodeWire_marshalStruct responseFields_complete
      (fits_responseWire value) _ bounded
    exact List.mem_cons_self
  have resultField := decodeRawURLField_encode
    (ne_nil_of_validJSONObject object)
    (length_encode_le bounded List.mem_cons_self rfl)
  unfold decodeResponseEnvelope
  rw [wire]
  dsimp only [responseWire]
  rw [resultField, decodeSignatureField_encode signature]
  simp [object, newResponseEnvelope, valid]

/-- What an accepted response says about its wire form. -/
structure DecodedResponse (payload : Bytes) (value : ResponseEnvelope)
    (wire : ResponseEnvelopeWire) : Prop where
  wire_eq : decodeWire responseFields {} (·.schemaVersion)
    [responseEnvelopeSchemaVersion] payload = .ok wire
  result : Base64.decode true wire.resultJCSB64URL = some value.resultJCS
  signature : Base64.encode value.resultSignature = wire.resultSignatureB64URL
  version : wire.schemaVersion = responseEnvelopeSchemaVersion
  valid : validResponse value = true

theorem decodeResponseEnvelope_eq_ok
    {value : ResponseEnvelope}
    (accepted : decodeResponseEnvelope payload = .ok value) :
    ∃ wire, DecodedResponse payload value wire := by
  unfold decodeResponseEnvelope at accepted
  split at accepted
  · cases accepted
  next wire found =>
  split at accepted
  · cases accepted
  next result resultField =>
  split at accepted
  · cases accepted
  split at accepted
  · cases accepted
  next signature signatureField =>
  unfold newResponseEnvelope at accepted
  dsimp only at accepted
  split at accepted
  · cases accepted
  next valid =>
    cases accepted
    obtain ⟨-, -, -, version, -⟩ := decodeWire_eq_ok_iff.mp found
    exact ⟨wire, found, (decodeRawURLField_eq_ok_iff.mp resultField).2.2,
      (encode_of_decodeSignatureField signatureField).1,
      List.mem_singleton.mp version, not_not.mp valid⟩

theorem encodeResponseEnvelope_decode_iff
    {value : ResponseEnvelope} {wire : ResponseEnvelopeWire}
    (decoded : DecodedResponse payload value wire) :
    encodeResponseEnvelope value = .ok payload ↔
      Unbroken wire.resultJCSB64URL := by
  rw [encodeResponseEnvelope_eq_ok_iff,
    bounded_eq_iff responseFields_complete (fits_responseWire value)
      decoded.wire_eq, Unbroken,
    ← Base64.encode_eq_iff_of_decode decoded.result]
  have version := decoded.version
  have signature := decoded.signature
  constructor
  · rintro ⟨-, same⟩
    rw [← same]
    rfl
  · intro result
    refine ⟨decoded.valid, ?_⟩
    cases wire
    simp_all [responseWire]

/-! ## Canonicality -/

/-- Envelopes and frames are decoded as they were encoded.  A payload that is
accepted is the encoding of its value exactly if the base64url texts in it,
other than the signature, hold no line break. -/
theorem envelopes_canonical_iff (payload : Bytes) :
    (∀ value, encodeRequestEnvelope value = .ok payload →
      decodeRequestEnvelope payload = .ok value) ∧
    (∀ value, decodeRequestEnvelope payload = .ok value →
      ∃ wire, Json.unmarshal requestFields false {} payload = some wire ∧
        (encodeRequestEnvelope value = .ok payload ↔
          Unbroken wire.artifactB64URL ∧
            Unbroken wire.capabilityJCSB64URL)) ∧
    (∀ value, encodeResponseEnvelope value = .ok payload →
      decodeResponseEnvelope payload = .ok value) ∧
    (∀ value, decodeResponseEnvelope payload = .ok value →
      ∃ wire, Json.unmarshal responseFields false {} payload = some wire ∧
        (encodeResponseEnvelope value = .ok payload ↔
          Unbroken wire.resultJCSB64URL)) ∧
    ∀ reader, readSingleFrame reader = .ok payload ↔
      ∃ frame, encodeFrame payload = .ok frame ∧
        reader = some ⟨frame, .eof⟩ := by
  refine ⟨fun _ => decodeRequestEnvelope_encode, ?_,
    fun _ => decodeResponseEnvelope_encode, ?_,
    fun _ => readSingleFrame_eq_ok_iff⟩
  · intro value accepted
    obtain ⟨wire, decoded⟩ := decodeRequestEnvelope_eq_ok accepted
    exact ⟨wire, (decodeWire_eq_ok_iff.mp decoded.wire_eq).2.2.1,
      encodeRequestEnvelope_decode_iff decoded⟩
  · intro value accepted
    obtain ⟨wire, decoded⟩ := decodeResponseEnvelope_eq_ok accepted
    exact ⟨wire, (decodeWire_eq_ok_iff.mp decoded.wire_eq).2.2.1,
      encodeResponseEnvelope_decode_iff decoded⟩

/-- A request whose artifact text has an escaped line feed in it. -/
def brokenRequest : Bytes :=
  ascii "\x7b\"artifact_b64url\":\"Y\\nQ\"," ++
    ascii "\"capability_jcs_b64url\":\"e30\"," ++
    ascii "\"capability_signature_b64url\":\"" ++
    List.replicate 86 (charByte 'A') ++ ascii "\"," ++
    ascii "\"schema_version\":\"executor-request-envelope-v1\"\x7d"

/-- The line feed is accepted, and encoding the value again drops it. -/
theorem brokenRequest_accepted :
    decodeRequestEnvelope brokenRequest =
        .ok ⟨ascii "\x7b\x7d", List.replicate 64 0, ascii "a", false⟩ ∧
      encodeRequestEnvelope
          ⟨ascii "\x7b\x7d", List.replicate 64 0, ascii "a", false⟩ ≠
        .ok brokenRequest := by
  decide +kernel

end SentinelFlow.Ipc
