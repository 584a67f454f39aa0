import SentinelFlow.Capability.Canonical
import SentinelFlow.GoLib.Sha256
import SentinelFlow.Ipc.Envelope

/-!
# Requests to the validator

The payload that asks for the validation of a candidate.  It is compared with
what marshalling its wire form produces, and the nonce text with what encoding
its bytes produces; the candidate text is not.
-/

namespace SentinelFlow.NftValidator

open GoLib Ipc

def requestSchemaVersion : Bytes := ascii "nft-validator-request-v1"

def nonceBytes : Nat := 16

def maxCandidateBytes : Nat := 256

structure RequestWire where
  candidateB64URL : Bytes := []
  candidateDigest : Bytes := []
  nonceB64URL : Bytes := []
  schemaVersion : Bytes := []
deriving DecidableEq, Repr

def requestFields : List (Json.Field RequestWire) :=
  [.text (ascii "candidate_b64url") (·.candidateB64URL)
      (fun wire text => { wire with candidateB64URL := text }),
    .text (ascii "candidate_digest") (·.candidateDigest)
      (fun wire text => { wire with candidateDigest := text }),
    .text (ascii "nonce_b64url") (·.nonceB64URL)
      (fun wire text => { wire with nonceB64URL := text }),
    .text (ascii "schema_version") (·.schemaVersion)
      (fun wire text => { wire with schemaVersion := text })]

structure Request where
  candidate : Bytes
  candidateDigest : Bytes
  nonce : Bytes
deriving DecidableEq, Repr

inductive ErrorCode where
  | requestInvalid
  | responseInvalid
deriving DecidableEq, Repr

def byteOrderMark : Bytes := [0xEF, 0xBB, 0xBF]

/-- One line of printable ASCII with its line feed. -/
def validCandidateEnvelope (value : Bytes) : Bool :=
  if value = [] ∨ value.length > maxCandidateBytes ∨ ¬ Utf8.valid value ∨
      byteOrderMark.isPrefixOf value ∨ value.getLast? ≠ some 10 then false
  else (value.zipIdx.all fun (current, index) =>
    !(decide (current > 0x7E) || current == 0 || current == 13 ||
      current == 9 || (current == 10 && index != value.length - 1) ||
      (decide (current < 0x20) && current != 10)))

def validJSONPayload (payload : Bytes) : Bool :=
  payload != [] && decide (payload.length ≤ maxFramePayloadBytes) &&
    Utf8.valid payload && !byteOrderMark.isPrefixOf payload &&
    Json.valid payload

/-- `json.Marshal` does not fail on these wire forms. -/
def marshalBounded (payload : Bytes) : Except ErrorCode Bytes :=
  if payload = [] ∨ payload.length > maxFramePayloadBytes ∨
      ¬ Utf8.valid payload then .error .responseInvalid
  else .ok payload

/-- A valid JSON text is one value, so that the decoder is at its end after it. -/
def decodeExact (payload : Bytes) : Option RequestWire :=
  match Json.unmarshal requestFields true {} payload with
  | none => none
  | some wire =>
      if Json.marshalStruct requestFields wire ≠ payload then none
      else some wire

section Crypto

variable (crypto : Crypto)

def requestWire (candidate candidateDigest nonce : Bytes) : RequestWire :=
  { candidateB64URL := Base64.encode candidate
    candidateDigest
    nonceB64URL := Base64.encode nonce
    schemaVersion := requestSchemaVersion }

def encodeRequest (candidate candidateDigest nonce : Bytes) :
    Except ErrorCode Bytes :=
  if ¬ validCandidateEnvelope candidate ∨
      digestText crypto candidate ≠ candidateDigest ∨
      nonce.length ≠ nonceBytes then .error .requestInvalid
  else marshalBounded (Json.marshalStruct requestFields
    (requestWire candidate candidateDigest nonce))

/-- The candidate of a wire form. -/
def decodeCandidate (wire : RequestWire) : Option Bytes :=
  match Base64.decode true wire.candidateB64URL with
  | none => none
  | some candidate =>
      if ¬ validCandidateEnvelope candidate ∨
          digestText crypto candidate ≠ wire.candidateDigest then none
      else some candidate

/-- The nonce text, if it is the only spelling of sixteen bytes. -/
def decodeNonce (wire : RequestWire) : Option Bytes :=
  match Base64.decode true wire.nonceB64URL with
  | none => none
  | some nonce =>
      if nonce.length ≠ nonceBytes ∨
          Base64.encode nonce ≠ wire.nonceB64URL then none
      else some wire.nonceB64URL

def decodeRequest (payload : Bytes) : Except ErrorCode Request :=
  if ¬ validJSONPayload payload then .error .requestInvalid
  else match decodeExact payload with
  | none => .error .requestInvalid
  | some wire =>
      if wire.schemaVersion ≠ requestSchemaVersion ∨
          ¬ digestPattern.matchString wire.candidateDigest ∨
          wire.nonceB64URL.length ≠ 22 then .error .requestInvalid
      else match decodeCandidate crypto wire, decodeNonce wire with
      | some candidate, some nonce => .ok
          { candidate
            candidateDigest := wire.candidateDigest
            nonce }
      | _, _ => .error .requestInvalid

end Crypto

variable {crypto : Crypto} {payload : Bytes}

/-! ## What is written -/

private theorem fields_complete : Json.Complete requestFields {} where
  distinct := Json.distinctNames_iff.mp (by decide +kernel)
  covers value := by
    simp only [requestFields, List.foldl_cons, List.foldl_nil, Json.Field.text]

variable {candidate candidateDigest nonce : Bytes} {wire : RequestWire}

private theorem fits_wire
    (digest : digestPattern.matchString candidateDigest = true)
    (candidate nonce : Bytes) :
    ∀ field ∈ requestFields, field.Fits
      (requestWire candidate candidateDigest nonce) := by
  have version : Json.Plain requestSchemaVersion := by
    decide +kernel
  simp only [requestFields, List.forall_mem_cons, List.not_mem_nil,
    false_implies, implies_true, and_true]
  exact ⟨Json.plain_base64 _, (Capability.digest_text digest).1,
    Json.plain_base64 _, version⟩

theorem marshalBounded_eq_ok_iff {bounded : Bytes} :
    marshalBounded payload = .ok bounded ↔
      (payload ≠ [] ∧ payload.length ≤ maxFramePayloadBytes ∧
        Utf8.valid payload = true) ∧ payload = bounded := by
  unfold marshalBounded
  constructor
  · intro accepted
    split at accepted
    · cases accepted
    next shape =>
      cases accepted
      simp only [not_or, not_not, Nat.not_lt] at shape
      exact ⟨shape, rfl⟩
  · rintro ⟨⟨nonempty, short, valid⟩, rfl⟩
    rw [if_neg (by simp [nonempty, short, valid])]

theorem encodeRequest_eq_ok_iff :
    encodeRequest crypto candidate candidateDigest nonce = .ok payload ↔
      (validCandidateEnvelope candidate = true ∧
        digestText crypto candidate = candidateDigest ∧
        nonce.length = nonceBytes) ∧
      marshalBounded (Json.marshalStruct requestFields
        (requestWire candidate candidateDigest nonce)) = .ok payload := by
  unfold encodeRequest
  constructor
  · intro encoded
    split at encoded
    · cases encoded
    next valid =>
      simp only [not_or, not_not] at valid
      exact ⟨valid, encoded⟩
  · rintro ⟨⟨valid, digest, length⟩, encoded⟩
    rw [if_neg (by simp [valid, digest, length]), encoded]

/-! ## What is read -/

theorem decodeExact_eq_some_iff :
    decodeExact payload = some wire ↔
      Json.unmarshal requestFields true {} payload = some wire ∧
        Json.marshalStruct requestFields wire = payload := by
  unfold decodeExact
  constructor
  · intro accepted
    split at accepted
    · cases accepted
    next found =>
    split at accepted
    · cases accepted
    next canonical =>
      cases accepted
      exact ⟨found, not_not.mp canonical⟩
  · rintro ⟨found, canonical⟩
    rw [found]
    simp [canonical]

theorem decodeCandidate_eq_some_iff :
    decodeCandidate crypto wire = some candidate ↔
      Base64.decode true wire.candidateB64URL = some candidate ∧
        validCandidateEnvelope candidate = true ∧
        digestText crypto candidate = wire.candidateDigest := by
  unfold decodeCandidate
  constructor
  · intro accepted
    split at accepted
    · cases accepted
    next decoded =>
    split at accepted
    · cases accepted
    next valid =>
      cases accepted
      simp only [not_or, not_not] at valid
      exact ⟨decoded, valid⟩
  · rintro ⟨decoded, valid, digest⟩
    rw [decoded]
    simp [valid, digest]

theorem decodeNonce_eq_some_iff {text : Bytes} :
    decodeNonce wire = some text ↔
      wire.nonceB64URL = text ∧
        ∃ nonce, nonce.length = nonceBytes ∧ Base64.encode nonce = text := by
  unfold decodeNonce
  constructor
  · intro accepted
    split at accepted
    · cases accepted
    next nonce _ =>
    split at accepted
    · cases accepted
    next spelling =>
      cases accepted
      simp only [not_or, not_not] at spelling
      exact ⟨rfl, nonce, spelling⟩
  · rintro ⟨rfl, nonce, length, spelling⟩
    rw [← spelling, Base64.decode_encode]
    simp [length]

/-- What acceptance of a payload establishes. -/
structure Decoded (crypto : Crypto) (payload : Bytes) (value : Request)
    (wire : RequestWire) : Prop where
  payload_valid : validJSONPayload payload = true
  exact : decodeExact payload = some wire
  version : wire.schemaVersion = requestSchemaVersion
  pattern : digestPattern.matchString wire.candidateDigest = true
  nonceLength : wire.nonceB64URL.length = 22
  candidate : decodeCandidate crypto wire = some value.candidate
  nonce : decodeNonce wire = some value.nonce
  digest : value.candidateDigest = wire.candidateDigest

theorem decodeRequest_eq_ok_iff {value : Request} :
    decodeRequest crypto payload = .ok value ↔
      ∃ wire, Decoded crypto payload value wire := by
  unfold decodeRequest
  constructor
  · intro accepted
    split at accepted
    · cases accepted
    next payload_valid =>
    split at accepted
    · cases accepted
    next wire exact =>
    split at accepted
    · cases accepted
    next shape =>
    split at accepted
    next candidate nonce =>
      cases accepted
      simp only [not_or, not_not] at payload_valid shape
      exact ⟨wire, payload_valid, exact, shape.1, shape.2.1, shape.2.2,
        candidate, nonce, rfl⟩
    · cases accepted
  · rintro ⟨wire, decoded⟩
    have shape : ¬ (wire.schemaVersion ≠ requestSchemaVersion ∨
        ¬ digestPattern.matchString wire.candidateDigest ∨
        wire.nonceB64URL.length ≠ 22) := by
      simp [decoded.version, decoded.pattern, decoded.nonceLength]
    rw [if_neg (by simp [decoded.payload_valid]), decoded.exact]
    simp only [if_neg shape, decoded.candidate, decoded.nonce]
    rw [← decoded.digest]

/-! ## The two directions -/

private theorem valid_marshalStruct
    (fits : ∀ field ∈ requestFields, field.Fits wire)
    (short : (Json.marshalStruct requestFields wire).length ≤
      maxFramePayloadBytes)
    (utf8 : Utf8.valid (Json.marshalStruct requestFields wire) = true) :
    validJSONPayload (Json.marshalStruct requestFields wire) = true := by
  have parsed := Json.parse_marshalStruct fits
  have opening : (Json.marshalStruct requestFields wire).head? =
      some (charByte '\x7b') := rfl
  generalize Json.marshalStruct requestFields wire = text at *
  cases text with
  | nil => cases opening
  | cons first rest =>
      cases opening
      have unmarked : byteOrderMark.isPrefixOf
          (charByte '\x7b' :: rest) = false := rfl
      rw [List.length_cons] at short
      simp [validJSONPayload, short, utf8, unmarked, Json.valid, parsed]

/-- What is encoded is decoded to itself, with the nonce as text. -/
theorem decodeRequest_encodeRequest
    (encoded : encodeRequest crypto candidate candidateDigest nonce =
      .ok payload) :
    decodeRequest crypto payload =
      .ok ⟨candidate, candidateDigest, Base64.encode nonce⟩ := by
  obtain ⟨⟨valid, rfl, length⟩, bounded⟩ :=
    encodeRequest_eq_ok_iff.mp encoded
  obtain ⟨⟨-, short, utf8⟩, rfl⟩ := marshalBounded_eq_ok_iff.mp bounded
  have pattern := digestPattern_digestText crypto candidate
  have fits := fits_wire pattern candidate nonce
  refine decodeRequest_eq_ok_iff.mpr
    ⟨requestWire candidate (digestText crypto candidate) nonce, ?_⟩
  constructor
  · exact valid_marshalStruct fits short utf8
  · exact decodeExact_eq_some_iff.mpr
      ⟨Json.unmarshal_marshalStruct fields_complete true fits, rfl⟩
  · rfl
  · exact pattern
  · change (Base64.encode nonce).length = 22
    rw [Base64.length_encode, length, nonceBytes]
  · exact decodeCandidate_eq_some_iff.mpr
      ⟨Base64.decode_encode true candidate, valid, rfl⟩
  · exact decodeNonce_eq_some_iff.mpr ⟨rfl, nonce, length, rfl⟩
  · rfl

/-- A decoded request is encoded to the payload it came from exactly when the
candidate text had no line break. -/
theorem encodeRequest_decoded_iff
    {value : Request}
    (decoded : Decoded crypto payload value wire)
    (spelling : Base64.encode nonce = value.nonce) :
    encodeRequest crypto value.candidate value.candidateDigest nonce =
        .ok payload ↔ Unbroken wire.candidateB64URL := by
  obtain ⟨text, valid, digest⟩ :=
    decodeCandidate_eq_some_iff.mp decoded.candidate
  obtain ⟨nonceText, other, length, otherSpelling⟩ :=
    decodeNonce_eq_some_iff.mp decoded.nonce
  obtain rfl := Base64.encode_injective (spelling.trans otherSpelling.symm)
  obtain ⟨found, canonical⟩ := decodeExact_eq_some_iff.mp decoded.exact
  rw [Unbroken, ← Base64.encode_eq_iff_of_decode text, decoded.digest]
  constructor
  · intro encoded
    obtain ⟨-, bounded⟩ := encodeRequest_eq_ok_iff.mp encoded
    obtain ⟨-, rfl⟩ := marshalBounded_eq_ok_iff.mp bounded
    rw [Json.unmarshal_marshalStruct fields_complete true
      (fits_wire decoded.pattern value.candidate nonce)] at found
    exact congrArg RequestWire.candidateB64URL (Option.some.inj found)
  · intro sameText
    have sameWire : requestWire value.candidate wire.candidateDigest nonce =
        wire := by
      rw [requestWire, sameText, spelling, ← nonceText, ← decoded.version]
    have shape := decoded.payload_valid
    simp only [validJSONPayload, Bool.and_eq_true, bne_iff_ne,
      decide_eq_true_eq] at shape
    refine encodeRequest_eq_ok_iff.mpr ⟨⟨valid, digest, length⟩, ?_⟩
    rw [sameWire, canonical]
    exact marshalBounded_eq_ok_iff.mpr
      ⟨⟨shape.1.1.1.1, shape.1.1.1.2, shape.1.1.2⟩, rfl⟩

/-- Every encoded request is decoded to itself.  A decoded request, whose nonce
is the text of exactly one byte string, is encoded to the accepted payload
exactly when the candidate text in the payload has no line break. -/
theorem requests_canonical_iff (crypto : Crypto) (payload : Bytes) :
    (∀ candidate candidateDigest nonce,
      encodeRequest crypto candidate candidateDigest nonce = .ok payload →
      decodeRequest crypto payload =
        .ok ⟨candidate, candidateDigest, Base64.encode nonce⟩) ∧
    ∀ value, decodeRequest crypto payload = .ok value →
      ∃ wire nonce,
        Json.unmarshal requestFields true {} payload = some wire ∧
        Base64.encode nonce = value.nonce ∧
        (encodeRequest crypto value.candidate value.candidateDigest nonce =
          .ok payload ↔ Unbroken wire.candidateB64URL) := by
  refine ⟨fun _ _ _ => decodeRequest_encodeRequest, ?_⟩
  intro value accepted
  obtain ⟨wire, decoded⟩ := decodeRequest_eq_ok_iff.mp accepted
  obtain ⟨-, nonce, -, spelling⟩ := decodeNonce_eq_some_iff.mp decoded.nonce
  exact ⟨wire, nonce, (decodeExact_eq_some_iff.mp decoded.exact).1, spelling,
    encodeRequest_decoded_iff decoded spelling⟩

/-- A request for the candidate "a" whose text has an escaped line feed. -/
def brokenRequest : Bytes :=
  ascii "\x7b\"candidate_b64url\":\"YQ\\no\",\"candidate_digest\":\"" ++
    digestText Sha256.hashing [97, 10] ++ ascii "\",\"nonce_b64url\":\"" ++
    List.replicate 22 (charByte 'A') ++
    ascii "\",\"schema_version\":\"nft-validator-request-v1\"\x7d"

/-- The line feed is accepted, and encoding the request again drops it. -/
theorem brokenRequest_decoded :
    decodeRequest Sha256.hashing brokenRequest =
        .ok ⟨[97, 10], digestText Sha256.hashing [97, 10],
          Base64.encode (List.replicate 16 0)⟩ ∧
      encodeRequest Sha256.hashing [97, 10]
          (digestText Sha256.hashing [97, 10]) (List.replicate 16 0) ≠
        .ok brokenRequest := by
  rw [brokenRequest, Sha256.hashing_eq_swiftHashing]
  decide +kernel

end SentinelFlow.NftValidator
