import SentinelFlow.Journal.Payload

/-!
# Records read back

A payload that `Begin` or `Complete` marshals passes every test of the replay:
the strict decoder, the shape, the checksum, the link to the previous record and
the verification of the signatures.  Reading it returns the record that was
written.
-/

namespace SentinelFlow.Journal

open GoLib Capability

/-! ## The texts of the fields -/

theorem decodeBytes_encode
    {bytes : Bytes} {maximum : Nat} (nonempty : bytes ≠ [])
    (bounded : bytes.length ≤ maximum) :
    decodeBytes (Base64.encode bytes) maximum = some bytes := by
  have text : Base64.encode bytes ≠ [] := by
    simpa [Base64.encode_eq_nil_iff] using nonempty
  rw [decodeBytes, if_neg text, Base64.decode_encode]
  simp [nonempty, Nat.not_lt.mpr bounded]

variable {digest previous text : Bytes} {crypto : Crypto} {sequence : Nat}
  {payload : RecordPayload}

theorem validDigest_of_digestPattern
    (matched : digestPattern.matchString text = true) :
    validDigest text = true := by
  obtain ⟨hex, rfl, length, lower⟩ := digestPattern_iff.mp matched
  obtain ⟨decoded, found⟩ := Hex.exists_decodeString lower (by omega)
  have size := congrArg List.length
    (Hex.encodeToString_of_decodeString lower found)
  rw [Hex.length_encodeToString] at size
  have half : decoded.length = 32 := by omega
  simp [validDigest, length, found, half]

/-- An instant whose journal text is plain and denotes it. -/
structure Readable (instant : Int) : Prop where
  plain : Json.Plain (Time.format instant)
  parsed : parseTime (Time.format instant) = some instant

theorem readable_of_expressible
    {instant : Int} (expressible : Expressible instant) : Readable instant where
  plain := expressible.text.1
  parsed := by
    rw [parseTime, Time.parse_format expressible.lower expressible.upper
      expressible.aligned]
    simp

theorem format_of_parseTime
    {instant : Int} (parsed : parseTime text = some instant) :
    Time.format instant = text ∧ Readable instant := by
  have accepted := parsed
  unfold parseTime at parsed
  split at parsed
  · cases parsed
  next found =>
  split at parsed
  next written =>
    cases parsed
    have letters : ∀ byte : UInt8,
        isDigit byte = true ∨ byte ∈ Time.layout.map Prod.snd →
          Json.plainByte byte = true := by
      decide +kernel
    refine ⟨written, ?_, ?_⟩
    · rw [written]
      exact fun byte member => letters byte (Time.mem_of_parse found member)
    · rw [written]
      exact accepted
  · cases parsed

/-! ## Sealed payloads -/

private theorem recordFields_complete : Json.Complete recordFields {} where
  distinct := Json.distinctNames_iff.mp (by decide +kernel)
  covers value := by
    simp only [recordFields, List.foldl_cons, List.foldl_nil,
      Json.Field.text, Json.Field.textPointer, Json.Field.uint]

/-- Every field of the payload is plain and in range. -/
def RecordPayload.Fits (payload : RecordPayload) : Prop :=
  ∀ field ∈ recordFields, field.Fits payload

theorem strictPayload_marshalStruct
    (fits : payload.Fits)
    (bounded : (Json.marshalStruct recordFields payload).length ≤
      maxPayloadBytes) :
    strictPayload (Json.marshalStruct recordFields payload) = some payload := by
  have nonempty : ¬ Json.marshalStruct recordFields payload = [] := by
    simp [Json.marshalStruct, Json.toObject, Json.marshal]
  rw [strictPayload, if_neg (by simp only [nonempty, false_or]; omega),
    Json.unmarshal_marshalStruct recordFields_complete true fits]
  simp

/-- The checksum does not depend on the checksum field. -/
theorem checksumText_sealed (crypto : Crypto) (payload : RecordPayload) :
    checksumText crypto (payload.sealed crypto) =
      checksumText crypto payload := by
  have unread : ∀ field ∈ recordFields, field.name ≠ recordChecksumName →
      field.toJson (payload.sealed crypto) = field.toJson payload := by
    simp only [recordFields, List.forall_mem_cons, List.not_mem_nil,
      false_implies, implies_true, and_true]
    refine ⟨?_, ?_, ?_, ?_, ?_, ?_, ?_, ?_, ?_, ?_, ?_, ?_, ?_, ?_, ?_, ?_, ?_,
      ?_, ?_⟩
    case refine_14 => exact fun other => absurd rfl other
    all_goals exact fun _ => rfl
  have members : checksumFields.map (fun field =>
      (field.name, field.toJson (payload.sealed crypto))) =
      checksumFields.map fun field => (field.name, field.toJson payload) := by
    apply List.map_congr_left
    intro field member
    obtain ⟨known, other⟩ := List.mem_filter.mp member
    rw [unread field known (by simpa using other)]
  rw [checksumText, checksumText, Json.marshalStruct, Json.marshalStruct,
    Json.toObject, Json.toObject, members]

theorem marshalRecordPayload_eq_ok
    (marshalled : marshalRecordPayload crypto payload = .ok (text, digest)) :
    text = Json.marshalStruct recordFields (payload.sealed crypto) ∧
      text.length ≤ maxPayloadBytes ∧ digest = digestText crypto text := by
  unfold marshalRecordPayload at marshalled
  split at marshalled
  · cases marshalled
  dsimp only at marshalled
  split at marshalled
  · cases marshalled
  next bounded =>
    simp only [not_or, Nat.not_lt] at bounded
    cases marshalled
    exact ⟨rfl, bounded.2, rfl⟩

/-- What a journal's last digest can be before a record of this number. -/
def LinkedTo (sequence : Nat) (previous : Bytes) : Prop :=
  sequence = 1 ∧ previous = [] ∨
    1 < sequence ∧ digestPattern.matchString previous = true

theorem LinkedTo.previous_ne_nil
    (linked : LinkedTo sequence previous)
    (later : 1 < sequence) : previous ≠ [] := by
  rcases linked with ⟨rfl, -⟩ | ⟨-, matched⟩
  · omega
  · obtain ⟨hex, rfl, -⟩ := digestPattern_iff.mp matched
    have label : digestLabel ≠ [] := by decide
    exact List.append_ne_nil_of_left_ne_nil label hex

theorem parseRecordPayload_sealed
    {recordType : RecordType}
    (fits : (payload.sealed crypto).Fits)
    (marshalled : marshalRecordPayload crypto payload = .ok (text, digest))
    (shape : validRecordShape (payload.sealed crypto) recordType sequence =
      true)
    (linked : LinkedTo sequence previous)
    (link : payload.previousRecordDigest = optionalDigest previous) :
    parseRecordPayload crypto text recordType sequence previous =
      .ok (payload.sealed crypto, digest) := by
  obtain ⟨rfl, bounded, rfl⟩ := marshalRecordPayload_eq_ok marshalled
  have sealedLink : (payload.sealed crypto).previousRecordDigest =
      optionalDigest previous := link
  have checksum : (payload.sealed crypto).recordChecksum =
      checksumText crypto (payload.sealed crypto) :=
    (checksumText_sealed crypto payload).symm
  simp only [parseRecordPayload, strictPayload_marshalStruct fits bounded,
    shape, ← checksum, sealedLink, not_true_eq_false, if_false, ne_eq]
  rcases linked with ⟨rfl, rfl⟩ | linked
  · simp [optionalDigest]
  · have present : previous ≠ [] :=
      LinkedTo.previous_ne_nil (.inr linked) linked.1
    rw [if_neg (by omega), if_neg (by simp [optionalDigest, present])]

/-- What the replay has established about a payload that it parsed. -/
theorem parseRecordPayload_eq_ok
    {data : Bytes} {recordType : RecordType}
    (accepted : parseRecordPayload crypto data recordType sequence previous =
      .ok (payload, digest)) :
    strictPayload data = some payload ∧
      validRecordShape payload recordType sequence = true ∧
      digest = digestText crypto data ∧
      payload.previousRecordDigest = optionalDigest previous ∧
      (sequence = 1 ↔ previous = []) := by
  unfold parseRecordPayload at accepted
  split at accepted
  · cases accepted
  next found =>
  split at accepted
  · cases accepted
  next shape =>
  split at accepted
  · cases accepted
  split at accepted
  next first =>
    split at accepted
    · cases accepted
    next link =>
      simp only [not_or, not_not] at link shape
      cases accepted
      exact ⟨found, shape, rfl, by simp [link, optionalDigest],
        by simp [first, link]⟩
  next later =>
    split at accepted
    · cases accepted
    next link =>
      simp only [not_or, not_not] at link shape
      cases accepted
      exact ⟨found, shape, rfl, by simp [link, optionalDigest],
        by simp [later, link]⟩

/-! ## The records of a journal -/

/-- A started record as `Begin` and the replay accept it. -/
structure StartedRecord.Genuine (crypto : Crypto)
    (verifier : CapabilityVerifier) (record : StartedRecord) : Prop where
  verified : verifier.verify crypto record.signed = .ok record.verified
  received : Readable record.received
  deadline : Readable record.deadline
  ordered : record.received < record.deadline
  short : record.deadline - record.received ≤ maxDeadline
  unexpired : record.deadline ≤ record.verified.value.expiresAt

theorem parseInterval_eq_ok
    {received deadline : Int}
    (parsed : parseInterval payload = some (received, deadline)) :
    Readable received ∧ Readable deadline ∧ received < deadline ∧
      deadline - received ≤ maxDeadline := by
  unfold parseInterval at parsed
  split at parsed
  next receivedParsed deadlineParsed =>
    split at parsed
    · cases parsed
    next inside =>
      cases parsed
      exact ⟨(format_of_parseTime receivedParsed).2,
        (format_of_parseTime deadlineParsed).2, by omega, by omega⟩
  · cases parsed

theorem parseStartedPayload_eq_ok
    {verifier : CapabilityVerifier} {record : StartedRecord}
    (accepted : parseStartedPayload crypto verifier payload sequence =
      .ok record) :
    record.Genuine crypto verifier ∧ record.sequence = sequence ∧
      record.terminal = none := by
  unfold parseStartedPayload at accepted
  split at accepted
  · split at accepted
    · cases accepted
    dsimp only at accepted
    split at accepted
    · cases accepted
    next verified =>
    split at accepted
    · cases accepted
    split at accepted
    · cases accepted
    next interval =>
    split at accepted
    · cases accepted
    next unexpired =>
      cases accepted
      obtain ⟨received, deadline, ordered, short⟩ :=
        parseInterval_eq_ok interval
      exact ⟨⟨verified, received, deadline, ordered, short,
        Int.not_lt.mp unexpired⟩, rfl, rfl⟩
  · cases accepted

theorem RecordPayload.fits_of_plain
    (texts : ∀ text ∈ [payload.artifactB64URL, payload.artifactDigest,
      payload.capabilityDigest, payload.capabilityID,
      payload.capabilityJCSB64URL, payload.capabilitySignatureB64URL,
      payload.deadline, payload.operation, payload.ownedSchemaDigest,
      payload.phase, payload.receivedAt, payload.recordChecksum,
      payload.schemaVersion, payload.targetIPv4], Json.Plain text)
    (pointers : ∀ pointer ∈ [payload.previousRecordDigest,
      payload.terminalResultDigest, payload.terminalResultJCSB64URL,
      payload.terminalResultSignatureB64URL],
      ∀ text, pointer = some text → Json.Plain text)
    (sequence : payload.journalSequence < 2 ^ 64) : payload.Fits := by
  simp only [List.forall_mem_cons, List.not_mem_nil, false_implies,
    implies_true, and_true] at texts pointers
  obtain ⟨artifact, artifactDigest, digest, id, canonical, signature, deadline,
    operation, schema, phase, received, checksum, version, target⟩ := texts
  obtain ⟨previous, resultDigest, result, resultSignature⟩ := pointers
  simp only [RecordPayload.Fits, recordFields, List.forall_mem_cons,
    List.not_mem_nil, false_implies, implies_true, and_true]
  exact ⟨artifact, artifactDigest, digest, id, canonical, signature, deadline,
    sequence, operation, schema, phase, previous, received, checksum, version,
    target, resultDigest, result, resultSignature⟩

theorem validRecordShape_started
    (common : validCommonShape payload sequence = true)
    (phase : payload.phase = phaseStarted)
    (digest : payload.terminalResultDigest = none)
    (result : payload.terminalResultJCSB64URL = none)
    (signature : payload.terminalResultSignatureB64URL = none) :
    validRecordShape payload .started sequence = true := by
  simp [validRecordShape, common, phase, digest, result, signature]

theorem validRecordShape_terminal
    (common : validCommonShape payload sequence = true)
    (phase : payload.phase = phaseTerminal)
    (link : payload.previousRecordDigest = some previous)
    (digest : ∃ text, payload.terminalResultDigest = some text ∧
      validDigest text = true)
    (result : ∃ text decoded, payload.terminalResultJCSB64URL = some text ∧
      decodeBytes text maxResultBytes = some decoded)
    (signature : ∃ text, payload.terminalResultSignatureB64URL = some text ∧
      validSignature text = true) :
    validRecordShape payload .terminal sequence = true := by
  have other : phaseTerminal ≠ phaseStarted := by decide +kernel
  obtain ⟨_, digest, valid⟩ := digest
  obtain ⟨_, _, result, decoded⟩ := result
  obtain ⟨_, signature, sized⟩ := signature
  simp [validRecordShape, common, phase, other, link, digest, valid, result,
    decoded, signature, sized]

section Written

variable {crypto : Crypto} {verifier : CapabilityVerifier}
  {record : StartedRecord} (genuine : record.Genuine crypto verifier)
  {sequence : Nat} {previous : Bytes} (linked : LinkedTo sequence previous)
include genuine linked

private theorem fits_newStartedPayload
    (bounded : sequence ≤ maxSequence) {phase checksum : Bytes}
    {digest result signature : Option Bytes} (phasePlain : Json.Plain phase)
    (checksumPlain : Json.Plain checksum)
    (pointers : ∀ pointer ∈ [digest, result, signature],
      ∀ text, pointer = some text → Json.Plain text) :
    RecordPayload.Fits
      { newStartedPayload record.signed record.verified record.received
          record.deadline sequence previous with
        phase := phase
        recordChecksum := checksum
        terminalResultDigest := digest
        terminalResultJCSB64URL := result
        terminalResultSignatureB64URL := signature } := by
  have authentic := CapabilityVerifier.verify_eq_ok genuine.verified
  have value := authentic.wellFormed
  have digestPlain : ∀ data, Json.Plain (digestText crypto data) :=
    fun data => (digest_text (digestPattern_digestText crypto data)).1
  have operation : ∀ operation : Operation, Json.Plain operation.text := by
    intro operation
    cases operation <;> decide +kernel
  have version : Json.Plain schemaRecordV1 := by decide +kernel
  have link : ∀ text, optionalDigest previous = some text →
      Json.Plain text := by
    intro text present
    unfold optionalDigest at present
    split at present
    · cases present
    next nonempty =>
      cases present
      rcases linked with ⟨-, rfl⟩ | ⟨-, matched⟩
      · exact absurd rfl nonempty
      · exact (digest_text matched).1
  apply RecordPayload.fits_of_plain
  · simp only [newStartedPayload, List.forall_mem_cons, List.not_mem_nil,
      false_implies, implies_true, and_true, authentic.artifactDigest,
      authentic.digest]
    exact ⟨Json.plain_base64 _, digestPlain _, digestPlain _,
      (uuid_text value.capabilityID).1, Json.plain_base64 _, Json.plain_base64 _,
      genuine.deadline.plain, operation _,
      (digest_text value.ownedSchemaDigest).1, phasePlain,
      genuine.received.plain, checksumPlain, version,
      (address_text value.targetIPv4).1⟩
  · exact List.forall_mem_cons.mpr ⟨link, pointers⟩
  · simp only [newStartedPayload, maxSequence] at bounded ⊢
    omega

omit linked in
private theorem parseInterval_eq_some (payload : RecordPayload)
    (received : payload.receivedAt = Time.format record.received)
    (deadline : payload.deadline = Time.format record.deadline) :
    parseInterval payload = some (record.received, record.deadline) := by
  have ordered := genuine.ordered
  have short := genuine.short
  simp only [parseInterval, received, deadline, genuine.received.parsed,
    genuine.deadline.parsed]
  rw [if_neg (by omega)]

omit linked in
private theorem decodeBytes_signed :
    decodeBytes (Base64.encode record.signed.canonical) maxCapabilityBytes =
        some record.signed.canonical ∧
      decodeBytes (Base64.encode record.signed.signature) signatureSize =
        some record.signed.signature ∧
      decodeBytes (Base64.encode record.signed.artifact) maxArtifactBytes =
        some record.signed.artifact := by
  have authentic := CapabilityVerifier.verify_eq_ok genuine.verified
  obtain ⟨nonempty, bounded, command, short⟩ := authentic.sizes
  have size := authentic.signature.1
  refine ⟨decodeBytes_encode nonempty bounded, ?_,
    decodeBytes_encode command short⟩
  apply decodeBytes_encode
  · exact List.ne_nil_of_length_pos (by rw [size]; decide)
  · exact Nat.le_of_eq size

private theorem validCommonShape_newStartedPayload {phase checksum : Bytes}
    {digest result signature : Option Bytes}
    (checksumDigest : digestPattern.matchString checksum = true) :
    validCommonShape
      { newStartedPayload record.signed record.verified record.received
          record.deadline sequence previous with
        phase := phase
        recordChecksum := checksum
        terminalResultDigest := digest
        terminalResultJCSB64URL := result
        terminalResultSignatureB64URL := signature } sequence = true := by
  have authentic := CapabilityVerifier.verify_eq_ok genuine.verified
  have value := authentic.wellFormed
  obtain ⟨canonical, signed, artifact⟩ := decodeBytes_signed genuine
  have size := authentic.signature.1
  have digestValid : ∀ data, validDigest (digestText crypto data) = true :=
    fun data => validDigest_of_digestPattern (digestPattern_digestText crypto data)
  have positive : ¬ sequence = 0 := by
    rcases linked with ⟨rfl, -⟩ | ⟨later, -⟩ <;> omega
  have link : (optionalDigest previous).all validDigest = true := by
    unfold optionalDigest
    split
    · rfl
    next nonempty =>
      rcases linked with ⟨-, rfl⟩ | ⟨-, matched⟩
      · exact absurd rfl nonempty
      · exact validDigest_of_digestPattern matched
  have operation : ∀ operation : Operation,
      Operation.ofText? operation.text ≠ none := by
    intro operation
    cases operation <;> decide +kernel
  have id : ¬ record.verified.value.capabilityID = [] := by
    intro empty
    have length := (Regexp.length_le_of_matchString value.capabilityID).1
    rw [empty] at length
    exact absurd length (by decide)
  have target : ¬ record.verified.value.targetIPv4 = [] := by
    obtain ⟨address, written⟩ := IPv4.canonicalText_iff.mp value.targetIPv4
    intro empty
    have length := (IPv4.length_toText address).1
    rw [written, empty] at length
    exact absurd length (by decide)
  unfold validCommonShape
  rw [if_neg, if_neg, if_neg, if_neg, if_neg,
    parseInterval_eq_some genuine _ rfl rfl]
  · rfl
  · simp [newStartedPayload, artifact]
  · simp [newStartedPayload, validSignature, signed, size]
  · simp [newStartedPayload, canonical]
  · exact operation _
  · simp only [newStartedPayload, authentic.artifactDigest, authentic.digest,
      digestValid, validDigest_of_digestPattern value.ownedSchemaDigest,
      validDigest_of_digestPattern checksumDigest, link, id, target, positive]
    simp

omit linked in
private theorem signed_eta :
    (⟨verifier.keyID, record.signed.canonical, record.signed.signature,
      record.signed.artifact⟩ : SignedCapability) = record.signed := by
  rw [← (CapabilityVerifier.verify_eq_ok genuine.verified).keyID.1]

/-- A started record is read back from the payload that `Begin` appends. -/
theorem started_readBack (configured : verifier.keyID ≠ [])
    (bounded : sequence ≤ maxSequence) {text digest : Bytes}
    (marshalled : marshalRecordPayload crypto (newStartedPayload record.signed
      record.verified record.received record.deadline sequence previous) =
        .ok (text, digest)) :
    ∃ payload, parseRecordPayload crypto text .started sequence previous =
        .ok (payload, digest) ∧
      parseStartedPayload crypto verifier payload sequence =
        .ok { record with sequence := sequence, terminal := none } := by
  have checksum := digestPattern_digestText crypto
    (Json.marshalStruct checksumFields (newStartedPayload record.signed
      record.verified record.received record.deadline sequence previous))
  have phase : Json.Plain phaseStarted := by decide +kernel
  refine ⟨_, parseRecordPayload_sealed ?_ marshalled ?_ linked rfl, ?_⟩
  · exact fits_newStartedPayload genuine linked bounded phase
      (digest_text checksum).1 (by simp [newStartedPayload])
  · exact validRecordShape_started
      (validCommonShape_newStartedPayload genuine linked checksum) rfl rfl rfl
      rfl
  · obtain ⟨canonical, signature, artifact⟩ := decodeBytes_signed genuine
    have interval : parseInterval ((newStartedPayload record.signed
        record.verified record.received record.deadline sequence
        previous).sealed crypto) = some (record.received, record.deadline) :=
      parseInterval_eq_some genuine _ rfl rfl
    have unexpired := genuine.unexpired
    simp only [parseStartedPayload, interval]
    simp only [RecordPayload.sealed, newStartedPayload, canonical, signature,
      artifact, configured, signed_eta genuine, genuine.verified, if_false,
      ne_eq, not_true_eq_false, or_self, Int.not_lt.mpr unexpired]

/-- A terminal record is read back from the payload that `Complete` appends. -/
theorem terminal_readBack {resultVerifier : ResultVerifier}
    (configured : resultVerifier.keyID ≠ [] ∧ resultVerifier.executorID ≠ [])
    (bounded : sequence ≤ maxSequence) (later : 1 < sequence)
    {signed : SignedResult} {verified : VerifiedResult}
    (accepted : resultVerifier.verify crypto signed = .ok verified)
    (bound : bindResult verified.value record.verified verified.executorID =
      .ok ())
    (attempt : verified.value.journalSequence = record.sequence)
    {text digest : Bytes}
    (marshalled : marshalRecordPayload crypto (newTerminalPayload record signed
      verified sequence previous) = .ok (text, digest)) :
    ∃ payload, parseRecordPayload crypto text .terminal sequence previous =
        .ok (payload, digest) ∧
      payload.capabilityID = record.verified.value.capabilityID ∧
      parseTerminalPayload crypto resultVerifier payload sequence record =
        .ok ⟨sequence, signed, verified⟩ := by
  have result := ResultVerifier.verify_eq_ok accepted
  obtain ⟨nonempty, short, size⟩ := result.sizes
  have checksum := digestPattern_digestText crypto
    (Json.marshalStruct checksumFields (newTerminalPayload record signed
      verified sequence previous))
  have phase : Json.Plain phaseTerminal := by decide +kernel
  have resultDigest : digestPattern.matchString verified.digest = true := by
    rw [result.digest]
    exact digestPattern_digestText crypto _
  have canonicalResult := decodeBytes_encode nonempty short
  have signatureResult :
      decodeBytes (Base64.encode signed.signature) signatureSize =
        some signed.signature :=
    decodeBytes_encode (List.ne_nil_of_length_pos (by rw [size]; decide))
      (Nat.le_of_eq size)
  have link : optionalDigest previous = some previous :=
    if_neg (linked.previous_ne_nil later)
  refine ⟨_, parseRecordPayload_sealed ?_ marshalled ?_ linked rfl, rfl, ?_⟩
  · apply fits_newStartedPayload genuine linked bounded phase
      (digest_text checksum).1
    simp only [newTerminalPayload, List.forall_mem_cons, List.not_mem_nil,
      false_implies, implies_true, and_true, Option.some.injEq]
    refine ⟨?_, ?_, ?_⟩
    · rintro text rfl
      exact (digest_text resultDigest).1
    · rintro text rfl
      exact Json.plain_base64 _
    · rintro text rfl
      exact Json.plain_base64 _
  · refine validRecordShape_terminal
      (validCommonShape_newStartedPayload genuine linked checksum) rfl link
      ⟨_, rfl, validDigest_of_digestPattern resultDigest⟩
      ⟨_, _, rfl, canonicalResult⟩ ⟨_, rfl, ?_⟩
    simp [validSignature, signatureResult, size]
  · obtain ⟨canonical, signature, artifact⟩ := decodeBytes_signed genuine
    have repeated : repeatsStart ((newTerminalPayload record signed verified
        sequence previous).sealed crypto) record = true := by
      simp [repeatsStart, RecordPayload.sealed, newTerminalPayload,
        newStartedPayload, canonical, signature, artifact]
    have eta : (⟨resultVerifier.keyID, resultVerifier.executorID,
        signed.canonical, signed.signature⟩ : SignedResult) = signed := by
      rw [← result.identity.1, ← result.identity.2.1]
    simp only [parseTerminalPayload, repeated]
    simp only [RecordPayload.sealed, newTerminalPayload, Option.bind_some,
      canonicalResult, signatureResult, configured.1, configured.2, eta,
      accepted, bound, attempt, ne_eq, not_true_eq_false, or_self, if_false]

end Written

end SentinelFlow.Journal
