import SentinelFlow.Capability.Canonical

/-!
# Execution results

What an executor may attest: identifiers and digests that link the result to its
capability, an outcome from a closed table, and an interval of at most two
seconds.  A checked result is read back from its canonical bytes.
-/

namespace SentinelFlow.Capability

open GoLib

structure ResultWire where
  actionID : Bytes := []
  artifactDigest : Bytes := []
  capabilityDigest : Bytes := []
  capabilityID : Bytes := []
  classification : Bytes := []
  completedAt : Bytes := []
  elementHandle : Option Nat := none
  errorCode : Bytes := []
  journalSequence : Nat := 0
  nftExitClass : Option Bytes := none
  operation : Bytes := []
  ownedSchemaDigest : Bytes := []
  readbackState : Bytes := []
  remainingTTLSeconds : Option Nat := none
  resultID : Bytes := []
  schemaVersion : Bytes := []
  startedAt : Bytes := []
  targetIPv4 : Bytes := []

/-- The tagged fields, in the order of the canonical text. -/
def resultFields : List (Json.Field ResultWire) :=
  [.text (ascii "action_id") (·.actionID)
      (fun wire text => { wire with actionID := text }),
    .text (ascii "artifact_digest") (·.artifactDigest)
      (fun wire text => { wire with artifactDigest := text }),
    .text (ascii "capability_digest") (·.capabilityDigest)
      (fun wire text => { wire with capabilityDigest := text }),
    .text (ascii "capability_id") (·.capabilityID)
      (fun wire text => { wire with capabilityID := text }),
    .text (ascii "classification") (·.classification)
      (fun wire text => { wire with classification := text }),
    .text (ascii "completed_at") (·.completedAt)
      (fun wire text => { wire with completedAt := text }),
    .uintPointer 64 (ascii "element_handle") (·.elementHandle)
      (fun wire number => { wire with elementHandle := number }),
    .text (ascii "error_code") (·.errorCode)
      (fun wire text => { wire with errorCode := text }),
    .uint 64 (ascii "journal_sequence") (·.journalSequence)
      (fun wire number => { wire with journalSequence := number }),
    .textPointer (ascii "nft_exit_class") (·.nftExitClass)
      (fun wire text => { wire with nftExitClass := text }),
    .text (ascii "operation") (·.operation)
      (fun wire text => { wire with operation := text }),
    .text (ascii "owned_schema_digest") (·.ownedSchemaDigest)
      (fun wire text => { wire with ownedSchemaDigest := text }),
    .text (ascii "readback_state") (·.readbackState)
      (fun wire text => { wire with readbackState := text }),
    .uintPointer 64 (ascii "remaining_ttl_seconds") (·.remainingTTLSeconds)
      (fun wire number => { wire with remainingTTLSeconds := number }),
    .text (ascii "result_id") (·.resultID)
      (fun wire text => { wire with resultID := text }),
    .text (ascii "schema_version") (·.schemaVersion)
      (fun wire text => { wire with schemaVersion := text }),
    .text (ascii "started_at") (·.startedAt)
      (fun wire text => { wire with startedAt := text }),
    .text (ascii "target_ipv4") (·.targetIPv4)
      (fun wire text => { wire with targetIPv4 := text })]

/-- An unsigned integer, or `null`. -/
def nullableUint : Option Nat → Json
  | none => .null
  | some number => .number (formatUint number)

/-- The text of an exit class, or `null`. -/
def nullableExit : Option NFTExitClass → Json
  | none => .null
  | some exit => .string exit.text

def marshalResultTimes (value : Result) (startedAt completedAt : Bytes) :
    Bytes :=
  Json.marshal (.object
    [(ascii "action_id", .string value.actionID),
      (ascii "artifact_digest", .string value.artifactDigest),
      (ascii "capability_digest", .string value.capabilityDigest),
      (ascii "capability_id", .string value.capabilityID),
      (ascii "classification", .string value.classification.text),
      (ascii "completed_at", .string completedAt),
      (ascii "element_handle", nullableUint value.elementHandle),
      (ascii "error_code", .string value.errorCode.text),
      (ascii "journal_sequence", .number (formatUint value.journalSequence)),
      (ascii "nft_exit_class", nullableExit value.nftExitClass),
      (ascii "operation", .string value.operation.text),
      (ascii "owned_schema_digest", .string value.ownedSchemaDigest),
      (ascii "readback_state", .string value.readbackState.text),
      (ascii "remaining_ttl_seconds", nullableUint value.remainingTTLSeconds),
      (ascii "result_id", .string value.resultID),
      (ascii "schema_version", .string resultSchemaVersion),
      (ascii "started_at", .string startedAt),
      (ascii "target_ipv4", .string value.targetIPv4)])

def marshalResult (value : Result) : Bytes :=
  marshalResultTimes value (Time.format value.startedAt)
    (Time.format value.completedAt)

/-- The first defect of the identifiers, the digests and the target. -/
def resultLinksError (resultID capabilityID actionID capabilityDigest
    artifactDigest ownedSchemaDigest targetIPv4 : Bytes) : Option ErrorCode :=
  if ¬ uuidPattern.matchString resultID ∨
      ¬ uuidPattern.matchString capabilityID ∨
      ¬ uuidPattern.matchString actionID then
    some .identity
  else if ¬ digestPattern.matchString capabilityDigest ∨
      ¬ digestPattern.matchString artifactDigest ∨
      ¬ digestPattern.matchString ownedSchemaDigest then
    some .digest
  else if ¬ IPv4.canonicalText targetIPv4 then some .result
  else none

def validClassification : Operation → Classification → Bool
  | .add, .applied | .add, .recoveredActive => true
  | .revoke, .revoked => true
  | .inspect, .inspectActive | .inspect, .inspectAbsent
  | .inspect, .inspectMismatch => true
  | _, .failed | _, .indeterminate => true
  | _, _ => false

/-- The combinations of classification, exit, read-back and error code. -/
def checkOutcome (value : Result) : Except ErrorCode Unit :=
  if (value.classification != .failed && value.classification != .indeterminate)
      != (value.errorCode == .none) then
    .error .result
  else match value.classification with
  | .applied
  | .inspectActive =>
      if value.nftExitClass ≠ some .success ∨ value.readbackState ≠ .active ∨
          value.elementHandle ≠ none ∨ value.remainingTTLSeconds = none ∨
          value.remainingTTLSeconds = some 0 then
        .error .result
      else .ok ()
  | .recoveredActive =>
      if value.nftExitClass ≠ some .notInvoked ∨
          value.readbackState ≠ .active ∨ value.elementHandle ≠ none ∨
          value.remainingTTLSeconds = none ∨
          value.remainingTTLSeconds = some 0 then
        .error .result
      else .ok ()
  | .revoked | .inspectAbsent =>
      if (value.nftExitClass ≠ some .success ∧
            value.nftExitClass ≠ some .notInvoked) ∨
          value.readbackState ≠ .absent ∨ value.elementHandle ≠ none ∨
          value.remainingTTLSeconds ≠ none then
        .error .result
      else .ok ()
  | .inspectMismatch =>
      if value.nftExitClass ≠ some .success ∨
          value.readbackState ≠ .mismatch then
        .error .result
      else .ok ()
  | .failed | .indeterminate => .ok ()

/-- The exit class, the read-back state, the error code and the operation are
closed types here; the source also rejects texts outside them. -/
def checkResultValue (value : Result) : Except ErrorCode Unit :=
  match resultLinksError value.resultID value.capabilityID value.actionID
      value.capabilityDigest value.artifactDigest value.ownedSchemaDigest
      value.targetIPv4 with
  | some code => .error code
  | none =>
      if ¬ validClassification value.operation value.classification then
        .error .result
      else if value.elementHandle ≠ none then .error .result
      else if value.remainingTTLSeconds.any (fun ttl => 86400 < ttl) then
        .error .result
      else if value.journalSequence = 0 ∨
          value.journalSequence > 2 ^ 53 - 1 ∨ value.startedAt = 0 ∨
          value.completedAt = 0 ∨ value.completedAt < value.startedAt ∨
          ¬ Time.MillisecondAligned value.startedAt ∨
          ¬ Time.MillisecondAligned value.completedAt ∨
          value.completedAt - value.startedAt > 2 * Time.second then
        .error .time
      else checkOutcome value

section Crypto

variable (crypto : Crypto)

def checkResult (input : Result) : Except ErrorCode CheckedResult :=
  match checkResultValue input with
  | .error code => .error code
  | .ok _ =>
      let canonical := marshalResult input
      .ok { value := input, canonical, digest := digestText crypto canonical }

/-- A missing exit class stays missing; a present one must be known. -/
def exitOfText? : Option Bytes → Option (Option NFTExitClass)
  | none => some none
  | some text => (NFTExitClass.ofText? text).map some

/-- The result a wire denotes, or the code of the first text that is outside
its closed set.  The links are tested first, as the source tests them. -/
def resultOfWire (wire : ResultWire) (startedAt completedAt : Int) :
    Except ErrorCode Result :=
  match resultLinksError wire.resultID wire.capabilityID wire.actionID
      wire.capabilityDigest wire.artifactDigest wire.ownedSchemaDigest
      wire.targetIPv4 with
  | some code => .error code
  | none =>
      match Operation.ofText? wire.operation with
      | none => .error .operation
      | some operation =>
          match Classification.ofText? wire.classification,
              exitOfText? wire.nftExitClass,
              ReadbackState.ofText? wire.readbackState,
              ResultErrorCode.ofText? wire.errorCode with
          | some classification, some nftExitClass, some readbackState,
            some errorCode => .ok
              { resultID := wire.resultID
                capabilityID := wire.capabilityID
                capabilityDigest := wire.capabilityDigest
                operation
                actionID := wire.actionID
                artifactDigest := wire.artifactDigest
                targetIPv4 := wire.targetIPv4
                classification
                nftExitClass
                readbackState
                elementHandle := wire.elementHandle
                remainingTTLSeconds := wire.remainingTTLSeconds
                ownedSchemaDigest := wire.ownedSchemaDigest
                startedAt, completedAt
                journalSequence := wire.journalSequence
                errorCode }
          | _, _, _, _ => .error .result

def parseCanonicalResult (data : Bytes) : Except ErrorCode CheckedResult :=
  match strictDecode resultFields {} maxResultBytes data with
  | .error code => .error code
  | .ok wire =>
      if wire.schemaVersion ≠ resultSchemaVersion then .error .schema
      else match parseCanonicalTime wire.startedAt,
          parseCanonicalTime wire.completedAt with
      | some startedAt, some completedAt =>
          match resultOfWire wire startedAt completedAt with
          | .error code => .error code
          | .ok result =>
              match checkResult crypto result with
              | .error code => .error code
              | .ok checked =>
                  if data ≠ marshalResultTimes checked.value wire.startedAt
                      wire.completedAt then
                    .error .canonical
                  else .ok { checked with
                    canonical := data
                    digest := digestText crypto data }
      | _, _ => .error .time

end Crypto

/-! ## What is accepted -/

/-- The conditions of `checkResultValue`. -/
structure Result.Valid (value : Result) : Prop where
  resultID : uuidPattern.matchString value.resultID = true
  capabilityID : uuidPattern.matchString value.capabilityID = true
  actionID : uuidPattern.matchString value.actionID = true
  capabilityDigest : digestPattern.matchString value.capabilityDigest = true
  artifactDigest : digestPattern.matchString value.artifactDigest = true
  ownedSchemaDigest : digestPattern.matchString value.ownedSchemaDigest = true
  targetIPv4 : IPv4.canonicalText value.targetIPv4 = true
  classification :
    validClassification value.operation value.classification = true
  elementHandle : value.elementHandle = none
  remainingTTL : ∀ ttl, value.remainingTTLSeconds = some ttl → ttl ≤ 86400
  sequence : 0 < value.journalSequence ∧ value.journalSequence ≤ 2 ^ 53 - 1
  startedAt : value.startedAt ≠ 0 ∧ Time.MillisecondAligned value.startedAt
  completedAt :
    value.completedAt ≠ 0 ∧ Time.MillisecondAligned value.completedAt
  ordered : value.startedAt ≤ value.completedAt
  duration : value.completedAt - value.startedAt ≤ 2 * Time.second
  outcome : checkOutcome value = .ok ()

theorem resultLinksError_eq_none_iff
    {resultID capabilityID actionID capabilityDigest artifactDigest
      ownedSchemaDigest targetIPv4 : Bytes} :
    resultLinksError resultID capabilityID actionID capabilityDigest
        artifactDigest ownedSchemaDigest targetIPv4 = none ↔
      (uuidPattern.matchString resultID = true ∧
        uuidPattern.matchString capabilityID = true ∧
        uuidPattern.matchString actionID = true) ∧
      (digestPattern.matchString capabilityDigest = true ∧
        digestPattern.matchString artifactDigest = true ∧
        digestPattern.matchString ownedSchemaDigest = true) ∧
      IPv4.canonicalText targetIPv4 = true := by
  simp only [resultLinksError, ite_some_eq_none_iff, not_or, not_not, and_true]

variable {checked : CheckedResult} {crypto : Crypto} {value : Result}

theorem checkResultValue_eq_ok_iff :
    checkResultValue value = .ok () ↔ value.Valid := by
  unfold checkResultValue
  constructor
  · intro accepted
    split at accepted
    · cases accepted
    next links =>
    obtain ⟨ids, digests, target⟩ := Iff.mp resultLinksError_eq_none_iff links
    simp only [ite_error_eq_ok_iff, not_or, not_not] at accepted
    obtain ⟨classified, handle, remaining, timed, outcome⟩ := accepted
    obtain ⟨positive, bounded, startedZero, completedZero, ordered,
      startedAligned, completedAligned, short⟩ := timed
    refine ⟨ids.1, ids.2.1, ids.2.2, digests.1, digests.2.1, digests.2.2,
      target, classified, handle, ?_, ⟨by omega, by omega⟩,
      ⟨startedZero, startedAligned⟩, ⟨completedZero, completedAligned⟩,
      by omega, by omega, outcome⟩
    intro ttl present
    rw [present] at remaining
    simpa using remaining
  · intro valid
    obtain ⟨positive, bounded⟩ := valid.sequence
    have ordered := valid.ordered
    have short := valid.duration
    rw [Iff.mpr resultLinksError_eq_none_iff
      ⟨⟨valid.resultID, valid.capabilityID, valid.actionID⟩,
        ⟨valid.capabilityDigest, valid.artifactDigest,
          valid.ownedSchemaDigest⟩, valid.targetIPv4⟩]
    simp only [valid.classification, valid.elementHandle, not_true_eq_false,
      if_false, ne_eq, valid.startedAt.1, valid.startedAt.2,
      valid.completedAt.1, valid.completedAt.2, valid.outcome, false_or]
    rw [if_neg, if_neg]
    · omega
    · cases present : value.remainingTTLSeconds with
      | none => simp
      | some ttl =>
          have small := valid.remainingTTL ttl present
          simpa using small

theorem checkResult_eq_ok_iff :
    checkResult crypto value = .ok checked ↔
      value.Valid ∧ checked = ⟨value, marshalResult value,
        digestText crypto (marshalResult value)⟩ := by
  unfold checkResult
  constructor
  · intro accepted
    split at accepted
    · cases accepted
    next valid =>
      cases accepted
      exact ⟨Iff.mp checkResultValue_eq_ok_iff valid, rfl⟩
  · rintro ⟨valid, rfl⟩
    rw [Iff.mpr checkResultValue_eq_ok_iff valid]

private theorem times_of_resultOfWire
    {wire : ResultWire} {startedAt completedAt : Int} {result : Result}
    (denoted : resultOfWire wire startedAt completedAt = .ok result) :
    result.startedAt = startedAt ∧ result.completedAt = completedAt := by
  unfold resultOfWire at denoted
  split at denoted
  · cases denoted
  split at denoted
  · cases denoted
  split at denoted
  · cases denoted
    exact ⟨rfl, rfl⟩
  · cases denoted

/-- What was read passed the checks, and is written back byte for byte. -/
theorem parseCanonicalResult_eq_ok
    {data : Bytes}
    (accepted : parseCanonicalResult crypto data = .ok checked) :
    (∃ wire started completed,
      strictDecode resultFields {} maxResultBytes data = .ok wire ∧
      parseCanonicalTime wire.startedAt = some started ∧
      parseCanonicalTime wire.completedAt = some completed) ∧
    checked.value.Valid ∧ marshalResult checked.value = data ∧
      checked.canonical = data ∧ checked.digest = digestText crypto data := by
  unfold parseCanonicalResult at accepted
  split at accepted
  · cases accepted
  next wire decoded =>
  split at accepted
  · cases accepted
  split at accepted
  next started completed startedParsed completedParsed =>
    split at accepted
    · cases accepted
    next result denoted =>
    split at accepted
    · cases accepted
    next known checks =>
    obtain ⟨valid, rfl⟩ := Iff.mp checkResult_eq_ok_iff checks
    obtain ⟨written, same⟩ := ite_error_eq_ok_iff.mp accepted
    cases same
    obtain ⟨startedAt, completedAt⟩ := times_of_resultOfWire denoted
    refine ⟨⟨wire, started, completed, decoded, startedParsed,
      completedParsed⟩, valid, ?_, rfl, rfl⟩
    rw [marshalResult, startedAt, completedAt,
      (format_of_parseCanonicalTime startedParsed).1,
      (format_of_parseCanonicalTime completedParsed).1]
    exact (not_not.mp written).symm
  · cases accepted

/-! ## Reading back -/

private def resultWireOf (value : Result) (startedAt completedAt : Bytes) :
    ResultWire :=
  { actionID := value.actionID
    artifactDigest := value.artifactDigest
    capabilityDigest := value.capabilityDigest
    capabilityID := value.capabilityID
    classification := value.classification.text
    completedAt
    elementHandle := value.elementHandle
    errorCode := value.errorCode.text
    journalSequence := value.journalSequence
    nftExitClass := value.nftExitClass.map NFTExitClass.text
    operation := value.operation.text
    ownedSchemaDigest := value.ownedSchemaDigest
    readbackState := value.readbackState.text
    remainingTTLSeconds := value.remainingTTLSeconds
    resultID := value.resultID
    schemaVersion := resultSchemaVersion
    startedAt
    targetIPv4 := value.targetIPv4 }

private theorem marshalResultTimes_eq
    (value : Result) (startedAt completedAt : Bytes) :
    marshalResultTimes value startedAt completedAt =
      Json.marshalStruct resultFields
        (resultWireOf value startedAt completedAt) := by
  have exit : nullableExit value.nftExitClass =
      (match value.nftExitClass.map NFTExitClass.text with
        | none => Json.null
        | some text => .string text) := by
    cases value.nftExitClass <;> rfl
  have number : ∀ amount : Option Nat, nullableUint amount =
      (match amount with
        | none => Json.null
        | some amount => .number (formatUint amount)) := by
    intro amount
    cases amount <;> rfl
  rw [marshalResultTimes, exit, number, number]
  rfl

private theorem resultFields_texts :
    Json.distinctNames (resultFields.map (·.name)) = true ∧
      (resultFields.all fun field => field.name.length ≤ 21) = true ∧
      Json.Plain resultSchemaVersion ∧ resultSchemaVersion.length ≤ 20 := by
  decide +kernel

private theorem resultFields_complete : Json.Complete resultFields {} where
  distinct := Json.distinctNames_iff.mp resultFields_texts.1
  covers value := by
    simp only [resultFields, List.foldl_cons, List.foldl_nil,
      Json.Field.text, Json.Field.textPointer, Json.Field.uint,
      Json.Field.uintPointer]

/-- The texts of the closed types are plain, short and denote their value. -/
private theorem enumeration_texts
    (operation : Operation) (classification : Classification)
    (exit : NFTExitClass) (state : ReadbackState) (code : ResultErrorCode) :
    (Operation.ofText? operation.text = some operation ∧
      Json.Plain operation.text ∧ operation.text.length ≤ 20) ∧
    (Classification.ofText? classification.text = some classification ∧
      Json.Plain classification.text ∧ classification.text.length ≤ 20) ∧
    (NFTExitClass.ofText? exit.text = some exit ∧
      Json.Plain exit.text ∧ exit.text.length ≤ 20) ∧
    (ReadbackState.ofText? state.text = some state ∧
      Json.Plain state.text ∧ state.text.length ≤ 20) ∧
    (ResultErrorCode.ofText? code.text = some code ∧
      Json.Plain code.text ∧ code.text.length ≤ 20) := by
  refine ⟨?_, ?_, ?_, ?_, ?_⟩
  · cases operation <;> decide +kernel
  · cases classification <;> decide +kernel
  · cases exit <;> decide +kernel
  · cases state <;> decide +kernel
  · cases code <;> decide +kernel

private theorem Result.Valid.within
    (valid : value.Valid) {size : Nat}
    (started : (Time.format value.startedAt).length ≤ size)
    (completed : (Time.format value.completedAt).length ≤ size) :
    ∀ field ∈ resultFields, field.Within (130 + size)
      (resultWireOf value (Time.format value.startedAt)
        (Time.format value.completedAt)) := by
  obtain ⟨operation, classification, -, state, code⟩ :=
    enumeration_texts value.operation value.classification .success
      value.readbackState value.errorCode
  have exit : ∀ text, value.nftExitClass.map NFTExitClass.text = some text →
      Json.Plain text ∧ text.length ≤ 20 := by
    intro text present
    obtain ⟨exit, -, rfl⟩ := Option.map_eq_some_iff.mp present
    exact (enumeration_texts .add .applied exit .active .none).2.2.1.2
  have version := resultFields_texts.2.2
  have handle : ∀ amount, value.elementHandle = some amount →
      amount < 2 ^ 64 := by
    intro amount present
    rw [valid.elementHandle] at present
    cases present
  have remaining : ∀ amount, value.remainingTTLSeconds = some amount →
      amount < 2 ^ 64 := by
    intro amount present
    have small := valid.remainingTTL amount present
    omega
  have sequence : value.journalSequence < 2 ^ 64 := by
    have bounds := valid.sequence
    omega
  have room : 2 ^ 64 ≤ 10 ^ (130 + size) :=
    Nat.le_trans (by decide)
      (Nat.pow_le_pow_right (by decide) (Nat.le_add_right 130 size))
  simp only [resultFields, List.forall_mem_cons, List.not_mem_nil,
    false_implies, implies_true, and_true]
  exact ⟨Json.Field.within_text (uuid_text valid.actionID) (by omega),
    Json.Field.within_text (digest_text valid.artifactDigest) (by omega),
    Json.Field.within_text (digest_text valid.capabilityDigest) (by omega),
    Json.Field.within_text (uuid_text valid.capabilityID) (by omega),
    Json.Field.within_text classification.2 (by omega),
    Json.Field.within_text ⟨plain_format _, completed⟩ (by omega),
    Json.Field.within_uintPointer room (by omega) handle,
    Json.Field.within_text code.2 (by omega),
    Json.Field.within_uint room (by omega) sequence,
    Json.Field.within_textPointer exit (by omega),
    Json.Field.within_text operation.2 (by omega),
    Json.Field.within_text (digest_text valid.ownedSchemaDigest) (by omega),
    Json.Field.within_text state.2 (by omega),
    Json.Field.within_uintPointer room (by omega) remaining,
    Json.Field.within_text (uuid_text valid.resultID) (by omega),
    Json.Field.within_text version (by omega),
    Json.Field.within_text ⟨plain_format _, started⟩ (by omega),
    Json.Field.within_text (address_text valid.targetIPv4) (by omega)⟩

private theorem resultOfWire_resultWireOf
    (valid : value.Valid) (startedAt completedAt : Bytes) :
    resultOfWire (resultWireOf value startedAt completedAt) value.startedAt
      value.completedAt = .ok value := by
  obtain ⟨operation, classification, -, state, code⟩ :=
    enumeration_texts value.operation value.classification .success
      value.readbackState value.errorCode
  have links := Iff.mpr resultLinksError_eq_none_iff
    ⟨⟨valid.resultID, valid.capabilityID, valid.actionID⟩,
      ⟨valid.capabilityDigest, valid.artifactDigest, valid.ownedSchemaDigest⟩,
      valid.targetIPv4⟩
  have exit : exitOfText? (value.nftExitClass.map NFTExitClass.text) =
      some value.nftExitClass := by
    cases value.nftExitClass with
    | none => rfl
    | some exit =>
        have known := (enumeration_texts .add .applied exit .active .none).2.2.1
        simp [exitOfText?, known.1]
  simp only [resultOfWire, resultWireOf, links, operation.1, classification.1,
    exit, state.1, code.1]

private theorem parseCanonicalResult_steps
    {data : Bytes} {wire : ResultWire} {result : Result}
    {startedAt completedAt : Int}
    (decoded : strictDecode resultFields {} maxResultBytes data = .ok wire)
    (version : wire.schemaVersion = resultSchemaVersion)
    (started : parseCanonicalTime wire.startedAt = some startedAt)
    (completed : parseCanonicalTime wire.completedAt = some completedAt)
    (denoted : resultOfWire wire startedAt completedAt = .ok result)
    (valid : result.Valid)
    (written : data = marshalResultTimes result wire.startedAt
      wire.completedAt) :
    parseCanonicalResult crypto data =
      .ok ⟨result, data, digestText crypto data⟩ := by
  have checked : checkResult crypto result = .ok ⟨result, marshalResult result,
      digestText crypto (marshalResult result)⟩ :=
    Iff.mpr checkResult_eq_ok_iff ⟨valid, rfl⟩
  simp only [parseCanonicalResult, decoded, version, started, completed,
    denoted, checked, ← written, ne_eq, not_true_eq_false, if_false]

/-- A checked result is read back from its canonical bytes. -/
theorem parseCanonicalResult_marshalResult
    (valid : value.Valid)
    (started : Expressible value.startedAt)
    (completed : Expressible value.completedAt) :
    parseCanonicalResult crypto (marshalResult value) =
      .ok ⟨value, marshalResult value,
        digestText crypto (marshalResult value)⟩ := by
  have names := resultFields_texts.2.1
  have decoded := strictDecode_marshalStruct resultFields_complete
    (fun field member => by simpa using List.all_eq_true.mp names field member)
    (valid.within started.text.2 completed.text.2)
    (show _ ≤ maxResultBytes by decide)
  rw [← marshalResultTimes_eq] at decoded
  exact parseCanonicalResult_steps decoded rfl
    (parseCanonicalTime_format started) (parseCanonicalTime_format completed)
    (resultOfWire_resultWireOf valid _ _) valid rfl

/-- Whatever is read from the canonical bytes of a checked result is that result;
if the result is later than the canonical layout can express, nothing is. -/
theorem value_of_parseCanonicalResult
    (valid : value.Valid)
    (early : 1 ≤ Time.year value.startedAt)
    (accepted : parseCanonicalResult crypto (marshalResult value) =
      .ok checked) :
    checked.value = value ∧ Time.year value.completedAt ≤ 9999 := by
  have fits : ∀ field ∈ resultFields, field.Fits (resultWireOf value
      (Time.format value.startedAt) (Time.format value.completedAt)) := by
    intro field member
    exact (valid.within (Nat.le_max_left _ _) (Nat.le_max_right _ _) field
      member).1
  have times : ∀ wire, strictDecode resultFields {} maxResultBytes
      (marshalResult value) = .ok wire →
      wire.startedAt = Time.format value.startedAt ∧
        wire.completedAt = Time.format value.completedAt := by
    intro wire decoded
    rw [marshalResult, marshalResultTimes_eq] at decoded
    rw [eq_of_strictDecode_marshalStruct resultFields_complete fits decoded]
    exact ⟨rfl, rfl⟩
  have expressible : Expressible value.startedAt ∧
      Expressible value.completedAt := by
    obtain ⟨⟨wire, started, completed, decoded, startedParsed,
      completedParsed⟩, -⟩ := parseCanonicalResult_eq_ok accepted
    obtain ⟨startedText, completedText⟩ := times wire decoded
    rw [startedText] at startedParsed
    rw [completedText] at completedParsed
    have ordered := valid.ordered
    have nonnegative := (Time.one_le_year_iff _).mp early
    have later : 1 ≤ Time.year value.completedAt :=
      (Time.one_le_year_iff _).mpr (by omega)
    exact ⟨⟨early, Time.year_le_of_length_format
        (length_of_parseCanonicalTime startedParsed), valid.startedAt.2⟩,
      ⟨later, Time.year_le_of_length_format
        (length_of_parseCanonicalTime completedParsed),
        valid.completedAt.2⟩⟩
  rw [parseCanonicalResult_marshalResult valid expressible.1
    expressible.2] at accepted
  cases accepted
  exact ⟨rfl, expressible.2.upper⟩

/-- The instants of a result that the canonical layout expresses. -/
def Result.Dated (value : Result) : Prop :=
  (1 ≤ Time.year value.startedAt ∧ Time.year value.startedAt ≤ 9999) ∧
    1 ≤ Time.year value.completedAt ∧ Time.year value.completedAt ≤ 9999

/-- Checked results and canonical bytes determine each other. -/
theorem resultCodec_exact (crypto : Crypto) :
    (∀ value checked, checkResult crypto value = .ok checked → value.Dated →
      parseCanonicalResult crypto checked.canonical = .ok checked) ∧
    (∀ data checked, parseCanonicalResult crypto data = .ok checked →
      marshalResult checked.value = data ∧
        checkResult crypto checked.value = .ok checked) ∧
    Set.BijOn marshalResult
      {value | value.Dated ∧ ∃ checked, checkResult crypto value = .ok checked}
      {data | ∃ checked, parseCanonicalResult crypto data = .ok checked ∧
        checked.value.Dated} := by
  have reads : ∀ value checked, checkResult crypto value = .ok checked →
      value.Dated →
      parseCanonicalResult crypto checked.canonical = .ok checked := by
    intro value checked accepted dated
    obtain ⟨valid, rfl⟩ := Iff.mp checkResult_eq_ok_iff accepted
    exact parseCanonicalResult_marshalResult valid
      ⟨dated.1.1, dated.1.2, valid.startedAt.2⟩
      ⟨dated.2.1, dated.2.2, valid.completedAt.2⟩
  have writes : ∀ data checked,
      parseCanonicalResult crypto data = .ok checked →
      marshalResult checked.value = data ∧
        checkResult crypto checked.value = .ok checked := by
    intro data checked accepted
    obtain ⟨-, valid, written, canonical, digest⟩ :=
      parseCanonicalResult_eq_ok accepted
    refine ⟨written, Iff.mpr checkResult_eq_ok_iff ⟨valid, ?_⟩⟩
    rw [written, ← digest, ← canonical]
  refine ⟨reads, writes, ?_, ?_, ?_⟩
  · rintro value ⟨dated, checked, accepted⟩
    have read := reads value checked accepted dated
    obtain ⟨-, rfl⟩ := Iff.mp checkResult_eq_ok_iff accepted
    exact ⟨_, read, dated⟩
  · rintro first ⟨firstDated, firstChecked, firstAccepted⟩ second
      ⟨secondDated, secondChecked, secondAccepted⟩ same
    have firstRead := reads first firstChecked firstAccepted firstDated
    have secondRead := reads second secondChecked secondAccepted secondDated
    obtain ⟨-, rfl⟩ := Iff.mp checkResult_eq_ok_iff firstAccepted
    obtain ⟨-, rfl⟩ := Iff.mp checkResult_eq_ok_iff secondAccepted
    dsimp only at firstRead secondRead
    rw [same, secondRead] at firstRead
    exact (congrArg CheckedResult.value (Except.ok.inj firstRead)).symm
  · rintro data ⟨checked, accepted, dated⟩
    obtain ⟨written, checks⟩ := writes data checked accepted
    exact ⟨checked.value, ⟨dated, checked, checks⟩, written⟩

end SentinelFlow.Capability
