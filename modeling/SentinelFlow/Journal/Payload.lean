import SentinelFlow.Capability.Signing
import SentinelFlow.GoLib.Base64
import SentinelFlow.Journal.Frame

/-!
# Journal record payloads

A payload is a canonical JSON object that repeats the signed capability, and for
a terminal record the signed result, next to the recorded times, the sequence
number, the digest of the previous payload and a checksum of itself.  Replaying
a record authenticates everything again.
-/

namespace SentinelFlow.Journal

open GoLib Capability

def schemaRecordV1 : Bytes := ascii "executor-journal-record-v1"

def phaseStarted : Bytes := ascii "started"

def phaseTerminal : Bytes := ascii "terminal"

/-- `MaxDeadline`, two seconds. -/
def maxDeadline : Int := 2 * Time.second

structure RecordPayload where
  artifactB64URL : Bytes := []
  artifactDigest : Bytes := []
  capabilityDigest : Bytes := []
  capabilityID : Bytes := []
  capabilityJCSB64URL : Bytes := []
  capabilitySignatureB64URL : Bytes := []
  deadline : Bytes := []
  journalSequence : Nat := 0
  operation : Bytes := []
  ownedSchemaDigest : Bytes := []
  phase : Bytes := []
  previousRecordDigest : Option Bytes := none
  receivedAt : Bytes := []
  recordChecksum : Bytes := []
  schemaVersion : Bytes := []
  targetIPv4 : Bytes := []
  terminalResultDigest : Option Bytes := none
  terminalResultJCSB64URL : Option Bytes := none
  terminalResultSignatureB64URL : Option Bytes := none
deriving DecidableEq, Repr

def recordChecksumName : Bytes := ascii "record_checksum"

/-- The tagged fields, in the order of their names. -/
def recordFields : List (Json.Field RecordPayload) :=
  [.text (ascii "artifact_b64url") (·.artifactB64URL)
      (fun payload text => { payload with artifactB64URL := text }),
    .text (ascii "artifact_digest") (·.artifactDigest)
      (fun payload text => { payload with artifactDigest := text }),
    .text (ascii "capability_digest") (·.capabilityDigest)
      (fun payload text => { payload with capabilityDigest := text }),
    .text (ascii "capability_id") (·.capabilityID)
      (fun payload text => { payload with capabilityID := text }),
    .text (ascii "capability_jcs_b64url") (·.capabilityJCSB64URL)
      (fun payload text => { payload with capabilityJCSB64URL := text }),
    .text (ascii "capability_signature_b64url") (·.capabilitySignatureB64URL)
      (fun payload text => { payload with capabilitySignatureB64URL := text }),
    .text (ascii "deadline") (·.deadline)
      (fun payload text => { payload with deadline := text }),
    .uint 64 (ascii "journal_sequence") (·.journalSequence)
      (fun payload number => { payload with journalSequence := number }),
    .text (ascii "operation") (·.operation)
      (fun payload text => { payload with operation := text }),
    .text (ascii "owned_schema_digest") (·.ownedSchemaDigest)
      (fun payload text => { payload with ownedSchemaDigest := text }),
    .text (ascii "phase") (·.phase)
      (fun payload text => { payload with phase := text }),
    .textPointer (ascii "previous_record_digest") (·.previousRecordDigest)
      (fun payload text => { payload with previousRecordDigest := text }),
    .text (ascii "received_at") (·.receivedAt)
      (fun payload text => { payload with receivedAt := text }),
    .text recordChecksumName (·.recordChecksum)
      (fun payload text => { payload with recordChecksum := text }),
    .text (ascii "schema_version") (·.schemaVersion)
      (fun payload text => { payload with schemaVersion := text }),
    .text (ascii "target_ipv4") (·.targetIPv4)
      (fun payload text => { payload with targetIPv4 := text }),
    .textPointer (ascii "terminal_result_digest") (·.terminalResultDigest)
      (fun payload text => { payload with terminalResultDigest := text }),
    .textPointer (ascii "terminal_result_jcs_b64url")
      (·.terminalResultJCSB64URL)
      (fun payload text => { payload with terminalResultJCSB64URL := text }),
    .textPointer (ascii "terminal_result_signature_b64url")
      (·.terminalResultSignatureB64URL)
      (fun payload text =>
        { payload with terminalResultSignatureB64URL := text })]

/-- The fields of `recordChecksumPayload`: all but the checksum itself. -/
def checksumFields : List (Json.Field RecordPayload) :=
  recordFields.filter fun field => field.name != recordChecksumName

structure TerminalRecord where
  sequence : Nat
  signed : SignedResult
  verified : VerifiedResult
deriving DecidableEq, Repr

structure StartedRecord where
  sequence : Nat
  signed : SignedCapability
  verified : VerifiedCapability
  received : Int
  deadline : Int
  terminal : Option TerminalRecord := none
deriving DecidableEq, Repr

/-- An empty digest stands for no previous record. -/
def optionalDigest (digest : Bytes) : Option Bytes :=
  if digest = [] then none else some digest

def newStartedPayload (signed : SignedCapability)
    (verified : VerifiedCapability) (received deadline : Int) (sequence : Nat)
    (previous : Bytes) : RecordPayload :=
  { artifactB64URL := Base64.encode signed.artifact
    artifactDigest := verified.value.artifactDigest
    capabilityDigest := verified.digest
    capabilityID := verified.value.capabilityID
    capabilityJCSB64URL := Base64.encode signed.canonical
    capabilitySignatureB64URL := Base64.encode signed.signature
    deadline := Time.format deadline
    journalSequence := sequence
    operation := verified.value.operation.text
    ownedSchemaDigest := verified.value.ownedSchemaDigest
    phase := phaseStarted
    previousRecordDigest := optionalDigest previous
    receivedAt := Time.format received
    schemaVersion := schemaRecordV1
    targetIPv4 := verified.value.targetIPv4 }

def newTerminalPayload (start : StartedRecord) (signed : SignedResult)
    (verified : VerifiedResult) (sequence : Nat) (previous : Bytes) :
    RecordPayload :=
  { newStartedPayload start.signed start.verified start.received start.deadline
      sequence previous with
    phase := phaseTerminal
    terminalResultDigest := some verified.digest
    terminalResultJCSB64URL := some (Base64.encode signed.canonical)
    terminalResultSignatureB64URL := some (Base64.encode signed.signature) }

/-- Decodes without unknown fields or trailing text, and accepts only the text
that marshalling would produce. -/
def strictPayload (data : Bytes) : Option RecordPayload :=
  if data = [] ∨ data.length > maxPayloadBytes then none
  else match Json.unmarshal recordFields true {} data with
  | none => none
  | some payload =>
      if Json.marshalStruct recordFields payload ≠ data then none
      else some payload

/-- The package's own digest test: hexadecimal digits of either case. -/
def validDigest (text : Bytes) : Bool :=
  text.length == digestLabel.length + 2 * 32 && digestLabel.isPrefixOf text &&
    (Hex.decodeString (text.drop digestLabel.length)).any fun decoded =>
      decoded.length == 32

def decodeBytes (text : Bytes) (maximum : Nat) : Option Bytes :=
  if text = [] then none
  else match Base64.decode true text with
  | none => none
  | some decoded =>
      if decoded = [] ∨ decoded.length > maximum ∨
          Base64.encode decoded ≠ text then
        none
      else some decoded

def parseTime (text : Bytes) : Option Int :=
  match Time.parse text with
  | none => none
  | some instant => if Time.format instant = text then some instant else none

/-- The recorded times, if they are canonical and at most two seconds apart. -/
def parseInterval (payload : RecordPayload) : Option (Int × Int) :=
  match parseTime payload.receivedAt, parseTime payload.deadline with
  | some received, some deadline =>
      if ¬ deadline > received ∨ deadline - received > maxDeadline then none
      else some (received, deadline)
  | _, _ => none

/-- A decoded signature has 64 bytes. -/
def validSignature (text : Bytes) : Bool :=
  (decodeBytes text signatureSize).any fun signature =>
    signature.length == signatureSize

/-- The tests of `validRecordShape` that do not depend on the phase. -/
def validCommonShape (payload : RecordPayload) (sequence : Nat) : Bool :=
  if payload.schemaVersion ≠ schemaRecordV1 ∨
      payload.journalSequence ≠ sequence ∨ sequence = 0 ∨
      payload.capabilityID = [] ∨ payload.targetIPv4 = [] ∨
      ¬ validDigest payload.capabilityDigest ∨
      ¬ validDigest payload.artifactDigest ∨
      ¬ validDigest payload.ownedSchemaDigest ∨
      ¬ validDigest payload.recordChecksum ∨
      ¬ payload.previousRecordDigest.all validDigest then
    false
  else if Operation.ofText? payload.operation = none then false
  else if decodeBytes payload.capabilityJCSB64URL maxCapabilityBytes = none then
    false
  else if ¬ validSignature payload.capabilitySignatureB64URL then false
  else if decodeBytes payload.artifactB64URL maxArtifactBytes = none then false
  else parseInterval payload != none

def validRecordShape (payload : RecordPayload) (recordType : RecordType)
    (sequence : Nat) : Bool :=
  if ¬ validCommonShape payload sequence then false
  else if payload.phase = phaseStarted then
    recordType == .started && payload.terminalResultDigest == none &&
      payload.terminalResultJCSB64URL == none &&
      payload.terminalResultSignatureB64URL == none
  else if payload.phase = phaseTerminal then
    recordType == .terminal && payload.previousRecordDigest.isSome &&
      payload.terminalResultDigest.any validDigest &&
      payload.terminalResultJCSB64URL.any (fun text =>
        (decodeBytes text maxResultBytes).isSome) &&
      payload.terminalResultSignatureB64URL.any validSignature
  else false

section Crypto

variable (crypto : Crypto)

def checksumText (payload : RecordPayload) : Bytes :=
  digestText crypto (Json.marshalStruct checksumFields payload)

/-- A payload with its checksum filled in. -/
def RecordPayload.sealed (payload : RecordPayload) : RecordPayload :=
  { payload with recordChecksum := checksumText crypto payload }

def marshalRecordPayload (payload : RecordPayload) :
    Except ErrorCode (Bytes × Bytes) :=
  if payload.recordChecksum ≠ [] then .error .corrupt
  else
    let encoded := Json.marshalStruct recordFields (payload.sealed crypto)
    if encoded = [] ∨ encoded.length > maxPayloadBytes then .error .corrupt
    else .ok (encoded, digestText crypto encoded)

def parseRecordPayload (data : Bytes) (recordType : RecordType)
    (sequence : Nat) (previous : Bytes) :
    Except ErrorCode (RecordPayload × Bytes) :=
  match strictPayload data with
  | none => .error .corrupt
  | some payload =>
      if ¬ validRecordShape payload recordType sequence then .error .corrupt
      else if payload.recordChecksum ≠ checksumText crypto payload then
        .error .corrupt
      else if sequence = 1 then
        if previous ≠ [] ∨ payload.previousRecordDigest ≠ none then
          .error .corrupt
        else .ok (payload, digestText crypto data)
      else if previous = [] ∨ payload.previousRecordDigest ≠ some previous then
        .error .corrupt
      else .ok (payload, digestText crypto data)

def parseStartedPayload (verifier : CapabilityVerifier)
    (payload : RecordPayload) (sequence : Nat) :
    Except ErrorCode StartedRecord :=
  match decodeBytes payload.capabilityJCSB64URL maxCapabilityBytes,
      decodeBytes payload.capabilitySignatureB64URL signatureSize,
      decodeBytes payload.artifactB64URL maxArtifactBytes with
  | some canonical, some signature, some artifact =>
      if verifier.keyID = [] then .error .corrupt
      else
        let signed : SignedCapability :=
          { keyID := verifier.keyID, canonical, signature, artifact }
        match verifier.verify crypto signed with
        | .error _ => .error .verification
        | .ok verified =>
            if payload.capabilityID ≠ verified.value.capabilityID ∨
                payload.capabilityDigest ≠ verified.digest ∨
                payload.artifactDigest ≠ verified.value.artifactDigest ∨
                payload.ownedSchemaDigest ≠ verified.value.ownedSchemaDigest ∨
                payload.operation ≠ verified.value.operation.text ∨
                payload.targetIPv4 ≠ verified.value.targetIPv4 then
              .error .verification
            else match parseInterval payload with
            | none => .error .time
            | some (received, deadline) =>
                if deadline > verified.value.expiresAt then .error .time
                else .ok { sequence, signed, verified, received, deadline }
  | _, _, _ => .error .corrupt

/-- The part of a terminal record that repeats its started record. -/
def repeatsStart (payload : RecordPayload) (start : StartedRecord) : Bool :=
  decodeBytes payload.capabilityJCSB64URL maxCapabilityBytes ==
      some start.signed.canonical &&
    decodeBytes payload.capabilitySignatureB64URL signatureSize ==
      some start.signed.signature &&
    decodeBytes payload.artifactB64URL maxArtifactBytes ==
      some start.signed.artifact &&
    payload.capabilityID == start.verified.value.capabilityID &&
    payload.capabilityDigest == start.verified.digest &&
    payload.artifactDigest == start.verified.value.artifactDigest &&
    payload.ownedSchemaDigest == start.verified.value.ownedSchemaDigest &&
    payload.operation == start.verified.value.operation.text &&
    payload.targetIPv4 == start.verified.value.targetIPv4 &&
    payload.receivedAt == Time.format start.received &&
    payload.deadline == Time.format start.deadline

def parseTerminalPayload (verifier : ResultVerifier) (payload : RecordPayload)
    (sequence : Nat) (start : StartedRecord) :
    Except ErrorCode TerminalRecord :=
  if ¬ repeatsStart payload start then .error .verification
  else match payload.terminalResultJCSB64URL.bind
        (decodeBytes · maxResultBytes),
      payload.terminalResultSignatureB64URL.bind
        (decodeBytes · signatureSize) with
  | some canonical, some signature =>
      if verifier.keyID = [] ∨ verifier.executorID = [] then .error .corrupt
      else
        let signed : SignedResult :=
          { keyID := verifier.keyID, executorID := verifier.executorID,
            canonical, signature }
        match verifier.verify crypto signed with
        | .error _ => .error .verification
        | .ok verified =>
            match bindResult verified.value start.verified
                verified.executorID with
            | .error _ => .error .verification
            | .ok _ =>
                if verified.value.journalSequence ≠ start.sequence ∨
                    payload.terminalResultDigest ≠ some verified.digest then
                  .error .verification
                else .ok { sequence, signed, verified }
  | _, _ => .error .corrupt

end Crypto

end SentinelFlow.Journal
