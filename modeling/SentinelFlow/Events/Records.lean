import SentinelFlow.Capability.Canonical

/-!
# Event records

The health and coverage records of package `events`, the batches that carry
them and their validation.  The contents of gateway and auth events are opaque
here; a timestamp is an instant in UTC, and the constant schema versions are
left out.
-/

namespace SentinelFlow.Events

open GoLib

inductive ErrorCode where
  | invalidFormat
  | outOfRange
  | invalidCardinality
  | invariantViolation
deriving DecidableEq, Repr

structure FieldError where
  field : String
  code : ErrorCode
  problem : String
deriving DecidableEq, Repr

/-- One check of a validation. -/
def require (holds : Bool) (field : String) (code : ErrorCode)
    (problem : String) : Option FieldError :=
  if holds then none else some { field, code, problem }

/-- The checks of a validation in order; the first failure is reported. -/
def firstError (checks : List (Option FieldError)) : Option FieldError :=
  checks.findSome? id

@[simp] theorem require_eq_none_iff
    {holds : Bool} {field problem : String} {code : ErrorCode} :
    require holds field code problem = none ↔ holds = true := by
  unfold require
  split <;> simp_all

@[simp] theorem firstError_eq_none_iff {checks : List (Option FieldError)} :
    firstError checks = none ↔ ∀ check ∈ checks, check = none := by
  simp [firstError]

def prefixError (label : String) (error : FieldError) : FieldError :=
  { error with
    field := if error.field ≠ "" ∧ error.field ≠ "$" then
      label ++ "." ++ error.field else label }

def maxSafeInteger : Nat := 9007199254740991

def maxEventBatchRecords : Nat := 100

def maxEventBatchBodyBytes : Nat := 256 * 1024

abbrev uuidPattern : Regexp := Capability.uuidPattern

/-- `^[a-z0-9][a-z0-9._-]{0,63}$` -/
def senderIDPattern : Regexp :=
  .seq (.bracket lowerAlnumClass 1 1)
    (.bracket Capability.identifierClass 0 63)

/-- `^[A-Za-z0-9_-]{22}$` -/
def senderEpochPattern : Regexp :=
  .bracket base64urlClass 22 22

def validateUUID (field : String) (value : Bytes) : Option FieldError :=
  require (uuidPattern.matchString value) field .invalidFormat
    "must be a lowercase UUID string"

def validateDigest (field : String) (value : Bytes) : Option FieldError :=
  require (digestPattern.matchString value) field .invalidFormat
    "must be a lowercase sha256 digest"

def validateSenderEpoch (field : String) (value : Bytes) : Option FieldError :=
  require (senderEpochPattern.matchString value &&
      (Base64.decode true value).any (·.length == 16)) field .invalidFormat
    "must be a 128-bit unpadded base64url value"

def validateMillisecondTimestamp (field : String) (value : Int) :
    Option FieldError :=
  require (decide (Time.MillisecondAligned value)) field .invalidFormat
    "must use at most millisecond precision"

def safePositive (value : Nat) : Bool :=
  1 ≤ value && value ≤ maxSafeInteger

/-! ## Health and coverage -/

inductive SourceHealthCause where
  | queueOverflow
  | deliveryOutage
  | rejectedBatch
  | sequenceGap
  | permanentLoss
  | uncleanRestart
  | unknownLoss
  | recovered
deriving DecidableEq, Repr

inductive SourceHealthState where
  | degraded
  | lost
  | recovered
deriving DecidableEq, Repr

inductive SourceHealthDetailCode where
  | none
  | knownRange
  | unknownRange
  | receiverRejected
  | senderRestart
  | deliveryRestored
deriving DecidableEq, Repr

structure SourceHealth where
  eventID : Bytes
  idempotencyKey : Bytes
  occurredAt : Int
  sourceID : Bytes
  cause : SourceHealthCause
  state : SourceHealthState
  affectedSenderEpoch : Bytes
  sequenceStart : Option Nat
  sequenceEnd : Option Nat
  intervalStart : Option Int
  intervalEnd : Option Int
  droppedCount : Nat
  detailCode : SourceHealthDetailCode
deriving DecidableEq, Repr

/-- Both ends of an optional range are present and in the wrong order. -/
def reversed {α : Type} [LT α] [DecidableLT α] (first last : Option α) : Bool :=
  match first, last with
  | some first, some last => last < first
  | _, _ => false

def SourceHealth.validate (event : SourceHealth) : Option FieldError :=
  firstError [
    validateUUID "event_id" event.eventID,
    validateDigest "idempotency_key" event.idempotencyKey,
    require (senderIDPattern.matchString event.sourceID) "source_id"
      .invalidFormat "must be a lowercase ASCII source identifier",
    validateSenderEpoch "affected_sender_epoch" event.affectedSenderEpoch,
    require (event.sequenceStart.all safePositive) "sequence_start" .outOfRange
      "must be null or a JSON safe positive integer",
    require (event.sequenceEnd.all safePositive) "sequence_end" .outOfRange
      "must be null or a JSON safe positive integer",
    require (!reversed event.sequenceStart event.sequenceEnd) "sequence_end"
      .invariantViolation "must not precede sequence_start",
    require (!reversed event.intervalStart event.intervalEnd) "interval_end"
      .invariantViolation "must not precede interval_start",
    require (event.droppedCount ≤ maxSafeInteger) "dropped_count" .outOfRange
      "must be a JSON safe integer"]

structure SourceCoverage where
  eventID : Bytes
  idempotencyKey : Bytes
  sourceID : Bytes
  affectedSenderEpoch : Bytes
  segmentID : Bytes
  previousCoverageDigest : Option Bytes
  coverageStart : Int
  coverageEnd : Int
  coveredThroughBatchID : Bytes
  coveredThroughSequence : Nat
deriving DecidableEq, Repr

def SourceCoverage.validate (event : SourceCoverage) : Option FieldError :=
  firstError [
    validateUUID "event_id" event.eventID,
    validateDigest "idempotency_key" event.idempotencyKey,
    require (senderIDPattern.matchString event.sourceID) "source_id"
      .invalidFormat "must be a lowercase ASCII source identifier",
    validateSenderEpoch "affected_sender_epoch" event.affectedSenderEpoch,
    validateUUID "segment_id" event.segmentID,
    event.previousCoverageDigest.bind
      (validateDigest "previous_coverage_digest"),
    validateMillisecondTimestamp "coverage_start" event.coverageStart,
    validateMillisecondTimestamp "coverage_end" event.coverageEnd,
    require (event.coverageStart ≤ event.coverageEnd) "coverage_end"
      .invariantViolation "must not precede coverage_start",
    validateUUID "covered_through_batch_id" event.coveredThroughBatchID,
    require (safePositive event.coveredThroughSequence)
      "covered_through_sequence" .outOfRange
      "must be a JSON safe positive integer"]

/-- The first sixteen bytes of a digest, marked as a version 8 UUID. -/
def uuidV8FromCoverageDigest (sum : Bytes) : Bytes :=
  let value := (sum.take 16).modify 6 fun byte => byte &&& 0x0f ||| 0x80
  let text := Hex.encodeToString
    (value.modify 8 fun byte => byte &&& 0x3f ||| 0x80)
  let part (first size : Nat) := (text.drop first).take size
  part 0 8 ++ ascii "-" ++ part 8 4 ++ ascii "-" ++ part 12 4 ++ ascii "-" ++
    part 16 4 ++ ascii "-" ++ part 20 12

/-- Lines that each end in a line feed. -/
def lines (texts : List Bytes) : Bytes :=
  texts.flatMap (· ++ ascii "\n")

section Coverage

variable (crypto : Crypto)

def coverageSegmentID (sourceID senderEpoch resetToken : Bytes) : Bytes :=
  uuidV8FromCoverageDigest (crypto.sha256
    (lines [ascii "source-coverage-segment-v1", sourceID, senderEpoch,
      resetToken]))

/-- `NewSourceCoverageV1`; every failure is reported in the same way. -/
def newSourceCoverage (sourceID senderEpoch segmentID : Bytes)
    (previousDigest : Option Bytes) (coverageStart coverageEnd : Int)
    (batchID : Bytes) (sequence : Nat) : Option SourceCoverage :=
  let identity := lines
    [ascii "source-coverage-v1", sourceID, senderEpoch, batchID]
  let event : SourceCoverage :=
    { eventID := uuidV8FromCoverageDigest (crypto.sha256 identity)
      idempotencyKey := digestText crypto identity
      sourceID
      affectedSenderEpoch := senderEpoch
      segmentID
      previousCoverageDigest := previousDigest
      coverageStart
      coverageEnd
      coveredThroughBatchID := batchID
      coveredThroughSequence := sequence }
  if ¬ Time.MillisecondAligned coverageStart ∨
      ¬ Time.MillisecondAligned coverageEnd then none
  else if event.validate = none then some event
  else none

end Coverage

/-- The texts of a valid marker need no escapes. -/
def quote (text : Bytes) : Bytes :=
  ascii "\"" ++ text ++ ascii "\""

/-- The members of a marker in the order of their names. -/
def SourceCoverage.members (event : SourceCoverage) : List (String × Bytes) :=
  [("affected_sender_epoch", quote event.affectedSenderEpoch),
    ("coverage_end", quote (Time.format event.coverageEnd)),
    ("coverage_start", quote (Time.format event.coverageStart)),
    ("covered_through_batch_id", quote event.coveredThroughBatchID),
    ("covered_through_sequence", formatUint event.coveredThroughSequence),
    ("event_id", quote event.eventID),
    ("idempotency_key", quote event.idempotencyKey),
    ("previous_coverage_digest",
      (event.previousCoverageDigest.map quote).getD (ascii "null")),
    ("schema_version", quote (ascii "source-coverage-v1")),
    ("segment_id", quote event.segmentID),
    ("source_id", quote event.sourceID),
    ("state", quote (ascii "complete"))]

/-- `CanonicalBytes`, for a marker that is valid. -/
def SourceCoverage.canonicalBytes (event : SourceCoverage) : Option Bytes :=
  if event.validate = none then
    some (ascii "\x7b" ++ (ascii ",").intercalate
      (event.members.map fun member =>
        quote (ascii member.1) ++ ascii ":" ++ member.2) ++ ascii "\x7d")
  else none

def SourceCoverage.digest (crypto : Crypto) (event : SourceCoverage) :
    Option Bytes :=
  event.canonicalBytes.map (digestText crypto)

/-! ## Batches -/

/-- A record holds exactly one event. -/
inductive EventRecord (G A : Type) where
  | gatewayHTTP (event : G)
  | authEvent (event : A)
  | sourceHealth (event : SourceHealth)
  | sourceCoverage (event : SourceCoverage)
deriving DecidableEq, Repr

structure EventBatch (G A : Type) where
  senderID : Bytes
  senderEpoch : Bytes
  batchID : Bytes
  sequence : Nat
  sentAt : Int
  records : List (EventRecord G A)
deriving DecidableEq, Repr

section Records

variable {G A : Type} (validateGateway : G → Option FieldError)
  (validateAuth : A → Option FieldError)

def EventRecord.validate : EventRecord G A → Option FieldError
  | .gatewayHTTP event => validateGateway event
  | .authEvent event => validateAuth event
  | .sourceHealth event => event.validate
  | .sourceCoverage event => event.validate

def recordField (index : Nat) : String :=
  if index < 100 then "records[" ++ toString index ++ "]" else "records"

/-- The second pass over the records: a marker is the last record and binds the
batch that contains it. -/
def EventBatch.coverageError (batch : EventBatch G A) (index : Nat) :
    EventRecord G A → Option FieldError
  | .sourceCoverage coverage =>
      firstError [
        require (index + 1 == batch.records.length) "records"
          .invariantViolation "source coverage must be the single final record",
        require (coverage.sourceID == batch.senderID &&
            coverage.affectedSenderEpoch == batch.senderEpoch &&
            coverage.coveredThroughBatchID == batch.batchID &&
            coverage.coveredThroughSequence == batch.sequence)
          (recordField index) .invariantViolation
          "source coverage must bind the containing batch"]
  | _ => none

def EventBatch.validate (batch : EventBatch G A) : Option FieldError :=
  firstError ([
    require (senderIDPattern.matchString batch.senderID) "sender_id"
      .invalidFormat "must be a lowercase ASCII sender identifier",
    validateSenderEpoch "sender_epoch" batch.senderEpoch,
    validateUUID "batch_id" batch.batchID,
    require (safePositive batch.sequence) "sequence" .outOfRange
      "must be a JSON safe positive integer",
    require (1 ≤ batch.records.length &&
        batch.records.length ≤ maxEventBatchRecords) "records"
      .invalidCardinality "must contain between 1 and 100 records"] ++
    batch.records.mapIdx (fun index record =>
      (record.validate validateGateway validateAuth).map
        (prefixError (recordField index))) ++
    batch.records.mapIdx batch.coverageError)

end Records

end SentinelFlow.Events
