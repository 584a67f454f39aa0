import SentinelFlow.Events.Activity
import SentinelFlow.GoLib.JsonObject
import SentinelFlow.GoLib.Rfc3339

/-!
# The wire format of event batches

`json.Marshal` of an event batch and the strict decoder `DecodeEventBatchV1`.
The encoder is reflective and writes the fields of a struct in their order; the
decoder reads them by name out of a map.  Every decoding error leads the caller
to the same answer, so a decoder returns an option.

The tokens of `json.Decoder` and `Json.parse` differ only on values nested
thousands deep, which no field accepts.
-/

namespace SentinelFlow.Events

open GoLib

/-! ## Enumerations -/

def SuspiciousPathID.text : SuspiciousPathID → Bytes
  | .none => ascii "none"
  | .adminConsole => ascii "admin_console"
  | .envFile => ascii "env_file"
  | .gitConfig => ascii "git_config"
  | .wpAdmin => ascii "wp_admin"
  | .phpMyAdmin => ascii "phpmyadmin"
  | .serverStatus => ascii "server_status"
  | .actuatorEnv => ascii "actuator_env"
  | .backupArchive => ascii "backup_archive"

def SuspiciousPathID.all : List SuspiciousPathID :=
  [.none, .adminConsole, .envFile, .gitConfig, .wpAdmin, .phpMyAdmin,
    .serverStatus, .actuatorEnv, .backupArchive]

def AuthOutcome.text : AuthOutcome → Bytes
  | .failed => ascii "failed"
  | .succeeded => ascii "succeeded"

def AuthOutcome.all : List AuthOutcome := [.failed, .succeeded]

def SourceHealthCause.text : SourceHealthCause → Bytes
  | .queueOverflow => ascii "queue_overflow"
  | .deliveryOutage => ascii "delivery_outage"
  | .rejectedBatch => ascii "rejected_batch"
  | .sequenceGap => ascii "sequence_gap"
  | .permanentLoss => ascii "permanent_loss"
  | .uncleanRestart => ascii "unclean_restart"
  | .unknownLoss => ascii "unknown_loss"
  | .recovered => ascii "recovered"

def SourceHealthCause.all : List SourceHealthCause :=
  [.queueOverflow, .deliveryOutage, .rejectedBatch, .sequenceGap,
    .permanentLoss, .uncleanRestart, .unknownLoss, .recovered]

def SourceHealthState.text : SourceHealthState → Bytes
  | .degraded => ascii "degraded"
  | .lost => ascii "lost"
  | .recovered => ascii "recovered"

def SourceHealthState.all : List SourceHealthState :=
  [.degraded, .lost, .recovered]

def SourceHealthDetailCode.text : SourceHealthDetailCode → Bytes
  | .none => ascii "none"
  | .knownRange => ascii "known_range"
  | .unknownRange => ascii "unknown_range"
  | .receiverRejected => ascii "receiver_rejected"
  | .senderRestart => ascii "sender_restart"
  | .deliveryRestored => ascii "delivery_restored"

def SourceHealthDetailCode.all : List SourceHealthDetailCode :=
  [.none, .knownRange, .unknownRange, .receiverRejected, .senderRestart,
    .deliveryRestored]

/-- The member of an enumeration with the given text; the texts of other strings
are refused by `valid`. -/
def ofText {α : Type} (all : List α) (text : α → Bytes) (value : Bytes) :
    Option α :=
  all.find? fun item => text item == value

/-! ## Encoding -/

/-- `Timestamp.MarshalJSON`. -/
def timestamp (instant : Int) : Json :=
  .string (Time.formatRFC3339Nano instant)

/-- A coverage timestamp has exactly three fractional digits. -/
def coverageTimestamp (instant : Int) : Json :=
  .string (Time.format instant)

def uint (value : Nat) : Json :=
  .number (formatUint value)

/-- A pointer; nil is written as `null`. -/
def nullable {α : Type} (write : α → Json) : Option α → Json
  | none => .null
  | some value => write value

def gatewayHTTPFields : List String :=
  ["schema_version", "event_id", "request_id", "trace_id", "idempotency_key",
    "started_at", "completed_at", "source_ip", "method", "protocol",
    "route_label", "path_catalog_version", "suspicious_path_id", "host",
    "service_label", "status_code", "request_bytes", "response_bytes",
    "latency_ms"]

def GatewayHTTP.members (event : GatewayHTTP) : List (String × Json) :=
  [("schema_version", .string (ascii "gateway-http-v1")),
    ("event_id", .string event.eventID),
    ("request_id", .string event.requestID),
    ("trace_id", .string event.traceID),
    ("idempotency_key", .string event.idempotencyKey),
    ("started_at", timestamp event.startedAt),
    ("completed_at", timestamp event.completedAt),
    ("source_ip", .string event.sourceIP),
    ("method", .string event.method),
    ("protocol", .string (ascii "HTTP/1.1")),
    ("route_label", .string event.routeLabel),
    ("path_catalog_version", .string (ascii "path-catalog-v1")),
    ("suspicious_path_id", .string event.suspiciousPathID.text),
    ("host", .string event.host),
    ("service_label", .string event.serviceLabel),
    ("status_code", uint event.statusCode),
    ("request_bytes", uint event.requestBytes),
    ("response_bytes", uint event.responseBytes),
    ("latency_ms", uint event.latencyMS)]

def authEventFields : List String :=
  ["schema_version", "event_id", "gateway_request_id", "trace_id",
    "idempotency_key", "occurred_at", "source_ip", "service_label",
    "route_label", "account_hash", "outcome"]

def AuthEvent.members (event : AuthEvent) : List (String × Json) :=
  [("schema_version", .string (ascii "auth-event-v1")),
    ("event_id", .string event.eventID),
    ("gateway_request_id", .string event.gatewayRequestID),
    ("trace_id", .string event.traceID),
    ("idempotency_key", .string event.idempotencyKey),
    ("occurred_at", timestamp event.occurredAt),
    ("source_ip", .string event.sourceIP),
    ("service_label", .string event.serviceLabel),
    ("route_label", .string event.routeLabel),
    ("account_hash", .string event.accountHash),
    ("outcome", .string event.outcome.text)]

def sourceHealthFields : List String :=
  ["schema_version", "event_id", "idempotency_key", "occurred_at", "source_id",
    "cause", "state", "affected_sender_epoch", "sequence_start",
    "sequence_end", "interval_start", "interval_end", "dropped_count",
    "detail_code"]

def SourceHealth.wireMembers (event : SourceHealth) : List (String × Json) :=
  [("schema_version", .string (ascii "source-health-v1")),
    ("event_id", .string event.eventID),
    ("idempotency_key", .string event.idempotencyKey),
    ("occurred_at", timestamp event.occurredAt),
    ("source_id", .string event.sourceID),
    ("cause", .string event.cause.text),
    ("state", .string event.state.text),
    ("affected_sender_epoch", .string event.affectedSenderEpoch),
    ("sequence_start", nullable uint event.sequenceStart),
    ("sequence_end", nullable uint event.sequenceEnd),
    ("interval_start", nullable timestamp event.intervalStart),
    ("interval_end", nullable timestamp event.intervalEnd),
    ("dropped_count", uint event.droppedCount),
    ("detail_code", .string event.detailCode.text)]

def sourceCoverageFields : List String :=
  ["schema_version", "event_id", "idempotency_key", "source_id",
    "affected_sender_epoch", "segment_id", "previous_coverage_digest",
    "coverage_start", "coverage_end", "covered_through_batch_id",
    "covered_through_sequence", "state"]

def SourceCoverage.wireMembers (event : SourceCoverage) :
    List (String × Json) :=
  [("schema_version", .string (ascii "source-coverage-v1")),
    ("event_id", .string event.eventID),
    ("idempotency_key", .string event.idempotencyKey),
    ("source_id", .string event.sourceID),
    ("affected_sender_epoch", .string event.affectedSenderEpoch),
    ("segment_id", .string event.segmentID),
    ("previous_coverage_digest", nullable .string event.previousCoverageDigest),
    ("coverage_start", coverageTimestamp event.coverageStart),
    ("coverage_end", coverageTimestamp event.coverageEnd),
    ("covered_through_batch_id", .string event.coveredThroughBatchID),
    ("covered_through_sequence", uint event.coveredThroughSequence),
    ("state", .string (ascii "complete"))]

def EventRecord.wireMembers : WireRecord → List (String × Json)
  | .gatewayHTTP event => event.members
  | .authEvent event => event.members
  | .sourceHealth event => event.wireMembers
  | .sourceCoverage event => event.wireMembers

def EventRecord.toJson (record : WireRecord) : Json :=
  .object (Json.named (EventRecord.wireMembers record))

def eventBatchFields : List String :=
  ["schema_version", "sender_id", "sender_epoch", "batch_id", "sequence",
    "sent_at", "records"]

def WireBatch.members (batch : WireBatch) : List (String × Json) :=
  [("schema_version", .string (ascii "event-batch-v1")),
    ("sender_id", .string batch.senderID),
    ("sender_epoch", .string batch.senderEpoch),
    ("batch_id", .string batch.batchID),
    ("sequence", uint batch.sequence),
    ("sent_at", timestamp batch.sentAt),
    ("records", .array (batch.records.map EventRecord.toJson))]

/-- `json.Marshal` of a batch. -/
def WireBatch.marshal (batch : WireBatch) : Option Bytes := do
  guard (batch.validate = none)
  let encoded := Json.marshal (.object (Json.named batch.members))
  guard (encoded.length ≤ maxEventBatchBodyBytes)
  return encoded

/-! ## Decoding -/

/-- The properties of a decoded object. -/
abbrev Fields := List (Bytes × Json)

/-- One JSON object without duplicate properties. -/
def decodeObject : Json → Option Fields
  | .object members =>
      if Json.distinctNames (members.map Prod.fst) then some members else none
  | _ => none

/-- Every property is allowed and every allowed property is there. -/
def validateObjectFields (fields : Fields) (allowed : List String) : Bool :=
  fields.all (fun field => (allowed.map ascii).contains field.1) &&
    allowed.all (fun name => (Json.member fields name).isSome)

def decodeJSONString : Json → Option Bytes
  | .string text => some text
  | _ => none

def readString (fields : Fields) (name : String) : Option Bytes :=
  (Json.member fields name).bind decodeJSONString

/-- The properties that may be `null`. -/
def readNullable {α : Type} (decode : Json → Option α) (fields : Fields)
    (name : String) : Option (Option α) :=
  match Json.member fields name with
  | none => none
  | some .null => some none
  | some value => (decode value).map some

def readNullableString (fields : Fields) (name : String) :
    Option (Option Bytes) :=
  readNullable decodeJSONString fields name

def parseTimestamp (value : Bytes) : Option Int :=
  if value.getLast? = some 90 then Time.parseRFC3339 value else none

def readTimestamp (fields : Fields) (name : String) : Option Int :=
  (readString fields name).bind parseTimestamp

def readMillisecondTimestamp (fields : Fields) (name : String) : Option Int :=
  do
    let value ← readString fields name
    let instant ← parseTimestamp value
    guard (Time.format instant = value)
    return instant

def readNullableTimestamp (fields : Fields) (name : String) :
    Option (Option Int) :=
  readNullable (fun value => (decodeJSONString value).bind parseTimestamp)
    fields name

/-- `isValidNumber` of package `encoding/json`. -/
def isValidNumber (text : Bytes) : Bool :=
  let whole (unsigned : Bytes) : Bool :=
    (Json.scanUnsigned unsigned).any fun scanned => scanned.2.isEmpty
  match text with
  | [] => false
  | byte :: rest =>
      if byte = charByte '-' then whole rest else whole (byte :: rest)

/-- The text of a `json.Number`, which a string may hold as well. -/
def numberText : Json → Option Bytes
  | .number literal => some literal
  | .string text => if isValidNumber text then some text else none
  | _ => none

def decodeUint (minimum maximum : Nat) (value : Json) : Option Nat := do
  let text ← numberText value
  guard (!text.any fun byte => (ascii ".eE").contains byte)
  let number ← parseUint 64 text
  guard (minimum ≤ number ∧ number ≤ maximum)
  return number

def readUint (fields : Fields) (name : String) (minimum maximum : Nat) :
    Option Nat :=
  (Json.member fields name).bind (decodeUint minimum maximum)

def readNullableUint (fields : Fields) (name : String)
    (minimum maximum : Nat) : Option (Option Nat) :=
  readNullable (decodeUint minimum maximum) fields name

def readRawArray (fields : Fields) (name : String) : Option (List Json) :=
  match Json.member fields name with
  | some (.array items) => some items
  | _ => none

def decodeGatewayHTTPObject (fields : Fields) : Option GatewayHTTP := do
  guard (validateObjectFields fields gatewayHTTPFields)
  let schemaVersion ← readString fields "schema_version"
  let eventID ← readString fields "event_id"
  let requestID ← readString fields "request_id"
  let traceID ← readString fields "trace_id"
  let idempotencyKey ← readString fields "idempotency_key"
  let startedAt ← readTimestamp fields "started_at"
  let completedAt ← readTimestamp fields "completed_at"
  let sourceIP ← readString fields "source_ip"
  let method ← readString fields "method"
  let protocol ← readString fields "protocol"
  let routeLabel ← readString fields "route_label"
  let pathCatalogVersion ← readString fields "path_catalog_version"
  let suspiciousPathID ← readString fields "suspicious_path_id"
  let host ← readString fields "host"
  let serviceLabel ← readString fields "service_label"
  let statusCode ← readUint fields "status_code" 100 599
  let requestBytes ← readUint fields "request_bytes" 0 10485760
  let responseBytes ← readUint fields "response_bytes" 0 maxSafeInteger
  let latencyMS ← readUint fields "latency_ms" 0 30000
  guard (schemaVersion = ascii "gateway-http-v1")
  guard (protocol = ascii "HTTP/1.1")
  guard (pathCatalogVersion = ascii "path-catalog-v1")
  let suspiciousPathID ←
    ofText SuspiciousPathID.all SuspiciousPathID.text suspiciousPathID
  let event : GatewayHTTP :=
    { eventID, requestID, traceID, idempotencyKey, startedAt, completedAt,
      sourceIP, method, routeLabel, suspiciousPathID, host, serviceLabel,
      statusCode, requestBytes, responseBytes, latencyMS }
  guard (event.validate = none)
  return event

def decodeAuthEventObject (fields : Fields) : Option AuthEvent := do
  guard (validateObjectFields fields authEventFields)
  let schemaVersion ← readString fields "schema_version"
  let eventID ← readString fields "event_id"
  let gatewayRequestID ← readString fields "gateway_request_id"
  let traceID ← readString fields "trace_id"
  let idempotencyKey ← readString fields "idempotency_key"
  let occurredAt ← readTimestamp fields "occurred_at"
  let sourceIP ← readString fields "source_ip"
  let serviceLabel ← readString fields "service_label"
  let routeLabel ← readString fields "route_label"
  let accountHash ← readString fields "account_hash"
  let outcome ← readString fields "outcome"
  guard (schemaVersion = ascii "auth-event-v1")
  let outcome ← ofText AuthOutcome.all AuthOutcome.text outcome
  let event : AuthEvent :=
    { eventID, gatewayRequestID, traceID, idempotencyKey, occurredAt, sourceIP,
      serviceLabel, routeLabel, accountHash, outcome }
  guard (event.validate = none)
  return event

def decodeSourceHealthObject (fields : Fields) : Option SourceHealth := do
  guard (validateObjectFields fields sourceHealthFields)
  let schemaVersion ← readString fields "schema_version"
  let eventID ← readString fields "event_id"
  let idempotencyKey ← readString fields "idempotency_key"
  let occurredAt ← readTimestamp fields "occurred_at"
  let sourceID ← readString fields "source_id"
  let cause ← readString fields "cause"
  let state ← readString fields "state"
  let affectedSenderEpoch ← readString fields "affected_sender_epoch"
  let sequenceStart ← readNullableUint fields "sequence_start" 1 maxSafeInteger
  let sequenceEnd ← readNullableUint fields "sequence_end" 1 maxSafeInteger
  let intervalStart ← readNullableTimestamp fields "interval_start"
  let intervalEnd ← readNullableTimestamp fields "interval_end"
  let droppedCount ← readUint fields "dropped_count" 0 maxSafeInteger
  let detailCode ← readString fields "detail_code"
  guard (schemaVersion = ascii "source-health-v1")
  let cause ← ofText SourceHealthCause.all SourceHealthCause.text cause
  let state ← ofText SourceHealthState.all SourceHealthState.text state
  let detailCode ←
    ofText SourceHealthDetailCode.all SourceHealthDetailCode.text detailCode
  let event : SourceHealth :=
    { eventID, idempotencyKey, occurredAt, sourceID, cause, state,
      affectedSenderEpoch, sequenceStart, sequenceEnd, intervalStart,
      intervalEnd, droppedCount, detailCode }
  guard (event.validate = none)
  return event

def decodeSourceCoverageObject (fields : Fields) : Option SourceCoverage := do
  guard (validateObjectFields fields sourceCoverageFields)
  let schemaVersion ← readString fields "schema_version"
  let eventID ← readString fields "event_id"
  let idempotencyKey ← readString fields "idempotency_key"
  let sourceID ← readString fields "source_id"
  let affectedSenderEpoch ← readString fields "affected_sender_epoch"
  let segmentID ← readString fields "segment_id"
  let previousCoverageDigest ←
    readNullableString fields "previous_coverage_digest"
  let coverageStart ← readMillisecondTimestamp fields "coverage_start"
  let coverageEnd ← readMillisecondTimestamp fields "coverage_end"
  let coveredThroughBatchID ← readString fields "covered_through_batch_id"
  let coveredThroughSequence ←
    readUint fields "covered_through_sequence" 1 maxSafeInteger
  let state ← readString fields "state"
  guard (schemaVersion = ascii "source-coverage-v1")
  guard (state = ascii "complete")
  let event : SourceCoverage :=
    { eventID, idempotencyKey, sourceID, affectedSenderEpoch, segmentID,
      previousCoverageDigest, coverageStart, coverageEnd,
      coveredThroughBatchID, coveredThroughSequence }
  guard (event.validate = none)
  return event

/-- The schema version selects the decoder of a record. -/
def decodeEventRecordObject (fields : Fields) : Option WireRecord :=
  match readString fields "schema_version" with
  | none => none
  | some schemaVersion =>
      if schemaVersion = ascii "gateway-http-v1" then
        (decodeGatewayHTTPObject fields).map .gatewayHTTP
      else if schemaVersion = ascii "auth-event-v1" then
        (decodeAuthEventObject fields).map .authEvent
      else if schemaVersion = ascii "source-health-v1" then
        (decodeSourceHealthObject fields).map .sourceHealth
      else if schemaVersion = ascii "source-coverage-v1" then
        (decodeSourceCoverageObject fields).map .sourceCoverage
      else none

def decodeEventRecord (value : Json) : Option WireRecord :=
  (decodeObject value).bind decodeEventRecordObject

def decodeEventBatchObject (fields : Fields) : Option WireBatch := do
  guard (validateObjectFields fields eventBatchFields)
  let schemaVersion ← readString fields "schema_version"
  let senderID ← readString fields "sender_id"
  let senderEpoch ← readString fields "sender_epoch"
  let batchID ← readString fields "batch_id"
  let sequence ← readUint fields "sequence" 1 maxSafeInteger
  let sentAt ← readTimestamp fields "sent_at"
  let records ← readRawArray fields "records"
  guard (1 ≤ records.length ∧ records.length ≤ maxEventBatchRecords)
  let records ← records.mapM decodeEventRecord
  guard (schemaVersion = ascii "event-batch-v1")
  let batch : WireBatch :=
    { senderID, senderEpoch, batchID, sequence, sentAt, records }
  guard (batch.validate = none)
  return batch

/-- `DecodeEventBatchV1`. -/
def decodeEventBatch (data : Bytes) : Option WireBatch := do
  guard (data.length ≤ maxEventBatchBodyBytes)
  let value ← Json.parse data
  let fields ← decodeObject value
  decodeEventBatchObject fields

end SentinelFlow.Events
