import SentinelFlow.Events.Records

/-!
# Gateway and authentication events

The two event types of package `events` that describe what clients did, with
their validation.  Fields that validation fixes to a constant (the schema
version, the protocol and the path catalogue) are left out.
-/

namespace SentinelFlow.Events

open GoLib

/-- `[a-z]` -/
def lowerClass (byte : UInt8) : Bool :=
  97 ≤ byte && byte ≤ 122

/-- `[A-Z]` -/
def upperClass (byte : UInt8) : Bool :=
  65 ≤ byte && byte ≤ 90

/-- `[a-z0-9_-]` -/
def labelClass (byte : UInt8) : Bool :=
  lowerAlnumClass byte || byte == 95 || byte == 45

/-- `[a-z0-9.-]` -/
def hostClass (byte : UInt8) : Bool :=
  lowerAlnumClass byte || byte == 46 || byte == 45

/-- `[1-9]` -/
def nonzeroDigitClass (byte : UInt8) : Bool :=
  49 ≤ byte && byte ≤ 57

/-- `^[a-z][a-z0-9_-]{0,63}$` -/
def labelPattern : Regexp :=
  .seq (.bracket lowerClass 1 1) (.bracket labelClass 0 63)

/-- `^[A-Z]{1,16}$` -/
def methodPattern : Regexp :=
  .bracket upperClass 1 16

/-- `^hmac-sha256:[0-9a-f]{64}$` -/
def accountHashPattern : Regexp :=
  .seq (.literal (ascii "hmac-sha256:")) (.bracket lowerHexClass 64 64)

/-- `(inner)?` -/
def optionalGroup (inner : Regexp) : Regexp :=
  .alt (.group inner) (.literal [])

/-- `^[a-z0-9]([a-z0-9.-]{0,251}[a-z0-9])?(:[1-9][0-9]{0,4})?$` -/
def hostPattern : Regexp :=
  .seq (.bracket lowerAlnumClass 1 1)
    (.seq
      (optionalGroup (.seq (.bracket hostClass 0 251)
        (.bracket lowerAlnumClass 1 1)))
      (optionalGroup (.seq (.literal (ascii ":"))
        (.seq (.bracket nonzeroDigitClass 1 1) (.bracket digitClass 0 4)))))

def validateLabel (field : String) (value : Bytes) : Option FieldError :=
  require (labelPattern.matchString value) field .invalidFormat
    "must be a lowercase ASCII label"

def validateIPv4 (field : String) (value : Bytes) : Option FieldError :=
  require (IPv4.canonicalText value) field .invalidFormat
    "must be a canonical IPv4 address"

inductive SuspiciousPathID where
  | none
  | adminConsole
  | envFile
  | gitConfig
  | wpAdmin
  | phpMyAdmin
  | serverStatus
  | actuatorEnv
  | backupArchive
deriving DecidableEq, Repr

structure GatewayHTTP where
  eventID : Bytes
  requestID : Bytes
  traceID : Bytes
  idempotencyKey : Bytes
  startedAt : Int
  completedAt : Int
  sourceIP : Bytes
  method : Bytes
  routeLabel : Bytes
  suspiciousPathID : SuspiciousPathID
  host : Bytes
  serviceLabel : Bytes
  statusCode : Nat
  requestBytes : Nat
  responseBytes : Nat
  latencyMS : Nat
deriving DecidableEq, Repr

def GatewayHTTP.validate (event : GatewayHTTP) : Option FieldError :=
  firstError [
    validateUUID "event_id" event.eventID,
    validateUUID "request_id" event.requestID,
    validateUUID "trace_id" event.traceID,
    validateDigest "idempotency_key" event.idempotencyKey,
    require (event.startedAt ≤ event.completedAt) "completed_at"
      .invariantViolation "must not precede started_at",
    validateIPv4 "source_ip" event.sourceIP,
    require (methodPattern.matchString event.method) "method" .invalidFormat
      "must be 1 to 16 uppercase ASCII letters",
    validateLabel "route_label" event.routeLabel,
    require (event.host.length ≤ 255 && hostPattern.matchString event.host)
      "host" .invalidFormat "must be a normalized lowercase ASCII host",
    validateLabel "service_label" event.serviceLabel,
    require (100 ≤ event.statusCode && event.statusCode ≤ 599) "status_code"
      .outOfRange "must be between 100 and 599",
    require (event.requestBytes ≤ 10485760) "request_bytes" .outOfRange
      "must be at most 10485760",
    require (event.responseBytes ≤ maxSafeInteger) "response_bytes" .outOfRange
      "must be a JSON safe integer",
    require (event.latencyMS ≤ 30000) "latency_ms" .outOfRange
      "must be at most 30000"]

inductive AuthOutcome where
  | failed
  | succeeded
deriving DecidableEq, Repr

structure AuthEvent where
  eventID : Bytes
  gatewayRequestID : Bytes
  traceID : Bytes
  idempotencyKey : Bytes
  occurredAt : Int
  sourceIP : Bytes
  serviceLabel : Bytes
  routeLabel : Bytes
  accountHash : Bytes
  outcome : AuthOutcome
deriving DecidableEq, Repr

def AuthEvent.validate (event : AuthEvent) : Option FieldError :=
  firstError [
    validateUUID "event_id" event.eventID,
    validateUUID "gateway_request_id" event.gatewayRequestID,
    validateUUID "trace_id" event.traceID,
    validateDigest "idempotency_key" event.idempotencyKey,
    validateIPv4 "source_ip" event.sourceIP,
    validateLabel "service_label" event.serviceLabel,
    validateLabel "route_label" event.routeLabel,
    require (accountHashPattern.matchString event.accountHash) "account_hash"
      .invalidFormat "must be a lowercase hmac-sha256 digest"]

/-- A record or batch with the two event types filled in. -/
abbrev WireRecord := EventRecord GatewayHTTP AuthEvent

abbrev WireBatch := EventBatch GatewayHTTP AuthEvent

/-- `EventBatchV1.Validate`. -/
def WireBatch.validate (batch : WireBatch) : Option FieldError :=
  EventBatch.validate GatewayHTTP.validate AuthEvent.validate batch

end SentinelFlow.Events
