import SentinelFlow.Delivery.Ledger
import SentinelFlow.Ingestion.Hmac

/-!
# What the senders put on the wire

The senders know an event by its offer.  With the event behind each offer given,
a batch of offers becomes a batch of package `events`, which the sample senders
below encode as the receiver decodes it.
-/

namespace SentinelFlow.Events

variable {G A H B : Type} (gateway : G → H) (auth : A → B)

def EventRecord.map : EventRecord G A → EventRecord H B
  | .gatewayHTTP event => .gatewayHTTP (gateway event)
  | .authEvent event => .authEvent (auth event)
  | .sourceHealth health => .sourceHealth health
  | .sourceCoverage coverage => .sourceCoverage coverage

def EventBatch.map (batch : EventBatch G A) : EventBatch H B where
  senderID := batch.senderID
  senderEpoch := batch.senderEpoch
  batchID := batch.batchID
  sequence := batch.sequence
  sentAt := batch.sentAt
  records := batch.records.map (EventRecord.map gateway auth)

end SentinelFlow.Events

namespace SentinelFlow.Delivery

open GoLib Events

section Wire

variable (gateway : Offer → GatewayHTTP) (auth : Offer → AuthEvent)

/-- The batch behind an envelope of offers. -/
def Envelope.wire (envelope : Envelope) : WireBatch :=
  EventBatch.map gateway auth envelope

end Wire

/-! ## A sender of each kind -/

/-- An identifier for each number of at most twelve digits. -/
def numberedID (number : Nat) : Bytes :=
  ascii "019b0000-0000-7000-8000-" ++ Time.appendField 12 number

def numberedKey (number : Nat) : Bytes :=
  digestLabel ++ Time.appendField 64 number

def sampleGatewayEvent (offer : Offer) : GatewayHTTP :=
  { Ingestion.sampleGatewayHTTP with
    eventID := numberedID offer.number
    requestID := numberedID offer.number
    idempotencyKey := numberedKey offer.number
    startedAt := offer.time
    completedAt := offer.time }

def sampleAuthEvent (offer : Offer) : AuthEvent :=
  { eventID := numberedID offer.number
    gatewayRequestID := numberedID offer.number
    traceID := numberedID offer.number
    idempotencyKey := numberedKey offer.number
    occurredAt := offer.time
    sourceIP := ascii "203.0.113.20"
    serviceLabel := ascii "demo-app"
    routeLabel := ascii "login"
    accountHash := ascii "hmac-sha256:" ++ Time.appendField 64 offer.number
    outcome := .failed }

def sampleConfig (kind : Kind) (batchSize queueCapacity : Nat)
    (batchSize_pos : 1 ≤ batchSize := by decide)
    (batchSize_le : batchSize ≤ maxEventBatchRecords := by decide)
    (batchSize_le_queue : batchSize ≤ queueCapacity := by decide)
    (queueCapacity_le : queueCapacity ≤ 1000000 := by decide) : Config where
  kind := kind
  crypto := Sha256.hashing
  marshal envelope := (envelope.wire sampleGatewayEvent sampleAuthEvent).marshal
  senderID := Ingestion.sampleSenderID
  epoch := Ingestion.sampleEpoch
  queueCapacity := queueCapacity
  batchSize := batchSize
  maxBatchBytes := maxEventBatchBodyBytes
  senderID_valid := by decide +kernel
  epoch_valid field := by
    rw [validateSenderEpoch, require_eq_none_iff]
    decide +kernel
  queueCapacity_le := queueCapacity_le
  batchSize_pos := batchSize_pos
  batchSize_le_records := batchSize_le
  batchSize_le_queue := batchSize_le_queue
  maxBatchBytes_ge := by decide
  maxBatchBytes_le := Nat.le_refl _

/-- The configuration for evaluation in the kernel. -/
def Config.swift (config : Config) : Config :=
  { config with crypto := Sha256.swiftHashing }

theorem Config.eq_swift
    {config : Config} (hashes : config.crypto = Sha256.hashing) :
    config = config.swift := by
  cases config
  rw [Config.swift, ← Sha256.hashing_eq_swiftHashing, ← hashes]

/-- Noon of a day in the year 2026. -/
def sampleClock : Int := 63902520000000000000

/-- The answer that acknowledges the batch in flight. -/
def Ledger.receipt (ledger : Ledger) (config : Config) : Attempt :=
  match ledger.flight with
  | none => .networkError
  | some flight =>
      .response 202 (some {
        senderID := config.senderID
        senderEpoch := config.epoch
        batchID := flight.batch.id
        sequence := flight.batch.sequence
        bodyDigest := digestText config.crypto flight.batch.body }) true

def sampleReading (number : Nat) : Reading :=
  { newID := some (numberedID number) }

end SentinelFlow.Delivery
