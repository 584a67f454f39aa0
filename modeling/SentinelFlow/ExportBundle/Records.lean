import SentinelFlow.Capability.Canonical
import SentinelFlow.Events.Activity
import SentinelFlow.GoLib.JsonIndent
import SentinelFlow.GoLib.JsonNested
import SentinelFlow.GoLib.Ordered
import SentinelFlow.GoLib.Rfc3339

/-!
# Exported records

The bundle of package `exportbundle`: a manifest, the incident records and the
audit records, with their JSON text and the digests over it.  A nil slice and an
empty one are the same list here.
-/

namespace SentinelFlow.ExportBundle

open GoLib

def bundleSchemaVersion : Bytes := ascii "sentinelflow-export-bundle-v1"

def manifestSchemaVersion : Bytes := ascii "sentinelflow-export-manifest-v1"

def incidentSchemaVersion : Bytes := ascii "sentinelflow-export-incident-v1"

def auditSchemaVersion : Bytes := ascii "sentinelflow-export-audit-v1"

def pseudonymAlgorithm : Bytes := ascii "HMAC-SHA-256"

def genesisDigest : Bytes := digestLabel ++ List.replicate 64 (charByte '0')

def minimumPseudonymKeyBytes : Nat := 32

def maximumPseudonymKeyBytes : Nat := 64

def maximumExportWindow : Int := 31 * 24 * 3600 * Time.second

def maximumIncidentRecords : Nat := 10000

def maximumAuditRecords : Nat := 50000

def maximumBundleBytes : Nat := 64 * 2 ^ 20

def maximumAuditSequence : Int := 2 ^ 53 - 1

abbrev uuidPattern : Regexp := Capability.uuidPattern

/-- `^[a-z0-9][a-z0-9._-]{0,63}$` -/
def labelPattern : Regexp :=
  .seq (.bracket lowerAlnumClass 1 1)
    (.bracket Capability.identifierClass 0 63)

/-- `^[a-z0-9][a-z0-9._-]{0,127}$` -/
abbrev asciiIDPattern : Regexp := Capability.actorPattern

/-- `^[a-z][a-z0-9_-]{0,63}$` -/
abbrev eventLabelPattern : Regexp := Events.labelPattern

/-- `^(?:0|0\.[0-9]{1,5}|1|1\.0{1,5})$` -/
def scorePattern : Regexp :=
  .alt (.literal (ascii "0")) (.alt
    (.seq (.literal (ascii "0.")) (.bracket digitClass 1 5)) (.alt
      (.literal (ascii "1"))
      (.seq (.literal (ascii "1.")) (.bracket (· == charByte '0') 1 5))))

/-- `^(?:source|actor|trace):[0-9a-f]{64}$` -/
def pseudonymPattern : Regexp :=
  .seq (.alt (.literal (ascii "source")) (.alt (.literal (ascii "actor"))
    (.literal (ascii "trace"))))
    (.seq (.literal (ascii ":")) (.bracket lowerHexClass 64 64))

def allowedIncidentKinds : List Bytes :=
  [ascii "credential_stuffing", ascii "brute_force", ascii "path_scan",
    ascii "request_burst", ascii "mixed", ascii "unknown"]

def stateClosed : Bytes := ascii "closed"

def stateAnalysisFailed : Bytes := ascii "analysis_failed"

def allowedIncidentStates : List Bytes :=
  [ascii "open", ascii "analyzing", ascii "review_ready", stateAnalysisFailed,
    stateClosed]

def allowedAnalysisFailures : List Bytes :=
  [ascii "budget_exhausted", ascii "input_too_large", ascii "network_error",
    ascii "http_408", ascii "http_409", ascii "rate_limited",
    ascii "server_error", ascii "timeout", ascii "refused", ascii "incomplete",
    ascii "schema_invalid", ascii "evidence_invalid",
    ascii "unsupported_action", ascii "cancelled",
    ascii "configuration_error"]

def allowedActorTypes : List Bytes :=
  [ascii "administrator", ascii "system", ascii "dispatcher",
    ascii "executor"]

def allowedOutcomes : List Bytes :=
  [ascii "accepted", ascii "rejected", ascii "succeeded", ascii "failed",
    ascii "indeterminate"]

/-- The value of a decimal text with an optional fraction, as `big.Rat` reads
it. -/
def decimalRat (text : Bytes) : Option Rat :=
  let whole := text.takeWhile isDigit
  match text.dropWhile isDigit with
  | [] => if whole = [] then none else some (decimalValue whole)
  | byte :: fraction =>
      if byte = charByte '.' ∧ fraction.all isDigit ∧
          whole ++ fraction ≠ [] then
        some (decimalValue whole +
          (decimalValue fraction : Rat) / 10 ^ fraction.length)
      else none

def scoreWithinBounds (value : Bytes) : Bool :=
  (decimalRat value).any fun score => decide (0 ≤ score ∧ score ≤ 1)

def canonicalTime (instant : Int) : Bytes :=
  Time.formatRFC3339Nano instant

/-- Texts with another offset than `Z` are not canonical either. -/
def parseCanonicalTime (text : Bytes) : Option Int :=
  match Time.parseRFC3339 text with
  | some instant => if canonicalTime instant = text then some instant else none
  | none => none

/-! ## Records -/

structure IncidentRecord where
  schemaVersion : Bytes
  incidentID : Bytes
  kind : Bytes
  state : Bytes
  sourcePseudonym : Bytes
  serviceLabel : Bytes
  firstSeen : Bytes
  lastSeen : Bytes
  closedAt : Option Bytes
  reopenUntil : Option Bytes
  deterministicScore : Bytes
  version : Int32
  analysisFailureReason : Option Bytes
  createdAt : Bytes
  updatedAt : Bytes
  recordDigest : Bytes
deriving DecidableEq, Repr

def IncidentRecord.zero : IncidentRecord :=
  ⟨[], [], [], [], [], [], [], [], none, none, [], 0, none, [], [], []⟩

structure AuditRecord where
  schemaVersion : Bytes
  sequence : Int64
  eventID : Bytes
  actorType : Bytes
  actorPseudonym : Bytes
  action : Bytes
  objectType : Bytes
  objectID : Option Bytes
  incidentID : Option Bytes
  policyID : Option Bytes
  policyVersion : Option Int32
  enforcementActionID : Option Bytes
  tracePseudonym : Option Bytes
  primaryDigest : Option Bytes
  secondaryDigest : Option Bytes
  outcome : Bytes
  occurredAt : Bytes
  recordedAt : Bytes
  previousRecordDigest : Bytes
  recordDigest : Bytes
deriving DecidableEq, Repr

def AuditRecord.zero : AuditRecord :=
  ⟨[], 0, [], [], [], [], [], none, none, none, none, none, none, none, none,
    [], [], [], [], []⟩

structure Window where
  since : Bytes
  until_ : Bytes
deriving DecidableEq, Repr

structure Filters where
  incidentID : Option Bytes
deriving DecidableEq, Repr

structure Pseudonymization where
  algorithm : Bytes
  keyID : Bytes
deriving DecidableEq, Repr

structure Manifest where
  schemaVersion : Bytes
  exportID : Bytes
  createdAt : Bytes
  databaseSnapshotAt : Bytes
  window : Window
  filters : Filters
  pseudonymization : Pseudonymization
  incidentCount : Int
  auditEventCount : Int
  incidentRecordsDigest : Bytes
  auditChainGenesis : Bytes
  auditChainRoot : Bytes
  manifestDigest : Bytes
deriving DecidableEq, Repr

def Manifest.zero : Manifest :=
  ⟨[], [], [], [], ⟨[], []⟩, ⟨none⟩, ⟨[], []⟩, 0, 0, [], [], [], []⟩

structure Bundle where
  schemaVersion : Bytes
  manifest : Manifest
  incidents : List IncidentRecord
  auditEvents : List AuditRecord
deriving DecidableEq, Repr

/-! ## JSON text -/

open Json.Field in
def incidentFields : List (Json.Field IncidentRecord) :=
  [text (ascii "schema_version") (·.schemaVersion)
      fun record value => { record with schemaVersion := value },
    text (ascii "incident_id") (·.incidentID)
      fun record value => { record with incidentID := value },
    text (ascii "kind") (·.kind) fun record value => { record with kind := value },
    text (ascii "state") (·.state)
      fun record value => { record with state := value },
    text (ascii "source_pseudonym") (·.sourcePseudonym)
      fun record value => { record with sourcePseudonym := value },
    text (ascii "service_label") (·.serviceLabel)
      fun record value => { record with serviceLabel := value },
    text (ascii "first_seen") (·.firstSeen)
      fun record value => { record with firstSeen := value },
    text (ascii "last_seen") (·.lastSeen)
      fun record value => { record with lastSeen := value },
    textPointer (ascii "closed_at") (·.closedAt)
      fun record value => { record with closedAt := value },
    textPointer (ascii "reopen_until") (·.reopenUntil)
      fun record value => { record with reopenUntil := value },
    text (ascii "deterministic_score") (·.deterministicScore)
      fun record value => { record with deterministicScore := value },
    int 32 (ascii "version") (·.version.toInt)
      fun record value => { record with version := .ofInt value },
    textPointer (ascii "analysis_failure_reason") (·.analysisFailureReason)
      fun record value => { record with analysisFailureReason := value },
    text (ascii "created_at") (·.createdAt)
      fun record value => { record with createdAt := value },
    text (ascii "updated_at") (·.updatedAt)
      fun record value => { record with updatedAt := value },
    text (ascii "record_digest") (·.recordDigest)
      fun record value => { record with recordDigest := value }]

open Json.Field in
def auditFields : List (Json.Field AuditRecord) :=
  [text (ascii "schema_version") (·.schemaVersion)
      fun record value => { record with schemaVersion := value },
    int 64 (ascii "sequence") (·.sequence.toInt)
      fun record value => { record with sequence := .ofInt value },
    text (ascii "event_id") (·.eventID)
      fun record value => { record with eventID := value },
    text (ascii "actor_type") (·.actorType)
      fun record value => { record with actorType := value },
    text (ascii "actor_pseudonym") (·.actorPseudonym)
      fun record value => { record with actorPseudonym := value },
    text (ascii "action") (·.action)
      fun record value => { record with action := value },
    text (ascii "object_type") (·.objectType)
      fun record value => { record with objectType := value },
    textPointer (ascii "object_id") (·.objectID)
      fun record value => { record with objectID := value },
    textPointer (ascii "incident_id") (·.incidentID)
      fun record value => { record with incidentID := value },
    textPointer (ascii "policy_id") (·.policyID)
      fun record value => { record with policyID := value },
    intPointer 32 (ascii "policy_version") (·.policyVersion.map Int32.toInt)
      fun record value =>
        { record with policyVersion := value.map Int32.ofInt },
    textPointer (ascii "enforcement_action_id") (·.enforcementActionID)
      fun record value => { record with enforcementActionID := value },
    textPointer (ascii "trace_pseudonym") (·.tracePseudonym)
      fun record value => { record with tracePseudonym := value },
    textPointer (ascii "primary_digest") (·.primaryDigest)
      fun record value => { record with primaryDigest := value },
    textPointer (ascii "secondary_digest") (·.secondaryDigest)
      fun record value => { record with secondaryDigest := value },
    text (ascii "outcome") (·.outcome)
      fun record value => { record with outcome := value },
    text (ascii "occurred_at") (·.occurredAt)
      fun record value => { record with occurredAt := value },
    text (ascii "recorded_at") (·.recordedAt)
      fun record value => { record with recordedAt := value },
    text (ascii "previous_record_digest") (·.previousRecordDigest)
      fun record value => { record with previousRecordDigest := value },
    text (ascii "record_digest") (·.recordDigest)
      fun record value => { record with recordDigest := value }]

open Json.Field in
def windowFields : List (Json.Field Window) :=
  [text (ascii "since") (·.since) fun window value =>
      { window with since := value },
    text (ascii "until") (·.until_) fun window value =>
      { window with until_ := value }]

open Json.Field in
def filterFields : List (Json.Field Filters) :=
  [textPointer (ascii "incident_id") (·.incidentID) fun _ value => ⟨value⟩]

open Json.Field in
def pseudonymizationFields : List (Json.Field Pseudonymization) :=
  [text (ascii "algorithm") (·.algorithm) fun record value =>
      { record with algorithm := value },
    text (ascii "key_id") (·.keyID) fun record value =>
      { record with keyID := value }]

open Json.Field in
def manifestSlots : List (Json.Slot Manifest) :=
  [(text (ascii "schema_version") (·.schemaVersion)
      fun manifest value => { manifest with schemaVersion := value }).slot,
    (text (ascii "export_id") (·.exportID)
      fun manifest value => { manifest with exportID := value }).slot,
    (text (ascii "created_at") (·.createdAt)
      fun manifest value => { manifest with createdAt := value }).slot,
    (text (ascii "database_snapshot_at") (·.databaseSnapshotAt)
      fun manifest value => { manifest with databaseSnapshotAt := value }).slot,
    .struct (ascii "window") (·.window)
      (fun manifest value => { manifest with window := value }) windowFields,
    .struct (ascii "filters") (·.filters)
      (fun manifest value => { manifest with filters := value }) filterFields,
    .struct (ascii "pseudonymization") (·.pseudonymization)
      (fun manifest value => { manifest with pseudonymization := value })
      pseudonymizationFields,
    (int 64 (ascii "incident_count") (·.incidentCount)
      fun manifest value => { manifest with incidentCount := value }).slot,
    (int 64 (ascii "audit_event_count") (·.auditEventCount)
      fun manifest value => { manifest with auditEventCount := value }).slot,
    (text (ascii "incident_records_digest") (·.incidentRecordsDigest)
      fun manifest value =>
        { manifest with incidentRecordsDigest := value }).slot,
    (text (ascii "audit_chain_genesis") (·.auditChainGenesis)
      fun manifest value => { manifest with auditChainGenesis := value }).slot,
    (text (ascii "audit_chain_root") (·.auditChainRoot)
      fun manifest value => { manifest with auditChainRoot := value }).slot,
    (text (ascii "manifest_digest") (·.manifestDigest)
      fun manifest value => { manifest with manifestDigest := value }).slot]

/-- A bundle while it is decoded. -/
structure Draft where
  schemaVersion : Bytes
  manifest : Manifest
  incidents : Json.Slice IncidentRecord
  auditEvents : Json.Slice AuditRecord

def Draft.zero : Draft :=
  ⟨[], .zero, .nil, .nil⟩

def Draft.bundle (draft : Draft) : Bundle where
  schemaVersion := draft.schemaVersion
  manifest := draft.manifest
  incidents := draft.incidents.items
  auditEvents := draft.auditEvents.items

def Bundle.draft (bundle : Bundle) : Draft where
  schemaVersion := bundle.schemaVersion
  manifest := bundle.manifest
  incidents := .of bundle.incidents
  auditEvents := .of bundle.auditEvents

def bundleSlots : List (Json.Slot Draft) :=
  [(Json.Field.text (ascii "schema_version") (·.schemaVersion)
      fun draft value => { draft with schemaVersion := value }).slot,
    .nested (ascii "manifest") (·.manifest)
      (fun draft value => { draft with manifest := value }) manifestSlots,
    .slice (ascii "incidents") (·.incidents)
      (fun draft value => { draft with incidents := value }) incidentFields
      .zero,
    .slice (ascii "audit_events") (·.auditEvents)
      (fun draft value => { draft with auditEvents := value }) auditFields
      .zero]

def Bundle.toJson (bundle : Bundle) : Json :=
  Json.slotsObject bundleSlots bundle.draft

/-- One JSON value without unknown fields, and nothing but white space after
it. -/
def decodeBundle (encoded : Bytes) : Option Bundle :=
  ((Json.parse encoded).bind (Json.decodeSlots bundleSlots .zero)).map
    Draft.bundle

/-! ## Digests -/

section Digests

variable (crypto : Crypto)

/-- What `digestJSON` hashes. -/
def jsonDocument (domain : Bytes) (value : Json) : Bytes :=
  domain ++ charByte '\n' :: Json.marshal value

def digestJSON (domain : Bytes) (value : Json) : Bytes :=
  digestText crypto (jsonDocument domain value)

/-- What `digestList` hashes. -/
def listDocument (domain : Bytes) (digests : List Bytes) : Bytes :=
  domain ++ charByte '\n' ::
    digests.flatMap fun digest => digest ++ [charByte '\n']

def digestList (domain : Bytes) (digests : List Bytes) : Bytes :=
  digestText crypto (listDocument domain digests)

def incidentDomain : Bytes := ascii "sentinelflow export incident record v1"

def auditDomain : Bytes := ascii "sentinelflow export audit record v1"

def manifestDomain : Bytes := ascii "sentinelflow export manifest v1"

def incidentSetDomain : Bytes := ascii "sentinelflow export incident set v1"

def exportIDDomain : Bytes := ascii "sentinelflow export id v1"

def incidentForDigest (record : IncidentRecord) : IncidentRecord :=
  { record with recordDigest := [] }

def auditForDigest (record : AuditRecord) : AuditRecord :=
  { record with recordDigest := [] }

def manifestForDigest (manifest : Manifest) : Manifest :=
  { manifest with manifestDigest := [] }

def incidentDocument (record : IncidentRecord) : Bytes :=
  jsonDocument incidentDomain
    (Json.toObject incidentFields (incidentForDigest record))

def auditDocument (record : AuditRecord) : Bytes :=
  jsonDocument auditDomain (Json.toObject auditFields (auditForDigest record))

def manifestDocument (manifest : Manifest) : Bytes :=
  jsonDocument manifestDomain
    (Json.slotsObject manifestSlots (manifestForDigest manifest))

def incidentDigests (records : List IncidentRecord) : List Bytes :=
  records.map (·.recordDigest)

def exportID (manifest : Manifest) : Bytes :=
  digestList crypto exportIDDomain
    [manifest.createdAt, manifest.databaseSnapshotAt, manifest.window.since,
      manifest.window.until_, manifest.filters.incidentID.getD [],
      manifest.pseudonymization.keyID, Json.intLiteral manifest.incidentCount,
      Json.intLiteral manifest.auditEventCount,
      manifest.incidentRecordsDigest, manifest.auditChainRoot]

end Digests

end SentinelFlow.ExportBundle
