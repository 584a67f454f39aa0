import SentinelFlow.ExportBundle.Records

/-!
# Building and verifying export bundles

`Build` turns a snapshot of the database into a bundle, `Encode` writes it, and
`DecodeAndVerify` reads a file that anyone may have made.  Besides the errors
that the functions return, a call can end in a run-time fault: both validators
use a second optional time after testing the first one only.
-/

namespace SentinelFlow.ExportBundle

open GoLib

/-- How a call ends without a value; `fault` is the use of a nil pointer. -/
inductive Failure where
  | invalidRequest
  | invalidData
  | limitExceeded
  | integrity
  | store
  | fault
deriving DecidableEq, Repr

def require (failure : Failure) (holds : Bool) : Except Failure Unit :=
  if holds then .ok () else .error failure

def fromOption {α : Type} (failure : Failure) : Option α → Except Failure α
  | some value => .ok value
  | none => .error failure

/-- An instant that has to be canonical. -/
def readTime (text : Bytes) : Except Failure Int :=
  fromOption .integrity (parseCanonicalTime text)

/-! ## Verification -/

def verifyOptionalTime : Option Bytes → Except Failure Unit
  | none => .ok ()
  | some text => do
      let _ ← readTime text
      pure ()

/-- The comparison of the two times of closing; the second is used without a
test. -/
def verifyClosing (closedAt reopenUntil : Option Bytes) :
    Except Failure Unit :=
  match closedAt with
  | none => .ok ()
  | some closedText => do
      let closedAt ← readTime closedText
      match reopenUntil with
      | none => .error .fault
      | some reopenText =>
          let reopenUntil ← readTime reopenText
          require .integrity (decide (closedAt ≤ reopenUntil))

def verifyIncident (crypto : Crypto) (record : IncidentRecord) :
    Except Failure Unit := do
  require .integrity
    (record.schemaVersion == incidentSchemaVersion &&
      uuidPattern.matchString record.incidentID &&
      allowedIncidentKinds.contains record.kind &&
      allowedIncidentStates.contains record.state &&
      pseudonymPattern.matchString record.sourcePseudonym &&
      (ascii "source:").isPrefixOf record.sourcePseudonym &&
      eventLabelPattern.matchString record.serviceLabel &&
      scorePattern.matchString record.deterministicScore &&
      scoreWithinBounds record.deterministicScore &&
      decide (1 ≤ record.version.toInt) &&
      digestPattern.matchString record.recordDigest)
  require .integrity
    (record.analysisFailureReason.all allowedAnalysisFailures.contains)
  let firstSeen ← readTime record.firstSeen
  let lastSeen ← readTime record.lastSeen
  require .integrity (decide (firstSeen ≤ lastSeen))
  let createdAt ← readTime record.createdAt
  let updatedAt ← readTime record.updatedAt
  require .integrity (decide (createdAt ≤ updatedAt))
  verifyOptionalTime record.closedAt
  verifyOptionalTime record.reopenUntil
  let closed := record.state == stateClosed
  let failed := record.state == stateAnalysisFailed
  require .integrity
    (closed == (record.closedAt.isSome && record.reopenUntil.isSome) &&
      failed == record.analysisFailureReason.isSome)
  verifyClosing record.closedAt record.reopenUntil
  require .integrity (digestJSON crypto incidentDomain
    (Json.toObject incidentFields (incidentForDigest record)) ==
      record.recordDigest)

def verifyAudit (crypto : Crypto) (record : AuditRecord) (previous : Bytes) :
    Except Failure Unit := do
  require .integrity
    (record.schemaVersion == auditSchemaVersion &&
      decide (1 ≤ record.sequence.toInt) &&
      decide (record.sequence.toInt ≤ maximumAuditSequence) &&
      uuidPattern.matchString record.eventID &&
      allowedActorTypes.contains record.actorType &&
      pseudonymPattern.matchString record.actorPseudonym &&
      (ascii "actor:").isPrefixOf record.actorPseudonym &&
      asciiIDPattern.matchString record.action &&
      asciiIDPattern.matchString record.objectType &&
      allowedOutcomes.contains record.outcome &&
      record.previousRecordDigest == previous &&
      digestPattern.matchString record.recordDigest)
  require .integrity
    ([record.objectID, record.incidentID, record.policyID,
      record.enforcementActionID].all
        fun value => value.all uuidPattern.matchString)
  require .integrity
    (record.policyID.isNone == record.policyVersion.isNone &&
      record.policyVersion.all fun version => decide (1 ≤ version.toInt))
  require .integrity (record.tracePseudonym.all fun value =>
    pseudonymPattern.matchString value && (ascii "trace:").isPrefixOf value)
  require .integrity
    ([record.primaryDigest, record.secondaryDigest].all
      fun value => value.all digestPattern.matchString)
  let _ ← readTime record.occurredAt
  let _ ← readTime record.recordedAt
  require .integrity (digestJSON crypto auditDomain
    (Json.toObject auditFields (auditForDigest record)) == record.recordDigest)

/-- The first checks of `Verify`. -/
def manifestChecks (bundle : Bundle) : Bool :=
  let manifest := bundle.manifest
  bundle.schemaVersion == bundleSchemaVersion &&
    manifest.schemaVersion == manifestSchemaVersion &&
    manifest.pseudonymization.algorithm == pseudonymAlgorithm &&
    labelPattern.matchString manifest.pseudonymization.keyID &&
    manifest.auditChainGenesis == genesisDigest &&
    decide (manifest.incidentCount = bundle.incidents.length) &&
    decide (manifest.auditEventCount = bundle.auditEvents.length) &&
    decide (manifest.incidentCount ≤ maximumIncidentRecords) &&
    decide (manifest.auditEventCount ≤ maximumAuditRecords) &&
    digestPattern.matchString manifest.exportID &&
    digestPattern.matchString manifest.manifestDigest &&
    digestPattern.matchString manifest.incidentRecordsDigest &&
    digestPattern.matchString manifest.auditChainRoot

/-- The loop over the audit records that collects the incidents they name. -/
def auditEvidence (manifest : Manifest) (since until_ : Int) :
    List AuditRecord → Except Failure (List Bytes)
  | [] => .ok []
  | record :: records => do
      let occurredAt ← readTime record.occurredAt
      require .integrity (decide (since ≤ occurredAt ∧ occurredAt ≤ until_))
      require .integrity (manifest.filters.incidentID.all
        fun filter => record.incidentID == some filter)
      let others ← auditEvidence manifest since until_ records
      pure (record.incidentID.toList ++ others)

/-- The loop over the incident records; `previous` is the id before. -/
def verifyIncidents (crypto : Crypto) (manifest : Manifest)
    (since until_ : Int) (evidence : List Bytes) :
    Option Bytes → List IncidentRecord → Except Failure Unit
  | _, [] => .ok ()
  | previous, record :: records => do
      verifyIncident crypto record
      require .integrity (previous.all (· < record.incidentID))
      require .integrity (manifest.filters.incidentID.all
        (record.incidentID == ·))
      let updatedAt ← readTime record.updatedAt
      require .integrity (decide (since ≤ updatedAt ∧ updatedAt ≤ until_) ||
        evidence.contains record.incidentID)
      verifyIncidents crypto manifest since until_ evidence
        (some record.incidentID) records

/-- The loop along the chain; the result is the digest of the last record. -/
def verifyChain (crypto : Crypto) :
    Option Int64 → Bytes → List AuditRecord → Except Failure Bytes
  | _, digest, [] => .ok digest
  | sequence, digest, record :: records => do
      verifyAudit crypto record digest
      require .integrity (sequence.all (·.toInt < record.sequence.toInt))
      verifyChain crypto (some record.sequence) record.recordDigest records

def verify (crypto : Crypto) (bundle : Bundle) : Except Failure Unit := do
  let manifest := bundle.manifest
  require .integrity (manifestChecks bundle)
  let _ ← readTime manifest.createdAt
  let _ ← readTime manifest.databaseSnapshotAt
  let since ← readTime manifest.window.since
  let until_ ← readTime manifest.window.until_
  require .integrity
    (decide (since < until_ ∧ until_ - since ≤ maximumExportWindow))
  require .integrity (manifest.filters.incidentID.all uuidPattern.matchString)
  let evidence ← auditEvidence manifest since until_ bundle.auditEvents
  verifyIncidents crypto manifest since until_ evidence none bundle.incidents
  require .integrity (digestList crypto incidentSetDomain
    (incidentDigests bundle.incidents) == manifest.incidentRecordsDigest)
  let root ← verifyChain crypto none genesisDigest bundle.auditEvents
  require .integrity (root == manifest.auditChainRoot &&
    exportID crypto manifest == manifest.exportID)
  require .integrity (digestJSON crypto manifestDomain
    (Json.slotsObject manifestSlots (manifestForDigest manifest)) ==
      manifest.manifestDigest)

/-! ## Building -/

structure Query where
  since : Int
  until_ : Int
  incidentID : Bytes
  maxIncidents : Int
  maxAuditEvents : Int
deriving DecidableEq, Repr

/-- The checks of `NewQuery`. -/
def Query.valid (query : Query) : Bool :=
  decide (query.since ≠ 0 ∧ query.until_ ≠ 0 ∧ query.since < query.until_ ∧
      query.until_ - query.since ≤ maximumExportWindow) &&
    (query.incidentID == [] || uuidPattern.matchString query.incidentID) &&
    decide (1 ≤ query.maxIncidents ∧
      query.maxIncidents ≤ maximumIncidentRecords) &&
    decide (1 ≤ query.maxAuditEvents ∧
      query.maxAuditEvents ≤ maximumAuditRecords)

structure RawIncident where
  incidentID : Bytes
  kind : Bytes
  state : Bytes
  sourceIPv4 : Bytes
  serviceLabel : Bytes
  firstSeen : Int
  lastSeen : Int
  closedAt : Option Int
  reopenUntil : Option Int
  deterministicScore : Bytes
  version : Int32
  analysisFailureReason : Option Bytes
  createdAt : Int
  updatedAt : Int
deriving DecidableEq, Repr

structure RawAuditEvent where
  sequence : Int64
  eventID : Bytes
  actorType : Bytes
  actorID : Bytes
  action : Bytes
  objectType : Bytes
  objectID : Option Bytes
  incidentID : Option Bytes
  policyID : Option Bytes
  policyVersion : Option Int32
  enforcementActionID : Option Bytes
  traceID : Option Bytes
  primaryDigest : Option Bytes
  secondaryDigest : Option Bytes
  outcome : Bytes
  occurredAt : Int
  recordedAt : Int
deriving DecidableEq, Repr

structure Snapshot where
  snapshotAt : Int
  incidents : List RawIncident
  audit : List RawAuditEvent
deriving DecidableEq, Repr

/-- The key is empty after `Close`. -/
structure Exporter where
  key : Bytes
  keyID : Bytes
deriving DecidableEq, Repr

/-- The same comparison for a row of the database. -/
def validateClosing : Option Int → Option Int → Except Failure Unit
  | none, _ => .ok ()
  | some _, none => .error .fault
  | some closedAt, some reopenUntil =>
      require .invalidData (decide (closedAt ≤ reopenUntil))

def validateRawIncident (raw : RawIncident) : Except Failure Unit := do
  require .invalidData
    (uuidPattern.matchString raw.incidentID &&
      allowedIncidentKinds.contains raw.kind &&
      allowedIncidentStates.contains raw.state &&
      IPv4.canonicalText raw.sourceIPv4 &&
      eventLabelPattern.matchString raw.serviceLabel &&
      decide (raw.firstSeen ≠ 0 ∧ raw.firstSeen ≤ raw.lastSeen ∧
        raw.createdAt ≠ 0 ∧ raw.createdAt ≤ raw.updatedAt) &&
      scorePattern.matchString raw.deterministicScore &&
      scoreWithinBounds raw.deterministicScore &&
      decide (1 ≤ raw.version.toInt))
  require .invalidData
    (raw.analysisFailureReason.all allowedAnalysisFailures.contains)
  let closed := raw.state == stateClosed
  let failed := raw.state == stateAnalysisFailed
  require .invalidData
    (closed == (raw.closedAt.isSome && raw.reopenUntil.isSome))
  validateClosing raw.closedAt raw.reopenUntil
  require .invalidData (failed == raw.analysisFailureReason.isSome)

def validateRawAudit (raw : RawAuditEvent) : Except Failure Unit := do
  require .invalidData
    (decide (1 ≤ raw.sequence.toInt) &&
      decide (raw.sequence.toInt ≤ maximumAuditSequence) &&
      uuidPattern.matchString raw.eventID &&
      allowedActorTypes.contains raw.actorType &&
      asciiIDPattern.matchString raw.actorID &&
      asciiIDPattern.matchString raw.action &&
      asciiIDPattern.matchString raw.objectType &&
      allowedOutcomes.contains raw.outcome &&
      decide (raw.occurredAt ≠ 0 ∧ raw.recordedAt ≠ 0))
  require .invalidData
    ([raw.objectID, raw.incidentID, raw.policyID, raw.enforcementActionID,
      raw.traceID].all fun value => value.all uuidPattern.matchString)
  require .invalidData
    (raw.policyID.isNone == raw.policyVersion.isNone &&
      raw.policyVersion.all fun version => decide (1 ≤ version.toInt))
  require .invalidData
    ([raw.primaryDigest, raw.secondaryDigest].all
      fun value => value.all digestPattern.matchString)

def Exporter.pseudonym (crypto : Crypto) (exporter : Exporter)
    (domain value : Bytes) : Bytes :=
  domain ++ charByte ':' :: Hex.encodeToString
    (crypto.hmacSHA256 exporter.key
      (ascii "sentinelflow export pseudonym v1\n" ++ domain ++ 0 :: value))

def Exporter.buildIncident (crypto : Crypto) (exporter : Exporter)
    (raw : RawIncident) : Except Failure IncidentRecord := do
  validateRawIncident raw
  let record : IncidentRecord :=
    { schemaVersion := incidentSchemaVersion
      incidentID := raw.incidentID
      kind := raw.kind
      state := raw.state
      sourcePseudonym :=
        exporter.pseudonym crypto (ascii "source") raw.sourceIPv4
      serviceLabel := raw.serviceLabel
      firstSeen := canonicalTime raw.firstSeen
      lastSeen := canonicalTime raw.lastSeen
      closedAt := raw.closedAt.map canonicalTime
      reopenUntil := raw.reopenUntil.map canonicalTime
      deterministicScore := raw.deterministicScore
      version := raw.version
      analysisFailureReason := raw.analysisFailureReason
      createdAt := canonicalTime raw.createdAt
      updatedAt := canonicalTime raw.updatedAt
      recordDigest := [] }
  pure { record with
    recordDigest := digestJSON crypto incidentDomain
      (Json.toObject incidentFields (incidentForDigest record)) }

def Exporter.buildAudit (crypto : Crypto) (exporter : Exporter)
    (raw : RawAuditEvent) (previous : Bytes) : Except Failure AuditRecord := do
  validateRawAudit raw
  require .invalidData (digestPattern.matchString previous)
  let record : AuditRecord :=
    { schemaVersion := auditSchemaVersion
      sequence := raw.sequence
      eventID := raw.eventID
      actorType := raw.actorType
      actorPseudonym := exporter.pseudonym crypto (ascii "actor") raw.actorID
      action := raw.action
      objectType := raw.objectType
      objectID := raw.objectID
      incidentID := raw.incidentID
      policyID := raw.policyID
      policyVersion := raw.policyVersion
      enforcementActionID := raw.enforcementActionID
      tracePseudonym :=
        raw.traceID.map (exporter.pseudonym crypto (ascii "trace"))
      primaryDigest := raw.primaryDigest
      secondaryDigest := raw.secondaryDigest
      outcome := raw.outcome
      occurredAt := canonicalTime raw.occurredAt
      recordedAt := canonicalTime raw.recordedAt
      previousRecordDigest := previous
      recordDigest := [] }
  pure { record with
    recordDigest := digestJSON crypto auditDomain
      (Json.toObject auditFields (auditForDigest record)) }

def validateSnapshotScope (snapshot : Snapshot) (query : Query) :
    Except Failure Unit := do
  require .invalidData (snapshot.audit.all fun record =>
    decide (query.since ≤ record.occurredAt ∧
      record.occurredAt ≤ query.until_) &&
    (query.incidentID == [] || record.incidentID == some query.incidentID))
  let evidence := snapshot.audit.filterMap (·.incidentID)
  require .invalidData (snapshot.incidents.all fun record =>
    (query.incidentID == [] || record.incidentID == query.incidentID) &&
    (decide (query.since ≤ record.updatedAt ∧
        record.updatedAt ≤ query.until_) ||
      evidence.contains record.incidentID))

/-- The loop over the incidents; `previous` is the id before. -/
def Exporter.buildIncidents (crypto : Crypto) (exporter : Exporter) :
    Option Bytes → List RawIncident → Except Failure (List IncidentRecord)
  | _, [] => .ok []
  | previous, raw :: rest => do
      let record ← exporter.buildIncident crypto raw
      require .invalidData (previous != some record.incidentID)
      let records ←
        exporter.buildIncidents crypto (some record.incidentID) rest
      pure (record :: records)

/-- The loop that makes the chain. -/
def Exporter.buildChain (crypto : Crypto) (exporter : Exporter) :
    Option Int64 → Bytes → List RawAuditEvent →
      Except Failure (List AuditRecord)
  | _, _, [] => .ok []
  | sequence, previous, raw :: rest => do
      let record ← exporter.buildAudit crypto raw previous
      require .invalidData (sequence.all (·.toInt < record.sequence.toInt))
      let records ← exporter.buildChain crypto (some record.sequence)
        record.recordDigest rest
      pure (record :: records)

/-- `stored` is what the store answers, and `now` what the clock says. -/
def Exporter.build (crypto : Crypto) (exporter : Exporter) (query : Query)
    (stored : Option Snapshot) (now : Int) : Except Failure Bundle := do
  require .invalidRequest (query.valid &&
    decide (minimumPseudonymKeyBytes ≤ exporter.key.length) &&
    labelPattern.matchString exporter.keyID)
  let snapshot ← fromOption .store stored
  require .limitExceeded (decide (snapshot.snapshotAt ≠ 0 ∧
    snapshot.incidents.length ≤ query.maxIncidents ∧
    snapshot.audit.length ≤ query.maxAuditEvents))
  validateSnapshotScope snapshot query
  let incidents ← exporter.buildIncidents crypto none
    (sortSlice (fun first second => first.incidentID < second.incidentID)
      snapshot.incidents)
  let audit ← exporter.buildChain crypto none genesisDigest
    (sortSlice (fun first second =>
      first.sequence.toInt < second.sequence.toInt) snapshot.audit)
  require .invalidData (decide (now ≠ 0))
  let manifest : Manifest :=
    { schemaVersion := manifestSchemaVersion
      exportID := []
      createdAt := canonicalTime now
      databaseSnapshotAt := canonicalTime snapshot.snapshotAt
      window := ⟨canonicalTime query.since, canonicalTime query.until_⟩
      filters :=
        ⟨if query.incidentID = [] then none else some query.incidentID⟩
      pseudonymization := ⟨pseudonymAlgorithm, exporter.keyID⟩
      incidentCount := incidents.length
      auditEventCount := audit.length
      incidentRecordsDigest :=
        digestList crypto incidentSetDomain (incidentDigests incidents)
      auditChainGenesis := genesisDigest
      auditChainRoot := (audit.getLast?.map (·.recordDigest)).getD genesisDigest
      manifestDigest := [] }
  let manifest := { manifest with exportID := exportID crypto manifest }
  let manifest := { manifest with
    manifestDigest := digestJSON crypto manifestDomain
      (Json.slotsObject manifestSlots (manifestForDigest manifest)) }
  let bundle : Bundle := ⟨bundleSchemaVersion, manifest, incidents, audit⟩
  verify crypto bundle
  pure bundle

/-! ## Files -/

structure Result where
  exportID : Bytes
  manifestDigest : Bytes
  bundleDigest : Bytes
  incidentCount : Nat
  auditEventCount : Nat
deriving DecidableEq, Repr

def resultFor (crypto : Crypto) (bundle : Bundle) (encoded : Bytes) :
    Result where
  exportID := bundle.manifest.exportID
  manifestDigest := bundle.manifest.manifestDigest
  bundleDigest := digestText crypto encoded
  incidentCount := bundle.incidents.length
  auditEventCount := bundle.auditEvents.length

def encode (crypto : Crypto) (bundle : Bundle) :
    Except Failure (Bytes × Result) := do
  verify crypto bundle
  let encoded := Json.marshalIndent (ascii "  ") bundle.toJson
  require .limitExceeded (decide (encoded.length + 1 ≤ maximumBundleBytes))
  let encoded := encoded ++ [charByte '\n']
  pure (encoded, resultFor crypto bundle encoded)

def decodeAndVerify (crypto : Crypto) (encoded : Bytes) :
    Except Failure (Bundle × Result) := do
  require .limitExceeded
    (decide (encoded ≠ [] ∧ encoded.length ≤ maximumBundleBytes))
  let bundle ← fromOption .integrity (decodeBundle encoded)
  verify crypto bundle
  pure (bundle, resultFor crypto bundle encoded)

end SentinelFlow.ExportBundle
