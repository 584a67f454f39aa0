import SentinelFlow.ExportBundle.Export

/-!
# What verification establishes

The checks of `Verify` as properties of the records, and which calls cannot end
in a fault.  The state of an incident decides which of its optional fields are
present, if its two times of closing come and go together; if one of them comes
alone, the validators fault or let it pass.
-/

namespace SentinelFlow.ExportBundle

open GoLib

/-! ## Outcomes -/

section Outcomes

variable {α β : Type} {outcome : Except Failure α} {next : α → Except Failure β}

theorem bind_eq_ok {result : β} :
    outcome >>= next = .ok result ↔
      ∃ value, outcome = .ok value ∧ next value = .ok result := by
  cases outcome with
  | error => exact ⟨nofun, nofun⟩
  | ok value =>
      constructor
      · intro accepted
        exact ⟨value, rfl, accepted⟩
      · rintro ⟨_, ⟨rfl⟩, accepted⟩
        exact accepted

theorem pure_eq_ok {value result : α} :
    (pure value : Except Failure α) = .ok result ↔ value = result :=
  Except.ok.injEq value result ▸ Iff.rfl

variable {failure : Failure}

theorem require_eq_ok {holds : Bool} {result : Unit} :
    require failure holds = .ok result ↔ holds = true := by
  unfold require
  cases holds <;> simp

theorem fromOption_eq_ok
    {content : Option α} {value : α} :
    fromOption failure content = .ok value ↔ content = some value := by
  cases content <;> simp [fromOption]

theorem readTime_eq_ok {text : Bytes} {instant : Int} :
    readTime text = .ok instant ↔ parseCanonicalTime text = some instant :=
  fromOption_eq_ok

theorem text_of_parseCanonicalTime
    {text : Bytes} {instant : Int}
    (parsed : parseCanonicalTime text = some instant) :
    text = canonicalTime instant := by
  unfold parseCanonicalTime at parsed
  split at parsed
  · split at parsed
    · next same =>
        cases parsed
        exact same.symm
    · cases parsed
  · cases parsed

/-- The call does not end in a fault. -/
def Clean (outcome : Except Failure α) : Prop :=
  outcome ≠ .error .fault

theorem clean_bind
    (first : Clean outcome)
    (second : ∀ value, outcome = .ok value → Clean (next value)) :
    Clean (outcome >>= next) := by
  cases outcome with
  | error =>
      intro faulty
      cases faulty
      exact first rfl
  | ok value => exact second value rfl

theorem clean_ok (value : α) : Clean (.ok value) :=
  nofun

theorem clean_require
    (error : failure ≠ .fault) (holds : Bool) :
    Clean (require failure holds) := by
  cases holds with
  | false =>
      intro faulty
      cases faulty
      exact error rfl
  | true => exact clean_ok ()

theorem clean_fromOption
    (error : failure ≠ .fault) (content : Option α) :
    Clean (fromOption failure content) := by
  cases content with
  | none =>
      intro faulty
      cases faulty
      exact error rfl
  | some value => exact clean_ok value

theorem clean_readTime (text : Bytes) : Clean (readTime text) :=
  clean_fromOption (by decide) _

end Outcomes

/-! ## Incidents -/

/-- A text that is the canonical text of an instant. -/
def IsTime (text : Bytes) : Prop :=
  ∃ instant, text = canonicalTime instant

theorem isTime_of_readTime
    {text : Bytes} {instant : Int} (read : readTime text = .ok instant) :
    IsTime text :=
  ⟨instant, text_of_parseCanonicalTime (readTime_eq_ok.mp read)⟩

theorem isTime_of_verifyOptionalTime
    {content : Option Bytes} (read : verifyOptionalTime content = .ok ()) :
    ∀ text ∈ content, IsTime text := by
  intro text held
  rw [Option.mem_def.mp held, verifyOptionalTime, bind_eq_ok] at read
  obtain ⟨instant, parsed, -⟩ := read
  exact isTime_of_readTime parsed

theorem verifyClosing_ok
    {closedText reopenText : Bytes} {closedAt reopenUntil : Int}
    (accepted : verifyClosing (some closedText) (some reopenText) = .ok ())
    (closed : closedText = canonicalTime closedAt)
    (reopen : reopenText = canonicalTime reopenUntil) :
    closedAt ≤ reopenUntil := by
  simp only [verifyClosing, bind_eq_ok, require_eq_ok, readTime_eq_ok,
    decide_eq_true_eq] at accepted
  obtain ⟨first, left, second, right, ordered⟩ := accepted
  have same : ∀ {text instant other},
      parseCanonicalTime text = some instant → text = canonicalTime other →
      instant = other := by
    intro text instant other parsed written
    exact Time.formatRFC3339Nano_injective
      ((text_of_parseCanonicalTime parsed).symm.trans written)
  rw [same left closed, same right reopen] at ordered
  exact ordered

/-- The checks of `verifyIncident`. -/
structure IncidentRecord.Verified (crypto : Crypto) (record : IncidentRecord) :
    Prop where
  schema : record.schemaVersion = incidentSchemaVersion
  incidentID : uuidPattern.matchString record.incidentID = true
  kind : record.kind ∈ allowedIncidentKinds
  state : record.state ∈ allowedIncidentStates
  pseudonym : pseudonymPattern.matchString record.sourcePseudonym = true
  label : eventLabelPattern.matchString record.serviceLabel = true
  score : scorePattern.matchString record.deterministicScore = true
  version : 1 ≤ record.version.toInt
  named : digestPattern.matchString record.recordDigest = true
  reason : ∀ reason ∈ record.analysisFailureReason,
    reason ∈ allowedAnalysisFailures
  firstSeen : IsTime record.firstSeen
  lastSeen : IsTime record.lastSeen
  createdAt : IsTime record.createdAt
  updatedAt : IsTime record.updatedAt
  closedAt : ∀ text ∈ record.closedAt, IsTime text
  reopenUntil : ∀ text ∈ record.reopenUntil, IsTime text
  closed : record.state = stateClosed ↔
    record.closedAt.isSome = true ∧ record.reopenUntil.isSome = true
  failed : record.state = stateAnalysisFailed ↔
    record.analysisFailureReason.isSome = true
  closing : verifyClosing record.closedAt record.reopenUntil = .ok ()
  digest : digestText crypto (incidentDocument record) = record.recordDigest

variable {crypto : Crypto}

theorem verified_of_verifyIncident
    {record : IncidentRecord}
    (accepted : verifyIncident crypto record = .ok ()) :
    record.Verified crypto := by
  simp only [verifyIncident, bind_eq_ok, require_eq_ok, exists_and_left,
    exists_const, Bool.and_eq_true, beq_iff_eq, decide_eq_true_eq,
    List.contains_iff_mem] at accepted
  obtain ⟨⟨⟨⟨⟨⟨⟨⟨⟨⟨⟨schema, incidentID⟩, kind⟩, state⟩, pseudonym⟩, -⟩, label⟩,
    score⟩, -⟩, version⟩, named⟩, reason, _, firstSeen, _, lastSeen, -, _,
    createdAt, _, updatedAt, -, _, closedAt, _, reopenUntil, ⟨closed, failed⟩,
    _, closing, digest⟩ := accepted
  refine ⟨schema, incidentID, kind, state, pseudonym, label, score, version,
    named, ?_, isTime_of_readTime firstSeen, isTime_of_readTime lastSeen,
    isTime_of_readTime createdAt, isTime_of_readTime updatedAt,
    isTime_of_verifyOptionalTime closedAt,
    isTime_of_verifyOptionalTime reopenUntil, ?_, ?_, closing, digest⟩
  · intro text held
    rw [Option.mem_def.mp held] at reason
    exact List.contains_iff_mem.mp reason
  · rw [← Bool.and_eq_true, ← closed, beq_iff_eq]
  · rw [← failed, beq_iff_eq]

/-! ## The audit chain -/

/-- The checks of `verifyAudit`. -/
structure AuditRecord.Verified (crypto : Crypto) (record : AuditRecord) :
    Prop where
  schema : record.schemaVersion = auditSchemaVersion
  sequence : 1 ≤ record.sequence.toInt ∧
    record.sequence.toInt ≤ maximumAuditSequence
  eventID : uuidPattern.matchString record.eventID = true
  actorType : record.actorType ∈ allowedActorTypes
  pseudonym : pseudonymPattern.matchString record.actorPseudonym = true
  action : asciiIDPattern.matchString record.action = true
  objectType : asciiIDPattern.matchString record.objectType = true
  outcome : record.outcome ∈ allowedOutcomes
  named : digestPattern.matchString record.recordDigest = true
  ids : ∀ content ∈ [record.objectID, record.incidentID, record.policyID,
    record.enforcementActionID], ∀ text ∈ content,
      uuidPattern.matchString text = true
  policyVersion : ∀ version ∈ record.policyVersion, 1 ≤ version.toInt
  trace : ∀ text ∈ record.tracePseudonym,
    pseudonymPattern.matchString text = true
  digests : ∀ content ∈ [record.primaryDigest, record.secondaryDigest],
    ∀ text ∈ content, digestPattern.matchString text = true
  occurredAt : IsTime record.occurredAt
  recordedAt : IsTime record.recordedAt
  digest : digestText crypto (auditDocument record) = record.recordDigest

theorem verified_of_verifyAudit
    {record : AuditRecord} {previous : Bytes}
    (accepted : verifyAudit crypto record previous = .ok ()) :
    record.Verified crypto ∧ record.previousRecordDigest = previous := by
  simp only [verifyAudit, bind_eq_ok, require_eq_ok, exists_and_left,
    exists_const, Bool.and_eq_true, beq_iff_eq, decide_eq_true_eq,
    List.contains_iff_mem] at accepted
  obtain ⟨⟨⟨⟨⟨⟨⟨⟨⟨⟨⟨⟨schema, least⟩, most⟩, eventID⟩, actorType⟩, pseudonym⟩,
    -⟩, action⟩, objectType⟩, outcome⟩, previous⟩, named⟩, ids, ⟨-, version⟩,
    trace, digests, _, occurredAt, _, recordedAt, digest⟩ := accepted
  have held : ∀ {holds : Bytes → Bool} {contents : List (Option Bytes)},
      contents.all (fun content => content.all holds) = true →
      ∀ content ∈ contents, ∀ text ∈ content, holds text = true := by
    intro holds contents passed content member text inside
    have here := List.all_eq_true.mp passed content member
    rw [Option.mem_def.mp inside] at here
    exact here
  refine ⟨⟨schema, ⟨least, most⟩, eventID, actorType, pseudonym, action,
    objectType, outcome, named, held ids, ?_, ?_, held digests,
    isTime_of_readTime occurredAt, isTime_of_readTime recordedAt, digest⟩,
    previous⟩
  · intro amount found
    rw [Option.mem_def.mp found, Option.all_some, decide_eq_true_eq] at version
    exact version
  · intro text found
    rw [Option.mem_def.mp found, Option.all_some, Bool.and_eq_true] at trace
    exact trace.1

/-- Every record names the digest before it, from `first` to `root`. -/
inductive Chained (crypto : Crypto) :
    Bytes → List AuditRecord → Bytes → Prop where
  | last (digest : Bytes) : Chained crypto digest [] digest
  | link {record : AuditRecord} {records : List AuditRecord} {root : Bytes}
      (verified : record.Verified crypto)
      (rest : Chained crypto record.recordDigest records root) :
      Chained crypto record.previousRecordDigest (record :: records) root

theorem chained_of_verifyChain
    {sequence : Option Int64} {first root : Bytes} {records : List AuditRecord}
    (accepted : verifyChain crypto sequence first records = .ok root) :
    Chained crypto first records root := by
  induction records generalizing sequence first with
  | nil =>
      cases accepted
      exact .last _
  | cons record records ih =>
      simp only [verifyChain, bind_eq_ok] at accepted
      obtain ⟨_, here, _, -, rest⟩ := accepted
      obtain ⟨verified, rfl⟩ := verified_of_verifyAudit here
      exact .link verified (ih rest)

/-! ## Bundles -/

theorem verified_of_verifyIncidents
    {manifest : Manifest} {since until_ : Int} {evidence : List Bytes}
    {previous : Option Bytes} {records : List IncidentRecord}
    (accepted : verifyIncidents crypto manifest since until_ evidence previous
      records = .ok ()) :
    ∀ record ∈ records, record.Verified crypto := by
  induction records generalizing previous with
  | nil => exact List.forall_mem_nil _
  | cons record records ih =>
      simp only [verifyIncidents, bind_eq_ok] at accepted
      obtain ⟨_, here, _, -, _, -, _, -, _, -, rest⟩ := accepted
      exact List.forall_mem_cons.mpr
        ⟨verified_of_verifyIncident here, ih rest⟩

/-- The checks of `Verify`. -/
structure Bundle.Verified (crypto : Crypto) (bundle : Bundle) : Prop where
  schema : bundle.schemaVersion = bundleSchemaVersion
  manifestSchema : bundle.manifest.schemaVersion = manifestSchemaVersion
  algorithm :
    bundle.manifest.pseudonymization.algorithm = pseudonymAlgorithm
  keyID :
    labelPattern.matchString bundle.manifest.pseudonymization.keyID = true
  genesis : bundle.manifest.auditChainGenesis = genesisDigest
  incidentCount : bundle.manifest.incidentCount = bundle.incidents.length
  auditCount : bundle.manifest.auditEventCount = bundle.auditEvents.length
  incidentLimit : bundle.manifest.incidentCount ≤ maximumIncidentRecords
  auditLimit : bundle.manifest.auditEventCount ≤ maximumAuditRecords
  exportID : digestPattern.matchString bundle.manifest.exportID = true
  named : digestPattern.matchString bundle.manifest.manifestDigest = true
  setNamed :
    digestPattern.matchString bundle.manifest.incidentRecordsDigest = true
  rootNamed : digestPattern.matchString bundle.manifest.auditChainRoot = true
  createdAt : IsTime bundle.manifest.createdAt
  snapshotAt : IsTime bundle.manifest.databaseSnapshotAt
  since : IsTime bundle.manifest.window.since
  until_ : IsTime bundle.manifest.window.until_
  filter : ∀ text ∈ bundle.manifest.filters.incidentID,
    uuidPattern.matchString text = true
  incidents : ∀ record ∈ bundle.incidents, record.Verified crypto
  set : digestText crypto (listDocument incidentSetDomain
    (incidentDigests bundle.incidents)) = bundle.manifest.incidentRecordsDigest
  chain : Chained crypto genesisDigest bundle.auditEvents
    bundle.manifest.auditChainRoot
  digest : digestText crypto (manifestDocument bundle.manifest) =
    bundle.manifest.manifestDigest

theorem verified_of_verify
    {bundle : Bundle} (accepted : verify crypto bundle = .ok ()) :
    bundle.Verified crypto := by
  simp only [verify, manifestChecks, bind_eq_ok, require_eq_ok,
    exists_and_left, exists_const, Bool.and_eq_true, beq_iff_eq,
    decide_eq_true_eq] at accepted
  obtain ⟨⟨⟨⟨⟨⟨⟨⟨⟨⟨⟨⟨⟨schema, manifestSchema⟩, algorithm⟩, keyID⟩, genesis⟩,
    incidentCount⟩, auditCount⟩, incidentLimit⟩, auditLimit⟩, exportID⟩, named⟩,
    setNamed⟩, rootNamed⟩, _, createdAt, _, snapshotAt, _, sinceRead, _,
    untilRead, -, filter, _, -, _, incidents, set, root, chain, ⟨atRoot, -⟩,
    digest⟩ := accepted
  refine ⟨schema, manifestSchema, algorithm, keyID, genesis, incidentCount,
    auditCount, incidentLimit, auditLimit, exportID, named, setNamed, rootNamed,
    isTime_of_readTime createdAt, isTime_of_readTime snapshotAt,
    isTime_of_readTime sinceRead, isTime_of_readTime untilRead, ?_,
    verified_of_verifyIncidents incidents, set, ?_, digest⟩
  · intro text held
    rw [Option.mem_def.mp held] at filter
    exact filter
  · rw [← atRoot]
    exact chained_of_verifyChain chain

end SentinelFlow.ExportBundle
