import SentinelFlow.ExportBundle.Verified
import SentinelFlow.GoLib.Sha256

/-!
# Faults and the state of an incident

A file or a row in which the two times of closing come together is handled
without a fault, and what is accepted keeps the law of the incident states.  A
row that has the first time only ends the program.
-/

namespace SentinelFlow.ExportBundle

open GoLib

/-- The two times of closing are both present or both absent. -/
def IncidentRecord.Paired (record : IncidentRecord) : Prop :=
  record.closedAt.isSome = record.reopenUntil.isSome

def RawIncident.Paired (raw : RawIncident) : Prop :=
  raw.closedAt.isSome = raw.reopenUntil.isSome

/-- What the state of an incident says about its optional fields. -/
structure IncidentRecord.Lawful (record : IncidentRecord) : Prop where
  closed : record.state = stateClosed → ∃ closedAt reopenUntil,
    record.closedAt = some (canonicalTime closedAt) ∧
    record.reopenUntil = some (canonicalTime reopenUntil) ∧
    closedAt ≤ reopenUntil
  open_ : record.state ≠ stateClosed →
    record.closedAt = none ∧ record.reopenUntil = none
  failed : record.state = stateAnalysisFailed ↔
    record.analysisFailureReason.isSome = true

theorem IncidentRecord.Verified.lawful
    {crypto : Crypto} {record : IncidentRecord}
    (verified : record.Verified crypto) (paired : record.Paired) :
    record.Lawful := by
  refine ⟨?_, ?_, verified.failed⟩
  · intro closed
    obtain ⟨left, right⟩ := verified.closed.mp closed
    obtain ⟨closedText, closedHeld⟩ := Option.isSome_iff_exists.mp left
    obtain ⟨reopenText, reopenHeld⟩ := Option.isSome_iff_exists.mp right
    obtain ⟨closedAt, rfl⟩ := verified.closedAt closedText closedHeld
    obtain ⟨reopenUntil, rfl⟩ := verified.reopenUntil reopenText reopenHeld
    have closing := verified.closing
    rw [closedHeld, reopenHeld] at closing
    exact ⟨closedAt, reopenUntil, closedHeld, reopenHeld,
      verifyClosing_ok closing rfl rfl⟩
  · intro opened
    have absent : ¬ (record.closedAt.isSome = true ∧
        record.reopenUntil.isSome = true) := fun both =>
      opened (verified.closed.mpr both)
    unfold Paired at paired
    rw [← paired, and_self, Bool.not_eq_true, Option.isSome_eq_false_iff,
      Option.isNone_iff_eq_none] at absent
    rw [absent, Option.isSome_none] at paired
    exact ⟨absent, Option.not_isSome_iff_eq_none.mp (by rw [← paired]; decide)⟩

/-! ## Verification without a fault -/

section Verification

variable {crypto : Crypto}

theorem clean_verifyOptionalTime (content : Option Bytes) :
    Clean (verifyOptionalTime content) := by
  cases content with
  | none => exact clean_ok ()
  | some text => exact clean_bind (clean_readTime text) fun _ _ => clean_ok ()

theorem clean_verifyClosing
    {closedAt reopenUntil : Option Bytes}
    (paired : closedAt.isSome = reopenUntil.isSome) :
    Clean (verifyClosing closedAt reopenUntil) := by
  cases closedAt with
  | none => exact clean_ok ()
  | some closedText =>
      refine clean_bind (clean_readTime closedText) fun instant _ => ?_
      cases reopenUntil with
      | none => cases paired
      | some reopenText =>
          exact clean_bind (clean_readTime reopenText) fun _ _ =>
            clean_require (by decide) _

theorem clean_verifyIncident
    {record : IncidentRecord} (paired : record.Paired) :
    Clean (verifyIncident crypto record) := by
  have checked := @clean_require .integrity (by decide)
  refine clean_bind (checked _) fun _ _ => clean_bind (checked _) fun _ _ =>
    clean_bind (clean_readTime _) fun _ _ =>
    clean_bind (clean_readTime _) fun _ _ => clean_bind (checked _) fun _ _ =>
    clean_bind (clean_readTime _) fun _ _ =>
    clean_bind (clean_readTime _) fun _ _ => clean_bind (checked _) fun _ _ =>
    clean_bind (clean_verifyOptionalTime _) fun _ _ =>
    clean_bind (clean_verifyOptionalTime _) fun _ _ =>
    clean_bind (checked _) fun _ _ =>
    clean_bind (clean_verifyClosing paired) fun _ _ => checked _

theorem clean_verifyAudit (record : AuditRecord) (previous : Bytes) :
    Clean (verifyAudit crypto record previous) := by
  have checked := @clean_require .integrity (by decide)
  refine clean_bind (checked _) fun _ _ => clean_bind (checked _) fun _ _ =>
    clean_bind (checked _) fun _ _ => clean_bind (checked _) fun _ _ =>
    clean_bind (checked _) fun _ _ => clean_bind (clean_readTime _) fun _ _ =>
    clean_bind (clean_readTime _) fun _ _ => checked _

theorem clean_auditEvidence
    (manifest : Manifest) (since until_ : Int) (records : List AuditRecord) :
    Clean (auditEvidence manifest since until_ records) := by
  have checked := @clean_require .integrity (by decide)
  induction records with
  | nil => exact clean_ok []
  | cons record records ih =>
      exact clean_bind (clean_readTime _) fun _ _ =>
        clean_bind (checked _) fun _ _ => clean_bind (checked _) fun _ _ =>
        clean_bind ih fun _ _ => clean_ok _

theorem clean_verifyIncidents
    (manifest : Manifest) (since until_ : Int) (evidence : List Bytes)
    (previous : Option Bytes) {records : List IncidentRecord}
    (paired : ∀ record ∈ records, record.Paired) :
    Clean (verifyIncidents crypto manifest since until_ evidence previous
      records) := by
  have checked := @clean_require .integrity (by decide)
  induction records generalizing previous with
  | nil => exact clean_ok ()
  | cons record records ih =>
      exact clean_bind (clean_verifyIncident (paired record List.mem_cons_self))
        fun _ _ => clean_bind (checked _) fun _ _ =>
        clean_bind (checked _) fun _ _ =>
        clean_bind (clean_readTime _) fun _ _ =>
        clean_bind (checked _) fun _ _ =>
        ih _ fun other member => paired other (List.mem_cons_of_mem _ member)

theorem clean_verifyChain
    (sequence : Option Int64) (digest : Bytes) (records : List AuditRecord) :
    Clean (verifyChain crypto sequence digest records) := by
  induction records generalizing sequence digest with
  | nil => exact clean_ok digest
  | cons record records ih =>
      exact clean_bind (clean_verifyAudit record digest) fun _ _ =>
        clean_bind (clean_require (by decide) _) fun _ _ => ih _ _

theorem clean_verify
    {bundle : Bundle} (paired : ∀ record ∈ bundle.incidents, record.Paired) :
    Clean (verify crypto bundle) := by
  have checked := @clean_require .integrity (by decide)
  exact clean_bind (checked _) fun _ _ =>
    clean_bind (clean_readTime _) fun _ _ =>
    clean_bind (clean_readTime _) fun _ _ =>
    clean_bind (clean_readTime _) fun since _ =>
    clean_bind (clean_readTime _) fun until_ _ =>
    clean_bind (checked _) fun _ _ => clean_bind (checked _) fun _ _ =>
    clean_bind (clean_auditEvidence _ since until_ _) fun evidence _ =>
    clean_bind (clean_verifyIncidents _ since until_ evidence none paired)
      fun _ _ => clean_bind (checked _) fun _ _ =>
    clean_bind (clean_verifyChain none _ _) fun _ _ =>
    clean_bind (checked _) fun _ _ => checked _

end Verification

/-! ## Building without a fault -/

section Building

variable {crypto : Crypto} {exporter : Exporter}

theorem clean_validateRawIncident
    {raw : RawIncident} (paired : raw.Paired) :
    Clean (validateRawIncident raw) := by
  have checked := @clean_require .invalidData (by decide)
  have closing : Clean (validateClosing raw.closedAt raw.reopenUntil) := by
    unfold RawIncident.Paired at paired
    cases closed : raw.closedAt with
    | none => exact clean_ok ()
    | some =>
        cases reopen : raw.reopenUntil with
        | none =>
            rw [closed, reopen] at paired
            cases paired
        | some => exact checked _
  exact clean_bind (checked _) fun _ _ => clean_bind (checked _) fun _ _ =>
    clean_bind (checked _) fun _ _ => clean_bind closing fun _ _ => checked _

theorem clean_validateRawAudit (raw : RawAuditEvent) :
    Clean (validateRawAudit raw) := by
  have checked := @clean_require .invalidData (by decide)
  exact clean_bind (checked _) fun _ _ => clean_bind (checked _) fun _ _ =>
    clean_bind (checked _) fun _ _ => checked _

/-- The records of paired rows are paired. -/
theorem buildIncidents_paired
    {previous : Option Bytes} {rows : List RawIncident}
    (paired : ∀ raw ∈ rows, raw.Paired) {records : List IncidentRecord}
    (built : exporter.buildIncidents crypto previous rows = .ok records) :
    ∀ record ∈ records, record.Paired := by
  induction rows generalizing previous records with
  | nil =>
      cases built
      exact List.forall_mem_nil _
  | cons raw rows ih =>
      simp only [Exporter.buildIncidents, Exporter.buildIncident, bind_eq_ok,
        pure_eq_ok] at built
      obtain ⟨record, ⟨_, -, rfl⟩, _, -, rest, later, rfl⟩ := built
      refine List.forall_mem_cons.mpr ⟨?_, ih
        (fun other member => paired other (List.mem_cons_of_mem _ member))
        later⟩
      simp only [IncidentRecord.Paired, Option.isSome_map]
      exact paired raw List.mem_cons_self

theorem clean_buildIncidents
    (previous : Option Bytes) {rows : List RawIncident}
    (paired : ∀ raw ∈ rows, raw.Paired) :
    Clean (exporter.buildIncidents crypto previous rows) := by
  induction rows generalizing previous with
  | nil => exact clean_ok []
  | cons raw rows ih =>
      have first := clean_validateRawIncident (paired raw List.mem_cons_self)
      exact clean_bind (clean_bind first fun _ _ => clean_ok _) fun _ _ =>
        clean_bind (clean_require (by decide) _) fun _ _ =>
        clean_bind (ih _ fun other member =>
          paired other (List.mem_cons_of_mem _ member)) fun _ _ => clean_ok _

theorem clean_buildChain
    (sequence : Option Int64) (previous : Bytes) (rows : List RawAuditEvent) :
    Clean (exporter.buildChain crypto sequence previous rows) := by
  have checked := @clean_require .invalidData (by decide)
  induction rows generalizing sequence previous with
  | nil => exact clean_ok []
  | cons raw rows ih =>
      exact clean_bind (clean_bind (clean_validateRawAudit raw) fun _ _ =>
          clean_bind (checked _) fun _ _ => clean_ok _) fun _ _ =>
        clean_bind (checked _) fun _ _ =>
        clean_bind (ih _ _) fun _ _ => clean_ok _

variable {query : Query} {now : Int}

theorem paired_sorted
    {snapshot : Snapshot} (paired : ∀ raw ∈ snapshot.incidents, raw.Paired) :
    ∀ raw ∈ sortSlice (fun first second : RawIncident =>
      first.incidentID < second.incidentID) snapshot.incidents, raw.Paired :=
  fun raw member => paired raw (mem_sortSlice.mp member)

variable {stored : Option Snapshot}
  (paired : ∀ snapshot ∈ stored, ∀ raw ∈ snapshot.incidents, raw.Paired)
include paired

theorem clean_build :
    Clean (exporter.build crypto query stored now) := by
  refine clean_bind (clean_require (by decide) _) fun _ _ =>
    clean_bind (clean_fromOption (by decide) stored) fun snapshot found => ?_
  have sorted := paired_sorted (paired snapshot (fromOption_eq_ok.mp found))
  refine clean_bind (clean_require (by decide) _) fun _ _ =>
    clean_bind (clean_bind (clean_require (by decide) _) fun _ _ =>
      clean_require (by decide) _) fun _ _ =>
    clean_bind (clean_buildIncidents none sorted) fun records built =>
    clean_bind (clean_buildChain none _ _) fun _ _ =>
    clean_bind (clean_require (by decide) _) fun _ _ =>
    clean_bind (clean_verify ?_) fun _ _ => clean_ok _
  exact buildIncidents_paired sorted built

theorem lawful_of_build
    {bundle : Bundle}
    (built : exporter.build crypto query stored now = .ok bundle) :
    ∀ record ∈ bundle.incidents, record.Lawful := by
  simp only [Exporter.build, fromOption_eq_ok, bind_eq_ok, pure_eq_ok] at built
  obtain ⟨_, -, snapshot, found, _, -, _, -, records, made, _, -, _, -, _,
    verified, rfl⟩ := built
  have sorted := paired_sorted (paired snapshot found)
  intro record member
  exact ((verified_of_verify verified).incidents record member).lawful
    (buildIncidents_paired sorted made record member)

end Building

section Files

variable {crypto : Crypto} {encoded : Bytes}
  (paired : ∀ bundle, decodeBundle encoded = some bundle →
    ∀ record ∈ bundle.incidents, record.Paired)
include paired

theorem clean_decodeAndVerify : Clean (decodeAndVerify crypto encoded) := by
  exact clean_bind (clean_require (by decide) _) fun _ _ =>
    clean_bind (clean_fromOption (by decide) _) fun bundle found =>
    clean_bind (clean_verify (paired bundle (fromOption_eq_ok.mp found)))
      fun _ _ => clean_ok _

theorem lawful_of_decodeAndVerify
    {bundle : Bundle} {result : Result}
    (accepted : decodeAndVerify crypto encoded = .ok (bundle, result)) :
    ∀ record ∈ bundle.incidents, record.Lawful := by
  simp only [decodeAndVerify, fromOption_eq_ok, bind_eq_ok, pure_eq_ok,
    Prod.mk.injEq] at accepted
  obtain ⟨_, -, _, found, _, verified, rfl, -⟩ := accepted
  intro record member
  exact ((verified_of_verify verified).incidents record member).lawful
    (paired _ found record member)

end Files

def sampleInstant : Int := 63902520000 * Time.second

def sampleExporter : Exporter where
  key := List.replicate 32 107
  keyID := ascii "key-1"

def sampleQuery : Query where
  since := sampleInstant - 3600 * Time.second
  until_ := sampleInstant + 3600 * Time.second
  incidentID := []
  maxIncidents := 10
  maxAuditEvents := 10

def sampleRaw (state : Bytes) (closedAt reopenUntil : Option Int) :
    RawIncident where
  incidentID := ascii "00000000-0000-4000-8000-000000000001"
  kind := ascii "path_scan"
  state := state
  sourceIPv4 := ascii "192.0.2.10"
  serviceLabel := ascii "shop"
  firstSeen := sampleInstant
  lastSeen := sampleInstant
  closedAt := closedAt
  reopenUntil := reopenUntil
  deterministicScore := ascii "1"
  version := 1
  analysisFailureReason := none
  createdAt := sampleInstant
  updatedAt := sampleInstant

def sampleSnapshot (raw : RawIncident) : Snapshot where
  snapshotAt := sampleInstant
  incidents := [raw]
  audit := []

/-- A file that nobody signed: its digests are made up. -/
def sampleForgery (raw : RawIncident) : Bundle where
  schemaVersion := bundleSchemaVersion
  manifest :=
    { schemaVersion := manifestSchemaVersion
      exportID := genesisDigest
      createdAt := canonicalTime sampleInstant
      databaseSnapshotAt := canonicalTime sampleInstant
      window := ⟨canonicalTime sampleQuery.since,
        canonicalTime sampleQuery.until_⟩
      filters := ⟨none⟩
      pseudonymization := ⟨pseudonymAlgorithm, sampleExporter.keyID⟩
      incidentCount := 1
      auditEventCount := 0
      incidentRecordsDigest := genesisDigest
      auditChainGenesis := genesisDigest
      auditChainRoot := genesisDigest
      manifestDigest := genesisDigest }
  incidents :=
    [{ schemaVersion := incidentSchemaVersion
       incidentID := raw.incidentID
       kind := raw.kind
       state := raw.state
       sourcePseudonym := ascii "source:" ++ List.replicate 64 (charByte '0')
       serviceLabel := raw.serviceLabel
       firstSeen := canonicalTime raw.firstSeen
       lastSeen := canonicalTime raw.lastSeen
       closedAt := raw.closedAt.map canonicalTime
       reopenUntil := raw.reopenUntil.map canonicalTime
       deterministicScore := raw.deterministicScore
       version := raw.version
       analysisFailureReason := raw.analysisFailureReason
       createdAt := canonicalTime raw.createdAt
       updatedAt := canonicalTime raw.updatedAt
       recordDigest := genesisDigest }]
  auditEvents := []

def sampleFile (raw : RawIncident) : Bytes :=
  Json.marshal (sampleForgery raw).toJson

/-- A closed incident. -/
def closedRaw : RawIncident :=
  sampleRaw stateClosed (some sampleInstant) (some sampleInstant)

/-- An open incident with a time of closing and no time of reopening. -/
def halfClosedRaw : RawIncident :=
  sampleRaw (ascii "open") (some sampleInstant) none

/-- An open incident with a time of reopening only. -/
def halfOpenRaw : RawIncident :=
  sampleRaw (ascii "open") none (some sampleInstant)

end SentinelFlow.ExportBundle
