import SentinelFlow.Capability.Artifact
import SentinelFlow.Capability.Inspection
import SentinelFlow.GoLib.Base64

/-!
# The capability codec

`checkCommon` and the three operation-specific constructors admit a capability,
`marshalCapability` writes its canonical bytes and `parseCanonicalCapability`
reads them back together with the separately carried artifact.  Reading is the
inverse of writing on everything that is admitted, and nothing but the written
bytes is read.
-/

namespace SentinelFlow.Capability

open GoLib

structure CapabilityWire where
  actionID : Bytes := []
  actorID : Bytes := []
  artifactDigest : Bytes := []
  authorizationDigest : Bytes := []
  capabilityID : Bytes := []
  evidenceSnapshotDigest : Bytes := []
  expiresAt : Bytes := []
  issuedAt : Bytes := []
  jobID : Bytes := []
  nonce : Bytes := []
  notBefore : Bytes := []
  operation : Bytes := []
  originalAddDigest : Option Bytes := none
  ownedSchemaDigest : Bytes := []
  policyID : Bytes := []
  policyVersion : Nat := 0
  reasonDigest : Bytes := []
  schemaVersion : Bytes := []
  targetIPv4 : Bytes := []
  validationSnapshotDigest : Bytes := []

/-- The tagged fields, in the order of the canonical text. -/
def capabilityFields : List (Json.Field CapabilityWire) :=
  [.text (ascii "action_id") (·.actionID)
      (fun wire text => { wire with actionID := text }),
    .text (ascii "actor_id") (·.actorID)
      (fun wire text => { wire with actorID := text }),
    .text (ascii "artifact_digest") (·.artifactDigest)
      (fun wire text => { wire with artifactDigest := text }),
    .text (ascii "authorization_digest") (·.authorizationDigest)
      (fun wire text => { wire with authorizationDigest := text }),
    .text (ascii "capability_id") (·.capabilityID)
      (fun wire text => { wire with capabilityID := text }),
    .text (ascii "evidence_snapshot_digest") (·.evidenceSnapshotDigest)
      (fun wire text => { wire with evidenceSnapshotDigest := text }),
    .text (ascii "expires_at") (·.expiresAt)
      (fun wire text => { wire with expiresAt := text }),
    .text (ascii "issued_at") (·.issuedAt)
      (fun wire text => { wire with issuedAt := text }),
    .text (ascii "job_id") (·.jobID)
      (fun wire text => { wire with jobID := text }),
    .text (ascii "nonce") (·.nonce)
      (fun wire text => { wire with nonce := text }),
    .text (ascii "not_before") (·.notBefore)
      (fun wire text => { wire with notBefore := text }),
    .text (ascii "operation") (·.operation)
      (fun wire text => { wire with operation := text }),
    .textPointer (ascii "original_add_digest") (·.originalAddDigest)
      (fun wire text => { wire with originalAddDigest := text }),
    .text (ascii "owned_schema_digest") (·.ownedSchemaDigest)
      (fun wire text => { wire with ownedSchemaDigest := text }),
    .text (ascii "policy_id") (·.policyID)
      (fun wire text => { wire with policyID := text }),
    .uint 32 (ascii "policy_version") (·.policyVersion)
      (fun wire number => { wire with policyVersion := number }),
    .text (ascii "reason_digest") (·.reasonDigest)
      (fun wire text => { wire with reasonDigest := text }),
    .text (ascii "schema_version") (·.schemaVersion)
      (fun wire text => { wire with schemaVersion := text }),
    .text (ascii "target_ipv4") (·.targetIPv4)
      (fun wire text => { wire with targetIPv4 := text }),
    .text (ascii "validation_snapshot_digest") (·.validationSnapshotDigest)
      (fun wire text => { wire with validationSnapshotDigest := text })]

/-- A string, or `null` for the empty one. -/
def nullableString (text : Bytes) : Json :=
  if text = [] then .null else .string text

def marshalCapabilityTimes (value : Value)
    (issuedAt notBefore expiresAt : Bytes) : Bytes :=
  Json.marshal (.object
    [(ascii "action_id", .string value.actionID),
      (ascii "actor_id", .string value.actorID),
      (ascii "artifact_digest", .string value.artifactDigest),
      (ascii "authorization_digest", .string value.authorizationDigest),
      (ascii "capability_id", .string value.capabilityID),
      (ascii "evidence_snapshot_digest", .string value.evidenceSnapshotDigest),
      (ascii "expires_at", .string expiresAt),
      (ascii "issued_at", .string issuedAt),
      (ascii "job_id", .string value.jobID),
      (ascii "nonce", .string value.nonce),
      (ascii "not_before", .string notBefore),
      (ascii "operation", .string value.operation.text),
      (ascii "original_add_digest", nullableString value.originalAddDigest),
      (ascii "owned_schema_digest", .string value.ownedSchemaDigest),
      (ascii "policy_id", .string value.policyID),
      (ascii "policy_version", .number (formatUint value.policyVersion)),
      (ascii "reason_digest", .string value.reasonDigest),
      (ascii "schema_version", .string value.schemaVersion),
      (ascii "target_ipv4", .string value.targetIPv4),
      (ascii "validation_snapshot_digest",
        .string value.validationSnapshotDigest)])

def marshalCapability (value : Value) : Bytes :=
  marshalCapabilityTimes value (Time.format value.issuedAt)
    (Time.format value.notBefore) (Time.format value.expiresAt)

/-- Sixteen bytes in their only base64url spelling. -/
def validNonce (nonce : Bytes) : Bool :=
  noncePattern.matchString nonce &&
    match Base64.decode false nonce with
    | none => false
    | some bytes => bytes.length == 16 && Base64.encode bytes == nonce

/-- The validity window: expressible, ordered and at most a minute long. -/
def validWindow (common : Common) : Bool :=
  decide (common.issuedAt ≠ 0 ∧ common.notBefore ≠ 0 ∧ common.expiresAt ≠ 0 ∧
    1 ≤ Time.year common.issuedAt ∧ Time.year common.expiresAt ≤ 9999 ∧
    Time.MillisecondAligned common.issuedAt ∧
    Time.MillisecondAligned common.notBefore ∧
    Time.MillisecondAligned common.expiresAt ∧
    common.issuedAt ≤ common.notBefore ∧ common.notBefore < common.expiresAt ∧
    common.expiresAt - common.issuedAt ≤ maxValidity)

/-- The fields of a capability without any check. -/
def valueOf (common : Common) (operation : Operation)
    (originalAddDigest artifactDigest : Bytes) : Value :=
  { schemaVersion := capabilitySchemaVersion
    capabilityID := common.capabilityID
    operation
    jobID := common.jobID
    actionID := common.actionID
    policyID := common.policyID
    policyVersion := common.policyVersion
    targetIPv4 := common.targetIPv4
    artifactDigest
    originalAddDigest
    evidenceSnapshotDigest := common.evidenceSnapshotDigest
    validationSnapshotDigest := common.validationSnapshotDigest
    authorizationDigest := common.authorizationDigest
    actorID := common.actorID
    reasonDigest := common.reasonDigest
    ownedSchemaDigest := common.ownedSchemaDigest
    issuedAt := common.issuedAt
    notBefore := common.notBefore
    expiresAt := common.expiresAt
    nonce := common.nonce }

/-- The source also rejects an operation outside the closed set, which the type
`Operation` excludes. -/
def checkCommon (common : Common) (operation : Operation)
    (originalAddDigest artifactDigest : Bytes) : Except ErrorCode Value :=
  if ¬ uuidPattern.matchString common.capabilityID ∨
      ¬ uuidPattern.matchString common.jobID ∨
      ¬ uuidPattern.matchString common.actionID ∨
      ¬ uuidPattern.matchString common.policyID then
    .error .identity
  else if common.policyVersion = 0 ∨ common.policyVersion > 2147483647 then
    .error .schema
  else if ¬ IPv4.canonicalText common.targetIPv4 then .error .schema
  else if ¬ [artifactDigest, common.evidenceSnapshotDigest,
      common.validationSnapshotDigest, common.authorizationDigest,
      common.reasonDigest, common.ownedSchemaDigest].all
        digestPattern.matchString then
    .error .digest
  else if operation = .add ∧ originalAddDigest ≠ [] then .error .operation
  else if operation ≠ .add ∧ ¬ digestPattern.matchString originalAddDigest then
    .error .digest
  else if ¬ actorPattern.matchString common.actorID ∨
      ¬ validNonce common.nonce then
    .error .identity
  else if ¬ validWindow common then .error .time
  else .ok (valueOf common operation originalAddDigest artifactDigest)

section Crypto

variable (crypto : Crypto)

def buildChecked (common : Common) (operation : Operation)
    (originalAddDigest artifact : Bytes) (ttl : Nat)
    (inspection : InspectArtifact) : Except ErrorCode CheckedCapability :=
  match checkCommon common operation originalAddDigest
      (digestText crypto artifact) with
  | .error code => .error code
  | .ok value =>
      let canonical := marshalCapability value
      .ok {
        value
        canonical
        digest := digestText crypto canonical
        artifact
        addTTL := ttl
        inspection }

def checkAdd (input : Add) : Except ErrorCode CheckedCapability :=
  match checkAddArtifact input.canonicalCommand input.targetIPv4 with
  | .error code => .error code
  | .ok ttl =>
      buildChecked crypto input.toCommon .add [] input.canonicalCommand ttl {}

def checkRevoke (input : Revoke) : Except ErrorCode CheckedCapability :=
  if ¬ digestPattern.matchString input.originalAddDigest then .error .digest
  else match checkRevokeArtifact input.canonicalDelete input.targetIPv4 with
  | .error code => .error code
  | .ok _ =>
      buildChecked crypto input.toCommon .revoke input.originalAddDigest
        input.canonicalDelete 0 {}

def checkInspect (input : Inspect) : Except ErrorCode CheckedCapability :=
  if ¬ digestPattern.matchString input.originalAddDigest then .error .digest
  else match checkInspection input.artifact with
  | .error code => .error code
  | .ok (checked, canonical) =>
      if checked.actionID ≠ input.actionID ∨
          checked.targetIPv4 ≠ input.targetIPv4 ∨
          checked.originalAddDigest ≠ input.originalAddDigest ∨
          checked.ownedSchemaDigest ≠ input.ownedSchemaDigest then
        .error .artifact
      else buildChecked crypto input.toCommon .inspect input.originalAddDigest
        canonical 0 checked

/-- The constructor for the operation a wire names. -/
def checkWire (wire : CapabilityWire) (common : Common) (artifact : Bytes) :
    Except ErrorCode CheckedCapability :=
  match Operation.ofText? wire.operation, wire.originalAddDigest with
  | some .add, none =>
      checkAdd crypto { common with canonicalCommand := artifact }
  | some .revoke, some original =>
      checkRevoke crypto
        { common with originalAddDigest := original, canonicalDelete := artifact }
  | some .inspect, some original =>
      match parseInspection artifact with
      | .error code => .error code
      | .ok inspection =>
          checkInspect crypto
            { common with originalAddDigest := original, artifact := inspection }
  | _, _ => .error .operation

def commonOfWire (wire : CapabilityWire)
    (issuedAt notBefore expiresAt : Int) : Common :=
  { capabilityID := wire.capabilityID
    jobID := wire.jobID
    actionID := wire.actionID
    policyID := wire.policyID
    policyVersion := wire.policyVersion
    targetIPv4 := wire.targetIPv4
    evidenceSnapshotDigest := wire.evidenceSnapshotDigest
    validationSnapshotDigest := wire.validationSnapshotDigest
    authorizationDigest := wire.authorizationDigest
    actorID := wire.actorID
    reasonDigest := wire.reasonDigest
    ownedSchemaDigest := wire.ownedSchemaDigest
    issuedAt, notBefore, expiresAt
    nonce := wire.nonce }

def parseCanonicalCapability (data artifact : Bytes) :
    Except ErrorCode CheckedCapability :=
  match strictDecode capabilityFields {} maxCapabilityBytes data with
  | .error code => .error code
  | .ok wire =>
      match parseCanonicalTime wire.issuedAt,
          parseCanonicalTime wire.notBefore,
          parseCanonicalTime wire.expiresAt with
      | some issuedAt, some notBefore, some expiresAt =>
          match checkWire crypto wire
              (commonOfWire wire issuedAt notBefore expiresAt) artifact with
          | .error code => .error code
          | .ok checked =>
              let expected := marshalCapabilityTimes checked.value
                wire.issuedAt wire.notBefore wire.expiresAt
              if checked.value.schemaVersion ≠ wire.schemaVersion ∨
                  ¬ digestEqual checked.value.artifactDigest
                    wire.artifactDigest ∨
                  expected ≠ data then
                .error .canonical
              else .ok { checked with
                canonical := data
                digest := digestText crypto data }
      | _, _, _ => .error .time

end Crypto

/-! ## What is admitted -/

/-- The conditions of `checkCommon`. -/
structure Admitted (common : Common) (operation : Operation)
    (originalAddDigest artifactDigest : Bytes) : Prop where
  capabilityID : uuidPattern.matchString common.capabilityID = true
  jobID : uuidPattern.matchString common.jobID = true
  actionID : uuidPattern.matchString common.actionID = true
  policyID : uuidPattern.matchString common.policyID = true
  policyVersion : 0 < common.policyVersion ∧ common.policyVersion ≤ 2147483647
  targetIPv4 : IPv4.canonicalText common.targetIPv4 = true
  artifactDigest : digestPattern.matchString artifactDigest = true
  evidenceSnapshotDigest :
    digestPattern.matchString common.evidenceSnapshotDigest = true
  validationSnapshotDigest :
    digestPattern.matchString common.validationSnapshotDigest = true
  authorizationDigest :
    digestPattern.matchString common.authorizationDigest = true
  reasonDigest : digestPattern.matchString common.reasonDigest = true
  ownedSchemaDigest : digestPattern.matchString common.ownedSchemaDigest = true
  addHasNoOriginal : operation = .add → originalAddDigest = []
  originalAddDigest : operation ≠ .add →
    digestPattern.matchString originalAddDigest = true
  actorID : actorPattern.matchString common.actorID = true
  nonce : validNonce common.nonce = true
  window : validWindow common = true

variable {artifact : Bytes} {checked : CheckedCapability} {common : Common}
  {inspection : InspectArtifact} {ttl : Nat} {operation : Operation}

theorem checkCommon_eq_ok_iff
    {originalAddDigest artifactDigest : Bytes} {value : Value} :
    checkCommon common operation originalAddDigest artifactDigest = .ok value ↔
      Admitted common operation originalAddDigest artifactDigest ∧
        value = valueOf common operation originalAddDigest artifactDigest := by
  simp only [checkCommon, ite_error_eq_ok_iff, not_or, not_not, List.all_cons,
    List.all_nil, Bool.and_true, Bool.and_eq_true]
  constructor
  · rintro ⟨ids, version, target, digests, absent, original, actor, window,
      same⟩
    refine ⟨⟨ids.1, ids.2.1, ids.2.2.1, ids.2.2.2, ⟨?_, ?_⟩, target, digests.1,
      digests.2.1, digests.2.2.1, digests.2.2.2.1, digests.2.2.2.2.1,
      digests.2.2.2.2.2, ?_, ?_, actor.1, actor.2, window⟩,
      (Except.ok.inj same).symm⟩
    · omega
    · omega
    · exact fun add => not_not.mp fun present => absent ⟨add, present⟩
    · exact fun other => not_not.mp fun malformed => original ⟨other, malformed⟩
  · rintro ⟨admitted, rfl⟩
    have version := admitted.policyVersion
    exact ⟨⟨admitted.capabilityID, admitted.jobID, admitted.actionID,
        admitted.policyID⟩, by omega, admitted.targetIPv4,
      ⟨admitted.artifactDigest, admitted.evidenceSnapshotDigest,
        admitted.validationSnapshotDigest, admitted.authorizationDigest,
        admitted.reasonDigest, admitted.ownedSchemaDigest⟩,
      fun present => present.2 (admitted.addHasNoOriginal present.1),
      fun malformed => malformed.2 (admitted.originalAddDigest malformed.1),
      ⟨admitted.actorID, admitted.nonce⟩, admitted.window, rfl⟩

section Window

variable {common : Common} {operation : Operation}
  {originalAddDigest artifactDigest : Bytes}
  (admitted : Admitted common operation originalAddDigest artifactDigest)
include admitted

theorem Admitted.issuedAt_pos : 0 < common.issuedAt := by
  obtain ⟨nonzero, -, -, early, -⟩ := of_decide_eq_true admitted.window
  have nonnegative := (Time.one_le_year_iff _).mp early
  omega

theorem Admitted.windowFacts :
    Expressible common.issuedAt ∧ Expressible common.notBefore ∧
      Expressible common.expiresAt ∧ common.issuedAt ≤ common.notBefore ∧
      common.notBefore < common.expiresAt ∧
      common.expiresAt - common.issuedAt ≤ maxValidity := by
  have window := of_decide_eq_true admitted.window
  obtain ⟨-, -, -, early, late, issued, started, expires, ordered, open_,
    short⟩ := window
  have positive := (Time.one_le_year_iff _).mp early
  have bounded := (Time.year_le_9999_iff _).mp late
  have later : ∀ {instant}, common.issuedAt ≤ instant → 1 ≤ Time.year instant := by
    intro instant after
    exact (Time.one_le_year_iff _).mpr (by omega)
  have sooner : ∀ {instant}, instant ≤ common.expiresAt →
      Time.year instant ≤ 9999 := by
    intro instant before
    exact (Time.year_le_9999_iff _).mpr (by omega)
  exact ⟨⟨early, sooner (by omega), issued⟩,
    ⟨later ordered, sooner (by omega), started⟩,
    ⟨later (by omega), late, expires⟩, ordered, open_, short⟩

end Window

/-! ## Writing and reading -/

/-- The wire the canonical writer produces. -/
private def wireOf (value : Value) (issuedAt notBefore expiresAt : Bytes) :
    CapabilityWire :=
  { actionID := value.actionID
    actorID := value.actorID
    artifactDigest := value.artifactDigest
    authorizationDigest := value.authorizationDigest
    capabilityID := value.capabilityID
    evidenceSnapshotDigest := value.evidenceSnapshotDigest
    expiresAt
    issuedAt
    jobID := value.jobID
    nonce := value.nonce
    notBefore
    operation := value.operation.text
    originalAddDigest :=
      if value.originalAddDigest = [] then none
      else some value.originalAddDigest
    ownedSchemaDigest := value.ownedSchemaDigest
    policyID := value.policyID
    policyVersion := value.policyVersion
    reasonDigest := value.reasonDigest
    schemaVersion := value.schemaVersion
    targetIPv4 := value.targetIPv4
    validationSnapshotDigest := value.validationSnapshotDigest }

private theorem marshalCapabilityTimes_eq
    (value : Value) (issuedAt notBefore expiresAt : Bytes) :
    marshalCapabilityTimes value issuedAt notBefore expiresAt =
      Json.marshalStruct capabilityFields
        (wireOf value issuedAt notBefore expiresAt) := by
  have pointer : nullableString value.originalAddDigest =
      (match (wireOf value issuedAt notBefore expiresAt).originalAddDigest with
        | none => Json.null
        | some text => .string text) := by
    simp only [nullableString, wireOf]
    split <;> rfl
  rw [marshalCapabilityTimes, pointer]
  rfl

private theorem capabilityFields_texts :
    Json.distinctNames (capabilityFields.map (·.name)) = true ∧
      (capabilityFields.all fun field => field.name.length ≤ 26) = true ∧
      Json.Plain capabilitySchemaVersion ∧
      capabilitySchemaVersion.length ≤ 23 := by
  decide +kernel

private theorem capabilityFields_complete :
    Json.Complete capabilityFields {} where
  distinct := Json.distinctNames_iff.mp capabilityFields_texts.1
  covers value := by
    simp only [capabilityFields, List.foldl_cons, List.foldl_nil,
      Json.Field.text, Json.Field.textPointer, Json.Field.uint]

private theorem operation_text (operation : Operation) :
    Operation.ofText? operation.text = some operation ∧
      Json.Plain operation.text ∧ operation.text.length ≤ 7 := by
  cases operation <;> decide +kernel

private theorem nonce_matched
    {nonce : Bytes} (valid : validNonce nonce = true) :
    noncePattern.matchString nonce = true := by
  simp only [validNonce, Bool.and_eq_true] at valid
  exact valid.1

section Admitted

variable {common : Common} {operation : Operation}
  {originalAddDigest artifactDigest : Bytes}
  (admitted : Admitted common operation originalAddDigest artifactDigest)
include admitted

private theorem Admitted.original_text :
    Json.Plain originalAddDigest ∧ originalAddDigest.length ≤ 71 := by
  by_cases add : operation = .add
  · rw [admitted.addHasNoOriginal add]
    exact ⟨by simp [Json.Plain], by simp⟩
  · exact digest_text (admitted.originalAddDigest add)

private theorem Admitted.within :
    ∀ field ∈ capabilityFields, field.Within 130
      (wireOf (valueOf common operation originalAddDigest artifactDigest)
        (Time.format common.issuedAt) (Time.format common.notBefore)
        (Time.format common.expiresAt)) := by
  obtain ⟨issued, started, expires, -⟩ := admitted.windowFacts
  have pointer : ∀ text, (if originalAddDigest = [] then none
      else some originalAddDigest) = some text →
        Json.Plain text ∧ text.length ≤ 71 := by
    intro text present
    split at present
    · cases present
    · cases present
      exact admitted.original_text
  have version : common.policyVersion < 2 ^ 32 := by
    have bounds := admitted.policyVersion
    omega
  have schema := capabilityFields_texts.2.2
  simp only [capabilityFields, List.forall_mem_cons, List.not_mem_nil,
    false_implies, implies_true, and_true]
  exact ⟨Json.Field.within_text (uuid_text admitted.actionID) (by decide),
    Json.Field.within_text (actor_text admitted.actorID) (by decide),
    Json.Field.within_text (digest_text admitted.artifactDigest) (by decide),
    Json.Field.within_text (digest_text admitted.authorizationDigest)
      (by decide),
    Json.Field.within_text (uuid_text admitted.capabilityID) (by decide),
    Json.Field.within_text (digest_text admitted.evidenceSnapshotDigest)
      (by decide),
    Json.Field.within_text expires.text (by decide),
    Json.Field.within_text issued.text (by decide),
    Json.Field.within_text (uuid_text admitted.jobID) (by decide),
    Json.Field.within_text (nonce_text (nonce_matched admitted.nonce))
      (by decide),
    Json.Field.within_text started.text (by decide),
    Json.Field.within_text (operation_text operation).2 (by decide),
    Json.Field.within_textPointer pointer (by decide),
    Json.Field.within_text (digest_text admitted.ownedSchemaDigest)
      (by decide),
    Json.Field.within_text (uuid_text admitted.policyID) (by decide),
    Json.Field.within_uint (by decide) (by decide) version,
    Json.Field.within_text (digest_text admitted.reasonDigest) (by decide),
    Json.Field.within_text schema (by decide),
    Json.Field.within_text (address_text admitted.targetIPv4) (by decide),
    Json.Field.within_text (digest_text admitted.validationSnapshotDigest)
      (by decide)⟩

end Admitted

/-! ## The constructors -/

/-- The artifact means what the operation of the capability says. -/
def ArtifactFor (common : Common) (originalAddDigest artifact : Bytes)
    (ttl : Nat) (inspection : InspectArtifact) : Operation → Prop
  | .add => checkAddArtifact artifact common.targetIPv4 = .ok ttl ∧
      originalAddDigest = [] ∧ inspection = {}
  | .revoke => checkRevokeArtifact artifact common.targetIPv4 = .ok () ∧
      ttl = 0 ∧ inspection = {}
  | .inspect => inspection.Valid ∧ marshalInspection inspection = artifact ∧
      inspection.actionID = common.actionID ∧
      inspection.targetIPv4 = common.targetIPv4 ∧
      inspection.originalAddDigest = originalAddDigest ∧
      inspection.ownedSchemaDigest = common.ownedSchemaDigest ∧ ttl = 0

/-- The checked capability with the given contents. -/
def checkedOf (crypto : Crypto) (common : Common) (operation : Operation)
    (originalAddDigest artifact : Bytes) (ttl : Nat)
    (inspection : InspectArtifact) : CheckedCapability :=
  let value := valueOf common operation originalAddDigest
    (digestText crypto artifact)
  { value
    canonical := marshalCapability value
    digest := digestText crypto (marshalCapability value)
    artifact
    addTTL := ttl
    inspection }

variable {crypto : Crypto}

theorem buildChecked_eq_ok_iff
    {originalAddDigest : Bytes} :
    buildChecked crypto common operation originalAddDigest artifact ttl
        inspection = .ok checked ↔
      Admitted common operation originalAddDigest
          (digestText crypto artifact) ∧
        checked = checkedOf crypto common operation originalAddDigest artifact
          ttl inspection := by
  unfold buildChecked
  constructor
  · intro built
    split at built
    · cases built
    next value accepted =>
      obtain ⟨admitted, rfl⟩ := Iff.mp checkCommon_eq_ok_iff accepted
      cases built
      exact ⟨admitted, rfl⟩
  · rintro ⟨admitted, rfl⟩
    rw [Iff.mpr checkCommon_eq_ok_iff ⟨admitted, rfl⟩]
    rfl

theorem checkAdd_eq_ok_iff {input : Add} :
    checkAdd crypto input = .ok checked ↔
      ∃ ttl, ArtifactFor input.toCommon [] input.canonicalCommand ttl {} .add ∧
        Admitted input.toCommon .add []
          (digestText crypto input.canonicalCommand) ∧
        checked = checkedOf crypto input.toCommon .add []
          input.canonicalCommand ttl {} := by
  unfold checkAdd
  constructor
  · intro accepted
    split at accepted
    · cases accepted
    next ttl command =>
      exact ⟨ttl, ⟨command, rfl, rfl⟩, Iff.mp buildChecked_eq_ok_iff accepted⟩
  · rintro ⟨ttl, command, admitted, rfl⟩
    rw [command.1]
    exact Iff.mpr buildChecked_eq_ok_iff ⟨admitted, rfl⟩

theorem checkRevoke_eq_ok_iff {input : Revoke} :
    checkRevoke crypto input = .ok checked ↔
      ArtifactFor input.toCommon input.originalAddDigest input.canonicalDelete
          0 {} .revoke ∧
        Admitted input.toCommon .revoke input.originalAddDigest
          (digestText crypto input.canonicalDelete) ∧
        checked = checkedOf crypto input.toCommon .revoke
          input.originalAddDigest input.canonicalDelete 0 {} := by
  unfold checkRevoke
  constructor
  · intro accepted
    split at accepted
    · cases accepted
    split at accepted
    · cases accepted
    next command =>
      exact ⟨⟨command, rfl, rfl⟩, Iff.mp buildChecked_eq_ok_iff accepted⟩
  · rintro ⟨command, admitted, rfl⟩
    have original := admitted.originalAddDigest (by decide)
    rw [if_neg (by simp [original]), command.1]
    exact Iff.mpr buildChecked_eq_ok_iff ⟨admitted, rfl⟩

theorem checkInspect_eq_ok_iff
    {input : Inspect} :
    checkInspect crypto input = .ok checked ↔
      ArtifactFor input.toCommon input.originalAddDigest
          (marshalInspection input.artifact) 0 input.artifact .inspect ∧
        Admitted input.toCommon .inspect input.originalAddDigest
          (digestText crypto (marshalInspection input.artifact)) ∧
        checked = checkedOf crypto input.toCommon .inspect
          input.originalAddDigest (marshalInspection input.artifact) 0
          input.artifact := by
  unfold checkInspect
  constructor
  · intro accepted
    split at accepted
    · cases accepted
    split at accepted
    · cases accepted
    next inspection canonical inspected =>
      obtain ⟨valid, same⟩ := Iff.mp checkInspection_eq_ok_iff inspected
      obtain ⟨rfl, rfl⟩ := Prod.mk.inj same
      split at accepted
      · cases accepted
      next bound =>
        simp only [not_or, ne_eq, not_not] at bound
        exact ⟨⟨valid, rfl, bound.1, bound.2.1, bound.2.2.1, bound.2.2.2, rfl⟩,
          Iff.mp buildChecked_eq_ok_iff accepted⟩
  · rintro ⟨⟨valid, -, action, target, original, owned, -⟩, admitted, rfl⟩
    have matched := admitted.originalAddDigest (by decide)
    rw [if_neg (by simp [matched]),
      Iff.mpr checkInspection_eq_ok_iff ⟨valid, rfl⟩]
    simp only [action, target, original, owned, ne_eq, not_true_eq_false,
      or_self, if_false]
    exact Iff.mpr buildChecked_eq_ok_iff ⟨admitted, rfl⟩

/-- Whatever the wire names, the result is one of the three constructions. -/
theorem checkWire_eq_ok
    {wire : CapabilityWire}
    (accepted : checkWire crypto wire common artifact = .ok checked) :
    ∃ operation original ttl inspection,
      ArtifactFor common original artifact ttl inspection operation ∧
        Admitted common operation original (digestText crypto artifact) ∧
        checked = checkedOf crypto common operation original artifact ttl
          inspection := by
  unfold checkWire at accepted
  split at accepted
  · obtain ⟨ttl, command, admitted, rfl⟩ := Iff.mp checkAdd_eq_ok_iff accepted
    exact ⟨.add, [], ttl, {}, command, admitted, rfl⟩
  · next original _ _ =>
      obtain ⟨command, admitted, rfl⟩ := Iff.mp checkRevoke_eq_ok_iff accepted
      exact ⟨.revoke, original, 0, {}, command, admitted, rfl⟩
  · next original _ _ =>
      split at accepted
      · cases accepted
      next inspection parsed =>
        obtain ⟨-, rfl⟩ := parseInspection_eq_ok parsed
        obtain ⟨command, admitted, rfl⟩ := Iff.mp checkInspect_eq_ok_iff accepted
        exact ⟨.inspect, original, 0, inspection, command, admitted, rfl⟩
  · cases accepted

/-- The wire of an admitted capability leads back to its construction. -/
private theorem checkWire_wireOf
    {original : Bytes}
    (means : ArtifactFor common original artifact ttl inspection operation)
    (admitted : Admitted common operation original
      (digestText crypto artifact))
    (issuedAt notBefore expiresAt : Bytes) :
    checkWire crypto (wireOf (valueOf common operation original
        (digestText crypto artifact)) issuedAt notBefore expiresAt) common
        artifact =
      .ok (checkedOf crypto common operation original artifact ttl
        inspection) := by
  have present : operation ≠ .add → original ≠ [] := by
    rintro other rfl
    exact absurd (admitted.originalAddDigest other) (by decide)
  cases operation with
  | add =>
      obtain ⟨command, rfl, rfl⟩ := means
      simp only [checkWire, wireOf, valueOf, (operation_text .add).1, if_true]
      exact Iff.mpr checkAdd_eq_ok_iff ⟨ttl, ⟨command, rfl, rfl⟩, admitted, rfl⟩
  | revoke =>
      obtain ⟨command, rfl, rfl⟩ := means
      have nonempty : ¬ original = [] := present (by decide)
      simp only [checkWire, wireOf, valueOf, (operation_text .revoke).1,
        nonempty, if_false]
      exact Iff.mpr checkRevoke_eq_ok_iff ⟨⟨command, rfl, rfl⟩, admitted, rfl⟩
  | inspect =>
      obtain ⟨valid, rfl, bound⟩ := means
      obtain rfl : ttl = 0 := bound.2.2.2.2
      have nonempty : ¬ original = [] := present (by decide)
      simp only [checkWire, wireOf, valueOf, (operation_text .inspect).1,
        nonempty, if_false, parseInspection_marshalInspection valid]
      exact Iff.mpr checkInspect_eq_ok_iff
        ⟨⟨valid, rfl, bound⟩, admitted, rfl⟩

private theorem parseCanonicalCapability_steps
    {data : Bytes} {wire : CapabilityWire} {issuedAt notBefore expiresAt : Int}
    (decoded : strictDecode capabilityFields {} maxCapabilityBytes data =
      .ok wire)
    (issued : parseCanonicalTime wire.issuedAt = some issuedAt)
    (started : parseCanonicalTime wire.notBefore = some notBefore)
    (expires : parseCanonicalTime wire.expiresAt = some expiresAt)
    (rebuilt : checkWire crypto wire
      (commonOfWire wire issuedAt notBefore expiresAt) artifact = .ok checked)
    (version : checked.value.schemaVersion = wire.schemaVersion)
    (digests : digestEqual checked.value.artifactDigest wire.artifactDigest =
      true)
    (written : marshalCapabilityTimes checked.value wire.issuedAt
      wire.notBefore wire.expiresAt = data) :
    parseCanonicalCapability crypto data artifact = .ok
      { checked with canonical := data, digest := digestText crypto data } := by
  simp only [parseCanonicalCapability, decoded, issued, started, expires,
    rebuilt, version, digests, written, ne_eq, not_true_eq_false, or_self,
    if_false]

/-- Every construction is read back from its canonical bytes. -/
theorem parseCanonicalCapability_checkedOf
    {original : Bytes}
    (means : ArtifactFor common original artifact ttl inspection operation)
    (admitted : Admitted common operation original
      (digestText crypto artifact)) :
    parseCanonicalCapability crypto
        (checkedOf crypto common operation original artifact ttl
          inspection).canonical artifact =
      .ok (checkedOf crypto common operation original artifact ttl
        inspection) := by
  obtain ⟨issued, started, expires, -⟩ := admitted.windowFacts
  have names := capabilityFields_texts.2.1
  have decoded := strictDecode_marshalStruct capabilityFields_complete
    (fun field member => by simpa using List.all_eq_true.mp names field member)
    admitted.within (show _ ≤ maxCapabilityBytes by decide)
  rw [← marshalCapabilityTimes_eq] at decoded
  exact parseCanonicalCapability_steps decoded
    (parseCanonicalTime_format issued) (parseCanonicalTime_format started)
    (parseCanonicalTime_format expires) (checkWire_wireOf means admitted _ _ _)
    rfl (digestEqual_iff.mpr ⟨digestPattern_digestText crypto artifact, rfl⟩)
    rfl

/-- What was read is one of the three constructions, and the bytes are the
canonical ones of its value. -/
theorem parseCanonicalCapability_eq_ok
    {data : Bytes}
    (parsed : parseCanonicalCapability crypto data artifact = .ok checked) :
    ∃ common operation original ttl inspection,
      ArtifactFor common original artifact ttl inspection operation ∧
        Admitted common operation original (digestText crypto artifact) ∧
        checked = checkedOf crypto common operation original artifact ttl
          inspection ∧
        checked.canonical = data := by
  unfold parseCanonicalCapability at parsed
  split at parsed
  · cases parsed
  next wire decoded =>
  split at parsed
  · next issuedAt notBefore expiresAt issued started expires =>
      split at parsed
      · cases parsed
      next built accepted =>
        dsimp only at parsed
        split at parsed
        · cases parsed
        next exact =>
          simp only [not_or, ne_eq, not_not] at exact
          obtain ⟨operation, original, ttl, inspection, means, admitted, rfl⟩ :=
            checkWire_eq_ok accepted
          have written : marshalCapability (valueOf
              (commonOfWire wire issuedAt notBefore expiresAt) operation
              original (digestText crypto artifact)) = data := by
            rw [← exact.2.2,
              ← (format_of_parseCanonicalTime issued).1,
              ← (format_of_parseCanonicalTime started).1,
              ← (format_of_parseCanonicalTime expires).1]
            rfl
          cases parsed
          refine ⟨commonOfWire wire issuedAt notBefore expiresAt, operation,
            original, ttl, inspection, means, admitted, ?_, rfl⟩
          simp only [checkedOf, written]
  · cases parsed

/-- Canonical bytes and checked capabilities determine each other: what a
constructor accepts is read back as it was, what is read is written back byte
for byte, and equal values have equal bytes and digests. -/
theorem capabilityCodec_exact (crypto : Crypto) :
    (∀ input checked, checkAdd crypto input = .ok checked →
      parseCanonicalCapability crypto checked.canonical
        input.canonicalCommand = .ok checked) ∧
    (∀ input checked, checkRevoke crypto input = .ok checked →
      parseCanonicalCapability crypto checked.canonical
        input.canonicalDelete = .ok checked) ∧
    (∀ input checked, checkInspect crypto input = .ok checked →
      parseCanonicalCapability crypto checked.canonical
        (marshalInspection input.artifact) = .ok checked) ∧
    (∀ data artifact checked,
      parseCanonicalCapability crypto data artifact = .ok checked →
      marshalCapability checked.value = data ∧ checked.canonical = data ∧
        checked.digest = digestText crypto data ∧ checked.artifact = artifact ∧
        (checked.value.operation = .inspect →
          marshalInspection checked.inspection = artifact)) ∧
    (∀ data artifact checked otherData otherArtifact other,
      parseCanonicalCapability crypto data artifact = .ok checked →
      parseCanonicalCapability crypto otherData otherArtifact = .ok other →
      checked.value = other.value →
      data = otherData ∧ checked.digest = other.digest) := by
  have written : ∀ data artifact checked,
      parseCanonicalCapability crypto data artifact = .ok checked →
      marshalCapability checked.value = data ∧ checked.canonical = data ∧
        checked.digest = digestText crypto data ∧ checked.artifact = artifact ∧
        (checked.value.operation = .inspect →
          marshalInspection checked.inspection = artifact) := by
    intro data artifact checked parsed
    obtain ⟨common, operation, original, ttl, inspection, means, -, rfl, rfl⟩ :=
      parseCanonicalCapability_eq_ok parsed
    refine ⟨rfl, rfl, rfl, rfl, ?_⟩
    intro inspects
    obtain rfl : operation = .inspect := inspects
    exact means.2.1
  refine ⟨?_, ?_, ?_, written, ?_⟩
  · intro input checked accepted
    obtain ⟨ttl, means, admitted, rfl⟩ := Iff.mp checkAdd_eq_ok_iff accepted
    exact parseCanonicalCapability_checkedOf means admitted
  · intro input checked accepted
    obtain ⟨means, admitted, rfl⟩ := Iff.mp checkRevoke_eq_ok_iff accepted
    exact parseCanonicalCapability_checkedOf means admitted
  · intro input checked accepted
    obtain ⟨means, admitted, rfl⟩ := Iff.mp checkInspect_eq_ok_iff accepted
    exact parseCanonicalCapability_checkedOf means admitted
  · intro data artifact checked otherData otherArtifact other parsed otherParsed
      same
    obtain ⟨bytes, -, digest, -⟩ := written data artifact checked parsed
    obtain ⟨otherBytes, -, otherDigest, -⟩ :=
      written otherData otherArtifact other otherParsed
    rw [same] at bytes
    have equal : data = otherData := bytes.symm.trans otherBytes
    exact ⟨equal, by rw [digest, otherDigest, equal]⟩

end SentinelFlow.Capability
