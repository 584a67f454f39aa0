import SentinelFlow.Capability.Canonical
import SentinelFlow.GoLib.JsonNested
import SentinelFlow.GoLib.JsonObject
import SentinelFlow.GoLib.Rfc3339
import SentinelFlow.GoLib.Sha256
import SentinelFlow.Policy.Command

/-!
# Response policies

A checked policy is frozen as canonical JSON.  The year of its creation time is
checked in the location of that time and written in UTC, where it can be
another year.
-/

namespace SentinelFlow.Policy

open GoLib

structure ResponsePolicy where
  schemaVersion : Bytes
  policyID : Bytes
  policyVersion : Nat
  incidentID : Bytes
  analysisID : Bytes
  action : Bytes
  targetIPv4 : Bytes
  ttlSeconds : Nat
  evidenceSnapshotDigest : Bytes
  evidenceIDs : List Bytes
  rationaleDigest : Bytes
  createdAt : Time.Zoned
deriving DecidableEq, Repr

structure CheckedResponsePolicy where
  value : ResponsePolicy
  canonical : Bytes
  digest : Bytes
deriving DecidableEq, Repr

inductive PolicyErrorCode where
  | encoding
  | canonical
  | schema
  | id
  | version
  | incident
  | analysis
  | action
  | target
  | ttl
  | digest
  | evidence
  | createdAt
  | revision
deriving DecidableEq, Repr

def maxPolicyBytes : Nat := 8 * 1024

def maxInt32 : Nat := 2 ^ 31 - 1

def minTTLSeconds : Nat := 60

def maxTTLSeconds : Nat := 86400

/-- The checks of `CheckResponsePolicy` in order. -/
def policyChecks (value : ResponsePolicy) : List (Bool × PolicyErrorCode) :=
  [(value.schemaVersion = policySchemaVersion, .schema),
    (evidenceIDPattern.matchString value.policyID, .id),
    (value.policyVersion ≠ 0 ∧ value.policyVersion ≤ maxInt32, .version),
    (evidenceIDPattern.matchString value.incidentID, .incident),
    (evidenceIDPattern.matchString value.analysisID, .analysis),
    (value.action = actionBlockIP, .action),
    (IPv4.canonicalText value.targetIPv4, .target),
    (minTTLSeconds ≤ value.ttlSeconds ∧ value.ttlSeconds ≤ maxTTLSeconds,
      .ttl),
    (digestPattern.matchString value.evidenceSnapshotDigest &&
      digestPattern.matchString value.rationaleDigest, .digest),
    (validEvidenceIDs value.evidenceIDs, .evidence),
    (value.createdAt.instant ≠ 0 ∧ 1 ≤ value.createdAt.year ∧
      value.createdAt.year ≤ 9999, .createdAt)]

def policyError (value : ResponsePolicy) : Option PolicyErrorCode :=
  ((policyChecks value).find? fun check => !check.1).map Prod.snd

/-- The keys in the order in which they are written. -/
def ResponsePolicy.members (value : ResponsePolicy) : List (String × Json) :=
  [("action", .string value.action),
    ("analysis_id", .string value.analysisID),
    ("created_at",
      .string (Time.formatRFC3339Nano value.createdAt.instant)),
    ("evidence_ids", .array (value.evidenceIDs.map .string)),
    ("evidence_snapshot_digest", .string value.evidenceSnapshotDigest),
    ("incident_id", .string value.incidentID),
    ("policy_id", .string value.policyID),
    ("policy_version", .number (formatUint value.policyVersion)),
    ("rationale_digest", .string value.rationaleDigest),
    ("schema_version", .string value.schemaVersion),
    ("target_ipv4", .string value.targetIPv4),
    ("ttl_seconds", .number (formatUint value.ttlSeconds))]

def marshalResponsePolicyJCS (value : ResponsePolicy) : Bytes :=
  Json.marshal (.object (Json.named value.members))

section Crypto

variable (crypto : Crypto)

def freeze (value : ResponsePolicy) : CheckedResponsePolicy :=
  let frozen := { value with createdAt := value.createdAt.utc }
  let canonical := marshalResponsePolicyJCS frozen
  { value := frozen, canonical, digest := digestText crypto canonical }

def checkResponsePolicy (value : ResponsePolicy) :
    Except PolicyErrorCode CheckedResponsePolicy :=
  match policyError value with
  | some code => .error code
  | none => .ok (freeze crypto value)

structure ResponsePolicyWire where
  schemaVersion : Bytes := []
  policyID : Bytes := []
  policyVersion : Nat := 0
  incidentID : Bytes := []
  analysisID : Bytes := []
  action : Bytes := []
  targetIPv4 : Bytes := []
  ttlSeconds : Nat := 0
  evidenceSnapshotDigest : Bytes := []
  evidenceIDs : Json.Slice Bytes := .nil
  rationaleDigest : Bytes := []
  createdAt : Bytes := []

/-- The fields by name; their order does not matter to the reader. -/
def wireSlots : List (Json.Slot ResponsePolicyWire) :=
  [(Json.Field.text (ascii "action") (·.action)
      (fun wire text => { wire with action := text })).slot,
    (Json.Field.text (ascii "analysis_id") (·.analysisID)
      (fun wire text => { wire with analysisID := text })).slot,
    (Json.Field.text (ascii "created_at") (·.createdAt)
      (fun wire text => { wire with createdAt := text })).slot,
    Json.Slot.texts (ascii "evidence_ids") (·.evidenceIDs)
      (fun wire ids => { wire with evidenceIDs := ids }),
    (Json.Field.text (ascii "evidence_snapshot_digest")
      (·.evidenceSnapshotDigest)
      (fun wire text => { wire with evidenceSnapshotDigest := text })).slot,
    (Json.Field.text (ascii "incident_id") (·.incidentID)
      (fun wire text => { wire with incidentID := text })).slot,
    (Json.Field.text (ascii "policy_id") (·.policyID)
      (fun wire text => { wire with policyID := text })).slot,
    (Json.Field.uint 32 (ascii "policy_version") (·.policyVersion)
      (fun wire value => { wire with policyVersion := value })).slot,
    (Json.Field.text (ascii "rationale_digest") (·.rationaleDigest)
      (fun wire text => { wire with rationaleDigest := text })).slot,
    (Json.Field.text (ascii "schema_version") (·.schemaVersion)
      (fun wire text => { wire with schemaVersion := text })).slot,
    (Json.Field.text (ascii "target_ipv4") (·.targetIPv4)
      (fun wire text => { wire with targetIPv4 := text })).slot,
    (Json.Field.uint 32 (ascii "ttl_seconds") (·.ttlSeconds)
      (fun wire value => { wire with ttlSeconds := value })).slot]

def ResponsePolicyWire.policy (wire : ResponsePolicyWire)
    (createdAt : Time.Zoned) : ResponsePolicy where
  schemaVersion := wire.schemaVersion
  policyID := wire.policyID
  policyVersion := wire.policyVersion
  incidentID := wire.incidentID
  analysisID := wire.analysisID
  action := wire.action
  targetIPv4 := wire.targetIPv4
  ttlSeconds := wire.ttlSeconds
  evidenceSnapshotDigest := wire.evidenceSnapshotDigest
  evidenceIDs := wire.evidenceIDs.items
  rationaleDigest := wire.rationaleDigest
  createdAt := createdAt

variable (numeric : Bytes → Option Time.Zoned)

def parseCanonicalResponsePolicy (data : Bytes) :
    Except PolicyErrorCode CheckedResponsePolicy :=
  if data = [] ∨ data.length > maxPolicyBytes then .error .encoding
  else match Json.parse data with
  | none => .error .encoding
  | some document =>
      if ¬ Json.uniqueNames document then .error .encoding
      else match Json.decodeSlots wireSlots {} document with
      | none => .error .encoding
      | some wire =>
          match Time.Zoned.parse numeric wire.createdAt with
          | none => .error .createdAt
          | some createdAt =>
              match checkResponsePolicy crypto (wire.policy createdAt) with
              | .error code => .error code
              | .ok checked =>
                  if data ≠ checked.canonical then .error .canonical
                  else .ok checked

def reviseResponsePolicy (previous : CheckedResponsePolicy)
    (next : ResponsePolicy) : Except PolicyErrorCode CheckedResponsePolicy :=
  if previous.canonical = [] ∨ previous.digest = [] ∨
      next.policyID ≠ previous.value.policyID ∨
      next.incidentID ≠ previous.value.incidentID ∨
      previous.value.policyVersion = maxInt32 ∨
      next.policyVersion ≠ (previous.value.policyVersion + 1) % 2 ^ 32 ∨
      ¬ previous.value.createdAt.instant < next.createdAt.instant then
    .error .revision
  else match checkResponsePolicy crypto next with
  | .error code => .error code
  | .ok checked =>
      if checked.digest = previous.digest ∨
          checked.canonical = previous.canonical then .error .revision
      else .ok checked

end Crypto

variable {crypto : Crypto} {numeric : Bytes → Option Time.Zoned}
  {value : ResponsePolicy} {checked : CheckedResponsePolicy}

/-! ## What is checked -/

/-- What the checks of a policy establish. -/
structure Valid (value : ResponsePolicy) : Prop where
  schema : value.schemaVersion = policySchemaVersion
  id : evidenceIDPattern.matchString value.policyID = true
  version : value.policyVersion ≠ 0 ∧ value.policyVersion ≤ maxInt32
  incident : evidenceIDPattern.matchString value.incidentID = true
  analysis : evidenceIDPattern.matchString value.analysisID = true
  action : value.action = actionBlockIP
  target : IPv4.canonicalText value.targetIPv4 = true
  ttl : minTTLSeconds ≤ value.ttlSeconds ∧ value.ttlSeconds ≤ maxTTLSeconds
  snapshot : digestPattern.matchString value.evidenceSnapshotDigest = true
  rationale : digestPattern.matchString value.rationaleDigest = true
  evidence : validEvidenceIDs value.evidenceIDs = true
  created : value.createdAt.instant ≠ 0 ∧ 1 ≤ value.createdAt.year ∧
    value.createdAt.year ≤ 9999

theorem policyError_eq_none_iff : policyError value = none ↔ Valid value := by
  simp only [policyError, Option.map_eq_none_iff, List.find?_eq_none,
    policyChecks, List.forall_mem_cons, Bool.not_eq_true, Bool.not_eq_false',
    decide_eq_true_eq, Bool.and_eq_true, List.not_mem_nil, false_implies,
    implies_true, and_true]
  constructor
  · rintro ⟨schema, id, version, incident, analysis, action, target, ttl,
      ⟨snapshot, rationale⟩, evidence, created⟩
    exact ⟨schema, id, version, incident, analysis, action, target, ttl,
      snapshot, rationale, evidence, created⟩
  · rintro ⟨schema, id, version, incident, analysis, action, target, ttl,
      snapshot, rationale, evidence, created⟩
    exact ⟨schema, id, version, incident, analysis, action, target, ttl,
      ⟨snapshot, rationale⟩, evidence, created⟩

theorem checkResponsePolicy_eq_ok_iff :
    checkResponsePolicy crypto value = .ok checked ↔
      Valid value ∧ checked = freeze crypto value := by
  rw [← policyError_eq_none_iff]
  unfold checkResponsePolicy
  constructor
  · intro accepted
    split at accepted
    · cases accepted
    next passed =>
      cases accepted
      exact ⟨passed, rfl⟩
  · rintro ⟨passed, rfl⟩
    rw [passed]

/-! ## What is written -/

private theorem id_text {text : Bytes}
    (matched : evidenceIDPattern.matchString text = true) :
    Json.Plain text ∧ text.length ≤ 36 := by
  have letters : ∀ byte, evidenceIDPattern.letter byte = true →
      Json.plainByte byte = true := by
    decide +kernel
  exact ⟨Capability.plain_of_matchString letters matched,
    (Regexp.length_le_of_matchString matched).2⟩

theorem validEvidenceIDs_bounds {ids : List Bytes}
    (valid : validEvidenceIDs ids = true) :
    ids.length ≤ 50 ∧
      ∀ id ∈ ids, evidenceIDPattern.matchString id = true := by
  have each : ∀ (ids : List Bytes) (previous : Option Bytes),
      ascendingFrom previous ids = true →
      ∀ id ∈ ids, evidenceIDPattern.matchString id = true := by
    intro ids
    induction ids with
    | nil => intro _ _; exact List.forall_mem_nil _
    | cons id rest induction =>
        intro previous ascending
        simp only [ascendingFrom, Bool.and_eq_true] at ascending
        exact List.forall_mem_cons.mpr
          ⟨ascending.1.1, induction _ ascending.2⟩
  simp only [validEvidenceIDs, Bool.and_eq_true, decide_eq_true_eq] at valid
  exact ⟨valid.1.2, each ids none valid.2⟩

def memberNames : List String :=
  ["action", "analysis_id", "created_at", "evidence_ids",
    "evidence_snapshot_digest", "incident_id", "policy_id", "policy_version",
    "rationale_digest", "schema_version", "target_ipv4", "ttl_seconds"]

private theorem memberNames_legible : Json.Names memberNames := by
  constructor
  · decide +kernel
  · decide +kernel

/-- The policy was created in a year that UTC texts can express. -/
structure ResponsePolicy.Dated (value : ResponsePolicy) : Prop where
  lower : 1 ≤ Time.year value.createdAt.instant
  upper : Time.year value.createdAt.instant ≤ 9999

private theorem created_text (dated : value.Dated) :
    Json.Plain (Time.formatRFC3339Nano value.createdAt.instant) ∧
      (Time.formatRFC3339Nano value.createdAt.instant).length ≤ 30 := by
  have letters : ∀ byte : UInt8,
      isDigit byte = true ∨ byte ∈ Time.layout.map Prod.snd →
        Json.plainByte byte = true := by
    decide +kernel
  have lower := dated.lower
  exact ⟨fun byte member => letters byte (Time.mem_formatRFC3339Nano member),
    (Time.length_formats_le (by omega) dated.upper).1⟩

/-- The document of a checked policy is plain and short. -/
theorem bounded_members
    (valid : Valid value) (dated : value.Dated) (depth : Nat) :
    Json.Bounded (depth + 2) maxPolicyBytes
      (.object (Json.named value.members)) := by
  have text {text : Bytes} {size : Nat}
      (described : Json.Plain text ∧ text.length ≤ size) :
      Json.Bounded (depth + 1) (size + 2) (.string text) :=
    Json.bounded_string _ described (Nat.le_refl _)
  obtain ⟨few, ids⟩ := validEvidenceIDs_bounds valid.evidence
  have evidence : Json.Bounded (depth + 1) 1952
      (.array (value.evidenceIDs.map .string)) := by
    have each : ∀ item ∈ value.evidenceIDs.map Json.string,
        Json.Bounded depth 38 item := by
      intro item member
      obtain ⟨id, known, rfl⟩ := List.mem_map.mp member
      exact Json.bounded_string _ (id_text (ids id known)) (by decide)
    refine (Json.bounded_array each).weaken ?_
    rw [List.length_map]
    omega
  have version := valid.version.2
  have seconds := valid.ttl.2
  rw [maxInt32] at version
  rw [maxTTLSeconds] at seconds
  have action : Json.Plain value.action ∧ value.action.length ≤ 8 := by
    rw [valid.action]
    decide +kernel
  have schema : Json.Plain value.schemaVersion ∧
      value.schemaVersion.length ≤ 18 := by
    rw [valid.schema]
    decide +kernel
  have number {value : Nat} (small : value < 10 ^ 10) :
      Json.Bounded (depth + 1) 10 (.number (formatUint value)) :=
    Json.bounded_number _ (by decide) small
  refine (Json.bounded_object memberNames_legible rfl
    (.cons (text action) <|
    .cons (text (id_text valid.analysis)) <|
    .cons (text (created_text dated)) <|
    .cons evidence <|
    .cons (text (Capability.digest_text valid.snapshot)) <|
    .cons (text (id_text valid.incident)) <|
    .cons (text (id_text valid.id)) <|
    .cons (number (by omega)) <|
    .cons (text (Capability.digest_text valid.rationale)) <|
    .cons (text schema) <|
    .cons (text (Capability.address_text valid.target)) <|
    .cons (number (by omega)) .nil)).weaken ?_
  decide +kernel

/-! ## What is read -/

/-- The wire form of a policy in UTC. -/
def ResponsePolicy.wire (value : ResponsePolicy) : ResponsePolicyWire where
  schemaVersion := value.schemaVersion
  policyID := value.policyID
  policyVersion := value.policyVersion
  incidentID := value.incidentID
  analysisID := value.analysisID
  action := value.action
  targetIPv4 := value.targetIPv4
  ttlSeconds := value.ttlSeconds
  evidenceSnapshotDigest := value.evidenceSnapshotDigest
  evidenceIDs := .of value.evidenceIDs
  rationaleDigest := value.rationaleDigest
  createdAt := Time.formatRFC3339Nano value.createdAt.instant

theorem decodeSlots_members (valid : Valid value) :
    Json.decodeSlots wireSlots {} (.object (Json.named value.members)) =
      some value.wire := by
  have version := valid.version.2
  have seconds := valid.ttl.2
  rw [maxInt32] at version
  rw [maxTTLSeconds] at seconds
  have versionRead : parseUint 32 (formatUint value.policyVersion) =
      some value.policyVersion := parseUint_formatUint (by omega)
  have secondsRead : parseUint 32 (formatUint value.ttlSeconds) =
      some value.ttlSeconds := parseUint_formatUint (by omega)
  have ids : Json.readSlice Json.readText [] .nil
      (.array (value.evidenceIDs.map .string)) =
        some (.of value.evidenceIDs) :=
    Json.readSlice_nil fun _ _ => rfl
  have document : Json.object (Json.named value.members) =
      Json.slotsObject wireSlots value.wire := by
    simp only [Json.slotsObject, wireSlots, List.map_cons, List.map_nil,
      Json.Slot.texts, ResponsePolicy.wire, Json.items_of]
    rfl
  rw [document, Json.decodeSlots_slotsObject (by decide +kernel)]
  simp only [wireSlots, List.foldlM_cons, List.foldlM_nil, Json.Field.slot,
    Json.Field.text, Json.Field.uint, Json.Slot.texts, ResponsePolicy.wire,
    Json.items_of, ids, versionRead, secondsRead, Option.map_some,
    Option.bind_eq_bind, Option.bind_some, Option.pure_def]

private theorem uniqueNames_members (value : ResponsePolicy) :
    Json.uniqueNames (.object (Json.named value.members)) = true := by
  have strings : Json.uniqueNamesItems
      (value.evidenceIDs.map Json.string) = true := by
    induction value.evidenceIDs with
    | nil => rfl
    | cons id ids induction => exact induction
  rw [Json.uniqueNames, memberNames_legible.distinctNames rfl]
  simp [Json.named, ResponsePolicy.members, Json.uniqueNamesMembers,
    Json.uniqueNames, strings]

theorem parseCanonicalResponsePolicy_eq_ok_iff {data : Bytes} :
    parseCanonicalResponsePolicy crypto numeric data = .ok checked ↔
      (data ≠ [] ∧ data.length ≤ maxPolicyBytes) ∧
      ∃ document wire createdAt, Json.parse data = some document ∧
        Json.uniqueNames document = true ∧
        Json.decodeSlots wireSlots {} document = some wire ∧
        Time.Zoned.parse numeric wire.createdAt = some createdAt ∧
        checkResponsePolicy crypto (wire.policy createdAt) = .ok checked ∧
        data = checked.canonical := by
  unfold parseCanonicalResponsePolicy
  constructor
  · intro accepted
    split at accepted
    · cases accepted
    next size =>
    split at accepted
    · cases accepted
    next document parsed =>
    split at accepted
    · cases accepted
    next unique =>
    split at accepted
    · cases accepted
    next wire decoded =>
    split at accepted
    · cases accepted
    next createdAt created =>
    split at accepted
    · cases accepted
    next valid =>
    split at accepted
    · cases accepted
    next same =>
      cases accepted
      simp only [not_or, not_not, Nat.not_lt] at size unique same
      exact ⟨size, document, wire, createdAt, parsed, unique, decoded, created,
        valid, same⟩
  · rintro ⟨⟨nonempty, short⟩, document, wire, createdAt, parsed, unique,
      decoded, created, valid, same⟩
    rw [if_neg (by simp [nonempty, short]), parsed]
    simp [unique, decoded, created, valid, ← same]

/-- A policy that was created in a year of UTC texts is read back. -/
theorem parseCanonicalResponsePolicy_canonical
    (dated : value.Dated)
    (accepted : checkResponsePolicy crypto value = .ok checked) :
    parseCanonicalResponsePolicy crypto numeric checked.canonical =
      .ok checked := by
  obtain ⟨valid, rfl⟩ := checkResponsePolicy_eq_ok_iff.mp accepted
  have lower := dated.lower
  obtain ⟨canonical, short⟩ := bounded_members valid dated 9998
  have frozen : value.wire.policy value.createdAt.utc =
      { value with createdAt := value.createdAt.utc } := by
    simp only [ResponsePolicyWire.policy, ResponsePolicy.wire, Json.items_of]
  have stillValid : Valid { value with createdAt := value.createdAt.utc } := by
    refine { valid with created := ⟨valid.created.1, ?_⟩ }
    simpa [Time.Zoned.year, Time.Zoned.utc] using ⟨lower, dated.upper⟩
  refine parseCanonicalResponsePolicy_eq_ok_iff.mpr ⟨⟨nofun, short⟩,
    .object (Json.named value.members), value.wire, value.createdAt.utc,
    Json.parse_marshal canonical, uniqueNames_members value,
    decodeSlots_members valid,
    Time.Zoned.parse_formatRFC3339Nano numeric (by omega) dated.upper, ?_, rfl⟩
  rw [frozen]
  exact checkResponsePolicy_eq_ok_iff.mpr ⟨stillValid, rfl⟩

/-- A policy that was created at the given time. -/
def samplePolicy (createdAt : Time.Zoned) : ResponsePolicy where
  schemaVersion := policySchemaVersion
  policyID := ascii "00000000-0000-4000-8000-000000000001"
  policyVersion := 1
  incidentID := ascii "00000000-0000-4000-8000-000000000002"
  analysisID := ascii "00000000-0000-4000-8000-000000000003"
  action := actionBlockIP
  targetIPv4 := ascii "203.0.113.7"
  ttlSeconds := 1800
  evidenceSnapshotDigest := digestText Sha256.hashing []
  evidenceIDs := [ascii "00000000-0000-4000-8000-000000000004"]
  rationaleDigest := digestText Sha256.hashing [0]
  createdAt

theorem checkResponsePolicy_eq_freeze (passed : policyError value = none) :
    checkResponsePolicy crypto value = .ok (freeze crypto value) :=
  checkResponsePolicy_eq_ok_iff.mpr
    ⟨policyError_eq_none_iff.mp passed, rfl⟩

end SentinelFlow.Policy
