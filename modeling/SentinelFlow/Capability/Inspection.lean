import SentinelFlow.Capability.Canonical

/-!
# Inspection artifacts

An inspection carries a typed read-back request instead of command bytes.  Its
canonical text is written by hand in key order and read by the strict decoder.
-/

namespace SentinelFlow.Capability

open GoLib

structure InspectWire where
  actionID : Bytes := []
  operation : Bytes := []
  originalAddDigest : Bytes := []
  ownedSchemaDigest : Bytes := []
  purpose : Bytes := []
  schemaVersion : Bytes := []
  targetIPv4 : Bytes := []

/-- The tagged fields, in the order of the canonical text. -/
def inspectFields : List (Json.Field InspectWire) :=
  [.text (ascii "action_id") (·.actionID)
      (fun wire text => { wire with actionID := text }),
    .text (ascii "operation") (·.operation)
      (fun wire text => { wire with operation := text }),
    .text (ascii "original_add_digest") (·.originalAddDigest)
      (fun wire text => { wire with originalAddDigest := text }),
    .text (ascii "owned_schema_digest") (·.ownedSchemaDigest)
      (fun wire text => { wire with ownedSchemaDigest := text }),
    .text (ascii "purpose") (·.purpose)
      (fun wire text => { wire with purpose := text }),
    .text (ascii "schema_version") (·.schemaVersion)
      (fun wire text => { wire with schemaVersion := text }),
    .text (ascii "target_ipv4") (·.targetIPv4)
      (fun wire text => { wire with targetIPv4 := text })]

def inspectOperation : Bytes := ascii "inspect"

def inspectPurposes : List Bytes :=
  [ascii "reconciliation", ascii "expiry_confirmation",
    ascii "operator_status"]

def marshalInspection (value : InspectArtifact) : Bytes :=
  Json.marshal (.object
    [(ascii "action_id", .string value.actionID),
      (ascii "operation", .string inspectOperation),
      (ascii "original_add_digest", .string value.originalAddDigest),
      (ascii "owned_schema_digest", .string value.ownedSchemaDigest),
      (ascii "purpose", .string value.purpose),
      (ascii "schema_version", .string inspectSchemaVersion),
      (ascii "target_ipv4", .string value.targetIPv4)])

/-- Freezes an inspection together with its canonical bytes. -/
def checkInspection (value : InspectArtifact) :
    Except ErrorCode (InspectArtifact × Bytes) :=
  if value.schemaVersion ≠ inspectSchemaVersion ∨
      ¬ uuidPattern.matchString value.actionID ∨
      ¬ digestPattern.matchString value.originalAddDigest ∨
      ¬ digestPattern.matchString value.ownedSchemaDigest then
    .error .artifact
  else if ¬ IPv4.canonicalText value.targetIPv4 then .error .artifact
  else if value.purpose ∉ inspectPurposes then .error .artifact
  else .ok (value, marshalInspection value)

def parseInspection (data : Bytes) : Except ErrorCode InspectArtifact :=
  match strictDecode inspectFields {} maxArtifactBytes data with
  | .error _ => .error .artifact
  | .ok wire =>
      if wire.operation ≠ inspectOperation then .error .artifact
      else match checkInspection
          { schemaVersion := wire.schemaVersion
            actionID := wire.actionID
            targetIPv4 := wire.targetIPv4
            originalAddDigest := wire.originalAddDigest
            ownedSchemaDigest := wire.ownedSchemaDigest
            purpose := wire.purpose } with
      | .error _ => .error .artifact
      | .ok (value, canonical) =>
          if data ≠ canonical then .error .artifact else .ok value

structure InspectArtifact.Valid (value : InspectArtifact) : Prop where
  schemaVersion : value.schemaVersion = inspectSchemaVersion
  actionID : uuidPattern.matchString value.actionID = true
  originalAddDigest : digestPattern.matchString value.originalAddDigest = true
  ownedSchemaDigest : digestPattern.matchString value.ownedSchemaDigest = true
  targetIPv4 : IPv4.canonicalText value.targetIPv4 = true
  purpose : value.purpose ∈ inspectPurposes

variable {value : InspectArtifact}

theorem checkInspection_eq_ok_iff
    {checked : InspectArtifact × Bytes} :
    checkInspection value = .ok checked ↔
      value.Valid ∧ checked = (value, marshalInspection value) := by
  constructor
  · intro accepted
    unfold checkInspection at accepted
    split at accepted
    · cases accepted
    next identified =>
      split at accepted
      · cases accepted
      next addressed =>
        split at accepted
        · cases accepted
        next known =>
          simp only [not_or, not_not] at identified addressed known
          cases accepted
          exact ⟨⟨identified.1, identified.2.1, identified.2.2.1,
            identified.2.2.2, addressed, known⟩, rfl⟩
  · rintro ⟨valid, rfl⟩
    rw [checkInspection, if_neg, if_neg, if_neg]
    · simpa using valid.purpose
    · simpa using valid.targetIPv4
    · simp [valid.schemaVersion, valid.actionID, valid.originalAddDigest,
        valid.ownedSchemaDigest]

/-- The wire of a checked inspection. -/
def inspectWireOf (value : InspectArtifact) : InspectWire :=
  { actionID := value.actionID
    operation := inspectOperation
    originalAddDigest := value.originalAddDigest
    ownedSchemaDigest := value.ownedSchemaDigest
    purpose := value.purpose
    schemaVersion := inspectSchemaVersion
    targetIPv4 := value.targetIPv4 }

private theorem inspectFields_texts :
    Json.distinctNames (inspectFields.map (·.name)) = true ∧
      (inspectFields.all fun field => field.name.length ≤ 19) = true ∧
      (inspectPurposes.all fun purpose =>
        decide (Json.Plain purpose ∧ purpose.length ≤ 128)) = true ∧
      (Json.Plain inspectOperation ∧ inspectOperation.length ≤ 7) ∧
      Json.Plain inspectSchemaVersion ∧ inspectSchemaVersion.length ≤ 14 := by
  decide +kernel

private theorem inspectFields_complete :
    Json.Complete inspectFields {} where
  distinct := Json.distinctNames_iff.mp inspectFields_texts.1
  covers _ := rfl

private theorem inspectWireOf_within
    (valid : value.Valid) :
    ∀ field ∈ inspectFields, field.Within 130 (inspectWireOf value) := by
  obtain ⟨-, -, purposes, operation, version⟩ := inspectFields_texts
  have purpose := of_decide_eq_true
    (List.all_eq_true.mp purposes _ valid.purpose)
  simp only [inspectFields, List.forall_mem_cons, List.not_mem_nil,
    false_implies, implies_true, and_true]
  exact ⟨Json.Field.within_text (uuid_text valid.actionID) (by decide),
    Json.Field.within_text operation (by decide),
    Json.Field.within_text (digest_text valid.originalAddDigest) (by decide),
    Json.Field.within_text (digest_text valid.ownedSchemaDigest) (by decide),
    Json.Field.within_text purpose (by decide),
    Json.Field.within_text version (by decide),
    Json.Field.within_text (address_text valid.targetIPv4) (by decide)⟩

theorem strictDecode_marshalInspection
    (valid : value.Valid) :
    strictDecode inspectFields {} maxArtifactBytes (marshalInspection value) =
      .ok (inspectWireOf value) := by
  have written : marshalInspection value =
      Json.marshalStruct inspectFields (inspectWireOf value) := rfl
  have names := inspectFields_texts.2.1
  rw [written]
  exact strictDecode_marshalStruct inspectFields_complete
    (fun field member => by simpa using List.all_eq_true.mp names field member)
    (inspectWireOf_within valid) (by decide)

/-- A checked inspection is read back from its canonical bytes. -/
theorem parseInspection_marshalInspection
    (valid : value.Valid) :
    parseInspection (marshalInspection value) = .ok value := by
  have same : ({ schemaVersion := inspectSchemaVersion
                 actionID := value.actionID
                 targetIPv4 := value.targetIPv4
                 originalAddDigest := value.originalAddDigest
                 ownedSchemaDigest := value.ownedSchemaDigest
                 purpose := value.purpose } : InspectArtifact) = value := by
    rw [← valid.schemaVersion]
  simp only [parseInspection, strictDecode_marshalInspection valid,
    inspectWireOf, ne_eq, not_true_eq_false, if_false, same,
    checkInspection_eq_ok_iff.mpr ⟨valid, rfl⟩]

theorem parseInspection_eq_ok
    {data : Bytes}
    (parsed : parseInspection data = .ok value) :
    value.Valid ∧ marshalInspection value = data := by
  unfold parseInspection at parsed
  split at parsed
  · cases parsed
  split at parsed
  · cases parsed
  split at parsed
  · cases parsed
  next checked canonical accepted =>
    obtain ⟨valid, same⟩ := checkInspection_eq_ok_iff.mp accepted
    obtain ⟨rfl, rfl⟩ := Prod.mk.inj same
    split at parsed
    · cases parsed
    next exact =>
      simp only [ne_eq, not_not] at exact
      cases parsed
      exact ⟨valid, exact.symm⟩

end SentinelFlow.Capability
