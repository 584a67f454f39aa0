import SentinelFlow.GoLib.Crypto
import SentinelFlow.GoLib.Netip
import SentinelFlow.GoLib.Time

/-!
# Execution capabilities and results

The data exchanged between the dispatcher and the isolated executor.  Strings
are byte strings, instants are nanoseconds since the start of year one in UTC,
and the closed string types of the source are inductive types with their wire
text.
-/

namespace SentinelFlow.Capability

open GoLib

/-- The stable rejection classes of the package that the model can produce. -/
inductive ErrorCode where
  | encoding
  | canonical
  | schema
  | identity
  | operation
  | digest
  | artifact
  | time
  | notYetValid
  | expired
  | keyRole
  | signature
  | result
  | resultBinding
  | unchecked
deriving DecidableEq, Repr

def capabilitySchemaVersion : Bytes := ascii "execution-capability-v1"

def resultSchemaVersion : Bytes := ascii "execution-result-v1"

def inspectSchemaVersion : Bytes := ascii "nft-inspect-v1"

def capabilitySigningDomain : Bytes :=
  ascii "sentinelflow execution-capability-v1"

def resultSigningDomain : Bytes := ascii "sentinelflow execution-result-v1"

def maxCapabilityBytes : Nat := 8 * 1024

def maxArtifactBytes : Nat := 4 * 1024

def maxResultBytes : Nat := 8 * 1024

/-- `MaxValidity`, sixty seconds. -/
def maxValidity : Int := 60 * Time.second

inductive Operation where
  | add
  | revoke
  | inspect
deriving DecidableEq, Repr

def Operation.text : Operation → Bytes
  | add => ascii "add"
  | revoke => ascii "revoke"
  | inspect => ascii "inspect"

def Operation.ofText? (text : Bytes) : Option Operation :=
  [add, revoke, inspect].find? fun operation => operation.text == text

/-- Fields shared by the operation-specific inputs. -/
structure Common where
  capabilityID : Bytes
  jobID : Bytes
  actionID : Bytes
  policyID : Bytes
  policyVersion : Nat
  targetIPv4 : Bytes
  evidenceSnapshotDigest : Bytes
  validationSnapshotDigest : Bytes
  authorizationDigest : Bytes
  actorID : Bytes
  reasonDigest : Bytes
  ownedSchemaDigest : Bytes
  issuedAt : Int
  notBefore : Int
  expiresAt : Int
  nonce : Bytes
deriving DecidableEq, Repr

/-- Data for the executor's fixed read-back; not nftables input. -/
structure InspectArtifact where
  schemaVersion : Bytes := []
  actionID : Bytes := []
  targetIPv4 : Bytes := []
  originalAddDigest : Bytes := []
  ownedSchemaDigest : Bytes := []
  purpose : Bytes := []
deriving DecidableEq, Repr

/-- The input of `CheckAdd`. -/
structure Add extends Common where
  canonicalCommand : Bytes

/-- The input of `CheckRevoke`. -/
structure Revoke extends Common where
  originalAddDigest : Bytes
  canonicalDelete : Bytes

/-- The input of `CheckInspect`. -/
structure Inspect extends Common where
  originalAddDigest : Bytes
  artifact : InspectArtifact

/-- The signed capability payload. -/
structure Value where
  schemaVersion : Bytes
  capabilityID : Bytes
  operation : Operation
  jobID : Bytes
  actionID : Bytes
  policyID : Bytes
  policyVersion : Nat
  targetIPv4 : Bytes
  artifactDigest : Bytes
  originalAddDigest : Bytes
  evidenceSnapshotDigest : Bytes
  validationSnapshotDigest : Bytes
  authorizationDigest : Bytes
  actorID : Bytes
  reasonDigest : Bytes
  ownedSchemaDigest : Bytes
  issuedAt : Int
  notBefore : Int
  expiresAt : Int
  nonce : Bytes
deriving DecidableEq, Repr

/-- May be signed by the dispatcher but not executed. -/
structure CheckedCapability where
  value : Value
  canonical : Bytes
  digest : Bytes
  artifact : Bytes
  addTTL : Nat
  inspection : InspectArtifact
deriving DecidableEq, Repr

/-- Transport bytes, untrusted until verified. -/
structure SignedCapability where
  keyID : Bytes
  canonical : Bytes
  signature : Bytes
  artifact : Bytes
deriving DecidableEq, Repr

/-- A capability whose dispatcher signature was verified. -/
structure VerifiedCapability where
  value : Value
  canonical : Bytes
  digest : Bytes
  artifact : Bytes
  keyID : Bytes
  executorID : Bytes
  addTTL : Nat
  inspection : InspectArtifact
deriving DecidableEq, Repr

/-- The verified read-back bound of an add. -/
def VerifiedCapability.expectedAddTTLSeconds
    (verified : VerifiedCapability) : Option Nat :=
  if verified.value.operation ≠ .add ∨ verified.addTTL = 0 then none
  else some verified.addTTL

inductive Classification where
  | applied
  | recoveredActive
  | revoked
  | inspectActive
  | inspectAbsent
  | inspectMismatch
  | failed
  | indeterminate
deriving DecidableEq, Repr

def Classification.text : Classification → Bytes
  | applied => ascii "applied"
  | recoveredActive => ascii "recovered_active"
  | revoked => ascii "revoked"
  | inspectActive => ascii "inspect_active"
  | inspectAbsent => ascii "inspect_absent"
  | inspectMismatch => ascii "inspect_mismatch"
  | failed => ascii "failed"
  | indeterminate => ascii "indeterminate"

def Classification.ofText? (text : Bytes) : Option Classification :=
  [applied, recoveredActive, revoked, inspectActive, inspectAbsent,
    inspectMismatch, failed, indeterminate].find? fun value =>
      value.text == text

inductive NFTExitClass where
  | success
  | notInvoked
  | nonzero
  | timeout
  | signaled
deriving DecidableEq, Repr

def NFTExitClass.text : NFTExitClass → Bytes
  | success => ascii "success"
  | notInvoked => ascii "not_invoked"
  | nonzero => ascii "nonzero"
  | timeout => ascii "timeout"
  | signaled => ascii "signaled"

def NFTExitClass.ofText? (text : Bytes) : Option NFTExitClass :=
  [success, notInvoked, nonzero, timeout, signaled].find? fun value =>
    value.text == text

inductive ReadbackState where
  | active
  | absent
  | mismatch
  | unavailable
deriving DecidableEq, Repr

def ReadbackState.text : ReadbackState → Bytes
  | active => ascii "active"
  | absent => ascii "absent"
  | mismatch => ascii "mismatch"
  | unavailable => ascii "unavailable"

def ReadbackState.ofText? (text : Bytes) : Option ReadbackState :=
  [active, absent, mismatch, unavailable].find? fun value =>
    value.text == text

inductive ResultErrorCode where
  | none
  | capabilityInvalid
  | artifactMismatch
  | schemaMismatch
  | targetExists
  | targetAbsent
  | nftFailed
  | readbackFailed
  | readbackMismatch
  | journalFailed
  | deadlineExceeded
  | replayConflict
  | indeterminate
deriving DecidableEq, Repr

def ResultErrorCode.text : ResultErrorCode → Bytes
  | none => ascii "none"
  | capabilityInvalid => ascii "capability_invalid"
  | artifactMismatch => ascii "artifact_mismatch"
  | schemaMismatch => ascii "schema_mismatch"
  | targetExists => ascii "target_exists"
  | targetAbsent => ascii "target_absent"
  | nftFailed => ascii "nft_failed"
  | readbackFailed => ascii "readback_failed"
  | readbackMismatch => ascii "readback_mismatch"
  | journalFailed => ascii "journal_failed"
  | deadlineExceeded => ascii "deadline_exceeded"
  | replayConflict => ascii "replay_conflict"
  | indeterminate => ascii "indeterminate"

def ResultErrorCode.ofText? (text : Bytes) : Option ResultErrorCode :=
  [none, capabilityInvalid, artifactMismatch, schemaMismatch, targetExists,
    targetAbsent, nftFailed, readbackFailed, readbackMismatch, journalFailed,
    deadlineExceeded, replayConflict, indeterminate].find? fun value =>
      value.text == text

/-- An executor attestation: enumerated classifications only. -/
structure Result where
  resultID : Bytes
  capabilityID : Bytes
  capabilityDigest : Bytes
  operation : Operation
  actionID : Bytes
  artifactDigest : Bytes
  targetIPv4 : Bytes
  classification : Classification
  nftExitClass : Option NFTExitClass
  readbackState : ReadbackState
  elementHandle : Option Nat
  remainingTTLSeconds : Option Nat
  ownedSchemaDigest : Bytes
  startedAt : Int
  completedAt : Int
  journalSequence : Nat
  errorCode : ResultErrorCode
deriving DecidableEq, Repr

structure CheckedResult where
  value : Result
  canonical : Bytes
  digest : Bytes
deriving DecidableEq, Repr

structure SignedResult where
  keyID : Bytes
  executorID : Bytes
  canonical : Bytes
  signature : Bytes
deriving DecidableEq, Repr

structure VerifiedResult where
  value : Result
  canonical : Bytes
  digest : Bytes
  keyID : Bytes
  executorID : Bytes
deriving DecidableEq, Repr

end SentinelFlow.Capability
