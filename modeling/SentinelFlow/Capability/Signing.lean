import SentinelFlow.Capability.Codec
import SentinelFlow.Capability.Result

/-!
# Signatures and bindings

The executor verifies capabilities with the dispatcher's public key and signs
results with its own key.  A verified capability carries everything the codec
admits, and a result is bound to the exact capability it describes.
-/

namespace SentinelFlow.Capability

open GoLib

def signingInput (crypto : Crypto) (domain canonical : Bytes) : Bytes :=
  domain ++ charByte '\n' :: crypto.sha256 canonical

def publicKeySize : Nat := 32

def privateKeySize : Nat := 64

def signatureSize : Nat := 64

structure CapabilityVerifier where
  keyID : Bytes
  executorID : Bytes
  key : Bytes
deriving DecidableEq, Repr

/-- Authenticates before it parses, and applies no freshness: the journal is
consulted first, so that a duplicate cannot refresh its lifetime. -/
def CapabilityVerifier.verify (crypto : Crypto)
    (verifier : CapabilityVerifier) (signed : SignedCapability) :
    Except ErrorCode VerifiedCapability :=
  if verifier.key.length ≠ publicKeySize ∨ verifier.keyID ≠ signed.keyID then
    .error .keyRole
  else if signed.canonical = [] ∨
      signed.canonical.length > maxCapabilityBytes ∨ signed.artifact = [] ∨
      signed.artifact.length > maxArtifactBytes ∨
      signed.signature.length ≠ signatureSize ∨
      ¬ crypto.ed25519Verify verifier.key
        (signingInput crypto capabilitySigningDomain signed.canonical)
        signed.signature then
    .error .signature
  else match parseCanonicalCapability crypto signed.canonical
      signed.artifact with
  | .error code => .error code
  | .ok checked => .ok
      { value := checked.value
        canonical := checked.canonical
        digest := checked.digest
        artifact := checked.artifact
        keyID := verifier.keyID
        executorID := verifier.executorID
        addTTL := checked.addTTL
        inspection := checked.inspection }

def VerifiedCapability.checkFresh (verified : VerifiedCapability)
    (now : Int) : Except ErrorCode Unit :=
  if verified.canonical = [] ∨ verified.digest = [] ∨
      verified.executorID = [] then
    .error .unchecked
  else if now < verified.value.issuedAt ∨ now < verified.value.notBefore then
    .error .notYetValid
  else if ¬ now < verified.value.expiresAt then .error .expired
  else .ok ()

/-- `AddAt`, `RevokeAt` and `InspectAt`: the operation must be the expected one
and the capability fresh. -/
def VerifiedCapability.executableAt (operation : Operation)
    (verified : VerifiedCapability) (now : Int) : Except ErrorCode Unit :=
  if verified.value.operation ≠ operation then .error .operation
  else verified.checkFresh now

def bindResult (result : Result) (capability : VerifiedCapability)
    (executorID : Bytes) : Except ErrorCode Unit :=
  if executorID = [] ∨ executorID ≠ capability.executorID ∨
      capability.canonical = [] ∨
      result.capabilityID ≠ capability.value.capabilityID ∨
      result.operation ≠ capability.value.operation ∨
      result.actionID ≠ capability.value.actionID ∨
      result.targetIPv4 ≠ capability.value.targetIPv4 ∨
      ¬ digestEqual result.capabilityDigest capability.digest ∨
      ¬ digestEqual result.artifactDigest capability.value.artifactDigest ∨
      ¬ digestEqual result.ownedSchemaDigest
        capability.value.ownedSchemaDigest then
    .error .resultBinding
  else if result.startedAt < capability.value.notBefore then
    .error .resultBinding
  else if result.operation = .add ∧ result.remainingTTLSeconds.any (fun ttl =>
      decide (ttl > capability.addTTL ∨ capability.addTTL = 0)) then
    .error .resultBinding
  else .ok ()

structure ResultSigner where
  keyID : Bytes
  executorID : Bytes
  key : Bytes
deriving DecidableEq, Repr

def ResultSigner.signFor (crypto : Crypto) (signer : ResultSigner)
    (capability : VerifiedCapability) (checked : CheckedResult) :
    Except ErrorCode SignedResult :=
  if signer.key.length ≠ privateKeySize ∨ checked.canonical = [] ∨
      ¬ digestEqual checked.digest (digestText crypto checked.canonical) then
    .error .unchecked
  else match bindResult checked.value capability signer.executorID with
  | .error code => .error code
  | .ok _ => .ok
      { keyID := signer.keyID
        executorID := signer.executorID
        canonical := checked.canonical
        signature := crypto.ed25519Sign signer.key
          (signingInput crypto resultSigningDomain checked.canonical) }

structure ResultVerifier where
  keyID : Bytes
  executorID : Bytes
  key : Bytes
deriving DecidableEq, Repr

def ResultVerifier.verify (crypto : Crypto) (verifier : ResultVerifier)
    (signed : SignedResult) : Except ErrorCode VerifiedResult :=
  if verifier.key.length ≠ publicKeySize ∨ verifier.keyID ≠ signed.keyID ∨
      verifier.executorID ≠ signed.executorID then
    .error .keyRole
  else if signed.canonical = [] ∨ signed.canonical.length > maxResultBytes ∨
      signed.signature.length ≠ signatureSize ∨
      ¬ crypto.ed25519Verify verifier.key
        (signingInput crypto resultSigningDomain signed.canonical)
        signed.signature then
    .error .signature
  else match parseCanonicalResult crypto signed.canonical with
  | .error code => .error code
  | .ok checked => .ok
      { value := checked.value
        canonical := checked.canonical
        digest := checked.digest
        keyID := verifier.keyID
        executorID := verifier.executorID }

/-! ## What verification establishes -/

/-- The contents of a capability that passed verification. -/
structure Authentic (crypto : Crypto) (verifier : CapabilityVerifier)
    (signed : SignedCapability) (verified : VerifiedCapability) : Prop where
  keyID : signed.keyID = verifier.keyID ∧ verified.keyID = verifier.keyID
  executorID : verified.executorID = verifier.executorID
  signature : signed.signature.length = signatureSize ∧
    crypto.ed25519Verify verifier.key
      (signingInput crypto capabilitySigningDomain signed.canonical)
      signed.signature = true
  sizes : signed.canonical ≠ [] ∧
    signed.canonical.length ≤ maxCapabilityBytes ∧ signed.artifact ≠ [] ∧
    signed.artifact.length ≤ maxArtifactBytes
  canonical : verified.canonical = signed.canonical
  artifact : verified.artifact = signed.artifact
  digest : verified.digest = digestText crypto signed.canonical
  parsed : parseCanonicalCapability crypto signed.canonical signed.artifact =
    .ok ⟨verified.value, verified.canonical, verified.digest,
      verified.artifact, verified.addTTL, verified.inspection⟩
  admitted : ∃ common original,
    ArtifactFor common original signed.artifact verified.addTTL
        verified.inspection verified.value.operation ∧
      Admitted common verified.value.operation original
        (digestText crypto signed.artifact) ∧
      verified.value = valueOf common verified.value.operation original
        (digestText crypto signed.artifact)

theorem CapabilityVerifier.verify_eq_ok
    {crypto : Crypto} {verifier : CapabilityVerifier}
    {signed : SignedCapability} {verified : VerifiedCapability}
    (accepted : verifier.verify crypto signed = .ok verified) :
    Authentic crypto verifier signed verified := by
  unfold CapabilityVerifier.verify at accepted
  split at accepted
  · cases accepted
  next role =>
  split at accepted
  · cases accepted
  next authenticated =>
  split at accepted
  · cases accepted
  next checked parsed =>
    simp only [not_or, ne_eq, not_not, Nat.not_lt] at role authenticated
    obtain ⟨nonempty, bounded, command, short, size, signature⟩ := authenticated
    cases accepted
    obtain ⟨common, operation, original, ttl, inspection, means, admitted, rfl,
      canonical⟩ := parseCanonicalCapability_eq_ok parsed
    refine ⟨⟨role.2.symm, rfl⟩, rfl, ⟨size, signature⟩,
      ⟨nonempty, by omega, command, by omega⟩, canonical, rfl, ?_, parsed,
      common, original, means, admitted, rfl⟩
    rw [← canonical]
    rfl

/-- The conditions on a capability's value that its consumers rely on. -/
structure Value.WellFormed (value : Value) : Prop where
  capabilityID : uuidPattern.matchString value.capabilityID = true
  actionID : uuidPattern.matchString value.actionID = true
  ownedSchemaDigest : digestPattern.matchString value.ownedSchemaDigest = true
  targetIPv4 : IPv4.canonicalText value.targetIPv4 = true
  issuedAt : Expressible value.issuedAt
  notBefore : Expressible value.notBefore
  expiresAt : Expressible value.expiresAt
  positive : 0 < value.issuedAt
  ordered : value.issuedAt ≤ value.notBefore ∧ value.notBefore < value.expiresAt

section Authentic

variable {crypto : Crypto} {verifier : CapabilityVerifier}
  {signed : SignedCapability} {verified : VerifiedCapability}
  (authentic : Authentic crypto verifier signed verified)
include authentic

theorem Authentic.wellFormed : verified.value.WellFormed := by
  obtain ⟨common, original, -, admitted, value⟩ := authentic.admitted
  obtain ⟨issued, before, expires, early, late, -⟩ := admitted.windowFacts
  rw [value]
  exact ⟨admitted.capabilityID, admitted.actionID, admitted.ownedSchemaDigest,
    admitted.targetIPv4, issued, before, expires, admitted.issuedAt_pos, early,
    late⟩

theorem Authentic.artifactDigest :
    verified.value.artifactDigest = digestText crypto signed.artifact := by
  obtain ⟨common, original, -, -, value⟩ := authentic.admitted
  rw [value]
  rfl

end Authentic

/-- What two verifiers accept they read alike. -/
theorem Authentic.agree
    {crypto : Crypto} {verifier other : CapabilityVerifier}
    {signed : SignedCapability} {verified otherVerified : VerifiedCapability}
    (authentic : Authentic crypto verifier signed verified)
    (otherAuthentic : Authentic crypto other signed otherVerified) :
    verified.value = otherVerified.value ∧
      verified.addTTL = otherVerified.addTTL := by
  have parsed := authentic.parsed
  rw [otherAuthentic.parsed, Except.ok.injEq,
    CheckedCapability.mk.injEq] at parsed
  exact ⟨parsed.1.symm, parsed.2.2.2.2.1.symm⟩

/-- The contents of a result that passed verification. -/
structure AuthenticResult (crypto : Crypto) (verifier : ResultVerifier)
    (signed : SignedResult) (verified : VerifiedResult) : Prop where
  identity : signed.keyID = verifier.keyID ∧
    signed.executorID = verifier.executorID ∧
    verified.executorID = verifier.executorID
  sizes : signed.canonical ≠ [] ∧ signed.canonical.length ≤ maxResultBytes ∧
    signed.signature.length = signatureSize
  digest : verified.digest = digestText crypto signed.canonical
  parsed : parseCanonicalResult crypto signed.canonical =
    .ok ⟨verified.value, verified.canonical, verified.digest⟩

theorem ResultVerifier.verify_eq_ok
    {crypto : Crypto} {verifier : ResultVerifier} {signed : SignedResult}
    {verified : VerifiedResult}
    (accepted : verifier.verify crypto signed = .ok verified) :
    AuthenticResult crypto verifier signed verified := by
  unfold ResultVerifier.verify at accepted
  split at accepted
  · cases accepted
  next role =>
  split at accepted
  · cases accepted
  next authenticated =>
  split at accepted
  · cases accepted
  next checked parsed =>
    simp only [not_or, ne_eq, not_not, Nat.not_lt] at role authenticated
    obtain ⟨nonempty, bounded, size, -⟩ := authenticated
    cases accepted
    refine ⟨⟨role.2.1.symm, role.2.2.symm, rfl⟩, ⟨nonempty, bounded, size⟩, ?_,
      parsed⟩
    exact (parseCanonicalResult_eq_ok parsed).2.2.2.2

/-- The conditions under which a result describes a capability. -/
structure Result.BoundTo (result : Result) (capability : VerifiedCapability)
    (executorID : Bytes) : Prop where
  executorID : executorID ≠ [] ∧ executorID = capability.executorID
  canonical : capability.canonical ≠ []
  capabilityID : result.capabilityID = capability.value.capabilityID
  operation : result.operation = capability.value.operation
  actionID : result.actionID = capability.value.actionID
  targetIPv4 : result.targetIPv4 = capability.value.targetIPv4
  capabilityDigest :
    digestPattern.matchString result.capabilityDigest = true ∧
      result.capabilityDigest = capability.digest
  artifactDigest : digestPattern.matchString result.artifactDigest = true ∧
    result.artifactDigest = capability.value.artifactDigest
  ownedSchemaDigest :
    digestPattern.matchString result.ownedSchemaDigest = true ∧
      result.ownedSchemaDigest = capability.value.ownedSchemaDigest
  startedAt : capability.value.notBefore ≤ result.startedAt
  remaining : result.operation = .add → ∀ ttl,
    result.remainingTTLSeconds = some ttl →
      ttl ≤ capability.addTTL ∧ capability.addTTL ≠ 0

theorem bindResult_eq_ok_iff
    {result : Result} {capability : VerifiedCapability} {executorID : Bytes} :
    bindResult result capability executorID = .ok () ↔
      result.BoundTo capability executorID := by
  unfold bindResult
  constructor
  · intro accepted
    split at accepted
    · cases accepted
    next links =>
    split at accepted
    · cases accepted
    next early =>
    split at accepted
    · cases accepted
    next remaining =>
      simp only [not_or, ne_eq, not_not, digestEqual_iff] at links
      obtain ⟨named, executor, canonical, capabilityID, operation, actionID,
        target, capabilityDigest, artifactDigest, schema⟩ := links
      refine ⟨⟨named, executor⟩, canonical, capabilityID, operation, actionID,
        target, capabilityDigest, artifactDigest, schema, Int.not_lt.mp early,
        ?_⟩
      intro add ttl present
      simp only [add, present, true_and, Option.any_some, decide_eq_true_eq,
        not_or, Nat.not_lt] at remaining
      exact remaining
  · intro bound
    have late := bound.startedAt
    rw [if_neg, if_neg (by omega), if_neg]
    · rintro ⟨add, excess⟩
      cases present : result.remainingTTLSeconds with
      | none => simp [present] at excess
      | some ttl =>
          obtain ⟨within, positive⟩ := bound.remaining add ttl present
          simp only [present, Option.any_some, decide_eq_true_eq] at excess
          omega
    · simp only [not_or, ne_eq, not_not, digestEqual_iff]
      exact ⟨bound.executorID.1, bound.executorID.2, bound.canonical,
        bound.capabilityID, bound.operation, bound.actionID, bound.targetIPv4,
        bound.capabilityDigest, bound.artifactDigest, bound.ownedSchemaDigest⟩

end SentinelFlow.Capability
