import SentinelFlow.Executor.Authority

/-!
# Attestation of started executions

What an authority needs in order to sign a result and the journal in order to
keep it.  Whatever the runner does, the result of an execution or a recovery
passes the outcome table, the binding to its capability and the allow-list of
recoveries; the bound on the time from start to completion is not implied.
-/

namespace SentinelFlow.Executor

open GoLib Capability Journal

/-- The outcomes that an authority signs. -/
def Authority.allows (result : Result) : Authority → Bool
  | .permit _ => true
  | .recovery held => recoverable held.verified.value.operation result

/-- What a signer makes of a checked result. -/
def signedResult (crypto : Crypto) (signer : ResultSigner) (result : Result) :
    SignedResult :=
  { keyID := signer.keyID
    executorID := signer.executorID
    canonical := marshalResult result
    signature := crypto.ed25519Sign signer.key
      (signingInput crypto resultSigningDomain (marshalResult result)) }

section Signing

variable {crypto : Crypto} {service : Service}

theorem marshalResult_ne_nil (result : Result) : marshalResult result ≠ [] := by
  simp [marshalResult, marshalResultTimes, Json.marshal]

variable {result : Result} {signed : SignedResult}

theorem signFor_eq_ok_iff
    {signer : ResultSigner} {capability : VerifiedCapability} :
    signer.signFor crypto capability ⟨result, marshalResult result,
        digestText crypto (marshalResult result)⟩ = .ok signed ↔
      signer.key.length = privateKeySize ∧
        result.BoundTo capability signer.executorID ∧
        signed = signedResult crypto signer result := by
  have digest : digestEqual (digestText crypto (marshalResult result))
      (digestText crypto (marshalResult result)) = true :=
    digestEqual_iff.mpr ⟨digestPattern_digestText crypto _, rfl⟩
  unfold ResultSigner.signFor
  simp only [marshalResult_ne_nil, digest, not_true_eq_false, or_false,
    ← bindResult_eq_ok_iff]
  constructor
  · intro accepted
    split at accepted
    · cases accepted
    next key =>
    split at accepted
    · cases accepted
    next bound =>
      cases accepted
      exact ⟨not_not.mp key, bound, rfl⟩
  · rintro ⟨key, bound, rfl⟩
    rw [if_neg (not_not.mpr key), bound]
    rfl

theorem toOption_eq_some_iff
    {α : Type} {attempt : Except Capability.ErrorCode α} {value : α} :
    attempt.toOption = some value ↔ attempt = .ok value := by
  cases attempt <;> simp [Except.toOption]

theorem signResult_eq_some_iff
    {authority : Authority} :
    authority.signResult crypto service.signer ⟨result, marshalResult result,
        digestText crypto (marshalResult result)⟩ = some signed ↔
      authority.allows result = true ∧
        service.signer.key.length = privateKeySize ∧
        result.BoundTo authority.verified service.signer.executorID ∧
        signed = signedResult crypto service.signer result := by
  cases authority with
  | permit =>
      rw [Authority.signResult, Permit.signResult, toOption_eq_some_iff,
        signFor_eq_ok_iff]
      simp [Authority.allows, Authority.verified]
  | recovery held =>
      unfold Authority.signResult Recovery.signResult
      dsimp only [Authority.allows, Authority.verified]
      by_cases allowed :
          recoverable held.verified.value.operation result = true
      · rw [if_neg (not_not.mpr allowed), toOption_eq_some_iff,
          signFor_eq_ok_iff]
        simp [allowed]
      · rw [if_pos allowed]
        simp [allowed]

/-- A result is attested if it is valid, allowed and bound to its capability. -/
theorem attest_eq_ok_iff
    {authority : Authority} :
    attest crypto service authority result = .ok signed ↔
      result.Valid ∧ authority.allows result = true ∧
        service.signer.key.length = privateKeySize ∧
        result.BoundTo authority.verified service.signer.executorID ∧
        signed = signedResult crypto service.signer result := by
  rw [← signResult_eq_some_iff]
  unfold attest
  constructor
  · intro attested
    split at attested
    · cases attested
    next checked accepted =>
      obtain ⟨valid, rfl⟩ := checkResult_eq_ok_iff.mp accepted
      split at attested
      · cases attested
      next signed given =>
        cases attested
        exact ⟨valid, given⟩
  · rintro ⟨valid, given⟩
    rw [checkResult_eq_ok_iff.mpr ⟨valid, rfl⟩]
    dsimp only
    rw [given]

end Signing

/-! ## Drafts -/

/-- The bound on the remaining time in a read-back. -/
def readbackBound (verified : VerifiedCapability) : Nat :=
  if verified.value.operation = .add then verified.addTTL else 0

theorem inspect_fits
    (reply : InspectReply) (done : Bool) (request : Inspection)
    (maximumTTL : Nat) :
    (inspect reply done request maximumTTL).1.Fits request maximumTTL := by
  rcases inspect_spec reply done request maximumTTL with
    ⟨observation, -, inspected, fits⟩ | ⟨code, inspected⟩ | ⟨code, inspected⟩
  · rw [inspected]
    exact fits
  · rw [inspected]
    exact mismatchObservation_fits request maximumTTL
  · rw [inspected]
    exact ⟨rfl, rfl, fun active => by cases active⟩

theorem attestable_execute
    (environment : Environment) (signed : SignedCapability) (synced : Bytes)
    (permit : Permit) (preflight : Observation) :
    Attestable permit.verified.value.operation (readbackBound permit.verified)
      (execute environment signed synced permit preflight).2 := by
  have fits := inspect_fits environment.readback environment.readbackDone
    (inspectionFor permit.verified.value)
  unfold execute
  dsimp only
  split
  next add =>
    rw [← add, readbackBound, if_pos add]
    split
    · exact attestable_terminalFailure (by simp)
    split
    · exact attestable_terminalFailure (by simp)
    · exact attestable_addResult (fits _) add
  next revoke =>
    rw [← revoke, readbackBound, if_neg (by simp [revoke])]
    split
    · exact attestable_terminalFailure (by simp)
    split
    · exact attestable_revokedResult revoke
    · exact attestable_revokeResult (fits _) revoke
  next inspection =>
    rw [← inspection, readbackBound, if_neg (by simp [inspection])]
    split
    · exact attestable_terminalFailure (by simp)
    · exact attestable_inspectResult (fits _) inspection

/-- The result of a recovery before its times and the override. -/
def recoveryDraft (environment : Environment) (verified : VerifiedCapability) :
    Result :=
  let value := verified.value
  let (observation, inspectErr) := inspect environment.recoveryReadback
    environment.recoveryReadbackDone (inspectionFor value)
    (readbackBound verified)
  match value.operation with
  | .add => recoveredAddResult value observation inspectErr
  | .revoke => recoveredRevokeResult value observation inspectErr
  | .inspect => inspectResult environment.recoveryReadbackDone value observation
      inspectErr

theorem recoveryTTL_eq_ok
    {verified : VerifiedCapability} {maximumTTL : Nat}
    (bounded : recoveryTTL ⟨verified⟩ = .ok maximumTTL) :
    maximumTTL = readbackBound verified := by
  unfold recoveryTTL at bounded
  unfold readbackBound
  split at bounded
  next add =>
    rw [if_pos add]
    split at bounded
    · cases bounded
    next ttl expected =>
    split at bounded
    · cases bounded
    · cases bounded
      unfold VerifiedCapability.expectedAddTTLSeconds at expected
      split at expected
      · cases expected
      · cases expected
        rfl
  next other =>
    cases bounded
    rw [if_neg other]

/-- A recovery reads the target back once and drafts its result from that. -/
theorem recover_eq_ok
    {environment : Environment} {verified : VerifiedCapability}
    {calls : List Event} {result : Result}
    (recovers : recover environment ⟨verified⟩ = .ok (calls, result)) :
    ∃ deadline,
      operationDeadline environment.recoveryContext
          (now environment.recoveryClock)
          (now environment.recoveryClock + maxOperationDuration) =
        .ok deadline ∧
      calls = [.inspected (inspectionFor verified.value)
        environment.recoveryReadback] ∧
      result = overrideLate (environment.recoveryFinishDone ∨
          now environment.recoveryFinishClock > deadline)
        { recoveryDraft environment verified with
          startedAt := now environment.recoveryClock
          completedAt := now environment.recoveryFinishClock } := by
  unfold recover at recovers
  dsimp only at recovers
  split at recovers
  · cases recovers
  next deadline limited =>
  split at recovers
  · cases recovers
  next maximumTTL bounded =>
    rw [recoveryTTL_eq_ok bounded] at recovers
    cases recovers
    exact ⟨deadline, limited, rfl, rfl⟩

theorem attestable_recoveryDraft
    (environment : Environment) (verified : VerifiedCapability) :
    Attestable verified.value.operation (readbackBound verified)
      (recoveryDraft environment verified) := by
  have fits := inspect_fits environment.recoveryReadback
    environment.recoveryReadbackDone (inspectionFor verified.value)
    (readbackBound verified)
  unfold recoveryDraft
  dsimp only
  split
  next add => exact attestable_recoveredAddResult fits add
  next revoke => exact attestable_recoveredRevokeResult fits revoke
  next inspection => exact attestable_inspectResult fits inspection

theorem recoverable_recoveryDraft
    (environment : Environment) (verified : VerifiedCapability) :
    recoverable verified.value.operation
      (recoveryDraft environment verified) = true := by
  unfold recoveryDraft
  dsimp only
  split
  next add =>
    obtain ⟨exit_, ⟨active, -⟩ | unknown⟩ := recoveredAddResult_spec
    · rw [add, recoverable, exit_, active]
      rfl
    · rw [add, recoverable, exit_, unknown]
      rfl
  next revoke =>
    obtain ⟨exit_, ⟨revoked, -⟩ | unknown⟩ := recoveredRevokeResult_spec
    · rw [revoke, recoverable, exit_, revoked]
      rfl
    · rw [revoke, recoverable, exit_, unknown]
      rfl
  next inspection =>
    rw [inspection]
    rfl

section Late

variable {late : Prop} [Decidable late] {result : Result}

theorem overrideLate_of_late (isLate : late) :
    (overrideLate late result).classification = .indeterminate ∧
      (overrideLate late result).errorCode = .deadlineExceeded := by
  rw [overrideLate, if_pos isLate]
  exact ⟨rfl, rfl⟩

/-- The override leaves the times. -/
theorem overrideLate_times :
    (overrideLate late result).startedAt = result.startedAt ∧
      (overrideLate late result).completedAt = result.completedAt := by
  unfold overrideLate
  split <;> exact ⟨rfl, rfl⟩

/-- The override hides every classification of a late draft. -/
theorem classification_of_overrideLate
    {classification : Classification}
    (classified : (overrideLate late result).classification = classification)
    (settled : classification ≠ .indeterminate) :
    ¬ late ∧ result.classification = classification := by
  by_cases isLate : late
  · exact absurd (classified.symm.trans (overrideLate_of_late isLate).1) settled
  · rw [overrideLate, if_neg isLate] at classified
    exact ⟨isLate, classified⟩

variable {operation : Operation}

theorem Attestable.overrideLate
    {bound : Nat}
    (attestable : Attestable operation bound result) :
    Attestable operation bound (overrideLate late result) := by
  by_cases isLate : late
  · rw [Executor.overrideLate, if_pos isLate]
    exact .of_unsuccessful attestable.operation_eq attestable.elementHandle
      attestable.remaining (.inr rfl) (by simp)
  · rw [Executor.overrideLate, if_neg isLate]
    exact attestable

theorem Attestable.timed
    {bound : Nat}
    (attestable : Attestable operation bound result)
    (startedAt completedAt : Int) :
    Attestable operation bound { result with startedAt, completedAt } :=
  ⟨attestable.operation_eq, attestable.classification,
    attestable.elementHandle, attestable.remaining, attestable.outcome⟩

theorem recoverable_overrideLate
    (allowed : recoverable operation result = true) :
    recoverable operation (overrideLate late result) = true := by
  by_cases isLate : late
  · rw [overrideLate, if_pos isLate]
    cases operation with
    | inspect => rfl
    | add
    | revoke =>
        rw [recoverable, Bool.and_eq_true] at allowed
        exact allowed.2
  · rw [overrideLate, if_neg isLate]
    exact allowed

end Late

/-! ## From the start to the terminal record -/

/-- The signer and the verifiers of a service belong together. -/
structure Service.Configured (crypto : Crypto) (service : Service) : Prop where
  signerKey : service.signer.key.length = privateKeySize
  verifierKey : service.verifiers.result.key.length = publicKeySize
  keyID : service.verifiers.result.keyID = service.signer.keyID
  executorID : service.verifiers.result.executorID = service.signer.executorID
  sameExecutor :
    service.signer.executorID = service.verifiers.capability.executorID
  paired : ∀ message, crypto.ed25519Verify service.verifiers.result.key message
    (crypto.ed25519Sign service.signer.key message) = true

/-- A start that `Begin` committed. -/
structure Committed (crypto : Crypto) (verifiers : Verifiers)
    (start : StartedRecord) : Prop where
  genuine : start.Genuine crypto verifiers.capability
  numbered : 0 < start.sequence ∧ start.sequence ≤ maxSequence
  named : start.verified.executorID ≠ []
  aligned : Time.MillisecondAligned start.received
  fresh : start.verified.value.notBefore ≤ start.received

/-- A draft with times that an authority for the start may attest. -/
structure Ready (start : StartedRecord) (authority : Authority)
    (draft : Result) : Prop where
  held : authority.verified = start.verified
  attestable : Attestable start.verified.value.operation
    (readbackBound start.verified) draft
  allowed : authority.allows draft = true
  aligned : Time.MillisecondAligned draft.startedAt ∧
    Time.MillisecondAligned draft.completedAt
  begun : start.verified.value.notBefore ≤ draft.startedAt
  ordered : draft.startedAt ≤ draft.completedAt

/-- `Complete` accepts the signed result for an open start of the capability;
after that only the file can fail. -/
def Completable (crypto : Crypto) (verifiers : Verifiers)
    (capability : VerifiedCapability) (sequence : Nat)
    (signed : SignedResult) : Prop :=
  ∃ verified, verifiers.result.verify crypto signed = .ok verified ∧
    verified.value.capabilityID = capability.value.capabilityID ∧
    bindResult verified.value capability verified.executorID = .ok () ∧
    verified.value.journalSequence = sequence

/-- A result is signed exactly if it took at most two seconds, and then the
journal accepts it exactly if its completion has a canonical text. -/
structure PromptlyAttested (crypto : Crypto) (service : Service)
    (authority : Authority) (sequence : Nat) (result : Result) : Prop where
  attested : (∃ signed, attest crypto service authority result = .ok signed) ↔
    result.completedAt - result.startedAt ≤ 2 * Time.second
  completable : (∃ signed, attest crypto service authority result =
      .ok signed ∧ Completable crypto service.verifiers authority.verified
        sequence signed) ↔
    result.completedAt - result.startedAt ≤ 2 * Time.second ∧
      Time.year result.completedAt ≤ 9999

section Started

variable {crypto : Crypto} {service : Service} {start : StartedRecord}

theorem committed_of_begun
    {journal next : Journal} {signed : SignedCapability}
    {receivedAt deadlineAt : Int} {verifiers : Verifiers}
    (begun : Begun crypto verifiers journal signed receivedAt deadlineAt start
      next) : Committed crypto verifiers start := by
  have fresh := begun.fresh
  unfold Journal.checkFresh at fresh
  split at fresh
  · cases fresh
  next executable =>
    rw [VerifiedCapability.executableAt, if_neg (not_not.mpr rfl)] at executable
    obtain ⟨frame, valid, scanned, -⟩ := begun.commits.frame
    have sequence : frame.sequence = start.sequence :=
      (scanFrame_eq_ok scanned).1.trans begun.sequence.symm
    refine ⟨begun.genuine, sequence ▸ valid.sequence, ?_, ?_, ?_⟩
    · intro empty
      rw [VerifiedCapability.checkFresh, if_pos (.inr (.inr empty))]
        at executable
      cases executable
    · rw [begun.received]
      exact begun.aligned
    · rw [begun.received]
      exact (checkFresh_eq_ok executable).2.1

theorem authentic_of_committed
    {verifiers : Verifiers} (committed : Committed crypto verifiers start) :
    Authentic crypto verifiers.capability start.signed start.verified :=
  CapabilityVerifier.verify_eq_ok committed.genuine.verified

/-- An add has a bound on the remaining time. -/
theorem addTTL_ne_zero
    {verifier : CapabilityVerifier} {signed : SignedCapability}
    {verified : VerifiedCapability}
    (authentic : Authentic crypto verifier signed verified)
    (add : verified.value.operation = .add) : verified.addTTL ≠ 0 := by
  obtain ⟨common, original, artifact, -, -⟩ := authentic.admitted
  rw [add] at artifact
  obtain ⟨-, -, least, -⟩ := checkAddArtifact_eq_ok_iff.mp artifact.1
  omega

variable {authority : Authority} {draft : Result} {identifier : Bytes}

theorem Ready.boundTo
    (ready : Ready start authority draft)
    (committed : Committed crypto service.verifiers start)
    (executor : service.signer.executorID =
      service.verifiers.capability.executorID) (identifier : Bytes) :
    (bindIdentifiers identifier (snapshotStarted start) start.verified.value
      draft).BoundTo start.verified service.signer.executorID := by
  have authentic := authentic_of_committed committed
  have identity : service.signer.executorID = start.verified.executorID :=
    executor.trans authentic.executorID.symm
  refine ⟨⟨identity ▸ committed.named, identity⟩, ?_, rfl, rfl, rfl, rfl,
    ⟨?_, rfl⟩, ⟨?_, rfl⟩, ⟨authentic.wellFormed.ownedSchemaDigest, rfl⟩,
    ready.begun, ?_⟩
  · rw [authentic.canonical]
    exact authentic.sizes.1
  · rw [bindIdentifiers, snapshotStarted, authentic.digest]
    exact digestPattern_digestText crypto _
  · rw [bindIdentifiers, authentic.artifactDigest]
    exact digestPattern_digestText crypto _
  · intro (add : start.verified.value.operation = .add) ttl present
    have positive := addTTL_ne_zero authentic add
    have within := (ready.attestable.remaining ttl present).2
    rw [readbackBound, if_pos add] at within
    exact ⟨within positive, positive⟩

/-- The only test that a ready draft can fail is the one of its duration. -/
theorem Ready.valid_iff
    (ready : Ready start authority draft)
    (committed : Committed crypto service.verifiers start)
    (uuid : uuidPattern.matchString identifier = true) :
    (bindIdentifiers identifier (snapshotStarted start) start.verified.value
        draft).Valid ↔
      draft.completedAt - draft.startedAt ≤ 2 * Time.second := by
  refine ⟨fun valid => valid.duration, fun prompt => ?_⟩
  have authentic := authentic_of_committed committed
  have wellFormed := authentic.wellFormed
  have positive := wellFormed.positive
  have ordered := wellFormed.ordered
  have begun := ready.begun
  have completed := ready.ordered
  have attestable := ready.attestable
  have operation := attestable.operation_eq
  refine ⟨uuid, wellFormed.capabilityID, wellFormed.actionID, ?_, ?_,
    wellFormed.ownedSchemaDigest, wellFormed.targetIPv4,
    attestable.classification, attestable.elementHandle, ?_,
    committed.numbered, ⟨?_, ready.aligned.1⟩, ⟨?_, ready.aligned.2⟩, completed,
    prompt, attestable.outcome⟩
  · rw [bindIdentifiers, snapshotStarted, authentic.digest]
    exact digestPattern_digestText crypto _
  · rw [bindIdentifiers, authentic.artifactDigest]
    exact digestPattern_digestText crypto _
  · intro ttl present
    exact (attestable.remaining ttl present).1
  · change draft.startedAt ≠ 0
    omega
  · change draft.completedAt ≠ 0
    omega

theorem Ready.attest_iff
    (ready : Ready start authority draft)
    (committed : Committed crypto service.verifiers start)
    (configured : service.Configured crypto)
    (uuid : uuidPattern.matchString identifier = true) :
    (∃ signed, attest crypto service authority (bindIdentifiers identifier
        (snapshotStarted start) start.verified.value draft) = .ok signed) ↔
      draft.completedAt - draft.startedAt ≤ 2 * Time.second := by
  rw [← ready.valid_iff committed uuid]
  constructor
  · rintro ⟨signed, attested⟩
    exact (attest_eq_ok_iff.mp attested).1
  · intro valid
    refine ⟨_, attest_eq_ok_iff.mpr ⟨valid, ?_, configured.signerKey, ?_, rfl⟩⟩
    · have allowed := ready.allowed
      cases authority with
      | permit => rfl
      | recovery => exact allowed
    · rw [ready.held]
      exact ready.boundTo committed configured.sameExecutor identifier

/-- What a verifier reads from a signed result is that result. -/
theorem value_of_verify
    {verifier : ResultVerifier} {signer : ResultSigner} {result : Result}
    {verified : VerifiedResult} (valid : result.Valid)
    (nonnegative : 0 ≤ result.startedAt)
    (accepted : verifier.verify crypto (signedResult crypto signer result) =
      .ok verified) :
    verified.value = result ∧ Time.year result.completedAt ≤ 9999 := by
  have authentic := ResultVerifier.verify_eq_ok accepted
  exact value_of_parseCanonicalResult valid
    ((Time.one_le_year_iff _).mpr nonnegative) authentic.parsed

theorem verify_signedResult
    (configured : service.Configured crypto) {result : Result}
    (valid : result.Valid) (nonnegative : 0 ≤ result.startedAt)
    (expressible : Time.year result.completedAt ≤ 9999) :
    ∃ verified, service.verifiers.result.verify crypto
        (signedResult crypto service.signer result) = .ok verified ∧
      verified.executorID = service.signer.executorID := by
  have ordered := valid.ordered
  have bounded := (Time.year_le_9999_iff _).mp expressible
  have parsed : parseCanonicalResult crypto (marshalResult result) =
      .ok ⟨result, marshalResult result,
        digestText crypto (marshalResult result)⟩ :=
    parseCanonicalResult_marshalResult valid
    ⟨(Time.one_le_year_iff _).mpr nonnegative,
      (Time.year_le_9999_iff _).mpr (by omega), valid.startedAt.2⟩
    ⟨(Time.one_le_year_iff _).mpr (by omega), expressible,
      valid.completedAt.2⟩
  refine ⟨{ value := result
            canonical := marshalResult result
            digest := digestText crypto (marshalResult result)
            keyID := service.verifiers.result.keyID
            executorID := service.verifiers.result.executorID }, ?_,
    configured.executorID⟩
  unfold ResultVerifier.verify
  rw [if_neg, if_neg]
  · dsimp only [signedResult]
    rw [parsed]
  · obtain ⟨⟨_, _, _, decoded, -⟩, -⟩ := parseCanonicalResult_eq_ok parsed
    have short := length_of_strictDecode decoded
    simp [signedResult, marshalResult_ne_nil, configured.paired,
      crypto.length_ed25519Sign, signatureSize, short]
  · simp [signedResult, configured.verifierKey, configured.keyID,
      configured.executorID]

/-- A prompt result is signed and accepted by the journal, unless it completes
after the last year of the canonical layout. -/
theorem Ready.completable_iff
    (ready : Ready start authority draft)
    (committed : Committed crypto service.verifiers start)
    (configured : service.Configured crypto)
    (uuid : uuidPattern.matchString identifier = true) :
    (∃ signed, attest crypto service authority (bindIdentifiers identifier
          (snapshotStarted start) start.verified.value draft) = .ok signed ∧
        Completable crypto service.verifiers start.verified start.sequence
          signed) ↔
      draft.completedAt - draft.startedAt ≤ 2 * Time.second ∧
        Time.year draft.completedAt ≤ 9999 := by
  have wellFormed := (authentic_of_committed committed).wellFormed
  have nonnegative : 0 ≤ draft.startedAt := by
    have positive := wellFormed.positive
    have ordered := wellFormed.ordered
    have begun := ready.begun
    omega
  constructor
  · rintro ⟨signed, attested, verified, accepted, -⟩
    obtain ⟨valid, -, -, -, rfl⟩ := attest_eq_ok_iff.mp attested
    exact ⟨valid.duration, (value_of_verify valid nonnegative accepted).2⟩
  · rintro ⟨prompt, expressible⟩
    obtain ⟨signed, attested⟩ :=
      (ready.attest_iff committed configured uuid).mpr prompt
    refine ⟨signed, attested, ?_⟩
    obtain ⟨valid, -, -, -, rfl⟩ := attest_eq_ok_iff.mp attested
    obtain ⟨verified, accepted, executor⟩ :=
      verify_signedResult configured valid nonnegative expressible
    have same := (value_of_verify valid nonnegative accepted).1
    refine ⟨verified, accepted, ?_, ?_, ?_⟩
    · rw [same]
      rfl
    · rw [same, executor]
      exact bindResult_eq_ok_iff.mpr
        (ready.boundTo committed configured.sameExecutor identifier)
    · rw [same]
      rfl

theorem Ready.promptlyAttested
    (ready : Ready start authority draft)
    (committed : Committed crypto service.verifiers start)
    (configured : service.Configured crypto)
    (uuid : uuidPattern.matchString identifier = true) :
    PromptlyAttested crypto service authority start.sequence
      (bindIdentifiers identifier (snapshotStarted start) start.verified.value
        draft) :=
  ⟨ready.attest_iff committed configured uuid,
    ready.held ▸ ready.completable_iff committed configured uuid⟩

theorem ready_overrideLate
    {startedAt clock : Int} {late : Prop} [Decidable late]
    (held : authority.verified = start.verified)
    (attestable : Attestable start.verified.value.operation
      (readbackBound start.verified) draft)
    (allowed : authority.allows draft = true)
    (aligned : Time.MillisecondAligned startedAt)
    (begun : start.verified.value.notBefore ≤ startedAt)
    (ordered : startedAt ≤ now clock) :
    Ready start authority (overrideLate late
      { draft with startedAt, completedAt := now clock }) := by
  refine ⟨held, (attestable.timed startedAt (now clock)).overrideLate, ?_, ?_,
    ?_, ?_⟩
  · cases authority with
    | permit => rfl
    | recovery => exact recoverable_overrideLate allowed
  · rw [overrideLate_times.1, overrideLate_times.2]
    exact ⟨aligned, Time.truncateMillisecond_aligned clock⟩
  · rw [overrideLate_times.1]
    exact begun
  · rw [overrideLate_times.1, overrideLate_times.2]
    exact ordered

end Started

/-- A committed start whose clock does not go back is attested exactly if it is
completed within two seconds, by its execution or by a recovery, and a late
completion is attested as indeterminate. -/
theorem started_attested_iff
    (crypto : Crypto) (service : Service) (environment : Environment)
    {journal next : Journal} (sound : Sound crypto service.verifiers journal)
    {append : AppendOutcome} {signed : SignedCapability}
    {receivedAt deadlineAt : Int} {started : StartedSnapshot} {permit : Permit}
    (begun : journal.begin crypto service.verifiers append signed receivedAt
      deadlineAt = (.ok (.newStarted started permit), next))
    (configured : service.Configured crypto) {identifier : Bytes}
    (uuid : uuidPattern.matchString identifier = true)
    (executionClock : receivedAt ≤ now environment.finishClock)
    (recoveryClock : receivedAt ≤ now environment.recoveryClock)
    (recoveryFinishClock :
      environment.recoveryClock ≤ environment.recoveryFinishClock)
    (preflight : Observation) :
    let executed := bindIdentifiers identifier started permit.verified.value
      (finish environment started
        (execute environment signed next.synced permit preflight).2)
    (executed.startedAt = receivedAt ∧
      executed.completedAt = now environment.finishClock ∧
      PromptlyAttested crypto service (.permit permit) started.sequence
        executed ∧
      (deadlineAt < executed.completedAt →
        executed.classification = .indeterminate ∧
          executed.errorCode = .deadlineExceeded)) ∧
    ∀ calls draft, recover environment ⟨permit.verified⟩ = .ok (calls, draft) →
      let recovered := bindIdentifiers identifier started permit.verified.value
        draft
      recovered.startedAt = now environment.recoveryClock ∧
        recovered.completedAt = now environment.recoveryFinishClock ∧
        PromptlyAttested crypto service (.recovery ⟨permit.verified⟩)
          started.sequence recovered := by
  have begins := begin_spec sound append signed receivedAt deadlineAt
  rw [begun] at begins
  generalize outcome : Outcome.newStarted _ _ = state at begins
  cases begins with
  | existing =>
      unfold existingOutcome at outcome
      split at outcome <;> cases outcome
  | @started start _ committed =>
      cases outcome
      have kept := committed_of_begun committed
      have received := committed.received
      have fresh := kept.fresh
      rw [received] at fresh
      rw [← received] at executionClock
      refine ⟨⟨?_, ?_, ?_, ?_⟩, ?_⟩
      · exact overrideLate_times.1.trans received
      · exact overrideLate_times.2
      · apply Ready.promptlyAttested ?_ kept configured uuid
        exact ready_overrideLate rfl
          (attestable_execute environment signed next.synced
            { verified := start.verified, deadline := start.deadline }
            preflight) rfl kept.aligned kept.fresh executionClock
      · intro late
        apply overrideLate_of_late
        rw [bindIdentifiers, finish, overrideLate_times.2,
          ← committed.deadline] at late
        exact .inr late
      · intro calls draft recovers
        obtain ⟨limit, -, -, rfl⟩ := recover_eq_ok recovers
        refine ⟨overrideLate_times.1, overrideLate_times.2, ?_⟩
        apply Ready.promptlyAttested ?_ kept configured uuid
        exact ready_overrideLate rfl (attestable_recoveryDraft environment _)
          (recoverable_recoveryDraft environment _)
          (Time.truncateMillisecond_aligned _) (fresh.trans recoveryClock)
          (Time.truncateMillisecond_mono recoveryFinishClock)

/-! ## A late completion -/

theorem sampleService_configured : sampleService.Configured sampleCrypto where
  signerKey := by decide +kernel
  verifierKey := by decide +kernel
  keyID := rfl
  executorID := rfl
  sameExecutor := rfl
  paired := by
    intro message
    have distinct : sampleExecutorKey ≠ sampleDispatcherKey := by
      decide +kernel
    change sampleVerify sampleExecutorKey message
      (sampleSign samplePrivateKey message) = true
    simp [sampleVerify, distinct]

/-- A completion three seconds after the start: the mutation was invoked, but its
result is refused and the start stays without a terminal record. -/
theorem late_completion_lost :
    let report := sampleService.process sampleCrypto
      (sampleEnvironment (sampleTime + 3 * Time.second)) false {}
      sampleCapability
    (mutations report.events).length = 1 ∧ report.outcome = .error .result ∧
      report.appended = none ∧
      (report.journal.index.entries.lookup (sampleID '1')).map
        (fun start => start.terminal) = some none := by
  decide +kernel

private def isNewStarted : Except Journal.ErrorCode Outcome → Bool
  | .ok (.newStarted _ _) => true
  | _ => false

theorem sample_begun : ∃ started permit next,
    ({} : Journal).begin sampleCrypto sampleVerifiers .committed
        sampleCapability sampleTime (sampleTime + 2 * Time.second) =
      (.ok (.newStarted started permit), next) := by
  have known : isNewStarted (({} : Journal).begin sampleCrypto
      sampleVerifiers .committed sampleCapability sampleTime
      (sampleTime + 2 * Time.second)).1 = true := by
    decide +kernel
  generalize ({} : Journal).begin sampleCrypto sampleVerifiers .committed
    sampleCapability sampleTime (sampleTime + 2 * Time.second) = result
    at known
  obtain ⟨outcome, next⟩ := result
  unfold isNewStarted at known
  split at known
  next started permit same =>
      cases same
      exact ⟨started, permit, next, rfl⟩
  · cases known

/-- A completion one second after the start is attested. -/
theorem prompt_completion_attested : ∃ started permit next signed,
    ({} : Journal).begin sampleCrypto sampleVerifiers .committed
        sampleCapability sampleTime (sampleTime + 2 * Time.second) =
      (.ok (.newStarted started permit), next) ∧
    attest sampleCrypto sampleService (.permit permit)
        (bindIdentifiers (sampleID '5') started permit.verified.value
          (finish (sampleEnvironment (sampleTime + Time.second)) started
            (execute (sampleEnvironment (sampleTime + Time.second))
              sampleCapability next.synced permit
              (unavailableObservation
                (inspectionFor permit.verified.value))).2)) =
      .ok signed := by
  obtain ⟨started, permit, next, begun⟩ := sample_begun
  have early : sampleTime ≤ now (sampleTime + Time.second) := by decide +kernel
  obtain ⟨⟨startedAt, completedAt, prompt, -⟩, -⟩ := started_attested_iff
    sampleCrypto sampleService (sampleEnvironment (sampleTime + Time.second))
    sound_empty begun sampleService_configured
    (show uuidPattern.matchString (sampleID '5') = true by decide +kernel)
    early early (Int.le_refl _)
    (unavailableObservation (inspectionFor permit.verified.value))
  obtain ⟨signed, attested⟩ := prompt.attested.mpr (by
    rw [startedAt, completedAt]
    decide +kernel)
  exact ⟨started, permit, next, signed, begun, attested⟩

end SentinelFlow.Executor
