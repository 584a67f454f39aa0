import SentinelFlow.Capability.Result
import SentinelFlow.Executor.Runner

/-!
# Outcomes of an execution

The result that the service builds from an exit class, a read-back and its
error.  Success classifications are reached only from the read-back they name.
-/

namespace SentinelFlow.Executor

open GoLib Capability

/-- `classifyMutation`, given whether the context is done. -/
def classifyMutation (done : Bool) (reply : MutationReply) : NFTExitClass :=
  if done then .timeout
  else match reply.exitClass with
  | some .success => if reply.failed then .nonzero else .success
  | some .nonzero => .nonzero
  | some .timeout => .timeout
  | some .signaled => .signaled
  | _ => .nonzero

/-- A result whose identifiers and times are still to be filled in. -/
def baseResult (value : Value) : Result :=
  { resultID := []
    capabilityID := []
    capabilityDigest := []
    operation := value.operation
    actionID := []
    artifactDigest := []
    targetIPv4 := []
    classification := .indeterminate
    nftExitClass := none
    readbackState := .unavailable
    elementHandle := none
    remainingTTLSeconds := none
    ownedSchemaDigest := []
    startedAt := 0
    completedAt := 0
    journalSequence := 0
    errorCode := .indeterminate }

/-- The element handle stays null; the remaining time is kept only for an active
target. -/
def applyObservation (result : Result) (observation : Observation) : Result :=
  if observation.state ≠ .active then
    { result with
      readbackState := observation.state
      elementHandle := none
      remainingTTLSeconds := none }
  else
    { result with
      readbackState := observation.state
      elementHandle := none
      remainingTTLSeconds := some observation.remainingTTLSeconds }

/-- `addResult` and `revokeResult` differ in the state that counts as success
and in its classification. -/
def mutationResult (expected : ReadbackState) (success : Classification)
    (value : Value) (exit : NFTExitClass) (observation : Observation)
    (inspectErr : Option ErrorCode) : Result :=
  let result := applyObservation
    { baseResult value with nftExitClass := some exit } observation
  if exit = .success ∧ inspectErr = none ∧ observation.state = expected then
    { result with classification := success, errorCode := .none }
  else if observation.state = .mismatch then
    { result with
      classification := .indeterminate, errorCode := .readbackMismatch }
  else if inspectErr ≠ none ∨ observation.state = .unavailable then
    { result with
      classification := .indeterminate, errorCode := .readbackFailed }
  else if observation.state = expected ∧ exit ≠ .success then
    { result with
      classification := .indeterminate
      errorCode := if exit = .timeout then .deadlineExceeded else .nftFailed }
  else if exit = .timeout then
    { result with classification := .failed, errorCode := .deadlineExceeded }
  else if exit ≠ .success then
    { result with classification := .failed, errorCode := .nftFailed }
  else
    { result with classification := .failed, errorCode := .readbackFailed }

def addResult : Value → NFTExitClass → Observation → Option ErrorCode →
    Result :=
  mutationResult .active .applied

def revokeResult : Value → NFTExitClass → Observation → Option ErrorCode →
    Result :=
  mutationResult .absent .revoked

def revokedResult (value : Value) (exit : NFTExitClass) : Result :=
  { baseResult value with
    nftExitClass := some exit
    readbackState := .absent
    classification := .revoked
    errorCode := .none }

/-- `inspectResult`, given whether the context is done. -/
def inspectResult (done : Bool) (value : Value) (observation : Observation)
    (inspectErr : Option ErrorCode) : Result :=
  let exit : NFTExitClass :=
    if inspectErr = none then .success
    else if done then .timeout
    else .nonzero
  let result := applyObservation
    { baseResult value with nftExitClass := some exit } observation
  if inspectErr ≠ none then
    { result with
      classification := .indeterminate, errorCode := .readbackFailed }
  else match observation.state with
  | .active =>
      { result with classification := .inspectActive, errorCode := .none }
  | .absent =>
      { result with classification := .inspectAbsent, errorCode := .none }
  | .mismatch =>
      { result with classification := .inspectMismatch, errorCode := .none }
  | .unavailable =>
      { result with
        classification := .indeterminate, errorCode := .readbackFailed }

def recoveredAddResult (value : Value) (observation : Observation)
    (inspectErr : Option ErrorCode) : Result :=
  let result := applyObservation
    { baseResult value with nftExitClass := some .notInvoked } observation
  if inspectErr = none ∧ observation.state = .active then
    { result with classification := .recoveredActive, errorCode := .none }
  else if observation.state = .mismatch then
    { result with errorCode := .readbackMismatch }
  else if inspectErr ≠ none ∨ observation.state = .unavailable then
    { result with errorCode := .readbackFailed }
  else { result with errorCode := .indeterminate }

def recoveredRevokeResult (value : Value) (observation : Observation)
    (inspectErr : Option ErrorCode) : Result :=
  let result := applyObservation
    { baseResult value with nftExitClass := some .notInvoked } observation
  if inspectErr = none ∧ observation.state = .absent then
    { result with classification := .revoked, errorCode := .none }
  else if observation.state = .mismatch then
    { result with errorCode := .readbackMismatch }
  else if inspectErr ≠ none ∨ observation.state = .unavailable then
    { result with errorCode := .readbackFailed }
  else result

/-- A failure before the runner was invoked; it keeps the preflight state only. -/
def terminalFailure (value : Value) (exit : NFTExitClass)
    (observation : Observation) (code : ResultErrorCode) : Result :=
  { baseResult value with
    classification := .failed
    nftExitClass := some exit
    errorCode := code
    readbackState := observation.state }

/-! ## What the builders can attest -/

/-- The result is acceptable for its operation, and a remaining time is within
the bound of an add. -/
structure Attestable (operation : Operation) (bound : Nat) (result : Result) :
    Prop where
  operation_eq : result.operation = operation
  classification :
    validClassification operation result.classification = true
  elementHandle : result.elementHandle = none
  remaining : ∀ ttl, result.remainingTTLSeconds = some ttl →
    ttl ≤ maxTTLSeconds ∧ (bound ≠ 0 → ttl ≤ bound)
  outcome : checkOutcome result = .ok ()

theorem Attestable.of_unsuccessful
    {operation : Operation} {bound : Nat} {result : Result}
    (operation_eq : result.operation = operation)
    (elementHandle : result.elementHandle = none)
    (remaining : ∀ ttl, result.remainingTTLSeconds = some ttl →
      ttl ≤ maxTTLSeconds ∧ (bound ≠ 0 → ttl ≤ bound))
    (unsuccessful : result.classification = .failed ∨
      result.classification = .indeterminate)
    (code : result.errorCode ≠ .none) :
    Attestable operation bound result := by
  refine ⟨operation_eq, ?_, elementHandle, remaining, ?_⟩
  · rcases unsuccessful with failed | unknown
    · rw [failed]
      cases operation <;> rfl
    · rw [unknown]
      cases operation <;> rfl
  · rcases unsuccessful with failed | unknown
    · simp [checkOutcome, failed, code]
    · simp [checkOutcome, unknown, code]

section Builders

variable {value : Value} {exit : NFTExitClass} {observation : Observation}
  {inspectErr : Option ErrorCode} {request : Inspection} {bound : Nat}

/-- The fields that an observation leaves in a result. -/
structure Observed (value : Value) (exit : NFTExitClass)
    (observation : Observation) (bound : Nat) (result : Result) : Prop where
  operation : result.operation = value.operation
  exit_eq : result.nftExitClass = some exit
  state : result.readbackState = observation.state
  elementHandle : result.elementHandle = none
  remaining : ∀ ttl, result.remainingTTLSeconds = some ttl →
    ttl ≤ maxTTLSeconds ∧ (bound ≠ 0 → ttl ≤ bound)
  active : observation.state = .active → ∃ ttl,
    result.remainingTTLSeconds = some ttl ∧ ttl ≠ 0
  inactive : observation.state ≠ .active → result.remainingTTLSeconds = none

theorem observed_applyObservation
    (fits : observation.Fits request bound) (value : Value)
    (exit : NFTExitClass) :
    Observed value exit observation bound (applyObservation
      { baseResult value with nftExitClass := some exit } observation) := by
  unfold applyObservation
  split
  next inactive =>
    exact ⟨rfl, rfl, rfl, rfl, fun _ none => (by cases none),
      fun active => absurd active inactive, fun _ => rfl⟩
  next active =>
    have present := not_not.mp active
    obtain ⟨positive, most, within⟩ := fits.active present
    refine ⟨rfl, rfl, rfl, rfl, ?_, ?_, fun inactive => absurd present inactive⟩
    · rintro ttl ⟨⟩
      exact ⟨most, within⟩
    · exact fun _ => ⟨_, rfl, by omega⟩

theorem classification_applyObservation
    (result : Result) (observation : Observation) :
    (applyObservation result observation).classification =
      result.classification := by
  unfold applyObservation
  split <;> rfl

theorem nftExitClass_applyObservation
    (result : Result) (observation : Observation) :
    (applyObservation result observation).nftExitClass =
      result.nftExitClass := by
  unfold applyObservation
  split <;> rfl

/-- A recovery invokes nothing, and names its success only for the matching
read-back. -/
theorem recoveredAddResult_spec :
    (recoveredAddResult value observation inspectErr).nftExitClass =
        some .notInvoked ∧
      ((recoveredAddResult value observation inspectErr).classification =
          .recoveredActive ∧ inspectErr = none ∧ observation.state = .active ∨
        (recoveredAddResult value observation inspectErr).classification =
          .indeterminate) := by
  unfold recoveredAddResult
  dsimp only
  split
  next recovered =>
    exact ⟨nftExitClass_applyObservation _ _, .inl ⟨rfl, recovered⟩⟩
  split
  · exact ⟨nftExitClass_applyObservation _ _,
      .inr (classification_applyObservation _ _)⟩
  split
  · exact ⟨nftExitClass_applyObservation _ _,
      .inr (classification_applyObservation _ _)⟩
  · exact ⟨nftExitClass_applyObservation _ _,
      .inr (classification_applyObservation _ _)⟩

theorem recoveredRevokeResult_spec :
    (recoveredRevokeResult value observation inspectErr).nftExitClass =
        some .notInvoked ∧
      ((recoveredRevokeResult value observation inspectErr).classification =
          .revoked ∧ inspectErr = none ∧ observation.state = .absent ∨
        (recoveredRevokeResult value observation inspectErr).classification =
          .indeterminate) := by
  unfold recoveredRevokeResult
  dsimp only
  split
  next recovered =>
    exact ⟨nftExitClass_applyObservation _ _, .inl ⟨rfl, recovered⟩⟩
  split
  · exact ⟨nftExitClass_applyObservation _ _,
      .inr (classification_applyObservation _ _)⟩
  split
  · exact ⟨nftExitClass_applyObservation _ _,
      .inr (classification_applyObservation _ _)⟩
  · exact ⟨nftExitClass_applyObservation _ _,
      .inr (classification_applyObservation _ _)⟩

theorem recoveredAddResult_succeeds
    {other : Classification}
    (classified : (recoveredAddResult value observation
      inspectErr).classification = other) (settled : other ≠ .indeterminate) :
    other = .recoveredActive ∧ inspectErr = none ∧
      observation.state = .active := by
  obtain ⟨-, ⟨active, read⟩ | unknown⟩ := recoveredAddResult_spec
  · exact ⟨classified.symm.trans active, read⟩
  · exact absurd (classified.symm.trans unknown) settled

theorem recoveredRevokeResult_succeeds
    {other : Classification}
    (classified : (recoveredRevokeResult value observation
      inspectErr).classification = other) (settled : other ≠ .indeterminate) :
    other = .revoked ∧ inspectErr = none ∧ observation.state = .absent := by
  obtain ⟨-, ⟨revoked, read⟩ | unknown⟩ := recoveredRevokeResult_spec
  · exact ⟨classified.symm.trans revoked, read⟩
  · exact absurd (classified.symm.trans unknown) settled

/-- A mutation's result names its success only for the matching read-back. -/
theorem mutationResult_succeeds
    {expected : ReadbackState} {success other : Classification}
    (classified : (mutationResult expected success value exit observation
      inspectErr).classification = other)
    (settled : other ≠ .failed ∧ other ≠ .indeterminate) :
    other = success ∧ exit = .success ∧ inspectErr = none ∧
      observation.state = expected := by
  unfold mutationResult at classified
  dsimp only at classified
  split at classified
  next succeeded => exact ⟨classified.symm, succeeded⟩
  split at classified
  · exact absurd classified.symm settled.2
  split at classified
  · exact absurd classified.symm settled.2
  split at classified
  · exact absurd classified.symm settled.2
  split at classified
  · exact absurd classified.symm settled.1
  split at classified
  · exact absurd classified.symm settled.1
  · exact absurd classified.symm settled.1

/-- The success branch of a mutation is checked by the caller; every other branch
is attestable. -/
theorem attestable_mutationResult
    {expected : ReadbackState} {success : Classification}
    (fits : observation.Fits request bound)
    (succeeds : ∀ result, Observed value .success observation bound result →
      observation.state = expected → Attestable value.operation bound
        { result with classification := success, errorCode := .none }) :
    Attestable value.operation bound (mutationResult expected success value exit
      observation inspectErr) := by
  have observed := observed_applyObservation fits value exit
  have unsuccessful : ∀ classification code,
      classification = .failed ∨ classification = .indeterminate →
      code ≠ ResultErrorCode.none →
      Attestable value.operation bound
        { applyObservation { baseResult value with nftExitClass := some exit }
            observation with
          classification := classification
          errorCode := code } := fun classification code known present =>
    .of_unsuccessful observed.operation observed.elementHandle
      observed.remaining known present
  unfold mutationResult
  dsimp only
  split
  next succeeded =>
    obtain ⟨rfl, -, state⟩ := succeeded
    exact succeeds _ observed state
  split
  · exact unsuccessful _ _ (.inr rfl) (by simp)
  split
  · exact unsuccessful _ _ (.inr rfl) (by simp)
  split
  · refine unsuccessful _ _ (.inr rfl) ?_
    split <;> simp
  split
  · exact unsuccessful _ _ (.inl rfl) (by simp)
  split
  · exact unsuccessful _ _ (.inl rfl) (by simp)
  · exact unsuccessful _ _ (.inl rfl) (by simp)

theorem attestable_addResult
    (fits : observation.Fits request bound) (add : value.operation = .add) :
    Attestable value.operation bound
      (addResult value exit observation inspectErr) := by
  apply attestable_mutationResult fits
  intro result observed active
  obtain ⟨ttl, present, positive⟩ := observed.active active
  refine ⟨observed.operation, by rw [add]; rfl, observed.elementHandle,
    observed.remaining, ?_⟩
  simp [checkOutcome, observed.exit_eq, observed.state, active,
    observed.elementHandle, present, positive]

theorem attestable_revokeResult
    (fits : observation.Fits request bound)
    (revoke : value.operation = .revoke) :
    Attestable value.operation bound
      (revokeResult value exit observation inspectErr) := by
  apply attestable_mutationResult fits
  intro result observed absent
  have none := observed.inactive (by simp [absent])
  refine ⟨observed.operation, by rw [revoke]; rfl, observed.elementHandle,
    observed.remaining, ?_⟩
  simp [checkOutcome, observed.exit_eq, observed.state, absent,
    observed.elementHandle, none]

theorem attestable_revokedResult (revoke : value.operation = .revoke) :
    Attestable value.operation bound (revokedResult value .notInvoked) :=
  ⟨rfl, by rw [revoke]; rfl, rfl, fun _ none => (by cases none), rfl⟩

theorem attestable_terminalFailure
    {code : ResultErrorCode} (present : code ≠ .none) :
    Attestable value.operation bound
      (terminalFailure value exit observation code) :=
  .of_unsuccessful rfl rfl (fun _ none => (by cases none)) (.inl rfl) present

theorem attestable_inspectResult
    {done : Bool} (fits : observation.Fits request bound)
    (inspection : value.operation = .inspect) :
    Attestable value.operation bound
      (inspectResult done value observation inspectErr) := by
  cases inspectErr with
  | some =>
      have observed := observed_applyObservation fits value
        (if done then .timeout else .nonzero)
      simp only [inspectResult, ne_eq, reduceCtorEq, not_false_eq_true,
        if_true, if_false]
      exact .of_unsuccessful observed.operation observed.elementHandle
        observed.remaining (.inr rfl) (by simp)
  | none =>
      have observed := observed_applyObservation fits value .success
      simp only [inspectResult, ne_eq, not_true_eq_false, if_true, if_false]
      split
      next active =>
        obtain ⟨ttl, present, positive⟩ := observed.active active
        refine ⟨observed.operation, by rw [inspection]; rfl,
          observed.elementHandle, observed.remaining, ?_⟩
        simp [checkOutcome, observed.exit_eq, observed.state, active,
          observed.elementHandle, present, positive]
      next absent =>
        have none := observed.inactive (by simp [absent])
        refine ⟨observed.operation, by rw [inspection]; rfl,
          observed.elementHandle, observed.remaining, ?_⟩
        simp [checkOutcome, observed.exit_eq, observed.state, absent,
          observed.elementHandle, none]
      next mismatch =>
        refine ⟨observed.operation, by rw [inspection]; rfl,
          observed.elementHandle, observed.remaining, ?_⟩
        simp [checkOutcome, observed.exit_eq, observed.state, mismatch]
      · exact .of_unsuccessful observed.operation observed.elementHandle
          observed.remaining (.inr rfl) (by simp)

theorem attestable_recoveredAddResult
    (fits : observation.Fits request bound) (add : value.operation = .add) :
    Attestable value.operation bound
      (recoveredAddResult value observation inspectErr) := by
  have observed := observed_applyObservation fits value .notInvoked
  unfold recoveredAddResult
  dsimp only
  split
  next recovered =>
    obtain ⟨ttl, present, positive⟩ := observed.active recovered.2
    refine ⟨observed.operation, by rw [add]; rfl, observed.elementHandle,
      observed.remaining, ?_⟩
    simp [checkOutcome, observed.exit_eq, observed.state, recovered.2,
      observed.elementHandle, present, positive]
  split
  · exact .of_unsuccessful observed.operation observed.elementHandle
      observed.remaining (.inr (classification_applyObservation _ _)) (by simp)
  split
  · exact .of_unsuccessful observed.operation observed.elementHandle
      observed.remaining (.inr (classification_applyObservation _ _)) (by simp)
  · exact .of_unsuccessful observed.operation observed.elementHandle
      observed.remaining (.inr (classification_applyObservation _ _)) (by simp)

theorem attestable_recoveredRevokeResult
    (fits : observation.Fits request bound)
    (revoke : value.operation = .revoke) :
    Attestable value.operation bound
      (recoveredRevokeResult value observation inspectErr) := by
  have observed := observed_applyObservation fits value .notInvoked
  unfold recoveredRevokeResult
  dsimp only
  split
  next recovered =>
    have none := observed.inactive (by simp [recovered.2])
    refine ⟨observed.operation, by rw [revoke]; rfl, observed.elementHandle,
      observed.remaining, ?_⟩
    simp [checkOutcome, observed.exit_eq, observed.state, recovered.2,
      observed.elementHandle, none]
  split
  · exact .of_unsuccessful observed.operation observed.elementHandle
      observed.remaining (.inr (classification_applyObservation _ _)) (by simp)
  split
  · exact .of_unsuccessful observed.operation observed.elementHandle
      observed.remaining (.inr (classification_applyObservation _ _)) (by simp)
  · exact .of_unsuccessful observed.operation observed.elementHandle
      observed.remaining (.inr (classification_applyObservation _ _))
      (by simp [applyObservation]; split <;> simp [baseResult])

end Builders

end SentinelFlow.Executor
