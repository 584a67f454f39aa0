import SentinelFlow.Executor.Runs
import SentinelFlow.Journal.Evidence

/-!
# The authority of a mutation

Whenever the runner is asked to mutate, its standard input is the artifact of a
verified capability that means what the capability says, the permit was taken in
time against the durably recorded times, and the preflight of the same call found
the state that the operation needs.
-/

namespace SentinelFlow.Executor

open GoLib Capability Journal Command

/-- The input of a mutation is the statement for the capability's target. -/
def MeansTarget (stdin target : Bytes) : Operation → Prop
  | .add => ∃ seconds, checkAddArtifact stdin target = .ok seconds ∧
      stdin = statement target (canonicalToken seconds) ∧
      60 ≤ seconds ∧ seconds ≤ 86400
  | .revoke => checkRevokeArtifact stdin target = .ok () ∧
      stdin = deleteStatement target
  | .inspect => False

/-- The state in which an operation may mutate. -/
def requiredState : Operation → ReadbackState
  | .add => .absent
  | _ => .active

/-- Everything that authorises one invocation within its call. -/
structure Authorized (crypto : Crypto) (service : Service) (report : Report)
    (invocation : Invocation) : Prop where
  signature : service.verifiers.capability.verify crypto invocation.signed =
    .ok invocation.verified
  stdin : invocation.mutation.stdin = invocation.signed.artifact
  digest : invocation.verified.value.artifactDigest =
    digestText crypto invocation.mutation.stdin
  operation :
    invocation.mutation.operation = invocation.verified.value.operation
  meaning : MeansTarget invocation.mutation.stdin
    invocation.verified.value.targetIPv4 invocation.mutation.operation
  window : invocation.verified.value.issuedAt ≤ invocation.takenAt ∧
    invocation.verified.value.notBefore ≤ invocation.takenAt ∧
    invocation.takenAt < invocation.verified.value.expiresAt
  recorded : ∃ index start,
    scan crypto service.verifiers invocation.synced = .ok index ∧
      index.entries.lookup invocation.verified.value.capabilityID =
        some start ∧
      start.signed = invocation.signed ∧ invocation.takenAt < start.deadline ∧
      start.received < start.deadline ∧
      start.deadline ≤ start.received + 2 * Time.second ∧
      start.deadline ≤ invocation.verified.value.expiresAt
  preflight : ∃ observation rest, report.events =
      .inspected (inspectionFor invocation.verified.value)
        (.observed observation) :: .mutated invocation :: rest ∧
    observation.targetIPv4 = invocation.verified.value.targetIPv4 ∧
    observation.ownedSchemaDigest =
      invocation.verified.value.ownedSchemaDigest ∧
    observation.state = requiredState invocation.mutation.operation

/-- The preflight of a mutation is one inspection that found the target absent or
active. -/
theorem preflightFor_eq_ok
    {environment : Environment} {value : Value} {events : List Event}
    {preflight : Observation}
    (mutates : value.operation = .add ∨ value.operation = .revoke)
    (prepared : preflightFor environment value = (events, .ok preflight)) :
    events = [.inspected (inspectionFor value) (.observed preflight)] ∧
      preflight.targetIPv4 = value.targetIPv4 ∧
      preflight.ownedSchemaDigest = value.ownedSchemaDigest ∧
      (preflight.state = .active ∨ preflight.state = .absent) := by
  unfold preflightFor at prepared
  dsimp only at prepared
  rw [if_pos mutates] at prepared
  rcases inspect_spec environment.preflight environment.preflightDone
      (inspectionFor value) 0 with
    ⟨observation, replied, inspected, fits⟩ | ⟨code, inspected⟩ |
      ⟨code, inspected⟩
  · rw [inspected] at prepared
    dsimp only at prepared
    split at prepared
    · cases prepared
    next settled =>
      cases prepared
      rw [not_or] at settled
      refine ⟨by rw [replied], fits.target, fits.schema, ?_⟩
      cases state : preflight.state with
      | active => exact .inl rfl
      | absent => exact .inr rfl
      | mismatch => exact absurd state settled.1
      | unavailable => exact absurd state settled.2
  · rw [inspected] at prepared
    cases prepared
  · rw [inspected] at prepared
    cases prepared

theorem checkFresh_eq_ok
    {verified : VerifiedCapability} {instant : Int}
    (fresh : verified.checkFresh instant = .ok ()) :
    verified.value.issuedAt ≤ instant ∧ verified.value.notBefore ≤ instant ∧
      instant < verified.value.expiresAt := by
  unfold VerifiedCapability.checkFresh at fresh
  split at fresh
  · cases fresh
  split at fresh
  · cases fresh
  next begun =>
  split at fresh
  · cases fresh
  next unexpired =>
    simp only [not_or, Int.not_lt] at begun
    exact ⟨begun.1, begun.2, not_not.mp unexpired⟩

theorem meansTarget_of_authentic
    {crypto : Crypto} {verifier : CapabilityVerifier}
    {signed : SignedCapability} {verified : VerifiedCapability}
    (authentic : Authentic crypto verifier signed verified)
    (mutates : verified.value.operation = .add ∨
      verified.value.operation = .revoke) :
    MeansTarget signed.artifact verified.value.targetIPv4
      verified.value.operation := by
  obtain ⟨common, original, artifact, -, value⟩ := authentic.admitted
  have target : verified.value.targetIPv4 = common.targetIPv4 := by
    rw [value]
    rfl
  rw [target]
  rcases mutates with add | revoke
  · rw [add] at artifact ⊢
    obtain ⟨-, written, least, most⟩ :=
      checkAddArtifact_eq_ok_iff.mp artifact.1
    exact ⟨_, artifact.1, written, least, most⟩
  · rw [revoke] at artifact ⊢
    exact ⟨artifact.1, (checkRevokeArtifact_eq_ok_iff.mp artifact.1).2⟩

theorem Processes.authorized
    {crypto : Crypto} {service : Service} {environment : Environment}
    {journal : Journal} {signed : SignedCapability} {report : Report}
    (processes : Processes crypto service environment journal signed report)
    (sound : Sound crypto service.verifiers journal) :
    ∀ invocation ∈ mutations report.events,
      Authorized crypto service report invocation := by
  have silent : ∀ events, mutations events = [] →
      ∀ invocation ∈ mutations events,
        Authorized crypto service report invocation := by
    intro events quiet invocation member
    rw [quiet] at member
    cases member
  cases processes with
  | refused quiet
  | replayed quiet
  | unbegun quiet => exact silent _ quiet
  | recovered quiet _ _ recovers =>
      obtain ⟨-, -, events⟩ := (finishPrepared_spec sound _ _ _ _ _).journal sound
      rw [events]
      apply silent
      rw [mutations_append, quiet, mutations_recover recovers]
      rfl
  | @executed verified start next events preflight accepted prepared begun =>
      have nextSound := sound.commits begun.healthy begun.commits
      obtain ⟨-, -, called⟩ :=
        (finishPrepared_spec nextSound _ _ _ _ _).journal nextSound
      rw [called]
      rcases execute_events environment signed next.synced
          { verified := start.verified, deadline := start.deadline }
          preflight with quiet | ⟨invocation, only, exact_, durable, permitted⟩
      · apply silent
        rw [mutations_append, mutations_preflightFor prepared, quiet]
        rfl
      · intro other member
        have same : other = invocation := by
          rw [only, mutations_append, mutations_preflightFor prepared] at member
          simpa using member
        subst same
        have verifiedEq := permitted.verified_eq
        dsimp only at verifiedEq
        have presented : start.signed = other.signed :=
          begun.signed.trans exact_.symm
        have verification := begun.genuine.verified
        rw [presented, ← verifiedEq] at verification
        have authentic := CapabilityVerifier.verify_eq_ok verification
        have mutates : other.verified.value.operation = .add ∨
            other.verified.value.operation = .revoke := by
          rw [verifiedEq]
          rcases permitted.preflight with ⟨add, -⟩ | ⟨revoke, -⟩
          · exact .inl add
          · exact .inr revoke
        have values : verified.value = other.verified.value := by
          have received := CapabilityVerifier.verify_eq_ok accepted
          rw [← exact_] at received
          exact (received.agree authentic).1
        rw [values] at prepared
        obtain ⟨inspected, target, schema, state⟩ :=
          preflightFor_eq_ok mutates prepared
        have mutation := permitted.mutation
        dsimp only at mutation
        rw [← verifiedEq] at mutation
        have stdin : other.mutation.stdin = other.signed.artifact := by
          rw [mutation, authentic.artifact]
        have fresh := permitted.fresh
        dsimp only at fresh
        rw [← verifiedEq] at fresh
        have replays := (nextSound.replayed begun.commits.healthy).1
        rw [← begun.commits.synced, ← durable] at replays
        refine ⟨verification, stdin, ?_, by rw [mutation], ?_,
          checkFresh_eq_ok fresh, ?_, ?_⟩
        · rw [stdin]
          exact authentic.artifactDigest
        · rw [stdin, mutation]
          exact meansTarget_of_authentic authentic mutates
        · have short := begun.genuine.short
          refine ⟨next.index, start, scan_eq_ok_iff.mpr replays, ?_, presented,
            permitted.early, begun.genuine.ordered, ?_, ?_⟩
          · rw [verifiedEq, begun.entries]
            exact AList.lookup_insert _
          · rw [maxDeadline] at short
            omega
          · rw [verifiedEq]
            exact begun.genuine.unexpired
        · refine ⟨preflight, _, by rw [called, inspected, only]; rfl, target,
            schema, ?_⟩
          rw [mutation]
          dsimp only
          have stopped := permitted.preflight
          dsimp only at stopped
          rw [← verifiedEq] at stopped
          rcases stopped with ⟨add, inactive⟩ | ⟨revoke, present⟩
          · rw [add]
            exact state.resolve_left inactive
          · rw [revoke]
            exact state.resolve_right present

/-- Over every run, each mutation is fully authorised within its own call. -/
theorem mutation_authorized (crypto : Crypto) (service : Service)
    (steps : List Step) :
    ∀ call ∈ (run crypto service steps).history,
      ∀ invocation ∈ mutations call.report.events,
        Authorized crypto service call.report invocation :=
  run_calls (fun _ _ sound processes => processes.authorized sound) steps

/-! ## A call that mutates -/

def sampleService : Service where
  verifier := sampleVerifiers.capability
  signer :=
    { keyID := ascii "result-1"
      executorID := ascii "executor-1"
      key := samplePrivateKey }
  verifiers := sampleVerifiers

def sampleReply (state : ReadbackState) (ttl : Nat) : InspectReply :=
  .observed
    { state
      targetIPv4 := sampleTarget
      ownedSchemaDigest := sampleSchemaDigest
      remainingTTLSeconds := ttl }

/-- A healthy runner; only the reading of the clock at the end is open. -/
def sampleEnvironment (finishClock : Int) : Environment where
  admitted := true
  receivedClock := sampleTime
  receivedContext := ⟨false, none⟩
  preflight := sampleReply .absent 0
  preflightDone := false
  beginClock := sampleTime
  beginContext := ⟨false, none⟩
  beginAppend := .committed
  takeClock := sampleTime
  mutation := ⟨some .success, false⟩
  mutationDone := false
  readback := sampleReply .active 1800
  readbackDone := false
  finishClock
  finishDone := false
  recoveryClock := finishClock
  recoveryContext := ⟨false, none⟩
  recoveryReadback := sampleReply .active 1800
  recoveryReadbackDone := false
  recoveryFinishClock := finishClock
  recoveryFinishDone := false
  resultID := some (sampleID '5')
  completeAppend := .committed

def sampleRequest : Request where
  recoveryOnly := false
  signed := sampleCapability
  environment := sampleEnvironment (sampleTime + Time.second)

/-- The one mutation of this run is authorised. -/
theorem sampleRequest_authorized :
    ∃ call ∈ (run sampleCrypto sampleService [.call sampleRequest]).history,
      ∃ invocation ∈ mutations call.report.events,
        Authorized sampleCrypto sampleService call.report invocation := by
  have one : (run sampleCrypto sampleService
      [.call sampleRequest]).invocations.length = 1 := by
    decide +kernel
  obtain ⟨invocation, only⟩ := List.length_eq_one_iff.mp one
  have member : invocation ∈ (run sampleCrypto sampleService
      [.call sampleRequest]).invocations := by
    rw [only]
    exact List.mem_singleton_self _
  obtain ⟨call, called, mutated⟩ := List.mem_flatMap.mp member
  exact ⟨call, called, invocation, mutated,
    mutation_authorized sampleCrypto sampleService [.call sampleRequest]
      call called invocation mutated⟩

end SentinelFlow.Executor
