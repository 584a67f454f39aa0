import SentinelFlow.Executor.Outcome
import SentinelFlow.Journal.Refinement

/-!
# The executor service

`Process` and `ProcessRecovery` as functions of the request, the journal and an
`Environment` that fixes what is outside the program: the clock, the context, the
runner, the file system and the identifier source, each at the point where the
code consults it.  The gate admits one call at a time, so a run is a sequence of
calls.
-/

namespace SentinelFlow.Executor

open GoLib Capability Journal

/-- `MaxOperationDuration`. -/
def maxOperationDuration : Int := maxDeadline

/-- `ctx.Err() != nil` and `ctx.Deadline()` at one point of a call. -/
structure ContextReading where
  done : Bool
  deadline : Option Int

/-- What one call gets from outside.  The context is read once at each point;
nothing is assumed about how two readings relate. -/
structure Environment where
  /-- `acquire` obtains the gate. -/
  admitted : Bool
  receivedClock : Int
  receivedContext : ContextReading
  preflight : InspectReply
  preflightDone : Bool
  beginClock : Int
  beginContext : ContextReading
  beginAppend : AppendOutcome
  takeClock : Int
  mutation : MutationReply
  mutationDone : Bool
  readback : InspectReply
  readbackDone : Bool
  finishClock : Int
  finishDone : Bool
  recoveryClock : Int
  recoveryContext : ContextReading
  recoveryReadback : InspectReply
  recoveryReadbackDone : Bool
  recoveryFinishClock : Int
  recoveryFinishDone : Bool
  resultID : Option Bytes
  completeAppend : AppendOutcome

structure Service where
  verifier : CapabilityVerifier
  signer : ResultSigner
  /-- The verifiers of the service's journal. -/
  verifiers : Verifiers

/-- A call of `Runner.Mutate`, with the request it serves, the permit's capability
and instant, and the durable part of the journal at that time. -/
structure Invocation where
  mutation : Mutation
  reply : MutationReply
  signed : SignedCapability
  verified : VerifiedCapability
  takenAt : Int
  synced : Bytes

/-- The calls of the runner. -/
inductive Event where
  | inspected (request : Inspection) (reply : InspectReply)
  | mutated (invocation : Invocation)

/-- What a call did and returned.  `appended` is the result whose terminal record
this call committed. -/
structure Report where
  events : List Event := []
  outcome : Except ErrorCode SignedResult
  appended : Option SignedResult := none
  journal : Journal

/-- `Service.now` for a reading of the clock. -/
def now (clock : Int) : Int := Time.truncateMillisecond clock

def checkFreshValue (value : Value) (instant : Int) : Except ErrorCode Unit :=
  if instant = 0 ∨ instant < value.issuedAt ∨ instant < value.notBefore ∨
      ¬ instant < value.expiresAt then
    .error .freshness
  else .ok ()

def operationDeadline (context : ContextReading) (instant expiresAt : Int) :
    Except ErrorCode Int :=
  if context.done then .error .deadline
  else
    let latest := instant + maxOperationDuration
    let bounded := if expiresAt < latest then expiresAt else latest
    let chosen := match context.deadline with
      | some limit =>
          if limit < bounded then Time.truncateMillisecond limit else bounded
      | none => bounded
    let deadline := Time.truncateMillisecond chosen
    if ¬ deadline > instant ∨ deadline - instant > maxOperationDuration then
      .error .deadline
    else .ok deadline

def classifyJournal (code : Journal.ErrorCode) : ErrorCode :=
  if code = .conflict then .replay else .journal

/-- The tests before the gate, and the gate itself. -/
def Service.admit (crypto : Crypto) (service : Service)
    (environment : Environment) (signed : SignedCapability) :
    Except ErrorCode VerifiedCapability :=
  match service.verifier.verify crypto signed with
  | .error _ => .error .capability
  | .ok verified =>
      if verified.value.artifactDigest ≠ digestText crypto signed.artifact then
        .error .artifact
      else if verified.value.ownedSchemaDigest ≠ pinnedLiveSchemaDigest then
        .error .schema
      else if ¬ environment.admitted then .error .deadline
      else .ok verified

/-! ## Results -/

/-- The two holders of authority over a result. -/
inductive Authority where
  | permit (permit : Permit)
  | recovery (recovery : Recovery)

def Authority.verified : Authority → VerifiedCapability
  | permit held => held.verified
  | recovery held => held.verified

def Authority.signResult (crypto : Crypto) (signer : ResultSigner)
    (checked : CheckedResult) : Authority → Option SignedResult
  | permit held => held.signResult crypto signer checked
  | recovery held => held.signResult crypto signer checked

/-- A late completion is attested as indeterminate. -/
def overrideLate (late : Prop) [Decidable late] (result : Result) : Result :=
  if late then
    { result with
      classification := .indeterminate, errorCode := .deadlineExceeded }
  else result

/-- The times of `finish` and its override. -/
def finish (environment : Environment) (started : StartedSnapshot)
    (result : Result) : Result :=
  let completedAt := now environment.finishClock
  overrideLate (environment.finishDone ∨ completedAt > started.deadlineAt)
    { result with startedAt := started.receivedAt, completedAt }

/-- The identifiers that `finishPrepared` fills in. -/
def bindIdentifiers (identifier : Bytes) (started : StartedSnapshot)
    (value : Value) (result : Result) : Result :=
  { result with
    resultID := identifier
    capabilityID := value.capabilityID
    capabilityDigest := started.capabilityDigest
    operation := value.operation
    actionID := value.actionID
    artifactDigest := value.artifactDigest
    targetIPv4 := value.targetIPv4
    ownedSchemaDigest := value.ownedSchemaDigest
    journalSequence := started.sequence }

section Crypto

variable (crypto : Crypto) (service : Service) (environment : Environment)

/-- Checks and signs a result. -/
def attest (authority : Authority) (result : Result) :
    Except ErrorCode SignedResult :=
  match checkResult crypto result with
  | .error _ => .error .result
  | .ok checked =>
      match authority.signResult crypto service.signer checked with
      | none => .error .resultSigning
      | some signed => .ok signed

def finishPrepared (journal : Journal) (events : List Event)
    (started : StartedSnapshot) (authority : Authority) (result : Result) :
    Report :=
  match environment.resultID with
  | none => { events, outcome := .error .result, journal }
  | some identifier =>
      match attest crypto service authority (bindIdentifiers identifier started
          authority.verified.value result) with
      | .error code => { events, outcome := .error code, journal }
      | .ok signed =>
          match journal.complete crypto service.verifiers
              environment.completeAppend signed with
          | (.error _, journal) =>
              { events, outcome := .error .resultDurability, journal }
          | (.ok (terminal, false), journal) =>
              { events, outcome := .ok terminal.signed, journal }
          | (.ok (_, true), journal) =>
              { events, outcome := .ok signed, appended := some signed, journal }

/-! ## Execution and recovery -/

/-- The part of `execute` before `finish`: the runner's calls and the result.
The preflight state that stops a mutation is active for an add and absent for a
revocation. -/
def execute (signed : SignedCapability) (synced : Bytes) (permit : Permit)
    (preflight : Observation) : List Event × Result :=
  let value := permit.verified.value
  let instant := now environment.takeClock
  let request := inspectionFor value
  let mutate : Event := .mutated
    { mutation := ⟨value.operation, permit.verified.artifact⟩
      reply := environment.mutation
      signed
      verified := permit.verified
      takenAt := instant
      synced }
  let readback : Event := .inspected request environment.readback
  let exit := classifyMutation environment.mutationDone environment.mutation
  match value.operation with
  | .add =>
      match (permit.takeAt .add instant).1 with
      | .error _ =>
          ([], terminalFailure value .notInvoked preflight .deadlineExceeded)
      | .ok _ =>
          if preflight.state = .active then
            ([], terminalFailure value .notInvoked preflight .targetExists)
          else
            let (observation, inspectErr) := inspect environment.readback
              environment.readbackDone request permit.verified.addTTL
            ([mutate, readback], addResult value exit observation inspectErr)
  | .revoke =>
      match (permit.takeAt .revoke instant).1 with
      | .error _ =>
          ([], terminalFailure value .notInvoked preflight .deadlineExceeded)
      | .ok _ =>
          if preflight.state = .absent then
            ([], revokedResult value .notInvoked)
          else
            let (observation, inspectErr) := inspect environment.readback
              environment.readbackDone request 0
            ([mutate, readback], revokeResult value exit observation inspectErr)
  | .inspect =>
      match (permit.takeAt .inspect instant).1 with
      | .error _ =>
          ([], terminalFailure value .notInvoked
            (unavailableObservation request) .deadlineExceeded)
      | .ok _ =>
          let (observation, inspectErr) := inspect environment.readback
            environment.readbackDone request 0
          ([readback], inspectResult environment.readbackDone value observation
            inspectErr)

/-- The bound of a recovery's read-back. -/
def recoveryTTL (recovery : Recovery) : Except ErrorCode Nat :=
  if recovery.verified.value.operation = .add then
    match recovery.verified.expectedAddTTLSeconds with
    | none => .error .journal
    | some ttl => if ttl = 0 then .error .journal else .ok ttl
  else .ok 0

/-- The part of `recover` before `finishPrepared`. -/
def recover (recovery : Recovery) : Except ErrorCode (List Event × Result) :=
  let value := recovery.verified.value
  let startedAt := now environment.recoveryClock
  match operationDeadline environment.recoveryContext startedAt
      (startedAt + maxOperationDuration) with
  | .error code => .error code
  | .ok deadlineAt =>
      match recoveryTTL recovery with
      | .error code => .error code
      | .ok maximumTTL =>
          let request := inspectionFor value
          let (observation, inspectErr) := inspect environment.recoveryReadback
            environment.recoveryReadbackDone request maximumTTL
          let result := match value.operation with
            | .add => recoveredAddResult value observation inspectErr
            | .revoke => recoveredRevokeResult value observation inspectErr
            | .inspect => inspectResult environment.recoveryReadbackDone value
                observation inspectErr
          let completedAt := now environment.recoveryFinishClock
          .ok ([.inspected request environment.recoveryReadback],
            overrideLate
              (environment.recoveryFinishDone ∨ completedAt > deadlineAt)
              { result with startedAt, completedAt })

/-- Recovery of a started-only execution. -/
def recoverReport (journal : Journal) (events : List Event)
    (started : StartedSnapshot) (recovery : Recovery) : Report :=
  match recover environment recovery with
  | .error code => { events, outcome := .error code, journal }
  | .ok (calls, result) =>
      finishPrepared crypto service environment journal (events ++ calls)
        started (.recovery recovery) result

/-- The preflight of a mutation: the calls of the runner with the observation or
the error.  An inspection has none, and its observation is not used. -/
def preflightFor (value : Value) :
    List Event × Except ErrorCode Observation :=
  let request := inspectionFor value
  if value.operation = .add ∨ value.operation = .revoke then
    let calls := [.inspected request environment.preflight]
    match inspect environment.preflight environment.preflightDone request 0 with
    | (_, some code) => (calls, .error code)
    | (observation, none) =>
        if observation.state = .mismatch ∨ observation.state = .unavailable then
          (calls, .error .targetState)
        else (calls, .ok observation)
  else ([], .ok (unavailableObservation request))

def processUnseen (journal : Journal) (signed : SignedCapability)
    (verified : VerifiedCapability) : Report :=
  let value := verified.value
  let receivedAt := now environment.receivedClock
  match checkFreshValue value receivedAt with
  | .error code => { outcome := .error code, journal }
  | .ok _ =>
  match operationDeadline environment.receivedContext receivedAt
      value.expiresAt with
  | .error code => { outcome := .error code, journal }
  | .ok _ =>
  match preflightFor environment value with
  | (events, .error code) => { events, outcome := .error code, journal }
  | (events, .ok preflight) =>
  let beginAt := now environment.beginClock
  match checkFreshValue value beginAt with
  | .error code => { events, outcome := .error code, journal }
  | .ok _ =>
  match operationDeadline environment.beginContext beginAt value.expiresAt with
  | .error code => { events, outcome := .error code, journal }
  | .ok beginDeadline =>
  match journal.begin crypto service.verifiers environment.beginAppend signed
      beginAt beginDeadline with
  | (.error code, journal) =>
      { events, outcome := .error (classifyJournal code), journal }
  | (.ok (.terminal _ terminal), journal) =>
      { events, outcome := .ok terminal.signed, journal }
  | (.ok (.startedOnly started recovery), journal) =>
      recoverReport crypto service environment journal events started recovery
  | (.ok (.newStarted started permit), journal) =>
      let (calls, result) :=
        execute environment signed journal.synced permit preflight
      finishPrepared crypto service environment journal (events ++ calls)
        started (.permit permit) (finish environment started result)
  | (.ok .unseen, journal) => { events, outcome := .error .journal, journal }

/-- `Process`, and `ProcessRecovery` if only recovery is allowed. -/
def Service.process (recoveryOnly : Bool) (journal : Journal)
    (signed : SignedCapability) : Report :=
  match service.admit crypto environment signed with
  | .error code => { outcome := .error code, journal }
  | .ok verified =>
      match journal.lookup crypto service.verifiers signed with
      | .error code => { outcome := .error (classifyJournal code), journal }
      | .ok (.terminal _ terminal) => { outcome := .ok terminal.signed, journal }
      | .ok (.startedOnly started recovery) =>
          recoverReport crypto service environment journal [] started recovery
      | .ok .unseen =>
          if recoveryOnly then { outcome := .error .replay, journal }
          else processUnseen crypto service environment journal signed verified
      | .ok (.newStarted _ _) => { outcome := .error .journal, journal }

end Crypto

end SentinelFlow.Executor
