import SentinelFlow.Executor.Service

/-!
# What a call can do

Every call of the service refuses, replays a stored result, fails to begin,
recovers a started execution, or begins and executes one.  The invariants of
whole runs are derived from this case distinction; none of them unfolds the
service again.
-/

namespace SentinelFlow.Executor

open GoLib Capability Journal

/-- The calls of `Runner.Mutate` among the events. -/
def mutations (events : List Event) : List Invocation :=
  events.filterMap fun
    | .mutated invocation => some invocation
    | .inspected _ _ => none

@[simp]
theorem mutations_nil : mutations [] = [] := rfl

@[simp]
theorem mutations_inspected
    (request : Inspection) (reply : InspectReply) (events : List Event) :
    mutations (.inspected request reply :: events) = mutations events := rfl

@[simp]
theorem mutations_mutated (invocation : Invocation) (events : List Event) :
    mutations (.mutated invocation :: events) =
      invocation :: mutations events := rfl

@[simp]
theorem mutations_append (first second : List Event) :
    mutations (first ++ second) = mutations first ++ mutations second :=
  List.filterMap_append

/-- The journal holds this signed result in a terminal record. -/
def Holds (journal : Journal) (signed : SignedResult) : Prop :=
  ∃ identifier start terminal,
    journal.index.entries.lookup identifier = some start ∧
      start.terminal = some terminal ∧ terminal.signed = signed

section Specifications

variable {crypto : Crypto} {service : Service} {environment : Environment}

/-- What `finishPrepared` can do. -/
inductive Finishes (crypto : Crypto) (service : Service)
    (environment : Environment) (journal : Journal) (events : List Event)
    (started : StartedSnapshot) (authority : Authority) (result : Result) :
    Report → Prop where
  | refused (code : ErrorCode) :
      Finishes crypto service environment journal events started authority
        result { events, outcome := .error code, journal }
  | failed {next : Journal}
      (fails : Fails environment.completeAppend journal next) :
      Finishes crypto service environment journal events started authority
        result { events, outcome := .error .resultDurability, journal := next }
  | existing {identifier : Bytes} {signed : SignedResult}
      {terminal : TerminalSnapshot} {next : Journal}
      (identified : environment.resultID = some identifier)
      (attested : attest crypto service authority (bindIdentifiers identifier
        started authority.verified.value result) = .ok signed)
      (completes : Completes crypto service.verifiers journal
        environment.completeAppend signed (.ok (terminal, false)) next) :
      Finishes crypto service environment journal events started authority
        result { events, outcome := .ok terminal.signed, journal := next }
  | appended {identifier : Bytes} {signed : SignedResult}
      {terminal : TerminalSnapshot} {next : Journal}
      (identified : environment.resultID = some identifier)
      (attested : attest crypto service authority (bindIdentifiers identifier
        started authority.verified.value result) = .ok signed)
      (completes : Completes crypto service.verifiers journal
        environment.completeAppend signed (.ok (terminal, true)) next) :
      Finishes crypto service environment journal events started authority
        result
        { events, outcome := .ok signed, appended := some signed,
          journal := next }

theorem finishPrepared_spec
    {journal : Journal} (sound : Sound crypto service.verifiers journal)
    (environment : Environment) (events : List Event)
    (started : StartedSnapshot) (authority : Authority) (result : Result) :
    Finishes crypto service environment journal events started authority result
      (finishPrepared crypto service environment journal events started
        authority result) := by
  unfold finishPrepared
  split
  · exact .refused _
  next identifier identified =>
  split
  · exact .refused _
  next signed attested =>
    have completes := complete_spec sound environment.completeAppend signed
    split
    next done =>
      rw [done] at completes
      cases completes with
      | failed fails => exact .failed fails
    next done =>
      rw [done] at completes
      exact .existing identified attested completes
    next done =>
      rw [done] at completes
      exact .appended identified attested completes

/-- What a call can do.  Events before the journal is changed are inspections. -/
inductive Processes (crypto : Crypto) (service : Service)
    (environment : Environment) (journal : Journal)
    (signed : SignedCapability) : Report → Prop where
  | refused {events : List Event} (quiet : mutations events = [])
      (code : ErrorCode) :
      Processes crypto service environment journal signed
        { events, outcome := .error code, journal }
  | replayed {events : List Event} (quiet : mutations events = [])
      {stored : SignedResult} (held : Holds journal stored) :
      Processes crypto service environment journal signed
        { events, outcome := .ok stored, journal }
  | unbegun {events : List Event} (quiet : mutations events = [])
      (code : ErrorCode) {next : Journal}
      (fails : Fails environment.beginAppend journal next) :
      Processes crypto service environment journal signed
        { events, outcome := .error code, journal := next }
  | recovered {events : List Event} (quiet : mutations events = [])
      {start : StartedRecord} {calls : List Event} {result : Result}
      (found : journal.index.entries.lookup
        start.verified.value.capabilityID = some start)
      (exact_ : start.signed = signed)
      (recovers : recover environment ⟨start.verified⟩ = .ok (calls, result)) :
      Processes crypto service environment journal signed
        (finishPrepared crypto service environment journal (events ++ calls)
          (snapshotStarted start) (.recovery ⟨start.verified⟩) result)
  | executed {verified : VerifiedCapability} {start : StartedRecord}
      {next : Journal} {events : List Event} {preflight : Observation}
      (accepted : service.verifier.verify crypto signed = .ok verified)
      (prepared : preflightFor environment verified.value =
        (events, .ok preflight))
      (begun : Begun crypto service.verifiers journal signed
        (now environment.beginClock) start.deadline start next) :
      Processes crypto service environment journal signed
        (finishPrepared crypto service environment next
          (events ++ (execute environment signed next.synced
            { verified := start.verified, deadline := start.deadline }
            preflight).1)
          (snapshotStarted start)
          (.permit { verified := start.verified, deadline := start.deadline })
          (finish environment (snapshotStarted start)
            (execute environment signed next.synced
              { verified := start.verified, deadline := start.deadline }
              preflight).2))

theorem mutations_preflightFor
    {value : Value} {events : List Event}
    {preflight : Except ErrorCode Observation}
    (prepared : preflightFor environment value = (events, preflight)) :
    mutations events = [] := by
  unfold preflightFor at prepared
  dsimp only at prepared
  split at prepared
  · split at prepared
    · cases prepared
      rfl
    · split at prepared
      · cases prepared
        rfl
      · cases prepared
        rfl
  · cases prepared
    rfl

variable {signed : SignedCapability} {verified : VerifiedCapability}

/-- The stored capability is the one presented, byte for byte. -/
theorem signed_of_sameCapability
    {start : StartedRecord}
    (same : sameCapability start signed verified = true) :
    start.signed = signed := by
  simp only [sameCapability, Bool.and_eq_true, beq_iff_eq] at same
  obtain ⟨⟨⟨⟨-, key⟩, canonical⟩, signature⟩, artifact⟩ := same
  cases start with
  | mk sequence stored =>
      cases stored
      cases signed
      simp_all

/-- What follows when the journal already knows the capability. -/
theorem existing_spec
    {journal : Journal} (sound : Sound crypto service.verifiers journal)
    (healthy : journal.poisoned = false) {events : List Event}
    (quiet : mutations events = []) {start : StartedRecord}
    (found : journal.index.entries.lookup verified.value.capabilityID =
      some start)
    (same : sameCapability start signed verified = true) :
    (∀ started terminal, existingOutcome start = .terminal started terminal →
      Processes crypto service environment journal signed
        { events, outcome := .ok terminal.signed, journal }) ∧
    (∀ started recovery,
      existingOutcome start = .startedOnly started recovery →
      Processes crypto service environment journal signed
        (recoverReport crypto service environment journal events started
          recovery)) := by
  have named := ((sound.index healthy).genuine found).2
  constructor
  · intro started terminal outcome
    unfold existingOutcome at outcome
    split at outcome
    next recorded =>
      cases outcome
      exact .replayed quiet ⟨_, start, _, found, recorded, rfl⟩
    · cases outcome
  · intro started recovery outcome
    unfold existingOutcome at outcome
    split at outcome
    · cases outcome
    · cases outcome
      unfold recoverReport
      split
      · exact .refused quiet _
      next recovers =>
        rw [← named] at found
        exact .recovered quiet found (signed_of_sameCapability same) recovers

theorem processUnseen_spec
    {journal : Journal} (sound : Sound crypto service.verifiers journal)
    (accepted : service.verifier.verify crypto signed = .ok verified) :
    Processes crypto service environment journal signed
      (processUnseen crypto service environment journal signed verified) := by
  unfold processUnseen
  dsimp only
  split
  · exact .refused rfl _
  split
  · exact .refused rfl _
  split
  next prepared => exact .refused (mutations_preflightFor prepared) _
  next events preflight prepared =>
  have quiet := mutations_preflightFor prepared
  split
  · exact .refused quiet _
  split
  · exact .refused quiet _
  next deadline _ =>
    have begins := begin_spec sound environment.beginAppend signed
      (now environment.beginClock) deadline
    split
    next begun =>
      rw [begun] at begins
      cases begins with
      | failed fails => exact .unbegun quiet _ fails
    next begun =>
      rw [begun] at begins
      generalize outcome : Outcome.terminal _ _ = state at begins
      cases begins with
      | existing healthy _ found same =>
          exact (existing_spec sound healthy quiet found same).1 _ _
            outcome.symm
      | started => cases outcome
    next begun =>
      rw [begun] at begins
      generalize outcome : Outcome.startedOnly _ _ = state at begins
      cases begins with
      | existing healthy _ found same =>
          exact (existing_spec sound healthy quiet found same).2 _ _
            outcome.symm
      | started => cases outcome
    next begun =>
      rw [begun] at begins
      generalize outcome : Outcome.newStarted _ _ = state at begins
      cases begins with
      | existing =>
          unfold existingOutcome at outcome
          split at outcome <;> cases outcome
      | started committed =>
          cases outcome
          rw [← committed.deadline] at committed
          exact .executed accepted prepared committed
    next begun =>
      rw [begun] at begins
      generalize outcome : Outcome.unseen = state at begins
      cases begins with
      | existing =>
          unfold existingOutcome at outcome
          split at outcome <;> cases outcome
      | started => cases outcome

theorem verified_of_admission
    (admitted : service.admit crypto environment signed = .ok verified) :
    service.verifier.verify crypto signed = .ok verified := by
  unfold Service.admit at admitted
  split at admitted
  · cases admitted
  next accepted =>
  split at admitted
  · cases admitted
  split at admitted
  · cases admitted
  split at admitted
  · cases admitted
  · cases admitted
    exact accepted

/-- What `Lookup` can find. -/
theorem lookup_eq_ok
    {journal : Journal} {verifiers : Verifiers} {outcome : Outcome}
    (found : journal.lookup crypto verifiers signed = .ok outcome) :
    journal.poisoned = false ∧ (outcome = .unseen ∨
      ∃ verified start, journal.index.entries.lookup
          verified.value.capabilityID = some start ∧
        sameCapability start signed verified = true ∧
        outcome = existingOutcome start) := by
  unfold Journal.lookup at found
  split at found
  · cases found
  next verified accepted =>
  split at found
  · cases found
  next healthy =>
  refine ⟨by simpa using healthy, ?_⟩
  split at found
  · cases found
    exact .inl rfl
  next start known =>
  split at found
  · cases found
  next same =>
    cases found
    exact .inr ⟨verified, start, known, not_not.mp same, rfl⟩

theorem process_spec
    {journal : Journal} (sound : Sound crypto service.verifiers journal)
    (recoveryOnly : Bool) (signed : SignedCapability) :
    Processes crypto service environment journal signed
      (service.process crypto environment recoveryOnly journal signed) := by
  unfold Service.process
  split
  · exact .refused rfl _
  next verified admitted =>
  split
  · exact .refused rfl _
  next looked =>
    obtain ⟨healthy, other | ⟨known, start, found, same, outcome⟩⟩ :=
      lookup_eq_ok looked
    · cases other
    · exact (existing_spec sound healthy rfl found same).1 _ _ outcome.symm
  next looked =>
    obtain ⟨healthy, other | ⟨known, start, found, same, outcome⟩⟩ :=
      lookup_eq_ok looked
    · cases other
    · exact (existing_spec sound healthy rfl found same).2 _ _ outcome.symm
  next =>
    split
    · exact .refused rfl _
    · exact processUnseen_spec sound (verified_of_admission admitted)
  · exact .refused rfl _

/-! ## The journal and the runner across a call -/

theorem Finishes.journal
    {journal : Journal} {events : List Event} {started : StartedSnapshot}
    {authority : Authority} {result : Result} {report : Report}
    (finishes : Finishes crypto service environment journal events started
      authority result report)
    (sound : Sound crypto service.verifiers journal) :
    Sound crypto service.verifiers report.journal ∧
      Grows journal report.journal ∧ report.events = events := by
  cases finishes with
  | refused => exact ⟨sound, .refl journal, rfl⟩
  | failed fails => exact ⟨sound.fails fails, fails.grows, rfl⟩
  | existing _ _ completes
  | appended _ _ completes =>
      exact ⟨completes.sound sound, completes.grows sound, rfl⟩

theorem mutations_recover
    {recovery : Recovery} {calls : List Event} {result : Result}
    (recovers : recover environment recovery = .ok (calls, result)) :
    mutations calls = [] := by
  unfold recover at recovers
  dsimp only at recovers
  split at recovers
  · cases recovers
  split at recovers
  · cases recovers
  · cases recovers
    rfl

/-- What the permit and the preflight demand of a mutation. -/
structure Permitted (verified : VerifiedCapability) (deadline : Int)
    (preflight : Observation) (invocation : Invocation) : Prop where
  verified_eq : invocation.verified = verified
  mutation : invocation.mutation =
    ⟨verified.value.operation, verified.artifact⟩
  early : invocation.takenAt < deadline
  fresh : verified.checkFresh invocation.takenAt = .ok ()
  preflight :
    verified.value.operation = .add ∧ preflight.state ≠ .active ∨
      verified.value.operation = .revoke ∧ preflight.state ≠ .absent

theorem takeAt_eq_ok
    {operation : Operation} {permit : Permit} {instant : Int}
    (taken : (permit.takeAt operation instant).1 = .ok ()) :
    instant < permit.deadline ∧
      permit.verified.checkFresh instant = .ok () := by
  unfold Permit.takeAt at taken
  split at taken
  · cases taken
  next expected =>
  split at taken
  · cases taken
  next used checked =>
  split at taken
  · cases taken
  next unit_ executable =>
    unfold Permit.checkAndUse at checked
    split at checked
    · cases checked
    next early =>
    split at checked
    · cases checked
    · cases checked
      refine ⟨not_not.mp early, ?_⟩
      rwa [VerifiedCapability.executableAt,
        if_neg (not_not.mpr (not_not.mp expected))] at executable

/-- An execution invokes the mutation at most once, only as permitted, and reads
the target back right after it. -/
theorem execute_events
    (environment : Environment) (signed : SignedCapability) (synced : Bytes)
    (permit : Permit) (preflight : Observation) :
    mutations (execute environment signed synced permit preflight).1 = [] ∨
      ∃ invocation, (execute environment signed synced permit preflight).1 =
          [.mutated invocation, .inspected
            (inspectionFor permit.verified.value) environment.readback] ∧
        invocation.signed = signed ∧ invocation.synced = synced ∧
        Permitted permit.verified permit.deadline preflight invocation := by
  unfold execute
  dsimp only
  split
  next add =>
    split
    · exact .inl rfl
    next taken =>
    split
    · exact .inl rfl
    next inactive =>
      obtain ⟨early, fresh⟩ := takeAt_eq_ok taken
      exact .inr ⟨_, rfl, rfl, rfl, rfl, by rw [add], early, fresh,
        .inl ⟨add, inactive⟩⟩
  next revoke =>
    split
    · exact .inl rfl
    next taken =>
    split
    · exact .inl rfl
    next present =>
      obtain ⟨early, fresh⟩ := takeAt_eq_ok taken
      exact .inr ⟨_, rfl, rfl, rfl, rfl, by rw [revoke], early, fresh,
        .inr ⟨revoke, present⟩⟩
  · split
    · exact .inl rfl
    · exact .inl rfl

end Specifications

end SentinelFlow.Executor
