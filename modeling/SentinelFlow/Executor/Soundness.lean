import SentinelFlow.Executor.Attestation

/-!
# Signed outcomes are sound

What a durable result says about the call that appended it.  A success names the
mutation and the read-back of that call, and whatever is completed late says no
more than that.  A call that returns a stored result has done nothing itself;
an earlier call of the run appended what it returns.
-/

namespace SentinelFlow.Executor

open GoLib Capability Journal Command

/-- An active target, seen as the capability names it and within the time of its
artifact. -/
structure ActiveWithin (verified : VerifiedCapability)
    (observation : Observation) : Prop where
  state : observation.state = .active
  target : observation.targetIPv4 = verified.value.targetIPv4
  schema : observation.ownedSchemaDigest = verified.value.ownedSchemaDigest
  positive : 1 ≤ observation.remainingTTLSeconds
  within : ∃ seconds,
    checkAddArtifact verified.artifact verified.value.targetIPv4 =
        .ok seconds ∧ observation.remainingTTLSeconds ≤ seconds

/-- The classifications of an inspection. -/
def inspects : Classification → Bool
  | .inspectActive | .inspectAbsent | .inspectMismatch => true
  | _ => false

theorem operation_of_validClassification
    {operation : Operation} {classification : Classification}
    (valid : validClassification operation classification = true) :
    (classification = .applied → operation = .add) ∧
      (classification = .recoveredActive → operation = .add) ∧
      (classification = .revoked → operation = .revoke) ∧
      (inspects classification = true → operation = .inspect) := by
  cases operation <;> cases classification <;> simp_all [validClassification,
    inspects]

/-- An inspection without an error is what the runner observed. -/
theorem observed_of_inspect
    {reply : InspectReply} {done : Bool} {request : Inspection}
    {maximumTTL : Nat}
    (clean : (inspect reply done request maximumTTL).2 = none) :
    reply = .observed (inspect reply done request maximumTTL).1 := by
  rcases inspect_spec reply done request maximumTTL with
    ⟨observation, replied, inspected, -⟩ | ⟨code, inspected⟩ |
      ⟨code, inspected⟩
  · rw [inspected]
    exact replied
  · rw [inspected] at clean
    cases clean
  · rw [inspected] at clean
    cases clean

theorem classifyMutation_eq_success
    {done : Bool} {reply : MutationReply}
    (succeeded : classifyMutation done reply = .success) :
    done = false ∧ reply = ⟨some .success, false⟩ := by
  obtain ⟨exitClass, failed⟩ := reply
  unfold classifyMutation at succeeded
  split at succeeded
  · cases succeeded
  next live =>
  split at succeeded
  next class_ =>
    dsimp only at class_
    split at succeeded
    · cases succeeded
    next unfailed =>
      rw [class_]
      simp only [Bool.not_eq_true] at live unfailed
      exact ⟨live, congrArg _ unfailed⟩
  · cases succeeded
  · cases succeeded
  · cases succeeded
  · cases succeeded

/-! ## Drafts -/

/-- What the events of an execution must show for its classification. -/
structure DraftSound (environment : Environment)
    (verified : VerifiedCapability) (preflight : Observation)
    (events : List Event) (draft : Result) : Prop where
  applied : draft.classification = .applied →
    ∃ invocation observation,
      events = [.mutated invocation,
        .inspected (inspectionFor verified.value) (.observed observation)] ∧
      invocation.mutation.stdin = verified.artifact ∧
      invocation.reply = ⟨some .success, false⟩ ∧
      environment.mutationDone = false ∧
      observation.state = .active ∧
      observation.Fits (inspectionFor verified.value) verified.addTTL
  recovered : draft.classification ≠ .recoveredActive
  revoked : draft.classification = .revoked →
    events = [] ∧ preflight.state = .absent ∨
      ∃ before observation,
        events = before ++
          [.inspected (inspectionFor verified.value)
            (.observed observation)] ∧
        observation.state = .absent
  inspected : inspects draft.classification = true → mutations events = []

theorem draftSound_execute
    (environment : Environment) (signed : SignedCapability) (synced : Bytes)
    (permit : Permit) (preflight : Observation) :
    DraftSound environment permit.verified preflight
      (execute environment signed synced permit preflight).1
      (execute environment signed synced permit preflight).2 := by
  obtain ⟨forAdd, forRecovered, forRevoke, forInspect⟩ :=
    operation_of_validClassification (attestable_execute environment signed
      synced permit preflight).classification
  have fits := inspect_fits environment.readback environment.readbackDone
    (inspectionFor permit.verified.value)
  refine ⟨fun applied => ?_, fun recovered => ?_, fun revoked => ?_,
    fun inspected => ?_⟩
  · have add := forAdd applied
    revert applied
    simp only [execute, add]
    split
    · rintro ⟨⟩
    split
    · rintro ⟨⟩
    · intro applied
      obtain ⟨-, succeeded, clean, active⟩ :=
        mutationResult_succeeds applied (by simp)
      obtain ⟨live, replied⟩ := classifyMutation_eq_success succeeded
      exact ⟨_, _, by rw [← observed_of_inspect clean], rfl, replied, live,
        active, fits _⟩
  · have add := forRecovered recovered
    revert recovered
    simp only [execute, add]
    split
    · rintro ⟨⟩
    split
    · rintro ⟨⟩
    · intro recovered
      cases (mutationResult_succeeds recovered (by simp)).1
  · have revoke := forRevoke revoked
    revert revoked
    simp only [execute, revoke]
    split
    · rintro ⟨⟩
    split
    next absent => exact fun _ => .inl ⟨rfl, absent⟩
    · intro revoked
      obtain ⟨-, -, clean, absent⟩ :=
        mutationResult_succeeds revoked (by simp)
      exact .inr ⟨[_], _, by rw [← observed_of_inspect clean]; rfl, absent⟩
  · simp only [execute, forInspect inspected]
    split <;> rfl

/-- A recovery names a success only for the read-back that it made. -/
structure RecoverySound (environment : Environment)
    (verified : VerifiedCapability) (draft : Result) : Prop where
  applied : draft.classification ≠ .applied
  recovered : draft.classification = .recoveredActive →
    ∃ observation, environment.recoveryReadback = .observed observation ∧
      observation.state = .active ∧
      observation.Fits (inspectionFor verified.value) verified.addTTL
  revoked : draft.classification = .revoked →
    ∃ observation, environment.recoveryReadback = .observed observation ∧
      observation.state = .absent

theorem recoverySound_recoveryDraft
    (environment : Environment) (verified : VerifiedCapability) :
    RecoverySound environment verified
      (recoveryDraft environment verified) := by
  obtain ⟨forAdd, forRecovered, forRevoke, -⟩ :=
    operation_of_validClassification
      (attestable_recoveryDraft environment verified).classification
  have fits := inspect_fits environment.recoveryReadback
    environment.recoveryReadbackDone (inspectionFor verified.value)
    (readbackBound verified)
  refine ⟨fun applied => ?_, fun recovered => ?_, fun revoked => ?_⟩
  · have add := forAdd applied
    simp only [recoveryDraft, add] at applied
    cases (recoveredAddResult_succeeds applied (by simp)).1
  · have add := forRecovered recovered
    rw [readbackBound, if_pos add] at fits
    simp only [recoveryDraft, readbackBound, add] at recovered
    obtain ⟨-, clean, active⟩ :=
      recoveredAddResult_succeeds recovered (by simp)
    exact ⟨_, observed_of_inspect clean, active, fits⟩
  · have revoke := forRevoke revoked
    simp only [recoveryDraft, revoke] at revoked
    obtain ⟨-, clean, absent⟩ :=
      recoveredRevokeResult_succeeds revoked (by simp)
    exact ⟨_, observed_of_inspect clean, absent⟩

/-! ## The appended result -/

/-- A result that attests a missed deadline only. -/
def DeadlineExceeded (result : Result) : Prop :=
  result.classification = .indeterminate ∧
    result.errorCode = .deadlineExceeded

/-- What a result says about the call that appended it.  An execution is late by
the recorded deadline, a recovery by its own. -/
structure SoundOutcome (environment : Environment) (report : Report)
    (start : StartedRecord) (result : Result) : Prop where
  applied : result.classification = .applied →
    ∃ before invocation observation,
      mutations report.events = [invocation] ∧
      report.events = before ++ [.mutated invocation,
        .inspected (inspectionFor start.verified.value)
          (.observed observation)] ∧
      invocation.mutation.stdin = start.verified.artifact ∧
      invocation.reply = ⟨some .success, false⟩ ∧
      environment.mutationDone = false ∧
      ActiveWithin start.verified observation ∧
      result.completedAt ≤ start.deadline
  recovered : result.classification = .recoveredActive →
    mutations report.events = [] ∧ ∃ before observation,
      report.events = before ++ [.inspected
        (inspectionFor start.verified.value) (.observed observation)] ∧
      ActiveWithin start.verified observation
  revoked : result.classification = .revoked → ∃ before observation,
    report.events = before ++ [.inspected
      (inspectionFor start.verified.value) (.observed observation)] ∧
    observation.state = .absent
  inspected : inspects result.classification = true →
    mutations report.events = []
  late :
    (result.completedAt = now environment.finishClock ∧
      (environment.finishDone = true ∨ start.deadline < result.completedAt →
        DeadlineExceeded result)) ∨
    (mutations report.events = [] ∧ ∃ deadline,
      operationDeadline environment.recoveryContext
          (now environment.recoveryClock)
          (now environment.recoveryClock + maxOperationDuration) =
        .ok deadline ∧
      result.completedAt = now environment.recoveryFinishClock ∧
      (environment.recoveryFinishDone = true ∨
          deadline < result.completedAt → DeadlineExceeded result))

section Calls

variable {crypto : Crypto} {service : Service} {environment : Environment}
  {journal : Journal} {events : List Event} {report : Report}
  {start : StartedRecord} {authority : Authority} {draft : Result}

variable {verifier : CapabilityVerifier} {signed : SignedResult}

theorem activeWithin_of_fits
    {signed : SignedCapability} {verified : VerifiedCapability}
    (authentic : Authentic crypto verifier signed verified)
    (add : verified.value.operation = .add) {observation : Observation}
    (active : observation.state = .active)
    (fits : observation.Fits (inspectionFor verified.value) verified.addTTL) :
    ActiveWithin verified observation := by
  obtain ⟨positive, -, within⟩ := fits.active active
  refine ⟨active, fits.target, fits.schema, positive, verified.addTTL, ?_,
    within (addTTL_ne_zero authentic add)⟩
  obtain ⟨common, original, artifact, -, value⟩ := authentic.admitted
  have target : verified.value.targetIPv4 = common.targetIPv4 := by
    rw [value]
    rfl
  rw [add] at artifact
  rw [authentic.artifact, target]
  exact artifact.1

/-- What the journal's verifier reads from an attested result. -/
theorem value_of_attest
    (held : authority.verified = start.verified)
    (genuine : start.Genuine crypto service.verifiers.capability)
    {identifier : Bytes} {verified : VerifiedResult}
    (attested : attest crypto service authority (bindIdentifiers identifier
      (snapshotStarted start) start.verified.value draft) = .ok signed)
    (accepted : service.verifiers.result.verify crypto signed =
      .ok verified) :
    verified.value = bindIdentifiers identifier (snapshotStarted start)
      start.verified.value draft := by
  obtain ⟨valid, -, -, binding, rfl⟩ := attest_eq_ok_iff.mp attested
  have wellFormed :=
    (CapabilityVerifier.verify_eq_ok genuine.verified).wellFormed
  have begun := binding.startedAt
  rw [held] at begun
  have positive := wellFormed.positive
  have ordered := wellFormed.ordered
  exact (value_of_verify valid (by omega) accepted).1

/-- The terminal record that a call appends carries the drafted result. -/
theorem Finishes.appendedResult
    (finishes : Finishes crypto service environment journal events
      (snapshotStarted start) authority draft report)
    (sound : Sound crypto service.verifiers journal)
    (held : authority.verified = start.verified)
    (found : journal.index.entries.lookup start.verified.value.capabilityID =
      some start)
    (appended : report.appended = some signed) :
    ∃ identifier terminal, terminal.signed = signed ∧
      service.verifiers.result.verify crypto signed = .ok terminal.verified ∧
      terminal.verified.value = bindIdentifiers identifier
        (snapshotStarted start) start.verified.value draft ∧
      start.Genuine crypto service.verifiers.capability ∧
      report.journal.index.entries = journal.index.entries.insert
        start.verified.value.capabilityID
        { start with terminal := some terminal } := by
  cases finishes with
  | refused => cases appended
  | failed => cases appended
  | existing => cases appended
  | appended identified attested completes =>
      cases appended
      cases completes with
      | @appended other terminal _ healthy accepted exact_ known open_ bound
          entries commits =>
          have genuine := ((sound.index healthy).genuine found).1
          rw [held] at attested
          have same := value_of_attest held genuine attested accepted
          have named : terminal.verified.value.capabilityID =
              start.verified.value.capabilityID := by
            rw [same]
            rfl
          rw [named, found] at known
          cases known
          rw [named] at entries
          exact ⟨_, terminal, exact_, accepted, same, genuine, entries⟩

theorem soundOutcome_execution
    {signed : SignedCapability}
    (authentic : Authentic crypto verifier start.signed start.verified)
    {synced : Bytes} {preflight : Observation}
    (prepared : preflightFor environment start.verified.value =
      (events, .ok preflight))
    (called : report.events = events ++ (execute environment signed synced
      { verified := start.verified, deadline := start.deadline }
      preflight).1)
    (identifier : Bytes) :
    SoundOutcome environment report start (bindIdentifiers identifier
      (snapshotStarted start) start.verified.value
      (finish environment (snapshotStarted start)
        (execute environment signed synced
          { verified := start.verified, deadline := start.deadline }
          preflight).2)) := by
  have sound := draftSound_execute environment signed synced
    { verified := start.verified, deadline := start.deadline } preflight
  have operations := operation_of_validClassification (attestable_execute
    environment signed synced
    { verified := start.verified, deadline := start.deadline }
    preflight).classification
  dsimp only at sound operations
  have quiet := mutations_preflightFor prepared
  refine ⟨fun applied => ?_, fun recovered => ?_, fun revoked => ?_,
    fun inspected => ?_, .inl ⟨overrideLate_times.2, fun late => ?_⟩⟩
  · obtain ⟨prompt, drafted⟩ :=
      classification_of_overrideLate applied (by simp)
    obtain ⟨invocation, observation, calls, stdin, reply, live, active, fits⟩ :=
      sound.applied drafted
    rw [calls] at called
    refine ⟨events, invocation, observation, ?_, called, stdin, reply, live,
      activeWithin_of_fits authentic (operations.1 drafted) active fits, ?_⟩
    · rw [called, mutations_append, quiet]
      rfl
    · rw [not_or] at prompt
      rw [bindIdentifiers, finish, overrideLate_times.2]
      exact Int.not_lt.mp prompt.2
  · obtain ⟨-, drafted⟩ := classification_of_overrideLate recovered (by simp)
    exact absurd drafted sound.recovered
  · obtain ⟨-, drafted⟩ := classification_of_overrideLate revoked (by simp)
    rcases sound.revoked drafted with
      ⟨calls, absent⟩ | ⟨before, observation, calls, absent⟩
    · obtain ⟨inspected, -⟩ := preflightFor_eq_ok
        (.inr (operations.2.2.1 drafted)) prepared
      refine ⟨[], preflight, ?_, absent⟩
      rw [called, calls, inspected]
      rfl
    · refine ⟨events ++ before, observation, ?_, absent⟩
      rw [called, calls, List.append_assoc]
  · have settled : (bindIdentifiers identifier (snapshotStarted start)
        start.verified.value (finish environment (snapshotStarted start)
          (execute environment signed synced
            { verified := start.verified, deadline := start.deadline }
            preflight).2)).classification ≠ .indeterminate := by
      intro unknown
      rw [unknown] at inspected
      cases inspected
    obtain ⟨-, drafted⟩ := classification_of_overrideLate rfl settled
    rw [called, mutations_append, quiet, sound.inspected (drafted ▸ inspected)]
    rfl
  · apply overrideLate_of_late
    rw [bindIdentifiers, finish, overrideLate_times.2] at late
    exact late

theorem soundOutcome_recovery
    (authentic : Authentic crypto verifier start.signed start.verified)
    {calls : List Event}
    (recovers : recover environment ⟨start.verified⟩ = .ok (calls, draft))
    (quiet : mutations events = [])
    (called : report.events = events ++ calls) (identifier : Bytes) :
    SoundOutcome environment report start (bindIdentifiers identifier
      (snapshotStarted start) start.verified.value draft) := by
  obtain ⟨deadline, limited, rfl, rfl⟩ := recover_eq_ok recovers
  have sound := recoverySound_recoveryDraft environment start.verified
  have operations := operation_of_validClassification
    (attestable_recoveryDraft environment start.verified).classification
  have silent : mutations report.events = [] := by
    rw [called, mutations_append, quiet]
    rfl
  refine ⟨fun applied => ?_, fun recovered => ⟨silent, ?_⟩, fun revoked => ?_,
    fun _ => silent,
    .inr ⟨silent, deadline, limited, overrideLate_times.2, fun late => ?_⟩⟩
  · obtain ⟨-, drafted⟩ := classification_of_overrideLate applied (by simp)
    exact absurd drafted sound.applied
  · obtain ⟨-, drafted⟩ := classification_of_overrideLate recovered (by simp)
    obtain ⟨observation, replied, active, fits⟩ := sound.recovered drafted
    rw [replied] at called
    exact ⟨events, observation, called,
      activeWithin_of_fits authentic (operations.2.1 drafted) active fits⟩
  · obtain ⟨-, drafted⟩ := classification_of_overrideLate revoked (by simp)
    obtain ⟨observation, replied, absent⟩ := sound.revoked drafted
    rw [replied] at called
    exact ⟨events, observation, called, absent⟩
  · apply overrideLate_of_late
    rw [bindIdentifiers, overrideLate_times.2] at late
    exact late

/-- The durable result of a call, in the journal and as the verifier reads it,
together with what it says about the call. -/
def AppendsSoundly (crypto : Crypto) (service : Service)
    (environment : Environment) (report : Report)
    (signed : SignedResult) : Prop :=
  ∃ start terminal,
    report.journal.index.entries.lookup start.verified.value.capabilityID =
        some { start with terminal := some terminal } ∧
      terminal.signed = signed ∧
      service.verifiers.result.verify crypto signed = .ok terminal.verified ∧
      SoundOutcome environment report start terminal.verified.value

theorem Processes.appended
    {signed : SignedCapability}
    (processes : Processes crypto service environment journal signed report)
    (sound : Sound crypto service.verifiers journal) {result : SignedResult}
    (appended : report.appended = some result) :
    AppendsSoundly crypto service environment report result := by
  cases processes with
  | refused => cases appended
  | replayed => cases appended
  | unbegun => cases appended
  | @recovered events quiet start calls draft found exact_ recovers =>
      have finishes := finishPrepared_spec sound environment
        (events ++ calls) (snapshotStarted start) (.recovery ⟨start.verified⟩) draft
      obtain ⟨identifier, terminal, stored, verified, value, genuine, entries⟩ :=
        finishes.appendedResult sound rfl found appended
      refine ⟨start, terminal, ?_, stored, verified, ?_⟩
      · rw [entries]
        exact AList.lookup_insert _
      · rw [value]
        exact soundOutcome_recovery
          (CapabilityVerifier.verify_eq_ok genuine.verified) recovers quiet
          (finishes.journal sound).2.2 identifier
  | @executed verified start next events preflight accepted prepared begun =>
      have nextSound := sound.commits begun.healthy begun.commits
      have authentic := CapabilityVerifier.verify_eq_ok begun.genuine.verified
      have presented := CapabilityVerifier.verify_eq_ok accepted
      rw [← begun.signed] at presented
      rw [(presented.agree authentic).1] at prepared
      have found : next.index.entries.lookup
          start.verified.value.capabilityID = some start := by
        rw [begun.entries]
        exact AList.lookup_insert _
      have finishes := finishPrepared_spec nextSound environment
        (events ++ (execute environment signed next.synced
          { verified := start.verified, deadline := start.deadline }
          preflight).1)
        (snapshotStarted start)
        (.permit { verified := start.verified, deadline := start.deadline })
        (finish environment (snapshotStarted start)
          (execute environment signed next.synced
            { verified := start.verified, deadline := start.deadline }
            preflight).2)
      obtain ⟨identifier, terminal, stored, verified, value, genuine, entries⟩ :=
        finishes.appendedResult nextSound rfl found appended
      refine ⟨start, terminal, ?_, stored, verified, ?_⟩
      · rw [entries]
        exact AList.lookup_insert _
      · rw [value]
        exact soundOutcome_execution authentic prepared
          (finishes.journal nextSound).2.2 identifier

/-! ## Returned results -/

theorem Fails.holds
    {append : AppendOutcome} {next : Journal}
    (fails : Fails append journal next) (held : Holds next signed) :
    Holds journal signed := by
  cases fails with
  | unchanged => exact held
  | poisoned => exact held

/-- The terminal records after an insertion. -/
theorem holds_of_insert
    {next : Journal} {identifier : Bytes} {record : StartedRecord}
    (entries : next.index.entries =
      journal.index.entries.insert identifier record)
    (held : Holds next signed) :
    Holds journal signed ∨
      ∃ terminal, record.terminal = some terminal ∧
        terminal.signed = signed := by
  obtain ⟨other, start, terminal, found, recorded, exact_⟩ := held
  rw [entries] at found
  by_cases same : other = identifier
  · subst same
    rw [AList.lookup_insert] at found
    cases found
    exact .inr ⟨terminal, recorded, exact_⟩
  · rw [AList.lookup_insert_ne same] at found
    exact .inl ⟨other, start, terminal, found, recorded, exact_⟩

theorem Finishes.holds
    {started : StartedSnapshot}
    (finishes : Finishes crypto service environment journal events started
      authority draft report)
    (held : Holds report.journal signed) :
    Holds journal signed ∨ report.appended = some signed := by
  cases finishes with
  | refused => exact .inl held
  | failed fails => exact .inl (Fails.holds fails held)
  | existing _ _ completes =>
      cases completes with
      | existing => exact .inl held
  | appended _ _ completes =>
      cases completes with
      | appended _ _ exact_ _ _ _ entries =>
          rcases holds_of_insert entries held with earlier | ⟨_, ⟨⟩, same⟩
          · exact .inl earlier
          · exact .inr (congrArg some (exact_.symm.trans same))

/-- A call adds to the stored results only the one that it appended. -/
theorem Processes.holds
    {signed : SignedCapability}
    (processes : Processes crypto service environment journal signed report)
    (sound : Sound crypto service.verifiers journal) {result : SignedResult}
    (held : Holds report.journal result) :
    Holds journal result ∨ report.appended = some result := by
  cases processes with
  | refused => exact .inl held
  | replayed => exact .inl held
  | unbegun _ _ fails => exact .inl (Fails.holds fails held)
  | recovered => exact (finishPrepared_spec sound _ _ _ _ _).holds held
  | @executed _ start next _ _ _ _ begun =>
      have nextSound := sound.commits begun.healthy begun.commits
      rcases (finishPrepared_spec nextSound _ _ _ _ _).holds held with
        earlier | appended
      · rcases holds_of_insert begun.entries earlier with
          earlier | ⟨terminal, recorded, -⟩
        · exact .inl earlier
        · rw [begun.open_] at recorded
          cases recorded
      · exact .inr appended

/-- What `finishPrepared` returns it appended, or the journal held it. -/
theorem Finishes.returned
    {started : StartedSnapshot}
    (finishes : Finishes crypto service environment journal events started
      authority draft report) {signed : SignedResult}
    (returned : report.outcome = .ok signed) :
    report.appended = some signed ∨ Holds journal signed := by
  cases finishes with
  | refused => cases returned
  | failed => cases returned
  | existing _ _ completes =>
      cases returned
      cases completes with
      | existing _ found recorded =>
          exact .inr ⟨_, _, _, found, recorded, rfl⟩
  | appended =>
      cases returned
      exact .inl rfl

/-- The result of an open start cannot have been stored already. -/
theorem Finishes.appended_of_open
    (finishes : Finishes crypto service environment journal events
      (snapshotStarted start) authority draft report)
    (held : authority.verified = start.verified)
    (genuine : start.Genuine crypto service.verifiers.capability)
    (found : journal.index.entries.lookup start.verified.value.capabilityID =
      some start)
    (open_ : start.terminal = none)
    (returned : report.outcome = .ok signed) :
    report.appended = some signed := by
  cases finishes with
  | refused => cases returned
  | failed => cases returned
  | existing _ attested completes =>
      cases completes with
      | @existing other _ verified accepted known recorded =>
          rw [held] at attested
          have named : verified.value.capabilityID =
              start.verified.value.capabilityID := by
            rw [value_of_attest held genuine attested accepted]
            rfl
          rw [named, found] at known
          cases known
          rw [open_] at recorded
          cases recorded
  | appended =>
      cases returned
      rfl

/-- A call that returns a result without appending it has mutated nothing, and
the journal held the result before. -/
theorem Processes.returned
    {signed : SignedCapability}
    (processes : Processes crypto service environment journal signed report)
    (sound : Sound crypto service.verifiers journal) {result : SignedResult}
    (returned : report.outcome = .ok result) :
    report.appended = some result ∨
      mutations report.events = [] ∧ Holds journal result := by
  cases processes with
  | refused => cases returned
  | unbegun => cases returned
  | replayed quiet stored =>
      cases returned
      exact .inr ⟨quiet, stored⟩
  | @recovered events quiet start calls draft _ _ recovers =>
      have finishes := finishPrepared_spec sound environment (events ++ calls)
        (snapshotStarted start) (.recovery ⟨start.verified⟩) draft
      rcases finishes.returned returned with appended | stored
      · exact .inl appended
      · refine .inr ⟨?_, stored⟩
        rw [(finishes.journal sound).2.2, mutations_append, quiet,
          mutations_recover recovers]
        rfl
  | @executed _ start next _ _ _ _ begun =>
      have nextSound := sound.commits begun.healthy begun.commits
      have found : next.index.entries.lookup
          start.verified.value.capabilityID = some start := by
        rw [begun.entries]
        exact AList.lookup_insert _
      exact .inl ((finishPrepared_spec nextSound _ _ _ _ _).appended_of_open
        rfl begun.genuine found begun.open_ returned)

end Calls

/-! ## Runs -/

section Runs

variable {crypto : Crypto} {service : Service}

/-- Every stored result was appended by a call of the run, and what a call
returned without appending it was appended earlier. -/
structure World.Provenance (crypto : Crypto) (service : Service)
    (world : World) : Prop where
  running : ∃ journal, world.running = some journal ∧
    Journal.Sound crypto service.verifiers journal ∧
    ∀ signed, Holds journal signed →
      ∃ call ∈ world.history, call.report.appended = some signed
  returned : ∀ earlier call later,
    world.history = earlier ++ call :: later →
      ∀ signed, call.report.outcome = .ok signed →
        call.report.appended = some signed ∨
          mutations call.report.events = [] ∧
            ∃ previous ∈ earlier, previous.report.appended = some signed

theorem World.provenance_initial : World.Provenance crypto service {} where
  running := by
    refine ⟨{}, rfl, sound_empty, ?_⟩
    rintro signed ⟨identifier, start, terminal, found, -⟩
    simp at found
  returned := by simp

theorem World.Provenance.append
    {world : World} (provenance : world.Provenance crypto service)
    {journal : Journal}
    (sound : Journal.Sound crypto service.verifiers journal)
    (stored : ∀ signed, Holds journal signed →
      ∃ call ∈ world.history, call.report.appended = some signed)
    (call : CallRecord)
    (processes : Processes crypto service call.environment journal call.signed
      call.report) :
    World.Provenance crypto service
      { synced := call.report.journal.synced
        running := some call.report.journal
        history := world.history ++ [call] } := by
  refine ⟨⟨_, rfl, (processes.effect sound).sound, ?_⟩, ?_⟩
  · intro signed held
    rcases processes.holds sound held with earlier | appended
    · obtain ⟨previous, member, appended⟩ := stored signed earlier
      exact ⟨previous, List.mem_append_left _ member, appended⟩
    · exact ⟨call, List.mem_append_right _ List.mem_cons_self, appended⟩
  · intro earlier other later split_ signed returned
    -- The call is the new one, or it stands in the history before.
    rcases List.eq_nil_or_concat later with rfl | ⟨before, last, rfl⟩
    · obtain ⟨rfl, single⟩ := List.append_inj' split_ rfl
      cases single
      rcases processes.returned sound returned with appended | ⟨quiet, held⟩
      · exact .inl appended
      · exact .inr ⟨quiet, stored signed held⟩
    · rw [List.concat_eq_append, ← List.cons_append,
        ← List.append_assoc] at split_
      obtain ⟨history, -⟩ := List.append_inj' split_ rfl
      exact provenance.returned earlier other before history signed returned

theorem run_provenance (crypto : Crypto) (service : Service)
    (requests : List Request) :
    (run crypto service (requests.map Step.call)).Provenance crypto
      service := by
  apply run_induction World.provenance_initial
  intro world step member provenance
  obtain ⟨request, -, rfl⟩ := List.mem_map.mp member
  obtain ⟨journal, running, sound, stored⟩ := provenance.running
  simp only [World.step, running]
  exact provenance.append sound stored { request with report := _ }
    (process_spec sound request.recoveryOnly request.signed)

end Runs

/-- The classification that a call returned, as the verifier reads it. -/
def returnedClassification (crypto : Crypto) (verifier : ResultVerifier)
    (report : Report) : Option Classification :=
  match report.outcome with
  | .error _ => none
  | .ok signed =>
      match verifier.verify crypto signed with
      | .error _ => none
      | .ok verified => some verified.value.classification

end SentinelFlow.Executor
