import SentinelFlow.Correlation.Groups

/-!
# Incidents

The aggregate of package `correlation`: an incident holds the signals of a
group, their snapshot and relations, and the commands that were applied to it.
A call returns the next incident or an error; it never changes its receiver.
`call_ok` says once what a successful call can do.
-/

namespace SentinelFlow.Correlation

open GoLib Detection

def incidentIdleTimeout : Int := 15 * 60 * second

def incidentReopenWindow : Int := 30 * 60 * second

def maximumAnalysisAttempts : Nat := 2

inductive IncidentState where
  | incidentOpen
  | incidentAnalyzing
  | incidentReviewReady
  | incidentAnalysisFailed
  | incidentClosed
deriving DecidableEq, Repr

inductive AnalysisFailureReason where
  | budgetExhausted
  | inputTooLarge
  | networkError
  | http408
  | http409
  | rateLimited
  | serverError
  | timeout
  | refused
  | incomplete
  | schemaInvalid
  | evidenceInvalid
  | unsupportedAction
  | cancelled
  | configurationError
deriving DecidableEq, Repr

def AnalysisFailureReason.text : AnalysisFailureReason → Bytes
  | .budgetExhausted => ascii "budget_exhausted"
  | .inputTooLarge => ascii "input_too_large"
  | .networkError => ascii "network_error"
  | .http408 => ascii "http_408"
  | .http409 => ascii "http_409"
  | .rateLimited => ascii "rate_limited"
  | .serverError => ascii "server_error"
  | .timeout => ascii "timeout"
  | .refused => ascii "refused"
  | .incomplete => ascii "incomplete"
  | .schemaInvalid => ascii "schema_invalid"
  | .evidenceInvalid => ascii "evidence_invalid"
  | .unsupportedAction => ascii "unsupported_action"
  | .cancelled => ascii "cancelled"
  | .configurationError => ascii "configuration_error"

inductive RetryClassification where
  | retryOnceWithBoundedJitter
  | retryTerminal
deriving DecidableEq, Repr

/-- Any other text, the empty one included, is `none`. -/
def classifyAnalysisFailure :
    Option AnalysisFailureReason → Except Error RetryClassification
  | some .networkError | some .http408 | some .http409 | some .rateLimited
  | some .serverError => .ok .retryOnceWithBoundedJitter
  | some _ => .ok .retryTerminal
  | none => .error
      { code := .invalidInput, field := ascii "analysis_failure_reason" }

theorem exists_classifyAnalysisFailure (reason : AnalysisFailureReason) :
    ∃ classification,
      classifyAnalysisFailure (some reason) = .ok classification := by
  cases reason <;> exact ⟨_, rfl⟩

structure Command where
  id : Bytes
  expectedRevision : Nat
  time : Int
deriving DecidableEq, Repr

inductive TransitionDisposition where
  | applied
  | idempotentDuplicate
deriving DecidableEq, Repr

structure TransitionResult where
  disposition : TransitionDisposition
  appliedRevision : Nat
  currentRevision : Nat
deriving DecidableEq, Repr

inductive RouteDisposition where
  | appended
  | reopened
  | newIncident
  | duplicateSignal
deriving DecidableEq, Repr

structure CommandRecord where
  id : Bytes
  fingerprint : Bytes
  appliedRevision : Nat
deriving DecidableEq, Repr

structure Incident where
  id : Bytes
  version : Nat
  revision : Nat
  state : IncidentState
  createdAt : Int
  updatedAt : Int
  lastSignalAt : Int
  closedAt : Int
  failureReason : Option AnalysisFailureReason
  analysisAttempts : Nat
  snapshot : EvidenceSnapshot
  signals : List Signal
  relations : List Relation
  commands : List CommandRecord
deriving DecidableEq, Repr

structure RouteResult where
  disposition : RouteDisposition
  current : Incident
  newIncident : Option Incident
deriving DecidableEq, Repr

def canRetryAnalysis (incident : Incident) : Bool :=
  if incident.state ≠ .incidentAnalysisFailed ∨
      maximumAnalysisAttempts ≤ incident.analysisAttempts then false
  else match classifyAnalysisFailure incident.failureReason with
  | .ok .retryOnceWithBoundedJitter => true
  | _ => false

section Lifecycle

variable (crypto : Crypto)

def incidentID (snapshotDigest : Bytes) : Bytes :=
  uuidV8FromDigest (crypto.sha256
    (ascii "sentinelflow-incident-id-v1\n" ++ snapshotDigest))

def newIncident (group : Group) (time : Int) : Except Error Incident :=
  if time = 0 then .error { code := .invalidInput, field := ascii "at" }
  else match buildGroup crypto group.signals with
  | .error failure => .error failure
  | .ok rebuilt =>
      if time < rebuilt.windowEnd then
        .error { code := .timeRegression, field := ascii "at" }
      else .ok
        { id := incidentID crypto rebuilt.snapshot.digest
          version := 1
          revision := 1
          state := .incidentOpen
          createdAt := time
          updatedAt := time
          lastSignalAt := rebuilt.windowEnd
          closedAt := 0
          failureReason := none
          analysisAttempts := 0
          snapshot := rebuilt.snapshot
          signals := rebuilt.signals
          relations := rebuilt.relations
          commands := [] }

/-! ## Commands -/

inductive CommandKind where
  | beginAnalysis
  | completeAnalysis
  | failAnalysis
  | closeIdle
  | routeSignal
deriving DecidableEq, Repr

def CommandKind.text : CommandKind → Bytes
  | .beginAnalysis => ascii "begin_analysis"
  | .completeAnalysis => ascii "complete_analysis"
  | .failAnalysis => ascii "fail_analysis"
  | .closeIdle => ascii "close_idle"
  | .routeSignal => ascii "route_signal"

def fingerprintLines (kind : CommandKind) (command : Command)
    (payload : Bytes) : List Bytes :=
  [ascii "incident-command-v1", kind.text, command.id,
    formatUint command.expectedRevision,
    Time.formatRFC3339Nano command.time, payload]

def commandFingerprint (kind : CommandKind) (command : Command)
    (payload : Bytes) : Bytes :=
  digestText crypto (writeLines (fingerprintLines kind command payload))

/-- The fingerprint of a command, with the record of an earlier application. -/
def prepareCommand (incident : Incident) (command : Command)
    (kind : CommandKind) (payload : Bytes) :
    Except Error (Bytes × Option CommandRecord) :=
  if ¬ digestPattern.matchString command.id then
    .error { code := .invalidInput, field := ascii "command.id" }
  else if command.time = 0 then
    .error { code := .invalidInput, field := ascii "command.at" }
  else
    let fingerprint := commandFingerprint crypto kind command payload
    match incident.commands.find? (·.id = command.id) with
    | some record =>
        if record.fingerprint ≠ fingerprint then
          .error { code := .idempotencyConflict, field := ascii "command.id" }
        else .ok (fingerprint, some record)
    | none =>
        if command.expectedRevision ≠ incident.revision then
          .error { code := .staleRevision
                   field := ascii "command.expected_revision" }
        else if command.time < incident.updatedAt then
          .error { code := .timeRegression, field := ascii "command.at" }
        else .ok (fingerprint, none)

def Incident.commit (incident : Incident) (command : Command)
    (fingerprint : Bytes) : Incident :=
  { incident with
    version := incident.version + 1
    revision := incident.revision + 1
    updatedAt := command.time
    commands := incident.commands ++
      [{ id := command.id, fingerprint
         appliedRevision := incident.revision + 1 }] }

/-- The frame of the four transitions: `change` checks the state and makes the
change. -/
def Incident.transition (incident : Incident) (command : Command)
    (kind : CommandKind) (payload : Bytes)
    (change : Incident → Except Error Incident) :
    Except Error (Incident × TransitionResult) :=
  match prepareCommand crypto incident command kind payload with
  | .error failure => .error failure
  | .ok (_, some record) =>
      .ok (incident,
        { disposition := .idempotentDuplicate
          appliedRevision := record.appliedRevision
          currentRevision := incident.revision })
  | .ok (fingerprint, none) =>
      match change incident with
      | .error failure => .error failure
      | .ok next =>
          .ok (next.commit command fingerprint,
            { disposition := .applied
              appliedRevision := next.revision + 1
              currentRevision := next.revision + 1 })

def Incident.beginAnalysis (incident : Incident) (command : Command) :
    Except Error (Incident × TransitionResult) :=
  incident.transition crypto command .beginAnalysis [] fun incident =>
    if incident.state ≠ .incidentOpen ∧
        incident.state ≠ .incidentAnalysisFailed then
      .error { code := .invalidTransition, field := ascii "begin_analysis" }
    else if incident.state = .incidentAnalysisFailed ∧
        ¬ canRetryAnalysis incident then
      .error { code := .retryNotAllowed, field := ascii "analysis_failed" }
    else if maximumAnalysisAttempts ≤ incident.analysisAttempts then
      .error { code := .retryNotAllowed, field := ascii "analysis_attempts" }
    else .ok { incident with
      state := .incidentAnalyzing
      failureReason := none
      analysisAttempts := incident.analysisAttempts + 1 }

def Incident.completeAnalysis (incident : Incident) (command : Command) :
    Except Error (Incident × TransitionResult) :=
  incident.transition crypto command .completeAnalysis [] fun incident =>
    if incident.state ≠ .incidentAnalyzing then
      .error { code := .invalidTransition, field := ascii "complete_analysis" }
    else .ok { incident with
      state := .incidentReviewReady
      failureReason := none }

def Incident.failAnalysis (incident : Incident) (command : Command)
    (reason : Option AnalysisFailureReason) :
    Except Error (Incident × TransitionResult) :=
  match classifyAnalysisFailure reason with
  | .error failure => .error failure
  | .ok _ =>
      incident.transition crypto command .failAnalysis
        ((reason.map AnalysisFailureReason.text).getD []) fun incident =>
        if incident.state ≠ .incidentAnalyzing then
          .error { code := .invalidTransition, field := ascii "fail_analysis" }
        else .ok { incident with
          state := .incidentAnalysisFailed
          failureReason := reason }

def Incident.closeIdle (incident : Incident) (command : Command) :
    Except Error (Incident × TransitionResult) :=
  incident.transition crypto command .closeIdle [] fun incident =>
    if incident.state = .incidentClosed ∨
        incident.state = .incidentAnalyzing then
      .error { code := .invalidTransition, field := ascii "close_idle" }
    else
      let deadline := incident.lastSignalAt + incidentIdleTimeout
      if command.time < deadline then
        .error { code := .idleDeadlineNotReached, field := ascii "at" }
      else .ok { incident with
        state := .incidentClosed
        closedAt := deadline }

/-! ## Signals -/

def routePayload (signal : Signal) : Bytes :=
  signal.signalID ++ 10 :: signal.digest

def Incident.validateDuplicateSignalCommand (incident : Incident)
    (command : Command) (signal : Signal) : Except Error Unit :=
  if ¬ digestPattern.matchString command.id then
    .error { code := .invalidInput, field := ascii "command.id" }
  else if command.time = 0 then
    .error { code := .invalidInput, field := ascii "command.at" }
  else match incident.commands.find? (·.id = command.id) with
  | some record =>
      if record.fingerprint ≠
          commandFingerprint crypto .routeSignal command
            (routePayload signal) then
        .error { code := .idempotencyConflict, field := ascii "command.id" }
      else .ok ()
  | none => .ok ()

/-- The signal that ends last, the greater id where two end together. -/
def latestSignal (first : Signal) (rest : List Signal) : Signal :=
  rest.foldl (fun latest signal =>
    if latest.windowEnd < signal.windowEnd ∨
        signal.windowEnd = latest.windowEnd ∧
          latest.signalID < signal.signalID then signal
    else latest) first

def replacePairRelation (relations : List Relation) (replacement : Relation) :
    List Relation :=
  sortRelations (relations.filter (fun relation =>
    ¬ (relation.leftSignalID = replacement.leftSignalID ∧
      relation.rightSignalID = replacement.rightSignalID)) ++ [replacement])

/-- The relations after a signal has been added to `previous`; a reopening adds
the edge from the latest of the signals before. -/
def appendedRelations (previous : List Signal) (signal : Signal)
    (reopening : Bool) : List Relation :=
  let relations := buildRelations (sortSignals (previous ++ [signal]))
  match reopening, previous with
  | true, first :: rest =>
      replacePairRelation relations (makeRelation (latestSignal first rest)
        signal .reopenedWithinThirtyMinutes)
  | _, _ => relations

def Incident.appendSignal (incident : Incident) (command : Command)
    (fingerprint : Bytes) (signal : Signal) (reopening : Bool) :
    Except Error RouteResult :=
  let signals := sortSignals (incident.signals ++ [signal])
  match buildEvidenceSnapshot crypto signals with
  | .error failure => .error failure
  | .ok snapshot =>
      let next := { incident with
        signals
        snapshot
        lastSignalAt := snapshot.windowEnd
        state := .incidentOpen
        failureReason := none
        closedAt := 0
        relations := appendedRelations incident.signals signal reopening }
      .ok { disposition := if reopening then .reopened else .appended
            current := next.commit command fingerprint
            newIncident := none }

def Incident.routeToNewIncident (incident : Incident) (command : Command)
    (signal : Signal) : Except Error RouteResult :=
  match buildGroup crypto [signal] with
  | .error failure => .error failure
  | .ok group =>
      match newIncident crypto group command.time with
      | .error failure => .error failure
      | .ok created =>
          .ok { disposition := .newIncident
                current := incident
                newIncident := some created }

/-- Where a signal goes that the incident does not have. -/
def Incident.routeFreshSignal (incident : Incident) (command : Command)
    (fingerprint : Bytes) (signal : Signal) : Except Error RouteResult :=
  if signal.sourceIP ≠ incident.snapshot.sourceIP then
    incident.routeToNewIncident crypto command signal
  else if incident.state = .incidentClosed then
    if command.time < incident.closedAt then
      .error { code := .timeRegression, field := ascii "at" }
    else if ¬ incident.closedAt + incidentReopenWindow < command.time then
      incident.appendSignal crypto command fingerprint signal true
    else incident.routeToNewIncident crypto command signal
  else if ¬ incident.signals.any (fun existing =>
      (temporalRelation existing signal).isSome) then
    incident.routeToNewIncident crypto command signal
  else incident.appendSignal crypto command fingerprint signal false

def Incident.routeSignal (incident : Incident) (command : Command)
    (signal : Signal) : Except Error RouteResult :=
  match normalizeSignals [signal] with
  | .error failure => .error failure
  | .ok _ =>
      if command.time = 0 ∨ command.time < signal.windowEnd then
        .error { code := .timeRegression, field := ascii "at" }
      else
        let duplicate : RouteResult :=
          { disposition := .duplicateSignal
            current := incident
            newIncident := none }
        match incident.signals.find? (·.signalID = signal.signalID) with
        | some existing =>
            if existing ≠ signal then
              .error { code := .conflictingSignal, field := signal.signalID }
            else match incident.validateDuplicateSignalCommand crypto command
                signal with
            | .error failure => .error failure
            | .ok () => .ok duplicate
        | none =>
            match prepareCommand crypto incident command .routeSignal
                (routePayload signal) with
            | .error failure => .error failure
            | .ok (_, some _) => .ok duplicate
            | .ok (fingerprint, none) =>
                incident.routeFreshSignal crypto command fingerprint signal

/-! ## Calls -/

inductive Call where
  | beginAnalysis (command : Command)
  | completeAnalysis (command : Command)
  | failAnalysis (command : Command) (reason : Option AnalysisFailureReason)
  | closeIdle (command : Command)
  | routeSignal (command : Command) (signal : Signal)
deriving DecidableEq, Repr

def Call.command : Call → Command
  | .beginAnalysis command => command
  | .completeAnalysis command => command
  | .failAnalysis command _ => command
  | .closeIdle command => command
  | .routeSignal command _ => command

def Call.kind : Call → CommandKind
  | .beginAnalysis _ => .beginAnalysis
  | .completeAnalysis _ => .completeAnalysis
  | .failAnalysis _ _ => .failAnalysis
  | .closeIdle _ => .closeIdle
  | .routeSignal _ _ => .routeSignal

def Call.payload : Call → Bytes
  | .failAnalysis _ reason => (reason.map AnalysisFailureReason.text).getD []
  | .routeSignal _ signal => routePayload signal
  | _ => []

/-- What a call returns. -/
inductive Response where
  | transition (incident : Incident) (result : TransitionResult)
  | route (result : RouteResult)
deriving DecidableEq, Repr

def Response.incident : Response → Incident
  | .transition incident _ => incident
  | .route result => result.current

/-- Whether the call changed the incident. -/
def Response.applied : Response → Bool
  | .transition _ result => result.disposition = .applied
  | .route result =>
      result.disposition = .appended ∨ result.disposition = .reopened

/-- The revision at which the command was applied, where it is reported. -/
def Response.reportedRevision : Response → Option Nat
  | .transition _ result => some result.appliedRevision
  | .route _ => none

def Incident.call (incident : Incident) : Call → Except Error Response
  | .beginAnalysis command =>
      (incident.beginAnalysis crypto command).map fun pair =>
        .transition pair.1 pair.2
  | .completeAnalysis command =>
      (incident.completeAnalysis crypto command).map fun pair =>
        .transition pair.1 pair.2
  | .failAnalysis command reason =>
      (incident.failAnalysis crypto command reason).map fun pair =>
        .transition pair.1 pair.2
  | .closeIdle command =>
      (incident.closeIdle crypto command).map fun pair =>
        .transition pair.1 pair.2
  | .routeSignal command signal =>
      (incident.routeSignal crypto command signal).map .route

/-- The fingerprint under which a call is recorded. -/
def Call.fingerprint (call : Call) : Bytes :=
  commandFingerprint crypto call.kind call.command call.payload

end Lifecycle

/-! ## What a call can do -/

section Calls

variable {crypto : Crypto} {incident : Incident}

/-- A new incident is open and holds the rebuilt group. -/
theorem newIncident_ok
    {group : Group} {time : Int}
    (made : newIncident crypto group time = .ok incident) :
    ∃ rebuilt, buildGroup crypto group.signals = .ok rebuilt ∧
      incident =
        { id := incidentID crypto rebuilt.snapshot.digest
          version := 1
          revision := 1
          state := .incidentOpen
          createdAt := time
          updatedAt := time
          lastSignalAt := rebuilt.windowEnd
          closedAt := 0
          failureReason := none
          analysisAttempts := 0
          snapshot := rebuilt.snapshot
          signals := rebuilt.signals
          relations := rebuilt.relations
          commands := [] } := by
  unfold newIncident at made
  split at made
  · cases made
  · split at made
    · cases made
    next rebuilt grouped =>
      split at made
      · cases made
      · cases made
        exact ⟨rebuilt, grouped, rfl⟩

/-- The checks of a command that has not been applied before. -/
structure Fresh (incident : Incident) (command : Command) : Prop where
  id : digestPattern.matchString command.id = true
  time : command.time ≠ 0
  unused : ∀ record ∈ incident.commands, record.id ≠ command.id
  revision : command.expectedRevision = incident.revision
  later : incident.updatedAt ≤ command.time

theorem prepareCommand_ok
    {command : Command} {kind : CommandKind} {payload : Bytes}
    {prepared : Bytes × Option CommandRecord}
    (ok : prepareCommand crypto incident command kind payload = .ok prepared) :
    prepared.1 = commandFingerprint crypto kind command payload ∧
      (prepared.2 = none → Fresh incident command) ∧
      ∀ record, prepared.2 = some record → record ∈ incident.commands ∧
        record.id = command.id ∧
        record.fingerprint =
          commandFingerprint crypto kind command payload := by
  simp only [prepareCommand, ite_error_eq_ok_iff, not_not] at ok
  obtain ⟨known, time, ok⟩ := ok
  split at ok
  next record found =>
    obtain ⟨same, ⟨⟩⟩ := ite_error_eq_ok_iff.mp ok
    refine ⟨rfl, nofun, ?_⟩
    rintro _ ⟨⟩
    exact ⟨List.mem_of_find?_eq_some found,
      by simpa using List.find?_some found, not_not.mp same⟩
  next absent =>
    simp only [ite_error_eq_ok_iff, not_not, Int.not_lt] at ok
    obtain ⟨revision, later, ⟨⟩⟩ := ok
    refine ⟨rfl, fun _ => ⟨known, time, ?_, revision, later⟩, nofun⟩
    intro record member
    simpa using List.find?_eq_none.mp absent record member

/-- What an applied call makes of an incident, before it is recorded. -/
inductive Effect (crypto : Crypto) (incident : Incident) :
    Call → Incident → Prop where
  | began (command : Command)
      (ready : incident.state = .incidentOpen ∨
        incident.state = .incidentAnalysisFailed ∧
          canRetryAnalysis incident = true)
      (attempts : incident.analysisAttempts < maximumAnalysisAttempts) :
      Effect crypto incident (.beginAnalysis command)
        { incident with
          state := .incidentAnalyzing
          failureReason := none
          analysisAttempts := incident.analysisAttempts + 1 }
  | completed (command : Command)
      (analyzing : incident.state = .incidentAnalyzing) :
      Effect crypto incident (.completeAnalysis command)
        { incident with state := .incidentReviewReady, failureReason := none }
  | failed (command : Command) (reason : AnalysisFailureReason)
      (analyzing : incident.state = .incidentAnalyzing) :
      Effect crypto incident (.failAnalysis command (some reason))
        { incident with
          state := .incidentAnalysisFailed
          failureReason := some reason }
  | closed (command : Command)
      (idle : incident.state ≠ .incidentClosed ∧
        incident.state ≠ .incidentAnalyzing)
      (deadline : incident.lastSignalAt + incidentIdleTimeout ≤ command.time) :
      Effect crypto incident (.closeIdle command)
        { incident with
          state := .incidentClosed
          closedAt := incident.lastSignalAt + incidentIdleTimeout }
  | joined (command : Command) (signal : Signal) (reopening : Bool)
      (snapshot : EvidenceSnapshot) (valid : ValidSignal signal)
      (ended : signal.windowEnd ≤ command.time)
      (new : ∀ existing ∈ incident.signals,
        existing.signalID ≠ signal.signalID)
      (source : signal.sourceIP = incident.snapshot.sourceIP)
      (admitted : if reopening then incident.state = .incidentClosed ∧
          incident.closedAt ≤ command.time ∧
          command.time ≤ incident.closedAt + incidentReopenWindow
        else incident.state ≠ .incidentClosed ∧
          ∃ existing ∈ incident.signals,
            (temporalRelation existing signal).isSome = true)
      (built : buildEvidenceSnapshot crypto
        (sortSignals (incident.signals ++ [signal])) = .ok snapshot) :
      Effect crypto incident (.routeSignal command signal)
        { incident with
          signals := sortSignals (incident.signals ++ [signal])
          snapshot
          lastSignalAt := snapshot.windowEnd
          state := .incidentOpen
          failureReason := none
          closedAt := 0
          relations := appendedRelations incident.signals signal reopening }

/-- The two ways in which a transition can succeed. -/
theorem transition_ok
    {command : Command} {kind : CommandKind} {payload : Bytes}
    {change : Incident → Except Error Incident}
    {result : Incident × TransitionResult}
    (ok : incident.transition crypto command kind payload change =
      .ok result) :
    (result.2.disposition = .idempotentDuplicate ∧ result.1 = incident) ∨
      ∃ next, Fresh incident command ∧ change incident = .ok next ∧
        result = (next.commit command
            (commandFingerprint crypto kind command payload),
          { disposition := .applied
            appliedRevision := next.revision + 1
            currentRevision := next.revision + 1 }) := by
  unfold Incident.transition at ok
  split at ok
  · cases ok
  next record prepared =>
    cases ok
    exact .inl ⟨rfl, rfl⟩
  next fingerprint prepared =>
    obtain ⟨same, fresh, -⟩ := prepareCommand_ok prepared
    dsimp only at same
    subst same
    split at ok
    · cases ok
    next next changed =>
      cases ok
      exact .inr ⟨next, fresh rfl, changed, rfl⟩

variable {result : RouteResult} {signal : Signal}

theorem appendSignal_ok
    {command : Command} {fingerprint : Bytes} {reopening : Bool}
    (ok : incident.appendSignal crypto command fingerprint signal reopening =
      .ok result) :
    ∃ snapshot, buildEvidenceSnapshot crypto
        (sortSignals (incident.signals ++ [signal])) = .ok snapshot ∧
      result =
        { disposition := if reopening then .reopened else .appended
          current := ({ incident with
            signals := sortSignals (incident.signals ++ [signal])
            snapshot
            lastSignalAt := snapshot.windowEnd
            state := .incidentOpen
            failureReason := none
            closedAt := 0
            relations := appendedRelations incident.signals signal
              reopening } : Incident).commit command fingerprint
          newIncident := none } := by
  unfold Incident.appendSignal at ok
  dsimp only at ok
  split at ok
  · cases ok
  next snapshot built =>
    cases ok
    exact ⟨snapshot, built, rfl⟩

theorem routeToNewIncident_ok
    {command : Command}
    (ok : incident.routeToNewIncident crypto command signal = .ok result) :
    result.disposition = .newIncident ∧ result.current = incident := by
  unfold Incident.routeToNewIncident at ok
  split at ok
  · cases ok
  · split at ok
    · cases ok
    · cases ok
      exact ⟨rfl, rfl⟩

/-- The two ways in which a fresh signal can be routed. -/
theorem routeFreshSignal_ok
    {command : Command} {fingerprint : Bytes}
    (valid : ValidSignal signal)
    (ended : signal.windowEnd ≤ command.time)
    (new : ∀ existing ∈ incident.signals,
      existing.signalID ≠ signal.signalID)
    (ok : incident.routeFreshSignal crypto command fingerprint signal =
      .ok result) :
    (result.disposition = .newIncident ∧ result.current = incident) ∨
      ((result.disposition = .appended ∨ result.disposition = .reopened) ∧
        ∃ next, Effect crypto incident (.routeSignal command signal) next ∧
          result.current = next.commit command fingerprint) := by
  unfold Incident.routeFreshSignal at ok
  split at ok
  · exact .inl (routeToNewIncident_ok ok)
  next source =>
    split at ok
    next closed =>
      split at ok
      · cases ok
      next early =>
        split at ok
        next recent =>
          obtain ⟨snapshot, built, rfl⟩ := appendSignal_ok ok
          refine .inr ⟨.inr rfl, _, .joined command signal true snapshot valid
            ended new (not_not.mp source) ?_ built, rfl⟩
          rw [if_pos rfl]
          exact ⟨closed, Int.not_lt.mp early, Int.not_lt.mp recent⟩
        · exact .inl (routeToNewIncident_ok ok)
    next closed =>
      split at ok
      · exact .inl (routeToNewIncident_ok ok)
      next related =>
        obtain ⟨snapshot, built, rfl⟩ := appendSignal_ok ok
        refine .inr ⟨.inl rfl, _, .joined command signal false snapshot valid
          ended new (not_not.mp source) ?_ built, rfl⟩
        rw [if_neg (by simp)]
        exact ⟨closed, List.any_eq_true.mp (not_not.mp related)⟩

/-- The two ways in which a signal can be routed. -/
theorem routeSignal_ok
    {command : Command}
    (ok : incident.routeSignal crypto command signal = .ok result) :
    ((result.disposition = .newIncident ∨
        result.disposition = .duplicateSignal) ∧ result.current = incident) ∨
      ((result.disposition = .appended ∨ result.disposition = .reopened) ∧
        Fresh incident command ∧
        ∃ next, Effect crypto incident (.routeSignal command signal) next ∧
          result.current = next.commit command (commandFingerprint crypto
            .routeSignal command (routePayload signal))) := by
  unfold Incident.routeSignal at ok
  split at ok
  · cases ok
  next values normal =>
    have valid : ValidSignal signal :=
      (normalizeSignals_ok normal).1.valid signal List.mem_cons_self
    obtain ⟨started, ok⟩ := ite_error_eq_ok_iff.mp ok
    obtain ⟨-, ended⟩ := not_or.mp started
    dsimp only at ok
    split at ok
    next existing found =>
      obtain ⟨-, ok⟩ := ite_error_eq_ok_iff.mp ok
      split at ok
      · cases ok
      · cases ok
        exact .inl ⟨.inr rfl, rfl⟩
    next absent =>
      have new : ∀ existing ∈ incident.signals,
          existing.signalID ≠ signal.signalID := by
        intro existing member
        simpa using List.find?_eq_none.mp absent existing member
      split at ok
      · cases ok
      · cases ok
        exact .inl ⟨.inr rfl, rfl⟩
      next fingerprint prepared =>
        obtain ⟨same, fresh, -⟩ := prepareCommand_ok prepared
        dsimp only at same
        subst same
        rcases routeFreshSignal_ok valid (Int.not_lt.mp ended) new ok with
          ⟨created, kept⟩ | ⟨disposition, next, effect, recorded⟩
        · exact .inl ⟨.inl created, kept⟩
        · exact .inr ⟨disposition, fresh rfl, next, effect, recorded⟩

private theorem map_eq_ok
    {Value Result : Type} {value : Except Error Value} {make : Value → Result}
    {result : Result} (ok : value.map make = .ok result) :
    ∃ found, value = .ok found ∧ make found = result := by
  cases value with
  | error => cases ok
  | ok found =>
      cases ok
      exact ⟨found, rfl, rfl⟩

/-- What a successful call can do: leave the incident as it is, or have an
effect that is recorded under its command. -/
def Outcome (crypto : Crypto) (incident : Incident) (call : Call)
    (response : Response) : Prop :=
  (response.applied = false ∧ response.incident = incident) ∨
    (response.applied = true ∧ Fresh incident call.command ∧
      ∃ next, Effect crypto incident call next ∧
        response.incident =
          next.commit call.command (call.fingerprint crypto))

private theorem transition_outcome
    {call : Call} {change : Incident → Except Error Incident}
    {response : Response}
    (effect : ∀ next, change incident = .ok next →
      Effect crypto incident call next)
    (ok : (incident.transition crypto call.command call.kind call.payload
      change).map (fun pair => Response.transition pair.1 pair.2) =
        .ok response) :
    Outcome crypto incident call response := by
  obtain ⟨⟨after, result⟩, made, rfl⟩ := map_eq_ok ok
  rcases transition_ok made with ⟨duplicate, kept⟩ | ⟨next, fresh, changed, made⟩
  · refine .inl ⟨?_, kept⟩
    dsimp only at duplicate
    simp [Response.applied, duplicate]
  · cases made
    exact .inr ⟨rfl, fresh, next, effect next changed, rfl⟩

theorem call_ok
    {call : Call} {response : Response}
    (ok : incident.call crypto call = .ok response) :
    Outcome crypto incident call response := by
  cases call with
  | beginAnalysis command =>
      refine transition_outcome ?_ ok
      intro next changed
      simp only [ite_error_eq_ok_iff, Except.ok.injEq] at changed
      obtain ⟨allowed, retry, attempts, rfl⟩ := changed
      refine .began command ?_ (Nat.not_le.mp attempts)
      by_cases opened : incident.state = .incidentOpen
      · exact .inl opened
      · have failed : incident.state = .incidentAnalysisFailed := by
          by_contra other
          exact allowed ⟨opened, other⟩
        refine .inr ⟨failed, ?_⟩
        by_contra refused
        exact retry ⟨failed, refused⟩
  | completeAnalysis command =>
      refine transition_outcome ?_ ok
      intro next changed
      obtain ⟨analyzing, ⟨⟩⟩ := ite_error_eq_ok_iff.mp changed
      exact .completed command (not_not.mp analyzing)
  | failAnalysis command reason =>
      cases reason with
      | none => cases ok
      | some reason =>
          obtain ⟨classification, classified⟩ :=
            exists_classifyAnalysisFailure reason
          rw [Incident.call, Incident.failAnalysis, classified] at ok
          refine transition_outcome ?_ ok
          intro next changed
          obtain ⟨analyzing, ⟨⟩⟩ := ite_error_eq_ok_iff.mp changed
          exact .failed command reason (not_not.mp analyzing)
  | closeIdle command =>
      refine transition_outcome ?_ ok
      intro next changed
      obtain ⟨idle, changed⟩ := ite_error_eq_ok_iff.mp changed
      obtain ⟨reached, ⟨⟩⟩ := ite_error_eq_ok_iff.mp changed
      exact .closed command (not_or.mp idle) (Int.not_lt.mp reached)
  | routeSignal =>
      obtain ⟨result, routed, rfl⟩ := map_eq_ok ok
      rcases routeSignal_ok routed with
        ⟨kept, same⟩ | ⟨joined, fresh, next, effect, recorded⟩
      · refine .inl ⟨?_, same⟩
        rcases kept with kept | kept <;> simp [Response.applied, kept]
      · refine .inr ⟨?_, fresh, next, effect, recorded⟩
        rcases joined with joined | joined <;> simp [Response.applied, joined]

end Calls

end SentinelFlow.Correlation
