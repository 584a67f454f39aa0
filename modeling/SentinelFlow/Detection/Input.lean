import SentinelFlow.Events.Wire
import SentinelFlow.GoLib.Ordered

/-!
# The detector's input

The minimised events and source healths that package `detection` evaluates, and
their normalisation: every event is checked, exact repetitions are dropped, two
different events under one id are refused, and the rest is sorted.  An
enumeration holds the values that the checks admit; a text outside of it is
refused by the same functions.  An instant is a number of nanoseconds, and `0`
is the zero instant of package `time`.
-/

namespace SentinelFlow.Detection

open GoLib

inductive TimestampTrust where
  | trusted
  | untrusted
deriving DecidableEq, Repr

inductive BindingState where
  | verified
  | pending
  | untrusted
  | notApplicable
deriving DecidableEq, Repr

abbrev SuspiciousPathID : Type := Events.SuspiciousPathID

abbrev AuthOutcome : Type := Events.AuthOutcome

structure GroupKey where
  sourceIP : Bytes
  serviceLabel : Bytes
deriving DecidableEq, Repr

/-- What the events of both sources have in common. -/
structure Observation where
  eventID : Bytes
  occurredAt : Int
  sourceIP : Bytes
  serviceLabel : Bytes
  routeLabel : Bytes
  timestampTrust : TimestampTrust
deriving DecidableEq, Repr

def Observation.group (event : Observation) : GroupKey :=
  { sourceIP := event.sourceIP, serviceLabel := event.serviceLabel }

structure GatewayEvent extends Observation where
  pathCatalogVersion : Bytes
  suspiciousPathID : SuspiciousPathID
  statusCode : Int
  authenticationMatch : BindingState
deriving DecidableEq, Repr

structure AuthEvent extends Observation where
  accountHash : Bytes
  outcome : AuthOutcome
  gatewayBinding : BindingState
deriving DecidableEq, Repr

inductive SourceKind where
  | gateway
  | auth
deriving DecidableEq, Repr

inductive HealthIntervalState where
  | degraded
  | lost
  | gapped
  | unknownLoss
  | recovered
deriving DecidableEq, Repr

def HealthIntervalState.text : HealthIntervalState → Bytes
  | .degraded => ascii "degraded"
  | .lost => ascii "lost"
  | .gapped => ascii "gapped"
  | .unknownLoss => ascii "unknown_loss"
  | .recovered => ascii "recovered"

/-- An interval whose end is the zero instant is still open. -/
structure HealthInterval where
  state : HealthIntervalState
  start : Int
  stop : Int
deriving DecidableEq, Repr

structure SourceHealth where
  source : SourceKind
  complete : Bool
  coverageStart : Int
  coverageEnd : Int
  intervals : List HealthInterval
deriving DecidableEq, Repr

structure EvaluationInput where
  now : Int
  gatewayEvents : List GatewayEvent
  authEvents : List AuthEvent
  gatewayHealth : SourceHealth
  authHealth : SourceHealth
deriving DecidableEq, Repr

structure InputError where
  field : String
  code : String
deriving DecidableEq, Repr

/-- One check of a value; the field is relative to the value. -/
def require (holds : Bool) (field code : String) : Option InputError :=
  if holds then none else some { field, code }

@[simp] theorem require_eq_none_iff {holds : Bool} {field code : String} :
    require holds field code = none ↔ holds = true := by
  unfold require
  split <;> simp_all

/-- The first failure, under the name of the value. -/
def firstError (label : String) (checks : List (Option InputError)) :
    Option InputError :=
  (checks.findSome? id).map fun error =>
    { error with field := label ++ error.field }

variable {config : Config} {label : String}

theorem firstError_eq_none_iff
    {checks : List (Option InputError)} :
    firstError label checks = none ↔ ∀ check ∈ checks, check = none := by
  simp [firstError]

/-! ## Configuration -/

structure Config where
  version : Bytes
  pathCatalogVersion : Bytes
  loginRouteLabel : Bytes
  suspiciousPathIDs : List SuspiciousPathID
  pathScanThreshold : Nat
  pathScanWindow : Int
  requestBurstThreshold : Nat
  requestBurstWindow : Int
  loginBruteForceThreshold : Nat
  loginBruteForceWindow : Int
  credentialStuffingEventThreshold : Nat
  credentialStuffingAccountThreshold : Nat
  credentialStuffingWindow : Int
deriving DecidableEq, Repr

def second : Int := 1000000000

def defaultPathCatalogVersion : Bytes := ascii "path-catalog-v1"

def pathScanThreshold : Nat := 8
def requestBurstThreshold : Nat := 120
def loginBruteForceThreshold : Nat := 10
def credentialStuffingEventThreshold : Nat := 20
def credentialStuffingAccountThreshold : Nat := 8

def pathScanWindow : Int := 60 * second
def requestBurstWindow : Int := 10 * second
def loginBruteForceWindow : Int := 60 * second
def credentialStuffingWindow : Int := 5 * 60 * second

def defaultSuspiciousPathIDs : List SuspiciousPathID :=
  [.adminConsole, .envFile, .gitConfig, .wpAdmin, .phpMyAdmin, .serverStatus,
    .actuatorEnv, .backupArchive]

def defaultConfig : Config where
  version := ascii "detectors-v1"
  pathCatalogVersion := defaultPathCatalogVersion
  loginRouteLabel := ascii "login"
  suspiciousPathIDs := defaultSuspiciousPathIDs
  pathScanThreshold := pathScanThreshold
  pathScanWindow := pathScanWindow
  requestBurstThreshold := requestBurstThreshold
  requestBurstWindow := requestBurstWindow
  loginBruteForceThreshold := loginBruteForceThreshold
  loginBruteForceWindow := loginBruteForceWindow
  credentialStuffingEventThreshold := credentialStuffingEventThreshold
  credentialStuffingAccountThreshold := credentialStuffingAccountThreshold
  credentialStuffingWindow := credentialStuffingWindow

/-- `^[a-z][a-z0-9._-]{0,63}$` -/
def versionPattern : Regexp :=
  .seq (.bracket Events.lowerClass 1 1)
    (.bracket Capability.identifierClass 0 63)

def sortPathIDs (ids : List SuspiciousPathID) : List SuspiciousPathID :=
  sortSlice (fun first second => first.text < second.text) ids

/-- What a configuration keeps to once it has been accepted. -/
structure Config.Frozen (config : Config) : Prop where
  version : versionPattern.matchString config.version = true
  pathCatalogVersion : config.pathCatalogVersion = defaultPathCatalogVersion
  loginRouteLabel :
    Events.labelPattern.matchString config.loginRouteLabel = true
  pathScan : config.pathScanThreshold = Detection.pathScanThreshold ∧
    config.pathScanWindow = Detection.pathScanWindow
  requestBurst :
    config.requestBurstThreshold = Detection.requestBurstThreshold ∧
      config.requestBurstWindow = Detection.requestBurstWindow
  loginBruteForce :
    config.loginBruteForceThreshold = Detection.loginBruteForceThreshold ∧
      config.loginBruteForceWindow = Detection.loginBruteForceWindow
  credentialStuffing :
    config.credentialStuffingEventThreshold =
        Detection.credentialStuffingEventThreshold ∧
      config.credentialStuffingAccountThreshold =
        Detection.credentialStuffingAccountThreshold ∧
      config.credentialStuffingWindow = Detection.credentialStuffingWindow
  suspiciousPathIDs :
    config.suspiciousPathIDs = sortPathIDs defaultSuspiciousPathIDs

/-- The checks of a configuration in order, with the message of a failure. -/
def configChecks (config : Config) : List (Bool × String) :=
  [(versionPattern.matchString config.version,
      "configuration version must be a lowercase version label"),
    (config.pathCatalogVersion = defaultPathCatalogVersion,
      "path catalog version must be \"path-catalog-v1\""),
    (Events.labelPattern.matchString config.loginRouteLabel,
      "login route label is invalid"),
    (config.pathScanThreshold = pathScanThreshold ∧
        config.pathScanWindow = pathScanWindow,
      "path scan contract must remain 8 events in 1m0s"),
    (config.requestBurstThreshold = requestBurstThreshold ∧
        config.requestBurstWindow = requestBurstWindow,
      "request burst contract must remain 120 events in 10s"),
    (config.loginBruteForceThreshold = loginBruteForceThreshold ∧
        config.loginBruteForceWindow = loginBruteForceWindow,
      "login brute-force contract must remain 10 events in 1m0s"),
    (config.credentialStuffingEventThreshold =
          credentialStuffingEventThreshold ∧
        config.credentialStuffingAccountThreshold =
          credentialStuffingAccountThreshold ∧
        config.credentialStuffingWindow = credentialStuffingWindow,
      "credential stuffing contract must remain 20 events across 8 " ++
        "accounts in 5m0s"),
    ((sortPathIDs config.suspiciousPathIDs).length =
        (sortPathIDs defaultSuspiciousPathIDs).length,
      "suspicious path set must contain exactly 8 identifiers"),
    (sortPathIDs config.suspiciousPathIDs =
        sortPathIDs defaultSuspiciousPathIDs,
      "suspicious path set must equal path-catalog-v1")]

def configError (config : Config) : Option String :=
  ((configChecks config).find? fun check => !check.1).map Prod.snd

/-- The configuration with its paths in order. -/
def Config.normalized (config : Config) : Config :=
  { config with suspiciousPathIDs := sortPathIDs config.suspiciousPathIDs }

theorem normalized_frozen
    (accepted : configError config = none) :
    config.normalized.Frozen := by
  simp only [configError, Option.map_eq_none_iff, List.find?_eq_none,
    configChecks, List.forall_mem_cons, Bool.not_eq_true, Bool.not_eq_false',
    decide_eq_true_eq, List.not_mem_nil, false_implies, implies_true,
    and_true] at accepted
  obtain ⟨version, catalog, login, pathScan, burst, bruteForce, stuffing, -,
    paths⟩ := accepted
  exact ⟨version, catalog, login, pathScan, burst, bruteForce, stuffing, paths⟩

/-! ## Normalisation -/

/-- `gateway_events[index]` -/
def indexed (label : String) (index : Nat) : String :=
  label ++ "[" ++ toString index ++ "]"

/-- The checks that both sources share. -/
def Observation.checks (event : Observation) : List (Option InputError) :=
  [require (Events.uuidPattern.matchString event.eventID) ".event_id"
      "invalid_uuid",
    require (event.occurredAt ≠ 0) ".occurred_at" "required",
    require (IPv4.canonicalText event.sourceIP) ".source_ip"
      "invalid_canonical_ipv4",
    require (Events.labelPattern.matchString event.serviceLabel)
      ".service_label" "invalid_label",
    require (Events.labelPattern.matchString event.routeLabel) ".route_label"
      "invalid_label"]

def GatewayEvent.checks (config : Config) (event : GatewayEvent) :
    List (Option InputError) :=
  event.toObservation.checks ++
    [require (event.pathCatalogVersion = config.pathCatalogVersion)
        ".path_catalog_version" "unsupported_version",
      require (¬ (event.statusCode < 100 ∨ 599 < event.statusCode))
        ".status_code" "out_of_range"]

def AuthEvent.checks (event : AuthEvent) : List (Option InputError) :=
  event.toObservation.checks ++
    [require (Events.accountHashPattern.matchString event.accountHash)
        ".account_hash" "invalid_digest",
      require (event.gatewayBinding = .verified ∨
          event.gatewayBinding = .pending ∨
          event.gatewayBinding = .untrusted) ".gateway_binding"
        "invalid_enum"]

/-- By time, and by id where the times are equal. -/
def lessObservation (first second : Observation) : Bool :=
  if first.occurredAt = second.occurredAt then first.eventID < second.eventID
  else first.occurredAt < second.occurredAt

def refuseEvent {Event : Type} (label : String)
    (checks : Event → List (Option InputError)) (index : Nat) (value : Event) :
    Option InputError :=
  firstError (indexed label index) (checks value)

def conflictingDuplicate {Event : Type} (label : String) (index : Nat)
    (_ : Event) : InputError :=
  { field := indexed label index ++ ".event_id"
    code := "conflicting_duplicate" }

/-- The normalisation of the events of one source. -/
def normalizeEvents {Event : Type} [DecidableEq Event]
    (observe : Event → Observation) (label : String)
    (checks : Event → List (Option InputError)) (values : List Event) :
    Except InputError (List Event) :=
  (collect (refuseEvent label checks) (fun value => (observe value).eventID)
    (conflictingDuplicate label) values).map
    (sortSlice fun first second =>
      lessObservation (observe first) (observe second))

def normalizeGatewayEvents (config : Config) (values : List GatewayEvent) :
    Except InputError (List GatewayEvent) :=
  normalizeEvents GatewayEvent.toObservation "gateway_events"
    (GatewayEvent.checks config) values

def normalizeAuthEvents (values : List AuthEvent) :
    Except InputError (List AuthEvent) :=
  normalizeEvents AuthEvent.toObservation "auth_events" AuthEvent.checks values

def HealthInterval.checks (interval : HealthInterval) :
    List (Option InputError) :=
  [require (interval.start ≠ 0) ".start" "required",
    require (interval.stop = 0 ∨ ¬ interval.stop < interval.start) ".end"
      "precedes_start"]

/-- By start, then by end with the open intervals last, then by state. -/
def lessInterval (first second : HealthInterval) : Bool :=
  if first.start = second.start then
    if first.stop = second.stop then first.state.text < second.state.text
    else if first.stop = 0 then false
    else if second.stop = 0 then true
    else first.stop < second.stop
  else first.start < second.start

/-- The first interval that is refused, from the given index on. -/
def intervalError (label : String) : Nat → List HealthInterval →
    Option InputError
  | _, [] => none
  | index, interval :: rest =>
      (firstError (indexed (label ++ ".intervals") index) interval.checks).or
        (intervalError label (index + 1) rest)

def normalizeHealth (label : String) (value : SourceHealth)
    (expected : SourceKind) : Except InputError SourceHealth :=
  if value.source ≠ expected then
    .error { field := label ++ ".source", code := "invalid_constant" }
  else if value.coverageStart = 0 ∨ value.coverageEnd = 0 then
    .error { field := label ++ ".coverage", code := "required" }
  else if value.coverageEnd < value.coverageStart then
    .error { field := label ++ ".coverage_end", code := "precedes_start" }
  else match intervalError label 0 value.intervals with
  | some error => .error error
  | none => .ok { value with
      intervals := sortSlice lessInterval value.intervals }

def normalizeInput (config : Config) (input : EvaluationInput) :
    Except InputError EvaluationInput := do
  if input.now = 0 then
    throw { field := "now", code := "required" }
  let gatewayEvents ← normalizeGatewayEvents config input.gatewayEvents
  let authEvents ← normalizeAuthEvents input.authEvents
  let gatewayHealth ← normalizeHealth "gateway_health" input.gatewayHealth
    .gateway
  let authHealth ← normalizeHealth "auth_health" input.authHealth .auth
  return { now := input.now, gatewayEvents, authEvents, gatewayHealth,
           authHealth }

/-! ## What a normalised input is -/

/-- The place of an event in its list. -/
def Observation.rank (event : Observation) : Int ×ₗ Bytes :=
  toLex (event.occurredAt, event.eventID)

theorem compares_lessObservation {Event : Type} (observe : Event → Observation) :
    Compares (fun first second =>
        lessObservation (observe first) (observe second))
      (fun event => (observe event).rank) := by
  intro first second
  simp only [lessObservation, Observation.rank, Prod.Lex.toLex_lt_toLex]
  split
  next same => simp [same]
  next different => simp [different]

/-- Events that pass their checks and agree on what an id names. -/
structure Consistent {Event : Type} (observe : Event → Observation)
    (checks : Event → List (Option InputError)) (values : List Event) :
    Prop where
  valid : ∀ value ∈ values, ∀ check ∈ checks value, check = none
  agree : ∀ first ∈ values, ∀ second ∈ values,
    (observe first).eventID = (observe second).eventID → first = second

/-- The events of `values`, each once and in order. -/
structure Arranged {Event : Type} (observe : Event → Observation)
    (values result : List Event) : Prop where
  increasing : Increasing (fun event => (observe event).rank) result
  distinct : (result.map fun event => (observe event).eventID).Nodup
  mem_iff : ∀ value, value ∈ result ↔ value ∈ values

section Events

variable {Event : Type} {observe : Event → Observation}
  {label : String} {checks : Event → List (Option InputError)}
  {values result : List Event}

theorem refuseEvent_eq_none_iff (index : Nat) (value : Event) :
    refuseEvent label checks index value = none ↔
      ∀ check ∈ checks value, check = none :=
  firstError_eq_none_iff

theorem normalizeEvents_ok
    [DecidableEq Event]
    (normal : normalizeEvents observe label checks values = .ok result) :
    Consistent observe checks values ∧ Arranged observe values result := by
  obtain ⟨⟨valid, agree⟩, increasing, distinct, members⟩ := collect_sorted
    refuseEvent_eq_none_iff (compares_lessObservation observe)
    (fun place => (ofLex place).2) (fun _ => rfl) normal
  exact ⟨⟨valid, agree⟩, increasing, distinct, members⟩

theorem exists_normalizeEvents
    [DecidableEq Event] (label : String)
    (consistent : Consistent observe checks values) :
    ∃ result, normalizeEvents observe label checks values = .ok result := by
  obtain ⟨kept, collected⟩ : ∃ kept, collect (refuseEvent label checks)
      (fun value => (observe value).eventID) (conflictingDuplicate label)
      values = .ok kept :=
    (exists_collect_iff refuseEvent_eq_none_iff).mpr
      ⟨consistent.valid, consistent.agree⟩
  unfold normalizeEvents
  rw [collected]
  exact ⟨_, rfl⟩

end Events

structure SourceHealth.Admissible (health : SourceHealth)
    (expected : SourceKind) : Prop where
  source : health.source = expected
  covered : health.coverageStart ≠ 0 ∧ health.coverageEnd ≠ 0
  ordered : health.coverageStart ≤ health.coverageEnd
  intervals : ∀ interval ∈ health.intervals, interval.start ≠ 0 ∧
    (interval.stop = 0 ∨ interval.start ≤ interval.stop)

theorem intervalError_eq_none_iff
    {index : Nat} {intervals : List HealthInterval} :
    intervalError label index intervals = none ↔
      ∀ interval ∈ intervals, interval.start ≠ 0 ∧
        (interval.stop = 0 ∨ interval.start ≤ interval.stop) := by
  induction intervals generalizing index with
  | nil => simp [intervalError]
  | cons interval rest ih =>
      rw [intervalError, Option.or_eq_none_iff, ih, List.forall_mem_cons,
        firstError_eq_none_iff]
      simp [HealthInterval.checks]

/-- An accepted health is returned with its intervals in order. -/
theorem normalizeHealth_eq_ok_iff
    {health result : SourceHealth} {expected : SourceKind} :
    normalizeHealth label health expected = .ok result ↔
      health.Admissible expected ∧
        result = { health with
          intervals := sortSlice lessInterval health.intervals } := by
  unfold normalizeHealth
  constructor
  · intro normal
    split at normal
    · cases normal
    next source =>
      split at normal
      · cases normal
      next covered =>
        split at normal
        · cases normal
        next ordered =>
          split at normal
          · cases normal
          next passed =>
            cases normal
            exact ⟨⟨not_not.mp source, not_or.mp covered,
              Int.not_lt.mp ordered, intervalError_eq_none_iff.mp passed⟩,
              rfl⟩
  · rintro ⟨⟨source, covered, ordered, intervals⟩, rfl⟩
    rw [if_neg (not_not.mpr source), if_neg (not_or.mpr covered),
      if_neg (Int.not_lt.mpr ordered), intervalError_eq_none_iff.mpr intervals]

/-- What the detector asks of its input: a property of the sets of events and
of intervals. -/
structure EvaluationInput.Admissible (config : Config)
    (input : EvaluationInput) : Prop where
  now : input.now ≠ 0
  gatewayEvents : Consistent GatewayEvent.toObservation
    (GatewayEvent.checks config) input.gatewayEvents
  authEvents : Consistent AuthEvent.toObservation AuthEvent.checks
    input.authEvents
  gatewayHealth : input.gatewayHealth.Admissible .gateway
  authHealth : input.authHealth.Admissible .auth

/-- What a normalisation returns. -/
structure Normalized (input normal : EvaluationInput) : Prop where
  now : normal.now = input.now
  gatewayEvents : Arranged GatewayEvent.toObservation input.gatewayEvents
    normal.gatewayEvents
  authEvents : Arranged AuthEvent.toObservation input.authEvents
    normal.authEvents
  gatewayHealth : normal.gatewayHealth = { input.gatewayHealth with
    intervals := sortSlice lessInterval input.gatewayHealth.intervals }
  authHealth : normal.authHealth = { input.authHealth with
    intervals := sortSlice lessInterval input.authHealth.intervals }

theorem normalizeInput_ok
    {input normal : EvaluationInput}
    (accepted : normalizeInput config input = .ok normal) :
    input.Admissible config ∧ Normalized input normal := by
  unfold normalizeInput at accepted
  by_cases zero : input.now = 0
  · rw [if_pos zero] at accepted
    cases accepted
  rw [if_neg zero] at accepted
  cases gateway : normalizeGatewayEvents config input.gatewayEvents with
  | error =>
      rw [gateway] at accepted
      cases accepted
  | ok =>
  cases auth : normalizeAuthEvents input.authEvents with
  | error =>
      rw [gateway, auth] at accepted
      cases accepted
  | ok =>
  cases first : normalizeHealth "gateway_health" input.gatewayHealth
      .gateway with
  | error failure =>
      rw [gateway, auth, first] at accepted
      cases accepted
  | ok gatewayHealth =>
  cases second : normalizeHealth "auth_health" input.authHealth .auth with
  | error =>
      rw [gateway, auth, first, second] at accepted
      cases accepted
  | ok =>
  rw [gateway, auth, first, second] at accepted
  cases accepted
  obtain ⟨gatewayConsistent, gatewayArranged⟩ := normalizeEvents_ok gateway
  obtain ⟨authConsistent, authArranged⟩ := normalizeEvents_ok auth
  obtain ⟨gatewayAdmissible, gatewaySame⟩ :=
    normalizeHealth_eq_ok_iff.mp first
  obtain ⟨authAdmissible, authSame⟩ := normalizeHealth_eq_ok_iff.mp second
  exact ⟨⟨zero, gatewayConsistent, authConsistent, gatewayAdmissible,
    authAdmissible⟩, rfl, gatewayArranged, authArranged, gatewaySame, authSame⟩

theorem exists_normalizeInput
    {input : EvaluationInput}
    (admissible : input.Admissible config) :
    ∃ normal, normalizeInput config input = .ok normal := by
  obtain ⟨now, gateway, auth, gatewayHealth, authHealth⟩ := admissible
  obtain ⟨gatewayEvents, gateway⟩ :=
    exists_normalizeEvents "gateway_events" gateway
  obtain ⟨authEvents, auth⟩ := exists_normalizeEvents "auth_events" auth
  unfold normalizeInput normalizeGatewayEvents normalizeAuthEvents
  rw [if_neg now, gateway, auth,
    normalizeHealth_eq_ok_iff.mpr ⟨gatewayHealth, rfl⟩,
    normalizeHealth_eq_ok_iff.mpr ⟨authHealth, rfl⟩]
  exact ⟨_, rfl⟩

end SentinelFlow.Detection
