import SentinelFlow.Detection.Input
import SentinelFlow.GoLib.Lines

/-!
# The detector

The four rules of package `detection`.  A rule groups the events of its source
in an inclusive window, counts the qualifying events of each group and turns a
count that reaches the threshold into a signal, unless the health of a source
or the trust in an event says that the count cannot be relied on.
-/

namespace SentinelFlow.Detection

open GoLib

inductive RuleID where
  | pathScan
  | requestBurst
  | loginBruteForce
  | credentialStuffing
deriving DecidableEq, Repr

def RuleID.text : RuleID → Bytes
  | .pathScan => ascii "path_scan.v1"
  | .requestBurst => ascii "request_burst.v1"
  | .loginBruteForce => ascii "login_bruteforce.v1"
  | .credentialStuffing => ascii "credential_stuffing.v1"

inductive Classification where
  | pathScan
  | requestBurst
  | loginBruteForce
  | credentialStuffing
deriving DecidableEq, Repr

def Classification.text : Classification → Bytes
  | .pathScan => ascii "path_scan"
  | .requestBurst => ascii "request_burst"
  | .loginBruteForce => ascii "brute_force"
  | .credentialStuffing => ascii "credential_stuffing"

inductive SourceHealthStatus where
  | complete
  | incomplete
deriving DecidableEq, Repr

inductive Decision where
  | matched
  | noMatch
  | incomplete
deriving DecidableEq, Repr

inductive DecisionReason where
  | thresholdMet
  | belowThreshold
  | sourceHealthIncomplete
  | timestampUntrusted
  | bindingNotVerified
deriving DecidableEq, Repr

structure Metrics where
  eventCount : Nat := 0
  distinctSuspiciousPathCount : Nat := 0
  distinctAccountCount : Nat := 0
deriving DecidableEq, Repr

structure Signal where
  signalID : Bytes
  ruleID : RuleID
  classification : Classification
  configurationVersion : Bytes
  configurationDigest : Bytes
  sourceIP : Bytes
  serviceLabel : Bytes
  windowStart : Int
  windowEnd : Int
  metrics : Metrics
  evidenceIDs : List Bytes
  evidenceDigest : Bytes
  digest : Bytes
  sourceHealthStatus : SourceHealthStatus
deriving DecidableEq, Repr

structure RuleEvaluation where
  ruleID : RuleID
  group : GroupKey
  windowStart : Int
  windowEnd : Int
  threshold : Metrics
  observed : Metrics
  decision : Decision
  reason : DecisionReason
  sourceHealthStatus : SourceHealthStatus
  enforcementSupporting : Bool
  signal : Option Signal
deriving DecidableEq, Repr

structure Output where
  configurationVersion : Bytes
  configurationDigest : Bytes
  pathScan : List RuleEvaluation
  requestBurst : List RuleEvaluation
  loginBruteForce : List RuleEvaluation
  credentialStuffing : List RuleEvaluation
deriving DecidableEq, Repr

def Output.evaluations (output : Output) : RuleID → List RuleEvaluation
  | .pathScan => output.pathScan
  | .requestBurst => output.requestBurst
  | .loginBruteForce => output.loginBruteForce
  | .credentialStuffing => output.credentialStuffing

/-! ## Digests -/

def formatInt (value : Int) : Bytes :=
  if value < 0 then 45 :: formatUint value.natAbs else formatUint value.natAbs

def configLines (config : Config) : List Bytes :=
  [ascii "sentinelflow-detector-config-v1", config.version,
    config.pathCatalogVersion, config.loginRouteLabel,
    formatUint config.pathScanThreshold, formatInt config.pathScanWindow,
    formatUint config.requestBurstThreshold,
    formatInt config.requestBurstWindow,
    formatUint config.loginBruteForceThreshold,
    formatInt config.loginBruteForceWindow,
    formatUint config.credentialStuffingEventThreshold,
    formatUint config.credentialStuffingAccountThreshold,
    formatInt config.credentialStuffingWindow] ++
    config.suspiciousPathIDs.map (·.text)

def digestConfig (crypto : Crypto) (config : Config) : Bytes :=
  digestText crypto (writeLines (configLines config))

/-- A detector holds a configuration that has been accepted. -/
structure Detector where
  config : Config
  frozen : config.Frozen

/-- The detector of a configuration.  Its digest is computed here once. -/
def new (config : Config) : Except String Detector :=
  match accepted : configError config with
  | some message => .error message
  | none => .ok ⟨config.normalized, normalized_frozen accepted⟩

/-- `NewDefault`, whose configuration passes its own checks. -/
def newDefault : Detector :=
  ⟨defaultConfig.normalized, normalized_frozen (by decide +kernel)⟩

def Detector.configDigest (detector : Detector) (crypto : Crypto) : Bytes :=
  digestConfig crypto detector.config

/-- A UUID of version 8 from the first half of a digest. -/
def uuidV8FromDigest (sum : Bytes) : Bytes :=
  let bytes := (sum.take 16).modify 6 (fun byte => byte &&& 0x0f ||| 0x80)
    |>.modify 8 (fun byte => byte &&& 0x3f ||| 0x80)
  Hex.encodeToString (bytes.take 4) ++
    45 :: Hex.encodeToString ((bytes.drop 4).take 2) ++
    45 :: Hex.encodeToString ((bytes.drop 6).take 2) ++
    45 :: Hex.encodeToString ((bytes.drop 8).take 2) ++
    45 :: Hex.encodeToString ((bytes.drop 10).take 6)

def digestEvidenceIDs (crypto : Crypto) (values : List Bytes) : Bytes :=
  digestText crypto
    (writeLines (ascii "sentinelflow-evidence-ids-v1" :: sortedUnique values))

section Signals

variable (crypto : Crypto) (detector : Detector)

/-- The lines whose digest identifies a signal. -/
def signalLines (ruleID : RuleID) (classification : Classification)
    (group : GroupKey) (windowStart windowEnd : Int) (metrics : Metrics)
    (evidenceIDs : List Bytes) : List Bytes :=
  [ascii "sentinelflow-deterministic-signal-v1", detector.config.version,
    detector.configDigest crypto, ruleID.text, classification.text,
    group.sourceIP, group.serviceLabel, Time.formatRFC3339Nano windowStart,
    Time.formatRFC3339Nano windowEnd, formatUint metrics.eventCount,
    formatUint metrics.distinctSuspiciousPathCount,
    formatUint metrics.distinctAccountCount,
    digestEvidenceIDs crypto evidenceIDs] ++ evidenceIDs

def buildSignal (ruleID : RuleID) (classification : Classification)
    (group : GroupKey) (windowStart windowEnd : Int) (metrics : Metrics)
    (evidenceIDs : List Bytes) : Signal :=
  let evidenceIDs := sortedUnique evidenceIDs
  let canonical := writeLines (signalLines crypto detector ruleID
    classification group windowStart windowEnd metrics evidenceIDs)
  { signalID := uuidV8FromDigest (crypto.sha256 canonical)
    ruleID
    classification
    configurationVersion := detector.config.version
    configurationDigest := detector.configDigest crypto
    sourceIP := group.sourceIP
    serviceLabel := group.serviceLabel
    windowStart
    windowEnd
    metrics
    evidenceIDs
    evidenceDigest := digestEvidenceIDs crypto evidenceIDs
    digest := digestText crypto canonical
    sourceHealthStatus := .complete }

end Signals

/-! ## Windows and groups -/

def inWindow (start stop : Int) (event : Observation) : Bool :=
  ¬ (event.occurredAt < start ∨ stop < event.occurredAt)

def lessGroupKey (first second : GroupKey) : Bool :=
  if first.sourceIP = second.sourceIP then
    first.serviceLabel < second.serviceLabel
  else first.sourceIP < second.sourceIP

/-- The events between two instants by source and service, in key order. -/
def groupEvents {Event : Type} (observe : Event → Observation)
    (values : List Event) (start stop : Int) : List (GroupKey × List Event) :=
  sortedGroups (fun event => (observe event).group) lessGroupKey
    (values.filter fun event => inWindow start stop (observe event))

def intervalsOverlap (intervalStart intervalEnd windowStart windowEnd : Int) :
    Bool :=
  if windowEnd < intervalStart then false
  else intervalEnd = 0 ∨ ¬ intervalEnd < windowStart

def healthComplete (health : SourceHealth) (start stop : Int) : Bool :=
  if ¬ health.complete ∨ start < health.coverageStart ∨
      health.coverageEnd < stop then false
  else health.intervals.all fun interval =>
    !intervalsOverlap interval.start interval.stop start stop

/-! ## Rules -/

/-- What the loop over the events of a group has seen. -/
structure Tally where
  evidence : List Bytes := []
  distinct : List Bytes := []
  untrusted : Bool := false
  unverified : Bool := false
deriving DecidableEq, Repr

/-- One of the rules, for the events of one source.  A rule without a binding
to check takes every event as verified, and one without a second count leaves
out the tag. -/
structure Rule (Event : Type) where
  ruleID : RuleID
  classification : Classification
  window : Int
  threshold : Metrics
  observe : Event → Observation
  qualifies : Event → Bool
  verified : Event → Bool
  tag : Event → Option Bytes
  observed : Tally → Metrics
  met : Tally → Bool

def insertTag (distinct : List Bytes) (tag : Bytes) : List Bytes :=
  if tag ∈ distinct then distinct else distinct ++ [tag]

section Evaluation

variable {Event : Type} (crypto : Crypto) (detector : Detector)
  (rule : Rule Event)

/-- The body of the loop over a group. -/
def Rule.count (tally : Tally) (event : Event) : Tally :=
  if ¬ rule.qualifies event then tally
  else if (rule.observe event).timestampTrust ≠ .trusted then
    { tally with untrusted := true }
  else if ¬ rule.verified event then { tally with unverified := true }
  else { tally with
    evidence := tally.evidence ++ [(rule.observe event).eventID]
    distinct := (rule.tag event).toList.foldl insertTag tally.distinct }

def Rule.tally (events : List Event) : Tally :=
  events.foldl rule.count {}

/-- `baseEvaluation` completed by `finalizeEvaluation`. -/
def Rule.finalizeEvaluation (group : GroupKey) (start now : Int)
    (healthIsComplete : Bool) (tally : Tally) : RuleEvaluation :=
  let pending : RuleEvaluation :=
    { ruleID := rule.ruleID
      group
      windowStart := start
      windowEnd := now
      threshold := rule.threshold
      observed := rule.observed tally
      decision := .incomplete
      reason := .sourceHealthIncomplete
      sourceHealthStatus :=
        if healthIsComplete then .complete else .incomplete
      enforcementSupporting := false
      signal := none }
  if ¬ healthIsComplete then pending
  else if tally.untrusted then { pending with reason := .timestampUntrusted }
  else if tally.unverified then { pending with reason := .bindingNotVerified }
  else if ¬ rule.met tally then
    { pending with decision := .noMatch, reason := .belowThreshold }
  else { pending with
    decision := .matched
    reason := .thresholdMet
    enforcementSupporting := true
    signal := some (buildSignal crypto detector rule.ruleID
      rule.classification group start now (rule.observed tally)
      tally.evidence) }

/-- A rule over the events of its source at `now`. -/
def Rule.evaluate (complete : Int → Int → Bool) (values : List Event)
    (now : Int) : List RuleEvaluation :=
  let start := now - rule.window
  (groupEvents rule.observe values start now).map fun group =>
    rule.finalizeEvaluation crypto detector group.1 start now
      (complete start now) (rule.tally group.2)

end Evaluation

def pathScanRule (config : Config) : Rule GatewayEvent where
  ruleID := .pathScan
  classification := .pathScan
  window := config.pathScanWindow
  threshold := { distinctSuspiciousPathCount := config.pathScanThreshold }
  observe := GatewayEvent.toObservation
  qualifies event := event.suspiciousPathID ≠ .none
  verified _ := true
  tag event := some event.suspiciousPathID.text
  observed tally :=
    { eventCount := tally.evidence.length
      distinctSuspiciousPathCount := tally.distinct.length }
  met tally := config.pathScanThreshold ≤ tally.distinct.length

def requestBurstRule (config : Config) : Rule GatewayEvent where
  ruleID := .requestBurst
  classification := .requestBurst
  window := config.requestBurstWindow
  threshold := { eventCount := config.requestBurstThreshold }
  observe := GatewayEvent.toObservation
  qualifies _ := true
  verified _ := true
  tag _ := none
  observed tally := { eventCount := tally.evidence.length }
  met tally := config.requestBurstThreshold ≤ tally.evidence.length

def loginBruteForceRule (config : Config) : Rule GatewayEvent where
  ruleID := .loginBruteForce
  classification := .loginBruteForce
  window := config.loginBruteForceWindow
  threshold := { eventCount := config.loginBruteForceThreshold }
  observe := GatewayEvent.toObservation
  qualifies event := event.routeLabel = config.loginRouteLabel ∧
    (event.statusCode = 401 ∨ event.statusCode = 403)
  verified event := event.authenticationMatch = .verified
  tag _ := none
  observed tally := { eventCount := tally.evidence.length }
  met tally := config.loginBruteForceThreshold ≤ tally.evidence.length

def credentialStuffingRule (config : Config) : Rule AuthEvent where
  ruleID := .credentialStuffing
  classification := .credentialStuffing
  window := config.credentialStuffingWindow
  threshold :=
    { eventCount := config.credentialStuffingEventThreshold
      distinctAccountCount := config.credentialStuffingAccountThreshold }
  observe := AuthEvent.toObservation
  qualifies event := event.outcome = .failed
  verified event := event.gatewayBinding = .verified
  tag event := some event.accountHash
  observed tally :=
    { eventCount := tally.evidence.length
      distinctAccountCount := tally.distinct.length }
  met tally :=
    config.credentialStuffingEventThreshold ≤ tally.evidence.length ∧
      config.credentialStuffingAccountThreshold ≤ tally.distinct.length

section Detector

variable (crypto : Crypto) (detector : Detector)

def Detector.evaluatePathScan (input : EvaluationInput) :
    List RuleEvaluation :=
  (pathScanRule detector.config).evaluate crypto detector
    (healthComplete input.gatewayHealth) input.gatewayEvents input.now

def Detector.evaluateRequestBurst (input : EvaluationInput) :
    List RuleEvaluation :=
  (requestBurstRule detector.config).evaluate crypto detector
    (healthComplete input.gatewayHealth) input.gatewayEvents input.now

-- A verified login response needs the coverage of both sources.
def Detector.evaluateLoginBruteForce (input : EvaluationInput) :
    List RuleEvaluation :=
  (loginBruteForceRule detector.config).evaluate crypto detector
    (fun start stop => healthComplete input.gatewayHealth start stop &&
      healthComplete input.authHealth start stop)
    input.gatewayEvents input.now

def Detector.evaluateCredentialStuffing (input : EvaluationInput) :
    List RuleEvaluation :=
  (credentialStuffingRule detector.config).evaluate crypto detector
    (healthComplete input.authHealth) input.authEvents input.now

/-- What the rules make of a normalised input. -/
def Detector.output (input : EvaluationInput) : Output where
  configurationVersion := detector.config.version
  configurationDigest := detector.configDigest crypto
  pathScan := detector.evaluatePathScan crypto input
  requestBurst := detector.evaluateRequestBurst crypto input
  loginBruteForce := detector.evaluateLoginBruteForce crypto input
  credentialStuffing := detector.evaluateCredentialStuffing crypto input

def Detector.evaluate (input : EvaluationInput) : Except InputError Output :=
  (normalizeInput detector.config input).map (detector.output crypto)

end Detector

/-- The signals of an output, in the order of its evaluations. -/
def Output.signals (output : Output) : List Signal :=
  (output.pathScan ++ output.requestBurst ++ output.loginBruteForce ++
    output.credentialStuffing).filterMap (·.signal)

theorem Output.mem_signals_iff {output : Output} {signal : Signal} :
    signal ∈ output.signals ↔ ∃ kind, ∃ evaluation ∈ output.evaluations kind,
      evaluation.signal = some signal := by
  simp only [Output.signals, List.mem_filterMap, List.mem_append]
  constructor
  · rintro ⟨evaluation, ((member | member) | member) | member, emitted⟩
    · exact ⟨.pathScan, evaluation, member, emitted⟩
    · exact ⟨.requestBurst, evaluation, member, emitted⟩
    · exact ⟨.loginBruteForce, evaluation, member, emitted⟩
    · exact ⟨.credentialStuffing, evaluation, member, emitted⟩
  · rintro ⟨kind, evaluation, member, emitted⟩
    refine ⟨evaluation, ?_, emitted⟩
    cases kind <;> simp_all [Output.evaluations]

end SentinelFlow.Detection
