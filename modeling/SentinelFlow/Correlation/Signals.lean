import SentinelFlow.Detection.Detector

/-!
# The correlator's signals

Package `correlation` checks every signal it is given on its own account, keeps
one signal for each id and sorts them by source, window and id.
-/

namespace SentinelFlow.Correlation

open GoLib Detection

inductive ErrorCode where
  | invalidInput
  | conflictingSignal
  | staleRevision
  | idempotencyConflict
  | invalidTransition
  | retryNotAllowed
  | idleDeadlineNotReached
  | timeRegression
deriving DecidableEq, Repr

structure Error where
  code : ErrorCode
  field : Bytes
deriving DecidableEq, Repr

/-! ## One signal -/

def metricsReproduceRule (rule : RuleID) (metrics : Metrics) : Bool :=
  match rule with
  | .pathScan => pathScanThreshold ≤ metrics.eventCount ∧
      metrics.distinctSuspiciousPathCount = pathScanThreshold ∧
      metrics.distinctAccountCount = 0
  | .requestBurst => requestBurstThreshold ≤ metrics.eventCount ∧
      metrics.distinctAccountCount = 0 ∧
      metrics.distinctSuspiciousPathCount = 0
  | .loginBruteForce => loginBruteForceThreshold ≤ metrics.eventCount ∧
      metrics.distinctAccountCount = 0 ∧
      metrics.distinctSuspiciousPathCount = 0
  | .credentialStuffing =>
      credentialStuffingEventThreshold ≤ metrics.eventCount ∧
      credentialStuffingAccountThreshold ≤ metrics.distinctAccountCount ∧
      metrics.distinctSuspiciousPathCount = 0

def validRuleClassification (rule : RuleID) (classification : Classification) :
    Bool :=
  match rule with
  | .pathScan => classification = .pathScan
  | .requestBurst => classification = .requestBurst
  | .loginBruteForce => classification = .loginBruteForce
  | .credentialStuffing => classification = .credentialStuffing

/-- One check of a signal; `suffix` names the field in the error. -/
def checkField (holds : Bool) (suffix : String) : Option String :=
  if holds then none else some suffix

@[simp] theorem checkField_eq_none_iff {holds : Bool} {suffix : String} :
    checkField holds suffix = none ↔ holds = true := by
  unfold checkField
  split <;> simp_all

/-- The loop over the evidence ids, after the id that came before. -/
def checkEvidenceIDs : Option Bytes → List Bytes → Option String
  | _, [] => none
  | previous, eventID :: rest =>
      if ¬ Events.uuidPattern.matchString eventID then some ".evidence_ids"
      else if previous.any (eventID ≤ ·) then some ".evidence_ids_order"
      else checkEvidenceIDs (some eventID) rest

def signalChecks (signal : Signal) : List (Option String) :=
  [checkField (Events.uuidPattern.matchString signal.signalID) ".signal_id",
    checkField (validRuleClassification signal.ruleID signal.classification)
      ".rule_classification",
    checkField (versionPattern.matchString signal.configurationVersion)
      ".configuration_version",
    checkField (digestPattern.matchString signal.configurationDigest)
      ".configuration_digest",
    checkField (IPv4.canonicalText signal.sourceIP) ".source_ip",
    checkField (Events.labelPattern.matchString signal.serviceLabel)
      ".service_label",
    checkField (¬ (signal.windowStart = 0 ∨ signal.windowEnd = 0 ∨
      signal.windowEnd < signal.windowStart)) ".window",
    checkField (¬ (signal.metrics.eventCount < 1 ∨
      1000000 < signal.metrics.eventCount ∨
      1000000 < signal.metrics.distinctAccountCount ∨
      8 < signal.metrics.distinctSuspiciousPathCount)) ".metrics",
    checkField (metricsReproduceRule signal.ruleID signal.metrics)
      ".rule_metrics",
    checkField (signal.sourceHealthStatus = .complete) ".source_health_status",
    checkField (¬ (signal.evidenceIDs.length ≠ signal.metrics.eventCount ∨
      signal.evidenceIDs.length = 0)) ".evidence_ids",
    checkEvidenceIDs none signal.evidenceIDs,
    checkField (digestPattern.matchString signal.evidenceDigest ∧
      digestPattern.matchString signal.digest) ".digest"]

/-- The first check that fails, or nothing. -/
def validateSignal (signal : Signal) (field : Bytes) : Option Error :=
  ((signalChecks signal).findSome? id).map fun suffix =>
    { code := .invalidInput, field := field ++ ascii suffix }

/-- What a signal has to be. -/
structure ValidSignal (signal : Signal) : Prop where
  signalID : Events.uuidPattern.matchString signal.signalID = true
  classification :
    validRuleClassification signal.ruleID signal.classification = true
  version : versionPattern.matchString signal.configurationVersion = true
  configuration : digestPattern.matchString signal.configurationDigest = true
  sourceIP : IPv4.canonicalText signal.sourceIP = true
  serviceLabel : Events.labelPattern.matchString signal.serviceLabel = true
  started : signal.windowStart ≠ 0
  ended : signal.windowEnd ≠ 0
  ordered : signal.windowStart ≤ signal.windowEnd
  events : 1 ≤ signal.metrics.eventCount ∧
    signal.metrics.eventCount ≤ 1000000
  accounts : signal.metrics.distinctAccountCount ≤ 1000000
  paths : signal.metrics.distinctSuspiciousPathCount ≤ 8
  reproduced : metricsReproduceRule signal.ruleID signal.metrics = true
  complete : signal.sourceHealthStatus = .complete
  counted : signal.evidenceIDs.length = signal.metrics.eventCount
  named : ∀ eventID ∈ signal.evidenceIDs,
    Events.uuidPattern.matchString eventID = true
  increasing : Increasing id signal.evidenceIDs
  digests : digestPattern.matchString signal.evidenceDigest = true ∧
    digestPattern.matchString signal.digest = true

theorem checkEvidenceIDs_eq_none_iff
    {previous : Option Bytes} {ids : List Bytes} :
    checkEvidenceIDs previous ids = none ↔
      (∀ eventID ∈ ids, Events.uuidPattern.matchString eventID = true) ∧
        Increasing id (previous.toList ++ ids) := by
  induction ids generalizing previous with
  | nil => cases previous <;> simp [checkEvidenceIDs, Increasing]
  | cons eventID rest ih =>
      rw [checkEvidenceIDs]
      by_cases known : Events.uuidPattern.matchString eventID = true
      · rw [if_neg (not_not.mpr known)]
        have later : checkEvidenceIDs (some eventID) rest = none ↔
            (∀ other ∈ rest, Events.uuidPattern.matchString other = true) ∧
              Increasing id (eventID :: rest) := ih
        cases previous with
        | none =>
            rw [if_neg (by simp), later, List.forall_mem_cons]
            simp [known]
        | some last =>
            by_cases above : eventID ≤ last
            · rw [if_pos (by simpa using above)]
              simp only [reduceCtorEq, false_iff, not_and, Increasing]
              intro _ increasing
              have below := (List.pairwise_cons.mp increasing).1 eventID
                List.mem_cons_self
              exact absurd below (not_lt.mpr above)
            · rw [if_neg (by simpa using above), later, List.forall_mem_cons]
              have below : last < eventID := not_le.mp above
              constructor
              · rintro ⟨uuids, increasing⟩
                refine ⟨⟨known, uuids⟩, List.pairwise_cons.mpr
                  ⟨List.forall_mem_cons.mpr ⟨below, ?_⟩, increasing⟩⟩
                intro other member
                exact lt_trans below
                  ((List.pairwise_cons.mp increasing).1 other member)
              · rintro ⟨⟨-, uuids⟩, increasing⟩
                exact ⟨uuids, (List.pairwise_cons.mp increasing).2⟩
      · rw [if_pos known, List.forall_mem_cons]
        simp [known]

theorem validateSignal_eq_none_iff {signal : Signal} {field : Bytes} :
    validateSignal signal field = none ↔ ValidSignal signal := by
  simp only [validateSignal, Option.map_eq_none_iff, List.findSome?_eq_none_iff,
    id_eq, signalChecks, List.forall_mem_cons, checkField_eq_none_iff,
    decide_eq_true_eq, not_or, not_lt, ne_eq, not_not,
    checkEvidenceIDs_eq_none_iff, Option.toList_none, List.nil_append,
    List.not_mem_nil, false_implies, implies_true, and_true]
  constructor
  · rintro ⟨signalID, classification, version, configuration, sourceIP,
      serviceLabel, ⟨started, ended, ordered⟩, ⟨least, most, accounts, paths⟩,
      reproduced, complete, ⟨counted, -⟩, ⟨named, increasing⟩, digests⟩
    exact ⟨signalID, classification, version, configuration, sourceIP,
      serviceLabel, started, ended, ordered, ⟨least, most⟩, accounts, paths,
      reproduced, complete, counted, named, increasing, digests⟩
  · intro valid
    have some_event := valid.events.1
    have counted := valid.counted
    exact ⟨valid.signalID, valid.classification, valid.version,
      valid.configuration, valid.sourceIP, valid.serviceLabel,
      ⟨valid.started, valid.ended, valid.ordered⟩,
      ⟨valid.events.1, valid.events.2, valid.accounts, valid.paths⟩,
      valid.reproduced, valid.complete, ⟨counted, by omega⟩,
      ⟨valid.named, valid.increasing⟩, valid.digests⟩

/-! ## Lists of signals -/

def lessSignal (first second : Signal) : Bool :=
  if first.sourceIP ≠ second.sourceIP then first.sourceIP < second.sourceIP
  else if first.windowStart ≠ second.windowStart then
    first.windowStart < second.windowStart
  else if first.windowEnd ≠ second.windowEnd then
    first.windowEnd < second.windowEnd
  else first.signalID < second.signalID

def sortSignals (signals : List Signal) : List Signal :=
  sortSlice lessSignal signals

/-- `signals[index]` -/
def signalField (index : Nat) : Bytes :=
  ascii "signals[" ++ formatUint index ++ ascii "]"

def refuseSignal (index : Nat) (signal : Signal) : Option Error :=
  validateSignal signal (signalField index)

theorem refuseSignal_eq_none_iff (index : Nat) (signal : Signal) :
    refuseSignal index signal = none ↔ ValidSignal signal :=
  validateSignal_eq_none_iff

def conflictingSignal (_ : Nat) (signal : Signal) : Error :=
  { code := .conflictingSignal, field := signal.signalID }

/-- One signal for each id, in order. -/
def normalizeSignals (signals : List Signal) : Except Error (List Signal) :=
  (collect refuseSignal (·.signalID) conflictingSignal signals).map sortSignals

/-- The place of a signal in a sorted list. -/
def rank (signal : Signal) : Bytes ×ₗ Int ×ₗ Int ×ₗ Bytes :=
  toLex (signal.sourceIP, toLex (signal.windowStart,
    toLex (signal.windowEnd, signal.signalID)))

theorem compares_lessSignal : Compares lessSignal rank := by
  intro first second
  simp only [lessSignal, rank, Prod.Lex.toLex_lt_toLex]
  split
  next different => simp [different]
  next sameSource =>
    split
    next different => simp_all
    next sameStart =>
      split
      next different => simp_all
      next sameEnd => simp_all

/-- Signals that pass their checks and agree on what an id names. -/
structure Consistent (signals : List Signal) : Prop where
  valid : ∀ signal ∈ signals, ValidSignal signal
  agree : ∀ first ∈ signals, ∀ second ∈ signals,
    first.signalID = second.signalID → first = second

/-- The signals of a list, each once and in order. -/
structure Arranged (signals values : List Signal) : Prop where
  increasing : Increasing rank values
  distinct : (values.map (·.signalID)).Nodup
  mem_iff : ∀ signal, signal ∈ values ↔ signal ∈ signals

theorem normalizeSignals_ok
    {signals values : List Signal}
    (normal : normalizeSignals signals = .ok values) :
    Consistent signals ∧ Arranged signals values := by
  obtain ⟨⟨valid, agree⟩, increasing, distinct, members⟩ := collect_sorted
    refuseSignal_eq_none_iff compares_lessSignal
    (fun place => (ofLex (ofLex (ofLex place).2).2).2) (fun _ => rfl) normal
  exact ⟨⟨valid, agree⟩, increasing, distinct, members⟩

/-- The normalised list depends on the set of signals only. -/
theorem Arranged.ext
    {signals others values second : List Signal}
    (left : Arranged signals values) (right : Arranged others second)
    (same : ∀ signal, signal ∈ signals ↔ signal ∈ others) :
    values = second := by
  apply left.increasing.ext right.increasing
  intro signal
  rw [left.mem_iff, right.mem_iff, same]

theorem Consistent.subset
    {signals others : List Signal} (consistent : Consistent signals)
    (inside : others ⊆ signals) : Consistent others :=
  ⟨fun signal member => consistent.valid signal (inside member),
    fun first left second right =>
      consistent.agree first (inside left) second (inside right)⟩

/-- Every consistent list is accepted. -/
theorem exists_normalizeSignals
    {signals : List Signal} (consistent : Consistent signals) :
    ∃ values, normalizeSignals signals = .ok values ∧
      Arranged signals values := by
  obtain ⟨kept, collected⟩ : ∃ kept, collect refuseSignal (·.signalID)
      conflictingSignal signals = .ok kept :=
    (exists_collect_iff refuseSignal_eq_none_iff).mpr
      ⟨consistent.valid, consistent.agree⟩
  have normal : normalizeSignals signals = .ok (sortSignals kept) := by
    unfold normalizeSignals
    rw [collected]
    rfl
  exact ⟨_, normal, (normalizeSignals_ok normal).2⟩

end SentinelFlow.Correlation
