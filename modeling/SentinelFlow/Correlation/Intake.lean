import SentinelFlow.Correlation.Groups
import SentinelFlow.Detection.Specification

/-!
# From the detector to the correlator

Every signal that the detector emits passes the correlator's own checks, apart
from a window that starts at the zero instant, and the digest of a signal
determines it: the lines that are hashed carry every field, and each line its
length.
-/

namespace SentinelFlow.Correlation

open GoLib Detection

/-! ## Identifiers -/

private theorem matches_hex
    {bytes : Bytes} {count : Nat} (length : 2 * bytes.length = count) :
    (Regexp.bracket lowerHexClass count count).Matches
      (Hex.encodeToString bytes) [] := by
  refine ⟨?_, ?_, fun byte member => ?_, rfl⟩
  · rw [Hex.length_encodeToString, length]
  · rw [Hex.length_encodeToString, length]
  · exact Hex.isLowerHex_of_mem_encodeToString member

private theorem matches_seq
    {first second : Regexp} {left right : Bytes}
    (matched : first.Matches left []) (rest : second.Matches right []) :
    (Regexp.seq first second).Matches (left ++ right) [] :=
  ⟨left, right, [], [], rfl, rfl, matched, rest⟩

/-- The identifier that is cut from a digest has the form of a UUID. -/
theorem uuidPattern_uuidV8FromDigest
    {sum : Bytes} (length : sum.length = 32) :
    Events.uuidPattern.matchString (uuidV8FromDigest sum) = true := by
  have hyphen : (Regexp.literal (ascii "-")).Matches [45] [] := ⟨rfl, rfl⟩
  rw [Regexp.matchString_iff]
  unfold uuidV8FromDigest
  simp only [List.append_assoc, List.cons_append]
  refine ⟨[], matches_seq (matches_hex ?_) (matches_seq hyphen
    (matches_seq (matches_hex ?_) (matches_seq hyphen
      (matches_seq (matches_hex ?_) (matches_seq hyphen
        (matches_seq (matches_hex ?_) (matches_seq hyphen
          (matches_hex ?_))))))))⟩ <;> simp [length]

/-! ## Counts -/

section Counts

variable {Event : Type} {rule : Rule Event} {events : List Event}

/-- There are no more tags than events that count. -/
theorem length_distinct_le :
    (rule.tally events).distinct.length ≤
      (rule.tally events).evidence.length := by
  have tallied := rule.tally_tallied events
  have inside : (rule.tally events).distinct ⊆
      (events.filter rule.counts).filterMap rule.tag := by
    intro tag member
    obtain ⟨event, listed, counted, tagged⟩ := (tallied.distinct tag).mp member
    exact List.mem_filterMap.mpr
      ⟨event, List.mem_filter.mpr ⟨listed, counted⟩, tagged⟩
  calc
    (rule.tally events).distinct.length
      ≤ ((events.filter rule.counts).filterMap rule.tag).length :=
        (tallied.unique.subperm inside).length_le
    _ ≤ (events.filter rule.counts).length := List.length_filterMap_le _ _
    _ = (rule.tally events).evidence.length := by
        rw [tallied.evidence, List.length_map]

/-- There are no more events that count than events. -/
theorem length_evidence_le :
    (rule.tally events).evidence.length ≤ events.length := by
  rw [(rule.tally_tallied events).evidence, List.length_map]
  exact List.length_filter_le _ _

theorem length_sortedUnique {values : List Bytes} (distinct : values.Nodup) :
    (sortedUnique values).length = values.length := by
  obtain ⟨increasing, members⟩ := sortedUnique_spec values
  exact ((List.perm_ext_iff_of_nodup increasing.nodup distinct).mpr
    members).length_eq

end Counts

/-! ## Emitted signals -/

/-- A suspicious path that counts is one of the eight. -/
theorem tag_mem_of_counts
    {Event : Type} {rule : Rule Event} {config : Config}
    {input : EvaluationInput} {complete : Int → Int → Bool}
    {given values : List Event}
    (applies : Applies rule .pathScan config input complete given values)
    {event : Event} (member : event ∈ given) (counted : rule.counts event = true)
    {tag : Bytes} (tagged : rule.tag event = some tag) :
    tag ∈ defaultSuspiciousPathIDs.map Events.SuspiciousPathID.text := by
  have sighted : rule.sighting event ∈ input.sightings config .pathScan := by
    rw [← applies.sightings]
    exact List.mem_map_of_mem member
  obtain ⟨source, -, same⟩ := List.mem_map.mp sighted
  have qualifies : rule.qualifies event = true := by
    simp only [Rule.counts, Bool.and_eq_true] at counted
    exact counted.1.1
  have suspicious : source.suspiciousPathID ≠ .none := by
    have shown : (rule.sighting event).qualifies = true := qualifies
    rw [← same] at shown
    exact of_decide_eq_true shown
  have path : source.suspiciousPathID.text = tag := by
    have shown : (rule.sighting event).tag = some tag := tagged
    rw [← same] at shown
    exact Option.some.inj shown
  rw [← path]
  apply List.mem_map_of_mem
  revert suspicious
  cases source.suspiciousPathID <;> decide

/-- The metrics of a match pass the correlator's check of the rule. -/
theorem metricsReproduceRule_of_reached
    {kind : RuleID} {events different : Nat}
    (reached : kind.Reached events different) (fewer : different ≤ events)
    (paths : kind = .pathScan → different ≤ 8) :
    metricsReproduceRule kind (kind.metrics events different) = true := by
  cases kind with
  | pathScan =>
      have enough : 8 ≤ different := reached
      have bounded := paths rfl
      refine decide_eq_true ⟨?_, ?_, rfl⟩
      · exact le_trans enough fewer
      · exact le_antisymm bounded enough
  | requestBurst =>
      have enough : 120 ≤ events := reached
      simpa [metricsReproduceRule, RuleID.metrics, requestBurstThreshold]
        using enough
  | loginBruteForce =>
      have enough : 10 ≤ events := reached
      simpa [metricsReproduceRule, RuleID.metrics, loginBruteForceThreshold]
        using enough
  | credentialStuffing =>
      have enough : 20 ≤ events ∧ 8 ≤ different := reached
      simpa [metricsReproduceRule, RuleID.metrics,
        credentialStuffingEventThreshold, credentialStuffingAccountThreshold]
        using enough

section Metrics

variable {kind : RuleID} {events different : Nat}

theorem metrics_eventCount :
    (kind.metrics events different).eventCount = events := by
  cases kind <;> rfl

theorem metrics_distinctAccountCount_le :
    (kind.metrics events different).distinctAccountCount ≤ different := by
  cases kind <;> simp [RuleID.metrics]

theorem metrics_distinctSuspiciousPathCount_le
    (paths : kind = .pathScan → different ≤ 8) :
    (kind.metrics events different).distinctSuspiciousPathCount ≤ 8 := by
  cases kind <;> simp_all [RuleID.metrics]

end Metrics

section Emitted

variable {crypto : Crypto} {detector : Detector} {input : EvaluationInput}
  {output : Output} {signal : Signal}

/-- The number of events of an input. -/
def eventCount (input : EvaluationInput) : Nat :=
  input.gatewayEvents.length + input.authEvents.length

theorem length_sightings_le (config : Config) (kind : RuleID) :
    (input.sightings config kind).length ≤ eventCount input := by
  unfold eventCount
  cases kind <;> simp [EvaluationInput.sightings]

/-- The checks of an event, as far as a signal repeats them. -/
theorem observation_valid
    {event : Observation} (valid : ∀ check ∈ event.checks, check = none) :
    Events.uuidPattern.matchString event.eventID = true ∧
      IPv4.canonicalText event.sourceIP = true ∧
      Events.labelPattern.matchString event.serviceLabel = true := by
  simp only [Observation.checks, List.forall_mem_cons, require_eq_none_iff]
    at valid
  exact ⟨valid.1, valid.2.2.1, valid.2.2.2.1⟩

section Applied

variable {Event : Type} {rule : Rule Event} {kind : RuleID} {config : Config}
  {complete : Int → Int → Bool} {given values : List Event}
  (applies : Applies rule kind config input complete given values)
include applies

theorem members_given
    {now : Int} {group : GroupKey} {event : Event} (present : event ∈ rule.members now values group) :
    event ∈ given ∧ (rule.observe event).group = group := by
  obtain ⟨listed, -, grouped⟩ := Rule.mem_members.mp present
  exact ⟨(applies.arranged.mem_iff event).mp listed, grouped⟩

variable (now : Int) (group : GroupKey)

theorem length_evidence_le_eventCount :
    (rule.tally (rule.members now values group)).evidence.length ≤
      eventCount input := by
  have inside : rule.members now values group ⊆ given := fun event present =>
    (members_given applies present).1
  have increasing := Rule.members_increasing applies.arranged now group
  calc
    (rule.tally (rule.members now values group)).evidence.length
      ≤ (rule.members now values group).length := length_evidence_le
    _ ≤ given.length := (increasing.nodup.subperm inside).length_le
    _ = (input.sightings config kind).length := by
        rw [← applies.sightings, List.length_map]
    _ ≤ eventCount input := length_sightings_le config kind

/-- The ids that a signal names are ids of events. -/
theorem uuid_of_mem_evidence
    {eventID : Bytes} (member : eventID ∈
      (rule.tally (rule.members now values group)).evidence) :
    Events.uuidPattern.matchString eventID = true := by
  rw [(rule.tally_tallied _).evidence] at member
  obtain ⟨event, counted, rfl⟩ := List.mem_map.mp member
  obtain ⟨eventGiven, -⟩ :=
    members_given applies (List.mem_filter.mp counted).1
  exact (observation_valid (applies.valid event eventGiven)).1

theorem length_distinct_le_eight
    (pathScan : kind = .pathScan) :
    (rule.tally (rule.members now values group)).distinct.length ≤ 8 := by
  subst pathScan
  have tallied := rule.tally_tallied (rule.members now values group)
  have inside : (rule.tally (rule.members now values group)).distinct ⊆
      defaultSuspiciousPathIDs.map Events.SuspiciousPathID.text := by
    intro tag member
    obtain ⟨event, present, counted, tagged⟩ := (tallied.distinct tag).mp member
    exact tag_mem_of_counts applies (members_given applies present).1 counted
      tagged
  exact (tallied.unique.subperm inside).length_le

end Applied

/-- An emitted signal passes every check of the correlator. -/
theorem emitted_valid
    (accepted : detector.evaluate crypto input = .ok output)
    (small : eventCount input ≤ 1000000) (listed : signal ∈ output.signals)
    (started : signal.windowStart ≠ 0) : ValidSignal signal := by
  obtain ⟨kind, evaluation, member, emitted⟩ := Output.mem_signals_iff.mp listed
  obtain ⟨normal, admissible, same, rfl⟩ := Detector.evaluate_ok accepted
  obtain ⟨Event, rule, complete, given, values, applies, evaluations⟩ :=
    detector.exists_applies crypto admissible same kind
  rw [evaluations] at member
  obtain ⟨group, -, -, -, met, rfl⟩ := Rule.emitted member emitted
  have realizes := applies.realizes
  have distinct := rule.evidence_nodup applies.arranged input.now group
  have fewer := @length_distinct_le Event rule
    (rule.members input.now values group)
  have bounded := le_trans
    (length_evidence_le_eventCount applies input.now group) small
  have paths := length_distinct_le_eight applies input.now group
  have reached := (realizes.met _).mp met
  have sourced : IPv4.canonicalText group.sourceIP = true ∧
      Events.labelPattern.matchString group.serviceLabel = true := by
    obtain ⟨event, present, -⟩ := met_exists_counted realizes met
    obtain ⟨eventGiven, rfl⟩ := members_given applies present
    exact (observation_valid (applies.valid event eventGiven)).2
  have positive : 1 ≤ (rule.tally
      (rule.members input.now values group)).evidence.length := by
    obtain ⟨event, present, counted⟩ := met_exists_counted realizes met
    rw [(rule.tally_tallied _).evidence, List.length_map]
    exact List.length_pos_of_mem (List.mem_filter.mpr ⟨present, counted⟩)
  have uuids : ∀ eventID ∈ (rule.tally
      (rule.members input.now values group)).evidence,
      Events.uuidPattern.matchString eventID = true := fun eventID named =>
    uuid_of_mem_evidence applies input.now group named
  generalize rule.tally (rule.members input.now values group) = tally at *
  have counted : (sortedUnique tally.evidence).length =
      tally.evidence.length := length_sortedUnique distinct
  have observed := realizes.observed tally
  have metrics := metricsReproduceRule_of_reached reached fewer paths
  have length := crypto.length_sha256
  refine ⟨?_, ?_, detector.frozen.version, digestPattern_digestText _ _,
    sourced.1, sourced.2, started, admissible.now, ?_, ?_, ?_, ?_, ?_, rfl, ?_,
    ?_, (sortedUnique_spec _).1, digestPattern_digestText _ _,
    digestPattern_digestText _ _⟩
  · exact uuidPattern_uuidV8FromDigest (length _)
  · change validRuleClassification rule.ruleID rule.classification = true
    rw [realizes.ruleID, realizes.classification]
    cases kind <;> rfl
  · change input.now - rule.window ≤ input.now
    have wide := kind.window_pos
    rw [realizes.window]
    omega
  · change 1 ≤ (rule.observed tally).eventCount ∧
      (rule.observed tally).eventCount ≤ 1000000
    rw [observed, metrics_eventCount]
    exact ⟨positive, bounded⟩
  · change (rule.observed tally).distinctAccountCount ≤ 1000000
    rw [observed]
    exact le_trans metrics_distinctAccountCount_le (le_trans fewer bounded)
  · change (rule.observed tally).distinctSuspiciousPathCount ≤ 8
    rw [observed]
    exact metrics_distinctSuspiciousPathCount_le paths
  · change metricsReproduceRule rule.ruleID (rule.observed tally) = true
    rw [realizes.ruleID, observed]
    exact metrics
  · change (sortedUnique tally.evidence).length =
      (rule.observed tally).eventCount
    rw [observed, metrics_eventCount, counted]
  · intro eventID named
    exact uuids eventID (((sortedUnique_spec _).2 eventID).mp named)

/-! ## The digest of a signal -/

/-- The lines that the digest of a signal is taken of. -/
def canonicalLines (signal : Signal) : List Bytes :=
  [ascii "sentinelflow-deterministic-signal-v1", signal.configurationVersion,
    signal.configurationDigest, signal.ruleID.text, signal.classification.text,
    signal.sourceIP, signal.serviceLabel,
    Time.formatRFC3339Nano signal.windowStart,
    Time.formatRFC3339Nano signal.windowEnd,
    formatUint signal.metrics.eventCount,
    formatUint signal.metrics.distinctSuspiciousPathCount,
    formatUint signal.metrics.distinctAccountCount, signal.evidenceDigest] ++
    signal.evidenceIDs

theorem ruleID_text_injective : Function.Injective RuleID.text := by
  intro first second same
  revert same
  cases first <;> cases second <;> decide

theorem classification_text_injective :
    Function.Injective Classification.text := by
  intro first second same
  revert same
  cases first <;> cases second <;> decide

/-- What an emitted signal has besides its lines is derived from them. -/
theorem emitted_derived
    (accepted : detector.evaluate crypto input = .ok output)
    (listed : signal ∈ output.signals) :
    signal.digest = digestText crypto (writeLines (canonicalLines signal)) ∧
      signal.signalID =
        uuidV8FromDigest (crypto.sha256 (writeLines (canonicalLines signal))) ∧
      signal.sourceHealthStatus = .complete := by
  obtain ⟨kind, evaluation, member, emitted⟩ := Output.mem_signals_iff.mp listed
  obtain ⟨normal, admissible, same, rfl⟩ := Detector.evaluate_ok accepted
  obtain ⟨Event, rule, complete, given, values, -, evaluations⟩ :=
    detector.exists_applies crypto admissible same kind
  rw [evaluations] at member
  obtain ⟨group, -, -, -, -, rfl⟩ := Rule.emitted member emitted
  exact ⟨rfl, rfl, rfl⟩

/-- The lines of a signal determine every field that is written. -/
theorem eq_of_canonicalLines_eq
    {first second : Signal}
    (lines : canonicalLines first = canonicalLines second)
    (identity : first.signalID = second.signalID)
    (digest : first.digest = second.digest)
    (health : first.sourceHealthStatus = second.sourceHealthStatus) :
    first = second := by
  simp only [canonicalLines, List.cons_append, List.nil_append,
    List.cons.injEq, true_and] at lines
  obtain ⟨version, configuration, rule, classification, source, service, start,
    stop, events, paths, accounts, evidence, ids⟩ := lines
  obtain ⟨signalID, ruleID, class_, version', configuration', sourceIP,
    serviceLabel, windowStart, windowEnd, ⟨eventCount, pathCount, accountCount⟩,
    evidenceIDs, evidenceDigest, digest', health'⟩ := first
  obtain ⟨_, _, _, _, _, _, _, _, _, ⟨_, _, _⟩, _, _, _, _⟩ := second
  dsimp only at *
  subst version configuration source service evidence ids identity digest
    health
  obtain rfl := ruleID_text_injective rule
  obtain rfl := classification_text_injective classification
  obtain rfl := Time.formatRFC3339Nano_injective start
  obtain rfl := Time.formatRFC3339Nano_injective stop
  obtain rfl := formatUint_injective events
  obtain rfl := formatUint_injective paths
  obtain rfl := formatUint_injective accounts
  rfl

end Emitted

/-- Emitted signals whose windows do not start at the zero instant pass the
correlator's checks, a list of them is accepted where an id names one signal,
and the digest of an emitted signal determines it as long as the hash has no
collision on the lines of the two signals. -/
theorem emitted_accepted_and_pinned (crypto : Crypto) :
    (∀ (detector : Detector) (input : EvaluationInput) (output : Output),
      detector.evaluate crypto input = .ok output →
      eventCount input ≤ 1000000 →
      (∀ signal ∈ output.signals, signal.windowStart ≠ 0 →
        ∀ field, validateSignal signal field = none) ∧
      ((∀ signal ∈ output.signals, signal.windowStart ≠ 0) →
        (∀ first ∈ output.signals, ∀ second ∈ output.signals,
          first.signalID = second.signalID → first = second) →
        ∃ groups, correlate crypto output.signals = .ok groups)) ∧
    ∀ (detector other : Detector) (input otherInput : EvaluationInput)
      (output otherOutput : Output),
      detector.evaluate crypto input = .ok output →
      other.evaluate crypto otherInput = .ok otherOutput →
      ∀ first ∈ output.signals, ∀ second ∈ otherOutput.signals,
        first.digest = second.digest →
        (crypto.sha256 (writeLines (canonicalLines first)) =
            crypto.sha256 (writeLines (canonicalLines second)) →
          writeLines (canonicalLines first) =
            writeLines (canonicalLines second)) →
        first = second := by
  constructor
  · intro detector input output accepted small
    constructor
    · intro signal listed started field
      exact validateSignal_eq_none_iff.mpr
        (emitted_valid accepted small listed started)
    · intro started agree
      apply exists_correlate
      exact ⟨fun signal listed => emitted_valid accepted small listed
        (started signal listed), agree⟩
  · intro detector other input otherInput output otherOutput accepted
      otherAccepted first left second right same injective
    obtain ⟨digest, identity, health⟩ := emitted_derived accepted left
    obtain ⟨otherDigest, otherIdentity, otherHealth⟩ :=
      emitted_derived otherAccepted right
    have hashed : crypto.sha256 (writeLines (canonicalLines first)) =
        crypto.sha256 (writeLines (canonicalLines second)) := by
      apply sha256_eq_of_digestText_eq
      rw [← digest, ← otherDigest, same]
    have lines := writeLines_injective (injective hashed)
    apply eq_of_canonicalLines_eq lines _ same
    · rw [health, otherHealth]
    · rw [identity, otherIdentity, hashed]

/-- A signal whose window starts at the zero instant is refused, and with it
the list of all signals. -/
theorem earlyInput_refused :
    ∃ output signal,
      newDefault.evaluate Sha256.hashing earlyInput = .ok output ∧
      signal ∈ output.signals ∧ (∀ field, validateSignal signal field ≠ none) ∧
      ∀ groups, correlate Sha256.hashing output.signals ≠ .ok groups := by
  have shape : ((newDefault.evaluate Sha256.hashing earlyInput).toOption.any
      fun output => output.signals.any fun signal => signal.windowStart = 0) =
      true := by
    decide +kernel
  cases accepted : newDefault.evaluate Sha256.hashing earlyInput with
  | error =>
      rw [accepted] at shape
      cases shape
  | ok output =>
      rw [accepted] at shape
      obtain ⟨signal, listed, start⟩ := List.any_eq_true.mp shape
      have refused : ¬ ValidSignal signal := fun valid =>
        valid.started (of_decide_eq_true start)
      refine ⟨output, signal, rfl, listed, ?_, ?_⟩
      · intro field passed
        exact refused (validateSignal_eq_none_iff.mp passed)
      · intro groups correlated
        obtain ⟨values, consistent, -, -, -⟩ := correlate_ok correlated
        exact refused (consistent.valid signal listed)

end SentinelFlow.Correlation
