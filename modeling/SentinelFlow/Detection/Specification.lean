import Mathlib.Data.Finset.Card
import SentinelFlow.Detection.Detector
import SentinelFlow.GoLib.Sha256

/-!
# What the detector decides

The rules in terms of sets: which events of an input count for a group, when
the sources can be relied on, and how many events make a match.  `Specified`
states what the evaluations of a rule are in these terms; an accepted input has
exactly the specified evaluations.
-/

namespace SentinelFlow.Detection

open GoLib

/-- An event as a rule sees it. -/
structure Sighting where
  eventID : Bytes
  occurredAt : Int
  group : GroupKey
  qualifies : Bool
  trusted : Bool
  verified : Bool
  tag : Option Bytes
deriving DecidableEq, Repr

/-- The events of the source of each rule.  The two rules without a binding
take every event as verified; the tag is what a rule counts besides events. -/
def EvaluationInput.sightings (config : Config) (input : EvaluationInput) :
    RuleID → List Sighting
  | .pathScan => input.gatewayEvents.map fun (event : GatewayEvent) =>
      { eventID := event.eventID
        occurredAt := event.occurredAt
        group := ⟨event.sourceIP, event.serviceLabel⟩
        qualifies := event.suspiciousPathID ≠ .none
        trusted := event.timestampTrust = .trusted
        verified := true
        tag := some event.suspiciousPathID.text }
  | .requestBurst => input.gatewayEvents.map fun (event : GatewayEvent) =>
      { eventID := event.eventID
        occurredAt := event.occurredAt
        group := ⟨event.sourceIP, event.serviceLabel⟩
        qualifies := true
        trusted := event.timestampTrust = .trusted
        verified := true
        tag := none }
  | .loginBruteForce => input.gatewayEvents.map fun (event : GatewayEvent) =>
      { eventID := event.eventID
        occurredAt := event.occurredAt
        group := ⟨event.sourceIP, event.serviceLabel⟩
        qualifies := event.routeLabel = config.loginRouteLabel ∧
          (event.statusCode = 401 ∨ event.statusCode = 403)
        trusted := event.timestampTrust = .trusted
        verified := event.authenticationMatch = .verified
        tag := none }
  | .credentialStuffing => input.authEvents.map fun event =>
      { eventID := event.eventID
        occurredAt := event.occurredAt
        group := ⟨event.sourceIP, event.serviceLabel⟩
        qualifies := event.outcome = .failed
        trusted := event.timestampTrust = .trusted
        verified := event.gatewayBinding = .verified
        tag := some event.accountHash }

/-- The length of the window of a rule in nanoseconds. -/
def RuleID.window : RuleID → Int
  | .pathScan => 60000000000
  | .requestBurst => 10000000000
  | .loginBruteForce => 60000000000
  | .credentialStuffing => 300000000000

/-- The sources whose health a rule depends on. -/
def RuleID.sources (input : EvaluationInput) : RuleID → List SourceHealth
  | .pathScan => [input.gatewayHealth]
  | .requestBurst => [input.gatewayHealth]
  | .loginBruteForce => [input.gatewayHealth, input.authHealth]
  | .credentialStuffing => [input.authHealth]

/-- Enough events and enough different paths or accounts. -/
def RuleID.Reached (events different : Nat) : RuleID → Prop
  | .pathScan => 8 ≤ different
  | .requestBurst => 120 ≤ events
  | .loginBruteForce => 10 ≤ events
  | .credentialStuffing => 20 ≤ events ∧ 8 ≤ different

/-- What a match of a rule is called. -/
def RuleID.classification : RuleID → Classification
  | .pathScan => .pathScan
  | .requestBurst => .requestBurst
  | .loginBruteForce => .loginBruteForce
  | .credentialStuffing => .credentialStuffing

/-- The counts that a rule reports. -/
def RuleID.metrics (events different : Nat) : RuleID → Metrics
  | .pathScan =>
      { eventCount := events, distinctSuspiciousPathCount := different }
  | .requestBurst => { eventCount := events }
  | .loginBruteForce => { eventCount := events }
  | .credentialStuffing =>
      { eventCount := events, distinctAccountCount := different }

/-- A health interval is closed; without an end it is still open. -/
def HealthInterval.Contains (interval : HealthInterval) (instant : Int) :
    Prop :=
  interval.start ≤ instant ∧ (interval.stop = 0 ∨ instant ≤ interval.stop)

/-- The source is complete on the closed window. -/
structure SourceHealth.Covers (health : SourceHealth) (start stop : Int) :
    Prop where
  complete : health.complete = true
  from_start : health.coverageStart ≤ start
  to_stop : stop ≤ health.coverageEnd
  healthy : ∀ interval ∈ health.intervals, ∀ instant, start ≤ instant →
    instant ≤ stop → ¬ interval.Contains instant

/-- The sightings in the closed window before `now`. -/
def Sighting.Recent (sighting : Sighting) (rule : RuleID) (now : Int) : Prop :=
  now - rule.window ≤ sighting.occurredAt ∧ sighting.occurredAt ≤ now

instance (sighting : Sighting) (rule : RuleID) (now : Int) :
    Decidable (sighting.Recent rule now) :=
  inferInstanceAs (Decidable (_ ∧ _))

/-- The sightings that count for a group. -/
def qualifying (rule : RuleID) (now : Int) (group : GroupKey)
    (sightings : List Sighting) : List Sighting :=
  sightings.filter fun sighting =>
    sighting.group = group ∧ sighting.Recent rule now ∧ sighting.qualifies

/-- Every source covers the window and every sighting can be relied on. -/
def Reliable (rule : RuleID) (now : Int) (sources : List SourceHealth)
    (relevant : List Sighting) : Prop :=
  (∀ health ∈ sources, health.Covers (now - rule.window) now) ∧
    ∀ sighting ∈ relevant, sighting.trusted = true ∧ sighting.verified = true

/-- How many different events and how many different tags there are. -/
def RuleID.Enough (rule : RuleID) (relevant : List Sighting) : Prop :=
  rule.Reached (relevant.map (·.eventID)).toFinset.card
    (relevant.filterMap (·.tag)).toFinset.card

/-- The order of the group keys: by source, then by service. -/
def GroupKey.rank (group : GroupKey) : Bytes ×ₗ Bytes :=
  toLex (group.sourceIP, group.serviceLabel)

/-- What an evaluation says about its group. -/
structure Decided (rule : RuleID) (now : Int) (sources : List SourceHealth)
    (relevant : List Sighting) (evaluation : RuleEvaluation) : Prop where
  matched_iff : evaluation.decision = .matched ↔
    Reliable rule now sources relevant ∧ rule.Enough relevant
  incomplete_iff : evaluation.decision = .incomplete ↔
    ¬ Reliable rule now sources relevant
  noMatch_iff : evaluation.decision = .noMatch ↔
    Reliable rule now sources relevant ∧ ¬ rule.Enough relevant
  signal_iff : evaluation.signal.isSome = true ↔
    evaluation.decision = .matched
  evidence : ∀ signal ∈ evaluation.signal,
    Increasing id signal.evidenceIDs ∧ ∀ eventID,
      eventID ∈ signal.evidenceIDs ↔ ∃ sighting ∈ relevant,
        sighting.trusted = true ∧ sighting.verified = true ∧
          sighting.eventID = eventID

/-- The evaluations of a rule: one for each group with a recent event, in the
order of the groups. -/
structure Specified (rule : RuleID) (now : Int) (sources : List SourceHealth)
    (sightings : List Sighting) (evaluations : List RuleEvaluation) :
    Prop where
  sorted : Increasing (fun evaluation => evaluation.group.rank) evaluations
  groups : ∀ group, (∃ evaluation ∈ evaluations, evaluation.group = group) ↔
    ∃ sighting ∈ sightings, sighting.group = group ∧ sighting.Recent rule now
  decided : ∀ evaluation ∈ evaluations, Decided rule now sources
    (qualifying rule now evaluation.group sightings) evaluation

/-! ## Sources -/

variable {input : EvaluationInput} {start stop : Int} {health : SourceHealth}

theorem intervalsOverlap_iff
    {interval : HealthInterval} (ordered : start ≤ stop)
    (valid : interval.stop = 0 ∨ interval.start ≤ interval.stop) :
    intervalsOverlap interval.start interval.stop start stop = true ↔
      ∃ instant, start ≤ instant ∧ instant ≤ stop ∧
        interval.Contains instant := by
  unfold intervalsOverlap HealthInterval.Contains
  by_cases late : stop < interval.start
  · rw [if_pos late]
    constructor
    · intro impossible
      cases impossible
    · rintro ⟨instant, -, before, after, -⟩
      omega
  · rw [if_neg late, decide_eq_true_eq]
    constructor
    · intro touches
      -- The later of the two starts lies in both intervals.
      refine ⟨max start interval.start, ?_, ?_, ?_, ?_⟩
      · omega
      · omega
      · omega
      · omega
    · rintro ⟨instant, after, -, -, closed⟩
      omega

theorem healthComplete_iff
    (ordered : start ≤ stop)
    (valid : ∀ interval ∈ health.intervals,
      interval.stop = 0 ∨ interval.start ≤ interval.stop) :
    healthComplete health start stop = true ↔ health.Covers start stop := by
  unfold healthComplete
  by_cases outside : ¬ health.complete ∨ start < health.coverageStart ∨
      health.coverageEnd < stop
  · rw [if_pos outside]
    constructor
    · intro impossible
      cases impossible
    · intro covers
      rcases outside with incomplete | early | late
      · exact absurd covers.complete incomplete
      · exact absurd covers.from_start (Int.not_le.mpr early)
      · exact absurd covers.to_stop (Int.not_le.mpr late)
  · rw [if_neg outside, List.all_eq_true]
    simp only [not_or, not_not, Int.not_lt] at outside
    obtain ⟨complete, early, late⟩ := outside
    constructor
    · intro apart
      refine ⟨complete, early, late, ?_⟩
      intro interval member instant after before inside
      have overlap := (intervalsOverlap_iff ordered
        (valid interval member)).mpr ⟨instant, after, before, inside⟩
      simpa [overlap] using apart interval member
    · intro covers interval member
      rw [Bool.not_eq_true']
      by_contra overlap
      obtain ⟨instant, after, before, inside⟩ := (intervalsOverlap_iff ordered
        (valid interval member)).mp (by simpa using overlap)
      exact covers.healthy interval member instant after before inside

theorem covers_congr
    {other : SourceHealth}
    (complete : other.complete = health.complete)
    (coverageStart : other.coverageStart = health.coverageStart)
    (coverageEnd : other.coverageEnd = health.coverageEnd)
    (intervals : ∀ interval, interval ∈ other.intervals ↔
      interval ∈ health.intervals) :
    other.Covers start stop ↔ health.Covers start stop := by
  constructor
  · rintro ⟨whole, early, late, healthy⟩
    exact ⟨complete ▸ whole, coverageStart ▸ early, coverageEnd ▸ late,
      fun interval member => healthy interval ((intervals interval).mpr member)⟩
  · rintro ⟨whole, early, late, healthy⟩
    exact ⟨complete ▸ whole, coverageStart ▸ early, coverageEnd ▸ late,
      fun interval member => healthy interval ((intervals interval).mp member)⟩

/-! ## Counting -/

section Counting

variable {Event : Type} (rule : Rule Event)

/-- The events whose ids become evidence. -/
def Rule.counts (event : Event) : Bool :=
  rule.qualifies event && (rule.observe event).timestampTrust = .trusted &&
    rule.verified event

private theorem mem_insertTag {distinct : List Bytes} {tag other : Bytes} :
    other ∈ insertTag distinct tag ↔ other ∈ distinct ∨ other = tag := by
  unfold insertTag
  split
  next present =>
    constructor
    · exact .inl
    · rintro (inside | rfl)
      · exact inside
      · exact present
  · simp

private theorem nodup_insertTag
    {distinct : List Bytes} (unique : distinct.Nodup) (tag : Bytes) :
    (insertTag distinct tag).Nodup := by
  unfold insertTag
  split
  · exact unique
  next absent =>
    rw [List.nodup_append]
    refine ⟨unique, List.nodup_singleton tag, ?_⟩
    intro first inside second last same
    rw [List.mem_singleton] at last
    subst last
    exact absent (same ▸ inside)

/-- What the loop over a group computes. -/
structure Rule.Tallied (events : List Event) (tally : Tally) : Prop where
  evidence : tally.evidence =
    (events.filter rule.counts).map fun event => (rule.observe event).eventID
  unique : tally.distinct.Nodup
  distinct : ∀ tag, tag ∈ tally.distinct ↔
    ∃ event ∈ events, rule.counts event = true ∧ rule.tag event = some tag
  untrusted : tally.untrusted = true ↔ ∃ event ∈ events,
    rule.qualifies event = true ∧
      (rule.observe event).timestampTrust ≠ .trusted
  unverified : tally.unverified = true ↔ ∃ event ∈ events,
    rule.qualifies event = true ∧
      (rule.observe event).timestampTrust = .trusted ∧
      rule.verified event ≠ true

private theorem Rule.Tallied.skip
    {rule : Rule Event} {events : List Event} {tally next : Tally}
    {event : Event} (tallied : rule.Tallied events tally)
    (uncounted : rule.counts event = false)
    (evidence : next.evidence = tally.evidence)
    (distinct : next.distinct = tally.distinct)
    (untrusted : next.untrusted = true ↔ tally.untrusted = true ∨
      rule.qualifies event = true ∧
        (rule.observe event).timestampTrust ≠ .trusted)
    (unverified : next.unverified = true ↔ tally.unverified = true ∨
      rule.qualifies event = true ∧
        (rule.observe event).timestampTrust = .trusted ∧
        rule.verified event ≠ true) :
    rule.Tallied (events ++ [event]) next := by
  refine ⟨?_, distinct ▸ tallied.unique, fun tag => ?_, ?_, ?_⟩
  · rw [evidence, tallied.evidence, List.filter_append, List.filter_singleton,
      uncounted]
    simp
  · rw [distinct, tallied.distinct]
    simp only [List.mem_append, List.mem_singleton, or_and_right, exists_or,
      exists_eq_left, uncounted, Bool.false_eq_true, false_and, or_false]
  · rw [untrusted, tallied.untrusted]
    simp only [List.mem_append, List.mem_singleton, or_and_right, exists_or,
      exists_eq_left]
  · rw [unverified, tallied.unverified]
    simp only [List.mem_append, List.mem_singleton, or_and_right, exists_or,
      exists_eq_left]

private theorem Rule.Tallied.count
    {events : List Event} {tally : Tally}
    (tallied : rule.Tallied events tally) (event : Event) :
    rule.Tallied (events ++ [event]) (rule.count tally event) := by
  unfold Rule.count
  by_cases qualifies : rule.qualifies event = true
  · rw [if_neg (not_not.mpr qualifies)]
    by_cases trusted : (rule.observe event).timestampTrust = .trusted
    · rw [if_neg (not_not.mpr trusted)]
      by_cases verified : rule.verified event = true
      · rw [if_neg (not_not.mpr verified)]
        have counted : rule.counts event = true := by
          simp [Rule.counts, qualifies, trusted, verified]
        refine ⟨?_, ?_, fun tag => ?_, ?_, ?_⟩
        · dsimp only
          rw [tallied.evidence, List.filter_append, List.filter_singleton,
            counted]
          simp
        · cases rule.tag event with
          | none => exact tallied.unique
          | some tag => exact nodup_insertTag tallied.unique tag
        · have added : tag ∈ (rule.tag event).toList.foldl insertTag
              tally.distinct ↔ tag ∈ tally.distinct ∨
                rule.tag event = some tag := by
            cases rule.tag event with
            | none => simp
            | some => simp [mem_insertTag, eq_comm]
          dsimp only
          rw [added, tallied.distinct]
          simp only [List.mem_append, List.mem_singleton, or_and_right,
            exists_or, exists_eq_left, counted, true_and]
        · rw [tallied.untrusted]
          simp only [List.mem_append, List.mem_singleton, or_and_right,
            exists_or, exists_eq_left, trusted, ne_eq, not_true_eq_false,
            and_false, or_false]
        · rw [tallied.unverified]
          simp only [List.mem_append, List.mem_singleton, or_and_right,
            exists_or, exists_eq_left, verified, ne_eq, not_true_eq_false,
            and_false, or_false]
      · rw [if_pos verified]
        apply tallied.skip
        · simp [Rule.counts, verified]
        · rfl
        · rfl
        · simp [trusted]
        · simp [qualifies, trusted, verified]
    · rw [if_pos trusted]
      apply tallied.skip
      · simp [Rule.counts, trusted]
      · rfl
      · rfl
      · simp [qualifies, trusted]
      · simp [trusted]
  · rw [if_pos qualifies]
    apply tallied.skip
    · simp [Rule.counts, qualifies]
    · rfl
    · rfl
    · simp [qualifies]
    · simp [qualifies]

theorem Rule.tally_tallied (events : List Event) :
    rule.Tallied events (rule.tally events) := by
  induction events using List.reverseRecOn with
  | nil =>
      refine ⟨rfl, List.nodup_nil, fun tag => ?_, ?_, ?_⟩
      · simp [Rule.tally]
      · simp [Rule.tally]
      · simp [Rule.tally]
  | append_singleton events event ih =>
      rw [Rule.tally, List.foldl_append]
      exact Rule.Tallied.count rule ih event

end Counting

/-! ## One rule -/

section OneRule

variable {Event : Type} {rule : Rule Event} {crypto : Crypto}
  {detector : Detector}

theorem compares_lessGroupKey : Compares lessGroupKey GroupKey.rank := by
  intro first second
  simp only [lessGroupKey, GroupKey.rank, Prod.Lex.toLex_lt_toLex]
  split
  next same => simp [same]
  next different => simp [different]

theorem GroupKey.rank_injective : Function.Injective GroupKey.rank := by
  rintro ⟨leftIP, leftLabel⟩ ⟨rightIP, rightLabel⟩ same
  obtain ⟨rfl, rfl⟩ := Prod.mk.inj (toLex.injective same)
  rfl

/-- The events of a group in the window of the rule before `now`. -/
def Rule.members (rule : Rule Event) (now : Int) (values : List Event)
    (group : GroupKey) : List Event :=
  (values.filter fun event =>
    inWindow (now - rule.window) now (rule.observe event)).filter
      fun event => (rule.observe event).group = group

theorem Rule.mem_members
    {now : Int} {values : List Event} {group : GroupKey} {event : Event} :
    event ∈ rule.members now values group ↔ event ∈ values ∧
      inWindow (now - rule.window) now (rule.observe event) = true ∧
      (rule.observe event).group = group := by
  simp only [Rule.members, List.mem_filter, decide_eq_true_eq, and_assoc]

theorem Rule.members_increasing
    {values normal : List Event} (arranged : Arranged rule.observe values normal)
    (now : Int) (group : GroupKey) :
    Increasing (fun event => (rule.observe event).rank)
      (rule.members now normal group) :=
  (arranged.increasing.filter _).filter _

/-- The evaluation of one group. -/
def Rule.evaluation (rule : Rule Event) (crypto : Crypto)
    (detector : Detector) (complete : Int → Int → Bool) (values : List Event)
    (now : Int) (group : GroupKey) : RuleEvaluation :=
  rule.finalizeEvaluation crypto detector group (now - rule.window) now
    (complete (now - rule.window) now)
    (rule.tally (rule.members now values group))

/-- The evaluations of a rule, group by group. -/
theorem Rule.evaluate_eq
    (rule : Rule Event) (crypto : Crypto) (detector : Detector)
    (complete : Int → Int → Bool) (values : List Event) (now : Int) :
    ∃ groups, Increasing GroupKey.rank groups ∧
      (∀ group, group ∈ groups ↔ ∃ event ∈ values,
        inWindow (now - rule.window) now (rule.observe event) = true ∧
          (rule.observe event).group = group) ∧
      rule.evaluate crypto detector complete values now =
        groups.map (rule.evaluation crypto detector complete values now) := by
  obtain ⟨groups, increasing, members, split⟩ := sortedGroups_spec
    (fun event => (rule.observe event).group) compares_lessGroupKey
    GroupKey.rank_injective (values.filter fun event =>
      inWindow (now - rule.window) now (rule.observe event))
  refine ⟨groups, increasing, fun group => ?_, ?_⟩
  · rw [members group]
    simp only [List.mem_filter, and_assoc]
  · simp only [Rule.evaluate, groupEvents, split, List.map_map]
    rfl

@[simp] theorem Rule.evaluation_group
    (complete : Int → Int → Bool) (values : List Event) (now : Int)
    (group : GroupKey) :
    (rule.evaluation crypto detector complete values now group).group =
      group := by
  unfold Rule.evaluation Rule.finalizeEvaluation
  dsimp only
  split_ifs <;> rfl

/-- Nothing in a group speaks against relying on its counts. -/
def Tally.Clean (tally : Tally) : Prop :=
  tally.untrusted = false ∧ tally.unverified = false

theorem Rule.finalizeEvaluation_spec
    (rule : Rule Event) (crypto : Crypto) (detector : Detector)
    (group : GroupKey) (start now : Int) (healthy : Bool) (tally : Tally) :
    let evaluation := rule.finalizeEvaluation crypto detector group start now
      healthy tally
    (evaluation.decision = .matched ↔
        (healthy = true ∧ tally.Clean) ∧ rule.met tally = true) ∧
      (evaluation.decision = .incomplete ↔
        ¬ (healthy = true ∧ tally.Clean)) ∧
      (evaluation.decision = .noMatch ↔
        (healthy = true ∧ tally.Clean) ∧ ¬ rule.met tally = true) ∧
      evaluation.signal = if evaluation.decision = .matched then
        some (buildSignal crypto detector rule.ruleID rule.classification
          group start now (rule.observed tally) tally.evidence)
        else none := by
  unfold Rule.finalizeEvaluation Tally.Clean
  cases healthy with
  | false => simp
  | true =>
  cases tally.untrusted with
  | true => simp
  | false =>
  cases tally.unverified with
  | true => simp
  | false =>
  cases rule.met tally with
  | false => simp
  | true => simp

/-- An emitted signal is built from the counts of its group. -/
theorem Rule.emitted
    {complete : Int → Int → Bool} {values : List Event} {now : Int}
    {evaluation : RuleEvaluation} {signal : Signal}
    (member : evaluation ∈ rule.evaluate crypto detector complete values now)
    (emitted : evaluation.signal = some signal) :
    ∃ group, evaluation =
        rule.evaluation crypto detector complete values now group ∧
      complete (now - rule.window) now = true ∧
      (rule.tally (rule.members now values group)).Clean ∧
      rule.met (rule.tally (rule.members now values group)) = true ∧
      signal = buildSignal crypto detector rule.ruleID rule.classification
        group (now - rule.window) now
        (rule.observed (rule.tally (rule.members now values group)))
        (rule.tally (rule.members now values group)).evidence := by
  obtain ⟨groups, -, -, evaluations⟩ :=
    rule.evaluate_eq crypto detector complete values now
  rw [evaluations] at member
  obtain ⟨group, -, rfl⟩ := List.mem_map.mp member
  obtain ⟨matched, -, -, built⟩ := rule.finalizeEvaluation_spec crypto detector
    group (now - rule.window) now (complete (now - rule.window) now)
    (rule.tally (rule.members now values group))
  unfold Rule.evaluation at emitted
  rw [built] at emitted
  split at emitted
  next chosen =>
    obtain ⟨⟨healthy, clean⟩, met⟩ := matched.mp chosen
    exact ⟨group, rfl, healthy, clean, met, (Option.some.inj emitted).symm⟩
  · cases emitted

def Rule.sighting (rule : Rule Event) (event : Event) : Sighting where
  eventID := (rule.observe event).eventID
  occurredAt := (rule.observe event).occurredAt
  group := (rule.observe event).group
  qualifies := rule.qualifies event
  trusted := (rule.observe event).timestampTrust = .trusted
  verified := rule.verified event
  tag := rule.tag event

/-- A rule of the detector does what the rule of that name is to do. -/
structure Rule.Realizes (rule : Rule Event) (kind : RuleID) : Prop where
  ruleID : rule.ruleID = kind
  classification : rule.classification = kind.classification
  observed : ∀ tally, rule.observed tally =
    kind.metrics tally.evidence.length tally.distinct.length
  window : rule.window = kind.window
  met : ∀ tally, rule.met tally = true ↔
    kind.Reached tally.evidence.length tally.distinct.length

theorem Rule.Realizes.recent_iff
    {kind : RuleID} (realizes : rule.Realizes kind) {now : Int}
    (event : Event) :
    inWindow (now - rule.window) now (rule.observe event) = true ↔
      (rule.sighting event).Recent kind now := by
  simp only [inWindow, Sighting.Recent, Rule.sighting, ← realizes.window,
    decide_eq_true_eq, not_or, Int.not_lt]

theorem met_exists_counted
    {kind : RuleID} (realizes : rule.Realizes kind) {events : List Event}
    (met : rule.met (rule.tally events) = true) :
    ∃ event ∈ events, rule.counts event = true := by
  have tallied := rule.tally_tallied events
  have some_evidence : 0 < (rule.tally events).evidence.length →
      ∃ event ∈ events, rule.counts event = true := by
    intro positive
    rw [tallied.evidence, List.length_map] at positive
    obtain ⟨event, member⟩ := List.exists_mem_of_length_pos positive
    exact ⟨event, List.mem_filter.mp member⟩
  have some_tag : 0 < (rule.tally events).distinct.length →
      ∃ event ∈ events, rule.counts event = true := by
    intro positive
    obtain ⟨tag, member⟩ := List.exists_mem_of_length_pos positive
    obtain ⟨event, inside, counted, -⟩ := (tallied.distinct tag).mp member
    exact ⟨event, inside, counted⟩
  have reached := (realizes.met _).mp met
  cases kind with
  | pathScan => exact some_tag (Nat.lt_of_lt_of_le (by decide) reached)
  | requestBurst
  | loginBruteForce =>
      exact some_evidence (Nat.lt_of_lt_of_le (by decide) reached)
  | credentialStuffing =>
      exact some_evidence (Nat.lt_of_lt_of_le (by decide) reached.1)

theorem Rule.evidence_nodup
    {values normal : List Event} (arranged : Arranged rule.observe values normal)
    (now : Int) (group : GroupKey) :
    (rule.tally (rule.members now normal group)).evidence.Nodup := by
  rw [(rule.tally_tallied _).evidence]
  refine arranged.distinct.sublist (List.Sublist.map _ ?_)
  exact List.filter_sublist.trans
    (List.filter_sublist.trans List.filter_sublist)

section Group

variable {kind : RuleID} (realizes : rule.Realizes kind)
  {values normal : List Event} (arranged : Arranged rule.observe values normal)
  {now : Int} {group : GroupKey}
include realizes arranged

theorem Rule.mem_qualifying_iff {sighting : Sighting} :
    sighting ∈ qualifying kind now group (values.map rule.sighting) ↔
      ∃ event ∈ rule.members now normal group,
        rule.qualifies event = true ∧ rule.sighting event = sighting := by
  simp only [qualifying, Rule.mem_members, List.mem_filter, List.mem_map,
    arranged.mem_iff, realizes.recent_iff, decide_eq_true_eq]
  constructor
  · rintro ⟨⟨event, member, rfl⟩, group, recent, qualifies⟩
    exact ⟨event, ⟨member, recent, group⟩, qualifies, rfl⟩
  · rintro ⟨event, ⟨member, recent, group⟩, qualifies, rfl⟩
    exact ⟨⟨event, member, rfl⟩, group, recent, qualifies⟩

theorem Rule.clean_iff :
    (rule.tally (rule.members now normal group)).Clean ↔
      ∀ sighting ∈ qualifying kind now group (values.map rule.sighting),
        sighting.trusted = true ∧ sighting.verified = true := by
  have tallied := rule.tally_tallied (rule.members now normal group)
  unfold Tally.Clean
  rw [← Bool.not_eq_true, ← Bool.not_eq_true, tallied.untrusted,
    tallied.unverified]
  constructor
  · rintro ⟨noUntrusted, noUnverified⟩ sighting member
    obtain ⟨event, inside, qualifies, rfl⟩ :=
      (rule.mem_qualifying_iff realizes arranged).mp member
    have trusted : (rule.observe event).timestampTrust = .trusted := by
      by_contra untrusted
      exact noUntrusted ⟨event, inside, qualifies, untrusted⟩
    refine ⟨decide_eq_true trusted, ?_⟩
    by_contra unverified
    exact noUnverified ⟨event, inside, qualifies, trusted, unverified⟩
  · intro reliable
    constructor
    · rintro ⟨event, inside, qualifies, untrusted⟩
      have held := reliable _ ((rule.mem_qualifying_iff realizes arranged).mpr
        ⟨event, inside, qualifies, rfl⟩)
      exact untrusted (of_decide_eq_true held.1)
    · rintro ⟨event, inside, qualifies, -, unverified⟩
      have held := reliable _ ((rule.mem_qualifying_iff realizes arranged).mpr
        ⟨event, inside, qualifies, rfl⟩)
      exact unverified held.2

theorem Rule.mem_evidence_iff {eventID : Bytes} :
    eventID ∈ (rule.tally (rule.members now normal group)).evidence ↔
      ∃ sighting ∈ qualifying kind now group (values.map rule.sighting),
        sighting.trusted = true ∧ sighting.verified = true ∧
          sighting.eventID = eventID := by
  rw [(rule.tally_tallied _).evidence]
  simp only [List.mem_map, List.mem_filter, Rule.counts, Bool.and_eq_true,
    decide_eq_true_eq]
  constructor
  · rintro ⟨event, ⟨inside, ⟨qualifies, trusted⟩, verified⟩, rfl⟩
    exact ⟨rule.sighting event,
      (rule.mem_qualifying_iff realizes arranged).mpr
        ⟨event, inside, qualifies, rfl⟩, decide_eq_true trusted, verified, rfl⟩
  · rintro ⟨sighting, member, trusted, verified, rfl⟩
    obtain ⟨event, inside, qualifies, rfl⟩ :=
      (rule.mem_qualifying_iff realizes arranged).mp member
    exact ⟨event, ⟨inside, ⟨qualifies, of_decide_eq_true trusted⟩, verified⟩,
      rfl⟩

/-- On a clean group the counts of the loop are those of the specification. -/
theorem Rule.met_iff
    (reliable : ∀ sighting ∈ qualifying kind now group
        (values.map rule.sighting),
      sighting.trusted = true ∧ sighting.verified = true) :
    rule.met (rule.tally (rule.members now normal group)) = true ↔
      kind.Enough (qualifying kind now group (values.map rule.sighting)) := by
  have tallied := rule.tally_tallied (rule.members now normal group)
  have events : (rule.tally (rule.members now normal group)).evidence.toFinset =
      ((qualifying kind now group (values.map rule.sighting)).map
        (·.eventID)).toFinset := by
    ext eventID
    rw [List.mem_toFinset, List.mem_toFinset,
      rule.mem_evidence_iff realizes arranged, List.mem_map]
    constructor
    · rintro ⟨sighting, member, -, -, same⟩
      exact ⟨sighting, member, same⟩
    · rintro ⟨sighting, member, same⟩
      exact ⟨sighting, member, (reliable sighting member).1,
        (reliable sighting member).2, same⟩
  have tags : (rule.tally (rule.members now normal group)).distinct.toFinset =
      ((qualifying kind now group (values.map rule.sighting)).filterMap
        (·.tag)).toFinset := by
    ext tag
    rw [List.mem_toFinset, List.mem_toFinset, tallied.distinct,
      List.mem_filterMap]
    constructor
    · rintro ⟨event, inside, counted, tagged⟩
      simp only [Rule.counts, Bool.and_eq_true] at counted
      exact ⟨rule.sighting event,
        (rule.mem_qualifying_iff realizes arranged).mpr
          ⟨event, inside, counted.1.1, rfl⟩, tagged⟩
    · rintro ⟨sighting, member, tagged⟩
      have held := reliable sighting member
      obtain ⟨event, inside, qualifies, rfl⟩ :=
        (rule.mem_qualifying_iff realizes arranged).mp member
      have counted : rule.counts event = true := by
        simp only [Rule.counts, Bool.and_eq_true]
        exact ⟨⟨qualifies, held.1⟩, held.2⟩
      exact ⟨event, inside, counted, tagged⟩
  rw [realizes.met, RuleID.Enough, ← events, ← tags,
    List.toFinset_card_of_nodup (rule.evidence_nodup arranged now group),
    List.toFinset_card_of_nodup tallied.unique]

theorem Rule.decided
    {complete : Int → Int → Bool} {sources : List SourceHealth}
    (healthy : complete (now - kind.window) now = true ↔
      ∀ health ∈ sources, health.Covers (now - kind.window) now) :
    Decided kind now sources
      (qualifying kind now group (values.map rule.sighting))
      (rule.evaluation crypto detector complete normal now group) := by
  have reliable : complete (now - rule.window) now = true ∧
      (rule.tally (rule.members now normal group)).Clean ↔
      Reliable kind now sources
        (qualifying kind now group (values.map rule.sighting)) := by
    rw [realizes.window, healthy, rule.clean_iff realizes arranged]
    exact Iff.rfl
  have enough : Reliable kind now sources
        (qualifying kind now group (values.map rule.sighting)) →
      (rule.met (rule.tally (rule.members now normal group)) = true ↔
        kind.Enough (qualifying kind now group
          (values.map rule.sighting))) := fun held =>
    rule.met_iff realizes arranged held.2
  obtain ⟨matched, incomplete, noMatch, signal⟩ :=
    rule.finalizeEvaluation_spec crypto detector group (now - rule.window) now
      (complete (now - rule.window) now)
      (rule.tally (rule.members now normal group))
  rw [reliable] at matched incomplete noMatch
  refine ⟨?_, incomplete, ?_, ?_, ?_⟩
  · exact matched.trans (and_congr_right enough)
  · exact noMatch.trans (and_congr_right fun held => not_congr (enough held))
  · unfold Rule.evaluation
    rw [signal]
    split <;> simp_all
  · intro found member
    unfold Rule.evaluation at member
    rw [signal] at member
    split at member
    · obtain rfl := Option.mem_some_iff.mp member
      obtain ⟨increasing, members⟩ := sortedUnique_spec
        (rule.tally (rule.members now normal group)).evidence
      refine ⟨increasing, fun eventID => ?_⟩
      rw [← rule.mem_evidence_iff realizes arranged, ← members eventID]
      rfl
    · cases member

theorem Rule.specified
    (crypto : Crypto) (detector : Detector) (complete : Int → Int → Bool)
    {sources : List SourceHealth}
    (healthy : complete (now - kind.window) now = true ↔
      ∀ health ∈ sources, health.Covers (now - kind.window) now) :
    Specified kind now sources (values.map rule.sighting)
      (rule.evaluate crypto detector complete normal now) := by
  obtain ⟨groups, increasing, members, evaluations⟩ :=
    rule.evaluate_eq crypto detector complete normal now
  rw [evaluations]
  refine ⟨?_, fun group => ?_, ?_⟩
  · unfold Increasing
    rw [List.pairwise_map]
    simp only [Rule.evaluation_group]
    exact increasing
  · simp only [List.mem_map, exists_exists_and_eq_and, Rule.evaluation_group,
      exists_eq_right, members group, arranged.mem_iff, realizes.recent_iff]
    constructor
    · rintro ⟨event, member, recent, same⟩
      exact ⟨event, member, same, recent⟩
    · rintro ⟨event, member, same, recent⟩
      exact ⟨event, member, recent, same⟩
  · intro evaluation member
    obtain ⟨group, -, rfl⟩ := List.mem_map.mp member
    rw [Rule.evaluation_group]
    exact rule.decided realizes arranged healthy

end Group

end OneRule

/-! ## All rules -/

theorem healthComplete_normalized_iff
    {normal : SourceHealth} {expected : SourceKind}
    (admissible : health.Admissible expected)
    (same : normal = { health with
      intervals := sortSlice lessInterval health.intervals })
    (ordered : start ≤ stop) :
    healthComplete normal start stop = true ↔ health.Covers start stop := by
  have members : ∀ interval, interval ∈ normal.intervals ↔
      interval ∈ health.intervals := by
    intro interval
    rw [same, mem_sortSlice]
  rw [healthComplete_iff ordered, covers_congr (by rw [same]) (by rw [same])
    (by rw [same]) members]
  intro interval member
  exact (admissible.intervals interval ((members interval).mp member)).2

theorem RuleID.window_pos (rule : RuleID) : 0 < rule.window := by
  cases rule with
  | pathScan => decide
  | requestBurst => decide
  | loginBruteForce => decide
  | credentialStuffing => decide

section Rules

variable {config : Config} (frozen : config.Frozen)
include frozen

theorem pathScanRule_realizes : (pathScanRule config).Realizes .pathScan where
  ruleID := rfl
  classification := rfl
  observed _ := rfl
  window := frozen.pathScan.2
  met tally := by
    simp [pathScanRule, RuleID.Reached, frozen.pathScan.1, pathScanThreshold]

theorem requestBurstRule_realizes :
    (requestBurstRule config).Realizes .requestBurst where
  ruleID := rfl
  classification := rfl
  observed _ := rfl
  window := frozen.requestBurst.2
  met tally := by
    simp [requestBurstRule, RuleID.Reached, frozen.requestBurst.1,
      requestBurstThreshold]

theorem loginBruteForceRule_realizes :
    (loginBruteForceRule config).Realizes .loginBruteForce where
  ruleID := rfl
  classification := rfl
  observed _ := rfl
  window := frozen.loginBruteForce.2
  met tally := by
    simp [loginBruteForceRule, RuleID.Reached, frozen.loginBruteForce.1,
      loginBruteForceThreshold]

theorem credentialStuffingRule_realizes :
    (credentialStuffingRule config).Realizes .credentialStuffing where
  ruleID := rfl
  classification := rfl
  observed _ := rfl
  window := frozen.credentialStuffing.2.2
  met tally := by
    simp [credentialStuffingRule, RuleID.Reached, frozen.credentialStuffing.1,
      frozen.credentialStuffing.2.1, credentialStuffingEventThreshold,
      credentialStuffingAccountThreshold]

end Rules

theorem Detector.evaluate_ok
    {crypto : Crypto} {detector : Detector} {output : Output}
    (accepted : detector.evaluate crypto input = .ok output) :
    ∃ normal, input.Admissible detector.config ∧ Normalized input normal ∧
      output = detector.output crypto normal := by
  unfold Detector.evaluate at accepted
  cases normalized : normalizeInput detector.config input with
  | error =>
      rw [normalized] at accepted
      cases accepted
  | ok normal =>
      rw [normalized] at accepted
      cases accepted
      obtain ⟨admissible, same⟩ := normalizeInput_ok normalized
      exact ⟨normal, admissible, same, rfl⟩

theorem Detector.exists_evaluate
    (crypto : Crypto) {detector : Detector}
    (admissible : input.Admissible detector.config) :
    ∃ output, detector.evaluate crypto input = .ok output := by
  obtain ⟨normal, normalized⟩ := exists_normalizeInput admissible
  refine ⟨detector.output crypto normal, ?_⟩
  rw [Detector.evaluate, normalized]
  rfl

/-- A rule of the detector as it is applied to one input: `given` are the events
of its source and `values` the same events after the normalisation. -/
structure Applies {Event : Type} (rule : Rule Event) (kind : RuleID)
    (config : Config) (input : EvaluationInput) (complete : Int → Int → Bool)
    (given values : List Event) : Prop where
  realizes : rule.Realizes kind
  arranged : Arranged rule.observe given values
  valid : ∀ event ∈ given, ∀ check ∈ (rule.observe event).checks, check = none
  sightings : given.map rule.sighting = input.sightings config kind
  healthy : complete (input.now - kind.window) input.now = true ↔
    ∀ health ∈ kind.sources input,
      health.Covers (input.now - kind.window) input.now

/-- The rules of the detector on a normalised input. -/
theorem Detector.exists_applies
    (crypto : Crypto) (detector : Detector) {normal : EvaluationInput}
    (admissible : input.Admissible detector.config)
    (same : Normalized input normal) (kind : RuleID) :
    ∃ (Event : Type) (rule : Rule Event) (complete : Int → Int → Bool)
      (given values : List Event),
      Applies rule kind detector.config input complete given values ∧
        (detector.output crypto normal).evaluations kind =
          rule.evaluate crypto detector complete values input.now := by
  have frozen := detector.frozen
  have ordered : input.now - kind.window ≤ input.now := by
    have positive := kind.window_pos
    omega
  have gateway := healthComplete_normalized_iff admissible.gatewayHealth
    same.gatewayHealth ordered
  have auth := healthComplete_normalized_iff admissible.authHealth
    same.authHealth ordered
  have gatewayValid : ∀ event ∈ input.gatewayEvents,
      ∀ check ∈ event.toObservation.checks, check = none :=
    fun event member check listed => admissible.gatewayEvents.valid event member
      check (List.mem_append_left _ listed)
  have authValid : ∀ event ∈ input.authEvents,
      ∀ check ∈ event.toObservation.checks, check = none :=
    fun event member check listed => admissible.authEvents.valid event member
      check (List.mem_append_left _ listed)
  cases kind with
  | pathScan =>
      refine ⟨_, pathScanRule detector.config,
        healthComplete normal.gatewayHealth, _, _,
        ⟨pathScanRule_realizes frozen, same.gatewayEvents, gatewayValid, rfl,
          ?_⟩, ?_⟩
      · rw [gateway, RuleID.sources, List.forall_mem_singleton]
      · rw [← same.now]
        rfl
  | requestBurst =>
      refine ⟨_, requestBurstRule detector.config,
        healthComplete normal.gatewayHealth, _, _,
        ⟨requestBurstRule_realizes frozen, same.gatewayEvents, gatewayValid,
          rfl, ?_⟩, ?_⟩
      · rw [gateway, RuleID.sources, List.forall_mem_singleton]
      · rw [← same.now]
        rfl
  | loginBruteForce =>
      refine ⟨_, loginBruteForceRule detector.config,
        fun start stop => healthComplete normal.gatewayHealth start stop &&
          healthComplete normal.authHealth start stop, _, _,
        ⟨loginBruteForceRule_realizes frozen, same.gatewayEvents, gatewayValid,
          rfl, ?_⟩, ?_⟩
      · rw [Bool.and_eq_true, gateway, auth, RuleID.sources,
          List.forall_mem_cons, List.forall_mem_singleton]
      · rw [← same.now]
        rfl
  | credentialStuffing =>
      refine ⟨_, credentialStuffingRule detector.config,
        healthComplete normal.authHealth, _, _,
        ⟨credentialStuffingRule_realizes frozen, same.authEvents, authValid,
          rfl, ?_⟩, ?_⟩
      · rw [auth, RuleID.sources, List.forall_mem_singleton]
      · rw [← same.now]
        rfl

/-- Every accepted input has the specified evaluations, for each rule. -/
theorem evaluate_specified
    {crypto : Crypto} {detector : Detector} {input : EvaluationInput}
    {output : Output} (accepted : detector.evaluate crypto input = .ok output)
    (rule : RuleID) :
    Specified rule input.now (rule.sources input)
      (input.sightings detector.config rule) (output.evaluations rule) := by
  obtain ⟨normal, admissible, same, rfl⟩ := Detector.evaluate_ok accepted
  obtain ⟨Event, applied, complete, given, values, applies, evaluations⟩ :=
    detector.exists_applies crypto admissible same rule
  rw [evaluations, ← applies.sightings]
  exact Rule.specified applies.realizes applies.arranged crypto detector
    complete applies.healthy

/-- A client that asks for every suspicious path within eight seconds. -/
def sampleEvent (index : Nat) (path : SuspiciousPathID) : GatewayEvent where
  eventID := ascii "00000000-0000-4000-8000-00000000000" ++ formatUint index
  occurredAt := (63900000000 + index) * 1000000000
  sourceIP := ascii "192.0.2.10"
  serviceLabel := ascii "shop"
  routeLabel := ascii "catalog"
  timestampTrust := .trusted
  pathCatalogVersion := defaultPathCatalogVersion
  suspiciousPathID := path
  statusCode := 404
  authenticationMatch := .notApplicable

def sampleHealth (source : SourceKind) : SourceHealth where
  source
  complete := true
  coverageStart := 63899999000 * 1000000000
  coverageEnd := 63900000010 * 1000000000
  intervals := []

def sampleInput : EvaluationInput where
  now := 63900000010 * 1000000000
  gatewayEvents := defaultSuspiciousPathIDs.mapIdx sampleEvent
  authEvents := []
  gatewayHealth := sampleHealth .gateway
  authHealth := sampleHealth .auth

theorem sampleInput_accepted (crypto : Crypto) :
    ∃ output, newDefault.evaluate crypto sampleInput = .ok output := by
  have passed : (normalizeInput newDefault.config sampleInput).isOk = true := by
    decide +kernel
  cases normalized : normalizeInput newDefault.config sampleInput with
  | error =>
      rw [normalized] at passed
      cases passed
  | ok =>
      exact newDefault.exists_evaluate crypto (normalizeInput_ok normalized).1

theorem sampleInput_specified :
    ∃ output, newDefault.evaluate Sha256.hashing sampleInput = .ok output ∧
      Specified .pathScan sampleInput.now
        (RuleID.pathScan.sources sampleInput)
        (sampleInput.sightings newDefault.config .pathScan)
        (output.evaluations .pathScan) := by
  obtain ⟨output, accepted⟩ := sampleInput_accepted Sha256.hashing
  exact ⟨output, accepted, evaluate_specified accepted .pathScan⟩

/-- The sample input a minute after the zero instant. -/
def earlyInput : EvaluationInput :=
  { sampleInput with
    now := 60000000000
    gatewayEvents := sampleInput.gatewayEvents.map fun event =>
      { event with occurredAt := 30000000000 }
    gatewayHealth :=
      { sampleInput.gatewayHealth with
        coverageStart := -1000000000, coverageEnd := 60000000000 }
    authHealth :=
      { sampleInput.authHealth with
        coverageStart := -1000000000, coverageEnd := 60000000000 } }

end SentinelFlow.Detection
