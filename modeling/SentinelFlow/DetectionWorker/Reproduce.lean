import SentinelFlow.Detection.Specification

/-!
# Reproducing a signal from its evidence

Before a signal is stored, package `detectionworker` loads the events that it
names and runs the detector on them alone.  The database is a parameter: what
it answers about coverage and which rows it returns for a list of ids.
-/

namespace SentinelFlow.DetectionWorker

open GoLib Detection

/-- `byID[signal.SignalID] = signal` -/
def putSignal (byID : List Signal) (signal : Signal) : List Signal :=
  byID.filter (·.signalID ≠ signal.signalID) ++ [signal]

def collectSignals (output : Output) : List Signal × Bool :=
  let evaluations := output.pathScan ++ output.requestBurst ++
    output.loginBruteForce ++ output.credentialStuffing
  let byID := (evaluations.filterMap fun evaluation =>
    if evaluation.enforcementSupporting then evaluation.signal else none).foldl
      putSignal []
  (sortSlice (fun first second => first.signalID < second.signalID) byID,
    evaluations.any (·.decision = .incomplete))

/-- What the database answers; `none` is a failed query. -/
structure EvidenceStore where
  coverageStart : SourceKind → Bytes → Int → Option (Option Int)
  gatewayRows : List Bytes → Option (List GatewayEvent)
  authRows : List Bytes → Option (List AuthEvent)

inductive ReproduceError where
  | invalidSnapshot
  | unavailable
  | input (error : InputError)
deriving DecidableEq, Repr

def coverageIncludes (store : EvidenceStore) (endpoint : SourceKind)
    (service : Bytes) (start stop : Int) : Bool :=
  match store.coverageStart endpoint service stop with
  | some (some coverageStart) => ¬ start < coverageStart
  | _ => false

/-- The rows of all the ids. -/
def loadEvidence {Event : Type} (rows : List Bytes → Option (List Event))
    (ids : List Bytes) : Except ReproduceError (List Event) :=
  match rows ids with
  | none => .error .unavailable
  | some result =>
      if result.length ≠ ids.length then .error .invalidSnapshot
      else .ok result

/-- A source that covers exactly the window of a signal. -/
def exactHealth (source : SourceKind) (signal : Signal) : SourceHealth where
  source
  complete := true
  coverageStart := signal.windowStart
  coverageEnd := signal.windowEnd
  intervals := []

def exactInput (signal : Signal) (gatewayEvents : List GatewayEvent)
    (authEvents : List AuthEvent) : EvaluationInput where
  now := signal.windowEnd
  gatewayEvents
  authEvents
  gatewayHealth := exactHealth .gateway signal
  authHealth := exactHealth .auth signal

/-- The input on which a signal is evaluated again. -/
def loadInput (store : EvidenceStore) (expected : Signal) :
    Except ReproduceError EvaluationInput := do
  let needGateway := expected.ruleID ≠ .credentialStuffing
  let needAuth := expected.ruleID = .credentialStuffing ∨
    expected.ruleID = .loginBruteForce
  if needGateway ∧ ¬ coverageIncludes store .gateway expected.serviceLabel
      expected.windowStart expected.windowEnd then
    throw .invalidSnapshot
  let gatewayEvents ← if needGateway then
    loadEvidence store.gatewayRows expected.evidenceIDs else pure []
  if needAuth ∧ ¬ coverageIncludes store .auth expected.serviceLabel
      expected.windowStart expected.windowEnd then
    throw .invalidSnapshot
  let authEvents ← if expected.ruleID = .credentialStuffing then
    loadEvidence store.authRows expected.evidenceIDs else pure []
  return exactInput expected gatewayEvents authEvents

def reproduceSignal (crypto : Crypto) (store : EvidenceStore)
    (expected : Signal) : Except ReproduceError Unit := do
  if expected.sourceHealthStatus ≠ .complete ∨ expected.evidenceIDs = [] then
    throw .invalidSnapshot
  let input ← loadInput store expected
  match newDefault.evaluate crypto input with
  | .error error => throw (.input error)
  | .ok output =>
      if (collectSignals output).1.any fun candidate =>
          candidate.signalID = expected.signalID ∧ candidate = expected then
        pure ()
      else throw .invalidSnapshot

/-- The events of an input that a signal names. -/
def evidenceInput (signal : Signal) (input : EvaluationInput) :
    EvaluationInput :=
  exactInput signal
    (input.gatewayEvents.filter (·.eventID ∈ signal.evidenceIDs))
    (input.authEvents.filter (·.eventID ∈ signal.evidenceIDs))

/-! ## One rule -/

section OneRule

variable {Event : Type} {rule : Rule Event} {crypto : Crypto}
  {detector : Detector}

/-- An event that does not count changes the flags at most. -/
private theorem tally_filter (events : List Event) :
    rule.tally (events.filter rule.counts) =
      { rule.tally events with untrusted := false, unverified := false } := by
  induction events using List.reverseRecOn with
  | nil => rfl
  | append_singleton events event ih =>
      rw [List.filter_append, List.filter_singleton]
      simp only [Rule.tally, List.foldl_append] at ih ⊢
      by_cases counted : rule.counts event = true
      · have steps := counted
        simp only [Rule.counts, Bool.and_eq_true, decide_eq_true_eq] at steps
        simp only [counted, cond_true, List.foldl_cons, List.foldl_nil, ih,
          Rule.count, steps.1.1, steps.1.2, steps.2, not_true_eq_false,
          if_false, ne_eq]
      · simp only [counted, cond_false, List.foldl_nil, ih,
          List.foldl_cons, Rule.count]
        simp only [Rule.counts, Bool.and_eq_true, decide_eq_true_eq, not_and]
          at counted
        by_cases qualifies : rule.qualifies event = true
        · by_cases trusted : (rule.observe event).timestampTrust = .trusted
          · simp [qualifies, trusted, counted ⟨qualifies, trusted⟩]
          · simp [qualifies, trusted]
        · simp [qualifies]

/-- The members of the group that remain are those that count. -/
theorem members_of_evidence
    {values others normal normalOthers : List Event}
    (left : Arranged rule.observe values normal)
    (right : Arranged rule.observe others normalOthers)
    {now : Int} {group : GroupKey} {ids : List Bytes}
    (named : ∀ event, event ∈ others ↔ event ∈ values ∧
      (rule.observe event).eventID ∈ ids)
    (exact_ids : ∀ eventID, eventID ∈ ids ↔ eventID ∈
      (rule.tally (rule.members now normal group)).evidence) :
    rule.members now normalOthers group =
      (rule.members now normal group).filter rule.counts := by
  have evidence := (rule.tally_tallied (rule.members now normal group)).evidence
  apply (Rule.members_increasing right now group).ext
    ((Rule.members_increasing left now group).filter _)
  intro event
  rw [List.mem_filter, Rule.mem_members, Rule.mem_members, right.mem_iff,
    named, exact_ids, evidence]
  constructor
  · rintro ⟨⟨member, identified⟩, recent, grouped⟩
    obtain ⟨counted, inside, same⟩ := List.mem_map.mp identified
    obtain ⟨inside, counts⟩ := List.mem_filter.mp inside
    have present := (Rule.mem_members.mp inside).1
    -- The ids of the input are distinct, so it is the very event that counts.
    obtain rfl := List.inj_on_of_nodup_map left.distinct present
      ((left.mem_iff event).mpr member) same
    exact ⟨⟨present, recent, grouped⟩, counts⟩
  · rintro ⟨⟨member, recent, grouped⟩, counts⟩
    refine ⟨⟨(left.mem_iff event).mp member, ?_⟩, recent, grouped⟩
    exact List.mem_map.mpr ⟨event, List.mem_filter.mpr
      ⟨Rule.mem_members.mpr ⟨member, recent, grouped⟩, counts⟩, rfl⟩

/-- A rule comes to the same evaluation on the events of the evidence. -/
theorem evaluation_reproduced
    {kind : RuleID} (realizes : rule.Realizes kind)
    {values others normal normalOthers : List Event}
    (left : Arranged rule.observe values normal)
    (right : Arranged rule.observe others normalOthers)
    {complete : Int → Int → Bool} {now : Int} {evaluation : RuleEvaluation}
    {signal : Signal}
    (member : evaluation ∈ rule.evaluate crypto detector complete normal now)
    (emitted : evaluation.signal = some signal)
    (named : ∀ event, event ∈ others ↔ event ∈ values ∧
      (rule.observe event).eventID ∈ signal.evidenceIDs)
    (completeOthers : Int → Int → Bool) {again : Int} (same : again = now)
    (whole : completeOthers (now - rule.window) now = true) :
    evaluation ∈
      rule.evaluate crypto detector completeOthers normalOthers again := by
  subst same
  obtain ⟨otherGroups, -, otherMembers, otherEvaluations⟩ :=
    rule.evaluate_eq crypto detector completeOthers normalOthers again
  obtain ⟨group, rfl, healthy, clean, met, rfl⟩ := Rule.emitted member emitted
  have remaining := members_of_evidence left right named (sortedUnique_spec _).2
  have tally : rule.tally (rule.members again normalOthers group) =
      rule.tally (rule.members again normal group) := by
    rw [remaining, tally_filter]
    obtain ⟨trusted, verified⟩ := clean
    generalize rule.tally (rule.members again normal group) = tally at *
    cases tally
    simp only at trusted verified
    rw [trusted, verified]
  rw [otherEvaluations]
  refine List.mem_map.mpr ⟨group, ?_, ?_⟩
  · obtain ⟨event, inside, counted⟩ := met_exists_counted realizes met
    have kept : event ∈ rule.members again normalOthers group := by
      rw [remaining]
      exact List.mem_filter.mpr ⟨inside, counted⟩
    exact (otherMembers group).mpr ⟨event, Rule.mem_members.mp kept⟩
  · unfold Rule.evaluation
    rw [tally, whole, healthy]

end OneRule

/-! ## The detector -/

section Detector

variable {crypto : Crypto} {detector : Detector} {input : EvaluationInput}
  {output : Output} {signal : Signal}

/-- The frame of an emitted signal. -/
theorem emitted_frame
    (accepted : detector.evaluate crypto input = .ok output)
    {kind : RuleID} {evaluation : RuleEvaluation}
    (member : evaluation ∈ output.evaluations kind)
    (emitted : evaluation.signal = some signal) :
    signal.ruleID = kind ∧ signal.windowStart = input.now - kind.window ∧
      signal.windowEnd = input.now ∧ signal.sourceHealthStatus = .complete ∧
      signal.evidenceIDs ≠ [] := by
  obtain ⟨normal, admissible, same, rfl⟩ := Detector.evaluate_ok accepted
  obtain ⟨Event, rule, complete, given, values, applies, evaluations⟩ :=
    detector.exists_applies crypto admissible same kind
  rw [evaluations] at member
  obtain ⟨group, -, -, -, met, rfl⟩ := Rule.emitted member emitted
  refine ⟨applies.realizes.ruleID, ?_, rfl, rfl, ?_⟩
  · rw [← applies.realizes.window]
    rfl
  · obtain ⟨event, inside, counted⟩ := met_exists_counted applies.realizes met
    apply List.ne_nil_of_mem (a := (rule.observe event).eventID)
    apply ((sortedUnique_spec _).2 _).mpr
    rw [(rule.tally_tallied _).evidence]
    exact List.mem_map_of_mem (List.mem_filter.mpr ⟨inside, counted⟩)

theorem exactHealth_admissible
    {source : SourceKind} (started : signal.windowStart ≠ 0)
    (ended : signal.windowEnd ≠ 0)
    (ordered : signal.windowStart ≤ signal.windowEnd) :
    (exactHealth source signal).Admissible source :=
  ⟨rfl, ⟨started, ended⟩, ordered, fun _ member => by cases member⟩

/-- The exact health is complete on the window of its signal. -/
theorem healthComplete_exactHealth
    {source : SourceKind} {health : SourceHealth}
    (same : health = { exactHealth source signal with
      intervals := sortSlice lessInterval (exactHealth source signal).intervals })
    {start stop : Int} (from_start : signal.windowStart = start)
    (to_stop : signal.windowEnd = stop) :
    healthComplete health start stop = true := by
  subst same from_start to_stop
  simp [healthComplete, exactHealth, sortSlice]

/-- What an input contains under the ids of a list. -/
def Named {Event : Type} (observe : Event → Observation) (ids : List Bytes)
    (given named : List Event) : Prop :=
  ∀ event, event ∈ named ↔ event ∈ given ∧ (observe event).eventID ∈ ids

theorem Consistent.subset
    {Event : Type} {observe : Event → Observation}
    {checks : Event → List (Option InputError)} {values others : List Event}
    (consistent : Consistent observe checks values) (inside : others ⊆ values) :
    Consistent observe checks others :=
  ⟨fun event member => consistent.valid event (inside member),
    fun first left second right =>
      consistent.agree first (inside left) second (inside right)⟩

/-- An emitted signal is emitted again on any part of the input that has the
named events of its own source. -/
theorem signal_emitted_again
    (accepted : detector.evaluate crypto input = .ok output)
    (listed : signal ∈ output.signals) (started : signal.windowStart ≠ 0)
    {gatewayEvents : List GatewayEvent} {authEvents : List AuthEvent}
    (gatewayInside : gatewayEvents ⊆ input.gatewayEvents)
    (authInside : authEvents ⊆ input.authEvents)
    (gatewayNamed : signal.ruleID ≠ .credentialStuffing →
      Named GatewayEvent.toObservation signal.evidenceIDs input.gatewayEvents
        gatewayEvents)
    (authNamed : signal.ruleID = .credentialStuffing →
      Named AuthEvent.toObservation signal.evidenceIDs input.authEvents
        authEvents) :
    ∃ reproduced, detector.evaluate crypto
        (exactInput signal gatewayEvents authEvents) = .ok reproduced ∧
      ∃ evaluation ∈ reproduced.evaluations signal.ruleID,
        evaluation.signal = some signal := by
  obtain ⟨kind, evaluation, member, emitted⟩ := Output.mem_signals_iff.mp listed
  obtain ⟨rfl, start, stop, -, -⟩ := emitted_frame accepted member emitted
  obtain ⟨normal, admissible, same, rfl⟩ := Detector.evaluate_ok accepted
  have positive := signal.ruleID.window_pos
  have ended : signal.windowEnd ≠ 0 := stop ▸ admissible.now
  have ordered : signal.windowStart ≤ signal.windowEnd := by omega
  have again : (exactInput signal gatewayEvents authEvents).Admissible
      detector.config :=
    ⟨ended, Consistent.subset admissible.gatewayEvents gatewayInside,
      Consistent.subset admissible.authEvents authInside,
      exactHealth_admissible started ended ordered,
      exactHealth_admissible started ended ordered⟩
  obtain ⟨reproduced, evaluated⟩ := detector.exists_evaluate crypto again
  obtain ⟨other, -, otherSame, rfl⟩ := Detector.evaluate_ok evaluated
  refine ⟨_, evaluated, evaluation, ?_, emitted⟩
  have now : other.now = normal.now :=
    otherSame.now.trans (stop.trans same.now.symm)
  rw [← same.now] at start stop
  have gatewayHealth :=
    healthComplete_exactHealth otherSame.gatewayHealth start stop
  have authHealth := healthComplete_exactHealth otherSame.authHealth start stop
  have frozen := detector.frozen
  cases kind : signal.ruleID with
  | pathScan =>
      rw [kind] at member gatewayHealth
      have realizes := pathScanRule_realizes frozen
      refine evaluation_reproduced realizes same.gatewayEvents
        otherSame.gatewayEvents member emitted
        (gatewayNamed (by simp [kind])) (healthComplete other.gatewayHealth)
        now ?_
      rw [realizes.window]
      exact gatewayHealth
  | requestBurst =>
      rw [kind] at member gatewayHealth
      have realizes := requestBurstRule_realizes frozen
      refine evaluation_reproduced realizes same.gatewayEvents
        otherSame.gatewayEvents member emitted
        (gatewayNamed (by simp [kind])) (healthComplete other.gatewayHealth)
        now ?_
      rw [realizes.window]
      exact gatewayHealth
  | loginBruteForce =>
      rw [kind] at member gatewayHealth authHealth
      have realizes := loginBruteForceRule_realizes frozen
      change evaluation ∈ (loginBruteForceRule detector.config).evaluate crypto
        detector (fun start stop =>
          healthComplete normal.gatewayHealth start stop &&
            healthComplete normal.authHealth start stop) _ _ at member
      refine evaluation_reproduced realizes same.gatewayEvents
        otherSame.gatewayEvents member emitted
        (gatewayNamed (by simp [kind]))
        (fun start stop => healthComplete other.gatewayHealth start stop &&
          healthComplete other.authHealth start stop) now ?_
      rw [realizes.window, Bool.and_eq_true]
      exact ⟨gatewayHealth, authHealth⟩
  | credentialStuffing =>
      rw [kind] at member authHealth
      have realizes := credentialStuffingRule_realizes frozen
      refine evaluation_reproduced realizes same.authEvents
        otherSame.authEvents member emitted (authNamed kind)
        (healthComplete other.authHealth) now ?_
      rw [realizes.window]
      exact authHealth

end Detector

/-! ## The check before a signal is stored -/

section Check

variable {crypto : Crypto} {store : EvidenceStore} {signal : Signal}

/-- The store covers the window of a signal and has these events under the ids
that the signal names. -/
structure EvidenceStore.Returns (store : EvidenceStore) (signal : Signal)
    (gatewayEvents : List GatewayEvent) (authEvents : List AuthEvent) :
    Prop where
  gatewayCovered : signal.ruleID ≠ .credentialStuffing →
    coverageIncludes store .gateway signal.serviceLabel signal.windowStart
      signal.windowEnd = true
  authCovered : signal.ruleID = .credentialStuffing ∨
      signal.ruleID = .loginBruteForce →
    coverageIncludes store .auth signal.serviceLabel signal.windowStart
      signal.windowEnd = true
  gateway : if signal.ruleID = .credentialStuffing then gatewayEvents = []
    else store.gatewayRows signal.evidenceIDs = some gatewayEvents ∧
      gatewayEvents.length = signal.evidenceIDs.length
  auth : if signal.ruleID = .credentialStuffing then
      store.authRows signal.evidenceIDs = some authEvents ∧
        authEvents.length = signal.evidenceIDs.length
    else authEvents = []

theorem loadEvidence_eq_ok_iff
    {Event : Type} {rows : List Bytes → Option (List Event)}
    {ids : List Bytes} {events : List Event} :
    loadEvidence rows ids = .ok events ↔
      rows ids = some events ∧ events.length = ids.length := by
  unfold loadEvidence
  cases rows ids with
  | none => simp
  | some result =>
      by_cases whole : result.length = ids.length
      · simp only [whole, ne_eq, not_true_eq_false, if_false, Except.ok.injEq,
          Option.some.injEq]
        constructor
        · rintro rfl
          exact ⟨rfl, whole⟩
        · exact And.left
      · simp only [ne_eq, whole, not_false_eq_true, if_true, reduceCtorEq,
          Option.some.injEq, false_iff, not_and]
        rintro rfl
        exact whole

/-- A failed check ends the loading. -/
private theorem bind_guard_eq_ok_iff
    {Result : Type} {refused : Prop} [Decidable refused]
    {failure : ReproduceError}
    {rest : Except ReproduceError Result} {result : Result} :
    (if refused then (throw failure >>= fun _ : PUnit => rest) else rest) =
        .ok result ↔
      ¬ refused ∧ rest = .ok result := by
  by_cases held : refused
  · simp [held, throw, throwThe, MonadExceptOf.throw, Bind.bind, Except.bind]
  · simp [held]

private theorem bind_eq_ok_iff
    {Loaded Result : Type} {first : Except ReproduceError Loaded}
    {rest : Loaded → Except ReproduceError Result} {result : Result} :
    (first >>= rest) = .ok result ↔
      ∃ loaded, first = .ok loaded ∧ rest loaded = .ok result := by
  cases first with
  | error => simp [Bind.bind, Except.bind]
  | ok => simp [Bind.bind, Except.bind]

/-- What is evaluated again is what the store returns. -/
theorem loadInput_eq_ok_iff {input : EvaluationInput} :
    loadInput store signal = .ok input ↔
      ∃ gatewayEvents authEvents, store.Returns signal gatewayEvents authEvents ∧
        input = exactInput signal gatewayEvents authEvents := by
  unfold loadInput
  simp only [bind_guard_eq_ok_iff]
  by_cases stuffing : signal.ruleID = .credentialStuffing
  · rw [if_neg (not_not.mpr stuffing), pure_bind]
    simp only [bind_guard_eq_ok_iff, if_pos stuffing, bind_eq_ok_iff,
      loadEvidence_eq_ok_iff, pure, Except.pure, Except.ok.injEq]
    constructor
    · rintro ⟨-, covered, authEvents, rows, rfl⟩
      refine ⟨[], authEvents, ⟨?_, ?_, ?_, ?_⟩, rfl⟩
      · exact fun other => absurd stuffing other
      · exact fun needed => not_not.mp (not_and.mp covered needed)
      · rw [if_pos stuffing]
      · rwa [if_pos stuffing]
    · rintro ⟨gatewayEvents, authEvents, ⟨-, covered, gateway, auth⟩, rfl⟩
      rw [if_pos stuffing] at gateway auth
      refine ⟨fun refused => refused.1 stuffing, ?_, authEvents, auth, ?_⟩
      · exact fun refused => refused.2 (covered refused.1)
      · rw [gateway]
  · rw [if_pos stuffing]
    simp only [bind_guard_eq_ok_iff, if_neg stuffing, bind_eq_ok_iff,
      loadEvidence_eq_ok_iff, pure, Except.pure, Except.ok.injEq]
    constructor
    · rintro ⟨gatewayCovered, gatewayEvents, rows, authCovered, authEvents,
        rfl, rfl⟩
      refine ⟨gatewayEvents, [], ⟨?_, ?_, ?_, ?_⟩, rfl⟩
      · exact fun needed => not_not.mp (not_and.mp gatewayCovered needed)
      · exact fun needed => not_not.mp (not_and.mp authCovered needed)
      · rwa [if_neg stuffing]
      · rw [if_neg stuffing]
    · rintro ⟨gatewayEvents, authEvents, ⟨gatewayCovered, authCovered, gateway,
        auth⟩, rfl⟩
      rw [if_neg stuffing] at gateway auth
      refine ⟨fun refused => refused.2 (gatewayCovered refused.1),
        gatewayEvents, gateway,
        fun refused => refused.2 (authCovered refused.1), [], rfl, ?_⟩
      rw [auth]

/-! ### The signals of an output by their ids -/

theorem mem_of_mem_putSignals {signals byID : List Signal}
    (member : signal ∈ signals.foldl putSignal byID) :
    signal ∈ byID ∨ signal ∈ signals := by
  induction signals generalizing byID with
  | nil => exact .inl member
  | cons next rest ih =>
      rcases ih member with stored | later
      · rw [putSignal, List.mem_append, List.mem_filter] at stored
        rcases stored with ⟨stored, -⟩ | rfl_next
        · exact .inl stored
        · exact .inr (List.mem_cons.mpr (.inl (List.mem_singleton.mp rfl_next)))
      · exact .inr (List.mem_cons_of_mem _ later)

/-- A signal that no later one replaces is found under its id. -/
theorem mem_putSignals
    {signals byID : List Signal} (given : signal ∈ byID ∨ signal ∈ signals)
    (unique : ∀ other ∈ signals, other.signalID = signal.signalID →
      other = signal) :
    signal ∈ signals.foldl putSignal byID := by
  induction signals generalizing byID with
  | nil => exact given.resolve_right List.not_mem_nil
  | cons next rest ih =>
      refine ih ?_ fun other member =>
        unique other (List.mem_cons_of_mem _ member)
      rw [putSignal, List.mem_append, List.mem_filter, List.mem_singleton]
      by_cases same : signal = next
      · exact .inl (.inr same)
      · have kept : signal.signalID ≠ next.signalID := fun equal =>
          same (unique next List.mem_cons_self equal.symm).symm
        rcases given with stored | listed
        · exact .inl (.inl ⟨stored, decide_eq_true kept⟩)
        · exact .inr ((List.mem_cons.mp listed).resolve_left same)

theorem mem_signals_of_mem_collectSignals {output : Output}
    (member : signal ∈ (collectSignals output).1) :
    signal ∈ output.signals := by
  unfold collectSignals at member
  rw [mem_sortSlice] at member
  have listed := (mem_of_mem_putSignals member).resolve_left List.not_mem_nil
  obtain ⟨evaluation, inside, chosen⟩ := List.mem_filterMap.mp listed
  split at chosen
  · exact List.mem_filterMap.mpr ⟨evaluation, inside, chosen⟩
  · cases chosen

theorem mem_collectSignals
    {output : Output} {evaluation : RuleEvaluation} {kind : RuleID}
    (member : evaluation ∈ output.evaluations kind)
    (supporting : evaluation.enforcementSupporting = true)
    (emitted : evaluation.signal = some signal)
    (unique : ∀ other ∈ output.signals, other.signalID = signal.signalID →
      other = signal) :
    signal ∈ (collectSignals output).1 := by
  have inside : evaluation ∈ output.pathScan ++ output.requestBurst ++
      output.loginBruteForce ++ output.credentialStuffing := by
    cases kind <;> simp_all [Output.evaluations]
  unfold collectSignals
  rw [mem_sortSlice]
  apply mem_putSignals
  · refine .inr (List.mem_filterMap.mpr ⟨evaluation, inside, ?_⟩)
    rw [if_pos supporting, emitted]
  · intro other listed
    apply unique other
    obtain ⟨source, sourceInside, chosen⟩ := List.mem_filterMap.mp listed
    split at chosen
    · exact List.mem_filterMap.mpr ⟨source, sourceInside, chosen⟩
    · cases chosen

/-- Only a match carries a signal, and a match supports enforcement. -/
theorem enforcementSupporting_of_emitted
    {detector : Detector} {input : EvaluationInput} {output : Output}
    (accepted : detector.evaluate crypto input = .ok output)
    {kind : RuleID} {evaluation : RuleEvaluation}
    (member : evaluation ∈ output.evaluations kind)
    (emitted : evaluation.signal = some signal) :
    evaluation.enforcementSupporting = true := by
  obtain ⟨normal, admissible, same, rfl⟩ := Detector.evaluate_ok accepted
  obtain ⟨Event, rule, complete, given, values, -, evaluations⟩ :=
    detector.exists_applies crypto admissible same kind
  rw [evaluations] at member
  obtain ⟨group, rfl, healthy, ⟨trusted, verified⟩, met, -⟩ :=
    Rule.emitted member emitted
  simp [Rule.evaluation, Rule.finalizeEvaluation, healthy, trusted, verified,
    met]

/-- What the check accepts. -/
theorem reproduceSignal_eq_ok_iff :
    reproduceSignal crypto store signal = .ok () ↔
      signal.sourceHealthStatus = .complete ∧ signal.evidenceIDs ≠ [] ∧
        ∃ gatewayEvents authEvents output,
          store.Returns signal gatewayEvents authEvents ∧
          newDefault.evaluate crypto
            (exactInput signal gatewayEvents authEvents) = .ok output ∧
          signal ∈ (collectSignals output).1 := by
  have verdict : ∀ input,
      (match newDefault.evaluate crypto input with
        | .error error => throw (ReproduceError.input error)
        | .ok output =>
            if (collectSignals output).1.any fun candidate =>
                candidate.signalID = signal.signalID ∧ candidate = signal then
              pure ()
            else throw ReproduceError.invalidSnapshot) =
        (.ok () : Except ReproduceError Unit) ↔
      ∃ output, newDefault.evaluate crypto input = .ok output ∧
        signal ∈ (collectSignals output).1 := by
    intro input
    cases newDefault.evaluate crypto input with
    | error => simp [throw, throwThe, MonadExceptOf.throw]
    | ok output =>
        by_cases listed : signal ∈ (collectSignals output).1
        · simp [listed, pure, Except.pure]
        · simp [listed, throw, throwThe, MonadExceptOf.throw]
  unfold reproduceSignal
  simp only [bind_guard_eq_ok_iff, bind_eq_ok_iff, loadInput_eq_ok_iff, not_or,
    verdict, ne_eq, not_not, and_assoc]
  constructor
  · rintro ⟨complete, named, input, ⟨gatewayEvents, authEvents, returned, rfl⟩,
      output, evaluated, member⟩
    exact ⟨complete, named, gatewayEvents, authEvents, output, returned,
      evaluated, member⟩
  · rintro ⟨complete, named, gatewayEvents, authEvents, output, returned,
      evaluated, member⟩
    exact ⟨complete, named, _, ⟨gatewayEvents, authEvents, returned, rfl⟩,
      output, evaluated, member⟩

end Check

/-- A store that holds the sample input. -/
def sampleStore : EvidenceStore where
  coverageStart _ _ _ := some (some (sampleHealth .gateway).coverageStart)
  gatewayRows ids := some (sampleInput.gatewayEvents.filter (·.eventID ∈ ids))
  authRows ids := some (sampleInput.authEvents.filter (·.eventID ∈ ids))

def sampleSignals : List Signal :=
  ((newDefault.evaluate Sha256.hashing sampleInput).toOption.map
    Output.signals).getD []

end SentinelFlow.DetectionWorker
