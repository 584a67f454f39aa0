import SentinelFlow.Detection.Specification

/-!
# What a decision depends on

The decision about a group depends on the set of its events and on the health
of the sources, not on the order or the repetition of the input and not on the
events of other groups.
-/

namespace SentinelFlow.Detection

open GoLib

/-- Two healths that differ at most in the order and the repetition of their
intervals. -/
structure SourceHealth.Same (first second : SourceHealth) : Prop where
  source : first.source = second.source
  complete : first.complete = second.complete
  coverageStart : first.coverageStart = second.coverageStart
  coverageEnd : first.coverageEnd = second.coverageEnd
  intervals : ∀ interval,
    interval ∈ first.intervals ↔ interval ∈ second.intervals

/-- The same instant, and sources in the same health. -/
structure EvaluationInput.SameSources (first second : EvaluationInput) :
    Prop where
  now : first.now = second.now
  gatewayHealth : first.gatewayHealth.Same second.gatewayHealth
  authHealth : first.authHealth.Same second.authHealth

/-- The same events of the groups that are kept. -/
structure EvaluationInput.SameEvents (keep : GroupKey → Prop)
    (first second : EvaluationInput) : Prop where
  gateway : ∀ event : GatewayEvent, keep event.group →
    (event ∈ first.gatewayEvents ↔ event ∈ second.gatewayEvents)
  auth : ∀ event : AuthEvent, keep event.group →
    (event ∈ first.authEvents ↔ event ∈ second.authEvents)

variable {first second : SourceHealth}

theorem SourceHealth.Same.symm
    (same : first.Same second) :
    second.Same first :=
  ⟨same.source.symm, same.complete.symm, same.coverageStart.symm,
    same.coverageEnd.symm, fun interval => (same.intervals interval).symm⟩

theorem EvaluationInput.SameSources.symm
    {first second : EvaluationInput} (same : first.SameSources second) :
    second.SameSources first :=
  ⟨same.now.symm, same.gatewayHealth.symm, same.authHealth.symm⟩

theorem EvaluationInput.SameEvents.symm
    {first second : EvaluationInput} {keep : GroupKey → Prop}
    (same : first.SameEvents keep second) : second.SameEvents keep first :=
  ⟨fun event kept => (same.gateway event kept).symm,
    fun event kept => (same.auth event kept).symm⟩

theorem SourceHealth.Same.healthComplete_eq
    (same : first.Same second) :
    healthComplete first = healthComplete second := by
  funext start stop
  have all : ∀ keep : HealthInterval → Bool,
      first.intervals.all keep = second.intervals.all keep := by
    intro keep
    rw [Bool.eq_iff_iff, List.all_eq_true, List.all_eq_true]
    simp only [same.intervals]
  rw [healthComplete, healthComplete, same.complete, same.coverageStart,
    same.coverageEnd, all]

theorem SourceHealth.Same.normalized
    {firstNormal secondNormal : SourceHealth}
    (same : first.Same second)
    (left : firstNormal = { first with
      intervals := sortSlice lessInterval first.intervals })
    (right : secondNormal = { second with
      intervals := sortSlice lessInterval second.intervals }) :
    firstNormal.Same secondNormal := by
  subst left right
  exact ⟨same.source, same.complete, same.coverageStart, same.coverageEnd,
    fun interval => by simpa only [mem_sortSlice] using same.intervals interval⟩

/-! ## One rule -/

section OneRule

variable {Event : Type} {rule : Rule Event}
  {values others normal normalOthers : List Event}
  (left : Arranged rule.observe values normal)
  (right : Arranged rule.observe others normalOthers)
include left right

theorem Rule.members_eq
    {now : Int} {group : GroupKey}
    (same : ∀ event, (rule.observe event).group = group →
      (event ∈ values ↔ event ∈ others)) :
    rule.members now normal group = rule.members now normalOthers group := by
  apply (Rule.members_increasing left now group).ext
    (Rule.members_increasing right now group)
  intro event
  rw [Rule.mem_members, Rule.mem_members, left.mem_iff, right.mem_iff]
  constructor
  · rintro ⟨member, recent, rfl⟩
    exact ⟨(same event rfl).mp member, recent, rfl⟩
  · rintro ⟨member, recent, rfl⟩
    exact ⟨(same event rfl).mpr member, recent, rfl⟩

/-- The evaluations of the kept groups depend on the events of these groups. -/
theorem Rule.evaluate_filter_eq
    (crypto : Crypto) (detector : Detector) (complete : Int → Int → Bool)
    (now : Int) (keep : GroupKey → Bool)
    (same : ∀ event, keep (rule.observe event).group = true →
      (event ∈ values ↔ event ∈ others)) :
    (rule.evaluate crypto detector complete normal now).filter
        (fun evaluation => keep evaluation.group) =
      (rule.evaluate crypto detector complete normalOthers now).filter
        (fun evaluation => keep evaluation.group) := by
  obtain ⟨groups, increasing, members, evaluations⟩ :=
    rule.evaluate_eq crypto detector complete normal now
  obtain ⟨otherGroups, otherIncreasing, otherMembers, otherEvaluations⟩ :=
    rule.evaluate_eq crypto detector complete normalOthers now
  rw [evaluations, otherEvaluations, List.filter_map, List.filter_map]
  simp only [Function.comp_def, Rule.evaluation_group]
  have equal : groups.filter keep = otherGroups.filter keep := by
    apply (increasing.filter keep).ext (otherIncreasing.filter keep)
    intro group
    simp only [List.mem_filter, members, otherMembers, left.mem_iff,
      right.mem_iff]
    constructor
    · rintro ⟨⟨event, member, recent, rfl⟩, kept⟩
      exact ⟨⟨event, (same event kept).mp member, recent, rfl⟩, kept⟩
    · rintro ⟨⟨event, member, recent, rfl⟩, kept⟩
      exact ⟨⟨event, (same event kept).mpr member, recent, rfl⟩, kept⟩
  rw [equal]
  apply List.map_congr_left
  intro group member
  have kept := (List.mem_filter.mp member).2
  unfold Rule.evaluation
  rw [rule.members_eq left right fun event inside =>
    same event (inside ▸ kept)]

end OneRule

/-! ## The detector -/

section Detector

variable {crypto : Crypto} {detector : Detector}
  {first second : EvaluationInput}

theorem EvaluationInput.Admissible.same
    {config : Config} (admissible : first.Admissible config)
    (sources : first.SameSources second)
    (events : first.SameEvents (fun _ => True) second) :
    second.Admissible config := by
  have gateway := fun event => events.gateway event trivial
  have auth := fun event => events.auth event trivial
  have health : ∀ {one other : SourceHealth} {expected : SourceKind},
      one.Same other → one.Admissible expected →
      other.Admissible expected := by
    intro one other expected same admissible
    refine ⟨same.source ▸ admissible.source, ?_, ?_, ?_⟩
    · rw [← same.coverageStart, ← same.coverageEnd]
      exact admissible.covered
    · rw [← same.coverageStart, ← same.coverageEnd]
      exact admissible.ordered
    · intro interval member
      exact admissible.intervals interval ((same.intervals interval).mpr member)
  refine ⟨sources.now ▸ admissible.now, ⟨?_, ?_⟩, ⟨?_, ?_⟩,
    health sources.gatewayHealth admissible.gatewayHealth,
    health sources.authHealth admissible.authHealth⟩
  · intro event member
    exact admissible.gatewayEvents.valid event ((gateway event).mpr member)
  · intro one inside other outside
    exact admissible.gatewayEvents.agree one ((gateway one).mpr inside) other
      ((gateway other).mpr outside)
  · intro event member
    exact admissible.authEvents.valid event ((auth event).mpr member)
  · intro one inside other outside
    exact admissible.authEvents.agree one ((auth one).mpr inside) other
      ((auth other).mpr outside)

/-- The evaluations of the kept groups agree on two accepted inputs. -/
theorem output_filter_eq
    (crypto : Crypto) (detector : Detector)
    {firstNormal secondNormal : EvaluationInput} (keep : GroupKey → Bool)
    (left : Normalized first firstNormal)
    (right : Normalized second secondNormal)
    (sources : first.SameSources second)
    (events : first.SameEvents (fun group => keep group = true) second)
    (rule : RuleID) :
    ((detector.output crypto firstNormal).evaluations rule).filter
        (fun evaluation => keep evaluation.group) =
      ((detector.output crypto secondNormal).evaluations rule).filter
        (fun evaluation => keep evaluation.group) := by
  have now : firstNormal.now = secondNormal.now :=
    left.now.trans (sources.now.trans right.now.symm)
  have gatewayHealth := (sources.gatewayHealth.normalized left.gatewayHealth
    right.gatewayHealth).healthComplete_eq
  have authHealth := (sources.authHealth.normalized left.authHealth
    right.authHealth).healthComplete_eq
  cases rule with
  | pathScan =>
      simp only [Output.evaluations, Detector.output,
        Detector.evaluatePathScan, now, gatewayHealth]
      exact Rule.evaluate_filter_eq left.gatewayEvents right.gatewayEvents
        crypto detector _ _ keep events.gateway
  | requestBurst =>
      simp only [Output.evaluations, Detector.output,
        Detector.evaluateRequestBurst, now, gatewayHealth]
      exact Rule.evaluate_filter_eq left.gatewayEvents right.gatewayEvents
        crypto detector _ _ keep events.gateway
  | loginBruteForce =>
      simp only [Output.evaluations, Detector.output,
        Detector.evaluateLoginBruteForce, now, gatewayHealth, authHealth]
      exact Rule.evaluate_filter_eq left.gatewayEvents right.gatewayEvents
        crypto detector _ _ keep events.gateway
  | credentialStuffing =>
      simp only [Output.evaluations, Detector.output,
        Detector.evaluateCredentialStuffing, now, authHealth]
      exact Rule.evaluate_filter_eq left.authEvents right.authEvents
        crypto detector _ _ keep events.auth

theorem Output.ext_evaluations
    {left right : EvaluationInput}
    (same : ∀ rule, (detector.output crypto left).evaluations rule =
      (detector.output crypto right).evaluations rule) :
    detector.output crypto left = detector.output crypto right := by
  have pathScan := same .pathScan
  have requestBurst := same .requestBurst
  have loginBruteForce := same .loginBruteForce
  have credentialStuffing := same .credentialStuffing
  simp only [Output.evaluations, Detector.output] at *
  rw [pathScan, requestBurst, loginBruteForce, credentialStuffing]

end Detector

/-- The output depends on the sets of events and intervals, and the evaluations
of a group on the events of that group. -/
theorem evaluate_depends_on_group (crypto : Crypto) (detector : Detector) :
    (∀ first second : EvaluationInput, first.SameSources second →
      first.SameEvents (fun _ => True) second →
      (∃ output, detector.evaluate crypto first = .ok output ∧
        detector.evaluate crypto second = .ok output) ∨
      ∃ failure other, detector.evaluate crypto first = .error failure ∧
        detector.evaluate crypto second = .error other) ∧
    ∀ (first second : EvaluationInput) (output other : Output)
      (group : GroupKey), detector.evaluate crypto first = .ok output →
      detector.evaluate crypto second = .ok other →
      first.SameSources second →
      first.SameEvents (· = group) second → ∀ rule,
        (output.evaluations rule).filter (·.group = group) =
          (other.evaluations rule).filter (·.group = group) := by
  constructor
  · intro first second sources events
    cases left : detector.evaluate crypto first with
    | error failure =>
        cases right : detector.evaluate crypto second with
        | error other => exact .inr ⟨failure, other, rfl, rfl⟩
        | ok =>
            obtain ⟨normal, admissible, -, -⟩ := Detector.evaluate_ok right
            obtain ⟨result, accepted⟩ := detector.exists_evaluate crypto
              (admissible.same sources.symm events.symm)
            cases left.symm.trans accepted
    | ok =>
        obtain ⟨normal, admissible, normalized, rfl⟩ :=
          Detector.evaluate_ok left
        obtain ⟨result, right⟩ := detector.exists_evaluate crypto
          (admissible.same sources events)
        obtain ⟨other, -, otherNormalized, rfl⟩ := Detector.evaluate_ok right
        refine .inl ⟨_, rfl, ?_⟩
        rw [right]
        congr 1
        apply Output.ext_evaluations
        intro rule
        have equal := output_filter_eq crypto detector (fun _ => true)
          otherNormalized normalized sources.symm
          ⟨fun event _ => events.symm.gateway event trivial,
            fun event _ => events.symm.auth event trivial⟩ rule
        simpa using equal
  · intro first second output other group left right sources events rule
    obtain ⟨normal, -, normalized, rfl⟩ := Detector.evaluate_ok left
    obtain ⟨otherNormal, -, otherNormalized, rfl⟩ := Detector.evaluate_ok right
    exact output_filter_eq crypto detector (fun name => name = group) normalized
      otherNormalized sources
      ⟨fun event inside => events.gateway event (of_decide_eq_true inside),
        fun event inside => events.auth event (of_decide_eq_true inside)⟩ rule

end SentinelFlow.Detection
