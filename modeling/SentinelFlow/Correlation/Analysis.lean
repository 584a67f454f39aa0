import SentinelFlow.Correlation.History

/-!
# Analyses of an incident

While an incident is being analysed, every applied call ends the analysis.  So
an analysis completes on the evidence it began with.  The attempts are counted
over the whole life of the incident: a new signal opens it again but gives back
no attempt.
-/

namespace SentinelFlow.Correlation

open GoLib Detection

section Analysis

variable {crypto : Crypto} {group : Group} {time : Int}
  {entries earlier : List Entry} {entry : Entry} {incident : Incident}

/-! ## The last applied call -/

/-- `entry` is the last applied call, with `earlier` before it. -/
def LastApplied (entries earlier : List Entry) (entry : Entry) : Prop :=
  ∃ later, entries = earlier ++ entry :: later ∧ entry.applied = true ∧
    ∀ other ∈ later, other.applied = false

theorem LastApplied.append
    (last : LastApplied entries earlier entry) {next : Entry}
    (kept : next.applied = false) :
    LastApplied (entries ++ [next]) earlier entry := by
  obtain ⟨later, rfl, applied, unapplied⟩ := last
  refine ⟨later ++ [next], by simp, applied, ?_⟩
  intro other member
  rcases List.mem_append.mp member with old | new
  · exact unapplied other old
  · rw [List.mem_singleton.mp new]
    exact kept

theorem lastApplied_append (applied : entry.applied = true) :
    LastApplied (entries ++ [entry]) entries entry :=
  ⟨[], rfl, applied, List.forall_mem_nil _⟩

/-- The state in which a kind of call leaves the incident. -/
def CommandKind.leaves : CommandKind → IncidentState
  | .beginAnalysis => .incidentAnalyzing
  | .completeAnalysis => .incidentReviewReady
  | .failAnalysis => .incidentAnalysisFailed
  | .closeIdle => .incidentClosed
  | .routeSignal => .incidentOpen

theorem leaves_injective : Function.Injective CommandKind.leaves := by
  intro first second same
  cases first <;> cases second <;> first | rfl | cases same

theorem Effect.state
    {call : Call} {next : Incident}
    (effect : Effect crypto incident call next) :
    next.state = call.kind.leaves := by
  cases effect <;> rfl

/-- Only a routed signal changes the evidence. -/
theorem Effect.evidence
    {call : Call} {next : Incident}
    (effect : Effect crypto incident call next)
    (transition : call.kind ≠ .routeSignal) :
    next.snapshot = incident.snapshot ∧ next.signals = incident.signals ∧
      next.relations = incident.relations := by
  cases effect with
  | joined command signal reopening snapshot valid ended new source admitted
      built => exact absurd rfl transition
  | _ => exact ⟨rfl, rfl, rfl⟩

/-- The state tells the last applied call; where there is none, the incident is
open. -/
theorem History.last
    (history : History crypto group time entries incident) :
    (incident.state = .incidentOpen ∧ ∀ entry ∈ entries,
      entry.applied = false) ∨
      ∃ earlier entry, LastApplied entries earlier entry ∧
        incident = entry.after := by
  induction history with
  | created made =>
      obtain ⟨rebuilt, -, rfl⟩ := newIncident_ok made
      exact .inl ⟨rfl, List.forall_mem_nil _⟩
  | @called entries incident history call ih =>
      rcases after_cases crypto incident call with ⟨kept, same⟩ | ⟨applied, -⟩
      · rw [same]
        rcases ih with ⟨opened, none⟩ | ⟨earlier, entry, last, after⟩
        · refine .inl ⟨opened, ?_⟩
          intro entry member
          rcases List.mem_append.mp member with old | new
          · exact none entry old
          · rw [List.mem_singleton.mp new]
            exact kept
        · exact .inr ⟨earlier, entry, last.append kept, after⟩
      · exact .inr ⟨entries, _, lastApplied_append applied, rfl⟩

/-- What an applied call of a history did. -/
theorem History.effect
    (history : History crypto group time entries incident)
    {later : List Entry} (split : entries = earlier ++ entry :: later)
    (applied : entry.applied = true) :
    History crypto group time earlier entry.before ∧
      ∃ next, Effect crypto entry.before entry.call next ∧
        entry.after = next.commit entry.call.command
          (entry.call.fingerprint crypto) := by
  obtain ⟨current, before, made⟩ := history.before split
  have start : entry.before = current := by rw [made]; rfl
  have stop : entry.after = current.after crypto entry.call := by
    rw [made]
    rfl
  rw [start, stop]
  refine ⟨before, ?_⟩
  rcases after_cases crypto current entry.call with
    ⟨kept, -⟩ | ⟨-, -, next, effect, after⟩
  · rw [← made, applied] at kept
    cases kept
  · exact ⟨next, effect, after⟩

/-- A state other than the open one comes from the last applied call. -/
theorem History.last_of_state
    (history : History crypto group time entries incident)
    (kind : CommandKind) (state : incident.state = kind.leaves)
    (closed : kind ≠ .routeSignal) :
    ∃ earlier entry, LastApplied entries earlier entry ∧
      entry.call.kind = kind ∧ incident = entry.after := by
  rcases history.last with ⟨opened, -⟩ | ⟨earlier, entry, last, after⟩
  · have same : kind = .routeSignal :=
      leaves_injective (state.symm.trans opened)
    exact absurd same closed
  · refine ⟨earlier, entry, last, leaves_injective ?_, after⟩
    obtain ⟨later, split, applied, -⟩ := last
    obtain ⟨-, next, effect, made⟩ := history.effect split applied
    rw [← effect.state, ← state, after, made]
    rfl

/-! ## What is analysed -/

/-- An applied completion ends the analysis that the last applied call before it
began, on the same evidence. -/
theorem History.completed
    (history : History crypto group time entries incident)
    {later : List Entry} (split : entries = earlier ++ entry :: later)
    (applied : entry.applied = true)
    (completes : entry.call.kind = .completeAnalysis) :
    ∃ before started, LastApplied earlier before started ∧
      started.call.kind = .beginAnalysis ∧
      entry.before.snapshot = started.before.snapshot ∧
      entry.after.snapshot = started.before.snapshot := by
  obtain ⟨prior, next, effect, made⟩ := history.effect split applied
  have analyzing : entry.before.state = .incidentAnalyzing := by
    generalize entry.call = call at effect completes
    cases effect with
    | completed command analyzing => exact analyzing
    | _ => cases completes
  have kept : entry.after.snapshot = entry.before.snapshot := by
    rw [made]
    exact (effect.evidence (by rw [completes]; nofun)).1
  obtain ⟨before, started, last, begins, current⟩ :=
    prior.last_of_state .beginAnalysis analyzing nofun
  refine ⟨before, started, last, begins, ?_⟩
  obtain ⟨later, split, applied, -⟩ := last
  obtain ⟨-, begun, effect, made⟩ := prior.effect split applied
  have same : entry.before.snapshot = started.before.snapshot := by
    rw [current, made]
    exact (effect.evidence (by rw [begins]; nofun)).1
  exact ⟨same, kept.trans same⟩

/-- Analyses complete on the evidence they began with, and an incident that is
ready for review still holds it. -/
theorem analysis_on_current_evidence
    (history : History crypto group time entries incident) :
    (∀ earlier entry later, entries = earlier ++ entry :: later →
      entry.applied = true → entry.call.kind = .completeAnalysis →
      ∃ before started, LastApplied earlier before started ∧
        started.call.kind = .beginAnalysis ∧
        entry.before.snapshot = started.before.snapshot ∧
        entry.after.snapshot = started.before.snapshot) ∧
    (incident.state = .incidentReviewReady →
      ∃ earlier completed before started,
        LastApplied entries earlier completed ∧
        completed.call.kind = .completeAnalysis ∧
        LastApplied earlier before started ∧
        started.call.kind = .beginAnalysis ∧
        incident.snapshot = started.before.snapshot) := by
  constructor
  · intro earlier entry later split applied completes
    exact history.completed split applied completes
  · intro ready
    obtain ⟨earlier, completed, last, completes, current⟩ :=
      history.last_of_state .completeAnalysis ready nofun
    obtain ⟨later, split, applied, unapplied⟩ := last
    obtain ⟨before, started, begun, begins, -, same⟩ :=
      history.completed split applied completes
    refine ⟨earlier, completed, before, started,
      ⟨later, split, applied, unapplied⟩, completes, begun, begins, ?_⟩
    rw [current, same]

end Analysis

theorem sampleAnalysis_current :
    ∃ group time entries incident,
      History Sha256.hashing group time entries incident ∧
      incident.state = .incidentReviewReady ∧
      ∃ earlier completed before started,
        LastApplied entries earlier completed ∧
        completed.call.kind = .completeAnalysis ∧
        LastApplied earlier before started ∧
        started.call.kind = .beginAnalysis ∧
        incident.snapshot = started.before.snapshot := by
  obtain ⟨group, entries, incident, -, history, checked⟩ :=
    exists_of_sampleRun
      [.beginAnalysis (sampleCommand 1 1 60),
        .completeAnalysis (sampleCommand 2 2 70)]
      (fun _ incident => incident.state = .incidentReviewReady)
      (by decide +kernel)
  have ready := of_decide_eq_true checked
  exact ⟨group, _, entries, incident, history, ready,
    (analysis_on_current_evidence history).2 ready⟩

/-! ## Attempts -/

section Attempts

variable {crypto : Crypto} {group : Group} {time : Int}
  {entries : List Entry} {incident : Incident}

/-- Whether the entry began an analysis. -/
def Entry.began (entry : Entry) : Bool :=
  entry.applied && entry.call.kind = .beginAnalysis

theorem Effect.attempts
    {call : Call} {next : Incident}
    (effect : Effect crypto incident call next) :
    next.analysisAttempts = incident.analysisAttempts +
      if call.kind = .beginAnalysis then 1 else 0 := by
  cases effect <;> rfl

/-- The attempts are counted from the creation on. -/
theorem History.attempts
    (history : History crypto group time entries incident) :
    incident.analysisAttempts = (entries.filter Entry.began).length := by
  induction history with
  | created made =>
      obtain ⟨rebuilt, -, rfl⟩ := newIncident_ok made
      rfl
  | @called entries incident history call ih =>
      rw [List.filter_append, List.length_append]
      rcases after_cases crypto incident call with
        ⟨kept, same⟩ | ⟨applied, -, next, effect, after⟩
      · rw [same, ih]
        simp [Entry.began, kept]
      · have counted : (next.commit call.command
            (call.fingerprint crypto)).analysisAttempts =
              next.analysisAttempts := rfl
        have began : (entryOf crypto incident call).began =
            decide (call.kind = .beginAnalysis) := by
          rw [Entry.began, applied, Bool.true_and]
          rfl
        rw [after, counted, effect.attempts, ih]
        by_cases begins : call.kind = .beginAnalysis
        · simp [began, begins]
        · simp [began, begins]

/-- A fresh command begins the analysis of an open incident that has an attempt
left. -/
theorem beginAnalysis_of_open
    {command : Command} (opened : incident.state = .incidentOpen)
    (left : incident.analysisAttempts < maximumAnalysisAttempts)
    (fresh : Fresh incident command) :
    ∃ next result, incident.beginAnalysis crypto command = .ok (next, result) ∧
      result.disposition = .applied := by
  have absent : incident.commands.find? (·.id = command.id) = none := by
    apply List.find?_eq_none.mpr
    intro record member
    simpa using fresh.unused record member
  have prepared : prepareCommand crypto incident command .beginAnalysis [] =
      .ok (commandFingerprint crypto .beginAnalysis command [], none) := by
    unfold prepareCommand
    rw [if_neg (not_not.mpr fresh.id), if_neg fresh.time]
    dsimp only
    rw [absent]
    dsimp only
    rw [if_neg (not_not.mpr fresh.revision),
      if_neg (Int.not_lt.mpr fresh.later)]
  unfold Incident.beginAnalysis Incident.transition
  rw [prepared]
  dsimp only
  rw [if_neg (by simp [opened]), if_neg (by simp [opened]),
    if_neg (Nat.not_le.mpr left)]
  exact ⟨_, _, rfl, rfl⟩

/-- A signal that is appended to an incident or reopens it makes it analysable
again, as long as an attempt is left from before. -/
theorem beginAnalysis_after_routeSignal
    (history : History crypto group time entries incident)
    {command : Command} {signal : Signal}
    (routed : (entryOf crypto incident (.routeSignal command signal)).applied =
      true)
    (budget : (entries.filter Entry.began).length < maximumAnalysisAttempts)
    {next : Incident}
    (after : incident.after crypto (.routeSignal command signal) = next)
    {id : Bytes} (shaped : digestPattern.matchString id = true)
    (unused : ∀ record ∈ next.commands, record.id ≠ id)
    {instant : Int} (set : instant ≠ 0) (later : next.updatedAt ≤ instant) :
    next.state = .incidentOpen ∧
      ∃ analyzed result,
        next.beginAnalysis crypto
          { id, expectedRevision := next.revision, time := instant } =
            .ok (analyzed, result) ∧
        result.disposition = .applied := by
  rcases after_cases crypto incident (.routeSignal command signal) with
    ⟨kept, -⟩ | ⟨-, -, joined, effect, made⟩
  · rw [kept] at routed
    cases routed
  · rw [made] at after
    have opened : next.state = .incidentOpen := by
      rw [← after]
      exact effect.state
    have counted : next.analysisAttempts = incident.analysisAttempts := by
      rw [← after]
      exact effect.attempts
    refine ⟨opened, beginAnalysis_of_open opened ?_
      ⟨shaped, set, unused, rfl, later⟩⟩
    rw [counted, history.attempts]
    exact budget

end Attempts

theorem sampleRoute_analysable :
    ∃ group time incident,
      History Sha256.hashing group time [] incident ∧
      ∃ next, incident.after Sha256.hashing sampleRoute = next ∧
        ∃ analyzed result,
          next.beginAnalysis Sha256.hashing
            { id := (sampleCommand 2 0 0).id
              expectedRevision := next.revision
              time := next.updatedAt } = .ok (analyzed, result) ∧
          result.disposition = .applied := by
  obtain ⟨group, entries, incident, -, history, checked⟩ :=
    exists_of_sampleRun [] (fun entries incident =>
      entries.isEmpty &&
        (entryOf Sha256.hashing incident sampleRoute).applied &&
        let next := incident.after Sha256.hashing sampleRoute
        decide (next.updatedAt ≠ 0) &&
          next.commands.all fun record => record.id ≠ (sampleCommand 2 0 0).id)
      (by decide +kernel)
  simp only [Bool.and_eq_true, decide_eq_true_eq, List.all_eq_true,
    List.isEmpty_iff] at checked
  obtain ⟨⟨rfl, routed⟩, set, unused⟩ := checked
  obtain ⟨-, analyzed⟩ := beginAnalysis_after_routeSignal history routed
    (by decide) rfl (by decide +kernel) unused set le_rfl
  exact ⟨group, _, incident, history, _, rfl, analyzed⟩

/-- A failed and a completed analysis use up the attempts: the signal that comes
then opens the incident, and no command can begin its analysis. -/
theorem sampleRoute_not_analysable :
    ∃ group time entries incident,
      History Sha256.hashing group time entries incident ∧
      (∃ earlier entry, LastApplied entries earlier entry ∧
        entry.call.kind = .routeSignal) ∧
      incident.state = .incidentOpen ∧
      ∀ command, (entryOf Sha256.hashing incident
        (.beginAnalysis command)).applied = false := by
  obtain ⟨group, entries, incident, -, history, checked⟩ :=
    exists_of_sampleRun
      [.beginAnalysis (sampleCommand 1 1 60),
        .failAnalysis (sampleCommand 2 2 70) (some .networkError),
        .beginAnalysis (sampleCommand 3 3 80),
        .completeAnalysis (sampleCommand 4 4 90),
        .routeSignal (sampleCommand 5 5 360) (sampleSignal 2 300 360)]
      (fun entries incident =>
        (decide (incident.analysisAttempts = 2) &&
          incident.state = .incidentOpen) &&
        decide (∃ entry ∈ entries, entry.applied = true))
      (by decide +kernel)
  simp only [Bool.and_eq_true, decide_eq_true_eq] at checked
  obtain ⟨⟨spent, opened⟩, entry, member, applied⟩ := checked
  refine ⟨group, _, entries, incident, history, ?_, opened, ?_⟩
  · rcases history.last with ⟨-, none⟩ | ⟨earlier, entry, last, after⟩
    · rw [none entry member] at applied
      cases applied
    · refine ⟨earlier, entry, last, leaves_injective ?_⟩
      obtain ⟨later, split, applied, -⟩ := last
      obtain ⟨-, next, effect, made⟩ := history.effect split applied
      have same : next.state = .incidentOpen := by
        rw [← opened, after, made]
        rfl
      rw [← effect.state, same]
      rfl
  · intro command
    rcases after_cases Sha256.hashing incident (.beginAnalysis command) with
      ⟨kept, -⟩ | ⟨-, -, next, effect, -⟩
    · exact kept
    · cases effect with
      | began command ready attempts =>
          rw [spent] at attempts
          exact absurd attempts (by decide)

end SentinelFlow.Correlation
