import SentinelFlow.Correlation.Incident

/-!
# Histories of incidents

A history lists the calls on an incident from its creation on, with what each
of them returned.  One call either leaves the incident as it is or has one of
the effects of `Effect`; the invariants of the aggregate and the rules of
replay follow by induction over the history.
-/

namespace SentinelFlow.Correlation

open GoLib Detection

/-- A call with the incident before and after it.  An incident is a value: when
a call fails the holder still has the incident from before. -/
structure Entry where
  call : Call
  before : Incident
  outcome : Except Error Response
  after : Incident

section History

variable (crypto : Crypto)

def Incident.after (incident : Incident) (call : Call) : Incident :=
  match incident.call crypto call with
  | .ok response => response.incident
  | .error _ => incident

def entryOf (incident : Incident) (call : Call) : Entry where
  call
  before := incident
  outcome := incident.call crypto call
  after := incident.after crypto call

/-- Whether the call changed the incident. -/
def Entry.applied (entry : Entry) : Bool :=
  match entry.outcome with
  | .ok response => response.applied
  | .error _ => false

/-- The histories of the incident that is created for a group. -/
inductive History (group : Group) (time : Int) :
    List Entry → Incident → Prop where
  | created {incident : Incident}
      (made : newIncident crypto group time = .ok incident) :
      History group time [] incident
  | called {entries : List Entry} {incident : Incident}
      (history : History group time entries incident) (call : Call) :
      History group time (entries ++ [entryOf crypto incident call])
        (incident.after crypto call)

end History

section Steps

variable {crypto : Crypto} {incident : Incident}

/-- One step of a history. -/
theorem after_cases (crypto : Crypto) (incident : Incident) (call : Call) :
    ((entryOf crypto incident call).applied = false ∧
        incident.after crypto call = incident) ∨
      ((entryOf crypto incident call).applied = true ∧
        Fresh incident call.command ∧
        ∃ next, Effect crypto incident call next ∧
          incident.after crypto call =
            next.commit call.command (call.fingerprint crypto)) := by
  cases returned : incident.call crypto call with
  | error =>
      refine .inl ⟨?_, ?_⟩
      · simp [Entry.applied, entryOf, returned]
      · simp [Incident.after, returned]
  | ok response =>
      have outcome := call_ok returned
      have applied : (entryOf crypto incident call).applied =
          response.applied := by
        simp [Entry.applied, entryOf, returned]
      have after : incident.after crypto call = response.incident := by
        simp [Incident.after, returned]
      rw [applied, after]
      exact outcome

/-! ## Invariants -/

/-- What holds of an incident at any time. -/
structure Sound (crypto : Crypto) (incident : Incident) : Prop where
  version : incident.version = 1 + incident.commands.length
  revision : incident.revision = 1 + incident.commands.length
  distinct : (incident.commands.map (·.id)).Nodup
  numbered : incident.commands.map (·.appliedRevision) =
    List.range' 2 incident.commands.length
  built : buildEvidenceSnapshot crypto incident.signals =
    .ok incident.snapshot
  lastSignalAt : incident.lastSignalAt = incident.snapshot.windowEnd
  attempts : incident.analysisAttempts ≤ maximumAnalysisAttempts
  closedAt : incident.closedAt =
    if incident.state = .incidentClosed then
      incident.lastSignalAt + incidentIdleTimeout else 0

theorem newIncident_sound
    {group : Group} {time : Int}
    (made : newIncident crypto group time = .ok incident) :
    Sound crypto incident := by
  obtain ⟨rebuilt, grouped, rfl⟩ := newIncident_ok made
  obtain ⟨snapshot, built, rfl⟩ := buildGroup_eq_ok_iff.mp grouped
  obtain ⟨consistent, -, -⟩ := buildEvidenceSnapshot_ok built
  refine ⟨rfl, rfl, List.nodup_nil, rfl, ?_, rfl, Nat.zero_le _, rfl⟩
  rw [← built]
  apply buildEvidenceSnapshot_congr
  · exact consistent.subset fun signal member => mem_sortSlice.mp member
  · exact fun signal => mem_sortSlice

variable {call : Call} {next : Incident}

/-- Recording a command keeps the numbering. -/
theorem Sound.commit
    (sound : Sound crypto incident) {command : Command}
    (fresh : Fresh incident command) (fingerprint : Bytes)
    (version : next.version = incident.version)
    (revision : next.revision = incident.revision)
    (commands : next.commands = incident.commands)
    (built : buildEvidenceSnapshot crypto next.signals = .ok next.snapshot)
    (lastSignalAt : next.lastSignalAt = next.snapshot.windowEnd)
    (attempts : next.analysisAttempts ≤ maximumAnalysisAttempts)
    (closedAt : next.closedAt = if next.state = .incidentClosed then
      next.lastSignalAt + incidentIdleTimeout else 0) :
    Sound crypto (next.commit command fingerprint) := by
  refine ⟨?_, ?_, ?_, ?_, built, lastSignalAt, attempts, closedAt⟩
  · simp only [Incident.commit, List.length_append, List.length_singleton,
      version, commands, sound.version]
    omega
  · simp only [Incident.commit, List.length_append, List.length_singleton,
      revision, commands, sound.revision]
    omega
  · simp only [Incident.commit, commands, List.map_append, List.map_singleton]
    refine List.Nodup.append sound.distinct (List.nodup_singleton _) ?_
    intro id used new
    obtain ⟨record, member, same⟩ := List.mem_map.mp used
    rw [List.mem_singleton.mp new] at same
    exact fresh.unused record member same
  · simp only [Incident.commit, commands, List.map_append, List.map_singleton,
      List.length_append, List.length_singleton, sound.numbered,
      List.range'_concat, revision, sound.revision]
    congr 2
    omega

theorem Effect.sound
    {call : Call} {next : Incident} (sound : Sound crypto incident)
    (fresh : Fresh incident call.command)
    (effect : Effect crypto incident call next) (fingerprint : Bytes) :
    Sound crypto (next.commit call.command fingerprint) := by
  have unset : incident.state ≠ .incidentClosed → incident.closedAt = 0 := by
    intro other
    rw [sound.closedAt, if_neg other]
  have within := sound.attempts
  cases effect with
  | began command ready attempts =>
      refine sound.commit fresh fingerprint rfl rfl rfl sound.built
        sound.lastSignalAt attempts (unset ?_)
      rcases ready with opened | ⟨failed, -⟩
      · simp [opened]
      · simp [failed]
  | completed command analyzing
  | failed command reason analyzing =>
      exact sound.commit fresh fingerprint rfl rfl rfl sound.built
        sound.lastSignalAt within (unset (by simp [analyzing]))
  | closed =>
      exact sound.commit fresh fingerprint rfl rfl rfl sound.built
        sound.lastSignalAt within rfl
  | joined command signal reopening snapshot valid ended new source admitted
      built =>
      exact sound.commit fresh fingerprint rfl rfl rfl built rfl within rfl

/-- What is recorded of an applied call. -/
structure Recorded (crypto : Crypto) (incident : Incident) (call : Call)
    (revision : Nat) : Prop where
  record : { id := call.command.id
             fingerprint := call.fingerprint crypto
             appliedRevision := revision } ∈ incident.commands
  id : digestPattern.matchString call.command.id = true
  time : call.command.time ≠ 0
  classified : ∀ command, call ≠ .failAnalysis command none
  held : ∀ command signal, call = .routeSignal command signal →
    ValidSignal signal ∧ signal.windowEnd ≤ command.time ∧
      signal ∈ incident.signals

/-- An effect keeps the records and the signals. -/
theorem Effect.keeps
    (effect : Effect crypto incident call next) :
    next.commands = incident.commands ∧ next.revision = incident.revision ∧
      incident.signals ⊆ next.signals := by
  cases effect with
  | joined command signal reopening snapshot valid ended new source admitted
      built =>
      refine ⟨rfl, rfl, ?_⟩
      intro existing member
      exact mem_sortSlice.mpr (List.mem_append_left _ member)
  | _ => exact ⟨rfl, rfl, fun _ member => member⟩

theorem Effect.recorded
    (effect : Effect crypto incident call next)
    (fresh : Fresh incident call.command) :
    Recorded crypto (next.commit call.command (call.fingerprint crypto)) call
      (next.commit call.command (call.fingerprint crypto)).revision := by
  refine ⟨List.mem_append_right _ List.mem_cons_self, fresh.id, fresh.time,
    ?_, ?_⟩
  · rintro command rfl
    cases effect
  · rintro command signal rfl
    cases effect with
    | joined command signal reopening snapshot valid ended new source admitted
        built =>
        refine ⟨valid, ended, ?_⟩
        exact mem_sortSlice.mpr (List.mem_append_right _ List.mem_cons_self)

theorem Recorded.keeps
    {other : Call} {revision : Nat}
    (recorded : Recorded crypto incident call revision)
    (effect : Effect crypto incident other next) (fingerprint : Bytes) :
    Recorded crypto (next.commit other.command fingerprint) call revision := by
  obtain ⟨commands, -, signals⟩ := effect.keeps
  refine ⟨?_, recorded.id, recorded.time, recorded.classified, ?_⟩
  · apply List.mem_append_left
    rw [commands]
    exact recorded.record
  · intro command signal same
    obtain ⟨valid, ended, member⟩ := recorded.held command signal same
    exact ⟨valid, ended, signals member⟩

end Steps

/-! ## Replay -/

section Replay

variable {crypto : Crypto} {incident : Incident} {call : Call} {revision : Nat}

private theorem find?_eq_some
    {Item : Type} {items : List Item} {wanted : Item → Bool} {item : Item}
    (member : item ∈ items) (held : wanted item = true)
    (unique : ∀ other ∈ items, wanted other = true → other = item) :
    items.find? wanted = some item := by
  cases found : items.find? wanted with
  | none => exact absurd held (List.find?_eq_none.mp found item member)
  | some other =>
      rw [unique other (List.mem_of_find?_eq_some found)
        (List.find?_some found)]

theorem find?_record
    (sound : Sound crypto incident)
    (recorded : Recorded crypto incident call revision) {id : Bytes}
    (same : id = call.command.id) :
    incident.commands.find? (·.id = id) =
      some { id := call.command.id
             fingerprint := call.fingerprint crypto
             appliedRevision := revision } := by
  apply find?_eq_some recorded.record
  · exact decide_eq_true same.symm
  · intro other member equal
    apply List.inj_on_of_nodup_map sound.distinct member recorded.record
    exact (of_decide_eq_true equal).trans same

variable {first other second : Call} {signal : Signal}

theorem find?_signal
    (sound : Sound crypto incident)
    (member : signal ∈ incident.signals) {id : Bytes}
    (same : id = signal.signalID) :
    incident.signals.find? (·.signalID = id) = some signal := by
  obtain ⟨consistent, -, -⟩ := buildEvidenceSnapshot_ok sound.built
  apply find?_eq_some member
  · exact decide_eq_true same.symm
  · intro other present equal
    exact consistent.agree other present signal member
      ((of_decide_eq_true equal).trans same)

/-- The same call again finds its record. -/
theorem prepareCommand_replay
    (sound : Sound crypto incident)
    (recorded : Recorded crypto incident call revision) :
    prepareCommand crypto incident call.command call.kind call.payload =
      .ok (call.fingerprint crypto,
        some { id := call.command.id
               fingerprint := call.fingerprint crypto
               appliedRevision := revision }) := by
  unfold prepareCommand
  rw [if_neg (not_not.mpr recorded.id), if_neg recorded.time]
  dsimp only
  rw [find?_record sound recorded rfl]
  simp [Call.fingerprint]

theorem transition_replay
    (sound : Sound crypto incident)
    (recorded : Recorded crypto incident call revision)
    (change : Incident → Except Error Incident) :
    (incident.transition crypto call.command call.kind call.payload
      change).map (fun pair => Response.transition pair.1 pair.2) =
      .ok (.transition incident
        { disposition := .idempotentDuplicate
          appliedRevision := revision
          currentRevision := incident.revision }) := by
  unfold Incident.transition
  rw [prepareCommand_replay sound recorded]
  rfl

theorem normalizeSignals_singleton
    (valid : ValidSignal signal) :
    ∃ values, normalizeSignals [signal] = .ok values := by
  have consistent : Consistent [signal] := by
    refine ⟨fun other member => ?_, fun first left second right _ => ?_⟩
    · rw [List.mem_singleton.mp member]
      exact valid
    · rw [List.mem_singleton.mp left, List.mem_singleton.mp right]
  obtain ⟨values, normal, -⟩ := exists_normalizeSignals consistent
  exact ⟨values, normal⟩

/-- An applied call that is made again changes nothing.  The transitions report
the revision at which it was applied. -/
theorem call_replay
    (sound : Sound crypto incident)
    (recorded : Recorded crypto incident call revision) :
    ∃ response, incident.call crypto call = .ok response ∧
      response.applied = false ∧ response.incident = incident ∧
      response.reportedRevision =
        if call.kind = .routeSignal then none else some revision := by
  cases call with
  | beginAnalysis
  | completeAnalysis
  | closeIdle =>
      exact ⟨_, transition_replay sound recorded _, rfl, rfl, rfl⟩
  | failAnalysis command reason =>
      cases reason with
      | none => exact absurd rfl (recorded.classified command)
      | some reason =>
          obtain ⟨classification, classified⟩ :=
            exists_classifyAnalysisFailure reason
          rw [Incident.call, Incident.failAnalysis, classified]
          exact ⟨_, transition_replay sound recorded _, rfl, rfl, rfl⟩
  | routeSignal command signal =>
      obtain ⟨valid, ended, member⟩ := recorded.held command signal rfl
      obtain ⟨values, normal⟩ := normalizeSignals_singleton valid
      have started : ¬ (command.time = 0 ∨ command.time < signal.windowEnd) :=
        not_or.mpr ⟨recorded.time, Int.not_lt.mpr ended⟩
      have passed : incident.validateDuplicateSignalCommand crypto command
          signal = .ok () := by
        unfold Incident.validateDuplicateSignalCommand
        have id : digestPattern.matchString command.id = true := recorded.id
        have time : command.time ≠ 0 := recorded.time
        have found := find?_record sound recorded
          (show command.id = _ from rfl)
        rw [if_neg (not_not.mpr id), if_neg time, found]
        exact if_neg (not_not.mpr rfl)
      rw [Incident.call, Incident.routeSignal, normal]
      dsimp only
      rw [if_neg started, find?_signal sound member rfl]
      dsimp only
      rw [if_neg (not_not.mpr rfl), passed]
      exact ⟨_, rfl, rfl, rfl, rfl⟩

/-! ### Another call under the same id -/

/-- The lines whose digest identifies a call. -/
def Call.lines (call : Call) : List Bytes :=
  fingerprintLines call.kind call.command call.payload

theorem kind_text_injective : Function.Injective CommandKind.text := by
  intro first second same
  revert same
  cases first <;> cases second <;> decide

theorem reason_text_injective :
    Function.Injective AnalysisFailureReason.text := by
  intro first second same
  revert same
  cases first <;> cases second <;> decide

theorem eq_of_lines_eq
    (lines : first.lines = second.lines) :
    first.kind = second.kind ∧ first.command = second.command ∧
      first.payload = second.payload := by
  simp only [Call.lines, fingerprintLines, List.cons.injEq, true_and,
    and_true] at lines
  obtain ⟨kind, id, expected, time, payload⟩ := lines
  refine ⟨kind_text_injective kind, ?_, payload⟩
  have revision := formatUint_injective expected
  have instant := Time.formatRFC3339Nano_injective time
  generalize first.command = one at *
  generalize second.command = two at *
  cases one
  cases two
  simp_all

theorem length_signalID (valid : ValidSignal signal) :
    signal.signalID.length = 36 := by
  obtain ⟨least, most⟩ := Regexp.length_le_of_matchString valid.signalID
  exact Nat.le_antisymm most least

theorem signalID_eq_of_routePayload_eq
    {first second : Signal} (left : ValidSignal first)
    (right : ValidSignal second)
    (same : routePayload first = routePayload second) :
    first.signalID = second.signalID := by
  unfold routePayload at same
  exact (List.append_inj same
    ((length_signalID left).trans (length_signalID right).symm)).1

/-- The digests of the lines of two calls are equal for equal lines only. -/
def Distinguished (crypto : Crypto) (first second : Call) : Prop :=
  crypto.sha256 (writeLines first.lines) =
      crypto.sha256 (writeLines second.lines) →
    writeLines first.lines = writeLines second.lines

theorem lines_eq_of_fingerprint_eq
    (distinguished : Distinguished crypto first second)
    (same : first.fingerprint crypto = second.fingerprint crypto) :
    first.lines = second.lines :=
  writeLines_injective (distinguished (sha256_eq_of_digestText_eq same))

/-- Apart from a routed signal, the lines of a call are the whole call. -/
theorem call_eq_of_lines_eq
    (lines : first.lines = second.lines)
    (transition : first.kind ≠ .routeSignal)
    (firstClassified : ∀ command, first ≠ .failAnalysis command none)
    (secondClassified : ∀ command, second ≠ .failAnalysis command none) :
    first = second := by
  obtain ⟨kind, command, payload⟩ := eq_of_lines_eq lines
  cases first with
  | beginAnalysis =>
      cases second <;> cases kind
      exact congrArg Call.beginAnalysis command
  | completeAnalysis =>
      cases second <;> cases kind
      exact congrArg Call.completeAnalysis command
  | failAnalysis one reason =>
      cases second <;> cases kind
      next two other =>
        cases reason with
        | none => exact absurd rfl (firstClassified one)
        | some =>
            cases other with
            | none => exact absurd rfl (secondClassified two)
            | some =>
                rw [reason_text_injective payload]
                exact congrArg (Call.failAnalysis · _) command
  | closeIdle =>
      cases second <;> cases kind
      exact congrArg Call.closeIdle command
  | routeSignal => exact absurd rfl transition

/-- Another fingerprint under a recorded id is refused. -/
theorem prepareCommand_refused
    (sound : Sound crypto incident)
    (recorded : Recorded crypto incident call revision)
    (sameID : other.command.id = call.command.id)
    (different : other.fingerprint crypto ≠ call.fingerprint crypto) :
    ∃ failure, prepareCommand crypto incident other.command other.kind
      other.payload = .error failure := by
  unfold prepareCommand
  split
  · exact ⟨_, rfl⟩
  · split
    · exact ⟨_, rfl⟩
    · have conflict : call.fingerprint crypto ≠ commandFingerprint crypto
          other.kind other.command other.payload := Ne.symm different
      dsimp only
      rw [find?_record sound recorded sameID]
      dsimp only
      rw [if_pos conflict]
      exact ⟨_, rfl⟩

theorem transition_refused
    (sound : Sound crypto incident)
    (recorded : Recorded crypto incident call revision)
    (sameID : other.command.id = call.command.id)
    (different : other.fingerprint crypto ≠ call.fingerprint crypto)
    (change : Incident → Except Error Incident) :
    ∃ failure, (incident.transition crypto other.command other.kind
      other.payload change).map (fun pair =>
        Response.transition pair.1 pair.2) = .error failure := by
  obtain ⟨failure, refused⟩ :=
    prepareCommand_refused sound recorded sameID different
  unfold Incident.transition
  rw [refused]
  exact ⟨failure, rfl⟩

/-- A routed signal under a recorded id is refused. -/
theorem routeSignal_refused
    (sound : Sound crypto incident)
    (recorded : Recorded crypto incident call revision) {command : Command}
    (sameID : command.id = call.command.id)
    (different : Call.routeSignal command signal ≠ call)
    (distinguished : Distinguished crypto (.routeSignal command signal) call) :
    ∃ failure, incident.routeSignal crypto command signal = .error failure := by
  cases routed : incident.routeSignal crypto command signal with
  | error failure => exact ⟨failure, rfl⟩
  | ok =>
  exfalso
  -- An equal fingerprint would come from a routed signal with the same id,
  -- which the incident holds.
  have found : ValidSignal signal →
      (Call.routeSignal command signal).fingerprint crypto =
        call.fingerprint crypto →
      ∃ held ∈ incident.signals, held.signalID = signal.signalID ∧
        held ≠ signal := by
    intro valid same
    obtain ⟨kind, commands, payload⟩ :=
      eq_of_lines_eq (lines_eq_of_fingerprint_eq distinguished same)
    cases call with
    | routeSignal one held =>
        obtain ⟨heldValid, -, member⟩ := recorded.held one held rfl
        refine ⟨held, member, ?_, ?_⟩
        · exact (signalID_eq_of_routePayload_eq valid heldValid payload).symm
        · rintro rfl
          apply different
          exact congrArg (Call.routeSignal · _) commands
    | _ => cases kind
  obtain ⟨consistent, -, -⟩ := buildEvidenceSnapshot_ok sound.built
  unfold Incident.routeSignal at routed
  split at routed
  · cases routed
  next values normal =>
    have valid : ValidSignal signal :=
      (normalizeSignals_ok normal).1.valid signal List.mem_cons_self
    obtain ⟨-, routed⟩ := ite_error_eq_ok_iff.mp routed
    dsimp only at routed
    split at routed
    next existing present =>
      obtain ⟨same, routed⟩ := ite_error_eq_ok_iff.mp routed
      obtain rfl := not_not.mp same
      split at routed
      · cases routed
      next passed =>
        rw [Incident.validateDuplicateSignalCommand,
          find?_record sound recorded sameID] at passed
        simp only [ite_error_eq_ok_iff, not_not] at passed
        obtain ⟨-, -, agreed, -⟩ := passed
        obtain ⟨held, member, identity, other⟩ := found valid agreed.symm
        exact other (consistent.agree held member _
          (List.mem_of_find?_eq_some present) identity)
    next absent =>
      by_cases same : (Call.routeSignal command signal).fingerprint crypto =
          call.fingerprint crypto
      · obtain ⟨held, member, identity, -⟩ := found valid same
        have missed := List.find?_eq_none.mp absent held member
        exact missed (decide_eq_true identity)
      · have sameIDs : (Call.routeSignal command signal).command.id =
            call.command.id := sameID
        obtain ⟨failure, refused⟩ :=
          prepareCommand_refused sound recorded sameIDs same
        have refused : prepareCommand crypto incident command .routeSignal
            (routePayload signal) = .error failure := refused
        rw [refused] at routed
        cases routed

/-- Another call under the id of an applied call is refused. -/
theorem call_refused
    (sound : Sound crypto incident)
    (recorded : Recorded crypto incident call revision)
    (sameID : other.command.id = call.command.id) (different : other ≠ call)
    (distinguished : Distinguished crypto other call) :
    ∃ failure, incident.call crypto other = .error failure := by
  have changed : other.kind ≠ .routeSignal →
      (∀ command, other ≠ .failAnalysis command none) →
      other.fingerprint crypto ≠ call.fingerprint crypto := by
    intro transition classified same
    exact different (call_eq_of_lines_eq
      (lines_eq_of_fingerprint_eq distinguished same) transition classified
      recorded.classified)
  cases other with
  | beginAnalysis
  | completeAnalysis
  | closeIdle =>
      exact transition_refused sound recorded sameID
        (changed (by simp [Call.kind]) (by simp)) _
  | failAnalysis command reason =>
      cases reason with
      | none => exact ⟨_, rfl⟩
      | some reason =>
          obtain ⟨classification, classified⟩ :=
            exists_classifyAnalysisFailure reason
          rw [Incident.call, Incident.failAnalysis, classified]
          exact transition_refused sound recorded sameID
            (changed (by simp [Call.kind]) (by simp)) _
  | routeSignal command =>
      have sameID : command.id = call.command.id := sameID
      obtain ⟨failure, refused⟩ := routeSignal_refused sound recorded sameID
        different distinguished
      rw [Incident.call, refused]
      exact ⟨failure, rfl⟩

end Replay

/-! ## Whole histories -/

section Runs

variable {crypto : Crypto} {group : Group} {time : Int}
  {entries : List Entry} {incident : Incident}

theorem History.sound (history : History crypto group time entries incident) :
    Sound crypto incident := by
  induction history with
  | created made => exact newIncident_sound made
  | called history call ih =>
      rcases after_cases crypto _ call with
        ⟨-, same⟩ | ⟨-, fresh, next, effect, after⟩
      · rw [same]
        exact ih
      · rw [after]
        exact effect.sound ih fresh _

/-- Every applied call is recorded at its revision. -/
theorem History.recorded
    (history : History crypto group time entries incident) :
    ∀ entry ∈ entries, entry.applied = true →
      Recorded crypto incident entry.call entry.after.revision := by
  induction history with
  | created => exact List.forall_mem_nil _
  | @called entries incident history call ih =>
      intro entry member applied
      rcases List.mem_append.mp member with old | new
      · have recorded := ih entry old applied
        rcases after_cases crypto incident call with
          ⟨-, same⟩ | ⟨-, fresh, next, effect, after⟩
        · rw [same]
          exact recorded
        · rw [after]
          exact recorded.keeps effect _
      · obtain rfl := List.mem_singleton.mp new
        rcases after_cases crypto incident call with
          ⟨kept, -⟩ | ⟨-, fresh, next, effect, after⟩
        · rw [kept] at applied
          cases applied
        · have same : (entryOf crypto incident call).after =
              next.commit call.command (call.fingerprint crypto) := after
          rw [same, after]
          exact effect.recorded fresh

/-- There is one record for each applied call. -/
theorem History.length_commands
    (history : History crypto group time entries incident) :
    incident.commands.length = (entries.filter Entry.applied).length := by
  induction history with
  | created made =>
      obtain ⟨rebuilt, -, rfl⟩ := newIncident_ok made
      rfl
  | @called entries incident history call ih =>
      rw [List.filter_append, List.length_append]
      rcases after_cases crypto incident call with
        ⟨kept, same⟩ | ⟨applied, -, next, effect, after⟩
      · rw [same, ih]
        simp [kept]
      · rw [after, Incident.commit, List.length_append, effect.keeps.1, ih]
        simp [applied]

theorem History.entries_ordered
    (history : History crypto group time entries incident) :
    ∀ entry ∈ entries, entry.before.updatedAt ≤ entry.after.updatedAt ∧
      (entry.applied = false → entry.after = entry.before) := by
  induction history with
  | created => exact List.forall_mem_nil _
  | @called entries incident history call ih =>
      intro entry member
      rcases List.mem_append.mp member with old | new
      · exact ih entry old
      · obtain rfl := List.mem_singleton.mp new
        rcases after_cases crypto incident call with
          ⟨-, same⟩ | ⟨applied, fresh, next, -, after⟩
        · refine ⟨?_, fun _ => same⟩
          change incident.updatedAt ≤ (incident.after crypto call).updatedAt
          rw [same]
        · refine ⟨?_, ?_⟩
          · change incident.updatedAt ≤ (incident.after crypto call).updatedAt
            rw [after]
            exact fresh.later
          · intro kept
            rw [applied] at kept
            cases kept

/-- The calls before an entry are a history of their own. -/
theorem History.before
    (history : History crypto group time entries incident)
    {earlier later : List Entry} {entry : Entry}
    (split : entries = earlier ++ entry :: later) :
    ∃ current, History crypto group time earlier current ∧
      entry = entryOf crypto current entry.call := by
  induction history generalizing later with
  | created => simp at split
  | @called entries incident history call ih =>
      induction later using List.reverseRecOn with
      | nil =>
          obtain ⟨rfl, same⟩ := List.append_inj' split rfl
          cases same
          exact ⟨incident, history, rfl⟩
      | append_singleton later last =>
          have regrouped : earlier ++ entry :: (later ++ [last]) =
              (earlier ++ entry :: later) ++ [last] := by simp
          rw [regrouped] at split
          exact ih (List.append_inj' split rfl).1

/-- The entries of calls that are made one after the other. -/
def record (crypto : Crypto) (incident : Incident) : List Call → List Entry
  | [] => []
  | call :: calls => entryOf crypto incident call ::
      record crypto (incident.after crypto call) calls

theorem History.play
    (history : History crypto group time entries incident)
    (calls : List Call) :
    History crypto group time (entries ++ record crypto incident calls)
      (calls.foldl (Incident.after crypto) incident) := by
  induction calls generalizing entries incident with
  | nil =>
      rw [record, List.append_nil]
      exact history
  | cons call calls ih =>
      have played := ih (history.called call)
      rw [List.append_assoc] at played
      exact played

end Runs

/-- The invariants of an incident along every history, and the rules of replay:
an applied call that is made again changes nothing, the four transitions report
the revision of the first time, and another call under its id is refused. -/
theorem incident_aggregate
    {crypto : Crypto} {group : Group} {time : Int} {entries : List Entry}
    {incident : Incident}
    (history : History crypto group time entries incident) :
    (incident.version = 1 + (entries.filter Entry.applied).length ∧
      incident.revision = 1 + (entries.filter Entry.applied).length ∧
      incident.commands.length = (entries.filter Entry.applied).length) ∧
    ((incident.commands.map (·.id)).Nodup ∧
      incident.commands.map (·.appliedRevision) =
        List.range' 2 incident.commands.length) ∧
    (∀ entry ∈ entries, entry.before.updatedAt ≤ entry.after.updatedAt ∧
      ∀ failure, entry.outcome = .error failure →
        entry.after = entry.before) ∧
    (buildEvidenceSnapshot crypto incident.signals = .ok incident.snapshot ∧
      (∀ signal ∈ incident.signals,
        signal.windowEnd ≤ incident.lastSignalAt) ∧
      ∃ signal ∈ incident.signals,
        signal.windowEnd = incident.lastSignalAt) ∧
    incident.analysisAttempts ≤ 2 ∧
    incident.closedAt = (if incident.state = .incidentClosed then
      incident.lastSignalAt + incidentIdleTimeout else 0) ∧
    ∀ entry ∈ entries, entry.applied = true →
      (∃ response, incident.call crypto entry.call = .ok response ∧
        response.applied = false ∧ response.incident = incident ∧
        (entry.call.kind ≠ .routeSignal →
          response.reportedRevision = some entry.after.revision)) ∧
      ∀ other, other.command.id = entry.call.command.id →
        other ≠ entry.call → Distinguished crypto other entry.call →
        ∃ failure, incident.call crypto other = .error failure := by
  have sound := history.sound
  have count := history.length_commands
  obtain ⟨-, -, spans⟩ := buildEvidenceSnapshot_ok sound.built
  refine ⟨⟨?_, ?_, count⟩, ⟨sound.distinct, sound.numbered⟩, ?_,
    ⟨sound.built, ?_, ?_⟩, sound.attempts, sound.closedAt, ?_⟩
  · rw [sound.version, count]
  · rw [sound.revision, count]
  · intro entry member
    obtain ⟨ordered, kept⟩ := history.entries_ordered entry member
    refine ⟨ordered, fun failure failed => kept ?_⟩
    simp [Entry.applied, failed]
  · rw [sound.lastSignalAt]
    exact spans.to_stop
  · rw [sound.lastSignalAt]
    exact spans.stop
  · intro entry member applied
    have recorded := history.recorded entry member applied
    refine ⟨?_, fun other sameID different distinguished =>
      call_refused sound recorded sameID different distinguished⟩
    obtain ⟨response, returned, kept, same, reported⟩ :=
      call_replay sound recorded
    refine ⟨response, returned, kept, same, fun transition => ?_⟩
    rw [reported, if_neg transition]

/-! ## A run -/

/-- A command at the given number of seconds. -/
def sampleCommand (index revision : Nat) (time : Int) : Command where
  id := digestLabel ++ List.replicate 63 97 ++ formatUint index
  expectedRevision := revision
  time := (63900000000 + time) * second

/-- Calls on the incident of a single signal, which is created at its end. -/
def sampleRun (calls : List Call) (check : List Entry → Incident → Bool) :
    Bool :=
  match correlate Sha256.hashing [sampleSignal 1 0 60] with
  | .ok [group] =>
      match newIncident Sha256.hashing group
          (sampleCommand 0 0 60).time with
      | .ok incident =>
          check (record Sha256.hashing incident calls)
            (calls.foldl (Incident.after Sha256.hashing) incident)
      | .error _ => false
  | _ => false

theorem exists_of_sampleRun
    (calls : List Call) (check : List Entry → Incident → Bool)
    (checked : sampleRun calls check = true) :
    ∃ group entries incident,
      correlate Sha256.hashing [sampleSignal 1 0 60] = .ok [group] ∧
      History Sha256.hashing group (sampleCommand 0 0 60).time entries
        incident ∧
      check entries incident = true := by
  unfold sampleRun at checked
  split at checked
  next group grouped =>
    split at checked
    next incident made =>
      exact ⟨group, _, _, grouped, (History.created made).play calls, checked⟩
    · cases checked
  · cases checked

/-- A second signal four minutes after the first. -/
def sampleRoute : Call :=
  .routeSignal (sampleCommand 1 1 360) (sampleSignal 2 300 360)

theorem sampleRoute_aggregate :
    ∃ group time entries incident,
      History Sha256.hashing group time entries incident ∧
      incident.version = 2 ∧ incident.commands.length = 1 := by
  obtain ⟨group, entries, incident, -, history, applied⟩ :=
    exists_of_sampleRun [sampleRoute]
      (fun entries _ => (entries.filter Entry.applied).length = 1)
      (by decide +kernel)
  have count := of_decide_eq_true applied
  obtain ⟨⟨version, -, commands⟩, -⟩ := incident_aggregate history
  rw [count] at version commands
  exact ⟨group, _, entries, incident, history, version, commands⟩

/-- A routed signal that is sent again is reported as a duplicate, without the
revision at which it was applied. -/
theorem sampleRoute_replay_unnumbered :
    ∃ group time entries incident,
      History Sha256.hashing group time entries incident ∧
      ∃ entry ∈ entries, entry.applied = true ∧
        ∃ response, incident.call Sha256.hashing entry.call = .ok response ∧
          response.reportedRevision ≠ some entry.after.revision := by
  obtain ⟨group, entries, incident, -, history, applied⟩ :=
    exists_of_sampleRun [sampleRoute]
      (fun entries _ => entries.any fun entry =>
        entry.applied && entry.call.kind = .routeSignal)
      (by decide +kernel)
  obtain ⟨entry, member, held⟩ := List.any_eq_true.mp applied
  rw [Bool.and_eq_true, decide_eq_true_eq] at held
  obtain ⟨response, returned, -, -, reported⟩ :=
    call_replay history.sound (history.recorded entry member held.1)
  refine ⟨group, _, entries, incident, history, entry, member, held.1, response,
    returned, ?_⟩
  rw [reported, if_pos held.2]
  nofun

end SentinelFlow.Correlation
