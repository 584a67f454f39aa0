import SentinelFlow.Correlation.Analysis

/-!
# The relations of an incident

The relations of an incident join its signals into one piece: the first signals
are a component, an appended signal is near one of those that are there, and a
reopening adds an edge from the latest of them.  The edge of a reopening is in
no other place than the list of relations, and the next signal that joins the
incident builds this list anew from the windows.
-/

namespace SentinelFlow.Correlation

open GoLib Detection

/-- Two signals that are joined by a relation. -/
def Joined (relations : List Relation) (first second : Signal) : Prop :=
  ∃ relation ∈ relations, relation.ends = s(first.signalID, second.signalID)

def Relation.reopens (relation : Relation) : Bool :=
  relation.temporalReason = .reopenedWithinThirtyMinutes

/-! ## Lists of relations -/

section Relations

variable {signals previous : List Signal} {signal : Signal}

variable {first second : Signal}

theorem joined_of_linked
    (consistent : Consistent signals) (distinct : signals.Nodup)
    (left : first ∈ signals) (right : second ∈ signals)
    (different : first ≠ second) (linked : Linked first second) :
    Joined (buildRelations (sortSignals signals)) first second := by
  obtain ⟨source, close⟩ := linked
  obtain ⟨reason, temporal⟩ := exists_temporal close
  have apart : first.signalID ≠ second.signalID := fun equal =>
    different (consistent.agree first left second right equal)
  rcases lt_or_gt_of_ne apart with below | above
  · refine ⟨makeRelation first second reason, ?_, ends_makeRelation _ _ _⟩
    exact (mem_relations_iff consistent distinct).mpr
      ⟨first, left, second, right, below, source, reason, temporal, rfl⟩
  · refine ⟨makeRelation second first reason, ?_, ?_⟩
    · exact (mem_relations_iff consistent distinct).mpr
        ⟨second, right, first, left, above, source.symm, reason, temporal.symm,
          rfl⟩
    · rw [ends_makeRelation]
      exact Sym2.eq_swap

theorem mem_replacePairRelation
    {relations : List Relation} {replacement relation : Relation} :
    relation ∈ replacePairRelation relations replacement ↔
      (relation ∈ relations ∧ ¬ (relation.leftSignalID =
        replacement.leftSignalID ∧ relation.rightSignalID =
        replacement.rightSignalID)) ∨ relation = replacement := by
  unfold replacePairRelation sortRelations
  rw [mem_sortSlice, List.mem_append, List.mem_filter, List.mem_singleton,
    decide_eq_true_eq]

/-- A replaced relation joins the same signals. -/
theorem joined_replacePairRelation
    {relations : List Relation} (replacement : Relation)
    (joined : Joined relations first second) :
    Joined (replacePairRelation relations replacement) first second := by
  obtain ⟨relation, member, ends⟩ := joined
  by_cases same : relation.leftSignalID = replacement.leftSignalID ∧
      relation.rightSignalID = replacement.rightSignalID
  · refine ⟨replacement, mem_replacePairRelation.mpr (.inr rfl), ?_⟩
    rw [← ends, Relation.ends, Relation.ends, same.1, same.2]
  · exact ⟨relation, mem_replacePairRelation.mpr (.inl ⟨member, same⟩), ends⟩

theorem latestSignal_mem (first : Signal) (rest : List Signal) :
    latestSignal first rest ∈ first :: rest := by
  induction rest generalizing first with
  | nil => exact List.mem_cons_self
  | cons signal rest ih =>
      rw [latestSignal, List.foldl_cons, ← latestSignal]
      split
      · exact List.mem_cons_of_mem _ (ih signal)
      · rcases List.mem_cons.mp (ih first) with same | behind
        · rw [same]
          exact List.mem_cons_self
        · exact List.mem_cons_of_mem _ (List.mem_cons_of_mem _ behind)

/-- The relations after a signal has joined: those of the windows, and where it
reopens the incident the edge to an earlier signal. -/
theorem mem_appendedRelations
    {reopening : Bool} {relation : Relation}
    (member : relation ∈ appendedRelations previous signal reopening) :
    relation ∈ buildRelations (sortSignals (previous ++ [signal])) ∨
      reopening = true ∧ ∃ anchor ∈ previous, relation =
        makeRelation anchor signal .reopenedWithinThirtyMinutes := by
  unfold appendedRelations at member
  dsimp only at member
  split at member
  next first rest =>
    rcases mem_replacePairRelation.mp member with ⟨built, -⟩ | rfl
    · exact .inl built
    · exact .inr ⟨rfl, _, latestSignal_mem first rest, rfl⟩
  · exact .inl member

theorem joined_appendedRelations
    {reopening : Bool}
    (joined : Joined (buildRelations (sortSignals (previous ++ [signal]))) first
      second) :
    Joined (appendedRelations previous signal reopening) first second := by
  unfold appendedRelations
  dsimp only
  split
  · exact joined_replacePairRelation _ joined
  · exact joined

/-- A reopening records its edge. -/
theorem exists_reopening_relation
    (signal : Signal) (nonempty : previous ≠ []) :
    ∃ anchor ∈ previous,
      makeRelation anchor signal .reopenedWithinThirtyMinutes ∈
        appendedRelations previous signal true := by
  cases previous with
  | nil => exact absurd rfl nonempty
  | cons first rest =>
      refine ⟨latestSignal first rest, latestSignal_mem first rest, ?_⟩
      unfold appendedRelations
      exact mem_replacePairRelation.mpr (.inr rfl)

end Relations

/-! ## One piece -/

/-- The relations join the signals into one piece; without the edge of a
reopening the windows alone do. -/
structure Explained (incident : Incident) : Prop where
  distinct : incident.signals.Nodup
  connected : Connected (Joined incident.relations) incident.signals
  linked : (∀ relation ∈ incident.relations, relation.reopens = false) →
    Connected Linked incident.signals

section Steps

variable {crypto : Crypto} {incident : Incident}

/-- A group is a component. -/
theorem connected_of_correlate
    {signals : List Signal} {groups : List Group} {group : Group}
    (accepted : correlate crypto signals = .ok groups)
    (member : group ∈ groups) :
    group.signals.Nodup ∧ Connected Linked group.signals := by
  obtain ⟨values, consistent, arranged, -, built⟩ := correlate_ok accepted
  have cut := pieces_of_arranged arranged consistent
  obtain ⟨component, listed, made⟩ := built.origin group member
  obtain ⟨snapshot, -, rfl⟩ := buildGroup_eq_ok_iff.mp made
  have distinct : component.Nodup := by
    have whole := arranged.increasing.nodup
    rw [← cut.flatten] at whole
    exact (List.nodup_flatten.mp whole).1 component listed
  have proper : ∀ signal ∈ component,
      signal.windowStart ≤ signal.windowEnd := by
    intro signal inside
    have source := (arranged.mem_iff signal).mp (cut.subset listed inside)
    exact (consistent.valid signal source).ordered
  refine ⟨(perm_sortSlice lessSignal component).nodup_iff.mpr distinct, ?_⟩
  have linked : Connected Linked component := by
    apply (cut.connected component listed).mono
    intro first left second right _ near
    exact (linked_iff_near (proper first left) (proper second right)).mpr near
  exact linked.congr fun signal => mem_sortSlice

theorem newIncident_explained
    {signals : List Signal} {groups : List Group} {group : Group} {time : Int}
    (accepted : correlate crypto signals = .ok groups)
    (member : group ∈ groups)
    (made : newIncident crypto group time = .ok incident) :
    Explained incident := by
  obtain ⟨distinct, linked⟩ := connected_of_correlate accepted member
  obtain ⟨rebuilt, grouped, rfl⟩ := newIncident_ok made
  obtain ⟨snapshot, built, rfl⟩ := buildGroup_eq_ok_iff.mp grouped
  obtain ⟨consistent, -, -⟩ := buildEvidenceSnapshot_ok built
  have sorted : Connected Linked (sortSignals group.signals) :=
    linked.congr fun signal => mem_sortSlice
  refine ⟨(perm_sortSlice lessSignal _).nodup_iff.mpr distinct, ?_,
    fun _ => sorted⟩
  apply sorted.mono
  intro first left second right different edge
  exact joined_of_linked consistent distinct (mem_sortSlice.mp left)
    (mem_sortSlice.mp right) different edge

/-- A signal that joins an incident without reopening edges keeps it in one
piece. -/
theorem Effect.explained
    {call : Call} {next : Incident} (sound : Sound crypto incident)
    (explained : Explained incident)
    (effect : Effect crypto incident call next)
    (unbridged : call.kind = .routeSignal →
      ∀ relation ∈ incident.relations, relation.reopens = false) :
    Explained next := by
  cases effect with
  | joined command signal reopening snapshot valid ended new source admitted
      built =>
      have linked := explained.linked (unbridged rfl)
      obtain ⟨-, nonempty, spans⟩ := buildEvidenceSnapshot_ok sound.built
      obtain ⟨sortedConsistent, -, -⟩ := buildEvidenceSnapshot_ok built
      have consistent : Consistent (incident.signals ++ [signal]) :=
        sortedConsistent.subset fun other member => mem_sortSlice.mpr member
      have distinct : (incident.signals ++ [signal]).Nodup := by
        refine List.Nodup.append explained.distinct (List.nodup_singleton _) ?_
        intro other held same
        rw [List.mem_singleton.mp same] at held
        exact new signal held rfl
      have inserted : ∀ other,
          other ∈ sortSignals (incident.signals ++ [signal]) ↔
            other = signal ∨ other ∈ incident.signals := by
        intro other
        unfold sortSignals
        rw [mem_sortSlice, List.mem_append, List.mem_singleton]
        exact or_comm
      have kept : Connected
          (Joined (appendedRelations incident.signals signal reopening))
          incident.signals := by
        apply linked.mono
        intro first left second right different edge
        exact joined_appendedRelations (joined_of_linked consistent distinct
          (List.mem_append_left _ left) (List.mem_append_left _ right)
          different edge)
      -- The signal is near one of the earlier ones, or it reopens the incident.
      cases reopening with
      | true =>
          obtain ⟨anchor, present, recorded⟩ :=
            exists_reopening_relation signal nonempty
          refine ⟨(perm_sortSlice lessSignal _).nodup_iff.mpr distinct, ?_, ?_⟩
          · apply kept.insert present (.inl ?_) inserted
            exact ⟨_, recorded, ends_makeRelation _ _ _⟩
          · intro none
            have edge := none _ recorded
            simp [Relation.reopens, makeRelation] at edge
      | false =>
          obtain ⟨-, existing, present, near⟩ := admitted
          obtain ⟨reason, temporal⟩ := Option.isSome_iff_exists.mp near
          have close : Linked existing signal := by
            refine ⟨(spans.source existing present).trans source.symm, ?_⟩
            have ordered := (consistent.valid existing
              (List.mem_append_left _ present)).ordered
            exact ((temporalRelation_eq_some_iff ordered valid.ordered).mp
              temporal).withinGap
          have different : existing ≠ signal := by
            rintro rfl
            exact new existing present rfl
          refine ⟨(perm_sortSlice lessSignal _).nodup_iff.mpr distinct, ?_, ?_⟩
          · apply kept.insert present (.inl ?_) inserted
            exact joined_appendedRelations (joined_of_linked consistent distinct
              (List.mem_append_left _ present)
              (List.mem_append_right _ List.mem_cons_self) different close)
          · intro _
            exact linked.insert present (.inl close) inserted
  | _ => exact ⟨explained.distinct, explained.connected, explained.linked⟩

end Steps

section Runs

variable {crypto : Crypto} {signals : List Signal} {groups : List Group}
  {group : Group} {time : Int} {entries : List Entry} {incident : Incident}

/-- No signal joins an incident whose relations have the edge of a reopening. -/
def Unbridged (entries : List Entry) : Prop :=
  ∀ entry ∈ entries, entry.applied = true → entry.call.kind = .routeSignal →
    ∀ relation ∈ entry.before.relations, relation.reopens = false

theorem History.explained
    (accepted : correlate crypto signals = .ok groups)
    (member : group ∈ groups)
    (history : History crypto group time entries incident)
    (unbridged : Unbridged entries) : Explained incident := by
  induction history with
  | created made => exact newIncident_explained accepted member made
  | @called entries incident history call ih =>
      have explained := ih fun entry listed =>
        unbridged entry (List.mem_append_left _ listed)
      rcases after_cases crypto incident call with
        ⟨-, same⟩ | ⟨applied, -, next, effect, after⟩
      · rw [same]
        exact explained
      · have step := effect.explained history.sound explained
          (unbridged _ (List.mem_append_right _ List.mem_cons_self) applied)
        rw [after]
        exact ⟨step.distinct, step.connected, step.linked⟩

/-- The edge of a reopening stays. -/
theorem History.reopenings
    (history : History crypto group time entries incident)
    (unbridged : Unbridged entries) :
    ∀ entry ∈ entries, ∀ relation ∈ entry.after.relations,
      relation.reopens = true → relation ∈ incident.relations := by
  induction history with
  | created => exact List.forall_mem_nil _
  | @called entries incident history call ih =>
      have kept := ih fun entry listed =>
        unbridged entry (List.mem_append_left _ listed)
      intro entry member relation recorded reopens
      rcases List.mem_append.mp member with old | new
      · have held := kept entry old relation recorded reopens
        rcases after_cases crypto incident call with
          ⟨-, same⟩ | ⟨applied, -, next, effect, after⟩
        · rw [same]
          exact held
        · by_cases routes : call.kind = .routeSignal
          · have none := unbridged _
              (List.mem_append_right _ List.mem_cons_self) applied routes
              relation held
            rw [none] at reopens
            cases reopens
          · rw [after]
            exact (effect.evidence routes).2.2 ▸ held
      · rw [List.mem_singleton.mp new] at recorded
        exact recorded

/-- What a relation stands for: two windows of a source that meet or come near
each other, or a signal that reopened the incident. -/
def Grounded (entries : List Entry) (signals : List Signal)
    (relation : Relation) : Prop :=
  ∃ first ∈ signals, ∃ second ∈ signals,
    Related first second relation ∨
      first.sourceIP = second.sourceIP ∧
        relation =
          makeRelation first second .reopenedWithinThirtyMinutes ∧
        ∃ entry ∈ entries, entry.applied = true ∧
          entry.before.state = .incidentClosed ∧
          ∃ command, entry.call = .routeSignal command second

theorem Grounded.mono
    {relation : Relation} {others : List Entry} {items : List Signal}
    (grounded : Grounded entries signals relation) (more : entries ⊆ others)
    (inside : signals ⊆ items) : Grounded others items relation := by
  obtain ⟨first, left, second, right, reason⟩ := grounded
  refine ⟨first, inside left, second, inside right, ?_⟩
  rcases reason with related | ⟨source, made, entry, member, held⟩
  · exact .inl related
  · exact .inr ⟨source, made, entry, more member, held⟩

theorem History.grounded
    (accepted : correlate crypto signals = .ok groups)
    (member : group ∈ groups)
    (history : History crypto group time entries incident)
    (unbridged : Unbridged entries) :
    ∀ relation ∈ incident.relations,
      Grounded entries incident.signals relation := by
  induction history with
  | created made =>
      obtain ⟨distinct, -⟩ := connected_of_correlate accepted member
      obtain ⟨rebuilt, grouped, rfl⟩ := newIncident_ok made
      obtain ⟨snapshot, built, rfl⟩ := buildGroup_eq_ok_iff.mp grouped
      obtain ⟨consistent, -, -⟩ := buildEvidenceSnapshot_ok built
      intro relation listed
      obtain ⟨first, left, second, right, -, related⟩ :=
        (mem_relations_iff consistent distinct).mp listed
      exact ⟨first, mem_sortSlice.mpr left, second, mem_sortSlice.mpr right,
        .inl related⟩
  | @called entries incident history call ih =>
      have before : Unbridged entries := fun entry listed =>
        unbridged entry (List.mem_append_left _ listed)
      have grounded := ih before
      have explained := history.explained accepted member before
      rcases after_cases crypto incident call with
        ⟨-, same⟩ | ⟨applied, -, next, effect, after⟩
      · rw [same]
        intro relation listed
        exact (grounded relation listed).mono (List.subset_append_left _ _)
          (List.Subset.refl _)
      · rw [after]
        intro relation listed
        by_cases routes : call.kind = .routeSignal
        · have distinct : next.signals.Nodup :=
            (effect.explained history.sound explained
              (unbridged _ (List.mem_append_right _ List.mem_cons_self) applied
                : call.kind = .routeSignal → _)).distinct
          cases effect with
          | joined command signal reopening snapshot valid ended new source
              admitted built =>
              obtain ⟨sorted, -, -⟩ := buildEvidenceSnapshot_ok built
              obtain ⟨-, -, spans⟩ := buildEvidenceSnapshot_ok
                history.sound.built
              rcases mem_appendedRelations listed with
                near | ⟨rfl, anchor, present, rfl⟩
              · have consistent : Consistent (incident.signals ++ [signal]) :=
                  sorted.subset fun other held => mem_sortSlice.mpr held
                obtain ⟨first, left, second, right, -, related⟩ :=
                  (mem_relations_iff consistent
                    ((perm_sortSlice lessSignal _).nodup_iff.mp
                      distinct)).mp near
                exact ⟨first, mem_sortSlice.mpr left, second,
                  mem_sortSlice.mpr right, .inl related⟩
              · refine ⟨anchor, ?_, signal, ?_, .inr ⟨?_, rfl, _,
                  List.mem_append_right _ List.mem_cons_self, applied,
                  admitted.1, command, rfl⟩⟩
                · exact mem_sortSlice.mpr (List.mem_append_left _ present)
                · exact mem_sortSlice.mpr
                    (List.mem_append_right _ List.mem_cons_self)
                · exact (spans.source anchor present).trans source.symm
          | _ => cases routes
        · obtain ⟨-, held, relations⟩ := effect.evidence routes
          have old : relation ∈ incident.relations := relations ▸ listed
          refine (grounded relation old).mono (List.subset_append_left _ _) ?_
          exact held ▸ List.Subset.refl incident.signals

/-- The relations of an incident join its signals into one piece, each of them
stands for two near windows or for a reopening, and the edge that a reopening
recorded stays. -/
theorem incident_explained
    (accepted : correlate crypto signals = .ok groups)
    (member : group ∈ groups)
    (history : History crypto group time entries incident)
    (unbridged : Unbridged entries) :
    Connected (Joined incident.relations) incident.signals ∧
    (∀ relation ∈ incident.relations,
      Grounded entries incident.signals relation) ∧
    (∀ entry ∈ entries, ∀ relation ∈ entry.after.relations,
      relation.reopens = true → relation ∈ incident.relations) ∧
    ∀ entry ∈ entries, entry.applied = true →
      entry.before.state = .incidentClosed → ∀ command signal,
      entry.call = .routeSignal command signal →
        ∃ anchor ∈ entry.before.signals,
          makeRelation anchor signal .reopenedWithinThirtyMinutes ∈
            incident.relations := by
  refine ⟨(history.explained accepted member unbridged).connected,
    history.grounded accepted member unbridged, history.reopenings unbridged,
    ?_⟩
  intro entry listed applied closed command signal routes
  obtain ⟨earlier, later, split⟩ := List.append_of_mem listed
  obtain ⟨prior, next, effect, made⟩ := history.effect split applied
  obtain ⟨-, nonempty, -⟩ := buildEvidenceSnapshot_ok prior.sound.built
  rw [routes] at effect
  have recorded : ∃ anchor ∈ entry.before.signals,
      makeRelation anchor signal .reopenedWithinThirtyMinutes ∈
        next.relations := by
    cases effect with
    | joined command signal reopening snapshot valid ended new source admitted
        built =>
        cases reopening with
        | true => exact exists_reopening_relation signal nonempty
        | false => exact absurd closed admitted.1
  obtain ⟨anchor, present, edge⟩ := recorded
  refine ⟨anchor, present, ?_⟩
  apply history.reopenings unbridged entry listed
  · rw [made]
    exact edge
  · simp [Relation.reopens, makeRelation]

end Runs

/-- The incident is closed when idle and reopened forty seconds later. -/
def sampleReopening : List Call :=
  [.closeIdle (sampleCommand 1 1 960),
    .routeSignal (sampleCommand 2 2 1000) (sampleSignal 2 940 1000)]

theorem sampleReopening_explained :
    ∃ group entries incident,
      correlate Sha256.hashing [sampleSignal 1 0 60] = .ok [group] ∧
      History Sha256.hashing group (sampleCommand 0 0 60).time entries
        incident ∧
      incident.signals.length = 2 ∧
      Connected (Joined incident.relations) incident.signals := by
  obtain ⟨group, entries, incident, grouped, history, checked⟩ :=
    exists_of_sampleRun sampleReopening
      (fun entries incident => decide (incident.signals.length = 2) &&
        entries.all fun entry => entry.before.relations.all fun relation =>
          relation.reopens = false)
      (by decide +kernel)
  rw [Bool.and_eq_true, decide_eq_true_eq, List.all_eq_true] at checked
  obtain ⟨two, unbridged⟩ := checked
  have kept : Unbridged entries := by
    intro entry member _ _ relation listed
    have none := List.all_eq_true.mp (unbridged entry member) relation listed
    exact of_decide_eq_true none
  exact ⟨group, entries, incident, grouped, history, two,
    (incident_explained grouped List.mem_cons_self history kept).1⟩

/-- A third signal joins the reopened incident: the edge of the reopening is
gone, and the first signal with it is in a piece of its own. -/
theorem sampleReopening_not_explained :
    ∃ group entries incident,
      correlate Sha256.hashing [sampleSignal 1 0 60] = .ok [group] ∧
      History Sha256.hashing group (sampleCommand 0 0 60).time entries
        incident ∧
      ¬ Connected (Joined incident.relations) incident.signals ∧
      ∃ entry ∈ entries, ∃ relation ∈ entry.after.relations,
        relation.reopens = true ∧ relation ∉ incident.relations := by
  obtain ⟨group, entries, incident, grouped, history, checked⟩ :=
    exists_of_sampleRun (sampleReopening ++
        [.routeSignal (sampleCommand 3 3 1060) (sampleSignal 3 1010 1060)])
      (fun entries incident =>
        decide (sampleSignal 1 0 60 ∈ incident.signals) &&
        decide (sampleSignal 2 940 1000 ∈ incident.signals) &&
        (incident.relations.all fun relation =>
          relation.leftSignalID ≠ (sampleSignal 1 0 60).signalID ∧
            relation.rightSignalID ≠ (sampleSignal 1 0 60).signalID) &&
        entries.any fun entry => entry.after.relations.any fun relation =>
          relation.reopens && decide (relation ∉ incident.relations))
      (by decide +kernel)
  simp only [Bool.and_eq_true, decide_eq_true_eq, List.all_eq_true,
    List.any_eq_true] at checked
  obtain ⟨⟨⟨first, second⟩, untouched⟩, entry, member, relation, listed,
    reopens, lost⟩ := checked
  refine ⟨group, entries, incident, grouped, history, ?_, entry, member,
    relation, listed, reopens, lost⟩
  intro connected
  -- No relation touches the first signal.
  have step : ∀ one ∈ incident.signals, ∀ two ∈ incident.signals,
      Joined incident.relations one two →
        (one.signalID = (sampleSignal 1 0 60).signalID ↔
          two.signalID = (sampleSignal 1 0 60).signalID) := by
    rintro one - two - ⟨edge, recorded, ends⟩
    obtain ⟨left, right⟩ := untouched edge recorded
    rw [Relation.ends, Sym2.eq_iff] at ends
    rcases ends with ⟨same, other⟩ | ⟨same, other⟩
    · rw [← same, ← other]
      exact iff_of_false left right
    · rw [← same, ← other]
      exact iff_of_false right left
  have reached := mem_of_reachable step rfl
    (connected _ first _ second)
  revert reached
  decide

end SentinelFlow.Correlation
