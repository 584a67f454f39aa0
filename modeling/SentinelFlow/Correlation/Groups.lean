import Mathlib.Algebra.Order.Group.Abs
import Mathlib.Algebra.Order.Group.Int
import Mathlib.Data.Int.ConditionallyCompleteOrder
import Mathlib.Data.Int.SuccPred
import SentinelFlow.Correlation.Snapshot
import SentinelFlow.GoLib.Components
import SentinelFlow.GoLib.Sha256

/-!
# Correlated groups

`Correlate` sorts the signals, cuts them in one pass into groups and relates the
signals of each group.  In terms of instants: two signals of a source are
linked where their windows come within five minutes of each other, and the
groups are the components of that graph.
-/

namespace SentinelFlow.Correlation

open GoLib Detection

inductive IdentityReason where
  | sameCanonicalSource
deriving DecidableEq, Repr

inductive TemporalReason where
  | windowOverlap
  | withinFiveMinutes
  | reopenedWithinThirtyMinutes
deriving DecidableEq, Repr

def TemporalReason.text : TemporalReason → Bytes
  | .windowOverlap => ascii "window_overlap"
  | .withinFiveMinutes => ascii "gap_within_five_minutes"
  | .reopenedWithinThirtyMinutes => ascii "reopened_within_thirty_minutes"

inductive SupportingReason where
  | sameService
  | differentService
  | sameRule
  | differentRule
  | accountIdentityMinimized
  | pathIdentityMinimized
deriving DecidableEq, Repr

def SupportingReason.text : SupportingReason → Bytes
  | .sameService => ascii "same_service"
  | .differentService => ascii "different_service"
  | .sameRule => ascii "same_rule"
  | .differentRule => ascii "different_rule"
  | .accountIdentityMinimized => ascii "account_identity_minimized"
  | .pathIdentityMinimized => ascii "path_identity_minimized"

structure Relation where
  leftSignalID : Bytes
  rightSignalID : Bytes
  identityReason : IdentityReason
  temporalReason : TemporalReason
  supportingReasons : List SupportingReason
deriving DecidableEq, Repr

structure Group where
  sourceIP : Bytes
  windowStart : Int
  windowEnd : Int
  snapshot : EvidenceSnapshot
  signals : List Signal
  relations : List Relation
deriving DecidableEq, Repr

/-- Five minutes. -/
def maximumSignalGap : Int := 5 * 60 * second

/-! ## Relations -/

def windowsOverlap (leftStart leftEnd rightStart rightEnd : Int) : Bool :=
  ¬ rightEnd < leftStart ∧ ¬ leftEnd < rightStart

/-- The difference of two instants saturates in the source, far beyond the
gap. -/
def temporalRelation (left right : Signal) : Option TemporalReason :=
  if windowsOverlap left.windowStart left.windowEnd right.windowStart
      right.windowEnd then some .windowOverlap
  else
    let gap := if left.windowEnd < right.windowStart then
      right.windowStart - left.windowEnd else left.windowStart - right.windowEnd
    if gap ≤ maximumSignalGap then some .withinFiveMinutes else none

def supportingReasons (left right : Signal) : List SupportingReason :=
  sortSlice (fun first second => first.text < second.text)
    [.accountIdentityMinimized, .pathIdentityMinimized,
      if left.serviceLabel = right.serviceLabel then .sameService
      else .differentService,
      if left.ruleID = right.ruleID then .sameRule else .differentRule]

def makeRelation (left right : Signal) (temporal : TemporalReason) : Relation :=
  let (left, right) :=
    if right.signalID < left.signalID then (right, left) else (left, right)
  { leftSignalID := left.signalID
    rightSignalID := right.signalID
    identityReason := .sameCanonicalSource
    temporalReason := temporal
    supportingReasons := supportingReasons left right }

def lessRelation (first second : Relation) : Bool :=
  if first.leftSignalID ≠ second.leftSignalID then
    first.leftSignalID < second.leftSignalID
  else if first.rightSignalID ≠ second.rightSignalID then
    first.rightSignalID < second.rightSignalID
  else first.temporalReason.text < second.temporalReason.text

def sortRelations (relations : List Relation) : List Relation :=
  sortSlice lessRelation relations

/-- The body of the loop over the pairs. -/
def relate (left right : Signal) : Option Relation :=
  if left.sourceIP ≠ right.sourceIP then none
  else (temporalRelation left right).map (makeRelation left right)

/-- Each signal with the signals behind it. -/
def relatePairs : List Signal → List Relation
  | [] => []
  | left :: rest => rest.filterMap (relate left) ++ relatePairs rest

def buildRelations (signals : List Signal) : List Relation :=
  sortRelations (relatePairs signals)

/-! ## Groups -/

def buildGroup (crypto : Crypto) (signals : List Signal) :
    Except Error Group :=
  match buildEvidenceSnapshot crypto signals with
  | .error failure => .error failure
  | .ok snapshot =>
      let values := sortSignals signals
      .ok
        { sourceIP := snapshot.sourceIP
          windowStart := snapshot.windowStart
          windowEnd := snapshot.windowEnd
          snapshot
          signals := values
          relations := buildRelations values }

def buildGroups (crypto : Crypto) : List (List Signal) →
    Except Error (List Group)
  | [] => .ok []
  | component :: rest =>
      match buildGroup crypto component with
      | .error failure => .error failure
      | .ok group => (buildGroups crypto rest).map (group :: ·)

def lessGroup (first second : Group) : Bool :=
  if first.sourceIP ≠ second.sourceIP then first.sourceIP < second.sourceIP
  else if first.windowStart ≠ second.windowStart then
    first.windowStart < second.windowStart
  else first.snapshot.digest < second.snapshot.digest

/-- A signal on the time line of its source. -/
def timeline : Placement Signal Bytes where
  line := Signal.sourceIP
  start := Signal.windowStart
  stop := Signal.windowEnd

def correlate (crypto : Crypto) (signals : List Signal) :
    Except Error (List Group) :=
  match normalizeSignals signals with
  | .error failure => .error failure
  | .ok values =>
      (buildGroups crypto (timeline.sweep maximumSignalGap values)).map
        (sortSlice lessGroup)

/-! ## Relations in terms of instants -/

/-- The closed window of a signal. -/
def window (signal : Signal) : Set Int :=
  Set.Icc signal.windowStart signal.windowEnd

def Overlap (first second : Signal) : Prop :=
  (window first ∩ window second).Nonempty

/-- The windows come within five minutes of each other. -/
def WithinGap (first second : Signal) : Prop :=
  ∃ one ∈ window first, ∃ two ∈ window second, |one - two| ≤ maximumSignalGap

/-- The graph that the groups are about. -/
def Linked (first second : Signal) : Prop :=
  first.sourceIP = second.sourceIP ∧ WithinGap first second

/-- Why two signals are related in time. -/
inductive Temporal (first second : Signal) : TemporalReason → Prop where
  | overlap : Overlap first second → Temporal first second .windowOverlap
  | gap : ¬ Overlap first second → WithinGap first second →
      Temporal first second .withinFiveMinutes

section Instants

variable {first second : Signal}

theorem overlap_iff
    (left : first.windowStart ≤ first.windowEnd)
    (right : second.windowStart ≤ second.windowEnd) :
    Overlap first second ↔ first.windowStart ≤ second.windowEnd ∧
      second.windowStart ≤ first.windowEnd := by
  unfold Overlap window
  rw [Set.Icc_inter_Icc, Set.nonempty_Icc]
  simp only [sup_le_iff, le_inf_iff]
  tauto

theorem withinGap_iff
    (left : first.windowStart ≤ first.windowEnd)
    (right : second.windowStart ≤ second.windowEnd) :
    WithinGap first second ↔
      first.windowStart ≤ second.windowEnd + maximumSignalGap ∧
        second.windowStart ≤ first.windowEnd + maximumSignalGap := by
  have positive : 0 ≤ maximumSignalGap := by decide
  simp only [WithinGap, window, Set.mem_Icc, abs_le]
  constructor
  · rintro ⟨one, inFirst, two, inSecond, close⟩
    omega
  · rintro ⟨early, late⟩
    -- The nearest instants are the end of one window and the start of the
    -- other, or twice the later start where the windows meet.
    by_cases before : first.windowEnd < second.windowStart
    · exact ⟨first.windowEnd, by omega, second.windowStart, by omega, by omega⟩
    · by_cases after : second.windowEnd < first.windowStart
      · exact ⟨first.windowStart, by omega, second.windowEnd, by omega,
          by omega⟩
      · refine ⟨max first.windowStart second.windowStart, ?_,
          max first.windowStart second.windowStart, ?_, ?_⟩ <;> omega

theorem linked_iff_near
    (left : first.windowStart ≤ first.windowEnd)
    (right : second.windowStart ≤ second.windowEnd) :
    Linked first second ↔ timeline.Near maximumSignalGap first second := by
  rw [Linked, withinGap_iff left right]
  exact Iff.rfl

variable {reason : TemporalReason}

theorem temporalRelation_eq_some_iff
    (left : first.windowStart ≤ first.windowEnd)
    (right : second.windowStart ≤ second.windowEnd) :
    temporalRelation first second = some reason ↔
      Temporal first second reason := by
  have overlaps : windowsOverlap first.windowStart first.windowEnd
      second.windowStart second.windowEnd = true ↔ Overlap first second := by
    rw [overlap_iff left right, windowsOverlap, decide_eq_true_eq]
    omega
  unfold temporalRelation
  by_cases overlap : Overlap first second
  · rw [if_pos (overlaps.mpr overlap)]
    constructor
    · rintro ⟨⟩
      exact .overlap overlap
    · rintro (_ | ⟨apart, -⟩)
      · rfl
      · exact absurd overlap apart
  · rw [if_neg (mt overlaps.mp overlap)]
    have apart := mt (overlap_iff left right).mpr overlap
    have close : (if first.windowEnd < second.windowStart then
        second.windowStart - first.windowEnd
        else first.windowStart - second.windowEnd) ≤ maximumSignalGap ↔
        WithinGap first second := by
      have positive : 0 ≤ maximumSignalGap := by decide
      rw [withinGap_iff left right]
      split <;> omega
    dsimp only
    by_cases near : WithinGap first second
    · rw [if_pos (close.mpr near)]
      constructor
      · rintro ⟨⟩
        exact .gap overlap near
      · rintro (held | _)
        · exact absurd held overlap
        · rfl
    · rw [if_neg (mt close.mp near)]
      constructor
      · rintro ⟨⟩
      · rintro (held | ⟨-, held⟩)
        · exact absurd held overlap
        · exact absurd held near

theorem Overlap.symm (overlap : Overlap first second) :
    Overlap second first := by
  unfold Overlap
  rwa [Set.inter_comm]

theorem WithinGap.symm (close : WithinGap first second) :
    WithinGap second first := by
  obtain ⟨one, inFirst, two, inSecond, near⟩ := close
  exact ⟨two, inSecond, one, inFirst, abs_sub_comm one two ▸ near⟩

theorem Temporal.symm
    (temporal : Temporal first second reason) :
    Temporal second first reason := by
  cases temporal with
  | overlap overlap => exact .overlap overlap.symm
  | gap apart close => exact .gap (fun held => apart held.symm) close.symm

/-- Signals within the gap are related for one reason or the other. -/
theorem exists_temporal (close : WithinGap first second) :
    ∃ reason, Temporal first second reason := by
  by_cases overlap : Overlap first second
  · exact ⟨_, .overlap overlap⟩
  · exact ⟨_, .gap overlap close⟩

theorem Temporal.withinGap
    (temporal : Temporal first second reason) : WithinGap first second := by
  cases temporal with
  | overlap overlap =>
      obtain ⟨instant, inFirst, inSecond⟩ := overlap
      exact ⟨instant, inFirst, instant, inSecond, by simp; decide⟩
  | gap _ close => exact close

theorem makeRelation_comm
    (different : first.signalID ≠ second.signalID) (reason : TemporalReason) :
    makeRelation first second reason = makeRelation second first reason := by
  unfold makeRelation
  rcases lt_or_gt_of_ne different with below | above
  · rw [if_neg (not_lt.mpr below.le), if_pos below]
  · rw [if_pos above, if_neg (not_lt.mpr above.le)]

end Instants

/-! ## The relations of a list -/

/-- The relation between two signals of a source. -/
def Related (first second : Signal) (relation : Relation) : Prop :=
  first.sourceIP = second.sourceIP ∧ ∃ reason, Temporal first second reason ∧
    relation = makeRelation first second reason

/-- The two signals of a relation. -/
def Relation.ends (relation : Relation) : Sym2 Bytes :=
  s(relation.leftSignalID, relation.rightSignalID)

theorem ends_makeRelation (first second : Signal) (reason : TemporalReason) :
    (makeRelation first second reason).ends =
      s(first.signalID, second.signalID) := by
  unfold makeRelation Relation.ends
  by_cases swapped : second.signalID < first.signalID
  · rw [if_pos swapped]
    exact Sym2.eq_swap
  · rw [if_neg swapped]

theorem Related.symm
    {first second : Signal} {relation : Relation}
    (different : first.signalID ≠ second.signalID)
    (related : Related first second relation) :
    Related second first relation := by
  obtain ⟨source, reason, temporal, rfl⟩ := related
  exact ⟨source.symm, reason, temporal.symm, makeRelation_comm different reason⟩

theorem relate_eq_some_iff
    {first second : Signal} (left : first.windowStart ≤ first.windowEnd)
    (right : second.windowStart ≤ second.windowEnd) {relation : Relation} :
    relate first second = some relation ↔ Related first second relation := by
  unfold relate Related
  by_cases source : first.sourceIP = second.sourceIP
  · rw [if_neg (not_not.mpr source), Option.map_eq_some_iff]
    simp only [temporalRelation_eq_some_iff left right, source, true_and,
      eq_comm]
  · simp [source]

section Pairs

variable {signals : List Signal}

theorem mem_relatePairs
    (proper : ∀ signal ∈ signals, signal.windowStart ≤ signal.windowEnd)
    (distinct : (signals.map (·.signalID)).Nodup) {relation : Relation} :
    relation ∈ relatePairs signals ↔
      ∃ first ∈ signals, ∃ second ∈ signals, first ≠ second ∧
        Related first second relation := by
  induction signals with
  | nil => simp [relatePairs]
  | cons signal rest ih =>
      obtain ⟨signalProper, restProper⟩ := List.forall_mem_cons.mp proper
      rw [List.map_cons, List.nodup_cons] at distinct
      have apart : ∀ other ∈ rest, signal.signalID ≠ other.signalID := by
        intro other member same
        exact distinct.1 (same ▸ List.mem_map_of_mem member)
      rw [relatePairs, List.mem_append, List.mem_filterMap,
        ih restProper distinct.2]
      constructor
      · rintro (⟨other, member, related⟩ | ⟨first, left, second, right, held⟩)
        · refine ⟨signal, List.mem_cons_self, other,
            List.mem_cons_of_mem _ member, ?_, ?_⟩
          · rintro rfl
            exact apart signal member rfl
          · exact (relate_eq_some_iff signalProper
              (restProper other member)).mp related
        · exact ⟨first, List.mem_cons_of_mem _ left, second,
            List.mem_cons_of_mem _ right, held⟩
      · rintro ⟨first, left, second, right, different, related⟩
        rcases List.mem_cons.mp left with rfl | before
        · have member := (List.mem_cons.mp right).resolve_left
            (Ne.symm different)
          exact .inl ⟨second, member, (relate_eq_some_iff signalProper
            (restProper second member)).mpr related⟩
        · rcases List.mem_cons.mp right with rfl | behind
          · exact .inl ⟨first, before, (relate_eq_some_iff signalProper
              (restProper first before)).mpr
                (related.symm (apart first before).symm)⟩
          · exact .inr ⟨first, before, second, behind, different, related⟩

/-- No two relations of a list join the same signals. -/
theorem nodup_ends_relatePairs
    (proper : ∀ signal ∈ signals, signal.windowStart ≤ signal.windowEnd)
    (distinct : (signals.map (·.signalID)).Nodup) :
    ((relatePairs signals).map Relation.ends).Nodup := by
  induction signals with
  | nil => simp [relatePairs]
  | cons signal rest ih =>
      obtain ⟨signalProper, restProper⟩ := List.forall_mem_cons.mp proper
      rw [List.map_cons, List.nodup_cons] at distinct
      have ends : ∀ other ∈ rest, ∀ relation, relate signal other =
          some relation → relation.ends = s(signal.signalID, other.signalID) := by
        intro other member relation related
        obtain ⟨-, reason, -, rfl⟩ := (relate_eq_some_iff signalProper
          (restProper other member)).mp related
        exact ends_makeRelation signal other reason
      rw [relatePairs, List.map_append, List.nodup_append]
      refine ⟨?_, ih restProper distinct.2, ?_⟩
      · rw [List.nodup_iff_pairwise_ne, List.pairwise_map,
          List.pairwise_filterMap]
        have others : rest.Pairwise fun first second =>
            first.signalID ≠ second.signalID := List.pairwise_map.mp distinct.2
        apply others.imp_of_mem
        intro first second left right different one oneRelated two twoRelated
          same
        rw [ends first left one oneRelated, ends second right two twoRelated,
          Sym2.eq_iff] at same
        rcases same with ⟨-, same⟩ | ⟨same, other⟩
        · exact different same
        · exact different (other.trans same)
      · rintro pair left _ right rfl
        obtain ⟨relation, member, rfl⟩ := List.mem_map.mp left
        obtain ⟨other, otherMember, related⟩ := List.mem_filterMap.mp member
        obtain ⟨second, secondMember, same⟩ := List.mem_map.mp right
        obtain ⟨one, oneMember, two, twoMember, -, -, reason, -, rfl⟩ :=
          (mem_relatePairs restProper distinct.2).mp secondMember
        rw [ends other otherMember relation related, ends_makeRelation,
          Sym2.eq_iff] at same
        rcases same with ⟨same, -⟩ | ⟨-, same⟩
        · exact distinct.1 (same ▸ List.mem_map_of_mem oneMember)
        · exact distinct.1 (same ▸ List.mem_map_of_mem twoMember)

end Pairs

/-! ## Components -/

section Build

variable {crypto : Crypto} {signals : List Signal} {group : Group}

/-- What a group is made of. -/
theorem buildGroup_eq_ok_iff :
    buildGroup crypto signals = .ok group ↔
      ∃ snapshot, buildEvidenceSnapshot crypto signals = .ok snapshot ∧
        group =
          { sourceIP := snapshot.sourceIP
            windowStart := snapshot.windowStart
            windowEnd := snapshot.windowEnd
            snapshot
            signals := sortSignals signals
            relations := buildRelations (sortSignals signals) } := by
  unfold buildGroup
  cases buildEvidenceSnapshot crypto signals with
  | error => simp
  | ok => simp [eq_comm]

/-- The relations of a group are the edges between its signals. -/
theorem mem_relations_iff
    (consistent : Consistent signals) (distinct : signals.Nodup)
    {relation : Relation} :
    relation ∈ buildRelations (sortSignals signals) ↔
      ∃ first ∈ signals, ∃ second ∈ signals,
        first.signalID < second.signalID ∧ Related first second relation := by
  have same := perm_sortSlice lessSignal signals
  have ids : ((sortSignals signals).map (·.signalID)).Nodup := by
    apply ((same.map _).nodup_iff).mpr
    exact distinct.map_on fun first left second right equal =>
      consistent.agree first left second right equal
  have proper : ∀ signal ∈ sortSignals signals,
      signal.windowStart ≤ signal.windowEnd := fun signal member =>
    (consistent.valid signal (mem_sortSlice.mp member)).ordered
  unfold buildRelations sortRelations
  rw [mem_sortSlice, mem_relatePairs proper ids]
  simp only [sortSignals, mem_sortSlice]
  constructor
  · rintro ⟨first, left, second, right, different, related⟩
    have apart : first.signalID ≠ second.signalID := fun equal =>
      different (consistent.agree first left second right equal)
    rcases lt_or_gt_of_ne apart with below | above
    · exact ⟨first, left, second, right, below, related⟩
    · exact ⟨second, right, first, left, above, related.symm apart⟩
  · rintro ⟨first, left, second, right, below, related⟩
    refine ⟨first, left, second, right, ?_, related⟩
    rintro rfl
    exact lt_irrefl _ below

theorem nodup_ends_relations
    (consistent : Consistent signals) (distinct : signals.Nodup) :
    ((buildRelations (sortSignals signals)).map Relation.ends).Nodup := by
  have same := perm_sortSlice lessSignal signals
  unfold buildRelations sortRelations
  apply (((perm_sortSlice lessRelation _).map _).nodup_iff).mpr
  apply nodup_ends_relatePairs
  · intro signal member
    exact (consistent.valid signal (mem_sortSlice.mp member)).ordered
  · apply ((same.map _).nodup_iff).mpr
    exact distinct.map_on fun first left second right equal =>
      consistent.agree first left second right equal

/-- Groups that are built from components, one from each. -/
structure BuiltFrom (crypto : Crypto) (components : List (List Signal))
    (groups : List Group) : Prop where
  origin : ∀ group ∈ groups, ∃ component ∈ components,
    buildGroup crypto component = .ok group
  target : ∀ component ∈ components, ∃ group ∈ groups,
    buildGroup crypto component = .ok group
  signals : (groups.flatMap (·.signals)).Perm components.flatten

variable {components : List (List Signal)}

theorem buildGroups_ok
    {groups : List Group}
    (built : buildGroups crypto components = .ok groups) :
    BuiltFrom crypto components groups := by
  induction components generalizing groups with
  | nil =>
      cases built
      exact ⟨List.forall_mem_nil _, List.forall_mem_nil _, .refl _⟩
  | cons component rest ih =>
      rw [buildGroups] at built
      cases first : buildGroup crypto component with
      | error =>
          rw [first] at built
          cases built
      | ok group =>
          rw [first] at built
          cases others : buildGroups crypto rest with
          | error =>
              rw [others] at built
              cases built
          | ok =>
              rw [others] at built
              cases built
              obtain ⟨origin, target, signals⟩ := ih others
              refine ⟨List.forall_mem_cons.mpr ⟨?_, ?_⟩,
                List.forall_mem_cons.mpr ⟨?_, ?_⟩, ?_⟩
              · exact ⟨component, List.mem_cons_self, first⟩
              · intro other member
                obtain ⟨source, listed, made⟩ := origin other member
                exact ⟨source, List.mem_cons_of_mem _ listed, made⟩
              · exact ⟨group, List.mem_cons_self, first⟩
              · intro source listed
                obtain ⟨other, member, made⟩ := target source listed
                exact ⟨other, List.mem_cons_of_mem _ member, made⟩
              · obtain ⟨snapshot, -, rfl⟩ := buildGroup_eq_ok_iff.mp first
                rw [List.flatMap_cons, List.flatten_cons]
                exact (perm_sortSlice lessSignal component).append signals

theorem BuiltFrom.perm
    {groups others : List Group}
    (built : BuiltFrom crypto components groups)
    (permuted : others.Perm groups) : BuiltFrom crypto components others := by
  refine ⟨?_, ?_, (permuted.flatMap_right _).trans built.signals⟩
  · intro group member
    exact built.origin group (permuted.mem_iff.mp member)
  · intro component member
    obtain ⟨group, listed, made⟩ := built.target component member
    exact ⟨group, permuted.mem_iff.mpr listed, made⟩

theorem exists_buildGroups
    (each : ∀ component ∈ components, ∃ group,
      buildGroup crypto component = .ok group) :
    ∃ groups, buildGroups crypto components = .ok groups := by
  induction components with
  | nil => exact ⟨[], rfl⟩
  | cons component rest ih =>
      obtain ⟨⟨group, first⟩, others⟩ := List.forall_mem_cons.mp each
      obtain ⟨groups, later⟩ := ih others
      rw [buildGroups, first, later]
      exact ⟨_, rfl⟩

end Build

section Correlate

variable {crypto : Crypto} {signals values : List Signal}

/-- Normalised signals are in the order that the pass needs. -/
theorem Arranged.sorted
    (arranged : Arranged signals values) (consistent : Consistent signals) :
    timeline.Sorted values := by
  refine ⟨arranged.increasing.imp ?_, arranged.increasing.imp ?_, ?_⟩
  · intro first second below
    rw [rank, rank, Prod.Lex.toLex_lt_toLex] at below
    rcases below with below | ⟨same, -⟩
    · exact below.le
    · exact same.le
  · intro first second below source
    rw [rank, rank, Prod.Lex.toLex_lt_toLex, Prod.Lex.toLex_lt_toLex] at below
    rcases below with below | ⟨-, below | ⟨same, -⟩⟩
    · exact absurd source below.ne
    · exact below.le
    · exact same.le
  · intro signal member
    exact (consistent.valid signal ((arranged.mem_iff signal).mp member)).ordered

/-- The pass cuts the normalised signals into components. -/
theorem pieces_of_arranged
    (arranged : Arranged signals values) (consistent : Consistent signals) :
    timeline.Pieces maximumSignalGap values
      (timeline.sweep maximumSignalGap values) := by
  have nonneg : 0 ≤ maximumSignalGap := by decide
  exact Placement.sweep_pieces nonneg (arranged.sorted consistent)

/-- A component has one source. -/
theorem source_of_connected
    {component : List Signal}
    (connected : Connected (timeline.Near maximumSignalGap) component)
    {first second : Signal} (left : first ∈ component)
    (right : second ∈ component) : first.sourceIP = second.sourceIP := by
  have step : ∀ one ∈ component, ∀ two ∈ component,
      timeline.Near maximumSignalGap one two →
        (one.sourceIP = first.sourceIP ↔ two.sourceIP = first.sourceIP) := by
    intro one _ two _ near
    have same : one.sourceIP = two.sourceIP := near.1
    rw [same]
  exact (mem_of_reachable step rfl (connected first left second right)).symm

theorem correlate_ok
    {groups : List Group} (accepted : correlate crypto signals = .ok groups) :
    ∃ values, Consistent signals ∧ Arranged signals values ∧
      normalizeSignals signals = .ok values ∧
      BuiltFrom crypto (timeline.sweep maximumSignalGap values) groups := by
  unfold correlate at accepted
  cases normal : normalizeSignals signals with
  | error =>
      rw [normal] at accepted
      cases accepted
  | ok values =>
      rw [normal] at accepted
      dsimp only at accepted
      cases grouped : buildGroups crypto
          (timeline.sweep maximumSignalGap values) with
      | error failure =>
          rw [grouped] at accepted
          cases accepted
      | ok built =>
          rw [grouped] at accepted
          cases accepted
          obtain ⟨consistent, arranged⟩ := normalizeSignals_ok normal
          exact ⟨values, consistent, arranged, rfl,
            (buildGroups_ok grouped).perm (perm_sortSlice _ _)⟩

/-- Every consistent list of signals is accepted. -/
theorem exists_correlate
    (crypto : Crypto) (consistent : Consistent signals) :
    ∃ groups, correlate crypto signals = .ok groups := by
  obtain ⟨values, normal, arranged⟩ := exists_normalizeSignals consistent
  have cut := pieces_of_arranged arranged consistent
  obtain ⟨groups, grouped⟩ : ∃ groups, buildGroups crypto
      (timeline.sweep maximumSignalGap values) = .ok groups := by
    apply exists_buildGroups
    intro component member
    have inside : component ⊆ signals := fun signal listed =>
      (arranged.mem_iff signal).mp (cut.subset member listed)
    obtain ⟨snapshot, built⟩ := exists_buildEvidenceSnapshot crypto
      (consistent.subset inside) (cut.nonempty component member)
      fun first left second right =>
        source_of_connected (cut.connected component member) left right
    exact ⟨_, buildGroup_eq_ok_iff.mpr ⟨snapshot, built, rfl⟩⟩
  unfold correlate
  rw [normal]
  dsimp only
  rw [grouped]
  exact ⟨_, rfl⟩

/-- The graph of the signals and that of the pass are the same. -/
theorem graphOn_linked
    (arranged : Arranged signals values) (consistent : Consistent signals) :
    graphOn Linked signals =
      graphOn (timeline.Near maximumSignalGap) values := by
  have proper : ∀ signal ∈ signals, signal.windowStart ≤ signal.windowEnd :=
    fun signal member => (consistent.valid signal member).ordered
  apply le_antisymm
  · apply graphOn_mono
    · intro signal member
      exact (arranged.mem_iff signal).mpr member
    · intro first left second right _ linked
      exact (linked_iff_near (proper first left) (proper second right)).mp linked
  · apply graphOn_mono
    · intro signal member
      exact (arranged.mem_iff signal).mp member
    · intro first left second right _ near
      exact (linked_iff_near (proper first ((arranged.mem_iff first).mp left))
        (proper second ((arranged.mem_iff second).mp right))).mpr near

/-- The groups are the components of the graph of the signals, with the edges
inside them as relations, and depend on the set of the signals only. -/
theorem correlate_components
    {groups : List Group} (accepted : correlate crypto signals = .ok groups) :
    (groups.flatMap (·.signals)).Nodup ∧
    (∀ signal, signal ∈ groups.flatMap (·.signals) ↔ signal ∈ signals) ∧
    (∀ group ∈ groups, group.signals ≠ []) ∧
    (∀ first ∈ signals, ∀ second ∈ signals,
      (graphOn Linked signals).Reachable first second ↔
        ∃ group ∈ groups, first ∈ group.signals ∧ second ∈ group.signals) ∧
    (∀ group ∈ groups, (group.relations.map Relation.ends).Nodup ∧
      ∀ relation, relation ∈ group.relations ↔
        ∃ first ∈ group.signals, ∃ second ∈ group.signals,
          first.signalID < second.signalID ∧ Linked first second ∧
          ∃ reason, Temporal first second reason ∧
            relation = makeRelation first second reason) ∧
    ∀ others, (∀ signal, signal ∈ others ↔ signal ∈ signals) →
      correlate crypto others = .ok groups := by
  obtain ⟨values, consistent, arranged, normal, built⟩ := correlate_ok accepted
  have cut := pieces_of_arranged arranged consistent
  have flattened : (groups.flatMap (·.signals)).Perm values := by
    rw [← cut.flatten]
    exact built.signals
  have members : ∀ {component group}, buildGroup crypto component = .ok group →
      ∀ signal, signal ∈ group.signals ↔ signal ∈ component := by
    intro component group made signal
    obtain ⟨snapshot, -, rfl⟩ := buildGroup_eq_ok_iff.mp made
    exact mem_sortSlice
  refine ⟨?_, ?_, ?_, ?_, ?_, ?_⟩
  · exact flattened.nodup_iff.mpr arranged.increasing.nodup
  · intro signal
    rw [flattened.mem_iff, arranged.mem_iff]
  · intro group member
    obtain ⟨component, listed, made⟩ := built.origin group member
    obtain ⟨signal, inside⟩ :=
      List.exists_mem_of_ne_nil _ (cut.nonempty component listed)
    exact List.ne_nil_of_mem ((members made signal).mpr inside)
  · intro first left second right
    rw [graphOn_linked arranged consistent,
      cut.reachable_iff ((arranged.mem_iff first).mpr left)]
    constructor
    · rintro ⟨component, listed, firstInside, secondInside⟩
      obtain ⟨group, member, made⟩ := built.target component listed
      exact ⟨group, member, (members made first).mpr firstInside,
        (members made second).mpr secondInside⟩
    · rintro ⟨group, member, firstInside, secondInside⟩
      obtain ⟨component, listed, made⟩ := built.origin group member
      exact ⟨component, listed, (members made first).mp firstInside,
        (members made second).mp secondInside⟩
  · intro group member
    obtain ⟨component, listed, made⟩ := built.origin group member
    have same := members made
    have inside : component ⊆ signals := fun signal present =>
      (arranged.mem_iff signal).mp (cut.subset listed present)
    have distinct : component.Nodup := by
      have whole := arranged.increasing.nodup
      rw [← cut.flatten] at whole
      exact (List.nodup_flatten.mp whole).1 component listed
    obtain ⟨snapshot, -, rfl⟩ := buildGroup_eq_ok_iff.mp made
    refine ⟨nodup_ends_relations (consistent.subset inside) distinct, ?_⟩
    intro relation
    simp only [same]
    rw [mem_relations_iff (consistent.subset inside) distinct]
    constructor
    · rintro ⟨first, left, second, right, below, source, reason, temporal, rfl⟩
      exact ⟨first, left, second, right, below, ⟨source, temporal.withinGap⟩,
        reason, temporal, rfl⟩
    · rintro ⟨first, left, second, right, below, linked, reason, temporal, rfl⟩
      exact ⟨first, left, second, right, below, linked.1, reason, temporal, rfl⟩
  · intro others same
    obtain ⟨second, otherNormal, otherArranged⟩ := exists_normalizeSignals
      (consistent.subset fun signal member => (same signal).mp member)
    rw [← accepted, correlate, correlate, normal, otherNormal,
      otherArranged.ext arranged same]

end Correlate

/-- Ten failed logins from one source, in the given window in seconds. -/
def sampleSignal (index : Nat) (start stop : Int) : Signal where
  signalID := ascii "00000000-0000-8000-8000-00000000000" ++ formatUint index
  ruleID := .loginBruteForce
  classification := .loginBruteForce
  configurationVersion := ascii "detectors-v1"
  configurationDigest := digestLabel ++ List.replicate 64 48
  sourceIP := ascii "192.0.2.10"
  serviceLabel := ascii "shop"
  windowStart := (63900000000 + start) * second
  windowEnd := (63900000000 + stop) * second
  metrics := { eventCount := 10 }
  evidenceIDs := (List.range 10).map fun event =>
    ascii "00000000-0000-4000-8000-0000000000" ++ formatUint index ++
      formatUint event
  evidenceDigest := digestLabel ++ List.replicate 64 49
  digest := digestLabel ++ List.replicate 63 50 ++ formatUint index
  sourceHealthStatus := .complete

/-- Two signals four minutes apart, and a third an hour later. -/
def sampleSignals : List Signal :=
  [sampleSignal 1 0 60, sampleSignal 2 300 360, sampleSignal 3 3600 3660]

theorem consistent_of_isOk
    {signals : List Signal} (passed : (normalizeSignals signals).isOk = true) :
    Consistent signals := by
  cases normal : normalizeSignals signals with
  | error =>
      rw [normal] at passed
      cases passed
  | ok => exact (normalizeSignals_ok normal).1

theorem sampleSignals_consistent : Consistent sampleSignals := by
  apply consistent_of_isOk
  decide +kernel

theorem sampleSignals_components :
    ∃ groups, correlate Sha256.hashing sampleSignals = .ok groups ∧
      ∀ first ∈ sampleSignals, ∀ second ∈ sampleSignals,
        (graphOn Linked sampleSignals).Reachable first second ↔
          ∃ group ∈ groups, first ∈ group.signals ∧
            second ∈ group.signals := by
  obtain ⟨groups, accepted⟩ :=
    exists_correlate Sha256.hashing sampleSignals_consistent
  obtain ⟨-, -, -, components, -, -⟩ := correlate_components accepted
  exact ⟨groups, accepted, components⟩

end SentinelFlow.Correlation
