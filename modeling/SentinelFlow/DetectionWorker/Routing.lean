import SentinelFlow.Correlation.Incident

/-!
# Routing signals to stored incidents

The detection worker links each signal to one stored incident, under a lock per
source: to an open incident near it, else to a closed one that may be reopened,
else to a new one.  Idle incidents are closed.  Each of these is one
transaction on the incident tables; the constraints of the tables decide whether
it commits.
-/

namespace SentinelFlow.DetectionWorker

open GoLib Detection Correlation

/-- The database keeps whole microseconds. -/
def databaseTime (instant : Int) : Int :=
  instant / 1000 * 1000

/-- A row of `incidents` with the signals that are linked to it. -/
structure IncidentRow where
  id : Bytes
  state : IncidentState
  sourceIP : Bytes
  version : Nat
  firstSeen : Int
  lastSeen : Int
  closedAt : Option Int
  reopenUntil : Option Int
  createdAt : Int
  updatedAt : Int
  signals : List Signal
deriving DecidableEq, Repr

/-- The primary key of `incidents`, the unique signals of `incident_signals` and
the greatest number of signals of a recorded version. -/
structure Constraints (rows : List IncidentRow) : Prop where
  ids : (rows.map (·.id)).Nodup
  linked : ((rows.flatMap (·.signals)).map (·.signalID)).Nodup
  bounded : ∀ row ∈ rows, row.signals.length ≤ 10000

instance (rows : List IncidentRow) : Decidable (Constraints rows) :=
  decidable_of_iff ((rows.map (·.id)).Nodup ∧
      ((rows.flatMap (·.signals)).map (·.signalID)).Nodup ∧
      ∀ row ∈ rows, row.signals.length ≤ 10000)
    ⟨fun ⟨ids, linked, bounded⟩ => ⟨ids, linked, bounded⟩,
      fun ⟨ids, linked, bounded⟩ => ⟨ids, linked, bounded⟩⟩

structure Tables where
  rows : List IncidentRow
  constraints : Constraints rows

def Tables.empty : Tables where
  rows := []
  constraints := ⟨List.nodup_nil, List.nodup_nil, List.forall_mem_nil _⟩

/-- Rows that violate a constraint are not committed. -/
def commit (rows : List IncidentRow) : Option Tables :=
  if constraints : Constraints rows then some ⟨rows, constraints⟩ else none

/-- The windows as the database compares them. -/
def near (signal other : Signal) : Bool :=
  decide (databaseTime other.windowStart ≤
      databaseTime signal.windowEnd + maximumSignalGap) &&
    decide (databaseTime signal.windowStart ≤
      databaseTime other.windowEnd + maximumSignalGap)

def IncidentRow.related (signal : Signal) (row : IncidentRow) : Bool :=
  row.sourceIP == signal.sourceIP && row.state != .incidentClosed &&
    row.signals.any (near signal)

def IncidentRow.reopenable (signal : Signal) (mutationAt : Int)
    (row : IncidentRow) : Bool :=
  row.sourceIP == signal.sourceIP && row.state == .incidentClosed &&
    row.closedAt.any (· ≤ mutationAt) && row.reopenUntil.any (mutationAt ≤ ·)

/-- `ORDER BY last_seen DESC, created_at, incident_id`; the second query has
`closed_at` in the first place. -/
def lessBy (time : IncidentRow → Int) (first second : IncidentRow) : Bool :=
  if time first ≠ time second then time second < time first
  else if first.createdAt ≠ second.createdAt then
    first.createdAt < second.createdAt
  else first.id < second.id

def findRelatedIncident (tables : Tables) (signal : Signal)
    (mutationAt : Int) : Option IncidentRow :=
  match (sortSlice (lessBy (·.lastSeen))
      (tables.rows.filter (·.related signal))).head? with
  | some row => some row
  | none => (sortSlice (lessBy fun row => row.closedAt.getD 0)
      (tables.rows.filter (·.reopenable signal mutationAt))).head?

inductive RouteError where
  | invalidSnapshot
  | persistence
deriving DecidableEq, Repr

/-- The tables, the incident and its version. -/
abbrev Routed : Type :=
  Tables × Bytes × Nat

def createIncident (crypto : Crypto) (tables : Tables) (signal : Signal)
    (mutationAt : Int) : Except RouteError Routed :=
  match correlate crypto [signal] with
  | .ok [group] =>
      match newIncident crypto group mutationAt with
      | .ok incident =>
          match commit (tables.rows ++
              [{ id := incident.id
                 state := .incidentOpen
                 sourceIP := signal.sourceIP
                 version := 1
                 firstSeen := databaseTime signal.windowStart
                 lastSeen := databaseTime signal.windowEnd
                 closedAt := none
                 reopenUntil := none
                 createdAt := mutationAt
                 updatedAt := mutationAt
                 signals := [signal] }]) with
          | some tables => .ok (tables, incident.id, 1)
          | none => .error .persistence
      | .error _ => .error .invalidSnapshot
  | _ => .error .invalidSnapshot

/-- The row after its signals and its version have been updated. -/
def IncidentRow.append (row : IncidentRow) (signal : Signal)
    (mutationAt : Int) : IncidentRow :=
  { row with
    state := .incidentOpen
    version := row.version + 1
    firstSeen := databaseTime
      (if signal.windowStart < row.firstSeen then signal.windowStart
        else row.firstSeen)
    lastSeen := databaseTime
      (if row.lastSeen < signal.windowEnd then signal.windowEnd
        else row.lastSeen)
    closedAt := none
    reopenUntil := none
    updatedAt := if mutationAt < row.updatedAt then row.updatedAt
      else mutationAt
    signals := row.signals ++ [signal] }

/-- Replaces the row with the id. -/
def updateRow (rows : List IncidentRow) (row : IncidentRow) :
    List IncidentRow :=
  rows.map fun other => if other.id = row.id then row else other

/-- An analysis in progress has to be superseded first, which the database may
refuse. -/
def appendIncidentSignal (tables : Tables) (current : IncidentRow)
    (signal : Signal) (mutationAt : Int) (supersedes : Bool) :
    Except RouteError Routed :=
  if current.state = .incidentAnalyzing ∧ supersedes = false then
    .error .persistence
  else
    let current :=
      if current.state = .incidentAnalyzing then
        { current with
          state := .incidentAnalysisFailed
          version := current.version + 1 }
      else current
    let next := current.append signal mutationAt
    match commit (updateRow tables.rows next) with
    | some tables => .ok (tables, next.id, next.version)
    | none => .error .persistence

/-- `mutationAt` of `routeSignal`. -/
def mutationTime (signal : Signal) (jobCreatedAt : Int) : Int :=
  let arrived := databaseTime jobCreatedAt
  if arrived < signal.windowEnd then databaseTime signal.windowEnd else arrived

def routeSignal (crypto : Crypto) (tables : Tables) (signal : Signal)
    (jobCreatedAt : Int) (supersedes : Bool) : Except RouteError Routed :=
  let mutationAt := mutationTime signal jobCreatedAt
  match findRelatedIncident tables signal mutationAt with
  | none => createIncident crypto tables signal mutationAt
  | some current =>
      appendIncidentSignal tables current signal mutationAt supersedes

def IncidentRow.idle (clock : Int) (row : IncidentRow) : Bool :=
  (row.state == .incidentOpen || row.state == .incidentReviewReady ||
    row.state == .incidentAnalysisFailed) &&
    decide (row.lastSeen + incidentIdleTimeout ≤ clock)

def IncidentRow.close (clock : Int) (row : IncidentRow) : IncidentRow :=
  let closedAt := databaseTime (row.lastSeen + incidentIdleTimeout)
  { row with
    state := .incidentClosed
    version := row.version + 1
    closedAt := some closedAt
    reopenUntil := some (databaseTime (closedAt + incidentReopenWindow))
    updatedAt := if row.updatedAt < clock then clock else row.updatedAt }

def lessIdle (first second : IncidentRow) : Bool :=
  if first.lastSeen ≠ second.lastSeen then first.lastSeen < second.lastSeen
  else first.id < second.id

/-- The incidents that `CloseIdle` selects. -/
def idleCandidates (rows : List IncidentRow) (limit : Nat) (clock : Int) :
    List IncidentRow :=
  (sortSlice lessIdle (rows.filter (·.idle clock))).take limit

def closeIdle (tables : Tables) (limit : Nat) (clock : Int) : Option Tables :=
  if limit < 1 ∨ 1000 < limit then none
  else commit ((idleCandidates tables.rows limit clock).foldl
    (fun rows current => updateRow rows (current.close clock)) tables.rows)

/-! ## Runs -/

/-- What happens to the tables.  The analysis of an incident moves it between
the states that are not closed. -/
inductive Action where
  | route (signal : Signal) (jobCreatedAt : Int) (supersedes : Bool)
  | closeIdle (limit : Nat) (clock : Int)
  | analyse (id : Bytes) (state : IncidentState)

/-- A failed transaction leaves the tables as they were. -/
def Tables.after (crypto : Crypto) (tables : Tables) : Action → Tables
  | .route signal jobCreatedAt supersedes =>
      match routeSignal crypto tables signal jobCreatedAt supersedes with
      | .ok (later, _, _) => later
      | .error _ => tables
  | .closeIdle limit clock =>
      (DetectionWorker.closeIdle tables limit clock).getD tables
  | .analyse id state =>
      if state = .incidentClosed then tables
      else (commit (tables.rows.map fun row =>
        if row.id = id ∧ row.state ≠ .incidentClosed then
          { row with state, version := row.version + 1 }
        else row)).getD tables

def run (crypto : Crypto) (actions : List Action) : Tables :=
  actions.foldl (Tables.after crypto) .empty

/-! ## What a step does to the rows -/

section Steps

variable {crypto : Crypto} {tables later : Tables} {signal : Signal}

theorem commit_eq_some
    {rows : List IncidentRow} (committed : commit rows = some later) :
    later.rows = rows := by
  unfold commit at committed
  split at committed
  · cases committed
    rfl
  · cases committed

theorem mem_updateRow
    {rows : List IncidentRow} {next row : IncidentRow}
    (member : row ∈ updateRow rows next) :
    row = next ∨ row ∈ rows ∧ row.id ≠ next.id := by
  obtain ⟨other, listed, rfl⟩ := List.mem_map.mp member
  by_cases same : other.id = next.id
  · rw [if_pos same]
    exact .inl rfl
  · rw [if_neg same]
    exact .inr ⟨listed, same⟩

/-- Every later row is an earlier one with another state; none was opened. -/
def Closes (rows later : List IncidentRow) : Prop :=
  ∀ next ∈ later, ∃ row ∈ rows, next.id = row.id ∧
    next.sourceIP = row.sourceIP ∧ next.signals = row.signals ∧
    (next.state ≠ .incidentClosed → row.state ≠ .incidentClosed)

theorem closes_refl (rows : List IncidentRow) : Closes rows rows := by
  intro row member
  exact ⟨row, member, rfl, rfl, rfl, id⟩

/-- The loop of `CloseIdle`. -/
theorem closes_foldl
    {rows candidates : List IncidentRow} (clock : Int)
    (listed : ∀ row ∈ candidates, row ∈ rows) {current : List IncidentRow}
    (closes : Closes rows current) :
    Closes rows (candidates.foldl
      (fun rows row => updateRow rows (row.close clock)) current) := by
  induction candidates generalizing current with
  | nil => exact closes
  | cons row candidates ih =>
      apply ih fun other member => listed other (List.mem_cons_of_mem _ member)
      intro next member
      rcases mem_updateRow member with rfl | ⟨kept, -⟩
      · exact ⟨row, listed row List.mem_cons_self, rfl, rfl, rfl,
          fun open_ => absurd rfl open_⟩
      · exact closes next kept

theorem closeIdle_closes
    {limit : Nat} {clock : Int}
    (closed : closeIdle tables limit clock = some later) :
    Closes tables.rows later.rows := by
  unfold closeIdle at closed
  split at closed
  · cases closed
  · rw [commit_eq_some closed]
    refine closes_foldl clock ?_ (closes_refl _)
    intro row member
    exact List.mem_of_mem_filter (mem_sortSlice.mp (List.mem_of_mem_take member))

/-- The first query has no row. -/
theorem unrelated_of_head?
    (nothing : (sortSlice (lessBy (·.lastSeen))
      (tables.rows.filter (·.related signal))).head? = none) :
    ∀ row ∈ tables.rows, row.related signal = false := by
  intro row member
  cases known : row.related signal with
  | false => rfl
  | true =>
      have listed : row ∈ sortSlice (lessBy (·.lastSeen))
          (tables.rows.filter (·.related signal)) :=
        mem_sortSlice.mpr (List.mem_filter.mpr ⟨member, known⟩)
      rw [List.head?_eq_none_iff.mp nothing] at listed
      cases listed

theorem findRelatedIncident_eq_none
    {mutationAt : Int}
    (absent : findRelatedIncident tables signal mutationAt = none) :
    ∀ row ∈ tables.rows, row.related signal = false := by
  unfold findRelatedIncident at absent
  split at absent
  · cases absent
  next nothing => exact unrelated_of_head? nothing

theorem findRelatedIncident_eq_some
    {mutationAt : Int} {current : IncidentRow}
    (found : findRelatedIncident tables signal mutationAt = some current) :
    current ∈ tables.rows ∧ current.sourceIP = signal.sourceIP ∧
      (current.related signal = true ∨ current.state = .incidentClosed ∧
        ∀ row ∈ tables.rows, row.related signal = false) := by
  unfold findRelatedIncident at found
  split at found
  · next row first =>
      cases found
      obtain ⟨member, related⟩ := List.mem_filter.mp
        (mem_sortSlice.mp (List.mem_of_head? first))
      have parts := related
      simp only [IncidentRow.related, Bool.and_eq_true, beq_iff_eq] at parts
      exact ⟨member, parts.1.1, .inl related⟩
  · next nothing =>
      obtain ⟨member, reopenable⟩ := List.mem_filter.mp
        (mem_sortSlice.mp (List.mem_of_head? found))
      simp only [IncidentRow.reopenable, Bool.and_eq_true, beq_iff_eq]
        at reopenable
      exact ⟨member, reopenable.1.1.1, .inr ⟨reopenable.1.1.2,
        unrelated_of_head? nothing⟩⟩

/-- What a committed routing has done. -/
inductive RouteEffect (tables : Tables) (signal : Signal) (mutationAt : Int) :
    List IncidentRow → Prop where
  | created (row : IncidentRow)
      (absent : findRelatedIncident tables signal mutationAt = none)
      (sourceIP : row.sourceIP = signal.sourceIP)
      (open_ : row.state ≠ .incidentClosed) (signals : row.signals = [signal]) :
      RouteEffect tables signal mutationAt (tables.rows ++ [row])
  | appended (current next : IncidentRow)
      (found : findRelatedIncident tables signal mutationAt = some current)
      (id : next.id = current.id) (sourceIP : next.sourceIP = current.sourceIP)
      (open_ : next.state ≠ .incidentClosed)
      (signals : next.signals = current.signals ++ [signal]) :
      RouteEffect tables signal mutationAt (updateRow tables.rows next)

theorem routeSignal_effect
    {jobCreatedAt : Int} {supersedes : Bool} {id : Bytes} {version : Nat}
    (routed : routeSignal crypto tables signal jobCreatedAt supersedes =
      .ok (later, id, version)) :
    RouteEffect tables signal (mutationTime signal jobCreatedAt) later.rows := by
  unfold routeSignal at routed
  dsimp only at routed
  split at routed
  · next absent =>
      unfold createIncident at routed
      split at routed
      · split at routed
        · split at routed
          · next committed =>
              cases routed
              rw [commit_eq_some committed]
              exact .created _ absent rfl (by simp) rfl
          · cases routed
        · cases routed
      · cases routed
  · next current found =>
      unfold appendIncidentSignal at routed
      split at routed
      · cases routed
      dsimp only at routed
      split at routed
      · next committed =>
          cases routed
          rw [commit_eq_some committed]
          refine .appended current _ found ?_ ?_ (by simp [IncidentRow.append]) ?_
          all_goals
            unfold IncidentRow.append
            split <;> rfl
      · cases routed

end Steps

/-! ## Separation -/

/-- The windows of a signal are whole microseconds. -/
def Aligned (signal : Signal) : Prop :=
  databaseTime signal.windowStart = signal.windowStart ∧
    databaseTime signal.windowEnd = signal.windowEnd

variable {crypto : Crypto} {later rows : List IncidentRow} {signal : Signal}
  {tables : Tables}

theorem near_iff
    {other : Signal} (valid : ValidSignal signal)
    (aligned : Aligned signal) (otherValid : ValidSignal other)
    (otherAligned : Aligned other) :
    near signal other = true ↔ WithinGap signal other := by
  rw [withinGap_iff valid.ordered otherValid.ordered, near, Bool.and_eq_true,
    decide_eq_true_eq, decide_eq_true_eq, aligned.1, aligned.2, otherAligned.1,
    otherAligned.2]
  exact And.comm

/-- No two open incidents of a source have signals that overlap or are at most
five minutes apart. -/
def Separated (rows : List IncidentRow) : Prop :=
  ∀ left ∈ rows, ∀ right ∈ rows, left.id ≠ right.id →
    left.state ≠ .incidentClosed → right.state ≠ .incidentClosed →
    left.sourceIP = right.sourceIP →
    ∀ first ∈ left.signals, ∀ second ∈ right.signals,
      ¬ Overlap first second ∧ ¬ WithinGap first second

/-- A routed signal is near one open incident at most, and an incident that it
reopens is not near an open one. -/
def Unbridged (tables : Tables) : Action → Prop
  | .route signal jobCreatedAt _ => Aligned signal ∧
      (∀ left ∈ tables.rows, ∀ right ∈ tables.rows,
        left.related signal = true → right.related signal = true →
        left = right) ∧
      ∀ current, findRelatedIncident tables signal
          (mutationTime signal jobCreatedAt) = some current →
        current.state = .incidentClosed →
        ∀ other ∈ tables.rows, other.state ≠ .incidentClosed →
          other.sourceIP = current.sourceIP →
          ∀ first ∈ current.signals, ∀ second ∈ other.signals,
            ¬ WithinGap first second
  | _ => True

def Action.Valid : Action → Prop
  | .route signal _ _ => ValidSignal signal
  | _ => True

/-- The signals of a row are valid, whole microseconds and of its source. -/
def Stored (rows : List IncidentRow) : Prop :=
  ∀ row ∈ rows, ∀ signal ∈ row.signals,
    ValidSignal signal ∧ Aligned signal ∧ signal.sourceIP = row.sourceIP

structure Sound (rows : List IncidentRow) : Prop where
  stored : Stored rows
  separated : Separated rows

theorem Separated.of_closes
    (separated : Separated rows)
    (closes : Closes rows later) : Separated later := by
  intro left leftMember right rightMember different leftOpen rightOpen source
  obtain ⟨one, oneMember, oneID, oneSource, oneSignals, oneOpen⟩ :=
    closes left leftMember
  obtain ⟨two, twoMember, twoID, twoSource, twoSignals, twoOpen⟩ :=
    closes right rightMember
  rw [oneID, twoID] at different
  rw [oneSource, twoSource] at source
  rw [oneSignals, twoSignals]
  exact separated one oneMember two twoMember different (oneOpen leftOpen)
    (twoOpen rightOpen) source

theorem Sound.of_closes
    (sound : Sound rows)
    (closes : Closes rows later) : Sound later := by
  refine ⟨?_, sound.separated.of_closes closes⟩
  intro next member signal listed
  obtain ⟨row, known, -, source, signals, -⟩ := closes next member
  rw [signals] at listed
  rw [source]
  exact sound.stored row known signal listed

/-- An open row that is not related has no signal near the routed one. -/
theorem not_withinGap_of_unrelated
    (stored : Stored rows) {row : IncidentRow}
    (member : row ∈ rows) (valid : ValidSignal signal)
    (aligned : Aligned signal) (source : row.sourceIP = signal.sourceIP)
    (open_ : row.state ≠ .incidentClosed)
    (unrelated : row.related signal = false) :
    ∀ other ∈ row.signals, ¬ WithinGap signal other := by
  intro other listed close
  obtain ⟨otherValid, otherAligned, -⟩ := stored row member other listed
  have related : row.related signal = true := by
    simp only [IncidentRow.related, Bool.and_eq_true, beq_iff_eq, bne_iff_ne,
      List.any_eq_true]
    exact ⟨⟨source, open_⟩, other, listed,
      (near_iff valid aligned otherValid otherAligned).mpr close⟩
  rw [unrelated] at related
  cases related

theorem withinGap_of_overlap
    {first second : Signal} (overlap : Overlap first second) :
    WithinGap first second := by
  obtain ⟨instant, inFirst, inSecond⟩ := overlap
  refine ⟨instant, inFirst, instant, inSecond, ?_⟩
  rw [sub_self, abs_zero]
  decide

/-- One row is replaced by a row that is separated from the others. -/
theorem Separated.replace
    (separated : Separated rows) {next : IncidentRow}
    (changed : ∀ row ∈ later, row = next ∨ row ∈ rows ∧ row.id ≠ next.id)
    (apart : ∀ row ∈ rows, row.id ≠ next.id → row.state ≠ .incidentClosed →
      row.sourceIP = next.sourceIP →
      ∀ first ∈ next.signals, ∀ second ∈ row.signals,
        ¬ WithinGap first second) :
    Separated later := by
  have both : ∀ row ∈ rows, row.id ≠ next.id → row.state ≠ .incidentClosed →
      row.sourceIP = next.sourceIP →
      ∀ first ∈ next.signals, ∀ second ∈ row.signals,
        ¬ Overlap first second ∧ ¬ WithinGap first second := by
    intro row member different open_ source first left second right
    have far := apart row member different open_ source first left second right
    exact ⟨fun overlap => far (withinGap_of_overlap overlap), far⟩
  intro left leftMember right rightMember different leftOpen rightOpen source
    first inLeft second inRight
  rcases changed left leftMember with rfl | ⟨leftOld, leftOther⟩
  · rcases changed right rightMember with rfl | ⟨rightOld, rightOther⟩
    · exact absurd rfl different
    · exact both right rightOld rightOther rightOpen source.symm first inLeft
        second inRight
  · rcases changed right rightMember with rfl | ⟨rightOld, rightOther⟩
    · obtain ⟨apartOverlap, far⟩ := both left leftOld leftOther leftOpen source
        second inRight first inLeft
      exact ⟨fun overlap => apartOverlap overlap.symm,
        fun close => far close.symm⟩
    · exact separated left leftOld right rightOld different leftOpen rightOpen
        source first inLeft second inRight

theorem Sound.route
    (sound : Sound tables.rows) {jobCreatedAt : Int} {supersedes : Bool}
    (valid : ValidSignal signal)
    (unbridged : Unbridged tables (.route signal jobCreatedAt supersedes))
    (effect : RouteEffect tables signal (mutationTime signal jobCreatedAt)
      later)
    (ids : (later.map (·.id)).Nodup) :
    Sound later := by
  obtain ⟨aligned, single, reopening⟩ := unbridged
  cases effect with
  | created row absent source open_ signals =>
      have unrelated := findRelatedIncident_eq_none absent
      constructor
      · intro other member held listed
        rcases List.mem_append.mp member with old | new
        · exact sound.stored other old held listed
        · rw [List.mem_singleton.mp new] at listed ⊢
          rw [signals, List.mem_singleton] at listed
          subst listed
          exact ⟨valid, aligned, source.symm⟩
      · refine @Separated.replace _ _ sound.separated row ?_ ?_
        · intro other member
          rcases List.mem_append.mp member with old | new
          · refine .inr ⟨old, ?_⟩
            intro same
            rw [List.map_append, List.nodup_append] at ids
            exact ids.2.2 _ (List.mem_map_of_mem old) _
              (List.mem_map_of_mem (List.mem_singleton_self row)) same
          · exact .inl (List.mem_singleton.mp new)
        · intro other member _ otherOpen sameSource first inNext
          rw [signals, List.mem_singleton] at inNext
          subst inNext
          exact not_withinGap_of_unrelated sound.stored member valid aligned
            (sameSource.trans source) otherOpen (unrelated other member)
  | appended current next found id source open_ signals =>
      obtain ⟨member, sameSource, known⟩ := findRelatedIncident_eq_some found
      have far : ∀ row ∈ tables.rows, row.id ≠ next.id →
          row.state ≠ .incidentClosed → row.sourceIP = next.sourceIP →
          row.related signal = false := by
        intro row listed different rowOpen _
        rcases known with related | ⟨-, unrelated⟩
        · cases rowRelated : row.related signal with
          | false => rfl
          | true =>
              rw [single row listed current member rowRelated related] at different
              exact absurd id.symm different
        · exact unrelated row listed
      constructor
      · intro other listed held inside
        rcases mem_updateRow listed with rfl | ⟨old, -⟩
        · rw [signals] at inside
          rw [source]
          rcases List.mem_append.mp inside with earlier | new
          · exact sound.stored current member held earlier
          · rw [List.mem_singleton.mp new]
            exact ⟨valid, aligned, sameSource.symm⟩
        · exact sound.stored other old held inside
      · refine @Separated.replace _ _ sound.separated next
          (fun row listed => mem_updateRow listed) ?_
        intro row listed different rowOpen rowSource first inNext second inRow
        rw [signals] at inNext
        rw [id] at different
        rcases List.mem_append.mp inNext with earlier | new
        · rcases known with related | ⟨closed, -⟩
          · have currentOpen : current.state ≠ .incidentClosed := by
              simp only [IncidentRow.related, Bool.and_eq_true, bne_iff_ne]
                at related
              exact related.1.2
            exact (sound.separated current member row listed different.symm
              currentOpen rowOpen (rowSource.trans source).symm first earlier
              second inRow).2
          · exact reopening current found closed row listed rowOpen
              (rowSource.trans source) first earlier second inRow
        · rw [List.mem_singleton.mp new]
          exact not_withinGap_of_unrelated sound.stored listed valid aligned
            (rowSource.trans (source.trans sameSource)) rowOpen
            (far row listed (id ▸ different) rowOpen rowSource) second inRow

/-- An analysis changes neither what is open nor what is linked. -/
theorem analyse_rows
    (crypto : Crypto) (tables : Tables) (id : Bytes) (state : IncidentState) :
    ∃ change : IncidentRow → IncidentRow,
      (tables.after crypto (.analyse id state)).rows = tables.rows.map change ∧
      ∀ row, (change row).id = row.id ∧ (change row).sourceIP = row.sourceIP ∧
        (change row).signals = row.signals ∧
        ((change row).state ≠ .incidentClosed ↔
          row.state ≠ .incidentClosed) := by
  have unchanged : tables.rows = tables.rows.map fun row => row :=
    (List.map_id' _).symm
  unfold Tables.after
  dsimp only
  split
  · exact ⟨_, unchanged, fun _ => ⟨rfl, rfl, rfl, Iff.rfl⟩⟩
  · next open_ =>
      cases committed : commit _ with
      | none => exact ⟨_, unchanged, fun _ => ⟨rfl, rfl, rfl, Iff.rfl⟩⟩
      | some =>
          refine ⟨_, commit_eq_some committed, ?_⟩
          intro row
          split
          · next changed =>
              exact ⟨rfl, rfl, rfl, fun _ => changed.2, fun _ => open_⟩
          · exact ⟨rfl, rfl, rfl, Iff.rfl⟩

theorem Sound.after
    {action : Action}
    (sound : Sound tables.rows) (valid : action.Valid)
    (unbridged : Unbridged tables action) :
    Sound (tables.after crypto action).rows := by
  cases action with
  | route =>
      unfold Tables.after
      dsimp only
      split
      · next later _ _ routed =>
          exact sound.route valid unbridged (routeSignal_effect routed)
            later.constraints.ids
      · exact sound
  | closeIdle limit clock =>
      unfold Tables.after
      dsimp only
      cases closed : closeIdle tables limit clock with
      | none => exact sound
      | some => exact sound.of_closes (closeIdle_closes closed)
  | analyse id state =>
      apply sound.of_closes
      intro next member
      obtain ⟨change, rows, kept⟩ := analyse_rows crypto tables id state
      rw [rows] at member
      obtain ⟨row, listed, rfl⟩ := List.mem_map.mp member
      obtain ⟨sameID, source, signals, open_⟩ := kept row
      exact ⟨row, listed, sameID, source, signals, open_.mp⟩

/-! ## Incidents as groups -/

/-- The signals of the rows. -/
def linkedSignals (rows : List IncidentRow) : List Signal :=
  rows.flatMap (·.signals)

/-- Two signals are linked to one incident. -/
def Together (rows : List IncidentRow) (first second : Signal) : Prop :=
  ∃ row ∈ rows, first ∈ row.signals ∧ second ∈ row.signals

/-- Every row is open, and its signals are one component. -/
def Grouped (rows : List IncidentRow) : Prop :=
  ∀ row ∈ rows, row.state ≠ .incidentClosed ∧ Connected Linked row.signals

theorem Grouped.route
    (grouped : Grouped tables.rows)
    (stored : Stored tables.rows) {mutationAt : Int}
    (valid : ValidSignal signal) (aligned : Aligned signal)
    (effect : RouteEffect tables signal mutationAt later) :
    Grouped later := by
  cases effect with
  | created row absent source open_ signals =>
      intro other member
      rcases List.mem_append.mp member with old | new
      · exact grouped other old
      · rw [List.mem_singleton.mp new, signals]
        exact ⟨open_, connected_singleton _ _⟩
  | appended current next found id source open_ signals =>
      obtain ⟨member, sameSource, known⟩ := findRelatedIncident_eq_some found
      intro other listed
      rcases mem_updateRow listed with rfl | ⟨old, -⟩
      · refine ⟨open_, ?_⟩
        rcases known with related | ⟨closed, -⟩
        · simp only [IncidentRow.related, Bool.and_eq_true, List.any_eq_true]
            at related
          obtain ⟨-, anchor, present, close⟩ := related
          obtain ⟨anchorValid, anchorAligned, anchorSource⟩ :=
            stored current member anchor present
          have linked : Linked signal anchor :=
            ⟨sameSource.symm.trans anchorSource.symm,
              (near_iff valid aligned anchorValid anchorAligned).mp close⟩
          apply (grouped current member).2.insert present (.inr linked)
          intro held
          rw [signals, List.mem_append, List.mem_singleton, or_comm]
        · exact absurd closed (grouped current member).1
      · exact grouped other old

theorem mem_linkedSignals_route
    {mutationAt : Int}
    (effect : RouteEffect tables signal mutationAt later) (held : Signal) :
    held ∈ linkedSignals later ↔
      held ∈ linkedSignals tables.rows ∨ held = signal := by
  unfold linkedSignals
  cases effect with
  | created row absent source open_ signals =>
      rw [List.flatMap_append, List.mem_append, List.flatMap_singleton, signals,
        List.mem_singleton]
  | appended current next found id source open_ signals =>
      have member := (findRelatedIncident_eq_some found).1
      rw [List.mem_flatMap, List.mem_flatMap]
      constructor
      · rintro ⟨row, listed, inside⟩
        rcases mem_updateRow listed with rfl | ⟨old, -⟩
        · rw [signals, List.mem_append, List.mem_singleton] at inside
          exact inside.imp_left fun earlier => ⟨current, member, earlier⟩
        · exact .inl ⟨row, old, inside⟩
      · have replaced : next ∈ updateRow tables.rows next :=
          List.mem_map.mpr ⟨current, member, if_pos id.symm⟩
        rintro (⟨row, listed, inside⟩ | rfl)
        · by_cases same : row.id = next.id
          · have sameRow : row = current := List.inj_on_of_nodup_map
              tables.constraints.ids listed member (same.trans id)
            refine ⟨next, replaced, ?_⟩
            rw [signals]
            exact List.mem_append_left _ (sameRow ▸ inside)
          · exact ⟨row, List.mem_map.mpr ⟨row, listed, if_neg same⟩, inside⟩
        · refine ⟨next, replaced, ?_⟩
          rw [signals]
          exact List.mem_append_right _ (List.mem_singleton_self _)

section Groups

variable {rows : List IncidentRow}

/-- Rows that are open, connected and separated are the components of their
signals. -/
theorem together_iff_reachable
    (sound : Sound rows) (grouped : Grouped rows) (ids : (rows.map (·.id)).Nodup)
    {first second : Signal} (left : first ∈ linkedSignals rows) :
    Together rows first second ↔
      (graphOn Linked (linkedSignals rows)).Reachable first second := by
  have inside : ∀ row ∈ rows, row.signals ⊆ linkedSignals rows :=
    fun row member signal listed =>
      List.mem_flatMap.mpr ⟨row, member, listed⟩
  constructor
  · rintro ⟨row, member, inFirst, inSecond⟩
    exact ((grouped row member).2 first inFirst second inSecond).mono
      (graphOn_mono (inside row member) fun _ _ _ _ _ joined => joined)
  · intro reachable
    obtain ⟨row, member, inRow⟩ := List.mem_flatMap.mp left
    -- A link never leaves the row: the rows are separated.
    have stays : ∀ one ∈ linkedSignals rows, ∀ two ∈ linkedSignals rows,
        Linked one two → one ∈ row.signals → two ∈ row.signals := by
      rintro one - two twoListed ⟨source, close⟩ inOne
      obtain ⟨other, otherMember, inTwo⟩ := List.mem_flatMap.mp twoListed
      by_cases same : row.id = other.id
      · rw [List.inj_on_of_nodup_map ids member otherMember same]
        exact inTwo
      · refine absurd close (sound.separated row member other otherMember same
          (grouped row member).1 (grouped other otherMember).1 ?_ one inOne two
          inTwo).2
        rw [← (sound.stored row member one inOne).2.2,
          ← (sound.stored other otherMember two inTwo).2.2]
        exact source
    refine ⟨row, member, inRow, ?_⟩
    apply @mem_of_reachable _ _ _ (· ∈ row.signals) _ _ _ inRow reachable
    intro one oneListed two twoListed linked
    exact ⟨stays one oneListed two twoListed linked,
      stays two twoListed one oneListed ⟨linked.1.symm, linked.2.symm⟩⟩

theorem consistent_linkedSignals
    (stored : Stored rows) (constraints : Constraints rows) :
    Consistent (linkedSignals rows) := by
  constructor
  · intro signal listed
    obtain ⟨row, member, inside⟩ := List.mem_flatMap.mp listed
    exact (stored row member signal inside).1
  · intro first left second right same
    exact List.inj_on_of_nodup_map constraints.linked left right same

end Groups

/-! ## Runs of the router -/

/-- The signal that a step links. -/
def Tables.links (crypto : Crypto) (tables : Tables) : Action → List Signal
  | .route signal jobCreatedAt supersedes =>
      match routeSignal crypto tables signal jobCreatedAt supersedes with
      | .ok _ => [signal]
      | .error _ => []
  | _ => []

/-- The signals that a run links, in the order of the run. -/
def linkedBy (crypto : Crypto) (tables : Tables) : List Action → List Signal
  | [] => []
  | action :: rest =>
      tables.links crypto action ++
        linkedBy crypto (tables.after crypto action) rest

/-- Every step of a run is unbridged in the tables it finds. -/
def UnbridgedRun (crypto : Crypto) (tables : Tables) : List Action → Prop
  | [] => True
  | action :: rest =>
      Unbridged tables action ∧
        UnbridgedRun crypto (tables.after crypto action) rest

def Action.closes : Action → Bool
  | .closeIdle _ _ => true
  | _ => false

theorem Sound.foldl
    {actions : List Action}
    (sound : Sound tables.rows) (valid : ∀ action ∈ actions, action.Valid)
    (unbridged : UnbridgedRun crypto tables actions) :
    Sound (actions.foldl (Tables.after crypto) tables).rows := by
  induction actions generalizing tables with
  | nil => exact sound
  | cons action rest ih =>
      exact ih (sound.after (valid action List.mem_cons_self) unbridged.1)
        (fun other member => valid other (List.mem_cons_of_mem _ member))
        unbridged.2

theorem Grouped.after
    {action : Action}
    (grouped : Grouped tables.rows) (sound : Sound tables.rows)
    (valid : action.Valid) (unbridged : Unbridged tables action)
    (keeps : action.closes = false) :
    Grouped (tables.after crypto action).rows ∧
      ∀ signal, signal ∈ linkedSignals (tables.after crypto action).rows ↔
        signal ∈ linkedSignals tables.rows ∨
          signal ∈ tables.links crypto action := by
  cases action with
  | route signal jobCreatedAt supersedes =>
      unfold Tables.after Tables.links
      dsimp only
      cases routed : routeSignal crypto tables signal jobCreatedAt supersedes with
      | error => exact ⟨grouped, fun held => by simp⟩
      | ok =>
          have effect := routeSignal_effect routed
          refine ⟨grouped.route sound.stored valid unbridged.1 effect, ?_⟩
          intro held
          rw [mem_linkedSignals_route effect, List.mem_singleton]
  | closeIdle => cases keeps
  | analyse id state =>
      obtain ⟨change, rows, kept⟩ := analyse_rows crypto tables id state
      have signals : ∀ row, (change row).signals = row.signals :=
        fun row => (kept row).2.2.1
      rw [rows]
      constructor
      · intro next member
        obtain ⟨row, listed, rfl⟩ := List.mem_map.mp member
        rw [signals]
        exact ⟨(kept row).2.2.2.mpr (grouped row listed).1,
          (grouped row listed).2⟩
      · intro signal
        unfold linkedSignals
        simp only [List.flatMap_map, signals, Tables.links, List.not_mem_nil,
          or_false]

theorem Grouped.foldl
    {actions : List Action}
    (grouped : Grouped tables.rows) (sound : Sound tables.rows)
    (valid : ∀ action ∈ actions, action.Valid)
    (unbridged : UnbridgedRun crypto tables actions)
    (keep : ∀ action ∈ actions, action.closes = false) :
    Grouped (actions.foldl (Tables.after crypto) tables).rows ∧
      ∀ signal,
        signal ∈ linkedSignals
          (actions.foldl (Tables.after crypto) tables).rows ↔
        signal ∈ linkedSignals tables.rows ∨
          signal ∈ linkedBy crypto tables actions := by
  induction actions generalizing tables with
  | nil => exact ⟨grouped, fun _ => by simp [linkedBy]⟩
  | cons action rest ih =>
      have here := valid action List.mem_cons_self
      obtain ⟨next, linked⟩ := @Grouped.after crypto tables action grouped sound
        here unbridged.1 (keep action List.mem_cons_self)
      obtain ⟨last, later⟩ := ih next (sound.after here unbridged.1)
        (fun other member => valid other (List.mem_cons_of_mem _ member))
        unbridged.2
        (fun other member => keep other (List.mem_cons_of_mem _ member))
      refine ⟨last, ?_⟩
      intro signal
      rw [List.foldl_cons, later, linked, linkedBy, List.mem_append, or_assoc]

section Routing

variable {crypto : Crypto} {actions : List Action}
  (valid : ∀ action ∈ actions, action.Valid)
  (unbridged : UnbridgedRun crypto .empty actions)

theorem sound_empty : Sound Tables.empty.rows :=
  ⟨List.forall_mem_nil _, List.forall_mem_nil _⟩

include valid unbridged

theorem sound_run : Sound (run crypto actions).rows :=
  sound_empty.foldl valid unbridged

variable (keep : ∀ action ∈ actions, action.closes = false)
include keep

theorem grouped_run :
    Grouped (run crypto actions).rows ∧
      ∀ signal, signal ∈ linkedSignals (run crypto actions).rows ↔
        signal ∈ linkedBy crypto .empty actions := by
  have nothing : Grouped Tables.empty.rows := List.forall_mem_nil _
  obtain ⟨grouped, linked⟩ := nothing.foldl sound_empty valid unbridged keep
  refine ⟨grouped, ?_⟩
  intro signal
  unfold run
  rw [linked]
  exact or_iff_right List.not_mem_nil

/-- As long as nothing is closed, the incidents are the groups of the signals
that were linked. -/
theorem together_iff_group
    {groups : List Group}
    (accepted : correlate crypto (linkedBy crypto .empty actions) = .ok groups)
    (first second : Signal) :
    Together (run crypto actions).rows first second ↔
      ∃ group ∈ groups, first ∈ group.signals ∧ second ∈ group.signals := by
  obtain ⟨grouped, linked⟩ := grouped_run valid unbridged keep
  have sound := sound_run valid unbridged
  have same : correlate crypto (linkedSignals (run crypto actions).rows) =
      .ok groups := (correlate_components accepted).2.2.2.2.2 _ linked
  obtain ⟨-, members, -, components, -, -⟩ := correlate_components same
  constructor
  · intro together
    obtain ⟨row, member, inFirst, inSecond⟩ := together
    have left : first ∈ linkedSignals (run crypto actions).rows :=
      List.mem_flatMap.mpr ⟨row, member, inFirst⟩
    have right : second ∈ linkedSignals (run crypto actions).rows :=
      List.mem_flatMap.mpr ⟨row, member, inSecond⟩
    apply (components first left second right).mp
    exact (together_iff_reachable sound grouped
      (run crypto actions).constraints.ids left).mp
      ⟨row, member, inFirst, inSecond⟩
  · rintro ⟨group, listed, inFirst, inSecond⟩
    have left := (members first).mp (List.mem_flatMap.mpr ⟨group, listed, inFirst⟩)
    have right :=
      (members second).mp (List.mem_flatMap.mpr ⟨group, listed, inSecond⟩)
    exact (together_iff_reachable sound grouped
      (run crypto actions).constraints.ids left).mpr
      ((components first left second right).mpr
        ⟨group, listed, inFirst, inSecond⟩)

theorem exists_correlate_linkedBy :
    ∃ groups, correlate crypto (linkedBy crypto .empty actions) =
      .ok groups := by
  obtain ⟨-, linked⟩ := grouped_run valid unbridged keep
  obtain ⟨groups, accepted⟩ := exists_correlate crypto
    (consistent_linkedSignals (sound_run valid unbridged).stored
      (run crypto actions).constraints)
  exact ⟨groups, (correlate_components accepted).2.2.2.2.2 _
    fun signal => (linked signal).symm⟩

end Routing

/-- Unless a signal bridges two open incidents, or reopens one beside an open
one, the open incidents of a source stay apart in every run.  As long as nothing
is closed, they are the groups of the linked signals, in whichever order these
arrived. -/
theorem open_incidents_separated
    (crypto : Crypto) (actions : List Action)
    (valid : ∀ action ∈ actions, action.Valid)
    (unbridged : UnbridgedRun crypto .empty actions) :
    Separated (run crypto actions).rows ∧
    ((∀ action ∈ actions, action.closes = false) →
      (∀ signal, signal ∈ linkedSignals (run crypto actions).rows ↔
        signal ∈ linkedBy crypto .empty actions) ∧
      (∃ groups, correlate crypto (linkedBy crypto .empty actions) =
          .ok groups ∧
        ∀ first second, Together (run crypto actions).rows first second ↔
          ∃ group ∈ groups, first ∈ group.signals ∧ second ∈ group.signals) ∧
      ∀ others : List Action, (∀ action ∈ others, action.Valid) →
        UnbridgedRun crypto .empty others →
        (∀ action ∈ others, action.closes = false) →
        (∀ signal, signal ∈ linkedBy crypto .empty others ↔
          signal ∈ linkedBy crypto .empty actions) →
        ∀ first second, Together (run crypto others).rows first second ↔
          Together (run crypto actions).rows first second) := by
  refine ⟨(sound_run valid unbridged).separated, ?_⟩
  intro keep
  obtain ⟨groups, accepted⟩ := exists_correlate_linkedBy valid unbridged keep
  have agrees := together_iff_group valid unbridged keep accepted
  refine ⟨(grouped_run valid unbridged keep).2, ⟨groups, accepted, agrees⟩, ?_⟩
  intro others othersValid othersUnbridged othersKeep same first second
  have sameGroups := (correlate_components accepted).2.2.2.2.2 _ same
  rw [agrees, together_iff_group othersValid othersUnbridged othersKeep
    sameGroups]

/-- Nothing is closed and the signal is related to one row at most. -/
def clear (signal : Signal) (rows : List IncidentRow) : Bool :=
  decide (databaseTime signal.windowStart = signal.windowStart) &&
    decide (databaseTime signal.windowEnd = signal.windowEnd) &&
    decide ((rows.filter (·.related signal)).length ≤ 1) &&
    rows.all (·.state != .incidentClosed)

theorem unbridged_of_clear
    {jobCreatedAt : Int} {supersedes : Bool}
    (checked : clear signal tables.rows = true) :
    Unbridged tables (.route signal jobCreatedAt supersedes) := by
  simp only [clear, Bool.and_eq_true, decide_eq_true_eq, List.all_eq_true,
    bne_iff_ne] at checked
  obtain ⟨⟨⟨start, stop⟩, single⟩, opens⟩ := checked
  refine ⟨⟨start, stop⟩, ?_, ?_⟩
  · intro left leftMember right rightMember leftRelated rightRelated
    have inLeft := List.mem_filter.mpr ⟨leftMember, leftRelated⟩
    have inRight := List.mem_filter.mpr ⟨rightMember, rightRelated⟩
    obtain ⟨only, listed⟩ := List.length_eq_one_iff.mp
      (le_antisymm single (List.length_pos_of_mem inLeft))
    rw [listed, List.mem_singleton] at inLeft inRight
    rw [inLeft, inRight]
  · intro current found closed
    exact absurd closed (opens current (findRelatedIncident_eq_some found).1)

/-- The signal of a job that was made when its window ended. -/
def routeSample (signal : Signal) : Action :=
  .route signal signal.windowEnd true

def sampleRoutes : List Action :=
  Correlation.sampleSignals.map routeSample

theorem sampleRoutes_separated :
    (run Sha256.hashing sampleRoutes).rows.map (·.signals) =
      [[sampleSignal 1 0 60, sampleSignal 2 300 360],
        [sampleSignal 3 3600 3660]] ∧
    Separated (run Sha256.hashing sampleRoutes).rows := by
  have rows : (run Sha256.hashing sampleRoutes).rows.map (·.signals) =
      [[sampleSignal 1 0 60, sampleSignal 2 300 360],
        [sampleSignal 3 3600 3660]] := by
    rw [Sha256.hashing_eq_swiftHashing]
    decide +kernel
  refine ⟨rows, (open_incidents_separated _ _ ?_ ?_).1⟩
  · intro action member
    obtain ⟨signal, listed, rfl⟩ := List.mem_map.mp member
    exact Correlation.sampleSignals_consistent.valid signal listed
  · rw [Sha256.hashing_eq_swiftHashing]
    refine ⟨unbridged_of_clear ?_, unbridged_of_clear ?_, unbridged_of_clear ?_,
      trivial⟩
    all_goals decide +kernel

/-- The third signal lies between the first two, near both of them. -/
def bridgedSignals : List Signal :=
  [sampleSignal 1 0 60, sampleSignal 2 600 660, sampleSignal 3 330 360]

theorem bridgedSignals_not_separated :
    (∀ action ∈ bridgedSignals.map routeSample, action.Valid) ∧
    ¬ Separated (run Sha256.hashing (bridgedSignals.map routeSample)).rows := by
  constructor
  · intro action member
    obtain ⟨signal, listed, rfl⟩ := List.mem_map.mp member
    have consistent : Consistent bridgedSignals := by
      apply consistent_of_isOk
      decide +kernel
    exact consistent.valid signal listed
  have rows : (run Sha256.hashing (bridgedSignals.map routeSample)).rows.map
      (fun row => (row.state, row.sourceIP, row.signals)) =
      [(.incidentOpen, ascii "192.0.2.10", [sampleSignal 1 0 60]),
        (.incidentOpen, ascii "192.0.2.10",
          [sampleSignal 2 600 660, sampleSignal 3 330 360])] := by
    rw [Sha256.hashing_eq_swiftHashing]
    decide +kernel
  have ids := (run Sha256.hashing
    (bridgedSignals.map routeSample)).constraints.ids
  intro separated
  obtain ⟨left, rest, listed, one, others⟩ := List.map_eq_cons_iff.mp rows
  obtain ⟨right, last, rfl, two, -⟩ := List.map_eq_cons_iff.mp others
  rw [listed] at separated ids
  rw [Prod.mk.injEq, Prod.mk.injEq] at one two
  have different : left.id ≠ right.id := by
    rw [List.map_cons, List.nodup_cons] at ids
    exact fun same => ids.1 (same ▸ List.mem_cons_self)
  refine (separated left List.mem_cons_self right
    (List.mem_cons_of_mem _ List.mem_cons_self) different ?_ ?_ ?_
    (sampleSignal 1 0 60) ?_ (sampleSignal 3 330 360) ?_).2 ?_
  · rw [one.1]
    decide
  · rw [two.1]
    decide
  · rw [one.2.1, two.2.1]
  · rw [one.2.2]
    exact List.mem_cons_self
  · rw [two.2.2]
    exact List.mem_cons_of_mem _ List.mem_cons_self
  · rw [withinGap_iff (by decide) (by decide)]
    decide

end SentinelFlow.DetectionWorker
