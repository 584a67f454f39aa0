import SentinelFlow.Delivery.Attest
import SentinelFlow.GoLib.Segments

/-!
# The chain of acknowledged markers

The acknowledged markers form segments of linked intervals that do not overlap.
The coverage state from which a marker is built comes from acknowledged batches
alone, so a marker that was not acknowledged leaves no trace.
-/

namespace SentinelFlow.Delivery

open GoLib Events

variable {config : Config} {ledger next : Ledger}

/-- A marker continues the segment of the one before. -/
structure Linked (crypto : Crypto) (before after : SourceCoverage) : Prop where
  digest : after.previousCoverageDigest = before.digest crypto
  start : after.coverageStart = before.coverageEnd
  segment : after.segmentID = before.segmentID

/-- A marker opens a segment. -/
def Opens (marker : SourceCoverage) : Prop :=
  marker.previousCoverageDigest = none

/-- The coverage states that acknowledged batches can lead to. -/
inductive Derives (config : Config) (clock : Int) :
    List Batch → Coverage → Prop where
  | initial :
      Derives config clock []
        { segmentID := coverageSegmentID config.crypto config.senderID
            config.epoch (ascii "epoch-start")
          start := coverageStartTime clock }
  | commit {batches : List Batch} {coverage : Coverage} (batch : Batch)
      (derives : Derives config clock batches coverage) :
      Derives config clock (batches ++ [batch]) (commitCoverage coverage batch)
  | reset {batches : List Batch} {coverage : Coverage} {batch : Batch}
      (derives : Derives config clock (batches ++ [batch]) coverage) :
      Derives config clock (batches ++ [batch])
        (resetCoverageAfterHealth config coverage batch)

/-- The batches acknowledged among the first ones resolved. -/
def Ledger.acknowledgedBefore (ledger : Ledger) (count : Nat) : List Batch :=
  ((ledger.resolved.take count).filter (·.accepted)).map (·.batch)

/-- The marker ends its batch, names it and has a well-ordered interval. -/
structure Binds (batch : Batch) (marker : SourceCoverage) : Prop where
  last : batch.records.getLast? = some (.sourceCoverage marker)
  batchID : marker.coveredThroughBatchID = batch.id
  sequence : marker.coveredThroughSequence = batch.sequence
  ordered : marker.coverageStart ≤ marker.coverageEnd

/-- What holds of the markers that a sender has sent since it was started. -/
structure Ledger.Chain (config : Config) (clock : Int) (ledger : Ledger) :
    Prop where
  segmented : Segmented Opens (Linked config.crypto) ledger.markers
  apart : ledger.markers.Pairwise fun before after =>
    before.coverageEnd ≤ after.coverageStart
  binds : ∀ batch ∈ ledger.acknowledged, ∀ marker ∈ markersOf batch.records,
    Binds batch marker
  traced : ∀ attempt ∈ ledger.attempts,
    ∀ marker ∈ markersOf attempt.batch.records,
      ∃ coverage,
        Derives config clock (ledger.acknowledgedBefore attempt.resolved)
          coverage ∧ Marks config coverage attempt.batch marker

/-- All markers end before anything from which the next one could start. -/
structure Ledger.Ends (config : Config) (ledger : Ledger) (last : Int) :
    Prop where
  clock : last ≤ ledger.clock
  start : last ≤ ledger.coverage.start
  held : ∀ health, OwnHealth config.epoch ledger.held health →
    last ≤ coverageStartTime (recoveryTime health)
  resolved : ∀ batch, ledger.resolved.getLast? = some ⟨batch, true⟩ →
    ∀ health, OwnHealth config.epoch batch.records health →
      last ≤ coverageStartTime (recoveryTime health)

/-- The chain and the state from which it goes on. -/
structure Ledger.Chained (config : Config) (clock : Int) (ledger : Ledger) :
    Prop extends ledger.Chain config clock where
  derived : Derives config clock ledger.acknowledged ledger.coverage
  committed : ledger.coverage.committed = true → ∃ last,
    ledger.markers.getLast? = some last ∧
      last.digest config.crypto = some ledger.coverage.previousDigest ∧
      last.coverageEnd = ledger.coverage.start ∧
      last.segmentID = ledger.coverage.segmentID
  ends : ∀ marker ∈ ledger.markers, ledger.Ends config marker.coverageEnd
  quiet : ledger.flight.isSome = true →
    containsSourceHealth ledger.queue = false

/-- A change that leaves the coverage and the resolved batches alone. -/
theorem Ledger.Ends.follow
    {last : Int} (ends : ledger.Ends config last)
    (follows : ledger.Follows config next)
    (coverage : next.coverage = ledger.coverage)
    (resolved : next.resolved = ledger.resolved) : next.Ends config last where
  clock := ends.clock.trans follows.clock
  start := by
    rw [coverage]
    exact ends.start
  held health own := by
    rcases follows.health health own.1 with old | ⟨-, after, -⟩
    · exact ends.held health ⟨old, own.2⟩
    · exact (ends.clock.trans after).trans (le_coverageStartTime _)
  resolved := by
    rw [resolved]
    exact ends.resolved

variable {clock : Int}

theorem Ledger.Chain.keep
    (chain : ledger.Chain config clock)
    (resolved : next.resolved = ledger.resolved)
    (attempts : next.attempts = ledger.attempts) :
    next.Chain config clock := by
  have acknowledged : next.acknowledged = ledger.acknowledged := by
    unfold Ledger.acknowledged
    rw [resolved]
  have markers : next.markers = ledger.markers := by
    unfold Ledger.markers
    rw [acknowledged]
  refine ⟨markers ▸ chain.segmented, markers ▸ chain.apart,
    acknowledged ▸ chain.binds, ?_⟩
  unfold Ledger.acknowledgedBefore
  rw [attempts, resolved]
  exact chain.traced

theorem Ledger.Chained.keep
    (chained : ledger.Chained config clock)
    (follows : ledger.Follows config next)
    (coverage : next.coverage = ledger.coverage)
    (resolved : next.resolved = ledger.resolved)
    (attempts : next.attempts = ledger.attempts)
    (quiet : next.flight.isSome = true →
      containsSourceHealth next.queue = false) :
    next.Chained config clock := by
  have acknowledged : next.acknowledged = ledger.acknowledged := by
    unfold Ledger.acknowledged
    rw [resolved]
  have markers : next.markers = ledger.markers := by
    unfold Ledger.markers
    rw [acknowledged]
  refine ⟨chained.toChain.keep resolved attempts, ?_, ?_, ?_, quiet⟩
  · rw [acknowledged, coverage]
    exact chained.derived
  · rw [markers, coverage]
    exact chained.committed
  · rw [markers]
    exact fun marker member =>
      (chained.ends marker member).follow follows coverage resolved

theorem Ledger.Initial.chained
    (initial : ledger.Initial)
    (start : ledger.coverage =
      { segmentID := coverageSegmentID config.crypto config.senderID
          config.epoch (ascii "epoch-start")
        start := coverageStartTime clock }) :
    ledger.Chained config clock := by
  have acknowledged : ledger.acknowledged = [] := by
    rw [Ledger.acknowledged, initial.resolved]
    rfl
  have markers : ledger.markers = [] := by
    rw [Ledger.markers, acknowledged]
    rfl
  refine ⟨⟨?_, ?_, ?_, ?_⟩, ?_, ?_, ?_, ?_⟩
  · rw [markers]
    exact .nil
  · rw [markers]
    exact .nil
  · rw [acknowledged]
    intro batch member
    cases member
  · rw [initial.attempts]
    intro attempt member
    cases member
  · rw [acknowledged, start]
    exact .initial
  · rw [start]
    intro committed
    cases committed
  · rw [markers]
    intro marker member
    cases member
  · rw [initial.flight]
    intro flies
    cases flies

/-! ## Resolving a batch -/

section Resolving

variable {clock : Int} {current : Flight}

/-- All that an acknowledged batch adds to the markers is its own. -/
theorem Ledger.resolve_markers (ledger : Ledger) (current : Flight)
    (accepted : Bool) :
    (ledger.resolve current accepted).markers = ledger.markers ++
      if accepted then markersOf current.batch.records else [] := by
  unfold Ledger.markers
  rw [Ledger.resolve_acknowledged]
  cases accepted <;> simp

/-- What was acknowledged before an attempt does not change any more. -/
theorem Ledger.acknowledgedBefore_resolve
    (ledger : Ledger) (current : Flight) (accepted : Bool) {count : Nat}
    (before : count ≤ ledger.resolved.length) :
    (ledger.resolve current accepted).acknowledgedBefore count =
      ledger.acknowledgedBefore count := by
  simp only [Ledger.acknowledgedBefore, Ledger.resolve,
    List.take_append_of_le_length before]

theorem Ledger.Chained.traced_resolve
    (chained : ledger.Chained config clock) (ordered : ledger.Ordered config)
    (accepted : Bool) :
    ∀ attempt ∈ (ledger.resolve current accepted).attempts,
      ∀ marker ∈ markersOf attempt.batch.records,
        ∃ coverage,
          Derives config clock ((ledger.resolve current
            accepted).acknowledgedBefore attempt.resolved) coverage ∧
            Marks config coverage attempt.batch marker := by
  intro attempt member
  rw [ledger.acknowledgedBefore_resolve current accepted
    (ordered.attempted attempt member).2.1]
  exact chained.traced attempt member

/-- A rejected batch changes nothing but the resolved batches. -/
theorem Ledger.Chained.rejected
    (chained : ledger.Chained config clock) (ordered : ledger.Ordered config) :
    (ledger.resolve current false).Chained config clock := by
  have acknowledged :
      (ledger.resolve current false).acknowledged = ledger.acknowledged := by
    rw [Ledger.resolve_acknowledged]
    exact List.append_nil _
  have markers :
      (ledger.resolve current false).markers = ledger.markers := by
    rw [Ledger.resolve_markers]
    exact List.append_nil _
  refine ⟨⟨?_, ?_, ?_, chained.traced_resolve ordered false⟩, ?_, ?_, ?_, ?_⟩
  · rw [markers]
    exact chained.segmented
  · rw [markers]
    exact chained.apart
  · rw [acknowledged]
    exact chained.binds
  · rw [acknowledged]
    exact chained.derived
  · rw [markers]
    exact chained.committed
  · rw [markers]
    intro marker member
    have ends := chained.ends marker member
    refine ⟨ends.clock, ends.start, ?_, ?_⟩
    · intro health own
      exact ends.held health ⟨List.Sublist.mem own.1
        ((List.drop_sublist _ _).append_right _), own.2⟩
    · intro batch last
      simp [Ledger.resolve] at last
  · intro flies
    cases flies

/-- The bounds on what was acknowledged before, once a batch without a marker is
acknowledged. -/
theorem Ledger.Ends.accepted
    {last : Int} (ends : ledger.Ends config last)
    (ordered : ledger.Ordered config) (flying : ledger.flight = some current) :
    (ledger.resolve current true).Ends config last where
  clock := ends.clock
  start := ends.start.trans (ordered.resolve_start flying true)
  held health own := ends.held health ⟨List.Sublist.mem own.1
    ((List.drop_sublist _ _).append_right _), own.2⟩
  resolved batch resolved health own := by
    have same : current.batch = batch := by
      simpa [Ledger.resolve] using resolved
    subst same
    have ready := ordered.flying current flying
    cases covers : current.batch.hasCoverage with
    | false =>
        rw [(ready.sealed.plain covers).2.2] at own
        exact ends.held health
          ⟨List.mem_append_left _ (List.mem_of_mem_take own.1), own.2⟩
    | true =>
        have none : current.batch.hasHealth = false := by
          by_contra health
          rw [ready.plain (Bool.not_eq_false _ ▸ health)] at covers
          cases covers
        rw [← ready.sealed.health_records] at none
        exact absurd rfl (List.any_eq_false.mp none _ own.1)

theorem Ledger.Chained.accepted_plain
    (chained : ledger.Chained config clock) (ordered : ledger.Ordered config)
    (flying : ledger.flight = some current)
    (plain : current.batch.hasCoverage = false) :
    (ledger.resolve current true).Chained config clock := by
  have sealed := (ordered.flying current flying).sealed
  have without : markersOf current.batch.records = [] := by
    rw [(sealed.plain plain).2.2]
    exact markersOf_plain sealed.admitted
  have markers : (ledger.resolve current true).markers = ledger.markers := by
    rw [Ledger.resolve_markers, if_pos rfl, without, List.append_nil]
  have same : (ledger.resolve current true).coverage = ledger.coverage := by
    simp [Ledger.resolve, commitCoverage, plain]
  refine ⟨⟨?_, ?_, ?_, chained.traced_resolve ordered true⟩, ?_, ?_, ?_, ?_⟩
  · rw [markers]
    exact chained.segmented
  · rw [markers]
    exact chained.apart
  · rw [Ledger.resolve_acknowledged]
    intro batch member
    rcases List.mem_append.mp member with old | new
    · exact chained.binds batch old
    · rw [List.mem_singleton.mp new, without]
      intro marker none
      cases none
  · rw [Ledger.resolve_acknowledged]
    exact .commit current.batch chained.derived
  · rw [markers, same]
    exact chained.committed
  · rw [markers]
    exact fun marker member =>
      (chained.ends marker member).accepted ordered flying
  · intro flies
    cases flies

/-- A marker continues what the coverage state has kept of the last one. -/
theorem Ledger.Chained.segmented_append
    (chained : ledger.Chained config clock) {batch : Batch}
    {marker : SourceCoverage}
    (marks : Marks config ledger.coverage batch marker) :
    Segmented Opens (Linked config.crypto) (ledger.markers ++ [marker]) := by
  have previous := marks.previous
  cases committed : ledger.coverage.committed with
  | false =>
      rw [committed] at previous
      exact chained.segmented.opening previous
  | true =>
      obtain ⟨last, final, digest, finish, segment⟩ :=
        chained.committed committed
      rw [committed] at previous
      exact chained.segmented.linking final
        ⟨previous.trans digest.symm, marks.start.trans finish.symm,
          marks.segment.trans segment.symm⟩

theorem Ledger.Chained.accepted_covering
    (chained : ledger.Chained config clock) (ordered : ledger.Ordered config)
    (flying : ledger.flight = some current)
    (covers : current.batch.hasCoverage = true) :
    (ledger.resolve current true).Chained config clock := by
  have ready := ordered.flying current flying
  obtain ⟨count, marker, records, marks⟩ := ready.sealed.covering covers
  have only : markersOf current.batch.records = [marker] := by
    have plain := markersOf_plain ready.sealed.admitted
    rw [count, List.take_length] at plain
    rw [records, markersOf, List.filterMap_append]
    change markersOf ledger.pending ++ [marker] = [marker]
    rw [plain]
    rfl
  have markers : (ledger.resolve current true).markers =
      ledger.markers ++ [marker] := by
    rw [Ledger.resolve_markers, if_pos rfl, only]
  have coverage : (ledger.resolve current true).coverage =
      { ledger.coverage with
        previousDigest := current.batch.coverageDigest
        start := current.batch.coverageEnd
        committed := true } := by
    simp [Ledger.resolve, commitCoverage, covers]
  -- Nothing is left that could reset the coverage to an earlier start.
  have quiet : ∀ health, ¬ OwnHealth config.epoch
      (ledger.resolve current true).held health := by
    intro health own
    have queued : EventRecord.sourceHealth health ∈ ledger.queue := by
      have inside := own.1
      simpa [Ledger.held, Ledger.resolve, count] using inside
    have none := chained.quiet (by rw [flying]; rfl)
    exact List.any_eq_false.mp none _ queued rfl
  refine ⟨⟨?_, ?_, ?_, chained.traced_resolve ordered true⟩, ?_, ?_, ?_, ?_⟩
  · rw [markers]
    exact chained.segmented_append marks
  · rw [markers, List.pairwise_append]
    refine ⟨chained.apart, List.pairwise_singleton _ _, ?_⟩
    intro before member after new
    rw [List.mem_singleton.mp new, marks.start]
    exact (chained.ends before member).start
  · rw [Ledger.resolve_acknowledged]
    intro batch member
    rcases List.mem_append.mp member with old | new
    · exact chained.binds batch old
    · rw [List.mem_singleton.mp new, only]
      intro same here
      rw [List.mem_singleton.mp here]
      refine ⟨?_, marks.batchID, marks.sequence, marks.ordered⟩
      rw [records, List.getLast?_append]
      rfl
  · rw [Ledger.resolve_acknowledged]
    exact .commit current.batch chained.derived
  · intro _
    refine ⟨marker, ?_, ?_, ?_, ?_⟩
    · rw [markers, List.getLast?_append]
      rfl
    · rw [coverage]
      exact marks.digest
    · rw [coverage]
      exact marks.finish
    · rw [coverage]
      exact marks.segment
  · rw [markers]
    intro other member
    rcases List.mem_append.mp member with old | new
    · exact (chained.ends other old).accepted ordered flying
    · rw [List.mem_singleton.mp new, marks.finish]
      refine ⟨(ready.covering covers).1, ?_, ?_, ?_⟩
      · rw [coverage]
      · exact fun health own => absurd own (quiet health)
      · intro batch resolved health own
        have same : current.batch = batch := by
          simpa [Ledger.resolve] using resolved
        subst same
        have none := (ready.covering covers).2
        rw [records] at own
        rcases List.mem_append.mp own.1 with here | there
        · exact absurd rfl (List.any_eq_false.mp none _ here)
        · cases List.mem_singleton.mp there
  · intro flies
    cases flies

end Resolving

/-! ## One change -/

/-- A reset starts a segment after all that was acknowledged. -/
theorem Ledger.Chained.reset
    (chained : ledger.Chained config clock) {batch : Batch}
    (last : ledger.resolved.getLast? = some ⟨batch, true⟩) :
    (ledger.reset config batch).Chained config clock := by
  have acknowledged : ∃ before, ledger.acknowledged = before ++ [batch] := by
    obtain ⟨before, all⟩ := List.getLast?_eq_some_iff.mp last
    refine ⟨(before.filter (·.accepted)).map (·.batch), ?_⟩
    rw [Ledger.acknowledged, all]
    simp
  obtain ⟨before, all⟩ := acknowledged
  refine ⟨chained.toChain.keep rfl rfl, ?_, ?_, ?_, chained.quiet⟩
  · have derived := chained.derived
    change Derives config clock ledger.acknowledged _
    rw [all] at derived ⊢
    exact .reset derived
  · intro committed
    unfold Ledger.reset resetCoverageAfterHealth at committed ⊢
    cases found : healthRecoveryBoundary batch.records config.epoch with
    | none =>
        rw [found] at committed
        exact chained.committed committed
    | some =>
        rw [found] at committed
        cases committed
  · intro marker member
    have ends := chained.ends marker member
    refine ⟨ends.clock, ?_, ends.held, ends.resolved⟩
    unfold Ledger.reset resetCoverageAfterHealth
    cases found : healthRecoveryBoundary batch.records config.epoch with
    | none => exact ends.start
    | some =>
        obtain ⟨health, own, rfl⟩ := healthRecoveryBoundary_mem found
        exact ends.resolved batch last health own

/-- The attempt of the batch in flight goes out with a marker that the coverage
state has given it. -/
theorem Ledger.Chained.attempted
    (chained : ledger.Chained config clock)
    (ordered : ledger.Ordered config) {current : Flight}
    (flying : ledger.flight = some current) :
    (ledger.attempt current).Chained config clock := by
  refine { chained with traced := ?_, ends := ?_ }
  · intro attempt member
    rcases List.mem_append.mp member with old | new
    · exact chained.traced attempt old
    · rw [List.mem_singleton.mp new]
      intro marker inside
      have sealed := (ordered.flying current flying).sealed
      refine ⟨ledger.coverage, ?_, (sealed.marks inside).2.2.2⟩
      have all : (ledger.attempt current).acknowledgedBefore
          ledger.resolved.length = ledger.acknowledged := by
        simp [Ledger.acknowledgedBefore, Ledger.attempt, Ledger.acknowledged]
      exact all ▸ chained.derived
  · exact fun marker member => { chained.ends marker member with }

theorem Ledger.Chained.delivers
    {permit : Ledger → Flight → Prop} {clock : Int}
    (delivers : Delivers config permit ledger next)
    (ordered : ledger.Ordered config) (chained : ledger.Chained config clock) :
    next.Chained config clock := by
  have follows := delivers.follows
  cases delivers with
  | later
  | dropped
  | reported =>
      exact chained.keep follows rfl rfl rfl chained.quiet
  | enqueued =>
      refine chained.keep follows rfl rfl rfl ?_
      intro flies
      exact (containsSourceHealth_event _ _ _).trans (chained.quiet flies)
  | received count idle =>
      refine chained.keep follows rfl rfl rfl ?_
      intro flies
      have none : (ledger.receive count).flight = none := idle
      rw [none] at flies
      cases flies
  | launched idle cut =>
      refine chained.keep follows rfl rfl rfl ?_
      intro _
      rw [Ledger.launch, cut]
      rfl
  | attempted flying => exact chained.attempted ordered flying
  | abandoned => exact chained.keep follows rfl rfl rfl nofun
  | @resolved current flying accepted =>
      cases accepted with
      | false => exact chained.rejected ordered
      | true =>
          cases covers : current.batch.hasCoverage with
          | false => exact chained.accepted_plain ordered flying covers
          | true => exact chained.accepted_covering ordered flying covers
  | reset idle last => exact chained.reset last

/-- So it is over any number of changes. -/
theorem DeliversAll.chained
    {permit : Ledger → Flight → Prop} {clock : Int}
    (delivers : DeliversAll config permit ledger next)
    (ordered : ledger.Ordered config) (chained : ledger.Chained config clock) :
    next.Chained config clock := by
  have both : next.Ordered config ∧ next.Chained config clock :=
    delivers.keeps
      (motive := fun ledger => ledger.Ordered config ∧
        ledger.Chained config clock)
      (fun _ _ change facts =>
        ⟨facts.1.delivers change, facts.2.delivers change facts.1⟩)
      ⟨ordered, chained⟩
  exact both.2

end SentinelFlow.Delivery
