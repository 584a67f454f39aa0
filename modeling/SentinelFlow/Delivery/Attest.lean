import SentinelFlow.Delivery.Ledger

/-!
# What an acknowledged marker attests

A marker is true if every event offered strictly inside its interval was
delivered with it or before it.  It stays true whatever the sender does later,
and it is true from the start if the sender launches a marker only when all its
losses lie before the interval.
-/

namespace SentinelFlow.Delivery

open GoLib Events

/-- The instant lies strictly inside the interval of the marker. -/
def Inside (marker : SourceCoverage) (time : Int) : Prop :=
  marker.coverageStart < time ∧ time < marker.coverageEnd

/-- The event is in one of the batches, of the epoch of the marker and not after
it. -/
def DeliveredBy (batches : List Batch) (marker : SourceCoverage)
    (offer : Offer) : Prop :=
  ∃ batch ∈ batches, offer ∈ offersOf batch.records ∧
    batch.envelope.senderEpoch = marker.affectedSenderEpoch ∧
    batch.sequence ≤ marker.coveredThroughSequence

/-- Every event offered in time inside the interval was accepted and delivered,
and no lost event lies inside. -/
structure Ledger.Covers (ledger : Ledger) (batches : List Batch)
    (marker : SourceCoverage) : Prop where
  offered : ∀ entry ∈ ledger.offers, entry.valid = true →
    entry.serving = true → Inside marker entry.time →
      entry.accepted = true ∧ DeliveredBy batches marker entry.toOffer
  lost : ∀ offer ∈ ledger.lost, ¬ Inside marker offer.time

/-- A marker covers its interval and nothing that could change this is still
waiting. -/
structure Ledger.Attests (ledger : Ledger) (batches : List Batch)
    (waiting : List Record) (marker : SourceCoverage) : Prop
    extends ledger.Covers batches marker where
  finished : marker.coverageEnd ≤ ledger.clock
  waiting : ∀ offer ∈ offersOf waiting, marker.coverageEnd ≤ offer.time

/-- What is new in a ledger has happened after what was there. -/
structure Ledger.Extends (ledger next : Ledger) (waiting rest : List Record) :
    Prop where
  clock : ledger.clock ≤ next.clock
  offers : ∀ entry ∈ next.offers,
    entry ∈ ledger.offers ∨ ledger.clock ≤ entry.time
  lost : ∀ offer ∈ next.lost, offer ∈ ledger.lost ∨
    offer ∈ offersOf waiting ∨ ledger.clock ≤ offer.time
  rest : ∀ offer ∈ offersOf rest,
    offer ∈ offersOf waiting ∨ ledger.clock ≤ offer.time

variable {config : Config} {ledger next : Ledger}

variable {flight : Flight} {rest waiting : List Record} {entry : Offered}

theorem Ledger.Attests.extend
    {batches more : List Batch} {marker : SourceCoverage}
    (attests : ledger.Attests batches waiting marker)
    (extended : ledger.Extends next waiting rest)
    (kept : ∀ batch ∈ batches, batch ∈ more) :
    next.Attests more rest marker := by
  have late : ∀ {time : Int}, ledger.clock ≤ time → ¬ Inside marker time := by
    intro time after inside
    have finished := attests.finished
    have before := inside.2
    omega
  refine ⟨⟨?_, ?_⟩, attests.finished.trans extended.clock, ?_⟩
  · intro entry member valid serving inside
    rcases extended.offers entry member with old | new
    · obtain ⟨accepted, batch, among, facts⟩ :=
        attests.offered entry old valid serving inside
      exact ⟨accepted, batch, kept batch among, facts⟩
    · exact absurd inside (late new)
  · intro offer member inside
    rcases extended.lost offer member with old | waited | new
    · exact attests.lost offer old inside
    · have after := attests.waiting offer waited
      have before := inside.2
      omega
    · exact late new inside
  · intro offer member
    rcases extended.rest offer member with old | new
    · exact attests.waiting offer old
    · exact attests.finished.trans new

/-- All markers that the sender has sent are true; the one in flight will be if
it arrives. -/
structure Ledger.Attested (ledger : Ledger) : Prop where
  acknowledged : ∀ marker ∈ ledger.markers,
    ledger.Attests ledger.acknowledged ledger.held marker
  flying : ∀ flight, ledger.flight = some flight →
    ∀ marker ∈ markersOf flight.batch.records,
      ledger.Attests (ledger.acknowledged ++ [flight.batch])
        (ledger.pending.drop flight.count ++ ledger.queue) marker

/-- A batch with a marker is launched only when everything lost lies before the
interval. -/
def Truthful (ledger : Ledger) (flight : Flight) : Prop :=
  flight.batch.hasCoverage = true →
    ∀ offer ∈ ledger.lost, offer.time ≤ ledger.coverage.start

theorem Ledger.Initial.attested (initial : ledger.Initial) :
    ledger.Attested where
  acknowledged := by
    simp [Ledger.markers, Ledger.acknowledged, initial.resolved]
  flying := by simp [initial.flight]

/-! ## One change -/

theorem markersOf_plain
    {records : List Record} (plain : ∀ record ∈ records,
      refusal config record = none) : markersOf records = [] := by
  refine List.filterMap_eq_nil_iff.mpr ?_
  intro record member
  cases record with
  | sourceCoverage => cases plain _ member
  | gatewayHTTP => rfl
  | authEvent => rfl
  | sourceHealth => rfl

/-- A batch has at most one marker, which says what the sender knew. -/
theorem Sealed.marks
    {sequence : Nat} {coverage : Coverage} {pending : List Record}
    {flight : Flight}
    (sealed : Sealed config sequence coverage pending flight)
    {marker : SourceCoverage}
    (member : marker ∈ markersOf flight.batch.records) :
    flight.batch.hasCoverage = true ∧ flight.count = pending.length ∧
      flight.batch.records = pending ++ [.sourceCoverage marker] ∧
      Marks config coverage flight.batch marker := by
  have plain := markersOf_plain sealed.admitted
  cases covers : flight.batch.hasCoverage with
  | false =>
      rw [(sealed.plain covers).2.2, plain] at member
      cases member
  | true =>
      obtain ⟨count, only, records, marks⟩ := sealed.covering covers
      rw [count, List.take_length] at plain
      rw [records, markersOf, List.filterMap_append] at member
      change marker ∈ markersOf pending ++ [only] at member
      rw [plain] at member
      cases List.mem_singleton.mp member
      exact ⟨rfl, count, records, marks⟩

theorem Ledger.Ordered.sequence_le
    (ordered : ledger.Ordered config) {resolution : Resolution}
    (member : resolution ∈ ledger.resolved) :
    resolution.batch.sequence ≤ ledger.resolved.length := by
  have number : resolution.batch.sequence ∈
      ledger.resolved.map (·.batch.sequence) := List.mem_map_of_mem member
  rw [ordered.numbered, List.mem_range'_1] at number
  omega

/-- Every accepted event is delivered, lost or held. -/
theorem Ledger.Ordered.accepted_mem
    (ordered : ledger.Ordered config)
    (member : entry ∈ ledger.offers) (accepted : entry.accepted = true) :
    (∃ resolution ∈ ledger.resolved, resolution.accepted = true ∧
      entry.toOffer ∈ offersOf resolution.batch.records) ∨
      entry.toOffer ∈ ledger.lost ∨ entry.toOffer ∈ offersOf ledger.held := by
  have among : entry.toOffer ∈ ledger.acceptedOffers :=
    List.mem_map_of_mem (List.mem_filter.mpr ⟨member, accepted⟩)
  rw [← ordered.fifo, List.mem_append, List.mem_flatMap] at among
  rcases among with ⟨resolution, resolved, inside⟩ | held
  · cases verdict : resolution.accepted with
    | true => exact .inl ⟨resolution, resolved, verdict, inside⟩
    | false =>
        refine .inr (.inl (List.mem_append_right _ ?_))
        refine List.mem_flatMap.mpr ⟨resolution.batch, ?_, inside⟩
        exact List.mem_map_of_mem (List.mem_filter.mpr ⟨resolved, by simp
          [verdict]⟩)
  · exact .inr (.inr held)

/-- What is launched truthfully will be true when it arrives. -/
theorem Ledger.Ordered.attests_launched
    (ordered : ledger.Ordered config)
    (cut : ledger.queue = []) (ready : Launchable config ledger flight)
    (truthful : Truthful ledger flight) {marker : SourceCoverage}
    (member : marker ∈ markersOf flight.batch.records) :
    ledger.Attests (ledger.acknowledged ++ [flight.batch])
      (ledger.pending.drop flight.count ++ ledger.queue) marker := by
  obtain ⟨covers, count, records, marks⟩ := ready.sealed.marks member
  have lost : ∀ offer ∈ ledger.lost, ¬ Inside marker offer.time := by
    intro offer among inside
    have before := truthful covers offer among
    have after := inside.1
    rw [marks.start] at after
    omega
  refine ⟨⟨?_, lost⟩, ?_, ?_⟩
  · intro entry among valid serving inside
    have accepted : entry.accepted = true := by
      by_contra refused
      refine lost entry.toOffer (List.mem_append_left _ ?_) inside
      refine List.mem_map_of_mem (List.mem_filter.mpr ⟨among, ?_⟩)
      have dropped : entry.result = .dropped := by
        simpa [Offered.accepted] using refused
      simp [Offered.overflowed, valid, serving, dropped]
    refine ⟨accepted, ?_⟩
    rcases ordered.accepted_mem among accepted with
      ⟨resolution, resolved, verdict, delivered⟩ | gone | held
    · refine ⟨resolution.batch, List.mem_append_left _ ?_, delivered, ?_, ?_⟩
      · exact List.mem_map_of_mem (List.mem_filter.mpr ⟨resolved, verdict⟩)
      · rw [marks.epoch]
        exact ordered.own resolution resolved
      · have earlier := ordered.sequence_le resolved
        rw [marks.sequence, ready.sealed.sequence, ordered.next]
        omega
    · exact absurd inside (lost _ gone)
    · refine ⟨flight.batch, List.mem_append_right _ List.mem_cons_self, ?_,
        ?_, marks.sequence.ge⟩
      · rw [Ledger.held, cut, List.append_nil] at held
        rw [records, offersOf_append]
        exact List.mem_append_left _ held
      · rw [marks.epoch]
        exact ready.sealed.epoch
  · rw [marks.finish]
    exact (ready.covering covers).1
  · rw [count, List.drop_length, cut]
    intro offer among
    cases among

theorem Ledger.extends_of_eq
    (clock : ledger.clock ≤ next.clock)
    (offers : next.offers = ledger.offers) (lost : next.lost = ledger.lost)
    (same : ∀ offer ∈ offersOf rest, offer ∈ offersOf waiting) :
    ledger.Extends next waiting rest where
  clock := clock
  offers := by
    rw [offers]
    exact fun entry member => .inl member
  lost := by
    rw [lost]
    exact fun offer member => .inl member
  rest offer member := .inl (same offer member)

/-- An offer adds to the lost events only itself. -/
theorem Ledger.lost_log (ledger : Ledger) (entry : Offered) :
    ∀ offer ∈ (ledger.log entry).lost, offer ∈ ledger.lost ∨
      entry.overflowed = true ∧ offer = entry.toOffer := by
  intro offer member
  unfold Ledger.lost at member ⊢
  rw [Ledger.log, List.filter_append, List.map_append, List.append_assoc,
    List.mem_append, List.mem_append] at member
  rw [List.mem_append]
  rcases member with old | new | rejected
  · exact .inl (.inl old)
  · obtain ⟨only, among, same⟩ := List.mem_map.mp new
    obtain ⟨here, overflowed⟩ := List.mem_filter.mp among
    cases List.mem_singleton.mp here
    exact .inr ⟨overflowed, same.symm⟩
  · exact .inl (.inr rejected)

theorem Ledger.extends_of_offer
    (time : entry.time = ledger.clock) (clock : next.clock = ledger.clock)
    (offers : next.offers = (ledger.log entry).offers)
    (lost : next.lost = (ledger.log entry).lost)
    (held : ∀ offer ∈ offersOf rest,
      offer ∈ offersOf waiting ∨ offer = entry.toOffer) :
    ledger.Extends next waiting rest where
  clock := clock.ge
  offers other member := by
    rw [offers] at member
    rcases List.mem_append.mp member with old | new
    · exact .inl old
    · rw [List.mem_singleton.mp new]
      exact .inr time.ge
  lost offer member := by
    rw [lost] at member
    rcases ledger.lost_log entry offer member with old | ⟨-, rfl⟩
    · exact .inl old
    · exact .inr (.inr time.ge)
  rest offer member := by
    rcases held offer member with old | rfl
    · exact .inl old
    · exact .inr time.ge

theorem Ledger.resolve_acknowledged (flight : Flight) (accepted : Bool) :
    (ledger.resolve flight accepted).acknowledged = ledger.acknowledged ++
      if accepted then [flight.batch] else [] := by
  cases accepted <;> simp [Ledger.resolve, Ledger.acknowledged]

theorem Ledger.resolve_rejected (flight : Flight) (accepted : Bool) :
    (ledger.resolve flight accepted).rejected = ledger.rejected ++
      if accepted then [] else [flight.batch] := by
  cases accepted <;> simp [Ledger.resolve, Ledger.rejected]

/-- Nothing is lost with an acknowledged batch. -/
theorem Ledger.resolve_lost (flight : Flight) :
    (ledger.resolve flight true).lost = ledger.lost := by
  unfold Ledger.lost
  rw [Ledger.resolve_rejected, if_pos rfl, List.append_nil]
  rfl

/-- The events of a batch stop waiting when it is resolved, and are lost if it
is rejected. -/
theorem Ledger.Ordered.extends_resolved
    (ordered : ledger.Ordered config)
    (flying : ledger.flight = some flight) (accepted : Bool) :
    ledger.Extends (ledger.resolve flight accepted) ledger.held
      (ledger.resolve flight accepted).held where
  clock := Int.le_refl _
  offers entry member := .inl member
  lost offer member := by
    unfold Ledger.lost at member ⊢
    rw [Ledger.resolve_rejected, List.flatMap_append, ← List.append_assoc,
      List.mem_append] at member
    rcases member with old | new
    · exact .inl old
    · refine .inr (.inl ?_)
      cases accepted with
      | true => cases new
      | false =>
          simp only [Bool.false_eq_true, if_false, List.flatMap_singleton,
            (ordered.flying flight flying).sealed.offersOf_records] at new
          rw [Ledger.held, offersOf_append]
          refine List.mem_append_left _ ?_
          exact List.Sublist.mem new
            (List.Sublist.filterMap _ (List.take_sublist _ _))
  rest offer member := by
    refine .inl (List.Sublist.mem member (List.Sublist.filterMap _ ?_))
    exact (List.drop_sublist _ _).append_right _

theorem Ledger.Attested.resolved
    (attested : ledger.Attested) (ordered : ledger.Ordered config)
    (flying : ledger.flight = some flight)
    (accepted : Bool) : (ledger.resolve flight accepted).Attested where
  acknowledged marker member := by
    have extended := ordered.extends_resolved flying accepted
    unfold Ledger.markers at member
    rw [Ledger.resolve_acknowledged, List.flatMap_append,
      List.mem_append] at member
    rw [Ledger.resolve_acknowledged]
    rcases member with old | new
    · exact (attested.acknowledged marker old).extend extended
        fun batch among => List.mem_append_left _ among
    · cases accepted with
      | false => cases new
      | true =>
          simp only [if_true, List.flatMap_singleton] at new
          refine (attested.flying flight flying marker new).extend ?_ ?_
          · refine { extended with lost := ?_, rest := fun _ => .inl }
            rw [Ledger.resolve_lost]
            exact fun offer member => .inl member
          · exact fun batch among => among
  flying := by rintro _ ⟨⟩

/-- An acknowledged marker moves the start forward to its end. -/
theorem commitCoverage_start
    (ready : Launchable config ledger flight)
    (covers : flight.batch.hasCoverage = true) :
    ledger.coverage.start ≤
        (commitCoverage ledger.coverage flight.batch).start ∧
      (commitCoverage ledger.coverage flight.batch).start ≤ ledger.clock := by
  obtain ⟨-, marker, -, marks⟩ := ready.sealed.covering covers
  have ordered := marks.ordered
  rw [marks.start, marks.finish] at ordered
  simp only [commitCoverage, covers, Bool.not_true, Bool.false_eq_true,
    if_false]
  exact ⟨ordered, (ready.covering covers).1⟩

theorem Ledger.Ordered.resolve_start
    (ordered : ledger.Ordered config)
    (flying : ledger.flight = some flight) (accepted : Bool) :
    ledger.coverage.start ≤
      (ledger.resolve flight accepted).coverage.start := by
  have ready := ordered.flying flight flying
  cases accepted with
  | false => exact Int.le_refl _
  | true =>
      cases covers : flight.batch.hasCoverage with
      | true => exact (commitCoverage_start ready covers).1
      | false => simp [Ledger.resolve, commitCoverage, covers]

/-- Lost events have been offered. -/
theorem Ledger.Ordered.lost_le
    (ordered : ledger.Ordered config) {bound : Int}
    (offers : ∀ entry ∈ ledger.offers, entry.time ≤ bound) :
    ∀ offer ∈ ledger.lost, offer.time ≤ bound := by
  have accepted : ∀ offer ∈ ledger.acceptedOffers, offer.time ≤ bound := by
    intro offer among
    obtain ⟨entry, listed, rfl⟩ := List.mem_map.mp among
    exact offers entry (List.mem_of_mem_filter listed)
  intro offer member
  rcases List.mem_append.mp member with overflow | rejected
  · obtain ⟨entry, listed, rfl⟩ := List.mem_map.mp overflow
    exact offers entry (List.mem_of_mem_filter listed)
  · refine accepted offer ?_
    rw [← ordered.fifo, List.mem_append, List.mem_flatMap]
    obtain ⟨batch, among, inside⟩ := List.mem_flatMap.mp rejected
    obtain ⟨resolution, listed, rfl⟩ := List.mem_map.mp among
    exact .inl ⟨resolution, List.mem_of_mem_filter listed, inside⟩

/-- A change that resolves nothing and launches nothing. -/
theorem Ledger.Attested.extend
    (attested : ledger.Attested) (resolved : next.resolved = ledger.resolved)
    (held : ledger.Extends next ledger.held next.held)
    (flying : ∀ flight, next.flight = some flight →
      ledger.flight = some flight ∧
        ledger.Extends next (ledger.pending.drop flight.count ++ ledger.queue)
          (next.pending.drop flight.count ++ next.queue)) :
    next.Attested := by
  have acknowledged : next.acknowledged = ledger.acknowledged := by
    unfold Ledger.acknowledged
    rw [resolved]
  constructor
  · intro marker member
    unfold Ledger.markers at member
    rw [acknowledged] at member ⊢
    exact (attested.acknowledged marker member).extend held fun _ => id
  · intro flight flies marker member
    obtain ⟨same, extended⟩ := flying flight flies
    rw [acknowledged]
    exact (attested.flying flight same marker member).extend extended
      fun _ => id

/-- If the sender launches only what is truthful, all its markers are true. -/
theorem Ledger.Attested.delivers
    (delivers : Delivers config Truthful ledger next)
    (ordered : ledger.Ordered config) (attested : ledger.Attested) :
    next.Attested := by
  cases delivers with
  | later elapsed =>
      have passed : ledger.clock ≤ (ledger.later elapsed).clock :=
        Int.le_add_of_nonneg_right (Int.natCast_nonneg _)
      refine attested.extend rfl ?_ fun flight flies => ⟨flies, ?_⟩
      · exact Ledger.extends_of_eq passed rfl rfl fun _ => id
      · exact Ledger.extends_of_eq passed rfl rfl fun _ => id
  | dropped =>
      refine attested.extend rfl ?_ fun flight flies => ⟨flies, ?_⟩
      · exact Ledger.extends_of_offer rfl rfl rfl rfl fun _ => .inl
      · exact Ledger.extends_of_offer rfl rfl rfl rfl fun _ => .inl
  | enqueued =>
      refine attested.extend rfl ?_ fun flight flies => ⟨flies, ?_⟩
      · refine Ledger.extends_of_offer rfl rfl rfl rfl ?_
        simp [Ledger.enqueue, Ledger.held, or_assoc]
      · refine Ledger.extends_of_offer rfl rfl rfl rfl ?_
        simp [Ledger.enqueue, or_assoc]
  | received count idle =>
      refine attested.extend rfl ?_ fun flight flies => ?_
      · refine Ledger.extends_of_eq (Int.le_refl _) rfl rfl ?_
        simp [Ledger.receive, Ledger.held, -offersOf_append]
      · cases idle.symm.trans flies
  | launched idle cut ready permitted =>
      constructor
      · intro marker member
        exact (attested.acknowledged marker member).extend
          (Ledger.extends_of_eq (Int.le_refl _) rfl rfl fun _ => id) fun _ => id
      · rintro _ ⟨⟩ marker member
        exact (ordered.attests_launched cut ready permitted member).extend
          (Ledger.extends_of_eq (Int.le_refl _) rfl rfl fun _ => id) fun _ => id
  | attempted
  | reset =>
      refine attested.extend rfl ?_ fun flight flies => ⟨flies, ?_⟩
      · exact Ledger.extends_of_eq (Int.le_refl _) rfl rfl fun _ => id
      · exact Ledger.extends_of_eq (Int.le_refl _) rfl rfl fun _ => id
  | abandoned =>
      refine attested.extend rfl ?_ fun flight flies => ?_
      · exact Ledger.extends_of_eq (Int.le_refl _) rfl rfl fun _ => id
      · cases flies
  | resolved flying accepted => exact attested.resolved ordered flying accepted
  | @reported records elapsed idle =>
      have passed : ledger.clock ≤ (ledger.later elapsed).clock :=
        Int.le_add_of_nonneg_right (Int.natCast_nonneg _)
      refine attested.extend rfl ?_ fun flight flies => ?_
      · refine Ledger.extends_of_eq passed rfl rfl ?_
        simp [Ledger.report, Ledger.held, Ledger.later]
      · cases idle.symm.trans flies

/-! ## Time -/

/-- What is new in a ledger, its offers and its health records, is dated in
between. -/
structure Ledger.Follows (config : Config) (ledger next : Ledger) : Prop where
  clock : ledger.clock ≤ next.clock
  offers : ∀ entry ∈ next.offers, entry ∈ ledger.offers ∨
    ledger.clock ≤ entry.time ∧ entry.time ≤ next.clock
  health : ∀ health, .sourceHealth health ∈ next.held →
    .sourceHealth health ∈ ledger.held ∨
      health.affectedSenderEpoch = config.epoch ∧
        ledger.clock ≤ recoveryTime health ∧ recoveryTime health ≤ next.clock

theorem Ledger.Follows.trans
    {last : Ledger} (first : ledger.Follows config next)
    (second : next.Follows config last) : ledger.Follows config last where
  clock := first.clock.trans second.clock
  offers entry member := by
    rcases second.offers entry member with old | ⟨after, before⟩
    · rcases first.offers entry old with older | ⟨after, before⟩
      · exact .inl older
      · exact .inr ⟨after, before.trans second.clock⟩
    · exact .inr ⟨first.clock.trans after, before⟩
  health record member := by
    rcases second.health record member with old | ⟨epoch, after, before⟩
    · rcases first.health record old with older | ⟨epoch, after, before⟩
      · exact .inl older
      · exact .inr ⟨epoch, after, before.trans second.clock⟩
    · exact .inr ⟨epoch, first.clock.trans after, before⟩

/-- A change that adds no offer and no health record. -/
theorem Ledger.follows_of_eq
    (clock : ledger.clock ≤ next.clock) (offers : next.offers = ledger.offers)
    (held : ∀ record ∈ next.held, record ∈ ledger.held) :
    ledger.Follows config next where
  clock := clock
  offers := by
    rw [offers]
    exact fun _ => .inl
  health _ member := .inl (held _ member)

theorem Ledger.follows_of_offer
    (time : entry.time = ledger.clock)
    (clock : next.clock = ledger.clock)
    (offers : next.offers = ledger.offers ++ [entry])
    (held : ∀ health, .sourceHealth health ∈ next.held →
      .sourceHealth health ∈ ledger.held) : ledger.Follows config next where
  clock := clock.ge
  offers other member := by
    rw [offers] at member
    rcases List.mem_append.mp member with old | new
    · exact .inl old
    · rw [List.mem_singleton.mp new]
      exact .inr ⟨time.ge, (time.trans clock.symm).le⟩
  health health member := .inl (held health member)

theorem Delivers.follows
    {permit : Ledger → Flight → Prop}
    (delivers : Delivers config permit ledger next) :
    ledger.Follows config next := by
  cases delivers with
  | later =>
      exact Ledger.follows_of_eq
        (Int.le_add_of_nonneg_right (Int.natCast_nonneg _)) rfl fun _ => id
  | dropped =>
      exact Ledger.follows_of_offer rfl rfl rfl fun _ => id
  | enqueued =>
      refine Ledger.follows_of_offer rfl rfl rfl ?_
      intro health member
      rw [enqueue_held, List.mem_append] at member
      rcases member with old | new
      · exact old
      · cases kind : config.kind <;> simp [kind, Kind.record] at new
  | received =>
      refine Ledger.follows_of_eq (Int.le_refl _) rfl ?_
      rw [receive_held]
      exact fun _ => id
  | launched
  | attempted
  | abandoned
  | reset =>
      exact Ledger.follows_of_eq (Int.le_refl _) rfl fun _ => id
  | resolved =>
      refine Ledger.follows_of_eq (Int.le_refl _) rfl ?_
      intro record member
      exact List.Sublist.mem member
        ((List.drop_sublist _ _).append_right _)
  | @reported records elapsed idle fresh =>
      refine ⟨Int.le_add_of_nonneg_right (Int.natCast_nonneg _),
        fun _ => .inl, ?_⟩
      intro health member
      rw [Ledger.held, Ledger.report, List.append_assoc,
        List.mem_append] at member
      rcases member with new | old
      · obtain ⟨record, among, same⟩ := List.mem_map.mp new
        cases same
        exact .inr (fresh health among).2
      · exact .inl old

theorem DeliversAll.follows
    {permit : Ledger → Flight → Prop}
    (delivers : DeliversAll config permit ledger next) :
    ledger.Follows config next := by
  induction delivers with
  | refl => exact Ledger.follows_of_eq (Int.le_refl _) rfl fun _ => id
  | tail _ change ih => exact ih.trans change.follows

/-! ## Whole runs -/

/-- If the sender launches only what is truthful, so it is over any number of
changes. -/
theorem DeliversAll.attested
    (delivers : DeliversAll config Truthful ledger next)
    (ordered : ledger.Ordered config) (attested : ledger.Attested) :
    next.Ordered config ∧ next.Attested :=
  delivers.keeps
    (motive := fun ledger => ledger.Ordered config ∧ ledger.Attested)
    (fun _ _ change facts =>
      ⟨facts.1.delivers change, facts.2.delivers change facts.1⟩)
    ⟨ordered, attested⟩

end SentinelFlow.Delivery
