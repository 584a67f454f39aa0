import SentinelFlow.Delivery.Wire
import SentinelFlow.EventSender.Health

/-!
# Coverage of the gateway event sender

Every lost event lies before the next marker, or the worker knows of it, or the
sender is kept from attaching a marker until a health record that accounts for
it has been acknowledged.
-/

namespace SentinelFlow.EventSender

open GoLib Events Delivery

variable {config : Config} {action : Action} {world next : World}

/-- The records of an acknowledged batch for which the coverage is still to be
reset. -/
def Worker.clears : Worker → List Record
  | .clearing current => current.records
  | _ => []

def Worker.taken : Worker → List Offer
  | .reporting _ _ _ taken => taken
  | _ => []

/-- The records whose health is still to be acted upon. -/
def World.awaited (world : World) : List Record :=
  world.worker.clears ++ world.held

theorem World.mem_awaited
    {record : Record} (member : record ∈ world.held) :
    record ∈ world.awaited :=
  List.mem_append_right _ member

/-! ## Time -/

/-- A health record of the running epoch is not in the future and does not move
the next marker back. -/
structure World.Dated (world : World) (health : SourceHealth) : Prop where
  positive : 0 ≤ recoveryTime health
  past : recoveryTime health ≤ world.clock
  start : world.coverage.start ≤ coverageStartTime (recoveryTime health)

structure World.Timed (config : Config) (world : World) : Prop where
  clock : 0 ≤ world.clock
  positive : 0 ≤ world.coverage.start
  start : world.coverage.start ≤ coverageStartTime world.clock
  offers : ∀ entry ∈ world.offers, entry.time ≤ world.clock
  health : ∀ health, OwnHealth config.epoch world.awaited health →
    world.Dated health

/-- A step that leaves the coverage alone. -/
theorem World.Timed.keep
    (timed : world.Timed config) (clock : world.clock ≤ next.clock)
    (coverage : next.coverage = world.coverage)
    (offers : ∀ entry ∈ next.offers,
      entry ∈ world.offers ∨ entry.time = world.clock)
    (health : ∀ record ∈ next.awaited, record.isHealth = true →
      record ∈ world.awaited) : next.Timed config where
  clock := timed.clock.trans clock
  positive := by
    rw [coverage]
    exact timed.positive
  start := by
    rw [coverage]
    exact timed.start.trans (coverageStartTime_mono clock)
  offers entry member := by
    rcases offers entry member with old | new
    · exact (timed.offers entry old).trans clock
    · exact new.trans_le clock
  health record own := by
    have dated := timed.health record ⟨health _ own.1 rfl, own.2⟩
    refine ⟨dated.positive, dated.past.trans clock, ?_⟩
    rw [coverage]
    exact dated.start

/-- A step after which no health record is awaited. -/
theorem World.Timed.settle
    (timed : world.Timed config) (clock : next.clock = world.clock)
    (offers : next.offers = world.offers)
    (forward : world.coverage.start ≤ next.coverage.start)
    (start : next.coverage.start ≤ coverageStartTime next.clock)
    (none : containsSourceHealth next.awaited = false) :
    next.Timed config where
  clock := clock ▸ timed.clock
  positive := timed.positive.trans forward
  start := start
  offers := by
    rw [offers, clock]
    exact timed.offers
  health record own :=
    absurd rfl (List.any_eq_false.mp none _ own.1)

/-- The health records that a resolved batch leaves behind were awaited. -/
theorem World.Shaped.awaited_resolve
    (shaped : world.Shaped) (ordered : world.toLedger.Ordered config)
    {flight : Flight} (flying : world.flight = some flight)
    (flies : world.worker.flies = true) {accepted : Bool}
    (ledger : next.toLedger = world.resolve flight accepted)
    (clears : ∀ record ∈ next.worker.clears,
      record ∈ flight.batch.records) {record : Record}
    (member : record ∈ next.awaited) (health : record.isHealth = true) :
    record ∈ world.awaited := by
  have sealed := (ordered.flying flight flying).sealed
  have settled := shaped.resolve ordered flying flies accepted
  rw [← ledger] at settled
  rcases List.mem_append.mp member with cleared | held
  · refine World.mem_awaited (List.mem_append_left _ ?_)
    have sent := clears record cleared
    cases covers : flight.batch.hasCoverage with
    | false =>
        rw [(sealed.plain covers).2.2] at sent
        exact List.mem_of_mem_take sent
    | true =>
        obtain ⟨-, marker, records, -⟩ := sealed.covering covers
        rw [records, List.mem_append] at sent
        rcases sent with pending | last
        · exact pending
        · rw [List.mem_singleton.mp last] at health
          cases health
  · exact absurd health (List.any_eq_false.mp settled record held)

theorem World.Timed.resolve
    (timed : world.Timed config) (shaped : world.Shaped)
    (ordered : world.toLedger.Ordered config) {flight : Flight}
    (flying : world.flight = some flight)
    (flies : world.worker.flies = true) {accepted : Bool}
    (ledger : next.toLedger = world.resolve flight accepted)
    (clears : ∀ record ∈ next.worker.clears,
      record ∈ flight.batch.records) : next.Timed config := by
  have ready := ordered.flying flight flying
  have settled := shaped.resolve ordered flying flies accepted
  rw [← ledger] at settled
  cases covers : flight.batch.hasCoverage with
  | false =>
      refine timed.keep ?_ ?_ ?_ ?_
      · rw [ledger]
        exact Int.le_refl _
      · rw [ledger]
        cases accepted <;> simp [Ledger.resolve, commitCoverage, covers]
      · rw [ledger]
        exact fun entry => .inl
      · exact fun _ =>
          shaped.awaited_resolve ordered flying flies ledger clears
  | true =>
      obtain ⟨-, marker, records, -⟩ := ready.sealed.covering covers
      obtain ⟨forward, finished⟩ := commitCoverage_start ready covers
      have calm : containsSourceHealth flight.batch.records = false := by
        rw [records, containsSourceHealth_append, (ready.covering covers).2]
        rfl
      have moved : world.coverage.start ≤ next.coverage.start ∧
          next.coverage.start ≤ coverageStartTime world.clock := by
        rw [ledger]
        cases accepted with
        | false => exact ⟨Int.le_refl _, timed.start⟩
        | true => exact ⟨forward, finished.trans (le_coverageStartTime _)⟩
      have clock : next.clock = world.clock := by rw [ledger]; rfl
      refine timed.settle clock ?_ moved.1 ?_ ?_
      · rw [ledger]
        rfl
      · rw [clock]
        exact moved.2
      · rw [World.awaited, containsSourceHealth_append, settled]
        rw [containsSourceHealth_subset (fun _ member _ => clears _ member)
          calm]
        rfl

/-- Resetting the coverage moves the start forward. -/
theorem World.Timed.reset
    (timed : world.Timed config) {current : Batch}
    (here : world.worker = .clearing current) :
    world.coverage.start ≤
        (resetCoverageAfterHealth config world.coverage current).start ∧
      (resetCoverageAfterHealth config world.coverage current).start ≤
        coverageStartTime world.clock := by
  unfold resetCoverageAfterHealth
  split
  · exact ⟨Int.le_refl _, timed.start⟩
  next boundary found =>
    obtain ⟨health, own, rfl⟩ := healthRecoveryBoundary_mem found
    have awaited : OwnHealth config.epoch world.awaited health := by
      refine ⟨List.mem_append_left _ ?_, own.2⟩
      rw [here]
      exact own.1
    have dated := timed.health health awaited
    exact ⟨dated.start, coverageStartTime_mono dated.past⟩

theorem World.Timed.report
    (timed : world.Timed config) {reading : Reading}
    {health : Option SourceHealth}
    (timely : ∀ record, health = some record →
      Timely config world reading record) :
    (world.report reading health).Timed config := by
  have passed : world.clock ≤ (world.report reading health).clock :=
    Int.le_add_of_nonneg_right (Int.natCast_nonneg _)
  have start : world.coverage.start ≤
      coverageStartTime (world.report reading health).clock :=
    timed.start.trans (coverageStartTime_mono passed)
  refine ⟨timed.clock.trans passed, timed.positive, start, ?_, ?_⟩
  · intro entry member
    exact (timed.offers entry member).trans passed
  · rintro record ⟨member, own⟩
    change .sourceHealth record ∈
      health.toList.map EventRecord.sourceHealth ++ world.pending ++
        world.queue at member
    rw [List.append_assoc, List.mem_append] at member
    rcases member with new | old
    · obtain ⟨fresh, among, same⟩ := List.mem_map.mp new
      cases same
      have facts := timely record (Option.mem_toList.mp among)
      exact ⟨timed.clock.trans facts.late, facts.early,
        timed.start.trans (coverageStartTime_mono facts.late)⟩
    · have dated := timed.health record ⟨World.mem_awaited old, own⟩
      exact ⟨dated.positive, dated.past.trans passed, dated.start⟩

/-- A step that changes neither the ledger nor the place of the worker. -/
theorem World.Timed.still
    (timed : world.Timed config) (ledger : next.toLedger = world.toLedger)
    (worker : next.worker = world.worker) : next.Timed config := by
  have awaited : next.awaited = world.awaited := by
    rw [World.awaited, ledger, worker]
    rfl
  refine timed.keep ?_ ?_ ?_ ?_
  · rw [ledger]
  · rw [ledger]
  · rw [ledger]
    exact fun _ => .inl
  · rw [awaited]
    exact fun _ member _ => member

/-- An offer changes nothing about health records. -/
theorem World.Timed.offered
    (timed : world.Timed config) {entry : Offered}
    (time : entry.time = world.clock) (clock : next.clock = world.clock)
    (coverage : next.coverage = world.coverage)
    (offers : next.offers = world.offers ++ [entry])
    (health : ∀ record ∈ next.awaited, record.isHealth = true →
      record ∈ world.awaited) : next.Timed config := by
  refine timed.keep clock.ge coverage ?_ health
  intro other member
  rw [offers] at member
  rcases List.mem_append.mp member with old | new
  · exact .inl old
  · rw [List.mem_singleton.mp new]
    exact .inr time

theorem awaited_enqueue_eq (kind : Kind) (entry : Offered) :
    World.awaited { world with toLedger := world.enqueue kind entry } =
      world.awaited ++ [kind.record entry.toOffer] := by
  rw [World.awaited, enqueue_held, ← List.append_assoc]
  rfl

theorem awaited_enqueue
    {kind : Kind} {entry : Offered} {record : Record}
    (member : record ∈ World.awaited
      { world with toLedger := world.enqueue kind entry })
    (health : record.isHealth = true) : record ∈ world.awaited := by
  rw [awaited_enqueue_eq, List.mem_append] at member
  rcases member with old | new
  · exact old
  · rw [List.mem_singleton.mp new] at health
    cases kind <;> cases health

/-- Time and coverage only move forward. -/
theorem World.Timed.moves
    (timed : world.Timed config) (shaped : world.Shaped)
    (ordered : world.toLedger.Ordered config)
    (moves : Moves config action world next) : next.Timed config := by
  have same : ∀ record ∈ world.held, record.isHealth = true →
      record ∈ world.awaited := fun _ member _ => World.mem_awaited member
  cases moves with
  | stays => exact timed
  | refused
  | overflowed =>
      exact timed.offered rfl rfl rfl rfl fun _ member _ => member
  | enqueued =>
      exact timed.offered rfl rfl rfl rfl fun _ => awaited_enqueue
  | added
  | stored
  | released
  | closed
  | marked
  | counted => exact timed.still rfl rfl
  | @selected place count worker stopping following =>
      refine timed.keep (Int.le_refl _) rfl (fun _ => .inl) ?_
      have clears : worker.clears = [] := by
        rcases following with rfl | rfl <;> rfl
      simp only [World.awaited, clears, List.nil_append]
      rw [receive_held]
      exact same
  | finished
  | abandoned
  | untaken
  | taken =>
      exact timed.keep (Int.le_refl _) rfl (fun _ => .inl) same
  | unsent
  | sent =>
      refine timed.keep ?_ rfl (fun _ => .inl) ?_
      · exact Int.le_add_of_nonneg_right (Int.natCast_nonneg _)
      · rw [← receive_held world.toLedger world.queue.length] at same
        exact same
  | retried place flying tries =>
      rcases tries with rfl | rfl <;>
        exact timed.keep (Int.le_refl _) rfl (fun _ => .inl)
          fun _ member _ => member
  | refusedBatch place flying tries
  | delivered place flying tries =>
      rcases tries with rfl | rfl <;>
        exact timed.keep (Int.le_refl _) rfl (fun _ => .inl) same
  | confirmed place flying =>
      exact timed.resolve shaped ordered flying (by rw [place.worker]; rfl) rfl
        fun _ member => member
  | passed place flying =>
      refine timed.resolve shaped ordered flying (by rw [place.worker]; rfl)
        rfl ?_
      intro record member
      cases member
  | cleared place =>
      obtain ⟨forward, start⟩ := timed.reset place.worker
      exact timed.settle rfl rfl forward start
        (shaped.settling (by rw [place.worker]; rfl))
  | reported =>
      exact timed.report fun _ built => timely_taken built
  | @rejected place flight flying =>
      refine timed.resolve shaped ordered flying (by rw [place.worker]; rfl)
        rfl ?_
      intro record member
      cases health : flight.batch.hasHealth <;> simp [health, Worker.clears]
        at member
  | reportedRejected =>
      exact timed.report fun _ built => timely_rejected built

/-! ## Losses -/

/-- Until a health record that accounts for the loss has been acknowledged, the
sender will not attach a marker. -/
structure World.Owes (config : Config) (world : World) (time : Int) :
    Prop where
  health : ∀ health, .sourceHealth health ∈ world.awaited →
    health.affectedSenderEpoch = config.epoch ∧ time ≤ recoveryTime health
  held : world.Pledged ∨ containsSourceHealth world.awaited = true

/-- What keeps a lost event out of the next marker. -/
inductive World.Accounts (config : Config) (world : World) (offer : Offer) :
    Prop where
  | past (before : offer.time ≤ world.coverage.start)
  | adding (holds : world.producer = some (.adding offer))
  | counted (member : offer ∈ world.unreported)
  | taken (member : offer ∈ world.worker.taken)
  | owed (owes : world.Owes config offer.time)

theorem World.Owes.keep
    {time : Int} (owes : world.Owes config time)
    (health : ∀ record ∈ next.awaited, record.isHealth = true →
      record ∈ world.awaited)
    (held : world.Pledged ∨ containsSourceHealth world.awaited = true →
      next.Pledged ∨ containsSourceHealth next.awaited = true) :
    next.Owes config time where
  health record member := owes.health record (health _ member rfl)
  held := held owes.held

/-- A step that leaves the health records as they are. -/
theorem World.Owes.still
    {time : Int} (owes : world.Owes config time)
    (awaited : next.awaited = world.awaited)
    (pledged : world.Pledged → next.Pledged) : next.Owes config time where
  health := by
    rw [awaited]
    exact owes.health
  held := by
    rw [awaited]
    exact owes.held.imp_left pledged

theorem World.Accounts.stay
    {offer : Offer} (accounts : world.Accounts config offer)
    (start : world.coverage.start ≤ next.coverage.start)
    (producer : next.producer = world.producer)
    (unreported : next.unreported = world.unreported)
    (taken : offer ∈ world.worker.taken → offer ∈ next.worker.taken)
    (owed : world.Owes config offer.time → next.Accounts config offer) :
    next.Accounts config offer := by
  cases accounts with
  | past before => exact .past (before.trans start)
  | adding holds => exact .adding (producer.trans holds)
  | counted member => exact .counted (unreported ▸ member)
  | taken member => exact .taken (taken member)
  | owed owes => exact owed owes

/-- The condition under which the sender is sound: when a flush has cleared the
flag, the drop counter that it takes has not wrapped around, and the health
record for the drops is built. -/
structure World.Reports (config : Config) (world : World) (action : Action) :
    Prop where
  counted : world.worker = .taking true → world.unreported.length < 2 ^ 64
  reported : ∀ dropped started taken reading,
    world.worker = .reporting dropped started true taken → taken ≠ [] →
      action = .work reading →
        (takenHealthEvent config dropped started world.clock reading).isSome =
          true

theorem World.At.not_taken
    {worker : Worker} (place : world.At worker) (none : worker.taken = [])
    {offer : Offer} {motive : Prop} (member : offer ∈ world.worker.taken) :
    motive := by
  rw [place.worker, none] at member
  cases member

theorem World.At.awaited
    {worker : Worker} (place : world.At worker) (none : worker.clears = []) :
    world.awaited = world.held := by
  rw [World.awaited, place.worker, none, List.nil_append]

section Losses

variable {offer : Offer}

theorem World.Accounts.overflowed
    (accounts : world.Accounts config offer) (free : world.producer = none)
    (entry : Offered) (dropping : Offer) :
    World.Accounts config
      { world with
        toLedger := world.log entry, producer := some (.adding dropping) }
      offer := by
  cases accounts with
  | past before => exact .past before
  | adding holds => cases free.symm.trans holds
  | counted member => exact .counted member
  | taken member => exact .taken member
  | owed owes =>
      refine .owed (owes.still rfl fun pledged => ?_)
      exact pledged.release (by simp [free]) rfl rfl

theorem World.Accounts.added
    (accounts : world.Accounts config offer) {dropping : Offer}
    (holds : world.producer = some (.adding dropping)) :
    World.Accounts config
      { world with
        dropped := world.dropped + 1
        unreported := world.unreported ++ [dropping]
        producer := some .storing } offer := by
  cases accounts with
  | past before => exact .past before
  | adding same =>
      cases holds.symm.trans same
      exact .counted (List.mem_append_right _ List.mem_cons_self)
  | counted member => exact .counted (List.mem_append_left _ member)
  | taken member => exact .taken member
  | owed owes => exact .owed (owes.still rfl fun _ => .inr (.inr rfl))

/-- A producer that has counted its drop goes on. -/
theorem World.Accounts.released
    (accounts : world.Accounts config offer)
    (other : ∀ dropping, world.producer ≠ some (.adding dropping))
    (ledger : next.toLedger = world.toLedger)
    (worker : next.worker = world.worker)
    (unreported : next.unreported = world.unreported)
    (pledged : world.Pledged → next.Pledged) :
    next.Accounts config offer := by
  cases accounts with
  | past before =>
      refine .past ?_
      rw [ledger]
      exact before
  | adding holds => exact absurd holds (other offer)
  | counted member => exact .counted (unreported ▸ member)
  | taken member => exact .taken (worker ▸ member)
  | owed owes =>
      refine .owed (owes.still ?_ pledged)
      rw [World.awaited, ledger, worker]
      rfl

/-- An acknowledged health record accounts for what was owed. -/
theorem World.Owes.cleared
    {time : Int} (owes : world.Owes config time) (shaped : world.Shaped)
    (timed : world.Timed config) {current : Batch}
    (here : world.worker = .clearing current) :
    time ≤
      (resetCoverageAfterHealth config world.coverage current).start := by
  have awaited : ∀ record ∈ current.records, record ∈ world.awaited := by
    intro record member
    refine List.mem_append_left _ ?_
    rw [here]
    exact member
  obtain ⟨record, member, isHealth⟩ :=
    List.any_eq_true.mp (shaped.clearing current here)
  cases record with
  | sourceHealth health =>
      obtain ⟨epoch, before⟩ := owes.health health (awaited _ member)
      refine before.trans (recoveryTime_le_reset ?_ timed.positive
        ⟨member, epoch⟩)
      exact fun other own =>
        (timed.health other ⟨awaited _ own.1, own.2⟩).positive
  | gatewayHTTP => cases isHealth
  | authEvent => cases isHealth
  | sourceCoverage => cases isHealth

/-- What is owed after the worker has reported. -/
theorem World.owes_report
    {time : Int} {reading : Reading} {health : Option SourceHealth}
    (timely : ∀ record, health = some record →
      Timely config world reading record) (late : time ≤ world.clock)
    (old : ∀ record, .sourceHealth record ∈ world.held →
      record.affectedSenderEpoch = config.epoch ∧ time ≤ recoveryTime record)
    (held : world.Pledged ∨ containsSourceHealth world.held = true ∨
      health.isSome = true) :
    (world.report reading health).Owes config time := by
  have awaited : (world.report reading health).awaited =
      health.toList.map EventRecord.sourceHealth ++ world.held :=
    List.append_assoc _ _ _
  constructor
  · intro record member
    rw [awaited, List.mem_append] at member
    rcases member with new | waiting
    · obtain ⟨fresh, among, same⟩ := List.mem_map.mp new
      cases same
      have facts := timely record (Option.mem_toList.mp among)
      exact ⟨facts.epoch, late.trans facts.late⟩
    · exact old record waiting
  · rw [awaited, containsSourceHealth_append]
    rcases held with pledged | waiting | some
    · exact .inl pledged
    · exact .inr (by rw [waiting, Bool.or_true])
    · obtain ⟨record, rfl⟩ := Option.isSome_iff_exists.mp some
      exact .inr rfl

theorem World.Accounts.reported
    (accounts : world.Accounts config offer) {worker : Worker}
    (place : world.At worker) (cleared : worker.clears = [])
    {reading : Reading} {health : Option SourceHealth}
    (timely : ∀ record, health = some record →
      Timely config world reading record) (late : offer.time ≤ world.clock)
    (taken : offer ∈ worker.taken →
      (world.report reading health).Accounts config offer) :
    (world.report reading health).Accounts config offer := by
  cases accounts with
  | past before => exact .past before
  | adding holds => exact .adding holds
  | counted member => exact .counted member
  | taken member => exact taken (place.worker ▸ member)
  | owed owes =>
      refine .owed (owes_report timely late ?_ ?_)
      · intro record waiting
        exact owes.health record (World.mem_awaited waiting)
      · rw [← place.awaited cleared]
        exact owes.held.imp_right .inl

/-- What is known of the sender between two steps. -/
structure World.Sound (config : Config) (world : World) : Prop where
  ordered : world.toLedger.Ordered config
  attested : world.toLedger.Attested
  shaped : world.Shaped
  flagged : world.Flagged
  timed : world.Timed config
  guarded : ∀ offer ∈ world.lost, world.Accounts config offer

/-- A drop that was taken is reported, or the flag is still set. -/
theorem World.Sound.report_taken
    (sound : world.Sound config) (reports : world.Reports config action)
    {dropped : UInt64} {started : Int} {cleared : Bool} {taken : List Offer}
    (place : world.At (.reporting dropped started cleared taken))
    {reading : Reading} (works : action = .work reading)
    (late : offer.time ≤ world.clock) (member : offer ∈ taken) :
    (world.report reading (takenHealthEvent config dropped started
      world.clock reading)).Accounts config offer := by
  have settled := sound.shaped.settling (by rw [place.worker]; rfl)
  have some := List.ne_nil_of_mem member
  refine .owed (owes_report (fun _ built => timely_taken built) late ?_ ?_)
  · intro record waiting
    exact absurd rfl (List.any_eq_false.mp settled _ waiting)
  · rcases sound.flagged.taken _ _ _ _ place.worker some with rfl | pledged
    · exact .inr (.inr (reports.reported _ _ _ _ place.worker some works))
    · exact .inl pledged

/-- Nothing that was accounted for is forgotten. -/
theorem World.Accounts.moves
    (accounts : world.Accounts config offer) (sound : world.Sound config)
    (reports : world.Reports config action) (late : offer.time ≤ world.clock)
    (moves : Moves config action world next) :
    next.Accounts config offer := by
  have ordered := sound.ordered
  have shaped := sound.shaped
  have flagged := sound.flagged
  have timed := sound.timed
  cases moves with
  | stays => exact accounts
  | refused
  | closed =>
      exact accounts.stay (Int.le_refl _) rfl rfl id
        fun owes => .owed (owes.still rfl id)
  | enqueued =>
      refine accounts.stay (Int.le_refl _) rfl rfl id fun owes => .owed ?_
      refine owes.keep (fun _ => awaited_enqueue) (Or.imp_right fun some => ?_)
      refine Eq.trans ?_ some
      rw [awaited_enqueue_eq]
      exact containsSourceHealth_event _ _ _
  | overflowed free => exact accounts.overflowed free _ _
  | added holds => exact accounts.added holds
  | stored holds =>
      exact accounts.released (by simp [holds]) rfl rfl rfl fun _ => .inl rfl
  | released holds =>
      exact accounts.released (by simp [holds]) rfl rfl rfl
        fun pledged => pledged.release (by simp [holds]) rfl rfl
  | selected place count worker stopping following =>
      refine accounts.stay (Int.le_refl _) rfl rfl (place.not_taken rfl)
        fun owes => .owed (owes.still ?_ id)
      rw [place.awaited rfl]
      rcases following with rfl | rfl <;> exact receive_held _ _
  | finished place
  | abandoned place =>
      exact accounts.stay (Int.le_refl _) rfl rfl (place.not_taken rfl)
        fun owes => .owed (owes.still (place.awaited rfl).symm id)
  | unsent place free =>
      refine accounts.stay (Int.le_refl _) rfl rfl (place.not_taken rfl)
        fun owes => .owed (owes.still ?_ ?_)
      · rw [place.awaited rfl]
        exact receive_held _ _
      · rintro (set | marks | holds)
        · exact .inl set
        · cases place.marking.symm.trans marks
        · cases free.symm.trans holds
  | sent place =>
      refine accounts.stay (Int.le_refl _) rfl rfl (place.not_taken rfl)
        fun owes => .owed (owes.still ?_ id)
      rw [place.awaited rfl]
      exact receive_held _ _
  | retried place flying tries =>
      rcases tries with rfl | rfl <;>
        exact accounts.stay (Int.le_refl _) rfl rfl id
          fun owes => .owed (owes.still rfl fun _ => .inr (.inl rfl))
  | refusedBatch place flying tries =>
      rcases tries with rfl | rfl <;>
        exact accounts.stay (Int.le_refl _) rfl rfl (place.not_taken rfl)
          fun owes => .owed (owes.still (place.awaited rfl).symm
            fun _ => .inr (.inl rfl))
  | delivered place flying tries =>
      rcases tries with rfl | rfl <;>
        exact accounts.stay (Int.le_refl _) rfl rfl (place.not_taken rfl)
          fun owes => .owed (owes.still (place.awaited rfl).symm id)
  | marked =>
      exact accounts.stay (Int.le_refl _) rfl rfl id
        fun owes => .owed (owes.still rfl fun _ => .inl rfl)
  | counted marking =>
      exact accounts.stay (Int.le_refl _) rfl rfl id fun owes =>
        .owed (owes.still rfl fun _ => .inl (flagged.marking marking))
  | confirmed place flying health =>
      have flies : world.worker.flies = true := by rw [place.worker]; rfl
      refine accounts.stay (ordered.resolve_start flying true) rfl rfl
        (place.not_taken rfl) fun owes => .owed (owes.keep ?_ ?_)
      · intro record member isHealth
        refine shaped.awaited_resolve ordered flying flies rfl ?_ member
          isHealth
        exact fun _ sent => sent
      · refine Or.imp_right fun _ => ?_
        have records := (ordered.flying _ flying).sealed.health_records
        refine (containsSourceHealth_append _ _).trans ?_
        rw [Bool.or_eq_true]
        exact .inl (records.trans health)
  | passed place flying other =>
      have flies : world.worker.flies = true := by rw [place.worker]; rfl
      refine accounts.stay (ordered.resolve_start flying true) rfl rfl
        (place.not_taken rfl) fun owes => .owed (owes.keep ?_ ?_)
      · intro record member isHealth
        refine shaped.awaited_resolve ordered flying flies rfl ?_ member
          isHealth
        exact fun _ sent => by cases sent
      · rintro (pledged | some)
        · exact .inl pledged
        · rw [place.awaited rfl] at some
          have health := shaped.hasHealth ordered flying flies some
          have set := (flagged.generation _ flying).resolve_left (other health)
          exact .inl (.inl set)
  | cleared place =>
      obtain ⟨forward, -⟩ := timed.reset place.worker
      cases accounts with
      | past before => exact .past (before.trans forward)
      | adding holds => exact .adding holds
      | counted member => exact .counted member
      | taken member => exact place.not_taken rfl member
      | owed owes => exact .past (owes.cleared shaped timed place.worker)
  | @untaken cleared place none =>
      have settled := shaped.settling (by rw [place.worker]; rfl)
      cases accounts with
      | past before => exact .past before
      | adding holds => exact .adding holds
      | taken member => exact place.not_taken rfl member
      | owed owes => exact .owed (owes.still (place.awaited rfl).symm id)
      | counted member =>
          rcases flagged.unreported (List.ne_nil_of_mem member) with
            pledged | here
          · refine .owed ⟨?_, .inl pledged⟩
            intro record waiting
            exact absurd rfl (List.any_eq_false.mp settled _ waiting)
          · have bounded := reports.counted here
            have positive := List.length_pos_of_mem member
            have zero := congrArg UInt64.toNat (flagged.dropped ▸ none)
            rw [UInt64.toNat_ofNat_of_lt' bounded] at zero
            exact absurd zero positive.ne'
  | @taken cleared place =>
      cases accounts with
      | past before => exact .past before
      | adding holds => exact .adding holds
      | counted member => exact .taken member
      | taken member => exact place.not_taken rfl member
      | owed owes => exact .owed (owes.still (place.awaited rfl).symm id)
  | reported place reading works =>
      exact accounts.reported place rfl (fun _ built => timely_taken built)
        late (sound.report_taken reports place works late)
  | @rejected place flight flying =>
      have flies : world.worker.flies = true := by rw [place.worker]; rfl
      refine accounts.stay (ordered.resolve_start flying false) rfl rfl
        (place.not_taken rfl) fun owes => .owed (owes.keep ?_ ?_)
      · intro record member isHealth
        refine shaped.awaited_resolve ordered flying flies rfl ?_ member
          isHealth
        intro _ sent
        cases health : flight.batch.hasHealth <;>
          simp [health, Worker.clears] at sent
      · exact fun _ => .inl (.inr (.inl rfl))
  | reportedRejected place =>
      exact accounts.reported place rfl (fun _ built => timely_rejected built)
        late nofun

/-- Events are lost by an overflow or with a rejected batch. -/
theorem World.Sound.lost_moves
    (sound : world.Sound config) (moves : Moves config action world next)
    (member : offer ∈ next.lost) :
    offer ∈ world.lost ∨ next.Accounts config offer := by
  have ordered := sound.ordered
  cases moves with
  | @refused valid serving late =>
      rcases world.lost_log (world.offer valid serving .dropped) offer
        member with old | ⟨overflowed, -⟩
      · exact .inl old
      · rcases late with rfl | rfl <;>
          simp [Offered.overflowed, Ledger.offer] at overflowed
  | @enqueued result accepted =>
      rcases world.lost_log (world.offer true true result) offer
        member with old | ⟨overflowed, -⟩
      · exact .inl old
      · simp [Offered.overflowed, Ledger.offer, accepted] at overflowed
  | overflowed =>
      rcases world.lost_log (world.offer true true .dropped) offer
        member with old | ⟨-, rfl⟩
      · exact .inl old
      · exact .inr (.adding rfl)
  | confirmed
  | passed =>
      exact .inl (Ledger.resolve_lost _ ▸ member)
  | @rejected place flight flying =>
      have flies : world.worker.flies = true := by rw [place.worker]; rfl
      have settled := sound.shaped.resolve ordered flying flies false
      refine .inr (.owed ⟨?_, .inl (.inr (.inl rfl))⟩)
      intro record waiting
      have held : .sourceHealth record ∈ (world.resolve flight false).held := by
        cases health : flight.batch.hasHealth <;>
          simpa [World.awaited, health, Worker.clears] using waiting
      exact absurd rfl (List.any_eq_false.mp settled _ held)
  | retried place flying tries
  | refusedBatch place flying tries
  | delivered place flying tries =>
      rcases tries with rfl | rfl <;> exact .inl member
  | _ => exact .inl member

/-- When the worker may attach a marker, everything lost lies before it. -/
theorem World.Sound.truthful
    (sound : world.Sound config) (place : world.At .flushing)
    (free : world.producer = none) (elapsed : Nat) (flight : Flight)
    (ready : Launchable config (world.cut.later elapsed) flight)
    (covering : flight.batch.hasCoverage = true → world.degraded = false) :
    Truthful (world.cut.later elapsed) flight := by
  intro covers offer member
  have healthy := covering covers
  have calm : ¬ world.Pledged := by
    rintro (set | marks | holds)
    · cases healthy.symm.trans set
    · cases place.marking.symm.trans marks
    · cases free.symm.trans holds
  cases sound.guarded offer member with
  | past before => exact before
  | adding holds => cases free.symm.trans holds
  | taken member => exact place.not_taken rfl member
  | counted member =>
      exact absurd (sound.flagged.pledged place nofun
        (List.ne_nil_of_mem member)) calm
  | owed owes =>
      have some := owes.held.resolve_left calm
      have none : containsSourceHealth world.cut.pending = false :=
        (ready.covering covers).2
      have all : world.cut.pending = world.held := by
        simp [Ledger.cut, Ledger.receive, Ledger.held]
      rw [place.awaited rfl, ← all, none] at some
      cases some

end Losses

theorem World.Sound.wait (sound : world.Sound config) (elapsed : Nat) :
    (world.wait elapsed).Sound config := by
  have passed : world.clock ≤ (world.wait elapsed).clock :=
    Int.le_add_of_nonneg_right (Int.natCast_nonneg _)
  obtain ⟨ordered, attested⟩ := DeliversAll.attested
    (.single (.later world.toLedger elapsed)) sound.ordered sound.attested
  refine ⟨ordered, attested, { sound.shaped with }, { sound.flagged with },
    sound.timed.keep passed rfl (fun _ => .inl) fun _ member _ => member, ?_⟩
  intro offer member
  exact (sound.guarded offer member).stay (Int.le_refl _) rfl rfl id
    fun owes => .owed (owes.still rfl id)

theorem World.Sound.moves
    (sound : world.Sound config) (controlled : world.Controlled)
    (reports : world.Reports config action)
    (moves : Moves config action world next) : next.Sound config := by
  have delivers : DeliversAll config Truthful world.toLedger next.toLedger :=
    controlled.delivers moves fun _ _ place free =>
      sound.truthful place free _ _
  obtain ⟨ordered, attested⟩ := delivers.attested sound.ordered sound.attested
  refine ⟨ordered, attested, sound.shaped.moves sound.ordered moves,
    sound.flagged.moves controlled moves,
    sound.timed.moves sound.shaped sound.ordered moves, ?_⟩
  intro offer member
  rcases sound.lost_moves moves member with old | new
  · exact (sound.guarded offer old).moves sound reports
      (sound.ordered.lost_le sound.timed.offers offer old) moves
  · exact new

theorem new_sound
    {clock : Int} {previous : Option Bytes} {reading : Reading} {stored : Bool}
    (positive : 0 ≤ clock)
    (started : new config clock previous reading stored = some world) :
    world.Sound config := by
  have initial := (new_controlled started).2
  obtain ⟨coverage, start, -, rest⟩ := new_eq_some started
  have zero : 0 ≤ coverage.start := by
    rw [start]
    exact positive.trans (le_coverageStartTime clock)
  refine ⟨initial.ordered, initial.attested, ?_, ?_, ?_, ?_⟩
  · rcases rest with rfl | ⟨health, epoch, -, -, rfl⟩
    · exact ⟨rfl, nofun, nofun, nofun⟩
    · exact ⟨rfl, nofun, nofun, nofun⟩
  · rcases rest with rfl | ⟨health, epoch, -, -, rfl⟩
    · exact ⟨nofun, nofun, nofun, nofun, nofun, rfl⟩
    · exact ⟨nofun, nofun, nofun, nofun, nofun, rfl⟩
  · rcases rest with rfl | ⟨health, epoch, -, built, rfl⟩
    · refine ⟨positive, zero, start.le, nofun, ?_⟩
      rintro health ⟨⟨⟩, -⟩
    · obtain ⟨-, -, -, -, -, time⟩ := sourceHealth_eq_some built
      have time : recoveryTime health = clock + reading.elapsed := time
      have passed : clock ≤ clock + reading.elapsed :=
        Int.le_add_of_nonneg_right (Int.natCast_nonneg _)
      have start : coverage.start ≤ coverageStartTime (clock + reading.elapsed) :=
        start.trans_le (coverageStartTime_mono passed)
      refine ⟨positive.trans passed, zero, start, nofun, ?_⟩
      rintro other ⟨member, -⟩
      cases List.mem_singleton.mp member
      exact ⟨time ▸ positive.trans passed, time.le, time ▸ start⟩
  · intro offer member
    rw [Ledger.lost, initial.offers, Ledger.rejected, initial.resolved]
      at member
    cases member

/-- If every flush that clears the flag also reports the drops that it takes,
then every acknowledged marker covers its interval: each valid event offered
before `Close` strictly inside was accepted and is in an acknowledged batch of
the same epoch, not after the marker, and no lost event lies inside. -/
theorem markers_cover
    (config : Config) (clock : Int) (previous : Option Bytes)
    (reading : Reading) (stored : Bool) (world : World) (steps : List Step)
    (positive : 0 ≤ clock)
    (started : new config clock previous reading stored = some world)
    (reports : Permitted config (World.Reports config) world steps) :
    ∀ marker ∈ (run config world steps).markers,
      (run config world steps).Covers (run config world steps).acknowledged
        marker := by
  have sound := (run_keeps (motive := World.Sound config)
    (fun _ elapsed sound => sound.wait elapsed)
    (fun _ _ _ allowed controlled sound moved =>
      sound.moves controlled allowed moved) reports
    (new_controlled started).1 (new_sound positive started)).2
  intro marker member
  exact (sound.attested.acknowledged marker member).toCovers

instance (config : Config) (world : World) (action : Action) :
    Decidable (world.Reports config action) :=
  decidable_of_iff
    ((match world.worker with
      | .taking true => decide (world.unreported.length < 2 ^ 64)
      | .reporting dropped started true taken =>
          match action with
          | .work reading => taken.isEmpty ||
              (takenHealthEvent config dropped started world.clock
                reading).isSome
          | _ => true
      | _ => true) = true) <| by
    constructor
    · intro check
      refine ⟨?_, ?_⟩
      · intro here
        rw [here] at check
        exact of_decide_eq_true check
      · rintro dropped started taken reading here some rfl
        rw [here] at check
        simpa [some] using check
    · rintro ⟨counted, reported⟩
      split
      next here => exact decide_eq_true (counted here)
      next dropped started taken here =>
        split
        next reading =>
          cases taken with
          | nil => rfl
          | cons =>
              exact reported _ _ _ reading here (List.cons_ne_nil _ _) rfl
        · rfl
      · rfl

/-- A start after a clean shutdown, and one after a process whose checkpoint was
not clean. -/
def sampleStart (config : Config) (previous : Option Bytes) : Option World :=
  new config sampleClock previous (sampleReading 800) true

def samplePreviousEpoch : Bytes := ascii "BBBBBBBBBBBBBBBBBBBBBA"

/-- An event is accepted and delivered together with a marker. -/
def coveringScript (config : Config) : List (World → Step) :=
  [fun _ => ⟨5000000, .offer true⟩,
    fun _ => ⟨5000000, .select .tick⟩,
    fun _ => ⟨0, .flush [sampleReading 801]⟩,
    fun world => ⟨1000000, .deliver (world.receipt config)⟩,
    fun _ => ⟨0, .work (sampleReading 802)⟩,
    fun _ => ⟨0, .work (sampleReading 803)⟩]

theorem coveringScript_covers :
    let config := sampleConfig .gateway 2 2
    ∃ world, sampleStart config none = some world ∧
      let final := run config world
        (play (World.step config) world (coveringScript config))
      final.markers.length = 1 ∧
        ∀ marker ∈ final.markers, final.Covers final.acknowledged marker := by
  intro config
  have checked : (sampleStart config none).any (fun world =>
      let steps := play (World.step config) world (coveringScript config)
      decide (Permitted config (World.Reports config) world steps) &&
        decide ((run config world steps).markers.length = 1)) = true := by
    rw [show config = config.swift from Config.eq_swift rfl]
    decide +kernel
  obtain ⟨world, started, held⟩ := (Option.any_eq_true _ _).mp checked
  simp only [Bool.and_eq_true, decide_eq_true_eq] at held
  exact ⟨world, started, held.2, markers_cover config sampleClock none
    (sampleReading 800) true world _ (by decide) started held.1⟩

/-- The restart record and one event fill the queue, another event is dropped.
The flush that delivers the restart record clears the flag, takes the drop and
fails to draw an identifier for its report; the next flush attaches a marker. -/
def lossScript (config : Config) : List (World → Step) :=
  [fun _ => ⟨5000000, .offer true⟩,
    fun _ => ⟨1000000, .offer true⟩,
    fun _ => ⟨0, .overflow⟩,
    fun _ => ⟨0, .overflow⟩,
    fun _ => ⟨0, .overflow⟩,
    fun _ => ⟨1000000, .select .tick⟩,
    fun _ => ⟨0, .flush [sampleReading 801]⟩,
    fun world => ⟨1000000, .deliver (world.receipt config)⟩,
    fun _ => ⟨0, .work (sampleReading 802)⟩,
    fun _ => ⟨0, .work (sampleReading 803)⟩,
    fun _ => ⟨0, .work (sampleReading 804)⟩,
    fun _ => ⟨0, .work { newID := none }⟩,
    fun _ => ⟨10000000, .select .tick⟩,
    fun _ => ⟨0, .flush [sampleReading 805]⟩,
    fun world => ⟨1000000, .deliver (world.receipt config)⟩,
    fun _ => ⟨0, .work (sampleReading 806)⟩]

theorem dropped_event_covered :
    let config := sampleConfig .gateway 2 2
    ∃ world, sampleStart config (some samplePreviousEpoch) = some world ∧
      let final := run config world
        (play (World.step config) world (lossScript config))
      ∃ marker ∈ final.markers, ∃ offer ∈ final.lost,
        Inside marker offer.time := by
  intro config
  have checked : (sampleStart config (some samplePreviousEpoch)).any
      (fun world =>
        let final := run config world
          (play (World.step config) world (lossScript config))
        final.markers.any fun marker => final.lost.any fun offer =>
          decide (marker.coverageStart < offer.time ∧
            offer.time < marker.coverageEnd)) = true := by
    rw [show config = config.swift from Config.eq_swift rfl]
    decide +kernel
  obtain ⟨world, started, held⟩ := (Option.any_eq_true _ _).mp checked
  refine ⟨world, started, ?_⟩
  obtain ⟨marker, acknowledged, some⟩ := List.any_eq_true.mp held
  obtain ⟨offer, lost, inside⟩ := List.any_eq_true.mp some
  have strictly : marker.coverageStart < offer.time ∧
      offer.time < marker.coverageEnd := of_decide_eq_true inside
  exact ⟨marker, acknowledged, offer, lost, strictly⟩

end SentinelFlow.EventSender
