import SentinelFlow.AuthSender.Runs
import SentinelFlow.Delivery.Attest
import SentinelFlow.Delivery.Wire

/-!
# Coverage of the authentication event sender

Every lost event lies before the next marker, or the worker knows of it, or a
health record that accounts for it is on its way, or the sender has halted.
Two things have to be assumed: that the flag is not cleared while a drop is
counted, and that no acknowledged health record moves the next marker back.
-/

namespace SentinelFlow.AuthSender

open GoLib Events Delivery

variable {config : Config} {world next : World} {offer : Offer}

def Worker.taken : Worker → List Offer
  | .reporting _ taken => taken
  | _ => []

def Worker.halts : Worker → Bool
  | .halting _ => true
  | _ => false

def Worker.owesRejection : Worker → Bool
  | .reportingRejected _ _ => true
  | _ => false

/-! ## Flags -/

structure World.Flagged (world : World) : Prop where
  running : world.worker = .flushing → world.halted = false
  unreported : world.unreported ≠ [] → world.degraded = true ∨
    world.producer = some .storing ∨ world.worker.halts = true ∨
    world.halted = true
  counted : world.health.overflowCount = 0 → world.unreported = []
  taken : ∀ snapshot taken, world.worker = .reporting snapshot taken →
    snapshot.overflowCount = 0 → taken = []

/-- The condition under which the sender is sound: when the flag is cleared no
drop is counted, unless its producer is about to set the flag again; and
resetting the coverage does not move its start back. -/
structure World.Steady (config : Config) (world : World) : Prop where
  clearing : world.worker = .clearing →
    world.health.overflowCount = 0 ∨ world.producer = some .storing
  resetting : ∀ flight, world.worker = .acknowledged →
    world.flight = some flight → flight.batch.hasHealth = true →
      world.coverage.start ≤
        (resetCoverageAfterHealth config world.coverage flight.batch).start

theorem World.Flagged.stand
    (flagged : world.Flagged) {worker : Worker} (place : world.At worker)
    (calm : worker.halts = false) (degraded : next.degraded = world.degraded)
    (producer : next.producer = world.producer)
    (halted : next.halted = world.halted)
    (unreported : next.unreported = world.unreported)
    (count : next.health.overflowCount = world.health.overflowCount)
    (running : next.worker = .flushing → world.halted = false)
    (taken : ∀ snapshot taken, next.worker = .reporting snapshot taken →
      snapshot.overflowCount = 0 → taken = []) : next.Flagged where
  running here := halted ▸ running here
  unreported some := by
    rw [unreported] at some
    rw [degraded, producer, halted]
    rcases flagged.unreported some with set | holds | halts | ended
    · exact .inl set
    · exact .inr (.inl holds)
    · rw [place.worker, calm] at halts
      cases halts
    · exact .inr (.inr (.inr ended))
  counted none := by
    rw [unreported]
    exact flagged.counted (count ▸ none)
  taken := taken

theorem addOverflow_pos (health : HealthAccumulator) (now : Int) :
    (health.addOverflow now).overflowCount ≠ 0 := by
  unfold HealthAccumulator.addOverflow maxSafeInteger
  dsimp only
  split <;> omega

theorem saturatingAdd_eq_zero {left right : Nat}
    (none : saturatingAdd left right = 0) : left = 0 ∧ right = 0 := by
  unfold saturatingAdd maxSafeInteger at none
  split at none <;> omega

/-- While a drop is counted, the sender is degraded or about to be. -/
theorem World.Flagged.moves
    (flagged : world.Flagged)
    (clearing : world.worker = .clearing →
      world.health.overflowCount = 0 ∨ world.producer = some .storing)
    (moves : Moves config world next) : next.Flagged := by
  cases moves with
  | stays => exact flagged
  | refused
  | enqueued
  | closed
  | retried => exact { flagged with }
  | overflowed free =>
      refine { flagged with unreported := ?_ }
      intro some
      rcases flagged.unreported some with set | holds | halts
      · exact .inl set
      · cases free.symm.trans holds
      · exact .inr (.inr halts)
  | read holds =>
      refine { flagged with unreported := ?_ }
      intro some
      rcases flagged.unreported some with set | other | halts
      · exact .inl set
      · cases holds.symm.trans other
      · exact .inr (.inr halts)
  | added =>
      refine { flagged with
        unreported := fun _ => .inr (.inl rfl), counted := ?_ }
      exact fun none => absurd none (addOverflow_pos _ _)
  | stored
  | marked =>
      exact { flagged with unreported := fun _ => .inl rfl }
  | selected place running count worker stopping following =>
      refine flagged.stand place rfl rfl rfl rfl rfl rfl (fun _ => running) ?_
      rcases following with rfl | rfl <;> nofun
  | finished place
  | sent place
  | abandoned place
  | refusedBatch place
  | failed place
  | delivered place
  | acknowledged place
  | reported place
  | reportedRejected place
  | unreported place =>
      exact flagged.stand place rfl rfl rfl rfl rfl rfl nofun nofun
  | unsent place free elapsed following =>
      refine flagged.stand place rfl rfl rfl rfl rfl rfl ?_ ?_
      · rcases following with rfl | rfl <;> nofun
      · rcases following with rfl | rfl <;> nofun
  | untaken place none calm following =>
      refine ⟨?_, nofun, fun _ => rfl, ?_⟩
      · rcases following with rfl | ⟨rfl, -⟩ <;> nofun
      · rcases following with rfl | ⟨rfl, -⟩ <;> nofun
  | taken =>
      refine ⟨nofun, nofun, fun _ => rfl, ?_⟩
      rintro _ _ ⟨⟩ none
      exact flagged.counted none
  | cleared place =>
      refine ⟨nofun, ?_, flagged.counted, nofun⟩
      intro some
      rcases clearing place.worker with none | holds
      · exact absurd (flagged.counted none) some
      · exact .inr (.inl holds)
  | restored place =>
      refine ⟨nofun, fun _ => .inr (.inr (.inl rfl)), ?_, nofun⟩
      intro none
      obtain ⟨here, before⟩ := saturatingAdd_eq_zero none
      rw [flagged.counted here, flagged.taken _ _ place.worker before]
      rfl
  | @rejected place flight =>
      refine ⟨?_, fun _ => .inl rfl, flagged.counted, ?_⟩
      · cases flight.batch.hasHealth <;> nofun
      · cases flight.batch.hasHealth <;> nofun
  | halting =>
      exact ⟨nofun, fun _ => .inl rfl, flagged.counted, nofun⟩
  | halted =>
      exact ⟨nofun, fun _ => .inr (.inr (.inr rfl)), flagged.counted, nofun⟩

/-! ## Losses -/

/-- A held health record accounts for losses up to this instant. -/
def World.Owes (config : Config) (world : World) (time : Int) : Prop :=
  ∃ health, OwnHealth config.epoch world.held health ∧
    time ≤ recoveryTime health

/-- What keeps a lost event out of the next marker. -/
inductive World.Accounts (config : Config) (world : World) (offer : Offer) :
    Prop where
  | past (before : offer.time ≤ world.coverage.start)
  | reading (holds : world.producer = some (.reading offer))
  | adding (now : Int) (holds : world.producer = some (.adding offer now))
  | counted (member : offer ∈ world.unreported)
  | taken (member : offer ∈ world.worker.taken)
  | owed (owes : world.Owes config offer.time)
  | rejected (reports : world.worker.owesRejection = true)
  | halting (halts : world.worker.halts = true)
  | halted (ended : world.halted = true)

/-- What is known of the sender between two steps. -/
structure World.Sound (config : Config) (world : World) : Prop where
  ordered : world.toLedger.Ordered config
  attested : world.toLedger.Attested
  flagged : world.Flagged
  positive : 0 ≤ world.clock ∧ 0 ≤ world.coverage.start
  offers : ∀ entry ∈ world.offers, entry.time ≤ world.clock
  health : ∀ health, OwnHealth config.epoch world.held health →
    0 ≤ recoveryTime health
  guarded : ∀ offer ∈ world.lost, world.Accounts config offer

theorem World.Owes.subset
    {time : Int} (owes : world.Owes config time)
    (held : ∀ record ∈ world.held, record ∈ next.held) :
    next.Owes config time := by
  obtain ⟨health, own, before⟩ := owes
  exact ⟨health, ⟨held _ own.1, own.2⟩, before⟩

/-- A step of the worker. -/
theorem World.Accounts.stand
    (accounts : world.Accounts config offer) {worker : Worker}
    (place : world.At worker)
    (start : world.coverage.start ≤ next.coverage.start)
    (producer : next.producer = world.producer)
    (halted : next.halted = world.halted)
    (counted : offer ∈ world.unreported → next.Accounts config offer)
    (taken : offer ∈ worker.taken → next.Accounts config offer)
    (rejected : worker.owesRejection = true → next.Accounts config offer)
    (halting : worker.halts = true → next.Accounts config offer)
    (owed : world.Owes config offer.time → next.Accounts config offer) :
    next.Accounts config offer := by
  cases accounts with
  | past before => exact .past (before.trans start)
  | reading holds => exact .reading (producer.trans holds)
  | adding now holds => exact .adding now (producer.trans holds)
  | counted member => exact counted member
  | taken member => exact taken (place.worker ▸ member)
  | owed owes => exact owed owes
  | rejected reports => exact rejected (place.worker ▸ reports)
  | halting halts => exact halting (place.worker ▸ halts)
  | halted ended => exact .halted (halted.trans ended)

/-- A step of a producer. -/
theorem World.Accounts.share
    (accounts : world.Accounts config offer)
    (start : next.coverage.start = world.coverage.start)
    (worker : next.worker = world.worker)
    (halted : next.halted = world.halted)
    (held : ∀ record ∈ world.held, record ∈ next.held)
    (reading : world.producer = some (.reading offer) →
      next.Accounts config offer)
    (adding : ∀ now, world.producer = some (.adding offer now) →
      next.Accounts config offer)
    (unreported : ∀ other ∈ world.unreported, other ∈ next.unreported) :
    next.Accounts config offer := by
  cases accounts with
  | past before => exact .past (start ▸ before)
  | reading holds => exact reading holds
  | adding now holds => exact adding now holds
  | counted member => exact .counted (unreported _ member)
  | taken member => exact .taken (worker ▸ member)
  | owed owes => exact .owed (owes.subset held)
  | rejected reports => exact .rejected (worker ▸ reports)
  | halting halts => exact .halting (worker ▸ halts)
  | halted ended => exact .halted (halted.trans ended)

section Acknowledged

variable {flight : Flight} {ledger : Ledger}

/-- The ledger after an acknowledged batch. -/
def World.Acknowledges (config : Config) (world : World) (flight : Flight)
    (ledger : Ledger) : Prop :=
  ledger = if flight.batch.hasHealth then
      (world.resolve flight true).reset config flight.batch
    else world.resolve flight true

theorem World.Acknowledges.held
    (resets : world.Acknowledges config flight ledger) :
    ledger.held = world.pending.drop flight.count ++ world.queue := by
  rw [resets]
  split <;> rfl

/-- An acknowledged batch does not move the start back. -/
theorem World.Sound.start_acknowledged
    (sound : world.Sound config) (steady : world.Steady config)
    (place : world.At .acknowledged) (flying : world.flight = some flight)
    (resets : world.Acknowledges config flight ledger) :
    world.coverage.start ≤ ledger.coverage.start := by
  rw [resets]
  split
  next health =>
    have plain := (sound.ordered.flying flight flying).plain health
    refine (steady.resetting flight place.worker flying health).trans_eq ?_
    simp [Ledger.reset, Ledger.resolve, commitCoverage, plain]
  · exact sound.ordered.resolve_start flying true

/-- An acknowledged batch accounts for what its health records report. -/
theorem World.Sound.owes_acknowledged
    (sound : world.Sound config) (flying : world.flight = some flight)
    (resets : world.Acknowledges config flight ledger) {time : Int}
    (owes : world.Owes config time) :
    time ≤ ledger.coverage.start ∨ ∃ health,
      OwnHealth config.epoch ledger.held health ∧
        time ≤ recoveryTime health := by
  have ready := sound.ordered.flying flight flying
  obtain ⟨health, ⟨member, epoch⟩, before⟩ := owes
  rw [Ledger.held, ← List.take_append_drop flight.count world.pending,
    List.append_assoc, List.mem_append] at member
  rcases member with sent | waiting
  · have some : flight.batch.hasHealth = true := by
      rw [ready.sealed.health]
      exact List.any_eq_true.mpr ⟨_, sent, rfl⟩
    have plain := ready.plain some
    have records := (ready.sealed.plain plain).2.2
    refine .inl (before.trans ?_)
    rw [resets, if_pos some]
    refine recoveryTime_le_reset ?_ ?_ ⟨records ▸ sent, epoch⟩
    · rintro other ⟨among, own⟩
      rw [records] at among
      exact sound.health other
        ⟨List.mem_append_left _ (List.mem_of_mem_take among), own⟩
    · exact sound.positive.2.trans (sound.ordered.resolve_start flying true)
  · rw [← resets.held] at waiting
    exact .inr ⟨health, ⟨waiting, epoch⟩, before⟩

end Acknowledged

variable {records : List SourceHealth}

/-- The worker has reported everything that it has taken. -/
theorem World.owes_report
    {health : SourceHealth} {elapsed : Nat}
    (member : health ∈ records) (epoch : health.affectedSenderEpoch =
      config.epoch)
    {time : Int} (before : time ≤ recoveryTime health) :
    World.Owes config
      { world with
        toLedger := (world.later elapsed).report records
        worker := .selecting } time := by
  refine ⟨health, ⟨List.mem_append_left _ (List.mem_append_left _ ?_), epoch⟩,
    before⟩
  exact List.mem_map_of_mem member

/-- A report always ends in a record of the recovery. -/
theorem HealthAccumulator.Reported.exists_record
    {snapshot : HealthAccumulator} {ended : Int}
    (reported : snapshot.Reported config ended records) :
    ∃ health, health ∈ records := by
  have told := congrArg List.length reported.told
  refine List.exists_mem_of_length_pos ?_
  simp only [List.length_map, HealthAccumulator.notices, List.length_append,
    List.length_singleton] at told
  omega

theorem mem_report_held
    {elapsed : Nat} :
    ∀ record ∈ world.held,
      record ∈ ((world.later elapsed).report records).held := by
  intro record member
  change record ∈ records.map EventRecord.sourceHealth ++ world.pending ++
    world.queue
  rw [List.append_assoc]
  exact List.mem_append_right _ member

/-- Nothing that was accounted for is forgotten. -/
theorem World.Accounts.moves
    (accounts : world.Accounts config offer) (sound : world.Sound config)
    (steady : world.Steady config) (late : offer.time ≤ world.clock)
    (moves : Moves config world next) : next.Accounts config offer := by
  have flagged := sound.flagged
  cases moves with
  | stays => exact accounts
  | refused
  | closed
  | marked =>
      exact accounts.share rfl rfl rfl (fun _ => id) (.reading ·) (.adding · ·)
        (fun _ => id)
  | enqueued =>
      refine accounts.share rfl rfl rfl ?_ (.reading ·) (.adding · ·) (fun _ => id)
      intro record member
      rw [enqueue_held]
      exact List.mem_append_left _ member
  | overflowed free =>
      refine accounts.share rfl rfl rfl (fun _ => id) ?_ ?_ (fun _ => id)
      · intro holds
        cases free.symm.trans holds
      · intro now holds
        cases free.symm.trans holds
  | read holds =>
      refine accounts.share rfl rfl rfl (fun _ => id) ?_ ?_ (fun _ => id)
      · intro same
        cases holds.symm.trans same
        exact .adding _ rfl
      · intro now other
        cases holds.symm.trans other
  | added holds =>
      refine accounts.share rfl rfl rfl (fun _ => id) ?_ ?_ ?_
      · intro other
        cases holds.symm.trans other
      · intro now same
        cases holds.symm.trans same
        exact .counted (List.mem_append_right _ List.mem_cons_self)
      · exact fun _ member => List.mem_append_left _ member
  | stored holds =>
      refine accounts.share rfl rfl rfl (fun _ => id) ?_ ?_ (fun _ => id)
      · intro other
        cases holds.symm.trans other
      · intro now other
        cases holds.symm.trans other
  | selected place =>
      refine accounts.stand place (Int.le_refl _) rfl rfl (.counted ·) nofun nofun
        nofun fun owes => .owed (owes.subset ?_)
      rw [receive_held]
      exact fun _ => id
  | finished place
  | abandoned place
  | cleared place =>
      exact accounts.stand place (Int.le_refl _) rfl rfl (.counted ·) nofun nofun
        nofun fun owes => .owed (owes.subset fun _ => id)
  | unsent place
  | sent place =>
      refine accounts.stand place (Int.le_refl _) rfl rfl (.counted ·) nofun nofun
        nofun fun owes => .owed (owes.subset ?_)
      exact fun _ member => (receive_held world.toLedger _).symm ▸ member
  | retried place flying tries =>
      rcases tries with rfl | rfl <;>
        exact accounts.share rfl rfl rfl (fun _ => id) (.reading ·) (.adding · ·)
          (fun _ => id)
  | refusedBatch place flying tries
  | delivered place flying tries =>
      rcases tries with rfl | rfl <;>
        exact accounts.stand place (Int.le_refl _) rfl rfl (.counted ·) nofun nofun
          nofun fun owes => .owed (owes.subset fun _ => id)
  | failed
  | restored
  | unreported
  | halting => exact .halting rfl
  | acknowledged place flying resets =>
      refine accounts.stand place
        (sound.start_acknowledged steady place flying resets) rfl rfl
        (.counted ·) nofun nofun nofun ?_
      intro owes
      rcases sound.owes_acknowledged flying resets owes with before | waiting
      · exact .past before
      · exact .owed waiting
  | untaken place none =>
      refine accounts.stand place (Int.le_refl _) rfl rfl ?_ nofun nofun nofun
        fun owes => .owed (owes.subset fun _ => id)
      intro member
      rw [flagged.counted none] at member
      cases member
  | taken place =>
      exact accounts.stand place (Int.le_refl _) rfl rfl (.taken ·) nofun nofun
        nofun fun owes => .owed (owes.subset fun _ => id)
  | reported place built =>
      refine accounts.stand place (Int.le_refl _) rfl rfl (.counted ·) ?_ nofun
        nofun fun owes => .owed (owes.subset mem_report_held)
      intro _
      obtain ⟨health, member⟩ := built.exists_record
      obtain ⟨-, epoch, time⟩ := built.own health member
      exact .owed (owes_report member epoch (late.trans time.ge))
  | @rejected place flight =>
      cases health : flight.batch.hasHealth with
      | true => exact .halting rfl
      | false => exact .rejected rfl
  | reportedRejected place built =>
      obtain ⟨-, epoch, after, -⟩ :=
        rejectedBatchEvent_fresh built _ List.mem_cons_self
      refine accounts.stand place (Int.le_refl _) rfl rfl (.counted ·) nofun ?_
        nofun fun owes => .owed (owes.subset mem_report_held)
      intro _
      exact .owed (owes_report List.mem_cons_self epoch (late.trans after))
  | halted => exact .halted rfl

/-- Events are lost by an overflow or with a rejected batch. -/
theorem lost_moves
    (moves : Moves config world next) (member : offer ∈ next.lost) :
    offer ∈ world.lost ∨ next.Accounts config offer := by
  cases moves with
  | @refused valid serving late =>
      rcases world.lost_log (world.offer valid serving .dropped) offer
        member with old | ⟨overflowed, -⟩
      · exact .inl old
      · rcases late with rfl | rfl <;>
          simp [Offered.overflowed, Ledger.offer] at overflowed
  | @enqueued result accepted =>
      rcases world.lost_log (world.offer true true result) offer
        member with old | ⟨overflowed, -⟩
      · exact .inl old
      · simp [Offered.overflowed, Ledger.offer, accepted] at overflowed
  | overflowed =>
      rcases world.lost_log (world.offer true true .dropped) offer
        member with old | ⟨-, rfl⟩
      · exact .inl old
      · exact .inr (.reading rfl)
  | @rejected place flight =>
      cases health : flight.batch.hasHealth with
      | true => exact .inr (.halting rfl)
      | false => exact .inr (.rejected rfl)
  | @acknowledged place flight flying ledger resets =>
      have same : ledger.lost = (world.resolve flight true).lost := by
        rw [resets]
        split <;> rfl
      exact .inl ((same.trans (Ledger.resolve_lost flight)) ▸ member)
  | retried place flying tries
  | refusedBatch place flying tries
  | failed place flying tries
  | delivered place flying tries =>
      rcases tries with rfl | rfl <;> exact .inl member
  | _ => exact .inl member

/-- When the worker may attach a marker, everything lost lies before it. -/
theorem World.Sound.truthful
    (sound : world.Sound config) (place : world.At .flushing)
    (free : world.producer = none) (elapsed : Nat) (flight : Flight)
    (ready : Launchable config (world.cut.later elapsed) flight)
    (covering : flight.batch.hasCoverage = true → world.degraded = false) :
    Truthful (world.cut.later elapsed) flight := by
  intro covers offer member
  have healthy := covering covers
  have running := sound.flagged.running place.worker
  have impossible : ∀ {worker}, world.worker = worker → worker = .flushing :=
    fun here => here.symm.trans place.worker
  cases sound.guarded offer member with
  | past before => exact before
  | reading holds => cases free.symm.trans holds
  | adding now holds => cases free.symm.trans holds
  | counted member =>
      rcases sound.flagged.unreported (List.ne_nil_of_mem member) with
        set | holds | halts | ended
      · cases healthy.symm.trans set
      · cases free.symm.trans holds
      · rw [place.worker] at halts
        cases halts
      · cases running.symm.trans ended
  | taken member =>
      rw [place.worker] at member
      cases member
  | owed owes =>
      obtain ⟨health, own, -⟩ := owes
      have none : containsSourceHealth world.cut.pending = false :=
        (ready.covering covers).2
      have all : world.cut.pending = world.held := by
        simp [Ledger.cut, Ledger.receive, Ledger.held]
      rw [all] at none
      exact absurd rfl (List.any_eq_false.mp none _ own.1)
  | rejected reports =>
      rw [place.worker] at reports
      cases reports
  | halting halts =>
      rw [place.worker] at halts
      cases halts
  | halted ended => cases running.symm.trans ended

/-- The coverage does not move back. -/
theorem World.Sound.start_moves
    (sound : world.Sound config) (steady : world.Steady config)
    (moves : Moves config world next) :
    world.coverage.start ≤ next.coverage.start := by
  cases moves with
  | acknowledged place flying resets =>
      exact sound.start_acknowledged steady place flying resets
  | rejected place flying => exact sound.ordered.resolve_start flying false
  | retried place flying tries
  | refusedBatch place flying tries
  | failed place flying tries
  | delivered place flying tries =>
      rcases tries with rfl | rfl <;> exact Int.le_refl _
  | _ => exact Int.le_refl _

theorem World.Sound.wait (sound : world.Sound config) (elapsed : Nat) :
    (world.wait elapsed).Sound config := by
  have passed : world.clock ≤ (world.wait elapsed).clock :=
    Int.le_add_of_nonneg_right (Int.natCast_nonneg _)
  obtain ⟨ordered, attested⟩ := DeliversAll.attested
    (.single (.later world.toLedger elapsed)) sound.ordered sound.attested
  refine ⟨ordered, attested, { sound.flagged with },
    ⟨sound.positive.1.trans passed, sound.positive.2⟩,
    fun entry member => (sound.offers entry member).trans passed,
    sound.health, ?_⟩
  intro offer member
  exact (sound.guarded offer member).share rfl rfl rfl (fun _ => id)
    (.reading ·) (.adding · ·) (fun _ => id)

theorem World.Sound.moves
    (sound : world.Sound config) (controlled : world.Controlled)
    (steady : world.Steady config) (moves : Moves config world next) :
    next.Sound config := by
  have delivers : DeliversAll config Truthful world.toLedger next.toLedger :=
    controlled.delivers moves fun _ _ place free =>
      sound.truthful place free _ _
  obtain ⟨ordered, attested⟩ := delivers.attested sound.ordered sound.attested
  have follows := delivers.follows
  refine ⟨ordered, attested, sound.flagged.moves steady.clearing moves,
    ⟨sound.positive.1.trans follows.clock,
      sound.positive.2.trans (sound.start_moves steady moves)⟩, ?_, ?_, ?_⟩
  · intro entry member
    rcases follows.offers entry member with old | ⟨-, before⟩
    · exact (sound.offers entry old).trans follows.clock
    · exact before
  · intro record own
    rcases follows.health record own.1 with old | ⟨-, after, -⟩
    · exact sound.health record ⟨old, own.2⟩
    · exact sound.positive.1.trans after
  · intro offer member
    rcases lost_moves moves member with old | new
    · exact (sound.guarded offer old).moves sound steady
        (sound.ordered.lost_le sound.offers offer old) moves
    · exact new

theorem new_sound
    {clock : Int} {previous : Option Bytes} {reading : Reading} {stored : Bool}
    (positive : 0 ≤ clock)
    (started : new config clock previous reading stored = some world) :
    world.Sound config := by
  have initial := (new_controlled started).2
  obtain ⟨coverage, start, -, rest⟩ := new_eq_some started
  have zero : 0 ≤ coverage.start := by
    rw [start]
    exact positive.trans (le_coverageStartTime clock)
  have passed : clock ≤ clock + reading.elapsed :=
    Int.le_add_of_nonneg_right (Int.natCast_nonneg _)
  have empty : ∀ offer ∈ world.lost, world.Accounts config offer := by
    intro offer member
    rw [Ledger.lost, initial.offers, Ledger.rejected, initial.resolved]
      at member
    cases member
  rcases rest with rfl | ⟨health, epoch, -, built, rfl⟩
  · refine ⟨initial.ordered, initial.attested, ⟨(by simp), (by simp), fun _ => rfl, (by simp)⟩,
      ⟨positive, zero⟩, (by simp), ?_, empty⟩
    rintro health ⟨⟨⟩, -⟩
  · refine ⟨initial.ordered, initial.attested, ⟨(by simp), (by simp), fun _ => rfl, (by simp)⟩,
      ⟨positive.trans passed, zero⟩, (by simp), ?_, empty⟩
    rintro other ⟨member, -⟩
    cases List.mem_singleton.mp member
    obtain ⟨-, -, -, -, -, time⟩ := sourceHealth_eq_some built
    exact (positive.trans passed).trans_eq time.symm

/-- If the flag is never cleared while a drop is counted, and no acknowledged
health record moves the coverage back, then every acknowledged marker covers its
interval: each valid event offered before `Close` and before a halt strictly
inside was accepted and is in an acknowledged batch of the same epoch, not after
the marker, and no lost event lies inside. -/
theorem auth_markers_cover
    (config : Config) (clock : Int) (previous : Option Bytes)
    (reading : Reading) (stored : Bool) (world : World) (steps : List Step)
    (positive : 0 ≤ clock)
    (started : new config clock previous reading stored = some world)
    (steady : Permitted config (World.Steady config) world steps) :
    ∀ marker ∈ (run config world steps).markers,
      (run config world steps).Covers (run config world steps).acknowledged
        marker := by
  have sound := (run_keeps (motive := World.Sound config)
    (fun _ elapsed sound => sound.wait elapsed)
    (fun _ _ allowed controlled sound moved =>
      sound.moves controlled allowed moved) steady
    (new_controlled started).1 (new_sound positive started)).2
  intro marker member
  exact (sound.attested.acknowledged marker member).toCovers

instance (config : Config) (world : World) :
    Decidable (world.Steady config) :=
  decidable_of_iff
    ((match world.worker with
        | .clearing => decide (world.health.overflowCount = 0 ∨
            world.producer = some .storing)
        | _ => true) = true ∧
      (match world.worker, world.flight with
        | .acknowledged, some flight => decide (flight.batch.hasHealth = true →
            world.coverage.start ≤ (resetCoverageAfterHealth config
              world.coverage flight.batch).start)
        | _, _ => true) = true) <| by
    constructor
    · rintro ⟨clearing, resetting⟩
      refine ⟨?_, ?_⟩
      · intro here
        rw [here] at clearing
        exact of_decide_eq_true clearing
      · intro flight here found
        rw [here, found] at resetting
        exact of_decide_eq_true resetting
    · rintro ⟨clearing, resetting⟩
      refine ⟨?_, ?_⟩
      · split
        next here => exact decide_eq_true (clearing here)
        · rfl
      · split
        next flight here found =>
          exact decide_eq_true (resetting flight here found)
        · rfl

/-- A start after a clean shutdown, and one after a process whose checkpoint was
not clean. -/
def sampleStart (config : Config) (previous : Option Bytes) : Option World :=
  new config sampleClock previous (sampleReading 800) true

def samplePreviousEpoch : Bytes := ascii "BBBBBBBBBBBBBBBBBBBBBA"

/-- A flush whose batch is acknowledged. -/
def flushScript (config : Config) (number : Nat) : List (World → Step) :=
  [fun _ => ⟨1000000, .select .tick⟩,
    fun _ => ⟨0, .flush [sampleReading number]⟩,
    fun world => ⟨1000000, .deliver (world.receipt config)⟩,
    fun _ => ⟨0, .work []⟩,
    fun _ => ⟨0, .work []⟩]

def coveringScript (config : Config) : List (World → Step) :=
  (fun _ => ⟨5000000, .offer true⟩) :: flushScript config 801

theorem auth_coveringScript_covers :
    let config := sampleConfig .auth 2 2
    ∃ world, sampleStart config none = some world ∧
      let final := run config world
        (play (World.step config) world (coveringScript config))
      final.markers.length = 1 ∧
        ∀ marker ∈ final.markers, final.Covers final.acknowledged marker := by
  intro config
  have checked : (sampleStart config none).any (fun world =>
      let steps := play (World.step config) world (coveringScript config)
      decide (Permitted config (World.Steady config) world steps) &&
        decide ((run config world steps).markers.length = 1)) = true := by
    rw [show config = config.swift from Config.eq_swift rfl]
    decide +kernel
  obtain ⟨world, started, held⟩ := (Option.any_eq_true _ _).mp checked
  simp only [Bool.and_eq_true, decide_eq_true_eq] at held
  exact ⟨world, started, held.2, auth_markers_cover config sampleClock none
    (sampleReading 800) true world _ (by decide) started held.1⟩

/-- With one record to a batch the two records of an outage are sent apart.  An
event is dropped between them; its records are sent first, so that the last
record of the outage moves the coverage back before the drop. -/
def setbackScript (config : Config) : List (World → Step) :=
  [fun _ => ⟨1000000, .select .tick⟩,
    fun _ => ⟨0, .flush [sampleReading 801]⟩,
    fun _ => ⟨1000000, .deliver .networkError⟩,
    fun _ => ⟨0, .work []⟩,
    fun world => ⟨1000000, .deliver (world.receipt config)⟩,
    fun _ => ⟨0, .work []⟩,
    fun _ => ⟨0, .work []⟩,
    fun _ => ⟨0, .work [sampleReading 802, sampleReading 803]⟩,
    fun _ => ⟨1000000, .select .tick⟩,
    fun _ => ⟨0, .flush [sampleReading 804]⟩,
    fun _ => ⟨1000000, .offer true⟩,
    fun _ => ⟨1000000, .offer true⟩,
    fun _ => ⟨0, .recordOverflow⟩,
    fun _ => ⟨0, .recordOverflow⟩,
    fun _ => ⟨0, .recordOverflow⟩,
    fun world => ⟨1000000, .deliver (world.receipt config)⟩,
    fun _ => ⟨0, .work []⟩,
    fun _ => ⟨0, .work []⟩,
    fun _ => ⟨0, .work [sampleReading 805, sampleReading 806]⟩] ++
  flushScript config 807 ++ flushScript config 808 ++
  flushScript config 809 ++ [fun _ => ⟨0, .work []⟩] ++
  flushScript config 810 ++ flushScript config 811

theorem auth_dropped_event_covered :
    let config := sampleConfig .auth 1 1
    ∃ world, sampleStart config (some samplePreviousEpoch) = some world ∧
      let final := run config world
        (play (World.step config) world (setbackScript config))
      ∃ marker ∈ final.markers, ∃ offer ∈ final.lost,
        Inside marker offer.time := by
  intro config
  have checked : (sampleStart config (some samplePreviousEpoch)).any
      (fun world =>
        let final := run config world
          (play (World.step config) world (setbackScript config))
        final.markers.any fun marker => final.lost.any fun offer =>
          decide (marker.coverageStart < offer.time ∧
            offer.time < marker.coverageEnd)) = true := by
    rw [show config = config.swift from Config.eq_swift rfl]
    decide +kernel
  obtain ⟨world, started, held⟩ := (Option.any_eq_true _ _).mp checked
  refine ⟨world, started, ?_⟩
  obtain ⟨marker, acknowledged, some⟩ := List.any_eq_true.mp held
  obtain ⟨offer, lost, inside⟩ := List.any_eq_true.mp some
  have strictly : marker.coverageStart < offer.time ∧
      offer.time < marker.coverageEnd := of_decide_eq_true inside
  exact ⟨marker, acknowledged, offer, lost, strictly⟩

end SentinelFlow.AuthSender
