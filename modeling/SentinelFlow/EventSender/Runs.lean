import SentinelFlow.EventSender.Worker
import SentinelFlow.GoLib.Runs

/-!
# Runs of the gateway event sender

Where the worker stands agrees with the batch in flight, and every step of the
machine is a sequence of changes that the ledger permits.
-/

namespace SentinelFlow.EventSender

open GoLib Events Delivery

/-- The worker has a batch in flight. -/
def Worker.flies : Worker → Bool
  | .sending => true
  | .acknowledged => true
  | .rejecting => true
  | _ => false

structure World.Controlled (world : World) : Prop where
  flight : world.flight.isSome = world.worker.flies
  clearing : ∀ current, world.worker = .clearing current →
    world.resolved.getLast? = some ⟨current, true⟩
  stopped : world.stopping = true → world.closed = true ∧ world.queue = []
  free : world.closed = true → world.producer = none

variable {config : Config} {action : Action} {world next : World}
  {permit : Ledger → Flight → Prop}

theorem World.Controlled.idle
    (controlled : world.Controlled) {worker : Worker}
    (place : world.At worker) (grounded : worker.flies = false) :
    world.flight = none := by
  have flight := controlled.flight
  rw [place.worker, grounded] at flight
  exact Option.isSome_eq_false_iff.mp flight |> Option.isNone_iff_eq_none.mp

variable {stored : Bool} {clock : Int} {previous : Option Bytes}
  {reading : Reading} {health : SourceHealth}

theorem takenHealthEvent_eq_some
    {dropped : UInt64} {started now : Int}
    (built : takenHealthEvent config dropped started now reading =
      some health) :
    HealthOf config health ∧ health.affectedSenderEpoch = config.epoch ∧
      recoveryTime health = now ∧
      (dropped ≠ 0 → health.cause = .queueOverflow ∧
        health.droppedCount = dropped.toNat) := by
  unfold takenHealthEvent at built
  dsimp only at built
  split at built
  · obtain ⟨valid, cause, epoch, -, count, time⟩ := sourceHealth_eq_some built
    exact ⟨valid, epoch, time, fun _ => ⟨cause, count⟩⟩
  next none =>
    obtain ⟨valid, -, epoch, -, -, time⟩ := sourceHealth_eq_some built
    refine ⟨valid, epoch, time, ?_⟩
    intro some
    exact absurd (UInt64.pos_iff_ne_zero.mpr some) none

/-- What a health record of the worker says about time. -/
structure Timely (config : Config) (world : World) (reading : Reading)
    (health : SourceHealth) : Prop where
  valid : HealthOf config health
  epoch : health.affectedSenderEpoch = config.epoch
  late : world.clock ≤ recoveryTime health
  early : recoveryTime health ≤ world.clock + reading.elapsed

theorem timely_taken
    {dropped : UInt64} {started : Int}
    (built : takenHealthEvent config dropped started world.clock reading =
      some health) : Timely config world reading health := by
  obtain ⟨valid, epoch, time, -⟩ := takenHealthEvent_eq_some built
  exact ⟨valid, epoch, time.ge, by omega⟩

theorem timely_rejected
    {sequence count : Nat}
    (built : rejectedBatchEvent config sequence count reading world.clock =
      some health) : Timely config world reading health := by
  obtain ⟨valid, -, epoch, -, -, time⟩ := sourceHealth_eq_some built
  have time : recoveryTime health = world.clock + reading.elapsed := time
  exact ⟨valid, epoch, by omega, time.le⟩

theorem delivers_report
    (idle : world.flight = none) {health : Option SourceHealth}
    (timely : ∀ record, health = some record →
      Timely config world reading record) :
    DeliversAll config permit world.toLedger
      (world.report reading health).toLedger := by
  refine .single (.reported _ idle ?_)
  intro record member
  have facts := timely record (Option.mem_toList.mp member)
  exact ⟨facts.valid, facts.epoch, facts.late, facts.early⟩

/-- Every step is a sequence of changes to the ledger. -/
theorem World.Controlled.delivers
    (controlled : world.Controlled) (moves : Moves config action world next)
    (permitted : ∀ elapsed flight, world.At .flushing →
      world.producer = none →
      Launchable config (world.cut.later elapsed) flight →
      (flight.batch.hasCoverage = true → world.degraded = false) →
        permit (world.cut.later elapsed) flight) :
    DeliversAll config permit world.toLedger next.toLedger := by
  cases moves with
  | stays
  | added
  | stored
  | released
  | closed
  | finished
  | marked
  | counted
  | untaken
  | taken => exact .refl
  | refused
  | overflowed => exact .single (.dropped _ _ _)
  | enqueued accepted => exact .single (.enqueued _ accepted)
  | selected place =>
      exact .single (.received _ _ (controlled.idle place rfl))
  | unsent place =>
      have idle := controlled.idle place rfl
      exact .tail (.single (.received _ _ idle)) (.later _ _)
  | sent place free ready generation covering =>
      have idle := controlled.idle place rfl
      refine .tail (.tail (.single (.received _ _ idle)) (.later _ _))
        (.launched _ idle ?_ ready
          (permitted _ _ place free ready covering))
      exact List.drop_length
  | abandoned => exact .single (.abandoned _)
  | retried place flying tries
  | refusedBatch place flying tries
  | delivered place flying tries =>
      rcases tries with rfl | rfl
      · exact .refl
      · exact .single (.attempted _ flying)
  | confirmed place flying
  | passed place flying
  | rejected place flying => exact .single (.resolved _ flying _)
  | cleared place =>
      exact .single (.reset _ (controlled.idle place rfl)
        (controlled.clearing _ place.worker))
  | reported place =>
      exact delivers_report (controlled.idle place rfl)
        fun _ built => timely_taken built
  | reportedRejected place =>
      exact delivers_report (controlled.idle place rfl)
        fun _ built => timely_rejected built

/-- A step of the worker that may move it to another place. -/
theorem World.Controlled.stand
    (controlled : world.Controlled) (closed : next.closed = world.closed)
    (producer : next.producer = world.producer)
    (stopping : next.stopping = world.stopping)
    (queue : world.queue = [] → next.queue = [])
    (flight : next.flight.isSome = next.worker.flies)
    (clearing : ∀ current, next.worker = .clearing current →
      next.resolved.getLast? = some ⟨current, true⟩) : next.Controlled where
  flight := flight
  clearing := clearing
  stopped stops := by
    rw [stopping] at stops
    rw [closed]
    exact ⟨(controlled.stopped stops).1, queue (controlled.stopped stops).2⟩
  free closes := by
    rw [closed] at closes
    rw [producer]
    exact controlled.free closes

/-- Where the worker stands agrees with the ledger after every step. -/
theorem World.Controlled.moves
    (controlled : world.Controlled) (moves : Moves config action world next) :
    next.Controlled := by
  cases moves with
  | stays => exact controlled
  | refused
  | marked
  | counted => exact { controlled with }
  | enqueued accepted free serving =>
      refine { controlled with stopped := ?_ }
      intro stopping
      have closed := (controlled.stopped stopping).1
      rw [serving] at closed
      cases closed
  | overflowed free serving =>
      refine { controlled with free := ?_ }
      intro closed
      rw [serving] at closed
      cases closed
  | added holds
  | stored holds =>
      refine { controlled with free := ?_ }
      intro closed
      rw [controlled.free closed] at holds
      cases holds
  | released => exact { controlled with free := fun _ => rfl }
  | closed free =>
      refine { controlled with stopped := ?_, free := fun _ => free }
      intro stopping
      exact ⟨rfl, (controlled.stopped stopping).2⟩
  | selected place count worker stopping following stops =>
      refine { controlled with
        flight := ?_, clearing := ?_, stopped := ?_ }
      · have grounded : worker.flies = false := by
          rcases following with rfl | rfl <;> rfl
        exact (congrArg Option.isSome (controlled.idle place rfl)).trans
          grounded.symm
      · intro current here
        rcases following with rfl | rfl <;> cases here
      · intro stopped
        obtain ⟨closed, all⟩ := stops stopped
        refine ⟨closed, ?_⟩
        cases running : world.stopping with
        | false =>
            rw [all running]
            exact List.drop_length
        | true =>
            change world.queue.drop count = []
            rw [(controlled.stopped running).2, List.drop_nil]
  | finished place
  | cleared place
  | untaken place
  | taken place
  | reported place
  | reportedRejected place =>
      have idle := controlled.idle place rfl
      exact controlled.stand rfl rfl rfl id (congrArg Option.isSome idle)
        (by rintro _ ⟨⟩)
  | unsent place =>
      have idle := controlled.idle place rfl
      exact controlled.stand rfl rfl rfl (fun _ => List.drop_length)
        (congrArg Option.isSome idle) (by rintro _ ⟨⟩)
  | sent =>
      exact controlled.stand rfl rfl rfl (fun _ => List.drop_length) rfl
        (by rintro _ ⟨⟩)
  | abandoned
  | passed =>
      exact controlled.stand rfl rfl rfl id rfl (by rintro _ ⟨⟩)
  | retried place flying tries =>
      refine controlled.stand rfl rfl rfl tries.queue.trans ?_ ?_
      · exact (congrArg Option.isSome tries.flight).trans controlled.flight
      · intro current here
        cases place.worker.symm.trans here
  | refusedBatch place flying tries
  | delivered place flying tries =>
      exact controlled.stand rfl rfl rfl tries.queue.trans
        (congrArg Option.isSome (tries.flight.trans flying)) (by rintro _ ⟨⟩)
  | confirmed =>
      refine controlled.stand rfl rfl rfl id rfl ?_
      rintro _ ⟨⟩
      exact List.getLast?_concat
  | @rejected _ flight =>
      refine controlled.stand rfl rfl rfl id ?_ ?_
      · cases health : flight.batch.hasHealth <;>
          simp [Worker.flies, Ledger.resolve]
      · intro current
        cases health : flight.batch.hasHealth <;> simp

/-! ## Whole runs -/

theorem World.Controlled.wait
    (controlled : world.Controlled) (elapsed : Nat) :
    (world.wait elapsed).Controlled :=
  { controlled with }

/-- A condition on every action of a run, in the state in which it is made. -/
def Permitted (config : Config) (permitted : World → Action → Prop)
    (world : World) (steps : List Step) : Prop :=
  Along (World.step config)
    (fun world step => permitted (world.wait step.elapsed) step.action)
    world steps

instance (config : Config) (permitted : World → Action → Prop)
    [∀ world action, Decidable (permitted world action)] (world : World)
    (steps : List Step) : Decidable (Permitted config permitted world steps) :=
  inferInstanceAs (Decidable (Along _ _ _ _))

/-- What the passing of time and every permitted action keep, every permitted
run keeps. -/
theorem run_keeps
    {permitted : World → Action → Prop} {motive : World → Prop}
    (waits : ∀ world elapsed, motive world → motive (world.wait elapsed))
    (moves : ∀ world next action, permitted world action → world.Controlled →
      motive world → Moves config action world next → motive next)
    {steps : List Step} (along : Permitted config permitted world steps)
    (controlled : world.Controlled) (holds : motive world) :
    (run config world steps).Controlled ∧ motive (run config world steps) := by
  refine along.keeps (motive := fun world => world.Controlled ∧ motive world)
    ?_ ⟨controlled, holds⟩
  rintro world step allowed ⟨controlled, holds⟩
  have ready := controlled.wait step.elapsed
  have moved := act_moves config (world.wait step.elapsed) step.action
    fun stopping => (ready.stopped stopping).1
  exact ⟨ready.moves moved,
    moves _ _ _ allowed ready (waits _ _ holds) moved⟩

/-- Every run is a sequence of changes to the ledger. -/
theorem run_delivers
    (controlled : world.Controlled) (steps : List Step) :
    DeliversAll config (fun _ _ => True) world.toLedger
      (run config world steps).toLedger := by
  have along : Permitted config (fun _ _ => True) world steps :=
    along_true _ _
  refine (run_keeps (motive := fun last => DeliversAll config
    (fun _ _ => True) world.toLedger last.toLedger) ?_ ?_ along controlled
      .refl).2
  · intro world elapsed delivers
    exact delivers.tail (.later _ _)
  · intro world next action _ controlled delivers moved
    exact delivers.trans (controlled.delivers moved fun _ _ _ _ _ _ => trivial)

/-- The ledger stays in order. -/
theorem World.Controlled.ordered
    (controlled : world.Controlled) (ordered : world.toLedger.Ordered config)
    (moves : Moves config action world next) :
    next.toLedger.Ordered config := by
  have delivers : DeliversAll config (fun _ _ => True) world.toLedger
      next.toLedger :=
    controlled.delivers moves fun _ _ _ _ _ _ => trivial
  exact delivers.keeps (fun _ _ change ordered => ordered.delivers change)
    ordered

theorem ordered_wait
    (ordered : world.toLedger.Ordered config) (elapsed : Nat) :
    (world.wait elapsed).toLedger.Ordered config := by
  have change : Delivers config (fun _ _ => True) world.toLedger
      (world.wait elapsed).toLedger := .later _ _
  exact ordered.delivers change

/-- The two states in which `New` leaves a sender. -/
theorem new_eq_some
    (started : new config clock previous reading stored = some world) :
    ∃ coverage : Coverage, coverage.start = coverageStartTime clock ∧
      coverage.committed = false ∧
      (world = { clock, coverage } ∨
        ∃ health epoch, previous = some epoch ∧
          uncleanRestartEvent config epoch reading clock = some health ∧
          world =
            { clock := clock + reading.elapsed
              coverage
              degraded := true
              healthGeneration := 1
              queue := [.sourceHealth health] }) := by
  unfold new at started
  dsimp only at started
  split at started
  · split at started
    · cases started
      exact ⟨_, rfl, rfl, .inl rfl⟩
    · cases started
  next epoch =>
    split at started
    · cases started
    next health built =>
      split at started
      · cases started
        exact ⟨_, rfl, rfl, .inr ⟨health, epoch, rfl, built, rfl⟩⟩
      · cases started

/-- The first segment is that of the epoch. -/
theorem new_coverage
    (started : new config clock previous reading stored = some world) :
    world.coverage =
      { segmentID := coverageSegmentID config.crypto config.senderID
          config.epoch (ascii "epoch-start")
        start := coverageStartTime clock } := by
  unfold new at started
  dsimp only at started
  split at started
  · split at started <;> cases started
    rfl
  · split at started
    · cases started
    · split at started <;> cases started
      rfl

theorem new_controlled
    (started : new config clock previous reading stored = some world) :
    world.Controlled ∧ world.toLedger.Initial := by
  obtain ⟨coverage, -, -, rfl | ⟨health, epoch, -, -, rfl⟩⟩ :=
    new_eq_some started
  · exact ⟨⟨rfl, nofun, nofun, nofun⟩, ⟨rfl, rfl, rfl, rfl, rfl, rfl, rfl⟩⟩
  · exact ⟨⟨rfl, nofun, nofun, nofun⟩, ⟨rfl, rfl, rfl, rfl, rfl, rfl, rfl⟩⟩

end SentinelFlow.EventSender
