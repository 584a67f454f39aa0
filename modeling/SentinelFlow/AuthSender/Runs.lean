import SentinelFlow.AuthSender.Worker
import SentinelFlow.GoLib.Runs

/-!
# Runs of the authentication event sender

Where the worker stands agrees with the batch in flight, and every step of the
machine is a sequence of changes that the ledger permits.
-/

namespace SentinelFlow.AuthSender

open GoLib Events Delivery

/-- The worker has a batch in flight. -/
def Worker.flies : Worker → Bool
  | .sending => true
  | .acknowledged => true
  | .rejecting => true
  | _ => false

structure World.Controlled (world : World) : Prop where
  flight : world.flight.isSome = world.worker.flies
  stopped : world.stopping = true → world.closed = true ∧ world.queue = []
  free : world.closed = true → world.producer = none

variable {config : Config} {world next : World}
  {permit : Ledger → Flight → Prop}

theorem World.Controlled.idle
    (controlled : world.Controlled) {worker : Worker}
    (place : world.At worker) (grounded : worker.flies = false) :
    world.flight = none := by
  have flight := controlled.flight
  rw [place.worker, grounded] at flight
  exact Option.isSome_eq_false_iff.mp flight |> Option.isNone_iff_eq_none.mp

variable {stored : Bool} {clock : Int} {previous : Option Bytes}
  {reading : Reading}

theorem HealthAccumulator.Reported.fresh
    {snapshot : HealthAccumulator} {records : List SourceHealth}
    (reported : snapshot.Reported config clock records) (elapsed : Nat) :
    ∀ health ∈ records, HealthOf config health ∧
      health.affectedSenderEpoch = config.epoch ∧
      clock ≤ recoveryTime health ∧
      recoveryTime health ≤ clock + elapsed := by
  intro health member
  obtain ⟨valid, epoch, time⟩ := reported.own health member
  exact ⟨valid, epoch, time.ge, by omega⟩

theorem rejectedBatchEvent_fresh
    {sequence count : Nat} {health : SourceHealth}
    (built : rejectedBatchEvent config sequence count reading clock =
      some health) :
    ∀ record ∈ [health], HealthOf config record ∧
      record.affectedSenderEpoch = config.epoch ∧
      clock ≤ recoveryTime record ∧
      recoveryTime record ≤ clock + reading.elapsed := by
  intro record member
  cases List.mem_singleton.mp member
  obtain ⟨valid, -, epoch, -, -, time⟩ := sourceHealth_eq_some built
  have time : recoveryTime health = clock + reading.elapsed := time
  exact ⟨valid, epoch, by omega, time.le⟩

/-- Every step is a sequence of changes to the ledger. -/
theorem World.Controlled.delivers
    (controlled : world.Controlled) (moves : Moves config world next)
    (permitted : ∀ elapsed flight, world.At .flushing →
      world.producer = none →
      Launchable config (world.cut.later elapsed) flight →
      (flight.batch.hasCoverage = true → world.degraded = false) →
        permit (world.cut.later elapsed) flight) :
    DeliversAll config permit world.toLedger next.toLedger := by
  cases moves with
  | stays
  | read
  | added
  | stored
  | closed
  | finished
  | marked
  | untaken
  | taken
  | cleared
  | halting
  | halted => exact .refl
  | refused
  | overflowed => exact .single (.dropped _ _ _)
  | enqueued accepted => exact .single (.enqueued _ accepted)
  | selected place =>
      exact .single (.received _ _ (controlled.idle place rfl))
  | unsent place =>
      have idle := controlled.idle place rfl
      exact .tail (.single (.received _ _ idle)) (.later _ _)
  | sent place free ready covering =>
      have idle := controlled.idle place rfl
      refine .tail (.tail (.single (.received _ _ idle)) (.later _ _))
        (.launched _ idle ?_ ready (permitted _ _ place free ready covering))
      exact List.drop_length
  | abandoned => exact .single (.abandoned _)
  | retried place flying tries
  | refusedBatch place flying tries
  | delivered place flying tries =>
      rcases tries with rfl | rfl
      · exact .refl
      · exact .single (.attempted _ flying)
  | failed place flying tries =>
      rcases tries with rfl | rfl
      · exact .single (.abandoned _)
      · exact .tail (.single (.attempted _ flying)) (.abandoned _)
  | @acknowledged place flight flying ledger resets =>
      have resolved : DeliversAll config permit world.toLedger
          (world.resolve flight true) := .single (.resolved _ flying _)
      rw [resets]
      split
      · exact resolved.tail (.reset _ rfl List.getLast?_concat)
      · exact resolved
  | reported place built =>
      exact .single (.reported _ (controlled.idle place rfl) (built.fresh _))
  | restored
  | unreported => exact .single (.later _ _)
  | rejected place flying => exact .single (.resolved _ flying _)
  | reportedRejected place built =>
      exact .single (.reported _ (controlled.idle place rfl)
        (rejectedBatchEvent_fresh built))

/-- A step of the worker that may move it to another place. -/
theorem World.Controlled.stand
    (controlled : world.Controlled) (closed : next.closed = world.closed)
    (producer : next.producer = world.producer)
    (stopping : next.stopping = world.stopping)
    (queue : world.queue = [] → next.queue = [])
    (flight : next.flight.isSome = next.worker.flies) : next.Controlled where
  flight := flight
  stopped stops := by
    rw [stopping] at stops
    rw [closed]
    exact ⟨(controlled.stopped stops).1, queue (controlled.stopped stops).2⟩
  free closes := by
    rw [closed] at closes
    rw [producer]
    exact controlled.free closes

/-- Where the worker stands agrees with the ledger after every step. -/
theorem World.Controlled.moves
    (controlled : world.Controlled) (moves : Moves config world next) :
    next.Controlled := by
  have busy : ∀ {step}, world.producer = some step → world.closed ≠ true := by
    intro step holds closed
    rw [controlled.free closed] at holds
    cases holds
  cases moves with
  | stays => exact controlled
  | refused
  | marked => exact { controlled with }
  | enqueued accepted free serving =>
      refine { controlled with stopped := ?_ }
      intro stopping
      have closed := (controlled.stopped stopping).1
      rw [serving] at closed
      cases closed
  | overflowed free serving =>
      refine { controlled with free := ?_ }
      intro closed
      rw [serving] at closed
      cases closed
  | read holds
  | added holds =>
      exact { controlled with free := fun closed => absurd closed (busy holds) }
  | stored => exact { controlled with free := fun _ => rfl }
  | closed free =>
      refine { controlled with stopped := ?_, free := fun _ => free }
      intro stopping
      exact ⟨rfl, (controlled.stopped stopping).2⟩
  | selected place running count worker stopping following stops =>
      refine { controlled with flight := ?_, stopped := ?_ }
      · have grounded : worker.flies = false := by
          rcases following with rfl | rfl <;> rfl
        exact (congrArg Option.isSome (controlled.idle place rfl)).trans
          grounded.symm
      · intro stopped
        obtain ⟨closed, all⟩ := stops stopped
        refine ⟨closed, ?_⟩
        cases running : world.stopping with
        | false =>
            rw [all running]
            exact List.drop_length
        | true =>
            change world.queue.drop count = []
            rw [(controlled.stopped running).2, List.drop_nil]
  | finished place
  | taken place
  | cleared place
  | reported place
  | restored place
  | reportedRejected place
  | unreported place
  | halting place
  | halted place =>
      have idle := controlled.idle place rfl
      exact controlled.stand rfl rfl rfl id (congrArg Option.isSome idle)
  | unsent place free elapsed following =>
      have idle := controlled.idle place rfl
      refine controlled.stand rfl rfl rfl (fun _ => List.drop_length) ?_
      rcases following with rfl | rfl <;> exact congrArg Option.isSome idle
  | sent =>
      exact controlled.stand rfl rfl rfl (fun _ => List.drop_length) rfl
  | abandoned => exact controlled.stand rfl rfl rfl id rfl
  | retried place flying tries =>
      refine controlled.stand rfl rfl rfl tries.queue.trans ?_
      exact (congrArg Option.isSome tries.flight).trans controlled.flight
  | refusedBatch place flying tries
  | delivered place flying tries =>
      exact controlled.stand rfl rfl rfl tries.queue.trans
        (congrArg Option.isSome (tries.flight.trans flying))
  | failed place flying tries =>
      exact controlled.stand rfl rfl rfl tries.queue.trans rfl
  | acknowledged place flying resets =>
      rw [resets]
      split
      · exact controlled.stand rfl rfl rfl id rfl
      · exact controlled.stand rfl rfl rfl id rfl
  | untaken place none calm following =>
      have idle := controlled.idle place rfl
      refine controlled.stand rfl rfl rfl id ?_
      rcases following with rfl | ⟨rfl, -⟩ <;>
        exact congrArg Option.isSome idle
  | @rejected place flight =>
      refine controlled.stand rfl rfl rfl id ?_
      cases flight.batch.hasHealth <;> rfl

/-! ## Whole runs -/

theorem World.Controlled.wait
    (controlled : world.Controlled) (elapsed : Nat) :
    (world.wait elapsed).Controlled :=
  { controlled with }

/-- A condition on the states in which the actions of a run are made. -/
def Permitted (config : Config) (permitted : World → Prop)
    (world : World) (steps : List Step) : Prop :=
  Along (World.step config)
    (fun world step => permitted (world.wait step.elapsed)) world steps

instance (config : Config) (permitted : World → Prop)
    [∀ world, Decidable (permitted world)] (world : World)
    (steps : List Step) : Decidable (Permitted config permitted world steps) :=
  inferInstanceAs (Decidable (Along _ _ _ _))

/-- What the passing of time and every permitted action keep, every permitted
run keeps. -/
theorem run_keeps
    {permitted : World → Prop} {motive : World → Prop}
    (waits : ∀ world elapsed, motive world → motive (world.wait elapsed))
    (moves : ∀ world next, permitted world → world.Controlled →
      motive world → Moves config world next → motive next)
    {steps : List Step} (along : Permitted config permitted world steps)
    (controlled : world.Controlled) (holds : motive world) :
    (run config world steps).Controlled ∧ motive (run config world steps) := by
  refine along.keeps (motive := fun world => world.Controlled ∧ motive world)
    ?_ ⟨controlled, holds⟩
  rintro world step allowed ⟨controlled, holds⟩
  have ready := controlled.wait step.elapsed
  have moved := act_moves config (world.wait step.elapsed) step.action
    fun stopping => (ready.stopped stopping).1
  exact ⟨ready.moves moved, moves _ _ allowed ready (waits _ _ holds) moved⟩

/-- Every run is a sequence of changes to the ledger. -/
theorem run_delivers
    (controlled : world.Controlled) (steps : List Step) :
    DeliversAll config (fun _ _ => True) world.toLedger
      (run config world steps).toLedger := by
  have along : Permitted config (fun _ => True) world steps := along_true _ _
  refine (run_keeps (motive := fun last => DeliversAll config
    (fun _ _ => True) world.toLedger last.toLedger) ?_ ?_ along controlled
      .refl).2
  · intro world elapsed delivers
    exact delivers.tail (.later _ _)
  · intro world next _ controlled delivers moved
    exact delivers.trans (controlled.delivers moved fun _ _ _ _ _ _ => trivial)

/-- The two states in which `New` leaves a sender. -/
theorem new_eq_some
    (started : new config clock previous reading stored = some world) :
    ∃ coverage : Coverage, coverage.start = coverageStartTime clock ∧
      coverage.committed = false ∧
      (world = { clock, coverage } ∨
        ∃ health epoch, previous = some epoch ∧
          uncleanRestartEvent config epoch reading clock = some health ∧
          world =
            { clock := clock + reading.elapsed
              coverage
              degraded := true
              queue := [.sourceHealth health] }) := by
  unfold new at started
  dsimp only at started
  split at started
  · split at started
    · cases started
      exact ⟨_, rfl, rfl, .inl rfl⟩
    · cases started
  next epoch =>
    split at started
    · cases started
    next health built =>
      split at started
      · cases started
        exact ⟨_, rfl, rfl, .inr ⟨health, epoch, rfl, built, rfl⟩⟩
      · cases started

/-- The first segment is that of the epoch. -/
theorem new_coverage
    (started : new config clock previous reading stored = some world) :
    world.coverage =
      { segmentID := coverageSegmentID config.crypto config.senderID
          config.epoch (ascii "epoch-start")
        start := coverageStartTime clock } := by
  unfold new at started
  dsimp only at started
  split at started
  · split at started <;> cases started
    rfl
  · split at started
    · cases started
    · split at started <;> cases started
      rfl

theorem new_controlled
    (started : new config clock previous reading stored = some world) :
    world.Controlled ∧ world.toLedger.Initial := by
  obtain ⟨coverage, -, -, rfl | ⟨health, epoch, -, -, rfl⟩⟩ :=
    new_eq_some started
  · exact ⟨⟨rfl, nofun, nofun⟩, ⟨rfl, rfl, rfl, rfl, rfl, rfl, rfl⟩⟩
  · exact ⟨⟨rfl, nofun, nofun⟩, ⟨rfl, rfl, rfl, rfl, rfl, rfl, rfl⟩⟩

end SentinelFlow.AuthSender
