import SentinelFlow.Delivery.Ledger

/-!
# The gateway event sender

Package `eventsender` as producers and one worker that take turns.  A step is one
operation on a shared field, or a stretch of code that no other process can
observe: a whole critical section of `enqueueMu`, or work on the fields that only
the worker uses.  A step that is not possible leaves everything as it is.
-/

namespace SentinelFlow.EventSender

open GoLib Events Delivery

/-- A producer that holds the lock and has found the queue full: what it is about
to do. -/
inductive Overflow where
  | adding (offer : Offer)
  | storing
  | advancing
deriving DecidableEq

/-- The progress of `markDegraded` within the worker. -/
inductive Marking where
  | idle
  | storing
  | advancing
deriving DecidableEq

/-- Where the worker stands.  After `taking` it knows the count that it has
swapped out; `taken` are the offers behind this count. -/
inductive Worker where
  | selecting
  | flushing
  | sending
  | acknowledged
  | clearing (current : Batch)
  | taking (cleared : Bool)
  | reporting (dropped : UInt64) (started : Int) (cleared : Bool)
      (taken : List Offer)
  | rejecting
  | reportingRejected (sequence count : Nat)
  | done
deriving DecidableEq

/-- The sender, its worker and the producer that holds the lock, if any.
`unreported` are the offers counted in `dropped`. -/
structure World extends Ledger where
  closed : Bool := false
  degraded : Bool := false
  dropped : UInt64 := 0
  healthGeneration : UInt64 := 0
  outageStart : Int := 0
  lastAckSequence : Nat := 0
  lastAckDigest : Bytes := []
  checkpoint : Checkpoint := {}
  stopping : Bool := false
  worker : Worker := .selecting
  marking : Marking := .idle
  producer : Option Overflow := none
  unreported : List Offer := []

/-- `New`, for an epoch that has been drawn and a clock.  `previous` is the epoch
of an unclean checkpoint; `stored` says whether the new one could be written. -/
def new (config : Config) (clock : Int) (previous : Option Bytes)
    (reading : Reading) (stored : Bool) : Option World :=
  let coverage : Coverage :=
    { segmentID := coverageSegmentID config.crypto config.senderID config.epoch
        (ascii "epoch-start")
      start := coverageStartTime clock }
  match previous with
  | none => if stored then some { clock, coverage } else none
  | some epoch =>
      match uncleanRestartEvent config epoch reading clock with
      | none => none
      | some health =>
          if stored then
            some {
              clock := clock + reading.elapsed
              coverage
              degraded := true
              healthGeneration := 1
              queue := [.sourceHealth health] }
          else none

/-! ## Producers -/

/-- `TryEnqueue`, up to the first operation of an overflow. -/
def World.tryEnqueue (config : Config) (world : World) (valid : Bool) : World :=
  if !valid then
    { world with
      toLedger := world.log (world.offer false (!world.closed) .dropped) }
  else if world.producer.isSome then world
  else if world.closed then
    { world with toLedger := world.log (world.offer true false .dropped) }
  else if world.queue.length < config.queueCapacity then
    { world with
      toLedger := world.enqueue config.kind (world.offer true true
        (if world.degraded then .degraded else .accepted)) }
  else
    let entry := world.offer true true .dropped
    { world with
      toLedger := world.log entry
      producer := some (.adding entry.toOffer) }

/-- The rest of an overflow. -/
def World.overflow (world : World) : World :=
  match world.producer with
  | none => world
  | some (.adding offer) =>
      { world with
        dropped := world.dropped + 1
        unreported := world.unreported ++ [offer]
        producer := some .storing }
  | some .storing =>
      { world with degraded := true, producer := some .advancing }
  | some .advancing =>
      { world with
        healthGeneration := world.healthGeneration + 1
        producer := none }

def World.close (world : World) : World :=
  if world.producer.isSome then world else { world with closed := true }

/-! ## The worker -/

def World.select (config : Config) (world : World) (branch : Branch) : World :=
  if world.worker ≠ .selecting ∨ world.marking ≠ .idle then world
  else match branch, world.stopping with
  | .receive, false =>
      if world.queue = [] then world
      else
        { world with
          toLedger := world.receive 1
          worker := if world.pending.length + 1 ≥ config.batchSize then
            .flushing else .selecting }
  | .tick, false => { world with worker := .flushing }
  | .stop, false =>
      if world.closed then
        { world with
          toLedger := world.receive world.queue.length
          stopping := true }
      else world
  | .drained expired stored, true =>
      if world.pending ≠ [] ∧ !expired then { world with worker := .flushing }
      else if world.pending = [] ∧ !world.degraded ∧ stored then
        { world with
          worker := .done
          checkpoint := ⟨world.lastAckSequence, world.lastAckDigest, true⟩ }
      else { world with worker := .done }
  | _, _ => world

/-- The critical section of `flush`, and what it does with a build error. -/
def World.flush (config : Config) (world : World) (readings : List Reading) :
    World :=
  if world.worker ≠ .flushing ∨ world.marking ≠ .idle ∨
      world.producer.isSome then world
  else
    let built := world.build config world.degraded world.healthGeneration
      readings
    let later : Ledger := { world.cut with clock := built.2 }
    match built.1 with
    | .error .noSendableBatch =>
        { world with toLedger := later, worker := .selecting }
    | .error _ =>
        { world with
          toLedger := later, worker := .selecting, marking := .storing }
    | .ok (current, count) =>
        { world with
          toLedger := later.launch ⟨current, count⟩, worker := .sending }

inductive Verdict where
  | delivered
  | permanent
  | retry
deriving DecidableEq

/-- What `deliver` makes of one round. -/
def judge (config : Config) (current : Batch) (attempt : Attempt) : Verdict :=
  match attempt with
  | .noNonce => .permanent
  | .unsigned => .permanent
  | .noRequest => .permanent
  | .networkError => .retry
  | .response status _ stored =>
      if acknowledges config current attempt && stored then .delivered
      else if 400 ≤ status ∧ status < 500 ∧ status ≠ 408 ∧ status ≠ 429 then
        .permanent
      else .retry
  | .expired => .retry

/-- The part of `markOutage` under `healthMu`. -/
def World.markOutage (world : World) : World :=
  { world with
    outageStart := if world.outageStart = 0 then world.clock
      else world.outageStart
    marking := .storing }

/-- The request of a round, if it is made, and the acknowledgement if it is the
one for the batch. -/
def World.try (config : Config) (world : World) (flight : Flight)
    (attempt : Attempt) : World :=
  let ledger := if attempt.sent then world.attempt flight else world.toLedger
  if acknowledges config flight.batch attempt then
    { world with
      toLedger := ledger
      lastAckSequence := flight.batch.sequence
      lastAckDigest := digestText config.crypto flight.batch.body }
  else { world with toLedger := ledger }

/-- One round of `deliver`. -/
def World.deliver (config : Config) (world : World) (attempt : Attempt) :
    World :=
  match world.worker, world.marking, world.flight with
  | .sending, .idle, some flight =>
      match attempt with
      | .expired =>
          if world.closed then
            { world with toLedger := world.abandon, worker := .selecting }
          else world
      | attempt =>
          let tried := world.try config flight attempt
          match judge config flight.batch attempt with
          | .delivered =>
              { tried with
                worker := .acknowledged
                checkpoint := ⟨tried.lastAckSequence, tried.lastAckDigest,
                  false⟩ }
          | .permanent => { tried.markOutage with worker := .rejecting }
          | .retry => tried.markOutage
  | _, _, _ => world

/-- The rest of `takeHealthEvent` once it has taken a count or an outage. -/
def takenHealthEvent (config : Config) (dropped : UInt64) (started now : Int)
    (reading : Reading) : Option SourceHealth :=
  let started := if started = 0 then now else started
  let occurred := now + reading.elapsed
  if 0 < dropped then
    sourceHealth config .queueOverflow .lost .unknownRange config.epoch none
      (some (started, now)) dropped.toNat reading.newID occurred
  else
    sourceHealth config .recovered .recovered .deliveryRestored config.epoch
      none (some (started, now)) dropped.toNat reading.newID occurred

/-- The worker adds the health record, if there is one, and returns from
`flush`. -/
def World.report (world : World) (reading : Reading)
    (health : Option SourceHealth) : World :=
  { world with
    toLedger := (world.later reading.elapsed).report health.toList
    worker := .selecting }

/-- The next operation of `markDegraded` or of the rest of `flush`. -/
def World.work (config : Config) (world : World) (reading : Reading) : World :=
  match world.marking with
  | .storing => { world with degraded := true, marking := .advancing }
  | .advancing =>
      { world with
        healthGeneration := world.healthGeneration + 1
        marking := .idle }
  | .idle =>
      match world.worker, world.flight with
      | .acknowledged, some flight =>
          { world with
            toLedger := world.resolve flight true
            worker := if flight.batch.hasHealth && flight.batch.healthGeneration
                == world.healthGeneration then .clearing flight.batch
              else .taking false }
      | .clearing current, _ =>
          { world with
            toLedger := world.reset config current
            degraded := false
            worker := .taking true }
      | .taking cleared, _ =>
          { world with
            dropped := 0
            outageStart := 0
            unreported := []
            worker := if world.dropped = 0 ∧ world.outageStart = 0 then
                .selecting
              else .reporting world.dropped world.outageStart cleared
                world.unreported }
      | .reporting dropped started _ _, _ =>
          world.report reading
            (takenHealthEvent config dropped started world.clock reading)
      | .rejecting, some flight =>
          { world with
            toLedger := world.resolve flight false
            marking := .storing
            worker := if flight.batch.hasHealth then .selecting
              else .reportingRejected flight.batch.sequence flight.count }
      | .reportingRejected sequence count, _ =>
          world.report reading
            (rejectedBatchEvent config sequence count reading world.clock)
      | _, _ => world

/-! ## Runs -/

inductive Action where
  | offer (valid : Bool)
  | overflow
  | close
  | select (branch : Branch)
  | flush (readings : List Reading)
  | deliver (attempt : Attempt)
  | work (reading : Reading)

/-- Some time passes, and then one process makes a step. -/
structure Step where
  elapsed : Nat := 0
  action : Action

def World.act (config : Config) (world : World) : Action → World
  | .offer valid => world.tryEnqueue config valid
  | .overflow => world.overflow
  | .close => world.close
  | .select branch => world.select config branch
  | .flush readings => world.flush config readings
  | .deliver attempt => world.deliver config attempt
  | .work reading => world.work config reading

/-- Time passes. -/
def World.wait (world : World) (elapsed : Nat) : World :=
  { world with toLedger := world.later elapsed }

def World.step (config : Config) (world : World) (step : Step) : World :=
  (world.wait step.elapsed).act config step.action

def run (config : Config) (world : World) (steps : List Step) : World :=
  steps.foldl (World.step config) world

/-! ## What a step can do -/

/-- The worker is at this point and not within `markDegraded`. -/
structure World.At (world : World) (worker : Worker) : Prop where
  worker : world.worker = worker
  marking : world.marking = .idle

/-- The critical section of `flush` fails, not for want of something to send. -/
def World.BuildFails (config : Config) (world : World) (action : Action) :
    Prop :=
  ∃ readings error, action = .flush readings ∧
    (world.build config world.degraded world.healthGeneration readings).1 =
      .error error ∧ error ≠ .noSendableBatch

/-- What an action can do, with what is known when it happens. -/
inductive Moves (config : Config) (action : Action) : World → World → Prop where
  | stays (world : World) : Moves config action world world
  | refused (world : World) {valid serving : Bool}
      (late : valid = false ∨ serving = false) :
      Moves config action world
        { world with
          toLedger := world.log (world.offer valid serving .dropped) }
  | enqueued (world : World) {result : EnqueueResult}
      (accepted : result ≠ .dropped) (free : world.producer = none)
      (serving : world.closed = false) :
      Moves config action world
        { world with
          toLedger :=
            world.enqueue config.kind (world.offer true true result) }
  | overflowed (world : World) (free : world.producer = none)
      (serving : world.closed = false) :
      Moves config action world
        { world with
          toLedger := world.log (world.offer true true .dropped)
          producer :=
            some (.adding (world.offer true true .dropped).toOffer) }
  | added (world : World) {offer : Offer}
      (holds : world.producer = some (.adding offer)) :
      Moves config action world
        { world with
          dropped := world.dropped + 1
          unreported := world.unreported ++ [offer]
          producer := some .storing }
  | stored (world : World) (holds : world.producer = some .storing) :
      Moves config action world
        { world with degraded := true, producer := some .advancing }
  | released (world : World) (holds : world.producer = some .advancing) :
      Moves config action world
        { world with
          healthGeneration := world.healthGeneration + 1
          producer := none }
  | closed (world : World) (free : world.producer = none) :
      Moves config action world { world with closed := true }
  | selected (world : World) (place : world.At .selecting) (count : Nat)
      (worker : Worker) (stopping : Bool)
      (next : worker = .selecting ∨ worker = .flushing)
      (stops : stopping = true → world.closed = true ∧
        (world.stopping = false → count = world.queue.length))
      (kept : world.stopping = true → stopping = true ∧ count = 0) :
      Moves config action world
        { world with
          toLedger := world.receive count
          worker := worker
          stopping := stopping }
  | finished (world : World) (place : world.At .selecting)
      (stopping : world.stopping = true) {checkpoint : Checkpoint}
      (clean : checkpoint = world.checkpoint ∨
        checkpoint.cleanShutdown = true ∧ world.pending = [] ∧
          world.degraded = false) :
      Moves config action world
        { world with worker := .done, checkpoint := checkpoint }
  | unsent (world : World) (place : world.At .flushing)
      (free : world.producer = none) (elapsed : Nat) {marking : Marking}
      (failed : marking = .idle ∨
        marking = .storing ∧ world.BuildFails config action) :
      Moves config action world
        { world with
          toLedger := world.cut.later elapsed
          worker := .selecting
          marking := marking }
  | sent (world : World) (place : world.At .flushing)
      (free : world.producer = none) {elapsed : Nat} {flight : Flight}
      (ready : Launchable config (world.cut.later elapsed) flight)
      (generation :
        flight.batch.healthGeneration = world.healthGeneration)
      (covering : flight.batch.hasCoverage = true → world.degraded = false) :
      Moves config action world
        { world with
          toLedger := (world.cut.later elapsed).launch flight
          worker := .sending }
  | abandoned (world : World) (place : world.At .sending)
      (closed : world.closed = true) :
      Moves config action world
        { world with toLedger := world.abandon, worker := .selecting }
  | retried (world : World) (place : world.At .sending) {flight : Flight}
      (flying : world.flight = some flight) {ledger : Ledger}
      (tries : world.Tries flight ledger) (sequence : Nat) (digest : Bytes) :
      Moves config action world
        { world with
          toLedger := ledger
          lastAckSequence := sequence
          lastAckDigest := digest
          outageStart := if world.outageStart = 0 then world.clock
            else world.outageStart
          marking := .storing }
  | refusedBatch (world : World) (place : world.At .sending) {flight : Flight}
      (flying : world.flight = some flight) {ledger : Ledger}
      (tries : world.Tries flight ledger) (sequence : Nat) (digest : Bytes) :
      Moves config action world
        { world with
          toLedger := ledger
          lastAckSequence := sequence
          lastAckDigest := digest
          outageStart := if world.outageStart = 0 then world.clock
            else world.outageStart
          marking := .storing
          worker := .rejecting }
  | delivered (world : World) (place : world.At .sending) {flight : Flight}
      (flying : world.flight = some flight) {ledger : Ledger}
      (tries : world.Tries flight ledger) (sequence : Nat) (digest : Bytes) :
      Moves config action world
        { world with
          toLedger := ledger
          lastAckSequence := sequence
          lastAckDigest := digest
          worker := .acknowledged
          checkpoint := ⟨sequence, digest, false⟩ }
  | marked (world : World) (marking : world.marking = .storing) :
      Moves config action world
        { world with degraded := true, marking := .advancing }
  | counted (world : World) (marking : world.marking = .advancing) :
      Moves config action world
        { world with
          healthGeneration := world.healthGeneration + 1
          marking := .idle }
  | confirmed (world : World) (place : world.At .acknowledged)
      {flight : Flight} (flying : world.flight = some flight)
      (health : flight.batch.hasHealth = true)
      (same : flight.batch.healthGeneration = world.healthGeneration) :
      Moves config action world
        { world with
          toLedger := world.resolve flight true
          worker := .clearing flight.batch }
  | passed (world : World) (place : world.At .acknowledged)
      {flight : Flight} (flying : world.flight = some flight)
      (other : flight.batch.hasHealth = true →
        flight.batch.healthGeneration ≠ world.healthGeneration) :
      Moves config action world
        { world with
          toLedger := world.resolve flight true
          worker := .taking false }
  | cleared (world : World) {current : Batch}
      (place : world.At (.clearing current)) :
      Moves config action world
        { world with
          toLedger := world.reset config current
          degraded := false
          worker := .taking true }
  | untaken (world : World) {cleared : Bool}
      (place : world.At (.taking cleared)) (none : world.dropped = 0)
      (calm : world.outageStart = 0) :
      Moves config action world
        { world with
          dropped := 0
          outageStart := 0
          unreported := []
          worker := .selecting }
  | taken (world : World) {cleared : Bool}
      (place : world.At (.taking cleared))
      (some : world.dropped ≠ 0 ∨ world.outageStart ≠ 0) :
      Moves config action world
        { world with
          dropped := 0
          outageStart := 0
          unreported := []
          worker := .reporting world.dropped world.outageStart cleared
            world.unreported }
  | reported (world : World) {dropped : UInt64} {started : Int}
      {cleared : Bool} {taken : List Offer}
      (place : world.At (.reporting dropped started cleared taken))
      (reading : Reading) (works : action = .work reading) :
      Moves config action world
        (world.report reading
          (takenHealthEvent config dropped started world.clock reading))
  | rejected (world : World) (place : world.At .rejecting) {flight : Flight}
      (flying : world.flight = some flight) :
      Moves config action world
        { world with
          toLedger := world.resolve flight false
          marking := .storing
          worker := if flight.batch.hasHealth then .selecting
            else .reportingRejected flight.batch.sequence flight.count }
  | reportedRejected (world : World) {sequence count : Nat}
      (place : world.At (.reportingRejected sequence count))
      (reading : Reading) (works : action = .work reading) :
      Moves config action world
        (world.report reading
          (rejectedBatchEvent config sequence count reading world.clock))

section Moves

variable (config : Config) (action : Action) (world : World)

theorem tryEnqueue_moves (valid : Bool) :
    Moves config action world (world.tryEnqueue config valid) := by
  unfold World.tryEnqueue
  split
  · exact .refused world (.inl rfl)
  split
  · exact .stays world
  next free =>
  rw [Option.not_isSome_iff_eq_none] at free
  split
  · exact .refused world (.inr rfl)
  next serving =>
  rw [Bool.not_eq_true] at serving
  split
  · refine .enqueued world ?_ free serving
    split <;> simp
  · exact .overflowed world free serving

theorem overflow_moves : Moves config action world world.overflow := by
  unfold World.overflow
  split
  · exact .stays world
  next holds => exact .added world holds
  next holds => exact .stored world holds
  next holds => exact .released world holds

theorem close_moves : Moves config action world world.close := by
  unfold World.close
  split
  · exact .stays world
  next free => exact .closed world (Option.not_isSome_iff_eq_none.mp free)

theorem flushing_moves (place : world.At .selecting)
    (closed : world.stopping = true → world.closed = true) :
    Moves config action world { world with worker := .flushing } := by
  have moved : Moves config action world
      { world with toLedger := world.receive 0, worker := .flushing } :=
    .selected world place 0 .flushing world.stopping (.inr rfl)
      (fun stops => ⟨closed stops, fun running => by simp [running] at stops⟩)
      (fun stops => ⟨stops, rfl⟩)
  rw [Ledger.receive_zero] at moved
  exact moved

theorem select_moves (branch : Branch)
    (closed : world.stopping = true → world.closed = true) :
    Moves config action world (world.select config branch) := by
  unfold World.select
  split
  · exact .stays world
  next here =>
  rw [not_or, not_not, not_not] at here
  have place : world.At .selecting := ⟨here.1, here.2⟩
  split
  next running =>
    split
    · exact .stays world
    · refine .selected world place 1 _ world.stopping ?_ ?_ ?_
      · split <;> simp
      · simp [running]
      · simp [running]
  next running => exact flushing_moves config action world place closed
  next running =>
    split
    next closed =>
      exact .selected world place world.queue.length world.worker true
        (.inl here.1) (fun _ => ⟨closed, fun _ => rfl⟩) (by simp [running])
    · exact .stays world
  next expired saved stopping =>
    split
    · exact flushing_moves config action world place closed
    split
    next clean =>
      refine .finished world place stopping (.inr ⟨rfl, clean.1, ?_⟩)
      simpa using clean.2.1
    · exact .finished world place stopping (.inl rfl)
  · exact .stays world

theorem flush_moves (readings : List Reading) :
    Moves config (.flush readings) world (world.flush config readings) := by
  unfold World.flush
  split
  · exact .stays world
  next here =>
  simp only [not_or, ne_eq, not_not, Bool.not_eq_true,
    Option.isSome_eq_false_iff, Option.isNone_iff_eq_none] at here
  obtain ⟨worker, marking, free⟩ := here
  have place : world.At .flushing := ⟨worker, marking⟩
  obtain ⟨elapsed, clock, built⟩ := world.build_spec config world.degraded
    world.healthGeneration readings
  have later : ({ world.cut with clock := (world.build config world.degraded
      world.healthGeneration readings).2 } : Ledger) =
        world.cut.later elapsed := by
    rw [clock]
    rfl
  dsimp only
  rw [later]
  split
  · have moved : Moves config (.flush readings) world
        { world with
          toLedger := world.cut.later elapsed
          worker := .selecting
          marking := .idle } :=
      .unsent world place free elapsed (.inl rfl)
    rw [← marking] at moved
    exact moved
  next error other failed =>
    exact .unsent world place free elapsed
      (.inr ⟨rfl, readings, error, rfl, failed, other⟩)
  next current count succeeded =>
    obtain ⟨ready, generation, covering⟩ := built current count succeeded
    exact .sent world place free ready generation covering

theorem try_spec (flight : Flight) (attempt : Attempt) :
    ∃ ledger sequence digest, world.Tries flight ledger ∧
      ledger.clock = world.clock ∧
      world.try config flight attempt =
        { world with
          toLedger := ledger
          lastAckSequence := sequence
          lastAckDigest := digest } := by
  have tries : world.Tries flight
      (if attempt.sent then world.attempt flight else world.toLedger) := by
    split
    · exact .inr rfl
    · exact .inl rfl
  have clock : (if attempt.sent then world.attempt flight
      else world.toLedger).clock = world.clock := by
    split <;> rfl
  unfold World.try
  dsimp only
  generalize (if attempt.sent then world.attempt flight
    else world.toLedger) = ledger at tries clock ⊢
  split
  · exact ⟨ledger, _, _, tries, clock, rfl⟩
  · exact ⟨ledger, _, _, tries, clock, rfl⟩

theorem deliver_moves (attempt : Attempt) :
    Moves config action world (world.deliver config attempt) := by
  unfold World.deliver
  split
  next flight worker marking flying =>
    have place : world.At .sending := ⟨worker, marking⟩
    split
    · split
      next closed => exact .abandoned world place closed
      · exact .stays world
    · obtain ⟨ledger, sequence, digest, tries, clock, tried⟩ :=
        try_spec config world flight attempt
      dsimp only
      rw [tried]
      split
      · exact .delivered world place flying tries sequence digest
      · simp only [World.markOutage, clock]
        exact .refusedBatch world place flying tries sequence digest
      · simp only [World.markOutage, clock]
        exact .retried world place flying tries sequence digest
  · exact .stays world

theorem work_moves (reading : Reading) :
    Moves config (.work reading) world (world.work config reading) := by
  unfold World.work
  split
  next marking => exact .marked world marking
  next marking => exact .counted world marking
  next marking =>
    split
    next flight worker flying =>
      have place : world.At .acknowledged := ⟨worker, marking⟩
      split
      next confirmed =>
        simp only [Bool.and_eq_true, beq_iff_eq] at confirmed
        exact .confirmed world place flying confirmed.1 confirmed.2
      next other =>
        refine .passed world place flying ?_
        intro health same
        exact other (by simp [health, same])
    next worker => exact .cleared world ⟨worker, marking⟩
    next _ cleared worker =>
      have place : world.At (.taking cleared) := ⟨worker, marking⟩
      split
      next none => exact .untaken world place none.1 none.2
      next some =>
        exact .taken world place (Classical.not_and_iff_not_or_not.mp some)
    next worker => exact .reported world ⟨worker, marking⟩ reading rfl
    next flight worker flying =>
      exact .rejected world ⟨worker, marking⟩ flying
    next worker => exact .reportedRejected world ⟨worker, marking⟩ reading rfl
    · exact .stays world

/-- Everything that an action can do. -/
theorem act_moves (action : Action)
    (closed : world.stopping = true → world.closed = true) :
    Moves config action world (world.act config action) := by
  cases action with
  | offer valid => exact tryEnqueue_moves config _ world valid
  | overflow => exact overflow_moves config _ world
  | close => exact close_moves config _ world
  | select branch => exact select_moves config _ world branch closed
  | flush readings => exact flush_moves config world readings
  | deliver attempt => exact deliver_moves config _ world attempt
  | work reading => exact work_moves config world reading

end Moves

end SentinelFlow.EventSender
