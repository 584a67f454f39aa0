import SentinelFlow.Delivery.Ledger

/-!
# The authentication event sender

Package `authsender` as producers and one worker that take turns, with the same
steps as the gateway's sender: an operation on a shared field, or a stretch of
code that no other process can observe.  This sender accumulates its health
under a mutex, and stops for good when it cannot go on.
-/

namespace SentinelFlow.AuthSender

open GoLib Events Delivery

/-- The accumulated health.  The zero instant stands for a time that is not
set. -/
structure HealthAccumulator where
  overflowCount : Nat := 0
  overflowStart : Int := 0
  outageStart : Int := 0
deriving DecidableEq

/-- A producer that holds the lock and has found the queue full: what it is about
to do. -/
inductive Overflow where
  | reading (offer : Offer)
  | adding (offer : Offer) (now : Int)
  | storing
deriving DecidableEq

/-- Where the worker stands.  `taken` are the offers behind a snapshot; `marked`
says whether `halt` has set the first of its two flags. -/
inductive Worker where
  | selecting
  | flushing
  | sending
  | acknowledged
  | taking (hasHealth : Bool)
  | clearing
  | reporting (snapshot : HealthAccumulator) (taken : List Offer)
  | rejecting
  | reportingRejected (sequence count : Nat)
  | halting (marked : Bool)
  | done
deriving DecidableEq

/-- The sender, its worker and the producer that holds the lock, if any.
`marking` says that `markOutage` has still to set the flag; `unreported` are the
offers counted in `health`. -/
structure World extends Ledger where
  closed : Bool := false
  degraded : Bool := false
  halted : Bool := false
  health : HealthAccumulator := {}
  lastAckSequence : Nat := 0
  lastAckDigest : Bytes := []
  checkpoint : Checkpoint := {}
  stopping : Bool := false
  worker : Worker := .selecting
  marking : Bool := false
  producer : Option Overflow := none
  unreported : List Offer := []

/-- `New`, for an epoch that has been drawn and a clock.  `previous` is the epoch
of an unclean checkpoint; `stored` says whether the new one could be written. -/
def new (config : Config) (clock : Int) (previous : Option Bytes)
    (reading : Reading) (stored : Bool) : Option World :=
  let coverage : Coverage :=
    { segmentID := coverageSegmentID config.crypto config.senderID config.epoch
        (ascii "epoch-start")
      start := coverageStartTime clock }
  match previous with
  | none => if stored then some { clock, coverage } else none
  | some epoch =>
      match uncleanRestartEvent config epoch reading clock with
      | none => none
      | some health =>
          if stored then
            some {
              clock := clock + reading.elapsed
              coverage
              degraded := true
              queue := [.sourceHealth health] }
          else none

/-! ## Producers -/

/-- `TryEnqueue`, up to the first operation of an overflow. -/
def World.tryEnqueue (config : Config) (world : World) (valid : Bool) : World :=
  let serving := !world.closed && !world.halted
  if !valid then
    { world with toLedger := world.log (world.offer false serving .dropped) }
  else if world.producer.isSome then world
  else if !serving then
    { world with toLedger := world.log (world.offer true false .dropped) }
  else if world.queue.length < config.queueCapacity then
    { world with
      toLedger := world.enqueue config.kind (world.offer true true
        (if world.degraded then .degraded else .accepted)) }
  else
    let entry := world.offer true true .dropped
    { world with
      toLedger := world.log entry
      producer := some (.reading entry.toOffer) }

/-- One more overflow at this instant. -/
def HealthAccumulator.addOverflow (health : HealthAccumulator) (now : Int) :
    HealthAccumulator :=
  { health with
    overflowCount := if health.overflowCount < maxSafeInteger then
      health.overflowCount + 1 else health.overflowCount
    overflowStart := if health.overflowStart = 0 then now
      else health.overflowStart }

/-- `recordOverflow`. -/
def World.recordOverflow (world : World) : World :=
  match world.producer with
  | none => world
  | some (.reading offer) =>
      { world with producer := some (.adding offer world.clock) }
  | some (.adding offer now) =>
      { world with
        health := world.health.addOverflow now
        unreported := world.unreported ++ [offer]
        producer := some .storing }
  | some .storing => { world with degraded := true, producer := none }

def World.close (world : World) : World :=
  if world.producer.isSome then world else { world with closed := true }

/-! ## The worker -/

def World.select (config : Config) (world : World) (branch : Branch) : World :=
  if world.worker ≠ .selecting ∨ world.marking then world
  else if world.halted then
    if world.closed then { world with worker := .done } else world
  else match branch, world.stopping with
  | .receive, false =>
      if world.queue = [] then world
      else
        { world with
          toLedger := world.receive 1
          worker := if world.pending.length + 1 ≥ config.batchSize then
            .flushing else .selecting }
  | .tick, false => { world with worker := .flushing }
  | .stop, false =>
      if world.closed then
        { world with
          toLedger := world.receive world.queue.length
          stopping := true }
      else world
  | .drained expired stored, true =>
      if world.pending ≠ [] ∧ !expired then { world with worker := .flushing }
      else if world.pending = [] ∧ !world.degraded ∧ !expired ∧ stored then
        { world with
          worker := .done
          checkpoint := ⟨world.lastAckSequence, world.lastAckDigest, true⟩ }
      else { world with worker := .done }
  | _, _ => world

/-- The critical section of `flush`, and what it does with a build error. -/
def World.flush (config : Config) (world : World) (readings : List Reading) :
    World :=
  if world.worker ≠ .flushing ∨ world.marking ∨ world.producer.isSome then world
  else
    let built := world.build config world.degraded 0 readings
    let later : Ledger := { world.cut with clock := built.2 }
    match built.1 with
    | .error .noSendableBatch =>
        { world with toLedger := later, worker := .selecting }
    | .error _ => { world with toLedger := later, worker := .halting false }
    | .ok (current, count) =>
        { world with
          toLedger := later.launch ⟨current, count⟩, worker := .sending }

inductive DeliveryOutcome where
  | pending
  | accepted
  | rejected
  | fatal
deriving DecidableEq

/-- What `deliver` makes of one round; `pending` is another one. -/
def judge (config : Config) (current : Batch) (attempt : Attempt) :
    DeliveryOutcome :=
  match attempt with
  | .noNonce => .pending
  | .unsigned => .fatal
  | .noRequest => .fatal
  | .networkError => .pending
  | .response status _ stored =>
      if acknowledges config current attempt && stored then .accepted
      else if status = 409 ∨ status = 422 then .rejected
      else .pending
  | .expired => .pending

/-- The part of `markOutage` under `healthMu`. -/
def World.markOutage (world : World) : World :=
  { world with
    health.outageStart := if world.health.outageStart = 0 then world.clock
      else world.health.outageStart
    marking := true }

/-- The request of a round, if it is made, and the acknowledgement if it is the
one for the batch. -/
def World.try (config : Config) (world : World) (flight : Flight)
    (attempt : Attempt) : World :=
  let ledger := if attempt.sent then world.attempt flight else world.toLedger
  if acknowledges config flight.batch attempt then
    { world with
      toLedger := ledger
      lastAckSequence := flight.batch.sequence
      lastAckDigest := digestText config.crypto flight.batch.body }
  else { world with toLedger := ledger }

/-- One round of `deliver`. -/
def World.deliver (config : Config) (world : World) (attempt : Attempt) :
    World :=
  match world.worker, world.marking, world.flight with
  | .sending, false, some flight =>
      match attempt with
      | .expired =>
          if world.closed then
            { world with toLedger := world.abandon, worker := .selecting }
          else world
      | attempt =>
          let tried := world.try config flight attempt
          match judge config flight.batch attempt with
          | .accepted =>
              { tried with
                worker := .acknowledged
                checkpoint := ⟨tried.lastAckSequence, tried.lastAckDigest,
                  false⟩ }
          | .rejected => { tried.markOutage with worker := .rejecting }
          | .fatal =>
              { tried with
                toLedger := tried.toLedger.abandon
                worker := .halting false }
          | .pending => tried.markOutage
  | _, _, _ => world

/-! ## Health records -/

/-- What a health record is to say. -/
structure HealthNotice where
  cause : SourceHealthCause
  state : SourceHealthState
  detail : SourceHealthDetailCode
  started : Int
  dropped : Nat
deriving DecidableEq

/-- The records that `takeHealthRecords` creates from a snapshot. -/
def HealthAccumulator.notices (snapshot : HealthAccumulator) (ended : Int) :
    List HealthNotice :=
  let overflowStart :=
    if snapshot.overflowStart = 0 then ended else snapshot.overflowStart
  let earliest := if 0 < snapshot.overflowCount then min overflowStart ended
    else ended
  let outage : List HealthNotice := if snapshot.outageStart = 0 then []
    else [⟨.deliveryOutage, .degraded, .none, snapshot.outageStart, 0⟩]
  let overflow : List HealthNotice := if 0 < snapshot.overflowCount then
      [⟨.queueOverflow, .lost, .unknownRange, overflowStart,
        snapshot.overflowCount⟩]
    else []
  let earliest := if snapshot.outageStart = 0 then earliest
    else min snapshot.outageStart earliest
  overflow ++ outage ++
    [⟨.recovered, .recovered, .deliveryRestored, earliest, 0⟩]

/-- The records in turn, and the clock after the last reading. -/
def healthRecords (config : Config) (ended : Int) :
    List HealthNotice → (clock : Int) → List Reading →
      Option (List SourceHealth) × Int
  | [], clock, _ => (some [], clock)
  | notice :: notices, clock, readings =>
      let reading := nextReading readings
      let now := clock + reading.elapsed
      match sourceHealth config notice.cause notice.state notice.detail
          config.epoch none (some (notice.started, ended)) notice.dropped
          reading.newID now with
      | none => (none, now)
      | some health =>
          let rest := healthRecords config ended notices now readings.tail
          (rest.1.map (health :: ·), rest.2)

def saturatingAdd (left right : Nat) : Nat :=
  if left ≥ maxSafeInteger ∨ right ≥ maxSafeInteger - left then maxSafeInteger
  else left + right

def earliestTime (left right : Int) : Int :=
  if left = 0 ∨ (right ≠ 0 ∧ right < left) then right else left

/-- The part of `restoreHealth` under `healthMu`. -/
def HealthAccumulator.restore (health snapshot : HealthAccumulator) :
    HealthAccumulator where
  overflowCount := saturatingAdd health.overflowCount snapshot.overflowCount
  overflowStart := earliestTime health.overflowStart snapshot.overflowStart
  outageStart := earliestTime health.outageStart snapshot.outageStart

/-- The next operation of `markOutage`, of the rest of `flush` or of `halt`.  The
flag that `restoreHealth` sets is set again by the `halt` that follows. -/
def World.work (config : Config) (world : World) (readings : List Reading) :
    World :=
  if world.marking then { world with degraded := true, marking := false }
  else match world.worker, world.flight with
  | .acknowledged, some flight =>
      let resolved := world.resolve flight true
      { world with
        toLedger := if flight.batch.hasHealth then
          resolved.reset config flight.batch else resolved
        worker := .taking flight.batch.hasHealth }
  | .taking hasHealth, _ =>
      { world with
        health := {}
        unreported := []
        worker := if world.health.overflowCount = 0 ∧
            world.health.outageStart = 0 then
            if hasHealth ∧ !containsSourceHealth world.pending then .clearing
            else .selecting
          else .reporting world.health world.unreported }
  | .clearing, _ => { world with degraded := false, worker := .selecting }
  | .reporting snapshot taken, _ =>
      let built := healthRecords config world.clock
        (snapshot.notices world.clock) world.clock readings
      let later : Ledger := { world.toLedger with clock := built.2 }
      match built.1 with
      | some records =>
          { world with toLedger := later.report records, worker := .selecting }
      | none =>
          { world with
            toLedger := later
            health := world.health.restore snapshot
            unreported := world.unreported ++ taken
            worker := .halting false }
  | .rejecting, some flight =>
      { world with
        toLedger := world.resolve flight false
        degraded := true
        worker := if flight.batch.hasHealth then .halting false
          else .reportingRejected flight.batch.sequence flight.count }
  | .reportingRejected sequence count, _ =>
      let reading := nextReading readings
      let later := world.later reading.elapsed
      match rejectedBatchEvent config sequence count reading world.clock with
      | some health =>
          { world with toLedger := later.report [health], worker := .selecting }
      | none => { world with toLedger := later, worker := .halting false }
  | .halting false, _ =>
      { world with degraded := true, worker := .halting true }
  | .halting true, _ => { world with halted := true, worker := .selecting }
  | _, _ => world

/-! ## Runs -/

inductive Action where
  | offer (valid : Bool)
  | recordOverflow
  | close
  | select (branch : Branch)
  | flush (readings : List Reading)
  | deliver (attempt : Attempt)
  | work (readings : List Reading)

/-- Some time passes, and then one process makes a step. -/
structure Step where
  elapsed : Nat := 0
  action : Action

def World.act (config : Config) (world : World) : Action → World
  | .offer valid => world.tryEnqueue config valid
  | .recordOverflow => world.recordOverflow
  | .close => world.close
  | .select branch => world.select config branch
  | .flush readings => world.flush config readings
  | .deliver attempt => world.deliver config attempt
  | .work readings => world.work config readings

/-- Time passes. -/
def World.wait (world : World) (elapsed : Nat) : World :=
  { world with toLedger := world.later elapsed }

def World.step (config : Config) (world : World) (step : Step) : World :=
  (world.wait step.elapsed).act config step.action

def run (config : Config) (world : World) (steps : List Step) : World :=
  steps.foldl (World.step config) world

/-! ## What a step can do -/

/-- The worker is at this point and not within `markOutage`. -/
structure World.At (world : World) (worker : Worker) : Prop where
  worker : world.worker = worker
  marking : world.marking = false

/-- What the records of a snapshot have in common. -/
structure HealthAccumulator.Reported (config : Config)
    (snapshot : HealthAccumulator) (ended : Int) (records : List SourceHealth) :
    Prop where
  own : ∀ health ∈ records, HealthOf config health ∧
    health.affectedSenderEpoch = config.epoch ∧ recoveryTime health = ended
  told : records.map (fun health => (health.cause, health.droppedCount)) =
    (snapshot.notices ended).map fun notice => (notice.cause, notice.dropped)

/-- The steps of the processes, with what is known when they happen. -/
inductive Moves (config : Config) : World → World → Prop where
  | stays (world : World) : Moves config world world
  | refused (world : World) {valid serving : Bool}
      (late : valid = false ∨ serving = false) :
      Moves config world
        { world with
          toLedger := world.log (world.offer valid serving .dropped) }
  | enqueued (world : World) {result : EnqueueResult}
      (accepted : result ≠ .dropped) (free : world.producer = none)
      (serving : world.closed = false) :
      Moves config world
        { world with
          toLedger :=
            world.enqueue config.kind (world.offer true true result) }
  | overflowed (world : World) (free : world.producer = none)
      (serving : world.closed = false) :
      Moves config world
        { world with
          toLedger := world.log (world.offer true true .dropped)
          producer :=
            some (.reading (world.offer true true .dropped).toOffer) }
  | read (world : World) {offer : Offer}
      (holds : world.producer = some (.reading offer)) :
      Moves config world
        { world with producer := some (.adding offer world.clock) }
  | added (world : World) {offer : Offer} {now : Int}
      (holds : world.producer = some (.adding offer now)) :
      Moves config world
        { world with
          health := world.health.addOverflow now
          unreported := world.unreported ++ [offer]
          producer := some .storing }
  | stored (world : World) (holds : world.producer = some .storing) :
      Moves config world { world with degraded := true, producer := none }
  | closed (world : World) (free : world.producer = none) :
      Moves config world { world with closed := true }
  | selected (world : World) (place : world.At .selecting)
      (running : world.halted = false) (count : Nat)
      (worker : Worker) (stopping : Bool)
      (next : worker = .selecting ∨ worker = .flushing)
      (stops : stopping = true → world.closed = true ∧
        (world.stopping = false → count = world.queue.length))
      (kept : world.stopping = true → stopping = true ∧ count = 0) :
      Moves config world
        { world with
          toLedger := world.receive count
          worker := worker
          stopping := stopping }
  | finished (world : World) (place : world.At .selecting)
      {checkpoint : Checkpoint}
      (clean : checkpoint = world.checkpoint ∨
        checkpoint.cleanShutdown = true ∧ world.stopping = true ∧
          world.pending = [] ∧ world.degraded = false ∧
          world.halted = false) :
      Moves config world
        { world with worker := .done, checkpoint := checkpoint }
  | unsent (world : World) (place : world.At .flushing)
      (free : world.producer = none) (elapsed : Nat) {worker : Worker}
      (next : worker = .selecting ∨ worker = .halting false) :
      Moves config world
        { world with toLedger := world.cut.later elapsed, worker := worker }
  | sent (world : World) (place : world.At .flushing)
      (free : world.producer = none) {elapsed : Nat} {flight : Flight}
      (ready : Launchable config (world.cut.later elapsed) flight)
      (covering : flight.batch.hasCoverage = true → world.degraded = false) :
      Moves config world
        { world with
          toLedger := (world.cut.later elapsed).launch flight
          worker := .sending }
  | abandoned (world : World) (place : world.At .sending)
      (closed : world.closed = true) :
      Moves config world
        { world with toLedger := world.abandon, worker := .selecting }
  | retried (world : World) (place : world.At .sending) {flight : Flight}
      (flying : world.flight = some flight) {ledger : Ledger}
      (tries : world.Tries flight ledger) (sequence : Nat) (digest : Bytes) :
      Moves config world
        { world with
          toLedger := ledger
          lastAckSequence := sequence
          lastAckDigest := digest
          health.outageStart := if world.health.outageStart = 0 then
            world.clock else world.health.outageStart
          marking := true }
  | refusedBatch (world : World) (place : world.At .sending) {flight : Flight}
      (flying : world.flight = some flight) {ledger : Ledger}
      (tries : world.Tries flight ledger) (sequence : Nat) (digest : Bytes) :
      Moves config world
        { world with
          toLedger := ledger
          lastAckSequence := sequence
          lastAckDigest := digest
          health.outageStart := if world.health.outageStart = 0 then
            world.clock else world.health.outageStart
          marking := true
          worker := .rejecting }
  | failed (world : World) (place : world.At .sending) {flight : Flight}
      (flying : world.flight = some flight) {ledger : Ledger}
      (tries : world.Tries flight ledger) (sequence : Nat) (digest : Bytes) :
      Moves config world
        { world with
          toLedger := ledger.abandon
          lastAckSequence := sequence
          lastAckDigest := digest
          worker := .halting false }
  | delivered (world : World) (place : world.At .sending) {flight : Flight}
      (flying : world.flight = some flight) {ledger : Ledger}
      (tries : world.Tries flight ledger) (sequence : Nat) (digest : Bytes) :
      Moves config world
        { world with
          toLedger := ledger
          lastAckSequence := sequence
          lastAckDigest := digest
          worker := .acknowledged
          checkpoint := ⟨sequence, digest, false⟩ }
  | marked (world : World) (marking : world.marking = true) :
      Moves config world { world with degraded := true, marking := false }
  | acknowledged (world : World) (place : world.At .acknowledged)
      {flight : Flight} (flying : world.flight = some flight)
      {ledger : Ledger}
      (resets : ledger = if flight.batch.hasHealth then
          (world.resolve flight true).reset config flight.batch
        else world.resolve flight true) :
      Moves config world
        { world with
          toLedger := ledger, worker := .taking flight.batch.hasHealth }
  | untaken (world : World) {hasHealth : Bool}
      (place : world.At (.taking hasHealth))
      (none : world.health.overflowCount = 0)
      (calm : world.health.outageStart = 0) {worker : Worker}
      (next : worker = .selecting ∨ worker = .clearing ∧ hasHealth = true ∧
        containsSourceHealth world.pending = false) :
      Moves config world
        { world with health := {}, unreported := [], worker := worker }
  | taken (world : World) {hasHealth : Bool}
      (place : world.At (.taking hasHealth))
      (some : world.health.overflowCount ≠ 0 ∨
        world.health.outageStart ≠ 0) :
      Moves config world
        { world with
          health := {}
          unreported := []
          worker := .reporting world.health world.unreported }
  | cleared (world : World) (place : world.At .clearing) :
      Moves config world
        { world with degraded := false, worker := .selecting }
  | reported (world : World) {snapshot : HealthAccumulator}
      {taken : List Offer} (place : world.At (.reporting snapshot taken))
      {records : List SourceHealth} {elapsed : Nat}
      (built : snapshot.Reported config world.clock records) :
      Moves config world
        { world with
          toLedger := (world.later elapsed).report records
          worker := .selecting }
  | restored (world : World) {snapshot : HealthAccumulator}
      {taken : List Offer} (place : world.At (.reporting snapshot taken))
      (elapsed : Nat) :
      Moves config world
        { world with
          toLedger := world.later elapsed
          health := world.health.restore snapshot
          unreported := world.unreported ++ taken
          worker := .halting false }
  | rejected (world : World) (place : world.At .rejecting) {flight : Flight}
      (flying : world.flight = some flight) :
      Moves config world
        { world with
          toLedger := world.resolve flight false
          degraded := true
          worker := if flight.batch.hasHealth then .halting false
            else .reportingRejected flight.batch.sequence flight.count }
  | reportedRejected (world : World) {sequence count : Nat}
      (place : world.At (.reportingRejected sequence count))
      {reading : Reading} {health : SourceHealth}
      (built : rejectedBatchEvent config sequence count reading world.clock =
        some health) :
      Moves config world
        { world with
          toLedger := (world.later reading.elapsed).report [health]
          worker := .selecting }
  | unreported (world : World) {sequence count : Nat}
      (place : world.At (.reportingRejected sequence count))
      (elapsed : Nat) :
      Moves config world
        { world with
          toLedger := world.later elapsed, worker := .halting false }
  | halting (world : World) (place : world.At (.halting false)) :
      Moves config world
        { world with degraded := true, worker := .halting true }
  | halted (world : World) (place : world.At (.halting true)) :
      Moves config world { world with halted := true, worker := .selecting }

section Moves

variable (config : Config) (world : World)

theorem tryEnqueue_moves (valid : Bool) :
    Moves config world (world.tryEnqueue config valid) := by
  unfold World.tryEnqueue
  dsimp only
  split
  · exact .refused world (.inl rfl)
  split
  · exact .stays world
  next free =>
  rw [Option.not_isSome_iff_eq_none] at free
  split
  · exact .refused world (.inr rfl)
  next serving =>
  have serving : world.closed = false := by
    cases closed : world.closed <;> simp_all
  split
  · refine .enqueued world ?_ free serving
    split <;> simp
  · exact .overflowed world free serving

theorem recordOverflow_moves : Moves config world world.recordOverflow := by
  unfold World.recordOverflow
  split
  · exact .stays world
  next holds => exact .read world holds
  next holds => exact .added world holds
  next holds => exact .stored world holds

theorem close_moves : Moves config world world.close := by
  unfold World.close
  split
  · exact .stays world
  next free => exact .closed world (Option.not_isSome_iff_eq_none.mp free)

theorem flushing_moves (place : world.At .selecting)
    (running : world.halted = false)
    (closed : world.stopping = true → world.closed = true) :
    Moves config world { world with worker := .flushing } := by
  have moved : Moves config world
      { world with toLedger := world.receive 0, worker := .flushing } :=
    .selected world place running 0 .flushing world.stopping (.inr rfl)
      (fun stops => ⟨closed stops, fun running => by simp [running] at stops⟩)
      (fun stops => ⟨stops, rfl⟩)
  rw [Ledger.receive_zero] at moved
  exact moved

theorem select_moves (branch : Branch)
    (closed : world.stopping = true → world.closed = true) :
    Moves config world (world.select config branch) := by
  unfold World.select
  split
  · exact .stays world
  next here =>
  rw [not_or, not_not, Bool.not_eq_true] at here
  have place : world.At .selecting := ⟨here.1, here.2⟩
  split
  · split
    · exact .finished world place (.inl rfl)
    · exact .stays world
  next running =>
  rw [Bool.not_eq_true] at running
  split
  next started =>
    split
    · exact .stays world
    · refine .selected world place running 1 _ world.stopping ?_ ?_ ?_
      · split <;> simp
      · simp [started]
      · simp [started]
  next started => exact flushing_moves config world place running closed
  next started =>
    split
    next closed =>
      exact .selected world place running world.queue.length world.worker true
        (.inl here.1) (fun _ => ⟨closed, fun _ => rfl⟩) (by simp [started])
    · exact .stays world
  next expired saved stopping =>
    split
    · exact flushing_moves config world place running closed
    split
    next clean =>
      refine .finished world place (.inr ⟨rfl, stopping, clean.1, ?_, running⟩)
      simpa using clean.2.1
    · exact .finished world place (.inl rfl)
  · exact .stays world

theorem flush_moves (readings : List Reading) :
    Moves config world (world.flush config readings) := by
  unfold World.flush
  split
  · exact .stays world
  next here =>
  simp only [not_or, ne_eq, not_not, Bool.not_eq_true,
    Option.isSome_eq_false_iff, Option.isNone_iff_eq_none] at here
  obtain ⟨worker, marking, free⟩ := here
  have place : world.At .flushing := ⟨worker, marking⟩
  obtain ⟨elapsed, clock, built⟩ := world.build_spec config world.degraded 0
    readings
  have later : ({ world.cut with clock := (world.build config world.degraded 0
      readings).2 } : Ledger) = world.cut.later elapsed := by
    rw [clock]
    rfl
  dsimp only
  rw [later]
  split
  · exact .unsent world place free elapsed (.inl rfl)
  · exact .unsent world place free elapsed (.inr rfl)
  next current count succeeded =>
    obtain ⟨ready, -, covering⟩ := built current count succeeded
    exact .sent world place free ready covering

theorem try_spec (flight : Flight) (attempt : Attempt) :
    ∃ ledger sequence digest, world.Tries flight ledger ∧
      ledger.clock = world.clock ∧
      world.try config flight attempt =
        { world with
          toLedger := ledger
          lastAckSequence := sequence
          lastAckDigest := digest } := by
  have tries : world.Tries flight
      (if attempt.sent then world.attempt flight else world.toLedger) := by
    split
    · exact .inr rfl
    · exact .inl rfl
  have clock : (if attempt.sent then world.attempt flight
      else world.toLedger).clock = world.clock := by
    split <;> rfl
  unfold World.try
  dsimp only
  generalize (if attempt.sent then world.attempt flight
    else world.toLedger) = ledger at tries clock ⊢
  split
  · exact ⟨ledger, _, _, tries, clock, rfl⟩
  · exact ⟨ledger, _, _, tries, clock, rfl⟩

theorem deliver_moves (attempt : Attempt) :
    Moves config world (world.deliver config attempt) := by
  unfold World.deliver
  split
  next flight worker marking flying =>
    have place : world.At .sending := ⟨worker, marking⟩
    split
    · split
      next closed => exact .abandoned world place closed
      · exact .stays world
    · obtain ⟨ledger, sequence, digest, tries, clock, tried⟩ :=
        try_spec config world flight attempt
      dsimp only
      rw [tried]
      split
      · exact .delivered world place flying tries sequence digest
      · simp only [World.markOutage, clock]
        exact .refusedBatch world place flying tries sequence digest
      · exact .failed world place flying tries sequence digest
      · simp only [World.markOutage, clock]
        exact .retried world place flying tries sequence digest
  · exact .stays world

/-- What has been built of some notices agrees with them. -/
theorem healthRecords_spec
    (ended clock : Int) (notices : List HealthNotice) (readings : List Reading) :
    ∃ elapsed : Nat,
      (healthRecords config ended notices clock readings).2 =
        clock + elapsed ∧
      ∀ records,
        (healthRecords config ended notices clock readings).1 =
          some records →
        (∀ health ∈ records, HealthOf config health ∧
          health.affectedSenderEpoch = config.epoch ∧
          recoveryTime health = ended) ∧
        records.map (fun health => (health.cause, health.droppedCount)) =
          notices.map fun notice => (notice.cause, notice.dropped) := by
  induction notices generalizing clock readings with
  | nil =>
      refine ⟨0, (Int.add_zero _).symm, ?_⟩
      intro records built
      cases built
      exact ⟨List.forall_mem_nil _, rfl⟩
  | cons notice notices ih =>
      unfold healthRecords
      dsimp only
      split
      · exact ⟨(nextReading readings).elapsed, rfl, nofun⟩
      next health built =>
        obtain ⟨valid, cause, epoch, -, count, time⟩ :=
          sourceHealth_eq_some built
        obtain ⟨elapsed, later, rest⟩ := ih
          (clock + (nextReading readings).elapsed) readings.tail
        refine ⟨(nextReading readings).elapsed + elapsed, ?_, ?_⟩
        · rw [later]
          push_cast
          omega
        · intro records all
          obtain ⟨others, tail, rfl⟩ := Option.map_eq_some_iff.mp all
          obtain ⟨own, told⟩ := rest others tail
          constructor
          · rw [List.forall_mem_cons]
            exact ⟨⟨valid, epoch, time⟩, own⟩
          · rw [List.map_cons, List.map_cons, told, cause, count]

theorem work_moves (readings : List Reading) :
    Moves config world (world.work config readings) := by
  unfold World.work
  split
  next marking => exact .marked world marking
  next marking =>
  rw [Bool.not_eq_true] at marking
  split
  next flight worker flying =>
    exact .acknowledged world ⟨worker, marking⟩ flying rfl
  next _ hasHealth worker =>
    have place : world.At (.taking hasHealth) := ⟨worker, marking⟩
    split
    next none =>
      refine .untaken world place none.1 none.2 ?_
      split
      next calm =>
        refine .inr ⟨rfl, calm.1, ?_⟩
        simpa using calm.2
      · exact .inl rfl
    next some =>
      exact .taken world place (Classical.not_and_iff_not_or_not.mp some)
  next worker => exact .cleared world ⟨worker, marking⟩
  next _ snapshot taken worker =>
    have place : world.At (.reporting snapshot taken) := ⟨worker, marking⟩
    obtain ⟨elapsed, clock, built⟩ := healthRecords_spec config world.clock
      world.clock (snapshot.notices world.clock) readings
    have later : ({ world.toLedger with clock := (healthRecords config
        world.clock (snapshot.notices world.clock) world.clock readings).2 } :
          Ledger) = world.later elapsed := by
      rw [clock]
      rfl
    dsimp only
    rw [later]
    split
    next records succeeded =>
      obtain ⟨own, told⟩ := built records succeeded
      exact .reported world place ⟨own, told⟩
    · exact .restored world place elapsed
  next flight worker flying => exact .rejected world ⟨worker, marking⟩ flying
  next _ sequence count worker =>
    have place : world.At (.reportingRejected sequence count) :=
      ⟨worker, marking⟩
    dsimp only
    split
    next health built => exact .reportedRejected world place built
    · exact .unreported world place _
  next worker => exact .halting world ⟨worker, marking⟩
  next worker => exact .halted world ⟨worker, marking⟩
  · exact .stays world

/-- Everything that an action can do. -/
theorem act_moves (action : Action)
    (closed : world.stopping = true → world.closed = true) :
    Moves config world (world.act config action) := by
  cases action with
  | offer valid => exact tryEnqueue_moves config world valid
  | recordOverflow => exact recordOverflow_moves config world
  | close => exact close_moves config world
  | select branch => exact select_moves config world branch closed
  | flush readings => exact flush_moves config world readings
  | deliver attempt => exact deliver_moves config world attempt
  | work readings => exact work_moves config world readings

end Moves

end SentinelFlow.AuthSender
