import SentinelFlow.Events.Records

/-!
# Batches of the event senders

What the workers of packages `eventsender` and `authsender` compute in the same
way: the coverage boundary, a health record and the next batch.  Generated
identifiers and clock readings come from outside; the body of a batch is
whatever `json.Marshal` makes of it.
-/

namespace SentinelFlow.Delivery

open GoLib Events

/-- An event offered to `TryEnqueue`, known by its number and by the clock while
the offer held `enqueueMu`. -/
structure Offer where
  number : Nat
  time : Int
deriving DecidableEq, Repr

abbrev Record := EventRecord Offer Offer

abbrev Envelope := EventBatch Offer Offer

namespace Record

def isHealth : Record → Bool
  | .sourceHealth _ => true
  | _ => false

def offer? : Record → Option Offer
  | .gatewayHTTP offer => some offer
  | .authEvent offer => some offer
  | _ => none

end Record

/-- The two packages send different events to different endpoints. -/
inductive Kind where
  | gateway
  | auth
deriving DecidableEq, Repr

def Kind.record : Kind → Offer → Record
  | .gateway, offer => .gatewayHTTP offer
  | .auth, offer => .authEvent offer

/-- The configuration that `New` accepts, with the epoch it has drawn. -/
structure Config where
  kind : Kind
  crypto : Crypto
  marshal : Envelope → Option Bytes
  senderID : Bytes
  epoch : Bytes
  queueCapacity : Nat
  batchSize : Nat
  maxBatchBytes : Nat
  senderID_valid : senderIDPattern.matchString senderID = true
  epoch_valid : ∀ field, validateSenderEpoch field epoch = none
  queueCapacity_le : queueCapacity ≤ 1000000
  batchSize_pos : 1 ≤ batchSize
  batchSize_le_records : batchSize ≤ maxEventBatchRecords
  batchSize_le_queue : batchSize ≤ queueCapacity
  maxBatchBytes_ge : 1024 ≤ maxBatchBytes
  maxBatchBytes_le : maxBatchBytes ≤ maxEventBatchBodyBytes

/-- The fields of a `Sender` that say where the next marker starts. -/
structure Coverage where
  segmentID : Bytes
  start : Int
  previousDigest : Bytes := []
  committed : Bool := false
deriving DecidableEq

/-- A batch ready to be sent; `body` encodes `envelope`.  Only package
`eventsender` has a health generation. -/
structure Batch where
  body : Bytes
  envelope : Envelope
  hasHealth : Bool
  healthGeneration : UInt64
  hasCoverage : Bool
  coverageDigest : Bytes
  coverageEnd : Int
deriving DecidableEq

abbrev Batch.id (batch : Batch) : Bytes := batch.envelope.batchID

abbrev Batch.sequence (batch : Batch) : Nat := batch.envelope.sequence

abbrev Batch.records (batch : Batch) : List Record := batch.envelope.records

/-- The next result of `NewID`, and the time that passes before the clock is
read after it. -/
structure Reading where
  newID : Option Bytes
  elapsed : Nat := 0

/-- A generated identifier is used only if it is a lower-case UUID. -/
def generatedID (newID : Option Bytes) : Option Bytes :=
  newID.filter fun text => uuidPattern.matchString text

def containsSourceHealth (records : List Record) : Bool :=
  records.any Record.isHealth

/-! ## Coverage boundaries -/

def coverageCutTime (now : Int) : Int :=
  Time.truncateMillisecond now

def coverageStartTime (now : Int) : Int :=
  let start := Time.truncateMillisecond now
  if start < now then start + Time.millisecond else start

/-- The instant up to which a health record accounts for losses. -/
def recoveryTime (health : SourceHealth) : Int :=
  health.intervalEnd.getD health.occurredAt

/-- One step of the loop over the records.  The zero instant stands for a
boundary that is not set. -/
def laterBoundary (epoch : Bytes) (boundary : Int) : Record → Int
  | .sourceHealth health =>
      if health.affectedSenderEpoch ≠ epoch then boundary
      else if boundary = 0 ∨ boundary < recoveryTime health then
        recoveryTime health
      else boundary
  | _ => boundary

def healthRecoveryBoundary (records : List Record) (epoch : Bytes) :
    Option Int :=
  let boundary := records.foldl (laterBoundary epoch) 0
  if boundary = 0 then none else some boundary

def canAttachCoverage (config : Config) (degraded : Bool) (coverage : Coverage)
    (clock : Int) (pending : List Record) : Bool :=
  if degraded || containsSourceHealth pending then false
  else if pending.length >
      min (config.batchSize - 1) (maxEventBatchRecords - 1) then false
  else
    let now := coverageCutTime clock
    if now < coverage.start then false
    else if !coverage.committed then true
    else if ¬ coverage.start < now then false
    else if pending ≠ [] then true
    else coverage.start + Time.second ≤ now

def commitCoverage (coverage : Coverage) (current : Batch) : Coverage :=
  if !current.hasCoverage then coverage
  else
    { coverage with
      previousDigest := current.coverageDigest
      start := current.coverageEnd
      committed := true }

def resetCoverageAfterHealth (config : Config) (coverage : Coverage)
    (current : Batch) : Coverage :=
  match healthRecoveryBoundary current.records config.epoch with
  | none => coverage
  | some start =>
      { segmentID := coverageSegmentID config.crypto config.senderID
          config.epoch current.id
        start := coverageStartTime start
        previousDigest := []
        committed := false }

/-! ## Health records -/

/-- `sourceHealth`; every failure is reported in the same way. -/
def sourceHealth (config : Config) (cause : SourceHealthCause)
    (state : SourceHealthState) (detail : SourceHealthDetailCode)
    (affectedEpoch : Bytes) (sequence : Option Nat)
    (interval : Option (Int × Int)) (dropped : Nat) (newID : Option Bytes)
    (now : Int) : Option SourceHealth :=
  match generatedID newID with
  | none => none
  | some eventID =>
      let event : SourceHealth :=
        { eventID
          idempotencyKey := digestText config.crypto
            (lines [ascii "source-health-v1", config.senderID, affectedEpoch]
              ++ eventID)
          occurredAt := now
          sourceID := config.senderID
          cause
          state
          affectedSenderEpoch := affectedEpoch
          sequenceStart := sequence
          sequenceEnd := sequence
          intervalStart := interval.map (·.1)
          intervalEnd := interval.map (·.2)
          droppedCount := dropped
          detailCode := detail }
      if event.validate = none then some event else none

def uncleanRestartEvent (config : Config) (previousEpoch : Bytes)
    (reading : Reading) (clock : Int) : Option SourceHealth :=
  sourceHealth config .uncleanRestart .lost .senderRestart previousEpoch none
    none 0 reading.newID (clock + reading.elapsed)

def rejectedBatchEvent (config : Config) (sequence count : Nat)
    (reading : Reading) (clock : Int) : Option SourceHealth :=
  sourceHealth config .rejectedBatch .lost .receiverRejected config.epoch
    (some sequence) none count reading.newID (clock + reading.elapsed)

/-! ## Building -/

inductive BuildError where
  | noSendableBatch
  | sequenceExhausted
  | coverageTooLarge
  | recordTooLarge
  | invalidBatchID
  | forbiddenRecord
  | foreignHealth
  | invalidCoverage
  | invalidCoverageDigest
  | invalidBatch
  | unencodable
deriving DecidableEq, Repr

/-- What the sender refuses to send. -/
def refusal (config : Config) : Record → Option BuildError
  | .gatewayHTTP _ =>
      if config.kind = .gateway then none else some .forbiddenRecord
  | .authEvent _ => if config.kind = .auth then none else some .forbiddenRecord
  | .sourceHealth health =>
      if health.sourceID ≠ config.senderID then some .foreignHealth else none
  | .sourceCoverage _ => some .forbiddenRecord

section Building

variable (config : Config) (sequence : Nat) (coverage : Coverage)
  (generation : UInt64)

/-- The end of `buildEnvelope`: validation and encoding.  Only valid events enter
the queue, so their own validation cannot fail here. -/
def sealEnvelope (now : Int) (batchID : Bytes) (records : List Record)
    (coverageDigest : Option Bytes) : Except BuildError Batch :=
  let envelope : Envelope :=
    { senderID := config.senderID
      senderEpoch := config.epoch
      batchID
      sequence
      sentAt := now
      records }
  if envelope.validate (fun _ => none) (fun _ => none) ≠ none then
    .error .invalidBatch
  else match config.marshal envelope with
  | none => .error .unencodable
  | some body =>
      .ok {
        body
        envelope
        hasHealth := containsSourceHealth records
        healthGeneration := generation
        hasCoverage := coverageDigest.isSome
        coverageDigest := coverageDigest.getD []
        coverageEnd := now }

def buildEnvelope (clock : Int) (newID : Option Bytes) (pending : List Record)
    (count : Nat) (withCoverage : Bool) : Except BuildError Batch :=
  match generatedID newID with
  | none => .error .invalidBatchID
  | some batchID =>
      let now := coverageCutTime clock
      let records := pending.take count
      match records.findSome? (refusal config) with
      | some error => .error error
      | none =>
          if withCoverage then
            match newSourceCoverage config.crypto config.senderID config.epoch
                coverage.segmentID
                (if coverage.committed then some coverage.previousDigest
                  else none)
                coverage.start now batchID sequence with
            | none => .error .invalidCoverage
            | some marker =>
                match marker.digest config.crypto with
                | none => .error .invalidCoverageDigest
                | some digest =>
                    sealEnvelope config sequence generation now batchID
                      (records ++ [.sourceCoverage marker]) (some digest)
          else
            sealEnvelope config sequence generation now batchID records none

/-- One use of the identifiers and the clock.  An exhausted supply of
identifiers fails. -/
def nextReading (readings : List Reading) : Reading :=
  readings.headD { newID := none }

/-- The loop that drops records from the end until the body fits. -/
def shrinkBatch (pending : List Record) :
    (count : Nat) → (clock : Int) → List Reading →
      Except BuildError (Batch × Nat) × Int
  | 0, clock, _ => (.error .recordTooLarge, clock)
  | count + 1, clock, readings =>
      let reading := nextReading readings
      let now := clock + reading.elapsed
      match buildEnvelope config sequence coverage generation now reading.newID
          pending (count + 1) false with
      | .error error => (.error error, now)
      | .ok current =>
          if current.body.length ≤ config.maxBatchBytes then
            (.ok (current, count + 1), now)
          else shrinkBatch pending count now readings.tail

/-- The batch and the number of pending records in it, and the clock after the
last reading. -/
def buildBatchWithCoverage (clock : Int) (readings : List Reading)
    (pending : List Record) (wantCoverage : Bool) :
    Except BuildError (Batch × Nat) × Int :=
  let shrink := shrinkBatch config sequence coverage generation pending
    (min pending.length config.batchSize)
  if ¬ safePositive sequence then (.error .sequenceExhausted, clock)
  else if pending = [] ∧ !wantCoverage then (.error .noSendableBatch, clock)
  else if wantCoverage then
    let reading := nextReading readings
    let now := clock + reading.elapsed
    match buildEnvelope config sequence coverage generation now reading.newID
        pending pending.length true with
    | .error error => (.error error, now)
    | .ok current =>
        if current.body.length ≤ config.maxBatchBytes then
          (.ok (current, pending.length), now)
        else if pending = [] then (.error .coverageTooLarge, now)
        else shrink now readings.tail
  else shrink clock readings

end Building

/-! ## Boundaries -/

theorem coverageCutTime_le (now : Int) : coverageCutTime now ≤ now :=
  Time.truncateMillisecond_le now

theorem le_coverageStartTime (now : Int) : now ≤ coverageStartTime now := by
  unfold coverageStartTime Time.truncateMillisecond Time.millisecond
  dsimp only
  split <;> omega

theorem coverageStartTime_mono
    {early late : Int} (ordered : early ≤ late) :
    coverageStartTime early ≤ coverageStartTime late := by
  unfold coverageStartTime Time.truncateMillisecond Time.millisecond
  dsimp only
  split <;> split <;> omega

/-- The health records that report on the sender's own epoch. -/
def OwnHealth (epoch : Bytes) (records : List Record) (health : SourceHealth) :
    Prop :=
  .sourceHealth health ∈ records ∧ health.affectedSenderEpoch = epoch

variable {epoch : Bytes} {health : SourceHealth}

private theorem boundary_mem
    {records : List Record} (first : Int) :
    records.foldl (laterBoundary epoch) first = first ∨
      ∃ health, OwnHealth epoch records health ∧
        records.foldl (laterBoundary epoch) first = recoveryTime health := by
  induction records generalizing first with
  | nil => exact .inl rfl
  | cons record records ih =>
      rw [List.foldl_cons]
      rcases ih (laterBoundary epoch first record) with
        same | ⟨health, own, reached⟩
      · rw [same]
        unfold laterBoundary
        split
        next health =>
          split
          · exact .inl rfl
          next own =>
            split
            · exact .inr ⟨health, ⟨List.mem_cons_self, not_not.mp own⟩, rfl⟩
            · exact .inl rfl
        · exact .inl rfl
      · exact .inr ⟨health, ⟨List.mem_cons_of_mem _ own.1, own.2⟩, reached⟩

/-- The boundary is one of the instants that the records report. -/
theorem healthRecoveryBoundary_mem
    {records : List Record} {boundary : Int}
    (found : healthRecoveryBoundary records epoch = some boundary) :
    ∃ health, OwnHealth epoch records health ∧
      boundary = recoveryTime health := by
  unfold healthRecoveryBoundary at found
  dsimp only at found
  split at found
  · cases found
  next set =>
    cases found
    exact (boundary_mem _).resolve_left set

private theorem boundary_ge
    {records : List Record} {first : Int}
    (positive : ∀ health, OwnHealth epoch records health →
      0 ≤ recoveryTime health)
    (start : 0 ≤ first) :
    first ≤ records.foldl (laterBoundary epoch) first ∧
      ∀ health, OwnHealth epoch records health →
        recoveryTime health ≤ records.foldl (laterBoundary epoch) first := by
  induction records generalizing first with
  | nil =>
      refine ⟨Int.le_refl _, ?_⟩
      rintro health ⟨member, -⟩
      cases member
  | cons record records ih =>
      rw [List.foldl_cons]
      have step : first ≤ laterBoundary epoch first record ∧
          ∀ health, record = .sourceHealth health →
            health.affectedSenderEpoch = epoch →
              recoveryTime health ≤ laterBoundary epoch first record := by
        unfold laterBoundary
        split
        next health =>
          split
          next foreign =>
            refine ⟨Int.le_refl _, ?_⟩
            rintro _ ⟨⟩ own
            exact absurd own foreign
          next own =>
            have later := positive health
              ⟨List.mem_cons_self, not_not.mp own⟩
            split
            next due =>
              refine ⟨by omega, ?_⟩
              rintro _ ⟨⟩ -
              exact Int.le_refl _
            next done =>
              refine ⟨Int.le_refl _, ?_⟩
              rintro _ ⟨⟩ -
              omega
        next other =>
          refine ⟨Int.le_refl _, ?_⟩
          rintro health same
          exact absurd same (other health)
      obtain ⟨grows, bounds⟩ := ih
        (fun health own => positive health
          ⟨List.mem_cons_of_mem _ own.1, own.2⟩)
        (start.trans step.1)
      refine ⟨step.1.trans grows, ?_⟩
      rintro health ⟨member, own⟩
      rcases List.mem_cons.mp member with here | there
      · exact (step.2 health here.symm own).trans grows
      · exact bounds health ⟨there, own⟩

/-- If the clock has never been before the zero instant, the boundary is not
before any instant that the records report. -/
theorem recoveryTime_le_boundary
    {records : List Record}
    (positive : ∀ health, OwnHealth epoch records health →
      0 ≤ recoveryTime health)
    (own : OwnHealth epoch records health) :
    recoveryTime health ≤
      (healthRecoveryBoundary records epoch).getD 0 := by
  have bounds := (boundary_ge positive (Int.le_refl 0)).2 health own
  unfold healthRecoveryBoundary
  dsimp only
  split
  next zero => exact bounds.trans_eq zero
  · exact bounds

/-- After a reset the next marker starts no earlier than any health record of
the batch says. -/
theorem recoveryTime_le_reset
    {config : Config} {coverage : Coverage} {current : Batch}
    (positive : ∀ health, OwnHealth config.epoch current.records health →
      0 ≤ recoveryTime health)
    (start : 0 ≤ coverage.start)
    (own : OwnHealth config.epoch current.records health) :
    recoveryTime health ≤
      (resetCoverageAfterHealth config coverage current).start := by
  have bound := recoveryTime_le_boundary positive own
  unfold resetCoverageAfterHealth
  split
  next none =>
    rw [none] at bound
    exact bound.trans start
  next boundary found =>
    rw [found] at bound
    exact bound.trans (le_coverageStartTime _)

/-! ## What is built -/

structure HealthOf (config : Config) (health : SourceHealth) : Prop where
  source : health.sourceID = config.senderID
  valid : health.validate = none

theorem sourceHealth_eq_some
    {config : Config} {cause : SourceHealthCause} {state : SourceHealthState}
    {detail : SourceHealthDetailCode} {sequence : Option Nat}
    {interval : Option (Int × Int)} {dropped : Nat} {newID : Option Bytes}
    {now : Int}
    (built : sourceHealth config cause state detail epoch sequence interval
      dropped newID now = some health) :
    HealthOf config health ∧ health.cause = cause ∧
      health.affectedSenderEpoch = epoch ∧
      health.sequenceStart = sequence ∧ health.droppedCount = dropped ∧
      recoveryTime health = (interval.map (·.2)).getD now := by
  unfold sourceHealth at built
  split at built
  · cases built
  next eventID _ =>
    dsimp only at built
    split at built
    next valid =>
      cases built
      exact ⟨⟨rfl, valid⟩, rfl, rfl, rfl, rfl, rfl⟩
    · cases built

/-- The marker of a batch says what the sender knew when it was built. -/
structure Marks (config : Config) (coverage : Coverage) (batch : Batch)
    (marker : SourceCoverage) : Prop where
  epoch : marker.affectedSenderEpoch = config.epoch
  segment : marker.segmentID = coverage.segmentID
  previous : marker.previousCoverageDigest =
    if coverage.committed then some coverage.previousDigest else none
  start : marker.coverageStart = coverage.start
  finish : marker.coverageEnd = batch.coverageEnd
  ordered : marker.coverageStart ≤ marker.coverageEnd
  batchID : marker.coveredThroughBatchID = batch.id
  sequence : marker.coveredThroughSequence = batch.sequence
  digest : marker.digest config.crypto = some batch.coverageDigest

/-- A batch and the number of pending records in it. -/
structure Flight where
  batch : Batch
  count : Nat

/-- What is known of a batch built from the pending records. -/
structure Sealed (config : Config) (sequence : Nat) (coverage : Coverage)
    (pending : List Record) (flight : Flight) : Prop where
  epoch : flight.batch.envelope.senderEpoch = config.epoch
  sequence : flight.batch.sequence = sequence
  exists_encoding : config.marshal flight.batch.envelope =
    some flight.batch.body
  health : flight.batch.hasHealth =
    containsSourceHealth (pending.take flight.count)
  admitted : ∀ record ∈ pending.take flight.count, refusal config record = none
  plain : flight.batch.hasCoverage = false →
    0 < flight.count ∧ flight.count ≤ pending.length ∧
      flight.batch.records = pending.take flight.count
  covering : flight.batch.hasCoverage = true →
    flight.count = pending.length ∧ ∃ marker,
      flight.batch.records = pending ++ [.sourceCoverage marker] ∧
        Marks config coverage flight.batch marker

theorem newSourceCoverage_eq_some
    {crypto : Crypto} {sourceID senderEpoch segmentID batchID : Bytes}
    {previous : Option Bytes} {start finish : Int} {sequence : Nat}
    {marker : SourceCoverage}
    (built : newSourceCoverage crypto sourceID senderEpoch segmentID previous
      start finish batchID sequence = some marker) :
    marker.affectedSenderEpoch = senderEpoch ∧ marker.segmentID = segmentID ∧
      marker.previousCoverageDigest = previous ∧
      marker.coverageStart = start ∧ marker.coverageEnd = finish ∧
      marker.coveredThroughBatchID = batchID ∧
      marker.coveredThroughSequence = sequence ∧ start ≤ finish := by
  unfold newSourceCoverage at built
  dsimp only at built
  split at built
  · cases built
  split at built
  next valid =>
    cases built
    rw [SourceCoverage.validate, firstError_eq_none_iff] at valid
    have ordered : start ≤ finish := by
      have checked := valid (require (start ≤ finish) "coverage_end"
        .invariantViolation "must not precede coverage_start") (by simp)
      simpa using checked
    exact ⟨rfl, rfl, rfl, rfl, rfl, rfl, rfl, ordered⟩
  · cases built

section Building

variable {config : Config} {sequence : Nat} {coverage : Coverage}
  {generation : UInt64} {clock now : Int} {pending : List Record}
  {readings : List Reading}

theorem sealEnvelope_eq_ok
    {batchID : Bytes} {records : List Record} {digest : Option Bytes}
    {batch : Batch}
    (built : sealEnvelope config sequence generation now batchID records
      digest = .ok batch) :
    batch.envelope = ⟨config.senderID, config.epoch, batchID, sequence, now,
        records⟩ ∧
      config.marshal batch.envelope = some batch.body ∧
      batch.hasHealth = containsSourceHealth records ∧
      batch.healthGeneration = generation ∧
      batch.hasCoverage = digest.isSome ∧
      batch.coverageDigest = digest.getD [] ∧ batch.coverageEnd = now := by
  unfold sealEnvelope at built
  dsimp only at built
  split at built
  · cases built
  split at built
  · cases built
  next encoded =>
    cases built
    exact ⟨rfl, encoded, rfl, rfl, rfl, rfl, rfl⟩

theorem containsSourceHealth_append (left right : List Record) :
    containsSourceHealth (left ++ right) =
      (containsSourceHealth left || containsSourceHealth right) :=
  List.any_append

theorem buildEnvelope_eq_ok
    {newID : Option Bytes} {count : Nat} {withCoverage : Bool} {batch : Batch}
    (built : buildEnvelope config sequence coverage generation clock newID
      pending count withCoverage = .ok batch)
    (whole : withCoverage = true → count = pending.length)
    (part : withCoverage = false → 0 < count ∧ count ≤ pending.length) :
    Sealed config sequence coverage pending ⟨batch, count⟩ ∧
      batch.healthGeneration = generation ∧
      batch.hasCoverage = withCoverage ∧ batch.coverageEnd ≤ clock := by
  unfold buildEnvelope at built
  split at built
  · cases built
  dsimp only at built
  split at built
  · cases built
  next none =>
  have admitted := List.findSome?_eq_none_iff.mp none
  split at built
  next covering =>
    split at built
    · cases built
    next marker marked =>
      split at built
      · cases built
      next digest digested =>
        obtain ⟨envelope, encoded, health, same, covers, written, finish⟩ :=
          sealEnvelope_eq_ok built
        obtain ⟨epoch, segment, previous, start, ends, batchID, number,
          ordered⟩ := newSourceCoverage_eq_some marked
        have count := whole covering
        refine ⟨⟨?_, ?_, encoded, ?_, admitted, ?_, ?_⟩, same, ?_, ?_⟩
        · rw [envelope]
        · rw [Batch.sequence, envelope]
        · rw [health, containsSourceHealth_append]
          exact Bool.or_false _
        · intro bare
          rw [covers] at bare
          cases bare
        · intro _
          refine ⟨count, marker, ?_, epoch, segment, previous, start,
            ends.trans finish.symm, ?_, ?_, ?_, ?_⟩
          · rw [Batch.records, envelope, count, List.take_length]
          · rw [start, ends]
            exact ordered
          · rw [batchID, Batch.id, envelope]
          · rw [number, Batch.sequence, envelope]
          · rw [digested, written]
            rfl
        · rw [covers, covering]
          rfl
        · rw [finish]
          exact coverageCutTime_le clock
  next bare =>
    obtain ⟨envelope, encoded, health, same, covers, -, finish⟩ :=
      sealEnvelope_eq_ok built
    have none := Bool.not_eq_true _ ▸ bare
    obtain ⟨positive, bounded⟩ := part none
    refine ⟨⟨?_, ?_, encoded, health, admitted, ?_, ?_⟩, same, ?_, ?_⟩
    · rw [envelope]
    · rw [Batch.sequence, envelope]
    · intro _
      refine ⟨positive, bounded, ?_⟩
      rw [Batch.records, envelope]
    · intro covering
      rw [covers] at covering
      cases covering
    · rw [covers, none]
      rfl
    · rw [finish]
      exact coverageCutTime_le clock

theorem le_shrinkBatch_clock (count : Nat) :
    clock ≤ (shrinkBatch config sequence coverage generation pending count
      clock readings).2 := by
  induction count generalizing clock readings with
  | zero => exact Int.le_refl _
  | succ count ih =>
      have later : clock ≤ clock + (nextReading readings).elapsed := by omega
      unfold shrinkBatch
      dsimp only
      split
      · exact later
      · split
        · exact later
        · exact later.trans ih

theorem shrinkBatch_eq_ok
    {count : Nat} {current : Batch} {taken : Nat}
    (bounded : count ≤ pending.length)
    (built : shrinkBatch config sequence coverage generation pending count
      clock readings = (.ok (current, taken), now)) :
    Sealed config sequence coverage pending ⟨current, taken⟩ ∧
      current.healthGeneration = generation ∧
      current.hasCoverage = false := by
  induction count generalizing clock readings with
  | zero => cases built
  | succ count ih =>
      unfold shrinkBatch at built
      dsimp only at built
      split at built
      · cases built
      next batch sealed =>
        split at built
        · cases built
          obtain ⟨facts, same, bare, -⟩ := buildEnvelope_eq_ok sealed
            (by simp) (fun _ => ⟨Nat.succ_pos _, bounded⟩)
          exact ⟨facts, same, bare⟩
        · exact ih (by omega) built

theorem le_buildBatchWithCoverage_clock (wantCoverage : Bool) :
    clock ≤ (buildBatchWithCoverage config sequence coverage generation clock
      readings pending wantCoverage).2 := by
  have later : clock ≤ clock + (nextReading readings).elapsed := by omega
  unfold buildBatchWithCoverage
  dsimp only
  split
  · exact Int.le_refl _
  split
  · exact Int.le_refl _
  split
  · split
    · exact later
    · split
      · exact later
      · split
        · exact later
        · exact later.trans (le_shrinkBatch_clock _)
  · exact le_shrinkBatch_clock _

theorem buildBatchWithCoverage_eq_ok
    {wantCoverage : Bool} {current : Batch} {count : Nat}
    (built : buildBatchWithCoverage config sequence coverage generation clock
      readings pending wantCoverage = (.ok (current, count), now)) :
    Sealed config sequence coverage pending ⟨current, count⟩ ∧
      current.healthGeneration = generation ∧
      (current.hasCoverage = true →
        wantCoverage = true ∧ current.coverageEnd ≤ now) := by
  have plain : ∀ {clock readings}, shrinkBatch config sequence coverage
      generation pending (min pending.length config.batchSize) clock
        readings = (.ok (current, count), now) →
      Sealed config sequence coverage pending ⟨current, count⟩ ∧
        current.healthGeneration = generation ∧
        (current.hasCoverage = true →
          wantCoverage = true ∧ current.coverageEnd ≤ now) := by
    intro clock readings shrunk
    obtain ⟨facts, same, bare⟩ :=
      shrinkBatch_eq_ok (Nat.min_le_left _ _) shrunk
    refine ⟨facts, same, ?_⟩
    rw [bare]
    exact fun covering => by cases covering
  unfold buildBatchWithCoverage at built
  dsimp only at built
  split at built
  · cases built
  split at built
  · cases built
  split at built
  next wanted =>
    split at built
    · cases built
    next sealed =>
      split at built
      · cases built
        obtain ⟨facts, same, -, finish⟩ := buildEnvelope_eq_ok sealed
          (fun _ => rfl) (by simp)
        exact ⟨facts, same, fun _ => ⟨wanted, finish⟩⟩
      · split at built
        · cases built
        · exact plain built
  · exact plain built

theorem canAttachCoverage_eq_true
    {degraded : Bool}
    (attachable : canAttachCoverage config degraded coverage clock pending =
      true) :
    degraded = false ∧ containsSourceHealth pending = false := by
  unfold canAttachCoverage at attachable
  split at attachable
  · cases attachable
  next healthy =>
    simpa using healthy

end Building

end SentinelFlow.Delivery
