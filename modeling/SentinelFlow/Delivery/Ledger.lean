import SentinelFlow.Delivery.Batch
import Mathlib.Logic.Relation

/-!
# The ledger of a sender

What both senders have in common, seen from outside: the records they hold, the
batch in flight, the coverage state, and the history of offers, attempts and
resolved batches.  `Delivers` says which changes a sender may make to it.  The
order of delivery, the sequence numbers and the contents of attempts follow from
these alone.
-/

namespace SentinelFlow.Delivery

open GoLib Events

inductive EnqueueResult where
  | accepted
  | degraded
  | dropped
deriving DecidableEq, Repr

/-- A call of `TryEnqueue`: whether the event was valid, whether the sender was
still serving while the call held the lock, and what the call returned. -/
structure Offered extends Offer where
  valid : Bool
  serving : Bool
  result : EnqueueResult
deriving DecidableEq

def Offered.accepted (entry : Offered) : Bool :=
  entry.result != .dropped

/-- A valid event that was offered in time and found no room. -/
def Offered.overflowed (entry : Offered) : Bool :=
  entry.valid && entry.serving && entry.result == .dropped

/-- A batch that was acknowledged or permanently rejected. -/
structure Resolution where
  batch : Batch
  accepted : Bool
deriving DecidableEq

/-- An HTTP request: what it carried, the flush that made it and the number of
batches resolved before it. -/
structure Attempted where
  batch : Batch
  flush : Nat
  resolved : Nat
deriving DecidableEq

/-- A decoded response body.  Its status is `accepted` or `duplicate`. -/
structure Acknowledgement where
  senderID : Bytes
  senderEpoch : Bytes
  batchID : Bytes
  sequence : Nat
  bodyDigest : Bytes
deriving DecidableEq

def Acknowledgement.matchesBatch (config : Config) (current : Batch)
    (ack : Acknowledgement) : Bool :=
  ack.senderID == config.senderID && ack.senderEpoch == config.epoch &&
    ack.batchID == current.id && ack.sequence == current.sequence &&
    ack.bodyDigest == digestText config.crypto current.body

/-- How one round of `deliver` goes: no nonce, no signature, no request, no
response, or a response with the acknowledgement that could be read from it and
the success of the checkpoint that would follow; or the shutdown has expired. -/
inductive Attempt where
  | noNonce
  | unsigned
  | noRequest
  | networkError
  | response (status : Nat) (ack : Option Acknowledgement) (stored : Bool)
  | expired

/-- Whether a request was made. -/
def Attempt.sent : Attempt → Bool
  | .networkError => true
  | .response _ _ _ => true
  | _ => false

/-- Whether a response carries the acknowledgement of the batch. -/
def acknowledges (config : Config) (current : Batch) : Attempt → Bool
  | .response status ack _ =>
      status == 202 && ack.any (·.matchesBatch config current)
  | _ => false

/-- The branches of `run`, and the end of its last loop. -/
inductive Branch where
  | receive
  | tick
  | stop
  | drained (expired stored : Bool)

/-- The file that tells the next process how this one ended. -/
structure Checkpoint where
  lastAcknowledgedSequence : Nat := 0
  lastAcknowledgedBodyDigest : Bytes := []
  cleanShutdown : Bool := false
deriving DecidableEq

structure Ledger where
  clock : Int
  queue : List Record := []
  pending : List Record := []
  sequence : Nat := 1
  coverage : Coverage
  flight : Option Flight := none
  flushes : Nat := 0
  offers : List Offered := []
  resolved : List Resolution := []
  attempts : List Attempted := []

/-- The events among some records. -/
def offersOf (records : List Record) : List Offer :=
  records.filterMap Record.offer?

def markersOf (records : List Record) : List SourceCoverage :=
  records.filterMap fun
    | .sourceCoverage marker => some marker
    | _ => none

namespace Ledger

/-- The records not yet resolved, in the order in which they will be sent. -/
def held (ledger : Ledger) : List Record :=
  ledger.pending ++ ledger.queue

def acceptedOffers (ledger : Ledger) : List Offer :=
  (ledger.offers.filter Offered.accepted).map Offered.toOffer

def acknowledged (ledger : Ledger) : List Batch :=
  (ledger.resolved.filter (·.accepted)).map (·.batch)

def rejected (ledger : Ledger) : List Batch :=
  (ledger.resolved.filter (!·.accepted)).map (·.batch)

/-- The acknowledged markers, in the order of their acknowledgement. -/
def markers (ledger : Ledger) : List SourceCoverage :=
  ledger.acknowledged.flatMap (markersOf ·.records)

/-- The events that will never be delivered. -/
def lost (ledger : Ledger) : List Offer :=
  (ledger.offers.filter Offered.overflowed).map Offered.toOffer ++
    ledger.rejected.flatMap (offersOf ·.records)

def offer (ledger : Ledger) (valid serving : Bool) (result : EnqueueResult) :
    Offered where
  number := ledger.offers.length
  time := ledger.clock
  valid
  serving
  result

def later (ledger : Ledger) (elapsed : Nat) : Ledger :=
  { ledger with clock := ledger.clock + elapsed }

def log (ledger : Ledger) (entry : Offered) : Ledger :=
  { ledger with offers := ledger.offers ++ [entry] }

def enqueue (ledger : Ledger) (kind : Kind) (entry : Offered) : Ledger :=
  { ledger with
    queue := ledger.queue ++ [kind.record entry.toOffer]
    offers := ledger.offers ++ [entry] }

/-- The worker receives from the queue. -/
def receive (ledger : Ledger) (count : Nat) : Ledger :=
  { ledger with
    queue := ledger.queue.drop count
    pending := ledger.pending ++ ledger.queue.take count }

theorem receive_zero (ledger : Ledger) : ledger.receive 0 = ledger := by
  simp [receive]

/-- The serialized cut: the worker drains the queue under the lock. -/
def cut (ledger : Ledger) : Ledger :=
  ledger.receive ledger.queue.length

/-- What the critical section of `flush` builds from the cut, and the clock at
its end. -/
def build (ledger : Ledger) (config : Config) (degraded : Bool)
    (generation : UInt64) (readings : List Reading) :
    Except BuildError (Batch × Nat) × Int :=
  buildBatchWithCoverage config ledger.sequence ledger.coverage generation
    ledger.clock readings ledger.cut.pending
    (canAttachCoverage config degraded ledger.coverage ledger.clock
      ledger.cut.pending)

def launch (ledger : Ledger) (flight : Flight) : Ledger :=
  { ledger with flight := some flight, flushes := ledger.flushes + 1 }

def attempt (ledger : Ledger) (flight : Flight) : Ledger :=
  { ledger with
    attempts := ledger.attempts ++
      [⟨flight.batch, ledger.flushes, ledger.resolved.length⟩] }

def abandon (ledger : Ledger) : Ledger :=
  { ledger with flight := none }

/-- What both senders do first when a batch is acknowledged or rejected. -/
def resolve (ledger : Ledger) (flight : Flight) (accepted : Bool) : Ledger :=
  { ledger with
    flight := none
    sequence := ledger.sequence + 1
    pending := ledger.pending.drop flight.count
    resolved := ledger.resolved ++ [⟨flight.batch, accepted⟩]
    coverage := if accepted then
      commitCoverage ledger.coverage flight.batch else ledger.coverage }

def reset (ledger : Ledger) (config : Config) (current : Batch) : Ledger :=
  { ledger with
    coverage := resetCoverageAfterHealth config ledger.coverage current }

/-- New health records are sent before anything else. -/
def report (ledger : Ledger) (records : List SourceHealth) : Ledger :=
  { ledger with
    pending := records.map EventRecord.sourceHealth ++ ledger.pending }

end Ledger

/-- A round of `deliver` leaves at most one attempt in the ledger. -/
def Ledger.Tries (ledger : Ledger) (flight : Flight) (tried : Ledger) : Prop :=
  tried = ledger ∨ tried = ledger.attempt flight

section Tries

variable {ledger tried : Ledger} {current : Flight}

theorem Ledger.Tries.queue (tries : ledger.Tries current tried) :
    tried.queue = ledger.queue := by
  rcases tries with rfl | rfl <;> rfl

theorem Ledger.Tries.held (tries : ledger.Tries current tried) :
    tried.held = ledger.held := by
  rcases tries with rfl | rfl <;> rfl

theorem Ledger.Tries.flight (tries : ledger.Tries current tried) :
    tried.flight = ledger.flight := by
  rcases tries with rfl | rfl <;> rfl

end Tries

/-- A batch that may be sent now. -/
structure Launchable (config : Config) (ledger : Ledger) (flight : Flight) :
    Prop where
  sealed : Sealed config ledger.sequence ledger.coverage ledger.pending flight
  covering : flight.batch.hasCoverage = true →
    flight.batch.coverageEnd ≤ ledger.clock ∧
      containsSourceHealth ledger.pending = false

variable {config : Config}

/-- A batch with a health record has no marker. -/
theorem Launchable.plain
    {ledger : Ledger} {flight : Flight}
    (ready : Launchable config ledger flight)
    (health : flight.batch.hasHealth = true) :
    flight.batch.hasCoverage = false := by
  cases covers : flight.batch.hasCoverage with
  | false => rfl
  | true =>
      have none := (ready.covering covers).2
      rw [ready.sealed.health, (ready.sealed.covering covers).1,
        List.take_length, none] at health
      cases health

theorem Ledger.build_spec
    (config : Config) (ledger : Ledger) (degraded : Bool) (generation : UInt64)
    (readings : List Reading) :
    ∃ elapsed : Nat,
      (ledger.build config degraded generation readings).2 =
        ledger.clock + elapsed ∧
      ∀ current count,
        (ledger.build config degraded generation readings).1 =
          .ok (current, count) →
        Launchable config (ledger.cut.later elapsed) ⟨current, count⟩ ∧
          current.healthGeneration = generation ∧
          (current.hasCoverage = true → degraded = false) := by
  generalize result : ledger.build config degraded generation readings = built
  have passed : ledger.clock ≤ built.2 := by
    rw [← result]
    exact le_buildBatchWithCoverage_clock _
  obtain ⟨elapsed, clock⟩ := Int.le.dest passed
  refine ⟨elapsed, clock.symm, ?_⟩
  intro current count succeeded
  have built : ledger.build config degraded generation readings =
      (.ok (current, count), ledger.clock + elapsed) := by
    rw [result, clock]
    exact Prod.ext succeeded rfl
  obtain ⟨sealed, same, covering⟩ := buildBatchWithCoverage_eq_ok built
  refine ⟨⟨sealed, ?_⟩, same, ?_⟩
  · intro covers
    obtain ⟨attached, finish⟩ := covering covers
    exact ⟨finish, (canAttachCoverage_eq_true attached).2⟩
  · intro covers
    exact (canAttachCoverage_eq_true (covering covers).1).1

/-- One change that a sender makes.  It only launches what it permits. -/
inductive Delivers (config : Config) (permit : Ledger → Flight → Prop) :
    Ledger → Ledger → Prop where
  | later (ledger : Ledger) (elapsed : Nat) :
      Delivers config permit ledger (ledger.later elapsed)
  | dropped (ledger : Ledger) (valid serving : Bool) :
      Delivers config permit ledger
        (ledger.log (ledger.offer valid serving .dropped))
  | enqueued (ledger : Ledger) {result : EnqueueResult}
      (accepted : result ≠ .dropped) :
      Delivers config permit ledger
        (ledger.enqueue config.kind (ledger.offer true true result))
  | received (ledger : Ledger) (count : Nat) (idle : ledger.flight = none) :
      Delivers config permit ledger (ledger.receive count)
  | launched (ledger : Ledger) {flight : Flight} (idle : ledger.flight = none)
      (cut : ledger.queue = []) (ready : Launchable config ledger flight)
      (permitted : permit ledger flight) :
      Delivers config permit ledger (ledger.launch flight)
  | attempted (ledger : Ledger) {flight : Flight}
      (flying : ledger.flight = some flight) :
      Delivers config permit ledger (ledger.attempt flight)
  | abandoned (ledger : Ledger) : Delivers config permit ledger ledger.abandon
  | resolved (ledger : Ledger) {flight : Flight}
      (flying : ledger.flight = some flight) (accepted : Bool) :
      Delivers config permit ledger (ledger.resolve flight accepted)
  | reset (ledger : Ledger) {current : Batch} (idle : ledger.flight = none)
      (last : ledger.resolved.getLast? = some ⟨current, true⟩) :
      Delivers config permit ledger (ledger.reset config current)
  | reported (ledger : Ledger) {records : List SourceHealth} {elapsed : Nat}
      (idle : ledger.flight = none)
      (fresh : ∀ health ∈ records, HealthOf config health ∧
        health.affectedSenderEpoch = config.epoch ∧
        ledger.clock ≤ recoveryTime health ∧
        recoveryTime health ≤ ledger.clock + elapsed) :
      Delivers config permit ledger ((ledger.later elapsed).report records)

/-- Any number of changes. -/
abbrev DeliversAll (config : Config) (permit : Ledger → Flight → Prop) :
    Ledger → Ledger → Prop :=
  Relation.ReflTransGen (Delivers config permit)

/-- What every change keeps, any number of changes keep. -/
theorem DeliversAll.keeps
    {permit : Ledger → Flight → Prop} {motive : Ledger → Prop}
    (step : ∀ ledger next, Delivers config permit ledger next → motive ledger →
      motive next)
    {first last : Ledger} (delivers : DeliversAll config permit first last)
    (holds : motive first) : motive last := by
  induction delivers with
  | refl => exact holds
  | tail _ change ih => exact step _ _ change ih

/-! ## Records that are held -/

theorem containsSourceHealth_subset
    {records others : List Record} (subset : ∀ record ∈ others,
      record.isHealth = true → record ∈ records)
    (none : containsSourceHealth records = false) :
    containsSourceHealth others = false := by
  refine List.any_eq_false.mpr ?_
  intro record member health
  exact List.any_eq_false.mp none record (subset record member health) health

theorem containsSourceHealth_event
    (kind : Kind) (offer : Offer) (records : List Record) :
    containsSourceHealth (records ++ [kind.record offer]) =
      containsSourceHealth records := by
  rw [containsSourceHealth_append]
  cases kind <;> exact Bool.or_false _

theorem enqueue_held (ledger : Ledger) (kind : Kind) (entry : Offered) :
    (ledger.enqueue kind entry).held =
      ledger.held ++ [kind.record entry.toOffer] :=
  (List.append_assoc _ _ _).symm

theorem receive_held (ledger : Ledger) (count : Nat) :
    (ledger.receive count).held = ledger.held := by
  simp [Ledger.receive, Ledger.held]

/-! ## Order -/

@[simp] theorem offersOf_append (left right : List Record) :
    offersOf (left ++ right) = offersOf left ++ offersOf right :=
  List.filterMap_append

@[simp] theorem offersOf_record (kind : Kind) (offer : Offer) :
    offersOf [kind.record offer] = [offer] := by
  cases kind <;> rfl

@[simp] theorem offersOf_health (records : List SourceHealth) :
    offersOf (records.map EventRecord.sourceHealth) = [] := by
  simp [offersOf, List.filterMap_map, Function.comp_def, Record.offer?]

theorem Sealed.offersOf_records
    {sequence : Nat} {coverage : Coverage} {pending : List Record}
    {flight : Flight}
    (sealed : Sealed config sequence coverage pending flight) :
    offersOf flight.batch.records = offersOf (pending.take flight.count) := by
  cases covers : flight.batch.hasCoverage with
  | false =>
      obtain ⟨-, -, records⟩ := sealed.plain covers
      rw [records]
  | true =>
      obtain ⟨count, marker, records, -⟩ := sealed.covering covers
      rw [records, count, List.take_length, offersOf_append]
      exact List.append_nil _

theorem Sealed.health_records
    {sequence : Nat} {coverage : Coverage} {pending : List Record}
    {flight : Flight}
    (sealed : Sealed config sequence coverage pending flight) :
    containsSourceHealth flight.batch.records = flight.batch.hasHealth := by
  rw [sealed.health]
  cases covers : flight.batch.hasCoverage with
  | false =>
      obtain ⟨-, -, records⟩ := sealed.plain covers
      rw [records]
  | true =>
      obtain ⟨count, marker, records, -⟩ := sealed.covering covers
      rw [records, count, List.take_length, containsSourceHealth_append]
      exact Bool.or_false _

/-- The order of delivery, the sequence numbers and the contents of attempts. -/
structure Ledger.Ordered (config : Config) (ledger : Ledger) : Prop where
  flying : ∀ flight, ledger.flight = some flight →
    Launchable config ledger flight
  next : ledger.sequence = ledger.resolved.length + 1
  own : ∀ resolution ∈ ledger.resolved,
    resolution.batch.envelope.senderEpoch = config.epoch
  numbered : ledger.resolved.map (·.batch.sequence) =
    List.range' 1 ledger.resolved.length
  fifo : ledger.resolved.flatMap (offersOf ·.batch.records) ++
    offersOf ledger.held = ledger.acceptedOffers
  distinct : ledger.offers.map (·.number) = List.range ledger.offers.length
  attempted : ∀ attempt ∈ ledger.attempts,
    attempt.batch.sequence = attempt.resolved + 1 ∧
      attempt.resolved ≤ ledger.resolved.length ∧
      attempt.flush ≤ ledger.flushes
  current : ∀ flight, ledger.flight = some flight →
    ∀ attempt ∈ ledger.attempts, attempt.flush = ledger.flushes →
      attempt.batch = flight.batch
  repeated : ∀ first ∈ ledger.attempts, ∀ second ∈ ledger.attempts,
    first.flush = second.flush → first.batch = second.batch

/-- A ledger on which nothing has happened yet. -/
structure Ledger.Initial (ledger : Ledger) : Prop where
  flight : ledger.flight = none
  sequence : ledger.sequence = 1
  offers : ledger.offers = []
  resolved : ledger.resolved = []
  attempts : ledger.attempts = []
  pending : ledger.pending = []
  queue : offersOf ledger.queue = []

theorem Ledger.Initial.ordered
    {ledger : Ledger} (initial : ledger.Initial) :
    ledger.Ordered config where
  flying flight flies := by
    rw [initial.flight] at flies
    cases flies
  next := by rw [initial.sequence, initial.resolved]; rfl
  own := by simp [initial.resolved]
  numbered := by rw [initial.resolved]; rfl
  fifo := by
    simp [initial.resolved, Ledger.held, initial.pending, initial.queue,
      Ledger.acceptedOffers, initial.offers]
  distinct := by rw [initial.offers]; rfl
  attempted := by simp [initial.attempts]
  current := by simp [initial.attempts]
  repeated := by simp [initial.attempts]

section Ordered

variable {config : Config} {permit : Ledger → Flight → Prop} {ledger : Ledger}

theorem Ledger.Ordered.logged
    (ordered : ledger.Ordered config) {entry : Offered}
    (number : entry.number = ledger.offers.length)
    (dropped : entry.accepted = false) : (ledger.log entry).Ordered config :=
  { ordered with
    flying := fun flight flies => { ordered.flying flight flies with }
    fifo := by
      refine ordered.fifo.trans ?_
      simp [Ledger.acceptedOffers, Ledger.log, dropped]
    distinct := by
      simp [Ledger.log, ordered.distinct, number, List.range_succ] }

theorem Ledger.Ordered.enqueued
    (ordered : ledger.Ordered config) {entry : Offered}
    (number : entry.number = ledger.offers.length)
    (accepted : entry.accepted = true) :
    (ledger.enqueue config.kind entry).Ordered config :=
  { ordered with
    flying := fun flight flies => { ordered.flying flight flies with }
    fifo := by
      have earlier := ordered.fifo
      rw [Ledger.held, offersOf_append] at earlier
      simp only [Ledger.enqueue, Ledger.held, offersOf_append, offersOf_record,
        Ledger.acceptedOffers, List.filter_append, List.map_append]
      rw [← List.append_assoc (offersOf ledger.pending), ← List.append_assoc,
        earlier]
      simp [Ledger.acceptedOffers, accepted]
    distinct := by
      simp [Ledger.enqueue, ordered.distinct, number, List.range_succ] }

theorem Ledger.Ordered.launched
    (ordered : ledger.Ordered config) {flight : Flight}
    (ready : Launchable config ledger flight) :
    (ledger.launch flight).Ordered config :=
  { ordered with
    flying := by
      rintro _ ⟨⟩
      exact ⟨ready.sealed, ready.covering⟩
    attempted := by
      intro attempt member
      obtain ⟨number, before, flush⟩ := ordered.attempted attempt member
      exact ⟨number, before, flush.trans (Nat.le_succ _)⟩
    current := by
      rintro _ ⟨⟩ attempt member this
      have flush := (ordered.attempted attempt member).2.2
      dsimp only [Ledger.launch] at this
      omega }

theorem Ledger.Ordered.attempts_append
    (ordered : ledger.Ordered config) {flight : Flight}
    (flying : ledger.flight = some flight) :
    (ledger.attempt flight).Ordered config :=
  { ordered with
    flying := fun flight flies => { ordered.flying flight flies with }
    attempted := by
      intro attempt member
      rcases List.mem_append.mp member with old | new
      · exact ordered.attempted attempt old
      · rw [List.mem_singleton.mp new]
        refine ⟨?_, Nat.le_refl _, Nat.le_refl _⟩
        rw [(ordered.flying flight flying).sealed.sequence, ordered.next]
    current := by
      intro other flies attempt member this
      cases flying.symm.trans flies
      rcases List.mem_append.mp member with old | new
      · exact ordered.current flight flying attempt old this
      · rw [List.mem_singleton.mp new]
    repeated := by
      intro first memberFirst second memberSecond same
      rcases List.mem_append.mp memberFirst with oldFirst | newFirst <;>
        rcases List.mem_append.mp memberSecond with oldSecond | newSecond
      · exact ordered.repeated first oldFirst second oldSecond same
      · rw [List.mem_singleton.mp newSecond] at same ⊢
        exact ordered.current flight flying first oldFirst same
      · rw [List.mem_singleton.mp newFirst] at same ⊢
        exact (ordered.current flight flying second oldSecond same.symm).symm
      · rw [List.mem_singleton.mp newFirst, List.mem_singleton.mp newSecond] }

theorem Ledger.Ordered.resolved_append
    (ordered : ledger.Ordered config) {flight : Flight}
    (flying : ledger.flight = some flight) (accepted : Bool) :
    (ledger.resolve flight accepted).Ordered config := by
  have sealed := (ordered.flying flight flying).sealed
  refine { ordered with
    flying := by rintro _ ⟨⟩
    current := by rintro _ ⟨⟩
    next := ?_, own := ?_, numbered := ?_, fifo := ?_, attempted := ?_ }
  · simp [Ledger.resolve, ordered.next]
  · intro resolution member
    rcases List.mem_append.mp member with old | new
    · exact ordered.own resolution old
    · rw [List.mem_singleton.mp new]
      exact sealed.epoch
  · simp only [Ledger.resolve, List.map_append, ordered.numbered,
      List.map_singleton, List.length_append, List.length_singleton,
      List.range'_1_concat]
    rw [sealed.sequence, ordered.next, Nat.add_comm]
  · have earlier := ordered.fifo
    rw [Ledger.held, offersOf_append, ← List.take_append_drop flight.count
      ledger.pending, offersOf_append, ← sealed.offersOf_records] at earlier
    refine Eq.trans ?_ earlier
    simp [Ledger.resolve, Ledger.held]
  · intro attempt member
    obtain ⟨number, before, flush⟩ := ordered.attempted attempt member
    refine ⟨number, before.trans ?_, flush⟩
    simp [Ledger.resolve]

theorem Ledger.Ordered.delivers
    {next : Ledger} (delivers : Delivers config permit ledger next)
    (ordered : ledger.Ordered config) : next.Ordered config := by
  cases delivers with
  | later =>
      refine { ordered with flying := ?_ }
      intro flight flies
      have ready := ordered.flying flight flies
      refine ⟨ready.sealed, ?_⟩
      intro covers
      obtain ⟨finish, calm⟩ := ready.covering covers
      exact ⟨finish.trans (Int.le_add_of_nonneg_right (Int.natCast_nonneg _)),
        calm⟩
  | dropped => exact ordered.logged rfl rfl
  | enqueued accepted =>
      apply ordered.enqueued rfl
      simpa [Offered.accepted, Ledger.offer] using accepted
  | received count idle =>
      refine { ordered with flying := ?_, fifo := ?_ }
      · intro flight flies
        cases idle.symm.trans flies
      · refine Eq.trans ?_ ordered.fifo
        simp [Ledger.receive, Ledger.held, -offersOf_append]
  | launched idle cut ready => exact ordered.launched ready
  | attempted flying => exact ordered.attempts_append flying
  | abandoned =>
      exact { ordered with
        flying := by rintro _ ⟨⟩
        current := by rintro _ ⟨⟩ }
  | resolved flying accepted => exact ordered.resolved_append flying accepted
  | reset idle =>
      refine { ordered with flying := ?_ }
      intro flight flies
      cases idle.symm.trans flies
  | reported idle =>
      refine { ordered with flying := ?_, fifo := ?_ }
      · intro flight flies
        cases idle.symm.trans flies
      · refine Eq.trans ?_ ordered.fifo
        simp [Ledger.report, Ledger.held, Ledger.later]

end Ordered

end SentinelFlow.Delivery
