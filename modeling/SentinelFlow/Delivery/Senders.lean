import SentinelFlow.AuthSender.Coverage
import SentinelFlow.Delivery.Chain
import SentinelFlow.EventSender.Coverage

/-!
# The runs of the senders

A ledger is reached if it belongs to a run of one of the two senders from `New`.
What every change to a ledger keeps holds of all of them: the chain of markers,
the order of delivery and the sequence numbers.
-/

namespace SentinelFlow.Delivery

open GoLib Events

/-- The ledgers that the sender of the configured kind reaches from a start at
this instant. -/
inductive Reached (config : Config) (clock : Int) : Ledger → Prop where
  | gateway {previous : Option Bytes} {reading : Reading} {stored : Bool}
      {world : EventSender.World} (kind : config.kind = .gateway)
      (started : EventSender.new config clock previous reading stored =
        some world) (steps : List EventSender.Step) :
      Reached config clock (EventSender.run config world steps).toLedger
  | auth {previous : Option Bytes} {reading : Reading} {stored : Bool}
      {world : AuthSender.World} (kind : config.kind = .auth)
      (started : AuthSender.new config clock previous reading stored =
        some world) (steps : List AuthSender.Step) :
      Reached config clock (AuthSender.run config world steps).toLedger

variable {config : Config} {clock : Int} {ledger : Ledger}

/-- Both senders change their ledgers in the same way. -/
theorem Reached.delivers (reached : Reached config clock ledger) :
    ∃ first : Ledger, first.Initial ∧
      first.coverage =
        { segmentID := coverageSegmentID config.crypto config.senderID
            config.epoch (ascii "epoch-start")
          start := coverageStartTime clock } ∧
      DeliversAll config (fun _ _ => True) first ledger := by
  cases reached with
  | gateway kind started steps =>
      obtain ⟨controlled, initial⟩ := EventSender.new_controlled started
      exact ⟨_, initial, EventSender.new_coverage started,
        EventSender.run_delivers controlled steps⟩
  | auth kind started steps =>
      obtain ⟨controlled, initial⟩ := AuthSender.new_controlled started
      exact ⟨_, initial, AuthSender.new_coverage started,
        AuthSender.run_delivers controlled steps⟩

/-- The acknowledged markers form a chain. -/
theorem acknowledged_markers_chain
    (reached : Reached config clock ledger) : ledger.Chain config clock := by
  obtain ⟨first, initial, coverage, delivers⟩ := reached.delivers
  exact (delivers.chained initial.ordered (initial.chained coverage)).toChain

theorem coveringScript_chain :
    let config := sampleConfig .gateway 2 2
    ∃ world, EventSender.sampleStart config none = some world ∧
      let final := EventSender.run config world
        (play (EventSender.World.step config) world
          (EventSender.coveringScript config))
      final.markers.length = 1 ∧ final.Chain config sampleClock := by
  intro config
  have checked : (EventSender.sampleStart config none).any (fun world =>
      decide ((EventSender.run config world
        (play (EventSender.World.step config) world
          (EventSender.coveringScript config))).markers.length = 1)) =
      true := by
    rw [show config = config.swift from Config.eq_swift rfl]
    decide +kernel
  obtain ⟨world, started, held⟩ := (Option.any_eq_true _ _).mp checked
  exact ⟨world, started, of_decide_eq_true held,
    acknowledged_markers_chain (.gateway rfl started _)⟩

/-- What a sender makes of the events that it has accepted. -/
structure Ledger.Disciplined (ledger : Ledger) : Prop where
  fifo : ledger.resolved.flatMap (offersOf ·.batch.records) ++
    offersOf ledger.held = ledger.acceptedOffers
  once : (ledger.resolved.flatMap (offersOf ·.batch.records)).Nodup
  repeated : ∀ first ∈ ledger.attempts, ∀ second ∈ ledger.attempts,
    first.flush = second.flush →
      first.batch.body = second.batch.body ∧
        first.batch.id = second.batch.id ∧
        first.batch.sequence = second.batch.sequence
  numbered : ledger.resolved.map (·.batch.sequence) =
    List.range' 1 ledger.resolved.length
  unused : ∀ attempt ∈ ledger.attempts,
    ∀ resolution ∈ ledger.resolved.take attempt.resolved,
      attempt.batch.sequence ≠ resolution.batch.sequence

/-- No two accepted events are the same offer. -/
theorem Ledger.Ordered.accepted_nodup (ordered : ledger.Ordered config) :
    ledger.acceptedOffers.Nodup := by
  have numbers : (ledger.acceptedOffers.map (·.number)).Nodup := by
    have all : (ledger.offers.map (·.number)).Nodup := by
      rw [ordered.distinct]
      exact List.nodup_range
    refine all.sublist ?_
    rw [Ledger.acceptedOffers, List.map_map]
    exact List.filter_sublist.map _
  exact numbers.of_map

/-- The numbers of the batches resolved before an attempt are smaller. -/
theorem Ledger.Ordered.sequence_unused
    (ordered : ledger.Ordered config) {attempt : Attempted}
    (member : attempt ∈ ledger.attempts) {resolution : Resolution}
    (before : resolution ∈ ledger.resolved.take attempt.resolved) :
    attempt.batch.sequence ≠ resolution.batch.sequence := by
  obtain ⟨number, bounded, -⟩ := ordered.attempted attempt member
  have small : resolution.batch.sequence ∈
      (ledger.resolved.map (·.batch.sequence)).take attempt.resolved := by
    rw [← List.map_take]
    exact List.mem_map_of_mem before
  rw [ordered.numbered] at small
  obtain ⟨index, inside, same⟩ := List.mem_take_iff_getElem.mp small
  rw [List.getElem_range'] at same
  omega

/-- Events are handed over in order and once, under numbers without a gap. -/
theorem accepted_events_disciplined
    (reached : Reached config clock ledger) : ledger.Disciplined := by
  obtain ⟨first, initial, -, delivers⟩ := reached.delivers
  have ordered : ledger.Ordered config :=
    delivers.keeps (fun _ _ change ordered => ordered.delivers change)
      initial.ordered
  refine ⟨ordered.fifo, ?_, ?_, ordered.numbered, ?_⟩
  · have all := ordered.accepted_nodup
    rw [← ordered.fifo] at all
    exact all.of_append_left
  · intro first memberFirst second memberSecond same
    rw [ordered.repeated first memberFirst second memberSecond same]
    exact ⟨rfl, rfl, rfl⟩
  · intro attempt member resolution before
    exact ordered.sequence_unused member before

theorem coveringScript_disciplined :
    let config := sampleConfig .auth 2 2
    ∃ world, AuthSender.sampleStart config none = some world ∧
      let final := AuthSender.run config world
        (play (AuthSender.World.step config) world
          (AuthSender.coveringScript config))
      final.acceptedOffers.length = 1 ∧ final.toLedger.Disciplined := by
  intro config
  have checked : (AuthSender.sampleStart config none).any (fun world =>
      decide ((AuthSender.run config world
        (play (AuthSender.World.step config) world
          (AuthSender.coveringScript config))).acceptedOffers.length = 1)) =
      true := by
    rw [show config = config.swift from Config.eq_swift rfl]
    decide +kernel
  obtain ⟨world, started, held⟩ := (Option.any_eq_true _ _).mp checked
  exact ⟨world, started, of_decide_eq_true held,
    accepted_events_disciplined (.auth rfl started _)⟩

end SentinelFlow.Delivery
