import SentinelFlow.EventSender.Coverage

/-!
# Recovery of the gateway event sender

A degraded sender has something to report that will end the degradation, if it
does not fail to build what it has to send.
-/

namespace SentinelFlow.EventSender

open GoLib Events Delivery

variable {config : Config} {action : Action} {world next : World}

def Worker.reports : Worker → Bool
  | .reporting _ _ _ _ => true
  | _ => false

def Worker.clearsFlag : Worker → Bool
  | .clearing _ => true
  | _ => false

/-- A drop that has been counted is still counted or is in a report. -/
def World.Counts (world : World) : Prop :=
  containsSourceHealth world.held = true ∨ world.dropped ≠ 0 ∨
    world.worker.reports = true

/-- There is something to report, or the worker is about to clear the flag. -/
def World.Reason (world : World) : Prop :=
  world.Counts ∨ world.outageStart ≠ 0 ∨ world.worker.clearsFlag = true

structure World.Recoverable (world : World) : Prop where
  clock : 0 < world.clock
  reason : world.Pledged → world.Reason
  storing : world.producer = some .storing → world.Counts
  overflowing : world.flight.isSome = true →
    world.producer = some .storing ∨ world.producer = some .advancing →
      world.dropped ≠ 0
  generation : ∀ flight, world.flight = some flight →
    flight.batch.healthGeneration ≠ world.healthGeneration →
      world.dropped ≠ 0 ∨ world.outageStart ≠ 0
  marking : world.marking ≠ .idle → world.outageStart ≠ 0
  rejecting : world.worker = .rejecting → world.outageStart ≠ 0

/-- The condition under which degradation is recoverable: the counter does not
wrap around, nothing that is to be sent fails to be built, and the record for
the drops or the outage that a flush has taken is built. -/
structure World.Builds (config : Config) (world : World) (action : Action) :
    Prop where
  counted : ∀ offer, world.producer = some (.adding offer) →
    world.dropped + 1 ≠ 0
  batch : ¬ world.BuildFails config action
  report : ∀ dropped started cleared taken reading,
    world.worker = .reporting dropped started cleared taken →
      action = .work reading →
        (takenHealthEvent config dropped started world.clock reading).isSome =
          true

variable {worker : Worker}

theorem World.Counts.keep
    (counts : world.Counts) (place : world.At worker)
    (other : worker.reports = false)
    (held : containsSourceHealth world.held = true →
      containsSourceHealth next.held = true)
    (dropped : next.dropped = world.dropped) : next.Counts := by
  rcases counts with some | counted | here
  · exact .inl (held some)
  · exact .inr (.inl (dropped ▸ counted))
  · rw [place.worker, other] at here
    cases here

/-- A step that keeps what there is to report. -/
theorem World.Reason.keep
    (reason : world.Reason) (place : world.At worker)
    (other : worker.reports = false) (calm : worker.clearsFlag = false)
    (held : containsSourceHealth world.held = true →
      containsSourceHealth next.held = true)
    (dropped : next.dropped = world.dropped)
    (outage : next.outageStart = world.outageStart) : next.Reason := by
  rcases reason with counts | set | here
  · exact .inl (counts.keep place other held dropped)
  · exact .inr (.inl (outage ▸ set))
  · rw [place.worker, calm] at here
    cases here

/-- With something counted, there is a reason for everything. -/
theorem World.Recoverable.of_dropped
    (clock : 0 < next.clock) (counted : next.dropped ≠ 0)
    (marking : next.marking ≠ .idle → next.outageStart ≠ 0)
    (rejecting : next.worker = .rejecting → next.outageStart ≠ 0) :
    next.Recoverable where
  clock := clock
  reason _ := .inl (.inr (.inl counted))
  storing _ := .inr (.inl counted)
  overflowing _ _ := counted
  generation _ _ _ := .inl counted
  marking := marking
  rejecting := rejecting

/-- A step of the worker that keeps what there is to report. -/
theorem World.Recoverable.stand
    (recoverable : world.Recoverable)
    (place : world.At worker) (other : worker.reports = false)
    (calm : worker.clearsFlag = false) (clock : world.clock ≤ next.clock)
    (held : containsSourceHealth world.held = true →
      containsSourceHealth next.held = true)
    (dropped : next.dropped = world.dropped)
    (outage : next.outageStart = world.outageStart)
    (producer : next.producer = world.producer)
    (pledged : next.Pledged → world.Pledged)
    (generation : ∀ flight, next.flight = some flight →
      world.flight = some flight ∧
        next.healthGeneration = world.healthGeneration)
    (marking : next.marking = .idle)
    (rejecting : next.worker ≠ .rejecting) : next.Recoverable where
  clock := recoverable.clock.trans_le clock
  reason pledge :=
    (recoverable.reason (pledged pledge)).keep place other calm held dropped
      outage
  storing holds := (recoverable.storing (producer ▸ holds)).keep place other
    held dropped
  overflowing flies holds := by
    obtain ⟨flight, flying⟩ := Option.isSome_iff_exists.mp flies
    rw [dropped]
    rw [producer] at holds
    exact recoverable.overflowing
      (Option.isSome_iff_exists.mpr ⟨flight, (generation flight flying).1⟩)
      holds
  generation flight flying other := by
    obtain ⟨same, current⟩ := generation flight flying
    rw [current] at other
    rw [dropped, outage]
    exact recoverable.generation flight same other
  marking marks := absurd marking marks
  rejecting here := absurd here rejecting

/-- A step that records an outage. -/
theorem World.Recoverable.fail
    (recoverable : world.Recoverable)
    (place : world.At worker) (other : worker.reports = false)
    (clock : next.clock = world.clock) (held : next.held = world.held)
    (flight : next.flight = world.flight)
    (dropped : next.dropped = world.dropped)
    (producer : next.producer = world.producer)
    (outage : next.outageStart =
      if world.outageStart = 0 then world.clock else world.outageStart) :
    next.Recoverable := by
  have set : next.outageStart ≠ 0 := by
    rw [outage]
    split
    · exact recoverable.clock.ne'
    · assumption
  refine ⟨clock ▸ recoverable.clock, fun _ => .inr (.inl set), ?_, ?_,
    fun _ _ _ => .inr set, fun _ => set, fun _ => set⟩
  · intro holds
    exact (recoverable.storing (producer ▸ holds)).keep place other
      (congrArg containsSourceHealth held).trans dropped
  · rw [flight, producer, dropped]
    exact recoverable.overflowing

/-- When nothing is left to report, the sender is not degraded. -/
theorem World.not_reason
    (settled : containsSourceHealth world.held = false)
    (none : world.dropped = 0) (calm : world.outageStart = 0)
    {cleared : Bool} (place : world.At (.taking cleared)) :
    ¬ world.Reason := by
  rintro ((some | counted | here) | set | here)
  · cases settled.symm.trans some
  · exact counted none
  · rw [place.worker] at here
    cases here
  · exact set calm
  · rw [place.worker] at here
    cases here

/-- Everything that degrades the sender leaves something to report. -/
theorem World.Recoverable.moves
    (recoverable : world.Recoverable) (controlled : world.Controlled)
    (ordered : world.toLedger.Ordered config) (shaped : world.Shaped)
    (builds : world.Builds config action)
    (moves : Moves config action world next) : next.Recoverable := by
  cases moves with
  | stays => exact recoverable
  | refused
  | closed => exact { recoverable with }
  | @enqueued result =>
      have same : containsSourceHealth (world.enqueue config.kind
          (world.offer true true result)).held =
            containsSourceHealth world.held := by
        rw [enqueue_held, containsSourceHealth_event]
      refine { recoverable with reason := ?_, storing := ?_ }
      · intro pledged
        exact (recoverable.reason pledged).imp_left (Or.imp_left same.trans)
      · intro holds
        exact (recoverable.storing holds).imp_left same.trans
  | overflowed =>
      refine { recoverable with
        reason := ?_, storing := nofun, overflowing := nofun }
      rintro (set | marks | holds)
      · exact recoverable.reason (.inl set)
      · exact recoverable.reason (.inr (.inl marks))
      · cases holds
  | added holds =>
      exact .of_dropped recoverable.clock (builds.counted _ holds)
        recoverable.marking recoverable.rejecting
  | stored holds =>
      have counts := recoverable.storing holds
      refine { recoverable with
        reason := fun _ => .inl counts, storing := nofun, overflowing := ?_ }
      intro flies _
      exact recoverable.overflowing flies (.inl holds)
  | released holds =>
      refine { recoverable with
        reason := ?_, storing := nofun, overflowing := nofun
        generation := ?_ }
      · rintro (set | marks | held)
        · exact recoverable.reason (.inl set)
        · exact recoverable.reason (.inr (.inl marks))
        · cases held
      · intro flight flying _
        exact .inl (recoverable.overflowing
          (Option.isSome_iff_exists.mpr ⟨flight, flying⟩) (.inr holds))
  | selected place count worker stopping following =>
      refine recoverable.stand place rfl rfl (Int.le_refl _) ?_ rfl rfl rfl id
        (fun _ flies => ⟨flies, rfl⟩) place.marking ?_
      · rw [receive_held]
        exact id
      · rcases following with rfl | rfl <;> nofun
  | finished place =>
      exact recoverable.stand place rfl rfl (Int.le_refl _) id rfl rfl rfl id
        (fun _ flies => ⟨flies, rfl⟩) place.marking nofun
  | unsent place free elapsed failed =>
      rcases failed with rfl | ⟨-, fails⟩
      · refine recoverable.stand place rfl rfl ?_ ?_ rfl rfl rfl ?_
          (fun _ flies => ⟨flies, rfl⟩) rfl nofun
        · exact Int.le_add_of_nonneg_right (Int.natCast_nonneg _)
        · exact (congrArg containsSourceHealth
            (receive_held world.toLedger _)).trans
        · rintro (set | marks | holds)
          · exact .inl set
          · cases marks
          · exact .inr (.inr holds)
      · exact absurd fails builds.batch
  | sent place free ready generation =>
      have held := congrArg containsSourceHealth
        (receive_held world.toLedger world.queue.length)
      have holds : ∀ step, world.producer ≠ some step := by simp [free]
      refine ⟨?_, ?_, ?_, ?_, ?_, ?_, nofun⟩
      · exact recoverable.clock.trans_le
          (Int.le_add_of_nonneg_right (Int.natCast_nonneg _))
      · intro pledged
        exact (recoverable.reason pledged).keep place rfl rfl held.trans rfl rfl
      · exact fun here => absurd here (holds _)
      · rintro - (here | here)
        · exact absurd here (holds _)
        · exact absurd here (holds _)
      · rintro _ ⟨⟩ other
        exact absurd generation other
      · exact fun marks => absurd place.marking marks
  | abandoned place =>
      exact recoverable.stand place rfl rfl (Int.le_refl _) id rfl rfl rfl id
        nofun place.marking nofun
  | retried place flying tries
  | refusedBatch place flying tries =>
      rcases tries with rfl | rfl <;>
        exact recoverable.fail place rfl rfl rfl rfl rfl rfl rfl
  | delivered place flying tries =>
      rcases tries with rfl | rfl <;>
        exact recoverable.stand place rfl rfl (Int.le_refl _) id rfl rfl rfl id
          (fun _ flies => ⟨flies, rfl⟩) place.marking nofun
  | marked marking =>
      have set := recoverable.marking (by rw [marking]; nofun)
      exact { recoverable with
        reason := fun _ => .inr (.inl set)
        marking := fun _ => set }
  | counted marking =>
      have set := recoverable.marking (by rw [marking]; nofun)
      exact { recoverable with
        reason := fun _ => .inr (.inl set)
        generation := fun _ _ _ => .inr set
        marking := fun _ => set }
  | confirmed place flying =>
      have aloft := Option.isSome_iff_exists.mpr ⟨_, flying⟩
      refine ⟨recoverable.clock, fun _ => .inr (.inr rfl), ?_, nofun, nofun, ?_,
        nofun⟩
      · exact fun holds =>
          .inr (.inl (recoverable.overflowing aloft (.inl holds)))
      · exact fun marks => absurd place.marking marks
  | passed place flying other =>
      have flies : world.worker.flies = true := by rw [place.worker]; rfl
      have aloft := Option.isSome_iff_exists.mpr ⟨_, flying⟩
      refine ⟨recoverable.clock, ?_, ?_, nofun, nofun, ?_, nofun⟩
      · intro pledged
        rcases recoverable.reason pledged with
          (some | counted | here) | set | here
        · have health := shaped.hasHealth ordered flying flies some
          rcases recoverable.generation _ flying (other health) with
            counted | set
          · exact .inl (.inr (.inl counted))
          · exact .inr (.inl set)
        · exact .inl (.inr (.inl counted))
        · rw [place.worker] at here
          cases here
        · exact .inr (.inl set)
        · rw [place.worker] at here
          cases here
      · exact fun holds =>
          .inr (.inl (recoverable.overflowing aloft (.inl holds)))
      · exact fun marks => absurd place.marking marks
  | cleared place =>
      have idle := controlled.idle place rfl
      refine ⟨recoverable.clock, ?_, ?_, ?_, ?_, ?_, nofun⟩
      · rintro (set | marks | holds)
        · cases set
        · cases place.marking.symm.trans marks
        · exact .inl ((recoverable.storing holds).keep place rfl id rfl)
      · exact fun holds => (recoverable.storing holds).keep place rfl id rfl
      · intro flies
        cases (congrArg Option.isSome idle).symm.trans flies
      · intro flight flying
        cases idle.symm.trans flying
      · exact fun marks => absurd place.marking marks
  | untaken place none calm =>
      have idle := controlled.idle place rfl
      have settled := shaped.settling (by rw [place.worker]; rfl)
      have ended := World.not_reason settled none calm place
      refine ⟨recoverable.clock, ?_, ?_, ?_, ?_, ?_, nofun⟩
      · exact fun pledged => absurd (recoverable.reason pledged) ended
      · exact fun holds => absurd (.inl (recoverable.storing holds)) ended
      · intro flies
        cases (congrArg Option.isSome idle).symm.trans flies
      · intro flight flying
        cases idle.symm.trans flying
      · exact fun marks => absurd place.marking marks
  | taken place =>
      have idle := controlled.idle place rfl
      refine ⟨recoverable.clock, fun _ => .inl (.inr (.inr rfl)),
        fun _ => .inr (.inr rfl), ?_, ?_, ?_, nofun⟩
      · intro flies
        cases (congrArg Option.isSome idle).symm.trans flies
      · intro flight flying
        cases idle.symm.trans flying
      · exact fun marks => absurd place.marking marks
  | reported place reading works =>
      have idle := controlled.idle place rfl
      obtain ⟨health, built⟩ := Option.isSome_iff_exists.mp
        (builds.report _ _ _ _ _ place.worker works)
      rw [built]
      refine ⟨?_, fun _ => .inl (.inl rfl), fun _ => .inl rfl, ?_, ?_, ?_,
        nofun⟩
      · exact recoverable.clock.trans_le
          (Int.le_add_of_nonneg_right (Int.natCast_nonneg _))
      · intro flies
        cases (congrArg Option.isSome idle).symm.trans flies
      · intro flight flying
        cases idle.symm.trans flying
      · exact fun marks => absurd place.marking marks
  | @rejected place flight flying =>
      have aloft := Option.isSome_iff_exists.mpr ⟨_, flying⟩
      have set := recoverable.rejecting place.worker
      refine ⟨recoverable.clock, fun _ => .inr (.inl set), ?_, nofun, nofun,
        fun _ => set, fun _ => set⟩
      exact fun holds =>
        .inr (.inl (recoverable.overflowing aloft (.inl holds)))
  | reportedRejected place =>
      refine recoverable.stand place rfl rfl ?_ ?_ rfl rfl rfl id
        (fun _ flies => ⟨flies, rfl⟩) place.marking nofun
      · exact Int.le_add_of_nonneg_right (Int.natCast_nonneg _)
      · intro some
        refine (congrArg containsSourceHealth
          (List.append_assoc _ _ _)).trans ?_
        exact (containsSourceHealth_append _ _).trans
          (Bool.or_eq_true_iff.mpr (.inr some))

theorem World.Recoverable.wait
    (recoverable : world.Recoverable) (elapsed : Nat) :
    (world.wait elapsed).Recoverable :=
  { recoverable with
    clock := recoverable.clock.trans_le
      (Int.le_add_of_nonneg_right (Int.natCast_nonneg _)) }

theorem new_recoverable
    {clock : Int} {previous : Option Bytes} {reading : Reading} {stored : Bool}
    (positive : 0 < clock)
    (started : new config clock previous reading stored = some world) :
    world.Recoverable ∧ world.Shaped := by
  obtain ⟨coverage, -, -, rfl | ⟨health, epoch, -, -, rfl⟩⟩ :=
    new_eq_some started
  · refine ⟨⟨positive, ?_, nofun, nofun, nofun, nofun, nofun⟩,
      ⟨rfl, nofun, nofun, nofun⟩⟩
    rintro (set | marks | holds)
    · cases set
    · cases marks
    · cases holds
  · refine ⟨⟨?_, fun _ => .inl (.inl rfl), nofun, nofun, nofun, nofun, nofun⟩,
      ⟨rfl, nofun, nofun, nofun⟩⟩
    exact positive.trans_le
      (Int.le_add_of_nonneg_right (Int.natCast_nonneg _))

/-- If the sender never fails to build what it has to send or to report, then
between two flushes a degraded sender holds a health record, has counted drops
or has recorded an outage. -/
theorem degraded_recoverable
    (config : Config) (clock : Int) (previous : Option Bytes)
    (reading : Reading) (stored : Bool) (world : World) (steps : List Step)
    (positive : 0 < clock)
    (started : new config clock previous reading stored = some world)
    (builds : Permitted config (World.Builds config) world steps)
    (finished : (run config world steps).worker = .selecting)
    (degraded : (run config world steps).degraded = true) :
    containsSourceHealth ((run config world steps).pending ++
        (run config world steps).queue) = true ∨
      (run config world steps).dropped ≠ 0 ∨
      (run config world steps).outageStart ≠ 0 := by
  obtain ⟨recoverable, shaped⟩ := new_recoverable positive started
  obtain ⟨controlled, initial⟩ := new_controlled started
  have kept := (run_keeps (motive := fun world =>
      world.toLedger.Ordered config ∧ world.Shaped ∧ world.Recoverable)
    ?_ ?_ builds controlled ⟨initial.ordered, shaped, recoverable⟩).2
  · rcases kept.2.2.reason (.inl degraded) with
      (some | counted | here) | set | here
    · exact .inl some
    · exact .inr (.inl counted)
    · rw [finished] at here
      cases here
    · exact .inr (.inr set)
    · rw [finished] at here
      cases here
  · rintro world elapsed ⟨ordered, shaped, recoverable⟩
    exact ⟨ordered_wait ordered elapsed, { shaped with },
      recoverable.wait elapsed⟩
  · rintro world next action allowed controlled
      ⟨ordered, shaped, recoverable⟩ moved
    exact ⟨controlled.ordered ordered moved, shaped.moves ordered moved,
      recoverable.moves controlled ordered shaped allowed moved⟩

instance (config : Config) (world : World) (action : Action) :
    Decidable (world.Builds config action) :=
  decidable_of_iff
    ((match world.producer with
        | some (.adding _) => decide (world.dropped + 1 ≠ 0)
        | _ => true) = true ∧
      (match action with
        | .flush readings =>
            match (world.build config world.degraded world.healthGeneration
                readings).1 with
            | .error error => decide (error = .noSendableBatch)
            | .ok _ => true
        | _ => true) = true ∧
      (match world.worker, action with
        | .reporting dropped started _ _, .work reading =>
            (takenHealthEvent config dropped started world.clock reading).isSome
        | _, _ => true) = true) <| by
    constructor
    · rintro ⟨counted, batch, report⟩
      refine ⟨?_, ?_, ?_⟩
      · intro offer holds
        rw [holds] at counted
        exact of_decide_eq_true counted
      · rintro ⟨readings, error, rfl, failed, other⟩
        simp only [failed, decide_eq_true_eq] at batch
        exact other batch
      · rintro dropped started cleared taken reading here rfl
        rw [here] at report
        exact report
    · rintro ⟨counted, batch, report⟩
      refine ⟨?_, ?_, ?_⟩
      · split
        next offer holds => exact decide_eq_true (counted offer holds)
        · rfl
      · split
        next readings =>
          split
          next error failed =>
            by_contra other
            exact batch ⟨readings, error, rfl, failed, by simpa using other⟩
          · rfl
        · rfl
      · split
        next here => exact report _ _ _ _ _ here rfl
        · rfl

/-- The queue is full, and an event is dropped. -/
def overflowScript : List (World → Step) :=
  [fun _ => ⟨5000000, .offer true⟩,
    fun _ => ⟨1000000, .offer true⟩,
    fun _ => ⟨0, .overflow⟩,
    fun _ => ⟨0, .overflow⟩,
    fun _ => ⟨0, .overflow⟩]

theorem overflowScript_recoverable :
    let config := sampleConfig .gateway 2 2
    ∃ world, sampleStart config (some samplePreviousEpoch) = some world ∧
      let final := run config world
        (play (World.step config) world overflowScript)
      final.worker = .selecting ∧ final.degraded = true ∧
        (containsSourceHealth (final.pending ++ final.queue) = true ∨
          final.dropped ≠ 0 ∨ final.outageStart ≠ 0) := by
  intro config
  have checked : (sampleStart config (some samplePreviousEpoch)).any
      (fun world =>
        let steps := play (World.step config) world overflowScript
        decide (Permitted config (World.Builds config) world steps) &&
          decide ((run config world steps).worker = .selecting) &&
          (run config world steps).degraded) = true := by
    rw [show config = config.swift from Config.eq_swift rfl]
    decide +kernel
  obtain ⟨world, started, held⟩ := (Option.any_eq_true _ _).mp checked
  simp only [Bool.and_eq_true, decide_eq_true_eq] at held
  obtain ⟨⟨builds, finished⟩, degraded⟩ := held
  exact ⟨world, started, finished, degraded, degraded_recoverable config
    sampleClock (some samplePreviousEpoch) (sampleReading 800) true world _
    (by decide) started builds finished degraded⟩

/-- A flush draws no identifier for its batch. -/
def unbuiltScript : List (World → Step) :=
  [fun _ => ⟨5000000, .select .tick⟩,
    fun _ => ⟨0, .flush []⟩,
    fun _ => ⟨0, .work (sampleReading 801)⟩,
    fun _ => ⟨0, .work (sampleReading 802)⟩]

/-- The failed flush has set the flag, and nothing is left that would clear
it. -/
theorem degraded_with_nothing_to_report :
    let config := sampleConfig .gateway 2 2
    ∃ world, sampleStart config none = some world ∧
      let final := run config world
        (play (World.step config) world unbuiltScript)
      final.worker = .selecting ∧ final.marking = .idle ∧
        final.degraded = true ∧
        containsSourceHealth (final.pending ++ final.queue) = false ∧
        final.dropped = 0 ∧ final.outageStart = 0 := by
  intro config
  have checked : (sampleStart config none).any (fun world =>
      let final := run config world
        (play (World.step config) world unbuiltScript)
      decide (final.worker = .selecting ∧ final.marking = .idle ∧
        final.degraded = true ∧
        containsSourceHealth (final.pending ++ final.queue) = false ∧
        final.dropped = 0 ∧ final.outageStart = 0)) = true := by
    rw [show config = config.swift from Config.eq_swift rfl]
    decide +kernel
  obtain ⟨world, started, held⟩ := (Option.any_eq_true _ _).mp checked
  exact ⟨world, started, of_decide_eq_true held⟩

end SentinelFlow.EventSender
