import SentinelFlow.Delivery.Attest
import SentinelFlow.EventSender.Runs

/-!
# Health records and flags of the gateway event sender

There is never more than one health record on its way, and it comes first.  The
sender is marked as degraded, or about to be, while it holds losses that no
health record reports.
-/

namespace SentinelFlow.EventSender

open GoLib Events Delivery

variable {config : Config} {action : Action} {world next : World}

/-! ## Where health records are -/

/-- The worker has resolved a batch and has not yet returned from `flush`. -/
def Worker.settles : Worker → Bool
  | .clearing _ => true
  | .taking _ => true
  | .reporting _ _ _ _ => true
  | .reportingRejected _ _ => true
  | _ => false

structure World.Shaped (world : World) : Prop where
  head : containsSourceHealth world.held.tail = false
  flying : world.worker.flies = true →
    containsSourceHealth world.queue = false
  settling : world.worker.settles = true →
    containsSourceHealth world.held = false
  clearing : ∀ current, world.worker = .clearing current →
    containsSourceHealth current.records = true

theorem World.Shaped.calm
    (shaped : world.Shaped) (held : next.held = world.held)
    (grounded : next.worker.flies = false)
    (settled : next.worker.settles = false) : next.Shaped where
  head := by
    rw [held]
    exact shaped.head
  flying flies := by
    rw [grounded] at flies
    cases flies
  settling settles := by
    rw [settled] at settles
    cases settles
  clearing current here := by
    rw [here] at settled
    cases settled

theorem World.Shaped.settle
    (none : containsSourceHealth next.held = false)
    (grounded : next.worker.flies = false)
    (clearing : ∀ current, next.worker = .clearing current →
      containsSourceHealth current.records = true) : next.Shaped where
  head := containsSourceHealth_subset
    (fun _ member _ => List.mem_of_mem_tail member) none
  flying flies := by
    rw [grounded] at flies
    cases flies
  settling _ := none
  clearing := clearing

/-- A batch takes the head of the pending records with it. -/
theorem World.Shaped.resolve
    (shaped : world.Shaped) (ordered : world.toLedger.Ordered config)
    {flight : Flight} (flying : world.flight = some flight)
    (flies : world.worker.flies = true) (accepted : Bool) :
    containsSourceHealth (world.resolve flight accepted).held = false := by
  have sealed := (ordered.flying flight flying).sealed
  have taken : world.pending = [] ∨
      0 < flight.count ∧ flight.count ≤ world.pending.length := by
    cases covers : flight.batch.hasCoverage with
    | false =>
        obtain ⟨some, bounded, -⟩ := sealed.plain covers
        exact .inr ⟨some, bounded⟩
    | true =>
        rw [(sealed.covering covers).1, List.length_pos_iff]
        rcases eq_or_ne world.pending [] with none | some
        · exact .inl none
        · exact .inr ⟨some, Nat.le_refl _⟩
  rcases taken with none | ⟨some, bounded⟩
  · have queue := shaped.flying flies
    simpa [Ledger.held, Ledger.resolve, none] using queue
  · have held : (world.resolve flight accepted).held =
        world.held.drop flight.count :=
      (List.drop_append_of_le_length bounded).symm
    rw [held]
    have head := shaped.head
    rw [← List.drop_one] at head
    exact containsSourceHealth_subset
      (fun _ member _ => List.drop_subset_drop_left _ some member) head

/-- If a health record is held, the batch in flight contains it. -/
theorem World.Shaped.hasHealth
    (shaped : world.Shaped) (ordered : world.toLedger.Ordered config)
    {flight : Flight} (flying : world.flight = some flight)
    (flies : world.worker.flies = true)
    (some : containsSourceHealth world.held = true) :
    flight.batch.hasHealth = true := by
  have settled := shaped.resolve ordered flying flies true
  have sealed := (ordered.flying flight flying).sealed
  have parts : world.held = world.pending.take flight.count ++
      (world.resolve flight true).held := by
    simp [Ledger.held, Ledger.resolve, ← List.append_assoc]
  rw [parts, containsSourceHealth_append, settled, Bool.or_false] at some
  rw [sealed.health]
  exact some

theorem World.Shaped.enqueue
    (shaped : world.Shaped) (kind : Kind) (entry : Offered) :
    World.Shaped { world with toLedger := world.enqueue kind entry } where
  head := by
    have head := shaped.head
    rw [enqueue_held]
    cases shape : world.held with
    | nil => rfl
    | cons first rest =>
        rw [shape] at head
        exact (containsSourceHealth_event _ _ rest).trans head
  flying flies :=
    (containsSourceHealth_event _ _ _).trans (shaped.flying flies)
  settling settles := by
    rw [enqueue_held, containsSourceHealth_event]
    exact shaped.settling settles
  clearing := shaped.clearing

theorem World.Shaped.attempt
    (shaped : world.Shaped) (place : world.worker.flies = true)
    (held : next.held = world.held) (queue : next.queue = world.queue)
    (settled : next.worker.settles = false) : next.Shaped where
  head := by
    rw [held]
    exact shaped.head
  flying _ := by
    rw [queue]
    exact shaped.flying place
  settling settles := by
    rw [settled] at settles
    cases settles
  clearing current here := by
    rw [here] at settled
    cases settled

theorem World.Shaped.report
    (none : containsSourceHealth world.held = false) (reading : Reading)
    (health : Option SourceHealth) : (world.report reading health).Shaped where
  head := by
    cases health with
    | none =>
        exact containsSourceHealth_subset
          (fun _ member _ => List.mem_of_mem_tail member) none
    | some => exact none
  flying := nofun
  settling := nofun
  clearing := nofun

/-- Health records stay where they belong. -/
theorem World.Shaped.moves
    (shaped : world.Shaped) (ordered : world.toLedger.Ordered config)
    (moves : Moves config action world next) : next.Shaped := by
  cases moves with
  | stays => exact shaped
  | refused
  | overflowed
  | added
  | stored
  | released
  | closed
  | marked
  | counted => exact { shaped with }
  | enqueued => exact shaped.enqueue _ _
  | selected place count worker stopping following =>
      refine shaped.calm (receive_held _ _) ?_ ?_
      · rcases following with rfl | rfl <;> rfl
      · rcases following with rfl | rfl <;> rfl
  | finished
  | abandoned
  | untaken => exact shaped.calm rfl rfl rfl
  | unsent =>
      exact shaped.calm (receive_held _ _) rfl rfl
  | sent =>
      refine ⟨?_, ?_, nofun, nofun⟩
      · exact (congrArg (containsSourceHealth ·.tail)
          (receive_held world.toLedger _)).trans shaped.head
      · intro _
        exact congrArg containsSourceHealth List.drop_length
  | retried place flying tries =>
      refine shaped.attempt (by rw [place.worker]; rfl) tries.held tries.queue ?_
      exact congrArg Worker.settles place.worker
  | refusedBatch place flying tries
  | delivered place flying tries =>
      exact shaped.attempt (by rw [place.worker]; rfl) tries.held tries.queue
        rfl
  | confirmed place flying health =>
      have flies : world.worker.flies = true := by rw [place.worker]; rfl
      refine .settle (shaped.resolve ordered flying flies true) rfl ?_
      rintro _ ⟨⟩
      exact (ordered.flying _ flying).sealed.health_records.trans health
  | passed place flying =>
      have flies : world.worker.flies = true := by rw [place.worker]; rfl
      exact .settle (shaped.resolve ordered flying flies true) rfl nofun
  | cleared place
  | taken place =>
      exact .settle (shaped.settling (by rw [place.worker]; rfl)) rfl nofun
  | reported place
  | reportedRejected place =>
      exact .report (shaped.settling (by rw [place.worker]; rfl)) _ _
  | @rejected place flight flying =>
      have flies : world.worker.flies = true := by rw [place.worker]; rfl
      refine .settle (shaped.resolve ordered flying flies false) ?_ ?_
      · cases flight.batch.hasHealth <;> rfl
      · intro current
        cases flight.batch.hasHealth <;> nofun

/-! ## Flags -/

/-- The sender is marked as degraded or about to be. -/
def World.Pledged (world : World) : Prop :=
  world.degraded = true ∨ world.marking = .storing ∨
    world.producer = some .storing

theorem World.Pledged.release
    (pledged : world.Pledged) (other : world.producer ≠ some .storing)
    (degraded : next.degraded = world.degraded)
    (marking : next.marking = world.marking) : next.Pledged := by
  rcases pledged with set | marks | holds
  · exact .inl (degraded.trans set)
  · exact .inr (.inl (marking.trans marks))
  · exact absurd holds other

structure World.Flagged (world : World) : Prop where
  marking : world.marking = .advancing → world.degraded = true
  overflowing : world.flight.isSome = true →
    world.producer = some .advancing → world.degraded = true
  generation : ∀ flight, world.flight = some flight →
    flight.batch.healthGeneration = world.healthGeneration ∨
      world.degraded = true
  unreported : world.unreported ≠ [] →
    world.Pledged ∨ world.worker = .taking true
  taken : ∀ dropped started cleared taken,
    world.worker = .reporting dropped started cleared taken → taken ≠ [] →
      cleared = true ∨ world.Pledged
  dropped : world.dropped = UInt64.ofNat world.unreported.length

theorem World.Flagged.pledged
    (flagged : world.Flagged) {worker : Worker}
    (place : world.At worker) (other : worker ≠ .taking true)
    (some : world.unreported ≠ []) : world.Pledged := by
  rcases flagged.unreported some with pledged | here
  · exact pledged
  · exact absurd (place.worker.symm.trans here) other

/-- No loss is counted while the sender passes for healthy. -/
theorem World.Flagged.moves
    (flagged : world.Flagged) (controlled : world.Controlled)
    (moves : Moves config action world next) : next.Flagged := by
  cases moves with
  | stays => exact flagged
  | refused
  | enqueued
  | closed => exact { flagged with }
  | overflowed free =>
      have other : world.producer ≠ some .storing := by simp [free]
      refine { flagged with overflowing := nofun, unreported := ?_, taken := ?_ }
      · intro some
        exact (flagged.unreported some).imp_left fun pledged =>
          pledged.release other rfl rfl
      · intro dropped started cleared taken here some
        exact (flagged.taken _ _ _ _ here some).imp_right fun pledged =>
          pledged.release other rfl rfl
  | added =>
      refine { flagged with
        overflowing := nofun, unreported := ?_, taken := ?_, dropped := ?_ }
      · exact fun _ => .inl (.inr (.inr rfl))
      · exact fun _ _ _ _ _ _ => .inr (.inr (.inr rfl))
      · simp [flagged.dropped, UInt64.ofNat_add]
  | stored
  | marked marking =>
      exact { flagged with
        marking := fun _ => rfl
        overflowing := fun _ _ => rfl
        generation := fun _ _ => .inr rfl
        unreported := fun _ => .inl (.inl rfl)
        taken := fun _ _ _ _ _ _ => .inr (.inl rfl) }
  | released holds =>
      have other : world.producer ≠ some .storing := by simp [holds]
      refine { flagged with
        overflowing := nofun, generation := ?_, unreported := ?_, taken := ?_ }
      · intro flight flies
        exact .inr (flagged.overflowing
          (Option.isSome_iff_exists.mpr ⟨flight, flies⟩) holds)
      · intro some
        exact (flagged.unreported some).imp_left fun pledged =>
          pledged.release other rfl rfl
      · intro dropped started cleared taken here some
        exact (flagged.taken _ _ _ _ here some).imp_right fun pledged =>
          pledged.release other rfl rfl
  | selected place count worker stopping following =>
      refine { flagged with unreported := ?_, taken := ?_ }
      · exact fun some => .inl (flagged.pledged place nofun some)
      · rcases following with rfl | rfl <;> nofun
  | finished place
  | reported place
  | reportedRejected place =>
      exact { flagged with
        unreported := fun some => .inl (flagged.pledged place nofun some)
        taken := nofun }
  | unsent place free elapsed failed =>
      refine { flagged with
        marking := ?_
        unreported := fun some => .inl ?_
        taken := nofun }
      · rcases failed with rfl | ⟨rfl, -⟩ <;> nofun
      · rcases flagged.pledged place nofun some with set | marks | holds
        · exact .inl set
        · cases place.marking.symm.trans marks
        · exact .inr (.inr holds)
  | sent place free ready generation =>
      refine { flagged with
        overflowing := ?_
        generation := ?_
        unreported := fun some => .inl (flagged.pledged place nofun some)
        taken := nofun }
      · intro _ holds
        cases free.symm.trans holds
      · rintro _ ⟨⟩
        exact .inl generation
  | abandoned place
  | confirmed place
  | passed place =>
      exact { flagged with
        overflowing := nofun
        generation := nofun
        unreported := fun some => .inl (flagged.pledged place nofun some)
        taken := nofun }
  | retried place flying tries =>
      have aloft := Option.isSome_iff_exists.mpr ⟨_, flying⟩
      refine { flagged with
        marking := nofun
        overflowing := fun _ => flagged.overflowing aloft
        generation := ?_
        unreported := fun _ => .inl (.inr (.inl rfl))
        taken := fun _ _ _ _ _ _ => .inr (.inr (.inl rfl)) }
      exact fun flight flies =>
        flagged.generation flight (tries.flight.symm.trans flies)
  | refusedBatch place flying tries =>
      have aloft := Option.isSome_iff_exists.mpr ⟨_, flying⟩
      refine { flagged with
        marking := nofun
        overflowing := fun _ => flagged.overflowing aloft
        generation := ?_
        unreported := fun _ => .inl (.inr (.inl rfl))
        taken := nofun }
      exact fun flight flies =>
        flagged.generation flight (tries.flight.symm.trans flies)
  | delivered place flying tries =>
      have aloft := Option.isSome_iff_exists.mpr ⟨_, flying⟩
      refine { flagged with
        overflowing := fun _ => flagged.overflowing aloft
        generation := ?_
        unreported := fun some => .inl (flagged.pledged place nofun some)
        taken := nofun }
      exact fun flight flies =>
        flagged.generation flight (tries.flight.symm.trans flies)
  | counted marking =>
      have set := flagged.marking marking
      exact { flagged with
        marking := nofun
        generation := fun _ _ => .inr set
        unreported := fun _ => .inl (.inl set)
        taken := fun _ _ _ _ _ _ => .inr (.inl set) }
  | cleared place =>
      have idle := controlled.idle place rfl
      refine { flagged with
        marking := ?_
        overflowing := ?_
        generation := ?_
        unreported := fun _ => .inr rfl
        taken := nofun }
      · intro marks
        cases place.marking.symm.trans marks
      · intro flies
        simp [Ledger.reset, idle] at flies
      · intro flight flies
        cases idle.symm.trans flies
  | untaken =>
      exact { flagged with unreported := nofun, taken := nofun, dropped := rfl }
  | @taken cleared place some =>
      refine { flagged with unreported := nofun, taken := ?_, dropped := rfl }
      rintro _ _ _ _ ⟨⟩ some
      rcases flagged.unreported some with pledged | here
      · exact .inr pledged
      · cases place.worker.symm.trans here
        exact .inl rfl
  | @rejected =>
      refine { flagged with
        marking := nofun
        overflowing := nofun
        generation := nofun
        unreported := fun _ => .inl (.inr (.inl rfl))
        taken := fun _ _ _ _ _ _ => .inr (.inr (.inl rfl)) }

end SentinelFlow.EventSender
