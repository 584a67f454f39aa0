import SentinelFlow.Executor.Calls

/-!
# Runs with crashes

A run is a sequence of calls and crashes.  After a crash the journal is opened on
what survived: everything that has crossed both barriers, followed by arbitrary
bytes.  Whatever happens, the mutation of a capability is invoked at most once,
and only after its started record is durable.
-/

namespace SentinelFlow.Executor

open GoLib Capability Journal

structure Request where
  recoveryOnly : Bool
  signed : SignedCapability
  environment : Environment

inductive Step where
  | call (request : Request)
  | crash (tail : Bytes)

structure CallRecord extends Request where
  report : Report

/-- The durable bytes, the open journal if the service is running, and the calls
so far. -/
structure World where
  synced : Bytes := []
  running : Option Journal := some {}
  history : List CallRecord := []

section Crypto

variable (crypto : Crypto) (service : Service)

/-- `Open` on the surviving bytes; the service does not run if it fails. -/
def reopen (synced tail : Bytes) : Option Journal :=
  match openJournal crypto service.verifiers (synced ++ tail) with
  | .error _ => none
  | .ok index => some { index, contents := synced ++ tail, synced }

def World.step (world : World) : Step → World
  | .call request =>
      match world.running with
      | none => world
      | some journal =>
          let report := service.process crypto request.environment
            request.recoveryOnly journal request.signed
          { synced := report.journal.synced
            running := some report.journal
            history := world.history ++ [{ request with report }] }
  | .crash tail =>
      { world with running := reopen crypto service world.synced tail }

def run (steps : List Step) : World :=
  steps.foldl (World.step crypto service) {}

end Crypto

/-- The mutations of a run, in order. -/
def World.invocations (world : World) : List Invocation :=
  world.history.flatMap fun call => mutations call.report.events

variable {crypto : Crypto} {service : Service}

/-- A property that holds at the start and is kept by every step of a run holds
after it. -/
theorem run_induction {motive : World → Prop} (initial : motive {})
    {steps : List Step}
    (step : ∀ world, ∀ request ∈ steps, motive world →
      motive (world.step crypto service request)) :
    motive (run crypto service steps) := by
  suffices kept : ∀ world, motive world →
      motive (steps.foldl (World.step crypto service) world) from
    kept {} initial
  induction steps with
  | nil => exact fun _ holds => holds
  | cons request steps ih =>
      intro world holds
      refine ih (fun world other member => ?_) _
        (step world request List.mem_cons_self holds)
      exact step world other (List.mem_cons_of_mem _ member)

/-! ## Durable starts -/

/-- A durable started record for exactly the capability of an invocation. -/
def Recorded (crypto : Crypto) (verifiers : Verifiers) (synced : Bytes)
    (invocation : Invocation) : Prop :=
  ∃ index start, Replays crypto verifiers {} synced index ∧
    index.entries.lookup invocation.verified.value.capabilityID = some start ∧
    start.signed = invocation.signed

theorem Recorded.append
    {verifiers : Verifiers} {synced tail : Bytes} {invocation : Invocation}
    (recorded : Recorded crypto verifiers synced invocation) {last : Index}
    (replays : Replays crypto verifiers {} (synced ++ tail) last) :
    ∃ start, last.entries.lookup invocation.verified.value.capabilityID =
        some start ∧ start.signed = invocation.signed := by
  obtain ⟨index, start, early, found, exact_⟩ := recorded
  obtain ⟨later, known, continues⟩ := (early.of_append replays).lookup found
  refine ⟨later, known, ?_⟩
  cases continues with
  | same => exact exact_
  | terminal => exact exact_

theorem Recorded.grows
    {journal next : Journal} {invocation : Invocation}
    (recorded : Recorded crypto service.verifiers journal.synced invocation)
    (grows : Grows journal next)
    (sound : Sound crypto service.verifiers next) :
    Recorded crypto service.verifiers next.synced invocation := by
  obtain ⟨tail, longer⟩ := grows
  obtain ⟨index, replays⟩ := sound.durable
  rw [longer] at replays
  obtain ⟨start, found, exact_⟩ := recorded.append replays
  rw [Recorded, longer]
  exact ⟨index, start, replays, found, exact_⟩

/-- What a call adds to a run: at most one mutation, of a capability that the
journal did not know and that is durable by then. -/
structure CallEffect (crypto : Crypto) (service : Service) (journal : Journal)
    (report : Report) : Prop where
  sound : Sound crypto service.verifiers report.journal
  grows : Grows journal report.journal
  mutation : mutations report.events = [] ∨
    ∃ invocation, mutations report.events = [invocation] ∧
      journal.poisoned = false ∧
      journal.index.entries.lookup
        invocation.verified.value.capabilityID = none ∧
      Recorded crypto service.verifiers invocation.synced invocation ∧
      Recorded crypto service.verifiers report.journal.synced invocation

theorem Processes.effect
    {environment : Environment} {journal : Journal}
    {signed : SignedCapability} {report : Report}
    (processes : Processes crypto service environment journal signed report)
    (sound : Sound crypto service.verifiers journal) :
    CallEffect crypto service journal report := by
  cases processes with
  | refused quiet
  | replayed quiet => exact ⟨sound, .refl journal, .inl quiet⟩
  | unbegun quiet _ fails => exact ⟨sound.fails fails, fails.grows, .inl quiet⟩
  | recovered quiet _ _ recovers =>
      obtain ⟨kept, grows, events⟩ :=
        (finishPrepared_spec sound _ _ _ _ _).journal sound
      refine ⟨kept, grows, .inl ?_⟩
      rw [events, mutations_append, quiet, mutations_recover recovers]
      rfl
  | @executed verified start next events preflight _ prepared begun =>
      have nextSound := sound.commits begun.healthy begun.commits
      obtain ⟨kept, grows, called⟩ :=
        (finishPrepared_spec nextSound _ _ _ _ _).journal nextSound
      refine ⟨kept, (begun.commits.grows sound).trans grows, ?_⟩
      rw [called, mutations_append, mutations_preflightFor prepared,
        List.nil_append]
      rcases execute_events environment signed next.synced
          { verified := start.verified, deadline := start.deadline }
          preflight with quiet | ⟨invocation, only, exact_, durable, permitted⟩
      · exact .inl quiet
      · have named := permitted.verified_eq
        dsimp only at named
        have replays := (nextSound.replayed begun.commits.healthy).1
        rw [← begun.commits.synced] at replays
        have recorded : Recorded crypto service.verifiers next.synced
            invocation := by
          refine ⟨next.index, start, replays, ?_, begun.signed.trans exact_.symm⟩
          rw [named, begun.entries]
          exact AList.lookup_insert _
        refine .inr ⟨invocation, by rw [only]; rfl, begun.healthy, ?_, ?_, ?_⟩
        · rw [named]
          exact begun.unseen
        · rw [durable]
          exact recorded
        · exact recorded.grows grows kept

/-- The invariant of runs. -/
structure World.Sound (crypto : Crypto) (service : Service)
    (world : World) : Prop where
  durable : ∃ index, Replays crypto service.verifiers {} world.synced index
  running : ∀ journal, world.running = some journal →
    Journal.Sound crypto service.verifiers journal ∧
      journal.synced = world.synced
  recorded : ∀ invocation ∈ world.invocations,
    Recorded crypto service.verifiers world.synced invocation ∧
      Recorded crypto service.verifiers invocation.synced invocation
  distinct : (world.invocations.map fun invocation =>
    invocation.verified.value.capabilityID).Nodup

theorem World.sound_initial : World.Sound crypto service {} where
  durable := ⟨{}, .nil _⟩
  running := by
    rintro journal ⟨⟩
    exact ⟨sound_empty, rfl⟩
  recorded := by simp [World.invocations]
  distinct := by simp [World.invocations]

/-- A capability that was ever mutated is known to the open journal. -/
theorem Recorded.known
    {journal : Journal} {invocation : Invocation}
    (recorded : Recorded crypto service.verifiers journal.synced invocation)
    (sound : Sound crypto service.verifiers journal)
    (healthy : journal.poisoned = false) :
    journal.index.entries.lookup
      invocation.verified.value.capabilityID ≠ none := by
  obtain ⟨tail, written⟩ := sound.written
  have replays := (sound.replayed healthy).1
  rw [written] at replays
  obtain ⟨start, found, -⟩ := recorded.append replays
  simp [found]

theorem World.Sound.call
    {world : World} (sound : world.Sound crypto service) {journal : Journal}
    (running : world.running = some journal) (call : CallRecord)
    (effect : CallEffect crypto service journal call.report) :
    World.Sound crypto service
      { synced := call.report.journal.synced
        running := some call.report.journal
        history := world.history ++ [call] } := by
  obtain ⟨journalSound, synced⟩ := sound.running journal running
  have earlier : ∀ invocation ∈ world.invocations,
      Recorded crypto service.verifiers call.report.journal.synced
        invocation := by
    intro invocation member
    have recorded := (sound.recorded invocation member).1
    rw [← synced] at recorded
    exact recorded.grows effect.grows effect.sound
  have calls : World.invocations
      { synced := call.report.journal.synced
        running := some call.report.journal
        history := world.history ++ [call] } =
      world.invocations ++ mutations call.report.events := by
    simp [World.invocations]
  refine ⟨effect.sound.durable, ?_, ?_, ?_⟩
  · rintro journal ⟨⟩
    exact ⟨effect.sound, rfl⟩
  · rw [calls]
    intro invocation member
    rcases List.mem_append.mp member with old | new
    · exact ⟨earlier invocation old, (sound.recorded invocation old).2⟩
    · rcases effect.mutation with quiet | ⟨only, single, -, -, before, after⟩
      · rw [quiet] at new
        cases new
      · rw [single] at new
        rw [List.mem_singleton.mp new]
        exact ⟨after, before⟩
  · rw [calls, List.map_append]
    rcases effect.mutation with
      quiet | ⟨only, single, healthy, unseen, -, -⟩
    · rw [quiet, List.map_nil, List.append_nil]
      exact sound.distinct
    · rw [single]
      refine List.nodup_append.mpr ⟨sound.distinct, by simp, ?_⟩
      rintro identifier member _ (⟨⟩ | ⟨-, ⟨⟩⟩) same
      obtain ⟨invocation, old, rfl⟩ := List.mem_map.mp member
      have recorded := (sound.recorded invocation old).1
      rw [← synced] at recorded
      apply recorded.known journalSound healthy
      rw [same]
      exact unseen

theorem World.Sound.crash
    {world : World} (sound : world.Sound crypto service) (tail : Bytes) :
    World.Sound crypto service
      { world with running := reopen crypto service world.synced tail } := by
  refine ⟨sound.durable, ?_, sound.recorded, sound.distinct⟩
  intro journal opened
  dsimp only at opened
  unfold reopen at opened
  split at opened
  · cases opened
  next index accepted =>
    cases opened
    unfold openJournal at accepted
    split at accepted
    · cases accepted
    next bounded =>
      refine ⟨⟨sound.durable, ⟨tail, rfl⟩, fun _ => ⟨?_, ?_⟩⟩, rfl⟩
      · exact scan_eq_ok_iff.mp accepted
      · exact Nat.not_lt.mp bounded

theorem World.Sound.step
    {world : World} (sound : world.Sound crypto service) (request : Step) :
    (world.step crypto service request).Sound crypto service := by
  cases request with
  | call request =>
      unfold World.step
      dsimp only
      split
      · exact sound
      next journal running =>
        have journalSound := (sound.running journal running).1
        exact sound.call running { request with report := _ }
          ((process_spec journalSound request.recoveryOnly
            request.signed).effect journalSound)
  | crash tail => exact sound.crash tail

theorem run_sound (crypto : Crypto) (service : Service) (steps : List Step) :
    (run crypto service steps).Sound crypto service :=
  run_induction World.sound_initial fun _ request _ sound => sound.step request

/-- What holds of every call on a sound journal holds of all calls of a run. -/
theorem run_calls {motive : CallRecord → Prop}
    (process : ∀ journal call, Sound crypto service.verifiers journal →
      Processes crypto service call.environment journal call.signed
        call.report → motive call) (steps : List Step) :
    ∀ call ∈ (run crypto service steps).history, motive call := by
  suffices kept : (run crypto service steps).Sound crypto service ∧
      ∀ call ∈ (run crypto service steps).history, motive call from kept.2
  apply run_induction (motive := fun world => world.Sound crypto service ∧
    ∀ call ∈ world.history, motive call)
  · exact ⟨World.sound_initial, by simp⟩
  · rintro world step - ⟨sound, holds⟩
    refine ⟨sound.step step, ?_⟩
    cases step with
    | call request =>
        unfold World.step
        dsimp only
        split
        · exact holds
        next journal running =>
          have journalSound := (sound.running journal running).1
          intro call member
          rcases List.mem_append.mp member with old | new
          · exact holds call old
          · rw [List.mem_singleton.mp new]
            exact process journal _ journalSound (process_spec journalSound
              request.recoveryOnly request.signed)
    | crash => exact holds

/-- Over every run, with any crashes and failures, the mutation of a capability
is invoked at most once, and the durable journal at that time already holds a
started record for exactly its signed bytes. -/
theorem mutation_at_most_once (crypto : Crypto) (service : Service)
    (steps : List Step) :
    let invocations := (run crypto service steps).invocations
    (invocations.map fun invocation =>
        invocation.verified.value.capabilityID).Nodup ∧
      ∀ invocation ∈ invocations, ∃ index start,
        scan crypto service.verifiers invocation.synced = .ok index ∧
          index.entries.lookup invocation.verified.value.capabilityID =
            some start ∧
          start.signed = invocation.signed := by
  have sound := run_sound crypto service steps
  refine ⟨sound.distinct, ?_⟩
  intro invocation member
  obtain ⟨index, start, replays, found, exact_⟩ :=
    (sound.recorded invocation member).2
  exact ⟨index, start, scan_eq_ok_iff.mpr replays, found, exact_⟩

end SentinelFlow.Executor
