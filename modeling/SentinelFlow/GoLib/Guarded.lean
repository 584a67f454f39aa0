/-!
# Calls that read a clock and then take a lock

Any number of goroutines call a function that reads the clock and then works on
shared state under a lock.  The two steps of a call are apart: others may read
the clock, and hold the lock, in between.
-/

namespace GoLib

/-- What a call does before it reads the clock, and under the lock with the
instant it has read. -/
structure Guarded (I K S E : Type) where
  check : I → Except E K
  locked : S → K → Int → Option E × S

/-- A call that has held the lock. -/
structure Entered (K E : Type) where
  key : K
  reading : Int
  refusal : Option E

namespace Guarded

variable {I K S E : Type}

/-- The clock, the calls that have read it and wait for the lock, the state, the
calls that have held the lock in this order, and the refusals of the others. -/
structure World (K S E : Type) where
  clock : Int
  waiting : List (K × Int) := []
  state : S
  entered : List (Entered K E) := []
  turnedAway : List E := []

inductive Event (I : Type) where
  | advance (elapsed : Nat)
  | call (input : I)
  | enter (index : Nat)

def step (guarded : Guarded I K S E) (world : World K S E) :
    Event I → World K S E
  | .advance elapsed => { world with clock := world.clock + elapsed }
  | .call input =>
      match guarded.check input with
      | .error refusal =>
          { world with turnedAway := world.turnedAway ++ [refusal] }
      | .ok key =>
          { world with waiting := world.waiting ++ [(key, world.clock)] }
  | .enter index =>
      match world.waiting[index]? with
      | none => world
      | some (key, reading) =>
          { world with
            waiting := world.waiting.eraseIdx index
            state := (guarded.locked world.state key reading).2
            entered := world.entered ++
              [⟨key, reading, (guarded.locked world.state key reading).1⟩] }

def run (guarded : Guarded I K S E) (clock : Int) (state : S)
    (events : List (Event I)) : World K S E :=
  events.foldl guarded.step { clock, state }

/-- Every refusal that some call has returned. -/
def World.refusals (world : World K S E) : List E :=
  world.turnedAway ++ world.entered.filterMap Entered.refusal

variable {guarded : Guarded I K S E}

/-- What every critical section keeps, every interleaving keeps. -/
theorem run_keeps
    {motive : S → List (Entered K E) → Prop} {start : S}
    (initial : motive start [])
    (kept : ∀ state entered key reading, motive state entered →
      motive (guarded.locked state key reading).2 (entered ++
        [⟨key, reading, (guarded.locked state key reading).1⟩]))
    (clock : Int) (events : List (Event I)) :
    motive (guarded.run clock start events).state
      (guarded.run clock start events).entered := by
  suffices all : ∀ world : World K S E, motive world.state world.entered →
      motive (events.foldl guarded.step world).state
        (events.foldl guarded.step world).entered from all _ initial
  induction events with
  | nil => exact fun _ holds => holds
  | cons event events induction =>
      intro world holds
      refine induction _ ?_
      cases event with
      | advance => exact holds
      | call =>
          unfold step
          dsimp only
          split
          · exact holds
          · exact holds
      | enter =>
          unfold step
          dsimp only
          split
          · exact holds
          next key reading _ => exact kept _ _ key reading holds

theorem turnedAway_of_check
    {good : E → Prop}
    (admitted : ∀ input refusal, guarded.check input = .error refusal →
      good refusal)
    (clock : Int) (start : S) (events : List (Event I)) :
    ∀ refusal ∈ (guarded.run clock start events).turnedAway, good refusal := by
  suffices all : ∀ world : World K S E,
      (∀ refusal ∈ world.turnedAway, good refusal) →
      ∀ refusal ∈ (events.foldl guarded.step world).turnedAway,
        good refusal from all _ nofun
  induction events with
  | nil => exact fun _ holds => holds
  | cons event events induction =>
      intro world holds
      refine induction _ ?_
      cases event with
      | advance => exact holds
      | call input =>
          unfold step
          dsimp only
          split
          next refusal refused =>
            rw [List.forall_mem_append, List.forall_mem_singleton]
            exact ⟨holds, admitted input refusal refused⟩
          · exact holds
      | enter =>
          unfold step
          dsimp only
          split
          · exact holds
          · exact holds

end Guarded

/-! ## Calls that were let in -/

section Entered

variable {K E : Type} (entered : List (Entered K E))

/-- The calls have held the lock in the order of their clock readings. -/
def InOrder : Prop :=
  (entered.map Entered.reading).Pairwise (· ≤ ·)

instance : Decidable (InOrder entered) :=
  inferInstanceAs (Decidable (List.Pairwise _ _))

/-- The readings of the calls with such a key that were not refused. -/
def permitted (select : K → Bool) : List Int :=
  (entered.filter fun call => call.refusal.isNone && select call.key).map
    Entered.reading

variable {entered}

theorem inOrder_concat {call : Entered K E}
    (ordered : InOrder (entered ++ [call])) :
    InOrder entered ∧
      ∀ reading ∈ entered.map Entered.reading, reading ≤ call.reading := by
  rw [InOrder, List.map_append, List.pairwise_append] at ordered
  refine ⟨ordered.1, ?_⟩
  intro reading member
  exact ordered.2.2 reading member _ (List.mem_singleton_self _)

theorem permitted_concat (call : Entered K E) (select : K → Bool) :
    permitted (entered ++ [call]) select = permitted entered select ++
      if call.refusal.isNone && select call.key then [call.reading] else [] := by
  rw [permitted, permitted, List.filter_append, List.map_append]
  congr 1
  rw [List.filter_cons, List.filter_nil]
  split
  · rfl
  · rfl

end Entered

end GoLib
