import SentinelFlow.Capability.Types

/-!
# The runner boundary

The isolated executor reaches the operating system through two operations: a
mutation with the artifact on standard input and a fixed read-only inspection.
Their replies are not trusted; an observation is used only after validation.
-/

namespace SentinelFlow.Executor

open GoLib Capability

/-- The stable failure classes of the service that the model can produce. -/
inductive ErrorCode where
  | capability
  | artifact
  | schema
  | replay
  | freshness
  | targetState
  | journal
  | runner
  | deadline
  | result
  | resultSigning
  | resultDurability
deriving DecidableEq, Repr

/-- `nftvalidate.MaxTTLSeconds`. -/
def maxTTLSeconds : Nat := 86400

/-- `nftvalidate.PinnedLiveSchemaDigest`. -/
def pinnedLiveSchemaDigest : Bytes :=
  ascii "sha256:d5582a75817d349b12f292d212483bb0c2a5db66afde7d73c6d11050a5eb5997"

structure Mutation where
  operation : Operation
  stdin : Bytes
deriving DecidableEq, Repr

structure Inspection where
  actionID : Bytes
  targetIPv4 : Bytes
  originalAddDigest : Bytes
  ownedSchemaDigest : Bytes
deriving DecidableEq, Repr

structure Observation where
  state : ReadbackState
  targetIPv4 : Bytes
  ownedSchemaDigest : Bytes
  remainingTTLSeconds : Nat := 0
deriving DecidableEq, Repr

/-- What `Runner.Mutate` returns: an exit class, if it names a known one, and
whether there was an error as well. -/
structure MutationReply where
  exitClass : Option NFTExitClass
  failed : Bool
deriving DecidableEq, Repr

/-- What `Runner.Inspect` returns: an error, an observation in a state that is
not a known one, or an observation. -/
inductive InspectReply where
  | failed
  | unknownState
  | observed (observation : Observation)
deriving DecidableEq, Repr

def inspectionFor (value : Value) : Inspection :=
  { actionID := value.actionID
    targetIPv4 := value.targetIPv4
    originalAddDigest := value.originalAddDigest
    ownedSchemaDigest := value.ownedSchemaDigest }

def mismatchObservation (expected : Inspection) : Observation :=
  { state := .mismatch
    targetIPv4 := expected.targetIPv4
    ownedSchemaDigest := expected.ownedSchemaDigest }

def unavailableObservation (request : Inspection) : Observation :=
  { state := .unavailable
    targetIPv4 := request.targetIPv4
    ownedSchemaDigest := request.ownedSchemaDigest }

/-- An observation that does not fit the request is replaced by a mismatch; the
flag tells whether it was kept.  A `maximumTTL` of zero stands for no bound. -/
def validateObservation (observation : Observation) (expected : Inspection)
    (maximumTTL : Nat) : Observation × Bool :=
  if observation.targetIPv4 ≠ expected.targetIPv4 ∨
      observation.ownedSchemaDigest ≠ expected.ownedSchemaDigest then
    (mismatchObservation expected, false)
  else match observation.state with
  | .active =>
      if observation.remainingTTLSeconds = 0 ∨
          observation.remainingTTLSeconds > maxTTLSeconds ∨
          (maximumTTL ≠ 0 ∧ observation.remainingTTLSeconds > maximumTTL) then
        (mismatchObservation expected, false)
      else (observation, true)
  | .absent | .mismatch | .unavailable =>
      if observation.remainingTTLSeconds ≠ 0 then
        (mismatchObservation expected, false)
      else (observation, true)

/-- The code of a runner error, given whether the context is done. -/
def classifyRunnerContext (done : Bool) : ErrorCode :=
  if done then .deadline else .runner

/-- `Service.inspect` for a given reply of the runner. -/
def inspect (reply : InspectReply) (done : Bool) (request : Inspection)
    (maximumTTL : Nat) : Observation × Option ErrorCode :=
  match reply with
  | .failed =>
      (unavailableObservation request, some (classifyRunnerContext done))
  | .unknownState => (mismatchObservation request, some .targetState)
  | .observed observation =>
      match validateObservation observation request maximumTTL with
      | (checked, false) => (checked, some .targetState)
      | (checked, true) => (checked, none)

/-! ## What an inspection establishes -/

/-- An observation that fits the request. -/
structure Observation.Fits (observation : Observation) (request : Inspection)
    (maximumTTL : Nat) : Prop where
  target : observation.targetIPv4 = request.targetIPv4
  schema : observation.ownedSchemaDigest = request.ownedSchemaDigest
  active : observation.state = .active →
    1 ≤ observation.remainingTTLSeconds ∧
      observation.remainingTTLSeconds ≤ maxTTLSeconds ∧
      (maximumTTL ≠ 0 → observation.remainingTTLSeconds ≤ maximumTTL)

theorem mismatchObservation_fits (request : Inspection) (maximumTTL : Nat) :
    (mismatchObservation request).Fits request maximumTTL :=
  ⟨rfl, rfl, fun active => by cases active⟩

theorem validateObservation_spec
    (observation : Observation) (request : Inspection) (maximumTTL : Nat) :
    validateObservation observation request maximumTTL =
        (mismatchObservation request, false) ∨
      validateObservation observation request maximumTTL =
        (observation, true) ∧ observation.Fits request maximumTTL := by
  unfold validateObservation
  split
  · exact .inl rfl
  next place =>
    simp only [not_or, not_not] at place
    have settled : ∀ other : ReadbackState, other ≠ .active →
        observation.state = other → observation.Fits request maximumTTL :=
      fun other inactive state => ⟨place.1, place.2, fun active =>
        absurd (state.symm.trans active) inactive⟩
    split
    next active =>
      split
      · exact .inl rfl
      next ttl =>
        refine .inr ⟨rfl, place.1, place.2, fun _ => ?_⟩
        simp only [not_or, not_and, Nat.not_lt] at ttl
        exact ⟨Nat.one_le_iff_ne_zero.mpr ttl.1, ttl.2.1, ttl.2.2⟩
    next state =>
      split
      · exact .inl rfl
      · exact .inr ⟨rfl, settled _ (by simp) state⟩
    next state =>
      split
      · exact .inl rfl
      · exact .inr ⟨rfl, settled _ (by simp) state⟩
    next state =>
      split
      · exact .inl rfl
      · exact .inr ⟨rfl, settled _ (by simp) state⟩

/-- An inspection without error returned what the runner observed; with an
error it reports a mismatch or nothing. -/
theorem inspect_spec
    (reply : InspectReply) (done : Bool) (request : Inspection)
    (maximumTTL : Nat) :
    (∃ observation, reply = .observed observation ∧
      inspect reply done request maximumTTL = (observation, none) ∧
      observation.Fits request maximumTTL) ∨
    (∃ code, inspect reply done request maximumTTL =
      (mismatchObservation request, some code)) ∨
    (∃ code, inspect reply done request maximumTTL =
      (unavailableObservation request, some code)) := by
  cases reply with
  | failed => exact .inr (.inr ⟨_, rfl⟩)
  | unknownState => exact .inr (.inl ⟨_, rfl⟩)
  | observed observation =>
      rcases validateObservation_spec observation request maximumTTL with
        rejected | ⟨kept, fits⟩
      · exact .inr (.inl ⟨.targetState, by simp [inspect, rejected]⟩)
      · exact .inl ⟨observation, rfl, by simp [inspect, kept], fits⟩

end SentinelFlow.Executor
