import SentinelFlow.Executor.Runs
import SentinelFlow.Ipc.Envelope

/-!
# Exchanges of the dispatcher with the executor

The dispatcher's client writes one request to a fresh connection and reads one
response; the executor serves each connection once.  Nothing is assumed about a
connection: a write may stop anywhere, any beginning of what was written may
arrive, and its end may look orderly.  A client meets the executor only where
its connection is served, so the order of these steps is the interleaving.
-/

namespace SentinelFlow.Executor

open GoLib Capability Journal Ipc

/-- One direction of a connection: the replies to `Write`, whether `CloseWrite`
succeeds, how much of what was written arrives, and how reading ends. -/
structure Channel where
  writer : Nat → Bytes → WriteReply
  closes : Bool
  delivered : Nat
  ending : Ending

def Channel.stream (channel : Channel) (written : Bytes) : Stream :=
  ⟨written.take channel.delivered, channel.ending⟩

inductive ClientError where
  | contractRejected
  | transport
  | responseRejected

/-- A call of `UDSClient.exchange` with the connection it gets.  A failure to
dial is a writer that fails. -/
structure Attempt where
  signed : SignedCapability
  recoveryOnly : Bool
  resultKeyID : Bytes
  executorID : Bytes
  request : Channel
  response : Channel

def Attempt.encoded (attempt : Attempt) : Except Ipc.ErrorCode Bytes :=
  match newRequestEnvelope attempt.signed.canonical attempt.signed.signature
      attempt.signed.artifact attempt.recoveryOnly with
  | .error code => .error code
  | .ok envelope => encodeRequestEnvelope envelope

/-- What the client writes to the connection. -/
def Attempt.sent (attempt : Attempt) : Bytes :=
  match attempt.encoded with
  | .error _ => []
  | .ok request => (writeFrame (some attempt.request.writer) request).1

/-- What the client returns if the server writes the reply. -/
def Attempt.outcome (attempt : Attempt) (reply : Bytes) :
    Except ClientError SignedResult :=
  match attempt.encoded with
  | .error _ => .error .contractRejected
  | .ok request =>
      match (writeFrame (some attempt.request.writer) request).2 with
      | .error _ => .error .transport
      | .ok _ =>
          if ¬ attempt.request.closes then .error .transport
          else match readSingleFrame
              (some (attempt.response.stream reply)) with
          | .error _ => .error .transport
          | .ok payload =>
              match decodeResponseEnvelope payload with
              | .error _ => .error .responseRejected
              | .ok response => .ok
                  { keyID := attempt.resultKeyID
                    executorID := attempt.executorID
                    canonical := response.resultJCS
                    signature := response.resultSignature }

/-- The response of `HandlePayload`. -/
def respond (result : SignedResult) : Except Ipc.ErrorCode Bytes :=
  match newResponseEnvelope result.canonical result.signature with
  | .error code => .error code
  | .ok response => encodeResponseEnvelope response

/-- A connection that the server is done with: the call of the service, if there
was one, and what was written back. -/
structure Served extends Attempt where
  call : Option CallRecord := none
  reply : Bytes := []

structure System where
  executor : World := {}
  served : List Served := []

inductive Move where
  | serve (attempt : Attempt) (environment : Environment)
  | crash (tail : Bytes)

section Crypto

variable (crypto : Crypto) (service : Service)

/-- The request that `HandlePayload` makes of an envelope.  `New` requires the
dispatcher's key to be the verifier's. -/
def requestOf (environment : Environment) (envelope : RequestEnvelope) :
    Request :=
  { recoveryOnly := envelope.recoveryOnly
    signed :=
      { keyID := service.verifier.keyID
        canonical := envelope.capabilityJCS
        signature := envelope.capabilitySignature
        artifact := envelope.artifact }
    environment }

/-- `ServerExchange` with `HandlePayload` as its handler.  Every error closes
the connection without a response. -/
def Attempt.serve (attempt : Attempt) (environment : Environment)
    (journal : Journal) : Served :=
  match readSingleFrame (some (attempt.request.stream attempt.sent)) with
  | .error _ => { attempt with }
  | .ok payload =>
      match decodeRequestEnvelope payload with
      | .error _ => { attempt with }
      | .ok envelope =>
          let request := requestOf service environment envelope
          let report := service.process crypto environment
            request.recoveryOnly journal request.signed
          { attempt with
            call := some { request with report }
            reply := match report.outcome with
              | .error _ => []
              | .ok result =>
                  match respond result with
                  | .error _ => []
                  | .ok response =>
                      (writeFrame (some attempt.response.writer) response).1 }

def System.move (system : System) : Move → System
  | .serve attempt environment =>
      match system.executor.running with
      | none => system
      | some journal =>
          let served := attempt.serve crypto service environment journal
          { executor := match served.call with
              | none => system.executor
              | some call =>
                  system.executor.step crypto service (.call call.toRequest)
            served := system.served ++ [served] }
  | .crash tail =>
      { system with
        executor := system.executor.step crypto service (.crash tail) }

def moves (steps : List Move) : System :=
  steps.foldl (System.move crypto service) {}

end Crypto

/-! ## Frames -/

/-- Whatever arrives of a frame, a reader that accepts it has the payload. -/
theorem payload_of_delivered
    {writer : Nat → Bytes → WriteReply} {payload other : Bytes}
    {channel : Channel}
    (accepted : readSingleFrame
      (some (channel.stream (writeFrame (some writer) payload).1)) =
        .ok other) : other = payload := by
  obtain ⟨frame, encoded, stream⟩ := readSingleFrame_eq_ok_iff.mp accepted
  obtain ⟨⟨nonempty, short⟩, rfl⟩ := encodeFrame_eq_ok_iff.mp encoded
  have arrived : BigEndian.put 4 other.length ++ other <+:
      (writeFrame (some writer) payload).1 := by
    rw [Option.some.injEq, Channel.stream, Stream.mk.injEq] at stream
    rw [← stream.1]
    exact List.take_prefix _ _
  unfold writeFrame at arrived
  dsimp only at arrived
  split at arrived
  · have empty := List.prefix_nil.mp arrived
    simp [nonempty] at empty
  next frame written =>
    obtain ⟨⟨-, bounded⟩, rfl⟩ := encodeFrame_eq_ok_iff.mp written
    have whole := arrived.trans (writeFrom_spec writer _ 0 _).1
    have heads : BigEndian.put 4 other.length =
        BigEndian.put 4 payload.length := by
      have first := whole.take 4
      simp only [List.take_append_of_le_length, BigEndian.length_put,
        Nat.le_refl, List.take_of_length_le] at first
      exact first.eq_of_length (by simp only [BigEndian.length_put])
    have lengths := congrArg BigEndian.read heads
    rw [maxFramePayloadBytes] at short bounded
    rw [BigEndian.read_put_of_lt (by omega),
      BigEndian.read_put_of_lt (by omega)] at lengths
    rw [heads, List.prefix_append_right_inj] at whole
    exact whole.eq_of_length lengths

/-! ## Connections -/

variable {crypto : Crypto} {service : Service} {attempt : Attempt}

private theorem nothing_read (channel : Channel) (payload : Bytes) :
    readSingleFrame (some (channel.stream [])) ≠ .ok payload := by
  simp [Channel.stream, readSingleFrame, Stream.readFull]

/-- The server reads the client's envelope or nothing. -/
theorem Attempt.read_sent {payload : Bytes}
    (read : readSingleFrame (some (attempt.request.stream attempt.sent)) =
      .ok payload) :
    decodeRequestEnvelope payload = .ok ⟨attempt.signed.canonical,
      attempt.signed.signature, attempt.signed.artifact,
      attempt.recoveryOnly⟩ := by
  unfold Attempt.sent at read
  split at read
  · exact absurd read (nothing_read _ _)
  next request encoded =>
    rw [payload_of_delivered read]
    unfold Attempt.encoded at encoded
    split at encoded
    · cases encoded
    next envelope made =>
      rw [newRequestEnvelope, ite_error_eq_ok_iff] at made
      cases made.2
      exact decodeRequestEnvelope_encode encoded

theorem Attempt.outcome_eq_ok
    {reply : Bytes} {result : SignedResult}
    (returned : attempt.outcome reply = .ok result) :
    ∃ payload,
      readSingleFrame (some (attempt.response.stream reply)) = .ok payload ∧
        decodeResponseEnvelope payload =
          .ok ⟨result.canonical, result.signature⟩ := by
  unfold Attempt.outcome at returned
  split at returned
  · cases returned
  split at returned
  · cases returned
  rw [ite_error_eq_ok_iff] at returned
  obtain ⟨-, returned⟩ := returned
  split at returned
  · cases returned
  next payload read =>
  split at returned
  · cases returned
  next response decoded =>
    cases returned
    exact ⟨payload, read, decoded⟩

theorem decode_respond {result : SignedResult} {response : Bytes}
    (responded : respond result = .ok response) :
    decodeResponseEnvelope response =
      .ok ⟨result.canonical, result.signature⟩ := by
  unfold respond at responded
  split at responded
  · cases responded
  next envelope made =>
    rw [newResponseEnvelope, ite_error_eq_ok_iff] at made
    cases made.2
    exact decodeResponseEnvelope_encode responded

/-- The service is called with what the client holds, and the client returns
only what the service returned to this call. -/
structure Served.Faithful (service : Service) (served : Served) : Prop where
  call : ∀ call, served.call = some call →
    call.recoveryOnly = served.recoveryOnly ∧
      call.signed = { served.signed with keyID := service.verifier.keyID }
  outcome : ∀ result, served.outcome served.reply = .ok result →
    ∃ call signed, served.call = some call ∧
      call.report.outcome = .ok signed ∧
      signed.canonical = result.canonical ∧
      signed.signature = result.signature

theorem Attempt.serve_faithful (attempt : Attempt) (environment : Environment)
    (journal : Journal) :
    (attempt.serve crypto service environment journal).Faithful service ∧
      ∀ call, (attempt.serve crypto service environment journal).call =
        some call → call.report = service.process crypto call.environment
          call.recoveryOnly journal call.signed := by
  unfold Attempt.serve
  split
  · refine ⟨⟨by simp, fun result returned => ?_⟩, by simp⟩
    obtain ⟨payload, read, -⟩ := Attempt.outcome_eq_ok returned
    exact absurd read (nothing_read _ _)
  next payload read =>
    rw [Attempt.read_sent read]
    refine ⟨⟨?_, fun result returned => ?_⟩, ?_⟩
    · rintro call ⟨⟩
      exact ⟨rfl, rfl⟩
    · obtain ⟨payload, read, decoded⟩ := Attempt.outcome_eq_ok returned
      dsimp only at read
      split at read
      · exact absurd read (nothing_read _ _)
      next signed outcome =>
      split at read
      · exact absurd read (nothing_read _ _)
      next response responded =>
        rw [payload_of_delivered read, decode_respond responded,
          Except.ok.injEq, ResponseEnvelope.mk.injEq] at decoded
        exact ⟨_, signed, rfl, outcome, decoded⟩
    · rintro call ⟨⟩
      rfl

/-! ## Runs -/

structure System.Safe (crypto : Crypto) (service : Service)
    (system : System) : Prop where
  refines : ∃ calls, system.executor = run crypto service calls
  history : system.executor.history = system.served.filterMap (·.call)
  faithful : ∀ served ∈ system.served, served.Faithful service

theorem System.Safe.move
    {system : System} (safe : system.Safe crypto service) (move : Move) :
    (system.move crypto service move).Safe crypto service := by
  obtain ⟨⟨calls, refines⟩, history, faithful⟩ := safe
  have longer : ∀ step, ∃ calls,
      system.executor.step crypto service step = run crypto service calls :=
    fun step => ⟨calls ++ [step], by simp [refines, run]⟩
  cases move with
  | crash tail => exact ⟨longer (.crash tail), history, faithful⟩
  | serve attempt environment =>
      unfold System.move
      dsimp only
      split
      · exact ⟨⟨calls, refines⟩, history, faithful⟩
      next journal running =>
        obtain ⟨kept, report⟩ := attempt.serve_faithful environment journal
        have all := List.forall_mem_append.mpr
          ⟨faithful, List.forall_mem_singleton.mpr kept⟩
        cases called :
            (attempt.serve crypto service environment journal).call with
        | none =>
            exact ⟨⟨calls, refines⟩, by simp [history, called], all⟩
        | some call =>
            refine ⟨longer (.call call.toRequest), ?_, all⟩
            simp [World.step, running, history, called, ← report call called]

/-- Whatever the connections do, and in whatever order they are served between
crashes: the calls of the executor are those of the connections, at most one
each, every client deals with its own call only, and no capability is mutated
twice. -/
theorem exchanges_safe (crypto : Crypto) (service : Service)
    (steps : List Move) :
    let system := moves crypto service steps
    (∃ calls, system.executor = run crypto service calls) ∧
    system.executor.history = system.served.filterMap (·.call) ∧
    (∀ served ∈ system.served, served.Faithful service) ∧
    (system.executor.invocations.map fun invocation =>
      invocation.verified.value.capabilityID).Nodup := by
  have safe : (moves crypto service steps).Safe crypto service := by
    suffices kept : ∀ system, system.Safe crypto service →
        (steps.foldl (System.move crypto service) system).Safe crypto
          service from
      kept {} ⟨⟨[], rfl⟩, rfl, by simp⟩
    induction steps with
    | nil => exact fun _ safe => safe
    | cons step steps ih => exact fun _ safe => ih _ (safe.move step)
  obtain ⟨calls, refines⟩ := safe.refines
  refine ⟨⟨calls, refines⟩, safe.history, safe.faithful, ?_⟩
  rw [refines]
  exact (run_sound crypto service calls).distinct

end SentinelFlow.Executor
