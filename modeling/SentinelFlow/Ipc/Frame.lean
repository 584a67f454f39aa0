import SentinelFlow.GoLib.Binary

/-!
# Frames of the executor's socket

One payload travels behind its length, and then the sender ends the stream.  The
reader accepts exactly such a stream, and whatever the writer reports as written
is one.
-/

namespace SentinelFlow.Ipc

open GoLib

/-- The errors of package `ipc`. -/
inductive ErrorCode where
  | frameZeroLength
  | frameOversized
  | frameTruncated
  | frameTrailingData
  | frameTermination
  | frameWrite
  | envelopeInvalid
  | envelopeNonCanonical
deriving DecidableEq, Repr

def maxFramePayloadBytes : Nat := 16 * 1024

def validateFramePayload (payload : Bytes) : Except ErrorCode Unit :=
  if payload = [] then .error .frameZeroLength
  else if payload.length > maxFramePayloadBytes then .error .frameOversized
  else .ok ()

def encodeFrame (payload : Bytes) : Except ErrorCode Bytes :=
  match validateFramePayload payload with
  | .error code => .error code
  | .ok _ => .ok (BigEndian.put 4 payload.length ++ payload)

/-! ## Writing -/

/-- What one call of `Write` reports. -/
structure WriteReply where
  written : Int
  failed : Bool
deriving DecidableEq, Repr

/-- The loop of `WriteFrame`: the octets that were taken and the outcome.  The
writer sees the number of the call and what is left.  Every round but the last
takes an octet, so as many rounds as there are octets suffice. -/
def writeFrom (writer : Nat → Bytes → WriteReply) :
    (fuel call : Nat) → Bytes → Bytes × Except ErrorCode Unit
  | _, _, [] => ([], .ok ())
  | 0, _, _ => ([], .error .frameWrite)
  | fuel + 1, call, frame =>
      let reply := writer call frame
      if reply.written < 0 ∨ reply.written > frame.length then
        ([], .error .frameWrite)
      else
        let taken := frame.take reply.written.toNat
        if reply.failed ∨ reply.written = 0 then (taken, .error .frameWrite)
        else
          let (later, outcome) := writeFrom writer fuel (call + 1)
            (frame.drop reply.written.toNat)
          (taken ++ later, outcome)

/-- A missing writer is not called. -/
def writeFrame (writer : Option (Nat → Bytes → WriteReply))
    (payload : Bytes) : Bytes × Except ErrorCode Unit :=
  match writer with
  | none => ([], .error .frameWrite)
  | some writer =>
      match encodeFrame payload with
      | .error code => ([], .error code)
      | .ok frame => writeFrom writer frame.length 0 frame

/-! ## Reading -/

/-- How a stream ends: in order, or with another error. -/
inductive Ending where
  | eof
  | failed
deriving DecidableEq, Repr

/-- The octets that a reader delivers, and the end that it reports after them. -/
structure Stream where
  bytes : Bytes
  ending : Ending
deriving DecidableEq, Repr

/-- `io.ReadFull`; an early end is an error of either kind. -/
def Stream.readFull (stream : Stream) (count : Nat) :
    Option (Bytes × Stream) :=
  if stream.bytes.length < count then none
  else some (stream.bytes.take count,
    { stream with bytes := stream.bytes.drop count })

def readSingleFrame : Option Stream → Except ErrorCode Bytes
  | none => .error .frameTruncated
  | some stream =>
      match stream.readFull 4 with
      | none => .error .frameTruncated
      | some (header, stream) =>
          let size := BigEndian.read header
          if size = 0 then .error .frameZeroLength
          else if size > maxFramePayloadBytes then .error .frameOversized
          else match stream.readFull size with
          | none => .error .frameTruncated
          | some (payload, stream) =>
              if stream.bytes ≠ [] then .error .frameTrailingData
              else if stream.ending ≠ .eof then .error .frameTermination
              else .ok payload

/-! ## Correctness -/

variable {payload : Bytes}

theorem validateFramePayload_eq_ok_iff :
    validateFramePayload payload = .ok () ↔
      payload ≠ [] ∧ payload.length ≤ maxFramePayloadBytes := by
  unfold validateFramePayload
  split
  next empty => simp [empty]
  next nonempty =>
    split
    next long =>
      have excess : ¬ payload.length ≤ maxFramePayloadBytes := by omega
      simp [excess]
    next short => simp [nonempty, Nat.not_lt.mp short]

theorem encodeFrame_eq_ok_iff {frame : Bytes} :
    encodeFrame payload = .ok frame ↔
      (payload ≠ [] ∧ payload.length ≤ maxFramePayloadBytes) ∧
        frame = BigEndian.put 4 payload.length ++ payload := by
  rw [← validateFramePayload_eq_ok_iff]
  unfold encodeFrame
  constructor
  · intro encoded
    split at encoded
    · cases encoded
    next accepted =>
      cases encoded
      exact ⟨accepted, rfl⟩
  · rintro ⟨accepted, rfl⟩
    rw [accepted]

theorem Stream.readFull_append
    (first rest : Bytes) (ending : Ending) :
    (Stream.mk (first ++ rest) ending).readFull first.length =
      some (first, ⟨rest, ending⟩) := by
  simp [Stream.readFull]

theorem Stream.readFull_eq_some
    {stream next : Stream} {count : Nat} {bytes : Bytes}
    (read : stream.readFull count = some (bytes, next)) :
    bytes.length = count ∧ stream.bytes = bytes ++ next.bytes ∧
      stream.ending = next.ending := by
  unfold Stream.readFull at read
  split at read
  · cases read
  next enough =>
    cases read
    refine ⟨?_, (List.take_append_drop _ _).symm, rfl⟩
    rw [List.length_take]
    omega

/-- Exactly the streams that hold one frame and then end are read. -/
theorem readSingleFrame_eq_ok_iff
    {reader : Option Stream} :
    readSingleFrame reader = .ok payload ↔
      ∃ frame, encodeFrame payload = .ok frame ∧
        reader = some ⟨frame, .eof⟩ := by
  constructor
  · intro accepted
    cases reader with
    | none => cases accepted
    | some stream =>
        unfold readSingleFrame at accepted
        dsimp only at accepted
        split at accepted
        · cases accepted
        next header afterHeader headerRead =>
        split at accepted
        · cases accepted
        next positive =>
        split at accepted
        · cases accepted
        next bounded =>
        split at accepted
        · cases accepted
        next body afterBody bodyRead =>
        split at accepted
        · cases accepted
        next exhausted =>
        split at accepted
        · cases accepted
        next ended =>
          cases accepted
          obtain ⟨headerLength, headerBytes, headerEnding⟩ :=
            Stream.readFull_eq_some headerRead
          obtain ⟨bodyLength, bodyBytes, bodyEnding⟩ :=
            Stream.readFull_eq_some bodyRead
          rw [not_not] at exhausted ended
          refine ⟨header ++ payload, encodeFrame_eq_ok_iff.mpr ⟨⟨?_, ?_⟩, ?_⟩,
            ?_⟩
          · rintro rfl
            exact positive bodyLength.symm
          · rw [bodyLength]
            omega
          · rw [bodyLength, ← headerLength, BigEndian.put_read]
          · rw [exhausted, List.append_nil] at bodyBytes
            cases stream
            simp_all
  · rintro ⟨frame, encoded, rfl⟩
    obtain ⟨⟨nonempty, bounded⟩, rfl⟩ := encodeFrame_eq_ok_iff.mp encoded
    have header := Stream.readFull_append (BigEndian.put 4 payload.length)
      payload .eof
    rw [BigEndian.length_put] at header
    have body := Stream.readFull_append payload [] .eof
    rw [List.append_nil] at body
    have size : BigEndian.read (BigEndian.put 4 payload.length) =
        payload.length := by
      apply BigEndian.read_put_of_lt
      rw [maxFramePayloadBytes] at bounded
      omega
    have positive : payload.length ≠ 0 := by simpa using nonempty
    simp only [readSingleFrame, header, size, positive, body,
      Nat.not_lt.mpr bounded, if_false, not_true_eq_false, ne_eq]

/-- A successful write has delivered the whole frame; a failed one a beginning
of it. -/
theorem writeFrom_spec
    (writer : Nat → Bytes → WriteReply) (fuel call : Nat) (frame : Bytes) :
    (writeFrom writer fuel call frame).1 <+: frame ∧
      ((writeFrom writer fuel call frame).2 = .ok () →
        (writeFrom writer fuel call frame).1 = frame) := by
  induction fuel generalizing call frame with
  | zero =>
      cases frame with
      | nil => exact ⟨List.prefix_rfl, fun _ => rfl⟩
      | cons => exact ⟨List.nil_prefix, fun done => by cases done⟩
  | succ fuel ih =>
      cases frame with
      | nil => exact ⟨List.prefix_rfl, fun _ => rfl⟩
      | cons byte rest =>
          unfold writeFrom
          dsimp only
          split
          · exact ⟨List.nil_prefix, fun done => by cases done⟩
          split
          · exact ⟨List.take_prefix _ _, fun done => by cases done⟩
          next reply _ =>
            obtain ⟨⟨left, tail⟩, whole⟩ := ih (call + 1)
              ((byte :: rest).drop (writer call (byte :: rest)).written.toNat)
            constructor
            · refine ⟨left, ?_⟩
              dsimp only
              rw [List.append_assoc, tail, List.take_append_drop]
            · intro done
              dsimp only at done ⊢
              rw [whole done, List.take_append_drop]

/-- What was written completely is read back. -/
theorem readSingleFrame_writeFrame
    {writer : Option (Nat → Bytes → WriteReply)}
    (written : (writeFrame writer payload).2 = .ok ()) :
    readSingleFrame (some ⟨(writeFrame writer payload).1, .eof⟩) =
      .ok payload := by
  apply readSingleFrame_eq_ok_iff.mpr
  unfold writeFrame at written ⊢
  split at written
  · cases written
  next writer =>
  split at written
  · cases written
  next frame encoded =>
    refine ⟨frame, encoded, ?_⟩
    rw [(writeFrom_spec writer frame.length 0 frame).2 written]

end SentinelFlow.Ipc
