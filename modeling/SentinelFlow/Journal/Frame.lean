import SentinelFlow.GoLib.Binary
import SentinelFlow.GoLib.Crypto

/-!
# Journal frames

A frame is a header of 24 bytes, a payload and the SHA-256 checksum of both.
Decoding accepts exactly the frames that encoding writes, so a journal file is
cut into frames in at most one way.
-/

namespace SentinelFlow.Journal

open GoLib

/-- The stable failure classes of the package that the model can produce. -/
inductive ErrorCode where
  | unsafeDirectory
  | unsafeFile
  | tooLarge
  | corrupt
  | version
  | sequence
  | verification
  | time
  | conflict
  | missingStart
  | duplicateTerminal
  | operation
  | freshness
  | permitUsed
  | sync
  | io
  | unhealthy
deriving DecidableEq, Repr

inductive RecordType where
  | started
  | terminal
deriving DecidableEq, Repr

def RecordType.byte : RecordType → UInt8
  | started => 1
  | terminal => 2

def RecordType.ofByte? (byte : UInt8) : Option RecordType :=
  [started, terminal].find? fun kind => kind.byte == byte

def frameHeaderBytes : Nat := 24

def checksumBytes : Nat := 32

def maxPayloadBytes : Nat := 32 * 1024

def maxFrameBytes : Nat := frameHeaderBytes + maxPayloadBytes + checksumBytes

def maxSequence : Nat := 2 ^ 53 - 1

def frameMagic : Bytes := ascii "SFJNLv1\n"

def frameVersion : UInt8 := 1

structure DecodedFrame where
  recordType : RecordType
  sequence : Nat
  payload : Bytes
deriving DecidableEq, Repr

/-- The header of a frame; its bytes 10 and 11 are reserved and stay zero. -/
def frameHeader (recordType : RecordType) (sequence length : Nat) : Bytes :=
  frameMagic ++ ([frameVersion, recordType.byte, 0, 0] ++
    (BigEndian.put 8 sequence ++ BigEndian.put 4 length))

section Crypto

variable (crypto : Crypto)

def encodeFrame (recordType : RecordType) (sequence : Nat) (payload : Bytes) :
    Except ErrorCode Bytes :=
  if sequence = 0 ∨ sequence > maxSequence ∨ payload = [] ∨
      payload.length > maxPayloadBytes then
    .error .corrupt
  else
    let body := frameHeader recordType sequence payload.length ++ payload
    .ok (body ++ crypto.sha256 body)

def decodeFrame (frame : Bytes) : Except ErrorCode DecodedFrame :=
  if frame.length < frameHeaderBytes + checksumBytes ∨
      frame.length > maxFrameBytes ∨ frame.take 8 ≠ frameMagic then
    .error .corrupt
  else match (frame.drop 8).take 4 with
  | [version, kind, first, second] =>
      if version ≠ frameVersion then .error .version
      else match RecordType.ofByte? kind with
      | none => .error .version
      | some recordType =>
          if first ≠ 0 ∨ second ≠ 0 then .error .corrupt
          else
            let sequence := BigEndian.read ((frame.drop 12).take 8)
            let length := BigEndian.read ((frame.drop 20).take 4)
            if sequence = 0 ∨ sequence > maxSequence ∨ length = 0 ∨
                length > maxPayloadBytes ∨
                length + frameHeaderBytes + checksumBytes ≠ frame.length then
              .error .corrupt
            else if crypto.sha256 (frame.take (frameHeaderBytes + length)) ≠
                frame.drop (frameHeaderBytes + length) then
              .error .corrupt
            else .ok
              { recordType
                sequence
                payload :=
                  (frame.drop frameHeaderBytes).take length }
  -- A frame has more than twelve bytes, so there is no other case.
  | _ => .error .corrupt

/-- The head of the loop of `scan` and `ValidateBytes`: cuts the next frame off
the remaining bytes. -/
def nextFrame (remaining : Bytes) : Except ErrorCode (DecodedFrame × Bytes) :=
  if remaining.length < frameHeaderBytes + checksumBytes then .error .corrupt
  else
    let payloadLength := BigEndian.read ((remaining.drop 20).take 4)
    if payloadLength = 0 ∨ payloadLength > maxPayloadBytes then .error .corrupt
    else
      let length := frameHeaderBytes + payloadLength + checksumBytes
      if length > remaining.length ∨ length > maxFrameBytes then
        .error .corrupt
      else match decodeFrame crypto (remaining.take length) with
      | .error code => .error code
      | .ok decoded => .ok (decoded, remaining.drop length)

end Crypto

/-! ## Encoding and decoding -/

theorem RecordType.ofByte?_eq_some_iff {byte : UInt8} {kind : RecordType} :
    RecordType.ofByte? byte = some kind ↔ byte = kind.byte := by
  revert byte
  cases kind <;> decide +kernel

@[simp]
theorem length_frameHeader (recordType : RecordType) (sequence length : Nat) :
    (frameHeader recordType sequence length).length = frameHeaderBytes := by
  have magic : frameMagic.length = 8 := by decide +kernel
  simp [frameHeader, frameHeaderBytes, magic]

/-- The conditions under which a frame is written. -/
structure DecodedFrame.Valid (frame : DecodedFrame) : Prop where
  sequence : 0 < frame.sequence ∧ frame.sequence ≤ maxSequence
  nonempty : frame.payload ≠ []
  bounded : frame.payload.length ≤ maxPayloadBytes

/-- The bytes of a frame. -/
def DecodedFrame.bytes (crypto : Crypto) (frame : DecodedFrame) : Bytes :=
  let body := frameHeader frame.recordType frame.sequence
    frame.payload.length ++ frame.payload
  body ++ crypto.sha256 body

variable {crypto : Crypto} {frame : DecodedFrame}

theorem encodeFrame_eq_ok_iff
    {recordType : RecordType} {sequence : Nat} {payload bytes : Bytes} :
    encodeFrame crypto recordType sequence payload = .ok bytes ↔
      DecodedFrame.Valid ⟨recordType, sequence, payload⟩ ∧
        bytes = DecodedFrame.bytes crypto ⟨recordType, sequence, payload⟩ := by
  unfold encodeFrame
  constructor
  · intro accepted
    split at accepted
    · cases accepted
    next inside =>
      simp only [not_or, Nat.not_lt] at inside
      cases accepted
      exact ⟨⟨⟨Nat.pos_of_ne_zero inside.1, inside.2.1⟩, inside.2.2.1,
        inside.2.2.2⟩, rfl⟩
  · rintro ⟨⟨⟨positive, bounded⟩, nonempty, short⟩, rfl⟩
    dsimp only at positive bounded nonempty short
    rw [if_neg]
    · rfl
    · simp only [nonempty, false_or]
      omega

theorem DecodedFrame.length_bytes (crypto : Crypto) (frame : DecodedFrame) :
    (frame.bytes crypto).length =
      frameHeaderBytes + frame.payload.length + checksumBytes := by
  simp [DecodedFrame.bytes, crypto.length_sha256, checksumBytes, Nat.add_assoc]

/-- Consecutive segments are found at their offsets. -/
private theorem segments
    {magic fixed sequence length tail : Bytes} (eight : magic.length = 8)
    (four : fixed.length = 4) (wide : sequence.length = 8)
    (narrow : length.length = 4) {bytes : Bytes}
    (joined : bytes = magic ++ (fixed ++ (sequence ++ (length ++ tail)))) :
    bytes.take 8 = magic ∧ (bytes.drop 8).take 4 = fixed ∧
      (bytes.drop 12).take 8 = sequence ∧ (bytes.drop 20).take 4 = length ∧
      bytes.drop frameHeaderBytes = tail := by
  subst joined
  simp [List.drop_append, eight, four, wide, narrow, frameHeaderBytes,
    List.drop_of_length_le]

/-- The first 24 bytes consist of their segments. -/
private theorem join_segments (bytes : Bytes) :
    bytes.take frameHeaderBytes = bytes.take 8 ++ ((bytes.drop 8).take 4 ++
      ((bytes.drop 12).take 8 ++ (bytes.drop 20).take 4)) := by
  have step : ∀ start middle stop : Nat, start ≤ middle → middle ≤ stop →
      (bytes.drop start).take (middle - start) ++
        (bytes.drop middle).take (stop - middle) =
      (bytes.drop start).take (stop - start) := by
    intro start middle stop early late
    obtain ⟨first, rfl⟩ := Nat.exists_eq_add_of_le early
    obtain ⟨second, rfl⟩ := Nat.exists_eq_add_of_le late
    rw [Nat.add_sub_cancel_left, Nat.add_sub_cancel_left, Nat.add_assoc,
      Nat.add_sub_cancel_left, List.take_add, List.drop_drop]
  have whole := step 0 8 24 (by decide) (by decide)
  rw [← step 8 12 24 (by decide) (by decide),
    ← step 12 20 24 (by decide) (by decide)] at whole
  exact whole.symm

private theorem bytes_segments
    (crypto : Crypto) (frame : DecodedFrame) (rest : Bytes) :
    let bytes := frame.bytes crypto ++ rest
    bytes.take 8 = frameMagic ∧
      (bytes.drop 8).take 4 = [frameVersion, frame.recordType.byte, 0, 0] ∧
      (bytes.drop 12).take 8 = BigEndian.put 8 frame.sequence ∧
      (bytes.drop 20).take 4 = BigEndian.put 4 frame.payload.length ∧
      bytes.drop frameHeaderBytes = frame.payload ++
        (crypto.sha256 (frameHeader frame.recordType frame.sequence
          frame.payload.length ++ frame.payload) ++ rest) := by
  intro bytes
  apply segments (by decide +kernel) rfl (BigEndian.length_put _ _)
    (BigEndian.length_put _ _)
  simp [bytes, DecodedFrame.bytes, frameHeader]

theorem decodeFrame_bytes
    (valid : frame.Valid) :
    decodeFrame crypto (frame.bytes crypto) = .ok frame := by
  obtain ⟨magic, fixed, wide, narrow, tail⟩ := bytes_segments crypto frame []
  simp only [List.append_nil] at magic fixed wide narrow tail
  obtain ⟨positive, bounded⟩ := valid.sequence
  have nonempty := List.length_pos_iff.mpr valid.nonempty
  have short := valid.bounded
  have size := frame.length_bytes crypto
  have sequence : BigEndian.read (BigEndian.put 8 frame.sequence) =
      frame.sequence := BigEndian.read_put_of_lt (by
    simp only [maxSequence] at bounded
    omega)
  have length : BigEndian.read (BigEndian.put 4 frame.payload.length) =
      frame.payload.length := BigEndian.read_put_of_lt (by
    simp only [maxPayloadBytes] at short
    omega)
  have kind := RecordType.ofByte?_eq_some_iff.mpr
    (rfl : frame.recordType.byte = frame.recordType.byte)
  have body : (frame.bytes crypto).take
      (frameHeaderBytes + frame.payload.length) =
      frameHeader frame.recordType frame.sequence frame.payload.length ++
        frame.payload := by
    rw [DecodedFrame.bytes, List.take_left']
    simp
  have sum : (frame.bytes crypto).drop
      (frameHeaderBytes + frame.payload.length) =
      crypto.sha256 (frameHeader frame.recordType frame.sequence
        frame.payload.length ++ frame.payload) := by
    rw [DecodedFrame.bytes, List.drop_left']
    simp
  rw [decodeFrame, if_neg (by rw [size]; simp [magic, maxFrameBytes]; omega)]
  simp only [fixed, kind, wide, narrow, sequence, length, body, sum, tail,
    ne_eq, not_true_eq_false, if_false, or_self]
  rw [if_neg (by rw [size]; omega)]
  simp

private theorem put_read_of_length
    {width : Nat} {bytes : Bytes} (length : bytes.length = width) :
    BigEndian.put width (BigEndian.read bytes) = bytes := by
  rw [← length, BigEndian.put_read]

theorem decodeFrame_eq_ok
    {bytes : Bytes}
    (accepted : decodeFrame crypto bytes = .ok frame) :
    frame.Valid ∧ bytes = frame.bytes crypto := by
  unfold decodeFrame at accepted
  split at accepted
  · cases accepted
  next outer =>
  split at accepted
  next version kind first second fixed =>
    split at accepted
    · cases accepted
    next current =>
    split at accepted
    · cases accepted
    next recordType known =>
    split at accepted
    · cases accepted
    next reserved =>
    dsimp only at accepted
    split at accepted
    · cases accepted
    next inner =>
    split at accepted
    · cases accepted
    next checked =>
      simp only [not_or, not_not, Nat.not_lt] at outer current reserved inner
      simp only [not_not] at checked
      obtain ⟨positive, bounded, nonempty, short, size⟩ := inner
      cases accepted
      have kindByte := RecordType.ofByte?_eq_some_iff.mp known
      have payload : ((bytes.drop frameHeaderBytes).take
          (BigEndian.read ((bytes.drop 20).take 4))).length =
          BigEndian.read ((bytes.drop 20).take 4) := by
        rw [List.length_take, List.length_drop]
        omega
      have wide : BigEndian.put 8 (BigEndian.read ((bytes.drop 12).take 8)) =
          (bytes.drop 12).take 8 := by
        apply put_read_of_length
        simp only [List.length_take, List.length_drop]
        simp only [frameHeaderBytes, checksumBytes] at size
        omega
      have narrow : BigEndian.put 4 (BigEndian.read ((bytes.drop 20).take 4)) =
          (bytes.drop 20).take 4 := by
        apply put_read_of_length
        simp only [List.length_take, List.length_drop]
        simp only [frameHeaderBytes, checksumBytes] at size
        omega
      have body : bytes.take (frameHeaderBytes +
            BigEndian.read ((bytes.drop 20).take 4)) =
          frameHeader recordType (BigEndian.read ((bytes.drop 12).take 8))
              (BigEndian.read ((bytes.drop 20).take 4)) ++
            (bytes.drop frameHeaderBytes).take
              (BigEndian.read ((bytes.drop 20).take 4)) := by
        rw [List.take_add, join_segments, frameHeader, wide, narrow, fixed,
          outer.2.2, current, kindByte, reserved.1, reserved.2]
      refine ⟨⟨⟨Nat.pos_of_ne_zero positive, bounded⟩, ?_, ?_⟩, ?_⟩
      · exact List.ne_nil_of_length_pos (by rw [payload]; omega)
      · rw [payload]
        exact short
      · rw [DecodedFrame.bytes]
        dsimp only
        rw [payload, ← body, checked, List.take_append_drop]
  · cases accepted

/-- Cutting off a frame and putting it back are inverse to each other. -/
theorem nextFrame_eq_ok_iff
    {remaining rest : Bytes} :
    nextFrame crypto remaining = .ok (frame, rest) ↔
      frame.Valid ∧ remaining = frame.bytes crypto ++ rest := by
  constructor
  · intro accepted
    unfold nextFrame at accepted
    dsimp only at accepted
    split at accepted
    · cases accepted
    split at accepted
    · cases accepted
    split at accepted
    · cases accepted
    split at accepted
    · cases accepted
    next decoded found =>
      cases accepted
      obtain ⟨valid, written⟩ := decodeFrame_eq_ok found
      exact ⟨valid, by rw [← written, List.take_append_drop]⟩
  · rintro ⟨valid, rfl⟩
    obtain ⟨-, -, -, narrow, -⟩ := bytes_segments crypto frame rest
    have nonempty := List.length_pos_iff.mpr valid.nonempty
    have short := valid.bounded
    have size := frame.length_bytes crypto
    have length : BigEndian.read (BigEndian.put 4 frame.payload.length) =
        frame.payload.length := BigEndian.read_put_of_lt (by
      simp only [maxPayloadBytes] at short
      omega)
    unfold nextFrame
    dsimp only
    rw [narrow, length, ← size, List.take_left, List.drop_left,
      decodeFrame_bytes valid, if_neg, if_neg, if_neg]
    · rw [List.length_append, size, maxFrameBytes]
      omega
    · omega
    · rw [List.length_append, size]
      omega

end SentinelFlow.Journal
