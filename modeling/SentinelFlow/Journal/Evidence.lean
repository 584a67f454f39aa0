import SentinelFlow.Journal.Refinement

/-!
# Tamper evidence

Each payload carries the digest of the payload before it.  If SHA-256 does not
collide on the payloads at hand, the digest of the last payload and the number
of frames determine every byte of a valid journal.
-/

namespace SentinelFlow.Journal

open GoLib Capability

section Frames

variable (crypto : Crypto)

/-- The frames at the head of some bytes. -/
def splitFrames : (fuel : Nat) → Bytes → List DecodedFrame
  | 0, _ => []
  | fuel + 1, remaining =>
      match nextFrame crypto remaining with
      | .error _ => []
      | .ok (frame, rest) => frame :: splitFrames fuel rest

def frames (contents : Bytes) : List DecodedFrame :=
  splitFrames crypto contents.length contents

/-- The digest of the last payload; empty if there is none. -/
def lastDigest (frames : List DecodedFrame) : Bytes :=
  (frames.getLast?.map fun frame => digestText crypto frame.payload).getD []

end Frames

variable {crypto : Crypto} {verifiers : Verifiers}

/-- The frames, taken in order, lead from the first index to the second. -/
inductive Chained (crypto : Crypto) (verifiers : Verifiers) :
    List DecodedFrame → Index → Prop where
  | nil : Chained crypto verifiers [] {}
  | snoc {frames : List DecodedFrame} {index next : Index}
      {frame : DecodedFrame}
      (earlier : Chained crypto verifiers frames index)
      (scanned : scanFrame crypto verifiers index frame = .ok next) :
      Chained crypto verifiers (frames ++ [frame]) next

theorem Chained.lastRecordDigest
    {frames : List DecodedFrame} {index : Index}
    (chained : Chained crypto verifiers frames index) :
    index.lastRecordDigest = lastDigest crypto frames := by
  cases chained with
  | nil => rfl
  | snoc _ scanned =>
      obtain ⟨-, -, -, digest, -⟩ := scanFrame_eq_ok scanned
      simp [lastDigest, digest]

/-- The frames of replayed bytes are those that were replayed. -/
theorem Replays.chained
    {index last : Index} {bytes : Bytes}
    (replays : Replays crypto verifiers index bytes last)
    {earlier : List DecodedFrame}
    (chained : Chained crypto verifiers earlier index) {fuel : Nat}
    (enough : bytes.length ≤ fuel) :
    bytes = (splitFrames crypto fuel bytes).flatMap (·.bytes crypto) ∧
      Chained crypto verifiers (earlier ++ splitFrames crypto fuel bytes)
        last := by
  induction replays generalizing earlier fuel with
  | nil =>
      cases fuel with
      | zero => simpa [splitFrames] using chained
      | succ =>
          have empty : nextFrame crypto [] = .error .corrupt := rfl
          simpa [splitFrames, empty] using chained
  | @cons index next last frame rest valid scanned _ ih =>
      have cut := nextFrame_eq_ok_iff.mpr
        ⟨valid, (rfl : frame.bytes crypto ++ rest = _)⟩
      have size := frame.length_bytes crypto
      rw [List.length_append] at enough
      have shorter : rest.length < fuel := by
        rw [size, frameHeaderBytes] at enough
        omega
      obtain ⟨fuel, rfl⟩ := Nat.exists_eq_add_of_lt shorter
      obtain ⟨joined, complete⟩ := ih (chained.snoc scanned)
        (Nat.le_add_right rest.length fuel)
      rw [splitFrames, cut]
      rw [List.append_assoc] at complete
      refine ⟨?_, complete⟩
      rw [List.flatMap_cons, ← joined]

theorem frames_of_validateBytes
    {capabilityVerifier : CapabilityVerifier} {resultVerifier : ResultVerifier}
    {contents : Bytes} {summary : ValidationSummary}
    (valid : validateBytes crypto capabilityVerifier resultVerifier contents =
      .ok summary) :
    contents = (frames crypto contents).flatMap (·.bytes crypto) ∧
      ∃ configured index, Chained crypto
        ⟨capabilityVerifier, resultVerifier, configured⟩
        (frames crypto contents) index := by
  unfold validateBytes at valid
  split at valid
  next configured =>
    split at valid
    · cases valid
    split at valid
    · cases valid
    next index scanned =>
      obtain ⟨joined, chained⟩ := (scan_eq_ok_iff.mp scanned).chained .nil
        (Nat.le_refl _)
      exact ⟨joined, configured, index, chained⟩
  · cases valid

/-- The phase of a payload determines the type of its frame. -/
theorem recordType_of_validRecordShape
    {payload : RecordPayload} {recordType : RecordType} {sequence : Nat}
    (shape : validRecordShape payload recordType sequence = true) :
    recordType = (if payload.phase = phaseStarted then .started
      else .terminal) ∧ sequence = payload.journalSequence := by
  unfold validRecordShape at shape
  split at shape
  · cases shape
  next common =>
    have numbered : sequence = payload.journalSequence := by
      have accepted := not_not.mp common
      unfold validCommonShape at accepted
      split at accepted
      · cases accepted
      next fields =>
        simp only [not_or, not_not] at fields
        exact fields.2.1.symm
    refine ⟨?_, numbered⟩
    split at shape
    next started =>
      simp only [Bool.and_eq_true, beq_iff_eq] at shape
      rw [if_pos started, shape.1.1.1]
    next other =>
      split at shape
      · simp only [Bool.and_eq_true, beq_iff_eq] at shape
        rw [if_neg other, shape.1.1.1.1]
      · cases shape

theorem optionalDigest_injective : Function.Injective optionalDigest := by
  intro left right same
  unfold optionalDigest at same
  split at same <;> split at same <;> simp_all

/-- Two chains of the same length with the same last digest are equal. -/
theorem Chained.eq_of_lastDigest
    {left right : List DecodedFrame} {leftIndex rightIndex : Index}
    (leftChain : Chained crypto verifiers left leftIndex)
    (rightChain : Chained crypto verifiers right rightIndex)
    (injective : ∀ first ∈ left, ∀ second ∈ right,
      crypto.sha256 first.payload = crypto.sha256 second.payload →
        first.payload = second.payload)
    (count : left.length = right.length)
    (last : leftIndex.lastRecordDigest = rightIndex.lastRecordDigest) :
    left = right := by
  -- The induction runs back along the links from the last record.
  induction leftChain generalizing right rightIndex with
  | nil => exact (List.eq_nil_of_length_eq_zero count.symm).symm
  | @snoc frames index next frame _ scanned ih =>
      cases rightChain with
      | nil => simp at count
      | @snoc others otherIndex _ other otherEarlier otherScanned =>
          obtain ⟨-, -, ⟨payload, found, shape, link⟩, digest, -⟩ :=
            scanFrame_eq_ok scanned
          obtain ⟨-, -, ⟨otherPayload, otherFound, otherShape, otherLink⟩,
            otherDigest, -⟩ := scanFrame_eq_ok otherScanned
          have payloads : frame.payload = other.payload := by
            apply injective frame (by simp) other (by simp)
            apply sha256_eq_of_digestText_eq
            rw [← digest, ← otherDigest, last]
          rw [← payloads, found] at otherFound
          cases otherFound
          obtain ⟨kind, number⟩ := recordType_of_validRecordShape shape
          obtain ⟨otherKind, otherNumber⟩ :=
            recordType_of_validRecordShape otherShape
          have same : frame = other := by
            cases frame
            cases other
            simp_all
          have earlier : frames = others := by
            apply ih otherEarlier
            · intro first member second otherMember
              exact injective first (by simp [member]) second
                (by simp [otherMember])
            · simpa using count
            · apply optionalDigest_injective
              rw [← link, ← otherLink]
          rw [same, earlier]

/-- The digest of the last payload determines the complete history. -/
theorem lastDigest_determines_journal
    {crypto : Crypto} {capabilityVerifier : CapabilityVerifier}
    {resultVerifier : ResultVerifier} {left right : Bytes}
    {leftSummary rightSummary : ValidationSummary}
    (injective : ∀ first ∈ frames crypto left, ∀ second ∈ frames crypto right,
      crypto.sha256 first.payload = crypto.sha256 second.payload →
        first.payload = second.payload)
    (leftValid : validateBytes crypto capabilityVerifier resultVerifier left =
      .ok leftSummary)
    (rightValid : validateBytes crypto capabilityVerifier resultVerifier
      right = .ok rightSummary)
    (count : (frames crypto left).length = (frames crypto right).length)
    (last : lastDigest crypto (frames crypto left) =
      lastDigest crypto (frames crypto right)) :
    left = right := by
  obtain ⟨leftJoined, configured, leftIndex, leftChain⟩ :=
    frames_of_validateBytes leftValid
  obtain ⟨rightJoined, _, rightIndex, rightChain⟩ :=
    frames_of_validateBytes rightValid
  have same : frames crypto left = frames crypto right := by
    apply leftChain.eq_of_lastDigest rightChain injective count
    rw [leftChain.lastRecordDigest, rightChain.lastRecordDigest, last]
  rw [leftJoined, rightJoined, same]

/-! ## A journal with one execution -/

/-- SHA-256 of the texts in the sample run, by their lengths: the artifact, the
capability, the checksummed text, payload and frame of the start, the result and
the three texts of the terminal record. -/
def sampleDigests : List (Nat × Bytes) :=
  [(74, [134, 108, 194, 52, 100, 215, 96, 161, 222, 23, 45, 102, 204, 208,
           118, 198, 167, 145, 92, 96, 17, 167, 93, 71, 220, 147, 34, 75,
           190, 85, 57, 230]),
    (1092, [36, 159, 101, 15, 70, 95, 66, 207, 9, 46, 112, 25, 120, 141, 27,
           177, 178, 91, 237, 30, 226, 242, 100, 2, 143, 223, 47, 181, 226,
           246, 81, 231]),
    (2405, [226, 18, 60, 20, 29, 253, 101, 145, 32, 196, 220, 59, 101, 55,
           255, 205, 39, 149, 114, 41, 114, 221, 64, 20, 252, 212, 51, 35,
           52, 100, 252, 238]),
    (2497, [61, 87, 218, 193, 80, 150, 203, 15, 148, 219, 157, 51, 251, 129,
           7, 46, 38, 211, 84, 84, 126, 153, 6, 228, 20, 133, 101, 235, 30,
           48, 181, 81]),
    (2521, [109, 217, 135, 197, 87, 31, 102, 76, 122, 157, 15, 147, 201, 21,
           244, 139, 250, 73, 188, 77, 44, 234, 165, 240, 173, 158, 200, 88,
           40, 11, 108, 81]),
    (780, [204, 33, 243, 97, 218, 134, 6, 200, 114, 47, 248, 16, 19, 118,
           163, 94, 123, 161, 101, 63, 35, 234, 177, 30, 132, 6, 128, 182,
           127, 120, 14, 129]),
    (3666, [143, 254, 50, 114, 162, 210, 53, 169, 220, 41, 207, 42, 234, 190,
           47, 5, 92, 37, 82, 223, 75, 48, 48, 19, 172, 51, 238, 37, 245, 44,
           222, 113]),
    (3758, [123, 46, 248, 46, 158, 37, 148, 215, 249, 237, 48, 203, 146, 165,
           33, 47, 220, 121, 29, 13, 127, 116, 146, 159, 14, 246, 115, 132,
           40, 82, 14, 44]),
    (3782, [218, 146, 232, 156, 85, 212, 91, 1, 18, 171, 128, 27, 167, 245,
           244, 136, 223, 134, 8, 161, 90, 10, 5, 97, 97, 5, 154, 1, 216,
           160, 195, 81])]

def sampleSha256 (data : Bytes) : Bytes :=
  (sampleDigests.lookup data.length).getD (List.replicate 32 0)

def sampleDispatcherKey : Bytes :=
  [3, 161, 7, 191, 243, 206, 16, 190, 29, 112, 221, 24, 231, 75, 192, 153,
   103, 228, 214, 48, 155, 165, 13, 95, 29, 220, 134, 100, 18, 85, 49, 184]

def sampleExecutorKey : Bytes :=
  [41, 172, 186, 225, 65, 188, 202, 240, 178, 46, 26, 148, 211, 77, 11, 199,
   54, 30, 82, 109, 11, 254, 18, 200, 151, 148, 188, 147, 34, 150, 109, 215]

/-- A private key ends in the public one. -/
def samplePrivateKey : Bytes :=
  (List.range' 32 32).map UInt8.ofNat ++ sampleExecutorKey

def sampleSignature : Bytes :=
  [219, 97, 194, 152, 228, 47, 16, 20, 228, 23, 84, 227, 180, 55, 184, 144,
   118, 24, 161, 218, 75, 152, 203, 234, 52, 85, 152, 6, 100, 84, 49, 238,
   90, 99, 201, 51, 17, 206, 147, 126, 243, 31, 196, 102, 254, 60, 219, 102,
   152, 136, 213, 192, 4, 113, 54, 228, 167, 217, 157, 57, 253, 106, 147, 7]

def sampleResultSignature : Bytes :=
  [59, 213, 193, 26, 32, 168, 169, 175, 61, 35, 207, 130, 63, 20, 226, 25,
   232, 30, 224, 101, 156, 175, 243, 100, 175, 18, 30, 4, 52, 119, 164, 0,
   255, 201, 192, 53, 137, 192, 225, 203, 45, 55, 62, 151, 211, 213, 128,
   190, 199, 107, 10, 6, 93, 220, 149, 89, 252, 68, 113, 106, 45, 189, 69, 3]

/-- Ed25519 on the one result of the sample run. -/
def sampleSign (privateKey message : Bytes) : Bytes :=
  if privateKey = samplePrivateKey ∧ message = resultSigningDomain ++
      charByte '\n' :: ((sampleDigests.lookup 780).getD []) then
    sampleResultSignature
  else List.replicate 64 0

def sampleVerify (publicKey message signature : Bytes) : Bool :=
  if publicKey = sampleDispatcherKey then
    message == capabilitySigningDomain ++
        charByte '\n' :: ((sampleDigests.lookup 1092).getD []) &&
      signature == sampleSignature
  else publicKey == sampleExecutorKey &&
    signature == sampleSign samplePrivateKey message

theorem length_sampleSha256 (data : Bytes) :
    (sampleSha256 data).length = 32 := by
  have known : sampleDigests.all (fun entry => entry.2.length == 32) = true := by
    decide +kernel
  unfold sampleSha256
  cases found : sampleDigests.lookup data.length with
  | none => simp
  | some digest =>
      obtain ⟨before, after, entries, -⟩ := List.lookup_eq_some_iff.mp found
      have length := List.all_eq_true.mp known (data.length, digest)
        (by rw [entries]; simp)
      simpa using length

theorem length_sampleSign (privateKey message : Bytes) :
    (sampleSign privateKey message).length = 64 := by
  unfold sampleSign
  split
  · decide +kernel
  · simp

def sampleCrypto : Crypto where
  sha256 := sampleSha256
  ed25519Verify := sampleVerify
  ed25519Sign := sampleSign
  length_sha256 := length_sampleSha256
  length_ed25519Sign := length_sampleSign

def sampleTime : Int := 63902520000000000000

def sampleID (last : Char) : Bytes :=
  ascii "019b0000-0000-7000-8000-00000000010" ++ [charByte last]

def sampleDigest (letter : Char) : Bytes :=
  digestLabel ++ List.replicate 64 (charByte letter)

def sampleTarget : Bytes := ascii "203.0.113.20"

def sampleSchemaDigest : Bytes :=
  ascii "sha256:d5582a75817d349b12f292d212483bb0c2a5db66afde7d73c6d11050a5eb5997"

def sampleArtifact : Bytes :=
  Command.statement sampleTarget (ascii "30m")

def sampleCommon : Common :=
  { capabilityID := sampleID '1'
    jobID := sampleID '2'
    actionID := sampleID '3'
    policyID := sampleID '4'
    policyVersion := 1
    targetIPv4 := sampleTarget
    evidenceSnapshotDigest := sampleDigest 'a'
    validationSnapshotDigest := sampleDigest 'b'
    authorizationDigest := sampleDigest 'c'
    actorID := ascii "admin"
    reasonDigest := sampleDigest 'd'
    ownedSchemaDigest := sampleSchemaDigest
    issuedAt := sampleTime - Time.second
    notBefore := sampleTime - Time.second
    expiresAt := sampleTime + 30 * Time.second
    nonce := ascii "AQEBAQEBAQEBAQEBAQEBAQ" }

/-- An add of the target for half an hour, as the dispatcher signed it. -/
def sampleCapability : SignedCapability where
  keyID := ascii "dispatcher-1"
  canonical := marshalCapability (valueOf sampleCommon .add []
    (digestText sampleCrypto sampleArtifact))
  signature := sampleSignature
  artifact := sampleArtifact

def sampleVerifiers : Verifiers where
  capability :=
    { keyID := ascii "dispatcher-1"
      executorID := ascii "executor-1"
      key := sampleDispatcherKey }
  result :=
    { keyID := ascii "result-1"
      executorID := ascii "executor-1"
      key := sampleExecutorKey }
  configured := by decide +kernel

/-- The journal after the sample capability was begun. -/
def sampleJournal : Journal :=
  [Call.begin sampleCapability sampleTime (sampleTime + 2 * Time.second)].foldl
    (Journal.call sampleCrypto sampleVerifiers) {}

theorem sampleJournal_frames :
    (frames sampleCrypto sampleJournal.contents).length = 1 := by
  decide +kernel

theorem sampleJournal_valid :
    validateBytes sampleCrypto sampleVerifiers.capability
      sampleVerifiers.result sampleJournal.contents =
        .ok (summarize sampleJournal.index) := by
  obtain ⟨sound, healthy⟩ := sound_calls sampleCrypto sampleVerifiers
    [.begin sampleCapability sampleTime (sampleTime + 2 * Time.second)]
  exact sound.validates healthy

/-- A journal with one record satisfies the conditions together with its copy. -/
theorem sampleJournal_determined :
    (frames sampleCrypto sampleJournal.contents).length = 1 ∧
      sampleJournal.contents = sampleJournal.contents := by
  refine ⟨sampleJournal_frames, lastDigest_determines_journal ?_
    sampleJournal_valid sampleJournal_valid rfl rfl⟩
  obtain ⟨frame, only⟩ := List.length_eq_one_iff.mp sampleJournal_frames
  intro first firstMember second secondMember _
  rw [only] at firstMember secondMember
  rw [List.mem_singleton.mp firstMember, List.mem_singleton.mp secondMember]

end SentinelFlow.Journal
