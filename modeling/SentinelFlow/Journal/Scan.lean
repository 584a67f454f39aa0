import Mathlib.Data.List.AList
import SentinelFlow.Journal.Roundtrip

/-!
# Replaying a journal

`Open` and `ValidateBytes` read the frames of a journal in order and rebuild the
index of executions from them.  The relation `Replays` is the same computation
without its loop; replaying two consecutive pieces is replaying one after the
other, and an index that was replayed contains genuine records only.
-/

namespace SentinelFlow.Journal

open GoLib Capability

/-- The verifiers of a journal, with the identities that `Open` demands. -/
structure Verifiers where
  capability : CapabilityVerifier
  result : ResultVerifier
  configured : capability.keyID ≠ [] ∧ result.keyID ≠ [] ∧
    result.executorID ≠ []

abbrev Entries : Type := AList fun _ : Bytes => StartedRecord

/-- What is known after some frames: the executions by capability identifier,
the next sequence number and the digest of the last payload. -/
structure Index where
  entries : Entries := ∅
  nextSequence : Nat := 1
  lastRecordDigest : Bytes := []

def maxJournalBytes : Nat := 64 * 1024 * 1024

section Crypto

variable (crypto : Crypto) (verifiers : Verifiers)

def indexFrame (entries : Entries) (frame : DecodedFrame)
    (payload : RecordPayload) : Except ErrorCode Entries :=
  match frame.recordType with
  | .started =>
      match parseStartedPayload crypto verifiers.capability payload
          frame.sequence with
      | .error code => .error code
      | .ok started =>
          let identifier := started.verified.value.capabilityID
          if (entries.lookup identifier).isSome then .error .conflict
          else .ok (entries.insert identifier started)
  | .terminal =>
      match entries.lookup payload.capabilityID with
      | none => .error .missingStart
      | some start =>
          if start.terminal ≠ none then .error .duplicateTerminal
          else match parseTerminalPayload crypto verifiers.result payload
              frame.sequence start with
          | .error code => .error code
          | .ok terminal => .ok (entries.insert payload.capabilityID
              { start with terminal := some terminal })

/-- The rest of the loop body: the frame joins the index. -/
def scanFrame (index : Index) (frame : DecodedFrame) :
    Except ErrorCode Index :=
  if frame.sequence ≠ index.nextSequence then .error .sequence
  else match parseRecordPayload crypto frame.payload frame.recordType
      frame.sequence index.lastRecordDigest with
  | .error code => .error code
  | .ok (payload, recordDigest) =>
      match indexFrame crypto verifiers index.entries frame payload with
      | .error code => .error code
      | .ok entries => .ok
          { entries
            nextSequence := index.nextSequence + 1
            lastRecordDigest := recordDigest }

/-- The loop.  Every frame is longer than one byte, so as many rounds as there
are bytes suffice. -/
def scanFrom : (fuel : Nat) → Index → Bytes → Except ErrorCode Index
  | _, index, [] => .ok index
  | 0, _, _ => .error .corrupt
  | fuel + 1, index, remaining =>
      match nextFrame crypto remaining with
      | .error code => .error code
      | .ok (frame, rest) =>
          match scanFrame crypto verifiers index frame with
          | .error code => .error code
          | .ok next => scanFrom fuel next rest

def scan (contents : Bytes) : Except ErrorCode Index :=
  scanFrom crypto verifiers contents.length {} contents

end Crypto

/-! ## Validation of a copy -/

structure ValidationEntry where
  capabilityID : Bytes
  capabilityDigest : Bytes
  artifactDigest : Bytes
  startedSequence : Nat
  terminal : Option (Nat × Bytes)
deriving DecidableEq, Repr

structure ValidationSummary where
  entries : List ValidationEntry
  lastSequence : Nat
deriving DecidableEq, Repr

def validationEntry (started : StartedRecord) : ValidationEntry :=
  { capabilityID := started.verified.value.capabilityID
    capabilityDigest := started.verified.digest
    artifactDigest := started.verified.value.artifactDigest
    startedSequence := started.sequence
    terminal := started.terminal.map fun terminal =>
      (terminal.sequence, terminal.verified.digest) }

/-- The summary of an index, ordered by the sequence numbers of the starts. -/
def summarize (index : Index) : ValidationSummary :=
  { entries := (index.entries.entries.map fun entry =>
      validationEntry entry.2).mergeSort fun left right =>
        left.startedSequence ≤ right.startedSequence
    lastSequence := index.nextSequence - 1 }

def validateBytes (crypto : Crypto) (capabilityVerifier : CapabilityVerifier)
    (resultVerifier : ResultVerifier) (contents : Bytes) :
    Except ErrorCode ValidationSummary :=
  if configured : capabilityVerifier.keyID ≠ [] ∧ resultVerifier.keyID ≠ [] ∧
      resultVerifier.executorID ≠ [] then
    if contents.length > maxJournalBytes then .error .tooLarge
    else match scan crypto ⟨capabilityVerifier, resultVerifier, configured⟩
        contents with
    | .error code => .error code
    | .ok index => .ok (summarize index)
  else .error .verification

/-! ## The replay relation -/

section Replay

variable {crypto : Crypto} {verifiers : Verifiers}

/-- The bytes are frames that lead from the first index to the second. -/
inductive Replays (crypto : Crypto) (verifiers : Verifiers) :
    Index → Bytes → Index → Prop where
  | nil (index : Index) : Replays crypto verifiers index [] index
  | cons {index next last : Index} {frame : DecodedFrame} {rest : Bytes}
      (valid : frame.Valid)
      (scanned : scanFrame crypto verifiers index frame = .ok next)
      (later : Replays crypto verifiers next rest last) :
      Replays crypto verifiers index (frame.bytes crypto ++ rest) last

variable {index last : Index}

theorem scanFrom_eq_ok_iff
    {fuel : Nat} {bytes : Bytes}
    (enough : bytes.length ≤ fuel) :
    scanFrom crypto verifiers fuel index bytes = .ok last ↔
      Replays crypto verifiers index bytes last := by
  constructor
  · intro accepted
    clear enough
    induction fuel generalizing index bytes with
    | zero =>
        cases bytes with
        | nil =>
            cases accepted
            exact .nil _
        | cons => cases accepted
    | succ fuel ih =>
        cases bytes with
        | nil =>
            cases accepted
            exact .nil _
        | cons =>
            rw [scanFrom] at accepted
            · split at accepted
              · cases accepted
              next frame rest cut =>
              split at accepted
              · cases accepted
              next next scanned =>
                obtain ⟨valid, written⟩ := nextFrame_eq_ok_iff.mp cut
                rw [written]
                exact .cons valid scanned (ih accepted)
            · simp
  · intro replays
    induction replays generalizing fuel with
    | nil => cases fuel <;> rfl
    | @cons index next last frame rest valid scanned later ih =>
        have size := frame.length_bytes crypto
        rw [List.length_append] at enough
        have shorter : rest.length < fuel := by
          rw [size, frameHeaderBytes] at enough
          omega
        obtain ⟨fuel, rfl⟩ := Nat.exists_eq_add_of_lt shorter
        have cut := nextFrame_eq_ok_iff.mpr
          ⟨valid, (rfl : frame.bytes crypto ++ rest = _)⟩
        have present : frame.bytes crypto ++ rest ≠ [] := by
          apply List.ne_nil_of_length_pos
          rw [List.length_append, size, frameHeaderBytes]
          omega
        rw [scanFrom, cut]
        · simp only [scanned]
          exact ih (by omega)
        · exact present

theorem scan_eq_ok_iff {contents : Bytes} :
    scan crypto verifiers contents = .ok index ↔
      Replays crypto verifiers {} contents index :=
  scanFrom_eq_ok_iff (Nat.le_refl _)

theorem Replays.append
    {middle : Index} {first second : Bytes}
    (early : Replays crypto verifiers index first middle)
    (late : Replays crypto verifiers middle second last) :
    Replays crypto verifiers index (first ++ second) last := by
  induction early with
  | nil => exact late
  | cons valid scanned _ ih =>
      rw [List.append_assoc]
      exact .cons valid scanned (ih late)

/-- Replaying is deterministic, so a replayed piece can be cut off. -/
theorem Replays.of_append
    {middle : Index} {first second : Bytes}
    (early : Replays crypto verifiers index first middle)
    (whole : Replays crypto verifiers index (first ++ second) last) :
    Replays crypto verifiers middle second last := by
  induction early with
  | nil => exact whole
  | @cons index next middle frame rest valid scanned _ ih =>
      rw [List.append_assoc] at whole
      generalize joined : frame.bytes crypto ++ (rest ++ second) = bytes at whole
      cases whole with
      | nil =>
          have length := congrArg List.length joined
          rw [List.length_append, frame.length_bytes, frameHeaderBytes,
            List.length_nil] at length
          omega
      | @cons _ otherNext _ other otherRest otherValid otherScanned otherLater =>
          have cut := nextFrame_eq_ok_iff.mpr ⟨valid, joined.symm⟩
          rw [nextFrame_eq_ok_iff.mpr ⟨otherValid, rfl⟩] at cut
          cases cut
          rw [scanned] at otherScanned
          cases otherScanned
          exact ih otherLater

/-! ## Indexes that were replayed -/

/-- What one frame does to the entries. -/
inductive Advances (crypto : Crypto) (verifiers : Verifiers) (index : Index) :
    Entries → Prop where
  | started {record : StartedRecord}
      (genuine : record.Genuine crypto verifiers.capability)
      (sequence : record.sequence = index.nextSequence)
      (open_ : record.terminal = none)
      (unseen :
        index.entries.lookup record.verified.value.capabilityID = none) :
      Advances crypto verifiers index
        (index.entries.insert record.verified.value.capabilityID record)
  | terminal {identifier : Bytes} {start : StartedRecord}
      (terminal : TerminalRecord)
      (found : index.entries.lookup identifier = some start)
      (open_ : start.terminal = none)
      (sequence : terminal.sequence = index.nextSequence) :
      Advances crypto verifiers index
        (index.entries.insert identifier
          { start with terminal := some terminal })

theorem sequence_of_parseTerminalPayload
    {verifier : ResultVerifier} {payload : RecordPayload} {sequence : Nat}
    {start : StartedRecord} {terminal : TerminalRecord}
    (read : parseTerminalPayload crypto verifier payload sequence start =
      .ok terminal) : terminal.sequence = sequence := by
  unfold parseTerminalPayload at read
  dsimp only at read
  repeat' split at read
  all_goals cases read
  rfl

theorem scanFrame_eq_ok
    {next : Index} {frame : DecodedFrame}
    (scanned : scanFrame crypto verifiers index frame = .ok next) :
    frame.sequence = index.nextSequence ∧
      next.nextSequence = index.nextSequence + 1 ∧
      (∃ payload, strictPayload frame.payload = some payload ∧
        validRecordShape payload frame.recordType frame.sequence = true ∧
        payload.previousRecordDigest =
          optionalDigest index.lastRecordDigest) ∧
      next.lastRecordDigest = digestText crypto frame.payload ∧
      Advances crypto verifiers index next.entries := by
  unfold scanFrame at scanned
  split at scanned
  · cases scanned
  next current =>
  split at scanned
  · cases scanned
  next payload digest parsed =>
  split at scanned
  · cases scanned
  next entries indexed =>
    cases scanned
    have sequence := not_not.mp current
    obtain ⟨found, shape, rfl, link, -⟩ := parseRecordPayload_eq_ok parsed
    refine ⟨sequence, rfl, ⟨payload, found, shape, link⟩, rfl, ?_⟩
    unfold indexFrame at indexed
    split at indexed
    · split at indexed
      · cases indexed
      next record read =>
      dsimp only at indexed
      split at indexed
      · cases indexed
      next unseen =>
        cases indexed
        obtain ⟨genuine, numbered, open_⟩ := parseStartedPayload_eq_ok read
        exact .started genuine (numbered.trans sequence) open_
          (by simpa using unseen)
    · split at indexed
      · cases indexed
      next start known =>
      split at indexed
      · cases indexed
      next open_ =>
      split at indexed
      · cases indexed
      next terminal read =>
        cases indexed
        exact .terminal terminal known (not_not.mp open_)
          ((sequence_of_parseTerminalPayload read).trans sequence)

/-- The invariants of an index that was built from frames. -/
structure Index.Sound (crypto : Crypto) (verifiers : Verifiers)
    (index : Index) : Prop where
  linked : LinkedTo index.nextSequence index.lastRecordDigest
  initial : index.nextSequence = 1 → index.entries = ∅
  genuine : ∀ {identifier start},
    index.entries.lookup identifier = some start →
      start.Genuine crypto verifiers.capability ∧
        start.verified.value.capabilityID = identifier

theorem Index.sound_empty : ({} : Index).Sound crypto verifiers where
  linked := .inl ⟨rfl, rfl⟩
  initial _ := rfl
  genuine found := by simp at found

theorem Index.Sound.scanFrame
    {next : Index} (sound : index.Sound crypto verifiers) {frame : DecodedFrame}
    (scanned : Journal.scanFrame crypto verifiers index frame = .ok next) :
    next.Sound crypto verifiers := by
  obtain ⟨-, sequence, -, digest, advances⟩ := scanFrame_eq_ok scanned
  have later : 1 < next.nextSequence := by
    rcases sound.linked with ⟨first, -⟩ | ⟨later, -⟩ <;> omega
  refine ⟨.inr ⟨later, ?_⟩, fun first => absurd first (by omega), ?_⟩
  · rw [digest]
    exact digestPattern_digestText crypto _
  · intro identifier found known
    generalize next.entries = entries at advances known
    cases advances with
    | @started record genuine =>
        by_cases same : identifier = record.verified.value.capabilityID
        · subst same
          rw [AList.lookup_insert] at known
          cases known
          exact ⟨genuine, rfl⟩
        · rw [AList.lookup_insert_ne same] at known
          exact sound.genuine known
    | @terminal changed start terminal earlier =>
        by_cases same : identifier = changed
        · subst same
          rw [AList.lookup_insert] at known
          cases known
          obtain ⟨genuine, named⟩ := sound.genuine earlier
          exact ⟨⟨genuine.verified, genuine.received, genuine.deadline,
            genuine.ordered, genuine.short, genuine.unexpired⟩, named⟩
        · rw [AList.lookup_insert_ne same] at known
          exact sound.genuine known

theorem Replays.sound
    {index last : Index} {bytes : Bytes}
    (replays : Replays crypto verifiers index bytes last)
    (sound : index.Sound crypto verifiers) : last.Sound crypto verifiers := by
  induction replays with
  | nil => exact sound
  | cons _ scanned _ ih => exact ih (sound.scanFrame scanned)

/-- The second record is the first, or the first with its terminal record. -/
inductive StartedRecord.Continues (start : StartedRecord) :
    StartedRecord → Prop where
  | same : start.Continues start
  | terminal (open_ : start.terminal = none) (terminal : TerminalRecord) :
      start.Continues { start with terminal := some terminal }

theorem StartedRecord.Continues.trans
    {first second third : StartedRecord} (early : first.Continues second)
    (late : second.Continues third) : first.Continues third := by
  cases early with
  | same => exact late
  | terminal open_ terminal =>
      cases late with
      | same => exact .terminal open_ terminal
      | terminal again => cases again

/-- Entries are never removed or overwritten. -/
theorem Replays.lookup
    {bytes : Bytes}
    (replays : Replays crypto verifiers index bytes last) {identifier : Bytes}
    {start : StartedRecord}
    (known : index.entries.lookup identifier = some start) :
    ∃ later, last.entries.lookup identifier = some later ∧
      start.Continues later := by
  induction replays generalizing start with
  | nil => exact ⟨start, known, .same⟩
  | @cons index next last frame rest _ scanned _ ih =>
      obtain ⟨-, -, -, -, advances⟩ := scanFrame_eq_ok scanned
      have step : ∃ later, next.entries.lookup identifier = some later ∧
          start.Continues later := by
        generalize next.entries = entries at advances
        cases advances with
        | @started record _ _ _ unseen =>
            by_cases same : identifier = record.verified.value.capabilityID
            · rw [same, unseen] at known
              cases known
            · exact ⟨start, by rw [AList.lookup_insert_ne same, known], .same⟩
        | @terminal changed old terminal found open_ =>
            by_cases same : identifier = changed
            · subst same
              rw [found] at known
              cases known
              exact ⟨_, AList.lookup_insert _, .terminal open_ terminal⟩
            · exact ⟨start, by rw [AList.lookup_insert_ne same, known], .same⟩
      obtain ⟨later, found, continues⟩ := step
      obtain ⟨latest, foundLast, continuesLast⟩ := ih found
      exact ⟨latest, foundLast, continues.trans continuesLast⟩

end Replay

end SentinelFlow.Journal
