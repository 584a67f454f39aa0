import SentinelFlow.Journal.Store

/-!
# The file refines the index

Each operation of a journal either fails, leaves the journal as it is, or commits
one frame that the replay maps to the index in memory.  Over any sequence of
operations the file therefore replays to exactly that index.
-/

namespace SentinelFlow.Journal

open GoLib Capability

variable {crypto : Crypto} {verifiers : Verifiers}

/-- A failed append changed nothing, or the file system failed: the journal is
poisoned and its file has some more bytes. -/
inductive Fails (append : AppendOutcome) (journal : Journal) :
    Journal → Prop where
  | unchanged : Fails append journal journal
  | poisoned (tail : Bytes) (uncommitted : append ≠ .committed) :
      Fails append journal
        { journal with contents := journal.contents ++ tail, poisoned := true }

/-- A committed append: one frame, which the replay maps to the new index. -/
structure Commits (crypto : Crypto) (verifiers : Verifiers)
    (journal next : Journal) : Prop where
  frame : ∃ frame : DecodedFrame, frame.Valid ∧
    scanFrame crypto verifiers journal.index frame = .ok next.index ∧
    next.contents = journal.contents ++ frame.bytes crypto
  synced : next.synced = next.contents
  healthy : next.poisoned = false
  bounded : next.contents.length ≤ maxJournalBytes

/-- The invariant of an open journal. -/
structure Sound (crypto : Crypto) (verifiers : Verifiers)
    (journal : Journal) : Prop where
  durable : ∃ index, Replays crypto verifiers {} journal.synced index
  written : ∃ tail, journal.contents = journal.synced ++ tail
  replayed : journal.poisoned = false →
    Replays crypto verifiers {} journal.contents journal.index ∧
      journal.contents.length ≤ maxJournalBytes

theorem sound_empty : Sound crypto verifiers {} where
  durable := ⟨_, .nil _⟩
  written := ⟨[], rfl⟩
  replayed _ := ⟨.nil _, Nat.zero_le _⟩

theorem Sound.fails
    {append : AppendOutcome} {journal next : Journal}
    (sound : Sound crypto verifiers journal)
    (fails : Fails append journal next) : Sound crypto verifiers next := by
  cases fails with
  | unchanged => exact sound
  | poisoned tail =>
      obtain ⟨earlier, written⟩ := sound.written
      refine ⟨sound.durable, ⟨earlier ++ tail, ?_⟩, fun healthy => ?_⟩
      · rw [written, List.append_assoc]
      · cases healthy

theorem Sound.commits
    {journal next : Journal} (sound : Sound crypto verifiers journal)
    (healthy : journal.poisoned = false)
    (commits : Commits crypto verifiers journal next) :
    Sound crypto verifiers next := by
  obtain ⟨frame, valid, scanned, contents⟩ := commits.frame
  have replayed : Replays crypto verifiers {} next.contents next.index := by
    rw [contents, ← List.append_nil (frame.bytes crypto)]
    exact (sound.replayed healthy).1.append (.cons valid scanned (.nil _))
  refine ⟨⟨next.index, ?_⟩, ⟨[], ?_⟩, fun _ => ⟨replayed, commits.bounded⟩⟩
  · rw [commits.synced]
    exact replayed
  · rw [commits.synced, List.append_nil]

variable {journal next : Journal}

theorem Sound.index
    (sound : Sound crypto verifiers journal)
    (healthy : journal.poisoned = false) :
    journal.index.Sound crypto verifiers :=
  (sound.replayed healthy).1.sound Index.sound_empty

/-- The durable part only grows. -/
def Grows (journal next : Journal) : Prop :=
  ∃ tail, next.synced = journal.synced ++ tail

theorem Grows.refl (journal : Journal) : Grows journal journal :=
  ⟨[], (List.append_nil _).symm⟩

theorem Grows.trans
    {first second third : Journal} (early : Grows first second)
    (late : Grows second third) : Grows first third := by
  obtain ⟨middle, early⟩ := early
  obtain ⟨last, late⟩ := late
  exact ⟨middle ++ last, by rw [late, early, List.append_assoc]⟩

theorem Fails.grows
    {append : AppendOutcome}
    (fails : Fails append journal next) : Grows journal next := by
  cases fails with
  | unchanged => exact .refl journal
  | poisoned => exact ⟨[], (List.append_nil _).symm⟩

theorem Commits.grows
    (commits : Commits crypto verifiers journal next)
    (sound : Sound crypto verifiers journal) : Grows journal next := by
  obtain ⟨frame, -, -, contents⟩ := commits.frame
  obtain ⟨tail, written⟩ := sound.written
  refine ⟨tail ++ frame.bytes crypto, ?_⟩
  rw [commits.synced, contents, written, List.append_assoc]

/-! ## Appending -/

theorem appendLocked_cases
    (journal : Journal) (append : AppendOutcome) (frame : Bytes) :
    (∃ code, (journal.appendLocked append frame).1 = .error code ∧
      Fails append journal (journal.appendLocked append frame).2) ∨
    (frame.length ≤ maxJournalBytes - journal.contents.length ∧
      journal.appendLocked append frame = (.ok (),
        { journal with
          contents := journal.contents ++ frame
          synced := journal.contents ++ frame })) := by
  have kept : append ≠ .committed →
      Fails append journal { journal with poisoned := true } := by
    intro uncommitted
    have spoiled : Fails append journal { journal with
        contents := journal.contents ++ [], poisoned := true } :=
      .poisoned [] uncommitted
    rwa [List.append_nil] at spoiled
  unfold appendLocked
  split
  next failed => exact .inl ⟨_, rfl, kept (by simp [failed])⟩
  split
  next failed => exact .inl ⟨_, rfl, kept (by simp [failed])⟩
  split
  · exact .inl ⟨_, rfl, .unchanged⟩
  next room =>
  split
  · exact .inl ⟨_, rfl, .poisoned _ (by simp)⟩
  · exact .inl ⟨_, rfl, .poisoned _ (by simp)⟩
  · exact .inl ⟨_, rfl, .poisoned _ (by simp)⟩
  · exact .inr ⟨Nat.not_lt.mp room, rfl⟩

/-- Appending a payload that the replay reads commits it or fails. -/
theorem appendRecord_cases
    (append : AppendOutcome) {recordType : RecordType} {payload : RecordPayload}
    {entries : Entries}
    (healthy : journal.poisoned = false)
    (bounded : journal.contents.length ≤ maxJournalBytes)
    (readBack : ∀ text digest,
      marshalRecordPayload crypto payload = .ok (text, digest) →
      journal.index.nextSequence ≤ maxSequence →
      scanFrame crypto verifiers journal.index
          ⟨recordType, journal.index.nextSequence, text⟩ =
        .ok ⟨entries, journal.index.nextSequence + 1, digest⟩) :
    (∃ code, (journal.appendRecord crypto append recordType payload
        entries).1 = .error code ∧
      Fails append journal (journal.appendRecord crypto append recordType
        payload entries).2) ∨
    ((journal.appendRecord crypto append recordType payload entries).1 =
        .ok () ∧
      (journal.appendRecord crypto append recordType payload
        entries).2.index.entries = entries ∧
      Commits crypto verifiers journal (journal.appendRecord crypto append
        recordType payload entries).2) := by
  unfold appendRecord
  split
  · exact .inl ⟨_, rfl, .unchanged⟩
  next text digest marshalled =>
  split
  · exact .inl ⟨_, rfl, .unchanged⟩
  next frame encoded =>
    obtain ⟨valid, rfl⟩ := encodeFrame_eq_ok_iff.mp encoded
    rcases appendLocked_cases journal append _ with
      ⟨code, failed, fails⟩ | ⟨room, appended⟩
    · split
      next other rejected =>
        rw [rejected] at fails
        exact .inl ⟨_, rfl, fails⟩
      next appended =>
        rw [appended] at failed
        cases failed
    · rw [appended]
      refine .inr ⟨rfl, rfl, ⟨⟨_, valid, ?_, rfl⟩, rfl, healthy, ?_⟩⟩
      · exact readBack text digest marshalled valid.sequence.2
      · rw [List.length_append]
        omega

/-- The frame of a new started record is replayed to the entry of `Begin`. -/
theorem scanFrame_started
    {index : Index} (sound : index.Sound crypto verifiers)
    {start : StartedRecord}
    (genuine : start.Genuine crypto verifiers.capability)
    (sequence : start.sequence = index.nextSequence)
    (open_ : start.terminal = none)
    (unseen : index.entries.lookup start.verified.value.capabilityID = none)
    {text digest : Bytes}
    (marshalled : marshalRecordPayload crypto (newStartedPayload start.signed
      start.verified start.received start.deadline index.nextSequence
      index.lastRecordDigest) = .ok (text, digest))
    (bounded : index.nextSequence ≤ maxSequence) :
    scanFrame crypto verifiers index ⟨.started, index.nextSequence, text⟩ =
      .ok ⟨index.entries.insert start.verified.value.capabilityID start,
        index.nextSequence + 1, digest⟩ := by
  obtain ⟨payload, parsed, read⟩ := started_readBack genuine sound.linked
    verifiers.configured.1 bounded marshalled
  have same : { start with
      sequence := index.nextSequence, terminal := none } = start := by
    rw [← sequence, ← open_]
  rw [same] at read
  simp [scanFrame, parsed, indexFrame, read, unseen]

/-- The frame of a terminal record is replayed to the entry of `Complete`. -/
theorem scanFrame_terminal
    {index : Index} (sound : index.Sound crypto verifiers)
    {start : StartedRecord} {signed : SignedResult} {verified : VerifiedResult}
    (found : index.entries.lookup verified.value.capabilityID = some start)
    (open_ : start.terminal = none)
    (accepted : verifiers.result.verify crypto signed = .ok verified)
    (bound : bindResult verified.value start.verified verified.executorID =
      .ok ())
    (attempt : verified.value.journalSequence = start.sequence)
    {text digest : Bytes}
    (marshalled : marshalRecordPayload crypto (newTerminalPayload start signed
      verified index.nextSequence index.lastRecordDigest) =
        .ok (text, digest))
    (bounded : index.nextSequence ≤ maxSequence) :
    scanFrame crypto verifiers index ⟨.terminal, index.nextSequence, text⟩ =
      .ok ⟨index.entries.insert verified.value.capabilityID
          { start with
            terminal := some ⟨index.nextSequence, signed, verified⟩ },
        index.nextSequence + 1, digest⟩ := by
  obtain ⟨genuine, named⟩ := sound.genuine found
  have later : 1 < index.nextSequence := by
    rcases sound.linked with ⟨first, -⟩ | ⟨later, -⟩
    · rw [sound.initial first] at found
      simp at found
    · exact later
  obtain ⟨payload, parsed, id, read⟩ := terminal_readBack genuine sound.linked
    verifiers.configured.2 bounded later accepted bound attempt marshalled
  rw [← named, ← id] at found ⊢
  simp [scanFrame, parsed, indexFrame, found, open_, read]

/-! ## The operations -/

/-- A never-seen capability was begun: its started record is committed. -/
structure Begun (crypto : Crypto) (verifiers : Verifiers) (journal : Journal)
    (signed : SignedCapability) (receivedAt deadlineAt : Int)
    (start : StartedRecord) (next : Journal) : Prop where
  healthy : journal.poisoned = false
  genuine : start.Genuine crypto verifiers.capability
  signed : start.signed = signed
  received : start.received = receivedAt
  aligned : Time.MillisecondAligned receivedAt
  deadline : start.deadline = deadlineAt
  sequence : start.sequence = journal.index.nextSequence
  open_ : start.terminal = none
  unseen :
    journal.index.entries.lookup start.verified.value.capabilityID = none
  fresh : checkFresh start.verified receivedAt = .ok ()
  entries : next.index.entries =
    journal.index.entries.insert start.verified.value.capabilityID start
  commits : Commits crypto verifiers journal next

/-- What `Begin` can do. -/
inductive Begins (crypto : Crypto) (verifiers : Verifiers) (journal : Journal)
    (append : AppendOutcome) (signed : SignedCapability)
    (receivedAt deadlineAt : Int) :
    Except ErrorCode Outcome → Journal → Prop where
  | failed {code : ErrorCode} {next : Journal}
      (fails : Fails append journal next) :
      Begins crypto verifiers journal append signed receivedAt deadlineAt
        (.error code) next
  | existing {start : StartedRecord} {verified : VerifiedCapability}
      (healthy : journal.poisoned = false)
      (accepted : verifiers.capability.verify crypto signed = .ok verified)
      (found : journal.index.entries.lookup verified.value.capabilityID =
        some start)
      (same : sameCapability start signed verified = true) :
      Begins crypto verifiers journal append signed receivedAt deadlineAt
        (.ok (existingOutcome start)) journal
  | started {start : StartedRecord} {next : Journal}
      (begun : Begun crypto verifiers journal signed receivedAt deadlineAt start
        next) :
      Begins crypto verifiers journal append signed receivedAt deadlineAt
        (.ok (.newStarted (snapshotStarted start)
          { verified := start.verified, deadline := start.deadline })) next

theorem begin_spec
    (sound : Sound crypto verifiers journal)
    (append : AppendOutcome) (signed : SignedCapability)
    (receivedAt deadlineAt : Int) :
    Begins crypto verifiers journal append signed receivedAt deadlineAt
      (journal.begin crypto verifiers append signed receivedAt deadlineAt).1
      (journal.begin crypto verifiers append signed receivedAt
        deadlineAt).2 := by
  unfold Journal.begin
  split
  · exact .failed .unchanged
  next verified accepted =>
  split
  · exact .failed .unchanged
  next healthy =>
  split
  next start found =>
    split
    · exact .failed .unchanged
    next same =>
      exact .existing (by simpa using healthy) accepted found
        (not_not.mp same)
  next unseen =>
  split
  · exact .failed .unchanged
  next timed =>
  split
  · exact .failed .unchanged
  next fresh =>
    simp only [Bool.not_eq_true] at healthy
    simp only [not_or, not_not] at timed
    obtain ⟨received, deadline, ordered, short, unexpired⟩ := timed
    have genuine : StartedRecord.Genuine crypto verifiers.capability
        { sequence := journal.index.nextSequence
          signed, verified
          received := receivedAt
          deadline := deadlineAt } :=
      ⟨accepted,
        readable_of_expressible ⟨received.2.1, received.2.2.1, received.2.2.2⟩,
        readable_of_expressible ⟨deadline.2.1, deadline.2.2.1, deadline.2.2.2⟩,
        ordered, Int.not_lt.mp short, Int.not_lt.mp unexpired⟩
    have cases_ := appendRecord_cases append healthy
      (sound.replayed healthy).2 (fun text digest marshalled bounded =>
        scanFrame_started (sound.index healthy) genuine rfl rfl unseen
          marshalled bounded)
    dsimp only
    rcases cases_ with ⟨code, failed, fails⟩ | ⟨appended, entries, commits⟩
    · split
      next rejected =>
        rw [rejected] at fails
        exact .failed fails
      next appended =>
        rw [appended] at failed
        cases failed
    · split
      next rejected =>
        rw [rejected] at appended
        cases appended
      next done =>
        rw [done] at entries commits
        exact .started ⟨healthy, genuine, rfl, rfl, received.2.2.2, rfl, rfl,
          rfl, unseen, fresh, entries, commits⟩

/-- What `Complete` can do. -/
inductive Completes (crypto : Crypto) (verifiers : Verifiers)
    (journal : Journal) (append : AppendOutcome) (signed : SignedResult) :
    Except ErrorCode (TerminalSnapshot × Bool) → Journal → Prop where
  | failed {code : ErrorCode} {next : Journal}
      (fails : Fails append journal next) :
      Completes crypto verifiers journal append signed (.error code) next
  | existing {start : StartedRecord} {terminal : TerminalRecord}
      {verified : VerifiedResult}
      (accepted : verifiers.result.verify crypto signed = .ok verified)
      (found : journal.index.entries.lookup verified.value.capabilityID =
        some start)
      (recorded : start.terminal = some terminal)
      (same : sameResult terminal signed verified = true) :
      Completes crypto verifiers journal append signed
        (.ok (snapshotTerminal start.sequence terminal, false)) journal
  | appended {start : StartedRecord} {terminal : TerminalRecord}
      {next : Journal} (healthy : journal.poisoned = false)
      (accepted : verifiers.result.verify crypto signed =
        .ok terminal.verified)
      (exact_ : terminal.signed = signed)
      (found : journal.index.entries.lookup
        terminal.verified.value.capabilityID = some start)
      (open_ : start.terminal = none)
      (bound : bindResult terminal.verified.value start.verified
        terminal.verified.executorID = .ok ())
      (entries : next.index.entries = journal.index.entries.insert
        terminal.verified.value.capabilityID
        { start with terminal := some terminal })
      (commits : Commits crypto verifiers journal next) :
      Completes crypto verifiers journal append signed
        (.ok (snapshotTerminal start.sequence terminal, true)) next

theorem complete_spec
    (sound : Sound crypto verifiers journal)
    (append : AppendOutcome) (signed : SignedResult) :
    Completes crypto verifiers journal append signed
      (journal.complete crypto verifiers append signed).1
      (journal.complete crypto verifiers append signed).2 := by
  unfold Journal.complete
  split
  · exact .failed .unchanged
  next verified accepted =>
  split
  · exact .failed .unchanged
  next healthy =>
  split
  · exact .failed .unchanged
  next start found =>
  split
  · exact .failed .unchanged
  next bound =>
  split
  · exact .failed .unchanged
  next attempt =>
  split
  next terminal recorded =>
    split
    · exact .failed .unchanged
    next same => exact .existing accepted found recorded (not_not.mp same)
  next open_ =>
    simp only [Bool.not_eq_true] at healthy
    have cases_ := appendRecord_cases append healthy
      (sound.replayed healthy).2 (fun text digest marshalled bounded =>
        scanFrame_terminal (sound.index healthy) found open_ accepted bound
          (not_not.mp attempt) marshalled bounded)
    dsimp only
    rcases cases_ with ⟨code, failed, fails⟩ | ⟨appended, entries, commits⟩
    · split
      next rejected =>
        rw [rejected] at fails
        exact .failed fails
      next appended =>
        rw [appended] at failed
        cases failed
    · split
      next rejected =>
        rw [rejected] at appended
        cases appended
      next done =>
        rw [done] at entries commits
        exact .appended healthy accepted rfl found open_ bound entries commits

theorem Begins.sound
    {append : AppendOutcome} {journal next : Journal} {signed : SignedCapability}
    {receivedAt deadlineAt : Int} {outcome : Except ErrorCode Outcome}
    (begins : Begins crypto verifiers journal append signed receivedAt
      deadlineAt outcome next) (sound : Sound crypto verifiers journal) :
    Sound crypto verifiers next := by
  cases begins with
  | failed fails => exact sound.fails fails
  | existing => exact sound
  | started begun => exact sound.commits begun.healthy begun.commits

theorem Completes.sound
    {append : AppendOutcome} {journal next : Journal} {signed : SignedResult}
    {outcome : Except ErrorCode (TerminalSnapshot × Bool)}
    (completes : Completes crypto verifiers journal append signed outcome next)
    (sound : Sound crypto verifiers journal) : Sound crypto verifiers next := by
  cases completes with
  | failed fails => exact sound.fails fails
  | existing => exact sound
  | appended healthy _ _ _ _ _ _ commits => exact sound.commits healthy commits

theorem Completes.grows
    {append : AppendOutcome} {signed : SignedResult}
    {outcome : Except ErrorCode (TerminalSnapshot × Bool)}
    (completes : Completes crypto verifiers journal append signed outcome next)
    (sound : Sound crypto verifiers journal) : Grows journal next := by
  cases completes with
  | failed fails => exact fails.grows
  | existing => exact .refl journal
  | appended _ _ _ _ _ _ _ commits => exact commits.grows sound

/-! ## Runs without failures of the file system -/

/-- A call of one of the two operations that append. -/
inductive Call where
  | begin (signed : SignedCapability) (receivedAt deadlineAt : Int)
  | complete (signed : SignedResult)

/-- The journal after a call whose append is committed, if it comes to one. -/
def call (crypto : Crypto) (verifiers : Verifiers) (journal : Journal) :
    Call → Journal
  | .begin signed receivedAt deadlineAt =>
      (journal.begin crypto verifiers .committed signed receivedAt
        deadlineAt).2
  | .complete signed =>
      (journal.complete crypto verifiers .committed signed).2

theorem Fails.eq_of_committed
    (fails : Fails .committed journal next) :
    next = journal := by
  cases fails with
  | unchanged => rfl
  | poisoned _ uncommitted => exact absurd rfl uncommitted

theorem Begins.healthy
    {journal next : Journal} {signed : SignedCapability}
    {receivedAt deadlineAt : Int} {outcome : Except ErrorCode Outcome}
    (begins : Begins crypto verifiers journal .committed signed receivedAt
      deadlineAt outcome next) (healthy : journal.poisoned = false) :
    next.poisoned = false := by
  cases begins with
  | failed fails => rw [fails.eq_of_committed, healthy]
  | existing => exact healthy
  | started begun => exact begun.commits.healthy

theorem Completes.healthy
    {journal next : Journal} {signed : SignedResult}
    {outcome : Except ErrorCode (TerminalSnapshot × Bool)}
    (completes : Completes crypto verifiers journal .committed signed outcome
      next) (healthy : journal.poisoned = false) :
    next.poisoned = false := by
  cases completes with
  | failed fails => rw [fails.eq_of_committed, healthy]
  | existing => exact healthy
  | appended _ _ _ _ _ _ _ commits => exact commits.healthy

theorem Sound.call
    (sound : Sound crypto verifiers journal)
    (healthy : journal.poisoned = false) (request : Call) :
    Sound crypto verifiers (journal.call crypto verifiers request) ∧
      (journal.call crypto verifiers request).poisoned = false := by
  cases request with
  | begin signed receivedAt deadlineAt =>
      have begins := begin_spec sound .committed signed receivedAt deadlineAt
      exact ⟨begins.sound sound, begins.healthy healthy⟩
  | complete signed =>
      have completes := complete_spec sound .committed signed
      exact ⟨completes.sound sound, completes.healthy healthy⟩

theorem sound_calls (crypto : Crypto) (verifiers : Verifiers)
    (requests : List Call) :
    let journal := requests.foldl (Journal.call crypto verifiers) {}
    Sound crypto verifiers journal ∧ journal.poisoned = false := by
  suffices kept : ∀ journal : Journal, Sound crypto verifiers journal →
      journal.poisoned = false →
      let last := requests.foldl (Journal.call crypto verifiers) journal
      Sound crypto verifiers last ∧ last.poisoned = false from
    kept {} sound_empty rfl
  induction requests with
  | nil => exact fun journal sound healthy => ⟨sound, healthy⟩
  | cons request requests ih =>
      intro journal sound healthy
      obtain ⟨sound, healthy⟩ := sound.call healthy request
      exact ih _ sound healthy

theorem Sound.opens
    (sound : Sound crypto verifiers journal)
    (healthy : journal.poisoned = false) :
    openJournal crypto verifiers journal.contents = .ok journal.index := by
  obtain ⟨replayed, bounded⟩ := sound.replayed healthy
  rw [openJournal, if_neg (Nat.not_lt.mpr bounded),
    scan_eq_ok_iff.mpr replayed]

theorem Sound.validates
    (sound : Sound crypto verifiers journal)
    (healthy : journal.poisoned = false) :
    validateBytes crypto verifiers.capability verifiers.result
      journal.contents = .ok (summarize journal.index) := by
  obtain ⟨replayed, bounded⟩ := sound.replayed healthy
  rw [validateBytes, dif_pos verifiers.configured,
    if_neg (Nat.not_lt.mpr bounded), scan_eq_ok_iff.mpr replayed]

/-- Whatever is begun and completed, in any order, the file of the journal
replays to the index in memory, and a copy of it validates to its summary. -/
theorem replay_refines_journal (crypto : Crypto) (verifiers : Verifiers)
    (requests : List Call) :
    let journal := requests.foldl (Journal.call crypto verifiers) {}
    openJournal crypto verifiers journal.contents = .ok journal.index ∧
      validateBytes crypto verifiers.capability verifiers.result
          journal.contents = .ok (summarize journal.index) := by
  intro journal
  obtain ⟨sound, healthy⟩ := sound_calls crypto verifiers requests
  exact ⟨sound.opens healthy, sound.validates healthy⟩

end SentinelFlow.Journal
