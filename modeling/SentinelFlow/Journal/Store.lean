import SentinelFlow.Journal.Scan

/-!
# The durable replay journal

The operations of an open journal.  What the file system does to an append is a
parameter of the operation, so every partial write and every failed barrier is
covered; a journal whose file may have diverged from its index is poisoned and
refuses all further work.  While it is not poisoned, replaying its file gives
its index.
-/

namespace SentinelFlow

open GoLib Capability

/-- An open journal.  `contents` is what has been written to the file and
`synced` the part of it that has crossed both barriers. -/
structure Journal where
  index : Journal.Index := {}
  contents : Bytes := []
  synced : Bytes := []
  poisoned : Bool := false

namespace Journal

structure StartedSnapshot where
  sequence : Nat
  capabilityID : Bytes
  capabilityDigest : Bytes
  artifactDigest : Bytes
  operation : Operation
  actionID : Bytes
  targetIPv4 : Bytes
  receivedAt : Int
  deadlineAt : Int
deriving DecidableEq, Repr

structure TerminalSnapshot where
  sequence : Nat
  startedSequence : Nat
  resultDigest : Bytes
  signed : SignedResult
deriving DecidableEq, Repr

/-- One-use authority to execute. -/
structure Permit where
  verified : VerifiedCapability
  deadline : Int
  used : Bool := false
deriving DecidableEq, Repr

/-- Authority to attest a read-back; it releases nothing to execute. -/
structure Recovery where
  verified : VerifiedCapability
deriving DecidableEq, Repr

/-- The outcome of `Lookup` and `Begin`: its state together with the data that
the state carries. -/
inductive Outcome where
  | unseen
  | newStarted (started : StartedSnapshot) (permit : Permit)
  | startedOnly (started : StartedSnapshot) (recovery : Recovery)
  | terminal (started : StartedSnapshot) (terminal : TerminalSnapshot)
deriving DecidableEq, Repr

def snapshotStarted (start : StartedRecord) : StartedSnapshot :=
  { sequence := start.sequence
    capabilityID := start.verified.value.capabilityID
    capabilityDigest := start.verified.digest
    artifactDigest := start.verified.value.artifactDigest
    operation := start.verified.value.operation
    actionID := start.verified.value.actionID
    targetIPv4 := start.verified.value.targetIPv4
    receivedAt := start.received
    deadlineAt := start.deadline }

def snapshotTerminal (startSequence : Nat) (terminal : TerminalRecord) :
    TerminalSnapshot :=
  { sequence := terminal.sequence
    startedSequence := startSequence
    resultDigest := terminal.verified.digest
    signed := terminal.signed }

def existingOutcome (start : StartedRecord) : Outcome :=
  match start.terminal with
  | some terminal =>
      .terminal (snapshotStarted start) (snapshotTerminal start.sequence terminal)
  | none => .startedOnly (snapshotStarted start) ⟨start.verified⟩

def sameCapability (start : StartedRecord) (signed : SignedCapability)
    (verified : VerifiedCapability) : Bool :=
  start.verified.digest == verified.digest &&
    start.verified.keyID == verified.keyID &&
    start.verified.executorID == verified.executorID &&
    start.signed.keyID == signed.keyID &&
    start.signed.canonical == signed.canonical &&
    start.signed.signature == signed.signature &&
    start.signed.artifact == signed.artifact

def sameResult (existing : TerminalRecord) (signed : SignedResult)
    (verified : VerifiedResult) : Bool :=
  existing.verified.digest == verified.digest &&
    existing.signed.keyID == signed.keyID &&
    existing.signed.executorID == signed.executorID &&
    existing.signed.canonical == signed.canonical &&
    existing.signed.signature == signed.signature

def canonicalTime (instant : Int) : Prop :=
  instant ≠ 0 ∧ 1 ≤ Time.year instant ∧ Time.year instant ≤ 9999 ∧
    Time.MillisecondAligned instant

instance (instant : Int) : Decidable (canonicalTime instant) :=
  inferInstanceAs (Decidable (_ ∧ _))

/-- `checkFresh` of the journal: the operation's own freshness test. -/
def checkFresh (verified : VerifiedCapability) (instant : Int) :
    Except ErrorCode Unit :=
  match verified.executableAt verified.value.operation instant with
  | .error _ => .error .freshness
  | .ok _ => .ok ()

/-! ## Authority -/

def Permit.checkAndUse (permit : Permit) (now : Int) :
    Except ErrorCode Unit × Permit :=
  if ¬ now < permit.deadline then (.error .freshness, permit)
  else if permit.used then (.error .permitUsed, permit)
  else (.ok (), { permit with used := true })

/-- `TakeAddAt`, `TakeRevokeAt` and `TakeInspectAt`.  The executable that they
release carries the artifact of the verified capability. -/
def Permit.takeAt (operation : Operation) (permit : Permit) (now : Int) :
    Except ErrorCode Unit × Permit :=
  if permit.verified.value.operation ≠ operation then (.error .operation, permit)
  else match permit.checkAndUse now with
  | (.error code, permit) => (.error code, permit)
  | (.ok _, permit) =>
      match permit.verified.executableAt operation now with
      | .error _ => (.error .freshness, permit)
      | .ok _ => (.ok (), permit)

def Permit.signResult (crypto : Crypto) (permit : Permit)
    (signer : ResultSigner) (checked : CheckedResult) :
    Option SignedResult :=
  (signer.signFor crypto permit.verified checked).toOption

/-- The outcomes that a recovery may attest. -/
def recoverable (operation : Operation) (result : Result) : Bool :=
  match operation with
  | .add =>
      (result.classification == .recoveredActive ||
        result.classification == .failed ||
        result.classification == .indeterminate) &&
      (result.nftExitClass == none || result.nftExitClass == some .notInvoked)
  | .revoke =>
      (result.classification == .revoked || result.classification == .failed ||
        result.classification == .indeterminate) &&
      (result.nftExitClass == none || result.nftExitClass == some .notInvoked)
  | .inspect => true

def Recovery.signResult (crypto : Crypto) (recovery : Recovery)
    (signer : ResultSigner) (checked : CheckedResult) :
    Option SignedResult :=
  if ¬ recoverable recovery.verified.value.operation checked.value then none
  else (signer.signFor crypto recovery.verified checked).toOption

/-! ## The file -/

/-- What happens to an append: the file or its directory fails its test, the
write stops after some bytes, a barrier fails, or the frame is committed. -/
inductive AppendOutcome where
  | unsafeFile
  | unsafeDirectory
  | writeFailed (written : Nat)
  | fileSyncFailed
  | directorySyncFailed
  | committed
deriving DecidableEq, Repr

def appendLocked (journal : Journal) (append : AppendOutcome)
    (frame : Bytes) : Except ErrorCode Unit × Journal :=
  if append = .unsafeFile then
    (.error .unsafeFile, { journal with poisoned := true })
  else if append = .unsafeDirectory then
    (.error .unsafeDirectory, { journal with poisoned := true })
  else if frame.length > maxJournalBytes - journal.contents.length then
    (.error .tooLarge, journal)
  else match append with
  | .writeFailed written => (.error .io,
      { journal with
        contents := journal.contents ++ frame.take written
        poisoned := true })
  | .fileSyncFailed | .directorySyncFailed => (.error .sync,
      { journal with contents := journal.contents ++ frame, poisoned := true })
  | _ => (.ok (),
      { journal with
        contents := journal.contents ++ frame
        synced := journal.contents ++ frame })

section Crypto

variable (crypto : Crypto) (verifiers : Verifiers)

/-- The common end of `Begin` and `Complete`: the payload is marshalled, framed
and appended, and then the index follows. -/
def appendRecord (journal : Journal) (append : AppendOutcome)
    (recordType : RecordType) (payload : RecordPayload) (entries : Entries) :
    Except ErrorCode Unit × Journal :=
  match marshalRecordPayload crypto payload with
  | .error code => (.error code, journal)
  | .ok (text, recordDigest) =>
      match encodeFrame crypto recordType journal.index.nextSequence text with
      | .error code => (.error code, journal)
      | .ok frame =>
          match journal.appendLocked append frame with
          | (.error code, journal) => (.error code, journal)
          | (.ok _, journal) => (.ok (),
              { journal with
                index :=
                  { entries
                    nextSequence := journal.index.nextSequence + 1
                    lastRecordDigest := recordDigest } })

def lookup (journal : Journal) (signed : SignedCapability) :
    Except ErrorCode Outcome :=
  match verifiers.capability.verify crypto signed with
  | .error _ => .error .verification
  | .ok verified =>
      if journal.poisoned then .error .unhealthy
      else match journal.index.entries.lookup verified.value.capabilityID with
      | none => .ok .unseen
      | some start =>
          if ¬ sameCapability start signed verified then .error .conflict
          else .ok (existingOutcome start)

def begin (journal : Journal) (append : AppendOutcome)
    (signed : SignedCapability) (receivedAt deadlineAt : Int) :
    Except ErrorCode Outcome × Journal :=
  match verifiers.capability.verify crypto signed with
  | .error _ => (.error .verification, journal)
  | .ok verified =>
      if journal.poisoned then (.error .unhealthy, journal)
      else match journal.index.entries.lookup verified.value.capabilityID with
      | some start =>
          if ¬ sameCapability start signed verified then
            (.error .conflict, journal)
          else (.ok (existingOutcome start), journal)
      | none =>
          if ¬ canonicalTime receivedAt ∨ ¬ canonicalTime deadlineAt ∨
              ¬ deadlineAt > receivedAt ∨
              deadlineAt - receivedAt > maxDeadline ∨
              deadlineAt > verified.value.expiresAt then
            (.error .time, journal)
          else match checkFresh verified receivedAt with
          | .error code => (.error code, journal)
          | .ok _ =>
              let start : StartedRecord :=
                { sequence := journal.index.nextSequence
                  signed, verified
                  received := receivedAt
                  deadline := deadlineAt }
              match journal.appendRecord crypto append .started
                  (newStartedPayload signed verified receivedAt deadlineAt
                    journal.index.nextSequence journal.index.lastRecordDigest)
                  (journal.index.entries.insert verified.value.capabilityID
                    start) with
              | (.error code, journal) => (.error code, journal)
              | (.ok _, journal) => (.ok (.newStarted (snapshotStarted start)
                  { verified, deadline := deadlineAt }), journal)

/-- The flag tells whether this call appended the terminal record. -/
def complete (journal : Journal) (append : AppendOutcome)
    (signed : SignedResult) :
    Except ErrorCode (TerminalSnapshot × Bool) × Journal :=
  match verifiers.result.verify crypto signed with
  | .error _ => (.error .verification, journal)
  | .ok verified =>
      if journal.poisoned then (.error .unhealthy, journal)
      else match journal.index.entries.lookup verified.value.capabilityID with
      | none => (.error .missingStart, journal)
      | some start =>
          match bindResult verified.value start.verified
              verified.executorID with
          | .error _ => (.error .verification, journal)
          | .ok _ =>
              if verified.value.journalSequence ≠ start.sequence then
                (.error .verification, journal)
              else match start.terminal with
              | some existing =>
                  if ¬ sameResult existing signed verified then
                    (.error .duplicateTerminal, journal)
                  else (.ok (snapshotTerminal start.sequence existing, false),
                    journal)
              | none =>
                  let terminal : TerminalRecord :=
                    { sequence := journal.index.nextSequence
                      signed, verified }
                  match journal.appendRecord crypto append .terminal
                      (newTerminalPayload start signed verified
                        journal.index.nextSequence
                        journal.index.lastRecordDigest)
                      (journal.index.entries.insert
                        verified.value.capabilityID
                        { start with terminal := some terminal }) with
                  | (.error code, journal) => (.error code, journal)
                  | (.ok _, journal) =>
                      (.ok (snapshotTerminal start.sequence terminal, true),
                        journal)

/-- `Open` on a file that holds some bytes. -/
def openJournal (contents : Bytes) : Except ErrorCode Index :=
  if contents.length > maxJournalBytes then .error .tooLarge
  else scan crypto verifiers contents

end Crypto

end Journal

end SentinelFlow
