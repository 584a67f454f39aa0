import SentinelFlow.Journal.Evidence

/-!
# Torn tails

A beginning of a journal is accepted if it ends where a frame ends, and only
then.  Its index is that of the journal, without what later frames recorded.
-/

namespace SentinelFlow.Journal

open GoLib Capability

/-- The ends of the frames, and the beginning of the first. -/
def boundariesOf (crypto : Crypto) : List DecodedFrame → List Nat
  | [] => [0]
  | frame :: rest =>
      0 :: (boundariesOf crypto rest).map ((frame.bytes crypto).length + ·)

def frameBoundaries (crypto : Crypto) (contents : Bytes) : List Nat :=
  boundariesOf crypto (frames crypto contents)

/-- What the frames with smaller sequence numbers recorded. -/
def StartedRecord.before (bound : Nat) (start : StartedRecord) :
    Option StartedRecord :=
  if start.sequence < bound then
    some { start with
      terminal := start.terminal.filter fun terminal =>
        decide (terminal.sequence < bound) }
  else none

variable {crypto : Crypto} {verifiers : Verifiers}

theorem DecodedFrame.length_bytes_pos (crypto : Crypto) (frame : DecodedFrame) :
    0 < (frame.bytes crypto).length := by
  rw [frame.length_bytes, frameHeaderBytes]
  omega

variable {frame : DecodedFrame} {index last : Index} {bound fuel : Nat}

/-- Two frames at the head of the same bytes are the same. -/
theorem DecodedFrame.bytes_append_inj
    {other : DecodedFrame} {rest others : Bytes} (valid : frame.Valid)
    (otherValid : other.Valid)
    (same : frame.bytes crypto ++ rest = other.bytes crypto ++ others) :
    frame = other ∧ rest = others := by
  have cut : nextFrame crypto (frame.bytes crypto ++ rest) =
      .ok (frame, rest) :=
    nextFrame_eq_ok_iff.mpr ⟨valid, rfl⟩
  rw [same, nextFrame_eq_ok_iff.mpr ⟨otherValid, rfl⟩] at cut
  cases cut
  exact ⟨rfl, rfl⟩

theorem splitFrames_nil (fuel : Nat) : splitFrames crypto fuel [] = [] := by
  cases fuel with
  | zero => rfl
  | succ => rfl

theorem splitFrames_cons
    (valid : frame.Valid) (rest : Bytes)
    (enough : (frame.bytes crypto ++ rest).length ≤ fuel) :
    ∃ less, rest.length ≤ less ∧
      splitFrames crypto fuel (frame.bytes crypto ++ rest) =
        frame :: splitFrames crypto less rest := by
  have positive := frame.length_bytes_pos crypto
  rw [List.length_append] at enough
  obtain ⟨less, rfl⟩ : ∃ less, fuel = less + 1 := ⟨fuel - 1, by omega⟩
  refine ⟨less, by omega, ?_⟩
  rw [splitFrames, nextFrame_eq_ok_iff.mpr ⟨valid, rfl⟩]

/-- A beginning that is replayed ends with a frame. -/
theorem Replays.take_iff
    {contents : Bytes}
    (replays : Replays crypto verifiers index contents last) {cut : Nat}
    (enough : contents.length ≤ fuel) (within : cut ≤ contents.length) :
    (∃ middle, Replays crypto verifiers index (contents.take cut) middle) ↔
      cut ∈ boundariesOf crypto (splitFrames crypto fuel contents) := by
  induction replays generalizing fuel cut with
  | nil index =>
      have zero : cut = 0 := by simpa using within
      rw [zero, splitFrames_nil]
      exact ⟨fun _ => List.mem_singleton_self 0, fun _ => ⟨index, .nil index⟩⟩
  | @cons index next last frame rest valid scanned later ih =>
      obtain ⟨less, shorter, split⟩ := splitFrames_cons valid rest enough
      rw [split, boundariesOf, List.mem_cons]
      rcases Nat.eq_zero_or_pos cut with rfl | positive
      · exact ⟨fun _ => .inl rfl, fun _ => ⟨index, .nil index⟩⟩
      · by_cases reaches : (frame.bytes crypto).length ≤ cut
        · obtain ⟨more, rfl⟩ := Nat.exists_eq_add_of_le reaches
          rw [List.length_append] at within
          rw [List.take_length_add_append]
          constructor
          · rintro ⟨middle, early⟩
            have behind : Replays crypto verifiers next (rest.take more)
                middle :=
              (Replays.cons valid scanned (.nil next)).of_append (by
                rwa [List.append_nil])
            exact .inr (List.mem_map.mpr ⟨more,
              (ih shorter (by omega)).mp ⟨middle, behind⟩, rfl⟩)
          · rintro (zero | member)
            · omega
            · obtain ⟨other, listed, same⟩ := List.mem_map.mp member
              obtain rfl : other = more := by omega
              obtain ⟨middle, early⟩ := (ih shorter (by omega)).mpr listed
              exact ⟨middle, .cons valid scanned early⟩
        · constructor
          · rintro ⟨middle, early⟩
            generalize begun : (frame.bytes crypto ++ rest).take cut = bytes
              at early
            have size : bytes.length = cut := by
              rw [← begun, List.length_take]
              omega
            cases early with
            | nil => exact absurd size positive.ne
            | @cons _ _ _ other others otherValid =>
                have joined : frame.bytes crypto ++ rest =
                    other.bytes crypto ++ (others ++
                      (frame.bytes crypto ++ rest).drop cut) := by
                  rw [← List.append_assoc, ← begun, List.take_append_drop]
                obtain ⟨rfl, -⟩ :=
                  DecodedFrame.bytes_append_inj valid otherValid joined
                rw [List.length_append] at size
                omega
          · rintro (zero | member)
            · omega
            · obtain ⟨other, -, same⟩ := List.mem_map.mp member
              omega

/-! ## The index of a beginning -/

/-- Every record has the number of a frame that was read. -/
def Index.Numbered (index : Index) : Prop :=
  ∀ identifier start, index.entries.lookup identifier = some start →
    start.before index.nextSequence = some start

theorem StartedRecord.before_of_lt
    {start : StartedRecord} (early : start.sequence < bound)
    (ended : ∀ terminal, start.terminal = some terminal →
      terminal.sequence < bound) : start.before bound = some start := by
  have kept : start.terminal.filter (fun terminal =>
      decide (terminal.sequence < bound)) = start.terminal := by
    cases found : start.terminal with
    | none => rfl
    | some terminal =>
        exact if_pos (decide_eq_true (ended terminal found))
  unfold StartedRecord.before
  rw [if_pos early, kept]

theorem StartedRecord.lt_of_before
    {start : StartedRecord}
    (same : start.before bound = some start) :
    start.sequence < bound ∧ ∀ terminal, start.terminal = some terminal →
      terminal.sequence < bound := by
  unfold StartedRecord.before at same
  split at same
  next early =>
    refine ⟨early, ?_⟩
    intro terminal found
    have kept : start.terminal.filter (fun terminal =>
        decide (terminal.sequence < bound)) = start.terminal :=
      congrArg StartedRecord.terminal (Option.some.inj same)
    rw [found] at kept
    exact of_decide_eq_true (Option.filter_eq_some_iff.mp kept).2
  · cases same

theorem Index.Numbered.scanFrame
    {next : Index} (numbered : index.Numbered)
    (scanned : Journal.scanFrame crypto verifiers index frame = .ok next) :
    next.Numbered := by
  obtain ⟨-, sequence, -, -, advances⟩ := scanFrame_eq_ok scanned
  intro identifier start known
  rw [sequence]
  have older : ∀ {start}, index.entries.lookup identifier = some start →
      start.before (index.nextSequence + 1) = some start := by
    intro start found
    obtain ⟨early, ended⟩ := StartedRecord.lt_of_before
      (numbered identifier start found)
    exact StartedRecord.before_of_lt (by omega) fun terminal same =>
      Nat.lt_succ_of_lt (ended terminal same)
  generalize next.entries = entries at advances known
  cases advances with
  | @started record _ number open_ =>
      by_cases same : identifier = record.verified.value.capabilityID
      · rw [same, AList.lookup_insert] at known
        obtain rfl := Option.some.inj known
        refine StartedRecord.before_of_lt (by omega) ?_
        intro terminal ended
        rw [open_] at ended
        cases ended
      · rw [AList.lookup_insert_ne same] at known
        exact older known
  | @terminal changed old terminal found =>
      by_cases same : identifier = changed
      · subst same
        rw [AList.lookup_insert] at known
        obtain rfl := Option.some.inj known
        obtain ⟨early, -⟩ := StartedRecord.lt_of_before (older found)
        refine StartedRecord.before_of_lt early ?_
        intro other same
        obtain rfl := Option.some.inj same
        omega
      · rw [AList.lookup_insert_ne same] at known
        exact older known

theorem Replays.numbered
    {index last : Index} {bytes : Bytes}
    (replays : Replays crypto verifiers index bytes last)
    (numbered : index.Numbered) : last.Numbered := by
  induction replays with
  | nil => exact numbered
  | cons _ scanned _ ih => exact ih (numbered.scanFrame scanned)

/-- A frame changes nothing of what the frames before it recorded. -/
theorem before_scanFrame
    {next : Index}
    (scanned : scanFrame crypto verifiers index frame = .ok next)
    (early : bound ≤ index.nextSequence) (identifier : Bytes) :
    (next.entries.lookup identifier).bind (StartedRecord.before bound) =
      (index.entries.lookup identifier).bind (StartedRecord.before bound) := by
  obtain ⟨-, -, -, -, advances⟩ := scanFrame_eq_ok scanned
  generalize next.entries = entries at advances
  cases advances with
  | @started record _ number _ unseen =>
      by_cases same : identifier = record.verified.value.capabilityID
      · rw [same, AList.lookup_insert, unseen]
        exact if_neg (by omega)
      · rw [AList.lookup_insert_ne same]
  | @terminal changed old terminal found open_ =>
      by_cases same : identifier = changed
      · subst same
        have late : decide (terminal.sequence < bound) = false :=
          decide_eq_false (by omega)
        rw [AList.lookup_insert, found, Option.bind_some, Option.bind_some]
        unfold StartedRecord.before
        simp only [open_, Option.filter_some, late, Bool.false_eq_true, if_false,
          Option.filter_none]
      · rw [AList.lookup_insert_ne same]

theorem Replays.before
    {bytes : Bytes}
    (replays : Replays crypto verifiers index bytes last)
    (early : bound ≤ index.nextSequence) (identifier : Bytes) :
    (last.entries.lookup identifier).bind (StartedRecord.before bound) =
      (index.entries.lookup identifier).bind (StartedRecord.before bound) := by
  induction replays with
  | nil => rfl
  | cons _ scanned _ ih =>
      obtain ⟨-, sequence, -⟩ := scanFrame_eq_ok scanned
      rw [ih (by omega), before_scanFrame scanned early]

theorem Index.Numbered.lookup
    (numbered : index.Numbered) (identifier : Bytes) :
    (index.entries.lookup identifier).bind
      (StartedRecord.before index.nextSequence) =
        index.entries.lookup identifier := by
  cases found : index.entries.lookup identifier with
  | none => rfl
  | some start => exact numbered identifier start found

theorem Index.numbered_empty : ({} : Index).Numbered := by
  intro identifier start known
  cases known

theorem Chained.nextSequence
    {frames : List DecodedFrame}
    (chained : Chained crypto verifiers frames index) :
    index.nextSequence = frames.length + 1 := by
  induction chained with
  | nil => rfl
  | snoc _ scanned ih =>
      obtain ⟨-, sequence, -⟩ := scanFrame_eq_ok scanned
      rw [sequence, ih, List.length_append, List.length_singleton]

/-- The frames of consecutive pieces. -/
theorem Replays.splitFrames_append
    {first : Bytes}
    (replays : Replays crypto verifiers index first last) (second : Bytes)
    {small : Nat} (fits : first.length ≤ small)
    (enough : (first ++ second).length ≤ fuel) :
    splitFrames crypto small first <+:
      splitFrames crypto fuel (first ++ second) := by
  induction replays generalizing small fuel with
  | nil => exact splitFrames_nil small ▸ List.nil_prefix
  | @cons index next last frame rest valid scanned later ih =>
      rw [List.append_assoc] at enough ⊢
      obtain ⟨less, shorter, split⟩ := splitFrames_cons valid _ enough
      obtain ⟨least, smaller, cut⟩ := splitFrames_cons valid rest fits
      rw [split, cut]
      exact List.cons_prefix_cons.mpr ⟨rfl, ih smaller shorter⟩

/-- The scan is what the validation of a copy depends on. -/
theorem validateBytes_isOk_iff
    (crypto : Crypto) (verifiers : Verifiers) (contents : Bytes) :
    (∃ summary, validateBytes crypto verifiers.capability verifiers.result
      contents = .ok summary) ↔
      contents.length ≤ maxJournalBytes ∧
        ∃ index, scan crypto verifiers contents = .ok index := by
  unfold validateBytes
  rw [dif_pos verifiers.configured]
  by_cases long : contents.length > maxJournalBytes
  · rw [if_pos long]
    exact ⟨nofun, fun accepted => absurd accepted.1 (Nat.not_le.mpr long)⟩
  · rw [if_neg long]
    cases scanned : scan crypto verifiers contents with
    | error => exact ⟨nofun, nofun⟩
    | ok index =>
        exact ⟨fun _ => ⟨Nat.le_of_not_lt long, index, rfl⟩,
          fun _ => ⟨summarize index, rfl⟩⟩

/-- A beginning of an accepted journal is accepted if and only if it ends at a
frame boundary, and then its index is that of the frames before. -/
theorem torn_tail_detected
    (crypto : Crypto) (verifiers : Verifiers) {contents : Bytes}
    {index : Index} (accepted : scan crypto verifiers contents = .ok index)
    {cut : Nat} (within : cut ≤ contents.length) :
    ((∃ early, scan crypto verifiers (contents.take cut) = .ok early) ↔
      cut ∈ frameBoundaries crypto contents) ∧
    (∀ early, scan crypto verifiers (contents.take cut) = .ok early →
      frames crypto (contents.take cut) <+: frames crypto contents ∧
      early.nextSequence = (frames crypto (contents.take cut)).length + 1 ∧
      ∀ identifier, early.entries.lookup identifier =
        (index.entries.lookup identifier).bind
          (StartedRecord.before early.nextSequence)) ∧
    ∀ summary, validateBytes crypto verifiers.capability verifiers.result
        contents = .ok summary →
      ((∃ shorter, validateBytes crypto verifiers.capability verifiers.result
        (contents.take cut) = .ok shorter) ↔
          cut ∈ frameBoundaries crypto contents) := by
  have replays := scan_eq_ok_iff.mp accepted
  have boundary : (∃ early, scan crypto verifiers (contents.take cut) =
      .ok early) ↔ cut ∈ frameBoundaries crypto contents := by
    simp only [scan_eq_ok_iff]
    exact replays.take_iff (Nat.le_refl _) within
  refine ⟨boundary, ?_, ?_⟩
  · intro early begun
    have beginning := scan_eq_ok_iff.mp begun
    have rest : Replays crypto verifiers early (contents.drop cut) index :=
      beginning.of_append (by rwa [List.take_append_drop])
    refine ⟨?_, ?_, ?_⟩
    · have consecutive := beginning.splitFrames_append (contents.drop cut)
        (Nat.le_refl _) (Nat.le_refl _)
      rwa [List.take_append_drop] at consecutive
    · exact (beginning.chained .nil (Nat.le_refl _)).2.nextSequence
    · intro identifier
      rw [rest.before (Nat.le_refl _),
        (beginning.numbered Index.numbered_empty).lookup]
  · intro summary valid
    obtain ⟨short, -⟩ :=
      (validateBytes_isOk_iff crypto verifiers contents).mp ⟨summary, valid⟩
    have shorter : (contents.take cut).length ≤ maxJournalBytes :=
      (List.length_take_le' cut contents).trans short
    rw [validateBytes_isOk_iff, boundary]
    exact ⟨And.right, And.intro shorter⟩

/-- Ten bytes of the sample journal are not a journal. -/
theorem torn_tail_detected_sample :
    (∃ index, scan sampleCrypto sampleVerifiers sampleJournal.contents =
      .ok index) ∧
    ¬ ∃ early, scan sampleCrypto sampleVerifiers
      (sampleJournal.contents.take 10) = .ok early := by
  obtain ⟨-, index, scanned⟩ := (validateBytes_isOk_iff sampleCrypto
    sampleVerifiers sampleJournal.contents).mp ⟨_, sampleJournal_valid⟩
  obtain ⟨frame, only⟩ := List.length_eq_one_iff.mp sampleJournal_frames
  obtain ⟨joined, -⟩ := frames_of_validateBytes sampleJournal_valid
  have size := frame.length_bytes sampleCrypto
  have length : sampleJournal.contents.length =
      (frame.bytes sampleCrypto).length := by
    conv_lhs => rw [joined, only]
    simp
  rw [frameHeaderBytes, checksumBytes] at size
  refine ⟨⟨index, scanned⟩, ?_⟩
  rw [(torn_tail_detected sampleCrypto sampleVerifiers scanned
    (by omega : 10 ≤ sampleJournal.contents.length)).1]
  unfold frameBoundaries
  rw [only]
  simp only [boundariesOf, List.map_cons, List.map_nil, List.mem_cons,
    List.not_mem_nil, or_false]
  omega

end SentinelFlow.Journal
