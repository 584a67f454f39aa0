import SentinelFlow.Correlation.Signals
import SentinelFlow.GoLib.JsonObject

/-!
# Evidence snapshots

A snapshot summarises signals of one source: the hull of their windows, their
services, ids and evidence without repetitions, a reference to each signal, and
the digest of the canonical JSON text of all this.  It depends on the set of
the signals only.
-/

namespace SentinelFlow.Correlation

open GoLib Detection

/-- What a snapshot retains of a signal. -/
structure SignalRef where
  signalID : Bytes
  ruleID : RuleID
  classification : Classification
  configurationVersion : Bytes
  configurationDigest : Bytes
  windowStart : Int
  windowEnd : Int
  eventCount : Nat
  distinctAccountCount : Nat
  distinctSuspiciousPathCount : Nat
  evidenceDigest : Bytes
  signalDigest : Bytes
deriving DecidableEq, Repr

structure EvidenceSnapshot where
  schemaVersion : Bytes
  sourceIP : Bytes
  windowStart : Int
  windowEnd : Int
  sourceHealthStatus : SourceHealthStatus
  serviceLabels : List Bytes
  signalIDs : List Bytes
  evidenceEventIDs : List Bytes
  signalRefs : List SignalRef
  canonicalBytes : Bytes
  digest : Bytes
deriving DecidableEq, Repr

def evidenceSnapshotVersion : Bytes := ascii "correlation-evidence-v1"

/-! ## The canonical text -/

def textMember (name : String) (value : Bytes) : String × Json :=
  (name, .string value)

def countMember (name : String) (value : Nat) : String × Json :=
  (name, .number (formatUint value))

def textsMember (name : String) (values : List Bytes) : String × Json :=
  (name, .array (values.map .string))

def timeMember (name : String) (instant : Int) : String × Json :=
  textMember name (Time.formatRFC3339Nano instant)

def signalRefJCS (ref : SignalRef) : Json :=
  .object (Json.named
    [textMember "classification" ref.classification.text,
      textMember "configuration_digest" ref.configurationDigest,
      textMember "configuration_version" ref.configurationVersion,
      countMember "distinct_account_count" ref.distinctAccountCount,
      countMember "distinct_suspicious_path_count"
        ref.distinctSuspiciousPathCount,
      countMember "event_count" ref.eventCount,
      textMember "evidence_digest" ref.evidenceDigest,
      textMember "rule_id" ref.ruleID.text,
      textMember "signal_digest" ref.signalDigest,
      textMember "signal_id" ref.signalID,
      timeMember "window_end" ref.windowEnd,
      timeMember "window_start" ref.windowStart])

def marshalSnapshotJCS (sourceIP : Bytes) (windowStart windowEnd : Int)
    (serviceLabels signalIDs evidenceIDs : List Bytes)
    (refs : List SignalRef) : Bytes :=
  Json.marshal (.object (Json.named
    [textsMember "evidence_event_ids" evidenceIDs,
      textMember "schema_version" evidenceSnapshotVersion,
      textsMember "service_labels" serviceLabels,
      textsMember "signal_ids" signalIDs,
      ("signal_refs", .array (refs.map signalRefJCS)),
      textMember "source_health_status" (ascii "complete"),
      textMember "source_ip" sourceIP,
      timeMember "window_end" windowEnd,
      timeMember "window_start" windowStart]))

/-! ## Snapshots -/

def signalRef (signal : Signal) : SignalRef where
  signalID := signal.signalID
  ruleID := signal.ruleID
  classification := signal.classification
  configurationVersion := signal.configurationVersion
  configurationDigest := signal.configurationDigest
  windowStart := signal.windowStart
  windowEnd := signal.windowEnd
  eventCount := signal.metrics.eventCount
  distinctAccountCount := signal.metrics.distinctAccountCount
  distinctSuspiciousPathCount := signal.metrics.distinctSuspiciousPathCount
  evidenceDigest := signal.evidenceDigest
  signalDigest := signal.digest

def earliestStart (start : Int) (signals : List Signal) : Int :=
  signals.foldl (fun start signal =>
    if signal.windowStart < start then signal.windowStart else start) start

def latestEnd (stop : Int) (signals : List Signal) : Int :=
  signals.foldl (fun stop signal =>
    if stop < signal.windowEnd then signal.windowEnd else stop) stop

/-- The snapshot of normalised signals, of which `first` is the first. -/
def snapshotOf (crypto : Crypto) (first : Signal) (values : List Signal) :
    EvidenceSnapshot :=
  let windowStart := earliestStart first.windowStart values
  let windowEnd := latestEnd first.windowEnd values
  let serviceLabels := sortedUnique (values.map (·.serviceLabel))
  let signalIDs := sortedUnique (values.map (·.signalID))
  let evidenceIDs := sortedUnique (values.flatMap (·.evidenceIDs))
  let refs := sortSlice (fun left right => left.signalID < right.signalID)
    (values.map signalRef)
  let canonical := marshalSnapshotJCS first.sourceIP windowStart windowEnd
    serviceLabels signalIDs evidenceIDs refs
  { schemaVersion := evidenceSnapshotVersion
    sourceIP := first.sourceIP
    windowStart
    windowEnd
    sourceHealthStatus := .complete
    serviceLabels
    signalIDs
    evidenceEventIDs := evidenceIDs
    signalRefs := refs
    canonicalBytes := canonical
    digest := digestText crypto canonical }

def buildEvidenceSnapshot (crypto : Crypto) (signals : List Signal) :
    Except Error EvidenceSnapshot :=
  if signals.isEmpty then
    .error { code := .invalidInput, field := ascii "signals" }
  else match normalizeSignals signals with
  | .error failure => .error failure
  -- Only an empty list is normalised to an empty list.
  | .ok [] => .error { code := .invalidInput, field := ascii "signals" }
  | .ok (first :: rest) =>
      if (first :: rest).any (·.sourceIP ≠ first.sourceIP) then
        .error { code := .invalidInput, field := ascii "signals.source_ip" }
      else .ok (snapshotOf crypto first (first :: rest))

/-- The hull of the windows of signals of one source. -/
structure Spans (signals : List Signal) (snapshot : EvidenceSnapshot) :
    Prop where
  source : ∀ signal ∈ signals, signal.sourceIP = snapshot.sourceIP
  start : ∃ signal ∈ signals, signal.windowStart = snapshot.windowStart
  from_start : ∀ signal ∈ signals, snapshot.windowStart ≤ signal.windowStart
  stop : ∃ signal ∈ signals, signal.windowEnd = snapshot.windowEnd
  to_stop : ∀ signal ∈ signals, signal.windowEnd ≤ snapshot.windowEnd

private theorem earliestStart_spec (start : Int) (signals : List Signal) :
    earliestStart start signals ≤ start ∧
      (∀ signal ∈ signals,
        earliestStart start signals ≤ signal.windowStart) ∧
      (earliestStart start signals = start ∨ ∃ signal ∈ signals,
        signal.windowStart = earliestStart start signals) := by
  induction signals generalizing start with
  | nil => simp [earliestStart]
  | cons signal rest ih =>
      obtain ⟨below, least, attained⟩ := ih
        (if signal.windowStart < start then signal.windowStart else start)
      rw [earliestStart, List.foldl_cons, ← earliestStart]
      refine ⟨?_, ?_, ?_⟩
      · apply le_trans below
        split <;> omega
      · refine List.forall_mem_cons.mpr ⟨?_, least⟩
        apply le_trans below
        split <;> omega
      · rcases attained with same | ⟨other, member, same⟩
        · rw [same]
          split
          · exact .inr ⟨signal, List.mem_cons_self, rfl⟩
          · exact .inl rfl
        · exact .inr ⟨other, List.mem_cons_of_mem _ member, same⟩

private theorem latestEnd_spec (stop : Int) (signals : List Signal) :
    stop ≤ latestEnd stop signals ∧
      (∀ signal ∈ signals, signal.windowEnd ≤ latestEnd stop signals) ∧
      (latestEnd stop signals = stop ∨ ∃ signal ∈ signals,
        signal.windowEnd = latestEnd stop signals) := by
  induction signals generalizing stop with
  | nil => simp [latestEnd]
  | cons signal rest ih =>
      obtain ⟨above, greatest, attained⟩ := ih
        (if stop < signal.windowEnd then signal.windowEnd else stop)
      rw [latestEnd, List.foldl_cons, ← latestEnd]
      refine ⟨?_, ?_, ?_⟩
      · refine le_trans ?_ above
        split <;> omega
      · refine List.forall_mem_cons.mpr ⟨?_, greatest⟩
        refine le_trans ?_ above
        split <;> omega
      · rcases attained with same | ⟨other, member, same⟩
        · rw [same]
          split
          · exact .inr ⟨signal, List.mem_cons_self, rfl⟩
          · exact .inl rfl
        · exact .inr ⟨other, List.mem_cons_of_mem _ member, same⟩

section Snapshot

variable {crypto : Crypto} {signals : List Signal}
  {snapshot : EvidenceSnapshot}

theorem buildEvidenceSnapshot_ok
    (built : buildEvidenceSnapshot crypto signals = .ok snapshot) :
    Consistent signals ∧ signals ≠ [] ∧ Spans signals snapshot := by
  unfold buildEvidenceSnapshot at built
  split at built
  · cases built
  cases normal : normalizeSignals signals with
  | error =>
      rw [normal] at built
      cases built
  | ok values =>
      rw [normal] at built
      obtain ⟨consistent, arranged⟩ := normalizeSignals_ok normal
      cases values with
      | nil => cases built
      | cons first rest =>
          dsimp only at built
          split at built
          · cases built
          next same =>
            cases built
            have oneSource : ∀ signal ∈ first :: rest,
                signal.sourceIP = first.sourceIP := by
              simpa using same
            have present : first ∈ signals :=
              (arranged.mem_iff first).mp List.mem_cons_self
            obtain ⟨-, least, leastAttained⟩ :=
              earliestStart_spec first.windowStart (first :: rest)
            obtain ⟨-, greatest, greatestAttained⟩ :=
              latestEnd_spec first.windowEnd (first :: rest)
            refine ⟨consistent, List.ne_nil_of_mem present, ?_, ?_, ?_, ?_, ?_⟩
            · intro signal member
              exact oneSource signal ((arranged.mem_iff signal).mpr member)
            · rcases leastAttained with same | ⟨other, member, same⟩
              · exact ⟨first, present, same.symm⟩
              · exact ⟨other, (arranged.mem_iff other).mp member, same⟩
            · intro signal member
              exact least signal ((arranged.mem_iff signal).mpr member)
            · rcases greatestAttained with same | ⟨other, member, same⟩
              · exact ⟨first, present, same.symm⟩
              · exact ⟨other, (arranged.mem_iff other).mp member, same⟩
            · intro signal member
              exact greatest signal ((arranged.mem_iff signal).mpr member)

/-- Consistent signals of one source have a snapshot. -/
theorem exists_buildEvidenceSnapshot
    (crypto : Crypto) (consistent : Consistent signals)
    (some_signal : signals ≠ [])
    (oneSource : ∀ first ∈ signals, ∀ second ∈ signals,
      first.sourceIP = second.sourceIP) :
    ∃ snapshot, buildEvidenceSnapshot crypto signals = .ok snapshot := by
  obtain ⟨values, normal, arranged⟩ := exists_normalizeSignals consistent
  unfold buildEvidenceSnapshot
  rw [normal, if_neg (by simpa using some_signal)]
  cases values with
  | nil =>
      obtain ⟨signal, member⟩ := List.exists_mem_of_ne_nil signals some_signal
      cases (arranged.mem_iff signal).mpr member
  | cons first rest =>
      have same : ¬ (first :: rest).any
          (fun signal => signal.sourceIP ≠ first.sourceIP) = true := by
        rw [List.any_eq_true]
        rintro ⟨signal, member, different⟩
        exact of_decide_eq_true different
          (oneSource signal ((arranged.mem_iff signal).mp member) first
            ((arranged.mem_iff first).mp List.mem_cons_self))
      dsimp only
      rw [if_neg same]
      exact ⟨_, rfl⟩

/-- The snapshot depends on the set of the signals only. -/
theorem buildEvidenceSnapshot_congr
    (crypto : Crypto) {others : List Signal} (consistent : Consistent signals)
    (same : ∀ signal, signal ∈ signals ↔ signal ∈ others) :
    buildEvidenceSnapshot crypto signals =
      buildEvidenceSnapshot crypto others := by
  obtain ⟨values, normal, arranged⟩ := exists_normalizeSignals consistent
  obtain ⟨second, otherNormal, otherArranged⟩ := exists_normalizeSignals
    (consistent.subset fun signal member => (same signal).mpr member)
  have empty : signals.isEmpty = others.isEmpty := by
    rw [Bool.eq_iff_iff, List.isEmpty_iff, List.isEmpty_iff,
      List.eq_nil_iff_forall_not_mem, List.eq_nil_iff_forall_not_mem]
    exact forall_congr' fun signal => not_congr (same signal)
  unfold buildEvidenceSnapshot
  rw [normal, otherNormal, arranged.ext otherArranged same, empty]

end Snapshot

end SentinelFlow.Correlation
