import SentinelFlow.Events.Wire

/-!
# Decoding what was encoded

Every batch that passes validation is written within the size limit, and the
strict decoder reads exactly this batch back.  For each record type one lemma
says what the decoder finds under every name and one bounds the text.
-/

namespace SentinelFlow.Events

open GoLib

/-- An instant of UTC years 0 to 9999. -/
def InYears (instant : Int) : Prop :=
  0 ≤ Time.year instant ∧ Time.year instant ≤ 9999

instance (instant : Int) : Decidable (InYears instant) :=
  inferInstanceAs (Decidable (_ ∧ _))

/-! ## Values -/

theorem parseTimestamp_formatRFC3339Nano
    {instant : Int} (years : InYears instant) :
    parseTimestamp (Time.formatRFC3339Nano instant) = some instant := by
  have zone : (Time.formatRFC3339Nano instant).getLast? = some 90 := by
    simp [Time.formatRFC3339Nano]
  rw [parseTimestamp, if_pos zone,
    Time.parseRFC3339_formatRFC3339Nano years.1 years.2]

theorem decodeUint_uint
    {value minimum maximum : Nat} (lower : minimum ≤ value)
    (upper : value ≤ maximum) (safe : maximum ≤ maxSafeInteger) :
    decodeUint minimum maximum (uint value) = some value := by
  have small : value < 2 ^ 64 := by
    unfold maxSafeInteger at safe
    omega
  have integer : ((formatUint value).any fun byte =>
      (ascii ".eE").contains byte) = false := by
    rw [List.any_eq_false]
    intro byte member found
    have letters : ∀ letter ∈ ascii ".eE", isDigit letter = false := by
      decide +kernel
    have letter := letters byte (List.contains_iff_mem.mp found)
    rw [isDigit_of_mem_formatUint member] at letter
    cases letter
  simp only [decodeUint, uint, numberText, integer, parseUint_formatUint small,
    Option.bind_eq_bind, Option.bind_some, Bool.not_false, guard, if_true, pure,
    lower, upper, and_self]

/-- The texts of the enumerations are read back. -/
theorem ofText_text :
    (∀ id, ofText SuspiciousPathID.all SuspiciousPathID.text id.text =
      some id) ∧
    (∀ outcome, ofText AuthOutcome.all AuthOutcome.text outcome.text =
      some outcome) ∧
    (∀ cause, ofText SourceHealthCause.all SourceHealthCause.text cause.text =
      some cause) ∧
    (∀ state, ofText SourceHealthState.all SourceHealthState.text state.text =
      some state) ∧
    ∀ detail, ofText SourceHealthDetailCode.all SourceHealthDetailCode.text
      detail.text = some detail := by
  refine ⟨?_, ?_, ?_, ?_, ?_⟩ <;> intro item <;> cases item <;> rfl

section Reads

variable (fields : Fields) (name : String)

theorem readString_eq
    {value : Bytes} (found : Json.member fields name = some (.string value)) :
    readString fields name = some value := by
  rw [readString, found]
  rfl

theorem readTimestamp_eq
    {instant : Int} (years : InYears instant)
    (found : Json.member fields name = some (timestamp instant)) :
    readTimestamp fields name = some instant := by
  rw [readTimestamp, readString_eq fields name found]
  exact parseTimestamp_formatRFC3339Nano years

theorem readMillisecondTimestamp_eq
    {instant : Int} (years : InYears instant)
    (aligned : Time.MillisecondAligned instant)
    (found : Json.member fields name = some (coverageTimestamp instant)) :
    readMillisecondTimestamp fields name = some instant := by
  have parsed : parseTimestamp (Time.format instant) = some instant := by
    rw [parseTimestamp, if_pos (Time.getLast?_format instant),
      Time.parseRFC3339_format years.1 years.2 aligned]
  simp only [readMillisecondTimestamp, readString_eq fields name found, parsed,
    Option.bind_eq_bind, Option.bind_some, guard, if_true, pure]

theorem readUint_eq
    {value minimum maximum : Nat} (lower : minimum ≤ value)
    (upper : value ≤ maximum) (safe : maximum ≤ maxSafeInteger)
    (found : Json.member fields name = some (uint value)) :
    readUint fields name minimum maximum = some value := by
  rw [readUint, found]
  exact decodeUint_uint lower upper safe

theorem readNullable_eq
    {α : Type} {decode : Json → Option α} {write : α → Json}
    {content : Option α}
    (notNull : ∀ value, write value ≠ .null)
    (decoded : ∀ value ∈ content, decode (write value) = some value)
    (found : Json.member fields name = some (nullable write content)) :
    readNullable decode fields name = some content := by
  rw [readNullable, found]
  cases content with
  | none => rfl
  | some value =>
      have read := decoded value rfl
      have solid := notNull value
      rw [nullable]
      generalize write value = written at read solid
      cases written with
      | null => exact absurd rfl solid
      | _ => simp only [read, Option.map_some]

theorem readNullableTimestamp_eq
    {content : Option Int} (years : ∀ instant ∈ content, InYears instant)
    (found : Json.member fields name = some (nullable timestamp content)) :
    readNullableTimestamp fields name = some content := by
  refine readNullable_eq fields name (fun value => Json.noConfusion) ?_ found
  intro instant held
  exact parseTimestamp_formatRFC3339Nano (years instant held)

theorem readNullableUint_eq
    {content : Option Nat} (safe : content.all safePositive = true)
    (found : Json.member fields name = some (nullable uint content)) :
    readNullableUint fields name 1 maxSafeInteger = some content := by
  refine readNullable_eq fields name (fun value => Json.noConfusion) ?_ found
  intro value held
  rw [Option.mem_def.mp held] at safe
  simp only [Option.all_some, safePositive, Bool.and_eq_true,
    decide_eq_true_eq] at safe
  exact decodeUint_uint safe.1 safe.2 (Nat.le_refl _)

end Reads

/-- The field names of every type are distinct and need no escape. -/
theorem legible :
    Json.Names gatewayHTTPFields ∧ Json.Names authEventFields ∧
      Json.Names sourceHealthFields ∧ Json.Names sourceCoverageFields ∧
      Json.Names eventBatchFields := by
  refine ⟨⟨?_, ?_⟩, ⟨?_, ?_⟩, ⟨?_, ?_⟩, ⟨?_, ?_⟩, ⟨?_, ?_⟩⟩ <;> decide +kernel

/-! ## Texts -/

private theorem wire_letters :
    (∀ byte, labelPattern.letter byte = true → Json.plainByte byte = true) ∧
    (∀ byte, methodPattern.letter byte = true → Json.plainByte byte = true) ∧
    (∀ byte, accountHashPattern.letter byte = true →
      Json.plainByte byte = true) ∧
    (∀ byte, hostPattern.letter byte = true → Json.plainByte byte = true) ∧
    (∀ byte, senderIDPattern.letter byte = true →
      Json.plainByte byte = true) ∧
    (∀ byte, senderEpochPattern.letter byte = true →
      Json.plainByte byte = true) ∧
    ∀ byte : UInt8, isDigit byte = true ∨ byte ∈ Time.layout.map Prod.snd →
      Json.plainByte byte = true := by
  decide +kernel

/-- A text of at most `size` bytes that is written without escapes. -/
def Text (size : Nat) (text : Bytes) : Prop :=
  Json.Plain text ∧ text.length ≤ size

variable {text : Bytes} {event : SourceHealth} {batch : WireBatch}

theorem text_of_matchString
    {pattern : Regexp}
    (letters : ∀ byte, pattern.letter byte = true →
      Json.plainByte byte = true)
    (matched : pattern.matchString text = true) :
    Text pattern.maxLength text :=
  ⟨Capability.plain_of_matchString letters matched,
    (Regexp.length_le_of_matchString matched).2⟩

theorem label_text
    (matched : labelPattern.matchString text = true) :
    Text 64 text :=
  text_of_matchString wire_letters.1 matched

theorem method_text
    (matched : methodPattern.matchString text = true) :
    Text 16 text :=
  text_of_matchString wire_letters.2.1 matched

theorem accountHash_text
    (matched : accountHashPattern.matchString text = true) :
    Text 76 text :=
  text_of_matchString wire_letters.2.2.1 matched

theorem host_text
    (matched : hostPattern.matchString text = true) :
    Text 259 text :=
  text_of_matchString wire_letters.2.2.2.1 matched

theorem senderID_text
    (matched : senderIDPattern.matchString text = true) :
    Text 64 text :=
  text_of_matchString wire_letters.2.2.2.2.1 matched

theorem senderEpoch_text
    (matched : senderEpochPattern.matchString text = true) :
    Text 22 text :=
  text_of_matchString wire_letters.2.2.2.2.2.1 matched

/-- The texts that the code itself writes. -/
theorem constant_text :
    (∀ text ∈ [ascii "gateway-http-v1", ascii "auth-event-v1",
      ascii "source-health-v1", ascii "source-coverage-v1",
      ascii "event-batch-v1", ascii "HTTP/1.1", ascii "path-catalog-v1",
      ascii "complete"], Text 18 text) ∧
    (∀ id : SuspiciousPathID, Text 18 id.text) ∧
    (∀ outcome : AuthOutcome, Text 18 outcome.text) ∧
    (∀ cause : SourceHealthCause, Text 18 cause.text) ∧
    (∀ state : SourceHealthState, Text 18 state.text) ∧
    ∀ detail : SourceHealthDetailCode, Text 18 detail.text := by
  have plain : ∀ text : Bytes,
      (text.all Json.plainByte && text.length ≤ 18) = true → Text 18 text := by
    intro text held
    rw [Bool.and_eq_true, List.all_eq_true, decide_eq_true_eq] at held
    exact held
  refine ⟨?_, ?_, ?_, ?_, ?_, ?_⟩
  · simp only [List.forall_mem_cons]
    refine ⟨?_, ?_, ?_, ?_, ?_, ?_, ?_, ?_, nofun⟩ <;> exact plain _ rfl
  all_goals
    intro item
    cases item <;> exact plain _ rfl

theorem timestamp_text {instant : Int} (years : InYears instant) :
    Text 30 (Time.formatRFC3339Nano instant) ∧
      Text 30 (Time.format instant) := by
  have letters := wire_letters.2.2.2.2.2.2
  have lengths := Time.length_formats_le years.1 years.2
  exact ⟨⟨fun byte member => letters byte (Time.mem_formatRFC3339Nano member),
      lengths.1⟩,
    fun byte member => letters byte (Time.mem_format member), lengths.2⟩

section Bounds

variable (depth : Nat)

theorem bounded_text {size : Nat} {text : Bytes} (described : Text size text) :
    Json.Bounded depth (size + 2) (.string text) :=
  Json.bounded_string depth described (Nat.le_refl _)

theorem bounded_timestamp {instant : Int} (years : InYears instant) :
    Json.Bounded depth 32 (timestamp instant) ∧
      Json.Bounded depth 32 (coverageTimestamp instant) :=
  ⟨bounded_text depth (timestamp_text years).1,
    bounded_text depth (timestamp_text years).2⟩

theorem bounded_safe {value : Nat} (safe : value ≤ maxSafeInteger) :
    Json.Bounded depth 16 (uint value) := by
  unfold maxSafeInteger at safe
  exact Json.bounded_number depth (by decide) (by omega)

theorem bounded_nullable
    {α : Type} {write : α → Json} {content : Option α} {limit : Nat}
    (room : 4 ≤ limit)
    (bounded : ∀ value ∈ content, Json.Bounded depth limit (write value)) :
    Json.Bounded depth limit (nullable write content) := by
  cases content with
  | none => exact Json.bounded_null depth room
  | some value => exact bounded value rfl

end Bounds

/-! ## Records -/

/-- The largest text of a record. -/
def maxRecordBytes : Nat := 2000

def GatewayHTTP.timestamps (event : GatewayHTTP) : List Int :=
  [event.startedAt, event.completedAt]

theorem decodeGatewayHTTPObject_members
    {event : GatewayHTTP} (valid : event.validate = none)
    (years : ∀ instant ∈ event.timestamps, InYears instant) :
    decodeGatewayHTTPObject (Json.named event.members) = some event := by
  have complete : validateObjectFields (Json.named event.members)
      gatewayHTTPFields = true := rfl
  have checks := valid
  simp only [GatewayHTTP.validate, firstError_eq_none_iff,
    List.forall_mem_cons, require_eq_none_iff, Bool.and_eq_true,
    decide_eq_true_eq] at checks
  obtain ⟨-, -, -, -, -, -, -, -, -, -, status, request, response, latency,
    -⟩ := checks
  simp only [GatewayHTTP.timestamps, List.forall_mem_cons] at years
  have startedAt := readTimestamp_eq (Json.named event.members) "started_at"
    years.1 rfl
  have completedAt := readTimestamp_eq (Json.named event.members)
    "completed_at" years.2.1 rfl
  have statusCode := readUint_eq (Json.named event.members) "status_code"
    status.1 status.2 (by decide) rfl
  have requestBytes := readUint_eq (Json.named event.members) "request_bytes"
    (Nat.zero_le _) request (by decide) rfl
  have responseBytes := readUint_eq (Json.named event.members)
    "response_bytes" (Nat.zero_le _) response (Nat.le_refl _) rfl
  have latencyMS := readUint_eq (Json.named event.members) "latency_ms"
    (Nat.zero_le _) latency (by decide) rfl
  have text := fun name value =>
    @readString_eq (Json.named event.members) name value
  simp only [decodeGatewayHTTPObject, complete, guard, if_true, startedAt,
    completedAt, statusCode, requestBytes, responseBytes, latencyMS,
    text "schema_version" _ rfl, text "event_id" _ rfl,
    text "request_id" _ rfl, text "trace_id" _ rfl,
    text "idempotency_key" _ rfl, text "source_ip" _ rfl,
    text "method" _ rfl, text "protocol" _ rfl, text "route_label" _ rfl,
    text "path_catalog_version" _ rfl, text "suspicious_path_id" _ rfl,
    text "host" _ rfl, text "service_label" _ rfl, ofText_text.1, valid,
    Option.bind_eq_bind, Option.bind_some, pure]

theorem GatewayHTTP.bounded
    {event : GatewayHTTP} (valid : event.validate = none)
    (years : ∀ instant ∈ event.timestamps, InYears instant) (depth : Nat) :
    Json.Bounded (depth + 1) maxRecordBytes
      (.object (Json.named event.members)) := by
  simp only [GatewayHTTP.validate, firstError_eq_none_iff,
    List.forall_mem_cons, validateUUID, validateDigest, validateIPv4,
    validateLabel, require_eq_none_iff, Bool.and_eq_true,
    decide_eq_true_eq] at valid
  obtain ⟨eventID, requestID, traceID, key, -, address, method, route, host,
    service, status, request, response, latency, -⟩ := valid
  simp only [GatewayHTTP.timestamps, List.forall_mem_cons] at years
  have constant := fun text member =>
    bounded_text depth (constant_text.1 text member)
  refine (Json.bounded_object legible.1 rfl
    (.cons (constant _ (by decide)) <|
    .cons (bounded_text depth (Capability.uuid_text eventID)) <|
    .cons (bounded_text depth (Capability.uuid_text requestID)) <|
    .cons (bounded_text depth (Capability.uuid_text traceID)) <|
    .cons (bounded_text depth (Capability.digest_text key)) <|
    .cons (bounded_timestamp depth years.1).1 <|
    .cons (bounded_timestamp depth years.2.1).1 <|
    .cons (bounded_text depth (Capability.address_text address)) <|
    .cons (bounded_text depth (method_text method)) <|
    .cons (constant _ (by decide)) <|
    .cons (bounded_text depth (label_text route)) <|
    .cons (constant _ (by decide)) <|
    .cons (bounded_text depth (constant_text.2.1 _)) <|
    .cons (bounded_text depth (host_text host.2)) <|
    .cons (bounded_text depth (label_text service)) <|
    .cons (bounded_safe depth (Nat.le_trans status.2 (by decide))) <|
    .cons (bounded_safe depth (Nat.le_trans request (by decide))) <|
    .cons (bounded_safe depth response) <|
    .cons (bounded_safe depth (Nat.le_trans latency (by decide)))
    .nil)).weaken ?_
  decide

def AuthEvent.timestamps (event : AuthEvent) : List Int :=
  [event.occurredAt]

theorem decodeAuthEventObject_members
    {event : AuthEvent} (valid : event.validate = none)
    (years : ∀ instant ∈ event.timestamps, InYears instant) :
    decodeAuthEventObject (Json.named event.members) = some event := by
  have complete : validateObjectFields (Json.named event.members)
      authEventFields = true := rfl
  simp only [AuthEvent.timestamps, List.forall_mem_cons] at years
  have occurredAt := readTimestamp_eq (Json.named event.members) "occurred_at"
    years.1 rfl
  have text := fun name value =>
    @readString_eq (Json.named event.members) name value
  simp only [decodeAuthEventObject, complete, guard, if_true, occurredAt,
    text "schema_version" _ rfl, text "event_id" _ rfl,
    text "gateway_request_id" _ rfl, text "trace_id" _ rfl,
    text "idempotency_key" _ rfl, text "source_ip" _ rfl,
    text "service_label" _ rfl, text "route_label" _ rfl,
    text "account_hash" _ rfl, text "outcome" _ rfl, ofText_text.2.1, valid,
    Option.bind_eq_bind, Option.bind_some, pure]

theorem AuthEvent.bounded
    {event : AuthEvent} (valid : event.validate = none)
    (years : ∀ instant ∈ event.timestamps, InYears instant) (depth : Nat) :
    Json.Bounded (depth + 1) maxRecordBytes
      (.object (Json.named event.members)) := by
  simp only [AuthEvent.validate, firstError_eq_none_iff,
    List.forall_mem_cons, validateUUID, validateDigest, validateIPv4,
    validateLabel, require_eq_none_iff] at valid
  obtain ⟨eventID, requestID, traceID, key, address, service, route, account,
    -⟩ := valid
  simp only [AuthEvent.timestamps, List.forall_mem_cons] at years
  refine (Json.bounded_object legible.2.1 rfl
    (.cons (bounded_text depth (constant_text.1 _ (by decide))) <|
    .cons (bounded_text depth (Capability.uuid_text eventID)) <|
    .cons (bounded_text depth (Capability.uuid_text requestID)) <|
    .cons (bounded_text depth (Capability.uuid_text traceID)) <|
    .cons (bounded_text depth (Capability.digest_text key)) <|
    .cons (bounded_timestamp depth years.1).1 <|
    .cons (bounded_text depth (Capability.address_text address)) <|
    .cons (bounded_text depth (label_text service)) <|
    .cons (bounded_text depth (label_text route)) <|
    .cons (bounded_text depth (accountHash_text account)) <|
    .cons (bounded_text depth (constant_text.2.2.1 _)) .nil)).weaken ?_
  decide

def SourceHealth.timestamps (event : SourceHealth) : List Int :=
  event.occurredAt :: event.intervalStart.toList ++ event.intervalEnd.toList

private theorem SourceHealth.inYears
    (years : ∀ instant ∈ event.timestamps, InYears instant) :
    InYears event.occurredAt ∧
      (∀ instant ∈ event.intervalStart, InYears instant) ∧
      ∀ instant ∈ event.intervalEnd, InYears instant := by
  refine ⟨?_, ?_, ?_⟩
  · exact years _ (by simp [SourceHealth.timestamps])
  all_goals
    intro instant held
    exact years _ (by simp [SourceHealth.timestamps, Option.mem_def.mp held])

theorem decodeSourceHealthObject_members
    (valid : event.validate = none)
    (years : ∀ instant ∈ event.timestamps, InYears instant) :
    decodeSourceHealthObject (Json.named event.wireMembers) = some event := by
  have complete : validateObjectFields (Json.named event.wireMembers)
      sourceHealthFields = true := rfl
  have checks := valid
  simp only [SourceHealth.validate, firstError_eq_none_iff,
    List.forall_mem_cons, require_eq_none_iff, decide_eq_true_eq] at checks
  obtain ⟨-, -, -, -, first, last, -, -, dropped, -⟩ := checks
  obtain ⟨occurred, opened, closed⟩ := SourceHealth.inYears years
  have occurredAt := readTimestamp_eq (Json.named event.wireMembers)
    "occurred_at" occurred rfl
  have sequenceStart := readNullableUint_eq (Json.named event.wireMembers)
    "sequence_start" first rfl
  have sequenceEnd := readNullableUint_eq (Json.named event.wireMembers)
    "sequence_end" last rfl
  have intervalStart := readNullableTimestamp_eq
    (Json.named event.wireMembers) "interval_start" opened rfl
  have intervalEnd := readNullableTimestamp_eq
    (Json.named event.wireMembers) "interval_end" closed rfl
  have droppedCount := readUint_eq (Json.named event.wireMembers)
    "dropped_count" (Nat.zero_le _) dropped (Nat.le_refl _) rfl
  have text := fun name value =>
    @readString_eq (Json.named event.wireMembers) name value
  simp only [decodeSourceHealthObject, complete, guard, if_true, occurredAt,
    sequenceStart, sequenceEnd, intervalStart, intervalEnd, droppedCount,
    text "schema_version" _ rfl, text "event_id" _ rfl,
    text "idempotency_key" _ rfl, text "source_id" _ rfl,
    text "cause" _ rfl, text "state" _ rfl,
    text "affected_sender_epoch" _ rfl, text "detail_code" _ rfl,
    ofText_text.2.2.1, ofText_text.2.2.2.1, ofText_text.2.2.2.2, valid,
    Option.bind_eq_bind, Option.bind_some, pure]

theorem SourceHealth.bounded
    (valid : event.validate = none)
    (years : ∀ instant ∈ event.timestamps, InYears instant) (depth : Nat) :
    Json.Bounded (depth + 1) maxRecordBytes
      (.object (Json.named event.wireMembers)) := by
  simp only [SourceHealth.validate, firstError_eq_none_iff,
    List.forall_mem_cons, validateUUID, validateDigest, validateSenderEpoch,
    require_eq_none_iff, Bool.and_eq_true, decide_eq_true_eq] at valid
  obtain ⟨eventID, key, source, epoch, first, last, -, -, dropped, -⟩ := valid
  obtain ⟨occurred, opened, closed⟩ := SourceHealth.inYears years
  have sequence : ∀ content : Option Nat, content.all safePositive = true →
      Json.Bounded depth 16 (nullable uint content) := by
    intro content safe
    refine bounded_nullable depth (by decide) ?_
    intro value held
    rw [Option.mem_def.mp held] at safe
    simp only [Option.all_some, safePositive, Bool.and_eq_true,
      decide_eq_true_eq] at safe
    exact bounded_safe depth safe.2
  refine (Json.bounded_object legible.2.2.1 rfl
    (.cons (bounded_text depth (constant_text.1 _ (by decide))) <|
    .cons (bounded_text depth (Capability.uuid_text eventID)) <|
    .cons (bounded_text depth (Capability.digest_text key)) <|
    .cons (bounded_timestamp depth occurred).1 <|
    .cons (bounded_text depth (senderID_text source)) <|
    .cons (bounded_text depth (constant_text.2.2.2.1 _)) <|
    .cons (bounded_text depth (constant_text.2.2.2.2.1 _)) <|
    .cons (bounded_text depth (senderEpoch_text epoch.1)) <|
    .cons (sequence _ first) <|
    .cons (sequence _ last) <|
    .cons (bounded_nullable depth (by decide)
      fun instant held =>
        (bounded_timestamp depth (opened instant held)).1) <|
    .cons (bounded_nullable depth (by decide)
      fun instant held =>
        (bounded_timestamp depth (closed instant held)).1) <|
    .cons (bounded_safe depth dropped) <|
    .cons (bounded_text depth (constant_text.2.2.2.2.2 _)) .nil)).weaken ?_
  decide

def SourceCoverage.timestamps (event : SourceCoverage) : List Int :=
  [event.coverageStart, event.coverageEnd]

theorem decodeSourceCoverageObject_members
    {event : SourceCoverage} (valid : event.validate = none)
    (years : ∀ instant ∈ event.timestamps, InYears instant) :
    decodeSourceCoverageObject (Json.named event.wireMembers) =
      some event := by
  have complete : validateObjectFields (Json.named event.wireMembers)
      sourceCoverageFields = true := rfl
  have checks := valid
  simp only [SourceCoverage.validate, firstError_eq_none_iff,
    List.forall_mem_cons, validateMillisecondTimestamp, require_eq_none_iff,
    safePositive, Bool.and_eq_true, decide_eq_true_eq] at checks
  obtain ⟨-, -, -, -, -, -, startAligned, endAligned, -, -, sequence, -⟩ :=
    checks
  simp only [SourceCoverage.timestamps, List.forall_mem_cons] at years
  have coverageStart := readMillisecondTimestamp_eq
    (Json.named event.wireMembers) "coverage_start" years.1 startAligned rfl
  have coverageEnd := readMillisecondTimestamp_eq
    (Json.named event.wireMembers) "coverage_end" years.2.1 endAligned rfl
  have previousCoverageDigest : readNullableString
      (Json.named event.wireMembers) "previous_coverage_digest" =
        some event.previousCoverageDigest :=
    readNullable_eq _ _ (fun value => Json.noConfusion)
      (fun value held => rfl) rfl
  have coveredThroughSequence := readUint_eq (Json.named event.wireMembers)
    "covered_through_sequence" sequence.1 sequence.2 (Nat.le_refl _) rfl
  have text := fun name value =>
    @readString_eq (Json.named event.wireMembers) name value
  simp only [decodeSourceCoverageObject, complete, guard, if_true,
    coverageStart, coverageEnd, previousCoverageDigest,
    coveredThroughSequence, text "schema_version" _ rfl,
    text "event_id" _ rfl, text "idempotency_key" _ rfl,
    text "source_id" _ rfl, text "affected_sender_epoch" _ rfl,
    text "segment_id" _ rfl, text "covered_through_batch_id" _ rfl,
    text "state" _ rfl, valid, Option.bind_eq_bind, Option.bind_some, pure]

theorem SourceCoverage.bounded
    {event : SourceCoverage} (valid : event.validate = none)
    (years : ∀ instant ∈ event.timestamps, InYears instant) (depth : Nat) :
    Json.Bounded (depth + 1) maxRecordBytes
      (.object (Json.named event.wireMembers)) := by
  simp only [SourceCoverage.validate, firstError_eq_none_iff,
    List.forall_mem_cons, validateUUID, validateDigest, validateSenderEpoch,
    require_eq_none_iff, safePositive, Bool.and_eq_true,
    decide_eq_true_eq] at valid
  obtain ⟨eventID, key, source, epoch, segment, previous, -, -, -, batchID,
    sequence, -⟩ := valid
  simp only [SourceCoverage.timestamps, List.forall_mem_cons] at years
  have digest : ∀ text ∈ event.previousCoverageDigest,
      Json.Bounded depth 73 (.string text) := by
    intro text held
    rw [Option.mem_def.mp held, Option.bind_some, validateDigest,
      require_eq_none_iff] at previous
    exact bounded_text depth (Capability.digest_text previous)
  refine (Json.bounded_object legible.2.2.2.1 rfl
    (.cons (bounded_text depth (constant_text.1 _ (by decide))) <|
    .cons (bounded_text depth (Capability.uuid_text eventID)) <|
    .cons (bounded_text depth (Capability.digest_text key)) <|
    .cons (bounded_text depth (senderID_text source)) <|
    .cons (bounded_text depth (senderEpoch_text epoch.1)) <|
    .cons (bounded_text depth (Capability.uuid_text segment)) <|
    .cons (bounded_nullable depth (by decide) digest) <|
    .cons (bounded_timestamp depth years.1).2 <|
    .cons (bounded_timestamp depth years.2.1).2 <|
    .cons (bounded_text depth (Capability.uuid_text batchID)) <|
    .cons (bounded_safe depth sequence.2) <|
    .cons (bounded_text depth (constant_text.1 _ (by decide)))
    .nil)).weaken ?_
  decide

def EventRecord.timestamps : WireRecord → List Int
  | .gatewayHTTP event => event.timestamps
  | .authEvent event => event.timestamps
  | .sourceHealth event => event.timestamps
  | .sourceCoverage event => event.timestamps

theorem decodeEventRecord_toJson
    {record : WireRecord}
    (valid : record.validate GatewayHTTP.validate AuthEvent.validate = none)
    (years : ∀ instant ∈ EventRecord.timestamps record, InYears instant) :
    decodeEventRecord (EventRecord.toJson record) = some record := by
  have object : ∀ (names : List String) (members : List (String × Json)),
      Json.Names names → members.map Prod.fst = names →
        decodeEventRecord (.object (Json.named members)) =
          decodeEventRecordObject (Json.named members) := by
    intro names members legible labels
    rw [decodeEventRecord, decodeObject,
      if_pos (legible.distinctNames labels), Option.bind_some]
  have schemas : ascii "auth-event-v1" ≠ ascii "gateway-http-v1" ∧
      ascii "source-health-v1" ≠ ascii "gateway-http-v1" ∧
      ascii "source-health-v1" ≠ ascii "auth-event-v1" ∧
      ascii "source-coverage-v1" ≠ ascii "gateway-http-v1" ∧
      ascii "source-coverage-v1" ≠ ascii "auth-event-v1" ∧
      ascii "source-coverage-v1" ≠ ascii "source-health-v1" := by
    decide
  obtain ⟨auth, health, healthAuth, coverage, coverageAuth,
    coverageHealth⟩ := schemas
  cases record with
  | gatewayHTTP event =>
      have schema := @readString_eq (Json.named event.members)
        "schema_version" _ rfl
      rw [EventRecord.toJson, EventRecord.wireMembers,
        object _ _ legible.1 rfl, decodeEventRecordObject, schema]
      simp only [if_true, decodeGatewayHTTPObject_members valid years,
        Option.map_some]
  | authEvent event =>
      have schema := @readString_eq (Json.named event.members)
        "schema_version" _ rfl
      rw [EventRecord.toJson, EventRecord.wireMembers,
        object _ _ legible.2.1 rfl, decodeEventRecordObject, schema]
      simp only [if_true, if_neg auth,
        decodeAuthEventObject_members valid years, Option.map_some]
  | sourceHealth event =>
      have schema := @readString_eq (Json.named event.wireMembers)
        "schema_version" _ rfl
      rw [EventRecord.toJson, EventRecord.wireMembers,
        object _ _ legible.2.2.1 rfl, decodeEventRecordObject, schema]
      simp only [if_true, if_neg health, if_neg healthAuth,
        decodeSourceHealthObject_members valid years, Option.map_some]
  | sourceCoverage event =>
      have schema := @readString_eq (Json.named event.wireMembers)
        "schema_version" _ rfl
      rw [EventRecord.toJson, EventRecord.wireMembers,
        object _ _ legible.2.2.2.1 rfl, decodeEventRecordObject, schema]
      simp only [if_true, if_neg coverage, if_neg coverageAuth,
        if_neg coverageHealth, decodeSourceCoverageObject_members valid years,
        Option.map_some]

theorem EventRecord.bounded
    {record : WireRecord}
    (valid : record.validate GatewayHTTP.validate AuthEvent.validate = none)
    (years : ∀ instant ∈ EventRecord.timestamps record, InYears instant)
    (depth : Nat) :
    Json.Bounded (depth + 1) maxRecordBytes (EventRecord.toJson record) := by
  cases record with
  | gatewayHTTP => exact GatewayHTTP.bounded valid years depth
  | authEvent => exact AuthEvent.bounded valid years depth
  | sourceHealth => exact SourceHealth.bounded valid years depth
  | sourceCoverage => exact SourceCoverage.bounded valid years depth

/-! ## Batches -/

def WireBatch.timestamps (batch : WireBatch) : List Int :=
  batch.sentAt :: batch.records.flatMap EventRecord.timestamps

/-- What validation establishes for the parts of a batch. -/
structure WireBatch.Valid (batch : WireBatch) : Prop where
  senderID : senderIDPattern.matchString batch.senderID = true
  senderEpoch : senderEpochPattern.matchString batch.senderEpoch = true
  batchID : uuidPattern.matchString batch.batchID = true
  sequence : 1 ≤ batch.sequence ∧ batch.sequence ≤ maxSafeInteger
  cardinality : 1 ≤ batch.records.length ∧
    batch.records.length ≤ maxEventBatchRecords
  records : ∀ record ∈ batch.records,
    record.validate GatewayHTTP.validate AuthEvent.validate = none

theorem WireBatch.valid_of_validate
    (valid : batch.validate = none) : batch.Valid := by
  simp only [WireBatch.validate, EventBatch.validate, firstError_eq_none_iff,
    List.forall_mem_append, List.forall_mem_cons, validateSenderEpoch,
    validateUUID, require_eq_none_iff, safePositive, Bool.and_eq_true,
    decide_eq_true_eq] at valid
  obtain ⟨⟨⟨senderID, senderEpoch, batchID, sequence, cardinality, -⟩,
    records⟩, -⟩ := valid
  refine ⟨senderID, senderEpoch.1, batchID, sequence, cardinality, ?_⟩
  intro record member
  obtain ⟨index, bound, rfl⟩ := List.getElem_of_mem member
  have check := records _ (List.mem_mapIdx.mpr ⟨index, bound, rfl⟩)
  exact Option.map_eq_none_iff.mp check

theorem mapM_decodeEventRecord
    {records : List WireRecord}
    (decoded : ∀ record ∈ records,
      decodeEventRecord (EventRecord.toJson record) = some record) :
    (records.map EventRecord.toJson).mapM decodeEventRecord =
      some records := by
  induction records with
  | nil => rfl
  | cons record records induction =>
      have head := decoded record (by simp)
      have tail := induction fun other member =>
        decoded other (List.mem_cons_of_mem _ member)
      rw [List.map_cons, List.mapM_cons, head, tail]
      rfl

theorem decodeEventBatchObject_members
    (valid : batch.validate = none)
    (years : ∀ instant ∈ batch.timestamps, InYears instant) :
    decodeEventBatchObject (Json.named batch.members) = some batch := by
  have parts := WireBatch.valid_of_validate valid
  have complete : validateObjectFields (Json.named batch.members)
      eventBatchFields = true := rfl
  have sequence := readUint_eq (Json.named batch.members) "sequence"
    parts.sequence.1 parts.sequence.2 (Nat.le_refl _) rfl
  have sentAt := readTimestamp_eq (Json.named batch.members) "sent_at"
    (years batch.sentAt (by simp [WireBatch.timestamps])) rfl
  have records : readRawArray (Json.named batch.members) "records" =
      some (batch.records.map EventRecord.toJson) := rfl
  have decoded : (batch.records.map EventRecord.toJson).mapM
      decodeEventRecord = some batch.records := by
    apply mapM_decodeEventRecord
    intro record member
    refine decodeEventRecord_toJson (parts.records record member) ?_
    intro instant found
    exact years instant (List.mem_cons_of_mem _
      (List.mem_flatMap.mpr ⟨record, member, found⟩))
  have text := fun name value =>
    @readString_eq (Json.named batch.members) name value
  simp only [decodeEventBatchObject, complete, guard, if_true, sequence,
    sentAt, records, decoded, List.length_map, parts.cardinality, and_self,
    text "schema_version" _ rfl, text "sender_id" _ rfl,
    text "sender_epoch" _ rfl, text "batch_id" _ rfl, valid,
    Option.bind_eq_bind, Option.bind_some, pure]

theorem WireBatch.bounded
    (valid : batch.validate = none)
    (years : ∀ instant ∈ batch.timestamps, InYears instant) :
    Json.Bounded Json.maxNestingDepth maxEventBatchBodyBytes
      (.object (Json.named batch.members)) := by
  have parts := WireBatch.valid_of_validate valid
  have items : ∀ item ∈ batch.records.map EventRecord.toJson,
      Json.Bounded 9998 maxRecordBytes item := by
    intro item found
    obtain ⟨record, member, rfl⟩ := List.mem_map.mp found
    refine EventRecord.bounded (parts.records record member) ?_ 9997
    intro instant held
    exact years instant (List.mem_cons_of_mem _
      (List.mem_flatMap.mpr ⟨record, member, held⟩))
  have few : batch.records.length ≤ 100 := parts.cardinality.2
  have records : Json.Bounded 9999 (2 + 100 * (maxRecordBytes + 1))
      (.array (batch.records.map EventRecord.toJson)) := by
    refine (Json.bounded_array items).weaken ?_
    rw [List.length_map]
    exact Nat.add_le_add_left (Nat.mul_le_mul_right _ few) 2
  refine (Json.bounded_object legible.2.2.2.2 rfl
    (.cons (bounded_text 9999 (constant_text.1 _ (by decide))) <|
    .cons (bounded_text 9999 (senderID_text parts.senderID)) <|
    .cons (bounded_text 9999 (senderEpoch_text parts.senderEpoch)) <|
    .cons (bounded_text 9999 (Capability.uuid_text parts.batchID)) <|
    .cons (bounded_safe 9999 parts.sequence.2) <|
    .cons (bounded_timestamp 9999
      (years batch.sentAt (by simp [WireBatch.timestamps]))).1 <|
    .cons records .nil)).weaken ?_
  decide

/-- A valid batch is written, and the strict decoder returns it. -/
theorem decodeEventBatch_marshal
    (valid : batch.validate = none)
    (years : ∀ instant ∈ batch.timestamps, InYears instant) :
    ∃ body, batch.marshal = some body ∧
      body.length ≤ maxEventBatchBodyBytes ∧
      decodeEventBatch body = some batch := by
  have bounded := WireBatch.bounded valid years
  refine ⟨_, ?_, bounded.length_le, ?_⟩
  · simp only [WireBatch.marshal, valid, bounded.length_le, guard, if_true,
      Option.bind_eq_bind, Option.bind_some, pure]
  · have distinct : Json.distinctNames
        ((Json.named batch.members).map Prod.fst) = true :=
      legible.2.2.2.2.distinctNames rfl
    simp only [decodeEventBatch, bounded.length_le, guard, if_true,
      Json.parse_marshal bounded.canonical, decodeObject, distinct,
      Option.bind_eq_bind, Option.bind_some, pure,
      decodeEventBatchObject_members valid years]

end SentinelFlow.Events
