import SentinelFlow.Events.Roundtrip
import SentinelFlow.GoLib.Sha256

/-!
# Authentication of event batches

Package `ingestion`: the registry of sender bindings, the four transport headers
that `Sign` produces, and `Authenticate`, which checks them in a fixed order
before it decodes the body.  Instants are nanoseconds since the zero time, so
Unix seconds are counted from `unixEpoch`.
-/

namespace SentinelFlow.Ingestion

open GoLib Events

def gatewayEventsPath : Bytes := ascii "/internal/v1/gateway-events"

def authEventsPath : Bytes := ascii "/internal/v1/auth-events"

def maxAuthenticationSkew : Int := 60 * Time.second

/-- Midnight of 1 January 1970. -/
def unixEpoch : Int := 62135596800 * Time.second

/-- `t.Unix()`. -/
def unixSeconds (instant : Int) : Int :=
  (instant - unixEpoch) / Time.second

/-- `strconv.FormatInt` in base 10. -/
def formatInt (value : Int) : Bytes :=
  if value < 0 then 45 :: formatUint value.natAbs else formatUint value.natAbs

inductive ErrorCode where
  | invalidHeader
  | unknownSender
  | timestampSkew
  | bodyTooLarge
  | signatureMismatch
  | invalidBody
  | senderMismatch
  | recordForbidden
deriving DecidableEq, Repr

structure Headers where
  senderID : Bytes
  timestamp : Bytes
  nonce : Bytes
  signature : Bytes
deriving DecidableEq, Repr

structure Binding where
  senderID : Bytes
  endpointPath : Bytes
  keyID : Bytes
  key : Bytes
deriving DecidableEq, Repr

def bindingKey (endpointPath senderID : Bytes) : Bytes :=
  endpointPath ++ 0 :: senderID

/-- The checks that `NewRegistry` makes of one binding. -/
def Binding.error (binding : Binding) : Option String :=
  if !senderIDPattern.matchString binding.senderID then
    some "invalid sender binding"
  else if binding.endpointPath ≠ gatewayEventsPath ∧
      binding.endpointPath ≠ authEventsPath then
    some "invalid endpoint binding"
  else if binding.keyID ≠ [] ∧ !senderIDPattern.matchString binding.keyID then
    some "invalid key identity"
  else if binding.key.length < 32 then
    some "sender key must be at least 32 bytes"
  else none

/-- The first error of `NewRegistry`, with the sender IDs seen so far. -/
def registryError (seen : List Bytes) : List Binding → Option String
  | [] => none
  | binding :: bindings =>
      match binding.error with
      | some problem => some problem
      | none =>
          if seen.contains binding.senderID then
            some "sender ID must be bound to exactly one endpoint"
          else registryError (binding.senderID :: seen) bindings

structure Registry where
  bindings : List Binding
  accepted : registryError [] bindings = none

def newRegistry (bindings : List Binding) : Except String Registry :=
  match found : registryError [] bindings with
  | some problem => .error problem
  | none => .ok ⟨bindings, found⟩

def Registry.lookup (registry : Registry) (endpointPath senderID : Bytes) :
    Option Binding :=
  registry.bindings.find? fun binding =>
    bindingKey binding.endpointPath binding.senderID ==
      bindingKey endpointPath senderID

structure AuthenticatedBatch where
  batch : WireBatch
  bodyDigest : Bytes
  keyID : Bytes
  rawBodySize : Nat
  replayNonceDigest : Bytes
  authenticatedAt : Int
deriving DecidableEq, Repr

/-- The instant, nonce and signature of well-formed headers. -/
def parseHeaders (headers : Headers) : Option (Int × Bytes × Bytes) := do
  guard (senderIDPattern.matchString headers.senderID)
  guard (1 ≤ headers.timestamp.length ∧ headers.timestamp.length ≤ 12 ∧
    headers.timestamp.all isDigit)
  guard (headers.nonce.length = 22 ∧ !headers.nonce.contains (charByte '='))
  let nonce ← Base64.decode true headers.nonce
  guard (nonce.length = 16)
  guard (headers.signature.length = 64 ∧ !headers.signature.any upperClass)
  let signature ← Hex.decodeString headers.signature
  guard (signature.length = 32)
  return (unixEpoch + decimalValue headers.timestamp * Time.second, nonce,
    signature)

def signingInput (endpointPath senderID timestamp nonce bodySum : Bytes) :
    Bytes :=
  (ascii "\n").intercalate
    [endpointPath, senderID, timestamp, nonce, Hex.encodeToString bodySum]

/-- The record kinds of an endpoint; health and coverage must be the sender's
own. -/
def recordAllowed (endpointPath senderID : Bytes) (record : WireRecord) : Bool :=
  (match record with
    | .gatewayHTTP _ => endpointPath == gatewayEventsPath
    | .authEvent _ => endpointPath == authEventsPath
    | _ => endpointPath == gatewayEventsPath || endpointPath == authEventsPath) &&
  (match record with
    | .sourceHealth event => event.sourceID == senderID
    | .sourceCoverage event => event.sourceID == senderID
    | _ => true)

def recordsAllowed (endpointPath senderID : Bytes)
    (records : List WireRecord) : Bool :=
  records.all (recordAllowed endpointPath senderID)

section Crypto

variable (crypto : Crypto)

def Registry.authenticate (registry : Registry) (endpointPath : Bytes)
    (headers : Headers) (rawBody : Bytes) (now : Int) :
    Except ErrorCode AuthenticatedBatch :=
  match parseHeaders headers with
  | none => .error .invalidHeader
  | some (timestamp, nonce, presentedSignature) =>
  match registry.lookup endpointPath headers.senderID with
  | none => .error .unknownSender
  | some binding =>
  if maxAuthenticationSkew < now - timestamp ∨
      now - timestamp < -maxAuthenticationSkew then
    .error .timestampSkew
  else if maxEventBatchBodyBytes < rawBody.length then
    .error .bodyTooLarge
  else
    let bodySum := crypto.sha256 rawBody
    let input := signingInput endpointPath headers.senderID headers.timestamp
      headers.nonce bodySum
    if presentedSignature ≠ crypto.hmacSHA256 binding.key input then
      .error .signatureMismatch
    else
      match decodeEventBatch rawBody with
      | none => .error .invalidBody
      | some batch =>
          if batch.senderID ≠ headers.senderID then
            .error .senderMismatch
          else if !recordsAllowed endpointPath headers.senderID
              batch.records then
            .error .recordForbidden
          else
            .ok
              { batch
                bodyDigest := digestText crypto rawBody
                keyID := binding.keyID
                rawBodySize := rawBody.length
                replayNonceDigest := crypto.sha256 nonce
                authenticatedAt := now }

/-- `Sign`; every failure is reported in the same way. -/
def sign (endpointPath senderID key rawBody nonce : Bytes) (now : Int) :
    Option Headers :=
  if endpointPath ≠ gatewayEventsPath ∧ endpointPath ≠ authEventsPath then none
  else if !senderIDPattern.matchString senderID ∨ key.length < 32 ∨
      nonce.length ≠ 16 then none
  else if maxEventBatchBodyBytes < rawBody.length then none
  else
    let timestamp := formatInt (unixSeconds now)
    let encodedNonce := Base64.encode nonce
    let input := signingInput endpointPath senderID timestamp encodedNonce
      (crypto.sha256 rawBody)
    some
      { senderID
        timestamp
        nonce := encodedNonce
        signature := Hex.encodeToString (crypto.hmacSHA256 key input) }

end Crypto

/-! ## What the registry guarantees -/

/-- A binding that `NewRegistry` accepts. -/
structure Binding.Valid (binding : Binding) : Prop where
  senderID : senderIDPattern.matchString binding.senderID = true
  endpointPath : binding.endpointPath = gatewayEventsPath ∨
    binding.endpointPath = authEventsPath
  key : 32 ≤ binding.key.length

theorem Binding.valid_of_error
    {binding : Binding} (checked : binding.error = none) : binding.Valid := by
  unfold Binding.error at checked
  split at checked
  · cases checked
  next sender =>
  split at checked
  · cases checked
  next endpoint =>
  split at checked
  · cases checked
  split at checked
  · cases checked
  next key =>
  refine ⟨by simpa using sender, ?_, by omega⟩
  by_contra neither
  exact endpoint ⟨fun gateway => neither (.inl gateway),
    fun auth => neither (.inr auth)⟩

theorem valid_of_registryError
    {seen : List Bytes} {bindings : List Binding}
    (accepted : registryError seen bindings = none) :
    (∀ binding ∈ bindings, binding.Valid) ∧
      (bindings.map Binding.senderID).Nodup ∧
      ∀ binding ∈ bindings, binding.senderID ∉ seen := by
  induction bindings generalizing seen with
  | nil => exact ⟨nofun, List.nodup_nil, nofun⟩
  | cons binding bindings induction =>
      rw [registryError] at accepted
      split at accepted
      · cases accepted
      next checked =>
      split at accepted
      · cases accepted
      next fresh =>
      obtain ⟨valid, distinct, unseen⟩ := induction accepted
      have notSeen : binding.senderID ∉ seen := by simpa using fresh
      refine ⟨?_, ?_, ?_⟩
      · intro other member
        rcases List.mem_cons.mp member with rfl | later
        · exact Binding.valid_of_error checked
        · exact valid other later
      · rw [List.map_cons, List.nodup_cons]
        refine ⟨?_, distinct⟩
        intro repeated
        obtain ⟨other, later, same⟩ := List.mem_map.mp repeated
        exact unseen other later (by simp [same])
      · intro other member
        rcases List.mem_cons.mp member with rfl | later
        · exact notSeen
        · exact fun found => unseen other later (by simp [found])

/-- A registered binding is the one that is found under its own key. -/
theorem Registry.lookup_of_mem
    (registry : Registry) {binding : Binding}
    (member : binding ∈ registry.bindings) :
    registry.lookup binding.endpointPath binding.senderID = some binding := by
  obtain ⟨valid, distinct, -⟩ := valid_of_registryError registry.accepted
  have paths : ∀ path, path = gatewayEventsPath ∨ path = authEventsPath →
      0 ∉ path := by
    rintro path (rfl | rfl) <;> decide +kernel
  cases found : registry.lookup binding.endpointPath binding.senderID with
  | none =>
      have missing := List.find?_eq_none.mp found binding member
      simp at missing
  | some other =>
      have sameKey := List.find?_some found
      have otherMember := List.mem_of_find?_eq_some found
      rw [beq_iff_eq] at sameKey
      obtain ⟨-, sameSender⟩ := append_separator_inj
        (paths _ (valid other otherMember).endpointPath)
        (paths _ (valid binding member).endpointPath) sameKey
      rw [List.inj_on_of_nodup_map distinct otherMember member sameSender]

/-! ## Sender and receiver agree -/

/-- The batch carries only what its endpoint is for: the endpoint's own events
and the sender's reports about itself. -/
def Permits (endpointPath : Bytes) (batch : WireBatch) : Prop :=
  ∀ record ∈ batch.records,
    match record with
    | .gatewayHTTP _ => endpointPath = gatewayEventsPath
    | .authEvent _ => endpointPath = authEventsPath
    | .sourceHealth event => event.sourceID = batch.senderID
    | .sourceCoverage _ => True

/-- A marker of a valid batch names the sender of the batch. -/
theorem sourceID_of_validate
    {batch : WireBatch} (valid : batch.validate = none)
    {coverage : SourceCoverage}
    (member : .sourceCoverage coverage ∈ batch.records) :
    coverage.sourceID = batch.senderID := by
  simp only [WireBatch.validate, EventBatch.validate, firstError_eq_none_iff,
    List.forall_mem_append] at valid
  obtain ⟨index, bound, found⟩ := List.getElem_of_mem member
  have check := valid.2 _ (List.mem_mapIdx.mpr ⟨index, bound, rfl⟩)
  simp only [found, EventBatch.coverageError, firstError_eq_none_iff,
    List.forall_mem_cons, require_eq_none_iff, Bool.and_eq_true,
    beq_iff_eq] at check
  exact check.2.1.1.1.1

theorem recordsAllowed_of_permits
    {batch : WireBatch} (valid : batch.validate = none) {endpointPath : Bytes}
    (endpoint : endpointPath = gatewayEventsPath ∨
      endpointPath = authEventsPath)
    (permitted : Permits endpointPath batch) :
    recordsAllowed endpointPath batch.senderID batch.records = true := by
  have known : (endpointPath == gatewayEventsPath ||
      endpointPath == authEventsPath) = true := by
    simpa using endpoint
  rw [recordsAllowed, List.all_eq_true]
  intro record member
  have allowed := permitted record member
  cases record with
  | gatewayHTTP => simpa [recordAllowed] using allowed
  | authEvent => simpa [recordAllowed] using allowed
  | sourceHealth event =>
      have own : (event.sourceID == batch.senderID) = true := by
        simpa using allowed
      simp only [recordAllowed, known, own, Bool.and_self]
  | sourceCoverage event =>
      have own : (event.sourceID == batch.senderID) = true := by
        simpa using sourceID_of_validate valid member
      simp only [recordAllowed, known, own, Bool.and_self]

theorem decode_encode_nonce
    {nonce : Bytes} (length : nonce.length = 16) :
    (Base64.encode nonce).length = 22 ∧
      (Base64.encode nonce).contains (charByte '=') = false ∧
      Base64.decode true (Base64.encode nonce) = some nonce := by
  refine ⟨?_, ?_, Base64.decode_encode true nonce⟩
  · rw [Base64.length_encode, length]
  · have padding : Base64.isSymbol (charByte '=') = false := by decide +kernel
    rw [List.contains_eq_mem, decide_eq_false_iff_not]
    intro member
    have symbol := Base64.isSymbol_of_mem_encode member
    rw [padding] at symbol
    cases symbol

theorem decode_encode_signature
    {signature : Bytes} (length : signature.length = 32) :
    (Hex.encodeToString signature).length = 64 ∧
      (Hex.encodeToString signature).any upperClass = false ∧
      Hex.decodeString (Hex.encodeToString signature) = some signature := by
  refine ⟨?_, ?_, Hex.decodeString_encodeToString signature⟩
  · rw [Hex.length_encodeToString, length]
  · have lower : ∀ byte, Hex.isLowerHex byte = true →
        upperClass byte = false := by decide +kernel
    rw [List.any_eq_false]
    intro byte member
    rw [lower byte (Hex.isLowerHex_of_mem_encodeToString member)]
    exact Bool.false_ne_true

/-- The headers of a clock between 1970 and twelve digits of seconds are read
back. -/
theorem parseHeaders_sign
    {senderID nonce signature : Bytes}
    (sender : senderIDPattern.matchString senderID = true)
    (nonceLength : nonce.length = 16) (signatureLength : signature.length = 32)
    {sent : Int} (lower : 0 ≤ unixSeconds sent)
    (upper : unixSeconds sent ≤ 999999999999) :
    parseHeaders
        { senderID
          timestamp := formatInt (unixSeconds sent)
          nonce := Base64.encode nonce
          signature := Hex.encodeToString signature } =
      some (unixEpoch + unixSeconds sent * Time.second, nonce, signature) := by
  obtain ⟨seconds, known⟩ : ∃ seconds : Nat, unixSeconds sent = seconds :=
    ⟨(unixSeconds sent).toNat, by omega⟩
  have nonnegative : ¬ (seconds : Int) < 0 := by omega
  have timestamp : formatInt (unixSeconds sent) = formatUint seconds := by
    rw [known, formatInt, if_neg nonnegative, Int.natAbs_natCast]
  have length : 1 ≤ (formatUint seconds).length ∧
      (formatUint seconds).length ≤ 12 := by
    refine ⟨List.length_pos_iff.mpr (formatUint_ne_nil seconds), ?_⟩
    rw [length_formatUint_le_iff (by decide)]
    omega
  have digits : (formatUint seconds).all isDigit = true :=
    List.all_eq_true.mpr fun byte => isDigit_of_mem_formatUint
  obtain ⟨nonceText, unpadded, nonceDecoded⟩ := decode_encode_nonce nonceLength
  obtain ⟨signatureText, lowerCase, signatureDecoded⟩ :=
    decode_encode_signature signatureLength
  rw [timestamp, known]
  simp only [parseHeaders, sender, length, digits, nonceText, unpadded,
    nonceDecoded, nonceLength, signatureText, lowerCase, signatureDecoded,
    signatureLength, guard, if_true, Bool.not_false, and_self,
    Option.bind_eq_bind, Option.bind_some, pure, decimalValue_formatUint]

/-- Every valid batch is read back from its text; and if its sender is
registered for an endpoint that permits its records, the receiver accepts the
headers that are signed for it. -/
theorem wire_agreement
    (crypto : Crypto) (batch : WireBatch) (valid : batch.validate = none)
    (years : ∀ instant ∈ batch.timestamps, InYears instant) :
    ∃ body, batch.marshal = some body ∧ decodeEventBatch body = some batch ∧
      ∀ (registry : Registry) (binding : Binding),
        binding ∈ registry.bindings → binding.senderID = batch.senderID →
        Permits binding.endpointPath batch →
        ∀ nonce : Bytes, nonce.length = 16 →
        ∀ sent received : Int, 0 ≤ unixSeconds sent →
          unixSeconds sent ≤ 999999999999 →
          received - sent ≤ 59 * Time.second →
          sent - received ≤ 59 * Time.second →
          ∃ headers, sign crypto binding.endpointPath batch.senderID
                binding.key body nonce sent = some headers ∧
            ∃ result, registry.authenticate crypto binding.endpointPath headers
                body received = .ok result ∧ result.batch = batch := by
  obtain ⟨body, marshalled, small, decoded⟩ :=
    decodeEventBatch_marshal valid years
  refine ⟨body, marshalled, decoded, ?_⟩
  intro registry binding member sameSender permitted nonce nonceLength sent
    received lower upper ahead behind
  obtain ⟨registered, -, -⟩ := valid_of_registryError registry.accepted
  obtain ⟨sender, endpoint, key⟩ := registered binding member
  have found := registry.lookup_of_mem member
  rw [sameSender] at sender found
  have notNeither : ¬ (binding.endpointPath ≠ gatewayEventsPath ∧
      binding.endpointPath ≠ authEventsPath) := by
    rintro ⟨notGateway, notAuth⟩
    rcases endpoint with gateway | auth
    · exact notGateway gateway
    · exact notAuth auth
  have signable : ¬ (!senderIDPattern.matchString batch.senderID ∨
      binding.key.length < 32 ∨ nonce.length ≠ 16) := by
    simp [sender, nonceLength]
    omega
  have bodyFits : ¬ maxEventBatchBodyBytes < body.length := by omega
  refine ⟨_, by
    rw [sign, if_neg notNeither, if_neg signable, if_neg bodyFits], ?_⟩
  generalize macEq : crypto.hmacSHA256 binding.key _ = mac
  have macLength : mac.length = 32 := by
    rw [← macEq]
    exact crypto.length_hmacSHA256 _ _
  have parsed := parseHeaders_sign sender nonceLength macLength lower upper
  have near : ¬ (maxAuthenticationSkew <
        received - (unixEpoch + unixSeconds sent * Time.second) ∨
      received - (unixEpoch + unixSeconds sent * Time.second) <
        -maxAuthenticationSkew) := by
    unfold maxAuthenticationSkew unixSeconds
    unfold Time.second at *
    omega
  have allowed := recordsAllowed_of_permits valid endpoint permitted
  refine ⟨{ batch
            bodyDigest := digestText crypto body
            keyID := binding.keyID
            rawBodySize := body.length
            replayNonceDigest := crypto.sha256 nonce
            authenticatedAt := received }, ?_, rfl⟩
  simp only [Registry.authenticate, parsed, found, if_neg near,
    if_neg bodyFits, macEq, decoded, allowed, ne_eq, not_true_eq_false,
    if_false, Bool.not_true, Bool.false_eq_true]

def sampleSenderID : Bytes := ascii "gateway-1"

def sampleEpoch : Bytes := ascii "AAAAAAAAAAAAAAAAAAAAAA"

def sampleUUID (last : Char) : Bytes :=
  ascii "019b0000-0000-7000-8000-00000000000" ++ [charByte last]

def sampleKey (letter : Char) : Bytes :=
  digestLabel ++ List.replicate 64 (charByte letter)

/-- Noon of a day in the year 2026. -/
def sampleInstant : Int := 63902520000123000000

def sampleGatewayHTTP : GatewayHTTP :=
  { eventID := sampleUUID '1'
    requestID := sampleUUID '2'
    traceID := sampleUUID '3'
    idempotencyKey := sampleKey '1'
    startedAt := sampleInstant
    completedAt := sampleInstant + 4000000
    sourceIP := ascii "203.0.113.20"
    method := ascii "GET"
    routeLabel := ascii "admin"
    suspiciousPathID := .adminConsole
    host := ascii "app.example:8443"
    serviceLabel := ascii "app"
    statusCode := 404
    requestBytes := 0
    responseBytes := 312
    latencyMS := 4 }

def sampleHealth : SourceHealth :=
  { eventID := sampleUUID '4'
    idempotencyKey := sampleKey '4'
    occurredAt := sampleInstant
    sourceID := sampleSenderID
    cause := .queueOverflow
    state := .degraded
    affectedSenderEpoch := sampleEpoch
    sequenceStart := none
    sequenceEnd := none
    intervalStart := some sampleInstant
    intervalEnd := none
    droppedCount := 3
    detailCode := .unknownRange }

def sampleBatch : WireBatch :=
  { senderID := sampleSenderID
    senderEpoch := sampleEpoch
    batchID := sampleUUID '5'
    sequence := 7
    sentAt := sampleInstant
    records := [.sourceHealth sampleHealth, .gatewayHTTP sampleGatewayHTTP] }

def sampleBinding : Binding :=
  { senderID := sampleSenderID
    endpointPath := gatewayEventsPath
    keyID := ascii "key-1"
    key := List.replicate 32 7 }

def sampleRegistry : Registry where
  bindings := [sampleBinding]
  accepted := by decide +kernel

theorem sampleBatch_valid :
    sampleBatch.validate = none ∧
      ∀ instant ∈ sampleBatch.timestamps, InYears instant := by
  decide +kernel

theorem sampleBatch_permitted :
    Permits sampleBinding.endpointPath sampleBatch := by
  intro record member
  simp only [sampleBatch, List.mem_cons, List.not_mem_nil, or_false] at member
  rcases member with rfl | rfl <;> rfl

theorem sampleBatch_accepted :
    ∃ body, sampleBatch.marshal = some body ∧
      decodeEventBatch body = some sampleBatch ∧
      ∃ headers, sign Sha256.hashing sampleBinding.endpointPath
            sampleBatch.senderID sampleBinding.key body
            (List.replicate 16 1) sampleInstant = some headers ∧
        ∃ result, sampleRegistry.authenticate Sha256.hashing
            sampleBinding.endpointPath headers body
            (sampleInstant + 59 * Time.second) = .ok result ∧
          result.batch = sampleBatch := by
  obtain ⟨body, marshalled, decoded, accepts⟩ := wire_agreement Sha256.hashing
    sampleBatch sampleBatch_valid.1 sampleBatch_valid.2
  exact ⟨body, marshalled, decoded, accepts sampleRegistry sampleBinding
    (List.mem_singleton.mpr rfl) rfl sampleBatch_permitted
    (List.replicate 16 1) rfl sampleInstant (sampleInstant + 59 * Time.second)
    (by decide +kernel) (by decide +kernel) (by decide +kernel)
    (by decide +kernel)⟩

/-- Before 1970 the signed timestamp has a sign, which the receiver refuses
although both clocks agree. -/
theorem negative_clock_refused :
    sampleBatch.validate = none ∧
      (∀ instant ∈ sampleBatch.timestamps, InYears instant) ∧
      sampleBinding ∈ sampleRegistry.bindings ∧
      sampleBinding.senderID = sampleBatch.senderID ∧
      Permits sampleBinding.endpointPath sampleBatch ∧
      ∃ body, sampleBatch.marshal = some body ∧
        ∃ headers, sign Sha256.hashing sampleBinding.endpointPath
              sampleBatch.senderID sampleBinding.key body
              (List.replicate 16 1) (unixEpoch - Time.second) = some headers ∧
          sampleRegistry.authenticate Sha256.hashing
              sampleBinding.endpointPath headers body
              (unixEpoch - Time.second) = .error .invalidHeader := by
  obtain ⟨body, marshalled, small, -⟩ := decodeEventBatch_marshal
    sampleBatch_valid.1 sampleBatch_valid.2
  refine ⟨sampleBatch_valid.1, sampleBatch_valid.2,
    List.mem_singleton.mpr rfl, rfl, sampleBatch_permitted, body, marshalled,
    _, by
      rw [sign, if_neg (by decide +kernel), if_neg (by decide +kernel),
        if_neg (by omega)], ?_⟩
  have signed : ¬ (formatInt (unixSeconds (unixEpoch - Time.second))).all
      isDigit = true := by decide +kernel
  simp only [Registry.authenticate, parseHeaders, signed, and_false, guard,
    if_false, Bool.false_eq_true]
  rfl

end SentinelFlow.Ingestion
