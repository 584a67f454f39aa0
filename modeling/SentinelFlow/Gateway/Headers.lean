import SentinelFlow.GoLib.LowerCase

/-!
# Request headers for the origin

Hop-by-hop headers, the headers that `Connection` nominates and the identity
headers of the client are stripped, by the gateway, by the reverse proxy and
once more before the gateway sets its own identity headers.  What is left does
not depend on what was stripped.
-/

namespace SentinelFlow.Gateway

open GoLib

/-- The values of each key; keys are in canonical form. -/
abbrev Header : Type :=
  Bytes → Option (List Bytes)

def isTokenByte (byte : UInt8) : Bool :=
  isDigit byte || (65 ≤ byte && byte ≤ 90) || (97 ≤ byte && byte ≤ 122) ||
    (ascii "!#$%&'*+.^_`|~-").contains byte

def canonicalLetter (upper : Bool) (byte : UInt8) : UInt8 :=
  if upper ∧ 97 ≤ byte ∧ byte ≤ 122 then byte - 32
  else if ¬ upper ∧ 65 ≤ byte ∧ byte ≤ 90 then byte + 32
  else byte

/-- The letters of a key, where `upper` says that a word begins. -/
def canonicalLetters (upper : Bool) : Bytes → Bytes
  | [] => []
  | byte :: rest =>
      canonicalLetter upper byte ::
        canonicalLetters (byte == charByte '-') rest

/-- `textproto.CanonicalMIMEHeaderKey`. -/
def canonicalMIMEHeaderKey (name : Bytes) : Bytes :=
  if name.all isTokenByte then canonicalLetters true name else name

namespace Header

def values (header : Header) (name : Bytes) : List Bytes :=
  (header (canonicalMIMEHeaderKey name)).getD []

def get (header : Header) (name : Bytes) : Bytes :=
  (header.values name).headD []

def del (header : Header) (name : Bytes) : Header :=
  Function.update header (canonicalMIMEHeaderKey name) none

def set (header : Header) (name value : Bytes) : Header :=
  Function.update header (canonicalMIMEHeaderKey name) (some [value])

/-- Deletes one name after the other. -/
def delAll (header : Header) (names : List Bytes) : Header :=
  names.foldl del header

end Header

/-- The code points that `unicode.IsSpace` accepts, in UTF-8. -/
def spaces : List Bytes :=
  [9, 10, 11, 12, 13, 32, 0x85, 0xA0, 0x1680, 0x2000, 0x2001, 0x2002, 0x2003,
    0x2004, 0x2005, 0x2006, 0x2007, 0x2008, 0x2009, 0x200A, 0x2028, 0x2029,
    0x202F, 0x205F, 0x3000].map Utf8.encodeRune

def trimLeft (cutset : List Bytes) : Nat → Bytes → Bytes
  | 0, text => text
  | fuel + 1, text =>
      match cutset.find? (·.isPrefixOf text) with
      | some space => trimLeft cutset fuel (text.drop space.length)
      | none => text

/-- Spaces are trimmed at both ends; there are at most as many as bytes. -/
def trim (cutset : List Bytes) (text : Bytes) : Bytes :=
  let left := trimLeft cutset text.length text
  (trimLeft (cutset.map List.reverse) left.length left.reverse).reverse

/-- `strings.TrimSpace`. -/
def trimSpace : Bytes → Bytes :=
  trim spaces

/-- `textproto.TrimString`. -/
def trimString : Bytes → Bytes :=
  trim [[32], [9], [10], [13]]

/-- `strings.EqualFold` with an ASCII text in lower case. -/
def equalFold (text literal : Bytes) : Bool :=
  (Utf8.runes text).map (fun rune =>
    if 65 ≤ rune ∧ rune ≤ 90 then rune + 32
    else if rune = 0x212A then 107
    else if rune = 0x17F then 115
    else rune) == literal.map UInt8.toNat

def connectionTokens (header : Header) : Option (List Bytes) :=
  ((header.values (ascii "Connection")).flatMap
    (·.splitOn (charByte ','))).mapM fun value =>
      let token := trimSpace value
      if token = [] ∨ ¬ token.all isTokenByte then none else some token

def stripConnectionHeaders (header : Header) : Header :=
  header.delAll (((connectionTokens header).getD []).map
    canonicalMIMEHeaderKey)

def hopNames : List Bytes :=
  [ascii "Connection", ascii "Proxy-Connection", ascii "Keep-Alive",
    ascii "Proxy-Authenticate", ascii "Proxy-Authorization", ascii "Te",
    ascii "Trailer", ascii "Transfer-Encoding", ascii "Upgrade"]

def stripHopHeaders (header : Header) : Header :=
  header.delAll hopNames

def identityNames : List Bytes :=
  [ascii "Forwarded", ascii "X-Forwarded-For", ascii "X-Forwarded-Host",
    ascii "X-Forwarded-Proto", ascii "X-Real-IP",
    ascii "X-SentinelFlow-Request-ID", ascii "X-SentinelFlow-Trace-ID",
    ascii "X-Request-ID", ascii "X-Trace-ID", ascii "Traceparent",
    ascii "Tracestate"]

def stripInboundHeaders (header : Header) : Header :=
  (stripHopHeaders (stripConnectionHeaders header)).delAll identityNames

def sensitiveTokens : List Bytes :=
  ["host", "connection", "content-length", "transfer-encoding", "trailer",
    "upgrade", "forwarded", "x-forwarded-for", "x-forwarded-host",
    "x-forwarded-proto", "x-real-ip", "x-sentinelflow-request-id",
    "x-sentinelflow-trace-id", "x-request-id", "x-trace-id", "traceparent",
    "tracestate", "authorization", "proxy-authorization"].map ascii

/-- Tokens are ASCII, so that `strings.ToLower` lowers ASCII letters. -/
def securitySensitiveConnectionToken (token : Bytes) : Bool :=
  sensitiveTokens.contains (token.map asciiLower)

structure Request where
  trailers : Nat
  transferEncoding : List Bytes
  contentLength : Int
  header : Header

inductive RejectionReason where
  | trailer
  | transferEncoding
  | expectation
  | connectionHeader
  | upgrade
deriving DecidableEq, Repr

/-- The status and the reason of a rejection. -/
def validateRequestHeaders (request : Request) :
    Option (Nat × RejectionReason) :=
  let expectations := request.header.values (ascii "Expect")
  if request.trailers ≠ 0 ∨ request.header.get (ascii "Trailer") ≠ [] then
    some (400, .trailer)
  else if request.transferEncoding.length > 1 ∨
      (request.transferEncoding.length = 1 ∧
        ¬ equalFold (request.transferEncoding.headD []) (ascii "chunked")) ∨
      (request.transferEncoding ≠ [] ∧ request.contentLength ≥ 0) then
    some (400, .transferEncoding)
  else if expectations.length > 1 ∨ (expectations.length = 1 ∧
      ¬ equalFold (trimSpace (expectations.headD []))
        (ascii "100-continue")) then
    some (417, .expectation)
  else match connectionTokens request.header with
  | none => some (400, .connectionHeader)
  | some tokens =>
      if request.header.get (ascii "Upgrade") ≠ [] then some (400, .upgrade)
      else tokens.findSome? fun token =>
        if equalFold token (ascii "upgrade") then some (400, .upgrade)
        else if securitySensitiveConnectionToken token then
          some (400, .connectionHeader)
        else none

structure RequestMetadata where
  peer : Bytes
  host : Bytes
  scheme : Bytes
  requestID : Bytes
  traceID : Bytes

/-- `httputil.ReverseProxy` removes the hop-by-hop headers before it calls
`Rewrite`. -/
def removeHopByHopHeaders (header : Header) : Header :=
  let nominated := ((header.values (ascii "Connection")).flatMap
    (·.splitOn (charByte ','))).map trimString
  (header.delAll (nominated.filter (· ≠ []))).delAll hopNames

/-- The identity headers of the gateway. -/
def RequestMetadata.identity (metadata : RequestMetadata) :
    List (Bytes × Bytes) :=
  [(ascii "Forwarded", ascii "for=" ++ metadata.peer ++ ascii ";host=\"" ++
      metadata.host ++ ascii "\";proto=" ++ metadata.scheme),
    (ascii "X-Forwarded-For", metadata.peer),
    (ascii "X-Forwarded-Host", metadata.host),
    (ascii "X-Forwarded-Proto", metadata.scheme),
    (ascii "X-SentinelFlow-Request-ID", metadata.requestID),
    (ascii "X-SentinelFlow-Trace-ID", metadata.traceID)]

def rewrite (metadata : RequestMetadata) (header : Header) : Header :=
  metadata.identity.foldl (fun header entry => header.set entry.1 entry.2)
    (stripInboundHeaders header)

/-- The header of the request that the proxy makes, if the request is not
rejected for its headers. -/
def forward (metadata : RequestMetadata) (request : Request) : Option Header :=
  match validateRequestHeaders request with
  | some _ => none
  | none => some (rewrite metadata
      (removeHopByHopHeaders (stripInboundHeaders request.header)))

/-! ## Keys -/

private theorem canonicalLetter_facts : ∀ (upper : Bool) (byte : UInt8),
    canonicalLetter upper (canonicalLetter upper byte) =
        canonicalLetter upper byte ∧
      (canonicalLetter upper byte == charByte '-') = (byte == charByte '-') ∧
      asciiLower (canonicalLetter upper byte) = asciiLower byte ∧
      isTokenByte (canonicalLetter upper byte) = isTokenByte byte := by
  decide +kernel

private theorem canonicalLetters_facts (upper : Bool) (name : Bytes) :
    canonicalLetters upper (canonicalLetters upper name) =
        canonicalLetters upper name ∧
      (canonicalLetters upper name).map asciiLower = name.map asciiLower ∧
      (canonicalLetters upper name).all isTokenByte =
        name.all isTokenByte := by
  induction name generalizing upper with
  | nil => exact ⟨rfl, rfl, rfl⟩
  | cons byte rest induction =>
      obtain ⟨letter, dash, lower, token⟩ := canonicalLetter_facts upper byte
      obtain ⟨letters, lowers, tokens⟩ := induction (byte == charByte '-')
      simp only [canonicalLetters, dash, letter, letters, List.map_cons, lower,
        lowers, List.all_cons, token, tokens, and_self]

theorem canonicalMIMEHeaderKey_idempotent (name : Bytes) :
    canonicalMIMEHeaderKey (canonicalMIMEHeaderKey name) =
      canonicalMIMEHeaderKey name := by
  obtain ⟨letters, -, tokens⟩ := canonicalLetters_facts true name
  unfold canonicalMIMEHeaderKey
  split
  next valid => rw [tokens, if_pos valid, letters]
  next => rfl

theorem lower_canonicalMIMEHeaderKey (name : Bytes) :
    (canonicalMIMEHeaderKey name).map asciiLower = name.map asciiLower := by
  unfold canonicalMIMEHeaderKey
  split
  · exact (canonicalLetters_facts true name).2.1
  · rfl

/-! ## What is stripped -/

theorem Header.delAll_eq (header : Header) (names : List Bytes) (key : Bytes) :
    header.delAll names key =
      if key ∈ names.map canonicalMIMEHeaderKey then none else header key := by
  induction names generalizing header with
  | nil => rfl
  | cons name names induction =>
      rw [Header.delAll, List.foldl_cons, ← Header.delAll, induction,
        List.map_cons]
      by_cases same : key = canonicalMIMEHeaderKey name
      · simp [same, Header.del]
      · simp [same, Header.del]

/-- The keys that `Connection` nominates. -/
def nominatedKeys (header : Header) : List Bytes :=
  ((connectionTokens header).getD []).map canonicalMIMEHeaderKey

def hopKeys : List Bytes :=
  hopNames.map canonicalMIMEHeaderKey

def identityKeys : List Bytes :=
  identityNames.map canonicalMIMEHeaderKey

/-- The keys of the headers that the client cannot send to the origin. -/
def strippedKeys (header : Header) : List Bytes :=
  identityKeys ++ hopKeys ++ nominatedKeys header

theorem stripInboundHeaders_eq (header : Header) (key : Bytes) :
    stripInboundHeaders header key =
      if key ∈ strippedKeys header then none else header key := by
  have again : (nominatedKeys header).map canonicalMIMEHeaderKey =
      nominatedKeys header := by
    rw [nominatedKeys, List.map_map]
    exact List.map_congr_left fun token _ =>
      canonicalMIMEHeaderKey_idempotent token
  rw [stripInboundHeaders, Header.delAll_eq, stripHopHeaders,
    Header.delAll_eq, stripConnectionHeaders, Header.delAll_eq,
    ← nominatedKeys, again, strippedKeys, ← identityKeys, ← hopKeys]
  simp only [List.mem_append]
  split_ifs <;> simp_all

private theorem connection_key :
    canonicalMIMEHeaderKey (ascii "Connection") = ascii "Connection" ∧
      ascii "Connection" ∈ hopKeys := by
  decide +kernel

/-- Without a `Connection` header nothing is nominated. -/
private theorem unconnected
    {header : Header} (absent : header (ascii "Connection") = none) :
    header.values (ascii "Connection") = [] ∧
      connectionTokens header = some [] := by
  have empty : header.values (ascii "Connection") = [] := by
    rw [Header.values, connection_key.1, absent]
    rfl
  exact ⟨empty, by rw [connectionTokens, empty]; rfl⟩

/-- The later passes find nothing that the first one has left. -/
theorem stripped_again (header : Header) :
    stripInboundHeaders
        (removeHopByHopHeaders (stripInboundHeaders header)) =
      stripInboundHeaders header := by
  have first := stripInboundHeaders_eq header
  have hop : ∀ key ∈ hopKeys, stripInboundHeaders header key = none := by
    intro key member
    rw [first, if_pos]
    exact List.mem_append_left _ (List.mem_append_right _ member)
  have removed : removeHopByHopHeaders (stripInboundHeaders header) =
      stripInboundHeaders header := by
    obtain ⟨empty, -⟩ := unconnected (hop _ connection_key.2)
    funext key
    simp only [removeHopByHopHeaders, empty, List.flatMap_nil, List.map_nil,
      List.filter_nil, Header.delAll_eq, List.not_mem_nil, if_false]
    split
    next member => exact (hop key member).symm
    next => rfl
  rw [removed]
  funext key
  rw [stripInboundHeaders_eq (stripInboundHeaders header)]
  split
  next member =>
    have nominated : nominatedKeys (stripInboundHeaders header) = [] := by
      rw [nominatedKeys, (unconnected (hop _ connection_key.2)).2]
      rfl
    rw [strippedKeys, nominated, List.append_nil] at member
    rw [first]
    exact (if_pos (List.mem_append_left _ member)).symm
  next => rfl

/-! ## What the origin receives -/

private theorem setAll_eq
    (entries : List (Bytes × Bytes)) (header : Header) (key : Bytes)
    (distinct : (entries.map fun entry =>
      canonicalMIMEHeaderKey entry.1).Nodup) :
    (∀ entry ∈ entries, canonicalMIMEHeaderKey entry.1 = key →
      entries.foldl (fun header entry => header.set entry.1 entry.2) header
        key = some [entry.2]) ∧
    (key ∉ entries.map (fun entry => canonicalMIMEHeaderKey entry.1) →
      entries.foldl (fun header entry => header.set entry.1 entry.2) header
        key = header key) := by
  induction entries generalizing header with
  | nil => exact ⟨nofun, fun _ => rfl⟩
  | cons entry entries induction =>
      obtain ⟨fresh, distinct⟩ := List.nodup_cons.mp distinct
      obtain ⟨later, untouched⟩ :=
        induction (header.set entry.1 entry.2) distinct
      rw [List.foldl_cons]
      constructor
      · intro other member named
        rcases List.mem_cons.mp member with rfl | member
        · subst named
          rw [untouched fresh]
          exact Function.update_self ..
        · exact later other member named
      · intro absent
        rw [List.map_cons, List.mem_cons, not_or] at absent
        rw [untouched absent.2]
        exact Function.update_of_ne absent.1 ..

/-- The keys of the gateway's own headers. -/
def gatewayKeys : List Bytes :=
  [ascii "Forwarded", ascii "X-Forwarded-For", ascii "X-Forwarded-Host",
    ascii "X-Forwarded-Proto", ascii "X-Sentinelflow-Request-Id",
    ascii "X-Sentinelflow-Trace-Id"]

private theorem identity_keys (metadata : RequestMetadata) :
    (metadata.identity.map fun entry => canonicalMIMEHeaderKey entry.1) =
      gatewayKeys := by
  have keys : [ascii "Forwarded", ascii "X-Forwarded-For",
      ascii "X-Forwarded-Host", ascii "X-Forwarded-Proto",
      ascii "X-SentinelFlow-Request-ID",
      ascii "X-SentinelFlow-Trace-ID"].map canonicalMIMEHeaderKey =
        gatewayKeys := by
    decide +kernel
  exact keys

theorem forward_eq_some
    {metadata : RequestMetadata} {request : Request} {output : Header}
    (forwarded : forward metadata request = some output) :
    validateRequestHeaders request = none ∧
      (∀ entry ∈ metadata.identity,
        output (canonicalMIMEHeaderKey entry.1) = some [entry.2]) ∧
      ∀ key ∉ gatewayKeys, output key =
        if key ∈ strippedKeys request.header then none
        else request.header key := by
  unfold forward at forwarded
  split at forwarded
  · cases forwarded
  next valid =>
    cases forwarded
    have distinct : gatewayKeys.Nodup := by
      decide +kernel
    rw [← identity_keys metadata] at distinct
    refine ⟨valid, ?_, ?_⟩
    · intro entry member
      exact (setAll_eq _ _ _ distinct).1 entry member rfl
    · intro key foreign
      rw [← identity_keys metadata] at foreign
      rw [rewrite, (setAll_eq _ _ key distinct).2 foreign, stripped_again,
        stripInboundHeaders_eq]

/-- A token of an accepted request is not one of the gateway's own headers. -/
theorem nominated_foreign
    {request : Request} (valid : validateRequestHeaders request = none)
    {key : Bytes} (nominated : key ∈ nominatedKeys request.header) :
    key ∉ gatewayKeys := by
  obtain ⟨token, member, rfl⟩ := List.mem_map.mp nominated
  have insensitive : securitySensitiveConnectionToken token = false := by
    unfold validateRequestHeaders at valid
    cases found : connectionTokens request.header with
    | none =>
        rw [found] at member
        cases member
    | some =>
        rw [found] at member
        simp only [found] at valid
        split at valid
        · cases valid
        split at valid
        · cases valid
        split at valid
        · cases valid
        split at valid
        · cases valid
        have passed := List.findSome?_eq_none_iff.mp valid token member
        split at passed
        · cases passed
        split at passed
        · cases passed
        next insensitive => exact Bool.eq_false_iff.mpr insensitive
  have sensitive : ∀ key ∈ gatewayKeys,
      key.map asciiLower ∈ sensitiveTokens := by
    decide +kernel
  intro own
  have listed := sensitive _ own
  rw [lower_canonicalMIMEHeaderKey] at listed
  rw [securitySensitiveConnectionToken, ← Bool.not_eq_true,
    List.contains_iff_mem] at insensitive
  exact insensitive listed

/-- The headers for the origin do not depend on the stripped headers of the
client, the identity headers have the one value that the gateway sets, and no
hop-by-hop or nominated header is left. -/
theorem origin_headers (metadata : RequestMetadata) :
    (∀ first second firstOutput secondOutput,
      forward metadata first = some firstOutput →
      forward metadata second = some secondOutput →
      first.header (ascii "Connection") =
        second.header (ascii "Connection") →
      (∀ key ∉ strippedKeys first.header,
        first.header key = second.header key) →
      firstOutput = secondOutput) ∧
    ∀ request output, forward metadata request = some output →
      (∀ entry ∈ metadata.identity,
        output (canonicalMIMEHeaderKey entry.1) = some [entry.2]) ∧
      ∀ key ∈ hopKeys ++ nominatedKeys request.header, output key = none := by
  constructor
  · intro first second firstOutput secondOutput left right connection agree
    obtain ⟨-, firstSet, firstKept⟩ := forward_eq_some left
    obtain ⟨-, secondSet, secondKept⟩ := forward_eq_some right
    have tokens : connectionTokens first.header =
        connectionTokens second.header := by
      simp only [connectionTokens, Header.values, connection_key.1, connection]
    have stripped : strippedKeys first.header =
        strippedKeys second.header := by
      rw [strippedKeys, strippedKeys, nominatedKeys, nominatedKeys, tokens]
    funext key
    by_cases own : key ∈ gatewayKeys
    · rw [← identity_keys metadata] at own
      obtain ⟨entry, member, rfl⟩ := List.mem_map.mp own
      rw [firstSet entry member, secondSet entry member]
    · rw [firstKept key own, secondKept key own, ← stripped]
      split
      · rfl
      next outside => exact agree key outside
  · intro request output forwarded
    obtain ⟨valid, set, kept⟩ := forward_eq_some forwarded
    have hop : ∀ key ∈ hopKeys, key ∉ gatewayKeys := by
      decide +kernel
    refine ⟨set, ?_⟩
    intro key member
    rcases List.mem_append.mp member with ofHop | nominated
    · rw [kept key (hop key ofHop), if_pos]
      exact List.mem_append_left _ (List.mem_append_right _ ofHop)
    · rw [kept key (nominated_foreign valid nominated), if_pos]
      exact List.mem_append_right _ nominated

end SentinelFlow.Gateway
