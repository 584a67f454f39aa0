import SentinelFlow.ExportBundle.Verified

/-!
# Bundles as evidence

A verified bundle is determined by the digest of its manifest, as long as no two
of the hashed documents collide: the manifest names the set of the incident
records and the end of the audit chain, and each document is read back from the
text that was hashed.  For the same reason a file that was encoded decodes to
the bundle it was made from.
-/

namespace SentinelFlow.ExportBundle

open GoLib

/-! ## Plain texts -/

/-- No letter of these texts needs an escape in JSON. -/
private theorem export_letters :
    (∀ byte, uuidPattern.letter byte = true → Json.plainByte byte = true) ∧
    (∀ byte, digestPattern.letter byte = true → Json.plainByte byte = true) ∧
    (∀ byte, labelPattern.letter byte = true → Json.plainByte byte = true) ∧
    (∀ byte, asciiIDPattern.letter byte = true → Json.plainByte byte = true) ∧
    (∀ byte, eventLabelPattern.letter byte = true →
      Json.plainByte byte = true) ∧
    (∀ byte, scorePattern.letter byte = true → Json.plainByte byte = true) ∧
    (∀ byte, pseudonymPattern.letter byte = true →
      Json.plainByte byte = true) ∧
    ∀ byte : UInt8, isDigit byte = true ∨ byte ∈ Time.layout.map Prod.snd →
      Json.plainByte byte = true := by
  decide +kernel

private theorem export_words :
    (∀ text ∈ allowedIncidentKinds, Json.Plain text) ∧
    (∀ text ∈ allowedIncidentStates, Json.Plain text) ∧
    (∀ text ∈ allowedAnalysisFailures, Json.Plain text) ∧
    (∀ text ∈ allowedActorTypes, Json.Plain text) ∧
    (∀ text ∈ allowedOutcomes, Json.Plain text) ∧
    ∀ text ∈ [incidentSchemaVersion, auditSchemaVersion, bundleSchemaVersion,
      manifestSchemaVersion, pseudonymAlgorithm, genesisDigest, []],
      Json.Plain text := by
  decide +kernel

theorem IsTime.plain {text : Bytes} (time : IsTime text) : Json.Plain text := by
  obtain ⟨instant, rfl⟩ := time
  have letters := export_letters.2.2.2.2.2.2.2
  exact fun byte member => letters byte (Time.mem_formatRFC3339Nano member)

section Plain

variable {text : Bytes}

theorem plain_uuid (matched : uuidPattern.matchString text = true) :
    Json.Plain text :=
  Capability.plain_of_matchString export_letters.1 matched

theorem plain_digest (matched : digestPattern.matchString text = true) :
    Json.Plain text :=
  Capability.plain_of_matchString export_letters.2.1 matched

theorem plain_pseudonym (matched : pseudonymPattern.matchString text = true) :
    Json.Plain text :=
  Capability.plain_of_matchString export_letters.2.2.2.2.2.2.1 matched

theorem plain_nil : Json.Plain [] :=
  export_words.2.2.2.2.2 [] (by decide)

end Plain

/-! ## Reading records back -/

variable {digest : Bytes} {crypto : Crypto}

theorem incident_fits
    {record : IncidentRecord}
    (verified : record.Verified crypto)
    (plain : Json.Plain digest) :
    ∀ field ∈ incidentFields,
      field.Fits { record with recordDigest := digest } := by
  obtain ⟨-, -, label, -, event, score, -, -⟩ := export_letters
  obtain ⟨kinds, states, failures, -, -, constants⟩ := export_words
  simp only [incidentFields, List.forall_mem_cons]
  refine ⟨?_, plain_uuid verified.incidentID, kinds _ verified.kind,
    states _ verified.state, plain_pseudonym verified.pseudonym,
    Capability.plain_of_matchString event verified.label,
    verified.firstSeen.plain, verified.lastSeen.plain,
    fun text held => (verified.closedAt text held).plain,
    fun text held => (verified.reopenUntil text held).plain,
    Capability.plain_of_matchString score verified.score, ⟨?_, ?_⟩,
    fun text held => failures _ (verified.reason text held),
    verified.createdAt.plain, verified.updatedAt.plain, plain,
    List.forall_mem_nil _⟩
  · show Json.Plain record.schemaVersion
    rw [verified.schema]
    exact constants _ (by decide)
  · exact le_trans (by decide) verified.version
  · exact record.version.toInt_lt

theorem decode_incident
    {record : IncidentRecord}
    (verified : record.Verified crypto)
    (plain : Json.Plain digest) (old : IncidentRecord) :
    Json.decode incidentFields true old (Json.toObject incidentFields
      { record with recordDigest := digest }) =
        some { record with recordDigest := digest } := by
  apply Json.decode_toObject (by decide +kernel) _ true
    (incident_fits verified plain)
  simp only [incidentFields, List.foldl_cons, List.foldl_nil, Json.Field.text,
    Json.Field.textPointer, Json.Field.int, Int32.ofInt_toInt]

theorem audit_fits
    {record : AuditRecord}
    (verified : record.Verified crypto)
    (previous : Json.Plain record.previousRecordDigest)
    (plain : Json.Plain digest) :
    ∀ field ∈ auditFields,
      field.Fits { record with recordDigest := digest } := by
  obtain ⟨-, -, -, identifier, -, -, -, -⟩ := export_letters
  obtain ⟨-, -, -, actors, outcomes, constants⟩ := export_words
  obtain ⟨least, most⟩ := verified.sequence
  have ids := verified.ids
  have digests := verified.digests
  simp only [List.forall_mem_cons] at ids digests
  simp only [auditFields, List.forall_mem_cons]
  refine ⟨?_, ⟨le_trans (by decide) least, ?_⟩, plain_uuid verified.eventID,
    actors _ verified.actorType, plain_pseudonym verified.pseudonym,
    Capability.plain_of_matchString identifier verified.action,
    Capability.plain_of_matchString identifier verified.objectType,
    fun text held => plain_uuid (ids.1 text held),
    fun text held => plain_uuid (ids.2.1 text held),
    fun text held => plain_uuid (ids.2.2.1 text held), ?_,
    fun text held => plain_uuid (ids.2.2.2.1 text held),
    fun text held => plain_pseudonym (verified.trace text held),
    fun text held => plain_digest (digests.1 text held),
    fun text held => plain_digest (digests.2.1 text held),
    outcomes _ verified.outcome, verified.occurredAt.plain,
    verified.recordedAt.plain, previous, plain, List.forall_mem_nil _⟩
  · show Json.Plain record.schemaVersion
    rw [verified.schema]
    exact constants _ (by decide)
  · exact lt_of_le_of_lt most (by decide)
  · intro amount held
    obtain ⟨version, found, rfl⟩ := Option.map_eq_some_iff.mp held
    exact ⟨le_trans (by decide) (verified.policyVersion version found),
      version.toInt_lt⟩

theorem decode_audit
    {record : AuditRecord}
    (verified : record.Verified crypto)
    (previous : Json.Plain record.previousRecordDigest)
    (plain : Json.Plain digest) (old : AuditRecord) :
    Json.decode auditFields true old (Json.toObject auditFields
      { record with recordDigest := digest }) =
        some { record with recordDigest := digest } := by
  apply Json.decode_toObject (by decide +kernel) _ true
    (audit_fits verified previous plain)
  simp only [auditFields, List.foldl_cons, List.foldl_nil, Json.Field.text,
    Json.Field.textPointer, Json.Field.int, Json.Field.intPointer,
    Int64.ofInt_toInt, Option.map_map, Function.comp_def, Int32.ofInt_toInt,
    Option.map_id']

/-! ## Reading the manifest back -/

/-- What is written for a manifest is plain. -/
structure Manifest.Fits (manifest : Manifest) : Prop where
  texts : ∀ text ∈ [manifest.schemaVersion, manifest.exportID,
    manifest.createdAt, manifest.databaseSnapshotAt, manifest.window.since,
    manifest.window.until_, manifest.pseudonymization.algorithm,
    manifest.pseudonymization.keyID, manifest.incidentRecordsDigest,
    manifest.auditChainGenesis, manifest.auditChainRoot,
    manifest.manifestDigest], Json.Plain text
  filter : ∀ text, manifest.filters.incidentID = some text → Json.Plain text
  incidentCount : 0 ≤ manifest.incidentCount ∧
    manifest.incidentCount < 2 ^ (64 - 1)
  auditEventCount : 0 ≤ manifest.auditEventCount ∧
    manifest.auditEventCount < 2 ^ (64 - 1)

theorem Bundle.Verified.fits
    {bundle : Bundle} (verified : bundle.Verified crypto)
    (plain : Json.Plain digest) :
    Manifest.Fits { bundle.manifest with manifestDigest := digest } := by
  obtain ⟨-, -, label, -, -, -, -, -⟩ := export_letters
  have constants := export_words.2.2.2.2.2
  refine ⟨?_, fun text held => plain_uuid (verified.filter text held),
    ⟨?_, ?_⟩, ?_, ?_⟩
  · simp only [List.forall_mem_cons]
    refine ⟨?_, plain_digest verified.exportID, verified.createdAt.plain,
      verified.snapshotAt.plain, verified.since.plain, verified.until_.plain,
      ?_, Capability.plain_of_matchString label verified.keyID,
      plain_digest verified.setNamed, ?_, plain_digest verified.rootNamed,
      plain, List.forall_mem_nil _⟩
    · rw [verified.manifestSchema]
      exact constants _ (by decide)
    · rw [verified.algorithm]
      exact constants _ (by decide)
    · rw [verified.genesis]
      exact constants _ (by decide)
  · rw [verified.incidentCount]
    exact Int.natCast_nonneg _
  · exact lt_of_le_of_lt verified.incidentLimit (by decide)
  · rw [verified.auditCount]
    exact Int.natCast_nonneg _
  · exact lt_of_le_of_lt verified.auditLimit (by decide)

section Manifest

variable {manifest : Manifest} (fits : manifest.Fits)
include fits

theorem window_fits : ∀ field ∈ windowFields, field.Fits manifest.window := by
  have texts := fits.texts
  simp only [List.forall_mem_cons] at texts
  simp only [windowFields, List.forall_mem_cons]
  exact ⟨texts.2.2.2.2.1, texts.2.2.2.2.2.1, List.forall_mem_nil _⟩

theorem filters_fit : ∀ field ∈ filterFields, field.Fits manifest.filters := by
  simp only [filterFields, List.forall_mem_cons]
  exact ⟨fits.filter, List.forall_mem_nil _⟩

theorem pseudonymization_fits :
    ∀ field ∈ pseudonymizationFields,
      field.Fits manifest.pseudonymization := by
  have texts := fits.texts
  simp only [List.forall_mem_cons] at texts
  simp only [pseudonymizationFields, List.forall_mem_cons]
  exact ⟨texts.2.2.2.2.2.2.1, texts.2.2.2.2.2.2.2.1, List.forall_mem_nil _⟩

theorem decode_manifest (old : Manifest) :
    Json.decodeSlots manifestSlots old
      (Json.slotsObject manifestSlots manifest) = some manifest := by
  have window : ∀ old, Json.decode windowFields true old
      (Json.toObject windowFields manifest.window) = some manifest.window :=
    fun old => Json.decode_toObject (by decide +kernel) rfl true
      (window_fits fits)
  have filters : ∀ old, Json.decode filterFields true old
      (Json.toObject filterFields manifest.filters) = some manifest.filters :=
    fun old => Json.decode_toObject (by decide +kernel) rfl true
      (filters_fit fits)
  have pseudonymization : ∀ old, Json.decode pseudonymizationFields true old
      (Json.toObject pseudonymizationFields manifest.pseudonymization) =
        some manifest.pseudonymization :=
    fun old => Json.decode_toObject (by decide +kernel) rfl true
      (pseudonymization_fits fits)
  obtain ⟨incidents, incidentCount⟩ :=
    Int.eq_ofNat_of_zero_le fits.incidentCount.1
  obtain ⟨events, auditEventCount⟩ :=
    Int.eq_ofNat_of_zero_le fits.auditEventCount.1
  have fewIncidents : incidents < 2 ^ (64 - 1) := by
    have bounded := fits.incidentCount.2
    rw [incidentCount] at bounded
    exact_mod_cast bounded
  have fewEvents : events < 2 ^ (64 - 1) := by
    have bounded := fits.auditEventCount.2
    rw [auditEventCount] at bounded
    exact_mod_cast bounded
  rw [Json.decodeSlots_slotsObject (by decide +kernel)]
  simp only [manifestSlots, List.foldlM_cons, List.foldlM_nil, Json.Field.slot,
    Json.Field.text, Json.Field.int, Json.Slot.struct, window, filters,
    pseudonymization, incidentCount, auditEventCount, Json.intLiteral_natCast,
    Json.parseInt_formatUint fewIncidents, Json.parseInt_formatUint fewEvents,
    Option.map_some, Option.bind_eq_bind, Option.bind_some, Option.pure_def]
  rw [← incidentCount, ← auditEventCount]

theorem canonical_manifest (depth : Nat) :
    Json.Canonical (depth + 2) (Json.slotsObject manifestSlots manifest) := by
  have texts := fits.texts
  simp only [List.forall_mem_cons] at texts
  obtain ⟨schema, exportID, createdAt, snapshotAt, -, -, -, -, set, genesis,
    root, digest, -⟩ := texts
  apply Json.canonical_slotsObject (by decide +kernel)
  simp only [manifestSlots, List.forall_mem_cons]
  exact ⟨.string _ schema, .string _ exportID, .string _ createdAt,
    .string _ snapshotAt, Json.canonical_toObject (window_fits fits) depth,
    Json.canonical_toObject (filters_fit fits) depth,
    Json.canonical_toObject (pseudonymization_fits fits) depth,
    Json.canonical_intLiteral fits.incidentCount.1 _,
    Json.canonical_intLiteral fits.auditEventCount.1 _, .string _ set,
    .string _ genesis, .string _ root, .string _ digest,
    List.forall_mem_nil _⟩

end Manifest

/-! ## Reading a file back -/

theorem Chained.verified
    {crypto : Crypto} {first root : Bytes} {records : List AuditRecord}
    (chained : Chained crypto first records root) (plain : Json.Plain first) :
    ∀ record ∈ records, record.Verified crypto ∧
      Json.Plain record.previousRecordDigest := by
  induction chained with
  | last => exact List.forall_mem_nil _
  | link verified rest ih =>
      exact List.forall_mem_cons.mpr
        ⟨⟨verified, plain⟩, ih (plain_digest verified.named)⟩

section Files

variable {crypto : Crypto} {bundle : Bundle}
  (verified : bundle.Verified crypto)
include verified

theorem Bundle.Verified.audit :
    ∀ record ∈ bundle.auditEvents, record.Verified crypto ∧
      Json.Plain record.previousRecordDigest :=
  verified.chain.verified (export_words.2.2.2.2.2 _ (by decide))

theorem decode_bundle :
    Json.decodeSlots bundleSlots .zero bundle.toJson = some bundle.draft := by
  have manifest : ∀ old, Json.decodeSlots manifestSlots old
      (Json.slotsObject manifestSlots bundle.manifest) = some bundle.manifest :=
    decode_manifest (verified.fits (plain_digest verified.named))
  have incidents : Json.readSlice (Json.decode incidentFields true) .zero .nil
      (.array (bundle.incidents.map (Json.toObject incidentFields))) =
        some (.of bundle.incidents) := by
    apply Json.readSlice_nil
    intro record member
    have here := verified.incidents record member
    exact decode_incident here (plain_digest here.named) .zero
  have audit : Json.readSlice (Json.decode auditFields true) .zero .nil
      (.array (bundle.auditEvents.map (Json.toObject auditFields))) =
        some (.of bundle.auditEvents) := by
    apply Json.readSlice_nil
    intro record member
    obtain ⟨here, previous⟩ := verified.audit record member
    exact decode_audit here previous (plain_digest here.named) .zero
  rw [Bundle.toJson, Json.decodeSlots_slotsObject (by decide +kernel)]
  simp only [bundleSlots, List.foldlM_cons, List.foldlM_nil, Json.Field.slot,
    Json.Field.text, Json.Slot.nested, Json.Slot.slice, Bundle.draft,
    Draft.zero, Json.items_of, manifest, incidents, audit, Option.map_some,
    Option.bind_eq_bind, Option.bind_some, Option.pure_def]

theorem canonical_bundle (depth : Nat) :
    Json.Canonical (depth + 3) bundle.toJson := by
  have schema : Json.Plain bundle.schemaVersion := by
    rw [verified.schema]
    exact export_words.2.2.2.2.2 _ (by decide)
  apply Json.canonical_slotsObject (by decide +kernel)
  simp only [bundleSlots, List.forall_mem_cons]
  refine ⟨.string _ schema, canonical_manifest
    (verified.fits (plain_digest verified.named)) depth, .array ?_, .array ?_,
    List.forall_mem_nil _⟩
  · intro item member
    obtain ⟨record, listed, rfl⟩ := List.mem_map.mp member
    rw [Bundle.draft, Json.items_of] at listed
    have here := verified.incidents record listed
    exact Json.canonical_toObject
      (incident_fits here (plain_digest here.named)) depth
  · intro item member
    obtain ⟨record, listed, rfl⟩ := List.mem_map.mp member
    rw [Bundle.draft, Json.items_of] at listed
    obtain ⟨here, previous⟩ := verified.audit record listed
    exact Json.canonical_toObject
      (audit_fits here previous (plain_digest here.named)) depth

theorem decodeBundle_encoded :
    decodeBundle (Json.marshalIndent (ascii "  ") bundle.toJson ++
      [charByte '\n']) = some bundle := by
  have white : Json.White (ascii "  ") := by
    unfold Json.White
    decide +kernel
  have line : Json.White [charByte '\n'] := by
    unfold Json.White
    decide +kernel
  have restored : bundle.draft.bundle = bundle := by
    simp only [Bundle.draft, Draft.bundle, Json.items_of]
  rw [decodeBundle, Json.parse_marshalIndent white
    (canonical_bundle verified 9997) line, Option.bind_some,
    decode_bundle verified, Option.map_some, restored]

end Files

theorem decodeAndVerify_encoded
    {bundle : Bundle}
    (accepted : verify crypto bundle = .ok ())
    (short : (Json.marshalIndent (ascii "  ") bundle.toJson).length + 1 ≤
      maximumBundleBytes) :
    ∃ encoded result, encode crypto bundle = .ok (encoded, result) ∧
      decodeAndVerify crypto encoded = .ok (bundle, result) := by
  let encoded := Json.marshalIndent (ascii "  ") bundle.toJson ++
    [charByte '\n']
  refine ⟨encoded, resultFor crypto bundle encoded, ?_, ?_⟩
  · simp only [encode, bind_eq_ok, pure_eq_ok, require_eq_ok,
      decide_eq_true_eq]
    exact ⟨(), accepted, (), short, rfl⟩
  · simp only [decodeAndVerify, bind_eq_ok, pure_eq_ok, require_eq_ok,
      decide_eq_true_eq, fromOption_eq_ok]
    refine ⟨(), ⟨List.append_ne_nil_of_right_ne_nil _ nofun, ?_⟩, bundle,
      decodeBundle_encoded (verified_of_verify accepted), (), accepted, rfl⟩
    rw [List.length_append]
    exact short

/-! ## Documents -/

section Documents

variable {crypto : Crypto} {domain : Bytes}

theorem jsonDocument_injective
    {left right : Json} (leftCanonical : Json.Canonical Json.maxNestingDepth left)
    (rightCanonical : Json.Canonical Json.maxNestingDepth right)
    (same : jsonDocument domain left = jsonDocument domain right) :
    left = right := by
  have texts : Json.marshal left = Json.marshal right := by
    have rest := List.append_cancel_left same
    exact (List.cons.inj rest).2
  have parsed := Json.parse_marshal leftCanonical
  rw [texts, Json.parse_marshal rightCanonical] at parsed
  exact (Option.some.inj parsed).symm

theorem incidentDocument_injective
    {left right : IncidentRecord} (leftVerified : left.Verified crypto)
    (rightVerified : right.Verified crypto)
    (same : incidentDocument left = incidentDocument right) :
    incidentForDigest left = incidentForDigest right := by
  have objects := jsonDocument_injective
    (Json.canonical_toObject (incident_fits leftVerified plain_nil) 9999)
    (Json.canonical_toObject (incident_fits rightVerified plain_nil) 9999) same
  have decoded := decode_incident leftVerified plain_nil .zero
  rw [objects, decode_incident rightVerified plain_nil] at decoded
  exact (Option.some.inj decoded).symm

theorem auditDocument_injective
    {left right : AuditRecord} (leftVerified : left.Verified crypto)
    (rightVerified : right.Verified crypto)
    (leftPlain : Json.Plain left.previousRecordDigest)
    (rightPlain : Json.Plain right.previousRecordDigest)
    (same : auditDocument left = auditDocument right) :
    auditForDigest left = auditForDigest right := by
  have objects := jsonDocument_injective
    (Json.canonical_toObject (audit_fits leftVerified leftPlain plain_nil) 9999)
    (Json.canonical_toObject (audit_fits rightVerified rightPlain plain_nil)
      9999) same
  have decoded := decode_audit leftVerified leftPlain plain_nil .zero
  rw [objects, decode_audit rightVerified rightPlain plain_nil] at decoded
  exact (Option.some.inj decoded).symm

theorem incident_ext
    {left right : IncidentRecord}
    (contents : incidentForDigest left = incidentForDigest right)
    (digests : left.recordDigest = right.recordDigest) : left = right :=
  calc left = { incidentForDigest left with
          recordDigest := left.recordDigest } := rfl
    _ = { incidentForDigest right with
          recordDigest := right.recordDigest } := by rw [contents, digests]
    _ = right := rfl

theorem audit_ext
    {left right : AuditRecord}
    (contents : auditForDigest left = auditForDigest right)
    (digests : left.recordDigest = right.recordDigest) : left = right :=
  calc left = { auditForDigest left with
          recordDigest := left.recordDigest } := rfl
    _ = { auditForDigest right with
          recordDigest := right.recordDigest } := by rw [contents, digests]
    _ = right := rfl

theorem manifest_ext
    {left right : Manifest}
    (contents : manifestForDigest left = manifestForDigest right)
    (digests : left.manifestDigest = right.manifestDigest) : left = right :=
  calc left = { manifestForDigest left with
          manifestDigest := left.manifestDigest } := rfl
    _ = { manifestForDigest right with
          manifestDigest := right.manifestDigest } := by
            rw [contents, digests]
    _ = right := rfl

theorem manifestDocument_injective
    {left right : Bundle} (leftVerified : left.Verified crypto)
    (rightVerified : right.Verified crypto)
    (same : manifestDocument left.manifest = manifestDocument right.manifest) :
    manifestForDigest left.manifest = manifestForDigest right.manifest := by
  have leftFits := leftVerified.fits plain_nil
  have rightFits := rightVerified.fits plain_nil
  have objects := jsonDocument_injective (canonical_manifest leftFits 9998)
    (canonical_manifest rightFits 9998) same
  have decoded := decode_manifest leftFits .zero
  rw [objects, decode_manifest rightFits] at decoded
  exact (Option.some.inj decoded).symm

/-- Lists are the same if their keys are and a key names one item. -/
theorem eq_of_map_eq
    {α : Type} {key : α → Bytes} {left right : List α}
    (keys : left.map key = right.map key)
    (named : ∀ first ∈ left, ∀ second ∈ right,
      key first = key second → first = second) : left = right := by
  induction left generalizing right with
  | nil => exact (List.map_eq_nil_iff.mp keys.symm).symm
  | cons item items ih =>
      obtain ⟨other, others, rfl, same, rest⟩ :=
        List.map_eq_cons_iff.mp keys.symm
      rw [named item List.mem_cons_self other List.mem_cons_self same.symm,
        ih rest.symm fun first inLeft second inRight =>
          named first (List.mem_cons_of_mem _ inLeft) second
            (List.mem_cons_of_mem _ inRight)]

/-- Lines of one length are read back from their concatenation. -/
theorem listDocument_injective
    {size : Nat} {left right : List Bytes}
    (leftSizes : ∀ digest ∈ left, digest.length = size)
    (rightSizes : ∀ digest ∈ right, digest.length = size)
    (same : listDocument domain left = listDocument domain right) :
    left = right := by
  have lines := (List.cons.inj (List.append_cancel_left same)).2
  clear same
  induction left generalizing right with
  | nil =>
      cases right with
      | nil => rfl
      | cons => simp at lines
  | cons digest rest ih =>
      cases right with
      | nil => simp at lines
      | cons =>
          rw [List.forall_mem_cons] at leftSizes rightSizes
          rw [List.flatMap_cons, List.flatMap_cons] at lines
          obtain ⟨first, later⟩ := List.append_inj lines (by
            rw [List.length_append, List.length_append, leftSizes.1,
              rightSizes.1])
          rw [List.append_cancel_right first,
            ih leftSizes.2 rightSizes.2 later]

end Documents

/-! ## What the manifest digest determines -/

/-- Everything that `Verify` hashes except the export id. -/
def hashedDocuments (bundle : Bundle) : List Bytes :=
  manifestDocument bundle.manifest ::
    listDocument incidentSetDomain (incidentDigests bundle.incidents) ::
    (bundle.incidents.map incidentDocument ++
      bundle.auditEvents.map auditDocument)

/-- SHA-256 tells the documents of the two bundles apart. -/
def NoCollision (crypto : Crypto) (left right : Bundle) : Prop :=
  ∀ first ∈ hashedDocuments left, ∀ second ∈ hashedDocuments right,
    crypto.sha256 first = crypto.sha256 second → first = second

section Determined

variable {crypto : Crypto}

/-- Two chains of one length that end in one digest are the same. -/
theorem Chained.unique
    {left right : List AuditRecord} {leftFirst rightFirst root : Bytes}
    (leftChained : Chained crypto leftFirst left root)
    (rightChained : Chained crypto rightFirst right root)
    (leftPlain : ∀ record ∈ left, Json.Plain record.previousRecordDigest)
    (rightPlain : ∀ record ∈ right, Json.Plain record.previousRecordDigest)
    (apart : ∀ first ∈ left, ∀ second ∈ right,
      crypto.sha256 (auditDocument first) =
        crypto.sha256 (auditDocument second) →
      auditDocument first = auditDocument second)
    (length : left.length = right.length) :
    left = right ∧ leftFirst = rightFirst := by
  induction leftChained generalizing right rightFirst with
  | last =>
      cases rightChained with
      | last => exact ⟨rfl, rfl⟩
      | link => cases length
  | @link record records root verified rest ih =>
      cases rightChained with
      | last => cases length
      | @link other others _ otherVerified otherRest =>
          rw [List.forall_mem_cons] at leftPlain rightPlain
          have apartRest : ∀ first ∈ records, ∀ second ∈ others, _ :=
            fun first inLeft second inRight =>
              apart first (List.mem_cons_of_mem _ inLeft) second
                (List.mem_cons_of_mem _ inRight)
          obtain ⟨same, digests⟩ := ih otherRest leftPlain.2 rightPlain.2
            apartRest (Nat.succ.inj length)
          have documents : auditDocument record = auditDocument other := by
            apply apart record List.mem_cons_self other List.mem_cons_self
            apply sha256_eq_of_digestText_eq
            rw [verified.digest, otherVerified.digest, digests]
          have contents := auditDocument_injective verified otherVerified
            leftPlain.1 rightPlain.1 documents
          rw [audit_ext contents digests, same]
          exact ⟨rfl, rfl⟩

variable {left right : Bundle} (leftVerified : left.Verified crypto)
  (rightVerified : right.Verified crypto)
  (apart : NoCollision crypto left right)
include leftVerified rightVerified apart

theorem manifest_determined
    (same : left.manifest.manifestDigest = right.manifest.manifestDigest) :
    left.manifest = right.manifest := by
  have documents :
      manifestDocument left.manifest = manifestDocument right.manifest := by
    apply apart _ List.mem_cons_self _ List.mem_cons_self
    apply sha256_eq_of_digestText_eq
    rw [leftVerified.digest, rightVerified.digest, same]
  exact manifest_ext
    (manifestDocument_injective leftVerified rightVerified documents) same

theorem incidents_determined (same : left.manifest = right.manifest) :
    left.incidents = right.incidents := by
  have sizes : ∀ {bundle : Bundle}, bundle.Verified crypto →
      ∀ digest ∈ incidentDigests bundle.incidents, digest.length = 71 := by
    intro bundle verified digest member
    obtain ⟨record, listed, rfl⟩ := List.mem_map.mp member
    have bounds := Regexp.length_le_of_matchString
      (verified.incidents record listed).named
    exact Nat.le_antisymm bounds.2 bounds.1
  have digests : incidentDigests left.incidents =
      incidentDigests right.incidents := by
    apply listDocument_injective (sizes leftVerified) (sizes rightVerified)
    apply apart _ (List.mem_cons_of_mem _ List.mem_cons_self) _
      (List.mem_cons_of_mem _ List.mem_cons_self)
    apply sha256_eq_of_digestText_eq
    rw [leftVerified.set, rightVerified.set, same]
  have recordsEqual : ∀ first ∈ left.incidents, ∀ second ∈ right.incidents,
      first.recordDigest = second.recordDigest → first = second := by
    intro first inLeft second inRight equal
    have leftHere := leftVerified.incidents first inLeft
    have rightHere := rightVerified.incidents second inRight
    apply incident_ext _ equal
    apply incidentDocument_injective leftHere rightHere
    apply apart
    · exact List.mem_cons_of_mem _ (List.mem_cons_of_mem _
        (List.mem_append_left _ (List.mem_map_of_mem inLeft)))
    · exact List.mem_cons_of_mem _ (List.mem_cons_of_mem _
        (List.mem_append_left _ (List.mem_map_of_mem inRight)))
    · apply sha256_eq_of_digestText_eq
      rw [leftHere.digest, rightHere.digest, equal]
  exact eq_of_map_eq digests recordsEqual

theorem audit_determined (same : left.manifest = right.manifest) :
    left.auditEvents = right.auditEvents := by
  have length : left.auditEvents.length = right.auditEvents.length := by
    have counts := congrArg Manifest.auditEventCount same
    rw [leftVerified.auditCount, rightVerified.auditCount] at counts
    exact_mod_cast counts
  have rightChain := rightVerified.chain
  rw [← same] at rightChain
  refine (leftVerified.chain.unique rightChain
    (fun record member => (leftVerified.audit record member).2)
    (fun record member => (rightVerified.audit record member).2) ?_ length).1
  intro first inLeft second inRight
  apply apart
  · exact List.mem_cons_of_mem _ (List.mem_cons_of_mem _
      (List.mem_append_right _ (List.mem_map_of_mem inLeft)))
  · exact List.mem_cons_of_mem _ (List.mem_cons_of_mem _
      (List.mem_append_right _ (List.mem_map_of_mem inRight)))

end Determined

/-- Verified bundles with one manifest digest are the same bundle, if no two of
their documents collide; and a bundle that was built and fits into a file is
read back from the file. -/
theorem export_evidence (crypto : Crypto) :
    (∀ left right : Bundle, verify crypto left = .ok () →
      verify crypto right = .ok () → NoCollision crypto left right →
      left.manifest.manifestDigest = right.manifest.manifestDigest →
      left = right) ∧
    ∀ (exporter : Exporter) (query : Query) (stored : Option Snapshot)
      (now : Int) (bundle : Bundle),
      exporter.build crypto query stored now = .ok bundle →
      (Json.marshalIndent (ascii "  ") bundle.toJson).length + 1 ≤
        maximumBundleBytes →
      ∃ encoded result, encode crypto bundle = .ok (encoded, result) ∧
        decodeAndVerify crypto encoded = .ok (bundle, result) := by
  constructor
  · intro left right leftAccepted rightAccepted apart digest
    have leftVerified := verified_of_verify leftAccepted
    have rightVerified := verified_of_verify rightAccepted
    have manifest := manifest_determined leftVerified rightVerified apart digest
    have incidents :=
      incidents_determined leftVerified rightVerified apart manifest
    have audit := audit_determined leftVerified rightVerified apart manifest
    have schema := leftVerified.schema.trans rightVerified.schema.symm
    calc left = ⟨left.schemaVersion, left.manifest, left.incidents,
          left.auditEvents⟩ := rfl
      _ = ⟨right.schemaVersion, right.manifest, right.incidents,
          right.auditEvents⟩ := by rw [schema, manifest, incidents, audit]
      _ = right := rfl
  · intro exporter query stored now bundle built short
    simp only [Exporter.build, bind_eq_ok, pure_eq_ok] at built
    obtain ⟨_, -, _, -, _, -, _, -, _, -, _, -, _, -, _, accepted, rfl⟩ := built
    exact decodeAndVerify_encoded accepted short

end SentinelFlow.ExportBundle
