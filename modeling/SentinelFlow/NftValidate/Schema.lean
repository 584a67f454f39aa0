import SentinelFlow.Digest
import SentinelFlow.GoLib.JsonExact
import SentinelFlow.GoLib.Sha256

/-!
# The owned schema

What the kernel holds is read back as a JSON document and compared with the one
schema that the executor owns.  A scan rejects repeated names; the decoder, which
folds the names of members, then stores the document in a struct, and only the
struct is compared.
-/

namespace SentinelFlow.NftValidate

open GoLib

def maxBaseContractBytes : Nat := 16 * 1024

def maxLiveSchemaBytes : Nat := 16 * 1024

def pinnedBaseChainRawDigest : Bytes :=
  ascii "sha256:2d6476f6297f9b135032934bc557110541bae7eb2fe16fe29be70d20d0f4c488"

def pinnedLiveSchemaDigest : Bytes :=
  ascii "sha256:d5582a75817d349b12f292d212483bb0c2a5db66afde7d73c6d11050a5eb5997"

structure LiveSet where
  name : Bytes := []
  type : Bytes := []
  flags : Json.Slice Bytes := .nil

structure LiveChain where
  name : Bytes := []
  type : Bytes := []
  hook : Bytes := []
  priority : Option Int := none
  policy : Bytes := []

structure LiveRule where
  protocol : Bytes := []
  destinationPort : Int := 0
  sourceSet : Bytes := []
  verdict : Bytes := []
  ownedRuleCount : Int := 0

structure LiveSchema where
  schemaVersion : Bytes := []
  family : Bytes := []
  table : Bytes := []
  set : LiveSet := {}
  chain : LiveChain := {}
  rule : LiveRule := {}

/-! ## Decoding -/

/-- `null` leaves an integer as it is. -/
def readInt (old : Int) : Json → Option Int
  | .null => some old
  | .number literal => Json.parseInt 64 literal
  | _ => none

def readIntPointer (_ : Option Int) : Json → Option (Option Int)
  | .null => some none
  | .number literal => (Json.parseInt 64 literal).map some
  | _ => none

section Slots

variable {S : Type}

def textSlot (name : String) (get : S → Bytes) (set : S → Bytes → S) :
    Json.Slot S :=
  .part (ascii name) get set Json.readText .string

def intSlot (name : String) (get : S → Int) (set : S → Int → S) :
    Json.Slot S :=
  .part (ascii name) get set readInt fun value =>
    .number (Json.intLiteral value)

def structSlot {T : Type} (name : String) (get : S → T) (set : S → T → S)
    (slots : List (Json.Slot T)) : Json.Slot S :=
  .part (ascii name) get set (Json.decodeSlots slots) (Json.slotsObject slots)

end Slots

def setSlots : List (Json.Slot LiveSet) :=
  [textSlot "name" (·.name) fun value name => { value with name },
    textSlot "type" (·.type) fun value type => { value with type },
    .part (ascii "flags") (·.flags) (fun value flags => { value with flags })
      (Json.readSlice Json.readText [])
      fun flags => .array (flags.items.map .string)]

def chainSlots : List (Json.Slot LiveChain) :=
  [textSlot "name" (·.name) fun value name => { value with name },
    textSlot "type" (·.type) fun value type => { value with type },
    textSlot "hook" (·.hook) fun value hook => { value with hook },
    .part (ascii "priority") (·.priority)
      (fun value priority => { value with priority }) readIntPointer
      fun priority => priority.elim .null fun amount =>
        .number (Json.intLiteral amount),
    textSlot "policy" (·.policy) fun value policy => { value with policy }]

def ruleSlots : List (Json.Slot LiveRule) :=
  [textSlot "protocol" (·.protocol)
      fun value protocol => { value with protocol },
    intSlot "destination_port" (·.destinationPort)
      fun value destinationPort => { value with destinationPort },
    textSlot "source_set" (·.sourceSet)
      fun value sourceSet => { value with sourceSet },
    textSlot "verdict" (·.verdict) fun value verdict => { value with verdict },
    intSlot "owned_rule_count" (·.ownedRuleCount)
      fun value ownedRuleCount => { value with ownedRuleCount }]

def schemaSlots : List (Json.Slot LiveSchema) :=
  [textSlot "schema_version" (·.schemaVersion)
      fun value schemaVersion => { value with schemaVersion },
    textSlot "family" (·.family) fun value family => { value with family },
    textSlot "table" (·.table) fun value table => { value with table },
    structSlot "set" (·.set) (fun value set => { value with set }) setSlots,
    structSlot "chain" (·.chain) (fun value chain => { value with chain })
      chainSlots,
    structSlot "rule" (·.rule) (fun value rule => { value with rule })
      ruleSlots]

/-! ## The check -/

mutual

/-- The scan for repeated names and deep nesting, on the value of a text. -/
def consumeJSON (depth : Nat) : Json → Bool
  | .array items => decide (depth ≤ 16) && consumeItems (depth + 1) items
  | .object members =>
      decide (depth ≤ 16) && Json.distinctNames (members.map Prod.fst) &&
        consumeMembers (depth + 1) members
  | _ => decide (depth ≤ 16)

def consumeItems (depth : Nat) : List Json → Bool
  | [] => true
  | item :: items => consumeJSON depth item && consumeItems depth items

def consumeMembers (depth : Nat) : List (Bytes × Json) → Bool
  | [] => true
  | (_, item) :: members =>
      consumeJSON depth item && consumeMembers depth members

end

/-- The comparison of the decoded document with the constants. -/
def ownedSchema (value : LiveSchema) : Prop :=
  value.schemaVersion = ascii "nft-base-chain-live-v1" ∧
    value.family = ascii "inet" ∧ value.table = ascii "sentinelflow" ∧
    value.set.name = ascii "blacklist_ipv4" ∧
    value.set.type = ascii "ipv4_addr" ∧
    value.set.flags.items = [ascii "timeout"] ∧
    value.chain.name = ascii "gateway_input" ∧
    value.chain.type = ascii "filter" ∧ value.chain.hook = ascii "input" ∧
    value.chain.priority = some 0 ∧ value.chain.policy = ascii "accept" ∧
    value.rule.protocol = ascii "tcp" ∧ value.rule.destinationPort = 8080 ∧
    value.rule.sourceSet = ascii "blacklist_ipv4" ∧
    value.rule.verdict = ascii "drop" ∧ value.rule.ownedRuleCount = 1

instance (value : LiveSchema) : Decidable (ownedSchema value) :=
  inferInstanceAs (Decidable (_ ∧ _))

def canonicalLiveSchema : Bytes :=
  ascii "\x7b\"chain\":\x7b\"hook\":\"input\",\"name\":\"gateway_input\"," ++
  ascii "\"policy\":\"accept\",\"priority\":0,\"type\":\"filter\"\x7d," ++
  ascii "\"family\":\"inet\",\"rule\":\x7b\"destination_port\":8080," ++
  ascii "\"owned_rule_count\":1,\"protocol\":\"tcp\"," ++
  ascii "\"source_set\":\"blacklist_ipv4\",\"verdict\":\"drop\"\x7d," ++
  ascii "\"schema_version\":\"nft-base-chain-live-v1\"," ++
  ascii "\"set\":\x7b\"flags\":[\"timeout\"],\"name\":\"blacklist_ipv4\"," ++
  ascii "\"type\":\"ipv4_addr\"\x7d,\"table\":\"sentinelflow\"\x7d"

inductive SchemaError where
  | baseContractInvalid
  | liveSchemaInvalid
  | ownedSchemaDigestMismatch
deriving DecidableEq, Repr

structure SchemaProof where
  baseContractDigest : Bytes
  liveSchemaDigest : Bytes
  liveCanonical : Bytes
deriving DecidableEq, Repr

/-- The document of an acceptable text: one object that passes the scan. -/
def strictJSONObject (liveSchema : Bytes) : Option Json :=
  match Json.parse liveSchema with
  | some (.object members) =>
      if consumeJSON 0 (.object members) then some (.object members) else none
  | _ => none

def validateOwnedSchema (crypto : Crypto) (baseContract liveSchema : Bytes) :
    Except SchemaError SchemaProof :=
  if baseContract = [] ∨ baseContract.length > maxBaseContractBytes ∨
      digestText crypto baseContract ≠ pinnedBaseChainRawDigest then
    .error .baseContractInvalid
  else if liveSchema = [] ∨ liveSchema.length > maxLiveSchemaBytes ∨
      ¬ Utf8.valid liveSchema ∨
      [0xEF, 0xBB, 0xBF].isPrefixOf liveSchema then .error .liveSchemaInvalid
  else match strictJSONObject liveSchema with
  | none => .error .liveSchemaInvalid
  | some document =>
      match Json.decodeSlots schemaSlots {} document with
      | none => .error .liveSchemaInvalid
      | some value =>
          if ¬ ownedSchema value then .error .liveSchemaInvalid
          else if digestText crypto canonicalLiveSchema ≠
                pinnedLiveSchemaDigest ∨
              digestText crypto canonicalLiveSchema =
                pinnedBaseChainRawDigest then
            .error .ownedSchemaDigestMismatch
          else .ok
            { baseContractDigest := pinnedBaseChainRawDigest
              liveSchemaDigest := digestText crypto canonicalLiveSchema
              liveCanonical := canonicalLiveSchema }

/-! ## Documents that are compared as they are written -/

mutual

/-- Names are in lower case, and numbers are the shortest unsigned literals.  The
only other integer literals of JSON have a sign. -/
def ordinary : Json → Bool
  | .number literal => literal == formatUint (decimalValue literal)
  | .array items => ordinaryItems items
  | .object members => ordinaryMembers members
  | _ => true

def ordinaryItems : List Json → Bool
  | [] => true
  | item :: items => ordinary item && ordinaryItems items

def ordinaryMembers : List (Bytes × Json) → Bool
  | [] => true
  | (name, item) :: members =>
      Json.lowerName name && ordinary item && ordinaryMembers members

end

/-- What the scan and the spelling say about the members of an object. -/
structure Tidy (depth : Nat) (members : List (Bytes × Json)) : Prop where
  distinct : (members.map Prod.fst).Nodup
  lower : ∀ member ∈ members, Json.lowerName member.1 = true
  consumed : ∀ member ∈ members, consumeJSON depth member.2 = true
  plain : ∀ member ∈ members, ordinary member.2 = true

private theorem tidy_of_members {depth : Nat} {members : List (Bytes × Json)}
    (consumed : consumeMembers depth members = true)
    (plain : ordinaryMembers members = true) :
    ∀ member ∈ members, Json.lowerName member.1 = true ∧
      consumeJSON depth member.2 = true ∧ ordinary member.2 = true := by
  induction members with
  | nil => exact nofun
  | cons member members induction =>
      rw [consumeMembers, Bool.and_eq_true] at consumed
      rw [ordinaryMembers, Bool.and_eq_true, Bool.and_eq_true] at plain
      exact List.forall_mem_cons.mpr
        ⟨⟨plain.1.1, consumed.1, plain.1.2⟩, induction consumed.2 plain.2⟩

theorem tidy_of_object {depth : Nat} {members : List (Bytes × Json)}
    (consumed : consumeJSON depth (.object members) = true)
    (plain : ordinary (.object members) = true) :
    Tidy (depth + 1) members := by
  rw [consumeJSON, Bool.and_eq_true, Bool.and_eq_true] at consumed
  rw [ordinary] at plain
  have each := tidy_of_members consumed.2 plain
  exact
    { distinct := Json.distinctNames_iff.mp consumed.1.2
      lower := fun member held => (each member held).1
      consumed := fun member held => (each member held).2.1
      plain := fun member held => (each member held).2.2 }

section Members

variable {S : Type} {slots : List (Json.Slot S)} {old final : S}
  {members : List (Bytes × Json)} {depth : Nat} {name : String}

/-- Slots with lower-case names store the tidy members. -/
structure Fills (slots : List (Json.Slot S)) (old : S) (depth : Nat)
    (members : List (Bytes × Json)) (final : S) : Prop
    extends Tidy depth members where
  slotsLower : ∀ slot ∈ slots, Json.lowerName slot.name = true
  filled : Json.fillSlots slots old members = some final

theorem Fills.member
    (fills : Fills slots old depth members final) {T : Type} {get : S → T}
    {read : T → Json → Option T}
    (part : Json.Part slots (ascii name) get read)
    (changed : get final ≠ get old) :
    ∃ item, (ascii name, item) ∈ members ∧
      read (get old) item = some (get final) :=
  (Json.fillSlots_part fills.slotsLower part fills.distinct fills.lower
    fills.filled).resolve_left changed

theorem Fills.text
    (fills : Fills slots old depth members final) {get : S → Bytes}
    (unset : get old = []) {text : Bytes} (held : get final = text)
    (nonempty : text ≠ [])
    (part : Json.Part slots (ascii name) get Json.readText) :
    (ascii name, .string text) ∈ members := by
  subst held
  obtain ⟨item, member, read⟩ := fills.member part (unset ▸ nonempty)
  rw [unset] at read
  unfold Json.readText at read
  split at read
  · exact absurd (Option.some.inj read).symm nonempty
  · cases read
    exact member
  · cases read

/-- An ordinary literal of a natural number is its only spelling. -/
theorem literal_eq {literal : Bytes} {amount : Nat}
    (plain : ordinary (.number literal) = true)
    (read : Json.parseInt 64 literal = some (amount : Int)) :
    literal = formatUint amount := by
  have plain : literal = formatUint (decimalValue literal) :=
    beq_iff_eq.mp plain
  rw [plain] at read ⊢
  generalize decimalValue literal = value at read ⊢
  cases text : formatUint value with
  | nil => exact absurd text (formatUint_ne_nil value)
  | cons byte =>
      have unsigned : byte ≠ charByte '-' := by
        rintro rfl
        exact absurd (isDigit_of_mem_formatUint
          (show charByte '-' ∈ formatUint value by simp [text])) (by decide)
      rw [text, Json.parseInt, if_neg unsigned, ← text] at read
      unfold parseUint at read
      rw [decimalValue_formatUint] at read
      split at read
      next stored =>
        split at stored
        · cases stored
          split at read
          · cases read
            rw [← text]
          · cases read
        · cases stored
      · cases read

theorem Fills.int
    (fills : Fills slots old depth members final) {get : S → Int}
    (unset : get old = 0) {amount : Nat} (held : get final = amount)
    (nonzero : amount ≠ 0)
    (part : Json.Part slots (ascii name) get readInt) :
    (ascii name, .number (formatUint amount)) ∈ members := by
  have changed : get final ≠ get old := by omega
  obtain ⟨item, member, read⟩ := fills.member part changed
  unfold readInt at read
  split at read
  · exact absurd (Option.some.inj read).symm changed
  next literal =>
    rw [held] at read
    rw [← literal_eq (fills.plain _ member) read]
    exact member
  · cases read

theorem Fills.struct
    (fills : Fills slots old depth members final) {T : Type}
    {inner : List (Json.Slot T)} {get : S → T} {zero : T}
    (unset : get old = zero) (changed : get final ≠ zero)
    (part : Json.Part slots (ascii name) get (Json.decodeSlots inner)) :
    ∃ fields, (ascii name, .object fields) ∈ members ∧
      Json.fillSlots inner zero fields = some (get final) := by
  subst unset
  obtain ⟨item, member, read⟩ := fills.member part changed
  unfold Json.decodeSlots at read
  split at read
  · exact absurd (Option.some.inj read).symm changed
  next fields => exact ⟨fields, member, read⟩
  · cases read

/-- One string is all that an array of one flag can hold. -/
theorem flags_array {item : Json} {flags : Json.Slice Bytes} {flag : Bytes}
    (read : Json.readSlice Json.readText [] .nil item = some flags)
    (held : flags.items = [flag]) (nonempty : flag ≠ []) :
    item = .array [.string flag] := by
  unfold Json.readSlice at read
  split at read
  · cases read
    cases held
  · cases read
    cases held
  next items _ =>
    cases items with
    | nil =>
        cases read
        cases held
    | cons first rest =>
        obtain ⟨memory, elements, rfl⟩ := Option.map_eq_some_iff.mp read
        rw [Json.readElements] at elements
        split at elements
        · cases elements
        next element stored =>
        obtain ⟨later, rest_read, rfl⟩ := Option.map_eq_some_iff.mp elements
        cases rest with
        | nil =>
            cases held
            unfold Json.readText at stored
            split at stored
            · cases stored
              exact absurd rfl nonempty
            · cases stored
              rfl
            · cases stored
        | cons =>
            rw [Json.readElements] at rest_read
            split at rest_read
            · cases rest_read
            · obtain ⟨last, -, rfl⟩ := Option.map_eq_some_iff.mp rest_read
              simp [Json.Slice.items] at held
  · cases read

theorem Fills.flags
    (fills : Fills slots old depth members final) {get : S → Json.Slice Bytes}
    (unset : get old = .nil) {flag : Bytes} (held : (get final).items = [flag])
    (nonempty : flag ≠ [])
    (part : Json.Part slots (ascii name) get
      (Json.readSlice Json.readText [])) :
    (ascii name, .array [.string flag]) ∈ members := by
  have changed : get final ≠ get old := by
    intro same
    rw [same, unset] at held
    cases held
  obtain ⟨item, member, read⟩ := fills.member part changed
  rw [unset] at read
  rw [← flags_array read held nonempty]
  exact member

theorem Fills.pointer
    (fills : Fills slots old depth members final) {get : S → Option Int}
    (unset : get old = none) {amount : Nat}
    (held : get final = some (amount : Int))
    (part : Json.Part slots (ascii name) get readIntPointer) :
    (ascii name, .number (formatUint amount)) ∈ members := by
  have changed : get final ≠ get old := by simp [held, unset]
  obtain ⟨item, member, read⟩ := fills.member part changed
  rw [held] at read
  unfold readIntPointer at read
  split at read
  · cases read
  next literal =>
    obtain ⟨_, parsed, equal⟩ := Option.map_eq_some_iff.mp read
    cases equal
    rw [← literal_eq (fills.plain _ member) parsed]
    exact member
  · cases read

end Members

def setMembers : List (Bytes × Json) :=
  [(ascii "flags", .array [.string (ascii "timeout")]),
    (ascii "name", .string (ascii "blacklist_ipv4")),
    (ascii "type", .string (ascii "ipv4_addr"))]

def chainMembers : List (Bytes × Json) :=
  [(ascii "hook", .string (ascii "input")),
    (ascii "name", .string (ascii "gateway_input")),
    (ascii "policy", .string (ascii "accept")),
    (ascii "priority", .number (formatUint 0)),
    (ascii "type", .string (ascii "filter"))]

def ruleMembers : List (Bytes × Json) :=
  [(ascii "destination_port", .number (formatUint 8080)),
    (ascii "owned_rule_count", .number (formatUint 1)),
    (ascii "protocol", .string (ascii "tcp")),
    (ascii "source_set", .string (ascii "blacklist_ipv4")),
    (ascii "verdict", .string (ascii "drop"))]

def schemaMembers (chain rule set : Json) : List (Bytes × Json) :=
  [(ascii "chain", chain), (ascii "family", .string (ascii "inet")),
    (ascii "rule", rule),
    (ascii "schema_version", .string (ascii "nft-base-chain-live-v1")),
    (ascii "set", set), (ascii "table", .string (ascii "sentinelflow"))]

def ownedDocument : Json :=
  .object (schemaMembers (.object chainMembers) (.object ruleMembers)
    (.object setMembers))

section Perm

variable {members : List (Bytes × Json)} {depth : Nat}

/-- The members of a tidy object are those expected, if the names are those of
the slots and every expected one is there. -/
theorem Fills.perm {S : Type} {slots : List (Json.Slot S)} {old final : S}
    (fills : Fills slots old depth members final)
    {expected : List (Bytes × Json)}
    (names : ∀ name ∈ slots.map Json.Slot.name, name ∈ expected.map Prod.fst)
    (once : (expected.map Prod.fst).Nodup)
    (present : ∀ member ∈ expected, member ∈ members) :
    members.Perm expected :=
  Json.perm_of_members fills.distinct
    (fun member held => names _ (Json.fillSlots_names fills.slotsLower
      fills.lower fills.filled member held))
    once present

theorem lower_slots :
    (∀ slot ∈ setSlots, Json.lowerName slot.name = true) ∧
      (∀ slot ∈ chainSlots, Json.lowerName slot.name = true) ∧
      (∀ slot ∈ ruleSlots, Json.lowerName slot.name = true) ∧
      ∀ slot ∈ schemaSlots, Json.lowerName slot.name = true := by
  decide +kernel

theorem set_perm {value : LiveSet}
    (fills : Fills setSlots {} depth members value)
    (name : value.name = ascii "blacklist_ipv4")
    (type : value.type = ascii "ipv4_addr")
    (flags : value.flags.items = [ascii "timeout"]) :
    members.Perm setMembers := by
  refine fills.perm (by decide +kernel) (by decide) ?_
  simp only [setMembers, List.forall_mem_cons]
  refine ⟨fills.flags rfl flags (by decide) ?_,
    fills.text rfl name (by decide) ?_, fills.text rfl type (by decide) ?_,
    nofun⟩
  -- Each slot stores its own part and leaves the others.
  all_goals
    simp only [Json.Part, setSlots, List.forall_mem_cons]
    refine ⟨?_, ?_, ?_, nofun⟩
    all_goals first
      | exact .inl ⟨rfl, Json.Slot.stores_part fun _ _ => rfl⟩
      | exact .inr ⟨by decide, Json.Slot.leaves_part fun _ _ => rfl⟩

theorem chain_perm {value : LiveChain}
    (fills : Fills chainSlots {} depth members value)
    (name : value.name = ascii "gateway_input")
    (type : value.type = ascii "filter") (hook : value.hook = ascii "input")
    (priority : value.priority = some 0)
    (policy : value.policy = ascii "accept") :
    members.Perm chainMembers := by
  refine fills.perm (by decide +kernel) (by decide) ?_
  simp only [chainMembers, List.forall_mem_cons]
  refine ⟨fills.text rfl hook (by decide) ?_,
    fills.text rfl name (by decide) ?_, fills.text rfl policy (by decide) ?_,
    fills.pointer rfl priority ?_, fills.text rfl type (by decide) ?_, nofun⟩
  all_goals
    simp only [Json.Part, chainSlots, List.forall_mem_cons]
    refine ⟨?_, ?_, ?_, ?_, ?_, nofun⟩
    all_goals first
      | exact .inl ⟨rfl, Json.Slot.stores_part fun _ _ => rfl⟩
      | exact .inr ⟨by decide, Json.Slot.leaves_part fun _ _ => rfl⟩

theorem rule_perm {value : LiveRule}
    (fills : Fills ruleSlots {} depth members value)
    (protocol : value.protocol = ascii "tcp")
    (port : value.destinationPort = 8080)
    (source : value.sourceSet = ascii "blacklist_ipv4")
    (verdict : value.verdict = ascii "drop")
    (count : value.ownedRuleCount = 1) : members.Perm ruleMembers := by
  refine fills.perm (by decide +kernel) (by decide) ?_
  simp only [ruleMembers, List.forall_mem_cons]
  refine ⟨fills.int rfl port (by decide) ?_, fills.int rfl count (by decide) ?_,
    fills.text rfl protocol (by decide) ?_, fills.text rfl source (by decide) ?_,
    fills.text rfl verdict (by decide) ?_, nofun⟩
  all_goals
    simp only [Json.Part, ruleSlots, List.forall_mem_cons]
    refine ⟨?_, ?_, ?_, ?_, ?_, nofun⟩
    all_goals first
      | exact .inl ⟨rfl, Json.Slot.stores_part fun _ _ => rfl⟩
      | exact .inr ⟨by decide, Json.Slot.leaves_part fun _ _ => rfl⟩

/-- The members of a document that is decoded to the owned schema. -/
theorem schema_perm {value : LiveSchema}
    (fills : Fills schemaSlots {} depth members value)
    (owned : ownedSchema value) :
    ∃ chain rule set, members.Perm (schemaMembers (.object chain)
        (.object rule) (.object set)) ∧
      Json.fillSlots chainSlots {} chain = some value.chain ∧
      Json.fillSlots ruleSlots {} rule = some value.rule ∧
      Json.fillSlots setSlots {} set = some value.set := by
  obtain ⟨version, family, table, setName, -, -, chainName, -, -, -, -,
    protocol, -⟩ := owned
  have chained : value.chain ≠ {} := fun same => by
    rw [same] at chainName
    cases chainName
  have ruled : value.rule ≠ {} := fun same => by
    rw [same] at protocol
    cases protocol
  have settled : value.set ≠ {} := fun same => by
    rw [same] at setName
    cases setName
  have found :
      (∃ fields, (ascii "chain", .object fields) ∈ members ∧
        Json.fillSlots chainSlots {} fields = some value.chain) ∧
      (∃ fields, (ascii "rule", .object fields) ∈ members ∧
        Json.fillSlots ruleSlots {} fields = some value.rule) ∧
      (∃ fields, (ascii "set", .object fields) ∈ members ∧
        Json.fillSlots setSlots {} fields = some value.set) ∧
      (ascii "family", .string (ascii "inet")) ∈ members ∧
      (ascii "schema_version", .string (ascii "nft-base-chain-live-v1")) ∈
        members ∧
      (ascii "table", .string (ascii "sentinelflow")) ∈ members := by
    refine ⟨fills.struct rfl chained ?_, fills.struct rfl ruled ?_,
      fills.struct rfl settled ?_, fills.text rfl family (by decide) ?_,
      fills.text rfl version (by decide) ?_,
      fills.text rfl table (by decide) ?_⟩
    all_goals
      simp only [Json.Part, schemaSlots, List.forall_mem_cons]
      refine ⟨?_, ?_, ?_, ?_, ?_, ?_, nofun⟩
      all_goals first
        | exact .inl ⟨rfl, Json.Slot.stores_part fun _ _ => rfl⟩
        | exact .inr ⟨by decide, Json.Slot.leaves_part fun _ _ => rfl⟩
  obtain ⟨⟨chain, chainHeld, chainFilled⟩, ⟨rule, ruleHeld, ruleFilled⟩,
    ⟨set, setHeld, setFilled⟩, familyHeld, versionHeld, tableHeld⟩ := found
  refine ⟨chain, rule, set, fills.perm
    (by decide +kernel : ∀ name ∈ schemaSlots.map Json.Slot.name,
      name ∈ (schemaMembers .null .null .null).map Prod.fst)
    (by decide +kernel :
      ((schemaMembers .null .null .null).map Prod.fst).Nodup) ?_,
    chainFilled, ruleFilled, setFilled⟩
  simp only [schemaMembers, List.forall_mem_cons]
  exact ⟨chainHeld, familyHeld, ruleHeld, versionHeld, setHeld, tableHeld,
    nofun⟩

end Perm

/-! ## What is accepted -/

theorem validateOwnedSchema_eq_ok
    {crypto : Crypto} {baseContract liveSchema : Bytes} {proof : SchemaProof}
    (accepted : validateOwnedSchema crypto baseContract liveSchema =
      .ok proof) :
    ∃ members value, Json.parse liveSchema = some (.object members) ∧
      consumeJSON 0 (.object members) = true ∧
      Json.fillSlots schemaSlots {} members = some value ∧
      ownedSchema value := by
  unfold validateOwnedSchema at accepted
  split at accepted
  · cases accepted
  split at accepted
  · cases accepted
  split at accepted
  · cases accepted
  next document strict =>
  split at accepted
  · cases accepted
  next value decoded =>
  split at accepted
  · cases accepted
  next owned =>
  unfold strictJSONObject at strict
  split at strict
  next members parsed =>
    split at strict
    next consumed =>
      cases strict
      exact ⟨members, value, parsed, consumed, decoded, not_not.mp owned⟩
    · cases strict
  · cases strict

theorem parse_canonicalLiveSchema :
    Json.parse canonicalLiveSchema = some ownedDocument := by
  have text : Json.marshal ownedDocument = canonicalLiveSchema := by
    decide +kernel
  have chain : Json.Canonical 9999 (.object chainMembers) := by
    refine .object (by decide +kernel) ?_
    simp only [chainMembers, List.forall_mem_cons]
    exact ⟨.string _ (by decide), .string _ (by decide),
      .string _ (by decide), .number _ 0, .string _ (by decide), nofun⟩
  have rule : Json.Canonical 9999 (.object ruleMembers) := by
    refine .object (by decide +kernel) ?_
    simp only [ruleMembers, List.forall_mem_cons]
    exact ⟨.number _ 8080, .number _ 1, .string _ (by decide),
      .string _ (by decide), .string _ (by decide), nofun⟩
  have set : Json.Canonical 9999 (.object setMembers) := by
    refine .object (by decide +kernel) ?_
    simp only [setMembers, List.forall_mem_cons]
    exact ⟨.array (List.forall_mem_singleton.mpr (.string _ (by decide))),
      .string _ (by decide), .string _ (by decide), nofun⟩
  have whole : Json.Canonical Json.maxNestingDepth ownedDocument := by
    refine .object (by decide +kernel) ?_
    simp only [schemaMembers, List.forall_mem_cons]
    exact ⟨chain, .string _ (by decide), rule, .string _ (by decide), set,
      .string _ (by decide), nofun⟩
  rw [← text]
  exact Json.parse_marshal whole

theorem reordered_schemaMembers {chain rule set chain' rule' set' : Json}
    (chainSame : Json.Reordered chain chain')
    (ruleSame : Json.Reordered rule rule')
    (setSame : Json.Reordered set set') :
    Json.Reordered (.object (schemaMembers chain rule set))
      (.object (schemaMembers chain' rule' set')) := by
  have first : Json.Reordered (.object (schemaMembers chain rule set))
      (.object (schemaMembers chain' rule set)) :=
    @Json.Reordered.member [] _ _ _ _ chainSame
  have second : Json.Reordered (.object (schemaMembers chain' rule set))
      (.object (schemaMembers chain' rule' set)) :=
    @Json.Reordered.member ((schemaMembers chain' rule set).take 2) _ _ _ _
      ruleSame
  have third : Json.Reordered (.object (schemaMembers chain' rule' set))
      (.object (schemaMembers chain' rule' set')) :=
    @Json.Reordered.member ((schemaMembers chain' rule' set).take 4) _ _ _ _
      setSame
  exact first.trans (second.trans third)

/-- The contract whose digest is pinned. -/
def baseContract : Bytes :=
  ascii "table inet sentinelflow \x7b\n  set blacklist_ipv4 \x7b\n" ++
  ascii "    type ipv4_addr\n    flags timeout\n  \x7d\n\n" ++
  ascii "  chain gateway_input \x7b\n" ++
  ascii "    type filter hook input priority 0\n    policy accept\n" ++
  ascii "    tcp dport 8080 ip saddr @blacklist_ipv4 drop\n  \x7d\n\x7d\n"

def ownedProof : SchemaProof where
  baseContractDigest := pinnedBaseChainRawDigest
  liveSchemaDigest := pinnedLiveSchemaDigest
  liveCanonical := canonicalLiveSchema

/-- The canonical document with one more member in front.  Its name differs from
that of a later member in case only, so that its value is overwritten. -/
def shadowedSchema : Bytes :=
  ascii "\x7b\"FAMILY\":\"ip6\"," ++ canonicalLiveSchema.tail

end SentinelFlow.NftValidate
