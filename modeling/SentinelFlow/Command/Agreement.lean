import SentinelFlow.Capability.Artifact
import SentinelFlow.NftValidate.Candidate
import SentinelFlow.Policy.Command

/-!
# The three readers of a block command agree

The policy gate, the validator and the executor each read the command on their
own.  All three readings are the statement the text spells, so a command that
was approved is the command that is executed.
-/

namespace SentinelFlow.Command

open GoLib

theorem Spells.unique
    {generated : Bytes} {first second : AddStatement}
    (spellsFirst : Spells generated first)
    (spellsSecond : Spells generated second) : first = second := by
  have left : readStatement () () () generated = .ok first :=
    readStatement_eq_ok_iff.mpr spellsFirst
  have right : readStatement () () () generated = .ok second :=
    readStatement_eq_ok_iff.mpr spellsSecond
  exact Except.ok.inj (left.symm.trans right)

/-- The canonical bytes spell the same target and the same duration. -/
theorem spells_statement
    {target : IPv4} {seconds : Nat} (unicast : target.isGlobalUnicast = true)
    (lower : minTTLSeconds ≤ seconds) (upper : seconds ≤ maxTTLSeconds) :
    Spells (statement target.toText (canonicalToken seconds))
      ⟨target, seconds, canonicalToken seconds⟩ := by
  refine ⟨⟨ascii " \x7d\n", ?_, .inr rfl⟩, unicast,
    token_canonicalToken lower upper⟩
  simp [statement]

/-- The executor accepts for a global unicast address exactly the commands that
the policy gate reads as their own canonical form. -/
theorem checkAddArtifact_iff_fixedPoint
    {address : IPv4} (unicast : address.isGlobalUnicast = true)
    {artifact : Bytes} {seconds : Nat} :
    Capability.checkAddArtifact artifact address.toText = .ok seconds ↔
      ∃ ast, Policy.parse artifact = .ok ast ∧ ast.target = address ∧
        ast.ttlSeconds = seconds ∧ Policy.canonicalBytes ast = .ok artifact := by
  rw [Capability.checkAddArtifact_eq_ok_iff]
  constructor
  · rintro ⟨-, rfl, lower, upper⟩
    have parsed : Policy.parse (statement address.toText
        (canonicalToken seconds)) = .ok
          ⟨address, seconds, canonicalToken seconds⟩ :=
      readStatement_eq_ok_iff.mpr (spells_statement unicast lower upper)
    exact ⟨_, parsed, rfl, rfl, Policy.canonicalBytes_of_parse parsed⟩
  · rintro ⟨ast, parsed, rfl, rfl, canonical⟩
    have token := (readStatement_eq_ok_iff.mp parsed).token
    rw [Policy.canonicalBytes_of_parse parsed] at canonical
    exact ⟨IPv4.canonicalText_iff.mpr ⟨_, rfl⟩,
      (Except.ok.inj canonical).symm, token.lower, token.upper⟩

/-- What the policy gate releases is accepted by the executor as it is. -/
theorem checkAddArtifact_of_buildArtifact
    {crypto : Crypto} {policy : Policy.PolicyInput}
    {candidate : Policy.Candidate} {artifact : Policy.Artifact}
    (built : Policy.buildArtifact crypto policy candidate = .ok artifact) :
    Capability.checkAddArtifact artifact.canonicalBytes policy.targetIPv4 =
      .ok policy.ttlSeconds := by
  unfold Policy.buildArtifact at built
  split at built
  · cases built
  split at built
  · cases built
  split at built
  · cases built
  split at built
  · cases built
  next ast parsed =>
    split at built
    · cases built
    next target =>
      split at built
      · cases built
      split at built
      · cases built
      next duration =>
        simp only [not_or, not_not] at target duration
        rw [Policy.canonicalBytes_of_parse parsed] at built
        split at built
        · cases built
        · cases built
          have token := (readStatement_eq_ok_iff.mp parsed).token
          refine Capability.checkAddArtifact_eq_ok_iff.mpr ⟨?_, ?_, ?_, ?_⟩
          · exact IPv4.canonicalText_iff.mpr ⟨_, target.2.symm⟩
          · rw [target.2, duration]
          · rw [duration]
            exact token.lower
          · rw [duration]
            exact token.upper

/-- The policy gate and the validator accept the same commands with the same
meaning and the same canonical bytes; canonical bytes are their own canonical
form; and the executor accepts exactly those, with the same duration. -/
theorem blockCommandReaders_agree (crypto : Crypto) :
    (∀ generated seconds,
      (∃ ast, Policy.parse generated = .ok ast ∧ ast.ttlSeconds = seconds) ↔
        ∃ artifact, NftValidate.canonicalize crypto generated seconds =
          .ok artifact) ∧
    (∀ generated seconds ast artifact, Policy.parse generated = .ok ast →
      NftValidate.canonicalize crypto generated seconds = .ok artifact →
      artifact.target = ast.target ∧ artifact.ttlSeconds = ast.ttlSeconds ∧
        ast.ttlSeconds = seconds ∧
        Policy.canonicalBytes ast = .ok artifact.canonical) ∧
    (∀ generated ast, Policy.parse generated = .ok ast →
      ∃ canonical again, Policy.canonicalBytes ast = .ok canonical ∧
        Policy.parse canonical = .ok again ∧ again.target = ast.target ∧
        again.ttlSeconds = ast.ttlSeconds ∧
        Policy.canonicalBytes again = .ok canonical) ∧
    (∀ address : IPv4, address.isGlobalUnicast = true →
      ∀ artifact seconds,
        Capability.checkAddArtifact artifact address.toText = .ok seconds ↔
          ∃ ast, Policy.parse artifact = .ok ast ∧ ast.target = address ∧
            ast.ttlSeconds = seconds ∧
            Policy.canonicalBytes ast = .ok artifact) ∧
    (∀ policy candidate artifact,
      Policy.buildArtifact crypto policy candidate = .ok artifact →
      Capability.checkAddArtifact artifact.canonicalBytes policy.targetIPv4 =
        .ok policy.ttlSeconds) := by
  refine ⟨?_, ?_, ?_, ?_, ?_⟩
  · intro generated seconds
    constructor
    · rintro ⟨ast, parsed, rfl⟩
      exact ⟨_, NftValidate.canonicalize_eq_ok_iff.mpr
        ⟨ast, readStatement_eq_ok_iff.mp parsed, rfl, rfl⟩⟩
    · rintro ⟨artifact, accepted⟩
      obtain ⟨read, spells, duration, -⟩ :=
        NftValidate.canonicalize_eq_ok_iff.mp accepted
      exact ⟨read, readStatement_eq_ok_iff.mpr spells, duration⟩
  · intro generated seconds ast artifact parsed accepted
    obtain ⟨read, spells, rfl, rfl⟩ :=
      NftValidate.canonicalize_eq_ok_iff.mp accepted
    obtain rfl := (readStatement_eq_ok_iff.mp parsed).unique spells
    exact ⟨rfl, rfl, rfl, Policy.canonicalBytes_of_parse parsed⟩
  · intro generated ast parsed
    have spells := readStatement_eq_ok_iff.mp parsed
    have again : Policy.parse (statement ast.target.toText
        (canonicalToken ast.ttlSeconds)) = .ok
          ⟨ast.target, ast.ttlSeconds, canonicalToken ast.ttlSeconds⟩ :=
      readStatement_eq_ok_iff.mpr (spells_statement spells.unicast
        spells.token.lower spells.token.upper)
    exact ⟨_, _, Policy.canonicalBytes_of_parse parsed, again, rfl, rfl,
      Policy.canonicalBytes_of_parse again⟩
  · intro address unicast artifact seconds
    exact checkAddArtifact_iff_fixedPoint unicast
  · intro policy candidate artifact built
    exact checkAddArtifact_of_buildArtifact built

example :
    Policy.parse (ascii
      "add element inet sentinelflow blacklist_ipv4 \x7b 203.0.113.7 timeout 60m \x7d") =
      .ok ⟨⟨203, 0, 113, 7⟩, 3600, ascii "60m"⟩ := by
  decide +kernel

end SentinelFlow.Command
