import SentinelFlow.Command.Statement
import SentinelFlow.Digest

/-!
# The validator's reading of a candidate

Package `nftvalidate` reads the same command again, this time together with the
timeout the policy states, and keeps its own canonical bytes.
-/

namespace SentinelFlow.NftValidate

open GoLib Command

/-- The rejections that reading a candidate can produce. -/
inductive ErrorCode where
  | candidateSyntaxInvalid
  | targetInvalid
  | ttlInvalid
  | ttlPolicyMismatch
deriving DecidableEq, Repr

structure Artifact where
  target : IPv4
  ttlSeconds : Nat
  inputTTLToken : Bytes
  canonicalToken : Bytes
  generated : Bytes
  generatedDigest : Bytes
  canonical : Bytes
  canonicalDigest : Bytes
deriving DecidableEq, Repr

def canonicalTTL (seconds : Nat) : Except ErrorCode Bytes :=
  Command.canonicalTTL .ttlInvalid seconds

def canonicalize (crypto : Crypto) (generated : Bytes)
    (policyTTLSeconds : Nat) : Except ErrorCode Artifact :=
  if policyTTLSeconds < minTTLSeconds ∨ policyTTLSeconds > maxTTLSeconds then
    .error .ttlInvalid
  else match readStatement .candidateSyntaxInvalid .targetInvalid .ttlInvalid
      generated with
  | .error code => .error code
  | .ok read =>
      if read.ttlSeconds ≠ policyTTLSeconds then .error .ttlPolicyMismatch
      else match canonicalTTL read.ttlSeconds with
      | .error code => .error code
      | .ok canonicalToken =>
          let canonical := statement read.target.toText canonicalToken
          .ok {
            target := read.target
            ttlSeconds := read.ttlSeconds
            inputTTLToken := read.inputTTLToken
            canonicalToken
            generated
            generatedDigest := digestText crypto generated
            canonical
            canonicalDigest := digestText crypto canonical }

/-- The artifact of a statement that was read with the policy's timeout. -/
def artifactOf (crypto : Crypto) (generated : Bytes) (read : AddStatement) :
    Artifact :=
  let canonical :=
    statement read.target.toText (canonicalToken read.ttlSeconds)
  { target := read.target
    ttlSeconds := read.ttlSeconds
    inputTTLToken := read.inputTTLToken
    canonicalToken := canonicalToken read.ttlSeconds
    generated
    generatedDigest := digestText crypto generated
    canonical
    canonicalDigest := digestText crypto canonical }

theorem canonicalize_eq_ok_iff
    {crypto : Crypto} {generated : Bytes} {policyTTLSeconds : Nat}
    {artifact : Artifact} :
    canonicalize crypto generated policyTTLSeconds = .ok artifact ↔
      ∃ read, Spells generated read ∧ read.ttlSeconds = policyTTLSeconds ∧
        artifact = artifactOf crypto generated read := by
  constructor
  · intro accepted
    unfold canonicalize at accepted
    split at accepted
    · cases accepted
    next inRange =>
      split at accepted
      · cases accepted
      next read found =>
        split at accepted
        · cases accepted
        next same =>
          have spells := readStatement_eq_ok_iff.mp found
          have lower := spells.token.lower
          have upper := spells.token.upper
          rw [canonicalTTL, Command.canonicalTTL, if_neg (by omega)] at accepted
          cases accepted
          exact ⟨read, spells, by simpa using same, rfl⟩
  · rintro ⟨read, spells, rfl, rfl⟩
    have lower := spells.token.lower
    have upper := spells.token.upper
    rw [canonicalize, if_neg (by omega), readStatement_eq_ok_iff.mpr spells]
    simp only [ne_eq, not_true_eq_false, if_false, canonicalTTL,
      Command.canonicalTTL]
    rw [if_neg (by omega)]
    rfl

end SentinelFlow.NftValidate
