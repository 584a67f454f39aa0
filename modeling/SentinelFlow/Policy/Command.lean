import SentinelFlow.Command.Statement
import SentinelFlow.Digest

/-!
# The policy gate for block commands

Package `policy` reads the command an analysis proposed, checks it against the
policy it belongs to and freezes the canonical bytes that will be executed.
-/

namespace SentinelFlow.Policy

open GoLib Command

inductive ErrorCode where
  | syntaxInvalid
  | targetInvalid
  | ttlInvalid
  | schemaInvalid
  | actionInvalid
  | evidenceInvalid
  | targetMismatch
  | ttlMismatch
  | candidateMismatch
deriving DecidableEq, Repr

def policySchemaVersion : Bytes := ascii "response-policy-v1"

def candidateSchemaVersion : Bytes := ascii "nft-blacklist-v1"

def actionBlockIP : Bytes := ascii "block_ip"

def maxEvidenceIDs : Nat := 50

abbrev AST := AddStatement

def parse (generated : Bytes) : Except ErrorCode AST :=
  readStatement .syntaxInvalid .targetInvalid .ttlInvalid generated

def parseTTL (token : Bytes) : Except ErrorCode Nat :=
  Command.parseTTL .ttlInvalid token

def canonicalTTL (seconds : Nat) : Except ErrorCode Bytes :=
  Command.canonicalTTL .ttlInvalid seconds

def canonicalBytes (ast : AST) : Except ErrorCode Bytes :=
  if ¬ ast.target.isGlobalUnicast ∨ ast.target.toText = [] then
    .error .targetInvalid
  else match canonicalTTL ast.ttlSeconds with
  | .error code => .error code
  | .ok token => .ok (statement ast.target.toText token)

/-- The part of a response policy that the command must agree with. -/
structure PolicyInput where
  schemaVersion : Bytes
  action : Bytes
  targetIPv4 : Bytes
  ttlSeconds : Nat
  evidenceIDs : List Bytes

/-- The command an analysis proposed, with its structured fields. -/
structure Candidate where
  schemaVersion : Bytes
  targetIPv4 : Bytes
  timeoutToken : Bytes
  evidenceIDs : List Bytes
  generatedBytes : Bytes

structure Artifact where
  ast : AST
  generatedBytes : Bytes
  generatedDigest : Bytes
  canonicalBytes : Bytes
  canonicalDigest : Bytes
  canonicalToken : Bytes
  evidenceIDs : List Bytes
deriving DecidableEq, Repr

def evidenceIDPattern : Regexp :=
  .seq (.bracket lowerHexClass 8 8) (.seq (.literal (ascii "-"))
    (.seq (.bracket lowerHexClass 4 4) (.seq (.literal (ascii "-"))
      (.seq (.bracket lowerHexClass 4 4) (.seq (.literal (ascii "-"))
        (.seq (.bracket lowerHexClass 4 4) (.seq (.literal (ascii "-"))
          (.bracket lowerHexClass 12 12))))))))

/-- The identifiers after `previous` are well formed and strictly ascending. -/
def ascendingFrom (previous : Option Bytes) : List Bytes → Bool
  | [] => true
  | id :: rest =>
      evidenceIDPattern.matchString id &&
        previous.all (fun earlier => decide (earlier < id)) &&
        ascendingFrom (some id) rest

def validEvidenceIDs (ids : List Bytes) : Bool :=
  decide (ids ≠ [] ∧ ids.length ≤ maxEvidenceIDs) && ascendingFrom none ids

def buildArtifact (crypto : Crypto) (policy : PolicyInput)
    (candidate : Candidate) : Except ErrorCode Artifact :=
  if policy.schemaVersion ≠ policySchemaVersion ∨
      candidate.schemaVersion ≠ candidateSchemaVersion then
    .error .schemaInvalid
  else if policy.action ≠ actionBlockIP then .error .actionInvalid
  else if ¬ validEvidenceIDs policy.evidenceIDs ∨
      ¬ validEvidenceIDs candidate.evidenceIDs ∨
      policy.evidenceIDs ≠ candidate.evidenceIDs then
    .error .evidenceInvalid
  else match parse candidate.generatedBytes with
  | .error code => .error code
  | .ok ast =>
      if candidate.targetIPv4 ≠ ast.target.toText ∨
          policy.targetIPv4 ≠ ast.target.toText then
        .error .targetMismatch
      else if candidate.timeoutToken ≠ ast.inputTTLToken then
        .error .candidateMismatch
      else if policy.ttlSeconds ≠ ast.ttlSeconds then .error .ttlMismatch
      else match canonicalTTL ast.ttlSeconds with
      | .error code => .error code
      | .ok canonicalToken =>
          match canonicalBytes ast with
          | .error code => .error code
          | .ok canonical => .ok {
              ast
              generatedBytes := candidate.generatedBytes
              generatedDigest := digestText crypto candidate.generatedBytes
              canonicalBytes := canonical
              canonicalDigest := digestText crypto canonical
              canonicalToken
              evidenceIDs := policy.evidenceIDs }

/-- A parsed command always has canonical bytes. -/
theorem canonicalBytes_of_parse
    {generated : Bytes} {ast : AST} (parsed : parse generated = .ok ast) :
    canonicalBytes ast =
      .ok (statement ast.target.toText (canonicalToken ast.ttlSeconds)) := by
  have spells := readStatement_eq_ok_iff.mp parsed
  have lower := spells.token.lower
  have upper := spells.token.upper
  have nonempty : ast.target.toText ≠ [] := by
    have length := (IPv4.length_toText ast.target).1
    intro empty
    rw [empty, List.length_nil] at length
    omega
  rw [canonicalBytes, if_neg (by simp [spells.unicast, nonempty]), canonicalTTL,
    Command.canonicalTTL, if_neg (by omega)]

end SentinelFlow.Policy
