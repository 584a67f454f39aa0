import SentinelFlow.Command.Statement
import SentinelFlow.Capability.Types

/-!
# Command artifacts of a capability

The executor releases only two kinds of command bytes.  The checks here accept
exactly the canonical spelling of an add or a delete for the stated target.
-/

namespace SentinelFlow.Capability

open GoLib Command

/-- `[0-9.]{7,15}` -/
def addressPattern : Regexp :=
  .bracket (fun byte => digitClass byte || byte == charByte '.') 7 15

def addPattern : Regexp :=
  statementPattern addressPattern (.literal (ascii " \x7d\n"))

def deleteHead : Bytes :=
  ascii "delete element inet sentinelflow blacklist_ipv4 \x7b "

def revokePattern : Regexp :=
  .seq (.literal deleteHead)
    (.seq (.group addressPattern) (.literal (ascii " \x7d\n")))

/-- The bytes of a delete statement. -/
def deleteStatement (address : Bytes) : Bytes :=
  deleteHead ++ address ++ ascii " \x7d\n"

def checkAddArtifact (artifact target : Bytes) : Except ErrorCode Nat :=
  if artifact = [] ∨ artifact.length > maxArtifactBytes then .error .artifact
  else match addPattern.findSubmatch artifact with
  | some [address, token] =>
      if address ≠ target then .error .artifact
      else match IPv4.parseAddr address with
      | none => .error .artifact
      | some parsed =>
          if parsed.toText ≠ target then .error .artifact
          else match parseUint 32 token.dropLast with
          | none => .error .artifact
          | some number =>
              let seconds := number * unitSeconds (token.getLastD 0)
              if seconds < 60 ∨ seconds > 86400 ∨
                  canonicalToken seconds ≠ token then
                .error .artifact
              else .ok seconds
  | _ => .error .artifact

def checkRevokeArtifact (artifact target : Bytes) : Except ErrorCode Unit :=
  if artifact = [] ∨ artifact.length > maxArtifactBytes then .error .artifact
  else match revokePattern.findSubmatch artifact with
  | some [address] =>
      if address ≠ target then .error .artifact
      else match IPv4.parseAddr address with
      | none => .error .artifact
      | some parsed =>
          if parsed.toText ≠ target then .error .artifact else .ok ()
  | _ => .error .artifact

private theorem addressPattern_shape : AddressPattern addressPattern := by
  constructor
  · rintro word captures ⟨-, -, -, rfl⟩
    rfl
  · intro word captures matched member
    have letter := matched.letter 32 member
    revert letter
    decide

private theorem lineEnding_shape :
    EndingPattern (.literal (ascii " \x7d\n")) := by
  constructor
  · rintro word captures ⟨-, rfl⟩
    rfl
  · rintro word captures ⟨rfl, -⟩
    exact ⟨_, rfl⟩

private theorem addressPattern_toText (address : IPv4) :
    addressPattern.Matches address.toText [] := by
  refine ⟨(IPv4.length_toText address).1, (IPv4.length_toText address).2, ?_,
    rfl⟩
  intro byte member
  exact IPv4.toText_letter member

variable {artifact : Bytes} {seconds : Nat}

private theorem findSubmatch_addPattern
    (address : IPv4) {token : Bytes}
    (denotes : Token token seconds) :
    addPattern.findSubmatch (statement address.toText token) =
      some [address.toText, token] :=
  (findSubmatch_statementPattern_iff addressPattern_shape
    lineEnding_shape).mpr ⟨_, _, _, rfl, by simp [statement],
      addressPattern_toText address, denotes.matches, rfl, rfl⟩

private theorem parse_token
    {token : Bytes} (denotes : Token token seconds) :
    ∃ number, parseUint 32 token.dropLast = some number ∧
      number * unitSeconds (token.getLastD 0) = seconds := by
  obtain ⟨lead, digits, unit, rfl, range, short, all, -, duration⟩ :=
    denotes.shape
  obtain ⟨-, number⟩ := parseUint_ttlNumber range short all
    (show 10 ^ 5 ≤ 2 ^ 32 by decide)
  refine ⟨decimalValue (lead :: digits), ?_, ?_⟩
  · rw [List.dropLast_concat, number]
  · rw [List.getLastD_concat, duration]

/-- An add artifact is the canonical statement for its target. -/
theorem checkAddArtifact_eq_ok_iff
    {target : Bytes} :
    checkAddArtifact artifact target = .ok seconds ↔
      IPv4.canonicalText target = true ∧
        artifact = statement target (canonicalToken seconds) ∧
        60 ≤ seconds ∧ seconds ≤ 86400 := by
  constructor
  · intro accepted
    unfold checkAddArtifact at accepted
    split at accepted
    · cases accepted
    split at accepted
    · next address token found =>
        obtain ⟨_, _, tail, captures, rfl, -, -, rfl, -⟩ :=
          (findSubmatch_statementPattern_iff addressPattern_shape
            lineEnding_shape).mp found
        simp only [List.cons.injEq, and_true] at captures
        obtain ⟨rfl, rfl⟩ := captures
        split at accepted
        · cases accepted
        next same =>
          obtain rfl : address = target := by simpa using same
          split at accepted
          · cases accepted
          next parsed parsedAddress =>
            split at accepted
            · cases accepted
            next spelled =>
              split at accepted
              · cases accepted
              next number numeral =>
                dsimp only at accepted
                split at accepted
                · cases accepted
                next admitted =>
                  simp only [not_or, not_not] at admitted
                  cases accepted
                  refine ⟨?_, ?_, by omega, by omega⟩
                  · exact IPv4.canonicalText_iff.mpr
                      ⟨parsed, by simpa using spelled⟩
                  · rw [admitted.2.2]
                    simp [statement]
    · cases accepted
  · rintro ⟨canonical, rfl, lower, upper⟩
    obtain ⟨address, rfl⟩ := IPv4.canonicalText_iff.mp canonical
    have denotes : Token (canonicalToken seconds) seconds :=
      token_canonicalToken lower upper
    obtain ⟨number, numeral, duration⟩ := parse_token denotes
    have found := findSubmatch_addPattern address denotes
    have length := (Regexp.matches_of_findSubmatch found).length_le
    have least : 47 ≤ addPattern.minLength := by decide
    have most : addPattern.maxLength ≤ maxArtifactBytes := by decide
    have nonempty : statement address.toText (canonicalToken seconds) ≠ [] := by
      intro empty
      rw [empty, List.length_nil] at length
      omega
    rw [checkAddArtifact, if_neg (by simp only [nonempty, false_or]; omega)]
    simp only [found, ne_eq, not_true_eq_false, if_false,
      IPv4.parseAddr_toText, numeral, duration, or_false]
    rw [if_neg (by omega)]

private theorem findSubmatch_revokePattern_iff
    {captures : List Bytes} :
    revokePattern.findSubmatch artifact = some captures ↔
      ∃ address, captures = [address] ∧ artifact = deleteStatement address ∧
        addressPattern.Matches address [] := by
  have shape : ∀ {captures}, revokePattern.Matches artifact captures ↔
      ∃ address, captures = [address] ∧ artifact = deleteStatement address ∧
        addressPattern.Matches address [] := by
    intro captures
    constructor
    · rintro ⟨_, _, _, _, rfl, rfl, ⟨rfl, rfl⟩, address, _, _, _, rfl, rfl,
        ⟨_, rfl, matched⟩, rfl, rfl⟩
      obtain rfl := addressPattern_shape.captures matched
      exact ⟨address, rfl, by simp [deleteStatement], matched⟩
    · rintro ⟨address, rfl, rfl, matched⟩
      exact ⟨_, _, [], [address], by rw [deleteStatement, List.append_assoc],
        rfl, ⟨rfl, rfl⟩, address, _, [address], [], rfl, rfl,
        ⟨[], rfl, matched⟩, rfl, rfl⟩
  rw [Regexp.findSubmatch_eq_some_iff, shape]
  intro left right leftMatches rightMatches
  obtain ⟨address, rfl, text, -⟩ := shape.mp leftMatches
  obtain ⟨other, rfl, otherText, -⟩ := shape.mp rightMatches
  have same := List.append_cancel_right (text.symm.trans otherText)
  rw [List.append_cancel_left same]

theorem checkRevokeArtifact_eq_ok_iff {target : Bytes} :
    checkRevokeArtifact artifact target = .ok () ↔
      IPv4.canonicalText target = true ∧
        artifact = deleteStatement target := by
  constructor
  · intro accepted
    unfold checkRevokeArtifact at accepted
    split at accepted
    · cases accepted
    split at accepted
    · next address found =>
        obtain ⟨_, captures, rfl, -⟩ :=
          findSubmatch_revokePattern_iff.mp found
        simp only [List.cons.injEq, and_true] at captures
        subst captures
        split at accepted
        · cases accepted
        next same =>
          obtain rfl : address = target := by simpa using same
          split at accepted
          · cases accepted
          next parsed parsedAddress =>
            split at accepted
            · cases accepted
            next spelled =>
              exact ⟨IPv4.canonicalText_iff.mpr
                ⟨parsed, by simpa using spelled⟩, rfl⟩
    · cases accepted
  · rintro ⟨canonical, rfl⟩
    obtain ⟨address, rfl⟩ := IPv4.canonicalText_iff.mp canonical
    have found := findSubmatch_revokePattern_iff.mpr
      ⟨_, rfl, rfl, addressPattern_toText address⟩
    have length := (Regexp.matches_of_findSubmatch found).length_le
    have least : 47 ≤ revokePattern.minLength := by decide
    have most : revokePattern.maxLength ≤ maxArtifactBytes := by decide
    have nonempty : deleteStatement address.toText ≠ [] := by
      intro empty
      rw [empty, List.length_nil] at length
      omega
    rw [checkRevokeArtifact, if_neg (by simp only [nonempty, false_or]; omega)]
    simp only [found, ne_eq, not_true_eq_false, if_false,
      IPv4.parseAddr_toText]

end SentinelFlow.Capability
