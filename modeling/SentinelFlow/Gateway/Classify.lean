import SentinelFlow.Events.Activity
import SentinelFlow.Gateway.Path
import SentinelFlow.GoLib.LowerCase

/-!
# Suspicious paths

The classification of a comparison path looks for ASCII patterns in its
lower-case form.  Escapes that are kept cannot take part in a match, but lower
case brings two code points into ASCII when they are not escaped.
-/

namespace SentinelFlow.Gateway

open GoLib Events

/-- The `switch` of `classifyPath` on the lower-case path. -/
def suspiciousPath (lowered : Bytes) : SuspiciousPathID :=
  if ascii "/admin" <+: lowered ∨ ascii "/administrator" <+: lowered then
    .adminConsole
  else if lowered = ascii "/.env" then .envFile
  else if lowered = ascii "/.git/config" then .gitConfig
  else if ascii "/wp-admin" <+: lowered ∨ lowered = ascii "/wp-login.php" then
    .wpAdmin
  else if ascii "/phpmyadmin" <+: lowered then .phpMyAdmin
  else if lowered = ascii "/server-status" then .serverStatus
  else if lowered = ascii "/actuator/env" then .actuatorEnv
  else if ascii ".bak" <:+ lowered ∨ ascii ".backup" <:+ lowered ∨
      ascii ".old" <:+ lowered ∨ ascii ".zip" <:+ lowered then .backupArchive
  else .none

def classifyPath (lower : LowerCase) (path loginPath loginLabel : Bytes) :
    Bytes × SuspiciousPathID :=
  (if path = loginPath then loginLabel else ascii "other",
    suspiciousPath (lower.text path))

/-! ## Matches do not depend on kept escapes -/

/-- The letters of the patterns are never escaped in a comparison path. -/
def Letter (byte : UInt8) : Prop :=
  isUnreserved byte = true ∨ byte = 47

/-- A pattern begins with a slash or a dot. -/
def Opening (byte : UInt8) : Prop :=
  byte = 47 ∨ byte = 46

private theorem letters_ascii (byte : UInt8) (used : Letter byte ∨ Opening byte) :
    byte < 0x80 := by
  have table : ∀ byte : UInt8, ((isUnreserved byte = true ∨ byte = 47) ∨
      byte = 47 ∨ byte = 46) → byte < 0x80 := by
    decide +kernel
  exact table byte used

def Spelled (pattern : Bytes) : Bool :=
  pattern.all fun byte => isUnreserved byte || byte == 47

private theorem letters_of_spelled {pattern : Bytes}
    (checked : Spelled pattern = true) : ∀ byte ∈ pattern, Letter byte := by
  intro byte member
  simpa [Letter] using List.all_eq_true.mp checked byte member

theorem suspiciousPath_of_agree
    {left right : Bytes} (agree : Agree Letter Opening left right) :
    suspiciousPath left = suspiciousPath right := by
  have leads {pattern : Bytes} (checked : Spelled pattern = true) :=
    agree.prefix_iff (letters_of_spelled checked)
  have same {pattern : Bytes} (checked : Spelled pattern = true) :=
    agree.eq_iff (letters_of_spelled checked)
  have ends {pattern : Bytes} (checked : Spelled pattern = true)
      (dot : pattern.head? = some 46) := by
    refine agree.suffix_iff (letters_of_spelled checked) ?_
    obtain ⟨others, rfl⟩ := List.head?_eq_some_iff.mp dot
    exact ⟨46, others, rfl, .inr rfl⟩
  unfold suspiciousPath
  simp (disch := decide +kernel) only [leads, same, ends]

/-- The escapes that a comparison path keeps agree with the bytes they stand
for. -/
theorem Reads.agree
    {previousSlash : Bool} {path output : Bytes}
    (reads : Reads previousSlash path output) :
    Agree Letter Opening (output.map asciiLower)
      ((Percent.decode output).map asciiLower) := by
  unfold Percent.decode
  induction reads with
  | nil => exact .nil
  | slash _ induction =>
      rw [Percent.mapEscapes_byte _ (by decide)]
      exact .keep _ induction
  | again _ induction => exact induction
  | copy copied _ induction =>
      rw [Percent.mapEscapes_byte _ copied.literal]
      exact .keep _ induction
  | unreserved _ needless _ induction =>
      obtain ⟨-, literal, -⟩ := copied_of_isUnreserved _ needless
      rw [Percent.mapEscapes_byte _ literal]
      exact .keep _ induction
  | @escape _ _ _ byte _ _ _ kept _ induction =>
      have digit : ∀ value : UInt8, ¬ Opening (asciiLower (upperHex value)) := by
        unfold Opening
        decide +kernel
      have same : ∀ byte : UInt8, isUnreserved byte = false →
          asciiLower byte = byte := by
        decide +kernel
      rw [mapEscapes_escapeOf, List.map_append, List.map_append]
      refine .replace ⟨asciiLower 37, [asciiLower (upperHex (byte >>> 4)),
        asciiLower (upperHex (byte &&& 0xF))], rfl, ?_, ?_⟩
        ⟨_, [], rfl, ?_, nofun⟩ induction
      · unfold Letter
        decide +kernel
      · simp only [List.forall_mem_cons, List.not_mem_nil, false_implies,
          implies_true, and_true]
        exact ⟨digit _, digit _⟩
      · rw [same byte kept.reserved]
        rintro (unreserved | slash)
        · rw [kept.reserved] at unreserved
          cases unreserved
        · exact kept.inner slash

/-- A text without the code points whose lower-case letter is in ASCII. -/
def Ordinary (text : Bytes) : Prop :=
  ∀ rune ∈ Utf8.runes text, rune ≠ 0x130 ∧ rune ≠ 0x212A

/-- The classification of such a comparison path is that of its bytes. -/
theorem classifyPath_eq_decoded
    (lower : LowerCase) {requestURI output : Bytes} {maxTarget maxPath : Int}
    (accepted : validateTarget requestURI maxTarget maxPath = some output)
    (ordinary : Ordinary output) (loginPath loginLabel : Bytes) :
    (classifyPath lower output loginPath loginLabel).2 =
      suspiciousPath ((Percent.collapse 47
        (Percent.decode (pathPart requestURI))).map asciiLower) := by
  have reads := (validateTarget_eq_some accepted).reads
  have decoded : Percent.decode output = Percent.collapse 47
      (Percent.decode (pathPart requestURI)) := reads.decode_eq
  rw [← decoded]
  exact (suspiciousPath_of_agree (lower.agree letters_ascii output
    ordinary)).trans (suspiciousPath_of_agree reads.agree)

/-- The table of package `unicode`, for ASCII and the two code points. -/
def asciiTable : LowerCase where
  toLower rune :=
    if rune < 0x80 then if 65 ≤ rune ∧ rune ≤ 90 then rune + 32 else rune
    else if rune = 0x130 then 105
    else if rune = 0x212A then 107
    else rune
  ascii _ small := if_pos small
  dotted := rfl
  kelvin := rfl
  high rune high dotted kelvin := by
    rw [if_neg (by omega), if_neg dotted, if_neg kelvin]
    exact high

/-- The Kelvin sign is a lower-case k unless it is escaped. -/
def kelvinPath : Bytes := ascii "/a.ba" ++ [0xE2, 0x84, 0xAA]

def escapedKelvinPath : Bytes := ascii "/a.ba%E2%84%AA"

end SentinelFlow.Gateway
