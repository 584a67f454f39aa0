import SentinelFlow.GoLib.Crypto
import SentinelFlow.GoLib.Hex
import SentinelFlow.GoLib.Regexp

/-!
# Digest texts

Every package writes a SHA-256 digest as the algorithm's name, a colon and 64
lower-case hexadecimal digits.
-/

namespace SentinelFlow

open GoLib

def digestLabel : Bytes := ascii "sha256:"

/-- The text of the SHA-256 digest of some bytes. -/
def digestText (crypto : Crypto) (data : Bytes) : Bytes :=
  digestLabel ++ Hex.encodeToString (crypto.sha256 data)

/-- `^sha256:[0-9a-f]{64}$` -/
def digestPattern : Regexp :=
  .seq (.literal digestLabel) (.bracket lowerHexClass 64 64)

theorem digestPattern_iff {text : Bytes} :
    digestPattern.matchString text = true ↔
      ∃ hex, text = digestLabel ++ hex ∧ hex.length = 64 ∧
        ∀ byte ∈ hex, Hex.isLowerHex byte = true := by
  rw [Regexp.matchString_iff]
  constructor
  · rintro ⟨_, _, hex, _, _, rfl, -, ⟨rfl, -⟩, least, most, lower, -⟩
    exact ⟨hex, rfl, Nat.le_antisymm most least, lower⟩
  · rintro ⟨hex, rfl, length, lower⟩
    exact ⟨[], _, hex, [], [], rfl, rfl, ⟨rfl, rfl⟩, by omega, by omega, lower,
      rfl⟩

theorem digestPattern_digestText (crypto : Crypto) (data : Bytes) :
    digestPattern.matchString (digestText crypto data) = true := by
  refine digestPattern_iff.mpr ⟨_, rfl, ?_, ?_⟩
  · rw [Hex.length_encodeToString, crypto.length_sha256]
  · intro byte member
    exact Hex.isLowerHex_of_mem_encodeToString member

/-- Equal digest texts come from equal digests. -/
theorem sha256_eq_of_digestText_eq
    {crypto : Crypto} {left right : Bytes}
    (equality : digestText crypto left = digestText crypto right) :
    crypto.sha256 left = crypto.sha256 right :=
  Hex.encodeToString_injective (List.append_cancel_left equality)

/-- The comparison of decoded digests in package `capability`. -/
def digestEqual (left right : Bytes) : Bool :=
  if !digestPattern.matchString left || !digestPattern.matchString right then
    false
  else match Hex.decodeString (left.drop digestLabel.length),
      Hex.decodeString (right.drop digestLabel.length) with
  | some leftBytes, some rightBytes => leftBytes == rightBytes
  | _, _ => false

theorem digestEqual_iff {left right : Bytes} :
    digestEqual left right = true ↔
      digestPattern.matchString left = true ∧ left = right := by
  constructor
  · intro equal
    unfold digestEqual at equal
    split at equal
    · cases equal
    next matched =>
      simp only [Bool.or_eq_true, Bool.not_eq_true', not_or,
        Bool.not_eq_false] at matched
      obtain ⟨leftHex, rfl, -, leftLower⟩ := digestPattern_iff.mp matched.1
      obtain ⟨rightHex, rfl, -, rightLower⟩ := digestPattern_iff.mp matched.2
      refine ⟨matched.1, ?_⟩
      simp only [List.drop_left] at equal
      split at equal
      · next leftBytes rightBytes leftDecoded rightDecoded =>
          have same : leftBytes = rightBytes := by simpa using equal
          rw [← Hex.encodeToString_of_decodeString leftLower leftDecoded, same,
            Hex.encodeToString_of_decodeString rightLower rightDecoded]
      · cases equal
  · rintro ⟨matched, rfl⟩
    obtain ⟨hex, rfl, length, lower⟩ := digestPattern_iff.mp matched
    obtain ⟨bytes, decoded⟩ := Hex.exists_decodeString lower (by omega)
    simp only [digestEqual, matched, List.drop_left, decoded]
    simp

end SentinelFlow
