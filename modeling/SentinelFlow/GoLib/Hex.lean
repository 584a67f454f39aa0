import SentinelFlow.GoLib.Bytes

/-!
# Hexadecimal text

Package `encoding/hex` writes lower-case digits and reads both cases.  On
lower-case text the two directions are inverse to each other.
-/

namespace GoLib.Hex

def digit (nibble : Nat) : UInt8 :=
  if nibble < 10 then UInt8.ofNat (48 + nibble)
  else UInt8.ofNat (87 + nibble)

def nibble? (byte : UInt8) : Option Nat :=
  if 48 ≤ byte ∧ byte ≤ 57 then some (byte.toNat - 48)
  else if 97 ≤ byte ∧ byte ≤ 102 then some (byte.toNat - 87)
  else if 65 ≤ byte ∧ byte ≤ 70 then some (byte.toNat - 55)
  else none

/-- The alphabet `[0-9a-f]`. -/
def isLowerHex (byte : UInt8) : Bool :=
  (48 ≤ byte && byte ≤ 57) || (97 ≤ byte && byte ≤ 102)

/-- `hex.EncodeToString`. -/
def encodeToString : Bytes → Bytes
  | [] => []
  | byte :: rest =>
      digit (byte.toNat / 16) :: digit (byte.toNat % 16) :: encodeToString rest

/-- `hex.DecodeString`. -/
def decodeString : Bytes → Option Bytes
  | [] => some []
  | [_] => none
  | high :: low :: rest =>
      match nibble? high, nibble? low, decodeString rest with
      | some upper, some lower, some bytes =>
          some (UInt8.ofNat (upper * 16 + lower) :: bytes)
      | _, _, _ => none

theorem nibble?_digit : ∀ nibble, nibble < 16 →
    nibble? (digit nibble) = some nibble ∧ isLowerHex (digit nibble) = true := by
  decide

private theorem digit_of_nibble? : ∀ byte : UInt8, ∀ nibble,
    isLowerHex byte = true → nibble? byte = some nibble →
      digit nibble = byte ∧ nibble < 16 := by
  intro byte nibble lower found
  have table : ∀ byte : UInt8, isLowerHex byte = true →
      (nibble? byte).all
        (fun nibble => digit nibble == byte && nibble < 16) = true := by
    decide +kernel
  have entry := table byte lower
  rw [found] at entry
  simpa using entry

theorem decodeString_encodeToString (bytes : Bytes) :
    decodeString (encodeToString bytes) = some bytes := by
  induction bytes with
  | nil => rfl
  | cons byte bytes induction =>
      have bound := byte.toNat_lt
      have high := (nibble?_digit (byte.toNat / 16) (by omega)).1
      have low := (nibble?_digit (byte.toNat % 16) (by omega)).1
      have value : byte.toNat / 16 * 16 + byte.toNat % 16 = byte.toNat := by
        omega
      simp only [encodeToString, decodeString, high, low, induction, value,
        UInt8.ofNat_toNat]

theorem nibble?_isSome_of_isLowerHex :
    ∀ byte : UInt8, isLowerHex byte = true → (nibble? byte).isSome = true := by
  decide +kernel

/-- Lower-case text of even length can be decoded. -/
theorem exists_decodeString
    {text : Bytes} (lower : ∀ byte ∈ text, isLowerHex byte = true)
    (even : text.length % 2 = 0) : ∃ bytes, decodeString text = some bytes := by
  induction text using decodeString.induct with
  | case1 => exact ⟨[], rfl⟩
  | case2 => simp at even
  | case3 high low rest upper lowNibble tail tailDecoded lowFound highFound =>
      refine ⟨UInt8.ofNat (upper * 16 + lowNibble) :: tail, ?_⟩
      simp only [decodeString, tailDecoded, highFound, lowFound]
  | case4 high low rest failed induction =>
      obtain ⟨upper, highFound⟩ := Option.isSome_iff_exists.mp
        (nibble?_isSome_of_isLowerHex high (lower high (by simp)))
      obtain ⟨lowNibble, lowFound⟩ := Option.isSome_iff_exists.mp
        (nibble?_isSome_of_isLowerHex low (lower low (by simp)))
      obtain ⟨tail, tailDecoded⟩ := induction
        (fun byte member => lower byte (by simp [member]))
        (by simp only [List.length_cons] at even; omega)
      exact absurd tailDecoded
        (failed upper lowNibble tail highFound lowFound)

theorem encodeToString_injective : Function.Injective encodeToString := by
  intro left right equality
  have decoded := congrArg decodeString equality
  simpa only [decodeString_encodeToString, Option.some.injEq] using decoded

theorem length_encodeToString (bytes : Bytes) :
    (encodeToString bytes).length = 2 * bytes.length := by
  induction bytes with
  | nil => rfl
  | cons byte bytes induction =>
      simp only [encodeToString, List.length_cons, induction]
      omega

theorem isLowerHex_of_mem_encodeToString
    {bytes : Bytes} {byte : UInt8} (member : byte ∈ encodeToString bytes) :
    isLowerHex byte = true := by
  induction bytes with
  | nil => simp [encodeToString] at member
  | cons head bytes induction =>
      have bound := head.toNat_lt
      simp only [encodeToString, List.mem_cons] at member
      rcases member with rfl | rfl | member
      · exact (nibble?_digit (head.toNat / 16) (by omega)).2
      · exact (nibble?_digit (head.toNat % 16) (by omega)).2
      · exact induction member

/-- Lower-case text of even length is the encoding of what it decodes to. -/
theorem encodeToString_of_decodeString
    {text bytes : Bytes}
    (lower : ∀ byte, byte ∈ text → isLowerHex byte = true)
    (decoded : decodeString text = some bytes) :
    encodeToString bytes = text := by
  induction text using decodeString.induct generalizing bytes with
  | case1 =>
      cases decoded
      rfl
  | case2 => cases decoded
  | case3 high low rest upper lowNibble tail tailDecoded lowFound highFound
      induction =>
      simp only [decodeString, tailDecoded, highFound, lowFound,
        Option.some.injEq] at decoded
      subst bytes
      obtain ⟨highText, highBound⟩ :=
        digit_of_nibble? high upper (lower high (by simp)) highFound
      obtain ⟨lowText, lowBound⟩ :=
        digit_of_nibble? low lowNibble (lower low (by simp)) lowFound
      have tailText := induction
        (fun byte member => lower byte (by simp [member])) tailDecoded
      have value : (UInt8.ofNat (upper * 16 + lowNibble)).toNat =
          upper * 16 + lowNibble := UInt8.toNat_ofNat_of_lt' (by
            show upper * 16 + lowNibble < 256
            omega)
      have highNibble : (upper * 16 + lowNibble) / 16 = upper := by omega
      have lowNibbleEq : (upper * 16 + lowNibble) % 16 = lowNibble := by omega
      simp only [encodeToString, value, highNibble, lowNibbleEq, highText,
        lowText, tailText]
  | case4 =>
      simp [decodeString] at decoded

end GoLib.Hex
