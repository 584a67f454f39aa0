import SentinelFlow.GoLib.Bytes

/-!
# UTF-8

The part of package `unicode/utf8` that the text formats need: the width of a
valid sequence, validity of a whole text, the encoding of a code point, and the
replacement of every octet that is not part of a valid sequence.
-/

namespace GoLib.Utf8

/-- A continuation octet of UTF-8, or a narrower range after some lead octets. -/
def inRange (low high byte : UInt8) : Bool :=
  low ≤ byte && byte ≤ high

/-- The number of octets of the valid UTF-8 sequence at the start of the text,
zero if there is none (`utf8.DecodeRune` reports an error of width one). -/
def runeLength : Bytes → Nat
  | [] => 0
  | lead :: rest =>
      if lead < 0x80 then 1
      else match rest with
      | [] => 0
      | second :: rest =>
          if inRange 0xC2 0xDF lead then
            if inRange 0x80 0xBF second then 2 else 0
          else match rest with
          | [] => 0
          | third :: rest =>
              if inRange 0xE0 0xEF lead then
                let low := if lead = 0xE0 then 0xA0 else 0x80
                let high := if lead = 0xED then 0x9F else 0xBF
                if inRange low high second && inRange 0x80 0xBF third then 3
                else 0
              else match rest with
              | [] => 0
              | fourth :: _ =>
                  let low := if lead = 0xF0 then 0x90 else 0x80
                  let high := if lead = 0xF4 then 0x8F else 0xBF
                  if inRange 0xF0 0xF4 lead && inRange low high second &&
                      inRange 0x80 0xBF third && inRange 0x80 0xBF fourth then 4
                  else 0

/-- `utf8.Valid`, where `pending` octets of the current sequence are left. -/
def validFrom (pending : Nat) : Bytes → Bool
  | [] => true
  | byte :: rest =>
      match pending with
      | pending + 1 => validFrom pending rest
      | 0 => match runeLength (byte :: rest) with
        | 0 => false
        | length + 1 => validFrom length rest

/-- Whether a whole text is valid UTF-8. -/
def valid (text : Bytes) : Bool :=
  validFrom 0 text

/-- `utf8.EncodeRune`; surrogates and values beyond Unicode are replaced. -/
def encodeRune (rune : Nat) : Bytes :=
  if rune < 0x80 then [UInt8.ofNat rune]
  else if rune < 0x800 then
    [UInt8.ofNat (0xC0 + rune / 64), UInt8.ofNat (0x80 + rune % 64)]
  else if (0xD800 ≤ rune ∧ rune < 0xE000) ∨ 0x110000 ≤ rune then
    [0xEF, 0xBF, 0xBD]
  else if rune < 0x10000 then
    [UInt8.ofNat (0xE0 + rune / 4096), UInt8.ofNat (0x80 + rune / 64 % 64),
      UInt8.ofNat (0x80 + rune % 64)]
  else
    [UInt8.ofNat (0xF0 + rune / 262144), UInt8.ofNat (0x80 + rune / 4096 % 64),
      UInt8.ofNat (0x80 + rune / 64 % 64), UInt8.ofNat (0x80 + rune % 64)]

/-- Every octet outside a valid sequence becomes the replacement character. -/
def coerceFrom (pending : Nat) : Bytes → Bytes
  | [] => []
  | byte :: rest =>
      match pending with
      | pending + 1 => byte :: coerceFrom pending rest
      | 0 => match runeLength (byte :: rest) with
        | 0 => 0xEF :: 0xBF :: 0xBD :: coerceFrom 0 rest
        | length + 1 => byte :: coerceFrom length rest

theorem runeLength_ascii
    {byte : UInt8} (small : byte < 0x80) (rest : Bytes) :
    runeLength (byte :: rest) = 1 := by
  simp only [runeLength, if_pos small]

theorem valid_ascii
    {text : Bytes} (small : ∀ byte ∈ text, byte < 0x80) :
    valid text = true := by
  unfold valid
  induction text with
  | nil => rfl
  | cons head tail induction =>
      have one := runeLength_ascii (small head (by simp)) tail
      have rest := induction
        (fun byte member => small byte (List.mem_cons_of_mem _ member))
      simpa only [validFrom, one] using rest

end GoLib.Utf8
