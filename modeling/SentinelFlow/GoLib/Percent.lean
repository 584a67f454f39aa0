import SentinelFlow.GoLib.Hex

/-!
# Percent escapes

A text in which a percent sign and two hexadecimal digits stand for a byte.
Every pass over the escapes of a text is `mapEscapes` with its own
replacement; what is not a well-formed escape is kept.
-/

namespace GoLib.Percent

/-- The byte that two hexadecimal digits stand for. -/
def escaped? (high low : UInt8) : Option UInt8 :=
  match Hex.nibble? high, Hex.nibble? low with
  | some upper, some lower => some (UInt8.ofNat (upper * 16 + lower))
  | _, _ => none

/-- Replaces every escape, given its two digits and the byte they stand for. -/
def mapEscapes (replace : UInt8 → UInt8 → UInt8 → Bytes) : Bytes → Bytes
  | [] => []
  | byte :: rest =>
      if byte = 37 then
        match rest with
        | high :: low :: after =>
            match escaped? high low with
            | some decoded => replace high low decoded ++
                mapEscapes replace after
            | none => byte :: mapEscapes replace (high :: low :: after)
        | short => byte :: short
      else byte :: mapEscapes replace rest

/-- The bytes that a text with escapes stands for. -/
def decode : Bytes → Bytes :=
  mapEscapes fun _ _ decoded => [decoded]

def upperCaseDigit (digit : UInt8) : UInt8 :=
  if 97 ≤ digit ∧ digit ≤ 102 then digit - 32 else digit

def upperCaseEscapes : Bytes → Bytes :=
  mapEscapes fun high low _ => [37, upperCaseDigit high, upperCaseDigit low]

/-- Decodes only the escapes of the bytes that need none. -/
def decodeOnly (needless : UInt8 → Bool) : Bytes → Bytes :=
  mapEscapes fun high low decoded =>
    if needless decoded then [decoded] else [37, high, low]

/-- Keeps the first separator of every run, given whether one came before. -/
def collapseFrom (separator : UInt8) (after : Bool) : Bytes → Bytes
  | [] => []
  | byte :: rest =>
      if byte = separator ∧ after then collapseFrom separator true rest
      else byte :: collapseFrom separator (byte == separator) rest

def collapse (separator : UInt8) : Bytes → Bytes :=
  collapseFrom separator false

theorem mapEscapes_byte
    (replace : UInt8 → UInt8 → UInt8 → Bytes) {byte : UInt8}
    (literal : byte ≠ 37) (rest : Bytes) :
    mapEscapes replace (byte :: rest) = byte :: mapEscapes replace rest := by
  rw [mapEscapes.eq_def]
  exact if_neg literal

theorem mapEscapes_escape
    (replace : UInt8 → UInt8 → UInt8 → Bytes) {high low decoded : UInt8}
    (digits : escaped? high low = some decoded) (rest : Bytes) :
    mapEscapes replace (37 :: high :: low :: rest) =
      replace high low decoded ++ mapEscapes replace rest := by
  simp only [mapEscapes, if_true, digits]

theorem collapseFrom_byte
    {separator byte : UInt8} (other : byte ≠ separator) (after : Bool)
    (rest : Bytes) :
    collapseFrom separator after (byte :: rest) =
      byte :: collapseFrom separator false rest := by
  simp only [collapseFrom, other, false_and, if_false,
    beq_eq_false_iff_ne.mpr other]

end GoLib.Percent
