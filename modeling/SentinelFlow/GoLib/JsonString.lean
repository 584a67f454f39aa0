import SentinelFlow.GoLib.Base64
import SentinelFlow.GoLib.Hex
import SentinelFlow.GoLib.Utf8

/-!
# String literals of `encoding/json`

The writer escapes the HTML-sensitive characters, the control characters, the
two line separators and every octet that is not part of valid UTF-8.  The
reader scans the raw literal first and then undoes the escapes; what is not
valid UTF-8 becomes the replacement character.  A text made of `plainByte`s is
written without any escape and read back unchanged.
-/

namespace GoLib.Json

open Utf8

/-- The two-character escapes after a reverse solidus. -/
def simpleEscape? (byte : UInt8) : Option UInt8 :=
  if byte = charByte '"' then some (charByte '"')
  else if byte = charByte '\\' then some (charByte '\\')
  else if byte = charByte '/' then some (charByte '/')
  else if byte = charByte 'b' then some 8
  else if byte = charByte 'f' then some 12
  else if byte = charByte 'n' then some 10
  else if byte = charByte 'r' then some 13
  else if byte = charByte 't' then some 9
  else none

/-- The code unit written by four hexadecimal digits. -/
def codeUnit? (first second third fourth : UInt8) : Option Nat :=
  match Hex.nibble? first, Hex.nibble? second,
    Hex.nibble? third, Hex.nibble? fourth with
  | some a, some b, some c, some d => some (a * 4096 + b * 256 + c * 16 + d)
  | _, _, _, _ => none

/-- Where the scanner stands inside a string literal. -/
inductive Inside
  | text
  | escape
  | hex (left : Nat)

/-- The raw literal up to its closing quotation mark, and what follows it. -/
def scanString : Inside → Bytes → Option (Bytes × Bytes)
  | _, [] => none
  | .text, byte :: rest =>
      if byte = charByte '"' then some ([], rest)
      else if byte < 0x20 then none
      else
        let next := if byte = charByte '\\' then Inside.escape else .text
        (scanString next rest).map fun (raw, after) => (byte :: raw, after)
  | .escape, byte :: rest =>
      if byte = charByte 'u' then
        (scanString (.hex 3) rest).map fun (raw, after) => (byte :: raw, after)
      else if (simpleEscape? byte).isSome then
        (scanString .text rest).map fun (raw, after) => (byte :: raw, after)
      else none
  | .hex left, byte :: rest =>
      if (Hex.nibble? byte).isSome then
        let next := if left = 0 then Inside.text else .hex (left - 1)
        (scanString next rest).map fun (raw, after) => (byte :: raw, after)
      else none

/-- The code unit of an escape that directly follows, as `getu4` reads it. -/
def leadingUnit? : Bytes → Option Nat
  | slash :: letter :: first :: second :: third :: fourth :: _ =>
      if slash = charByte '\\' ∧ letter = charByte 'u' then
        codeUnit? first second third fourth
      else none
  | _ => none

/-- `utf16.DecodeRune` on a surrogate pair. -/
def surrogatePair? (high low : Nat) : Option Nat :=
  if 0xD800 ≤ high ∧ high < 0xDC00 ∧ 0xDC00 ≤ low ∧ low < 0xE000 then
    some ((high - 0xD800) * 0x400 + (low - 0xDC00) + 0x10000)
  else none

/-- The text of one escape, given what follows the reverse solidus, and the
number of octets it takes.  A surrogate pair takes its second half along. -/
def escapeSequence : Bytes → Bytes × Nat
  | [] => ([], 0)
  | escaped :: rest =>
      if escaped = charByte 'u' then
        match rest with
        | first :: second :: third :: fourth :: rest =>
            let unit := (codeUnit? first second third fourth).getD 0xFFFD
            match (leadingUnit? rest).bind (surrogatePair? unit) with
            | some rune => (encodeRune rune, 11)
            | none => (encodeRune unit, 5)
        | _ => ([], 0)
      else ([(simpleEscape? escaped).getD escaped], 1)

/-- Undoes the escapes of a scanned literal; `skip` octets are already read. -/
def unescapeFrom (skip : Nat) : Bytes → Bytes
  | [] => []
  | byte :: rest =>
      match skip with
      | skip + 1 => unescapeFrom skip rest
      | 0 =>
          if byte = charByte '\\' then
            (escapeSequence rest).1 ++ unescapeFrom (escapeSequence rest).2 rest
          else byte :: unescapeFrom 0 rest

/-- The text denoted by a raw literal. -/
def unquote (raw : Bytes) : Bytes :=
  unescapeFrom 0 (coerceFrom 0 raw)

/-- The octets that the writer copies and the reader takes as they are: ASCII
without control characters, quotation mark, reverse solidus and `<`, `>`, `&`. -/
def plainByte (byte : UInt8) : Bool :=
  0x20 ≤ byte && byte < 0x80 && byte != charByte '"' && byte != charByte '\\' &&
    byte != charByte '<' && byte != charByte '>' && byte != charByte '&'

/-- The escape of an ASCII octet that is not plain. -/
def escapeByte (byte : UInt8) : Bytes :=
  if byte = charByte '"' ∨ byte = charByte '\\' then [charByte '\\', byte]
  else if byte = 8 then ascii "\\b"
  else if byte = 12 then ascii "\\f"
  else if byte = 10 then ascii "\\n"
  else if byte = 13 then ascii "\\r"
  else if byte = 9 then ascii "\\t"
  else ascii "\\u00" ++ Hex.encodeToString [byte]

/-- The body `appendString` writes; `pending` octets of the current sequence
are still to be copied, or to be left out after an escaped line separator. -/
def escapeFrom (copy : Bool) (pending : Nat) : Bytes → Bytes
  | [] => []
  | byte :: rest =>
      match pending with
      | pending + 1 =>
          if copy then byte :: escapeFrom copy pending rest
          else escapeFrom copy pending rest
      | 0 =>
          if plainByte byte then byte :: escapeFrom true 0 rest
          else if byte < 0x80 then escapeByte byte ++ escapeFrom true 0 rest
          else match runeLength (byte :: rest) with
          | 0 => ascii "\\ufffd" ++ escapeFrom true 0 rest
          | length + 1 =>
              if byte :: rest.take 2 = [0xE2, 0x80, 0xA8] then
                ascii "\\u2028" ++ escapeFrom false length rest
              else if byte :: rest.take 2 = [0xE2, 0x80, 0xA9] then
                ascii "\\u2029" ++ escapeFrom false length rest
              else byte :: escapeFrom true length rest

/-- `json.Marshal` of a string. -/
def quote (text : Bytes) : Bytes :=
  charByte '"' :: escapeFrom true 0 text ++ [charByte '"']

/-- A text whose octets are all plain. -/
def Plain (text : Bytes) : Prop :=
  ∀ byte ∈ text, plainByte byte = true

instance (text : Bytes) : Decidable (Plain text) :=
  decidable_of_iff (text.all plainByte = true) List.all_eq_true

private theorem plainByte_facts :
    ∀ byte : UInt8, plainByte byte = true →
      byte < 0x80 ∧ byte ≠ charByte '"' ∧ byte ≠ charByte '\\' ∧
        ¬ byte < 0x20 := by
  decide +kernel

private theorem Plain.tail
    {head : UInt8} {tail : Bytes} (plain : Plain (head :: tail)) :
    Plain tail :=
  fun byte member => plain byte (List.mem_cons_of_mem _ member)

variable {text : Bytes}

theorem Plain.ascii (plain : Plain text) :
    ∀ byte ∈ text, byte < 0x80 :=
  fun byte member => (plainByte_facts byte (plain byte member)).1

/-- A base64url text is plain. -/
theorem plain_base64 (bytes : Bytes) : Plain (Base64.encode bytes) := by
  have letters : ∀ byte : UInt8, Base64.isSymbol byte = true →
      plainByte byte = true := by
    decide +kernel
  exact fun byte member =>
    letters byte (Base64.isSymbol_of_mem_encode member)

theorem scanString_plain
    (plain : Plain text) (after : Bytes) :
    scanString .text (text ++ charByte '"' :: after) = some (text, after) := by
  induction text with
  | nil => simp [scanString]
  | cons head tail induction =>
      obtain ⟨-, noQuote, noEscape, printable⟩ :=
        plainByte_facts head (plain head (by simp))
      simp [scanString, noQuote, noEscape, printable, induction plain.tail]

private theorem coerceFrom_plain
    (plain : Plain text) : coerceFrom 0 text = text := by
  induction text with
  | nil => rfl
  | cons head tail induction =>
      have small := (plainByte_facts head (plain head (by simp))).1
      simp only [coerceFrom, runeLength_ascii small, induction plain.tail]

private theorem unescapeFrom_plain
    (plain : Plain text) : unescapeFrom 0 text = text := by
  induction text with
  | nil => rfl
  | cons head tail induction =>
      have noEscape := (plainByte_facts head (plain head (by simp))).2.2.1
      simp only [unescapeFrom, if_neg noEscape, induction plain.tail]

theorem unquote_plain (plain : Plain text) :
    unquote text = text := by
  rw [unquote, coerceFrom_plain plain, unescapeFrom_plain plain]

private theorem escapeFrom_plain
    (plain : Plain text) : escapeFrom true 0 text = text := by
  induction text with
  | nil => rfl
  | cons head tail induction =>
      have copied := plain head (by simp)
      simp only [escapeFrom, if_pos copied, induction plain.tail]

theorem quote_plain (plain : Plain text) :
    quote text = charByte '"' :: text ++ [charByte '"'] := by
  rw [quote, escapeFrom_plain plain]

end GoLib.Json
