import Mathlib.Data.FinEnum

/-!
# Byte strings and decimal text

Go's `[]byte` and `string` are both finite sequences of octets; neither carries
a promise of valid UTF-8.  This module fixes that representation together with
the decimal conversions of package `strconv` that the wire formats use.
-/

namespace GoLib

/-- The octets of a Go `[]byte` or `string`. -/
abbrev Bytes := List UInt8

instance lawfulBEqBytes : LawfulBEq Bytes :=
  inferInstance

/-! ## Checks -/

section Checks

variable {ε α : Type} {refused : Prop} [Decidable refused]

/-- What follows a check is reached if the check does not refuse. -/
theorem ite_error_eq_ok_iff {error : ε} {rest : Except ε α} {value : α} :
    (if refused then .error error else rest) = .ok value ↔
      ¬ refused ∧ rest = .ok value := by
  by_cases refused <;> simp [*]

theorem ite_some_eq_none_iff {error : ε} {rest : Option ε} :
    (if refused then some error else rest) = none ↔
      ¬ refused ∧ rest = none := by
  by_cases refused <;> simp [*]

end Checks

/-! ## Text -/

/-- The single octet of an ASCII character. -/
def charByte (character : Char) : UInt8 :=
  character.toNat.toUInt8

/-- The octets of an ASCII literal. -/
def ascii (literal : String) : Bytes :=
  literal.toByteArray.data.toList

def isDigit (byte : UInt8) : Bool :=
  48 ≤ byte && byte ≤ 57

def digitValue (byte : UInt8) : Nat :=
  byte.toNat - 48

/-- The number denoted by a run of decimal digits, most significant first. -/
def decimalValue (digits : Bytes) : Nat :=
  digits.foldl (fun total byte => total * 10 + digitValue byte) 0

/-- `strconv.FormatUint(value, 10)`. -/
def formatUint (value : Nat) : Bytes :=
  (Nat.toDigits 10 value).map charByte

/-- `strconv.ParseUint(text, 10, bits)`: signs, blanks and underscores are
rejected, leading zeros are not. -/
def parseUint (bits : Nat) (text : Bytes) : Option Nat :=
  if text ≠ [] ∧ text.all isDigit ∧ decimalValue text < 2 ^ bits then
    some (decimalValue text)
  else
    none

/-- Zero padding on the left, as `time.appendInt` writes a fixed-width field. -/
def padLeft (width : Nat) (text : Bytes) : Bytes :=
  List.replicate (width - text.length) 48 ++ text

private theorem charByte_digit
    {character : Char} (digit : character.isDigit) :
    isDigit (charByte character) = true ∧
      digitValue (charByte character) = character.toNat - '0'.toNat := by
  have lower : 48 ≤ character.toNat := by
    have bounds := digit
    simp only [Char.isDigit, Bool.and_eq_true, decide_eq_true_eq] at bounds
    exact bounds.1
  have upper : character.toNat ≤ 57 := by
    have bounds := digit
    simp only [Char.isDigit, Bool.and_eq_true, decide_eq_true_eq] at bounds
    exact bounds.2
  have small : (charByte character).toNat = character.toNat := by
    simp only [charByte, Nat.toUInt8_eq, UInt8.toNat_ofNat']
    omega
  constructor
  · simp only [isDigit, Bool.and_eq_true, decide_eq_true_eq,
      UInt8.le_iff_toNat_le, small]
    exact ⟨lower, upper⟩
  · simp only [digitValue, small]
    rfl

private theorem foldl_charByte
    (characters : List Char) (total : Nat)
    (digits : ∀ character, character ∈ characters → character.isDigit) :
    (characters.map charByte).foldl
        (fun total byte => total * 10 + digitValue byte) total =
      Nat.ofDigitChars 10 characters total := by
  induction characters generalizing total with
  | nil => simp
  | cons character characters induction =>
      have head := charByte_digit (digits character (by simp))
      have tail := induction (total * 10 + digitValue (charByte character))
        (fun other member => digits other (by simp [member]))
      rw [List.map_cons, List.foldl_cons, tail, Nat.ofDigitChars_cons,
        head.2, Nat.mul_comm]

theorem decimalValue_formatUint (value : Nat) :
    decimalValue (formatUint value) = value := by
  unfold decimalValue formatUint
  rw [foldl_charByte _ _ (fun character member =>
    Nat.isDigit_of_mem_toDigits (by decide) (by decide) member)]
  exact Nat.ofDigitChars_ten_toDigits

variable {text : Bytes} {value width : Nat}

theorem isDigit_of_mem_formatUint
    {byte : UInt8} (member : byte ∈ formatUint value) :
    isDigit byte = true := by
  obtain ⟨character, characterMember, rfl⟩ := List.mem_map.mp member
  exact (charByte_digit (Nat.isDigit_of_mem_toDigits
    (by decide) (by decide) characterMember)).1

@[simp] theorem formatUint_ne_nil (value : Nat) : formatUint value ≠ [] := by
  simp [formatUint]

theorem length_formatUint_le_iff
    (positive : 0 < width) :
    (formatUint value).length ≤ width ↔ value < 10 ^ width := by
  unfold formatUint
  rw [List.length_map]
  exact Nat.length_toDigits_le_iff (by decide) positive

theorem formatUint_injective : Function.Injective formatUint := by
  intro left right equality
  have values := congrArg decimalValue equality
  simpa only [decimalValue_formatUint] using values

theorem parseUint_formatUint
    {bits : Nat} (bounded : value < 2 ^ bits) :
    parseUint bits (formatUint value) = some value := by
  have digits : (formatUint value).all isDigit = true := by
    simp only [List.all_eq_true]
    intro byte member
    exact isDigit_of_mem_formatUint member
  simp [parseUint, digits, decimalValue_formatUint, bounded]

theorem decimalValue_lt
    (digits : ∀ byte ∈ text, isDigit byte = true) :
    decimalValue text < 10 ^ text.length := by
  induction text using List.reverseRecOn with
  | nil => simp [decimalValue]
  | append_singleton front last induction =>
      have small := induction
        (fun byte member => digits byte (List.mem_append_left _ member))
      have digit : digitValue last < 10 := by
        have bounds := digits last (by simp)
        simp only [isDigit, Bool.and_eq_true, decide_eq_true_eq,
          UInt8.le_iff_toNat_le, UInt8.reduceToNat] at bounds
        simp only [digitValue]
        omega
      have step : decimalValue (front ++ [last]) =
          decimalValue front * 10 + digitValue last := by
        simp [decimalValue]
      rw [step, List.length_append, List.length_singleton, Nat.pow_succ]
      omega

theorem decimalValue_replicate_append (count : Nat) (text : Bytes) :
    decimalValue (List.replicate count 48 ++ text) = decimalValue text := by
  induction count with
  | zero => rfl
  | succ count induction =>
      have zero : digitValue 48 = 0 := rfl
      simpa [decimalValue, List.replicate_succ, zero] using induction

/-- A decimal text starts with a zero only if it is the zero alone. -/
theorem formatUint_leading_zero
    {tail : Bytes}
    (leading : formatUint value = charByte '0' :: tail) : tail = [] := by
  by_contra nonempty
  have positive : 0 < tail.length := List.length_pos_iff.mpr nonempty
  have same : decimalValue tail = value := by
    have dropped := decimalValue_replicate_append 1 tail
    rw [← decimalValue_formatUint value, leading]
    exact dropped.symm
  have bounded : value < 10 ^ tail.length := by
    rw [← same]
    exact decimalValue_lt (fun byte member =>
      isDigit_of_mem_formatUint (leading ▸ List.mem_cons_of_mem _ member))
  have short := (length_formatUint_le_iff positive).mpr bounded
  rw [leading, List.length_cons] at short
  omega

theorem decimalValue_padLeft (width : Nat) (text : Bytes) :
    decimalValue (padLeft width text) = decimalValue text :=
  decimalValue_replicate_append _ _

theorem all_isDigit_padLeft
    (digits : text.all isDigit = true) :
    (padLeft width text).all isDigit = true := by
  have zero : isDigit 48 = true := rfl
  simp only [padLeft, List.all_append, List.all_replicate, zero, digits]
  simp

theorem length_padLeft
    (fits : text.length ≤ width) :
    (padLeft width text).length = width := by
  simp only [padLeft, List.length_append, List.length_replicate]
  omega

/-- A text is cut in one way at the first occurrence of a separator. -/
theorem append_separator_inj
    {separator : UInt8} {left right leftRest rightRest : Bytes}
    (leftClean : separator ∉ left) (rightClean : separator ∉ right)
    (equality : left ++ separator :: leftRest =
      right ++ separator :: rightRest) :
    left = right ∧ leftRest = rightRest := by
  induction left generalizing right with
  | nil =>
      cases right with
      | nil => simpa using equality
      | cons head =>
          have same : separator = head := (List.cons.inj equality).1
          exact absurd (by simp [same]) rightClean
  | cons head left induction =>
      cases right with
      | nil =>
          have same : head = separator := (List.cons.inj equality).1
          exact absurd (by simp [same]) leftClean
      | cons =>
          obtain ⟨rfl, tails⟩ := List.cons.inj equality
          obtain ⟨rfl, rests⟩ := induction
            (fun member => leftClean (List.mem_cons_of_mem _ member))
            (fun member => rightClean (List.mem_cons_of_mem _ member)) tails
          exact ⟨rfl, rests⟩

end GoLib
