import SentinelFlow.GoLib.Netip
import SentinelFlow.GoLib.Utf8

/-!
# The nftables add statement

Three packages read the statement that adds one address with a timeout to the
blacklist set.  They share its shape and differ in the spelling they allow for
the address and for the end of the line.  The captures of such a pattern are
determined by the text, because neither the address nor the timeout contains a
blank.
-/

namespace SentinelFlow.Command

open GoLib

def statementHead : Bytes :=
  ascii "add element inet sentinelflow blacklist_ipv4 \x7b "

def statementTimeout : Bytes := ascii " timeout "

/-- The bytes of a statement that ends with one line feed. -/
def statement (address token : Bytes) : Bytes :=
  statementHead ++ address ++ statementTimeout ++ token ++ ascii " \x7d\n"

/-- `[1-9][0-9]{0,4}` -/
def ttlNumberPattern : Regexp :=
  .seq (.bracket (fun byte => 49 ≤ byte && byte ≤ 57) 1 1)
    (.bracket digitClass 0 4)

/-- `[smh]` -/
def ttlUnitPattern : Regexp :=
  .bracket (fun byte => byte == charByte 's' || byte == charByte 'm' ||
    byte == charByte 'h') 1 1

/-- `[1-9][0-9]{0,4}[smh]` -/
def ttlTokenPattern : Regexp :=
  .seq ttlNumberPattern ttlUnitPattern

def statementPattern (address ending : Regexp) : Regexp :=
  .seq (.literal statementHead) (.seq (.group address)
    (.seq (.literal statementTimeout) (.seq (.group ttlTokenPattern) ending)))

/-- The seconds one unit stands for. -/
def unitSeconds (unit : UInt8) : Nat :=
  if unit = charByte 'm' then 60
  else if unit = charByte 'h' then 3600
  else 1

/-- The largest unit that divides the duration. -/
def canonicalToken (seconds : Nat) : Bytes :=
  if seconds % 3600 = 0 then formatUint (seconds / 3600) ++ [charByte 'h']
  else if seconds % 60 = 0 then formatUint (seconds / 60) ++ [charByte 'm']
  else formatUint seconds ++ [charByte 's']

def minTTLSeconds : Nat := 60

def maxTTLSeconds : Nat := 86400

/-- `^([1-9][0-9]{0,4})([smh])$` -/
def ttlPattern : Regexp :=
  .seq (.group ttlNumberPattern) (.group ttlUnitPattern)

/-- A timeout token in seconds, with the rejection the caller reports. -/
def parseTTL {ε : Type} (ttlCode : ε) (token : Bytes) : Except ε Nat :=
  match ttlPattern.findSubmatch token with
  | some [number, unit] =>
      match parseUint 64 number with
      | none => .error ttlCode
      | some value =>
          let multiplier :=
            if unit = ascii "m" then 60
            else if unit = ascii "h" then 3600
            else 1
          if value > (2 ^ 64 - 1) / multiplier then .error ttlCode
          else if value * multiplier < minTTLSeconds ∨
              value * multiplier > maxTTLSeconds then .error ttlCode
          else .ok (value * multiplier)
  | _ => .error ttlCode

/-- The canonical token of a duration in range. -/
def canonicalTTL {ε : Type} (ttlCode : ε) (seconds : Nat) : Except ε Bytes :=
  if seconds < minTTLSeconds ∨ seconds > maxTTLSeconds then .error ttlCode
  else .ok (canonicalToken seconds)

/-- The statement with a dotted address and at most one final line feed. -/
def candidatePattern : Regexp :=
  statementPattern IPv4.dottedPattern
    (.seq (.literal (ascii " \x7d")) (.bracket (fun byte => byte == 10) 0 1))

def maxCandidateBytes : Nat := 256

/-- What a generated statement says, with the token as it was spelled. -/
structure AddStatement where
  target : IPv4
  ttlSeconds : Nat
  inputTTLToken : Bytes
deriving DecidableEq, Repr

/-- Reads a generated statement; the three codes are the caller's rejections of
its syntax, its target and its timeout. -/
def readStatement {ε : Type} (syntaxCode targetCode ttlCode : ε)
    (generated : Bytes) : Except ε AddStatement :=
  if generated = [] ∨ generated.length > maxCandidateBytes ∨
      ¬ Utf8.valid generated ∨ [0xEF, 0xBB, 0xBF].isPrefixOf generated then
    .error syntaxCode
  else if generated.any (fun byte => 0x7F < byte || byte == 0) then
    .error syntaxCode
  else match candidatePattern.findSubmatch generated with
  | some [addressText, token] =>
      match IPv4.parseAddr addressText with
      | none => .error targetCode
      | some address =>
          if ¬ address.isGlobalUnicast ∨ address.toText ≠ addressText then
            .error targetCode
          else match parseTTL ttlCode token with
          | .error code => .error code
          | .ok seconds => .ok ⟨address, seconds, token⟩
  | _ => .error syntaxCode

/-! ## Timeout tokens -/

/-- The number and the unit of a token, and the duration they denote. -/
structure Token (token : Bytes) (seconds : Nat) : Prop where
  shape : ∃ lead digits unit, token = lead :: digits ++ [unit] ∧
    (49 ≤ lead ∧ lead ≤ 57) ∧ digits.length ≤ 4 ∧
    (∀ byte ∈ digits, isDigit byte = true) ∧
    (unit = charByte 's' ∨ unit = charByte 'm' ∨ unit = charByte 'h') ∧
    seconds = decimalValue (lead :: digits) * unitSeconds unit
  lower : minTTLSeconds ≤ seconds
  upper : seconds ≤ maxTTLSeconds

private theorem formatUint_shape
    {value : Nat} (positive : 0 < value) (small : value < 100000) :
    ∃ lead digits, formatUint value = lead :: digits ∧
      (49 ≤ lead ∧ lead ≤ 57) ∧ digits.length ≤ 4 ∧
      ∀ byte ∈ digits, isDigit byte = true := by
  have digit : ∀ byte ∈ formatUint value, isDigit byte = true :=
    fun byte member => isDigit_of_mem_formatUint member
  have length : (formatUint value).length ≤ 5 :=
    (length_formatUint_le_iff (by decide)).mpr small
  cases text : formatUint value with
  | nil => exact absurd text (formatUint_ne_nil value)
  | cons lead digits =>
      rw [text] at digit length
      have nonzero : lead ≠ 48 := by
        rintro rfl
        obtain rfl := formatUint_leading_zero text
        have zero := decimalValue_formatUint value
        rw [text] at zero
        exact absurd zero.symm (Nat.ne_of_gt positive)
      have range := digit lead (by simp)
      simp only [isDigit, Bool.and_eq_true, decide_eq_true_eq,
        UInt8.le_iff_toNat_le, UInt8.reduceToNat] at range
      have different : lead.toNat ≠ 48 :=
        fun same => nonzero (UInt8.toNat_inj.mp same)
      refine ⟨lead, digits, rfl, ?_, ?_, ?_⟩
      · simp only [UInt8.le_iff_toNat_le, UInt8.reduceToNat]
        omega
      · rw [List.length_cons] at length
        omega
      · intro byte member
        exact digit byte (List.mem_cons_of_mem _ member)

variable {token : Bytes} {captures : List Bytes} {seconds : Nat}

private theorem token_formatUint
    {value : Nat} {unit : UInt8} (positive : 0 < value)
    (small : value < 100000)
    (known : unit = charByte 's' ∨ unit = charByte 'm' ∨ unit = charByte 'h')
    (duration : seconds = value * unitSeconds unit)
    (lower : minTTLSeconds ≤ seconds) (upper : seconds ≤ maxTTLSeconds) :
    Token (formatUint value ++ [unit]) seconds := by
  obtain ⟨lead, digits, text, range, short, all⟩ :=
    formatUint_shape positive small
  refine ⟨⟨lead, digits, unit, by rw [text], range, short, all, known, ?_⟩,
    lower, upper⟩
  rw [← text, decimalValue_formatUint, duration]

/-- The canonical token denotes the duration it was made from. -/
theorem token_canonicalToken
    (lower : minTTLSeconds ≤ seconds)
    (upper : seconds ≤ maxTTLSeconds) :
    Token (canonicalToken seconds) seconds := by
  have bounds : 60 ≤ seconds ∧ seconds ≤ 86400 := ⟨lower, upper⟩
  unfold canonicalToken
  split
  · refine token_formatUint (by omega) (by omega) (.inr (.inr rfl)) ?_
      lower upper
    have hour : unitSeconds (charByte 'h') = 3600 := by decide
    rw [hour]
    omega
  · split
    · refine token_formatUint (by omega) (by omega) (.inr (.inl rfl)) ?_
        lower upper
      have minute : unitSeconds (charByte 'm') = 60 := by decide
      rw [minute]
      omega
    · refine token_formatUint (by omega) (by omega) (.inl rfl) ?_ lower upper
      have one : unitSeconds (charByte 's') = 1 := by decide
      rw [one, Nat.mul_one]

private theorem append_last_inj
    {left right : Bytes} {first second : UInt8}
    (equality : left ++ [first] = right ++ [second]) :
    left = right ∧ first = second := by
  obtain ⟨same, last⟩ := List.append_inj' equality rfl
  exact ⟨same, by simpa using last⟩

/-- A pattern for the address or for the end of a statement: it captures
nothing, and blanks only ever open the end. -/
structure AddressPattern (address : Regexp) : Prop where
  captures : ∀ {word captures}, address.Matches word captures → captures = []
  blank : ∀ {word captures}, address.Matches word captures → 32 ∉ word

structure EndingPattern (ending : Regexp) : Prop where
  captures : ∀ {word captures}, ending.Matches word captures → captures = []
  blank : ∀ {word captures}, ending.Matches word captures →
    ∃ rest, word = 32 :: rest

theorem ttlTokenPattern_iff :
    ttlTokenPattern.Matches token captures ↔
      captures = [] ∧ ∃ lead digits unit, token = lead :: digits ++ [unit] ∧
        (49 ≤ lead ∧ lead ≤ 57) ∧ digits.length ≤ 4 ∧
        (∀ byte ∈ digits, isDigit byte = true) ∧
        (unit = charByte 's' ∨ unit = charByte 'm' ∨ unit = charByte 'h') := by
  constructor
  · rintro ⟨number, units, _, _, rfl, rfl, ⟨first, digits, _, _, rfl, rfl,
      ⟨least, most, range, rfl⟩, ⟨-, short, all, rfl⟩⟩,
      ⟨unitLeast, unitMost, unitRange, rfl⟩⟩
    obtain ⟨lead, rfl⟩ := List.length_eq_one_iff.mp
      (Nat.le_antisymm most least)
    obtain ⟨unit, rfl⟩ := List.length_eq_one_iff.mp
      (Nat.le_antisymm unitMost unitLeast)
    refine ⟨rfl, lead, digits, unit, rfl, ?_, short, all, ?_⟩
    · simpa using range lead (by simp)
    · simpa [or_assoc] using unitRange unit (by simp)
  · rintro ⟨rfl, lead, digits, unit, rfl, range, short, all, unitRange⟩
    refine ⟨lead :: digits, [unit], [], [], rfl, rfl,
      ⟨[lead], digits, [], [], rfl, rfl, ⟨by simp, by simp, ?_, rfl⟩,
        ⟨Nat.zero_le _, short, all, rfl⟩⟩, ⟨by simp, by simp, ?_, rfl⟩⟩
    · simpa using range
    · simpa [or_assoc] using unitRange

theorem Token.matches
    (denotes : Token token seconds) :
    ttlTokenPattern.Matches token [] := by
  obtain ⟨lead, digits, unit, text, range, short, all, known, -⟩ :=
    denotes.shape
  exact ttlTokenPattern_iff.mpr
    ⟨rfl, lead, digits, unit, text, range, short, all, known⟩

theorem findSubmatch_ttlPattern_iff :
    ttlPattern.findSubmatch token = some captures ↔
      ∃ lead digits unit, captures = [lead :: digits, [unit]] ∧
        token = lead :: digits ++ [unit] ∧
        (49 ≤ lead ∧ lead ≤ 57) ∧ digits.length ≤ 4 ∧
        (∀ byte ∈ digits, isDigit byte = true) ∧
        (unit = charByte 's' ∨ unit = charByte 'm' ∨
          unit = charByte 'h') := by
  have shape : ∀ {captures}, ttlPattern.Matches token captures ↔
      ∃ lead digits unit, captures = [lead :: digits, [unit]] ∧
        token = lead :: digits ++ [unit] ∧
        (49 ≤ lead ∧ lead ≤ 57) ∧ digits.length ≤ 4 ∧
        (∀ byte ∈ digits, isDigit byte = true) ∧
        (unit = charByte 's' ∨ unit = charByte 'm' ∨
          unit = charByte 'h') := by
    intro captures
    constructor
    · rintro ⟨number, units, _, _, rfl, rfl, ⟨_, rfl, numberMatches⟩,
        ⟨_, rfl, unitMatches⟩⟩
      have whole : ttlTokenPattern.Matches (number ++ units) _ :=
        ⟨number, units, _, _, rfl, rfl, numberMatches, unitMatches⟩
      obtain ⟨noCaptures, lead, digits, unit, text, range, short, all, known⟩ :=
        ttlTokenPattern_iff.mp whole
      obtain ⟨rfl, rfl⟩ := List.append_eq_nil_iff.mp noCaptures
      obtain ⟨last, rfl⟩ := List.length_eq_one_iff.mp
        (Nat.le_antisymm unitMatches.2.1 unitMatches.1)
      obtain ⟨rfl, rfl⟩ := append_last_inj text
      exact ⟨lead, digits, last, rfl, text, range, short, all, known⟩
    · rintro ⟨lead, digits, unit, rfl, rfl, range, short, all, known⟩
      obtain ⟨number, units, left, right, text, noCaptures, numberMatches,
        unitMatches⟩ := ttlTokenPattern_iff.mpr
          ⟨rfl, lead, digits, unit, rfl, range, short, all, known⟩
      obtain ⟨rfl, rfl⟩ := List.append_eq_nil_iff.mp noCaptures.symm
      obtain ⟨last, rfl⟩ := List.length_eq_one_iff.mp
        (Nat.le_antisymm unitMatches.2.1 unitMatches.1)
      obtain ⟨rfl, rfl⟩ := append_last_inj text
      exact ⟨_, _, [lead :: digits], [[unit]], rfl, rfl,
        ⟨[], rfl, numberMatches⟩, ⟨[], rfl, unitMatches⟩⟩
  rw [Regexp.findSubmatch_eq_some_iff, shape]
  intro left right leftMatches rightMatches
  obtain ⟨lead, digits, unit, rfl, text, -⟩ := shape.mp leftMatches
  obtain ⟨otherLead, otherDigits, otherUnit, rfl, otherText, -⟩ :=
    shape.mp rightMatches
  obtain ⟨same, rfl⟩ := append_last_inj (text.symm.trans otherText)
  rw [same]

/-- The number of a token fits in every integer type that can hold 99999. -/
theorem parseUint_ttlNumber
    {lead : UInt8} {digits : Bytes} {bits : Nat}
    (range : 49 ≤ lead ∧ lead ≤ 57) (short : digits.length ≤ 4)
    (all : ∀ byte ∈ digits, isDigit byte = true) (wide : 10 ^ 5 ≤ 2 ^ bits) :
    decimalValue (lead :: digits) < 10 ^ 5 ∧
      parseUint bits (lead :: digits) =
        some (decimalValue (lead :: digits)) := by
  have digit : ∀ byte ∈ lead :: digits, isDigit byte = true := by
    intro byte member
    rcases List.mem_cons.mp member with rfl | later
    · simp only [isDigit, Bool.and_eq_true, decide_eq_true_eq,
        UInt8.le_iff_toNat_le, UInt8.reduceToNat] at range ⊢
      omega
    · exact all byte later
  have small : decimalValue (lead :: digits) < 10 ^ 5 := by
    apply Nat.lt_of_lt_of_le (decimalValue_lt digit)
    exact Nat.pow_le_pow_right (by decide) (by rw [List.length_cons]; omega)
  refine ⟨small, ?_⟩
  rw [parseUint, if_pos]
  exact ⟨by simp, List.all_eq_true.mpr digit, Nat.lt_of_lt_of_le small wide⟩

private theorem parseTTL_shape
    {ε : Type} {ttlCode : ε} {lead unit : UInt8} {digits : Bytes}
    (range : 49 ≤ lead ∧ lead ≤ 57) (short : digits.length ≤ 4)
    (all : ∀ byte ∈ digits, isDigit byte = true)
    (known : unit = charByte 's' ∨ unit = charByte 'm' ∨
      unit = charByte 'h') :
    parseTTL ttlCode (lead :: digits ++ [unit]) =
      if decimalValue (lead :: digits) * unitSeconds unit < minTTLSeconds ∨
          decimalValue (lead :: digits) * unitSeconds unit > maxTTLSeconds then
        .error ttlCode
      else .ok (decimalValue (lead :: digits) * unitSeconds unit) := by
  obtain ⟨small, number⟩ := parseUint_ttlNumber range short all
    (show 10 ^ 5 ≤ 2 ^ 64 by decide)
  have found := findSubmatch_ttlPattern_iff.mpr
    ⟨lead, digits, unit, rfl, rfl, range, short, all, known⟩
  have multiplier : (if [unit] = ascii "m" then 60
      else if [unit] = ascii "h" then 3600 else 1) = unitSeconds unit := by
    rcases known with rfl | rfl | rfl <;> decide
  have positive : 1 ≤ unitSeconds unit ∧ unitSeconds unit ≤ 3600 := by
    rcases known with rfl | rfl | rfl <;> decide
  have fits : ¬ decimalValue (lead :: digits) >
      (2 ^ 64 - 1) / unitSeconds unit := by
    have quotient : (2 ^ 64 - 1) / 3600 ≤ (2 ^ 64 - 1) / unitSeconds unit :=
      Nat.div_le_div_left positive.2 positive.1
    omega
  simp only [parseTTL, found, number, multiplier, if_neg fits]

theorem parseTTL_eq_ok_iff
    {ε : Type} {ttlCode : ε} :
    parseTTL ttlCode token = .ok seconds ↔ Token token seconds := by
  constructor
  · intro parsed
    cases found : ttlPattern.findSubmatch token with
    | none => simp [parseTTL, found] at parsed
    | some =>
        obtain ⟨lead, digits, unit, rfl, rfl, range, short, all, known⟩ :=
          findSubmatch_ttlPattern_iff.mp found
        rw [parseTTL_shape range short all known] at parsed
        split at parsed
        · cases parsed
        · next inRange =>
            cases parsed
            exact ⟨⟨lead, digits, unit, rfl, range, short, all, known, rfl⟩,
              by omega, by omega⟩
  · intro denotes
    obtain ⟨lead, digits, unit, rfl, range, short, all, known, duration⟩ :=
      denotes.shape
    have lower := denotes.lower
    have upper := denotes.upper
    rw [parseTTL_shape range short all known, ← duration, if_neg (by omega)]

private theorem ttlToken_blank
    (matched : ttlTokenPattern.Matches token captures) : 32 ∉ token := by
  intro member
  have letter := matched.letter 32 member
  revert letter
  decide

/-- The captures of a statement are its address and its timeout. -/
theorem findSubmatch_statementPattern_iff
    {address ending : Regexp} (addressShape : AddressPattern address)
    (endingShape : EndingPattern ending) {input : Bytes} :
    (statementPattern address ending).findSubmatch input = some captures ↔
      ∃ target token tail, captures = [target, token] ∧
        input = statementHead ++ (target ++ (statementTimeout ++
          (token ++ tail))) ∧
        address.Matches target [] ∧ ttlTokenPattern.Matches token [] ∧
        ending.Matches tail [] := by
  have shape : ∀ {captures}, (statementPattern address ending).Matches input
      captures ↔ ∃ target token tail, captures = [target, token] ∧
        input = statementHead ++ (target ++ (statementTimeout ++
          (token ++ tail))) ∧
        address.Matches target [] ∧ ttlTokenPattern.Matches token [] ∧
        ending.Matches tail [] := by
    intro captures
    constructor
    · rintro ⟨_, _, _, _, rfl, rfl, ⟨rfl, rfl⟩, target, _, _, _, rfl, rfl,
        ⟨_, rfl, targetMatches⟩, _, _, _, _, rfl, rfl, ⟨rfl, rfl⟩, token, tail,
        _, _, rfl, rfl, ⟨_, rfl, tokenMatches⟩, tailMatches⟩
      obtain rfl := addressShape.captures targetMatches
      obtain ⟨rfl, -⟩ := ttlTokenPattern_iff.mp tokenMatches
      obtain rfl := endingShape.captures tailMatches
      exact ⟨target, token, tail, rfl, rfl, targetMatches, tokenMatches,
        tailMatches⟩
    · rintro ⟨target, token, tail, rfl, rfl, targetMatches, tokenMatches,
        tailMatches⟩
      exact ⟨_, _, [], _, rfl, rfl, ⟨rfl, rfl⟩, target, _, [target], [token],
        rfl, rfl, ⟨[], rfl, targetMatches⟩, _, _, [], _, rfl, rfl, ⟨rfl, rfl⟩,
        token, tail, [token], [], rfl, rfl, ⟨[], rfl, tokenMatches⟩,
        tailMatches⟩
  rw [Regexp.findSubmatch_eq_some_iff, shape]
  intro left right leftMatches rightMatches
  obtain ⟨target, token, tail, rfl, text, targetMatches, tokenMatches,
    tailMatches⟩ := shape.mp leftMatches
  obtain ⟨otherTarget, otherToken, otherTail, rfl, otherText, otherTargetMatches,
    otherTokenMatches, otherTailMatches⟩ := shape.mp rightMatches
  obtain ⟨rest, rfl⟩ := endingShape.blank tailMatches
  obtain ⟨otherRest, rfl⟩ := endingShape.blank otherTailMatches
  have afterHead := List.append_cancel_left (text.symm.trans otherText)
  obtain ⟨rfl, afterTarget⟩ := append_separator_inj
    (addressShape.blank targetMatches)
    (addressShape.blank otherTargetMatches) afterHead
  have afterTimeout : token ++ 32 :: rest = otherToken ++ 32 :: otherRest :=
    List.append_cancel_left
      (show ascii "timeout " ++ (token ++ 32 :: rest) =
        ascii "timeout " ++ (otherToken ++ 32 :: otherRest) from afterTarget)
  obtain ⟨rfl, -⟩ := append_separator_inj (ttlToken_blank tokenMatches)
    (ttlToken_blank otherTokenMatches) afterTimeout
  rfl

private theorem dottedPattern_shape : AddressPattern IPv4.dottedPattern := by
  constructor
  · rintro word captures ⟨_, _, _, _, -, rfl, ⟨-, -, -, rfl⟩, _, _, _, _, -, rfl,
      ⟨-, rfl⟩, _, _, _, _, -, rfl, ⟨-, -, -, rfl⟩, _, _, _, _, -, rfl,
      ⟨-, rfl⟩, _, _, _, _, -, rfl, ⟨-, -, -, rfl⟩, _, _, _, _, -, rfl,
      ⟨-, rfl⟩, -, -, -, rfl⟩
    rfl
  · intro word captures matched member
    have letter := matched.letter 32 member
    revert letter
    decide

/-- The statement ends with the closing brace or with one more line feed. -/
private theorem candidateEnding_iff {tail : Bytes} :
    (Regexp.seq (.literal (ascii " \x7d"))
        (.bracket (fun byte => byte == 10) 0 1)).Matches tail captures ↔
      captures = [] ∧ (tail = ascii " \x7d" ∨ tail = ascii " \x7d\n") := by
  constructor
  · rintro ⟨_, feed, _, _, rfl, rfl, ⟨rfl, rfl⟩, -, short, all, rfl⟩
    refine ⟨rfl, ?_⟩
    cases feed with
    | nil => exact .inl rfl
    | cons byte rest =>
        obtain rfl : rest = [] := by
          simpa using short
        obtain rfl : byte = 10 := by
          simpa using all byte (by simp)
        exact .inr rfl
  · rintro ⟨rfl, rfl | rfl⟩
    · exact ⟨_, [], [], [], rfl, rfl, ⟨rfl, rfl⟩, by decide, by decide,
        by simp, rfl⟩
    · exact ⟨_, [10], [], [], rfl, rfl, ⟨rfl, rfl⟩, by decide, by decide,
        by simp, rfl⟩

private theorem candidateEnding_shape : EndingPattern
    (.seq (.literal (ascii " \x7d")) (.bracket (fun byte => byte == 10) 0 1)) := by
  constructor
  · intro word captures matched
    exact (candidateEnding_iff.mp matched).1
  · intro word captures matched
    rcases (candidateEnding_iff.mp matched).2 with rfl | rfl
    · exact ⟨_, rfl⟩
    · exact ⟨_, rfl⟩

private theorem candidatePattern_letter :
    ∀ byte : UInt8, candidatePattern.letter byte = true →
      byte < 0x80 ∧ (0x7F < byte || byte == 0) = false := by
  decide +kernel

/-- The tests before the pattern hold of every text that matches it. -/
private theorem candidatePattern_text
    {generated : Bytes}
    (matched : candidatePattern.Matches generated captures) :
    generated ≠ [] ∧ generated.length ≤ maxCandidateBytes ∧
      Utf8.valid generated = true ∧
      [0xEF, 0xBB, 0xBF].isPrefixOf generated = false ∧
      generated.any (fun byte => 0x7F < byte || byte == 0) = false := by
  have length := matched.length_le
  have least : 47 ≤ candidatePattern.minLength := by decide
  have most : candidatePattern.maxLength ≤ maxCandidateBytes := by decide
  have letters : ∀ byte ∈ generated, byte < 0x80 ∧
      (0x7F < byte || byte == 0) = false := by
    intro byte member
    exact candidatePattern_letter byte (matched.letter byte member)
  refine ⟨?_, by omega, Utf8.valid_ascii fun byte member =>
    (letters byte member).1, ?_, ?_⟩
  · rintro rfl
    rw [List.length_nil] at length
    omega
  · cases generated with
    | nil => rfl
    | cons head =>
        have different : (0xEF == head) = false := by
          have small := (letters head (by simp)).1
          simp only [UInt8.lt_iff_toNat_lt, UInt8.reduceToNat] at small
          simp only [beq_eq_false_iff_ne, ne_eq]
          rintro rfl
          simp at small
        simp [List.isPrefixOf, different]
  · rw [List.any_eq_false]
    intro byte member
    simp [(letters byte member).2]

/-- The generated text spells the statement. -/
structure Spells (generated : Bytes) (statement : AddStatement) : Prop where
  text : ∃ tail, generated = statementHead ++ (statement.target.toText ++
      (statementTimeout ++ (statement.inputTTLToken ++ tail))) ∧
    (tail = ascii " \x7d" ∨ tail = ascii " \x7d\n")
  unicast : statement.target.isGlobalUnicast = true
  token : Token statement.inputTTLToken statement.ttlSeconds

theorem readStatement_eq_ok_iff
    {ε : Type} {syntaxCode targetCode ttlCode : ε} {generated : Bytes}
    {statement : AddStatement} :
    readStatement syntaxCode targetCode ttlCode generated = .ok statement ↔
      Spells generated statement := by
  constructor
  · intro read
    unfold readStatement at read
    split at read
    · cases read
    split at read
    · cases read
    split at read
    · next addressText token found =>
        obtain ⟨target, _, tail, captures, rfl, -, -, ending⟩ :=
          (findSubmatch_statementPattern_iff dottedPattern_shape
            candidateEnding_shape).mp found
        simp only [List.cons.injEq, and_true] at captures
        obtain ⟨rfl, rfl⟩ := captures
        split at read
        · cases read
        · next address parsed =>
          split at read
          · cases read
          · next admitted =>
            simp only [not_or, not_not, Bool.not_eq_true] at admitted
            split at read
            · cases read
            · next seconds duration =>
              cases read
              exact ⟨⟨tail, by rw [admitted.2],
                (candidateEnding_iff.mp ending).2⟩, by simpa using admitted.1,
                parseTTL_eq_ok_iff.mp duration⟩
    · cases read
  · rintro ⟨⟨tail, text, ending⟩, unicast, token⟩
    have found : candidatePattern.findSubmatch generated =
        some [statement.target.toText, statement.inputTTLToken] :=
      (findSubmatch_statementPattern_iff dottedPattern_shape
        candidateEnding_shape).mpr ⟨_, _, tail, rfl, text,
          IPv4.dottedPattern_toText _, token.matches,
          candidateEnding_iff.mpr ⟨rfl, ending⟩⟩
    obtain ⟨nonempty, short, encoded, unmarked, clean⟩ :=
      candidatePattern_text (Regexp.matches_of_findSubmatch found)
    rw [readStatement, if_neg (by simp [nonempty, encoded, unmarked]; omega),
      if_neg (by simp [clean])]
    simp only [found, IPv4.parseAddr_toText, unicast, not_true_eq_false,
      ne_eq, or_self, if_false, parseTTL_eq_ok_iff.mpr token]

end SentinelFlow.Command
