import SentinelFlow.GoLib.Patterns
import SentinelFlow.GoLib.Utf8

/-!
# Lower case

`strings.ToLower` maps the code points of a text one by one.  Two code points
outside ASCII have a lower-case letter inside ASCII; without them the result
agrees, for a pattern of ASCII letters, with lowering the ASCII letters alone.
-/

namespace GoLib

/-- What the lower-case table of package `unicode` does to ASCII. -/
structure LowerCase where
  toLower : Nat → Nat
  ascii : ∀ rune < 0x80,
    toLower rune = if 65 ≤ rune ∧ rune ≤ 90 then rune + 32 else rune
  dotted : toLower 0x130 = 105
  kelvin : toLower 0x212A = 107
  high : ∀ rune, 0x80 ≤ rune → rune ≠ 0x130 → rune ≠ 0x212A →
    0x80 ≤ toLower rune

namespace Utf8

/-- The code point of a valid sequence of the given length. -/
def runeValue (length : Nat) (text : Bytes) : Nat :=
  match length, text.map UInt8.toNat with
  | 2, lead :: second :: _ => lead % 32 * 64 + second % 64
  | 3, lead :: second :: third :: _ =>
      lead % 16 * 4096 + second % 64 * 64 + third % 64
  | 4, lead :: second :: third :: fourth :: _ =>
      lead % 8 * 262144 + second % 64 * 4096 + third % 64 * 64 + fourth % 64
  | _, lead :: _ => lead
  | _, [] => 0

/-- The code points that `range` yields for a text, where `pending` octets of
the current one are left; an invalid octet yields the replacement character. -/
def runesFrom (pending : Nat) : Bytes → List Nat
  | [] => []
  | byte :: rest =>
      match pending with
      | pending + 1 => runesFrom pending rest
      | 0 => match runeLength (byte :: rest) with
        | 0 => 0xFFFD :: runesFrom 0 rest
        | length + 1 =>
            runeValue (length + 1) (byte :: rest) :: runesFrom length rest

def runes : Bytes → List Nat :=
  runesFrom 0

end Utf8

/-- `strings.ToLower`. -/
def LowerCase.text (lower : LowerCase) (text : Bytes) : Bytes :=
  (Utf8.runes text).flatMap fun rune => Utf8.encodeRune (lower.toLower rune)

def asciiLower (byte : UInt8) : UInt8 :=
  if 65 ≤ byte ∧ byte ≤ 90 then byte + 32 else byte

/-- A non-empty sequence of octets outside ASCII. -/
def HighOctets (piece : Bytes) : Prop :=
  piece ≠ [] ∧ ∀ byte ∈ piece, 0x80 ≤ byte

namespace Utf8

theorem runesFrom_append (before rest : Bytes) :
    runesFrom before.length (before ++ rest) = runes rest := by
  induction before with
  | nil => rfl
  | cons _ _ induction => exact induction

private theorem high_ofNat {value : Nat} (low : 0x80 ≤ value)
    (high : value < 0x100) : 0x80 ≤ UInt8.ofNat value := by
  rw [UInt8.le_iff_toNat_le, UInt8.toNat_ofNat', Nat.mod_eq_of_lt (by omega)]
  exact low

theorem highOctets_encodeRune {rune : Nat} (high : 0x80 ≤ rune) :
    HighOctets (encodeRune rune) := by
  unfold encodeRune HighOctets
  rw [if_neg (by omega)]
  split
  · simp only [List.forall_mem_cons, List.not_mem_nil, false_implies,
      implies_true, and_true]
    exact ⟨List.cons_ne_nil _ _, high_ofNat (by omega) (by omega),
      high_ofNat (by omega) (by omega)⟩
  split
  · decide +kernel
  split
  · simp only [List.forall_mem_cons, List.not_mem_nil, false_implies,
      implies_true, and_true]
    exact ⟨List.cons_ne_nil _ _, high_ofNat (by omega) (by omega),
      high_ofNat (by omega) (by omega), high_ofNat (by omega) (by omega)⟩
  · simp only [List.forall_mem_cons, List.not_mem_nil, false_implies,
      implies_true, and_true]
    exact ⟨List.cons_ne_nil _ _, high_ofNat (by omega) (by omega),
      high_ofNat (by omega) (by omega), high_ofNat (by omega) (by omega),
      high_ofNat (by omega) (by omega)⟩

theorem inRange_iff {low high byte : UInt8} :
    inRange low high byte = true ↔
      low.toNat ≤ byte.toNat ∧ byte.toNat ≤ high.toNat := by
  simp [inRange, UInt8.le_iff_toNat_le]

/-- The second octet of a sequence, whose range some lead octets narrow. -/
private theorem second_bounds
    {narrow : Prop} [Decidable narrow] {least high second : UInt8}
    (within : inRange (if narrow then least else 0x80) high second = true)
    (above : 0x80 ≤ least) (below : high ≤ 0xBF) :
    (narrow → least.toNat ≤ second.toNat) ∧ 0x80 ≤ second.toNat ∧
      second.toNat ≤ 0xBF := by
  obtain ⟨lower, upper⟩ := inRange_iff.mp within
  have above : 0x80 ≤ least.toNat := UInt8.le_iff_toNat_le.mp above
  have below : high.toNat ≤ 0xBF := UInt8.le_iff_toNat_le.mp below
  split at lower
  next holds => exact ⟨fun _ => lower, by omega, by omega⟩
  next fails =>
    exact ⟨fun holds => absurd holds fails, lower, by omega⟩

private theorem succ_of_ite
    {condition : Bool} {width length : Nat}
    (valid : (if condition then width else 0) = length + 1) :
    condition = true ∧ width = length + 1 := by
  cases condition with
  | false => cases valid
  | true => exact ⟨rfl, valid⟩

/-- A valid sequence that starts outside ASCII stays there. -/
theorem high_of_runeLength
    {byte : UInt8} {rest : Bytes} {length : Nat} (high : 0x80 ≤ byte)
    (valid : runeLength (byte :: rest) = length + 1) :
    0x80 ≤ runeValue (length + 1) (byte :: rest) ∧
      ∃ inner after, rest = inner ++ after ∧ inner.length = length ∧
        ∀ octet ∈ inner, 0x80 ≤ octet := by
  have ascii : ¬ byte < 0x80 := UInt8.not_lt.mpr high
  unfold runeLength at valid
  simp only [if_neg ascii, UInt8.le_iff_toNat_le] at valid ⊢
  split at valid
  · cases valid
  next second rest =>
  split at valid
  next lead =>
    obtain ⟨tail, width⟩ := succ_of_ite valid
    obtain rfl : length = 1 := by omega
    have leads : 0xC2 ≤ byte.toNat ∧ byte.toNat ≤ 0xDF := inRange_iff.mp lead
    refine ⟨?_, [second], rest, rfl, rfl, ?_⟩
    · simp only [runeValue, List.map_cons]
      omega
    · simpa using (inRange_iff.mp tail).1
  split at valid
  · cases valid
  next third rest =>
  split at valid
  next lead =>
    obtain ⟨tails, width⟩ := succ_of_ite valid
    obtain rfl : length = 2 := by omega
    rw [Bool.and_eq_true] at tails
    have leads : 0xE0 ≤ byte.toNat ∧ byte.toNat ≤ 0xEF := inRange_iff.mp lead
    obtain ⟨narrow, lower, upper⟩ := second_bounds tails.1 (by decide)
      (by split <;> decide)
    refine ⟨?_, [second, third], rest, rfl, rfl, ?_⟩
    · simp only [runeValue, List.map_cons]
      by_cases least : byte.toNat = 0xE0
      · have narrowed : 0xA0 ≤ second.toNat := narrow (UInt8.toNat.inj least)
        omega
      · omega
    · simpa using ⟨lower, (inRange_iff.mp tails.2).1⟩
  split at valid
  · cases valid
  next fourth rest =>
    obtain ⟨tails, width⟩ := succ_of_ite valid
    obtain rfl : length = 3 := by omega
    simp only [Bool.and_eq_true] at tails
    have leads : 0xF0 ≤ byte.toNat ∧ byte.toNat ≤ 0xF4 :=
      inRange_iff.mp tails.1.1.1
    obtain ⟨narrow, lower, upper⟩ := second_bounds tails.1.1.2 (by decide)
      (by split <;> decide)
    refine ⟨?_, [second, third, fourth], rest, rfl, rfl, ?_⟩
    · simp only [runeValue, List.map_cons]
      by_cases least : byte.toNat = 0xF0
      · have narrowed : 0x90 ≤ second.toNat := narrow (UInt8.toNat.inj least)
        omega
      · omega
    · simpa using ⟨lower, (inRange_iff.mp tails.1.2).1,
        (inRange_iff.mp tails.2).1⟩

end Utf8

theorem HighOctets.untouched
    {letter opening : UInt8 → Prop}
    (alphabet : ∀ byte, letter byte ∨ opening byte → byte < 0x80)
    {piece : Bytes} (high : HighOctets piece) :
    Untouched letter opening piece := by
  have foreign {byte : UInt8} (member : byte ∈ piece) :
      ¬ (letter byte ∨ opening byte) := fun used =>
    UInt8.not_lt.mpr (high.2 byte member) (alphabet byte used)
  cases piece with
  | nil => exact absurd rfl high.1
  | cons head tail =>
      exact ⟨head, tail, rfl,
        fun used => foreign List.mem_cons_self (.inl used),
        fun byte member used =>
          foreign (List.mem_cons_of_mem _ member) (.inr used)⟩

private theorem asciiLower_high {byte : UInt8} (high : 0x80 ≤ byte) :
    asciiLower byte = byte := by
  have table : ∀ byte : UInt8, 0x80 ≤ byte → asciiLower byte = byte := by
    decide +kernel
  exact table byte high

private theorem encodeRune_toLower_ascii
    (lower : LowerCase) {byte : UInt8} (small : byte < 0x80) :
    Utf8.encodeRune (lower.toLower byte.toNat) = [asciiLower byte] := by
  have table : ∀ byte : UInt8, byte < 0x80 → Utf8.encodeRune
      (if 65 ≤ byte.toNat ∧ byte.toNat ≤ 90 then byte.toNat + 32
        else byte.toNat) = [asciiLower byte] := by
    decide +kernel
  rw [lower.ascii _ (UInt8.lt_iff_toNat_lt.mp small), table byte small]

/-- Lowering a text without the two code points agrees, for patterns of ASCII
letters, with lowering its ASCII letters. -/
theorem LowerCase.agree
    (lower : LowerCase) {letter opening : UInt8 → Prop}
    (alphabet : ∀ byte, letter byte ∨ opening byte → byte < 0x80)
    (text : Bytes)
    (plain : ∀ rune ∈ Utf8.runes text, rune ≠ 0x130 ∧ rune ≠ 0x212A) :
    Agree letter opening (lower.text text) (text.map asciiLower) := by
  -- One code point is a whole piece, so the induction is on the length.
  induction size : text.length using Nat.strongRecOn generalizing text with
  | _ size induction =>
  subst size
  have encoded {rune : Nat} (high : 0x80 ≤ rune)
      (other : rune ≠ 0x130 ∧ rune ≠ 0x212A) :
      Untouched letter opening (Utf8.encodeRune (lower.toLower rune)) :=
    (Utf8.highOctets_encodeRune
      (lower.high rune high other.1 other.2)).untouched alphabet
  cases text with
  | nil => exact .nil
  | cons byte rest =>
      by_cases small : byte < 0x80
      · have split : Utf8.runes (byte :: rest) =
            byte.toNat :: Utf8.runes rest := by
          simp only [Utf8.runes, Utf8.runesFrom,
            Utf8.runeLength_ascii small rest]
          rfl
        rw [split, List.forall_mem_cons] at plain
        rw [LowerCase.text, split, List.flatMap_cons,
          encodeRune_toLower_ascii lower small, List.map_cons]
        exact .keep _ (induction _ (Nat.lt_succ_self _) rest plain.2 rfl)
      have high := UInt8.not_lt.mp small
      cases valid : Utf8.runeLength (byte :: rest) with
      | zero =>
          have split : Utf8.runes (byte :: rest) =
              0xFFFD :: Utf8.runes rest := by
            simp only [Utf8.runes, Utf8.runesFrom, valid]
          rw [split, List.forall_mem_cons] at plain
          rw [LowerCase.text, split, List.flatMap_cons, List.map_cons,
            asciiLower_high high, ← List.singleton_append]
          exact .replace (encoded (by decide) plain.1)
            (HighOctets.untouched alphabet ⟨nofun, by simpa using high⟩)
            (induction _ (Nat.lt_succ_self _) rest plain.2 rfl)
      | succ length =>
          obtain ⟨value, inner, after, rfl, rfl, highs⟩ :=
            Utf8.high_of_runeLength high valid
          have split : Utf8.runes (byte :: (inner ++ after)) =
              Utf8.runeValue (inner.length + 1) (byte :: (inner ++ after)) ::
                Utf8.runes after := by
            rw [Utf8.runes, Utf8.runesFrom]
            simp only [valid, Utf8.runesFrom_append]
            rfl
          have whole : ∀ octet ∈ byte :: inner, 0x80 ≤ octet :=
            List.forall_mem_cons.mpr ⟨high, highs⟩
          have kept : (byte :: inner).map asciiLower = byte :: inner :=
            (List.map_congr_left fun octet member =>
              asciiLower_high (whole octet member)).trans (List.map_id' _)
          have shorter : after.length < (byte :: (inner ++ after)).length := by
            rw [List.length_cons, List.length_append]
            omega
          rw [split, List.forall_mem_cons] at plain
          rw [LowerCase.text, split, List.flatMap_cons, ← List.cons_append,
            List.map_append, kept]
          exact .replace (encoded value plain.1)
            (HighOctets.untouched alphabet ⟨nofun, whole⟩)
            (induction _ shorter after plain.2 rfl)

end GoLib
