import SentinelFlow.GoLib.Regexp

/-!
# IPv4 addresses

The part of package `net/netip` that a caller observes when it keeps only
addresses with `Is4`.  A text whose first separator is a colon denotes an IPv6
address or nothing, so it never survives that test.
-/

namespace GoLib

structure IPv4 where
  first : UInt8
  second : UInt8
  third : UInt8
  fourth : UInt8
  deriving DecidableEq, Repr

namespace IPv4

/-- The loop of `netip.parseIPv4Fields`.  `previous` is the byte before the
current one, `value` and `digits` describe the field being read. -/
def parseFields (previous : Option UInt8) (value digits : Nat)
    (fields : List UInt8) : Bytes → Option (List UInt8)
  | [] =>
      if fields.length < 3 then none else some (fields ++ [UInt8.ofNat value])
  | byte :: rest =>
      if isDigit byte then
        if digits = 1 ∧ value = 0 then none
        else if 255 < value * 10 + digitValue byte then none
        else parseFields (some byte) (value * 10 + digitValue byte)
          (digits + 1) fields rest
      else if byte = 46 then
        if previous = none ∨ rest = [] ∨ previous = some 46 then none
        else if fields.length = 3 then none
        else parseFields (some byte) 0 0 (fields ++ [UInt8.ofNat value]) rest
      else none

def ofFields : List UInt8 → Option IPv4
  | [first, second, third, fourth] => some ⟨first, second, third, fourth⟩
  | _ => none

/-- `netip.ParseAddr` followed by the test `Is4`. -/
def parseAddr (text : Bytes) : Option IPv4 :=
  match text.find? (fun byte => byte == 46 || byte == 58 || byte == 37) with
  | some 46 => (parseFields none 0 0 [] text).bind ofFields
  | _ => none

/-- `Addr.String` of an IPv4 address. -/
def toText (address : IPv4) : Bytes :=
  formatUint address.first.toNat ++ 46 ::
    (formatUint address.second.toNat ++ 46 ::
      (formatUint address.third.toNat ++ 46 ::
        formatUint address.fourth.toNat))

/-- `Addr.IsGlobalUnicast` of an IPv4 address: neither unspecified, limited
broadcast, loopback, multicast nor link-local unicast. -/
def isGlobalUnicast (address : IPv4) : Bool :=
  address != ⟨0, 0, 0, 0⟩ && address != ⟨255, 255, 255, 255⟩ &&
    address.first != 127 && !(224 ≤ address.first && address.first ≤ 239) &&
    !(address.first == 169 && address.second == 254)

/-- A text that is the canonical spelling of the address it denotes. -/
def canonicalText (text : Bytes) : Bool :=
  match parseAddr text with
  | some address => address.toText == text
  | none => false

/-! ## The canonical spelling is read back -/

/-- One to three digits without a leading zero and with the given value. -/
private def octetShape (value : Nat) : Bytes → Bool
  | [one] => isDigit one && digitValue one == value
  | [one, two] =>
      isDigit one && isDigit two && digitValue one != 0 &&
        digitValue one * 10 + digitValue two == value
  | [one, two, three] =>
      isDigit one && isDigit two && isDigit three && digitValue one != 0 &&
        (digitValue one * 10 + digitValue two) * 10 + digitValue three == value
  | _ => false

private theorem octetShape_formatUint :
    ∀ octet : UInt8, octetShape octet.toNat (formatUint octet.toNat) = true := by
  decide +kernel

/-- Reading one octet advances the loop to the byte after it. -/
private theorem parseFields_octet
    (octet : UInt8) (previous : Option UInt8) (fields : List UInt8)
    (rest : Bytes) :
    ∃ last, isDigit last = true ∧
      parseFields previous 0 0 fields (formatUint octet.toNat ++ rest) =
        parseFields (some last) octet.toNat
          (formatUint octet.toNat).length fields rest := by
  have shape := octetShape_formatUint octet
  have bound := octet.toNat_lt
  match text : formatUint octet.toNat with
  | [] => simp [text, octetShape] at shape
  | [one] =>
      rw [text] at shape
      simp only [octetShape, Bool.and_eq_true, beq_iff_eq] at shape
      obtain ⟨oneDigit, value⟩ := shape
      refine ⟨one, oneDigit, ?_⟩
      have small : ¬ 255 < octet.toNat := by omega
      simp [parseFields, oneDigit, value, small]
  | [one, two] =>
      rw [text] at shape
      simp only [octetShape, Bool.and_eq_true, beq_iff_eq, bne_iff_ne]
        at shape
      obtain ⟨⟨⟨oneDigit, twoDigit⟩, nonzero⟩, value⟩ := shape
      refine ⟨two, twoDigit, ?_⟩
      have oneSmall : ¬ 255 < digitValue one := by omega
      have small : ¬ 255 < octet.toNat := by omega
      simp [parseFields, oneDigit, twoDigit, nonzero, value, oneSmall, small]
  | [one, two, three] =>
      rw [text] at shape
      simp only [octetShape, Bool.and_eq_true, beq_iff_eq, bne_iff_ne]
        at shape
      obtain ⟨⟨⟨⟨oneDigit, twoDigit⟩, threeDigit⟩, nonzero⟩, value⟩ := shape
      refine ⟨three, threeDigit, ?_⟩
      have oneSmall : ¬ 255 < digitValue one := by omega
      have twoSmall : ¬ 255 < digitValue one * 10 + digitValue two := by omega
      have small : ¬ 255 < octet.toNat := by omega
      simp [parseFields, oneDigit, twoDigit, threeDigit, nonzero, value,
        oneSmall, twoSmall, small]
  | one :: two :: three :: four :: more =>
      simp [text, octetShape] at shape

/-- A dot after an octet stores it. -/
private theorem parseFields_dot
    {last : UInt8} (digit : isDigit last = true)
    {fields : List UInt8} (short : fields.length < 3)
    (octet : UInt8) (digits : Nat) {rest : Bytes} (more : rest ≠ []) :
    parseFields (some last) octet.toNat digits fields (46 :: rest) =
      parseFields (some 46) 0 0 (fields ++ [octet]) rest := by
  have notDot : last ≠ 46 := by
    rintro rfl
    exact absurd digit (by decide)
  have notDigit : isDigit 46 = false := by decide
  have notFull : fields.length ≠ 3 := by omega
  simp [parseFields, notDigit, notDot, more, notFull]

theorem parseFields_toText (address : IPv4) :
    parseFields none 0 0 [] address.toText =
      some [address.first, address.second, address.third, address.fourth] := by
  unfold toText
  obtain ⟨last₁, digit₁, read₁⟩ := parseFields_octet address.first none [] _
  rw [read₁, parseFields_dot digit₁ (by simp) _ _ (by simp)]
  obtain ⟨last₂, digit₂, read₂⟩ :=
    parseFields_octet address.second (some 46) ([] ++ [address.first]) _
  rw [read₂, parseFields_dot digit₂ (by simp) _ _ (by simp)]
  obtain ⟨last₃, digit₃, read₃⟩ := parseFields_octet address.third (some 46)
    ([] ++ [address.first] ++ [address.second]) _
  rw [read₃, parseFields_dot digit₃ (by simp) _ _ (by simp)]
  obtain ⟨last₄, digit₄, read₄⟩ := parseFields_octet address.fourth (some 46)
    ([] ++ [address.first] ++ [address.second] ++ [address.third]) []
  rw [List.append_nil] at read₄
  rw [read₄]
  simp [parseFields]

private theorem find?_separator
    (octet : UInt8) (rest : Bytes) :
    (formatUint octet.toNat ++ 46 :: rest).find?
        (fun byte => byte == 46 || byte == 58 || byte == 37) = some 46 := by
  have digits : ∀ byte : UInt8, isDigit byte = true →
      (byte == 46 || byte == 58 || byte == 37) = false := by
    decide +kernel
  have skipped : (formatUint octet.toNat).find?
      (fun byte => byte == 46 || byte == 58 || byte == 37) = none := by
    rw [List.find?_eq_none]
    intro byte member
    simp only [digits byte (isDigit_of_mem_formatUint member), Bool.false_eq_true,
      not_false_eq_true]
  rw [List.find?_append, skipped]
  rfl

theorem parseAddr_toText (address : IPv4) :
    parseAddr address.toText = some address := by
  have separator : address.toText.find?
      (fun byte => byte == 46 || byte == 58 || byte == 37) = some 46 :=
    find?_separator _ _
  simp only [parseAddr, separator, parseFields_toText, Option.bind_some,
    ofFields]

theorem canonicalText_iff {text : Bytes} :
    canonicalText text = true ↔ ∃ address : IPv4, address.toText = text := by
  unfold canonicalText
  constructor
  · intro canonical
    cases parsed : parseAddr text with
    | none => simp [parsed] at canonical
    | some address =>
        simp only [parsed, beq_iff_eq] at canonical
        exact ⟨address, canonical⟩
  · rintro ⟨address, rfl⟩
    simp [parseAddr_toText]

/-! ## Shape of the canonical spelling -/

private theorem length_octet :
    ∀ octet : UInt8, 1 ≤ (formatUint octet.toNat).length ∧
      (formatUint octet.toNat).length ≤ 3 := by
  decide +kernel

/-- `[0-9]{1,3}` -/
def octetPattern : Regexp :=
  .bracket digitClass 1 3

/-- `[0-9]{1,3}\.[0-9]{1,3}\.[0-9]{1,3}\.[0-9]{1,3}` -/
def dottedPattern : Regexp :=
  .seq octetPattern (.seq (.literal [46]) (.seq octetPattern
    (.seq (.literal [46]) (.seq octetPattern
      (.seq (.literal [46]) octetPattern)))))

private theorem octetPattern_matches (octet : UInt8) :
    octetPattern.Matches (formatUint octet.toNat) [] :=
  ⟨(length_octet octet).1, (length_octet octet).2,
    fun _ member => isDigit_of_mem_formatUint member, rfl⟩

theorem dottedPattern_toText (address : IPv4) :
    dottedPattern.Matches address.toText [] := by
  refine ⟨_, _, [], [], rfl, rfl, octetPattern_matches _,
    [46], _, [], [], rfl, rfl, ⟨rfl, rfl⟩,
    _, _, [], [], rfl, rfl, octetPattern_matches _,
    [46], _, [], [], rfl, rfl, ⟨rfl, rfl⟩,
    _, _, [], [], rfl, rfl, octetPattern_matches _,
    [46], _, [], [], rfl, rfl, ⟨rfl, rfl⟩, octetPattern_matches _⟩

theorem toText_letter {address : IPv4} {byte : UInt8}
    (member : byte ∈ address.toText) :
    (isDigit byte || byte == 46) = true := by
  have letter := (dottedPattern_toText address).letter byte member
  have table : ∀ byte : UInt8, dottedPattern.letter byte = true →
      (isDigit byte || byte == 46) = true := by
    decide +kernel
  exact table byte letter

theorem length_toText (address : IPv4) :
    7 ≤ address.toText.length ∧ address.toText.length ≤ 15 :=
  (dottedPattern_toText address).length_le

end IPv4

end GoLib
