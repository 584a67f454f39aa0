import SentinelFlow.GoLib.Bytes

/-!
# Unpadded base64url

`base64.RawURLEncoding` with and without `Strict`.  The decoder drops carriage
returns and line feeds before it looks at the alphabet, so a text is determined
by the bytes it denotes only when it contains neither.  Strict decoding further
demands that the unused low bits of the last symbol are zero.
-/

namespace GoLib.Base64

/-- The symbol of a six-bit value in the URL alphabet. -/
def symbol (sextet : Nat) : UInt8 :=
  if sextet < 26 then UInt8.ofNat (65 + sextet)
  else if sextet < 52 then UInt8.ofNat (71 + sextet)
  else if sextet < 62 then UInt8.ofNat (sextet - 4)
  else if sextet = 62 then 45
  else 95

/-- The six-bit value of a symbol, if it belongs to the URL alphabet. -/
def sextet? (byte : UInt8) : Option Nat :=
  if 65 ≤ byte ∧ byte ≤ 90 then some (byte.toNat - 65)
  else if 97 ≤ byte ∧ byte ≤ 122 then some (byte.toNat - 71)
  else if 48 ≤ byte ∧ byte ≤ 57 then some (byte.toNat + 4)
  else if byte = 45 then some 62
  else if byte = 95 then some 63
  else none

/-- The six-bit groups of a byte string, the last one filled with zeros. -/
def toSextets : Bytes → List Nat
  | [] => []
  | [first] => [first.toNat / 4, first.toNat % 4 * 16]
  | [first, second] =>
      [first.toNat / 4, first.toNat % 4 * 16 + second.toNat / 16,
        second.toNat % 16 * 4]
  | first :: second :: third :: rest =>
      first.toNat / 4 :: (first.toNat % 4 * 16 + second.toNat / 16) ::
        (second.toNat % 16 * 4 + third.toNat / 64) :: third.toNat % 64 ::
        toSextets rest

/-- Reassembles bytes from six-bit groups; a lone trailing group is corrupt. -/
def ofSextets (strict : Bool) : List Nat → Option Bytes
  | [] => some []
  | [_] => none
  | [first, second] =>
      if strict ∧ second % 16 ≠ 0 then none
      else some [UInt8.ofNat (first * 4 + second / 16)]
  | [first, second, third] =>
      if strict ∧ third % 4 ≠ 0 then none
      else some [UInt8.ofNat (first * 4 + second / 16),
        UInt8.ofNat (second % 16 * 16 + third / 4)]
  | first :: second :: third :: fourth :: rest =>
      (ofSextets strict rest).map fun bytes =>
        UInt8.ofNat (first * 4 + second / 16) ::
          UInt8.ofNat (second % 16 * 16 + third / 4) ::
          UInt8.ofNat (third % 4 * 64 + fourth) :: bytes

/-- `base64.RawURLEncoding.EncodeToString`. -/
def encode (bytes : Bytes) : Bytes :=
  (toSextets bytes).map symbol

/-- Carriage returns and line feeds, which the decoder skips. -/
def isSkipped (byte : UInt8) : Bool :=
  byte == 10 || byte == 13

/-- `DecodeString` of `base64.RawURLEncoding`, or of its `Strict` variant. -/
def decode (strict : Bool) (text : Bytes) : Option Bytes :=
  match (text.filter fun byte => !isSkipped byte).mapM sextet? with
  | none => none
  | some sextets => ofSextets strict sextets

theorem sextet?_symbol : ∀ sextet, sextet < 64 →
    sextet? (symbol sextet) = some sextet := by
  decide

theorem symbol_of_sextet? : ∀ byte : UInt8, ∀ sextet,
    sextet? byte = some sextet → symbol sextet = byte ∧ sextet < 64 := by
  intro byte sextet found
  have table : ∀ byte : UInt8, (sextet? byte).all
      (fun sextet => symbol sextet == byte && sextet < 64) = true := by
    decide +kernel
  have entry := table byte
  rw [found] at entry
  simpa using entry

theorem toSextets_lt (bytes : Bytes) :
    ∀ sextet, sextet ∈ toSextets bytes → sextet < 64 := by
  induction bytes using toSextets.induct with
  | case1 => simp [toSextets]
  | case2 first =>
      have bound := first.toNat_lt
      intro sextet member
      simp only [toSextets, List.mem_cons, List.not_mem_nil, or_false] at member
      omega
  | case3 first second =>
      have firstBound := first.toNat_lt
      have secondBound := second.toNat_lt
      intro sextet member
      simp only [toSextets, List.mem_cons, List.not_mem_nil, or_false] at member
      omega
  | case4 first second third rest induction =>
      have firstBound := first.toNat_lt
      have secondBound := second.toNat_lt
      have thirdBound := third.toNat_lt
      intro sextet member
      simp only [toSextets, List.mem_cons] at member
      rcases member with member | member | member | member | member
      · omega
      · omega
      · omega
      · omega
      · exact induction sextet member

private theorem ofNat_eq {value : Nat} {byte : UInt8}
    (equality : value = byte.toNat) : UInt8.ofNat value = byte := by
  subst value
  exact UInt8.ofNat_toNat

theorem ofSextets_toSextets (strict : Bool) (bytes : Bytes) :
    ofSextets strict (toSextets bytes) = some bytes := by
  induction bytes using toSextets.induct with
  | case1 => rfl
  | case2 first =>
      have zeros : first.toNat % 4 * 16 % 16 = 0 := by omega
      have firstValue : UInt8.ofNat
          (first.toNat / 4 * 4 + first.toNat % 4 * 16 / 16) = first :=
        ofNat_eq (by omega)
      simp only [toSextets, ofSextets, zeros, ne_eq, not_true_eq_false,
        and_false, if_false, firstValue]
  | case3 first second =>
      have bound := second.toNat_lt
      have zeros : second.toNat % 16 * 4 % 4 = 0 := by omega
      have firstValue : UInt8.ofNat (first.toNat / 4 * 4 +
          (first.toNat % 4 * 16 + second.toNat / 16) / 16) = first :=
        ofNat_eq (by omega)
      have secondValue : UInt8.ofNat
          ((first.toNat % 4 * 16 + second.toNat / 16) % 16 * 16 +
            second.toNat % 16 * 4 / 4) = second :=
        ofNat_eq (by omega)
      simp only [toSextets, ofSextets, zeros, ne_eq, not_true_eq_false,
        and_false, if_false, firstValue, secondValue]
  | case4 first second third rest induction =>
      have secondBound := second.toNat_lt
      have thirdBound := third.toNat_lt
      have firstValue : UInt8.ofNat (first.toNat / 4 * 4 +
          (first.toNat % 4 * 16 + second.toNat / 16) / 16) = first :=
        ofNat_eq (by omega)
      have secondValue : UInt8.ofNat
          ((first.toNat % 4 * 16 + second.toNat / 16) % 16 * 16 +
            (second.toNat % 16 * 4 + third.toNat / 64) / 4) = second :=
        ofNat_eq (by omega)
      have thirdValue : UInt8.ofNat
          ((second.toNat % 16 * 4 + third.toNat / 64) % 4 * 64 +
            third.toNat % 64) = third :=
        ofNat_eq (by omega)
      simp only [toSextets, ofSextets, induction, Option.map_some, firstValue,
        secondValue, thirdValue]

private theorem toNat_ofNat {value : Nat} (bound : value < 256) :
    (UInt8.ofNat value).toNat = value :=
  UInt8.toNat_ofNat_of_lt' bound

variable {bytes text : Bytes}

theorem toSextets_of_ofSextets
    {sextets : List Nat}
    (bounded : ∀ sextet, sextet ∈ sextets → sextet < 64)
    (decoded : ofSextets true sextets = some bytes) :
    toSextets bytes = sextets := by
  induction sextets using ofSextets.induct true generalizing bytes with
  | case1 =>
      cases decoded
      rfl
  | case2 => cases decoded
  | case3 first second dirty
  | case5 first second third dirty =>
      rw [ofSextets, if_pos dirty] at decoded
      cases decoded
  | case4 first second clean =>
      have zeros : second % 16 = 0 := by simpa using clean
      have firstBound := bounded first (by simp)
      have secondBound := bounded second (by simp)
      rw [ofSextets, if_neg clean] at decoded
      cases decoded
      have byteValue : (UInt8.ofNat (first * 4 + second / 16)).toNat =
          first * 4 + second / 16 := toNat_ofNat (by omega)
      simp only [toSextets, byteValue, List.cons.injEq, and_true]
      omega
  | case6 first second third clean =>
      have zeros : third % 4 = 0 := by simpa using clean
      have firstBound := bounded first (by simp)
      have secondBound := bounded second (by simp)
      have thirdBound := bounded third (by simp)
      rw [ofSextets, if_neg clean] at decoded
      cases decoded
      have firstValue : (UInt8.ofNat (first * 4 + second / 16)).toNat =
          first * 4 + second / 16 := toNat_ofNat (by omega)
      have secondValue : (UInt8.ofNat (second % 16 * 16 + third / 4)).toNat =
          second % 16 * 16 + third / 4 := toNat_ofNat (by omega)
      simp only [toSextets, firstValue, secondValue, List.cons.injEq,
        and_true]
      omega
  | case7 first second third fourth rest induction =>
      have firstBound := bounded first (by simp)
      have secondBound := bounded second (by simp)
      have thirdBound := bounded third (by simp)
      have fourthBound := bounded fourth (by simp)
      simp only [ofSextets, Option.map_eq_some_iff] at decoded
      obtain ⟨tail, tailDecoded, rfl⟩ := decoded
      have tailSextets := induction
        (fun sextet member => bounded sextet (by simp [member])) tailDecoded
      have firstValue : (UInt8.ofNat (first * 4 + second / 16)).toNat =
          first * 4 + second / 16 := toNat_ofNat (by omega)
      have secondValue : (UInt8.ofNat (second % 16 * 16 + third / 4)).toNat =
          second % 16 * 16 + third / 4 := toNat_ofNat (by omega)
      have thirdValue : (UInt8.ofNat (third % 4 * 64 + fourth)).toNat =
          third % 4 * 64 + fourth := toNat_ofNat (by omega)
      simp only [toSextets, firstValue, secondValue, thirdValue, tailSextets,
        List.cons.injEq, and_true]
      omega

private theorem mapM_sextet?_symbol
    (sextets : List Nat) (bounded : ∀ sextet, sextet ∈ sextets → sextet < 64) :
    (sextets.map symbol).mapM sextet? = some sextets := by
  induction sextets with
  | nil => rfl
  | cons sextet sextets induction =>
      have head := sextet?_symbol sextet (bounded sextet (by simp))
      have tail := induction
        (fun other member => bounded other (by simp [member]))
      simp [List.mapM_cons, head, tail]

private theorem map_symbol_of_mapM
    {sextets : List Nat}
    (found : text.mapM sextet? = some sextets) :
    sextets.map symbol = text ∧ ∀ sextet, sextet ∈ sextets → sextet < 64 := by
  induction text generalizing sextets with
  | nil =>
      cases found
      simp
  | cons byte text induction =>
      simp only [List.mapM_cons, Option.pure_def, Option.bind_eq_bind,
        Option.bind_eq_some_iff] at found
      obtain ⟨sextet, head, tail, tailFound, equality⟩ := found
      cases equality
      obtain ⟨sameByte, headBound⟩ := symbol_of_sextet? byte sextet head
      obtain ⟨sameText, tailBound⟩ := induction tailFound
      constructor
      · simp [sameByte, sameText]
      · intro other member
        rcases List.mem_cons.mp member with rfl | member
        · exact headBound
        · exact tailBound other member

/-- Membership in the URL alphabet. -/
def isSymbol (byte : UInt8) : Bool :=
  (sextet? byte).isSome

theorem isSymbol_of_mem_encode
    {byte : UInt8} (member : byte ∈ encode bytes) :
    isSymbol byte = true := by
  obtain ⟨sextet, sextetMember, rfl⟩ := List.mem_map.mp member
  simp [isSymbol, sextet?_symbol sextet (toSextets_lt bytes sextet sextetMember)]

theorem not_isSkipped_of_isSymbol : ∀ byte : UInt8,
    isSymbol byte = true → isSkipped byte = false := by
  decide +kernel

private theorem filter_eq_self_of_symbols
    (symbols : ∀ byte, byte ∈ text → isSkipped byte = false) :
    text.filter (fun byte => !isSkipped byte) = text := by
  rw [List.filter_eq_self]
  intro byte member
  simp [symbols byte member]

/-- Both decoders invert the encoder. -/
theorem decode_encode (strict : Bool) (bytes : Bytes) :
    decode strict (encode bytes) = some bytes := by
  have kept : (encode bytes).filter (fun byte => !isSkipped byte) =
      encode bytes :=
    filter_eq_self_of_symbols fun byte member =>
      not_isSkipped_of_isSymbol byte (isSymbol_of_mem_encode member)
  simp only [decode, kept]
  rw [encode, mapM_sextet?_symbol _ (toSextets_lt bytes)]
  exact ofSextets_toSextets strict bytes

/-- The text obtained by dropping what the decoder skips is the only spelling
that the encoder produces for the decoded bytes. -/
theorem encode_of_decode
    (decoded : decode true text = some bytes) :
    encode bytes = text.filter (fun byte => !isSkipped byte) := by
  unfold decode at decoded
  cases found : (text.filter fun byte => !isSkipped byte).mapM sextet? with
  | none => simp [found] at decoded
  | some =>
      simp only [found] at decoded
      obtain ⟨sameText, bounded⟩ := map_symbol_of_mapM found
      rw [encode, toSextets_of_ofSextets bounded decoded, sameText]

/-- A strictly decoded text is the canonical spelling of its bytes exactly
when it holds neither a carriage return nor a line feed. -/
theorem encode_eq_iff_of_decode
    (decoded : decode true text = some bytes) :
    encode bytes = text ↔ ∀ byte, byte ∈ text → isSkipped byte = false := by
  constructor
  · intro equality byte member
    rw [← equality] at member
    exact not_isSkipped_of_isSymbol byte (isSymbol_of_mem_encode member)
  · intro clean
    rw [encode_of_decode decoded, filter_eq_self_of_symbols clean]

theorem encode_injective : Function.Injective encode := by
  intro left right equality
  have decoded := congrArg (decode false) equality
  simpa only [decode_encode, Option.some.injEq] using decoded

theorem length_encode (bytes : Bytes) :
    (encode bytes).length = (bytes.length * 4 + 2) / 3 := by
  unfold encode
  rw [List.length_map]
  induction bytes using toSextets.induct with
  | case1 => rfl
  | case2 => simp [toSextets]
  | case3 => simp [toSextets]
  | case4 first second third rest induction =>
      simp only [toSextets, List.length_cons, induction]
      omega

theorem encode_eq_nil_iff : encode bytes = [] ↔ bytes = [] := by
  constructor
  · intro empty
    exact encode_injective (empty.trans rfl)
  · rintro rfl
    rfl

end GoLib.Base64
