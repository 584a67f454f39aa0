import Mathlib.Data.List.DropRight
import SentinelFlow.GoLib.Time

/-!
# Instants as RFC 3339 texts

`time.RFC3339Nano` for instants in UTC.  The writer leaves out the trailing zeros
of the fraction, and the fraction itself if it is zero.  The reader is that of
`time.Parse` on the texts that end in `Z`: it is more liberal than the writer in
the number of digits of the hour and of the fraction and in the sign before the
fraction.
-/

namespace GoLib.Time

/-- A date and a second of the day, up to the fraction. -/
def writeSecond (date : Date) (clock : Nat) : Bytes :=
  appendYear date.year ++ 45 :: writeFields
    [⟨2, 45, date.month⟩, ⟨2, 84, date.day⟩, ⟨2, 58, clock / 3600⟩,
      ⟨2, 58, clock / 60 % 60⟩] ++ appendField 2 (clock % 60)

def dropTrailingZeros (digits : Bytes) : Bytes :=
  digits.rdropWhile (· == 48)

/-- The fraction of `.999999999`. -/
def appendNano (nanos : Nat) : Bytes :=
  if nanos = 0 then [] else 46 :: dropTrailingZeros (appendField 9 nanos)

/-- `t.UTC().Format(time.RFC3339Nano)`. -/
def formatRFC3339Nano (instant : Int) : Bytes :=
  let nanos := (instant % nanosPerDay).toNat
  writeSecond (dateOf (instant / nanosPerDay)) (nanos / 1000000000) ++
    appendNano (nanos % 1000000000) ++ [90]

/-- A run of exactly `width` digits. -/
def readDigits (width : Nat) (input : Bytes) : Option (Nat × Bytes) :=
  let digits := input.take width
  if digits.length = width ∧ digits.all isDigit then
    some (decimalValue digits, input.drop width)
  else none

/-- `parseNanoseconds`: the first nine digits count. -/
def nanoseconds (digits : Bytes) : Nat :=
  decimalValue (digits.take 9 ++ List.replicate (9 - digits.length) 48)

/-- An optional fraction after a point or a comma. -/
def readFraction (input : Bytes) : Nat × Bytes :=
  match input with
  | [] => (0, [])
  | byte :: rest =>
      if (byte == 46 || byte == 44) && !(rest.takeWhile isDigit).isEmpty then
        (nanoseconds (rest.takeWhile isDigit), rest.dropWhile isDigit)
      else (0, byte :: rest)

/-- The instant of a date and a time of day whose fields are in range. -/
def ofFields (date : Date) (hour minute second nanos : Nat) : Option Int :=
  if 1 ≤ date.month ∧ date.month ≤ 12 ∧ 1 ≤ date.day ∧
      date.day ≤ daysIn (isLeap date.year) date.month ∧ hour < 24 ∧
      minute < 60 ∧ second < 60 then
    some (daysOf date * nanosPerDay +
      (((hour * 60 + minute) * 60 + second) * 1000000000 + nanos : Nat))
  else none

/-- `time.Parse(time.RFC3339Nano, text)` on texts that end in `Z`. -/
def parseRFC3339 (text : Bytes) : Option Int := do
  let (year, text) ← readField 4 45 text
  let (month, text) ← readField 2 45 text
  let (day, text) ← readField 2 84 text
  let (hour, text) ← (readField 2 58 text).or (readField 1 58 text)
  let (minute, text) ← readField 2 58 text
  let (second, text) ← readDigits 2 text
  let (nanos, text) := readFraction text
  guard (text = [90])
  ofFields ⟨year, month, day⟩ hour minute second nanos

/-- `time.Time`: an instant and the offset of its location in seconds. -/
structure Zoned where
  instant : Int
  offset : Int
deriving DecidableEq, Repr

/-- `t.Year()`, in the location of `t`. -/
def Zoned.year (time : Zoned) : Int :=
  Time.year (time.instant + time.offset * 1000000000)

def Zoned.utc (time : Zoned) : Zoned :=
  ⟨time.instant, 0⟩

/-- `time.Parse(time.RFC3339Nano, text)`; `numeric` reads the texts that end in
a numeric offset. -/
def Zoned.parse (numeric : Bytes → Option Zoned) (text : Bytes) :
    Option Zoned :=
  if text.getLast? = some 90 then (parseRFC3339 text).map (⟨·, 0⟩)
  else numeric text

theorem dropTrailingZeros_append (digits : Bytes) :
    ∃ count, digits = dropTrailingZeros digits ++ List.replicate count 48 := by
  refine ⟨(digits.rtakeWhile (· == 48)).length, ?_⟩
  have zeros : digits.rtakeWhile (· == 48) =
      List.replicate (digits.rtakeWhile (· == 48)).length 48 := by
    rw [List.eq_replicate_iff]
    exact ⟨rfl, fun byte member => by
      simpa using List.mem_rtakeWhile_imp member⟩
  rw [← zeros, dropTrailingZeros, List.rdropWhile, List.rtakeWhile,
    ← List.reverse_append, List.takeWhile_append_dropWhile,
    List.reverse_reverse]

variable {date : Date} {instant : Int} {clock nanos : Nat}

/-- A fraction without its trailing zeros still denotes the same number. -/
theorem nanoseconds_dropTrailingZeros
    (small : nanos < 1000000000) :
    nanoseconds (dropTrailingZeros (appendField 9 nanos)) = nanos := by
  obtain ⟨count, split⟩ := dropTrailingZeros_append (appendField 9 nanos)
  have length : (appendField 9 nanos).length = 9 :=
    length_appendField (by decide) small
  have denoted : decimalValue (appendField 9 nanos) = nanos := by
    rw [appendField, decimalValue_padLeft, decimalValue_formatUint]
  generalize dropTrailingZeros (appendField 9 nanos) = kept at split
  rw [split, List.length_append, List.length_replicate] at length
  have padding : 9 - kept.length = count := by omega
  rw [nanoseconds, List.take_of_length_le (by omega), padding, ← split, denoted]

theorem isDigit_of_mem_dropTrailingZeros
    {byte : UInt8}
    (member : byte ∈ dropTrailingZeros (appendField 9 nanos)) :
    isDigit byte = true := by
  have digits := all_isDigit_appendField 9 nanos
  obtain ⟨count, split⟩ := dropTrailingZeros_append (appendField 9 nanos)
  rw [split, List.all_append, Bool.and_eq_true] at digits
  exact List.all_eq_true.mp digits.1 byte member

theorem length_dropTrailingZeros_le
    (small : nanos < 1000000000) :
    (dropTrailingZeros (appendField 9 nanos)).length ≤ 9 := by
  obtain ⟨count, split⟩ := dropTrailingZeros_append (appendField 9 nanos)
  have length : (appendField 9 nanos).length = 9 :=
    length_appendField (by decide) small
  rw [split, List.length_append] at length
  omega

/-- The text of a fraction that is read as the given number of nanoseconds. -/
def ReadsFraction (text : Bytes) (nanos : Nat) : Prop :=
  readFraction (text ++ [90]) = (nanos, [90])

theorem readsFraction_digits
    {digits : Bytes} (nonempty : digits ≠ [])
    (all : ∀ byte ∈ digits, isDigit byte = true) :
    ReadsFraction (46 :: digits) (nanoseconds digits) := by
  have taken : (digits ++ [90]).takeWhile isDigit = digits := by
    rw [List.takeWhile_append_of_pos all]
    simp [isDigit]
  have dropped : (digits ++ [90]).dropWhile isDigit = [90] := by
    rw [List.dropWhile_append_of_pos all]
    simp [isDigit]
  rw [ReadsFraction, List.cons_append, readFraction]
  simp [taken, dropped, nonempty]

theorem readsFraction_appendNano
    (small : nanos < 1000000000) :
    ReadsFraction (appendNano nanos) nanos := by
  unfold appendNano
  split
  next zero =>
    subst zero
    simp [ReadsFraction, readFraction]
  next positive =>
    have value := nanoseconds_dropTrailingZeros small
    have nonempty : dropTrailingZeros (appendField 9 nanos) ≠ [] := by
      intro empty
      rw [empty] at value
      exact positive (value ▸ by decide +kernel)
    have read := readsFraction_digits nonempty
      (fun byte => isDigit_of_mem_dropTrailingZeros)
    rwa [value] at read

theorem readDigits_appendField
    {width value : Nat} (positive : 0 < width) (fits : value < 10 ^ width)
    (rest : Bytes) :
    readDigits width (appendField width value ++ rest) = some (value, rest) := by
  have length := length_appendField positive fits
  have denoted : decimalValue (appendField width value) = value := by
    rw [appendField, decimalValue_padLeft, decimalValue_formatUint]
  simp only [readDigits, List.take_left' length, List.drop_left' length, length,
    all_isDigit_appendField, and_self, if_true, denoted]

/-- A date and a second of the day are read back with any fraction. -/
theorem parseRFC3339_writeSecond
    (valid : date.Valid) (lower : 0 ≤ date.year)
    (upper : date.year ≤ 9999) (clockBound : clock < 86400) {fraction : Bytes}
    (read : ReadsFraction fraction nanos) :
    parseRFC3339 (writeSecond date clock ++ fraction ++ [90]) =
      some (daysOf date * nanosPerDay + (clock * 1000000000 + nanos : Nat)) := by
  obtain ⟨dateYear, month, day⟩ := date
  obtain ⟨year, rfl⟩ : ∃ year : Nat, dateYear = year :=
    ⟨dateYear.toNat, by simp only at lower; omega⟩
  have dayBound : ∀ leap : Bool, ∀ month, month ≤ 12 →
      daysIn leap month ≤ 31 := by decide
  obtain ⟨monthPositive, monthLe, dayPositive, dayInMonth⟩ := valid
  have dayLe := Nat.le_trans dayInMonth (dayBound _ _ monthLe)
  simp only at monthPositive monthLe dayPositive dayInMonth dayLe upper
  have clockSplit : (clock / 3600 * 60 + clock / 60 % 60) * 60 + clock % 60 =
      clock := by
    have hours : clock / 3600 = clock / 60 / 60 := by
      rw [Nat.div_div_eq_div_mul]
    omega
  have inRange : 1 ≤ month ∧ month ≤ 12 ∧ 1 ≤ day ∧
      day ≤ daysIn (isLeap year) month ∧ clock / 3600 < 24 ∧
      clock / 60 % 60 < 60 ∧ clock % 60 < 60 :=
    ⟨monthPositive, monthLe, dayPositive, dayInMonth, by omega, by omega,
      by omega⟩
  have yearRead : ∀ rest,
      readField 4 45 (appendField 4 year ++ 45 :: rest) = some (year, rest) :=
    readField_appendField (by decide) (by omega) 45
  have twoRead : ∀ value, value < 100 → ∀ separator rest,
      readField 2 separator (appendField 2 value ++ separator :: rest) =
        some (value, rest) := fun value fits =>
    readField_appendField (by decide) (by omega)
  have secondRead : ∀ rest,
      readDigits 2 (appendField 2 (clock % 60) ++ rest) =
        some (clock % 60, rest) :=
    readDigits_appendField (by decide) (by omega)
  simp only [parseRFC3339, writeSecond, appendYear_natCast, writeFields,
    List.append_assoc, List.cons_append, List.nil_append, yearRead,
    twoRead month (by omega), twoRead day (by omega),
    twoRead (clock / 3600) (by omega), twoRead (clock / 60 % 60) (by omega),
    secondRead, Option.bind_eq_bind, Option.bind_some, Option.some_or,
    show readFraction (fraction ++ [90]) = (nanos, [90]) from read, guard,
    if_true, pure, ofFields, if_pos inRange, clockSplit]

/-- Every instant of years 0 to 9999 is read back from its text. -/
theorem parseRFC3339_formatRFC3339Nano
    (lower : 0 ≤ year instant) (upper : year instant ≤ 9999) :
    parseRFC3339 (formatRFC3339Nano instant) = some instant := by
  have clockLower := Int.emod_nonneg instant (b := nanosPerDay) (by decide)
  have clockUpper := Int.emod_lt_of_pos instant (b := nanosPerDay) (by decide)
  have days := daysOf_dateOf (instant / nanosPerDay)
  have division := Int.mul_ediv_add_emod instant nanosPerDay
  simp only [formatRFC3339Nano]
  generalize nanosEq : (instant % nanosPerDay).toNat = nanos
  have bound : nanos / 1000000000 < 86400 := by
    unfold nanosPerDay at clockUpper nanosEq
    omega
  rw [parseRFC3339_writeSecond (dateOf_valid _) lower upper bound
    (readsFraction_appendNano (Nat.mod_lt _ (by decide))), days]
  have joined : nanos / 1000000000 * 1000000000 + nanos % 1000000000 =
      nanos := Nat.div_add_mod' _ _
  rw [joined]
  congr 1
  rw [Int.mul_comm]
  omega

theorem Zoned.parse_formatRFC3339Nano
    (numeric : Bytes → Option Zoned)
    (lower : 0 ≤ Time.year instant) (upper : Time.year instant ≤ 9999) :
    Zoned.parse numeric (formatRFC3339Nano instant) = some ⟨instant, 0⟩ := by
  have last : (formatRFC3339Nano instant).getLast? = some 90 :=
    List.getLast?_concat
  rw [Zoned.parse, if_pos last, parseRFC3339_formatRFC3339Nano lower upper]
  rfl

/-- The millisecond layout differs in its fraction only. -/
theorem format_eq_writeSecond (instant : Int) :
    format instant =
      writeSecond (dateOf (instant / nanosPerDay))
          ((instant % nanosPerDay).toNat / 1000000 / 1000) ++
        46 :: appendField 3 ((instant % nanosPerDay).toNat / 1000000 % 1000) ++
        [90] := by
  simp only [format]
  generalize (instant % nanosPerDay).toNat / 1000000 = clock
  have hours : clock / 3600000 = clock / 1000 / 3600 := by
    rw [Nat.div_div_eq_div_mul]
  have minutes : clock / 60000 = clock / 1000 / 60 := by
    rw [Nat.div_div_eq_div_mul]
  simp only [writeSecond, clockFields, writeFields, List.append_assoc,
    List.cons_append, List.nil_append, hours, minutes]

theorem nanoseconds_millis {millis : Nat} (small : millis < 1000) :
    nanoseconds (appendField 3 millis) = millis * 1000000 := by
  have length : (appendField 3 millis).length = 3 :=
    length_appendField (by decide) small
  have denoted : decimalValue (appendField 3 millis) = millis := by
    rw [appendField, decimalValue_padLeft, decimalValue_formatUint]
  rw [nanoseconds, List.take_of_length_le (by omega), length, decimalValue,
    List.foldl_append, ← decimalValue, denoted]
  simp [List.replicate, digitValue]
  omega

/-- The millisecond text of an aligned instant is read back as well. -/
theorem parseRFC3339_format
    (lower : 0 ≤ year instant) (upper : year instant ≤ 9999)
    (aligned : MillisecondAligned instant) :
    parseRFC3339 (format instant) = some instant := by
  have clockLower := Int.emod_nonneg instant (b := nanosPerDay) (by decide)
  have clockUpper := Int.emod_lt_of_pos instant (b := nanosPerDay) (by decide)
  have days := daysOf_dateOf (instant / nanosPerDay)
  have division := Int.mul_ediv_add_emod instant nanosPerDay
  rw [format_eq_writeSecond]
  generalize clockEq : (instant % nanosPerDay).toNat / 1000000 = clock
  have split : (clock * 1000000 : Nat) = instant % nanosPerDay := by
    unfold MillisecondAligned at aligned
    unfold nanosPerDay at *
    omega
  have bound : clock / 1000 < 86400 := by
    unfold nanosPerDay at clockUpper split
    omega
  have millis : clock % 1000 < 1000 := Nat.mod_lt _ (by decide)
  have digits : ∀ byte ∈ appendField 3 (clock % 1000), isDigit byte = true :=
    List.all_eq_true.mp (all_isDigit_appendField _ _)
  have nonempty : appendField 3 (clock % 1000) ≠ [] := by
    intro empty
    have length : (appendField 3 (clock % 1000)).length = 3 :=
      length_appendField (by decide) millis
    rw [empty] at length
    cases length
  rw [parseRFC3339_writeSecond (dateOf_valid _) lower upper bound
    (readsFraction_digits nonempty digits), days, nanoseconds_millis millis]
  have joined : clock / 1000 * 1000000000 + clock % 1000 * 1000000 =
      clock * 1000000 := by
    omega
  rw [joined, split]
  congr 1
  rw [Int.mul_comm]
  omega

/-- The bytes that occur in the text of an instant. -/
theorem mem_formatRFC3339Nano
    {byte : UInt8} (member : byte ∈ formatRFC3339Nano instant) :
    isDigit byte = true ∨ byte ∈ layout.map Prod.snd := by
  have digits : ∀ width value, byte ∈ appendField width value →
      isDigit byte = true := fun width value found =>
    List.all_eq_true.mp (all_isDigit_appendField width value) byte found
  simp only [formatRFC3339Nano, writeSecond, List.mem_append, List.mem_cons,
    List.not_mem_nil, or_false] at member
  rcases member with (((year | rfl | later) | second) | fraction) | rfl
  · unfold appendYear at year
    split at year
    · rcases List.mem_cons.mp year with rfl | digit
      · exact .inr (by decide)
      · exact .inl (digits _ _ digit)
    · exact .inl (digits _ _ year)
  · exact .inr (by decide)
  · rcases mem_writeFields later with digit | separator
    · exact .inl digit
    · right
      simp only [List.map_cons, List.map_nil, List.mem_cons, List.not_mem_nil,
        or_false] at separator
      rcases separator with rfl | rfl | rfl | rfl <;> decide
  · exact .inl (digits _ _ second)
  · unfold appendNano at fraction
    split at fraction
    · cases fraction
    · rcases List.mem_cons.mp fraction with rfl | digit
      · exact .inr (by decide)
      · exact .inl (isDigit_of_mem_dropTrailingZeros digit)
  · exact .inr (by decide)

theorem length_writeSecond
    (valid : date.Valid) (lower : 0 ≤ date.year)
    (upper : date.year ≤ 9999) (clockBound : clock < 86400) :
    (writeSecond date clock).length = 19 := by
  obtain ⟨dateYear, month, day⟩ := date
  obtain ⟨yearNumber, rfl⟩ : ∃ yearNumber : Nat, dateYear = yearNumber :=
    ⟨dateYear.toNat, by simp only at lower; omega⟩
  have dayBound : ∀ leap : Bool, ∀ month, month ≤ 12 →
      daysIn leap month ≤ 31 := by decide
  have monthLe := valid.month_le
  have dayLe := Nat.le_trans valid.day_le (dayBound _ _ monthLe)
  simp only at upper dayLe monthLe
  have yearLength : (appendYear yearNumber).length = 4 := by
    rw [appendYear_natCast]
    exact length_appendField (by decide) (by omega)
  have two : ∀ value, value < 100 → (appendField 2 value).length = 2 :=
    fun value fits => length_appendField (by decide) fits
  simp only [writeSecond, writeFields, List.length_append, List.length_cons,
    List.length_nil, yearLength, two month (by omega), two day (by omega),
    two (clock / 3600) (by omega), two (clock / 60 % 60) (by omega),
    two (clock % 60) (by omega)]

/-- The texts of an instant of years 0 to 9999 are at most 30 bytes long. -/
theorem length_formats_le
    (lower : 0 ≤ year instant) (upper : year instant ≤ 9999) :
    (formatRFC3339Nano instant).length ≤ 30 ∧ (format instant).length ≤ 30 := by
  have clockUpper := Int.emod_lt_of_pos instant (b := nanosPerDay) (by decide)
  have valid := dateOf_valid (instant / nanosPerDay)
  rw [format_eq_writeSecond]
  simp only [formatRFC3339Nano]
  generalize nanosEq : (instant % nanosPerDay).toNat = nanos
  have clockBound : nanos / 1000000000 < 86400 := by
    unfold nanosPerDay at clockUpper nanosEq
    omega
  have second := length_writeSecond valid lower upper clockBound
  have sameSecond : nanos / 1000000 / 1000 = nanos / 1000000000 := by
    rw [Nat.div_div_eq_div_mul]
  rw [sameSecond]
  constructor
  · have fraction : (appendNano (nanos % 1000000000)).length ≤ 10 := by
      unfold appendNano
      split
      · exact Nat.zero_le _
      · have kept : (dropTrailingZeros
            (appendField 9 (nanos % 1000000000))).length ≤ 9 :=
          length_dropTrailingZeros_le (Nat.mod_lt _ (by decide))
        rw [List.length_cons]
        omega
    simp only [List.length_append, List.length_cons, List.length_nil, second]
    omega
  · have fraction : (appendField 3 (nanos / 1000000 % 1000)).length = 3 :=
      length_appendField (by decide) (Nat.mod_lt _ (by decide))
    simp only [List.length_append, List.length_cons, List.length_nil, second,
      fraction]
    omega

/-! ## No two instants have one text -/

theorem appendField_injective (width : Nat) :
    Function.Injective (appendField width) := by
  intro left right same
  have values := congrArg decimalValue same
  simpa only [appendField, decimalValue_padLeft, decimalValue_formatUint]
    using values

private theorem separator_notMem_appendField
    {separator : UInt8} (other : isDigit separator = false)
    (width value : Nat) : separator ∉ appendField width value := by
  intro member
  have digit := List.all_eq_true.mp (all_isDigit_appendField width value)
    separator member
  rw [other] at digit
  cases digit

/-- The sign and the digits of a year end at the separator after them. -/
private theorem appendYear_inj
    {left right : Int} {leftRest rightRest : Bytes}
    (same : appendYear left ++ 45 :: leftRest =
      appendYear right ++ 45 :: rightRest) :
    left = right ∧ leftRest = rightRest := by
  have clean : ∀ value, (45 : UInt8) ∉ appendField 4 value :=
    separator_notMem_appendField (by decide) 4
  have unsigned : ∀ {value rest}, 45 :: appendField 4 value ++ 45 :: leftRest ≠
      appendField 4 rest ++ 45 :: rightRest ∧
      45 :: appendField 4 value ++ 45 :: rightRest ≠
        appendField 4 rest ++ 45 :: leftRest := by
    intro value rest
    have wide : 4 ≤ (appendField 4 rest).length := by
      simp only [appendField, padLeft, List.length_append,
        List.length_replicate]
      omega
    cases digits : appendField 4 rest with
    | nil => simp [digits] at wide
    | cons first =>
        have apart : (45 : UInt8) ≠ first := by
          rintro rfl
          exact clean rest (digits ▸ List.mem_cons_self)
        exact ⟨fun equal => apart (List.cons.inj equal).1,
          fun equal => apart (List.cons.inj equal).1⟩
  unfold appendYear at same
  by_cases before : left < 0
  · rw [if_pos before] at same
    by_cases also : right < 0
    · rw [if_pos also, List.cons_append, List.cons_append,
        List.cons.injEq] at same
      obtain ⟨digits, rests⟩ := append_separator_inj (clean _) (clean _) same.2
      have value := appendField_injective 4 digits
      exact ⟨by omega, rests⟩
    · rw [if_neg also] at same
      exact absurd same unsigned.1
  · rw [if_neg before] at same
    by_cases also : right < 0
    · rw [if_pos also] at same
      exact absurd same.symm unsigned.2
    · rw [if_neg also] at same
      obtain ⟨digits, rests⟩ := append_separator_inj (clean _) (clean _) same
      have value := appendField_injective 4 digits
      exact ⟨by omega, rests⟩

/-- The fields of a text up to the fraction, with their values. -/
private def secondFields (date : Date) (clock : Nat) : List Field :=
  [⟨2, 45, date.month⟩, ⟨2, 84, date.day⟩, ⟨2, 58, clock / 3600⟩,
    ⟨2, 58, clock / 60 % 60⟩]

private theorem secondFields_fit
    (valid : date.Valid) (bound : clock < 86400) :
    ∀ field ∈ secondFields date clock, field.Fits := by
  have dayBound : ∀ leap : Bool, ∀ month, month ≤ 12 →
      daysIn leap month ≤ 31 := by decide
  obtain ⟨-, monthLe, -, dayInMonth⟩ := valid
  have dayLe := Nat.le_trans dayInMonth (dayBound _ _ monthLe)
  simp only [secondFields, List.forall_mem_cons, Field.Fits, List.not_mem_nil,
    false_implies, implies_true, and_true]
  refine ⟨⟨by decide, ?_⟩, ⟨by decide, ?_⟩, ⟨by decide, ?_⟩, by decide, ?_⟩
  · omega
  · omega
  · omega
  · omega

private theorem writeSecond_inj
    {left right : Date} (leftValid : left.Valid) (rightValid : right.Valid)
    {leftClock rightClock : Nat} (leftBound : leftClock < 86400)
    (rightBound : rightClock < 86400) {leftRest rightRest : Bytes}
    (same : writeSecond left leftClock ++ leftRest =
      writeSecond right rightClock ++ rightRest) :
    left = right ∧ leftClock = rightClock ∧ leftRest = rightRest := by
  simp only [writeSecond, List.append_assoc, List.cons_append] at same
  obtain ⟨years, later⟩ := appendYear_inj same
  have leftFits := secondFields_fit leftValid leftBound
  have rightFits := secondFields_fit rightValid rightBound
  have lengths : (writeFields (secondFields left leftClock)).length =
      (writeFields (secondFields right rightClock)).length := by
    rw [length_writeFields _ leftFits, length_writeFields _ rightFits]
    rfl
  obtain ⟨fields, seconds⟩ := List.append_inj later lengths
  have values := readFields_writeFields _ leftFits
  rw [show writeFields (secondFields left leftClock) =
    writeFields (secondFields right rightClock) from fields] at values
  have equal := Option.some.inj
    (values.symm.trans (readFields_writeFields _ rightFits))
  simp only [secondFields, List.map_cons, List.map_nil, List.cons.injEq,
    and_true] at equal
  obtain ⟨months, days, hours, minutes⟩ := equal
  have width : ∀ clock, (appendField 2 (clock % 60)).length = 2 := fun clock =>
    length_appendField (by decide) (by omega)
  obtain ⟨digits, rests⟩ := List.append_inj seconds
    ((width leftClock).trans (width rightClock).symm)
  have remainder := appendField_injective 2 digits
  refine ⟨?_, by omega, rests⟩
  cases left
  cases right
  simp only at years months days
  rw [years, months, days]

/-- The text of an instant of any year determines the instant. -/
theorem formatRFC3339Nano_injective :
    Function.Injective formatRFC3339Nano := by
  intro left right same
  have bounds : ∀ instant : Int,
      ((instant % nanosPerDay).toNat : Int) = instant % nanosPerDay ∧
        (instant % nanosPerDay).toNat < 86400000000000 := by
    intro instant
    have lower := Int.emod_nonneg instant (b := nanosPerDay) (by decide)
    have upper := Int.emod_lt_of_pos instant (b := nanosPerDay) (by decide)
    unfold nanosPerDay at *
    omega
  obtain ⟨leftCast, leftBound⟩ := bounds left
  obtain ⟨rightCast, rightBound⟩ := bounds right
  simp only [formatRFC3339Nano, List.append_assoc] at same
  obtain ⟨dates, clocks, fractions⟩ := writeSecond_inj (dateOf_valid _)
    (dateOf_valid _) (by omega) (by omega) same
  have days : left / nanosPerDay = right / nanosPerDay := by
    rw [← daysOf_dateOf (left / nanosPerDay), dates, daysOf_dateOf]
  have readLeft := readsFraction_appendNano
    (Nat.mod_lt (left % nanosPerDay).toNat (show 0 < 1000000000 by decide))
  have readRight := readsFraction_appendNano
    (Nat.mod_lt (right % nanosPerDay).toNat (show 0 < 1000000000 by decide))
  unfold ReadsFraction at readLeft readRight
  rw [fractions] at readLeft
  have nanos := congrArg Prod.fst (readLeft.symm.trans readRight)
  simp only at nanos
  rw [← Int.mul_ediv_add_emod left nanosPerDay,
    ← Int.mul_ediv_add_emod right nanosPerDay, days, ← leftCast, ← rightCast]
  congr 2
  omega

end GoLib.Time
