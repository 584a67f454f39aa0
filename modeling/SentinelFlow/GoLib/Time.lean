import Mathlib.Algebra.Order.Ring.Nat
import SentinelFlow.GoLib.Bytes

/-!
# Instants and their millisecond text

A `time.Time` in UTC is the number of nanoseconds since its zero value, midnight
of 1 January of year 1.  The calendar is proleptic Gregorian.  The only layout
modelled is `2006-01-02T15:04:05.000Z`; the reader accepts exactly the texts of
that shape, and every caller compares the parsed instant's text with its input,
so the further spellings that `time.Parse` tolerates never matter.
-/

namespace GoLib.Time

/-- Nanoseconds of a `time.Millisecond`. -/
def millisecond : Int := 1000000

/-- Nanoseconds of a `time.Second`. -/
def second : Int := 1000000000

def nanosPerDay : Int := 86400000000000

/-- `t.Truncate(time.Millisecond)`: rounds down, also before the zero time. -/
def truncateMillisecond (instant : Int) : Int :=
  instant - instant % 1000000

/-- `t.Nanosecond() % int(time.Millisecond) == 0`. -/
def MillisecondAligned (instant : Int) : Prop :=
  instant % 1000000 = 0

instance (instant : Int) : Decidable (MillisecondAligned instant) :=
  inferInstanceAs (Decidable (instant % 1000000 = 0))

theorem truncateMillisecond_aligned (instant : Int) :
    MillisecondAligned (truncateMillisecond instant) := by
  unfold MillisecondAligned truncateMillisecond
  omega

theorem truncateMillisecond_le (instant : Int) :
    truncateMillisecond instant ≤ instant := by
  unfold truncateMillisecond
  omega

theorem truncateMillisecond_mono {early late : Int} (ordered : early ≤ late) :
    truncateMillisecond early ≤ truncateMillisecond late := by
  unfold truncateMillisecond
  omega

/-! ## The calendar -/

def isLeap (year : Int) : Bool :=
  year % 4 == 0 && (year % 100 != 0 || year % 400 == 0)

/-- Days of a year before each month, and after the last one. -/
def daysBefore (leap : Bool) (month : Nat) : Nat :=
  let extra := if leap then 1 else 0
  match month with
  | 1 => 0
  | 2 => 31
  | 3 => 59 + extra
  | 4 => 90 + extra
  | 5 => 120 + extra
  | 6 => 151 + extra
  | 7 => 181 + extra
  | 8 => 212 + extra
  | 9 => 243 + extra
  | 10 => 273 + extra
  | 11 => 304 + extra
  | 12 => 334 + extra
  | _ => 365 + extra

def daysIn (leap : Bool) (month : Nat) : Nat :=
  daysBefore leap (month + 1) - daysBefore leap month

/-- Days between 1 January of year 1 and 1 January of the given year. -/
def daysBeforeYear (year : Int) : Int :=
  365 * (year - 1) + (year - 1) / 4 - (year - 1) / 100 + (year - 1) / 400

structure Date where
  year : Int
  month : Nat
  day : Nat
  deriving DecidableEq, Repr

/-- The day number of a date. -/
def daysOf (date : Date) : Int :=
  daysBeforeYear date.year + daysBefore (isLeap date.year) date.month +
    (date.day - 1)

/-- Month and day of a zero-based day of the year. -/
def monthDay (leap : Bool) (yearDay : Nat) : Nat × Nat :=
  let month := ((List.range 12).filter
    fun index => daysBefore leap (index + 1) ≤ yearDay).length
  (month, yearDay - daysBefore leap month + 1)

/-- Year and zero-based day of the year of a day number, by cutting off cycles
of 400, 100, 4 and 1 years. -/
def yearSplit (days : Int) : Int × Nat :=
  let cycle := (days % 146097).toNat
  let centuries := min (cycle / 36524) 3
  let afterCenturies := cycle - centuries * 36524
  let quads := afterCenturies / 1461
  let afterQuads := afterCenturies - quads * 1461
  let years := min (afterQuads / 365) 3
  (days / 146097 * 400 + (centuries * 100 + quads * 4 + years + 1 : Nat),
    afterQuads - years * 365)

/-- The date of a day number. -/
def dateOf (days : Int) : Date :=
  let split := yearSplit days
  let monthDay := monthDay (isLeap split.1) split.2
  ⟨split.1, monthDay.1, monthDay.2⟩

/-- `t.Year()`. -/
def year (instant : Int) : Int :=
  (yearSplit (instant / nanosPerDay)).1

/-- The counts of complete cycles behind `yearSplit`.  The last day of a leap
year is reached only in the fourth year of a quad that is not cut short by a
common century. -/
private theorem yearSplit_cycles (days : Int) :
    ∃ (cycles : Int) (centuries quads years rest : Nat),
      yearSplit days =
          (cycles * 400 + (centuries * 100 + quads * 4 + years + 1 : Nat),
            rest) ∧
        days = cycles * 146097 +
          (centuries * 36524 + quads * 1461 + years * 365 + rest : Nat) ∧
        centuries ≤ 3 ∧ quads ≤ 24 ∧ years ≤ 3 ∧ rest ≤ 365 ∧
        (rest = 365 → years = 3 ∧ (quads ≠ 24 ∨ centuries = 3)) := by
  refine ⟨_, _, _, _, _, rfl, ?_⟩
  have lower := Int.emod_nonneg days (b := 146097) (by decide)
  have upper := Int.emod_lt_of_pos days (b := 146097) (by decide)
  have division := Int.mul_ediv_add_emod days 146097
  generalize cycleEq : (days % 146097).toNat = cycle
  generalize centuriesEq : min (cycle / 36524) 3 = centuries
  generalize afterCenturiesEq : cycle - centuries * 36524 = afterCenturies
  generalize quadsEq : afterCenturies / 1461 = quads
  generalize afterQuadsEq : afterCenturies - quads * 1461 = afterQuads
  generalize yearsEq : min (afterQuads / 365) 3 = years
  have centuryBounds : centuries ≤ 3 ∧
      cycle = centuries * 36524 + afterCenturies ∧
      afterCenturies ≤ 36524 ∧ (centuries ≠ 3 → afterCenturies < 36524) := by
    omega
  have quadBounds : quads ≤ 24 ∧
      afterCenturies = quads * 1461 + afterQuads ∧ afterQuads < 1461 ∧
      (afterQuads = 1460 → quads ≠ 24 ∨ centuries = 3) := by
    omega
  omega

private theorem daysBeforeYear_cycles
    (cycles : Int) {centuries quads years : Nat}
    (centuryBound : centuries ≤ 3) (quadBound : quads ≤ 24)
    (yearBound : years ≤ 3) :
    daysBeforeYear
        (cycles * 400 + (centuries * 100 + quads * 4 + years + 1 : Nat)) =
      cycles * 146097 +
        (centuries * 36524 + quads * 1461 + years * 365 : Nat) := by
  unfold daysBeforeYear
  generalize yearEq : cycles * 400 +
    ((centuries * 100 + quads * 4 + years + 1 : Nat) : Int) = yearNumber
  have fourths : (yearNumber - 1) / 4 =
      cycles * 100 + (centuries * 25 + quads : Nat) := by omega
  have hundreds : (yearNumber - 1) / 100 = cycles * 4 + centuries := by omega
  have fourHundreds : (yearNumber - 1) / 400 = cycles := by omega
  omega

theorem daysBeforeYear_yearSplit (days : Int) :
    daysBeforeYear (yearSplit days).1 + (yearSplit days).2 = days := by
  obtain ⟨cycles, centuries, quads, years, rest, split, sum, centuryBound,
    quadBound, yearBound, _, _⟩ := yearSplit_cycles days
  rw [split]
  simp only [daysBeforeYear_cycles cycles centuryBound quadBound yearBound]
  omega

theorem yearDay_lt (days : Int) :
    (yearSplit days).2 <
      365 + (if isLeap (yearSplit days).1 then 1 else 0) := by
  obtain ⟨cycles, centuries, quads, years, rest, split, sum, centuryBound,
    quadBound, yearBound, restBound, leapDay⟩ := yearSplit_cycles days
  rw [split]
  simp only
  by_cases last : rest = 365
  · obtain ⟨fourth, century⟩ := leapDay last
    have leap : isLeap (cycles * 400 +
        ((centuries * 100 + quads * 4 + years + 1 : Nat) : Int)) = true := by
      simp only [isLeap, Bool.and_eq_true, Bool.or_eq_true, beq_iff_eq,
        bne_iff_ne]
      omega
    rw [if_pos leap]
    omega
  · omega

private theorem monthDay_table : ∀ leap : Bool, ∀ yearDay < 366,
    yearDay < 365 + (if leap then 1 else 0) →
      1 ≤ (monthDay leap yearDay).1 ∧ (monthDay leap yearDay).1 ≤ 12 ∧
        1 ≤ (monthDay leap yearDay).2 ∧
        (monthDay leap yearDay).2 ≤ daysIn leap (monthDay leap yearDay).1 ∧
        daysBefore leap (monthDay leap yearDay).1 +
          ((monthDay leap yearDay).2 - 1) = yearDay := by
  decide +kernel

/-- The fields of a date lie in the ranges that `time.Parse` checks. -/
structure Date.Valid (date : Date) : Prop where
  month_pos : 1 ≤ date.month
  month_le : date.month ≤ 12
  day_pos : 1 ≤ date.day
  day_le : date.day ≤ daysIn (isLeap date.year) date.month

theorem dateOf_valid (days : Int) : (dateOf days).Valid := by
  have bound := yearDay_lt days
  have entry := monthDay_table (isLeap (yearSplit days).1) (yearSplit days).2
    (by split at bound <;> omega) bound
  exact ⟨entry.1, entry.2.1, entry.2.2.1, entry.2.2.2.1⟩

/-- The calendar loses nothing: a date determines its day number. -/
theorem daysOf_dateOf (days : Int) : daysOf (dateOf days) = days := by
  have bound := yearDay_lt days
  have entry := monthDay_table (isLeap (yearSplit days).1) (yearSplit days).2
    (by split at bound <;> omega) bound
  obtain ⟨_, _, dayPositive, _, sum⟩ := entry
  have split := daysBeforeYear_yearSplit days
  simp only [daysOf, dateOf]
  omega

theorem one_le_year_iff (instant : Int) : 1 ≤ year instant ↔ 0 ≤ instant := by
  obtain ⟨cycles, centuries, quads, years, rest, split, sum, centuryBound,
    quadBound, yearBound, restBound, _⟩ :=
    yearSplit_cycles (instant / nanosPerDay)
  unfold year
  rw [split]
  unfold nanosPerDay at sum
  omega

/-- The first instant of year 10000. -/
def year10000 : Int :=
  3652059 * 86400000000000

theorem year_le_9999_iff (instant : Int) :
    year instant ≤ 9999 ↔ instant < year10000 := by
  obtain ⟨cycles, centuries, quads, years, rest, split, sum, centuryBound,
    quadBound, yearBound, restBound, leapDay⟩ :=
    yearSplit_cycles (instant / nanosPerDay)
  unfold year year10000
  rw [split]
  unfold nanosPerDay at sum
  simp only
  omega

/-! ## Text -/

/-- `time.appendInt` of a non-negative field. -/
def appendField (width value : Nat) : Bytes :=
  padLeft width (formatUint value)

/-- The year field: at least four digits, and a sign before year 0. -/
def appendYear (year : Int) : Bytes :=
  if year < 0 then 45 :: appendField 4 year.natAbs
  else appendField 4 year.natAbs

/-- One numeric field of the layout: its width, the byte after it, its value. -/
structure Field where
  width : Nat
  separator : UInt8
  value : Nat

def writeFields : List Field → Bytes
  | [] => []
  | field :: fields =>
      appendField field.width field.value ++
        field.separator :: writeFields fields

/-- The fields after the year, for a date and a millisecond of the day. -/
def clockFields (month day clock : Nat) : List Field :=
  [⟨2, 45, month⟩, ⟨2, 84, day⟩, ⟨2, 58, clock / 3600000⟩,
    ⟨2, 58, clock / 60000 % 60⟩, ⟨2, 46, clock / 1000 % 60⟩,
    ⟨3, 90, clock % 1000⟩]

/-- `t.UTC().Format("2006-01-02T15:04:05.000Z")`. -/
def format (instant : Int) : Bytes :=
  let date := dateOf (instant / nanosPerDay)
  let clock := (instant % nanosPerDay).toNat / 1000000
  appendYear date.year ++ 45 :: writeFields (clockFields date.month date.day clock)

/-- A run of exactly `width` digits followed by the separator. -/
def readField (width : Nat) (separator : UInt8) (input : Bytes) :
    Option (Nat × Bytes) :=
  let digits := input.take width
  match input.drop width with
  | [] => none
  | byte :: rest =>
      if digits.length = width ∧ digits.all isDigit ∧ byte = separator then
        some (decimalValue digits, rest)
      else
        none

/-- Reads the fields of a layout and requires the text to end there. -/
def readFields : List (Nat × UInt8) → Bytes → Option (List Nat)
  | [], [] => some []
  | [], _ :: _ => none
  | (width, separator) :: layout, input =>
      match readField width separator input with
      | none => none
      | some (value, rest) => (readFields layout rest).map (value :: ·)

/-- `2006-01-02T15:04:05.000Z` -/
def layout : List (Nat × UInt8) :=
  [(4, 45), (2, 45), (2, 84), (2, 58), (2, 58), (2, 46), (3, 90)]

/-- `time.Parse("2006-01-02T15:04:05.000Z", text)` on texts of that shape. -/
def parse (text : Bytes) : Option Int :=
  match readFields layout text with
  | some [year, month, day, hour, minute, second, millis] =>
      if 1 ≤ month ∧ month ≤ 12 ∧ 1 ≤ day ∧
          day ≤ daysIn (isLeap year) month ∧ hour < 24 ∧ minute < 60 ∧
          second < 60 then
        some (daysOf ⟨year, month, day⟩ * nanosPerDay +
          ((((hour * 60 + minute) * 60 + second) * 1000 + millis) *
            1000000 : Nat))
      else
        none
  | _ => none

theorem length_appendField
    {width value : Nat} (positive : 0 < width) (fits : value < 10 ^ width) :
    (appendField width value).length = width :=
  length_padLeft ((length_formatUint_le_iff positive).mpr fits)

theorem all_isDigit_appendField (width value : Nat) :
    (appendField width value).all isDigit = true := by
  apply all_isDigit_padLeft
  simp only [List.all_eq_true]
  intro byte member
  exact isDigit_of_mem_formatUint member

theorem readField_appendField
    {width value : Nat} (positive : 0 < width) (fits : value < 10 ^ width)
    (separator : UInt8) (rest : Bytes) :
    readField width separator (appendField width value ++ separator :: rest) =
      some (value, rest) := by
  have length := length_appendField positive fits
  have taken : (appendField width value ++ separator :: rest).take width =
      appendField width value := List.take_left' length
  have dropped : (appendField width value ++ separator :: rest).drop width =
      separator :: rest := List.drop_left' length
  have denoted : decimalValue (appendField width value) = value := by
    rw [appendField, decimalValue_padLeft, decimalValue_formatUint]
  simp only [readField, taken, dropped, length, all_isDigit_appendField,
    and_self, if_true, denoted]

/-- A field whose digits fit its width. -/
def Field.Fits (field : Field) : Prop :=
  0 < field.width ∧ field.value < 10 ^ field.width

theorem readFields_writeFields
    (fields : List Field) (fits : ∀ field, field ∈ fields → field.Fits) :
    readFields (fields.map fun field => (field.width, field.separator))
        (writeFields fields) = some (fields.map Field.value) := by
  induction fields with
  | nil => rfl
  | cons field fields induction =>
      obtain ⟨positive, small⟩ := fits field (by simp)
      have tail := induction
        (fun other member => fits other (by simp [member]))
      simp only [List.map_cons, writeFields, readFields,
        readField_appendField positive small, tail, Option.map_some]

theorem length_writeFields
    (fields : List Field) (fits : ∀ field, field ∈ fields → field.Fits) :
    (writeFields fields).length =
      (fields.map fun field => field.width + 1).sum := by
  induction fields with
  | nil => rfl
  | cons field fields induction =>
      obtain ⟨positive, small⟩ := fits field (by simp)
      have tail := induction
        (fun other member => fits other (by simp [member]))
      simp only [writeFields, List.length_append, List.length_cons, tail,
        length_appendField positive small, List.map_cons, List.sum_cons]
      omega

variable {instant : Int} {byte : UInt8}

theorem mem_writeFields
    {fields : List Field} (member : byte ∈ writeFields fields) :
    isDigit byte = true ∨ byte ∈ fields.map Field.separator := by
  induction fields with
  | nil => simp [writeFields] at member
  | cons field fields induction =>
      simp only [writeFields, List.mem_append, List.mem_cons] at member
      rcases member with digit | rfl | member
      · exact Or.inl (List.all_eq_true.mp
          (all_isDigit_appendField _ _) byte digit)
      · simp
      · rcases induction member with digit | separator
        · exact Or.inl digit
        · exact Or.inr (by simp only [List.map_cons, List.mem_cons, separator,
            or_true])

theorem appendYear_natCast (year : Nat) :
    appendYear year = appendField 4 year := by
  have nonnegative : ¬ (year : Int) < 0 := by omega
  simp [appendYear, nonnegative]

private theorem clock_fields (millis : Nat) :
    ((millis / 3600000 * 60 + millis / 60000 % 60) * 60 +
      millis / 1000 % 60) * 1000 + millis % 1000 = millis := by
  have minutes : millis / 60000 = millis / 1000 / 60 := by
    rw [Nat.div_div_eq_div_mul]
  have hours : millis / 3600000 = millis / 1000 / 60 / 60 := by
    rw [Nat.div_div_eq_div_mul, Nat.div_div_eq_div_mul]
  omega

/-- The text of an instant of years 1 to 9999, as a list of fields. -/
private theorem format_fields
    (lower : 1 ≤ year instant) (upper : year instant ≤ 9999) :
    ∃ yearNumber month day clock : Nat,
      format instant =
          writeFields (⟨4, 45, yearNumber⟩ :: clockFields month day clock) ∧
        (∀ field, field ∈
          (⟨4, 45, yearNumber⟩ :: clockFields month day clock : List Field) →
            field.Fits) ∧
        Date.Valid ⟨yearNumber, month, day⟩ ∧ clock < 86400000 ∧
        daysOf ⟨yearNumber, month, day⟩ = instant / nanosPerDay ∧
        clock = (instant % nanosPerDay).toNat / 1000000 := by
  have valid := dateOf_valid (instant / nanosPerDay)
  have restored := daysOf_dateOf (instant / nanosPerDay)
  have sameYear : (dateOf (instant / nanosPerDay)).year = year instant := rfl
  have clockUpper := Int.emod_lt_of_pos instant (b := nanosPerDay) (by decide)
  have clockBound : (instant % nanosPerDay).toNat / 1000000 < 86400000 := by
    unfold nanosPerDay at clockUpper ⊢
    omega
  have dayBound : ∀ leap : Bool, ∀ month, month ≤ 12 →
      daysIn leap month ≤ 31 := by decide
  have dayLe := Nat.le_trans valid.day_le (dayBound _ _ valid.month_le)
  have monthLe := valid.month_le
  simp only [format]
  generalize dateOf (instant / nanosPerDay) = date at *
  obtain ⟨dateYear, month, day⟩ := date
  simp only at sameYear dayLe monthLe
  obtain ⟨yearNumber, rfl⟩ : ∃ yearNumber : Nat, dateYear = yearNumber :=
    ⟨dateYear.toNat, by omega⟩
  rw [appendYear_natCast]
  refine ⟨yearNumber, month, day, _, rfl, ?_, valid, clockBound, restored, rfl⟩
  generalize (instant % nanosPerDay).toNat / 1000000 = clock at *
  intro field member
  simp only [clockFields, List.mem_cons, List.not_mem_nil, or_false] at member
  rcases member with rfl | rfl | rfl | rfl | rfl | rfl | rfl
  all_goals
    simp only [Field.Fits]
    omega

/-- Every aligned instant of years 1 to 9999 is read back from its text. -/
theorem parse_format
    (lower : 1 ≤ year instant) (upper : year instant ≤ 9999)
    (aligned : MillisecondAligned instant) :
    parse (format instant) = some instant := by
  obtain ⟨yearNumber, month, day, clock, text, fits, valid, clockBound, days,
    clockEq⟩ := format_fields lower upper
  have read : readFields layout (format instant) = some
      [yearNumber, month, day, clock / 3600000, clock / 60000 % 60,
        clock / 1000 % 60, clock % 1000] := by
    rw [text]
    exact readFields_writeFields _ fits
  obtain ⟨monthPos, monthLe, dayPos, dayInMonth⟩ := valid
  have hourBound : clock / 3600000 < 24 := by omega
  have minuteBound : clock / 60000 % 60 < 60 := Nat.mod_lt _ (by decide)
  have secondBound : clock / 1000 % 60 < 60 := Nat.mod_lt _ (by decide)
  have clockNanos :
      ((clock * 1000000 : Nat) : Int) = instant % nanosPerDay := by
    have nonnegative :=
      Int.emod_nonneg instant (b := nanosPerDay) (by decide)
    unfold MillisecondAligned at aligned
    unfold nanosPerDay at clockEq nonnegative ⊢
    omega
  simp only [parse, read]
  rw [if_pos ⟨monthPos, monthLe, dayPos, dayInMonth, hourBound, minuteBound,
    secondBound⟩, days, clock_fields, clockNanos, Int.mul_comm,
    Int.mul_ediv_add_emod]

/-- The text of an instant of years 1 to 9999 is 24 bytes long. -/
theorem length_format
    (lower : 1 ≤ year instant) (upper : year instant ≤ 9999) :
    (format instant).length = 24 := by
  obtain ⟨yearNumber, month, day, clock, text, fits, _⟩ :=
    format_fields lower upper
  rw [text, length_writeFields _ fits]
  rfl

theorem getLast?_format (instant : Int) :
    (format instant).getLast? = some 90 := by
  simp [format, clockFields, writeFields, List.getLast?_append,
    List.getLast?_cons]

/-- The bytes that occur in the text of an instant. -/
theorem mem_format
    (member : byte ∈ format instant) :
    isDigit byte = true ∨ byte ∈ layout.map Prod.snd := by
  have digits : ∀ width value, byte ∈ appendField width value →
      isDigit byte = true := fun width value found =>
    List.all_eq_true.mp (all_isDigit_appendField width value) byte found
  unfold format at member
  dsimp only at member
  rcases List.mem_append.mp member with year | later
  · unfold appendYear at year
    split at year
    · rcases List.mem_cons.mp year with rfl | digit
      · exact .inr (by decide)
      · exact .inl (digits _ _ digit)
    · exact .inl (digits _ _ year)
  · rcases List.mem_cons.mp later with rfl | later
    · exact .inr (by decide)
    · rcases mem_writeFields later with digit | separator
      · exact .inl digit
      · exact .inr (List.mem_cons_of_mem _ separator)

private theorem le_length_appendField (width value : Nat) :
    width ≤ (appendField width value).length := by
  simp only [appendField, padLeft, List.length_append, List.length_replicate]
  omega

/-- From year 10000 on the text is longer. -/
theorem year_le_of_length_format
    (length : (format instant).length = 24) :
    year instant ≤ 9999 := by
  by_contra later
  have sameYear : (dateOf (instant / nanosPerDay)).year = year instant := rfl
  have nonnegative : ¬ (dateOf (instant / nanosPerDay)).year < 0 := by omega
  have long : ¬ (formatUint
      (dateOf (instant / nanosPerDay)).year.natAbs).length ≤ 4 := by
    rw [length_formatUint_le_iff (by decide)]
    omega
  simp only [format, clockFields, writeFields, appendYear, nonnegative,
    if_false, List.length_append, List.length_cons, List.length_nil] at length
  have year : 5 ≤ (appendField 4
      (dateOf (instant / nanosPerDay)).year.natAbs).length := by
    rw [appendField, padLeft, List.length_append]
    omega
  have two := le_length_appendField 2
  have three := le_length_appendField 3
  have month := two (dateOf (instant / nanosPerDay)).month
  have day := two (dateOf (instant / nanosPerDay)).day
  have hour := two ((instant % nanosPerDay).toNat / 1000000 / 3600000)
  have minute := two ((instant % nanosPerDay).toNat / 1000000 / 60000 % 60)
  have second := two ((instant % nanosPerDay).toNat / 1000000 / 1000 % 60)
  have millis := three ((instant % nanosPerDay).toNat / 1000000 % 1000)
  omega

private theorem mem_of_readFields
    {fields : List (Nat × UInt8)} {text : Bytes} {values : List Nat}
    (read : readFields fields text = some values)
    (member : byte ∈ text) :
    isDigit byte = true ∨ byte ∈ fields.map Prod.snd := by
  induction fields generalizing text values with
  | nil =>
      cases text with
      | nil => cases member
      | cons => simp [readFields] at read
  | cons field fields induction =>
      obtain ⟨width, separator⟩ := field
      rw [readFields] at read
      split at read
      · cases read
      next value rest found =>
        obtain ⟨values, later, -⟩ := Option.map_eq_some_iff.mp read
        unfold readField at found
        dsimp only at found
        split at found
        · cases found
        next head tail rest =>
        split at found
        next accepted =>
          cases found
          rw [← List.take_append_drop width text, rest] at member
          rcases List.mem_append.mp member with digit | last
          · exact .inl (List.all_eq_true.mp accepted.2.1 byte digit)
          · rcases List.mem_cons.mp last with rfl | last
            · right
              simp [accepted.2.2]
            · rcases induction later last with digit | known
              · exact .inl digit
              · exact .inr (List.mem_cons_of_mem _ known)
        · cases found

/-- The bytes that occur in a text that is read. -/
theorem mem_of_parse
    {text : Bytes} (parsed : parse text = some instant)
    (member : byte ∈ text) :
    isDigit byte = true ∨ byte ∈ layout.map Prod.snd := by
  unfold parse at parsed
  split at parsed
  next read => exact mem_of_readFields read member
  · cases parsed

end GoLib.Time
