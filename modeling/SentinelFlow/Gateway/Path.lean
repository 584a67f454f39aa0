import SentinelFlow.GoLib.Percent

/-!
# Comparison paths

The gateway compares request paths in a normal form: escapes of unreserved
bytes are decoded, the other escapes are written with upper-case digits, and
runs of slashes are collapsed.  One loop does all three.  `Reads` says what the
loop does with each unit of a path, and the normal form is derived from it.
-/

namespace SentinelFlow.Gateway

open GoLib

def hexValue (value : UInt8) : Option UInt8 :=
  if charByte '0' ≤ value ∧ value ≤ charByte '9' then
    some (value - charByte '0')
  else if charByte 'a' ≤ value ∧ value ≤ charByte 'f' then
    some (value - charByte 'a' + 10)
  else if charByte 'A' ≤ value ∧ value ≤ charByte 'F' then
    some (value - charByte 'A' + 10)
  else none

def upperHex (value : UInt8) : UInt8 :=
  (ascii "0123456789ABCDEF").getD value.toNat 0

def isUnreserved (value : UInt8) : Bool :=
  (charByte 'a' ≤ value && value ≤ charByte 'z') ||
    (charByte 'A' ≤ value && value ≤ charByte 'Z') ||
    (charByte '0' ≤ value && value ≤ charByte '9') ||
    value == charByte '-' || value == charByte '.' || value == charByte '_' ||
    value == charByte '~'

/-- A backslash or a control byte, neither of which a target may hold. -/
def forbidden (value : UInt8) : Bool :=
  value == charByte '\\' || value == 0 || value < 0x20 || value == 0x7F

/-- The byte of an escape, unless it is one that must not be escaped either. -/
def decodedEscape (high low : UInt8) : Option UInt8 :=
  match hexValue high, hexValue low with
  | some hi, some lo =>
      let decoded := hi <<< 4 ||| lo
      if decoded == charByte '/' || forbidden decoded then none
      else some decoded
  | _, _ => none

def validateTargetSyntax : Bytes → Bool
  | [] => true
  | value :: rest =>
      if forbidden value then false
      else if value ≠ charByte '%' then validateTargetSyntax rest
      else match rest with
        | high :: low :: after =>
            match decodedEscape high low with
            | some _ => validateTargetSyntax after
            | none => false
        | _ => false

/-- What is written for a byte that is not escaped in the output. -/
def written (previousSlash : Bool) (char : UInt8) : Bytes :=
  if char = charByte '/' ∧ previousSlash then [] else [char]

/-- The loop of `canonicalPath`: the output for the rest of the path. -/
def canonicalLoop (previousSlash : Bool) : Bytes → Option Bytes
  | [] => some []
  | char :: rest =>
      if forbidden char then none
      else if char = charByte '%' then
        match rest with
        | high :: low :: after =>
            match decodedEscape high low with
            | none => none
            | some decoded =>
                if isUnreserved decoded then
                  (canonicalLoop (decoded == charByte '/') after).map
                    (written previousSlash decoded ++ ·)
                else
                  (canonicalLoop false after).map ([charByte '%',
                    upperHex (decoded >>> 4), upperHex (decoded &&& 0xF)] ++ ·)
        | _ => none
      else (canonicalLoop (char == charByte '/') rest).map
        (written previousSlash char ++ ·)

def canonicalPath (path : Bytes) (maxPath : Int) : Option Bytes :=
  if path.head? ≠ some (charByte '/') ∨ path.length > maxPath then none
  else match canonicalLoop false path with
  | none => none
  | some canonical =>
      if ∃ segment ∈ canonical.splitOn (charByte '/'),
          segment = ascii "." ∨ segment = ascii ".." then none
      else if canonical.length > maxPath then none
      else some canonical

/-- The target before its query. -/
def pathPart (requestURI : Bytes) : Bytes :=
  requestURI.takeWhile (· ≠ charByte '?')

def validateTarget (requestURI : Bytes) (maxTarget maxPath : Int) :
    Option Bytes :=
  if requestURI = [] ∨ requestURI.length > maxTarget ∨
      requestURI.head? ≠ some (charByte '/') ∨
      (ascii "//").isPrefixOf requestURI then none
  else if ¬ validateTargetSyntax requestURI then none
  else if (pathPart requestURI).length > maxPath then none
  else canonicalPath (pathPart requestURI) maxPath

/-! ## What the loop does with one unit of a path -/

/-- A byte that is copied. -/
structure Copied (byte : UInt8) : Prop where
  allowed : forbidden byte = false
  literal : byte ≠ 37
  inner : byte ≠ 47

/-- A byte whose escape is kept. -/
structure Kept (byte : UInt8) : Prop where
  allowed : forbidden byte = false
  reserved : isUnreserved byte = false
  inner : byte ≠ 47

/-- The escape of a byte in the output. -/
def escapeOf (byte : UInt8) : Bytes :=
  [37, upperHex (byte >>> 4), upperHex (byte &&& 0xF)]

inductive Reads : Bool → Bytes → Bytes → Prop
  | nil (previousSlash : Bool) : Reads previousSlash [] []
  | slash {rest output : Bytes} (next : Reads true rest output) :
      Reads false (47 :: rest) (47 :: output)
  | again {rest output : Bytes} (next : Reads true rest output) :
      Reads true (47 :: rest) output
  | copy {previousSlash : Bool} {byte : UInt8} {rest output : Bytes}
      (copied : Copied byte) (next : Reads false rest output) :
      Reads previousSlash (byte :: rest) (byte :: output)
  | unreserved {previousSlash : Bool} {high low byte : UInt8}
      {rest output : Bytes}
      (digits : Percent.escaped? high low = some byte)
      (needless : isUnreserved byte = true) (next : Reads false rest output) :
      Reads previousSlash (37 :: high :: low :: rest) (byte :: output)
  | escape {previousSlash : Bool} {high low byte : UInt8}
      {rest output : Bytes}
      (digits : Percent.escaped? high low = some byte)
      (kept : Kept byte) (next : Reads false rest output) :
      Reads previousSlash (37 :: high :: low :: rest)
        (escapeOf byte ++ output)

/-- The gateway reads hexadecimal digits as package `encoding/hex` does. -/
theorem hexValue_eq : ∀ value : UInt8,
    hexValue value = (Hex.nibble? value).map UInt8.ofNat := by
  decide +kernel

theorem copied_of_isUnreserved : ∀ byte : UInt8, isUnreserved byte = true →
    forbidden byte = false ∧ byte ≠ 37 ∧ byte ≠ 47 := by
  decide +kernel

/-- An escape that is kept is read back as the byte it stands for, and its digits
are neither slashes nor percent signs. -/
theorem upperHex_table : ∀ byte : UInt8,
    Percent.escaped? (upperHex (byte >>> 4)) (upperHex (byte &&& 0xF)) =
        some byte ∧
      upperHex byte ≠ 47 ∧ upperHex byte ≠ 37 := by
  decide +kernel

private theorem nibble_pair : ∀ high < 16, ∀ low < 16,
    UInt8.ofNat high <<< 4 ||| UInt8.ofNat low =
        UInt8.ofNat (high * 16 + low) ∧
      upperHex (UInt8.ofNat (high * 16 + low) >>> 4) =
        upperHex (UInt8.ofNat high) ∧
      upperHex (UInt8.ofNat (high * 16 + low) &&& 0xF) =
        upperHex (UInt8.ofNat low) := by
  decide +kernel

private theorem nibble_spec {digit : UInt8} {nibble : Nat}
    (found : Hex.nibble? digit = some nibble) :
    nibble < 16 ∧
      Percent.upperCaseDigit digit = upperHex (UInt8.ofNat nibble) := by
  have table : ∀ digit : UInt8, (Hex.nibble? digit).all (fun nibble =>
      nibble < 16 ∧
        Percent.upperCaseDigit digit = upperHex (UInt8.ofNat nibble)) =
          true := by
    decide +kernel
  simpa [found] using table digit

variable {previousSlash : Bool} {path : Bytes} {maxPath : Int}
  {byte high low : UInt8}

theorem decodedEscape_eq_some_iff :
    decodedEscape high low = some byte ↔
      Percent.escaped? high low = some byte ∧ byte ≠ 47 ∧
        forbidden byte = false := by
  unfold decodedEscape Percent.escaped?
  rw [hexValue_eq, hexValue_eq]
  cases upper : Hex.nibble? high with
  | none => simp
  | some =>
      cases lower : Hex.nibble? low with
      | none => simp
      | some =>
          have value := (nibble_pair _ (nibble_spec upper).1 _
            (nibble_spec lower).1).1
          have slash : charByte '/' = 47 := rfl
          simp only [Option.map_some, value, slash, Option.some.injEq]
          constructor
          · intro found
            split at found
            · cases found
            next allowed =>
              cases found
              simpa using allowed
          · rintro ⟨rfl, inner, allowed⟩
            rw [beq_eq_false_iff_ne.mpr inner, allowed, Bool.or_false,
              if_neg Bool.false_ne_true]

/-- A byte outside an escape is copied, or it is a slash. -/
theorem Reads.literal
    {previousSlash : Bool} {byte : UInt8} {rest output : Bytes}
    (allowed : forbidden byte = false) (literal : byte ≠ 37)
    (next : Reads (byte == 47) rest output) :
    Reads previousSlash (byte :: rest)
      (written previousSlash byte ++ output) := by
  by_cases slash : byte = 47
  · subst slash
    cases previousSlash with
    | false => exact .slash next
    | true => exact .again next
  · have plain : written previousSlash byte = [byte] :=
      if_neg (fun both => slash both.1)
    rw [beq_eq_false_iff_ne.mpr slash] at next
    rw [plain]
    exact .copy ⟨allowed, literal, slash⟩ next

theorem reads_of_canonicalLoop
    {output : Bytes}
    (accepted : canonicalLoop previousSlash path = some output) :
    Reads previousSlash path output := by
  fun_induction canonicalLoop previousSlash path generalizing output with
  | case1 =>
      cases accepted
      exact .nil _
  | case2 => cases accepted
  | case3 => cases accepted
  | case4 previousSlash high low after decoded found needless _ induction =>
      obtain ⟨result, next, rfl⟩ := Option.map_eq_some_iff.mp accepted
      obtain ⟨digits, -, -⟩ := decodedEscape_eq_some_iff.mp found
      obtain ⟨-, -, inner⟩ := copied_of_isUnreserved decoded needless
      have plain : written previousSlash decoded = [decoded] :=
        if_neg (fun both => inner both.1)
      have slash : (decoded == charByte '/') = false :=
        beq_eq_false_iff_ne.mpr inner
      have tail := induction next
      rw [slash] at tail
      rw [plain]
      exact .unreserved digits needless tail
  | case5 _ high low after decoded found reserved _ induction =>
      obtain ⟨result, next, rfl⟩ := Option.map_eq_some_iff.mp accepted
      obtain ⟨digits, inner, allowed⟩ := decodedEscape_eq_some_iff.mp found
      exact .escape digits ⟨allowed, by simpa using reserved, inner⟩
        (induction next)
  | case6 => cases accepted
  | case7 previousSlash char rest allowed literal induction =>
      obtain ⟨result, next, rfl⟩ := Option.map_eq_some_iff.mp accepted
      exact .literal (by simpa using allowed) literal (induction next)

private theorem canonicalLoop_literal
    {rest : Bytes}
    (allowed : forbidden byte = false) (literal : byte ≠ 37) :
    canonicalLoop previousSlash (byte :: rest) =
      (canonicalLoop (byte == 47) rest).map
        (written previousSlash byte ++ ·) := by
  have percent : byte ≠ charByte '%' := literal
  rw [canonicalLoop.eq_def]
  simp only [allowed, Bool.false_eq_true, if_false, if_neg percent]
  rfl

private theorem canonicalLoop_escape
    {rest : Bytes}
    (found : decodedEscape high low = some byte) :
    canonicalLoop previousSlash (37 :: high :: low :: rest) =
      if isUnreserved byte then
        (canonicalLoop (byte == charByte '/') rest).map
          (written previousSlash byte ++ ·)
      else (canonicalLoop false rest).map (escapeOf byte ++ ·) := by
  have percent : (37 : UInt8) = charByte '%' := rfl
  have allowed : forbidden 37 = false := rfl
  rw [canonicalLoop.eq_def]
  simp only [allowed, Bool.false_eq_true, if_false, if_pos percent, found]
  rfl

theorem canonicalLoop_of_reads
    {output : Bytes}
    (reads : Reads previousSlash path output) :
    canonicalLoop previousSlash path = some output := by
  induction reads with
  | nil => rfl
  | slash _ induction
  | again _ induction =>
      rw [canonicalLoop_literal rfl (by decide)]
      exact congrArg (Option.map _) induction
  | copy copied _ induction =>
      rw [canonicalLoop_literal copied.allowed copied.literal,
        beq_eq_false_iff_ne.mpr copied.inner, induction, written,
        if_neg (fun both => copied.inner both.1)]
      rfl
  | unreserved digits needless _ induction =>
      obtain ⟨allowed, -, inner⟩ := copied_of_isUnreserved _ needless
      have slash : (_ == charByte '/') = false :=
        beq_eq_false_iff_ne.mpr inner
      rw [canonicalLoop_escape
        (decodedEscape_eq_some_iff.mpr ⟨digits, inner, allowed⟩),
        if_pos needless, slash, induction, written,
        if_neg (fun both => inner both.1)]
      rfl
  | escape digits kept _ induction =>
      rw [canonicalLoop_escape
        (decodedEscape_eq_some_iff.mpr ⟨digits, kept.inner, kept.allowed⟩),
        kept.reserved, if_neg Bool.false_ne_true, induction]
      rfl

/-! ## Properties of the output -/

/-- Reading the output again changes nothing. -/
theorem Reads.output
    {output : Bytes}
    (reads : Reads previousSlash path output) :
    Reads previousSlash output output := by
  induction reads with
  | nil => exact .nil _
  | slash _ induction => exact .slash induction
  | again _ induction => exact induction
  | copy copied _ induction => exact .copy copied induction
  | unreserved _ needless _ induction =>
      obtain ⟨allowed, literal, inner⟩ := copied_of_isUnreserved _ needless
      exact .copy ⟨allowed, literal, inner⟩ induction
  | escape _ kept _ induction =>
      exact .escape (upperHex_table _).1 kept induction

theorem mapEscapes_escapeOf
    (replace : UInt8 → UInt8 → UInt8 → Bytes) (byte : UInt8) (rest : Bytes) :
    Percent.mapEscapes replace (escapeOf byte ++ rest) =
      replace (upperHex (byte >>> 4)) (upperHex (byte &&& 0xF)) byte ++
        Percent.mapEscapes replace rest :=
  Percent.mapEscapes_escape replace (upperHex_table byte).1 rest

/-- The output stands for the bytes of the path with its slashes collapsed. -/
theorem Reads.decode_eq
    {output : Bytes}
    (reads : Reads previousSlash path output) :
    Percent.decode output =
      Percent.collapseFrom 47 previousSlash (Percent.decode path) := by
  unfold Percent.decode
  induction reads with
  | nil => rfl
  | slash _ induction =>
      rw [Percent.mapEscapes_byte _ (by decide),
        Percent.mapEscapes_byte _ (by decide), induction]
      rfl
  | again _ induction =>
      rw [Percent.mapEscapes_byte _ (by decide) (_ : Bytes), induction]
      rfl
  | copy copied _ induction =>
      rw [Percent.mapEscapes_byte _ copied.literal,
        Percent.mapEscapes_byte _ copied.literal,
        Percent.collapseFrom_byte copied.inner, induction]
  | unreserved digits needless _ induction =>
      obtain ⟨-, literal, inner⟩ := copied_of_isUnreserved _ needless
      rw [Percent.mapEscapes_byte _ literal,
        Percent.mapEscapes_escape _ digits, List.singleton_append,
        Percent.collapseFrom_byte inner, induction]
  | escape digits kept _ induction =>
      rw [mapEscapes_escapeOf, Percent.mapEscapes_escape _ digits,
        List.singleton_append, List.singleton_append,
        Percent.collapseFrom_byte kept.inner, induction]

/-- A path with its escapes in upper case, the unreserved ones decoded, and its
slashes collapsed. -/
def normalForm (path : Bytes) : Bytes :=
  Percent.collapse 47
    (Percent.decodeOnly isUnreserved (Percent.upperCaseEscapes path))

/-- Upper-casing the digits of an escape gives the escape that is written. -/
theorem upperCase_escape
    (digits : Percent.escaped? high low = some byte) :
    [37, Percent.upperCaseDigit high, Percent.upperCaseDigit low] =
      escapeOf byte := by
  unfold Percent.escaped? at digits
  split at digits
  next upper lower foundHigh foundLow =>
    cases digits
    obtain ⟨smallHigh, upperHigh⟩ := nibble_spec foundHigh
    obtain ⟨smallLow, upperLow⟩ := nibble_spec foundLow
    obtain ⟨-, first, second⟩ := nibble_pair _ smallHigh _ smallLow
    rw [upperHigh, upperLow, escapeOf, first, second]
  · cases digits

/-- The loop computes the normal form. -/
theorem Reads.eq_normalForm
    {output : Bytes}
    (reads : Reads previousSlash path output) :
    output = Percent.collapseFrom 47 previousSlash
      (Percent.decodeOnly isUnreserved (Percent.upperCaseEscapes path)) := by
  unfold Percent.decodeOnly Percent.upperCaseEscapes
  induction reads with
  | nil => rfl
  | slash _ induction =>
      rw [Percent.mapEscapes_byte _ (by decide),
        Percent.mapEscapes_byte _ (by decide), Percent.collapseFrom,
        if_neg (by simp)]
      exact congrArg (List.cons 47) induction
  | again _ induction =>
      rw [Percent.mapEscapes_byte _ (by decide),
        Percent.mapEscapes_byte _ (by decide), Percent.collapseFrom,
        if_pos ⟨rfl, rfl⟩]
      exact induction
  | copy copied _ induction =>
      rw [Percent.mapEscapes_byte _ copied.literal,
        Percent.mapEscapes_byte _ copied.literal,
        Percent.collapseFrom_byte copied.inner, ← induction]
  | unreserved digits needless _ induction =>
      obtain ⟨-, -, inner⟩ := copied_of_isUnreserved _ needless
      rw [Percent.mapEscapes_escape _ digits, upperCase_escape digits,
        mapEscapes_escapeOf, if_pos needless, List.singleton_append,
        Percent.collapseFrom_byte inner, ← induction]
  | escape digits kept _ induction =>
      rw [Percent.mapEscapes_escape _ digits, upperCase_escape digits,
        mapEscapes_escapeOf, if_neg (by simp [kept.reserved])]
      simp only [escapeOf, List.cons_append, List.nil_append]
      rw [Percent.collapseFrom_byte (by decide),
        Percent.collapseFrom_byte (upperHex_table _).2.1,
        Percent.collapseFrom_byte (upperHex_table _).2.1, ← induction]

/-- No slash of the output follows another. -/
theorem Reads.no_double_slash
    {output : Bytes}
    (reads : Reads previousSlash path output) :
    (previousSlash = true → output.head? ≠ some 47) ∧
      ¬ [47, 47] <:+: output := by
  have digit := fun value => (upperHex_table value).2.1
  induction reads with
  | nil => simp
  | slash _ induction =>
      refine ⟨nofun, ?_⟩
      rw [List.infix_cons_iff, List.cons_prefix_cons]
      rintro (⟨-, before⟩ | inside)
      · obtain ⟨rest, rfl⟩ := before
        exact induction.1 rfl rfl
      · exact induction.2 inside
  | again _ induction => exact induction
  | copy copied _ induction =>
      refine ⟨fun _ head => copied.inner (Option.some.inj head), ?_⟩
      rw [List.infix_cons_iff, List.cons_prefix_cons]
      rintro (⟨slash, -⟩ | inside)
      · exact copied.inner slash.symm
      · exact induction.2 inside
  | unreserved _ needless _ induction =>
      obtain ⟨-, -, inner⟩ := copied_of_isUnreserved _ needless
      refine ⟨fun _ head => inner (Option.some.inj head), ?_⟩
      rw [List.infix_cons_iff, List.cons_prefix_cons]
      rintro (⟨slash, -⟩ | inside)
      · exact inner slash.symm
      · exact induction.2 inside
  | escape _ _ _ induction =>
      refine ⟨fun _ head => absurd (Option.some.inj head) (by decide), ?_⟩
      simp only [escapeOf, List.cons_append, List.nil_append,
        List.infix_cons_iff, List.cons_prefix_cons]
      rintro (⟨slash, -⟩ | ⟨slash, -⟩ | ⟨slash, -⟩ | inside)
      · exact absurd slash (by decide)
      · exact digit _ slash.symm
      · exact digit _ slash.symm
      · exact induction.2 inside

/-- Every percent sign of the output begins the escape of a byte that needs
one. -/
theorem Reads.escapes
    {output : Bytes}
    (reads : Reads previousSlash path output) {before after : Bytes}
    (occurs : output = before ++ 37 :: after) :
    ∃ byte rest, 37 :: after = escapeOf byte ++ rest ∧ Kept byte := by
  -- A byte that is not a percent sign belongs to what comes before one.
  have skip {byte : UInt8} {tail front : Bytes} (literal : byte ≠ 37)
      (occurs : byte :: tail = front ++ 37 :: after) :
      ∃ rest, tail = rest ++ 37 :: after := by
    cases front with
    | nil => exact absurd (List.cons.inj occurs).1 literal
    | cons head rest => exact ⟨rest, (List.cons.inj occurs).2⟩
  induction reads generalizing before with
  | nil => simp at occurs
  | slash _ induction =>
      obtain ⟨rest, inside⟩ := skip (by decide) occurs
      exact induction inside
  | again _ induction => exact induction occurs
  | copy copied _ induction =>
      obtain ⟨rest, inside⟩ := skip copied.literal occurs
      exact induction inside
  | unreserved _ needless _ induction =>
      obtain ⟨-, literal, -⟩ := copied_of_isUnreserved _ needless
      obtain ⟨rest, inside⟩ := skip literal occurs
      exact induction inside
  | @escape _ _ _ byte _ output _ kept _ induction =>
      cases before with
      | nil => exact ⟨byte, output, occurs.symm, kept⟩
      | cons =>
          have digits := (List.cons.inj occurs).2
          obtain ⟨_, inside⟩ := skip (upperHex_table _).2.2 digits
          obtain ⟨_, inside⟩ := skip (upperHex_table _).2.2 inside
          exact induction inside

/-! ## Accepted targets -/

/-- What acceptance of a path establishes. -/
structure Canonical (path : Bytes) (maxPath : Int) (output : Bytes) : Prop where
  rooted : path.head? = some 47
  reads : Reads false path output
  segments : ∀ segment ∈ output.splitOn 47,
    segment ≠ ascii "." ∧ segment ≠ ascii ".."
  bounded : output.length ≤ maxPath

theorem canonicalPath_eq_some
    {output : Bytes}
    (accepted : canonicalPath path maxPath = some output) :
    Canonical path maxPath output := by
  unfold canonicalPath at accepted
  split at accepted
  · cases accepted
  next shape =>
  split at accepted
  · cases accepted
  next found =>
  split at accepted
  · cases accepted
  next segments =>
  split at accepted
  · cases accepted
  next bounded =>
    cases accepted
    simp only [not_or, not_not] at shape
    refine ⟨shape.1, reads_of_canonicalLoop found, ?_, by omega⟩
    intro segment member
    exact not_or.mp fun dots => segments ⟨segment, member, dots⟩

theorem canonicalPath_output
    {output : Bytes}
    (canonical : Canonical path maxPath output) :
    output.head? = some 47 ∧ canonicalPath output maxPath = some output := by
  have rooted : output.head? = some 47 := by
    obtain ⟨rooted, reads, -, -⟩ := canonical
    cases path with
    | nil => cases rooted
    | cons =>
        obtain rfl := Option.some.inj rooted
        cases reads with
        | slash => rfl
        | copy copied => exact absurd rfl copied.inner
  have bounded := canonical.bounded
  have segments : ¬ ∃ segment ∈ output.splitOn (charByte '/'),
      segment = ascii "." ∨ segment = ascii ".." := by
    rintro ⟨segment, member, dots⟩
    exact not_or.mpr (canonical.segments segment member) dots
  have short : ¬ (output.length : Int) > maxPath := by omega
  have shape : ¬ (output.head? ≠ some (charByte '/') ∨
      (output.length : Int) > maxPath) :=
    not_or.mpr ⟨not_not.mpr rooted, short⟩
  refine ⟨rooted, ?_⟩
  rw [canonicalPath, if_neg shape,
    canonicalLoop_of_reads canonical.reads.output]
  simp only [if_neg segments, if_neg short]

theorem validateTarget_eq_some
    {requestURI output : Bytes} {maxTarget : Int}
    (accepted : validateTarget requestURI maxTarget maxPath = some output) :
    Canonical (pathPart requestURI) maxPath output := by
  unfold validateTarget at accepted
  split at accepted
  · cases accepted
  split at accepted
  · cases accepted
  split at accepted
  · cases accepted
  · exact canonicalPath_eq_some accepted

/-- The comparison path of an accepted target is in normal form and stands for
the bytes of the path with its slashes collapsed.  Two accepted targets have the
same comparison path exactly when their paths have the same normal form. -/
theorem comparisonPath_normal
    (requestURI : Bytes) (maxTarget maxPath : Int) (output : Bytes)
    (accepted : validateTarget requestURI maxTarget maxPath = some output) :
    canonicalPath output maxPath = some output ∧
    Percent.decode output =
      Percent.collapse 47 (Percent.decode (pathPart requestURI)) ∧
    output.head? = some 47 ∧
    ¬ [47, 47] <:+: output ∧
    (∀ segment ∈ output.splitOn 47,
      segment ≠ ascii "." ∧ segment ≠ ascii "..") ∧
    (∀ before after, output = before ++ 37 :: after →
      ∃ byte rest, 37 :: after = escapeOf byte ++ rest ∧
        isUnreserved byte = false ∧ byte ≠ 47 ∧ forbidden byte = false) ∧
    ∀ other maxTarget maxPath otherOutput,
      validateTarget other maxTarget maxPath = some otherOutput →
      (output = otherOutput ↔
        normalForm (pathPart requestURI) = normalForm (pathPart other)) := by
  have canonical := validateTarget_eq_some accepted
  obtain ⟨rooted, fixed⟩ := canonicalPath_output canonical
  refine ⟨fixed, canonical.reads.decode_eq, rooted,
    canonical.reads.no_double_slash.2, canonical.segments, ?_, ?_⟩
  · intro before after occurs
    obtain ⟨byte, rest, spelled, kept⟩ := canonical.reads.escapes occurs
    exact ⟨byte, rest, spelled, kept.reserved, kept.inner, kept.allowed⟩
  · intro other _ _ otherOutput otherAccepted
    have first := canonical.reads.eq_normalForm
    have second := (validateTarget_eq_some otherAccepted).reads.eq_normalForm
    rw [first, second]
    rfl

/-- An escaped letter, an escaped space and a run of slashes. -/
theorem comparisonPath_normal_sample :
    validateTarget (ascii "/%61//b%20c?q=%2e") 2048 1024 =
        some (ascii "/a/b%20c") ∧
      Percent.decode (ascii "/a/b%20c") =
        Percent.collapse 47
          (Percent.decode (pathPart (ascii "/%61//b%20c?q=%2e"))) := by
  have accepted : validateTarget (ascii "/%61//b%20c?q=%2e") 2048 1024 =
      some (ascii "/a/b%20c") := by
    rfl
  exact ⟨accepted, (comparisonPath_normal _ _ _ _ accepted).2.1⟩

end SentinelFlow.Gateway
