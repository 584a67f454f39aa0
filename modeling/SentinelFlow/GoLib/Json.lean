import SentinelFlow.GoLib.JsonString

/-!
# Values of `encoding/json`

The grammar that `json.Valid`, `json.Unmarshal` and `json.Decoder` share, as a
reader of syntax trees, and the compact text `json.Marshal` writes.  The reader
is driven by a step budget; the length of the text is always enough, because
every step consumes at least one octet.  The main result reads back every value
whose strings are plain and whose numbers are unsigned decimal integers.
-/

namespace GoLib

/-- A JSON value; a number keeps its literal, an object the order and the
repetitions of its members. -/
inductive Json where
  | null
  | bool (value : Bool)
  | number (literal : Bytes)
  | string (text : Bytes)
  | array (items : List Json)
  | object (members : List (Bytes × Json))

namespace Json

def isSpace (byte : UInt8) : Bool :=
  byte == 32 || byte == 9 || byte == 13 || byte == 10

def skipSpace (text : Bytes) : Bytes :=
  text.dropWhile isSpace

/-- At least one digit. -/
def scanDigits (text : Bytes) : Option (Bytes × Bytes) :=
  match text.takeWhile isDigit with
  | [] => none
  | digits => some (digits, text.dropWhile isDigit)

/-- The integer part: a single zero, or digits that do not start with one. -/
def scanInteger : Bytes → Option (Bytes × Bytes)
  | [] => none
  | byte :: rest =>
      if byte = charByte '0' then some ([byte], rest)
      else scanDigits (byte :: rest)

/-- An optional fraction. -/
def scanFraction : Bytes → Option (Bytes × Bytes)
  | [] => some ([], [])
  | byte :: rest =>
      if byte = charByte '.' then
        (scanDigits rest).map fun (digits, after) => (byte :: digits, after)
      else some ([], byte :: rest)

/-- An optional exponent. -/
def scanExponent : Bytes → Option (Bytes × Bytes)
  | [] => some ([], [])
  | byte :: rest =>
      if byte = charByte 'e' ∨ byte = charByte 'E' then
        match rest with
        | [] => none
        | sign :: tail =>
            if sign = charByte '+' ∨ sign = charByte '-' then
              (scanDigits tail).map fun (digits, after) =>
                (byte :: sign :: digits, after)
            else
              (scanDigits rest).map fun (digits, after) =>
                (byte :: digits, after)
      else some ([], byte :: rest)

/-- A number without its sign. -/
def scanUnsigned (text : Bytes) : Option (Bytes × Bytes) :=
  match scanInteger text with
  | none => none
  | some (integer, text) =>
      match scanFraction text with
      | none => none
      | some (fraction, text) =>
          (scanExponent text).map fun (exponent, after) =>
            (integer ++ fraction ++ exponent, after)

/-- A value that starts with the given octet and is neither array nor object. -/
def scanScalar (byte : UInt8) (rest : Bytes) : Option (Json × Bytes) :=
  if byte = charByte '"' then
    (scanString .text rest).map fun (raw, after) =>
      (.string (unquote raw), after)
  else if byte = charByte '-' then
    (scanUnsigned rest).map fun (literal, after) =>
      (.number (byte :: literal), after)
  else if isDigit byte then
    (scanUnsigned (byte :: rest)).map fun (literal, after) =>
      (.number literal, after)
  else if (ascii "null").isPrefixOf (byte :: rest) then
    some (.null, rest.drop 3)
  else if (ascii "true").isPrefixOf (byte :: rest) then
    some (.bool true, rest.drop 3)
  else if (ascii "false").isPrefixOf (byte :: rest) then
    some (.bool false, rest.drop 4)
  else none

/-- The name of a member together with its colon. -/
def scanName (text : Bytes) : Option (Bytes × Bytes) :=
  match skipSpace text with
  | [] => none
  | byte :: rest =>
      if byte = charByte '"' then
        match scanString .text rest with
        | none => none
        | some (raw, rest) =>
            match skipSpace rest with
            | [] => none
            | next :: after =>
                if next = charByte ':' then some (unquote raw, after) else none
      else none

mutual

/-- The value at the start of the text, nested at most `depth` deep. -/
def scanValue : Nat → Nat → Bytes → Option (Json × Bytes)
  | 0, _, _ => none
  | fuel + 1, depth, text =>
      match skipSpace text with
      | [] => none
      | byte :: rest =>
          if byte = charByte '[' then
            match depth with
            | 0 => none
            | depth + 1 =>
                match skipSpace rest with
                | [] => none
                | next :: after =>
                    if next = charByte ']' then some (.array [], after)
                    else (scanItems fuel depth (next :: after)).map
                      fun (items, after) => (.array items, after)
          else if byte = charByte '\x7b' then
            match depth with
            | 0 => none
            | depth + 1 =>
                match skipSpace rest with
                | [] => none
                | next :: after =>
                    if next = charByte '\x7d' then some (.object [], after)
                    else (scanMembers fuel depth (next :: after)).map
                      fun (members, after) => (.object members, after)
          else scanScalar byte rest

/-- The items of an array up to its closing bracket. -/
def scanItems : Nat → Nat → Bytes → Option (List Json × Bytes)
  | 0, _, _ => none
  | fuel + 1, depth, text =>
      match scanValue fuel depth text with
      | none => none
      | some (item, rest) =>
          match skipSpace rest with
          | [] => none
          | next :: after =>
              if next = charByte ']' then some ([item], after)
              else if next = charByte ',' then
                (scanItems fuel depth after).map
                  fun (items, after) => (item :: items, after)
              else none

/-- The members of an object up to its closing brace. -/
def scanMembers : Nat → Nat → Bytes → Option (List (Bytes × Json) × Bytes)
  | 0, _, _ => none
  | fuel + 1, depth, text =>
      match scanName text with
      | none => none
      | some (name, rest) =>
          match scanValue fuel depth rest with
          | none => none
          | some (item, rest) =>
              match skipSpace rest with
              | [] => none
              | next :: after =>
                  if next = charByte '\x7d' then some ([(name, item)], after)
                  else if next = charByte ',' then
                    (scanMembers fuel depth after).map
                      fun (members, after) => ((name, item) :: members, after)
                  else none

end

/-- The nesting limit of the scanner. -/
def maxNestingDepth : Nat := 10000

/-- The value a whole text denotes; only white space may surround it. -/
def parse (text : Bytes) : Option Json :=
  match scanValue (text.length + 1) maxNestingDepth text with
  | none => none
  | some (value, rest) => if skipSpace rest = [] then some value else none

/-- `json.Valid`. -/
def valid (text : Bytes) : Bool :=
  (parse text).isSome

mutual

/-- `json.Marshal`. -/
def marshal : Json → Bytes
  | .null => ascii "null"
  | .bool true => ascii "true"
  | .bool false => ascii "false"
  | .number literal => literal
  | .string text => quote text
  | .array items => charByte '[' :: marshalItems items ++ [charByte ']']
  | .object members =>
      charByte '\x7b' :: marshalMembers members ++ [charByte '\x7d']

def marshalItems : List Json → Bytes
  | [] => []
  | item :: items =>
      marshal item ++
        if items.isEmpty then [] else charByte ',' :: marshalItems items

def marshalMembers : List (Bytes × Json) → Bytes
  | [] => []
  | (name, item) :: members =>
      quote name ++ charByte ':' :: marshal item ++
        if members.isEmpty then [] else charByte ',' :: marshalMembers members

end

/-- No name occurs twice. -/
def distinctNames : List Bytes → Bool
  | [] => true
  | name :: names => !names.contains name && distinctNames names

theorem distinctNames_iff {names : List Bytes} :
    distinctNames names = true ↔ names.Nodup := by
  induction names with
  | nil => simp [distinctNames]
  | cons name names induction => simp [distinctNames, induction]

mutual

/-- No object of the value names a member twice. -/
def uniqueNames : Json → Bool
  | .array items => uniqueNamesItems items
  | .object members =>
      distinctNames (members.map Prod.fst) && uniqueNamesMembers members
  | _ => true

def uniqueNamesItems : List Json → Bool
  | [] => true
  | item :: items => uniqueNames item && uniqueNamesItems items

def uniqueNamesMembers : List (Bytes × Json) → Bool
  | [] => true
  | (_, item) :: members => uniqueNames item && uniqueNamesMembers members

end

/-- Values nested at most `depth` deep whose text needs no escape and whose
numbers are unsigned decimal integers. -/
inductive Canonical : Nat → Json → Prop where
  | null (depth : Nat) : Canonical depth .null
  | bool (depth : Nat) (value : Bool) : Canonical depth (.bool value)
  | number (depth value : Nat) : Canonical depth (.number (formatUint value))
  | string (depth : Nat) {text : Bytes} :
      Plain text → Canonical depth (.string text)
  | array {depth : Nat} {items : List Json} :
      (∀ item ∈ items, Canonical depth item) →
      Canonical (depth + 1) (.array items)
  | object {depth : Nat} {members : List (Bytes × Json)} :
      (∀ member ∈ members, Plain member.1) →
      (∀ member ∈ members, Canonical depth member.2) →
      Canonical (depth + 1) (.object members)

/-- What may follow a number without becoming part of it. -/
def endsNumber : Bytes → Bool
  | [] => true
  | byte :: _ =>
      !isDigit byte && byte != charByte '.' && byte != charByte 'e' &&
        byte != charByte 'E'

variable {first rest second : Bytes} {value : Json} {depth : Nat} {byte : UInt8}

theorem scanDigits_append
    {digits : Bytes} (nonempty : digits ≠ [])
    (all : ∀ byte ∈ digits, isDigit byte = true)
    (ends : endsNumber rest = true) :
    scanDigits (digits ++ rest) = some (digits, rest) := by
  have stop : rest.takeWhile isDigit = [] ∧ rest.dropWhile isDigit = rest := by
    cases rest with
    | nil => simp
    | cons =>
        simp only [endsNumber, Bool.and_eq_true, Bool.not_eq_true'] at ends
        simp [ends.1.1.1]
  rw [scanDigits, List.takeWhile_append_of_pos all,
    List.dropWhile_append_of_pos all, stop.1, stop.2, List.append_nil]
  cases digits with
  | nil => exact absurd rfl nonempty
  | cons => rfl

private theorem scanFraction_ends
    (ends : endsNumber rest = true) :
    scanFraction rest = some ([], rest) := by
  cases rest with
  | nil => rfl
  | cons =>
      simp only [endsNumber, Bool.and_eq_true, bne_iff_ne] at ends
      simp only [scanFraction, if_neg ends.1.1.2]

private theorem scanExponent_ends
    (ends : endsNumber rest = true) :
    scanExponent rest = some ([], rest) := by
  cases rest with
  | nil => rfl
  | cons =>
      simp only [endsNumber, Bool.and_eq_true, bne_iff_ne] at ends
      simp only [scanExponent, ends.1.2, ends.2, or_self, if_false]

private theorem scanInteger_formatUint
    (value : Nat) (ends : endsNumber rest = true) :
    scanInteger (formatUint value ++ rest) = some (formatUint value, rest) := by
  cases text : formatUint value with
  | nil => exact absurd text (formatUint_ne_nil value)
  | cons byte tail =>
      rw [List.cons_append, scanInteger]
      split
      · next zero =>
          subst zero
          rw [formatUint_leading_zero text, List.nil_append]
      · have all : ∀ digit ∈ byte :: tail, isDigit digit = true :=
          fun digit member => isDigit_of_mem_formatUint (text ▸ member)
        exact scanDigits_append (by simp) all ends

theorem scanUnsigned_formatUint
    (value : Nat) (ends : endsNumber rest = true) :
    scanUnsigned (formatUint value ++ rest) =
      some (formatUint value, rest) := by
  simp [scanUnsigned, scanInteger_formatUint value ends,
    scanFraction_ends ends, scanExponent_ends ends]

private theorem isDigit_facts :
    ∀ byte : UInt8, isDigit byte = true →
      isSpace byte = false ∧ byte ≠ charByte '[' ∧ byte ≠ charByte ']' ∧
        byte ≠ charByte '\x7b' ∧ byte ≠ charByte '"' ∧
        byte ≠ charByte '-' := by
  decide +kernel

private theorem isDigit_lt :
    ∀ byte : UInt8, isDigit byte = true → byte < 0x80 := by
  decide +kernel

private theorem skipSpace_cons
    (solid : isSpace byte = false) (rest : Bytes) :
    skipSpace (byte :: rest) = byte :: rest := by
  simp [skipSpace, solid]

/-- A canonical text starts with an octet that opens a value. -/
theorem Canonical.head
    (canonical : Canonical depth value) :
    ∃ byte tail, marshal value = byte :: tail ∧ isSpace byte = false ∧
      byte ≠ charByte ']' := by
  cases canonical with
  | null => exact ⟨_, _, rfl, rfl, by decide⟩
  | bool depth value =>
      cases value
      · exact ⟨_, _, rfl, rfl, by decide⟩
      · exact ⟨_, _, rfl, rfl, by decide⟩
  | number depth value =>
      cases text : formatUint value with
      | nil => exact absurd text (formatUint_ne_nil value)
      | cons byte tail =>
          have digit := isDigit_facts byte
            (isDigit_of_mem_formatUint
              (show byte ∈ formatUint value by simp [text]))
          exact ⟨byte, tail, rfl, digit.1, digit.2.2.1⟩
  | string => exact ⟨_, _, by rw [marshal, quote]; rfl, rfl, by decide⟩
  | array
  | object => exact ⟨_, _, by rw [marshal]; rfl, rfl, by decide⟩

/-- The reader takes the text for the value, whatever follows it. -/
def ReadsAs (depth : Nat) (text : Bytes) (value : Json) : Prop :=
  ∀ fuel rest, text.length ≤ fuel → endsNumber rest = true →
    scanValue fuel depth (text ++ rest) = some (value, rest)

/-- The reader inverts the writer on one value, whatever follows it. -/
def Reads (depth : Nat) (value : Json) : Prop :=
  ∀ fuel rest, (marshal value).length ≤ fuel → endsNumber rest = true →
    scanValue fuel depth (marshal value ++ rest) = some (value, rest)

private theorem readsAs_scalar
    {depth : Nat} {value : Json} {byte : UInt8} {tail : Bytes}
    (solid : isSpace byte = false)
    (noArray : byte ≠ charByte '[') (noObject : byte ≠ charByte '\x7b')
    (scalar : ∀ rest, endsNumber rest = true →
      scanScalar byte (tail ++ rest) = some (value, rest)) :
    ReadsAs depth (byte :: tail) value := by
  intro fuel rest enough ends
  rw [List.length_cons] at enough
  obtain ⟨fuel, rfl⟩ : ∃ less, fuel = less + 1 := ⟨fuel - 1, by omega⟩
  rw [List.cons_append]
  simp only [scanValue, skipSpace_cons solid, if_neg noArray, if_neg noObject,
    scalar rest ends]

private theorem reads_number (depth value : Nat) :
    Reads depth (.number (formatUint value)) := by
  cases text : formatUint value with
  | nil => exact absurd text (formatUint_ne_nil value)
  | cons byte =>
      have digit := isDigit_of_mem_formatUint
        (show byte ∈ formatUint value by simp [text])
      obtain ⟨solid, noArray, -, noObject, noString, noSign⟩ :=
        isDigit_facts byte digit
      refine readsAs_scalar solid noArray noObject ?_
      intro rest ends
      have read := scanUnsigned_formatUint value ends
      rw [text, List.cons_append] at read
      rw [scanScalar, if_neg noString, if_neg noSign, if_pos digit, read]
      rfl

private theorem reads_string
    (depth : Nat) {text : Bytes} (plain : Plain text) :
    Reads depth (.string text) := by
  unfold Reads
  rw [marshal, quote_plain plain, List.cons_append]
  refine readsAs_scalar (by decide) (by decide) (by decide) ?_
  intro rest ends
  rw [scanScalar, if_pos rfl, List.append_assoc, List.singleton_append,
    scanString_plain plain]
  simp only [Option.map_some, unquote_plain plain]

/-! ## White space between the parts -/

/-- Only white space. -/
def White (text : Bytes) : Prop :=
  ∀ byte ∈ text, isSpace byte = true

theorem skipSpace_append
    {lead : Bytes} (white : White lead) (text : Bytes) :
    skipSpace (lead ++ text) = skipSpace text :=
  List.dropWhile_append_of_pos white

theorem skipSpace_skipSpace (text : Bytes) :
    skipSpace (skipSpace text) = skipSpace text := by
  induction text with
  | nil => rfl
  | cons byte text induction =>
      cases space : isSpace byte with
      | false => rw [skipSpace_cons space, skipSpace_cons space]
      | true =>
          have dropped : skipSpace (byte :: text) = skipSpace text :=
            List.dropWhile_cons_of_pos space
          rw [dropped, induction]

theorem scanValue_congr
    (same : skipSpace first = skipSpace second)
    (fuel depth : Nat) :
    scanValue fuel depth first = scanValue fuel depth second := by
  cases fuel with
  | zero => simp only [scanValue]
  | succ => simp only [scanValue, same]

theorem scanItems_congr
    (same : skipSpace first = skipSpace second)
    (fuel depth : Nat) :
    scanItems fuel depth first = scanItems fuel depth second := by
  cases fuel with
  | zero => simp only [scanItems]
  | succ => simp only [scanItems, scanValue_congr same]

theorem scanMembers_congr
    (same : skipSpace first = skipSpace second)
    (fuel depth : Nat) :
    scanMembers fuel depth first = scanMembers fuel depth second := by
  cases fuel with
  | zero => simp only [scanMembers]
  | succ => simp only [scanMembers, scanName, same]

private theorem endsNumber_white
    {tail : Bytes} (white : White tail)
    (ends : endsNumber (byte :: rest) = true) :
    endsNumber (tail ++ byte :: rest) = true := by
  cases tail with
  | nil => exact ends
  | cons space =>
      have spaced := white space List.mem_cons_self
      simp only [isSpace, Bool.or_eq_true, beq_iff_eq] at spaced
      rcases spaced with ((rfl | rfl) | rfl) | rfl <;> rfl

/-- The texts of the items with the same white space before each of them. -/
def joinItems (lead : Bytes) : List Bytes → Bytes
  | [] => []
  | piece :: pieces =>
      lead ++ piece ++
        if pieces.isEmpty then [] else charByte ',' :: joinItems lead pieces

/-- The texts of the members, with white space before each name and after each
colon. -/
def joinMembers (lead gap : Bytes) : List (Bytes × Bytes) → Bytes
  | [] => []
  | (name, piece) :: pieces =>
      lead ++ quote name ++ charByte ':' :: gap ++ piece ++
        if pieces.isEmpty then []
        else charByte ',' :: joinMembers lead gap pieces

section Spaced

variable {depth : Nat} {lead gap tail : Bytes} (before : White lead)
  (between : White gap) (after : White tail) {write : Json → Bytes}
include before after

private theorem scanItems_join
    {items : List Json} (nonempty : items ≠ [])
    (reads : ∀ item ∈ items, ReadsAs depth (write item) item)
    (fuel : Nat) (rest : Bytes)
    (enough : (joinItems lead (items.map write)).length + 1 ≤ fuel) :
    scanItems fuel depth (joinItems lead (items.map write) ++
        (tail ++ charByte ']' :: rest)) = some (items, rest) := by
  induction items generalizing fuel with
  | nil => exact absurd rfl nonempty
  | cons item items induction =>
      obtain ⟨fuel, rfl⟩ : ∃ less, fuel = less + 1 := ⟨fuel - 1, by omega⟩
      rw [List.map_cons, joinItems, List.length_append,
        List.length_append] at enough
      have first : ∀ rest, endsNumber rest = true →
          scanValue fuel depth (lead ++ write item ++ rest) =
            some (item, rest) := by
        intro rest ends
        rw [List.append_assoc, scanValue_congr (skipSpace_append before _)]
        exact reads item (by simp) fuel rest (by omega) ends
      cases items with
      | nil =>
          have read := first (tail ++ charByte ']' :: rest)
            (endsNumber_white after rfl)
          simp only [List.map_cons, List.map_nil, joinItems, List.isEmpty_nil,
            if_true, List.append_nil, scanItems, read,
            skipSpace_append after, skipSpace_cons
              (show isSpace (charByte ']') = false by decide)]
      | cons next items =>
          simp only [List.map_cons, List.isEmpty_cons, Bool.false_eq_true,
            if_false, List.length_cons] at enough
          have more := induction (by simp)
            (fun other member => reads other (List.mem_cons_of_mem _ member))
            fuel (by rw [List.map_cons]; omega)
          have read := first (charByte ',' ::
            (joinItems lead ((next :: items).map write) ++
              (tail ++ charByte ']' :: rest))) rfl
          rw [List.map_cons, joinItems, List.isEmpty_map, List.isEmpty_cons,
            if_neg (by decide), List.append_assoc, List.cons_append]
          simp only [scanItems, read, skipSpace_cons
            (show isSpace (charByte ',') = false by decide), more]
          rfl

theorem readsAs_array
    {items : List Json}
    (opens : ∀ item ∈ items, ∃ byte more, write item = byte :: more ∧
      isSpace byte = false ∧ byte ≠ charByte ']')
    (reads : ∀ item ∈ items, ReadsAs depth (write item) item) :
    ReadsAs (depth + 1)
      (charByte '[' :: joinItems lead (items.map write) ++ tail ++
        [charByte ']']) (.array items) := by
  intro fuel rest enough ends
  simp only [List.length_append, List.length_cons, List.length_nil] at enough
  obtain ⟨fuel, rfl⟩ : ∃ less, fuel = less + 1 := ⟨fuel - 1, by omega⟩
  rw [List.cons_append, List.cons_append, List.cons_append, List.append_assoc,
    List.append_assoc, List.singleton_append, scanValue,
    skipSpace_cons (show isSpace (charByte '[') = false by decide)]
  simp only [if_true]
  cases items with
  | nil =>
      simp only [List.map_nil, joinItems, List.nil_append,
        skipSpace_append after, skipSpace_cons
          (show isSpace (charByte ']') = false by decide), if_true]
  | cons item items =>
      obtain ⟨byte, more, head, solid, noBracket⟩ := opens item (by simp)
      have read := scanItems_join before after (by simp) reads fuel rest
        (by omega)
      obtain ⟨later, text⟩ : ∃ later,
          skipSpace (joinItems lead ((item :: items).map write) ++
            (tail ++ charByte ']' :: rest)) = byte :: later := by
        rw [List.map_cons, joinItems, head, List.append_assoc,
          List.append_assoc, skipSpace_append before, List.cons_append,
          skipSpace_cons solid]
        exact ⟨_, rfl⟩
      have skipped := scanItems_congr (skipSpace_skipSpace
        (joinItems lead ((item :: items).map write) ++
          (tail ++ charByte ']' :: rest))) fuel depth
      rw [text, read] at skipped
      simp only [text, if_neg noBracket, skipped]
      rfl

omit before after in
private theorem scanName_plain
    {name : Bytes} (plain : Plain name) (rest : Bytes) :
    scanName (quote name ++ charByte ':' :: rest) = some (name, rest) := by
  have solid : isSpace (charByte '"') = false := by decide
  have colon : isSpace (charByte ':') = false := by decide
  rw [quote_plain plain, scanName, List.cons_append, List.cons_append,
    skipSpace_cons solid, List.append_assoc, List.singleton_append]
  simp only [if_true, scanString_plain plain, skipSpace_cons colon,
    unquote_plain plain]

include between

private theorem scanMembers_join
    {members : List (Bytes × Json)} (nonempty : members ≠ [])
    (names : ∀ member ∈ members, Plain member.1)
    (reads : ∀ member ∈ members, ReadsAs depth (write member.2) member.2)
    (fuel : Nat) (rest : Bytes)
    (enough : (joinMembers lead gap
      (members.map fun member => (member.1, write member.2))).length + 1 ≤
        fuel) :
    scanMembers fuel depth (joinMembers lead gap
        (members.map fun member => (member.1, write member.2)) ++
        (tail ++ charByte '\x7d' :: rest)) = some (members, rest) := by
  induction members generalizing fuel with
  | nil => exact absurd rfl nonempty
  | cons member members induction =>
      obtain ⟨name, item⟩ := member
      obtain ⟨fuel, rfl⟩ : ∃ less, fuel = less + 1 := ⟨fuel - 1, by omega⟩
      have plain : Plain name := names (name, item) (by simp)
      have here : ReadsAs depth (write item) item := reads (name, item) (by simp)
      simp only [List.map_cons, joinMembers, List.length_append,
        List.length_cons] at enough
      have first : ∀ rest, endsNumber rest = true →
          scanValue fuel depth (gap ++ (write item ++ rest)) =
            some (item, rest) := by
        intro rest ends
        rw [scanValue_congr (skipSpace_append between _)]
        exact here fuel rest (by omega) ends
      simp only [List.map_cons, joinMembers, List.append_assoc,
        List.cons_append]
      rw [scanMembers_congr (skipSpace_append before _)]
      simp only [scanMembers, scanName_plain plain]
      cases members with
      | nil =>
          have read := first (tail ++ charByte '\x7d' :: rest)
            (endsNumber_white after rfl)
          simp only [List.map_nil, List.isEmpty_nil, if_true, List.nil_append,
            read, skipSpace_append after, skipSpace_cons
              (show isSpace (charByte '\x7d') = false by decide)]
      | cons next members =>
          simp only [List.map_cons, List.isEmpty_cons, Bool.false_eq_true,
            if_false, List.length_cons] at enough
          have more := induction (by simp)
            (fun other member => names other (List.mem_cons_of_mem _ member))
            (fun other member => reads other (List.mem_cons_of_mem _ member))
            fuel (by rw [List.map_cons]; omega)
          have read := first (charByte ',' :: (joinMembers lead gap
            ((next :: members).map fun member => (member.1, write member.2)) ++
              (tail ++ charByte '\x7d' :: rest))) rfl
          rw [List.isEmpty_map, List.isEmpty_cons, if_neg (by decide),
            List.cons_append]
          simp only [read, skipSpace_cons
            (show isSpace (charByte ',') = false by decide), more]
          rfl

theorem readsAs_object
    {members : List (Bytes × Json)}
    (names : ∀ member ∈ members, Plain member.1)
    (reads : ∀ member ∈ members, ReadsAs depth (write member.2) member.2) :
    ReadsAs (depth + 1)
      (charByte '\x7b' :: joinMembers lead gap
        (members.map fun member => (member.1, write member.2)) ++ tail ++
        [charByte '\x7d']) (.object members) := by
  intro fuel rest enough ends
  simp only [List.length_append, List.length_cons, List.length_nil] at enough
  obtain ⟨fuel, rfl⟩ : ∃ less, fuel = less + 1 := ⟨fuel - 1, by omega⟩
  rw [List.cons_append, List.cons_append, List.cons_append, List.append_assoc,
    List.append_assoc, List.singleton_append, scanValue,
    skipSpace_cons (show isSpace (charByte '\x7b') = false by decide)]
  simp only [if_neg (show charByte '\x7b' ≠ charByte '[' by decide), if_true]
  cases members with
  | nil =>
      simp only [List.map_nil, joinMembers, List.nil_append,
        skipSpace_append after, skipSpace_cons
          (show isSpace (charByte '\x7d') = false by decide), if_true]
  | cons member members =>
      have read := scanMembers_join before between after (by simp) names reads
        fuel rest (by omega)
      obtain ⟨later, text⟩ : ∃ later,
          skipSpace (joinMembers lead gap
            ((member :: members).map fun member => (member.1, write member.2)) ++
            (tail ++ charByte '\x7d' :: rest)) = charByte '"' :: later := by
        simp only [List.map_cons, joinMembers, List.append_assoc]
        rw [skipSpace_append before, quote]
        exact ⟨_, skipSpace_cons (by decide) _⟩
      have skipped := scanMembers_congr (skipSpace_skipSpace
        (joinMembers lead gap
          ((member :: members).map fun member => (member.1, write member.2)) ++
          (tail ++ charByte '\x7d' :: rest))) fuel depth
      rw [text, read] at skipped
      simp only [text, if_neg (show charByte '"' ≠ charByte '\x7d' by decide),
        skipped]
      rfl

end Spaced

theorem white_nil : White [] :=
  List.forall_mem_nil _

private theorem marshalItems_eq_join (items : List Json) :
    marshalItems items = joinItems [] (items.map marshal) := by
  induction items with
  | nil => simp only [marshalItems, List.map_nil, joinItems]
  | cons item items induction =>
      simp only [marshalItems, List.map_cons, joinItems, List.nil_append,
        List.isEmpty_map, induction]

private theorem marshalMembers_eq_join (members : List (Bytes × Json)) :
    marshalMembers members = joinMembers [] []
      (members.map fun member => (member.1, marshal member.2)) := by
  induction members with
  | nil => simp only [marshalMembers, List.map_nil, joinMembers]
  | cons member members induction =>
      simp only [marshalMembers, List.map_cons, joinMembers, List.nil_append,
        List.isEmpty_map, induction, List.append_assoc, List.cons_append]

theorem Canonical.reads
    (canonical : Canonical depth value) :
    Reads depth value := by
  induction canonical with
  | null =>
      exact readsAs_scalar (by decide) (by decide) (by decide)
        (fun rest ends => rfl)
  | bool depth value =>
      cases value
      · exact readsAs_scalar (by decide) (by decide) (by decide)
          (fun rest ends => rfl)
      · exact readsAs_scalar (by decide) (by decide) (by decide)
          (fun rest ends => rfl)
  | number depth value => exact reads_number depth value
  | string depth plain => exact reads_string depth plain
  | array canonical induction =>
      have read := readsAs_array white_nil white_nil
        (fun item listed => (canonical item listed).head) induction
      rw [List.append_nil, ← marshalItems_eq_join, ← marshal] at read
      exact read
  | object names canonical induction =>
      have read := readsAs_object white_nil white_nil white_nil names induction
      rw [List.append_nil, ← marshalMembers_eq_join, ← marshal] at read
      exact read

private theorem mem_marshalItems
    {items : List Json} (member : byte ∈ marshalItems items) :
    byte = charByte ',' ∨ ∃ item ∈ items, byte ∈ marshal item := by
  induction items with
  | nil => simp [marshalItems] at member
  | cons item items induction =>
      rw [marshalItems] at member
      rcases List.mem_append.mp member with first | later
      · exact .inr ⟨item, by simp, first⟩
      · split at later
        · simp at later
        · rcases List.mem_cons.mp later with comma | later
          · exact .inl comma
          · rcases induction later with comma | ⟨other, found, inside⟩
            · exact .inl comma
            · exact .inr ⟨other, List.mem_cons_of_mem _ found, inside⟩

theorem mem_marshalMembers
    {members : List (Bytes × Json)}
    (inside : byte ∈ marshalMembers members) :
    byte = charByte ',' ∨ byte = charByte ':' ∨
      ∃ member ∈ members, byte ∈ quote member.1 ∨ byte ∈ marshal member.2 := by
  induction members with
  | nil => simp [marshalMembers] at inside
  | cons member members induction =>
      rw [marshalMembers] at inside
      rcases List.mem_append.mp inside with first | later
      · rcases List.mem_append.mp first with name | item
        · exact .inr (.inr ⟨member, by simp, .inl name⟩)
        · rcases List.mem_cons.mp item with colon | item
          · exact .inr (.inl colon)
          · exact .inr (.inr ⟨member, by simp, .inr item⟩)
      · split at later
        · simp at later
        · rcases List.mem_cons.mp later with comma | later
          · exact .inl comma
          · rcases induction later with comma | colon | ⟨other, found, text⟩
            · exact .inl comma
            · exact .inr (.inl colon)
            · exact .inr (.inr ⟨other, List.mem_cons_of_mem _ found, text⟩)

private theorem quote_ascii
    {text : Bytes} (plain : Plain text)
    (member : byte ∈ quote text) : byte < 0x80 := by
  rw [quote_plain plain] at member
  simp only [List.cons_append, List.mem_cons, List.mem_append,
    List.not_mem_nil, or_false] at member
  rcases member with rfl | inside | rfl
  · decide
  · exact plain.ascii byte inside
  · decide

/-- A canonical text is ASCII. -/
theorem Canonical.ascii
    (canonical : Canonical depth value) :
    ∀ byte ∈ marshal value, byte < 0x80 := by
  induction canonical with
  | null => decide +kernel
  | bool depth value => cases value <;> decide +kernel
  | number =>
      intro byte member
      exact isDigit_lt byte (isDigit_of_mem_formatUint member)
  | string depth plain =>
      intro byte member
      rw [marshal] at member
      exact quote_ascii plain member
  | array canonical induction =>
      intro byte member
      rw [marshal] at member
      simp only [List.cons_append, List.mem_cons, List.mem_append,
        List.not_mem_nil, or_false] at member
      rcases member with rfl | inside | rfl
      · decide
      · rcases mem_marshalItems inside with rfl | ⟨item, found, text⟩
        · decide
        · exact induction item found byte text
      · decide
  | object names canonical induction =>
      intro byte member
      rw [marshal] at member
      simp only [List.cons_append, List.mem_cons, List.mem_append,
        List.not_mem_nil, or_false] at member
      rcases member with rfl | inside | rfl
      · decide
      · rcases mem_marshalMembers inside with
          rfl | rfl | ⟨entry, found, name | text⟩
        · decide
        · decide
        · exact quote_ascii (names entry found) name
        · exact induction entry found byte text
      · decide

theorem parse_marshal
    (canonical : Canonical maxNestingDepth value) :
    parse (marshal value) = some value := by
  have read := canonical.reads ((marshal value).length + 1) [] (by omega) rfl
  rw [List.append_nil] at read
  simp only [parse, read]
  rfl

end Json

end GoLib
