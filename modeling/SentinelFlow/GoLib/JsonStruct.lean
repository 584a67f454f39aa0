import SentinelFlow.GoLib.Json

/-!
# Structs of `encoding/json`

The tagged fields of a Go struct are a list of `Field`s, each of which knows how
to write itself, how to take a value from a decoded member, and that the second
undoes the first.  Decoding assigns the members in the order of the text; a
member is matched by its exact name first and by its case-folded name second.
If the fields together determine the struct, decoding what was written returns
the struct.
-/

namespace GoLib.Json

/-- The tag of a field of the struct `S` is written without escapes. -/
def Tag (_ : Type) (name : Bytes) : Prop :=
  Plain name

instance (S : Type) (name : Bytes) : Decidable (Tag S name) :=
  inferInstanceAs (Decidable (Plain name))

/-- One tagged field of the struct `S`. -/
structure Field (S : Type) where
  name : Bytes
  /-- The member value the field is written as. -/
  toJson : S → Json
  /-- Stores a member value; `none` is an unmarshal type error. -/
  assign : S → Json → Option S
  /-- The first struct with this field taken from the second. -/
  copy : S → S → S
  /-- The field's value is written without escapes and within its range. -/
  Fits : S → Prop
  assign_toJson : ∀ old new, Fits new → assign old (toJson new) =
    some (copy old new)
  canonical : ∀ depth value, Fits value → Canonical depth (toJson value)
  scalar : ∀ value, uniqueNames (toJson value) = true
  plain : Tag S name

namespace Field

variable {S : Type}

/-- A field of type `string`; `null` leaves it as it is. -/
def text (name : Bytes) (get : S → Bytes) (set : S → Bytes → S)
    (plain : Tag S name := by decide +kernel) : Field S where
  name := name
  toJson value := .string (get value)
  assign old
    | .null => some old
    | .string text => some (set old text)
    | _ => none
  copy old new := set old (get new)
  Fits value := Plain (get value)
  assign_toJson _ _ _ := rfl
  canonical depth _ fits := .string depth fits
  scalar _ := rfl
  plain := plain

/-- A field of type `*string`; `null` is the nil pointer. -/
def textPointer (name : Bytes) (get : S → Option Bytes)
    (set : S → Option Bytes → S)
    (plain : Tag S name := by decide +kernel) : Field S where
  name := name
  toJson value :=
    match get value with
    | none => .null
    | some text => .string text
  assign old
    | .null => some (set old none)
    | .string text => some (set old (some text))
    | _ => none
  copy old new := set old (get new)
  Fits value := ∀ text, get value = some text → Plain text
  assign_toJson _ new _ := by cases get new <;> rfl
  canonical depth value fits := by
    cases found : get value with
    | none => exact .null depth
    | some text => exact .string depth (fits text found)
  scalar value := by cases get value <;> rfl
  plain := plain

/-- A field of an unsigned integer type of the given width. -/
def uint (bits : Nat) (name : Bytes) (get : S → Nat) (set : S → Nat → S)
    (plain : Tag S name := by decide +kernel) : Field S where
  name := name
  toJson value := .number (formatUint (get value))
  assign old
    | .null => some old
    | .number literal => (parseUint bits literal).map (set old)
    | _ => none
  copy old new := set old (get new)
  Fits value := get value < 2 ^ bits
  assign_toJson _ _ fits := by simp only [parseUint_formatUint fits]; rfl
  canonical depth value _ := .number depth (get value)
  scalar _ := rfl
  plain := plain

/-- A pointer to an unsigned integer; `null` is the nil pointer. -/
def uintPointer (bits : Nat) (name : Bytes) (get : S → Option Nat)
    (set : S → Option Nat → S)
    (plain : Tag S name := by decide +kernel) : Field S where
  name := name
  toJson value :=
    match get value with
    | none => .null
    | some amount => .number (formatUint amount)
  assign old
    | .null => some (set old none)
    | .number literal =>
        (parseUint bits literal).map fun amount => set old (some amount)
    | _ => none
  copy old new := set old (get new)
  Fits value := ∀ amount, get value = some amount → amount < 2 ^ bits
  assign_toJson _ new fits := by
    cases found : get new with
    | none => rfl
    | some amount => simp only [parseUint_formatUint (fits amount found)]; rfl
  canonical depth value fits := by
    cases get value with
    | none => exact .null depth
    | some amount => exact .number depth amount
  scalar value := by cases get value <;> rfl
  plain := plain

/-- The field fits and its text is at most `limit` octets long. -/
def Within (limit : Nat) (field : Field S) (value : S) : Prop :=
  field.Fits value ∧ (marshal (field.toJson value)).length ≤ limit

variable {name : Bytes} {limit : Nat} {value : S}

theorem within_text
    {size : Nat} {named : Tag S name} {get : S → Bytes} {set : S → Bytes → S}
    (described : Plain (get value) ∧ (get value).length ≤ size)
    (room : size + 2 ≤ limit) :
    (text name get set named).Within limit value := by
  refine ⟨described.1, ?_⟩
  have written : marshal ((text name get set named).toJson value) =
      charByte '"' :: get value ++ [charByte '"'] := by
    show marshal (.string (get value)) = _
    rw [marshal, quote_plain described.1]
  have short := described.2
  rw [written]
  simp only [List.length_append, List.length_cons, List.length_nil]
  omega

theorem within_textPointer
    {size : Nat} {named : Tag S name} {get : S → Option Bytes}
    {set : S → Option Bytes → S}
    (described : ∀ text, get value = some text →
      Plain text ∧ text.length ≤ size)
    (room : size + 4 ≤ limit) :
    (textPointer name get set named).Within limit value := by
  refine ⟨fun text found => (described text found).1, ?_⟩
  cases found : get value with
  | none =>
      have written : marshal ((textPointer name get set named).toJson value) =
          ascii "null" := by
        simp only [textPointer, found, marshal]
      rw [written]
      exact Nat.le_trans (Nat.le_add_left 4 size) room
  | some text =>
      obtain ⟨plain, short⟩ := described text found
      have written : marshal ((textPointer name get set named).toJson value) =
          charByte '"' :: text ++ [charByte '"'] := by
        simp only [textPointer, found]
        rw [marshal, quote_plain plain]
      rw [written]
      simp only [List.length_append, List.length_cons, List.length_nil]
      omega

theorem within_uint
    {bits : Nat} {named : Tag S name} {get : S → Nat} {set : S → Nat → S}
    (room : 2 ^ bits ≤ 10 ^ limit)
    (positive : 0 < limit) (bounded : get value < 2 ^ bits) :
    (uint bits name get set named).Within limit value := by
  refine ⟨bounded, ?_⟩
  have written : marshal ((uint bits name get set named).toJson value) =
      formatUint (get value) := by
    simp only [uint, marshal]
  rw [written]
  exact (length_formatUint_le_iff positive).mpr
    (Nat.lt_of_lt_of_le bounded room)

theorem within_uintPointer
    {bits : Nat} {named : Tag S name} {get : S → Option Nat}
    {set : S → Option Nat → S}
    (room : 2 ^ bits ≤ 10 ^ limit) (positive : 4 ≤ limit)
    (bounded : ∀ amount, get value = some amount → amount < 2 ^ bits) :
    (uintPointer bits name get set named).Within limit value := by
  refine ⟨bounded, ?_⟩
  cases found : get value with
  | none =>
      have written :
          marshal ((uintPointer bits name get set named).toJson value) =
            ascii "null" := by
        simp only [uintPointer, found, marshal]
      rw [written]
      exact positive
  | some amount =>
      have written :
          marshal ((uintPointer bits name get set named).toJson value) =
            formatUint amount := by
        simp only [uintPointer, found, marshal]
      rw [written]
      exact (length_formatUint_le_iff (by omega)).mpr
        (Nat.lt_of_lt_of_le (bounded amount found) room)

end Field

/-- The fold of `appendFoldedName`: ASCII letters are raised, and the two other
runes that fold to ASCII, the Kelvin sign and the long s, become letters. -/
def foldFrom (skip : Nat) : Bytes → Bytes
  | [] => []
  | byte :: rest =>
      match skip with
      | skip + 1 => foldFrom skip rest
      | 0 =>
          if charByte 'a' ≤ byte ∧ byte ≤ charByte 'z' then
            (byte - 32) :: foldFrom 0 rest
          else if byte :: rest.take 2 = [0xE2, 0x84, 0xAA] then
            charByte 'K' :: foldFrom 2 rest
          else if byte :: rest.take 1 = [0xC5, 0xBF] then
            charByte 'S' :: foldFrom 1 rest
          else byte :: foldFrom 0 rest

variable {S : Type}

/-- The field a member name selects. -/
def lookup (fields : List (Field S)) (name : Bytes) : Option (Field S) :=
  match fields.find? (fun field => field.name == name) with
  | some field => some field
  | none =>
      fields.find? (fun field => foldFrom 0 field.name == foldFrom 0 name)

/-- Assigns the members one after the other; `strict` rejects unknown ones. -/
def assignMembers (fields : List (Field S)) (strict : Bool) :
    S → List (Bytes × Json) → Option S
  | value, [] => some value
  | value, (name, item) :: members =>
      match lookup fields name with
      | none => if strict then none else assignMembers fields strict value members
      | some field =>
          match field.assign value item with
          | none => none
          | some value => assignMembers fields strict value members

/-- Decodes a value into a struct that held `zero`. -/
def decode (fields : List (Field S)) (strict : Bool) (zero : S) :
    Json → Option S
  | .null => some zero
  | .object members => assignMembers fields strict zero members
  | _ => none

/-- The object a struct is written as. -/
def toObject (fields : List (Field S)) (value : S) : Json :=
  .object (fields.map fun field => (field.name, field.toJson value))

/-- `json.Marshal` of a struct. -/
def marshalStruct (fields : List (Field S)) (value : S) : Bytes :=
  marshal (toObject fields value)

/-- `json.Unmarshal`, or a decoder that must reach the end of the text. -/
def unmarshal (fields : List (Field S)) (strict : Bool) (zero : S)
    (text : Bytes) : Option S :=
  (parse text).bind (decode fields strict zero)

/-- The fields have distinct names and together make up the struct. -/
structure Complete (fields : List (Field S)) (zero : S) : Prop where
  distinct : (fields.map Field.name).Nodup
  covers : ∀ value,
    fields.foldl (fun old field => field.copy old value) zero = value

/-- Among items with distinct names, a name finds its item. -/
theorem find?_of_mem
    {α : Type} {name : α → Bytes} {items : List α}
    (distinct : (items.map name).Nodup) {item : α} (member : item ∈ items) :
    items.find? (fun other => name other == name item) = some item := by
  induction items with
  | nil => simp at member
  | cons head tail induction =>
      rw [List.map_cons, List.nodup_cons] at distinct
      rcases List.mem_cons.mp member with rfl | later
      · simp
      · have different : name head ≠ name item := by
          intro same
          exact distinct.1 (same ▸ List.mem_map_of_mem later)
        rw [List.find?_cons_of_neg (by simpa using different)]
        exact induction distinct.2 later

variable {field : Field S} {fields : List (Field S)} {value : S}

theorem lookup_of_mem
    (distinct : (fields.map Field.name).Nodup)
    (member : field ∈ fields) :
    lookup fields field.name = some field := by
  simp only [lookup, find?_of_mem distinct member]

theorem assignMembers_map
    (distinct : (fields.map Field.name).Nodup)
    (strict : Bool) {order : List (Field S)}
    (known : ∀ field ∈ order, field ∈ fields) (old new : S)
    (fits : ∀ field ∈ order, field.Fits new) :
    assignMembers fields strict old
        (order.map fun field => (field.name, field.toJson new)) =
      some (order.foldl (fun old field => field.copy old new) old) := by
  induction order generalizing old with
  | nil => rfl
  | cons field order induction =>
      have stored := field.assign_toJson old new (fits field (by simp))
      simp only [List.map_cons, assignMembers,
        lookup_of_mem distinct (known field (by simp)), stored,
        List.foldl_cons]
      exact induction
        (fun other member => known other (List.mem_cons_of_mem _ member))
        (field.copy old new)
        (fun other member => fits other (List.mem_cons_of_mem _ member))

/-- A struct whose values are plain and in range is written canonically. -/
theorem canonical_toObject
    (fits : ∀ field ∈ fields, field.Fits value) (depth : Nat) :
    Canonical (depth + 1) (toObject fields value) := by
  refine .object ?_ ?_
  · intro member found
    obtain ⟨field, -, rfl⟩ := List.mem_map.mp found
    exact field.plain
  · intro member found
    obtain ⟨field, known, rfl⟩ := List.mem_map.mp found
    exact field.canonical depth value (fits field known)

theorem parse_marshalStruct
    (fits : ∀ field ∈ fields, field.Fits value) :
    parse (marshalStruct fields value) = some (toObject fields value) :=
  parse_marshal (canonical_toObject fits 9999)

theorem unmarshal_marshalStruct
    {zero : S}
    (complete : Complete fields zero) (strict : Bool)
    (fits : ∀ field ∈ fields, field.Fits value) :
    unmarshal fields strict zero (marshalStruct fields value) = some value := by
  rw [unmarshal, parse_marshalStruct fits, Option.bind_some, toObject, decode,
    assignMembers_map complete.distinct strict (fun field member => member)
      zero value fits, complete.covers value]

private theorem uniqueNamesMembers_of_scalar
    {members : List (Bytes × Json)}
    (scalar : ∀ member ∈ members, uniqueNames member.2 = true) :
    uniqueNamesMembers members = true := by
  induction members with
  | nil => rfl
  | cons member members induction =>
      rw [uniqueNamesMembers, scalar member (by simp), Bool.true_and]
      exact induction
        (fun other found => scalar other (List.mem_cons_of_mem _ found))

theorem uniqueNames_toObject
    (distinct : (fields.map Field.name).Nodup)
    (value : S) :
    uniqueNames (toObject fields value) = true := by
  have names : (fields.map fun field =>
      (field.name, field.toJson value)).map Prod.fst =
        fields.map Field.name := by
    simp
  rw [toObject, uniqueNames, names, distinctNames_iff.mpr distinct,
    Bool.true_and]
  apply uniqueNamesMembers_of_scalar
  intro member found
  obtain ⟨field, -, rfl⟩ := List.mem_map.mp found
  exact field.scalar value

private theorem length_marshalMembers_le
    {nameLimit itemLimit : Nat}
    (names : ∀ field ∈ fields, field.name.length ≤ nameLimit)
    (items : ∀ field ∈ fields,
      (marshal (field.toJson value)).length ≤ itemLimit) :
    (marshalMembers (fields.map fun field =>
      (field.name, field.toJson value))).length ≤
        fields.length * (nameLimit + itemLimit + 4) := by
  induction fields with
  | nil => simp [marshalMembers]
  | cons field fields induction =>
      have tail := induction
        (fun other member => names other (List.mem_cons_of_mem _ member))
        (fun other member => items other (List.mem_cons_of_mem _ member))
      have name := names field (by simp)
      have item := items field (by simp)
      simp only [List.map_cons, marshalMembers, List.length_append,
        List.length_cons, quote_plain field.plain, List.length_nil,
        Nat.succ_mul]
      split
      · rw [List.length_nil]
        omega
      · rw [List.length_cons]
        omega

theorem length_marshalStruct_le
    {nameLimit itemLimit : Nat}
    (names : ∀ field ∈ fields, field.name.length ≤ nameLimit)
    (items : ∀ field ∈ fields,
      (marshal (field.toJson value)).length ≤ itemLimit) :
    (marshalStruct fields value).length ≤
      2 + fields.length * (nameLimit + itemLimit + 4) := by
  have inner := length_marshalMembers_le names items
  simp only [marshalStruct, toObject, marshal, List.length_append,
    List.length_cons, List.length_nil]
  omega

private theorem length_le_marshalMembers
    (member : field ∈ fields) :
    (marshal (field.toJson value)).length ≤
      (marshalMembers (fields.map fun field =>
        (field.name, field.toJson value))).length := by
  induction fields with
  | nil => cases member
  | cons head fields induction =>
      rw [List.map_cons, marshalMembers]
      simp only [List.length_append, List.length_cons]
      rcases List.mem_cons.mp member with rfl | later
      · omega
      · have tail := induction later
        have inhabited : (fields.map fun field =>
            (field.name, field.toJson value)).isEmpty = false := by
          simpa using List.ne_nil_of_mem later
        rw [inhabited, if_neg (by simp), List.length_cons]
        omega

/-- A field is not longer than the struct. -/
theorem length_le_marshalStruct
    (member : field ∈ fields) :
    (marshal (field.toJson value)).length ≤
      (marshalStruct fields value).length := by
  have inner : (marshal (field.toJson value)).length ≤ _ :=
    length_le_marshalMembers member
  simp only [marshalStruct, toObject, marshal, List.length_append,
    List.length_cons, List.length_nil]
  omega

end GoLib.Json
