import SentinelFlow.GoLib.JsonStruct

/-!
# Structs and slices inside structs

Signed fields, and members that are structs or slices themselves.  A decoder
stores a member in the value that is there already: a struct keeps the fields
that its object does not name, and an array is stored element by element in the
memory of the slice.  A slice that was made shorter keeps its further elements,
and a later array finds them again.
-/

namespace GoLib.Json

/-- `strconv.FormatInt` in base 10. -/
def intLiteral (value : Int) : Bytes :=
  if value < 0 then charByte '-' :: formatUint value.natAbs
  else formatUint value.toNat

/-- `strconv.ParseInt` in base 10, on the literals of JSON. -/
def parseInt (bits : Nat) : Bytes → Option Int
  | [] => none
  | byte :: rest =>
      if byte = charByte '-' then
        match parseUint bits rest with
        | some amount =>
            if amount ≤ 2 ^ (bits - 1) then some (-amount) else none
        | none => none
      else
        match parseUint bits (byte :: rest) with
        | some amount => if amount < 2 ^ (bits - 1) then some amount else none
        | none => none

theorem intLiteral_natCast (value : Nat) :
    intLiteral value = formatUint value := by
  rw [intLiteral, if_neg (by omega), Int.toNat_natCast]

theorem canonical_intLiteral
    {value : Int} (nonnegative : 0 ≤ value) (depth : Nat) :
    Canonical depth (.number (intLiteral value)) := by
  obtain ⟨amount, rfl⟩ := Int.eq_ofNat_of_zero_le nonnegative
  rw [intLiteral_natCast]
  exact .number depth amount

theorem parseInt_formatUint
    {bits value : Nat} (small : value < 2 ^ (bits - 1)) :
    parseInt bits (formatUint value) = some (value : Int) := by
  have read : parseUint bits (formatUint value) = some value :=
    parseUint_formatUint (Nat.lt_of_lt_of_le small
      (Nat.pow_le_pow_right (by decide) (Nat.sub_le bits 1)))
  cases text : formatUint value with
  | nil => exact absurd text (formatUint_ne_nil value)
  | cons byte =>
      have digit := isDigit_of_mem_formatUint
        (show byte ∈ formatUint value by simp [text])
      have unsigned : byte ≠ charByte '-' := by
        rintro rfl
        exact absurd digit (by decide)
      rw [text] at read
      simp only [parseInt, if_neg unsigned, read, if_pos small]

namespace Field

variable {S : Type}

/-- A field of a signed integer type of the given width. -/
def int (bits : Nat) (name : Bytes) (get : S → Int) (set : S → Int → S)
    (plain : Tag S name := by decide +kernel) : Field S where
  name := name
  toJson value := .number (intLiteral (get value))
  assign old
    | .null => some old
    | .number literal => (parseInt bits literal).map (set old)
    | _ => none
  copy old new := set old (get new)
  Fits value := 0 ≤ get value ∧ get value < 2 ^ (bits - 1)
  assign_toJson old new fits := by
    obtain ⟨amount, same⟩ := Int.eq_ofNat_of_zero_le fits.1
    have small : amount < 2 ^ (bits - 1) := by
      have bounded := fits.2
      rw [same] at bounded
      exact_mod_cast bounded
    rw [same, intLiteral_natCast]
    simp only [parseInt_formatUint small, Option.map_some]
  canonical depth value fits := canonical_intLiteral fits.1 depth
  scalar _ := rfl
  plain := plain

/-- A pointer to a signed integer; `null` is the nil pointer. -/
def intPointer (bits : Nat) (name : Bytes) (get : S → Option Int)
    (set : S → Option Int → S)
    (plain : Tag S name := by decide +kernel) : Field S where
  name := name
  toJson value :=
    match get value with
    | none => .null
    | some amount => .number (intLiteral amount)
  assign old
    | .null => some (set old none)
    | .number literal =>
        (parseInt bits literal).map fun amount => set old (some amount)
    | _ => none
  copy old new := set old (get new)
  Fits value := ∀ amount, get value = some amount →
    0 ≤ amount ∧ amount < 2 ^ (bits - 1)
  assign_toJson old new fits := by
    cases found : get new with
    | none => rfl
    | some value =>
        obtain ⟨nonnegative, bounded⟩ := fits value found
        obtain ⟨amount, rfl⟩ := Int.eq_ofNat_of_zero_le nonnegative
        have small : amount < 2 ^ (bits - 1) := by exact_mod_cast bounded
        simp only [intLiteral_natCast, parseInt_formatUint small,
          Option.map_some]
  canonical depth value fits := by
    cases found : get value with
    | none => exact .null depth
    | some held => exact canonical_intLiteral (fits held found).1 depth
  scalar value := by cases get value <;> rfl
  plain := plain

end Field

/-- Decoding what was written, if every field is stored whatever was there. -/
theorem decode_toObject
    {S : Type} {fields : List (Field S)} {old value : S}
    (distinct : (fields.map Field.name).Nodup)
    (covers : fields.foldl (fun old field => field.copy old value) old = value)
    (strict : Bool) (fits : ∀ field ∈ fields, field.Fits value) :
    decode fields strict old (toObject fields value) = some value := by
  rw [toObject, decode, assignMembers_map distinct strict
    (fun field member => member) old value fits, covers]

/-! ## Members of any kind -/

/-- A tagged field of any kind. -/
structure Slot (S : Type) where
  name : Bytes
  toJson : S → Json
  /-- Stores a member value; `none` is an unmarshal type error. -/
  assign : S → Json → Option S

section Slots

variable {S T : Type}

def Field.slot (field : Field S) : Slot S where
  name := field.name
  toJson := field.toJson
  assign := field.assign

/-- The slot a member name selects. -/
def lookupSlot (slots : List (Slot S)) (name : Bytes) : Option (Slot S) :=
  match slots.find? (fun slot => slot.name == name) with
  | some slot => some slot
  | none => slots.find? (fun slot => foldFrom 0 slot.name == foldFrom 0 name)

/-- Stores the members one after the other; unknown ones are rejected. -/
def fillSlots (slots : List (Slot S)) :
    S → List (Bytes × Json) → Option S
  | value, [] => some value
  | value, (name, item) :: members =>
      match lookupSlot slots name with
      | none => none
      | some slot =>
          match slot.assign value item with
          | none => none
          | some value => fillSlots slots value members

/-- Decodes a value into a struct that held `old`. -/
def decodeSlots (slots : List (Slot S)) (old : S) : Json → Option S
  | .null => some old
  | .object members => fillSlots slots old members
  | _ => none

/-- The object a struct is written as. -/
def slotsObject (slots : List (Slot S)) (value : S) : Json :=
  .object (slots.map fun slot => (slot.name, slot.toJson value))

/-- A struct of plain fields inside a struct. -/
def Slot.struct (name : Bytes) (get : S → T) (set : S → T → S)
    (fields : List (Field T)) : Slot S where
  name := name
  toJson value := toObject fields (get value)
  assign old item := (decode fields true (get old) item).map (set old)

/-- A struct with members of any kind inside a struct. -/
def Slot.nested (name : Bytes) (get : S → T) (set : S → T → S)
    (slots : List (Slot T)) : Slot S where
  name := name
  toJson value := slotsObject slots (get value)
  assign old item := (decodeSlots slots (get old) item).map (set old)

variable {slots : List (Slot S)}

theorem lookupSlot_of_mem
    (distinct : (slots.map Slot.name).Nodup) {slot : Slot S}
    (member : slot ∈ slots) :
    lookupSlot slots slot.name = some slot := by
  simp only [lookupSlot, find?_of_mem distinct member]

theorem fillSlots_map
    (distinct : (slots.map Slot.name).Nodup) {order : List (Slot S)}
    (known : ∀ slot ∈ order, slot ∈ slots)
    (old new : S) :
    fillSlots slots old
        (order.map fun slot => (slot.name, slot.toJson new)) =
      order.foldlM (fun old slot => slot.assign old (slot.toJson new)) old := by
  induction order generalizing old with
  | nil => rfl
  | cons slot order induction =>
      simp only [List.map_cons, fillSlots, List.foldlM_cons,
        lookupSlot_of_mem distinct (known slot (by simp))]
      cases slot.assign old (slot.toJson new) with
      | none => rfl
      | some value =>
          exact induction
            (fun other member => known other (List.mem_cons_of_mem _ member))
            value

/-- The written members are stored in their order. -/
theorem decodeSlots_slotsObject
    (distinct : (slots.map Slot.name).Nodup)
    (old new : S) :
    decodeSlots slots old (slotsObject slots new) =
      slots.foldlM (fun old slot => slot.assign old (slot.toJson new)) old := by
  rw [slotsObject, decodeSlots,
    fillSlots_map distinct (fun slot member => member)]

theorem canonical_slotsObject
    {value : S} {depth : Nat}
    (names : ∀ slot ∈ slots, Plain slot.name)
    (values : ∀ slot ∈ slots, Canonical depth (slot.toJson value)) :
    Canonical (depth + 1) (slotsObject slots value) := by
  refine .object ?_ ?_
  · intro member found
    obtain ⟨slot, known, rfl⟩ := List.mem_map.mp found
    exact names slot known
  · intro member found
    obtain ⟨slot, known, rfl⟩ := List.mem_map.mp found
    exact values slot known

/-! ## Slices -/

/-- The elements that the memory of a slice holds, and how many belong to it. -/
structure Slice (T : Type) where
  memory : List T
  length : Nat

def Slice.nil : Slice T :=
  ⟨[], 0⟩

def Slice.items (slice : Slice T) : List T :=
  slice.memory.take slice.length

/-- A slice without further elements. -/
def Slice.of (items : List T) : Slice T :=
  ⟨items, items.length⟩

/-- Stores each item in the element at its place, or in a zero value. -/
def readElements (read : T → Json → Option T) (zero : T) :
    List T → List Json → Option (List T)
  | memory, [] => some memory
  | memory, item :: items =>
      match read (memory.headD zero) item with
      | none => none
      | some element =>
          (readElements read zero memory.tail items).map (element :: ·)

/-- `null` makes the slice nil, and an empty array makes a new slice. -/
def readSlice (read : T → Json → Option T) (zero : T) (old : Slice T) :
    Json → Option (Slice T)
  | .null => some .nil
  | .array [] => some .nil
  | .array items =>
      (readElements read zero old.memory items).map (⟨·, items.length⟩)
  | _ => none

/-- A slice of structs of plain fields. -/
def Slot.slice (name : Bytes) (get : S → Slice T) (set : S → Slice T → S)
    (fields : List (Field T)) (zero : T) : Slot S where
  name := name
  toJson value := .array ((get value).items.map (toObject fields))
  assign old item :=
    (readSlice (decode fields true) zero (get old) item).map (set old)

/-- Stores a string; `null` leaves the element as it is. -/
def readText (old : Bytes) : Json → Option Bytes
  | .null => some old
  | .string text => some text
  | _ => none

/-- A field of type `[]string`. -/
def Slot.texts (name : Bytes) (get : S → Slice Bytes)
    (set : S → Slice Bytes → S) : Slot S where
  name := name
  toJson value := .array ((get value).items.map .string)
  assign old item := (readSlice readText [] (get old) item).map (set old)

theorem items_of (items : List T) : (Slice.of items).items = items :=
  List.take_length

theorem readElements_nil
    {read : T → Json → Option T} {zero : T} {write : T → Json} {items : List T}
    (inverse : ∀ item ∈ items, read zero (write item) = some item) :
    readElements read zero [] (items.map write) = some items := by
  induction items with
  | nil => rfl
  | cons item items induction =>
      simp only [List.map_cons, readElements, List.headD_nil, List.tail_nil,
        inverse item List.mem_cons_self,
        induction fun other member =>
          inverse other (List.mem_cons_of_mem _ member), Option.map_some]

/-- An array that is read into a new slice. -/
theorem readSlice_nil
    {read : T → Json → Option T} {zero : T} {write : T → Json} {items : List T}
    (inverse : ∀ item ∈ items, read zero (write item) = some item) :
    readSlice read zero .nil (.array (items.map write)) =
      some (.of items) := by
  have elements := readElements_nil inverse
  cases items with
  | nil => rfl
  | cons =>
      rw [List.map_cons] at elements ⊢
      simp only [readSlice, Slice.nil, elements, Option.map_some, Slice.of,
        List.length_cons, List.length_map]

end Slots

end GoLib.Json
