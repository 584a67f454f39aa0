import Mathlib.Data.List.Nodup
import SentinelFlow.GoLib.JsonNested

/-!
# Documents up to the order of members

When every object names each member once and in the spelling of its struct, what
a decoder has stored tells which members the object has.  Two documents with the
same members can then only differ in their order.
-/

namespace GoLib.Json

/-- The two values differ at most in the order of members. -/
inductive Reordered : Json → Json → Prop where
  | refl (value : Json) : Reordered value value
  | trans {first second third : Json} :
      Reordered first second → Reordered second third → Reordered first third
  | object {members order : List (Bytes × Json)} :
      members.Perm order → Reordered (.object members) (.object order)
  | member {before after : List (Bytes × Json)} {name : Bytes}
      {value other : Json} : Reordered value other →
      Reordered (.object (before ++ (name, value) :: after))
        (.object (before ++ (name, other) :: after))
  | item {before after : List Json} {value other : Json} :
      Reordered value other →
      Reordered (.array (before ++ value :: after))
        (.array (before ++ other :: after))

def memberCount : Json → Nat
  | .object members => members.length
  | _ => 0

theorem Reordered.memberCount_eq {value other : Json}
    (reordered : Reordered value other) :
    value.memberCount = other.memberCount := by
  induction reordered with
  | refl => rfl
  | trans _ _ first second => exact first.trans second
  | object permuted => exact permuted.length_eq
  | member => simp [memberCount]
  | item => rfl

/-- Members with distinct names are those that are expected, if all of these
occur and no other name does. -/
theorem perm_of_members
    {members expected : List (Bytes × Json)}
    (distinct : (members.map Prod.fst).Nodup)
    (known : ∀ member ∈ members, member.1 ∈ expected.map Prod.fst)
    (once : (expected.map Prod.fst).Nodup)
    (present : ∀ member ∈ expected, member ∈ members) :
    members.Perm expected := by
  refine (List.perm_ext_iff_of_nodup distinct.of_map once.of_map).mpr ?_
  intro member
  refine ⟨?_, present member⟩
  intro held
  obtain ⟨other, listed, same⟩ := List.mem_map.mp (known member held)
  have equal := List.inj_on_of_nodup_map distinct (present other listed) held same
  exact equal ▸ listed

/-! ## Names that are not folded -/

/-- Lower-case ASCII letters and underscores. -/
def lowerName (name : Bytes) : Bool :=
  name.all fun byte =>
    (charByte 'a' ≤ byte && byte ≤ charByte 'z') || byte == charByte '_'

/-- What folding does to a byte of such a name. -/
private def raised (byte : UInt8) : UInt8 :=
  if charByte 'a' ≤ byte ∧ byte ≤ charByte 'z' then byte - 32 else byte

private theorem raised_back : ∀ byte : UInt8,
    ((charByte 'a' ≤ byte ∧ byte ≤ charByte 'z') ∨ byte = charByte '_') →
      (if raised byte = 95 then 95 else raised byte + 32) = byte := by
  decide +kernel

private theorem foldFrom_lower
    {byte : UInt8} {rest : Bytes} (lower : lowerName (byte :: rest) = true) :
    foldFrom 0 (byte :: rest) = raised byte :: foldFrom 0 rest ∧
      (if raised byte = 95 then 95 else raised byte + 32) = byte ∧
      lowerName rest = true := by
  rw [lowerName, List.all_cons, Bool.and_eq_true] at lower
  obtain ⟨here, lower⟩ := lower
  simp only [Bool.or_eq_true, Bool.and_eq_true, decide_eq_true_eq,
    beq_iff_eq] at here
  refine ⟨?_, raised_back byte here, lower⟩
  rw [foldFrom, raised]
  split
  · rfl
  next other =>
    obtain rfl : byte = charByte '_' := here.resolve_left other
    rfl

/-- Folding keeps such names apart. -/
theorem eq_of_foldFrom_eq {first second : Bytes}
    (firstLower : lowerName first = true)
    (secondLower : lowerName second = true)
    (same : foldFrom 0 first = foldFrom 0 second) : first = second := by
  induction first generalizing second with
  | nil =>
      cases second with
      | nil => rfl
      | cons =>
          rw [(foldFrom_lower secondLower).1] at same
          cases same
  | cons byte rest induction =>
      obtain ⟨folded, here, lower⟩ := foldFrom_lower firstLower
      cases second with
      | nil =>
          rw [folded] at same
          cases same
      | cons =>
          obtain ⟨otherFolded, there, otherLower⟩ := foldFrom_lower secondLower
          rw [folded, otherFolded, List.cons.injEq] at same
          rw [← here, ← there, same.1, induction lower otherLower same.2]

section Slots

variable {S T U : Type}

variable {name : Bytes} {slots : List (Slot S)} {get : S → T}

theorem lookupSlot_mem {slot : Slot S}
    (found : lookupSlot slots name = some slot) : slot ∈ slots := by
  unfold lookupSlot at found
  split at found
  next here =>
    cases found
    exact List.mem_of_find?_eq_some here
  · exact List.mem_of_find?_eq_some found

/-- A lower-case name selects the slot of that name. -/
theorem lookupSlot_name {slot : Slot S}
    (slotsLower : ∀ slot ∈ slots, lowerName slot.name = true)
    (lower : lowerName name = true)
    (found : lookupSlot slots name = some slot) : slot.name = name := by
  have member := lookupSlot_mem found
  unfold lookupSlot at found
  split at found
  next here =>
    cases found
    have same := List.find?_some here
    exact beq_iff_eq.mp same
  · have same := List.find?_some found
    exact eq_of_foldFrom_eq (slotsLower slot member) lower (beq_iff_eq.mp same)

/-! ## Where a stored part comes from -/

/-- A member that is read into the part of the struct it is stored in. -/
def Slot.part (name : Bytes) (get : S → T) (set : S → T → S)
    (read : T → Json → Option T) (write : T → Json) : Slot S where
  name := name
  toJson value := write (get value)
  assign old item := (read (get old) item).map (set old)

/-- Storing a member in this slot makes the part what the member is read as. -/
def Slot.Stores (get : S → T) (read : T → Json → Option T) (slot : Slot S) :
    Prop :=
  ∀ value item later, slot.assign value item = some later →
    read (get value) item = some (get later)

/-- Storing a member in this slot leaves the part as it is. -/
def Slot.Leaves (get : S → T) (slot : Slot S) : Prop :=
  ∀ value item later, slot.assign value item = some later →
    get later = get value

theorem Slot.stores_part {set : S → T → S} {read : T → Json → Option T}
    {write : T → Json}
    (lens : ∀ value part, get (set value part) = part) :
    (Slot.part name get set read write).Stores get read := by
  intro value item later stored
  obtain ⟨part, read, rfl⟩ := Option.map_eq_some_iff.mp stored
  rw [read, lens]

theorem Slot.leaves_part {other : S → U} {set : S → U → S}
    {read : U → Json → Option U} {write : U → Json}
    (apart : ∀ value part, get (set value part) = get value) :
    (Slot.part name other set read write).Leaves get := by
  intro value item later stored
  obtain ⟨part, -, rfl⟩ := Option.map_eq_some_iff.mp stored
  exact apart value part

/-- The slot of this name stores the part, and no other slot does. -/
def Part (slots : List (Slot S)) (name : Bytes) (get : S → T)
    (read : T → Json → Option T) : Prop :=
  ∀ slot ∈ slots, slot.name = name ∧ slot.Stores get read ∨
    slot.name ≠ name ∧ slot.Leaves get

/-- A part that one slot alone stores is what it was, or what the one member of
this name is read as. -/
theorem fillSlots_part
    {read : T → Json → Option T}
    (slotsLower : ∀ slot ∈ slots, lowerName slot.name = true)
    (parts : Part slots name get read) {members : List (Bytes × Json)}
    {old final : S}
    (distinct : (members.map Prod.fst).Nodup)
    (lower : ∀ member ∈ members, lowerName member.1 = true)
    (filled : fillSlots slots old members = some final) :
    get final = get old ∨ ∃ item, (name, item) ∈ members ∧
      read (get old) item = some (get final) := by
  induction members generalizing old with
  | nil =>
      cases filled
      exact .inl rfl
  | cons member members induction =>
      obtain ⟨absent, distinct⟩ := List.nodup_cons.mp distinct
      obtain ⟨here, lower⟩ := List.forall_mem_cons.mp lower
      rw [fillSlots] at filled
      split at filled
      · cases filled
      next slot found =>
      split at filled
      · cases filled
      next value stored =>
      have selected := lookupSlot_name slotsLower here found
      rcases parts slot (lookupSlot_mem found) with
        ⟨rfl, stores⟩ | ⟨other, leaves⟩
      · have read := stores _ _ _ stored
        rcases induction distinct lower filled with same | ⟨item, again, -⟩
        · refine .inr ⟨member.2, ?_, same ▸ read⟩
          rw [selected]
          exact List.mem_cons_self
        · rw [← selected] at absent
          exact absurd (List.mem_map_of_mem again) absent
      · rw [← leaves _ _ _ stored]
        rcases induction distinct lower filled with same | ⟨item, held, read⟩
        · exact .inl same
        · exact .inr ⟨item, List.mem_cons_of_mem _ held, read⟩

/-- Every member has the name of a slot. -/
theorem fillSlots_names
    (slotsLower : ∀ slot ∈ slots, lowerName slot.name = true)
    {members : List (Bytes × Json)} {old final : S}
    (lower : ∀ member ∈ members, lowerName member.1 = true)
    (filled : fillSlots slots old members = some final) :
    ∀ member ∈ members, member.1 ∈ slots.map Slot.name := by
  induction members generalizing old with
  | nil => exact nofun
  | cons member members induction =>
      obtain ⟨here, lower⟩ := List.forall_mem_cons.mp lower
      rw [fillSlots] at filled
      split at filled
      · cases filled
      next slot found =>
      split at filled
      · cases filled
      next value stored =>
      refine List.forall_mem_cons.mpr ⟨?_, induction lower filled⟩
      rw [← lookupSlot_name slotsLower here found]
      exact List.mem_map_of_mem (lookupSlot_mem found)

end Slots

end GoLib.Json
