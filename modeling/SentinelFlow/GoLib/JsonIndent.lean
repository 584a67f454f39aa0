import SentinelFlow.GoLib.Json

/-!
# Indented text of `encoding/json`

`json.MarshalIndent` puts every item and every member on a line of its own, with
one more unit of indentation for every level.  The reader skips the white space,
so it returns the value that was written.
-/

namespace GoLib.Json

/-- A line break with the indentation of a level. -/
def newline (indent : Bytes) (level : Nat) : Bytes :=
  charByte '\n' :: (List.replicate level indent).flatten

mutual

/-- The text of a value that stands at the level. -/
def indented (indent : Bytes) : Nat → Json → Bytes
  | _, .array [] => ascii "[]"
  | level, .array items =>
      charByte '[' :: indentedItems indent (level + 1) items ++
        newline indent level ++ [charByte ']']
  | _, .object [] => ascii "\x7b\x7d"
  | level, .object members =>
      charByte '\x7b' :: indentedMembers indent (level + 1) members ++
        newline indent level ++ [charByte '\x7d']
  | _, value => marshal value

def indentedItems (indent : Bytes) : Nat → List Json → Bytes
  | _, [] => []
  | level, item :: items =>
      newline indent level ++ indented indent level item ++
        if items.isEmpty then []
        else charByte ',' :: indentedItems indent level items

def indentedMembers (indent : Bytes) : Nat → List (Bytes × Json) → Bytes
  | _, [] => []
  | level, (name, item) :: members =>
      newline indent level ++ quote name ++ charByte ':' :: [charByte ' '] ++
        indented indent level item ++
        if members.isEmpty then []
        else charByte ',' :: indentedMembers indent level members

end

/-- `json.MarshalIndent` with an empty prefix. -/
def marshalIndent (indent : Bytes) (value : Json) : Bytes :=
  indented indent 0 value

section Reading

variable {indent : Bytes}

private theorem indentedItems_eq_join (level : Nat) (items : List Json) :
    indentedItems indent level items =
      joinItems (newline indent level) (items.map (indented indent level)) := by
  induction items with
  | nil => simp only [indentedItems, List.map_nil, joinItems]
  | cons item items induction =>
      simp only [indentedItems, List.map_cons, joinItems, List.isEmpty_map,
        induction]

private theorem indentedMembers_eq_join
    (level : Nat) (members : List (Bytes × Json)) :
    indentedMembers indent level members =
      joinMembers (newline indent level) [charByte ' ']
        (members.map fun member =>
          (member.1, indented indent level member.2)) := by
  induction members with
  | nil => simp only [indentedMembers, List.map_nil, joinMembers]
  | cons member members induction =>
      simp only [indentedMembers, List.map_cons, joinMembers, List.isEmpty_map,
        induction]

private theorem indented_array
    (level : Nat) {items : List Json} (nonempty : items ≠ []) :
    indented indent level (.array items) =
      charByte '[' :: joinItems (newline indent (level + 1))
          (items.map (indented indent (level + 1))) ++
        newline indent level ++ [charByte ']'] := by
  cases items with
  | nil => exact absurd rfl nonempty
  | cons => rw [indented, indentedItems_eq_join]; simp

private theorem indented_object
    (level : Nat) {members : List (Bytes × Json)} (nonempty : members ≠ []) :
    indented indent level (.object members) =
      charByte '\x7b' :: joinMembers (newline indent (level + 1))
          [charByte ' '] (members.map fun member =>
            (member.1, indented indent (level + 1) member.2)) ++
        newline indent level ++ [charByte '\x7d'] := by
  cases members with
  | nil => exact absurd rfl nonempty
  | cons => rw [indented, indentedMembers_eq_join]; simp

/-- The indented text of a value starts as the compact one. -/
private theorem indented_head
    {depth : Nat} {value : Json} (canonical : Canonical depth value)
    (level : Nat) :
    ∃ byte more, indented indent level value = byte :: more ∧
      isSpace byte = false ∧ byte ≠ charByte ']' := by
  have head := canonical.head
  cases canonical with
  | null
  | bool
  | number
  | string => simpa only [indented] using head
  | @array _ items =>
      cases items with
      | nil => exact ⟨_, _, rfl, rfl, by decide⟩
      | cons => exact ⟨_, _, indented_array level (by simp), rfl, by decide⟩
  | @object _ members =>
      cases members with
      | nil => exact ⟨_, _, rfl, rfl, by decide⟩
      | cons => exact ⟨_, _, indented_object level (by simp), rfl, by decide⟩

variable (white : White indent)
include white

theorem white_newline (level : Nat) : White (newline indent level) := by
  intro byte member
  rcases List.mem_cons.mp member with rfl | later
  · decide
  · obtain ⟨unit, repeated, inside⟩ := List.mem_flatten.mp later
    rw [List.eq_of_mem_replicate repeated] at inside
    exact white byte inside

theorem Canonical.reads_indented
    {depth : Nat} {value : Json} (canonical : Canonical depth value)
    (level : Nat) :
    ReadsAs depth (indented indent level value) value := by
  have space : White [charByte ' '] := by
    intro byte member
    rw [List.mem_singleton.mp member]
    decide
  induction canonical generalizing level with
  | null depth =>
      simp only [indented]
      exact (Canonical.null depth).reads
  | bool depth value =>
      simp only [indented]
      exact (Canonical.bool depth value).reads
  | number depth value =>
      simp only [indented]
      exact (Canonical.number depth value).reads
  | string depth plain =>
      simp only [indented]
      exact (Canonical.string depth plain).reads
  | @array depth items canonical induction =>
      cases items with
      | nil => exact (Canonical.array canonical).reads
      | cons item =>
          rw [indented_array level (by simp)]
          exact readsAs_array (white_newline white _) (white_newline white _)
            (fun item listed => indented_head (canonical item listed) _)
            (fun item listed => induction item listed _)
  | @object depth members names canonical induction =>
      cases members with
      | nil => exact (Canonical.object names canonical).reads
      | cons member =>
          rw [indented_object level (by simp)]
          exact readsAs_object (white_newline white _) space
            (white_newline white _) names
            (fun member listed => induction member listed _)

/-- White space may follow the indented text. -/
theorem parse_marshalIndent
    {value : Json} (canonical : Canonical maxNestingDepth value)
    {tail : Bytes} (after : White tail) :
    parse (marshalIndent indent value ++ tail) = some value := by
  have ends : endsNumber tail = true := by
    cases tail with
    | nil => rfl
    | cons byte =>
        have spaced := after byte List.mem_cons_self
        simp only [isSpace, Bool.or_eq_true, beq_iff_eq] at spaced
        rcases spaced with ((rfl | rfl) | rfl) | rfl <;> rfl
  have read := canonical.reads_indented white 0
    ((marshalIndent indent value ++ tail).length + 1) tail
    (by rw [List.length_append]; unfold marshalIndent; omega) ends
  have skipped : skipSpace tail = [] := by
    rw [← List.append_nil tail, skipSpace_append after]
    rfl
  simp only [parse]
  rw [marshalIndent] at read ⊢
  rw [read]
  simp only [skipped, if_true]

end Reading

end GoLib.Json
