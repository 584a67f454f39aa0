import Mathlib.Algebra.Order.Ring.Nat
import SentinelFlow.GoLib.Json

/-!
# Objects with a fixed set of names

An object whose names are known in advance is written member by member.  The
size of its text is bounded by the sizes of its values, and so is that of an
array by the size of its items.
-/

namespace GoLib.Json

/-- The members of an object, each under an ASCII name. -/
def named (members : List (String × Json)) : List (Bytes × Json) :=
  members.map fun entry => (ascii entry.1, entry.2)

/-- The value of a member of an object without duplicate names. -/
def member (members : List (Bytes × Json)) (name : String) : Option Json :=
  members.lookup (ascii name)

/-- Names that are different as bytes and need no escape. -/
structure Names (names : List String) : Prop where
  nodup : (names.map ascii).Nodup
  plain : ∀ name ∈ names, Plain (ascii name)

variable {members : List (String × Json)} {depth limit : Nat}

theorem Names.distinctNames
    {names : List String} (legible : Names names)
    (labels : members.map Prod.fst = names) :
    distinctNames ((named members).map Prod.fst) = true := by
  subst labels
  have same : (named members).map Prod.fst =
      (members.map Prod.fst).map ascii := by
    simp [named]
  rw [same, distinctNames_iff]
  exact legible.nodup

/-- A value nested at most `depth` deep that is written canonically in at most
`limit` bytes. -/
structure Bounded (depth limit : Nat) (value : Json) : Prop where
  canonical : Canonical depth value
  length_le : (marshal value).length ≤ limit

theorem bounded_string
    (depth : Nat) {text : Bytes} {size : Nat}
    (described : Plain text ∧ text.length ≤ size) (room : size + 2 ≤ limit) :
    Bounded depth limit (.string text) := by
  refine ⟨.string depth described.1, ?_⟩
  have short := described.2
  rw [marshal, quote_plain described.1]
  simp only [List.length_append, List.length_cons, List.length_nil]
  omega

theorem bounded_number
    (depth : Nat) {value : Nat} (positive : 0 < limit)
    (small : value < 10 ^ limit) :
    Bounded depth limit (.number (formatUint value)) := by
  refine ⟨.number depth value, ?_⟩
  rw [marshal]
  exact (length_formatUint_le_iff positive).mpr small

theorem bounded_null (depth : Nat) (room : 4 ≤ limit) :
    Bounded depth limit .null := by
  refine ⟨.null depth, ?_⟩
  rw [marshal]
  exact room

private theorem length_marshalItems_le
    {items : List Json}
    (short : ∀ item ∈ items, (marshal item).length ≤ limit) :
    (marshalItems items).length ≤ items.length * (limit + 1) := by
  induction items with
  | nil => simp [marshalItems]
  | cons item items induction =>
      have rest := induction fun other found =>
        short other (List.mem_cons_of_mem _ found)
      have written := short item (by simp)
      rw [marshalItems, List.length_append, List.length_cons, Nat.succ_mul]
      split
      · simp only [List.length_nil]
        omega
      · simp only [List.length_cons]
        omega

theorem bounded_array
    {items : List Json}
    (bounded : ∀ item ∈ items, Bounded depth limit item) :
    Bounded (depth + 1) (2 + items.length * (limit + 1)) (.array items) := by
  refine ⟨.array fun item found => (bounded item found).canonical, ?_⟩
  have inner := length_marshalItems_le
    fun item found => (bounded item found).length_le
  simp only [marshal, List.length_append, List.length_cons, List.length_nil]
  omega

/-- What the names and the punctuation of an object take. -/
def overhead (names : List String) : Nat :=
  (names.map fun name => (ascii name).length + 4).sum

private theorem length_marshalMembers_named_le
    {limits : List Nat}
    (plain : ∀ name ∈ members.map Prod.fst, Plain (ascii name))
    (bounded : List.Forall₂ (fun entry limit => Bounded depth limit entry.2)
      members limits) :
    (marshalMembers (named members)).length ≤
      overhead (members.map Prod.fst) + limits.sum := by
  induction bounded with
  | nil => simp [named, marshalMembers]
  | cons head tail induction =>
      rename_i entry limit members limits
      have rest := induction fun name found =>
        plain name (List.mem_cons_of_mem _ found)
      have written := head.length_le
      rw [named, List.map_cons, ← named, marshalMembers,
        quote_plain (plain entry.1 (by simp))]
      simp only [List.length_append, List.length_cons, List.length_nil,
        overhead, List.map_cons, List.sum_cons] at rest ⊢
      split
      · simp only [List.length_nil]
        omega
      · simp only [List.length_cons]
        omega

theorem bounded_object
    {names : List String}
    (legible : Names names) (labels : members.map Prod.fst = names)
    {limits : List Nat}
    (bounded : List.Forall₂ (fun entry limit => Bounded depth limit entry.2)
      members limits) :
    Bounded (depth + 1) (2 + overhead names + limits.sum)
      (.object (named members)) := by
  subst labels
  refine ⟨.object ?_ ?_, ?_⟩
  · intro entry found
    obtain ⟨source, known, rfl⟩ := List.mem_map.mp found
    exact legible.plain source.1 (List.mem_map_of_mem known)
  · intro entry found
    obtain ⟨source, known, rfl⟩ := List.mem_map.mp found
    obtain ⟨index, bound, rfl⟩ := List.getElem_of_mem known
    exact ((List.forall₂_iff_get.mp bounded).2 index bound
      (bounded.length_eq ▸ bound)).canonical
  · have inner := length_marshalMembers_named_le legible.plain bounded
    simp only [marshal, List.length_append, List.length_cons, List.length_nil]
    omega

theorem Bounded.weaken
    {larger : Nat} {value : Json} (bounded : Bounded depth limit value)
    (room : limit ≤ larger) : Bounded depth larger value :=
  ⟨bounded.canonical, Nat.le_trans bounded.length_le room⟩

end GoLib.Json
