import Mathlib.Data.List.Chain

/-!
# Segments of a list

A list splits into segments if each of its elements either opens a segment or is
linked to the element before it.
-/

namespace GoLib

variable {α : Type} (opens : α → Prop) (links : α → α → Prop)

/-- A first element and others, each linked to the one before. -/
def Segment (segment : List α) : Prop :=
  ∃ first rest, segment = first :: rest ∧ opens first ∧ segment.IsChain links

def Segmented (items : List α) : Prop :=
  ∃ segments : List (List α), segments.flatten = items ∧
    ∀ segment ∈ segments, Segment opens links segment

variable {opens links} {items : List α} {item : α}

theorem Segmented.nil : Segmented opens links ([] : List α) :=
  ⟨[], rfl, nofun⟩

theorem Segmented.opening
    (segmented : Segmented opens links items) (first : opens item) :
    Segmented opens links (items ++ [item]) := by
  obtain ⟨segments, all, each⟩ := segmented
  refine ⟨segments ++ [[item]], by simp [all], ?_⟩
  intro segment member
  rcases List.mem_append.mp member with old | new
  · exact each segment old
  · rw [List.mem_singleton.mp new]
    exact ⟨item, [], rfl, first, .singleton item⟩

theorem Segmented.linking
    (segmented : Segmented opens links items) {last : α}
    (ends : items.getLast? = some last) (linked : links last item) :
    Segmented opens links (items ++ [item]) := by
  obtain ⟨segments, all, each⟩ := segmented
  rcases List.eq_nil_or_concat segments with rfl | ⟨before, current, rfl⟩
  · cases all
    cases ends
  -- The last segment grows; the others stay as they are.
  obtain ⟨first, rest, shape, opened, chain⟩ :=
    each current (by simp)
  have same : current.getLast? = some last := by
    rw [← all, List.concat_eq_append, List.flatten_append,
      List.flatten_singleton, List.getLast?_append_of_ne_nil] at ends
    · exact ends
    · simp [shape]
  refine ⟨before ++ [current ++ [item]], ?_, ?_⟩
  · rw [← all]
    simp
  · intro segment member
    rcases List.mem_append.mp member with old | new
    · exact each segment (by simp [old])
    · rw [List.mem_singleton.mp new]
      refine ⟨first, rest ++ [item], by rw [shape]; rfl, opened,
        chain.append (.singleton item) ?_⟩
      rintro other here next ⟨⟩
      rw [same] at here
      cases here
      exact linked

end GoLib
