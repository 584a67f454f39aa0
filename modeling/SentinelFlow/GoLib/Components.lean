import Mathlib.Combinatorics.SimpleGraph.Connectivity.Connected

/-!
# Components of intervals on lines

Items that each occupy a closed interval of one of several lines, and the graph
that joins two items of a line when their intervals meet or leave a gap of at
most a given length.  One pass over the items in the order of their lines and
starts, with the greatest end so far, cuts the list into the components of this
graph.
-/

namespace GoLib

variable {α K : Type}

/-! ## The graph of a relation on a list -/

/-- The members of a list, joined where the relation holds in one direction. -/
def graphOn (edge : α → α → Prop) (members : List α) : SimpleGraph α :=
  SimpleGraph.fromRel fun first second =>
    first ∈ members ∧ second ∈ members ∧ edge first second

/-- Every two members of the list are linked through members. -/
def Connected (edge : α → α → Prop) (members : List α) : Prop :=
  ∀ first ∈ members, ∀ second ∈ members,
    (graphOn edge members).Reachable first second

section Graph

variable {edge other : α → α → Prop} {members items : List α}

theorem graphOn_mono
    (inside : members ⊆ items)
    (kept : ∀ first ∈ members, ∀ second ∈ members, first ≠ second →
      edge first second → other first second) :
    graphOn edge members ≤ graphOn other items := by
  intro first second adjacent
  rw [graphOn, SimpleGraph.fromRel_adj] at adjacent ⊢
  obtain ⟨different, ⟨left, right, joined⟩ | ⟨left, right, joined⟩⟩ := adjacent
  · exact ⟨different, .inl ⟨inside left, inside right,
      kept first left second right different joined⟩⟩
  · exact ⟨different, .inr ⟨inside left, inside right,
      kept second left first right different.symm joined⟩⟩

theorem reachable_of_edge
    {first second : α} (left : first ∈ members) (right : second ∈ members)
    (joined : edge first second) :
    (graphOn edge members).Reachable first second := by
  by_cases same : first = second
  · rw [same]
  · apply SimpleGraph.Adj.reachable
    rw [graphOn, SimpleGraph.fromRel_adj]
    exact ⟨same, .inl ⟨left, right, joined⟩⟩

/-- What is linked to a member of a closed set belongs to the set. -/
theorem mem_of_reachable
    {closed : α → Prop}
    (step : ∀ first ∈ members, ∀ second ∈ members, edge first second →
      (closed first ↔ closed second))
    {first second : α} (inside : closed first)
    (linked : (graphOn edge members).Reachable first second) :
    closed second := by
  rw [SimpleGraph.reachable_iff_reflTransGen] at linked
  induction linked with
  | refl => exact inside
  | tail _ adjacent ih =>
      rw [graphOn, SimpleGraph.fromRel_adj] at adjacent
      rcases adjacent.2 with ⟨left, right, joined⟩ | ⟨left, right, joined⟩
      · exact (step _ left _ right joined).mp ih
      · exact (step _ left _ right joined).mpr ih

theorem connected_singleton (edge : α → α → Prop) (item : α) :
    Connected edge [item] := by
  intro first left second right
  rw [List.mem_singleton.mp left, List.mem_singleton.mp right]

theorem Connected.mono
    (connected : Connected edge members)
    (kept : ∀ first ∈ members, ∀ second ∈ members, first ≠ second →
      edge first second → other first second) :
    Connected other members := by
  intro first left second right
  exact (connected first left second right).mono
    (graphOn_mono (List.Subset.refl _) kept)

theorem Connected.congr
    (connected : Connected edge members)
    (same : ∀ item, item ∈ items ↔ item ∈ members) : Connected edge items := by
  intro first left second right
  refine (connected first ((same first).mp left) second
    ((same second).mp right)).mono (graphOn_mono ?_ fun _ _ _ _ _ held => held)
  exact fun item member => (same item).mpr member

/-- A list stays connected when an item joins one of its members. -/
theorem Connected.insert
    {anchor item : α} (connected : Connected edge members)
    (present : anchor ∈ members) (joined : edge anchor item ∨ edge item anchor)
    (inserted : ∀ other, other ∈ items ↔ other = item ∨ other ∈ members) :
    Connected edge items := by
  have inside : members ⊆ items := fun other member =>
    (inserted other).mpr (.inr member)
  have grown : graphOn edge members ≤ graphOn edge items :=
    graphOn_mono inside fun _ _ _ _ _ joined => joined
  have last : item ∈ items := (inserted item).mpr (.inl rfl)
  have link : (graphOn edge items).Reachable anchor item := by
    rcases joined with joined | joined
    · exact reachable_of_edge (inside present) last joined
    · exact (reachable_of_edge last (inside present) joined).symm
  have toItem : ∀ other ∈ items,
      (graphOn edge items).Reachable other item := by
    intro other member
    rcases (inserted other).mp member with rfl | member
    · exact .rfl
    · exact ((connected other member anchor present).mono grown).trans link
  intro first left second right
  exact (toItem first left).trans (toItem second right).symm

end Graph

/-! ## The pass over the items -/

/-- Where each item lies. -/
structure Placement (α K : Type) where
  line : α → K
  start : α → Int
  stop : α → Int

namespace Placement

/-- On one line, and meeting or at most `gap` apart. -/
def Near (place : Placement α K) (gap : Int) (first second : α) : Prop :=
  place.line first = place.line second ∧
    place.start first ≤ place.stop second + gap ∧
    place.start second ≤ place.stop first + gap

/-- The loop with the current piece, of which `previous` is the last item, and
with the greatest end in it. -/
def sweepFrom [DecidableEq K] (place : Placement α K) (gap : Int) :
    List α → α → Int → List α → List (List α)
  | before, previous, _, [] => [before ++ [previous]]
  | before, previous, reach, item :: rest =>
      if place.line item = place.line previous ∧
          ¬ reach + gap < place.start item then
        sweepFrom place gap (before ++ [previous]) item
          (if reach < place.stop item then place.stop item else reach) rest
      else
        (before ++ [previous]) ::
          sweepFrom place gap [] item (place.stop item) rest

def sweep [DecidableEq K] (place : Placement α K) (gap : Int) :
    List α → List (List α)
  | [] => []
  | item :: rest => sweepFrom place gap [] item (place.stop item) rest

/-- The order that the pass needs. -/
structure Sorted [LinearOrder K] (place : Placement α K) (items : List α) :
    Prop where
  lines : items.Pairwise fun first second =>
    place.line first ≤ place.line second
  starts : items.Pairwise fun first second =>
    place.line first = place.line second →
      place.start first ≤ place.start second
  proper : ∀ item ∈ items, place.start item ≤ place.stop item

/-- A list cut into its components. -/
structure Pieces (place : Placement α K) (gap : Int) (items : List α)
    (pieces : List (List α)) : Prop where
  flatten : pieces.flatten = items
  nonempty : ∀ piece ∈ pieces, piece ≠ []
  connected : ∀ piece ∈ pieces, Connected (place.Near gap) piece
  apart : pieces.Pairwise fun left right =>
    ∀ first ∈ left, ∀ second ∈ right, ¬ place.Near gap first second

theorem Near.symm
    {place : Placement α K} {gap : Int} {first second : α}
    (near : place.Near gap first second) : place.Near gap second first :=
  ⟨near.1.symm, near.2.2, near.2.1⟩

section Sweep

variable [LinearOrder K] {place : Placement α K} {gap : Int}

/-- The greatest end of a piece, with an item that ends there. -/
private def Reaches (place : Placement α K) (piece : List α) (reach : Int) :
    Prop :=
  (∀ item ∈ piece, place.stop item ≤ reach) ∧
    ∃ item ∈ piece, place.stop item = reach

/-- Nothing after a cut is near an item before it. -/
private theorem not_near_of_cut
    {piece rest : List α} {previous item : α} {reach : Int}
    (sorted : place.Sorted (piece ++ item :: rest))
    (sameLine : ∀ other ∈ piece, place.line other = place.line previous)
    (ends : ∀ other ∈ piece, place.stop other ≤ reach)
    (cut : ¬ (place.line item = place.line previous ∧
      ¬ reach + gap < place.start item))
    (last : previous ∈ piece) :
    ∀ first ∈ piece, ∀ second ∈ item :: rest,
      ¬ place.Near gap first second := by
  intro first left second right near
  obtain ⟨-, later, -⟩ := List.pairwise_append.mp sorted.lines
  obtain ⟨-, laterStarts, -⟩ := List.pairwise_append.mp sorted.starts
  have ordered : place.line item ≤ place.line second ∧
      (place.line item = place.line second →
        place.start item ≤ place.start second) := by
    rcases List.mem_cons.mp right with rfl | behind
    · exact ⟨le_rfl, fun _ => le_rfl⟩
    · exact ⟨(List.pairwise_cons.mp later).1 second behind,
        (List.pairwise_cons.mp laterStarts).1 second behind⟩
  have before : place.line previous ≤ place.line item :=
    (List.pairwise_append.mp sorted.lines).2.2 previous last item
      List.mem_cons_self
  have onLine : place.line second = place.line previous :=
    near.1.symm.trans (sameLine first left)
  have sameItem : place.line item = place.line previous :=
    le_antisymm (onLine ▸ ordered.1) before
  have far : reach + gap < place.start item := by
    by_contra close
    exact cut ⟨sameItem, close⟩
  have starts := ordered.2 (sameItem.trans onLine.symm)
  have bounded := ends first left
  have reached := near.2.2
  omega

variable [DecidableEq K]

private theorem sweepFrom_pieces
    (nonneg : 0 ≤ gap) {rest before : List α} {previous : α} {reach : Int}
    (sorted : place.Sorted (before ++ [previous] ++ rest))
    (sameLine : ∀ item ∈ before ++ [previous],
      place.line item = place.line previous)
    (reaches : Reaches place (before ++ [previous]) reach)
    (connected : Connected (place.Near gap) (before ++ [previous])) :
    place.Pieces gap (before ++ [previous] ++ rest)
      (place.sweepFrom gap before previous reach rest) := by
  induction rest generalizing before previous reach with
  | nil =>
      rw [sweepFrom]
      refine ⟨by simp, ?_, ?_, List.pairwise_singleton _ _⟩
      · intro piece member
        rw [List.mem_singleton.mp member]
        simp
      · intro piece member
        rw [List.mem_singleton.mp member]
        exact connected
  | cons item rest ih =>
      rw [sweepFrom]
      by_cases joins : place.line item = place.line previous ∧
          ¬ reach + gap < place.start item
      · rw [if_pos joins]
        obtain ⟨onLine, close⟩ := joins
        obtain ⟨ends, farthest, present, reached⟩ := reaches
        have regrouped : before ++ [previous] ++ item :: rest =
            before ++ [previous] ++ [item] ++ rest := by simp
        rw [regrouped] at sorted ⊢
        have proper : place.start item ≤ place.stop item :=
          sorted.proper item (by simp)
        have ordered : place.start farthest ≤ place.start item := by
          have pairs := (List.pairwise_append.mp
            (List.pairwise_append.mp sorted.starts).1).2.2
          exact pairs farthest present item List.mem_cons_self
            ((sameLine farthest present).trans onLine.symm)
        apply ih sorted
        · intro other member
          rcases List.mem_append.mp member with old | new
          · rw [sameLine other old, onLine]
          · rw [List.mem_singleton.mp new]
        · -- The greatest end is the new one or the one from before.
          constructor
          · intro other member
            rcases List.mem_append.mp member with old | new
            · have bounded := ends other old
              split <;> omega
            · rw [List.mem_singleton.mp new]
              split <;> omega
          · split
            · exact ⟨item, by simp, rfl⟩
            · exact ⟨farthest, List.mem_append_left _ present, reached⟩
        · have near : place.Near gap farthest item :=
            ⟨(sameLine farthest present).trans onLine.symm, by omega, by omega⟩
          apply connected.insert present (.inl near)
          intro other
          simp only [List.mem_append, List.mem_singleton]
          tauto
      · rw [if_neg joins]
        obtain ⟨ends, -⟩ := reaches
        have tail : place.Sorted ([] ++ [item] ++ rest) :=
          ⟨(List.pairwise_append.mp sorted.lines).2.1,
            (List.pairwise_append.mp sorted.starts).2.1,
            fun other member => sorted.proper other
              (List.mem_append_right _ member)⟩
        have pieces : place.Pieces gap ([] ++ [item] ++ rest)
            (place.sweepFrom gap [] item (place.stop item) rest) := by
          apply ih tail
          · simp
          · simp [Reaches]
          · exact connected_singleton _ item
        have cut := not_near_of_cut sorted sameLine ends joins (by simp)
        refine ⟨?_, ?_, ?_, ?_⟩
        · rw [List.flatten_cons, pieces.flatten]
          rfl
        · rw [List.forall_mem_cons]
          exact ⟨by simp, pieces.nonempty⟩
        · rw [List.forall_mem_cons]
          exact ⟨connected, pieces.connected⟩
        · refine List.pairwise_cons.mpr ⟨?_, pieces.apart⟩
          intro piece member first left second right
          apply cut first left second
          have inside : second ∈ [] ++ [item] ++ rest := by
            rw [← pieces.flatten]
            exact List.mem_flatten.mpr ⟨piece, member, right⟩
          exact inside

/-- The pass cuts a sorted list into components. -/
theorem sweep_pieces
    (nonneg : 0 ≤ gap) {items : List α} (sorted : place.Sorted items) :
    place.Pieces gap items (place.sweep gap items) := by
  cases items with
  | nil =>
      exact ⟨rfl, List.forall_mem_nil _, List.forall_mem_nil _,
        List.Pairwise.nil⟩
  | cons item rest =>
      have whole : place.Sorted ([] ++ [item] ++ rest) := sorted
      apply sweepFrom_pieces nonneg whole
      · simp
      · simp [Reaches]
      · exact connected_singleton _ item

end Sweep

section Pieces

variable {place : Placement α K} {gap : Int} {items : List α}
  {pieces : List (List α)}

theorem Pieces.subset
    (cut : place.Pieces gap items pieces) {piece : List α}
    (member : piece ∈ pieces) : piece ⊆ items := by
  intro item inside
  rw [← cut.flatten]
  exact List.mem_flatten.mpr ⟨piece, member, inside⟩

/-- Two near items are in one piece. -/
theorem Pieces.mem_of_near
    (cut : place.Pieces gap items pieces) {piece : List α}
    (member : piece ∈ pieces) {first second : α} (left : first ∈ piece)
    (present : second ∈ items) (near : place.Near gap first second) :
    second ∈ piece := by
  rw [← cut.flatten] at present
  obtain ⟨other, otherMember, right⟩ := List.mem_flatten.mp present
  by_cases same : piece = other
  · rw [same]
    exact right
  · have symmetric : Std.Symm fun left right : List α =>
        ∀ first ∈ left, ∀ second ∈ right, ¬ place.Near gap first second :=
      ⟨fun _ _ apart first left second right near =>
        apart second right first left near.symm⟩
    exact absurd near
      (cut.apart.forall member otherMember same first left second right)

/-- Two items are in one piece exactly where a chain of near items links
them. -/
theorem Pieces.reachable_iff
    (cut : place.Pieces gap items pieces) {first second : α}
    (left : first ∈ items) :
    (graphOn (place.Near gap) items).Reachable first second ↔
      ∃ piece ∈ pieces, first ∈ piece ∧ second ∈ piece := by
  constructor
  · intro linked
    have present := left
    rw [← cut.flatten] at present
    obtain ⟨piece, member, inside⟩ := List.mem_flatten.mp present
    refine ⟨piece, member, inside, ?_⟩
    refine mem_of_reachable ?_ inside linked
    intro one oneMember two twoMember near
    exact ⟨fun held => cut.mem_of_near member held twoMember near,
      fun held => cut.mem_of_near member held oneMember near.symm⟩
  · rintro ⟨piece, member, firstInside, secondInside⟩
    apply (cut.connected piece member first firstInside second
      secondInside).mono
    exact graphOn_mono (cut.subset member) fun _ _ _ _ _ near => near

end Pieces

end Placement

end GoLib
