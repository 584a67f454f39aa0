import Mathlib.Data.List.Infix

/-!
# Matching a pattern in two spellings of a text

Two texts agree when they differ only in pieces that a pattern cannot touch: a
piece begins with something that is no letter of a pattern, and nothing after
that begins a pattern.  A pattern is then equal to, a prefix of or a suffix of
both texts or of neither.
-/

namespace GoLib

variable {α : Type} (letter opening : α → Prop)

/-- A piece that no pattern overlaps. -/
def Untouched (piece : List α) : Prop :=
  ∃ head tail, piece = head :: tail ∧ ¬ letter head ∧
    ∀ item ∈ tail, ¬ opening item

inductive Agree : List α → List α → Prop
  | nil : Agree [] []
  | keep {left right : List α} (item : α) (rest : Agree left right) :
      Agree (item :: left) (item :: right)
  | replace {before after left right : List α}
      (first : Untouched letter opening before)
      (second : Untouched letter opening after) (rest : Agree left right) :
      Agree (before ++ left) (after ++ right)

variable {letter opening} {pattern left right : List α}

theorem Untouched.eq_nil_of_leads
    {piece : List α} (untouched : Untouched letter opening piece)
    (letters : ∀ item ∈ pattern, letter item) {rest : List α}
    (matched : pattern <+: piece ++ rest) : pattern = [] := by
  obtain ⟨head, tail, rfl, foreign, -⟩ := untouched
  cases pattern with
  | nil => rfl
  | cons first =>
      obtain ⟨rfl, -⟩ := List.cons_prefix_cons.mp matched
      exact absurd (letters first List.mem_cons_self) foreign

theorem Agree.prefix_iff
    (agree : Agree letter opening left right)
    (letters : ∀ item ∈ pattern, letter item) :
    pattern <+: left ↔ pattern <+: right := by
  induction agree generalizing pattern with
  | nil => exact Iff.rfl
  | keep item _ induction =>
      cases pattern with
      | nil => simp
      | cons =>
          rw [List.cons_prefix_cons, List.cons_prefix_cons,
            induction (fun item member =>
              letters item (List.mem_cons_of_mem _ member))]
  | replace first second =>
      constructor
      · intro matched
        rw [first.eq_nil_of_leads letters matched]
        exact List.nil_prefix
      · intro matched
        rw [second.eq_nil_of_leads letters matched]
        exact List.nil_prefix

theorem Agree.eq_iff
    (agree : Agree letter opening left right)
    (letters : ∀ item ∈ pattern, letter item) :
    left = pattern ↔ right = pattern := by
  induction agree generalizing pattern with
  | nil => exact Iff.rfl
  | keep item _ induction =>
      cases pattern with
      | nil => simp
      | cons =>
          rw [List.cons_eq_cons, List.cons_eq_cons,
            induction (fun item member =>
              letters item (List.mem_cons_of_mem _ member))]
  | replace first second =>
      -- A pattern that starts with an untouched piece would be empty.
      have differs {piece rest : List α}
          (untouched : Untouched letter opening piece) : piece ++ rest ≠ pattern := by
        rintro rfl
        have empty := untouched.eq_nil_of_leads letters List.prefix_rfl
        obtain ⟨head, tail, rfl, -, -⟩ := untouched
        cases empty
      exact iff_of_false (differs first) (differs second)

theorem Untouched.suffix_iff
    {piece : List α} (untouched : Untouched letter opening piece)
    (letters : ∀ item ∈ pattern, letter item)
    (opens : ∃ item others, pattern = item :: others ∧ opening item)
    {rest : List α} : pattern <:+ piece ++ rest ↔ pattern <:+ rest := by
  constructor
  · rintro ⟨before, whole⟩
    rcases List.append_eq_append_iff.mp whole with
      ⟨middle, inside, rfl⟩ | ⟨middle, -, rfl⟩
    · obtain ⟨head, tail, rfl, foreign, others⟩ := untouched
      obtain ⟨item, remaining, shape, opened⟩ := opens
      cases middle with
      | nil => exact List.suffix_rfl
      | cons first =>
          obtain rfl : first = item := (List.cons.inj shape).1
          cases before with
          | nil =>
              obtain rfl : head = first := (List.cons.inj inside).1
              exact absurd (letters head List.mem_cons_self) foreign
          | cons _ front =>
              refine absurd opened (others first ?_)
              rw [(List.cons.inj inside).2]
              exact List.mem_append_right front List.mem_cons_self
    · exact List.suffix_append _ _
  · intro matched
    exact matched.trans (List.suffix_append _ _)

theorem Agree.suffix_iff
    (agree : Agree letter opening left right)
    (letters : ∀ item ∈ pattern, letter item)
    (opens : ∃ item others, pattern = item :: others ∧ opening item) :
    pattern <:+ left ↔ pattern <:+ right := by
  induction agree with
  | nil => exact Iff.rfl
  | keep item rest induction =>
      have whole := (Agree.keep item rest).eq_iff letters
      rw [List.suffix_cons_iff, List.suffix_cons_iff, induction,
        @eq_comm _ pattern, @eq_comm _ pattern, whole]
  | replace first second _ induction =>
      rw [first.suffix_iff letters opens, second.suffix_iff letters opens,
        induction]

end GoLib
