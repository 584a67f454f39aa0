import SentinelFlow.GoLib.Bytes

/-!
# Lines with their length in front

A value is written as its length in decimal, a colon, its bytes and a line
feed.  A list of values, of any number and with any bytes in them, is read back
from its lines in one way only.
-/

namespace GoLib

def writeLine (value : Bytes) : Bytes :=
  formatUint value.length ++ 58 :: (value ++ [10])

def writeLines (values : List Bytes) : Bytes :=
  values.flatMap writeLine

theorem writeLine_append_inj
    {left right leftRest rightRest : Bytes}
    (same : writeLine left ++ leftRest = writeLine right ++ rightRest) :
    left = right ∧ leftRest = rightRest := by
  have clean : ∀ value : Nat, (58 : UInt8) ∉ formatUint value := by
    intro value member
    have digit := isDigit_of_mem_formatUint member
    revert digit
    decide
  simp only [writeLine, List.append_assoc, List.cons_append] at same
  obtain ⟨sizes, values⟩ := append_separator_inj (clean _) (clean _) same
  obtain ⟨equal, rests⟩ := List.append_inj values (formatUint_injective sizes)
  exact ⟨equal, (List.cons.inj rests).2⟩

theorem writeLines_injective : Function.Injective writeLines := by
  have nonempty : ∀ value rest, writeLine value ++ rest ≠ [] := by
    intro value rest empty
    simp [writeLine] at empty
  intro left
  induction left with
  | nil =>
      intro right same
      cases right with
      | nil => rfl
      | cons value => exact absurd same.symm (nonempty value _)
  | cons first others ih =>
      intro right same
      cases right with
      | nil => exact absurd same (nonempty first _)
      | cons =>
          obtain ⟨equal, rests⟩ := writeLine_append_inj same
          rw [equal, ih rests]

end GoLib
