import SentinelFlow.GoLib.Bytes

/-!
# Anchored regular expressions over bytes

The fragment of package `regexp` that appears between `^` and `$`: literals,
bracket classes with a counted repetition, concatenation, alternation and
capturing groups.  `run` lists every way to match a prefix in Go's leftmost-first
order; `Matches` is the language with its captures.  A trailing `$` without the
multi-line flag matches only at the end of the text.
-/

namespace GoLib

inductive Regexp where
  | literal (text : Bytes)
  | bracket (member : UInt8 → Bool) (least most : Nat)
  | seq (first second : Regexp)
  | alt (first second : Regexp)
  | group (inner : Regexp)

namespace Regexp

/-- Remainders after a greedy class repetition, longest match first. -/
def classRuns (member : UInt8 → Bool) : Nat → Nat → Bytes → List Bytes
  | least, _, [] => if least = 0 then [[]] else []
  | least, 0, byte :: rest => if least = 0 then [byte :: rest] else []
  | least, most + 1, byte :: rest =>
      (if member byte then classRuns member (least - 1) most rest else []) ++
        (if least = 0 then [byte :: rest] else [])

/-- Captures and remainders of every prefix match, in priority order. -/
def run : Regexp → Bytes → List (List Bytes × Bytes)
  | literal text, input =>
      if text.isPrefixOf input then [([], input.drop text.length)] else []
  | .bracket member least most, input =>
      (classRuns member least most input).map fun rest => ([], rest)
  | seq first second, input =>
      (first.run input).flatMap fun found =>
        (second.run found.2).map fun next => (found.1 ++ next.1, next.2)
  | alt first second, input => first.run input ++ second.run input
  | group inner, input =>
      (inner.run input).map fun found =>
        (input.take (input.length - found.2.length) :: found.1, found.2)

/-- `FindSubmatch` of `^pattern$`, without the leading whole match. -/
def findSubmatch (pattern : Regexp) (input : Bytes) : Option (List Bytes) :=
  ((pattern.run input).find? fun found => found.2.isEmpty).map Prod.fst

/-- `MatchString` of `^pattern$`. -/
def matchString (pattern : Regexp) (input : Bytes) : Bool :=
  (pattern.findSubmatch input).isSome

/-- The words of a pattern together with the captures of each. -/
def Matches : Regexp → Bytes → List Bytes → Prop
  | literal text, word, captures => word = text ∧ captures = []
  | .bracket member least most, word, captures =>
      least ≤ word.length ∧ word.length ≤ most ∧
        (∀ byte, byte ∈ word → member byte = true) ∧ captures = []
  | seq first second, word, captures =>
      ∃ left right leftCaptures rightCaptures,
        word = left ++ right ∧ captures = leftCaptures ++ rightCaptures ∧
          first.Matches left leftCaptures ∧ second.Matches right rightCaptures
  | alt first second, word, captures =>
      first.Matches word captures ∨ second.Matches word captures
  | group inner, word, captures =>
      ∃ innerCaptures, captures = word :: innerCaptures ∧
        inner.Matches word innerCaptures

/-- The bytes that can occur in a word of the pattern. -/
def letter : Regexp → UInt8 → Bool
  | literal text, byte => text.contains byte
  | .bracket member _ _, byte => member byte
  | seq first second, byte => first.letter byte || second.letter byte
  | alt first second, byte => first.letter byte || second.letter byte
  | group inner, byte => inner.letter byte

/-- An upper bound on the length of a word. -/
def maxLength : Regexp → Nat
  | literal text => text.length
  | .bracket _ _ most => most
  | seq first second => first.maxLength + second.maxLength
  | alt first second => max first.maxLength second.maxLength
  | group inner => inner.maxLength

/-- A lower bound on the length of a word. -/
def minLength : Regexp → Nat
  | literal text => text.length
  | .bracket _ least _ => least
  | seq first second => first.minLength + second.minLength
  | alt first second => min first.minLength second.minLength
  | group inner => inner.minLength

variable {input : Bytes} {captures : List Bytes} {pattern : Regexp}

theorem mem_classRuns_iff
    {member : UInt8 → Bool} {least most : Nat} {rest : Bytes} :
    rest ∈ classRuns member least most input ↔
      ∃ word, input = word ++ rest ∧ least ≤ word.length ∧
        word.length ≤ most ∧ ∀ byte, byte ∈ word → member byte = true := by
  induction input generalizing least most with
  | nil =>
      constructor
      · intro found
        simp only [classRuns] at found
        split at found
        · simp only [List.mem_cons, List.not_mem_nil, or_false] at found
          subst found
          exact ⟨[], by simp; omega⟩
        · simp at found
      · rintro ⟨word, equality, lower, upper, members⟩
        obtain ⟨rfl, rfl⟩ := List.append_eq_nil_iff.mp equality.symm
        have least : least = 0 := Nat.le_zero.mp lower
        simp [classRuns, least]
  | cons byte input induction =>
      have stop : rest ∈ (if least = 0 then [byte :: input] else []) ↔
          least = 0 ∧ rest = byte :: input := by
        split
        · simp [*]
        · simp [*]
      cases most with
      | zero =>
          rw [classRuns, stop]
          constructor
          · rintro ⟨rfl, rfl⟩
            exact ⟨[], by simp⟩
          · rintro ⟨word, equality, lower, upper, members⟩
            have empty : word = [] := List.length_eq_zero_iff.mp (by omega)
            subst word
            exact ⟨Nat.le_zero.mp lower, by simpa using equality.symm⟩
      | succ =>
          rw [classRuns, List.mem_append, stop]
          constructor
          · rintro (longer | ⟨rfl, rfl⟩)
            · split at longer
              · rename_i headMember
                obtain ⟨word, equality, lower, upper, members⟩ :=
                  induction.mp longer
                refine ⟨byte :: word, by simp [equality], ?_, ?_, ?_⟩
                · simp only [List.length_cons]
                  omega
                · simp only [List.length_cons]
                  omega
                · intro other otherMember
                  rcases List.mem_cons.mp otherMember with rfl | otherMember
                  · exact headMember
                  · exact members other otherMember
              · simp at longer
            · exact ⟨[], by simp⟩
          · rintro ⟨word, equality, lower, upper, members⟩
            cases word with
            | nil =>
                right
                exact ⟨Nat.le_zero.mp lower, by simpa using equality.symm⟩
            | cons head word =>
                obtain ⟨rfl, tailEquality⟩ := List.cons.inj equality
                left
                rw [if_pos (members _ (by simp))]
                refine induction.mpr ⟨word, tailEquality, ?_, ?_, ?_⟩
                · simp only [List.length_cons] at lower
                  omega
                · simp only [List.length_cons] at upper
                  omega
                · intro other otherMember
                  exact members other (by simp [otherMember])

/-- The listed prefix matches are exactly those of the language. -/
theorem mem_run_iff
    {rest : Bytes} :
    (captures, rest) ∈ pattern.run input ↔
      ∃ word, input = word ++ rest ∧ pattern.Matches word captures := by
  induction pattern generalizing input rest captures with
  | literal text =>
      simp only [run, Matches]
      constructor
      · intro found
        split at found
        · rename_i isPrefix
          simp only [List.mem_cons, Prod.mk.injEq, List.not_mem_nil,
            or_false] at found
          obtain ⟨rfl, rfl⟩ := found
          obtain ⟨tail, rfl⟩ := List.isPrefixOf_iff_prefix.mp isPrefix
          exact ⟨text, by simp⟩
        · simp at found
      · rintro ⟨word, rfl, rfl, rfl⟩
        have isPrefix : word.isPrefixOf (word ++ rest) = true :=
          List.isPrefixOf_iff_prefix.mpr ⟨rest, rfl⟩
        simp [isPrefix]
  | bracket =>
      simp only [run, Matches, List.mem_map, Prod.mk.injEq]
      constructor
      · rintro ⟨other, found, rfl, rfl⟩
        obtain ⟨word, equality, lower, upper, members⟩ :=
          mem_classRuns_iff.mp found
        exact ⟨word, equality, lower, upper, members, rfl⟩
      · rintro ⟨word, equality, lower, upper, members, rfl⟩
        exact ⟨rest, mem_classRuns_iff.mpr
          ⟨word, equality, lower, upper, members⟩, rfl, rfl⟩
  | seq first second firstInduction secondInduction =>
      simp only [run, Matches, List.mem_flatMap, List.mem_map]
      constructor
      · rintro ⟨⟨leftCaptures, middle⟩, leftFound, ⟨rightCaptures, last⟩,
          rightFound, equality⟩
        obtain ⟨rfl, rfl⟩ := Prod.mk.inj equality
        obtain ⟨left, rfl, leftMatches⟩ := firstInduction.mp leftFound
        obtain ⟨right, rfl, rightMatches⟩ := secondInduction.mp rightFound
        exact ⟨left ++ right, by simp, left, right, leftCaptures,
          rightCaptures, rfl, rfl, leftMatches, rightMatches⟩
      · rintro ⟨word, rfl, left, right, leftCaptures, rightCaptures, rfl, rfl,
          leftMatches, rightMatches⟩
        refine ⟨(leftCaptures, right ++ rest), ?_, (rightCaptures, rest), ?_,
          rfl⟩
        · exact firstInduction.mpr ⟨left, by simp, leftMatches⟩
        · exact secondInduction.mpr ⟨right, rfl, rightMatches⟩
  | alt first second firstInduction secondInduction =>
      simp only [run, Matches, List.mem_append, firstInduction,
        secondInduction]
      constructor
      · rintro (⟨word, equality, matched⟩ | ⟨word, equality, matched⟩)
        · exact ⟨word, equality, Or.inl matched⟩
        · exact ⟨word, equality, Or.inr matched⟩
      · rintro ⟨word, equality, matched | matched⟩
        · exact Or.inl ⟨word, equality, matched⟩
        · exact Or.inr ⟨word, equality, matched⟩
  | group inner induction =>
      simp only [run, Matches, List.mem_map]
      constructor
      · rintro ⟨⟨innerCaptures, last⟩, found, equality⟩
        obtain ⟨rfl, rfl⟩ := Prod.mk.inj equality
        obtain ⟨word, rfl, matched⟩ := induction.mp found
        exact ⟨word, rfl, innerCaptures, by simp, matched⟩
      · rintro ⟨word, rfl, innerCaptures, rfl, matched⟩
        exact ⟨(innerCaptures, rest), induction.mpr ⟨word, rfl, matched⟩,
          by simp⟩

theorem matches_of_findSubmatch
    (found : pattern.findSubmatch input = some captures) :
    pattern.Matches input captures := by
  unfold findSubmatch at found
  obtain ⟨⟨firstCaptures, rest⟩, first, rfl⟩ :=
    Option.map_eq_some_iff.mp found
  have empty : rest = [] := by simpa using List.find?_some first
  obtain ⟨word, rfl, matched⟩ := mem_run_iff.mp (List.mem_of_find?_eq_some first)
  simpa [empty] using matched

theorem exists_findSubmatch
    (matched : pattern.Matches input captures) :
    ∃ first, pattern.findSubmatch input = some first := by
  have listed : (captures, ([] : Bytes)) ∈ pattern.run input :=
    mem_run_iff.mpr ⟨input, by simp, matched⟩
  have exists_found : ((pattern.run input).find?
      fun found => found.2.isEmpty).isSome = true :=
    List.find?_isSome.mpr ⟨_, listed, by simp⟩
  obtain ⟨found, equality⟩ := Option.isSome_iff_exists.mp exists_found
  exact ⟨found.1, by simp [findSubmatch, equality]⟩

theorem matchString_iff :
    pattern.matchString input = true ↔
      ∃ captures, pattern.Matches input captures := by
  unfold matchString
  constructor
  · intro found
    obtain ⟨captures, equality⟩ := Option.isSome_iff_exists.mp found
    exact ⟨captures, matches_of_findSubmatch equality⟩
  · rintro ⟨captures, matched⟩
    obtain ⟨first, equality⟩ := exists_findSubmatch matched
    simp [equality]

/-- When the captures of a word are unique, the reported ones are those of the
language. -/
theorem findSubmatch_eq_some_iff
    (unique : ∀ {left right}, pattern.Matches input left →
      pattern.Matches input right → left = right) :
    pattern.findSubmatch input = some captures ↔
      pattern.Matches input captures := by
  constructor
  · exact matches_of_findSubmatch
  · intro matched
    obtain ⟨first, equality⟩ := exists_findSubmatch matched
    rw [equality, unique (matches_of_findSubmatch equality) matched]

theorem Matches.letter
    {word : Bytes}
    (matched : pattern.Matches word captures) :
    ∀ byte, byte ∈ word → pattern.letter byte = true := by
  induction pattern generalizing word captures with
  | literal =>
      obtain ⟨rfl, _⟩ := matched
      intro byte member
      simpa [Regexp.letter] using member
  | bracket => exact matched.2.2.1
  | seq first second firstInduction secondInduction =>
      obtain ⟨left, right, leftCaptures, rightCaptures, rfl, _, leftMatches,
        rightMatches⟩ := matched
      intro byte member
      simp only [Regexp.letter, Bool.or_eq_true]
      rcases List.mem_append.mp member with member | member
      · exact Or.inl (firstInduction leftMatches byte member)
      · exact Or.inr (secondInduction rightMatches byte member)
  | alt first second firstInduction secondInduction =>
      intro byte member
      simp only [Regexp.letter, Bool.or_eq_true]
      rcases matched with matched | matched
      · exact Or.inl (firstInduction matched byte member)
      · exact Or.inr (secondInduction matched byte member)
  | group inner induction =>
      obtain ⟨innerCaptures, _, innerMatches⟩ := matched
      exact induction innerMatches

theorem Matches.length_le
    {word : Bytes}
    (matched : pattern.Matches word captures) :
    pattern.minLength ≤ word.length ∧ word.length ≤ pattern.maxLength := by
  induction pattern generalizing word captures with
  | literal =>
      obtain ⟨rfl, _⟩ := matched
      exact ⟨Nat.le_refl _, Nat.le_refl _⟩
  | bracket => exact ⟨matched.1, matched.2.1⟩
  | seq first second firstInduction secondInduction =>
      obtain ⟨left, right, leftCaptures, rightCaptures, rfl, _, leftMatches,
        rightMatches⟩ := matched
      have leftBounds := firstInduction leftMatches
      have rightBounds := secondInduction rightMatches
      simp only [minLength, maxLength, List.length_append]
      omega
  | alt first second firstInduction secondInduction =>
      simp only [minLength, maxLength]
      rcases matched with matched | matched
      · have bounds := firstInduction matched
        omega
      · have bounds := secondInduction matched
        omega
  | group inner induction =>
      obtain ⟨innerCaptures, _, innerMatches⟩ := matched
      exact induction innerMatches

theorem letter_of_matchString
    (matched : pattern.matchString input = true) :
    ∀ byte, byte ∈ input → pattern.letter byte = true := by
  obtain ⟨captures, inLanguage⟩ := matchString_iff.mp matched
  exact inLanguage.letter

theorem length_le_of_matchString
    (matched : pattern.matchString input = true) :
    pattern.minLength ≤ input.length ∧ input.length ≤ pattern.maxLength := by
  obtain ⟨captures, inLanguage⟩ := matchString_iff.mp matched
  exact inLanguage.length_le

end Regexp

/-! ## Bracket classes -/

/-- `[0-9]` -/
def digitClass (byte : UInt8) : Bool :=
  48 ≤ byte && byte ≤ 57

/-- `[a-z0-9]` -/
def lowerAlnumClass (byte : UInt8) : Bool :=
  (97 ≤ byte && byte ≤ 122) || (48 ≤ byte && byte ≤ 57)

/-- `[0-9a-f]` -/
def lowerHexClass (byte : UInt8) : Bool :=
  (48 ≤ byte && byte ≤ 57) || (97 ≤ byte && byte ≤ 102)

/-- `[A-Za-z0-9_-]` -/
def base64urlClass (byte : UInt8) : Bool :=
  (65 ≤ byte && byte ≤ 90) || (97 ≤ byte && byte ≤ 122) ||
    (48 ≤ byte && byte ≤ 57) || byte == 95 || byte == 45

end GoLib
