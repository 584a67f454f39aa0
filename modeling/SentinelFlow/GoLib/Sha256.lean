import SentinelFlow.GoLib.Binary
import SentinelFlow.GoLib.Crypto

/-!
# SHA-256

The compression function of FIPS 180-4 on words that are natural numbers below
`2 ^ 32`.  Developments that must evaluate a digest use this function
for `Crypto.sha256`.
-/

namespace GoLib.Sha256

def wordSize : Nat := 4294967296

/-- The exclusive or of three rotations to the right.  The word is written twice
in a row, so that a rotation is a shift. -/
def rotations (word first second third : Nat) : Nat :=
  let twice := word * 4294967297
  ((twice >>> first) ^^^ (twice >>> second) ^^^ (twice >>> third)) % wordSize

/-- The exclusive or of two rotations and a shift. -/
def rotationsShift (word first second shift : Nat) : Nat :=
  let twice := word * 4294967297
  ((twice >>> first) ^^^ (twice >>> second)) % wordSize ^^^ (word >>> shift)

def roundConstants : List Nat :=
  [0x428a2f98, 0x71374491, 0xb5c0fbcf, 0xe9b5dba5, 0x3956c25b, 0x59f111f1,
    0x923f82a4, 0xab1c5ed5, 0xd807aa98, 0x12835b01, 0x243185be, 0x550c7dc3,
    0x72be5d74, 0x80deb1fe, 0x9bdc06a7, 0xc19bf174, 0xe49b69c1, 0xefbe4786,
    0x0fc19dc6, 0x240ca1cc, 0x2de92c6f, 0x4a7484aa, 0x5cb0a9dc, 0x76f988da,
    0x983e5152, 0xa831c66d, 0xb00327c8, 0xbf597fc7, 0xc6e00bf3, 0xd5a79147,
    0x06ca6351, 0x14292967, 0x27b70a85, 0x2e1b2138, 0x4d2c6dfc, 0x53380d13,
    0x650a7354, 0x766a0abb, 0x81c2c92e, 0x92722c85, 0xa2bfe8a1, 0xa81a664b,
    0xc24b8b70, 0xc76c51a3, 0xd192e819, 0xd6990624, 0xf40e3585, 0x106aa070,
    0x19a4c116, 0x1e376c08, 0x2748774c, 0x34b0bcb5, 0x391c0cb3, 0x4ed8aa4a,
    0x5b9cca4f, 0x682e6ff3, 0x748f82ee, 0x78a5636f, 0x84c87814, 0x8cc70208,
    0x90befffa, 0xa4506ceb, 0xbef9a3f7, 0xc67178f2]

structure State where
  (a b c d e f g h : Nat)

def initial : State :=
  ⟨0x6a09e667, 0xbb67ae85, 0x3c6ef372, 0xa54ff53a, 0x510e527f, 0x9b05688c,
    0x1f83d9ab, 0x5be0cd19⟩

def round (state : State) (constant word : Nat) : State :=
  let choice := (state.e &&& state.f) ^^^ ((wordSize - 1 - state.e) &&& state.g)
  let majority :=
    (state.a &&& state.b) ^^^ (state.a &&& state.c) ^^^ (state.b &&& state.c)
  let first := state.h + rotations state.e 6 11 25 + choice + constant + word
  let second := rotations state.a 2 13 22 + majority
  ⟨(first + second) % wordSize, state.a, state.b, state.c,
    (state.d + first) % wordSize, state.e, state.f, state.g⟩

/-- The word that follows the given ones, of which the latest come first. -/
def nextWord (latest : List Nat) : Nat :=
  (latest.getD 15 0 + rotationsShift (latest.getD 14 0) 7 18 3 +
    latest.getD 6 0 + rotationsShift (latest.getD 1 0) 17 19 10) % wordSize

/-- The message schedule, the latest word first. -/
def schedule : Nat → List Nat → List Nat
  | 0, latest => latest
  | count + 1, latest => schedule count (nextWord latest :: latest)

def rounds : List Nat → List Nat → State → State
  | constant :: constants, word :: words, state =>
      rounds constants words (round state constant word)
  | _, _, state => state

def compress (state : State) (block : List Nat) : State :=
  let mixed :=
    rounds roundConstants (schedule 48 block.reverse).reverse state
  ⟨(state.a + mixed.a) % wordSize, (state.b + mixed.b) % wordSize,
    (state.c + mixed.c) % wordSize, (state.d + mixed.d) % wordSize,
    (state.e + mixed.e) % wordSize, (state.f + mixed.f) % wordSize,
    (state.g + mixed.g) % wordSize, (state.h + mixed.h) % wordSize⟩

def words : Bytes → List Nat
  | first :: second :: third :: fourth :: rest =>
      (first.toNat * 16777216 + second.toNat * 65536 + third.toNat * 256 +
        fourth.toNat) :: words rest
  | _ => []

/-- The message, a one bit, zeros and the length in bits. -/
def pad (message : Bytes) : Bytes :=
  message ++ 0x80 :: List.replicate ((119 - message.length % 64) % 64) 0 ++
    BigEndian.put 8 (8 * message.length)

def blocks : Nat → List Nat → State → State
  | 0, _, state => state
  | count + 1, words, state =>
      blocks count (words.drop 16) (compress state (words.take 16))

/-- `sha256.Sum256`. -/
def sum (message : Bytes) : Bytes :=
  let state :=
    blocks ((message.length + 72) / 64) (words (pad message)) initial
  [state.a, state.b, state.c, state.d, state.e, state.f, state.g,
    state.h].flatMap (BigEndian.put 4)

theorem length_sum (message : Bytes) : (sum message).length = 32 := by
  simp [sum]

example : sum (ascii "abc") =
    [186, 120, 22, 191, 143, 1, 207, 234, 65, 65, 64, 222, 93, 174, 34, 35,
      176, 3, 97, 163, 150, 23, 122, 156, 180, 16, 255, 97, 242, 0, 21,
      173] := by
  decide +kernel

/-! ## Evaluation in the kernel

The same function for proofs that evaluate it.  A word is computed before it is
passed on, where the kernel would otherwise substitute the term, and the
operations are those that the kernel has for literals. -/

/-- `next value`; the recursion makes the kernel evaluate the value first. -/
def strictly {α : Type} (value : Nat) (next : Nat → α) : α :=
  Nat.rec (next 0) (fun before _ => next before.succ) value

@[simp] theorem strictly_eq {α : Type} (value : Nat) (next : Nat → α) :
    strictly value next = next value := by
  cases value <;> rfl

def swiftRotations (word first second third : Nat) : Nat :=
  strictly (word.mul 4294967297) fun twice =>
    (((twice.shiftRight first).xor (twice.shiftRight second)).xor
      (twice.shiftRight third)).mod 4294967296

def swiftRotationsShift (word first second shift : Nat) : Nat :=
  strictly (word.mul 4294967297) fun twice =>
    (((twice.shiftRight first).xor (twice.shiftRight second)).mod
      4294967296).xor (word.shiftRight shift)

def swiftNextWord : List Nat → Nat
  | _ :: word1 :: _ :: _ :: _ :: _ :: word6 :: _ :: _ :: _ :: _ :: _ :: _ ::
      _ :: word14 :: word15 :: _ =>
      (((word15.add (swiftRotationsShift word14 7 18 3)).add word6).add
        (swiftRotationsShift word1 17 19 10)).mod 4294967296
  | _ => 0

def swiftSchedule : Nat → List Nat → List Nat
  | 0, latest => latest
  | count + 1, latest =>
      strictly (swiftNextWord latest) fun word =>
        swiftSchedule count (word :: latest)

def swiftRounds : List Nat → List Nat → State → State
  | constant :: constants, word :: words, ⟨a, b, c, d, e, f, g, h⟩ =>
      strictly ((((h.add (swiftRotations e 6 11 25)).add
          ((e.land f).xor ((Nat.sub 4294967295 e).land g))).add constant).add
          word) fun first =>
        strictly ((first.add ((swiftRotations a 2 13 22).add
            (((a.land b).xor (a.land c)).xor (b.land c)))).mod
            4294967296) fun mixed =>
          strictly ((d.add first).mod 4294967296) fun shifted =>
            swiftRounds constants words ⟨mixed, a, b, c, shifted, e, f, g⟩
  | _, _, state => state

def swiftAdd : State → State → State
  | ⟨a, b, c, d, e, f, g, h⟩, ⟨a', b', c', d', e', f', g', h'⟩ =>
      strictly ((a.add a').mod 4294967296) fun a =>
      strictly ((b.add b').mod 4294967296) fun b =>
      strictly ((c.add c').mod 4294967296) fun c =>
      strictly ((d.add d').mod 4294967296) fun d =>
      strictly ((e.add e').mod 4294967296) fun e =>
      strictly ((f.add f').mod 4294967296) fun f =>
      strictly ((g.add g').mod 4294967296) fun g =>
      strictly ((h.add h').mod 4294967296) fun h =>
        ⟨a, b, c, d, e, f, g, h⟩

/-- The next words of the message, the latest first, and what is left. -/
def swiftTake {α : Type} :
    Nat → Bytes → List Nat → (Bytes → List Nat → α) → α
  | count + 1, first :: second :: third :: fourth :: rest, latest, next =>
      strictly ((((first.toNat.mul 16777216).add
          (second.toNat.mul 65536)).add (third.toNat.mul 256)).add
          fourth.toNat) fun word =>
        swiftTake count rest (word :: latest) next
  | _, rest, latest, next => next rest latest

def swiftBlocks : Nat → Bytes → State → State
  | 0, _, state => state
  | count + 1, message, state =>
      swiftTake 16 message [] fun rest latest =>
        swiftBlocks count rest (swiftAdd state
          (swiftRounds roundConstants (swiftSchedule 48 latest).reverse state))

def swiftSum (message : Bytes) : Bytes :=
  let state :=
    swiftBlocks ((message.length + 72) / 64) (pad message) initial
  [state.a, state.b, state.c, state.d, state.e, state.f, state.g,
    state.h].flatMap (BigEndian.put 4)

private theorem mod_apply (first second : Nat) :
    first.mod second = first % second := rfl

private theorem xor_apply (first second : Nat) :
    first.xor second = first ^^^ second := rfl

private theorem land_apply (first second : Nat) :
    first.land second = first &&& second := rfl

theorem swiftRotations_eq (word first second third : Nat) :
    swiftRotations word first second third =
      rotations word first second third := by
  rw [swiftRotations, strictly_eq]
  rfl

theorem swiftRotationsShift_eq (word first second shift : Nat) :
    swiftRotationsShift word first second shift =
      rotationsShift word first second shift := by
  rw [swiftRotationsShift, strictly_eq]
  rfl

theorem swiftNextWord_eq {latest : List Nat} (long : 16 ≤ latest.length) :
    swiftNextWord latest = nextWord latest := by
  unfold swiftNextWord
  split
  · rw [swiftRotationsShift_eq, swiftRotationsShift_eq]
    rfl
  next short =>
    exfalso
    iterate 16
      rcases latest with _ | ⟨word, latest⟩
      · simp at long
    exact short _ _ _ _ _ _ _ _ _ _ _ _ _ _ _ _ _ rfl

theorem swiftSchedule_eq
    (count : Nat) {latest : List Nat} (long : 16 ≤ latest.length) :
    swiftSchedule count latest = schedule count latest := by
  induction count generalizing latest with
  | zero => rfl
  | succ count ih =>
      rw [swiftSchedule, strictly_eq, swiftNextWord_eq long, schedule]
      exact ih (Nat.le_succ_of_le long)

theorem swiftRounds_eq (constants words : List Nat) (state : State) :
    swiftRounds constants words state = rounds constants words state := by
  induction constants generalizing words state with
  | nil => rfl
  | cons constant constants ih =>
      cases words with
      | nil => rfl
      | cons =>
          obtain ⟨a, b, c, d, e, f, g, h⟩ := state
          conv_rhs => unfold rounds
          rw [swiftRounds, strictly_eq, strictly_eq, strictly_eq, ih,
            swiftRotations_eq, swiftRotations_eq]
          simp only [round, wordSize, Nat.add_eq, Nat.sub_eq, mod_apply,
            xor_apply, land_apply]

theorem swiftAdd_eq (state : State) (block : List Nat) :
    swiftAdd state (rounds roundConstants (schedule 48 block.reverse).reverse
      state) = compress state block := by
  unfold compress
  generalize rounds roundConstants (schedule 48 block.reverse).reverse state =
    mixed
  obtain ⟨a, b, c, d, e, f, g, h⟩ := state
  obtain ⟨a', b', c', d', e', f', g', h'⟩ := mixed
  simp only [swiftAdd, strictly_eq]
  rfl

theorem swiftTake_eq
    {α : Type} (count : Nat) {message : Bytes} (latest : List Nat)
    (next : Bytes → List Nat → α) (long : 4 * count ≤ message.length) :
    swiftTake count message latest next =
      next (message.drop (4 * count))
        (((words message).take count).reverse ++ latest) := by
  induction count generalizing message latest with
  | zero =>
      unfold swiftTake
      rfl
  | succ count ih =>
      obtain ⟨first, second, third, fourth, rest, rfl⟩ :
          ∃ first second third fourth rest,
            message = first :: second :: third :: fourth :: rest := by
        iterate 4
          rcases message with _ | ⟨byte, message⟩
          · simp only [List.length_cons, List.length_nil] at long
            omega
        exact ⟨_, _, _, _, _, rfl⟩
      have shorter : 4 * count ≤ rest.length := by
        simp only [List.length_cons] at long
        omega
      rw [swiftTake, strictly_eq, ih _ shorter, words, List.take_succ_cons,
        List.reverse_cons, List.append_assoc]
      rfl

theorem words_drop (count : Nat) (message : Bytes) :
    words (message.drop (4 * count)) = (words message).drop count := by
  induction count generalizing message with
  | zero => rfl
  | succ count ih =>
      match message with
      | [] => simp [words]
      | [_] => simp [words, Nat.mul_succ]
      | [_, _] => simp [words, Nat.mul_succ]
      | [_, _, _] => simp [words, Nat.mul_succ]
      | first :: second :: third :: fourth :: rest =>
          rw [words, List.drop_succ_cons, ← ih]
          rfl

theorem length_words (message : Bytes) :
    (words message).length = message.length / 4 := by
  fun_induction words message with
  | case1 first second third fourth rest ih =>
      simp only [List.length_cons, ih]
      omega
  | case2 message short =>
      match message with
      | [] => simp
      | [_] => simp
      | [_, _] => simp
      | [_, _, _] => simp
      | _ :: _ :: _ :: _ :: _ => exact absurd rfl (short _ _ _ _ _)

theorem swiftBlocks_eq
    (count : Nat) {message : Bytes} (state : State)
    (long : 64 * count ≤ message.length) :
    swiftBlocks count message state = blocks count (words message) state := by
  induction count generalizing message state with
  | zero => rfl
  | succ count ih =>
      have block : ((words message).take 16).length = 16 := by
        rw [List.length_take, length_words]
        omega
      have rest : 64 * count ≤ (message.drop (4 * 16)).length := by
        rw [List.length_drop]
        omega
      rw [swiftBlocks, swiftTake_eq 16 [] _ (by omega), List.append_nil,
        swiftSchedule_eq 48 (by rw [List.length_reverse, block]),
        swiftRounds_eq, swiftAdd_eq, ih _ rest, words_drop, blocks]

theorem swiftSum_eq (message : Bytes) : swiftSum message = sum message := by
  unfold swiftSum sum
  rw [swiftBlocks_eq]
  simp only [pad, List.length_append, List.length_cons, List.length_replicate,
    BigEndian.length_put]
  omega

/-- SHA-256 with a signature scheme in which nothing verifies. -/
def hashing : Crypto where
  sha256 := sum
  ed25519Verify _ _ _ := false
  ed25519Sign _ _ := List.replicate 64 0
  length_sha256 := length_sum
  length_ed25519Sign _ _ := List.length_replicate

def swiftHashing : Crypto :=
  { hashing with
    sha256 := swiftSum
    length_sha256 := fun message => by rw [swiftSum_eq, length_sum] }

theorem hashing_eq_swiftHashing : hashing = swiftHashing := by
  have same : sum = swiftSum := funext fun message => (swiftSum_eq message).symm
  unfold swiftHashing hashing
  simp only [same]

end GoLib.Sha256
