import SentinelFlow.GoLib.Bytes

/-!
# Big-endian integers

`binary.BigEndian` for a fixed number of bytes.  Writing and reading are inverse
to each other on the integers that fit and on the byte strings of that width.
-/

namespace GoLib.BigEndian

/-- The `width` low-order bytes of a number, most significant first. -/
def put : (width value : Nat) → Bytes
  | 0, _ => []
  | width + 1, value => UInt8.ofNat (value / 256 ^ width) :: put width value

/-- The number a byte string spells. -/
def read : Bytes → Nat
  | [] => 0
  | byte :: rest => byte.toNat * 256 ^ rest.length + read rest

@[simp]
theorem length_put (width value : Nat) : (put width value).length = width := by
  induction width with
  | zero => rfl
  | succ width ih => simp [put, ih]

theorem read_lt (bytes : Bytes) : read bytes < 256 ^ bytes.length := by
  induction bytes with
  | nil => simp [read]
  | cons byte rest =>
      have small := byte.toNat_lt
      have digit : (byte.toNat + 1) * 256 ^ rest.length ≤
          256 * 256 ^ rest.length := Nat.mul_le_mul_right _ (by omega)
      rw [Nat.add_mul] at digit
      rw [List.length_cons, Nat.pow_succ, read]
      omega

theorem read_put (width value : Nat) :
    read (put width value) = value % 256 ^ width := by
  induction width with
  | zero => simp [read, put, Nat.mod_one]
  | succ width ih =>
      have digits : value % 256 ^ (width + 1) =
          value % 256 ^ width + 256 ^ width * (value / 256 ^ width % 256) :=
        Nat.mod_pow_succ
      rw [put, read, ih, length_put, UInt8.toNat_ofNat', digits, Nat.mul_comm,
        Nat.add_comm]

theorem read_put_of_lt
    {width value : Nat} (fits : value < 256 ^ width) :
    read (put width value) = value := by
  rw [read_put, Nat.mod_eq_of_lt fits]

/-- High-order digits do not reach the low-order bytes. -/
theorem put_add_mul (width high low : Nat) :
    put width (high * 256 ^ width + low) = put width low := by
  induction width generalizing high with
  | zero => rfl
  | succ width ih =>
      have split : high * 256 ^ (width + 1) + low =
          high * 256 * 256 ^ width + low := by
        rw [Nat.pow_succ, Nat.mul_comm (256 ^ width), Nat.mul_assoc]
      rw [put, put, split, ih]
      congr 1
      rw [Nat.add_comm, Nat.add_mul_div_right _ _ (Nat.pow_pos (by decide))]
      apply UInt8.toNat_inj.mp
      simp

theorem put_read (bytes : Bytes) : put bytes.length (read bytes) = bytes := by
  induction bytes with
  | nil => rfl
  | cons byte rest ih =>
      have bound := read_lt rest
      have digit : (byte.toNat * 256 ^ rest.length + read rest) /
          256 ^ rest.length = byte.toNat := by
        rw [Nat.add_comm,
          Nat.add_mul_div_right _ _ (Nat.pow_pos (by decide)),
          Nat.div_eq_of_lt bound, Nat.zero_add]
      rw [List.length_cons, put, read, digit, put_add_mul, ih]
      simp

end GoLib.BigEndian
