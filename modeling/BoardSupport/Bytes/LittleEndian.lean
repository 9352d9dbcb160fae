/-!
# Little-endian numbers

A number as bytes, the least significant first.
-/

namespace BoardSupport.LittleEndian

/-- The `count` least significant bytes of a number, the lowest first. -/
def bytes : (count : Nat) → (value : Nat) → List UInt8
  | 0, _ => []
  | count + 1, value => value.toUInt8 :: bytes count (value / 256)

/-- The number that bytes stand for. -/
def value : List UInt8 → Nat
  | [] => 0
  | b :: bs => b.toNat + 256 * value bs

@[simp] theorem length_bytes (count v : Nat) : (bytes count v).length = count := by
  induction count generalizing v with
  | zero => rfl
  | succ n ih => simp [bytes, ih]

/-- What is read back is the number modulo the range of so many bytes. -/
theorem value_bytes (count v : Nat) : value (bytes count v) = v % (1 <<< (8 * count)) := by
  induction count generalizing v with
  | zero => simp [bytes, value, Nat.mod_one]
  | succ n ih =>
    have range_succ : 1 <<< (8 * (n + 1)) = 256 * 1 <<< (8 * n) := by
      rw [Nat.mul_succ, Nat.add_comm, Nat.shiftLeft_add, Nat.shiftLeft_eq _ (8 * n),
        Nat.shiftLeft_eq 1 (8 * n), Nat.one_mul]
      rfl
    rw [bytes, value, ih, range_succ, Nat.mod_mul]
    simp [Nat.toUInt8]

/-- Taking some of the bytes is asking for fewer. -/
theorem take_bytes (size count v : Nat) :
    (bytes count v).take size = bytes (min size count) v := by
  induction count generalizing size v with
  | zero => simp [bytes]
  | succ n ih =>
    cases size with
    | zero => simp [bytes]
    | succ size => rw [bytes, List.take_succ_cons, ih, Nat.succ_min_succ, bytes]

end BoardSupport.LittleEndian
