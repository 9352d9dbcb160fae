import Mathlib.Data.Nat.Bitwise

/-!
# Arithmetic in machine words

Frequencies and durations are computed in words of 64 bits.  As long as no word runs over, each is the
number it stands for.

- `toNat_add_of_lt`, `toNat_mul_of_lt`: sums and products that fit.
- `toNat_mul_toUInt64`: factors of 32 bits, whose product always fits.
- `toNat_and_mask`, `toNat_field_add`, `and_bit_ne_zero`: fields and flags of a register.
-/

namespace BoardSupport

theorem toNat_add_of_lt {a b : UInt64} (h : a.toNat + b.toNat < 2 ^ 64) :
    (a + b).toNat = a.toNat + b.toNat := by
  rw [UInt64.toNat_add]
  exact Nat.mod_eq_of_lt h

theorem toNat_mul_of_lt {a b : UInt64} (h : a.toNat * b.toNat < 2 ^ 64) :
    (a * b).toNat = a.toNat * b.toNat := by
  rw [UInt64.toNat_mul]
  exact Nat.mod_eq_of_lt h

theorem toNat_mul_toUInt64 (a b : UInt32) :
    (a.toUInt64 * b.toUInt64).toNat = a.toNat * b.toNat := by
  have ha : a.toNat ≤ 4294967295 := Nat.le_of_lt_succ a.toNat_lt
  have hb : b.toNat ≤ 4294967295 := Nat.le_of_lt_succ b.toNat_lt
  have hproduct : a.toNat * b.toNat ≤ 4294967295 * 4294967295 := Nat.mul_le_mul ha hb
  have hfits : a.toUInt64.toNat * b.toUInt64.toNat < 2 ^ 64 := by
    rw [UInt32.toNat_toUInt64, UInt32.toNat_toUInt64]
    omega
  rw [toNat_mul_of_lt hfits, UInt32.toNat_toUInt64, UInt32.toNat_toUInt64]

/-- The low bits of a register are a remainder. -/
theorem toNat_and_mask {x mask : UInt16} {i : ℕ} (hmask : mask.toNat = 2 ^ i - 1) :
    (x &&& mask).toNat = x.toNat % 2 ^ i := by
  rw [UInt16.toNat_and, hmask, Nat.and_two_pow_sub_one_eq_mod]

theorem toNat_field_add {x mask : UInt16} {n : UInt64} {i : ℕ} (hmask : mask.toNat = 2 ^ i - 1)
    (hn : n.toNat < 2 ^ 32) :
    ((x &&& mask).toUInt64 + n).toNat = x.toNat % 2 ^ i + n.toNat := by
  have hfield := (x &&& mask).toNat_lt
  have hfits : (x &&& mask).toUInt64.toNat + n.toNat < 2 ^ 64 := by
    rw [UInt16.toNat_toUInt64]
    omega
  rw [toNat_add_of_lt hfits, UInt16.toNat_toUInt64, toNat_and_mask hmask]

theorem and_bit_ne_zero {x bit : UInt16} {i : ℕ} (hbit : bit.toNat = 2 ^ i) :
    (x &&& bit != 0) = x.toNat.testBit i := by
  rw [Bool.eq_iff_iff, bne_iff_ne, ne_eq, ← UInt16.toNat_inj, UInt16.toNat_and, hbit,
    Nat.and_two_pow]
  cases x.toNat.testBit i <;> simp

end BoardSupport
