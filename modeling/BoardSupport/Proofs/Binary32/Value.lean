import BoardSupport.Binary32.Arithmetic
import Mathlib.Algebra.Order.Field.Power
import Mathlib.Algebra.Order.Field.Rat
import Mathlib.Tactic.Ring

/-!
# The values of single precision numbers

What a number with a positive sign stands for is a rational number.  The encoding is monotone: a
magnitude is an exponent's step and a significand, and comparing two numbers compares what they stand
for.

- `Denotes`: the number stands for a rational number.
- `Denotes.le_iff`: comparing two numbers compares their values.
- `denotes_ofMagnitude`: what the magnitude of a significand at an exponent's step stands for.
-/

namespace BoardSupport.Binary32

/-- The number has a positive sign and stands for `q`. -/
def Denotes (x : Binary32) (q : ℚ) : Prop :=
  ∃ (m : ℕ) (e : ℤ), x.view = .finite false m e ∧ (m : ℚ) * 2 ^ e = q

theorem cast_shiftLeft (m : ℕ) {z : ℤ} (h : 0 ≤ z) : ((m <<< z.toNat : ℕ) : ℚ) = m * 2 ^ z := by
  rw [Nat.shiftLeft_eq, Nat.cast_mul, Nat.cast_pow, Nat.cast_ofNat, ← zpow_natCast,
    Int.toNat_of_nonneg h]

/-! ## Comparison -/

/-- At a lower exponent a significand has the same value. -/
theorem cast_aligned (m : ℕ) {e base : ℤ} (h : base ≤ e) :
    ((aligned false m e base : ℤ) : ℚ) * 2 ^ base = m * 2 ^ e := by
  have haligned : ((aligned false m e base : ℤ) : ℚ) = m * 2 ^ (e - base) :=
    cast_shiftLeft m (Int.sub_nonneg_of_le h)
  rw [haligned, mul_assoc, ← zpow_add₀ two_ne_zero, sub_add_cancel]

/-- Numbers that are not negative compare like their values. -/
theorem Denotes.le_iff {x y : Binary32} {p q : ℚ} (hx : Denotes x p) (hy : Denotes y q) :
    x.le y = true ↔ p ≤ q := by
  obtain ⟨m, e, hxview, rfl⟩ := hx
  obtain ⟨n, f, hyview, rfl⟩ := hy
  have hcompare : compare? x y =
      some (compare (aligned false m e (min e f)) (aligned false n f (min e f))) := by
    rw [compare?, hxview, hyview]
  have hle : x.le y = true ↔ aligned false m e (min e f) ≤ aligned false n f (min e f) := by
    rw [le, hcompare, ← not_lt, ← compare_gt_iff_gt]
    cases compare (aligned false m e (min e f)) (aligned false n f (min e f)) <;> decide
  have hpos : (0 : ℚ) < 2 ^ min e f := zpow_pos two_pos _
  rw [hle, ← cast_aligned m (min_le_left e f), ← cast_aligned n (min_le_right e f),
    mul_le_mul_iff_left₀ hpos, Int.cast_le]

/-! ## Magnitudes -/

theorem denotes_zero : Denotes (zero false) 0 := ⟨0, minExponent, rfl, zero_mul _⟩

/-- A magnitude consists of the exponent's field and the fraction. -/
theorem view_ofMagnitude {field fraction : ℕ} (hfield : field < 255) (hfraction : fraction < 2 ^ 23) :
    (ofMagnitude false (field * 2 ^ 23 + fraction)).view =
      if field = 0 then .finite false fraction minExponent
      else .finite false (2 ^ 23 + fraction) (field + minExponent - 1) := by
  have hbits : (ofMagnitude false (field * 2 ^ 23 + fraction)).bits.toNat =
      field * 2 ^ 23 + fraction := by
    show ((0 : UInt32) ||| (field * 2 ^ 23 + fraction).toUInt32).toNat = _
    rw [UInt32.toNat_or, UInt32.toNat_ofNat', Nat.mod_eq_of_lt (by omega)]
    exact Nat.zero_or _
  have hsign : (ofMagnitude false (field * 2 ^ 23 + fraction)).signBit = false := by
    rw [signBit, bne_eq_false_iff_eq, ← UInt32.toNat_inj, UInt32.toNat_shiftRight, hbits]
    show (field * 2 ^ 23 + fraction) >>> 31 = 0
    rw [Nat.shiftRight_eq_div_pow]
    omega
  have hexponent : (ofMagnitude false (field * 2 ^ 23 + fraction)).exponentField = field := by
    rw [exponentField, UInt32.toNat_and, UInt32.toNat_shiftRight, hbits]
    show (field * 2 ^ 23 + fraction) >>> 23 &&& 2 ^ 8 - 1 = field
    rw [Nat.and_two_pow_sub_one_eq_mod, Nat.shiftRight_eq_div_pow]
    omega
  have hrest : (ofMagnitude false (field * 2 ^ 23 + fraction)).fractionField = fraction := by
    rw [fractionField, UInt32.toNat_and, hbits]
    show (field * 2 ^ 23 + fraction) &&& 2 ^ 23 - 1 = fraction
    rw [Nat.and_two_pow_sub_one_eq_mod]
    omega
  rw [view, hsign, hexponent, hrest, if_neg (by omega)]
  rfl

/-- A significand of 24 bits at the `k`th step of the exponent; one of fewer bits is found at the
lowest step only.  A significand that has been rounded up to 25 bits is the first of the next step. -/
theorem denotes_ofMagnitude {k r : ℕ} (hlow : k = 0 ∨ 2 ^ 23 ≤ r) (hhigh : r ≤ 2 ^ 24)
    (hfinite : k < 253) :
    Denotes (ofMagnitude false (k * 2 ^ 23 + r)) (r * 2 ^ (k + minExponent)) := by
  rcases Nat.lt_or_ge r (2 ^ 23) with hr | hr
  · -- the lowest step, without the leading bit
    obtain rfl : k = 0 := hlow.resolve_right (Nat.not_le_of_lt hr)
    refine ⟨r, minExponent, view_ofMagnitude (by decide) hr, ?_⟩
    rw [Nat.cast_zero, zero_add]
  rcases Nat.lt_or_eq_of_le hhigh with hlt | rfl
  · -- the exponent's field counts the leading bit
    have hmagnitude : k * 2 ^ 23 + r = (k + 1) * 2 ^ 23 + (r - 2 ^ 23) := by omega
    have hview := view_ofMagnitude (show k + 1 < 255 by omega) (show r - 2 ^ 23 < 2 ^ 23 by omega)
    rw [if_neg (Nat.succ_ne_zero k), Nat.add_sub_cancel' hr] at hview
    have hexponent : ((k + 1 : ℕ) : ℤ) + minExponent - 1 = k + minExponent := by omega
    rw [hmagnitude]
    exact ⟨r, _, hview, by rw [hexponent]⟩
  · have hmagnitude : k * 2 ^ 23 + 2 ^ 24 = (k + 2) * 2 ^ 23 + 0 := by omega
    have hview := view_ofMagnitude (show k + 2 < 255 by omega) (show 0 < 2 ^ 23 by decide)
    rw [if_neg (Nat.succ_ne_zero (k + 1))] at hview
    have hexponent : ((k + 2 : ℕ) : ℤ) + minExponent - 1 = k + minExponent + 1 := by omega
    rw [hmagnitude]
    refine ⟨2 ^ 23, _, hview, ?_⟩
    rw [hexponent, zpow_add_one₀ two_ne_zero]
    push_cast
    ring

end BoardSupport.Binary32
