import BoardSupport.Proofs.Binary32.Value
import Mathlib.Algebra.Order.AbsoluteValue.Basic
import Mathlib.Tactic.FieldSimp
import Mathlib.Tactic.Linarith
import Mathlib.Tactic.Positivity

/-!
# Rounding to single precision

A positive fraction is rounded to a multiple of the spacing around it, and it is at most half a spacing
away from what it is rounded to.  Whole numbers of 24 bits are not changed, and a quotient is the
rounded quotient of the values.

- `floorLog2_bounds`: the power of two that the spacing is taken from.
- `Rounded`: a multiple of a power of two that is nearest to a fraction.
- `denotes_ofFraction`: a fraction is rounded at its spacing.
- `denotes_ofNat`, `div_eq_ofFraction`: whole numbers and quotients.
-/

namespace BoardSupport.Binary32

/-! ## Rounding to whole numbers -/

section RoundDiv

variable {num den n : ℕ}

theorem abs_roundDiv_sub_le (h : 0 < den) : |(roundDiv num den : ℚ) - num / den| ≤ 1 / 2 := by
  have hden : (0 : ℚ) < den := Nat.cast_pos.2 h
  have hcancel : (num : ℚ) / den * den = num := div_mul_cancel₀ _ hden.ne'
  have hnear := @roundDiv_near num den h
  have hlow : (2 : ℚ) * num ≤ 2 * (roundDiv num den * den) + den := by exact_mod_cast hnear.1
  have hhigh : (2 : ℚ) * (roundDiv num den * den) ≤ 2 * num + den := by exact_mod_cast hnear.2
  rw [abs_le]
  constructor
  · have h2 : (num : ℚ) / den * den ≤ (roundDiv num den + 1 / 2) * den := by linarith
    linarith [le_of_mul_le_mul_right h2 hden]
  · have h2 : (roundDiv num den : ℚ) * den ≤ (num / den + 1 / 2) * den := by linarith
    linarith [le_of_mul_le_mul_right h2 hden]

theorem le_roundDiv (hden : 0 < den) (h : (n : ℚ) ≤ num / den) : n ≤ roundDiv num den := by
  have hnear := (abs_le.1 (@abs_roundDiv_sub_le num den hden)).1
  have hlt : (n : ℚ) < roundDiv num den + 1 := by linarith
  exact Nat.lt_succ_iff.1 (by exact_mod_cast hlt)

theorem roundDiv_le (hden : 0 < den) (h : (num : ℚ) / den ≤ n) : roundDiv num den ≤ n := by
  have hnear := (abs_le.1 (@abs_roundDiv_sub_le num den hden)).2
  have hlt : (roundDiv num den : ℚ) < n + 1 := by linarith
  exact Nat.lt_succ_iff.1 (by exact_mod_cast hlt)

end RoundDiv

/-! ## The spacing around a fraction -/

section Spacing

variable {num den : ℕ}

theorem scaledDen_pos (h : 0 < den) (e : ℤ) : 0 < scaledDen den e := by
  rw [scaledDen, Nat.shiftLeft_eq]
  exact Nat.mul_pos h (Nat.two_pow_pos _)

theorem scaledNum_pos (h : 0 < num) (e : ℤ) : 0 < scaledNum num e := by
  rw [scaledNum, Nat.shiftLeft_eq]
  exact Nat.mul_pos h (Nat.two_pow_pos _)

/-- Scaling divides a fraction by a power of two. -/
theorem scaledNum_div_scaledDen (num den : ℕ) (e : ℤ) :
    (scaledNum num e : ℚ) / scaledDen den e = num / den / 2 ^ e := by
  rcases le_total 0 e with he | he
  · have hnum : scaledNum num e = num := by
      rw [scaledNum, Int.toNat_of_nonpos (neg_nonpos.2 he), Nat.shiftLeft_zero]
    rw [hnum, scaledDen, cast_shiftLeft den he, div_mul_eq_div_div]
  · have hden : scaledDen den e = den := by
      rw [scaledDen, Int.toNat_of_nonpos he, Nat.shiftLeft_zero]
    rw [hden, scaledNum, cast_shiftLeft num (neg_nonneg.2 he), zpow_neg, ← div_eq_mul_inv,
      div_right_comm]

theorem scaled_le_iff (h : 0 < den) (e : ℤ) :
    scaledDen den e ≤ scaledNum num e ↔ (2 : ℚ) ^ e ≤ num / den := by
  have hden : (0 : ℚ) < scaledDen den e := Nat.cast_pos.2 (scaledDen_pos h e)
  rw [← Nat.cast_le (α := ℚ), ← one_le_div hden, scaledNum_div_scaledDen,
    one_le_div (zpow_pos two_pos e)]

theorem log2_bounds {n : ℕ} (h : 0 < n) :
    (2 : ℚ) ^ (n.log2 : ℤ) ≤ n ∧ (n : ℚ) < 2 ^ (n.log2 + 1 : ℤ) := by
  constructor
  · exact_mod_cast Nat.log2_self_le h.ne'
  · exact_mod_cast Nat.lt_log2_self

/-- The power of two is the greatest that is not above the fraction. -/
theorem floorLog2_bounds (hnum : 0 < num) (hden : 0 < den) :
    (2 : ℚ) ^ floorLog2 num den ≤ num / den ∧ (num : ℚ) / den < 2 ^ (floorLog2 num den + 1) := by
  obtain ⟨hnumLow, hnumHigh⟩ := log2_bounds hnum
  obtain ⟨hdenLow, hdenHigh⟩ := log2_bounds hden
  have hpos : (0 : ℚ) < den := Nat.cast_pos.2 hden
  have hlow : (2 : ℚ) ^ ((num.log2 : ℤ) - den.log2 - 1) ≤ num / den := by
    rw [sub_sub, zpow_sub₀ two_ne_zero]
    exact div_le_div₀ num.cast_nonneg hnumLow hpos hdenHigh.le
  have hhigh : (num : ℚ) / den < 2 ^ ((num.log2 : ℤ) - den.log2 + 1) := by
    rw [sub_add_eq_add_sub, zpow_sub₀ two_ne_zero]
    exact div_lt_div₀ hnumHigh hdenLow (zpow_pos two_pos _).le (zpow_pos two_pos _)
  rw [floorLog2]
  simp only [scaled_le_iff hden]
  split
  · exact ⟨‹_›, hhigh⟩
  · rw [sub_add_cancel]
    exact ⟨hlow, not_le.1 ‹_›⟩

theorem minExponent_le_spacing (num den : ℕ) : minExponent ≤ spacing num den := le_max_right _ _

/-- A spacing is small compared with the fraction. -/
theorem spacing_add_le {n : ℤ} (hnum : 0 < num) (hden : 0 < den) (hn : minExponent + 24 ≤ n)
    (h : (num : ℚ) / den < 2 ^ n) : spacing num den + 24 ≤ n := by
  have hlog : floorLog2 num den < n :=
    (zpow_lt_zpow_iff_right₀ one_lt_two).1 ((floorLog2_bounds hnum hden).1.trans_lt h)
  have hspacing : spacing num den = max (floorLog2 num den - 23) minExponent := rfl
  omega

/-- Counted in spacings, a fraction has at most 24 bits. -/
theorem div_spacing_lt (hnum : 0 < num) (hden : 0 < den) :
    (num : ℚ) / den / 2 ^ spacing num den < 2 ^ 24 := by
  have hle : floorLog2 num den + 1 ≤ spacing num den + 24 := by
    have hspacing : spacing num den = max (floorLog2 num den - 23) minExponent := rfl
    omega
  rw [div_lt_iff₀ (zpow_pos two_pos _)]
  calc (num : ℚ) / den < 2 ^ (floorLog2 num den + 1) := (floorLog2_bounds hnum hden).2
    _ ≤ 2 ^ (spacing num den + 24) := zpow_le_zpow_right₀ one_le_two hle
    _ = 2 ^ 24 * 2 ^ spacing num den := by rw [add_comm, zpow_add₀ two_ne_zero]; norm_num

/-- It has 24 bits unless the spacing is the smallest. -/
theorem le_div_spacing (hnum : 0 < num) (hden : 0 < den) (h : minExponent < spacing num den) :
    (2 : ℚ) ^ 23 ≤ num / den / 2 ^ spacing num den := by
  have heq : spacing num den + 23 = floorLog2 num den := by
    have hspacing : spacing num den = max (floorLog2 num den - 23) minExponent := rfl
    omega
  rw [le_div_iff₀ (zpow_pos two_pos _)]
  calc (2 : ℚ) ^ 23 * 2 ^ spacing num den = 2 ^ (spacing num den + 23) := by
        rw [add_comm, zpow_add₀ two_ne_zero]; norm_num
    _ = 2 ^ floorLog2 num den := by rw [heq]
    _ ≤ num / den := (floorLog2_bounds hnum hden).1

/-- The significand that a fraction is rounded to, counted in spacings. -/
def significand (num den : ℕ) : ℕ :=
  roundDiv (scaledNum num (spacing num den)) (scaledDen den (spacing num den))

theorem abs_significand_sub_le (hden : 0 < den) :
    |(significand num den : ℚ) - num / den / 2 ^ spacing num den| ≤ 1 / 2 := by
  rw [← scaledNum_div_scaledDen]
  exact abs_roundDiv_sub_le (scaledDen_pos hden _)

theorem significand_le (hnum : 0 < num) (hden : 0 < den) : significand num den ≤ 2 ^ 24 := by
  refine roundDiv_le (scaledDen_pos hden _) ?_
  rw [scaledNum_div_scaledDen]
  exact_mod_cast (div_spacing_lt hnum hden).le

theorem le_significand (hnum : 0 < num) (hden : 0 < den) (h : minExponent < spacing num den) :
    2 ^ 23 ≤ significand num den := by
  refine le_roundDiv (scaledDen_pos hden _) ?_
  rw [scaledNum_div_scaledDen]
  exact_mod_cast le_div_spacing hnum hden h

theorem roundMagnitude_eq (num den : ℕ) :
    roundMagnitude num den =
      (spacing num den - minExponent).toNat * 2 ^ 23 + significand num den := by
  rw [← Nat.shiftLeft_eq]
  rfl

end Spacing

/-! ## Rounded fractions -/

/-- A multiple of `2 ^ e` that is at most half of that away from `q`. -/
structure Rounded (e : ℤ) (q v : ℚ) : Prop where
  grid : ∃ r : ℕ, v = r * 2 ^ e
  near : |v - q| ≤ 2 ^ e / 2

namespace Rounded

variable {e : ℤ} {q v : ℚ}

/-- Rounding does not go beyond a multiple of the spacing. -/
theorem le_of_le (h : Rounded e q v) {n : ℕ} (hn : n * 2 ^ e ≤ q) : n * 2 ^ e ≤ v := by
  obtain ⟨r, rfl⟩ := h.grid
  have hpos : (0 : ℚ) < 2 ^ e := zpow_pos two_pos e
  have hnear := (abs_le.1 h.near).1
  have hlt : (n : ℚ) * 2 ^ e < (r + 1) * 2 ^ e := by linarith
  have hle : n ≤ r := Nat.lt_succ_iff.1 (by exact_mod_cast (mul_lt_mul_iff_left₀ hpos).1 hlt)
  exact mul_le_mul_of_nonneg_right (Nat.cast_le.2 hle) hpos.le

/-- A multiple of the spacing is not changed. -/
theorem eq_of_grid (h : Rounded e q v) {n : ℕ} (hn : q = n * 2 ^ e) : v = q := by
  subst hn
  obtain ⟨r, rfl⟩ := h.grid
  have hpos : (0 : ℚ) < 2 ^ e := zpow_pos two_pos e
  have hnear := (abs_le.1 h.near).2
  have hlt : (r : ℚ) * 2 ^ e < (n + 1) * 2 ^ e := by linarith
  have hr : r ≤ n := Nat.lt_succ_iff.1 (by exact_mod_cast (mul_lt_mul_iff_left₀ hpos).1 hlt)
  exact le_antisymm (mul_le_mul_of_nonneg_right (Nat.cast_le.2 hr) hpos.le) (h.le_of_le le_rfl)

end Rounded

/-- Whole numbers are multiples of what is not above one. -/
theorem exists_grid (n : ℕ) {e : ℤ} (he : e ≤ 0) : ∃ N : ℕ, (n : ℚ) = N * 2 ^ e := by
  refine ⟨n <<< (-e).toNat, ?_⟩
  rw [cast_shiftLeft n (neg_nonneg.2 he), mul_assoc, ← zpow_add₀ two_ne_zero, neg_add_cancel,
    zpow_zero, mul_one]

/-- Below half of the greatest power of two, a fraction is rounded at its spacing. -/
theorem denotes_ofFraction {num den : ℕ} (hnum : 0 < num) (hden : 0 < den)
    (hfinite : (num : ℚ) / den < 2 ^ 127) :
    ∃ v, Denotes (ofFraction false num den) v ∧ Rounded (spacing num den) (num / den) v := by
  have hminimum : minExponent = -149 := rfl
  have hmin := minExponent_le_spacing num den
  have hmax : spacing num den + 24 ≤ 127 := spacing_add_le hnum hden (by decide) hfinite
  have hhigh := significand_le hnum hden
  have hlow : (spacing num den - minExponent).toNat = 0 ∨ 2 ^ 23 ≤ significand num den := by
    rcases hmin.eq_or_lt with heq | hlt
    · exact .inl (by omega)
    · exact .inr (le_significand hnum hden hlt)
  have hmagnitude : ofFraction false num den =
      ofMagnitude false ((spacing num den - minExponent).toNat * 2 ^ 23 + significand num den) := by
    have hinfinity : infinityBits = 255 * 2 ^ 23 := rfl
    rw [ofFraction, if_neg hnum.ne', roundMagnitude_eq, min_eq_left (by omega)]
  have hstep : ((spacing num den - minExponent).toNat : ℤ) + minExponent = spacing num den := by
    omega
  have hdenotes := denotes_ofMagnitude hlow hhigh (by omega)
  rw [hstep, ← hmagnitude] at hdenotes
  refine ⟨_, hdenotes, ⟨_, rfl⟩, ?_⟩
  -- half a unit of the significand is half a spacing
  have hpos : (0 : ℚ) < 2 ^ spacing num den := zpow_pos two_pos _
  calc |significand num den * 2 ^ spacing num den - (num : ℚ) / den|
      = |significand num den - (num : ℚ) / den / 2 ^ spacing num den| * 2 ^ spacing num den := by
        rw [← abs_of_pos hpos, ← abs_mul, abs_of_pos hpos, sub_mul, div_mul_cancel₀ _ hpos.ne']
    _ ≤ 1 / 2 * 2 ^ spacing num den :=
        mul_le_mul_of_nonneg_right (abs_significand_sub_le hden) hpos.le
    _ = 2 ^ spacing num den / 2 := by ring

/-- Whole numbers of 24 bits are numbers of single precision. -/
theorem denotes_ofNat {n : ℕ} (h : n < 2 ^ 24) : Denotes (ofNat n) n := by
  rcases Nat.eq_zero_or_pos n with rfl | hn
  · rw [Nat.cast_zero]
    exact denotes_zero
  have hn' : (n : ℚ) / (1 : ℕ) = n := by rw [Nat.cast_one, div_one]
  have hlt : (n : ℚ) / (1 : ℕ) < 2 ^ (24 : ℤ) := by
    rw [hn']
    exact_mod_cast h
  have hspacing : spacing n 1 + 24 ≤ 24 := spacing_add_le hn one_pos (by decide) hlt
  obtain ⟨v, hv, hrounded⟩ := denotes_ofFraction hn one_pos (hlt.trans (by norm_num))
  obtain ⟨N, hN⟩ := exists_grid n (show spacing n 1 ≤ 0 by omega)
  rw [hrounded.eq_of_grid (hn'.trans hN), hn'] at hv
  exact hv

/-! ## Quotients -/

/-- A quotient is the rounded quotient of the values. -/
theorem div_eq_ofFraction {x y : Binary32} {p q : ℚ} (hx : Denotes x p) (hy : Denotes y q)
    (hp : 0 < p) (hq : 0 < q) :
    ∃ num den : ℕ, 0 < num ∧ 0 < den ∧ (num : ℚ) / den = p / q ∧
      x / y = ofFraction false num den := by
  obtain ⟨m, e, hxview, rfl⟩ := hx
  obtain ⟨n, f, hyview, rfl⟩ := hy
  have hm : 0 < m := Nat.cast_pos.1 (pos_of_mul_pos_left hp (zpow_pos two_pos e).le)
  have hn : 0 < n := Nat.cast_pos.1 (pos_of_mul_pos_left hq (zpow_pos two_pos f).le)
  refine ⟨scaledNum m (f - e), scaledDen n (f - e), scaledNum_pos hm _, scaledDen_pos hn _, ?_, ?_⟩
  · rw [scaledNum_div_scaledDen, zpow_sub₀ two_ne_zero]
    field_simp
  · show div x y = _
    rw [div, hxview, hyview]
    exact if_neg hn.ne'

theorem denotes_zero_div {x y : Binary32} {q : ℚ} (hx : Denotes x 0) (hy : Denotes y q)
    (hq : 0 < q) : Denotes (x / y) 0 := by
  obtain ⟨m, e, hxview, hm⟩ := hx
  obtain ⟨n, f, hyview, rfl⟩ := hy
  have hn : 0 < n := Nat.cast_pos.1 (pos_of_mul_pos_left hq (zpow_pos two_pos f).le)
  obtain rfl : m = 0 :=
    Nat.cast_eq_zero.1 ((mul_eq_zero_iff_right (zpow_pos two_pos e).ne').1 hm)
  have hzero : scaledNum 0 (f - e) = 0 := Nat.zero_shiftLeft _
  have hquotient : x / y = zero false := by
    show div x y = _
    rw [div, hxview, hyview]
    show (if n = 0 then _ else ofFraction false (scaledNum 0 (f - e)) (scaledDen n (f - e))) = _
    rw [if_neg hn.ne', hzero]
    rfl
  rw [hquotient]
  exact denotes_zero

end BoardSupport.Binary32
