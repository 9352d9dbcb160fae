/-!
# Binary floating point numbers of 32 bits

The single precision numbers of IEEE 754, by their bit patterns.  What a pattern means is its
`View`; a number is made from an exact fraction by rounding to the nearest, a tie to the even
neighbour (`ofFraction`).

- `Binary32.view`: not a number, an infinity, or a signed significand with a power of two.
- `roundDiv`: the whole number nearest to a fraction; `roundDiv_near` and `roundDiv_even_of_tie` say
  what nearest means.
- `ofFraction`: the number nearest to a fraction.
-/

namespace BoardSupport

/-- A single precision number, as its bit pattern. -/
structure Binary32 where
  /-- Sign, 8 bits of exponent and 23 bits of fraction. -/
  bits : UInt32
  deriving DecidableEq, Repr, Inhabited

namespace Binary32

/-- What a bit pattern stands for. -/
inductive View where
  /-- Not a number. -/
  | nan
  /-- An infinity. -/
  | infinite (negative : Bool)
  /-- The number `significand * 2 ^ exponent`, or its negative. -/
  | finite (negative : Bool) (significand : Nat) (exponent : Int)
  deriving DecidableEq, Repr

/-- The number of bits of the fraction. -/
def fractionBits : Nat := 23

/-- The exponent of the smallest numbers. -/
def minExponent : Int := -149

/-- The magnitude of infinity, as a bit pattern. -/
def infinityBits : Nat := 0x7F800000

/-- Whether the sign bit is set. -/
def signBit (x : Binary32) : Bool := x.bits >>> 31 != 0

/-- The exponent's field. -/
def exponentField (x : Binary32) : Nat := (x.bits >>> 23 &&& 0xFF).toNat

/-- The fraction's field. -/
def fractionField (x : Binary32) : Nat := (x.bits &&& 0x007FFFFF).toNat

/-- What the number's bit pattern stands for. -/
def view (x : Binary32) : View :=
  if x.exponentField = 0xFF then
    if x.fractionField = 0 then .infinite x.signBit else .nan
  else if x.exponentField = 0 then
    .finite x.signBit x.fractionField minExponent
  else
    .finite x.signBit ((1 <<< fractionBits) + x.fractionField) (x.exponentField + minExponent - 1)

/-- The number with a given sign and magnitude. -/
def ofMagnitude (negative : Bool) (magnitude : Nat) : Binary32 :=
  ⟨(if negative then 0x80000000 else 0) ||| magnitude.toUInt32⟩

/-- Not a number. -/
def nan : Binary32 := ⟨0x7FC00000⟩

/-- An infinity. -/
def infinity (negative : Bool) : Binary32 := ofMagnitude negative infinityBits

/-- A zero, with its sign. -/
def zero (negative : Bool) : Binary32 := ofMagnitude negative 0

/-! ## Rounding -/

/-- The whole number nearest to `num / den`; of two that are equally near, the even one. -/
def roundDiv (num den : Nat) : Nat :=
  let whole := num / den
  let rest := num % den
  if 2 * rest < den then whole
  else if den < 2 * rest then whole + 1
  else whole + whole % 2

/-- The nearest whole number is at most half a unit away. -/
theorem roundDiv_near {num den : Nat} (h : 0 < den) :
    2 * num ≤ 2 * (roundDiv num den * den) + den ∧
      2 * (roundDiv num den * den) ≤ 2 * num + den := by
  have hd := Nat.div_add_mod' num den
  have hm := Nat.mod_lt num h
  simp only [roundDiv]
  split
  · omega
  split
  · rw [Nat.add_mul]
    omega
  · rcases Nat.mod_two_eq_zero_or_one (num / den) with e | e <;> rw [e, Nat.add_mul] <;> omega

/-- Half way between two whole numbers the even one is taken. -/
theorem roundDiv_even_of_tie {num den : Nat} (h : 2 * (num % den) = den) :
    roundDiv num den % 2 = 0 := by
  simp only [roundDiv]
  split
  · omega
  split <;> omega

/-- The numerator of a fraction times `2 ^ (-e)`. -/
def scaledNum (num : Nat) (e : Int) : Nat := num <<< (-e).toNat

/-- The denominator of a fraction times `2 ^ (-e)`. -/
def scaledDen (den : Nat) (e : Int) : Nat := den <<< e.toNat

/-- The exponent of the greatest power of two that is not above a positive fraction. -/
def floorLog2 (num den : Nat) : Int :=
  let e : Int := num.log2 - den.log2
  if scaledDen den e ≤ scaledNum num e then e else e - 1

/-- The spacing of the numbers around a fraction, as an exponent of two. -/
def spacing (num den : Nat) : Int := max (floorLog2 num den - fractionBits) minExponent

/-- The magnitude nearest to a positive fraction.  A significand that is rounded up to the next
power of two carries into the exponent's field, which is what it has to do. -/
def roundMagnitude (num den : Nat) : Nat :=
  let e := spacing num den
  ((e - minExponent).toNat <<< fractionBits) + roundDiv (scaledNum num e) (scaledDen den e)

/-- The number nearest to `num / den`, or to its negative.  What is too large for any number
becomes an infinity. -/
def ofFraction (negative : Bool) (num den : Nat) : Binary32 :=
  if num = 0 then zero negative
  else ofMagnitude negative (min (roundMagnitude num den) infinityBits)

/-- The number nearest to `significand * 2 ^ exponent`, or to its negative. -/
def ofDyadic (negative : Bool) (significand : Nat) (exponent : Int) : Binary32 :=
  ofFraction negative (scaledNum significand (-exponent)) (scaledDen 1 (-exponent))

/-- The number nearest to a natural number. -/
def ofNat (n : Nat) : Binary32 := ofFraction false n 1

/-- The number nearest to an integer. -/
def ofInt (n : Int) : Binary32 := ofFraction (n < 0) n.natAbs 1

end Binary32

end BoardSupport
