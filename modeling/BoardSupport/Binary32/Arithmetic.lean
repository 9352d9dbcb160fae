import BoardSupport.Binary32.Basic

/-!
# Arithmetic on single precision numbers

Every operation computes its result exactly and rounds it once.  The exact values are signed
significands with a power of two, so sums and products are exact whole numbers at a common
exponent, and a quotient is a fraction.
-/

namespace BoardSupport.Binary32

/-- A significand with its sign, times the power of two from `base` up to `exponent`. -/
def aligned (negative : Bool) (significand : Nat) (exponent base : Int) : Int :=
  let magnitude : Int := significand <<< (exponent - base).toNat
  if negative then -magnitude else magnitude

/-- The negative of a number. -/
def neg (x : Binary32) : Binary32 := ⟨x.bits ^^^ 0x80000000⟩

/-- The sum of two numbers.  A sum of zero is positive unless both numbers are negative. -/
def add (x y : Binary32) : Binary32 :=
  match x.view, y.view with
  | .nan, _ | _, .nan => nan
  | .infinite s, .infinite t => if s = t then infinity s else nan
  | .infinite s, .finite .. => infinity s
  | .finite .., .infinite t => infinity t
  | .finite s m e, .finite t n f =>
    let base := min e f
    let sum := aligned s m e base + aligned t n f base
    if sum = 0 then zero (s && t) else ofDyadic (sum < 0) sum.natAbs base

/-- The difference of two numbers. -/
def sub (x y : Binary32) : Binary32 := add x (neg y)

/-- The product of two numbers. -/
def mul (x y : Binary32) : Binary32 :=
  match x.view, y.view with
  | .nan, _ | _, .nan => nan
  | .infinite s, .infinite t => infinity (s != t)
  | .infinite s, .finite t n _ | .finite s n _, .infinite t =>
    if n = 0 then nan else infinity (s != t)
  | .finite s m e, .finite t n f => ofDyadic (s != t) (m * n) (e + f)

/-- The quotient of two numbers. -/
def div (x y : Binary32) : Binary32 :=
  match x.view, y.view with
  | .nan, _ | _, .nan => nan
  | .infinite _, .infinite _ => nan
  | .infinite s, .finite t .. => infinity (s != t)
  | .finite s .., .infinite t => zero (s != t)
  | .finite s m e, .finite t n f =>
    if n = 0 then
      if m = 0 then nan else infinity (s != t)
    else
      ofFraction (s != t) (scaledNum m (f - e)) (scaledDen n (f - e))

instance : Neg Binary32 := ⟨neg⟩
instance : Add Binary32 := ⟨add⟩
instance : Sub Binary32 := ⟨sub⟩
instance : Mul Binary32 := ⟨mul⟩
instance : Div Binary32 := ⟨div⟩

/-- How two numbers compare; nothing compares with what is not a number, and zeros are equal. -/
def compare? (x y : Binary32) : Option Ordering :=
  match x.view, y.view with
  | .nan, _ | _, .nan => none
  | .infinite s, .infinite t => some (compare (if s then 0 else 1) (if t then 0 else 1))
  | .infinite s, .finite .. => some (if s then .lt else .gt)
  | .finite .., .infinite t => some (if t then .gt else .lt)
  | .finite s m e, .finite t n f =>
    let base := min e f
    some (compare (aligned s m e base) (aligned t n f base))

/-- Whether both are numbers and the first is not above the second. -/
def le (x y : Binary32) : Bool :=
  match compare? x y with
  | some .lt | some .eq => true
  | _ => false

/-- The part of `significand * 2 ^ exponent` before the point. -/
def wholePart (significand : Nat) (exponent : Int) : Nat :=
  (significand <<< exponent.toNat) >>> (-exponent).toNat

/-- The nearest integer of 16 bits towards zero.  What is out of range becomes the nearest end of
it, and what is not a number becomes zero. -/
def toInt16 (x : Binary32) : Int16 :=
  match x.view with
  | .nan => 0
  | .infinite negative => if negative then Int16.minValue else Int16.maxValue
  | .finite negative significand exponent =>
    let whole : Int := wholePart significand exponent
    .ofInt (if negative then max (-whole) Int16.minValue.toInt else min whole Int16.maxValue.toInt)

/-- The natural logarithm that a computation uses; there are several, and they differ in the last
bit. -/
class Logarithm where
  /-- The logarithm of a number. -/
  log : Binary32 → Binary32

end BoardSupport.Binary32
