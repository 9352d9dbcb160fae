import BoardSupport.Binary32.Arithmetic

/-!
# The natural logarithm in single precision

The argument is written as `2 ^ k * (1 + f)` with `1 + f` between the square roots of one half and
of two.  The logarithm of `1 + f` is a polynomial in `s = f / (2 + f)` with correction terms, and
the logarithm of two enters in a high and a low part, so that the sum loses little.  Every step is
rounded to single precision in the order written here, which fixes the result to the last bit.
-/

namespace BoardSupport.Binary32

/-- The high part of the logarithm of two. -/
def logTwoHigh : Binary32 := ⟨0x3F317180⟩

/-- The low part of the logarithm of two. -/
def logTwoLow : Binary32 := ⟨0x3717F7D1⟩

/-- The polynomial's coefficient of the second power. -/
def logCoefficient1 : Binary32 := ⟨0x3F2AAAAA⟩

/-- The polynomial's coefficient of the fourth power. -/
def logCoefficient2 : Binary32 := ⟨0x3ECCCE13⟩

/-- The polynomial's coefficient of the sixth power. -/
def logCoefficient3 : Binary32 := ⟨0x3E91E9EE⟩

/-- The polynomial's coefficient of the eighth power. -/
def logCoefficient4 : Binary32 := ⟨0x3E789E26⟩

/-- The bit pattern of one. -/
def oneBits : UInt32 := 0x3F800000

/-- The bit pattern of the square root of one half. -/
def sqrtHalfBits : UInt32 := 0x3F3504F3

/-- The logarithm of `1 + f` plus `k` times the logarithm of two. -/
def logSum (k : Int) (f : Binary32) : Binary32 :=
  let s := f / (ofNat 2 + f)
  let z := s * s
  let w := z * z
  let even := w * (logCoefficient2 + w * logCoefficient4)
  let odd := z * (logCoefficient1 + w * logCoefficient3)
  let r := odd + even
  let half := ofFraction false 1 2 * f * f
  let k := ofInt k
  s * (half + r) + k * logTwoLow - half + f + k * logTwoHigh

/-- The logarithm of a positive number that is not subnormal, plus `k` times that of two. -/
def logNormal (k : Int) (x : Binary32) : Binary32 :=
  let shifted := x.bits + (oneBits - sqrtHalfBits)
  let k := k + (shifted >>> 23).toNat - 0x7F
  let reduced : Binary32 := ⟨(shifted &&& 0x007FFFFF) + sqrtHalfBits⟩
  logSum k (reduced - ofNat 1)

/-- The natural logarithm: minus infinity for zeros and not a number below.  A subnormal argument
is first multiplied by `2 ^ 25`. -/
def log (x : Binary32) : Binary32 :=
  if x.bits <<< 1 = 0 then infinity true
  else if x.signBit then nan
  else if x.exponentField = 0 then logNormal (-25) (x * ofNat (1 <<< 25))
  else if x.exponentField = 0xFF then x
  else if x.bits = oneBits then zero false
  else logNormal 0 x

/-- The board's programs use this one. -/
instance : Logarithm := ⟨log⟩

end BoardSupport.Binary32
