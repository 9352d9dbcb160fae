/-!
# Registers made of flags

The value of a control register is a bit vector; some of its bits have names.  A value may also
hold bits without a name, which are kept but do not count when values are compared by their known
bits.
-/

namespace BoardSupport

/-- A named group of bits of a register. -/
structure Flag (width : Nat) where
  /-- The name in the device's documentation. -/
  name : String
  /-- The bits. -/
  mask : BitVec width
  deriving DecidableEq, Repr

/-- Whether all bits of `mask` are set in `value`. -/
def contains {w : Nat} (value mask : BitVec w) : Bool := value &&& mask == mask

theorem contains_iff {w : Nat} {value mask : BitVec w} :
    contains value mask = true ↔ value &&& mask = mask := by
  simp [contains]

/-- A register: its width and the flags declared for it, in order. -/
structure Register where
  /-- The number of bits. -/
  width : Nat
  /-- The declared flags. -/
  flags : List (Flag width)

namespace Register

variable (r : Register) (value : BitVec r.width)

/-- All bits that have a name. -/
def all : BitVec r.width := r.flags.foldl (fun bits f => bits ||| f.mask) 0

/-- The bits of `value` that have a name. -/
def known : BitVec r.width := value &&& r.all

/-- Whether `value` has no bits without a name. -/
def isExact : Bool := r.known value == value

/-- Whether every bit that has a name is set. -/
def isAll : Bool := r.known value == r.all

/-- Whether no bit that has a name is set. -/
def isEmpty : Bool := r.known value == 0

/-- The bits that have a name and are not set. -/
def complement : BitVec r.width := r.all &&& ~~~value

/-- The flags among `flags` that make up `value`, going through the declarations in order: a flag
is taken if all of its bits are set and some of them are not covered by the flags taken before. -/
def covering : List (Flag r.width) → (remaining : BitVec r.width) → List (Flag r.width)
  | [], _ => []
  | f :: fs, remaining =>
    if contains value f.mask ∧ remaining &&& f.mask ≠ 0 then
      f :: covering fs (remaining &&& ~~~f.mask)
    else
      covering fs remaining

/-- The names of the flags that make up `value`. -/
def names : List String := (r.covering value r.flags value).map Flag.name

end Register

end BoardSupport
