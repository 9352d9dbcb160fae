import BoardSupport.Registers.Control

/-!
# The bits of the control registers

A flag is asked for, set and cleared by its mask.  Here is which bits of its register these are, and
what becomes of the bits of others.

- `bits`: the positions of the bits of a mask; a value contains the mask if all of these are set in it
  (`contains_iff_bits`).
- `register_positions`: every flag of every register, with its positions.
- `contains_or`, `contains_and_not`: masks that have no bit in common do not disturb each other.
-/

namespace BoardSupport

section Masks

variable {w : Nat} {value mask other : BitVec w}

/-! ## Positions -/

/-- The positions of the bits of a mask, the lowest first. -/
def bits (mask : BitVec w) : List Nat := (List.range w).filter fun i => mask.getLsbD i

theorem mem_bits {i : Nat} : i ∈ bits mask ↔ mask.getLsbD i = true := by
  rw [bits, List.mem_filter, List.mem_range]
  exact and_iff_right_of_imp BitVec.lt_of_getLsbD

theorem contains_iff_bits :
    contains value mask = true ↔ ∀ i ∈ bits mask, value.getLsbD i = true := by
  rw [contains_iff]
  constructor
  · intro h i hi
    have hbit := congrArg (BitVec.getLsbD · i) h
    simpa [mem_bits.1 hi] using hbit
  · intro h
    refine BitVec.eq_of_getLsbD_eq fun i _ => ?_
    rw [BitVec.getLsbD_and]
    by_cases hmask : mask.getLsbD i = true
    · simp [h i (mem_bits.2 hmask)]
    · simp [hmask]

/-- A mask of one bit tells whether that bit is set. -/
theorem contains_of_bits {i : Nat} (h : bits mask = [i]) (value : BitVec w) :
    contains value mask = value.getLsbD i := by
  rw [Bool.eq_iff_iff, contains_iff_bits, h]
  exact List.forall_mem_singleton

/-! ## Setting and clearing -/

theorem contains_or_right (value mask : BitVec w) : contains (value ||| mask) mask = true := by
  rw [contains_iff]
  ext i hi
  simp only [BitVec.getElem_and, BitVec.getElem_or]
  cases mask[i] <;> simp

theorem and_not_and_self (value mask : BitVec w) : value &&& ~~~mask &&& mask = 0 := by
  ext i hi
  simp [Bool.and_assoc]

theorem contains_or (h : mask &&& other = 0) :
    contains (value ||| mask) other = contains value other := by
  have hand : (value ||| mask) &&& other = value &&& other := by
    rw [BitVec.and_or_distrib_right, h]
    exact BitVec.or_zero
  rw [contains, contains, hand]

theorem contains_and_not (h : mask &&& other = 0) :
    contains (value &&& ~~~mask) other = contains value other := by
  have hother : ~~~mask &&& other = other := by
    ext i hi
    have hbit : (mask[i] && other[i]) = false := by
      rw [← BitVec.getElem_and, h]
      exact BitVec.getElem_zero hi
    rw [BitVec.getElem_and, BitVec.getElem_not]
    cases hmask : mask[i] with
    | false => exact Bool.true_and _
    | true =>
      rw [hmask, Bool.true_and] at hbit
      rw [hbit]
      rfl
  rw [contains, contains, BitVec.and_assoc, hother]

theorem contains_and_not_self (h : mask ≠ 0) : contains (value &&& ~~~mask) mask = false := by
  rw [contains, and_not_and_self]
  exact beq_false_of_ne (Ne.symm h)

end Masks

/-! ## The registers -/

/-- The flags of a register with the positions of their bits. -/
def Register.positions (r : Register) : List (String × List Nat) :=
  r.flags.map fun f => (f.name, bits f.mask)

/-- Every flag is one bit of its register, but for the counter event of all 32 bits, which is two. -/
theorem register_positions :
    FlashControl1.register.positions =
      [("ERASE", [1]), ("MERAS", [2]), ("WRT", [6]), ("BLKWRT", [7])] ∧
    FlashControl3.register.positions =
      [("BUSY", [0]), ("KEYV", [1]), ("ACCVIFG", [2]), ("WAIT", [3]), ("LOCK", [4]), ("EMEX", [5]),
        ("LOCKA", [6])] ∧
    ClockControl4.register.positions =
      [("SELM_DCOCLKDIV", [2]), ("SELS_DCOCLKDIV", [6]), ("SELA_VLOCLK", [8])] ∧
    RtcControl0.register.positions =
      [("RTCRDYIFG", [0]), ("RTCAIFG", [1]), ("RTCTEVIFG", [2]), ("RTCOFIFG", [3]),
        ("RTCRDYIE", [4]), ("RTCAIE", [5]), ("RTCTEVIE", [6]), ("RTCOFIE", [7])] ∧
    RtcControl1.register.positions =
      [("RTCTEV0", [0]), ("RTCTEV1", [1]), ("RTCTEV_32BIT", [0, 1]), ("RTCSSEL0", [2]),
        ("RTCSSEL1", [3]), ("RTCRDY", [4]), ("RTCMODE", [5]), ("RTCHOLD", [6]), ("RTCBCD", [7])] ∧
    TimerControl.register.positions =
      [("TAIFG", [0]), ("TAIE", [1]), ("TACLR", [2]), ("MC_UP", [4]), ("MC_CONTINUOUS", [5]),
        ("TASSEL_ACLK", [8]), ("TASSEL_SMCLK", [9])] ∧
    CompareControl.register.positions =
      [("CCIFG", [0]), ("COV", [1]), ("CCIE", [4]), ("CAP", [8])] := by
  refine ⟨?_, ?_, ?_, ?_, ?_, ?_, ?_⟩ <;> decide

end BoardSupport
