/-!
# Register banks

An open handle of the chip support library stands for a pair of register overlays; a handle that
was never opened, or has been released, stands for none.
-/

namespace BoardSupport.ChipSupport

/-- The base addresses behind a handle. -/
structure Bank where
  /-- Base of the peripheral's registers. -/
  regs : UInt32
  /-- Base of the system control registers. -/
  sysRegs : UInt32
  deriving DecidableEq, Repr

namespace Bank

/-- The handle with no registers behind it. -/
def unmapped : Bank := ⟨0, 0⟩

instance : Inhabited Bank := ⟨unmapped⟩

/-- Whether there are registers behind the handle. -/
def isMapped (b : Bank) : Bool := b.regs != 0 || b.sysRegs != 0

theorem isMapped_eq_false_iff {b : Bank} : b.isMapped = false ↔ b = unmapped := by
  obtain ⟨r, s⟩ := b
  simp [isMapped, unmapped]

end Bank

end BoardSupport.ChipSupport
