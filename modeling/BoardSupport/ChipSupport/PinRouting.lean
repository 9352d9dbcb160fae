/-!
# External pin routing

Several modules share the device's external pins; a field of the bus selection register decides
which of them a group of pins serves.
-/

namespace BoardSupport.ChipSupport

/-- A group of external pins, with a field of the bus selection register to itself. -/
inductive PinGroup where
  /-- The parallel pins. -/
  | parallel
  /-- The pins of serial interface 1. -/
  | serial1
  deriving DecidableEq, Repr

/-- A choice of mode for a group of pins. -/
structure PinRouting where
  /-- The group of pins. -/
  group : PinGroup
  /-- The mode they are put into. -/
  mode : UInt16
  deriving DecidableEq, Repr

/-- The vendor's name of the entry point that writes the register. -/
def PinRouting.entry : String := "SYS_setEBSR"

end BoardSupport.ChipSupport
