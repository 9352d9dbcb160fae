import BoardSupport.ByteMemory.Basic

/-!
# The microcontroller's peripheral bus

The registers of the microcontroller lie at fixed addresses of its memory, next to flash and data;
the low power modes are entered by setting bits of the core's status register.

- `LowPower`: the bits of the status register, and the modes they make up.
- `memory`: a bus on which every address is plain memory.
-/

namespace BoardSupport.PeripheralBus

/-- What can happen on the bus, and in the core beside it. -/
inductive Call where
  /-- Write a word of 16 bits. -/
  | write16 (address : UInt16) (value : BitVec 16)
  /-- Write a byte. -/
  | write8 (address : UInt16) (byte : UInt8)
  /-- Read a byte. -/
  | read8 (address : UInt16)
  /-- Set bits of the core's status register. -/
  | setStatus (bits : BitVec 8)
  /-- Mask interrupts; maskings nest. -/
  | mask
  /-- Undo one masking. -/
  | unmask
  deriving DecidableEq, Repr

/-- Reading yields a byte. -/
abbrev Call.Reply : Call → Type
  | read8 _ => UInt8
  | _ => Unit

/-- The peripheral bus. -/
abbrev interface : Interface := ⟨Call, Call.Reply⟩

/-- Computations that use the bus. -/
abbrev Routine : Type → Type := Program interface

/-- Makes a call of the bus. -/
abbrev call (c : Call) : Routine c.Reply := .send (I := interface) c

/-! ## Low power modes -/

namespace LowPower

/-- Turns the subsystem clock off. -/
def systemClock1 : BitVec 8 := 0x80

/-- Turns the main oscillator off. -/
def systemClock0 : BitVec 8 := 0x40

/-- Turns the core off. -/
def coreOff : BitVec 8 := 0x10

/-- Lets interrupts through. -/
def interrupts : BitVec 8 := 0x08

/-- Mode 0: the core is off. -/
def mode0 : BitVec 8 := coreOff ||| interrupts

/-- Mode 3: all but the auxiliary clock is off. -/
def mode3 : BitVec 8 := systemClock1 ||| systemClock0 ||| coreOff ||| interrupts

/-- Enters mode 0. -/
def enter0 : Routine Unit := call (.setStatus mode0)

/-- Enters mode 3. -/
def enter3 : Routine Unit := call (.setStatus mode3)

end LowPower

/-! ## A bus of plain memory -/

/-- The bus with plain memory at every address: words are stored with their low byte first, the
status register and the masking of interrupts are not part of it. -/
def memory : Handler interface (StateM Cells)
  | .write16 address value => fun c =>
    let word := UInt16.ofBitVec value
    ((), (c.set address word.toUInt8).set (address + 1) (word >>> 8).toUInt8)
  | .write8 address byte => fun c => ((), c.set address byte)
  | .read8 address => fun c => (c.get address, c)
  | .setStatus _ | .mask | .unmask => fun c => ((), c)

end BoardSupport.PeripheralBus
