import BoardSupport.Program.Handler
import BoardSupport.Registers.Control

/-!
# The flash controller

Flash is read byte by byte like any memory.  What a write does is decided by the controller's mode:
it erases a whole segment or programs one byte, and nothing happens while the controller is locked.
Both have to be done with interrupts masked.
-/

namespace BoardSupport.Flash

/-- What can be asked of the flash controller. -/
inductive Call where
  /-- Mask interrupts; maskings nest. -/
  | mask
  /-- Undo one masking. -/
  | unmask
  /-- Write control register 1, the mode. -/
  | setControl1 (value : BitVec 16)
  /-- Write control register 3, which holds the lock. -/
  | setControl3 (value : BitVec 16)
  /-- Read a byte. -/
  | read (address : UInt16)
  /-- Write a byte. -/
  | write (address : UInt16) (byte : UInt8)
  deriving DecidableEq, Repr

/-- Reading yields a byte. -/
abbrev Call.Reply : Call → Type
  | read _ => UInt8
  | _ => Unit

/-- The address of the byte that a call accesses. -/
def Call.address? : Call → Option UInt16
  | read address | write address _ => some address
  | mask | unmask | setControl1 _ | setControl3 _ => none

/-- The flash controller. -/
abbrev interface : Interface := ⟨Call, Call.Reply⟩

/-- Computations that use the flash controller. -/
abbrev Routine : Type → Type := Program interface

/-- Masks interrupts. -/
def mask : Routine Unit := .send (I := interface) .mask

/-- Undoes one masking. -/
def unmask : Routine Unit := .send (I := interface) .unmask

/-- Writes the mode. -/
def setControl1 (value : BitVec 16) : Routine Unit := .send (I := interface) (.setControl1 value)

/-- Writes the lock. -/
def setControl3 (value : BitVec 16) : Routine Unit := .send (I := interface) (.setControl3 value)

/-- Runs `routine` with interrupts masked. -/
def masked (routine : Routine Unit) : Routine Unit := do
  mask
  routine
  unmask

/-- Reads `count` bytes from `start` on. -/
def readBytes (start : UInt16) : (count : Nat) → Routine (List UInt8)
  | 0 => pure []
  | count + 1 => do
    let byte ← Program.send (I := interface) (.read start)
    let bytes ← readBytes (start + 1) count
    pure (byte :: bytes)

/-- Writes bytes one after another from `start` on. -/
def writeBytes (start : UInt16) : List UInt8 → Routine Unit
  | [] => pure ()
  | byte :: bytes => do
    Program.send (I := interface) (.write start byte)
    writeBytes (start + 1) bytes

end BoardSupport.Flash
