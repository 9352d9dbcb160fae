import BoardSupport.ChipSupport.Console
import BoardSupport.Flash.Controller

/-!
# Information memory

Four flash segments of 128 bytes, A to D, for settings that outlive a loss of power.  Flash is
erased by the segment, so a write saves the segment, erases it, and programs it again with the new
bytes in their place (`reprogram`).
-/

namespace BoardSupport.InfoMemory

open Flash (Routine)

/-- The size of a segment, in bytes. -/
def sectionSize : Nat := 128

/-- A segment of information memory. -/
inductive Section where
  /-- Segment A, the last one. -/
  | a
  /-- Segment B. -/
  | b
  /-- Segment C. -/
  | c
  /-- Segment D, the first one. -/
  | d
  deriving DecidableEq, Repr

/-- The address of a segment's first byte. -/
def Section.base : Section → UInt16
  | a => 0x1980
  | b => 0x1900
  | c => 0x1880
  | d => 0x1800

/-- Why a request was refused. -/
inductive Error where
  /-- The bytes do not all lie in the segment. -/
  | outOfRange (position : UInt8) (length : Nat)
  /-- The letter names no segment. -/
  | unknownSection (tag : Char)
  deriving DecidableEq, Repr

/-- The segment of a letter. -/
def Section.ofTag (tag : Char) : Except Error Section :=
  match tag with
  | 'A' => .ok a
  | 'B' => .ok b
  | 'C' => .ok c
  | 'D' => .ok d
  | _ => .error (.unknownSection tag)

/-- Whether `length` bytes from `position` on all lie in one segment. -/
def Fits (position : UInt8) (length : Nat) : Prop := position.toNat + length ≤ sectionSize

instance (position : UInt8) (length : Nat) : Decidable (Fits position length) :=
  inferInstanceAs (Decidable (_ ≤ _))

/-- Fills `buffer` with the bytes from `position` of a segment on, and hands it back with their
number.  The buffer stays as it was if the request is refused. -/
def read (sect : Section) (position : UInt8) (buffer : List UInt8) :
    Routine (Except Error Nat × List UInt8) :=
  if Fits position buffer.length then do
    let bytes ← Flash.readBytes (sect.base + position.toUInt16) buffer.length
    pure (.ok buffer.length, bytes)
  else
    pure (.error (.outOfRange position buffer.length), buffer)

/-- `bytes` with `data` in place of those from `position` on. -/
def splice (bytes : List UInt8) (position : Nat) (data : List UInt8) : List UInt8 :=
  bytes.take position ++ data ++ bytes.drop (position + data.length)

theorem length_splice {bytes data : List UInt8} {position : Nat}
    (h : position + data.length ≤ bytes.length) :
    (splice bytes position data).length = bytes.length := by
  simp only [splice, List.length_append, List.length_take, List.length_drop]
  omega

/-- The new bytes are in their place, and all others are the old ones. -/
theorem getElem?_splice {bytes data : List UInt8} {position : Nat}
    (h : position + data.length ≤ bytes.length) (i : Nat) :
    (splice bytes position data)[i]? =
      if position ≤ i ∧ i < position + data.length then data[i - position]? else bytes[i]? := by
  simp only [splice, List.getElem?_append, List.length_append, List.length_take]
  grind

/-- Erases the segment at `base` and programs `bytes` into it: unlock, erase by a dummy write,
program byte by byte, leave the programming mode, lock. -/
def reprogram (base : UInt16) (bytes : List UInt8) : Routine Unit := do
  Flash.setControl3 0
  Flash.setControl1 FlashControl1.erase
  Flash.writeBytes base [0]
  Flash.setControl1 FlashControl1.write
  Flash.writeBytes base bytes
  Flash.setControl1 0
  Flash.setControl3 FlashControl3.lock

/-- Stores `data` from `position` of a segment on, keeping the rest of the segment, and answers the
number of bytes.  With no data the flash is left alone. -/
def write (sect : Section) (position : UInt8) (data : List UInt8) : Routine (Except Error Nat) :=
  if ¬ Fits position data.length then
    pure (.error (.outOfRange position data.length))
  else if data.isEmpty then
    pure (.ok 0)
  else do
    let bytes ← Flash.readBytes sect.base sectionSize
    Flash.masked (reprogram sect.base (splice bytes position.toNat data))
    pure (.ok data.length)

/-- `read` by the segment's letter. -/
def readTagged (tag : Char) (position : UInt8) (buffer : List UInt8) :
    Routine (Except Error Nat × List UInt8) :=
  match Section.ofTag tag with
  | .ok sect => read sect position buffer
  | .error e => pure (.error e, buffer)

/-- `write` by the segment's letter. -/
def writeTagged (tag : Char) (position : UInt8) (data : List UInt8) : Routine (Except Error Nat) :=
  match Section.ofTag tag with
  | .ok sect => write sect position data
  | .error e => pure (.error e)

/-- What an application can ask of information memory. -/
inductive Command where
  /-- Fill a buffer from a segment. -/
  | read (sect : Section) (position : UInt8) (buffer : List UInt8)
  /-- Store data in a segment. -/
  | write (sect : Section) (position : UInt8) (data : List UInt8)
  /-- Fill a buffer from the segment of a letter. -/
  | readTagged (tag : Char) (position : UInt8) (buffer : List UInt8)
  /-- Store data in the segment of a letter. -/
  | writeTagged (tag : Char) (position : UInt8) (data : List UInt8)
  deriving DecidableEq, Repr

/-- The answer to each command; reading hands the buffer back. -/
abbrev Command.Answer : Command → Type
  | read .. | readTagged .. => Except Error Nat × List UInt8
  | write .. | writeTagged .. => Except Error Nat

/-- The operations of information memory. -/
abbrev commands : Interface := ⟨Command, Command.Answer⟩

/-- Performs a command. -/
def perform : Handler commands Routine
  | .read sect position buffer => InfoMemory.read sect position buffer
  | .write sect position data => InfoMemory.write sect position data
  | .readTagged tag position buffer => InfoMemory.readTagged tag position buffer
  | .writeTagged tag position data => InfoMemory.writeTagged tag position data

/-! ## Where a radio node keeps its settings -/

namespace Offset

/-- The frequency channel, 1 byte. -/
def frequencyChannel : UInt8 := 0x00

/-- Not used, 1 byte. -/
def notUsed : UInt8 := 0x01

/-- The sync word, 2 bytes. -/
def syncWord : UInt8 := 0x02

/-- The slot of the device address, 1 or 2 bytes. -/
def deviceSlot : UInt8 := 0x04

/-- The transmit interval, 2 bytes. -/
def transmitInterval : UInt8 := 0x06

/-- The first byte that is free for the application. -/
def firstCustom : UInt8 := 0x20

/-- The device address of 1 byte: the second byte of its slot, or the first if swapped. -/
def deviceAddress (build : ChipSupport.Build) : UInt8 :=
  if build.swapExtendedAddress then deviceSlot else deviceSlot + 1

end Offset

end BoardSupport.InfoMemory
