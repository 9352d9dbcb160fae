import BoardSupport.Bytes.LittleEndian
import BoardSupport.Program.Handler
import Std.Data.TreeMap

/-!
# Byte memories

A memory addressed by the byte, for settings.  Given how to read and write one byte, blocks and
little-endian numbers follow; a memory may serve blocks in a way of its own.

- `ByteMemory m`: a memory whose accesses are effects of `m`.
- `ByteMemory.cells`: the memory of single cells; all else is built from them.
- `readRange`, `writeRange`: blocks, whose addresses come from a range; `writeNumbered`: the bytes of a
  number, whose addresses are counted around the end.
- `ByteMemory.absent`: a memory that is not fitted: it reads as zero and drops what is written.
- `Cells`: the contents of single cells, by address.
-/

namespace BoardSupport

/-- A memory addressed by the byte, with effects in `m`. -/
structure ByteMemory (m : Type → Type) where
  /-- Reads the byte at an address. -/
  readByte : UInt16 → m UInt8
  /-- Writes a byte to an address. -/
  writeByte : UInt8 → UInt16 → m Unit
  /-- Fills a buffer from an address on, and hands it back. -/
  readBlock : List UInt8 → UInt16 → m (List UInt8)
  /-- Writes bytes from an address on. -/
  writeBlock : List UInt8 → UInt16 → m Unit

namespace ByteMemory

variable {m : Type → Type} [Monad m]

/-- Takes an address off a range without an end, which then begins with the next one.  `overflow` is
what a build does if there is no next one: one that checks its arithmetic fails, and one that does not
goes on from zero. -/
def takeAddress (overflow : m Unit) (address : UInt16) : m UInt16 := do
  if address = 0xFFFF then
    overflow
  pure (address + 1)

/-- Fills the slots of a buffer that are left from the addresses of a range; those that are filled come
last first.  An address is taken before it is known whether there is another slot for it. -/
def readRange (overflow : m Unit) (readByte : UInt16 → m UInt8) :
    List UInt8 → List UInt8 → UInt16 → m (List UInt8)
  | filled, [], address => do
    let _ ← takeAddress overflow address
    pure filled.reverse
  | filled, _ :: buffer, address => do
    let next ← takeAddress overflow address
    let byte ← readByte address
    readRange overflow readByte (byte :: filled) buffer next

/-- Writes bytes to the addresses of a range.  An address is taken before it is known whether there is
another byte for it. -/
def writeRange (overflow : m Unit) (writeByte : UInt8 → UInt16 → m Unit) :
    List UInt8 → UInt16 → m Unit
  | [], address => do
    let _ ← takeAddress overflow address
    pure ()
  | byte :: bytes, address => do
    let next ← takeAddress overflow address
    writeByte byte address
    writeRange overflow writeByte bytes next

/-- The memory with given accesses to single bytes. -/
def ofBytes (overflow : m Unit) (readByte : UInt16 → m UInt8)
    (writeByte : UInt8 → UInt16 → m Unit) : ByteMemory m where
  readByte
  writeByte
  readBlock := readRange overflow readByte []
  writeBlock := writeRange overflow writeByte

/-- Writes bytes to the addresses from one on, each counted from there and around the end. -/
def writeNumbered (writeByte : UInt8 → UInt16 → m Unit) (bytes : List UInt8) (address : UInt16) :
    m Unit :=
  bytes.zipIdx.forM fun numbered => writeByte numbered.1 (address + numbered.2.toUInt16)

/-- Reads a little-endian number of 16 bits. -/
def readInteger (memory : ByteMemory m) (address : UInt16) : m UInt16 := do
  let bytes ← memory.readBlock [0, 0] address
  pure (LittleEndian.value bytes).toUInt16

/-- Reads a little-endian number of 32 bits. -/
def readLong (memory : ByteMemory m) (address : UInt16) : m UInt32 := do
  let bytes ← memory.readBlock [0, 0, 0, 0] address
  pure (LittleEndian.value bytes).toUInt32

/-- Writes the low `size` bytes of a number, at most all four, the lowest first.  Addresses start
again from zero after the last. -/
def writeInteger (memory : ByteMemory m) (value : UInt32) (address : UInt16) (size : UInt8) :
    m Unit :=
  writeNumbered memory.writeByte ((LittleEndian.bytes 4 value.toNat).take size.toNat) address

/-- A memory that is not fitted: bytes read as zero, buffers are left as they are, and what is
written is dropped. -/
def absent : ByteMemory m where
  readByte _ := pure 0
  writeByte _ _ := pure ()
  readBlock buffer _ := pure buffer
  writeBlock _ _ := pure ()

/-! ## Memories of single cells -/

/-- An access to one cell. -/
inductive Call where
  /-- Read the cell at an address. -/
  | read (address : UInt16)
  /-- Write a byte to the cell at an address. -/
  | write (address : UInt16) (byte : UInt8)
  deriving DecidableEq, Repr

/-- Reading yields a byte. -/
abbrev Call.Reply : Call → Type
  | read _ => UInt8
  | write .. => Unit

/-- Single cells. -/
abbrev interface : Interface := ⟨Call, Call.Reply⟩

/-- The memory built from single cells, in a build that does not check its arithmetic. -/
def cells : ByteMemory (Program interface) :=
  ofBytes (pure ()) (fun address => .send (I := interface) (.read address))
    (fun byte address => .send (I := interface) (.write address byte))

/-- What an application can ask of a byte memory. -/
inductive Command where
  /-- Read a byte. -/
  | readByte (address : UInt16)
  /-- Write a byte. -/
  | writeByte (byte : UInt8) (address : UInt16)
  /-- Fill a buffer. -/
  | readBlock (buffer : List UInt8) (address : UInt16)
  /-- Write bytes. -/
  | writeBlock (data : List UInt8) (address : UInt16)
  /-- Read a number of 16 bits. -/
  | readInteger (address : UInt16)
  /-- Read a number of 32 bits. -/
  | readLong (address : UInt16)
  /-- Write the low bytes of a number. -/
  | writeInteger (value : UInt32) (address : UInt16) (size : UInt8)
  deriving DecidableEq, Repr

/-- The answer to each command. -/
abbrev Command.Answer : Command → Type
  | readByte _ => UInt8
  | readBlock .. => List UInt8
  | readInteger _ => UInt16
  | readLong _ => UInt32
  | writeByte .. | writeBlock .. | writeInteger .. => Unit

/-- The operations of a byte memory. -/
abbrev commands : Interface := ⟨Command, Command.Answer⟩

/-- Performs a command. -/
def perform (memory : ByteMemory m) : Handler commands m
  | .readByte address => memory.readByte address
  | .writeByte byte address => memory.writeByte byte address
  | .readBlock buffer address => memory.readBlock buffer address
  | .writeBlock data address => memory.writeBlock data address
  | .readInteger address => memory.readInteger address
  | .readLong address => memory.readLong address
  | .writeInteger value address size => memory.writeInteger value address size

end ByteMemory

/-- The contents of single cells; those never written are zero. -/
structure Cells where
  /-- The cells that were written, by address. -/
  written : Std.TreeMap UInt16 UInt8 := ∅

namespace Cells

instance : Inhabited Cells := ⟨{}⟩

/-- The byte in a cell. -/
def get (c : Cells) (address : UInt16) : UInt8 := c.written.getD address 0

/-- The cells with a byte written to one of them. -/
def set (c : Cells) (address : UInt16) (byte : UInt8) : Cells :=
  ⟨c.written.insert address byte⟩

/-- The cells with the given contents and no others. -/
def ofList (contents : List (UInt16 × UInt8)) : Cells :=
  contents.foldl (fun c (address, byte) => c.set address byte) {}

/-- The cells that were written, in the order of their addresses. -/
def toList (c : Cells) : List (UInt16 × UInt8) := c.written.toList

/-- The cells as hardware. -/
def handler : Handler ByteMemory.interface (StateM Cells)
  | .read address => fun c => (c.get address, c)
  | .write address byte => fun c => ((), c.set address byte)

theorem get_set (c : Cells) (a b : UInt16) (byte : UInt8) :
    (c.set a byte).get b = if a = b then byte else c.get b := by
  simp [get, set, Std.TreeMap.getD_insert]

end Cells

/-! ## Where a radio node keeps its settings -/

namespace ByteMemory.Address

/-- The frequency channel, 1 byte. -/
def frequencyChannel : UInt16 := 0x00

/-- Not used, 1 byte. -/
def notUsed : UInt16 := 0x01

/-- The sync word, 2 bytes. -/
def syncWord : UInt16 := 0x02

/-- The device address, 1 byte. -/
def deviceAddress : UInt16 := 0x04

/-- The transmit interval, 2 bytes. -/
def transmitInterval : UInt16 := 0x05

/-- The first address that is free for the application. -/
def firstCustom : UInt16 := 0x20

end ByteMemory.Address

end BoardSupport
