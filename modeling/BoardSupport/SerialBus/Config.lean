/-!
# Settings of the serial bus

Clock divider, clock polarity and phase, word length and chip select, and the configuration record
that is written to the hardware as a whole.
-/

namespace BoardSupport.SerialBus

/-- A chip select line. -/
inductive ChipSelect where
  /-- Line 0. -/
  | cs0
  /-- Line 1. -/
  | cs1
  /-- Line 2. -/
  | cs2
  /-- Line 3. -/
  | cs3
  deriving DecidableEq, Repr

instance : Inhabited ChipSelect := ⟨.cs0⟩

/-- The number of a chip select line. -/
def ChipSelect.index : ChipSelect → UInt8
  | cs0 => 0
  | cs1 => 1
  | cs2 => 2
  | cs3 => 3

/-- How a transfer is completed. -/
inductive TransferMode where
  /-- The processor polls. -/
  | polling
  /-- An interrupt is raised. -/
  | interrupt
  deriving DecidableEq, Repr

instance : Inhabited TransferMode := ⟨.polling⟩

/-- The length of a word on the bus. -/
inductive WordLength where
  /-- 8 bits. -/
  | bits8
  /-- 16 bits. -/
  | bits16
  /-- 32 bits. -/
  | bits32
  deriving DecidableEq, Repr

instance : Inhabited WordLength := ⟨.bits8⟩

/-- The number of bits in a word. -/
def WordLength.bits : WordLength → Nat
  | bits8 => 8
  | bits16 => 16
  | bits32 => 32

/-- The level of the clock line between transfers. -/
inductive Polarity where
  /-- Low at idle. -/
  | lowAtIdle
  /-- High at idle. -/
  | highAtIdle
  deriving DecidableEq, Repr

instance : Inhabited Polarity := ⟨.lowAtIdle⟩

/-- The clock edge on which data is shifted. -/
inductive Phase where
  /-- The falling edge: data is captured on the first transition. -/
  | fallEdge
  /-- The rising edge: data is captured on the second transition. -/
  | riseEdge
  deriving DecidableEq, Repr

instance : Inhabited Phase := ⟨.fallEdge⟩

/-- The four customary pairings of clock polarity and phase. -/
inductive Mode where
  /-- Idle low, captured on the first transition. -/
  | mode0
  /-- Idle low, captured on the second transition. -/
  | mode1
  /-- Idle high, captured on the first transition. -/
  | mode2
  /-- Idle high, captured on the second transition. -/
  | mode3
  deriving DecidableEq, Repr

namespace Mode

/-- The modes in the order of their numbers. -/
def all : List Mode := [mode0, mode1, mode2, mode3]

/-- The idle level of the clock. -/
def polarity : Mode → Polarity
  | mode0 | mode1 => .lowAtIdle
  | mode2 | mode3 => .highAtIdle

/-- The clock edge on which data is shifted. -/
def phase : Mode → Phase
  | mode0 | mode2 => .fallEdge
  | mode1 | mode3 => .riseEdge

/-- The clock idles high in modes 2 and 3. -/
theorem polarity_eq_highAtIdle_iff (m : Mode) : m.polarity = .highAtIdle ↔ m = mode2 ∨ m = mode3 := by
  cases m <;> decide

/-- Data is captured on the second transition, which is the rising edge, in modes 1 and 3. -/
theorem phase_eq_riseEdge_iff (m : Mode) : m.phase = .riseEdge ↔ m = mode1 ∨ m = mode3 := by
  cases m <;> decide

end Mode

/-- The dividers from the system clock to the bus clock. -/
inductive Divider where
  /-- Divide by 2. -/
  | div2
  /-- Divide by 4. -/
  | div4
  /-- Divide by 8. -/
  | div8
  /-- Divide by 16. -/
  | div16
  /-- Divide by 32. -/
  | div32
  /-- Divide by 64. -/
  | div64
  /-- Divide by 128. -/
  | div128
  deriving DecidableEq, Repr

instance : Inhabited Divider := ⟨.div128⟩

namespace Divider

/-- The dividers, the smallest first. -/
def all : List Divider := [div2, div4, div8, div16, div32, div64, div128]

/-- The factor a divider divides by. -/
def factor : Divider → UInt16
  | div2 => 2
  | div4 => 4
  | div8 => 8
  | div16 => 16
  | div32 => 32
  | div64 => 64
  | div128 => 128

/-- The dividers are powers of two, each twice the one before it. -/
theorem map_factor_all : all.map factor = [2, 4, 8, 16, 32, 64, 128] := rfl

end Divider

/-- The order in which the bits of a byte are shifted out. -/
inductive BitOrder where
  /-- The least significant bit first. -/
  | lsbFirst
  /-- The most significant bit first. -/
  | msbFirst
  deriving DecidableEq, Repr

instance : Inhabited BitOrder := ⟨.msbFirst⟩

/-- The eight bits of a byte in reverse. -/
def reverseBits (b : UInt8) : UInt8 := ⟨b.toBitVec.reverse⟩

/-- A byte as it goes over a bus that shifts the most significant bit first. -/
def BitOrder.arrange : BitOrder → UInt8 → UInt8
  | msbFirst, b => b
  | lsbFirst, b => reverseBits b

/-- Bit `i` of the reversal is bit `7 - i` of the byte. -/
theorem testBit_reverseBits (b : UInt8) {i : Nat} (hi : i < 8) :
    (reverseBits b).toNat.testBit i = b.toNat.testBit (7 - i) := by
  show (b.toBitVec.reverse).getLsbD i = b.toBitVec.getLsbD (7 - i)
  rw [BitVec.getLsbD_reverse, BitVec.getMsbD, decide_eq_true hi, Bool.true_and]

@[simp] theorem reverseBits_reverseBits (b : UInt8) : reverseBits (reverseBits b) = b := by
  simp [reverseBits]

@[simp] theorem BitOrder.arrange_arrange (o : BitOrder) (b : UInt8) :
    o.arrange (o.arrange b) = b := by
  cases o <;> simp [arrange]

/-- The configuration written to the hardware.  By default: divide by 128, one 8-bit word a frame,
word interrupt only, chip select 0 active low, no delay, mode 0. -/
structure Config where
  /-- The clock divider. -/
  clockDivider : UInt16 := (default : Divider).factor
  /-- The word length. -/
  wordLength : WordLength := .bits8
  /-- The number of words in a frame. -/
  frameLength : UInt16 := 1
  /-- An interrupt is raised at the end of a word. -/
  wordInterrupt : Bool := true
  /-- An interrupt is raised at the end of a frame. -/
  frameInterrupt : Bool := false
  /-- The chip select line in use. -/
  chipSelect : ChipSelect := .cs0
  /-- The delay of the data, in clock cycles. -/
  dataDelay : UInt8 := 0
  /-- The chip select line is asserted high. -/
  selectActiveHigh : Bool := false
  /-- The idle level of the clock. -/
  polarity : Polarity := .lowAtIdle
  /-- The clock edge on which data is shifted. -/
  phase : Phase := .fallEdge
  deriving DecidableEq, Repr, Inhabited

end BoardSupport.SerialBus
