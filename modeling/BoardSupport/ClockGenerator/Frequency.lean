/-!
# The frequency a clock configuration gives

The clock generator divides its input clock, multiplies it, and divides it again; four registers
say by how much.  `Config.outputKilohertz` goes through these steps one by one in words of 64 bits,
dropping the fraction at every division.
-/

namespace BoardSupport.ClockGenerator

/-- The clock that feeds the generator. -/
inductive Input where
  /-- The external clock of 12 MHz. -/
  | external
  /-- The real time clock's oscillator of 32 768 Hz. -/
  | realTime
  deriving DecidableEq, Repr

instance : Inhabited Input := ⟨.external⟩

/-- The frequency of an input clock. -/
def Input.hertz : Input → UInt64
  | external => 12000000
  | realTime => 32768

/-- The values of the generator's four registers. -/
structure Config where
  /-- The multiplier, in the low 12 bits. -/
  control1 : UInt16 := 0
  /-- The input divider, in the low 12 bits, with its bypass in bit 15. -/
  inputControl : UInt16 := 0
  /-- The second control register. -/
  control2 : UInt16 := 0
  /-- The output divider, in the low 9 bits, with its enable in bit 9. -/
  outputControl : UInt16 := 0
  deriving DecidableEq, Repr, Inhabited

namespace Config

/-- The multiplier's field. -/
def multiplier (c : Config) : UInt64 := (c.control1 &&& 0x0FFF).toUInt64

/-- The input divider's field. -/
def inputDivider (c : Config) : UInt64 := (c.inputControl &&& 0x0FFF).toUInt64

/-- Whether the input divider is bypassed. -/
def bypassesInputDivider (c : Config) : Bool := c.inputControl &&& 0x8000 != 0

/-- The output divider's field. -/
def outputDivider (c : Config) : UInt64 := (c.outputControl &&& 0x01FF).toUInt64

/-- Whether the output divider is on. -/
def enablesOutputDivider (c : Config) : Bool := c.outputControl &&& 0x0200 != 0

/-- The frequency in hertz behind the input divider, rounded down. -/
def dividedHertz (c : Config) (input : Input) : UInt64 :=
  if c.bypassesInputDivider then input.hertz else input.hertz / (c.inputDivider + 4)

/-- The frequency in hertz behind the multiplier. -/
def multipliedHertz (c : Config) (input : Input) : UInt64 :=
  c.dividedHertz input * (c.multiplier + 4)

/-- The output frequency in hertz, rounded down after each division. -/
def outputHertz (c : Config) (input : Input) : UInt64 :=
  if c.enablesOutputDivider then c.multipliedHertz input / (c.outputDivider + 1)
  else c.multipliedHertz input

/-- The output frequency in kilohertz. -/
def outputKilohertz (c : Config) (input : Input) : UInt32 :=
  (c.outputHertz input / 1000).toUInt32

/-- 40 MHz from the real time clock. -/
def realTime40 : Config := ⟨0x8988, 0x8000, 0x0806, 0x0201⟩

/-- 60 MHz from the real time clock. -/
def realTime60 : Config := ⟨0x8724, 0x8000, 0x0806, 0x0000⟩

/-- 75 MHz from the real time clock. -/
def realTime75 : Config := ⟨0x88ED, 0x8000, 0x0806, 0x0000⟩

/-- 100 MHz from the real time clock. -/
def realTime100 : Config := ⟨0x8BE8, 0x8000, 0x0806, 0x0000⟩

/-- 100 MHz from the external clock. -/
def external100 : Config := ⟨0x833E, 0x0060, 0x0806, 0x0000⟩

end Config

/-- The processor speeds that settings are stored for. -/
inductive Speed where
  /-- 40 MHz. -/
  | mhz40
  /-- 60 MHz. -/
  | mhz60
  /-- 75 MHz. -/
  | mhz75
  /-- 100 MHz. -/
  | mhz100
  deriving DecidableEq, Repr

instance : Inhabited Speed := ⟨.mhz100⟩

/-- The stored setting of a speed.  The external clock has one setting, which serves all speeds. -/
def Speed.preset : Speed → Input → Config
  | _, .external => .external100
  | mhz40, .realTime => .realTime40
  | mhz60, .realTime => .realTime60
  | mhz75, .realTime => .realTime75
  | mhz100, .realTime => .realTime100

end BoardSupport.ClockGenerator
