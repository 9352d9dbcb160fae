/-!
# Settings of a countdown timer

A timer counts prescaled clock ticks down from a 32-bit period, which the hardware keeps in two
registers of 16 bits.
-/

namespace BoardSupport.CountdownTimer

/-- The prescalers: the field `n` divides by `2 ^ (n + 1)`. -/
inductive Prescale where
  /-- Divide by 2. -/
  | div2
  /-- Divide by 4. -/
  | div4
  /-- Divide by 8. -/
  | div8
  /-- Divide by 16. -/
  | div16
  /-- Divide by 32. -/
  | div32
  /-- Divide by 64. -/
  | div64
  /-- Divide by 128. -/
  | div128
  /-- Divide by 256. -/
  | div256
  /-- Divide by 512. -/
  | div512
  /-- Divide by 1024. -/
  | div1024
  /-- Divide by 2048. -/
  | div2048
  /-- Divide by 4096. -/
  | div4096
  /-- Divide by 8192. -/
  | div8192
  deriving DecidableEq, Repr

instance : Inhabited Prescale := ⟨.div2⟩

namespace Prescale

/-- The prescalers in the order of their fields. -/
def all : List Prescale :=
  [div2, div4, div8, div16, div32, div64, div128, div256, div512, div1024, div2048, div4096,
    div8192]

/-- The register field of a prescaler. -/
def field : Prescale → UInt16
  | div2 => 0
  | div4 => 1
  | div8 => 2
  | div16 => 3
  | div32 => 4
  | div64 => 5
  | div128 => 6
  | div256 => 7
  | div512 => 8
  | div1024 => 9
  | div2048 => 10
  | div4096 => 11
  | div8192 => 12

/-- The factor by which a prescaler divides the clock. -/
def divisor (p : Prescale) : UInt32 := 2 <<< p.field.toUInt32

end Prescale

/-- The settings of a timer. -/
structure Config where
  /-- The period is loaded again when the count reaches zero. -/
  autoReload : Bool := false
  /-- The prescaler. -/
  prescale : Prescale := .div2
  /-- The timer is enabled. -/
  enabled : Bool := false
  /-- The count loaded at the start. -/
  period : UInt32 := 0
  deriving DecidableEq, Repr, Inhabited

/-- A timer that runs freely with the smallest prescaler. -/
def Config.periodic (period : UInt32) : Config where
  autoReload := true
  prescale := .div2
  enabled := true
  period

/-- The settings as they are laid out in the registers. -/
structure RegisterImage where
  /-- The period is loaded again when the count reaches zero. -/
  autoReload : Bool
  /-- The prescaler's field. -/
  prescale : UInt16
  /-- The timer is enabled. -/
  enabled : Bool
  /-- The low half of the period. -/
  periodLow : UInt16
  /-- The high half of the period. -/
  periodHigh : UInt16
  deriving DecidableEq, Repr

/-- Lays settings out in the registers. -/
def Config.image (c : Config) : RegisterImage where
  autoReload := c.autoReload
  prescale := c.prescale.field
  enabled := c.enabled
  periodLow := c.period.toUInt16
  periodHigh := (c.period >>> 16).toUInt16

end BoardSupport.CountdownTimer
