import BoardSupport.Flash.Controller
import BoardSupport.PeriodTimer.Basic
import BoardSupport.PeripheralBus.Basic
import BoardSupport.SleepClock.Basic

/-!
# The drivers' hardware as bus accesses

Each handler turns the register accesses of one driver into accesses of the peripheral bus.  All of
them together are given out once (`Peripherals.handOut`), so no register has two owners.
-/

namespace BoardSupport.PeripheralBus

/-- The addresses of the registers. -/
inductive RegisterName where
  /-- Flash control register 1. -/
  | flashControl1
  /-- Flash control register 3. -/
  | flashControl3
  /-- Clock system control register 4. -/
  | clockControl4
  /-- Real time clock control register 0. -/
  | rtcControl0
  /-- Real time clock control register 1. -/
  | rtcControl1
  /-- The low byte of the real time clock's counter. -/
  | rtcCounter
  /-- Timer A1's control register. -/
  | timerControl
  /-- Timer A1's compare control register. -/
  | compareControl
  /-- Timer A1's compare register. -/
  | compare
  deriving DecidableEq, Repr

/-- The address of a register. -/
def RegisterName.address : RegisterName → UInt16
  | flashControl1 => 0x0140
  | flashControl3 => 0x0144
  | clockControl4 => 0x0168
  | rtcControl0 => 0x04A0
  | rtcControl1 => 0x04A1
  | rtcCounter => 0x04B0
  | timerControl => 0x0380
  | compareControl => 0x0382
  | compare => 0x0392

/-- The password that every write to a flash control register carries in its high byte. -/
def flashPassword : BitVec 16 := 0xA500

/-- Writes a value to a flash control register, with the password. -/
def setFlashControl (name : RegisterName) (value : BitVec 16) : Routine Unit :=
  call (.write16 name.address (flashPassword ||| value))

/-- The flash controller on the bus. -/
def flash : Handler Flash.interface Routine
  | .mask => call .mask
  | .unmask => call .unmask
  | .setControl1 value => setFlashControl .flashControl1 value
  | .setControl3 value => setFlashControl .flashControl3 value
  | .read address => call (.read8 address)
  | .write address byte => call (.write8 address byte)

/-- Writes bytes one after another to descending addresses, the last to `start`. -/
def writeDown (start : UInt16) : List UInt8 → Routine Unit
  | [] => pure ()
  | byte :: bytes => do
    writeDown (start + 1) bytes
    call (.write8 start byte)

/-- The real time clock, the clock selection and the low power mode on the bus.  The counter is
loaded byte by byte, the highest first. -/
def sleepClock : Handler SleepClock.interface Routine
  | .selectClocks value => call (.write16 RegisterName.clockControl4.address value)
  | .readControl0 => do
    let byte ← call (.read8 RegisterName.rtcControl0.address)
    pure byte.toBitVec
  | .setControl0 value => call (.write8 RegisterName.rtcControl0.address ⟨value⟩)
  | .setControl1 value => call (.write8 RegisterName.rtcControl1.address ⟨value⟩)
  | .loadCounter ticks =>
    writeDown RegisterName.rtcCounter.address (LittleEndian.bytes 4 ticks.toNat)
  | .enterLowPower => LowPower.enter3

/-- Timer A1 on the bus, beside the application's callbacks. -/
def periodTimer {κ : Type} (run : κ → Routine Unit) : Handler (PeriodTimer.interface κ) Routine
  | .setControl value => call (.write16 RegisterName.timerControl.address value)
  | .setCompareControl value => call (.write16 RegisterName.compareControl.address value)
  | .setCompare value => call (.write16 RegisterName.compare.address value.toBitVec)
  | .run callback => run callback

/-- The hardware of all drivers of the microcontroller. -/
structure Peripherals (κ : Type) where
  /-- The flash controller. -/
  flash : Handler Flash.interface Routine
  /-- The real time clock, the clock selection and the low power mode. -/
  sleepClock : Handler SleepClock.interface Routine
  /-- Timer A1. -/
  periodTimer : Handler (PeriodTimer.interface κ) Routine

/-- Gives the hardware out if it was not taken before; from then on it is. -/
def Peripherals.handOut {κ : Type} (run : κ → Routine Unit) :
    StateM Bool (Option (Peripherals κ)) := do
  let taken ← get
  set true
  if taken then
    pure none
  else
    pure (some ⟨PeripheralBus.flash, PeripheralBus.sleepClock, PeripheralBus.periodTimer run⟩)

end BoardSupport.PeripheralBus
