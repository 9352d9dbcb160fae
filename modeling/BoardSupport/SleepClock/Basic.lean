import BoardSupport.Program.Handler
import BoardSupport.Registers.Control

/-!
# Sleeping by the real time clock

The real time clock runs as a 32-bit counter that overflows after the time asked for, and the core
waits for the overflow's interrupt in a low power mode.  The counter is driven by the auxiliary
clock, which comes from the crystal or from the low power oscillator.

- `sleep`: choose the clock, load the counter, enable the interrupt, start counting, wait.
- `onInterrupt`: what the interrupt's handler has to do.
- `waking`: hardware on which the wait is ended by that handler.
-/

namespace BoardSupport.SleepClock

/-- The source of the auxiliary clock. -/
inductive Source where
  /-- The crystal of 32 768 Hz. -/
  | crystal
  /-- The internal oscillator of about 10 kHz. -/
  | lowPower
  deriving DecidableEq, Repr

instance : Inhabited Source := ⟨.crystal⟩

namespace Source

/-- The nominal number of ticks in a second. -/
def ticksPerSecond : Source → UInt32
  | crystal => 32768
  | lowPower => 10000

/-- The clock selection: main and subsystem clock from the divided oscillator, and the auxiliary
clock from the source. -/
def selection : Source → BitVec 16
  | crystal => ClockControl4.subsystemFromDivided ||| ClockControl4.mainFromDivided
  | lowPower =>
    ClockControl4.subsystemFromDivided ||| ClockControl4.mainFromDivided |||
      ClockControl4.auxiliaryFromLowPower

end Source

/-- What is asked of the hardware. -/
inductive Call where
  /-- Select the sources of the clocks. -/
  | selectClocks (value : BitVec 16)
  /-- Read control register 0. -/
  | readControl0
  /-- Write control register 0. -/
  | setControl0 (value : BitVec 8)
  /-- Write control register 1. -/
  | setControl1 (value : BitVec 8)
  /-- Load the counter. -/
  | loadCounter (ticks : UInt32)
  /-- Wait in the low power mode until an interrupt's handler ends it. -/
  | enterLowPower
  deriving DecidableEq, Repr

/-- Reading control register 0 yields its value. -/
abbrev Call.Reply : Call → Type
  | readControl0 => BitVec 8
  | _ => Unit

/-- The real time clock, the clock selection and the low power mode. -/
abbrev interface : Interface := ⟨Call, Call.Reply⟩

/-- Computations that use the real time clock. -/
abbrev Routine : Type → Type := Program interface

/-- Makes a call of the hardware. -/
abbrev call (c : Call) : Routine c.Reply := .send (I := interface) c

/-- The count from which the counter overflows after the time asked for. -/
def startCount (seconds : UInt16) (source : Source) : UInt32 :=
  0xFFFFFFFF - source.ticksPerSecond * seconds.toUInt32

/-- Sleeps for so many seconds; with none there is nothing to do. -/
def sleep (seconds : UInt16) (source : Source) : Routine Unit :=
  if seconds = 0 then
    pure ()
  else do
    call (.selectClocks source.selection)
    call (.loadCounter (startCount seconds source))
    let control0 ← call .readControl0
    call (.setControl0 (control0 ||| RtcControl0.eventEnable))
    call (.setControl1 RtcControl1.event32Bit)
    call .enterLowPower

/-- Serves the overflow's interrupt: acknowledges it, holds the counter and sets it to zero. -/
def onInterrupt : Routine Unit := do
  let control0 ← call .readControl0
  call (.setControl0 (control0 &&& ~~~RtcControl0.eventFlag))
  call (.setControl1 RtcControl1.hold)
  call (.loadCounter 0)

/-- Hardware like `h` on which a wait is ended by the overflow: `overflow` happens, and then the
interrupt's handler runs. -/
def waking {m : Type → Type} [Monad m] (h : Handler interface m) (overflow : m Unit) :
    Handler interface m
  | .enterLowPower => do
    h .enterLowPower
    overflow
    onInterrupt.interpret h
  | c => h c

/-- What an application can ask of the sleep clock. -/
inductive Command where
  /-- Sleep for so many seconds. -/
  | sleep (seconds : UInt16) (source : Source)
  /-- Serve the overflow's interrupt. -/
  | onInterrupt
  deriving DecidableEq, Repr

/-- The sleep clock's operations; none has an answer. -/
abbrev commands : Interface := ⟨Command, fun _ => Unit⟩

/-- Performs a command. -/
def perform : Handler commands Routine
  | .sleep seconds source => SleepClock.sleep seconds source
  | .onInterrupt => SleepClock.onInterrupt

/-! ## Registers that remember -/

/-- Registers that remember what was last written to them. -/
structure RegisterFile where
  /-- The clock selection, if it was ever made. -/
  clocks : Option (BitVec 16) := none
  /-- Control register 0, if it was ever written. -/
  control0 : Option (BitVec 8) := none
  /-- Control register 1, if it was ever written. -/
  control1 : Option (BitVec 8) := none
  /-- The counter, if it was ever loaded. -/
  counter : Option UInt32 := none
  /-- The number of writes. -/
  writes : Nat := 0
  /-- The number of times the low power mode was entered. -/
  sleeps : Nat := 0
  deriving DecidableEq, Repr, Inhabited

namespace RegisterFile

/-- Control register 0 as it is read: zero if it was never written. -/
def readControl0 (s : RegisterFile) : BitVec 8 := s.control0.getD 0

/-- The registers as hardware.  A wait ends at once. -/
def handler : Handler interface (StateM RegisterFile)
  | .selectClocks value => modify fun s => { s with clocks := some value, writes := s.writes + 1 }
  | .readControl0 => readControl0 <$> get
  | .setControl0 value => modify fun s => { s with control0 := some value, writes := s.writes + 1 }
  | .setControl1 value => modify fun s => { s with control1 := some value, writes := s.writes + 1 }
  | .loadCounter ticks => modify fun s => { s with counter := some ticks, writes := s.writes + 1 }
  | .enterLowPower => modify fun s => { s with sleeps := s.sleeps + 1 }

/-- The counter overflows: its event flag is raised by the hardware itself. -/
def overflow : StateM RegisterFile Unit :=
  modify fun s => { s with control0 := some (s.readControl0 ||| RtcControl0.eventFlag) }

end RegisterFile

end BoardSupport.SleepClock
